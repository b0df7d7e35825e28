import HeaderBind.Code
import Mathlib.Tactic.Lemma

/-!
# Jumps and labels

A function that jumps to its clean-up has to define the label of the clean-up. That a text has no jump, or
no label, is seen piece by piece. A text is read character by character through a few states, of which
one is reached when there may be a jump (`Approach`) or a label (`margin`). A piece that never leads there
from the other states does no harm wherever it stands, and pieces that do no harm can be joined.
-/

namespace HeaderBind

/-- A text without blanks, line ends and colons. -/
def IsName (s : String) : Prop :=
  ' ' ∉ s.toList ∧ '\n' ∉ s.toList ∧ ':' ∉ s.toList

namespace Code

/-- The text jumps to the clean-up. -/
def Jumps (t : String) : Prop :=
  ("goto " ++ errorLabel).toList <:+: t.toList

/-- The text defines the label of the clean-up, at the start of a line. -/
def Defines (t : String) : Prop :=
  ("\n" ++ errorLabel ++ ":").toList <:+: t.toList

/-- A text that jumps to the clean-up defines its label. -/
def Labelled (t : String) : Prop :=
  Jumps t → Defines t

variable {t u : String} {code code' : Code}

lemma infix_append_left (t u : String) : t.toList <:+: (t ++ u).toList :=
  ⟨[], u.toList, by simp⟩

lemma infix_append_right (t u : String) : u.toList <:+: (t ++ u).toList :=
  ⟨t.toList, [], by simp⟩

lemma Jumps.left (h : Jumps t) : Jumps (t ++ u) :=
  h.trans (infix_append_left t u)

lemma Jumps.right (h : Jumps u) : Jumps (t ++ u) :=
  h.trans (infix_append_right t u)

lemma Defines.left (h : Defines t) : Defines (t ++ u) :=
  h.trans (infix_append_left t u)

lemma Defines.right (h : Defines u) : Defines (t ++ u) :=
  h.trans (infix_append_right t u)

/-- The text ends where a line does. -/
def Ended (t : String) : Prop :=
  ∃ u, t = u ++ "\n"

lemma Ended.right (h : Ended u) : Ended (t ++ u) := by
  obtain ⟨v, rfl⟩ := h
  exact ⟨t ++ v, String.append_assoc.symm⟩

lemma render_cons (line : String) (code : Code) : render (line :: code) = line ++ "\n" ++ render code := by
  rw [render, List.map_cons, String.join_cons, ← render]

lemma render_append (code code' : Code) : render (code ++ code') = render code ++ render code' := by
  rw [render, List.map_append, String.join_append, ← render, ← render]

lemma ended_render (line : String) (code : Code) : Ended (render (line :: code)) := by
  induction code generalizing line with
  | nil => exact ⟨line, by simp [render]⟩
  | cons line' code ih =>
    rw [render_cons]
    exact (ih line').right

lemma Ended.defines (h : Ended t) (hu : (errorLabel ++ ":").toList <+: u.toList) : Defines (t ++ u) := by
  obtain ⟨v, rfl⟩ := h
  obtain ⟨cs, hcs⟩ := hu
  refine ⟨v.toList, cs, ?_⟩
  simp [← hcs]

/-- Lines with the label after a first one define it. -/
lemma defines_render (line : String) (code rest : Code) :
    Defines (render (line :: code ++ (errorLabel ++ ":") :: rest)) := by
  have hsplit : render (line :: code ++ (errorLabel ++ ":") :: rest) =
      render (line :: code) ++ (errorLabel ++ ":" ++ ("\n" ++ render rest)) := by
    rw [render, List.map_append, String.join_append, ← render, ← render, render_cons (errorLabel ++ ":")]
    simp only [String.append_assoc]
  rw [hsplit]
  exact (ended_render line code).defines ⟨_, String.toList_append.symm⟩

/-- Some line jumps to the clean-up. -/
def JumpsCode (code : Code) : Prop :=
  ∃ line ∈ code, Jumps line

namespace JumpsCode

lemma left (h : JumpsCode code) : JumpsCode (code ++ code') := by
  obtain ⟨line, hmem, hline⟩ := h
  exact ⟨line, List.mem_append_left _ hmem, hline⟩

lemma right (h : JumpsCode code') : JumpsCode (code ++ code') := by
  obtain ⟨line, hmem, hline⟩ := h
  exact ⟨line, List.mem_append_right _ hmem, hline⟩

lemma cons {line : String} (h : JumpsCode code) : JumpsCode (line :: code) := by
  obtain ⟨line', hmem, hline⟩ := h
  exact ⟨line', List.mem_cons_of_mem _ hmem, hline⟩

lemma shift {n : Nat} (h : JumpsCode code) : JumpsCode (code.shift n) := by
  obtain ⟨line, hmem, hline⟩ := h
  refine ⟨shiftLine n line, List.mem_map_of_mem hmem, ?_⟩
  unfold shiftLine
  split
  · exact hline
  · exact hline.right

lemma block {head : String} (h : JumpsCode code) : JumpsCode (block head code) :=
  left (cons h.shift)

lemma scope (h : JumpsCode code) : JumpsCode (scope code) :=
  left (cons h.shift)

lemma render (h : JumpsCode code) : Jumps code.render := by
  obtain ⟨line, hmem, hline⟩ := h
  induction code with
  | nil => cases hmem
  | cons line' code ih =>
    rw [render_cons]
    rcases List.mem_cons.mp hmem with rfl | hmem
    · exact hline.left.left
    · exact (ih hmem).right

end JumpsCode

lemma jumps_jump : Jumps jump :=
  infix_append_left _ _

/-! ### Reading through states -/

section Leads

variable {σ : Type} {step : σ → Char → σ} {A B C : List σ}

/-- From each of some states the text leads to one of some states. -/
def Leads (step : σ → Char → σ) (A B : List σ) (t : String) : Prop :=
  ∀ s ∈ A, t.toList.foldl step s ∈ B

lemma Leads.append (ht : Leads step A B t) (hu : Leads step B C u) : Leads step A C (t ++ u) := by
  intro s hs
  rw [String.toList_append, List.foldl_append]
  exact hu _ (ht s hs)

lemma Leads.mono (h : Leads step A B t) {A' B' : List σ} (hA : A' ⊆ A) (hB : B ⊆ B') :
    Leads step A' B' t :=
  fun s hs => hB (h s (hA hs))

/-- A text that leads to a last state contains nothing that leads out of the states for good. -/
lemma not_infix_of_leads {cs : List Char} {s : σ} (bad : σ) (h : Leads step A B t) (hs : s ∈ A)
    (hbad : bad ∉ B) (hstays : ∀ c, step bad c = bad) (hcs : ∀ s, cs.foldl step s = bad) :
    ¬ cs <:+: t.toList := by
  rintro ⟨a, b, hab⟩
  have hlast : ∀ b : List Char, b.foldl step bad = bad := by
    intro b
    induction b with
    | nil => rfl
    | cons c b ih => rw [List.foldl_cons, hstays, ih]
  have hend := h s hs
  rw [← hab, List.foldl_append, List.foldl_append, hcs, hlast] at hend
  exact hbad hend

end Leads

/-! ### Texts from pieces -/

section Pieced

/-- Texts that are joined from texts as stated and from harmless texts that are spelled out. -/
inductive Pieced (harmless : List Char → Bool) (P : String → Prop) : String → Prop
  | append {t u : String} (ht : Pieced harmless P t) (hu : Pieced harmless P u) :
    Pieced harmless P (t ++ u)
  | spelled {cs : List Char} (h : harmless cs = true) : Pieced harmless P (String.ofList cs)
  | shown {t : String} (h : Pieced harmless P t) : Pieced harmless P (toString t)
  | part {t : String} (h : P t) : Pieced harmless P t

/-- Lines of code with such texts. -/
inductive PiecedCode (harmless : List Char → Bool) (P : String → Prop) : Code → Prop
  | nil : PiecedCode harmless P []
  | cons {line : String} {code : Code} (hl : Pieced harmless P line) (h : PiecedCode harmless P code) :
    PiecedCode harmless P (line :: code)
  | append {code code' : Code} (h : PiecedCode harmless P code) (h' : PiecedCode harmless P code') :
    PiecedCode harmless P (code ++ code')
  | shift {code : Code} {n : Nat} (h : PiecedCode harmless P code) :
    PiecedCode harmless P (code.shift (n + 2))
  | indent {code : Code} (h : PiecedCode harmless P code) : PiecedCode harmless P code.indent
  | block {head : String} {code : Code} (hh : Pieced harmless P head)
    (h : PiecedCode harmless P code) : PiecedCode harmless P (block head code)
  | scope {code : Code} (h : PiecedCode harmless P code) : PiecedCode harmless P (scope code)

/-- What holds of harmless texts and can be joined. -/
structure Joins (harmless : List Char → Bool) (P : String → Prop) : Prop where
  append : ∀ t u, P t → P u → P (t ++ u)
  spelled : ∀ cs, harmless cs = true → P (String.ofList cs)
  blanks : ∀ n, P (String.ofList (List.replicate (n + 2) ' '))
  common : ∀ cs ∈ [[], ['\n'], [' ', '\x7b'], ['\x7b'], ['\x7d']], harmless cs = true

variable {harmless : List Char → Bool} {P : String → Prop}

lemma Pieced.holds (hP : Joins harmless P) (h : Pieced harmless P t) : P t := by
  induction h with
  | append _ _ iht ihu => exact hP.append _ _ iht ihu
  | spelled h => exact hP.spelled _ h
  | shown _ ih => exact ih
  | part h => exact h

namespace PiecedCode

lemma lines (hP : Joins harmless P) (h : PiecedCode harmless P code) : ∀ line ∈ code, P line := by
  have hcommon : ∀ cs ∈ [[], ['\n'], [' ', '\x7b'], ['\x7b'], ['\x7d']], P (String.ofList cs) :=
    fun cs hcs => hP.spelled cs (hP.common cs hcs)
  have hshift : ∀ {code : Code} (n : Nat), (∀ line ∈ code, P line) →
      ∀ line ∈ code.shift (n + 2), P line := by
    intro code n h line hline
    obtain ⟨line, hmem, rfl⟩ := List.mem_map.mp hline
    unfold shiftLine
    split
    · exact h line hmem
    · exact hP.append _ _ (hP.blanks n) (h line hmem)
  have hclose : ∀ line ∈ ["\x7d"], P line := fun line hline =>
    List.mem_singleton.mp hline ▸ hcommon ['\x7d'] (by decide)
  induction h with
  | nil => exact fun line hline => absurd hline List.not_mem_nil
  | cons hl _ ih => exact List.forall_mem_cons.mpr ⟨hl.holds hP, ih⟩
  | append _ _ ih ih' => exact List.forall_mem_append.mpr ⟨ih, ih'⟩
  | shift _ ih => exact hshift _ ih
  | indent _ ih => exact hshift 2 ih
  | block hh _ ih =>
    have hhead := hP.append _ _ (hh.holds hP) (hcommon [' ', '\x7b'] (by decide))
    exact List.forall_mem_append.mpr ⟨List.forall_mem_cons.mpr ⟨hhead, hshift 2 ih⟩, hclose⟩
  | scope _ ih =>
    have hopen := hcommon ['\x7b'] (by decide)
    exact List.forall_mem_append.mpr ⟨List.forall_mem_cons.mpr ⟨hopen, hshift 2 ih⟩, hclose⟩

lemma render (hP : Joins harmless P) (h : PiecedCode harmless P code) : P code.render := by
  have hline := hP.spelled ['\n'] (hP.common _ (by decide))
  have hempty := hP.spelled [] (hP.common _ (by decide))
  have hlines := h.lines hP
  clear h
  induction code with
  | nil => exact hempty
  | cons line code ih =>
    rw [List.forall_mem_cons] at hlines
    rw [render_cons]
    exact hP.append _ _ (hP.append _ _ hlines.1 hline) (ih hlines.2)

end PiecedCode

end Pieced

/-! ### Texts without a jump -/

/-- How near a text is to a jump, of which the reader only looks for the blank between two letters. -/
inductive Approach where
  | none | letter | blank | jump
deriving DecidableEq

/-- Go on with a character. -/
def Approach.step : Approach → Char → Approach
  | jump, _ => jump
  | s, 'o' => if s = blank then jump else letter
  | s, ' ' => if s = letter then blank else none
  | _, _ => none

/-- The text holds no jump, and no jump arises where it is joined with such texts. -/
def Calm (t : String) : Prop :=
  Leads Approach.step [.none, .letter] [.none, .letter] t

/-- Whether characters make a calm text. -/
def calmChars (cs : List Char) : Bool :=
  [Approach.none, .letter].all fun s => [Approach.none, .letter].contains (cs.foldl Approach.step s)

lemma calm_of_no_blank (h : ' ' ∉ t.toList) : Calm t := by
  have hstep : ∀ s ∈ [Approach.none, .letter], ∀ c, c ≠ ' ' →
      s.step c ∈ [Approach.none, .letter] := by
    intro s hs c hc
    simp only [List.mem_cons, List.not_mem_nil, or_false] at hs
    rcases hs with rfl | rfl <;> unfold Approach.step <;> split <;> simp_all
  have hread : ∀ cs : List Char, ' ' ∉ cs → ∀ s ∈ [Approach.none, .letter],
      cs.foldl Approach.step s ∈ [Approach.none, .letter] := by
    intro cs hcs
    induction cs with
    | nil => exact fun s hs => hs
    | cons c cs ih =>
      rw [List.mem_cons, not_or] at hcs
      intro s hs
      exact ih hcs.2 _ (hstep s hs c (Ne.symm hcs.1))
  exact hread t.toList h

/-- At least two blanks part what stands before them from what follows. -/
lemma calm_blanks (n : Nat) : Calm (String.ofList (List.replicate (n + 2) ' ')) := by
  have hnone : ∀ n, (List.replicate n ' ').foldl Approach.step .none = .none := by
    intro n
    induction n with
    | zero => rfl
    | succ n ih => exact ih
  intro s hs
  rw [String.toList_ofList, List.replicate_succ, List.replicate_succ, List.foldl_cons, List.foldl_cons]
  have htwo : ∀ s ∈ [Approach.none, .letter], (s.step ' ').step ' ' = .none := by decide
  rw [htwo s hs, hnone]
  decide

lemma joins_calm : Joins calmChars Calm where
  append _ _ := Leads.append
  spelled cs h := by
    intro s hs
    rw [String.toList_ofList]
    exact List.contains_iff_mem.mp (List.all_eq_true.mp h s hs)
  blanks := calm_blanks
  common := by decide

/-- The text is calm and ends with another letter than the one before the blank of a jump. -/
def Firm (t : String) : Prop :=
  Leads Approach.step [.none, .letter] [.none] t

lemma firm_ofList {cs : List Char} (h : ∀ s ∈ [Approach.none, .letter], cs.foldl Approach.step s ∈ [Approach.none]) :
    Firm (String.ofList cs) := by
  intro s hs
  rw [String.toList_ofList]
  exact h s hs

lemma Firm.calm (h : Firm t) : Calm t :=
  Leads.mono h (List.Subset.refl _) (by decide)

lemma Firm.after (h : Firm u) (ht : Calm t) : Firm (t ++ u) :=
  Leads.append ht h

/-- After such a text a single blank is calm. -/
lemma Firm.blank (h : Firm t) : Calm (t ++ " ") := by
  have hblank : Leads Approach.step [.none] [.none, .letter] (String.ofList [' ']) := by
    intro s hs
    rw [String.toList_ofList]
    revert s
    decide
  exact Leads.append h hblank

lemma calm_empty : Calm "" :=
  joins_calm.spelled [] rfl

lemma Calm.not_jumps (h : Calm t) : ¬ Jumps t := by
  refine not_infix_of_leads .jump h List.mem_cons_self (by decide) (fun _ => rfl) ?_
  intro s
  cases s <;> decide

lemma Calm.labelled (h : Calm t) : Labelled t :=
  fun hj => absurd hj h.not_jumps

/-! ### Texts without a label -/

/-- The label as it is defined. -/
def labelChars : List Char :=
  ['o', 'n', '_', 'e', 'r', 'r', 'o', 'r', ':']

/-- Go on with a character, from the number of characters of a label that were read since the start of the
line. The tenth state is the one within a line that starts with something else. -/
def margin (n : Nat) (c : Char) : Nat :=
  if n = 9 then 9
  else if labelChars[n]? = some c then n + 1
  else if c = '\n' then 0
  else 10

/-- The states where no label was read. -/
def clear : List Nat := [0, 1, 2, 3, 4, 5, 6, 7, 8, 10]

/-- The text defines no label, and none arises where it is joined with such texts. -/
def Clear (t : String) : Prop :=
  Leads margin clear clear t

lemma clear_of_no_colon (h : ':' ∉ t.toList) : Clear t := by
  have hstep : ∀ c, c ≠ ':' → ∀ n ∈ clear, margin n c ∈ clear := by
    intro c hc n hn
    have hnext : ∀ n ∈ clear, labelChars[n]? ≠ none → labelChars[n]? ≠ some ':' → n + 1 ∈ clear := by
      decide
    unfold margin
    split
    · next h => exact h ▸ hn
    · split
      · next h => exact hnext n hn (by simp [h]) (by simp [h, hc])
      · split <;> decide
  have hread : ∀ cs : List Char, ':' ∉ cs → ∀ n ∈ clear, cs.foldl margin n ∈ clear := by
    intro cs hcs
    induction cs with
    | nil => exact fun n hn => hn
    | cons c cs ih =>
      rw [List.mem_cons, not_or] at hcs
      intro n hn
      exact ih hcs.2 _ (hstep c (Ne.symm hcs.1) n hn)
  exact hread t.toList h

/-- The text starts its line with something else than a label, and stays in this line. -/
def Opens (t : String) : Prop :=
  Leads margin clear [10] t

lemma opens_ofList {cs : List Char} (h : ∀ n ∈ clear, cs.foldl margin n ∈ [10]) :
    Opens (String.ofList cs) := by
  intro n hn
  rw [String.toList_ofList]
  exact h n hn

lemma Opens.append (ht : Opens t) (hu : '\n' ∉ u.toList) : Opens (t ++ u) := by
  have hread : ∀ cs : List Char, '\n' ∉ cs → cs.foldl margin 10 = 10 := by
    intro cs hcs
    induction cs with
    | nil => rfl
    | cons c cs ih =>
      rw [List.mem_cons, not_or] at hcs
      have hstep : margin 10 c = 10 := by
        simp [margin, labelChars, Ne.symm hcs.1]
      rw [List.foldl_cons, hstep, ih hcs.2]
  refine Leads.append ht ?_
  intro n hn
  rw [List.mem_singleton.mp hn, hread u.toList hu]
  exact List.mem_singleton_self 10

lemma Opens.clear (h : Opens t) : Clear t :=
  Leads.mono h (List.Subset.refl _) (by decide)

lemma Clear.not_defines (h : Clear t) : ¬ Defines t := by
  refine not_infix_of_leads 9 h List.mem_cons_self (by decide) (fun _ => rfl) ?_
  intro n
  have hline : ∃ m ∈ [0, 9], margin n '\n' = m := by
    unfold margin
    split
    · exact ⟨9, by decide, rfl⟩
    · split
      · next h => exact absurd (List.mem_of_getElem? h) (by decide)
      · exact ⟨0, by decide, rfl⟩
  obtain ⟨m, hm, hmargin⟩ := hline
  have hchars : ("\n" ++ errorLabel ++ ":").toList = '\n' :: labelChars := by
    simp [errorLabel, labelChars]
  have hread : ∀ m ∈ [0, 9], labelChars.foldl margin m = 9 := by decide
  rw [hchars, List.foldl_cons, hmargin, hread m hm]

lemma joins_clear : Joins (fun cs => !cs.contains ':') Clear where
  append _ _ := Leads.append
  spelled cs h := clear_of_no_colon (by simpa using h)
  blanks n := clear_of_no_colon (by simp)
  common := by decide

end Code

end HeaderBind
