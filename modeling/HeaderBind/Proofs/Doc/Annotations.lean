import HeaderBind.Doc
import HeaderBind.Proofs.Pattern.Searching
import HeaderBind.Proofs.Text.Blank
import Mathlib.Data.List.TakeWhile

/-!
# Annotations in comments

What a text says about a method at its start, apart from patterns: a default value (`OpensDefault`) or an exception
(`OpensRaise`), both up to the last semicolon of the line. The annotations on a line are what it says first, of each
kind one at most (`default_mem_lineAnnotations`, `raises_mem_lineAnnotations`).
-/

namespace HeaderBind.Doc

open Pattern

variable {t cs value rest blanks exception : List Char} {k e : Cursor} {onward : Onward} {n : Nat}

/-! ### Up to the last semicolon -/

/-- Some text, up to the last semicolon of its line. -/
structure UpToLast (value rest : List Char) : Prop where
  ne_nil : value ≠ []
  in_line : '\n' ∉ value
  last : ';' ∉ rest.takeWhile (· != '\n')

lemma head?_dropWhile_line {c : Char} (h : c ∈ (rest.dropWhile (· != '\n')).head?) : c = '\n' := by
  have hhead := List.head?_dropWhile_not (· != '\n') rest
  rw [h] at hhead
  simpa using hhead

/-- Behind the last semicolon, a repetition that went on to the end of the line has to give all back. -/
lemma run_upToLast (h : UpToLast value rest) (hk : k.rest = value ++ ';' :: rest)
    (he : onward ((k.close n (k.past value (';' :: rest))).past [';'] rest) = some e) :
    (inOrder [group n (plus (noneOf ['\n'])), char ';']).run k onward = some e := by
  obtain ⟨line, others, hrest, hline, hlast, hothers⟩ : ∃ line others, rest = line ++ others ∧ '\n' ∉ line ∧
      ';' ∉ line ∧ ∀ c ∈ others.head?, c = '\n' := by
    refine ⟨_, _, List.takeWhile_append_dropWhile.symm, ?_, h.last, fun c hc => head?_dropWhile_line hc⟩
    intro hmem
    simpa using List.mem_takeWhile_imp hmem
  have hsplit : k.rest = value ++ (';' :: line ++ others) := by rw [hk, hrest, List.cons_append]
  rw [run_inOrder_cons, run_group]
  refine run_plus_back hsplit h.ne_nil (forall_holds_noneOf ?_) (stops_noneOf hothers) ?_ ?_
  · simp [h.in_line, hline]
  · intro v₁ v₂ hv hne
    obtain ⟨c, v₁, rfl⟩ := List.exists_cons_of_ne_nil hne
    obtain ⟨-, rfl⟩ := List.cons.inj hv
    refine run_eq_none (by decide) fun d hd => ?_
    have hd : d ≠ ';' := by
      rintro rfl
      cases v₂ with
      | nil => exact absurd (hothers _ hd) (by decide)
      | cons d' v₂ =>
        obtain rfl : d' = ';' := Option.some.inj hd
        exact hlast (List.mem_append_right _ List.mem_cons_self)
    rw [← Bool.not_eq_true]
    exact fun hstart => hd (holds_single.mp hstart)
  · rw [List.cons_append, ← hrest]
    exact run_char rfl he

/-- Where a semicolon stands behind some text, there is a last one. -/
lemma exists_upToLast (r : List Char) (ht : t ≠ []) (hline : '\n' ∉ t) :
    ∃ value rest, t ++ ';' :: r = value ++ ';' :: rest ∧ UpToLast value rest := by
  -- The induction is on the length of what follows: each semicolon further on leaves less of it.
  induction hr : r.length using Nat.strong_induction_on generalizing t r with
  | h n ih =>
    by_cases hlast : ';' ∈ r.takeWhile (· != '\n')
    · obtain ⟨u, v, huv, -⟩ := List.eq_append_cons_of_mem hlast
      have hsplit : r = u ++ ';' :: (v ++ r.dropWhile (· != '\n')) := by
        rw [← List.cons_append, ← List.append_assoc, ← huv, List.takeWhile_append_dropWhile]
      have hu : '\n' ∉ u := by
        intro hmem
        have hmem' : '\n' ∈ r.takeWhile (· != '\n') := huv ▸ List.mem_append_left _ hmem
        simpa using List.mem_takeWhile_imp hmem'
      generalize v ++ r.dropWhile (· != '\n') = r' at hsplit
      subst hsplit
      obtain ⟨value, rest, heq, hvalue⟩ := ih r'.length (by simp at hr; omega) r' (t := t ++ ';' :: u)
        (by simp) (by simp [hline, hu]) rfl
      exact ⟨value, rest, by simpa using heq, hvalue⟩
    · exact ⟨t, r, rfl, ht, hline, hlast⟩

/-! ### Default values -/

/-- A text starts with a default value: the name of an argument in brackets, and the value. -/
def OpensDefault (cs : List Char) (d : String × String) : Prop :=
  ∃ rest, d.1.toList ≠ [] ∧ (∀ c ∈ d.1.toList, c.isAlphanum ∨ c = '_') ∧ UpToLast d.2.toList rest ∧
    cs = "DEFAULT(".toList ++ (d.1.toList ++ (") =".toList ++ (d.2.toList ++ ';' :: rest)))

lemma holds_wordSet {c : Char} : wordSet.holds c ↔ c.isAlphanum ∨ c = '_' := by
  rw [Text.isAlphanum_iff]
  simp only [wordSet, CharSet.holds, CharSet.Item.holds, List.any_cons, List.any_nil, Bool.or_false, bne_iff_ne,
    ne_eq, Bool.not_eq_false, Bool.or_eq_true, Bool.and_eq_true, decide_eq_true_eq, ← Char.toNat_inj,
    Char.reduceToNat]
  omega

lemma reads_defaultPattern : Reads defaultPattern (fun m => (m.group 1, m.group 2)) OpensDefault where
  matched := by
    rintro k ⟨name, value⟩ ⟨rest, hname, hword, hvalue, hk⟩
    have hreaches : Reaches (defaultPattern.run { k with groups := [] } some) fun e =>
        e.groups.map (fun g => (g.1, g.2.chars)) = [(2, value.toList), (1, name.toList)] := by
      rw [defaultPattern, run_inOrder_cons]
      refine .of (fun _ => run_spelled hk) ?_
      rw [run_inOrder_cons, run_group]
      refine .of (fun _ => run_plus rfl hname (fun c hc => holds_wordSet.mpr (hword c hc)) (stops_cons (by decide))) ?_
      rw [run_inOrder_cons]
      refine .of (fun _ => run_spelled (t := ") =".toList) rfl) ?_
      refine .of (fun _ => run_upToLast hvalue rfl) ?_
      exact ⟨_, rfl, by simp [Cursor.past, Cursor.close, Span.chars]⟩
    obtain ⟨m, hm, hgroup⟩ := exists_matchFrom hreaches
    exact ⟨m, hm, by simp [hgroup, List.lookup_cons]⟩
  found := by
    intro k m hm
    obtain ⟨t, rest, hk, -, -, ha⟩ := accepts_of_matchFrom hm
    obtain ⟨t₁, t₂, rfl, h₁, ha⟩ := ha.exists_cons
    obtain ⟨name, t₃, rfl, hname, ha⟩ := ha.exists_cons
    obtain ⟨t₄, t₅, rfl, h₄, ha⟩ := ha.exists_cons
    obtain ⟨value, t₆, rfl, hvalue, h₆⟩ := ha.exists_cons
    obtain rfl := eq_of_accepts_spelled h₁
    obtain rfl := eq_of_accepts_spelled h₄
    obtain rfl := eq_of_accepts_char h₆
    cases hname with | group hname =>
    cases hvalue with | group hvalue =>
    obtain ⟨hne, hword⟩ := holds_of_accepts_plus hname
    obtain ⟨hvalue, hline⟩ := accepts_noneOf hvalue
    obtain ⟨value', rest', heq, hlast⟩ := exists_upToLast rest hvalue hline
    refine ⟨(String.ofList name, String.ofList value'), rest', ?_, ?_, ?_, ?_⟩
    · simpa using hne
    · simpa using fun c hc => holds_wordSet.mp (hword c hc)
    · simpa using hlast
    · simp only [String.toList_ofList, ← heq]
      simpa using hk

/-! ### Exceptions -/

/-- The name of an exception: without blanks before it, unless it is one blank. -/
structure IsTrimmed (exception : List Char) : Prop where
  ne_nil : exception ≠ []
  blank : ∀ c ∈ exception.head?, Text.isBlank c → exception = [c]

/-- A text starts with an exception: a condition and the exception in brackets, and the message. -/
def OpensRaise (cs : List Char) (r : Raise) : Prop :=
  ∃ blanks rest, r.check.toList ≠ [] ∧ ',' ∉ r.check.toList ∧ (∀ c ∈ blanks, Text.isBlank c) ∧
    IsTrimmed r.exception.toList ∧ ')' ∉ r.exception.toList ∧ UpToLast r.message.toList rest ∧
    cs = "RAISES(".toList ++ (r.check.toList ++ ',' :: (blanks ++ (r.exception.toList ++
      (") =".toList ++ (r.message.toList ++ ';' :: rest)))))

lemma holds_blank {c : Char} : CharSet.holds ⟨false, [.blank]⟩ c ↔ Text.isBlank c := by
  simp [CharSet.holds, CharSet.Item.holds]

lemma exists_isTrimmed (blanks : List Char) {t : List Char} (ht : t ≠ []) (hblanks : ∀ c ∈ blanks, Text.isBlank c) :
    ∃ blanks' exception, blanks ++ t = blanks' ++ exception ∧ (∀ c ∈ blanks', Text.isBlank c) ∧
      IsTrimmed exception ∧ exception ⊆ t := by
  induction t generalizing blanks with
  | nil => exact absurd rfl ht
  | cons c t ih =>
    by_cases hmore : t ≠ [] ∧ Text.isBlank c
    · obtain ⟨blanks', exception, heq, hblanks', htrimmed, hsub⟩ := ih (blanks ++ [c]) hmore.1
        (by simpa [hmore.2, or_imp, forall_and] using hblanks)
      have hmem : exception ⊆ c :: t := List.Subset.trans hsub (List.subset_cons_self c t)
      exact ⟨blanks', exception, by simpa using heq, hblanks', htrimmed, hmem⟩
    · refine ⟨blanks, c :: t, rfl, hblanks, ⟨ht, ?_⟩, List.Subset.refl _⟩
      rintro _ ⟨⟩ hc
      by_contra hne
      exact hmore ⟨fun hnil => hne (by rw [hnil]), hc⟩

/-- Blanks before an exception are passed over, but for one that is the exception. -/
lemma run_blanks {q : Pattern} (hblanks : ∀ c ∈ blanks, Text.isBlank c) (h : IsTrimmed exception)
    (hk : k.rest = blanks ++ (exception ++ ')' :: rest))
    (hq : ∀ k' : Cursor, k'.rest = ')' :: rest → q.run k' onward = none)
    (he : q.run (k.past blanks (exception ++ ')' :: rest)) onward = some e) :
    (star blank).run k (fun k' => q.run k' onward) = some e := by
  obtain ⟨c, u, rfl⟩ := List.exists_cons_of_ne_nil h.ne_nil
  by_cases hc : Text.isBlank c
  · obtain ⟨-, rfl⟩ := List.cons.inj (h.blank c rfl hc)
    have hall : ∀ d ∈ blanks ++ [c], CharSet.holds ⟨false, [.blank]⟩ d := by
      intro d hd
      rw [holds_blank]
      rcases List.mem_append.mp hd with hd | hd
      · exact hblanks d hd
      · exact List.mem_singleton.mp hd ▸ hc
    refine run_star_back (v := [c]) hk hall (stops_cons (by decide)) ?_ he
    intro v₁ v₂ hv hne
    obtain ⟨d, v₁, rfl⟩ := List.exists_cons_of_ne_nil hne
    obtain ⟨-, hnil⟩ := List.cons.inj hv
    obtain ⟨rfl, rfl⟩ := List.append_eq_nil_iff.mp hnil.symm
    exact hq _ rfl
  · refine run_star hk (fun d hd => holds_blank.mpr (hblanks d hd)) (stops_cons ?_) he
    rw [← Bool.not_eq_true, holds_blank]
    exact hc

lemma reads_raisesPattern : Reads raisesPattern (fun m => ⟨m.group 1, m.group 2, m.group 3⟩) OpensRaise where
  matched := by
    rintro k ⟨check, exception, message⟩ ⟨blanks, rest, hcheck, hcomma, hblanks, htrimmed, hbracket, hmessage, hk⟩
    have hreaches : Reaches (raisesPattern.run { k with groups := [] } some) fun e =>
        e.groups.map (fun g => (g.1, g.2.chars)) =
          [(3, message.toList), (2, exception.toList), (1, check.toList)] := by
      rw [raisesPattern, run_inOrder_cons]
      refine .of (fun _ => run_spelled hk) ?_
      rw [run_inOrder_cons, run_group]
      refine .of (fun _ => run_plus rfl hcheck (forall_holds_noneOf hcomma) (stops_noneOf (by simp))) ?_
      rw [run_inOrder_cons]
      refine .of (fun _ => run_char rfl) ?_
      rw [run_inOrder_cons]
      refine .of (fun _ => run_blanks hblanks htrimmed rfl ?_) ?_
      · intro k' hk'
        refine run_eq_none (by decide) ?_
        rw [hk']
        rintro _ ⟨⟩
        rfl
      rw [run_inOrder_cons, run_group]
      refine .of (fun _ => run_plus rfl htrimmed.ne_nil (forall_holds_noneOf hbracket) (stops_noneOf (by simp))) ?_
      rw [run_inOrder_cons]
      refine .of (fun _ => run_spelled (t := ") =".toList) rfl) ?_
      refine .of (fun _ => run_upToLast hmessage rfl) ?_
      exact ⟨_, rfl, by simp [Cursor.past, Cursor.close, Span.chars]⟩
    obtain ⟨m, hm, hgroup⟩ := exists_matchFrom hreaches
    exact ⟨m, hm, by simp [hgroup, List.lookup_cons]⟩
  found := by
    intro k m hm
    obtain ⟨t, rest, hk, -, -, ha⟩ := accepts_of_matchFrom hm
    obtain ⟨t₁, t₂, rfl, h₁, ha⟩ := ha.exists_cons
    obtain ⟨check, t₃, rfl, hcheck, ha⟩ := ha.exists_cons
    obtain ⟨t₄, t₅, rfl, h₄, ha⟩ := ha.exists_cons
    obtain ⟨blanks, t₆, rfl, hblanks, ha⟩ := ha.exists_cons
    obtain ⟨exception, t₇, rfl, hexception, ha⟩ := ha.exists_cons
    obtain ⟨t₈, t₉, rfl, h₈, ha⟩ := ha.exists_cons
    obtain ⟨message, t₁₀, rfl, hmessage, h₁₀⟩ := ha.exists_cons
    obtain rfl := eq_of_accepts_spelled h₁
    obtain rfl := eq_of_accepts_char h₄
    obtain rfl := eq_of_accepts_spelled h₈
    obtain rfl := eq_of_accepts_char h₁₀
    cases hcheck with | group hcheck =>
    cases hexception with | group hexception =>
    cases hmessage with | group hmessage =>
    obtain ⟨hcheck, hcomma⟩ := accepts_noneOf hcheck
    obtain ⟨hexception, hbracket⟩ := accepts_noneOf hexception
    obtain ⟨hmessage, hline⟩ := accepts_noneOf hmessage
    obtain ⟨message', rest', heq, hlast⟩ := exists_upToLast rest hmessage hline
    obtain ⟨blanks', exception', htrim, hblanks', htrimmed, hsub⟩ := exists_isTrimmed _ hexception
      fun c hc => holds_blank.mp (holds_of_accepts_many hblanks c hc)
    refine ⟨⟨String.ofList check, String.ofList exception', String.ofList message'⟩, blanks', rest', ?_⟩
    simp only [String.toList_ofList, ← heq]
    refine ⟨hcheck, hcomma, hblanks', htrimmed, fun hmem => hbracket (hsub hmem), hlast, ?_⟩
    rw [← List.append_assoc blanks', ← htrim]
    simpa using hk

/-! ### Lines -/

/-- A line gives a default value to an argument. -/
def GivesDefault (line name value : String) : Prop :=
  First OpensDefault line.toList (name, value)

/-- A line says that a result raises an exception. -/
def GivesRaise (line : String) (r : Raise) : Prop :=
  First OpensRaise line.toList r

lemma default_mem_lineAnnotations {line name value : String} :
    .default name value ∈ lineAnnotations line ↔ GivesDefault line name value := by
  rw [GivesDefault, ← reads_defaultPattern.search?_iff, lineAnnotations]
  simp

lemma raises_mem_lineAnnotations {line : String} {r : Raise} :
    .raises r ∈ lineAnnotations line ↔ GivesRaise line r := by
  rw [GivesRaise, ← reads_raisesPattern.search?_iff, lineAnnotations]
  simp

/-- Of what a line says, the default value comes first. -/
lemma lineAnnotations_of_givesDefault {line name value : String} (h : GivesDefault line name value) :
    ∃ rs : List Raise, lineAnnotations line = .default name value :: rs.map .raises := by
  rw [GivesDefault, ← reads_defaultPattern.search?_iff] at h
  obtain ⟨m, hm, hd⟩ := Option.map_eq_some_iff.mp h
  obtain ⟨rfl, rfl⟩ := Prod.mk.inj hd
  refine ⟨((raisesPattern.search? line).map fun m => ⟨m.group 1, m.group 2, m.group 3⟩).toList, ?_⟩
  rw [lineAnnotations, hm]
  cases raisesPattern.search? line <;> rfl

/-- Of what a line says, the exception comes last. -/
lemma lineAnnotations_of_givesRaise {line : String} {r : Raise} (h : GivesRaise line r) :
    ∃ as, lineAnnotations line = as ++ [.raises r] := by
  rw [GivesRaise, ← reads_raisesPattern.search?_iff] at h
  obtain ⟨m, hm, rfl⟩ := Option.map_eq_some_iff.mp h
  exact ⟨_, by rw [lineAnnotations, hm]; rfl⟩

end HeaderBind.Doc
