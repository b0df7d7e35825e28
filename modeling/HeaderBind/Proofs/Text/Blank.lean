import HeaderBind.Text.Blank
import Mathlib.Data.List.DropRight
import Mathlib.Tactic.Lemma

/-!
# Texts without the blanks around them

Blanks may be taken from the two ends of a text in either order (`dropWhile_trimRight`), and where two
texts are put together, each of them loses the blanks at its own end (`strip_comma`). Words have no blanks
(`mem_of_mem_words`).
-/

namespace HeaderBind.Text

variable {c : Char} {s t : String}

/-- Letters and digits by their numbers. -/
lemma isAlphanum_iff : c.isAlphanum ↔
    (65 ≤ c.toNat ∧ c.toNat ≤ 90 ∨ 97 ≤ c.toNat ∧ c.toNat ≤ 122) ∨ 48 ≤ c.toNat ∧ c.toNat ≤ 57 := by
  have hranges : c.isAlphanum = ((decide (65 ≤ c.val ∧ c.val ≤ 90) || (97 ≤ c.val && c.val ≤ 122)) ||
      (48 ≤ c.val && c.val ≤ 57)) := rfl
  simp only [hranges, Bool.or_eq_true, Bool.and_eq_true, decide_eq_true_eq, UInt32.le_iff_toNat_le]
  rfl

lemma trimRight_append (cs ds : List Char) :
    trimRight (cs ++ ds) = if trimRight ds = [] then trimRight cs else cs ++ trimRight ds := by
  rw [trimRight, List.reverse_append, List.dropWhile_append]
  split
  next h =>
    have hds : trimRight ds = [] := by
      rw [trimRight, List.isEmpty_iff.mp h, List.reverse_nil]
    rw [if_pos hds, trimRight]
  next h =>
    have hds : trimRight ds ≠ [] := by
      intro hnil
      rw [trimRight, List.reverse_eq_nil_iff] at hnil
      exact h (List.isEmpty_iff.mpr hnil)
    rw [if_neg hds, List.reverse_append, List.reverse_reverse, trimRight]

lemma trimRight_cons (hc : isBlank c = false) (cs : List Char) :
    trimRight (c :: cs) = c :: trimRight cs := by
  have hone : trimRight [c] = [c] := by simp [trimRight, hc]
  rw [← List.singleton_append, trimRight_append]
  split
  next h => rw [h, hone]
  next => rfl

lemma trimRight_trimRight (cs : List Char) : trimRight (trimRight cs) = trimRight cs :=
  List.rdropWhile_idempotent _ _

/-- Blanks may be taken from either end first. -/
lemma dropWhile_trimRight (cs : List Char) :
    (trimRight cs).dropWhile isBlank = trimRight (cs.dropWhile isBlank) := by
  induction cs with
  | nil => rfl
  | cons c cs ih =>
    cases hc : isBlank c with
    | false => simp [trimRight_cons hc, hc]
    | true =>
      have hone : trimRight [c] = [] := by simp [trimRight, hc]
      rw [List.dropWhile_cons_of_pos hc, ← ih, ← List.singleton_append, trimRight_append]
      split
      next h => rw [h, hone]
      next => simp [hc]

/-- A text without the blanks at its start. -/
def stripStart (s : String) : String :=
  String.ofList (s.toList.dropWhile isBlank)

/-- A text that has no blanks at its ends stays as it is. -/
lemma strip_ofList {cs : List Char} (hhead : ∀ c ∈ cs.head?, isBlank c = false)
    (hlast : ∀ c ∈ cs.getLast?, isBlank c = false) : strip (String.ofList cs) = String.ofList cs := by
  rw [strip, String.toList_ofList]
  have hdrop : cs.dropWhile isBlank = cs := by
    cases cs with
    | nil => rfl
    | cons c cs => exact List.dropWhile_cons_of_neg (by simp [hhead c rfl])
  rcases cs.eq_nil_or_concat' with rfl | ⟨ds, c, rfl⟩
  · rfl
  · have hc : trimRight [c] = [c] := by
      simp [trimRight, hlast c (by simp)]
    rw [hdrop, trimRight_append, hc, if_neg (List.cons_ne_nil c [])]

lemma strip_strip (s : String) : strip (strip s) = strip s := by
  rw [strip, strip, String.toList_ofList, dropWhile_trimRight, trimRight_trimRight,
    List.dropWhile_idempotent]

lemma strip_stripStart (s : String) : strip (stripStart s) = strip s := by
  rw [strip, stripStart, String.toList_ofList, List.dropWhile_idempotent, strip]

lemma strip_stripEnd (s : String) : strip (stripEnd s) = strip s := by
  rw [strip, stripEnd, String.toList_ofList, dropWhile_trimRight, trimRight_trimRight, strip]

/-- Blanks at the end make no difference. -/
lemma strip_ofList_append {ds : List Char} (cs : List Char) (h : ∀ c ∈ ds, isBlank c) :
    strip (String.ofList (cs ++ ds)) = strip (String.ofList cs) := by
  have hnone : trimRight ds = [] := by
    rw [trimRight, List.reverse_eq_nil_iff, List.dropWhile_eq_nil_iff]
    exact fun c hc => h c (List.mem_reverse.mp hc)
  rw [strip, ← dropWhile_trimRight, String.toList_ofList, trimRight_append, if_pos hnone,
    dropWhile_trimRight, strip, String.toList_ofList]

lemma strip_append_blank (s : String) : strip (s ++ " ") = strip s := by
  have h : strip (String.ofList (s.toList ++ [' '])) = _ :=
    strip_ofList_append s.toList (List.forall_mem_singleton.mpr (by decide))
  rwa [String.ofList_append, String.ofList_toList] at h

/-- Whether a text consists of blanks. -/
def IsBlank (s : String) : Prop :=
  ∀ c ∈ s.toList, isBlank c = true

instance : Decidable (IsBlank s) :=
  List.decidableBAll (fun c => isBlank c = true) s.toList

lemma isBlank_append : IsBlank (s ++ t) ↔ IsBlank s ∧ IsBlank t := by
  simp [IsBlank, or_imp, forall_and]

lemma trimRight_eq_nil_iff : trimRight s.toList = [] ↔ IsBlank s :=
  List.rdropWhile_eq_nil_iff

lemma strip_eq_empty_iff : strip s = "" ↔ IsBlank s := by
  have hall : (∀ c ∈ trimRight s.toList, isBlank c = true) ↔ trimRight (trimRight s.toList) = [] :=
    List.rdropWhile_eq_nil_iff.symm
  rw [strip, ← dropWhile_trimRight, String.ofList_eq_empty_iff, List.dropWhile_eq_nil_iff, hall,
    trimRight_trimRight, trimRight_eq_nil_iff]

/-- Two texts with a comma between them lose the blanks at their outer ends. -/
lemma strip_comma (ht : ¬ IsBlank t) : strip (s ++ ", " ++ t) = stripStart s ++ ", " ++ stripEnd t := by
  have hcomma : (s.toList ++ (", ".toList ++ t.toList)).dropWhile isBlank =
      s.toList.dropWhile isBlank ++ (", ".toList ++ t.toList) := by
    rw [List.dropWhile_append]
    split
    next h =>
      rw [List.isEmpty_iff.mp h]
      rfl
    next => rfl
  have hend : trimRight t.toList ≠ [] := mt trimRight_eq_nil_iff.mp ht
  rw [strip, String.toList_append, String.toList_append, List.append_assoc, hcomma, ← List.append_assoc,
    trimRight_append, if_neg hend]
  rw [stripStart, stripEnd, String.ofList_append, String.ofList_append, String.ofList_toList]

/-! ### Words -/

lemma mem_of_mem_wordsFrom {word cs w : List Char} (hw : w ∈ wordsFrom word cs) (hc : c ∈ w) :
    c ∈ word ∨ c ∈ cs ∧ isBlank c = false := by
  induction cs generalizing word with
  | nil =>
    unfold wordsFrom at hw
    split at hw
    · cases hw
    · rw [List.mem_singleton.mp hw, List.mem_reverse] at hc
      exact .inl hc
  | cons d cs ih =>
    have hlater (hw : w ∈ wordsFrom [] cs) : c ∈ d :: cs ∧ isBlank c = false := by
      obtain ⟨hcs, hblank⟩ := (ih hw).resolve_left List.not_mem_nil
      exact ⟨List.mem_cons_of_mem d hcs, hblank⟩
    unfold wordsFrom at hw
    split at hw
    · split at hw
      · exact .inr (hlater hw)
      · rcases List.mem_cons.mp hw with rfl | hw
        · exact .inl (List.mem_reverse.mp hc)
        · exact .inr (hlater hw)
    next hd =>
      rcases ih hw with hword | ⟨hcs, hblank⟩
      · rcases List.mem_cons.mp hword with rfl | hword
        · exact .inr ⟨List.mem_cons_self, eq_false_of_ne_true hd⟩
        · exact .inl hword
      · exact .inr ⟨List.mem_cons_of_mem d hcs, hblank⟩

/-- The characters of the words are those of the text that are not blank. -/
lemma mem_of_mem_words {w : String} (hw : w ∈ words t) (hc : c ∈ w.toList) :
    c ∈ t.toList ∧ isBlank c = false := by
  obtain ⟨cs, hcs, rfl⟩ := List.mem_map.mp hw
  rw [String.toList_ofList] at hc
  exact (mem_of_mem_wordsFrom hcs hc).resolve_left List.not_mem_nil

end HeaderBind.Text
