import HeaderBind.Binding.Write
import Mathlib.Data.List.Sort
import Mathlib.Data.Prod.Lex
import Mathlib.Data.String.Basic
import Mathlib.Tactic.Lemma

/-!
# The constants of a module

Constants are gathered one by one, each of them once, and are written in the order of their names and types.
So it does not show in which order they came up. Lists of the same constants are the same when they are sorted
(`sortedConstants_eq_of_perm`), and what is gathered by calls for the same constants are lists of the same
constants, however often each of them is called for (`Gathered.perm`).
-/

namespace HeaderBind.Binding

variable {b b' : Binding} {calls calls' constants constants' : List (String × String)}

/-! ### The order of constants -/

/-- Constants are ordered as pairs of a name and a type. -/
lemma constantLe_iff {a b : String × String} : constantLe a b ↔ toLex a ≤ toLex b := by
  rw [constantLe, Prod.Lex.toLex_le_toLex]
  split
  next h =>
    rw [beq_iff_eq] at h
    simp [h]
  next h =>
    rw [beq_iff_eq] at h
    simp [h, le_iff_lt_or_eq]

/-- Constants are sorted the same way whatever order they come in. -/
lemma sortedConstants_eq_of_perm (h : constants.Perm constants') :
    sortedConstants constants = sortedConstants constants' := by
  have htrans (a b c : String × String) : constantLe a b → constantLe b c → constantLe a c := by
    simp only [constantLe_iff]
    exact le_trans
  have htotal (a b : String × String) : constantLe a b || constantLe b a := by
    simp only [Bool.or_eq_true, constantLe_iff]
    exact le_total _ _
  have hanti (a b : String × String) : constantLe a b → constantLe b a → a = b := by
    simp only [constantLe_iff]
    exact fun hab hba => toLex.injective (le_antisymm hab hba)
  have hperm : (sortedConstants constants).Perm (sortedConstants constants') :=
    (List.mergeSort_perm _ _).trans (h.trans (List.mergeSort_perm _ _).symm)
  exact hperm.eq_of_pairwise (fun a b _ _ => hanti a b) (List.pairwise_mergeSort htrans htotal _)
    (List.pairwise_mergeSort htrans htotal _)

/-! ### Gathering constants -/

/-- The constants of the module were added by these calls, one after another. It makes no difference whether a
call comes from a definition, from the end of an enum or from outside, or what happens between the calls. -/
inductive Gathered : List (String × String) → Binding → Prop where
  | start {b : Binding} (h : b.constants = []) : Gathered [] b
  | call {calls : List (String × String)} {b : Binding} (h : Gathered calls b) (name type : String) :
      Gathered (calls ++ [(name, type)]) (b.addConstant name type)
  | other {calls : List (String × String)} {b b' : Binding} (h : Gathered calls b)
      (hb : b'.constants = b.constants) : Gathered calls b'

namespace Gathered

lemma nodup (h : Gathered calls b) : b.constants.Nodup := by
  induction h with
  | start h =>
    rw [h]
    exact List.nodup_nil
  | call _ name type ih => exact ih.insert
  | other _ hb ih => rwa [hb]

lemma mem_constants (h : Gathered calls b) {c : String × String} : c ∈ b.constants ↔ c ∈ calls := by
  induction h with
  | start h => rw [h]
  | call _ name type ih => simp [addConstant, ih, or_comm]
  | other _ hb ih => rw [hb, ih]

/-- Calls for the same constants gather the same constants. -/
lemma perm (h : Gathered calls b) (h' : Gathered calls' b') (hcalls : ∀ c, c ∈ calls ↔ c ∈ calls') :
    b.constants.Perm b'.constants := by
  rw [List.perm_ext_iff_of_nodup h.nodup h'.nodup]
  intro c
  rw [h.mem_constants, h'.mem_constants, hcalls c]

end Gathered

end HeaderBind.Binding
