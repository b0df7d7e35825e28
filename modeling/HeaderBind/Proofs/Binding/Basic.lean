import HeaderBind.Binding.Basic
import HeaderBind.Proofs.Act
import Mathlib.Data.List.Basic

/-!
# Looking up what was changed

What is found under a number after something was added or changed: the change where the number is the
one of the change, and what was found there before under all other numbers.
-/

namespace HeaderBind

section Modify

variable {α : Type} {f g : α → α} {i : Nat}

lemma modify_twice (a : Array α) : (a.modify i f).modify i g = a.modify i fun x => g (f x) := by
  refine Array.ext_getElem? fun j => ?_
  rw [Array.getElem?_modify, Array.getElem?_modify, Array.getElem?_modify]
  by_cases hij : i = j
  · rw [if_pos hij, if_pos hij, if_pos hij, Option.map_map]
    rfl
  · rw [if_neg hij, if_neg hij, if_neg hij]

lemma modify_eq_of_eq {a : Array α} (h : ∀ x, a[i]? = some x → f x = x) : a.modify i f = a := by
  apply Array.ext_getElem?
  intro j
  rw [Array.getElem?_modify]
  split
  next hij =>
    subst hij
    cases hx : a[i]? with
    | none => rfl
    | some x => rw [Option.map_some, h x hx]
  next => rfl

/-- A part that the change leaves alone is the same everywhere. -/
lemma map_modify_of_eq {β : Type} {part : α → β} (h : ∀ x, part (f x) = part x) (xs : List α) :
    (xs.modify i f).map part = xs.map part := by
  refine List.ext_getElem? fun j => ?_
  rw [List.getElem?_map, List.getElem?_modify, List.getElem?_map]
  cases xs[j]? with
  | none => rfl
  | some x => by_cases hij : i = j <;> simp [hij, h]

end Modify

namespace ClassDef

variable {c : ClassDef} {slot : MethodSlot} {m : Method} {f g : Method → Method}

lemma modifyMethod_twice (c : ClassDef) :
    (c.modifyMethod slot f).modifyMethod slot g = c.modifyMethod slot fun m => g (f m) := by
  cases slot with
  | constructor => simp only [modifyMethod, Option.map_map, Function.comp_def]
  | attributes => simp only [modifyMethod, Option.map_map, Function.comp_def]
  | method i => simp only [modifyMethod, List.modify_modify_eq, Function.comp_def]

lemma method?_modifyMethod (h : c.method? slot = some m) :
    (c.modifyMethod slot f).method? slot = some (f m) := by
  cases slot with
  | constructor =>
    rw [method?] at h
    simp only [modifyMethod, method?, h, Option.map_some]
  | attributes =>
    rw [method?] at h
    simp only [modifyMethod, method?, h, Option.map_some]
  | method i =>
    rw [method?] at h
    simp [modifyMethod, method?, h]

lemma modifyMethod_eq_of_eq (h : c.method? slot = some m) (hf : f m = m) :
    c.modifyMethod slot f = c := by
  cases slot with
  | constructor =>
    rw [method?] at h
    simp only [modifyMethod, h, Option.map_some, hf]
    rw [← h]
  | attributes =>
    rw [method?] at h
    simp only [modifyMethod, h, Option.map_some, hf]
    rw [← h]
  | method i =>
    rw [method?] at h
    have hmodify : c.methods.modify i f = c.methods := by
      apply List.ext_getElem?
      intro j
      rw [List.getElem?_modify]
      by_cases hij : i = j
      · subst hij
        simp [h, hf]
      · simp [hij]
    simp only [modifyMethod, hmodify]

end ClassDef

namespace Binding

variable {b b' : Binding} {i : Nat}

/-- The binding with one more signature. -/
def withSignature (b : Binding) (s : Signature) : Binding :=
  { b with signatures := b.signatures.push s }

lemma signatureAt_withSignature_of_lt {s : Signature} (h : i < b.signatures.size) :
    (b.withSignature s).signatureAt i = b.signatureAt i := by
  simp only [signatureAt, withSignature, Array.getElem?_push, if_neg (Nat.ne_of_lt h)]

lemma signatureAt_withSignature_size (s : Signature) :
    (b.withSignature s).signatureAt b.signatures.size = s := by
  simp [signatureAt, withSignature]

/-- There is a method only in a class that there is. -/
lemma lt_size_of_method? {slot : MethodSlot} {m : Method} (h : (b.classAt i).method? slot = some m) :
    i < b.classes.size := by
  by_contra hi
  have hnone : b.classes[i]? = none := Array.getElem?_eq_none (Nat.le_of_not_lt hi)
  rw [classAt, hnone, Option.getD_none] at h
  cases slot <;> simp [ClassDef.method?, default, instInhabitedClassDef.default] at h

lemma classAt_of_push {c : ClassDef} (h : b'.classes = b.classes.push c) :
    b'.classAt b.classes.size = c ∧ ∀ i < b.classes.size, b'.classAt i = b.classAt i := by
  constructor
  · simp [classAt, h]
  · intro i hi
    simp only [classAt, h, Array.getElem?_push, if_neg (Nat.ne_of_lt hi)]

lemma classAt_of_modify {f : ClassDef → ClassDef} (h : b'.classes = b.classes.modify i f)
    (hi : i < b.classes.size) :
    b'.classAt i = f (b.classAt i) ∧ ∀ j, j ≠ i → b'.classAt j = b.classAt j := by
  constructor
  · simp only [classAt, h, Array.getElem?_modify, if_true, Array.getElem?_eq_getElem hi,
      Option.map_some, Option.getD_some]
  · intro j hj
    simp only [classAt, h, Array.getElem?_modify, if_neg hj.symm]

/-- The binding with one class changed. -/
def withClass (b : Binding) (i : ClassId) (f : ClassDef → ClassDef) : Binding :=
  { b with classes := b.classes.modify i f }

lemma effect_modifyClass (i : ClassId) (f : ClassDef → ClassDef) (b : Binding) :
    (modifyClass i f).effect b = (.ok (), b.withClass i f) := rfl

@[simp] lemma size_withClass (b : Binding) (i : ClassId) (f : ClassDef → ClassDef) :
    (b.withClass i f).classes.size = b.classes.size := Array.size_modify

lemma classAt_withClass {f : ClassDef → ClassDef} (h : i < b.classes.size) :
    (b.withClass i f).classAt i = f (b.classAt i) :=
  (classAt_of_modify rfl h).1

lemma classAt_withClass_of_ne {f : ClassDef → ClassDef} {j : ClassId} (h : j ≠ i) :
    (b.withClass i f).classAt j = b.classAt j := by
  simp only [classAt, withClass, Array.getElem?_modify, if_neg h.symm]

lemma signatureAt_of_modify {f : Signature → Signature}
    (h : b'.signatures = b.signatures.modify i f) (hi : i < b.signatures.size) :
    b'.signatureAt i = f (b.signatureAt i) ∧ ∀ j, j ≠ i → b'.signatureAt j = b.signatureAt j := by
  constructor
  · simp only [signatureAt, h, Array.getElem?_modify, if_true, Array.getElem?_eq_getElem hi,
      Option.map_some, Option.getD_some]
  · intro j hj
    simp only [signatureAt, h, Array.getElem?_modify, if_neg hj.symm]

end Binding

end HeaderBind
