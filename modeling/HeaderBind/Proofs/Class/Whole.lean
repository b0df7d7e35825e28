import HeaderBind.Proofs.Binding.Basic

/-!
# Whole classes

A class that can be inherited from is whole: it has a constructor and an attribute reader, its methods
have different names, and no two of them share a signature. Most of what is done to a class does not
count for this: what counts is its outline. A binding extends another one when all classes are there
with the outlines that they had.
-/

namespace HeaderBind

namespace ClassDef

/-- The constructor and the methods. -/
def entries (c : ClassDef) : List Method :=
  c.constructor.toList ++ c.methods

/-- The class can be inherited from: it has all parts, and of its methods each has a name and a
signature of its own. -/
structure Whole (signatures : Nat) (c : ClassDef) : Prop where
  constructor : c.constructor.isSome
  attributes : c.attributes.isSome
  finished : ∀ m ∈ c.entries, m.unfinished = false
  known : ∀ m ∈ c.entries, m.signature < signatures
  apart : (c.entries.map Method.signature).Nodup
  names : (c.methods.map Method.name).Nodup

/-- What counts of a method for its class to be whole. -/
def key (m : Method) : String × SignatureId × Bool :=
  (m.name, m.signature, m.unfinished)

/-- What counts of a class for it to be whole. -/
def outline (c : ClassDef) :
    ClassKind × List (String × SignatureId × Bool) × List (String × SignatureId × Bool) × Bool :=
  (c.kind, c.constructor.toList.map key, c.methods.map key, c.attributes.isSome)

variable {c c' : ClassDef} {n n' : Nat}

lemma kind_of_outline (h : c'.outline = c.outline) : c'.kind = c.kind :=
  congrArg Prod.fst h

lemma keys_of_outline (h : c'.outline = c.outline) : c'.entries.map key = c.entries.map key := by
  simp only [outline, Prod.mk.injEq] at h
  simp only [entries, List.map_append, h.2.1, h.2.2.1]

lemma signatures_of_outline (h : c'.outline = c.outline) :
    c'.entries.map Method.signature = c.entries.map Method.signature := by
  have hkeys := congrArg (List.map fun k => k.2.1) (keys_of_outline h)
  rwa [List.map_map, List.map_map] at hkeys

/-- What is changed of a method without touching its key leaves the outline as it is. -/
lemma outline_modifyMethod {slot : MethodSlot} {f : Method → Method} (hf : ∀ m, key (f m) = key m) :
    (c.modifyMethod slot f).outline = c.outline := by
  cases slot with
  | constructor => cases h : c.constructor <;> simp [modifyMethod, outline, h, hf]
  | attributes => simp [modifyMethod, outline]
  | method i => simp only [modifyMethod, outline, map_modify_of_eq hf]

namespace Whole

lemma mono (h : c.Whole n) (hn : n ≤ n') : c.Whole n' :=
  { h with known := fun m hm => Nat.lt_of_lt_of_le (h.known m hm) hn }

lemma of_outline (h : c.Whole n) (ho : c'.outline = c.outline) : c'.Whole n := by
  -- A method of one has its like in the other.
  have hlike : ∀ m ∈ c'.entries, ∃ m₀ ∈ c.entries, key m₀ = key m := by
    intro m hm
    have hkey := List.mem_map_of_mem (f := key) hm
    rwa [keys_of_outline ho, List.mem_map] at hkey
  have hsignatures := signatures_of_outline ho
  simp only [outline, Prod.mk.injEq] at ho
  obtain ⟨-, hconstructor, hmethods, hattributes⟩ := ho
  have hnames : c'.methods.map Method.name = c.methods.map Method.name := by
    have hkeys := congrArg (List.map fun k => k.1) hmethods
    rwa [List.map_map, List.map_map] at hkeys
  refine ⟨?_, ?_, ?_, ?_, ?_, ?_⟩
  · have hlen := congrArg List.length hconstructor
    have hsome := h.constructor
    cases hc : c.constructor with
    | none => simp [hc] at hsome
    | some m =>
      cases hc' : c'.constructor with
      | none => simp [hc, hc'] at hlen
      | some m' => rfl
  · rw [hattributes]
    exact h.attributes
  · intro m hm
    obtain ⟨m₀, hm₀, hkey⟩ := hlike m hm
    simp only [key, Prod.mk.injEq] at hkey
    rw [← hkey.2.2]
    exact h.finished m₀ hm₀
  · intro m hm
    obtain ⟨m₀, hm₀, hkey⟩ := hlike m hm
    simp only [key, Prod.mk.injEq] at hkey
    rw [← hkey.2.1]
    exact h.known m₀ hm₀
  · rw [hsignatures]
    exact h.apart
  · rw [hnames]
    exact h.names

end Whole

end ClassDef

/-! ### More of the same -/

namespace Binding

/-- All classes are there with the outlines that they had, and maybe more. The members are the same. -/
structure Extends (b b' : Binding) : Prop where
  index : b'.index = b.index
  registry : b'.registry = b.registry
  members : b'.members = b.members
  classes : b.classes.size ≤ b'.classes.size
  signatures : b.signatures.size ≤ b'.signatures.size
  outline : ∀ i < b.classes.size, (b'.classAt i).outline = (b.classAt i).outline

namespace Extends

variable {b b' b'' : Binding}

lemma refl (b : Binding) : Extends b b :=
  ⟨rfl, rfl, rfl, Nat.le_refl _, Nat.le_refl _, fun _ _ => rfl⟩

lemma trans (h : Extends b b') (h' : Extends b' b'') : Extends b b'' where
  index := h'.index.trans h.index
  registry := h'.registry.trans h.registry
  members := h'.members.trans h.members
  classes := Nat.le_trans h.classes h'.classes
  signatures := Nat.le_trans h.signatures h'.signatures
  outline i hi := (h'.outline i (Nat.lt_of_lt_of_le hi h.classes)).trans (h.outline i hi)

lemma withSignature (b : Binding) (s : Signature) : Extends b (b.withSignature s) :=
  ⟨rfl, rfl, rfl, Nat.le_refl _, by simp [Binding.withSignature], fun _ _ => rfl⟩

/-- A change of one class that leaves its outline as it is. -/
lemma of_modify {i : ClassId} {f : ClassDef → ClassDef} (hf : ∀ c, (f c).outline = c.outline)
    (hi : b'.index = b.index) (hr : b'.registry = b.registry) (hm : b'.members = b.members)
    (hs : b'.signatures.size = b.signatures.size) (hc : b'.classes = b.classes.modify i f) :
    Extends b b' := by
  refine ⟨hi, hr, hm, ?_, Nat.le_of_eq hs.symm, ?_⟩
  · have hsize : b'.classes.size = b.classes.size := by rw [hc, Array.size_modify]
    exact Nat.le_of_eq hsize.symm
  · intro j hj
    by_cases hij : j = i
    · subst hij
      rw [(classAt_of_modify hc hj).1, hf]
    · simp only [classAt, hc, Array.getElem?_modify, if_neg (Ne.symm hij)]

end Extends

end Binding

end HeaderBind
