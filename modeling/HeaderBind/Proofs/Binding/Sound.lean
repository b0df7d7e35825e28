import HeaderBind.Proofs.Class.Override

/-!
# Sound bindings

A binding is sound when every name stands for a class that there is, and every class is fit: it is
whole, or it is a struct or an enum, which have no methods while headers are read. A signature is free
when no method of a class has it. Soundness is a matter of outlines (`Spares.of_outline`); a class that
is added has to be fit itself (`Spares.of_adds`), and a method that is put into a class needs a free
signature (`Secures.putMethod`).
-/

namespace HeaderBind

namespace ClassDef

/-- What a class is, apart from its words and its values. -/
def core (c : ClassDef) :=
  (c.kind, c.name, c.constructor, c.methods, c.attributes.isSome)

/-- The outline of a class is part of what it is. -/
def outlineOfCore (k : ClassKind × Option String × Option Method × List Method × Bool) :=
  (k.1, k.2.2.1.toList.map key, k.2.2.2.1.map key, k.2.2.2.2)

/-- A class is whole; a struct or an enum has no methods. -/
def Fit (signatures : Nat) (c : ClassDef) : Prop :=
  if c.kind = .class_ then c.Whole signatures else c.entries = []

variable {c c' : ClassDef} {n n' : Nat}

lemma Whole.fit (h : c.Whole n) (hk : c.kind = .class_) : c.Fit n := by
  rwa [Fit, if_pos hk]

namespace Fit

lemma whole (h : c.Fit n) (hk : c.kind = .class_) : c.Whole n := by
  rwa [Fit, if_pos hk] at h

lemma of_entries_eq_nil (h : c.entries = []) (hk : c.kind ≠ .class_) : c.Fit n := by
  rwa [Fit, if_neg hk]

lemma known (h : c.Fit n) : ∀ m ∈ c.entries, m.signature < n := by
  rw [Fit] at h
  split at h
  · exact h.known
  · simp [h]

lemma mono (h : c.Fit n) (hn : n ≤ n') : c.Fit n' := by
  rw [Fit] at h ⊢
  split at h
  next hk =>
    rw [if_pos hk]
    exact h.mono hn
  next hk => rwa [if_neg hk]

lemma of_outline (h : c.Fit n) (ho : c'.outline = c.outline) : c'.Fit n := by
  rw [Fit] at h ⊢
  rw [kind_of_outline ho]
  split
  next hk =>
    rw [if_pos hk] at h
    exact h.of_outline ho
  next hk =>
    rw [if_neg hk] at h
    have hkeys := keys_of_outline ho
    rwa [h, List.map_nil, List.map_eq_nil_iff] at hkeys

end Fit

end ClassDef

namespace Binding

variable {b b' b'' : Binding} {c : ClassDef} {id : ClassId}

/-- Every name stands for a class that there is, and every class is fit. -/
structure Sound (b : Binding) : Prop where
  indexed : ∀ key id, b.index.get? key = some id → id < b.classes.size
  fit : ∀ i < b.classes.size, (b.classAt i).Fit b.signatures.size

/-- No method of a class has the signature. -/
structure Free (b : Binding) (s : SignatureId) : Prop where
  known : s < b.signatures.size
  unused : ∀ i < b.classes.size, s ∉ (b.classAt i).entries.map Method.signature

/-- The binding stays sound, and all classes are there with the kinds that they had. -/
structure Secures (b b' : Binding) : Prop where
  sound : b'.Sound
  classes : b.classes.size ≤ b'.classes.size
  kinds : ∀ i < b.classes.size, (b'.classAt i).kind = (b.classAt i).kind

/-- The binding stays sound, and signatures that were free stay free. -/
structure Spares (b b' : Binding) : Prop extends Secures b b' where
  free : ∀ s, b.Free s → b'.Free s

lemma Spares.trans (h : b.Spares b') (h' : b'.Spares b'') : b.Spares b'' where
  sound := h'.sound
  classes := Nat.le_trans h.classes h'.classes
  kinds i hi := (h'.kinds i (Nat.lt_of_lt_of_le hi h.classes)).trans (h.kinds i hi)
  free s hs := h'.free s (h.free s hs)

/-! ### Outlines -/

/-- What is the same of all classes is the same of the class of a number. -/
lemma classAt_of_map {γ : Type} {f : ClassDef → γ} (h : b'.classes.map f = b.classes.map f)
    (i : ClassId) : f (b'.classAt i) = f (b.classAt i) := by
  have hat : (b'.classes.map f)[i]? = (b.classes.map f)[i]? := by rw [h]
  rw [Array.getElem?_map, Array.getElem?_map] at hat
  rw [classAt, classAt]
  cases hb : b.classes[i]? with
  | none =>
    rw [hb, Option.map_none, Option.map_eq_none_iff] at hat
    rw [hat]
  | some c =>
    rw [hb, Option.map_some, Option.map_eq_some_iff] at hat
    obtain ⟨c', hc', hf⟩ := hat
    rw [hc']
    exact hf

/-- A change of one class is not seen where only what it keeps is seen. -/
lemma map_withClass {γ : Type} {f : ClassDef → γ} {g : ClassDef → ClassDef}
    (h : ∀ c, f (g c) = f c) (b : Binding) (i : ClassId) :
    (b.withClass i g).classes.map f = b.classes.map f := by
  refine Array.ext_getElem? fun j => ?_
  rw [Array.getElem?_map, Array.getElem?_map, withClass, Array.getElem?_modify]
  split
  · rw [Option.map_map]
    exact congrArg (b.classes[j]?.map ·) (funext h)
  · rfl

/-- What counts of a binding for it to be sound. -/
def outline (b : Binding) :=
  (b.index, b.signatures.size, b.classes.map ClassDef.outline)

lemma outline_withClass {f : ClassDef → ClassDef} (h : ∀ c, (f c).outline = c.outline)
    (b : Binding) (i : ClassId) : (b.withClass i f).outline = b.outline := by
  rw [outline, map_withClass h]
  rfl

lemma Spares.of_outline (h : b.Sound) (ho : b'.outline = b.outline) : b.Spares b' := by
  have hindex : b'.index = b.index := congrArg (fun o => o.1) ho
  have hsignatures : b'.signatures.size = b.signatures.size := congrArg (fun o => o.2.1) ho
  have hmap : b'.classes.map ClassDef.outline = b.classes.map ClassDef.outline :=
    congrArg (fun o => o.2.2) ho
  have hsize : b'.classes.size = b.classes.size := by simpa using congrArg Array.size hmap
  have hclass := classAt_of_map hmap
  refine ⟨⟨⟨?_, ?_⟩, Nat.le_of_eq hsize.symm, fun i _ => ClassDef.kind_of_outline (hclass i)⟩, ?_⟩
  · rw [hindex, hsize]
    exact h.indexed
  · rw [hsize, hsignatures]
    exact fun i hi => (h.fit i hi).of_outline (hclass i)
  · refine fun s hs => ⟨hsignatures ▸ hs.known, fun i hi => ?_⟩
    rw [ClassDef.signatures_of_outline (hclass i)]
    exact hs.unused i (hsize ▸ hi)

/-- The registry, the names and the signatures, and what the classes are apart from their words. -/
def core (b : Binding) :=
  (b.registry, b.index, b.signatures, b.classes.map ClassDef.core)

lemma core_withClass {f : ClassDef → ClassDef} (h : ∀ c, (f c).core = c.core) (b : Binding)
    (i : ClassId) : (b.withClass i f).core = b.core := by
  rw [core, map_withClass h]
  rfl

lemma outline_of_core (h : b'.core = b.core) : b'.outline = b.outline := by
  have houtline : ∀ b : Binding, b.outline =
      (b.core.2.1, b.core.2.2.1.size, b.core.2.2.2.map ClassDef.outlineOfCore) := by
    intro b
    rw [outline, core, Array.map_map]
    rfl
  rw [houtline, houtline, h]

/-! ### More classes, names and methods -/

/-- A class that is added has to be fit, and its signatures have to be new or those of another
class. -/
lemma Spares.of_adds (h : b.Sound) (ha : b.Adds c b') (hc : c.Fit b'.signatures.size)
    (hs : ∀ m ∈ c.entries, b.signatures.size ≤ m.signature ∨
      ∃ i < b.classes.size, m.signature ∈ (b.classAt i).entries.map Method.signature) :
    b.Spares b' := by
  obtain ⟨⟨hindex, -, -, hclasses, hsignatures, houtline⟩, hsize, hnew⟩ := ha
  have hcases : ∀ i < b'.classes.size, i < b.classes.size ∨ i = b.classes.size := fun i hi =>
    Nat.lt_succ_iff_lt_or_eq.mp (Nat.lt_of_lt_of_eq hi hsize)
  refine ⟨⟨⟨?_, ?_⟩, hclasses, fun i hi => ClassDef.kind_of_outline (houtline i hi)⟩, ?_⟩
  · intro key id hid
    rw [hindex] at hid
    exact Nat.lt_of_lt_of_le (h.indexed key id hid) hclasses
  · intro i hi
    rcases hcases i hi with hi | rfl
    · exact ((h.fit i hi).of_outline (houtline i hi)).mono hsignatures
    · rwa [hnew]
  · refine fun s hfree => ⟨Nat.lt_of_lt_of_le hfree.known hsignatures, fun i hi => ?_⟩
    rcases hcases i hi with hi | rfl
    · rw [ClassDef.signatures_of_outline (houtline i hi)]
      exact hfree.unused i hi
    · rw [hnew, List.mem_map]
      rintro ⟨m, hm, rfl⟩
      rcases hs m hm with hle | ⟨i, hi, hmem⟩
      · exact absurd hfree.known (Nat.not_lt.mpr hle)
      · exact hfree.unused i hi hmem

/-- A class that there is gets a name. -/
lemma Spares.of_insert (h : b.Sound) (hid : id < b.classes.size) (key : Option String)
    (registry : Registry) : b.Spares { b with index := b.index.insert key id, registry } := by
  refine ⟨⟨⟨?_, h.fit⟩, Nat.le_refl _, fun _ _ => rfl⟩, fun s hs => ⟨hs.known, hs.unused⟩⟩
  intro key' id' hid'
  rw [Dict.get?_insert] at hid'
  split at hid'
  · cases hid'
    exact hid
  · exact h.indexed key' id' hid'

lemma Spares.withSignature (h : b.Sound) (t : Signature) : b.Spares (b.withSignature t) := by
  have hle : b.signatures.size ≤ (b.withSignature t).signatures.size := by
    simp [Binding.withSignature]
  exact ⟨⟨⟨h.indexed, fun i hi => (h.fit i hi).mono hle⟩, Nat.le_refl _, fun _ _ => rfl⟩,
    fun s hs => ⟨Nat.lt_of_lt_of_le hs.known hle, hs.unused⟩⟩

/-- A new signature is free. -/
lemma free_withSignature (h : b.Sound) (t : Signature) :
    (b.withSignature t).Free b.signatures.size := by
  refine ⟨by simp [withSignature], fun i hi => ?_⟩
  rw [List.mem_map]
  rintro ⟨m, hm, heq⟩
  exact Nat.lt_irrefl _ (heq ▸ (h.fit i hi).known m hm)

/-- A method with a free signature is put into a class. -/
lemma Secures.putMethod (h : b.Sound) {m : Method} (hk : (b.classAt id).kind = .class_)
    (hid : id < b.classes.size) (hf : m.unfinished = false) (hs : b.Free m.signature) :
    b.Secures (b.withClass id (Class.putMethod · m)) := by
  have hclass : (b.withClass id (Class.putMethod · m)).classAt id =
      Class.putMethod (b.classAt id) m := classAt_withClass hid
  have hkind := (Class.putMethod_others (b.classAt id) m).1
  refine ⟨⟨?_, fun i hi => ?_⟩, Nat.le_of_eq (size_withClass b id _).symm, fun i hi => ?_⟩
  · rw [size_withClass]
    exact h.indexed
  · rw [size_withClass] at hi
    by_cases heq : i = id
    · subst heq
      rw [hclass]
      exact (Class.whole_putMethod ((h.fit i hi).whole hk) hf hs.known (hs.unused i hi)).fit
        (hkind.trans hk)
    · rw [classAt_withClass_of_ne heq]
      exact h.fit i hi
  · by_cases heq : i = id
    · subst heq
      rw [hclass]
      exact hkind
    · rw [classAt_withClass_of_ne heq]

end Binding

end HeaderBind
