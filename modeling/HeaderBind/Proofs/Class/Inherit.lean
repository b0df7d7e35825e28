import HeaderBind.Class.Declare
import HeaderBind.Proofs.Method.Inherit

/-!
# Classes that inherit

A class of its own is whole. From a class that is whole another one can inherit, and is whole then: it
has the heirs of the constructor and of the methods, in their order (`ends_inherit`). Nothing can be
inherited from what has no constructor (`ends_inherit_of_none`).
-/

namespace HeaderBind

lemma modify_push_size {α : Type} (a : Array α) (x : α) (f : α → α) :
    (a.push x).modify a.size f = a.push (f x) := by
  refine Array.ext_getElem? fun j => ?_
  rw [Array.getElem?_modify, Array.getElem?_push, Array.getElem?_push]
  by_cases hj : j = a.size
  · rw [if_pos hj.symm, if_pos hj, if_pos hj, Option.map_some]
  · rw [if_neg (Ne.symm hj), if_neg hj, if_neg hj]

/-! ### One more class -/

namespace Binding

/-- There is one more class, the one given. -/
structure Adds (b : Binding) (c : ClassDef) (b' : Binding) : Prop where
  extended : b.Extends b'
  size : b'.classes.size = b.classes.size + 1
  new : b'.classAt b.classes.size = c

namespace Adds

variable {b b' b'' : Binding} {c : ClassDef}

lemma push {s₁ s₂ : Signature} (c : ClassDef) :
    b.Adds c { b with
      classes := b.classes.push c
      signatures := (b.signatures.push s₁).push s₂ } := by
  refine ⟨⟨rfl, rfl, rfl, ?_, ?_, ?_⟩, Array.size_push _, (classAt_of_push rfl).1⟩
  · simp
  · simp only [Array.size_push]
    omega
  · intro i hi
    rw [(classAt_of_push (c := c) rfl).2 i hi]

/-- The new class changes. -/
lemma modify (h : b.Adds c b') (f : ClassDef → ClassDef) :
    b.Adds (f c) (b'.withClass b.classes.size f) := by
  have hlt : b.classes.size < b'.classes.size := by
    rw [h.size]
    exact Nat.lt_succ_self _
  refine ⟨⟨h.extended.index, h.extended.registry, h.extended.members, ?_, h.extended.signatures, ?_⟩,
    ?_, ?_⟩
  · rw [size_withClass]
    exact h.extended.classes
  · intro i hi
    rw [classAt_withClass_of_ne (Nat.ne_of_lt hi), h.extended.outline i hi]
  · rw [size_withClass, h.size]
  · rw [classAt_withClass hlt, h.new]

/-- Something happens elsewhere. -/
lemma extend (h : b.Adds c b') (he : b'.Extends b'') (hs : b''.classes.size = b'.classes.size)
    (hn : b''.classAt b.classes.size = b'.classAt b.classes.size) : b.Adds c b'' :=
  ⟨h.extended.trans he, hs.trans h.size, hn.trans h.new⟩

lemma withSignature (h : b.Adds c b') (s : Signature) : b.Adds c (b'.withSignature s) :=
  h.extend (.withSignature b' s) rfl rfl

end Adds

lemma Noted.of_push {b b' : Binding} {s : Signature} (h : b'.signatures = b.signatures.push s) :
    b.Noted [] b' := by
  refine ⟨by simp [h], by simp, fun i hi _ => ?_⟩
  simp only [signatureAt, h, Array.getElem?_push, if_neg (Nat.ne_of_lt hi)]

lemma Noted.withClass {b b' : Binding} {ms : List Method} (h : b.Noted ms b') (i : ClassId)
    (f : ClassDef → ClassDef) : b.Noted ms (b'.withClass i f) :=
  ⟨h.grown, h.noted, h.others⟩

/-- What there was is there as it was, but that the comments of a class were read, if one is given. -/
structure Leaves (b : Binding) (base : Option ClassId) (b' : Binding) : Prop where
  grown : b.classes.size ≤ b'.classes.size ∧ b.members.size ≤ b'.members.size
  classes : ∀ i < b.classes.size,
    b'.classAt i = if base = some i then b.rereadClass (b.classAt i) else b.classAt i
  signatures : b.Noted (base.elim [] fun i => (b.classAt i).entries) b'
  members : ∀ i < b.members.size, b'.memberAt i = b.memberAt i

namespace Leaves

variable {b b' b'' : Binding} {base : Option ClassId}

/-- A class that is new changes. -/
lemma withClass (h : b.Leaves base b') {i : ClassId} (hi : b.classes.size ≤ i)
    (f : ClassDef → ClassDef) : b.Leaves base (b'.withClass i f) where
  grown := by
    rw [size_withClass]
    exact h.grown
  classes j hj := by
    rw [classAt_withClass_of_ne (Nat.ne_of_lt (Nat.lt_of_lt_of_le hj hi)), h.classes j hj]
  signatures := h.signatures.withClass i f
  members := h.members

/-- Nothing happens to classes, signatures and members. -/
lemma congr (h : b.Leaves base b') (hc : b''.classes = b'.classes)
    (hs : b''.signatures = b'.signatures) (hm : b''.members = b'.members) : b.Leaves base b'' where
  grown := by
    rw [hc, hm]
    exact h.grown
  classes i hi := by
    rw [classAt, hc]
    exact h.classes i hi
  signatures := by
    obtain ⟨hgrown, hnoted, hothers⟩ := h.signatures
    refine ⟨?_, fun m hm => ?_, fun i hi hn => ?_⟩
    · rwa [hs]
    · rw [signatureAt, hs]
      exact hnoted m hm
    · rw [signatureAt, hs]
      exact hothers i hi hn
  members i hi := by
    rw [memberAt, hm]
    exact h.members i hi

lemma trans (h : b.Leaves none b') (h' : b'.Leaves none b'') : b.Leaves none b'' where
  grown := ⟨Nat.le_trans h.grown.1 h'.grown.1, Nat.le_trans h.grown.2 h'.grown.2⟩
  classes i hi := (h'.classes i (Nat.lt_of_lt_of_le hi h.grown.1)).trans (h.classes i hi)
  signatures := h.signatures.append h'.signatures (by simp) (by simp)
  members i hi := (h'.members i (Nat.lt_of_lt_of_le hi h.grown.2)).trans (h.members i hi)

/-- There is nothing to read of a class without methods. -/
lemma of_entries_eq_nil (h : b.Leaves none b') {i : ClassId} (hi : (b.classAt i).entries = []) :
    b.Leaves (some i) b' where
  grown := h.grown
  classes j hj := by
    have hsame : b'.classAt j = b.classAt j := h.classes j hj
    rw [hsame]
    split
    next heq =>
      obtain rfl : i = j := Option.some.inj heq
      rw [ClassDef.entries, List.append_eq_nil_iff, Option.toList_eq_nil_iff] at hi
      rw [rereadClass, hi.1, hi.2, Option.map_none, List.map_nil, ← hi.1, ← hi.2]
    next => rfl
  signatures := by
    rw [Option.elim_some, hi]
    exact h.signatures
  members := h.members

end Leaves

/-- The methods and members of a class are new, or those of a base. The methods belong to the class, and
their comments are not inherited. -/
structure Inherited (b : Binding) (base : Option ClassId) (c : ClassDef) : Prop where
  docs : ∀ m ∈ c.entries, m.doc = ""
  titles : ∀ m ∈ c.entries, m.className = c.name
  reader : ∀ reader ∈ c.attributes, reader.kind = .attributes
  entries : ∀ m ∈ c.entries, m.signature < b.signatures.size →
    ∃ i ∈ base, m.signature ∈ (b.classAt i).entries.map Method.signature
  members : ∀ reader ∈ c.attributes, ∀ k ∈ reader.members,
    ∃ i ∈ base, ∃ r ∈ (b.classAt i).attributes, k ∈ r.members

/-- A class that inherits nothing could have any base. -/
lemma Inherited.of_none {b b' : Binding} {c : ClassDef} (h : b'.Inherited none c)
    (hs : b.signatures.size ≤ b'.signatures.size) (base : Option ClassId) : b.Inherited base c where
  docs := h.docs
  titles := h.titles
  reader := h.reader
  entries m hm hlt := by
    obtain ⟨i, hi, -⟩ := h.entries m hm (Nat.lt_of_lt_of_le hlt hs)
    exact absurd hi (Option.not_mem_none i)
  members reader hr k hk := by
    obtain ⟨i, hi, -⟩ := h.members reader hr k hk
    exact absurd hi (Option.not_mem_none i)

lemma Inherited.of_subset {b : Binding} {base : Option ClassId} {c c' : ClassDef}
    (h : b.Inherited base c) (hn : c'.name = c.name) (he : c'.entries ⊆ c.entries)
    (ha : ∀ reader ∈ c'.attributes, reader ∈ c.attributes) : b.Inherited base c' where
  docs m hm := h.docs m (he hm)
  titles m hm := (h.titles m (he hm)).trans hn.symm
  reader r hr := h.reader r (ha r hr)
  entries m hm := h.entries m (he hm)
  members reader hr := h.members reader (ha reader hr)

/-- Classes are added that have what they inherit from a base, if one is given, and nothing else. -/
structure Inherits (b : Binding) (base : Option ClassId) (b' : Binding) : Prop extends
    Leaves b base b' where
  inherited : ∀ i, b.classes.size ≤ i → i < b'.classes.size → b.Inherited base (b'.classAt i)

lemma Inherits.withClass {b b' : Binding} {base : Option ClassId} (h : b.Inherits base b') {i : ClassId}
    (hi : b.classes.size ≤ i) {f : ClassDef → ClassDef}
    (hf : ∀ c, b.Inherited base c → b.Inherited base (f c)) : b.Inherits base (b'.withClass i f) where
  toLeaves := h.toLeaves.withClass hi f
  inherited j hle hlt := by
    rw [size_withClass] at hlt
    by_cases heq : j = i
    · subst heq
      rw [classAt_withClass hlt]
      exact hf _ (h.inherited j hle hlt)
    · rw [classAt_withClass_of_ne heq]
      exact h.inherited j hle hlt

lemma Inherits.congr {b b' b'' : Binding} {base : Option ClassId} (h : b.Inherits base b')
    (hc : b''.classes = b'.classes) (hs : b''.signatures = b'.signatures)
    (hm : b''.members = b'.members) : b.Inherits base b'' where
  toLeaves := h.toLeaves.congr hc hs hm
  inherited i hle hlt := by
    rw [hc] at hlt
    rw [classAt, hc]
    exact h.inherited i hle hlt

lemma Inherits.trans {b b' b'' : Binding} (h : b.Inherits none b') (h' : b'.Inherits none b'') :
    b.Inherits none b'' where
  toLeaves := h.toLeaves.trans h'.toLeaves
  inherited i hle hlt := by
    by_cases hi : i < b'.classes.size
    · rw [show b''.classAt i = b'.classAt i from h'.classes i hi]
      exact h.inherited i hle hi
    · exact (h'.inherited i (Nat.le_of_not_lt hi) hlt).of_none h.signatures.grown none

lemma Inherits.of_entries_eq_nil {b b' : Binding} (h : b.Inherits none b') {i : ClassId}
    (hi : (b.classAt i).entries = []) : b.Inherits (some i) b' where
  toLeaves := h.toLeaves.of_entries_eq_nil hi
  inherited j hle hlt := (h.inherited j hle hlt).of_none (Nat.le_refl _) (some i)

lemma Adds.inherits {b b' : Binding} {c : ClassDef} {base : Option ClassId} (h : b.Adds c b')
    (hc : ∀ i < b.classes.size,
      b'.classAt i = if base = some i then b.rereadClass (b.classAt i) else b.classAt i)
    (hs : b.Noted (base.elim [] fun i => (b.classAt i).entries) b') (hn : b.Inherited base c) :
    b.Inherits base b' where
  grown := ⟨h.extended.classes, Nat.le_of_eq (congrArg Array.size h.extended.members.symm)⟩
  classes := hc
  signatures := hs
  members i _ := by rw [memberAt, h.extended.members, memberAt]
  inherited i hle hlt := by
    have heq : i = b.classes.size := by
      rw [h.size] at hlt
      omega
    rw [heq, h.new]
    exact hn

end Binding

namespace Class

/-! ### Classes of their own -/

/-- A reader of attributes that was just made for a class of a name. -/
structure NewReader (className baseName : Option String) (members : List MemberId) (reader : Method) :
    Prop where
  kind : reader.kind = .attributes
  className : reader.className = some (className.getD "")
  baseName : reader.baseName = baseName
  members : reader.members = members

lemma ends_makeReader (className baseName : Option String) (owner : ClassId) (b : Binding) :
    (Method.makeReader className baseName owner).Ends b
      (fun reader b' => NewReader className baseName [] reader ∧ ∃ s, b' = b.withSignature s)
      (fun f _ => f.isCaught = false) := by
  refine (Method.ends_make .attributes className baseName "" "void" owner b).bind ?_
  rintro m b' ⟨rfl, t, -, rfl⟩
  exact .of_ok rfl ⟨⟨rfl, rfl, rfl, rfl⟩, _, rfl⟩

lemma ends_inheritReader (reader : Method) (className : String) (b : Binding) :
    (reader.inheritReader className).Ends b
      (fun copy b' => NewReader (some className) reader.baseName reader.members copy ∧
        ∃ s, b' = b.withSignature s)
      (fun f _ => f.isCaught = false) := by
  refine (ends_makeReader (some className) reader.baseName reader.owner b).bind ?_
  rintro copy b' ⟨hcopy, hb'⟩
  exact .pure ⟨{ hcopy with members := rfl }, hb'⟩

/-- A class that was just made: it has a constructor that does nothing, and no methods. -/
def newClass (name baseName : Option String) (reader : Method) (id : ClassId) (s : SignatureId) :
    ClassDef :=
  { name
    baseName
    attributes := some reader
    constructor := some (Method.newMethod .emptyConstructor name baseName "Con" id s) }

lemma inherited_newClass {b : Binding} {name baseName : Option String} {reader : Method} {id : ClassId}
    {s : SignatureId} (hk : reader.kind = .attributes) (hm : reader.members = [])
    (hs : b.signatures.size ≤ s) : b.Inherited none (newClass name baseName reader id s) := by
  have hentries : (newClass name baseName reader id s).entries =
      [Method.newMethod .emptyConstructor name baseName "Con" id s] := rfl
  refine ⟨?_, ?_, ?_, ?_, ?_⟩
  · rw [hentries, List.forall_mem_singleton]
    rfl
  · rw [hentries, List.forall_mem_singleton]
    rfl
  · rintro _ ⟨⟩
    exact hk
  · rw [hentries, List.forall_mem_singleton]
    exact fun hlt => absurd hlt (Nat.not_lt.mpr hs)
  · rintro _ ⟨⟩
    simp [hm]

lemma ends_make (name baseName : Option String) (b : Binding) :
    (make name baseName).Ends b
      (fun id b' => id = b.classes.size ∧ b.Inherits none b' ∧
        ∃ reader s, b.signatures.size ≤ s ∧ s < b'.signatures.size ∧
          b.Adds (newClass name baseName reader id s) b' ∧ NewReader name baseName [] reader)
      (fun f _ => f.isCaught = false) := by
  refine .bind_of_ok (a := b.classes.size)
    (t := { b with classes := b.classes.push { name, baseName } }) rfl ?_
  refine (ends_makeReader name baseName b.classes.size _).bind ?_
  rintro reader _ ⟨hreader, s₁, rfl⟩
  refine .bind_of_ok (Act.effect_update _ _) ?_
  refine (Method.ends_make .emptyConstructor name baseName "Con" "" b.classes.size _).bind ?_
  rintro constructor _ ⟨rfl, t, -, rfl⟩
  refine .bind_of_ok (Act.effect_update _ _) ?_
  simp only [Binding.withSignature, modify_push_size, Array.size_push]
  refine .pure ⟨rfl, ?_, reader, b.signatures.size + 1, Nat.le_succ _, ?_, .push _, hreader⟩
  · have hfirst : b.Noted [] (b.withSignature s₁) := .of_push rfl
    refine Binding.Adds.inherits (.push _) (Binding.classAt_of_push rfl).2
      (hfirst.append (.of_push rfl) (by simp) (by simp))
      (inherited_newClass hreader.kind hreader.members (Nat.le_succ _))
  · simp

lemma whole_newClass {name baseName : Option String} {reader : Method} {id : ClassId} {s n : Nat}
    (h : s < n) : (newClass name baseName reader id s).Whole n := by
  have hentries : (newClass name baseName reader id s).entries =
      [Method.newMethod .emptyConstructor name baseName "Con" id s] := rfl
  refine ⟨rfl, rfl, ?_, ?_, ?_, .nil⟩ <;> rw [hentries] <;> simp [Method.newMethod, h]

/-! ### Inheriting -/

variable {b : Binding} {id : ClassId}

/-- The heirs of methods leave behind what each of them does. -/
lemma ends_inheritMethods (className : String) {i : Nat} {ms : List Method}
    (hms : (b.classAt id).methods.drop i = ms) (hf : ∀ m ∈ ms, m.unfinished = false)
    (hs : ∀ m ∈ ms, m.signature < b.signatures.size) (hapart : (ms.map Method.signature).Nodup) :
    (inheritMethods id className i ms.length).Ends b
      (fun heirs b' => heirs = ms.map (b.heir className) ∧ b.Extends b' ∧
        b'.classes.size = b.classes.size ∧ (∀ j, j ≠ id → b'.classAt j = b.classAt j) ∧
        b'.classAt id = { b.classAt id with
          methods := (b.classAt id).methods.take i ++ ms.map b.reread } ∧ b.Noted ms b')
      (fun f _ => f.isCaught = false) := by
  induction ms generalizing i b with
  | nil =>
    have htake := List.take_append_drop i (b.classAt id).methods
    rw [hms, List.append_nil] at htake
    refine .pure ⟨rfl, .refl b, rfl, fun _ _ => rfl, ?_, Nat.le_refl _, by simp, fun _ _ _ => rfl⟩
    rw [List.map_nil, List.append_nil, htake]
  | cons m ms ih =>
    have hm : (b.classAt id).method? (.method i) = some m := by
      rw [ClassDef.method?, ← List.head?_drop, hms, List.head?_cons]
    rw [List.map_cons, List.nodup_cons] at hapart
    rw [List.length_cons, inheritMethods]
    refine (Method.ends_inherit ⟨id, .method i⟩ hm (hf m List.mem_cons_self)
      (hs m List.mem_cons_self) className).bind ?_
    rintro _ b₁ ⟨rfl, h₁⟩
    have hms₁ : (b₁.classAt id).methods.drop (i + 1) = ms := by
      rw [h₁.here]
      simp only [ClassDef.modifyMethod]
      rw [List.drop_modify_of_lt _ _ _ _ (Nat.lt_succ_self i), ← List.tail_drop, hms, List.tail_cons]
    have hs₁ : ∀ m' ∈ ms, m'.signature < b₁.signatures.size := fun m' hm' =>
      Nat.lt_of_lt_of_le (hs m' (List.mem_cons_of_mem m hm')) h₁.extended.signatures
    have hne : ∀ m' ∈ ms, m.signature ≠ m'.signature := fun m' hm' heq =>
      hapart.1 (heq ▸ List.mem_map_of_mem hm')
    refine (ih hms₁ (fun m' hm' => hf m' (List.mem_cons_of_mem m hm')) hs₁ hapart.2).bind ?_
    rintro _ b₂ ⟨rfl, hext, hsize, helse, hhere, hnoted⟩
    refine .pure ⟨?_, h₁.extended.trans hext, hsize.trans h₁.size, ?_, ?_, ?_⟩
    · -- What the first heir left behind is the same for the others as before.
      rw [List.map_cons]
      congr 1
      refine List.map_congr_left fun m' hm' => ?_
      exact (h₁.noted.heir_eq (hs m' (List.mem_cons_of_mem m hm'))
        (by simpa using (hne m' hm').symm) className).1
    · intro j hj
      rw [helse j hj, h₁.elsewhere j hj]
    · have hreread : ms.map b₁.reread = ms.map b.reread := by
        refine List.map_congr_left fun m' hm' => ?_
        exact h₁.noted.reread_eq (hs m' (List.mem_cons_of_mem m hm'))
          (by simpa using (hne m' hm').symm)
      have hat : (b.classAt id).methods[i]? = some m := hm
      rw [hhere, h₁.here, hreread]
      simp only [ClassDef.modifyMethod, List.take_add_one, List.take_modify, List.getElem?_modify_eq, hat,
        List.modify_eq_self (List.length_take_le i (b.classAt id).methods), List.append_assoc,
        List.map_cons]
      rfl
    · exact h₁.noted.append hnoted hs (by simpa using hne)

/-- The new class gets the heir of the constructor. -/
lemma ends_inheritConstructor {b' : Binding} {c : ClassDef} {m : Method} (hadds : b.Adds c b')
    (hnoted : b.Noted [] b') (hid : id < b.classes.size) (hm : (b'.classAt id).constructor = some m)
    (hf : m.unfinished = false) (hs : m.signature < b.signatures.size) (className : String) :
    (do
      let constructor ← Method.inherit ⟨id, .constructor⟩ className
      Binding.modifyClass b.classes.size fun c => { c with constructor := some constructor }).Ends b'
      (fun _ b'' => b.Adds { c with constructor := some (b.heir className m) } b'' ∧
        b.Noted [m] b'' ∧
        b''.classAt id = { b'.classAt id with constructor := some (b.reread m) } ∧
        ∀ i < b.classes.size, i ≠ id → b''.classAt i = b'.classAt i)
      (fun f _ => f.isCaught = false) := by
  refine (Method.ends_inherit ⟨id, .constructor⟩ hm hf
    (Nat.lt_of_lt_of_le hs hnoted.grown) className).bind ?_
  rintro _ b'' ⟨rfl, h⟩
  refine .of_ok (Binding.effect_modifyClass _ _ _) ⟨?_, ?_, ?_, ?_⟩
  · rw [(hnoted.heir_eq hs (by simp) className).1]
    exact (hadds.extend h.extended h.size (h.elsewhere _ (Nat.ne_of_gt hid))).modify
      fun c => { c with constructor := some (b.heir className m) }
  · exact (hnoted.append h.noted (by simpa using hs) (by simp)).withClass _ _
  · rw [Binding.classAt_withClass_of_ne (Nat.ne_of_lt hid), h.here, ← hnoted.reread_eq hs (by simp)]
    simp only [ClassDef.modifyMethod, hm, Option.map_some]
    rfl
  · intro i hi hne
    rw [Binding.classAt_withClass_of_ne (Nat.ne_of_lt hi), h.elsewhere i hne]

/-- Then it gets the heirs of the methods. -/
lemma ends_inheritAllMethods {b' : Binding} {c : ClassDef} {m : Method} {ms : List Method}
    (hadds : b.Adds c b') (hnoted : b.Noted [m] b') (hid : id < b.classes.size)
    (hms : (b'.classAt id).methods = ms) (hf : ∀ m ∈ ms, m.unfinished = false)
    (hs : ∀ m' ∈ [m] ++ ms, m'.signature < b.signatures.size)
    (hapart : (([m] ++ ms).map Method.signature).Nodup) (className : String) :
    (do
      let methods ← inheritMethods id className 0 ms.length
      Binding.modifyClass b.classes.size fun c => { c with methods }).Ends b'
      (fun _ b'' => b.Adds { c with methods := ms.map (b.heir className) } b'' ∧
        b.Noted ([m] ++ ms) b'' ∧
        b''.classAt id = { b'.classAt id with methods := ms.map b.reread } ∧
        ∀ i < b.classes.size, i ≠ id → b''.classAt i = b'.classAt i)
      (fun f _ => f.isCaught = false) := by
  rw [List.map_append, List.map_singleton, List.singleton_append, List.nodup_cons] at hapart
  have hne : ∀ m' ∈ ms, m.signature ≠ m'.signature := fun m' hm' heq =>
    hapart.1 (heq ▸ List.mem_map_of_mem hm')
  refine (ends_inheritMethods className (i := 0) hms hf
    (fun m' hm' => Nat.lt_of_lt_of_le (hs m' (by simp [hm'])) hnoted.grown) hapart.2).bind ?_
  rintro _ b'' ⟨rfl, hext, hsize, helse, hhere, hnoted'⟩
  have hreread : ms.map b'.reread = ms.map b.reread := by
    refine List.map_congr_left fun m' hm' => ?_
    exact hnoted.reread_eq (hs m' (by simp [hm'])) (by simpa using (hne m' hm').symm)
  have hheirs : ms.map (b'.heir className) = ms.map (b.heir className) := by
    refine List.map_congr_left fun m' hm' => ?_
    exact (hnoted.heir_eq (hs m' (by simp [hm'])) (by simpa using (hne m' hm').symm) className).1
  refine .of_ok (Binding.effect_modifyClass _ _ _) ⟨?_, ?_, ?_, ?_⟩
  · rw [hheirs]
    exact (hadds.extend hext hsize (helse _ (Nat.ne_of_gt hid))).modify
      fun c => { c with methods := ms.map (b.heir className) }
  · exact (hnoted.append hnoted' hs (by simpa using hne)).withClass _ _
  · rw [Binding.classAt_withClass_of_ne (Nat.ne_of_lt hid), hhere, List.take_zero, List.nil_append,
      hreread]
  · intro i hi hne
    rw [Binding.classAt_withClass_of_ne (Nat.ne_of_lt hi), helse i hne]

/-- The class that inherits from another one. -/
def heirClass (b : Binding) (base : ClassDef) (className : String) (reader : Method) : ClassDef :=
  { name := some className
    baseName := base.name
    constructor := base.constructor.map (b.heir className)
    methods := base.methods.map (b.heir className)
    attributes := some reader }

lemma entries_heirClass (b : Binding) (base : ClassDef) (className : String) (reader : Method) :
    (heirClass b base className reader).entries = base.entries.map (b.heir className) := by
  cases h : base.constructor <;> simp [ClassDef.entries, heirClass, h]

lemma inherited_heirClass {reader r : Method} (className : String)
    (hr : (b.classAt id).attributes = some r) (hk : reader.kind = .attributes)
    (hm : reader.members = r.members) :
    b.Inherited (some id) (heirClass b (b.classAt id) className reader) := by
  refine ⟨?_, ?_, ?_, ?_, ?_⟩
  · rw [entries_heirClass, List.forall_mem_map]
    exact fun _ _ => rfl
  · rw [entries_heirClass, List.forall_mem_map]
    exact fun _ _ => rfl
  · rintro _ ⟨⟩
    exact hk
  · rw [entries_heirClass, List.forall_mem_map]
    intro m hm _
    have hmem := List.mem_map_of_mem (f := Method.signature) hm
    exact ⟨id, rfl, hmem⟩
  · rintro _ ⟨⟩ k hk
    exact ⟨id, rfl, r, hr, hm ▸ hk⟩

theorem ends_inherit (hw : (b.classAt id).Whole b.signatures.size) (hid : id < b.classes.size)
    (className : String) :
    (inherit id className).Ends b
      (fun new b' => new = b.classes.size ∧ b.Inherits (some id) b' ∧
        ∃ r reader, (b.classAt id).attributes = some r ∧
          NewReader (some className) r.baseName r.members reader ∧
          b.Adds (heirClass b (b.classAt id) className reader) b')
      (fun f _ => f.isCaught = false) := by
  obtain ⟨c₀, hc₀⟩ := Option.isSome_iff_exists.mp hw.constructor
  obtain ⟨r₀, hr₀⟩ := Option.isSome_iff_exists.mp hw.attributes
  have hentries : (b.classAt id).entries = [c₀] ++ (b.classAt id).methods := by
    rw [ClassDef.entries, hc₀]
    rfl
  obtain ⟨-, -, hf, hs, hapart, -⟩ := hw
  rw [hentries] at hf hs hapart
  refine .bind_of_ok (Act.effect_state b) ?_
  dsimp only
  refine (ends_make (some className) (b.classAt id).name b).bind ?_
  rintro _ b₁ ⟨rfl, hnew, reader, s, -, -, hadds₁, -⟩
  have hnoted₁ : b.Noted [] b₁ := hnew.signatures
  have hsame : ∀ i < b.classes.size, b₁.classAt i = b.classAt i := hnew.classes
  refine (ends_inheritConstructor hadds₁ hnoted₁ hid (by rw [hsame id hid, hc₀]) (hf c₀ (by simp))
    (hs c₀ (by simp)) className).bind_bind ?_
  rintro _ b₂ ⟨hadds₂, hnoted₂, hhere₂, helse₂⟩
  refine (ends_inheritAllMethods hadds₂ hnoted₂ hid (by rw [hhere₂, hsame id hid])
    (fun m hm => hf m (by simp [hm])) hs hapart className).bind_bind ?_
  rintro _ b₃ ⟨hadds₃, hnoted₃, hhere₃, helse₃⟩
  simp only [heirClass, hr₀, hc₀]
  refine (ends_inheritReader r₀ className b₃).bind ?_
  rintro reader' _ ⟨hreader, s', rfl⟩
  have hadds := (hadds₃.withSignature s').modify fun c => { c with attributes := some reader' }
  refine .bind_of_ok (Binding.effect_modifyClass _ _ _) (.pure ⟨rfl, ?_, r₀, reader', rfl, hreader, hadds⟩)
  refine hadds.inherits (fun i hi => ?_) ?_ ?_
  · rw [Binding.classAt_withClass_of_ne (Nat.ne_of_lt hi)]
    show b₃.classAt i = _
    by_cases heq : i = id
    · subst heq
      rw [hhere₃, hhere₂, hsame i hi, if_pos rfl, Binding.rereadClass, hc₀, Option.map_some]
    · rw [helse₃ i hi heq, helse₂ i hi heq, hsame i hi, if_neg (by simpa using Ne.symm heq)]
  · have hnoted₄ : b₃.Noted [] (b₃.withSignature s') := .of_push rfl
    have hnoted := hnoted₃.append hnoted₄ (by simpa using hs) (by simp)
    rw [List.append_nil, ← hentries] at hnoted
    exact hnoted.withClass _ _
  · have hheirs : b.Inherited (some id) (heirClass b (b.classAt id) className reader') :=
      inherited_heirClass className hr₀ hreader.kind hreader.members
    rwa [heirClass, hc₀] at hheirs

lemma signatures_heirClass (b : Binding) (base : ClassDef) (className : String) (reader : Method) :
    (heirClass b base className reader).entries.map Method.signature =
      base.entries.map Method.signature := by
  rw [entries_heirClass, List.map_map]
  rfl

lemma names_heirClass (b : Binding) (base : ClassDef) (className : String) (reader : Method) :
    (heirClass b base className reader).methods.map Method.name = base.methods.map Method.name := by
  rw [heirClass, List.map_map]
  rfl

lemma whole_heirClass {base : ClassDef} {n : Nat} (h : base.Whole n) (className : String)
    (reader : Method) : (heirClass b base className reader).Whole n := by
  refine ⟨?_, rfl, ?_, ?_, ?_, ?_⟩
  · simpa only [heirClass, Option.isSome_map] using h.constructor
  · rw [entries_heirClass]
    intro m hm
    obtain ⟨m₀, -, rfl⟩ := List.mem_map.mp hm
    rfl
  · rw [entries_heirClass]
    intro m hm
    obtain ⟨m₀, hm₀, rfl⟩ := List.mem_map.mp hm
    exact h.known m₀ hm₀
  · rw [signatures_heirClass]
    exact h.apart
  · rw [names_heirClass]
    exact h.names

/-- The attempt to inherit where there is no constructor leaves a class behind that nobody knows. -/
lemma ends_inherit_of_none (hc : (b.classAt id).constructor = none) (hid : id < b.classes.size)
    (className : String) :
    (inherit id className).Ends b (fun _ _ => False)
      (fun f b' => f.isCaught = false ∨ b.Inherits none b' ∧
        ∃ reader s, b.signatures.size ≤ s ∧ s < b'.signatures.size ∧
          b.Adds (newClass (some className) (b.classAt id).name reader b.classes.size s) b') := by
  refine .bind_of_ok (Act.effect_state b) ?_
  dsimp only
  have hmake := ends_make (some className) (b.classAt id).name b
  refine (hmake.mono (fun _ _ h => h) fun _ _ => .inl).bind ?_
  rintro _ b₁ ⟨rfl, hnew, reader, s, hle, hlt, hadds, -⟩
  have hmethod : (Binding.method ⟨id, .constructor⟩).effect b₁ = (.error .noSuchPart, b₁) := by
    rw [Binding.method, Act.effect_bind_of_ok (Act.effect_state b₁), ClassDef.method?,
      show b₁.classAt id = b.classAt id from hnew.classes id hid, hc]
    rfl
  have hinherit : (Method.inherit ⟨id, .constructor⟩ className).effect b₁ =
      (.error .noSuchPart, b₁) := Act.effect_bind_of_error hmethod
  exact .of_error (Act.effect_bind_of_error hinherit) 
    (.inr ⟨hnew, reader, s, hle, hlt, hadds⟩)

end Class

end HeaderBind
