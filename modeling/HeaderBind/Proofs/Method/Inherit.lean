import HeaderBind.Proofs.Class.Whole
import HeaderBind.Proofs.Method.Lookup

/-!
# How methods come about

A new method has a signature of its own, the next one that is free (`ends_make`). The method that a
class inherits is the heir of another one: it shares its signature, once the comment of that method was
read (`ends_inherit`).
-/

namespace HeaderBind

namespace Method

/-! ### New methods -/

/-- The result of a method as its kind has it: an iterator ends by returning nothing. -/
def resultOf (kind : MethodKind) (t : CType) : CType :=
  if kind.isIterator then t.mark "NULL_OK" else t

/-- A method as it is declared in a class. -/
def newMethod (kind : MethodKind) (className baseName : Option String) (name : String)
    (owner : ClassId) (signature : SignatureId) : Method :=
  { kind, name, className, baseName, definitionClass := className, owner, signature }

lemma ends_make (kind : MethodKind) (className baseName : Option String) (name returns : String)
    (owner : ClassId) (b : Binding) :
    (make kind className baseName name [] returns (some owner)).Ends b
      (fun m b' => m = newMethod kind className baseName name owner b.signatures.size ∧
        ∃ t, ((resultType className name returns).effect b).1 = .ok t ∧
          b' = b.withSignature { returns := resultOf kind t })
      (fun f _ => f.isCaught = false) := by
  have hargs : (addAllTo className name [] []).effect b = (.ok [], b) := rfl
  have hresult := (consults_resultType className name returns).effect_eq b
  rw [make, Act.Ends, Act.effect_bind_of_ok hargs, Act.effect_bind, hresult]
  rcases hr : ((resultType className name returns).effect b).1 with f | t
  · exact uncaught_resultType className name returns b f hr
  · exact ⟨rfl, t, rfl, rfl⟩

end Method

/-! ### Notes -/

namespace Binding

/-- What is noted of a method, after its comment was read. -/
def notes (b : Binding) (m : Method) : Doc.Notes :=
  Doc.Notes.read { defaults := (b.signatureAt m.signature).defaults, exception := m.exception } m.doc

/-- The binding with other notes about a method. -/
def withNotes (b : Binding) (ref : MethodRef) (signature : SignatureId) (n : Doc.Notes) : Binding :=
  { b with
    signatures := b.signatures.modify signature fun s => { s with defaults := n.defaults }
    classes := b.classes.modify ref.cls fun c =>
      c.modifyMethod ref.slot fun m => { m with exception := n.exception } }

variable {b : Binding} {ref : MethodRef}

lemma classAt_withNotes (signature : SignatureId) (n : Doc.Notes) (h : ref.cls < b.classes.size) :
    (b.withNotes ref signature n).classAt ref.cls =
        (b.classAt ref.cls).modifyMethod ref.slot (fun m => { m with exception := n.exception }) ∧
      ∀ i, i ≠ ref.cls → (b.withNotes ref signature n).classAt i = b.classAt i :=
  classAt_of_modify (f := fun c => c.modifyMethod ref.slot _) rfl h

lemma signatureAt_withNotes {signature : SignatureId} {n : Doc.Notes}
    (h : signature < b.signatures.size) :
    (b.withNotes ref signature n).signatureAt signature =
        { b.signatureAt signature with defaults := n.defaults } ∧
      ∀ i, i ≠ signature → (b.withNotes ref signature n).signatureAt i = b.signatureAt i :=
  signatureAt_of_modify (f := fun s => { s with defaults := n.defaults }) rfl h

end Binding

namespace Method

variable {ref : MethodRef} {m : Method} {b : Binding}

lemma withNotes_eq_self (hm : (b.classAt ref.cls).method? ref.slot = some m) :
    b.withNotes ref m.signature
      { defaults := (b.signatureAt m.signature).defaults, exception := m.exception } = b := by
  have hs : b.signatures.modify m.signature
      (fun s => { s with defaults := (b.signatureAt m.signature).defaults }) = b.signatures := by
    apply modify_eq_of_eq
    intro s hs
    rw [Binding.signatureAt, hs]
    rfl
  have hc : b.classes.modify ref.cls (fun c => c.modifyMethod ref.slot fun x =>
      { x with exception := m.exception }) = b.classes := by
    apply modify_eq_of_eq
    intro c hc
    rw [Binding.classAt, hc, Option.getD_some] at hm
    exact ClassDef.modifyMethod_eq_of_eq hm rfl
  rw [Binding.withNotes, hs, hc]

lemma effect_takeOver (n : Doc.Notes) (a : Doc.Annotation) :
    (takeOver ref m a).effect (b.withNotes ref m.signature n) =
      (.ok (), b.withNotes ref m.signature (n.add a)) := by
  cases a with
  | default name value =>
    rw [takeOver, Act.effect_bind_of_ok (Binding.effect_report _ _)]
    simp only [Binding.modifySignature, Act.effect_update, Binding.withNotes, modify_twice,
      Doc.Notes.add]
  | raises r =>
    simp only [takeOver, Binding.modifyMethod, Binding.modifyClass, Act.effect_update,
      Binding.withNotes, modify_twice, ClassDef.modifyMethod_twice, Doc.Notes.add]

lemma effect_takeOver_all (n : Doc.Notes) (as : List Doc.Annotation) :
    (do for a in as do takeOver ref m a : Act Binding Unit).effect (b.withNotes ref m.signature n) =
      (.ok (), b.withNotes ref m.signature (as.foldl Doc.Notes.add n)) := by
  induction as generalizing n with
  | nil => rfl
  | cons a as ih =>
    have hround : (do takeOver ref m a; pure (ForInStep.yield PUnit.unit) : Act Binding _).effect
        (b.withNotes ref m.signature n) = (.ok (.yield ⟨⟩), b.withNotes ref m.signature (n.add a)) := by
      rw [Act.effect_bind_of_ok (effect_takeOver n a)]
      rfl
    rw [List.foldl_cons, ← ih, List.forIn_cons, Act.effect_bind, Act.effect_bind, hround,
      Act.effect_bind]

lemma effect_method (hm : (b.classAt ref.cls).method? ref.slot = some m) :
    (Binding.method ref).effect b = (.ok m, b) := by
  rw [Binding.method, Act.effect_bind_of_ok (Act.effect_state b), hm]
  rfl

lemma effect_readNotes (hm : (b.classAt ref.cls).method? ref.slot = some m) :
    (readNotes ref).effect b = (.ok (), b.withNotes ref m.signature (b.notes m)) := by
  have hself := withNotes_eq_self hm
  rw [readNotes, Act.effect_bind_of_ok (effect_method hm)]
  nth_rewrite 1 [← hself]
  exact effect_takeOver_all _ (Doc.annotations m.doc)

end Method

/-! ### Inherited methods -/

namespace Binding

/-- The signature of a method after its comment was read. -/
def noted (b : Binding) (m : Method) : Signature :=
  { b.signatureAt m.signature with defaults := (b.notes m).defaults }

/-- The method that a class of another name inherits. -/
def heir (b : Binding) (className : String) (m : Method) : Method :=
  { kind := m.kind
    name := m.name
    className := some className
    baseName := m.baseName
    definitionClass := m.definitionClass
    owner := m.owner
    signature := m.signature
    exception := (b.notes m).exception }

/-- A method after its comment was read. -/
def reread (b : Binding) (m : Method) : Method :=
  { m with exception := (b.notes m).exception }

/-- A class after the comments of its methods were read. -/
def rereadClass (b : Binding) (c : ClassDef) : ClassDef :=
  { c with constructor := c.constructor.map b.reread, methods := c.methods.map b.reread }

/-- Of the signatures that there were, those of some methods hold the notes of their comments, and the
others are as before. -/
structure Noted (b : Binding) (ms : List Method) (b' : Binding) : Prop where
  grown : b.signatures.size ≤ b'.signatures.size
  noted : ∀ m ∈ ms, b'.signatureAt m.signature = b.noted m
  others : ∀ i < b.signatures.size, i ∉ ms.map Method.signature →
    b'.signatureAt i = b.signatureAt i

namespace Noted

variable {b b' b'' : Binding} {ms ms' : List Method}

lemma heir_eq {m : Method} (h : Noted b ms b') (hm : m.signature < b.signatures.size)
    (hn : m.signature ∉ ms.map Method.signature) (className : String) :
    b'.heir className m = b.heir className m ∧ b'.noted m = b.noted m := by
  simp only [heir, Binding.noted, notes, h.others _ hm hn, and_self]

lemma reread_eq {m : Method} (h : Noted b ms b') (hm : m.signature < b.signatures.size)
    (hn : m.signature ∉ ms.map Method.signature) : b'.reread m = b.reread m := by
  simp only [reread, notes, h.others _ hm hn]

lemma append (h : Noted b ms b') (h' : Noted b' ms' b'')
    (hs : ∀ m ∈ ms ++ ms', m.signature < b.signatures.size)
    (hapart : ∀ m ∈ ms, ∀ m' ∈ ms', m.signature ≠ m'.signature) : Noted b (ms ++ ms') b'' := by
  refine ⟨Nat.le_trans h.grown h'.grown, ?_, ?_⟩
  · intro m hm
    rcases List.mem_append.mp hm with hms | hms
    · have hn : m.signature ∉ ms'.map Method.signature := by
        rw [List.mem_map]
        rintro ⟨m', hm', heq⟩
        exact hapart m hms m' hm' heq.symm
      rw [h'.others _ (Nat.lt_of_lt_of_le (hs m hm) h.grown) hn, h.noted m hms]
    · have hn : m.signature ∉ ms.map Method.signature := by
        rw [List.mem_map]
        rintro ⟨m', hm', heq⟩
        exact hapart m' hm' m hms heq
      rw [h'.noted m hms, (h.heir_eq (hs m hm) hn "").2]
  · intro i hi hn
    rw [List.map_append, List.mem_append, not_or] at hn
    rw [h'.others i (Nat.lt_of_lt_of_le hi h.grown) hn.2, h.others i hi hn.1]

end Noted

/-- What an heir of the method at a place leaves behind: the comment of the method was read, and
nothing else happened to the classes and signatures that there were. -/
structure Bequeathed (b : Binding) (ref : MethodRef) (m : Method) (b' : Binding) : Prop where
  extended : b.Extends b'
  size : b'.classes.size = b.classes.size
  here : b'.classAt ref.cls = (b.classAt ref.cls).modifyMethod ref.slot
    fun x => { x with exception := (b.notes m).exception }
  elsewhere : ∀ i, i ≠ ref.cls → b'.classAt i = b.classAt i
  noted : b.Noted [m] b'

lemma bequeathed_withSignature {b : Binding} {ref : MethodRef} {m : Method}
    (hc : ref.cls < b.classes.size) (hs : m.signature < b.signatures.size) (s : Signature) :
    b.Bequeathed ref m ((b.withNotes ref m.signature (b.notes m)).withSignature s) := by
  have hsize : (b.withNotes ref m.signature (b.notes m)).signatures.size = b.signatures.size :=
    Array.size_modify
  have hextends : b.Extends (b.withNotes ref m.signature (b.notes m)) :=
    .of_modify (f := fun c => c.modifyMethod ref.slot fun x =>
        { x with exception := (b.notes m).exception })
      (fun _ => ClassDef.outline_modifyMethod fun _ => rfl) rfl rfl rfl hsize rfl
  have hclass := classAt_withNotes m.signature (b.notes m) hc
  have hext := hextends.trans (.withSignature _ s)
  refine ⟨hext, Array.size_modify, hclass.1, hclass.2, hext.signatures, ?_, ?_⟩
  · intro m' hm'
    obtain rfl := List.mem_singleton.mp hm'
    rw [signatureAt_withSignature_of_lt (hsize ▸ hs), (signatureAt_withNotes hs).1]
    rfl
  · intro i hi hn
    rw [signatureAt_withSignature_of_lt (hsize ▸ hi),
      (signatureAt_withNotes hs).2 i (by simpa using hn)]

end Binding

lemma Method.ends_inherit (ref : MethodRef) {m : Method} {b : Binding}
    (hm : (b.classAt ref.cls).method? ref.slot = some m) (hf : m.unfinished = false)
    (hs : m.signature < b.signatures.size) (className : String) :
    (inherit ref className).Ends b
      (fun m' b' => m' = b.heir className m ∧ b.Bequeathed ref m b')
      (fun f _ => f.isCaught = false) := by
  have hc := Binding.lt_size_of_method? hm
  have hnoted : ((b.withNotes ref m.signature (b.notes m)).classAt ref.cls).method? ref.slot =
      some { m with exception := (b.notes m).exception } := by
    rw [(Binding.classAt_withNotes _ _ hc).1]
    exact ClassDef.method?_modifyMethod hm
  refine .bind_of_ok (effect_method hm) ?_
  dsimp only
  rw [if_neg (by simp [hf])]
  refine .bind_of_ok (effect_readNotes hm) (.bind_of_ok (effect_method hnoted) ?_)
  refine (ends_make m.kind (some className) m.baseName m.name "void *" m.owner _).bind ?_
  rintro copy b' ⟨rfl, t, -, rfl⟩
  exact .of_ok rfl ⟨rfl, Binding.bequeathed_withSignature hc hs _⟩

end HeaderBind
