import HeaderBind.Class.Declare
import HeaderBind.Proofs.Binding.Basic
import HeaderBind.Proofs.Class.Whole
import HeaderBind.Proofs.Code.Labels
import HeaderBind.Proofs.Method.Lookup

/-!
# Tidy bindings

A binding is tidy when all that the code of a function is pieced together from, apart from arguments and
results, is a name: the names of classes, methods and members, and the sizes of arrays. Declaring more
keeps a binding tidy as long as the new names are names. The actions that matter are also used where code
is written; what they maintain is therefore stated for every property that lasts (`Lasting`).
-/

namespace HeaderBind

namespace IsName

variable {a b : String}

lemma append (ha : IsName a) (hb : IsName b) : IsName (a ++ b) := by
  simp only [IsName, String.toList_append, List.mem_append, not_or]
  exact ⟨⟨ha.1, hb.1⟩, ⟨ha.2.1, hb.2.1⟩, ha.2.2, hb.2.2⟩

lemma ofList {cs : List Char} (h : ' ' ∉ cs ∧ '\n' ∉ cs ∧ ':' ∉ cs) : IsName (String.ofList cs) := by
  rwa [IsName, String.toList_ofList]

lemma strip (h : IsName a) : IsName (Text.strip a) := by
  have hsub : ∀ c ∈ (Text.strip a).toList, c ∈ a.toList := by
    intro c hc
    rw [Text.strip, String.toList_ofList, Text.trimRight, List.mem_reverse] at hc
    have hdrop := (List.dropWhile_suffix _).subset hc
    exact (List.dropWhile_suffix _).subset (List.mem_reverse.mp hdrop)
  exact ⟨fun hc => h.1 (hsub _ hc), fun hc => h.2.1 (hsub _ hc), fun hc => h.2.2 (hsub _ hc)⟩

lemma some (h : IsName a) : ∀ t ∈ Option.some a, IsName t := by
  rintro t ⟨⟩
  exact h

end IsName

/-! ### What is tidy -/

/-- The type of a member is tidy: it is stored as its kind says, it has no length of its own, and its name
and the size of an array are names. -/
structure CType.Tidy (t : CType) : Prop where
  name : IsName t.name
  integer : ∀ i, t.kind = .integer i → t.type = i.cName
  integerOut : ∀ i, t.kind = .integerOut i → t.type = i.cName
  single : t.kind.isBuffer = false
  given : t.has "NULL_OK" = false
  size : ∀ d s, t.extra.lookup "array_size" = some d → d.asText = .ok s → IsName s

/-- What a method is called is a name, and so are its classes. -/
structure Method.Tidy (m : Method) : Prop where
  name : IsName m.name
  className : ∀ s ∈ m.className, IsName s
  definitionClass : ∀ s ∈ m.definitionClass, IsName s
  proxy : ∀ p ∈ m.proxy, IsName p.name

/-- The class and its methods have names, and only the reader of attributes reads attributes; it has an
error exit. -/
structure ClassDef.Tidy (c : ClassDef) : Prop where
  name : ∀ s ∈ c.name, IsName s
  entries : ∀ m ∈ c.entries, m.Tidy ∧ m.kind ≠ .attributes
  reader : ∀ m ∈ c.attributes, m.Tidy ∧ m.errorSet = true

/-- All classes and all members are tidy. -/
structure Binding.Tidy (s : Settings) (b : Binding) : Prop where
  settings : b.settings = s
  classes : ∀ i, (b.classAt i).Tidy
  members : ∀ i, (b.memberAt i).ctype.Tidy

lemma isName_empty : IsName "" := by
  simp [IsName]

lemma CType.tidy_default : (default : CType).Tidy where
  name := isName_empty
  integer := nofun
  integerOut := nofun
  single := rfl
  given := rfl
  size := nofun

/-- A type with a name that is a name, and with nothing but the size of an array. -/
lemma CType.gives_make {name : String} {named : List (String × Datum)} (kind : Kind) (type : String)
    (hname : IsName name)
    (hnamed : ∀ e ∈ named, e.1 = "array_size" ∧ Gives IsName e.2.asText) :
    Gives Tidy (make kind name type [] named) := by
  have hlength : named.lookup "length" = none := by
    rw [List.lookup_eq_none_iff]
    intro e he
    rw [(hnamed e he).1]
    decide
  have hsize : ∀ d t, named.lookup "array_size" = some d → d.asText = .ok t → IsName t := by
    intro d t hd ht
    obtain ⟨l₁, l₂, rfl, -⟩ := List.lookup_eq_some_iff.mp hd
    exact (hnamed ("array_size", d) (by simp)).2 t ht
  unfold make
  dsimp only
  split
  · exact .error _
  · split
    · rw [takeParameter, hlength]
      exact .error _
    next hbuffer =>
      refine .bind (P := fun stored => (∀ i, kind = .integer i → stored = i.cName) ∧
        ∀ i, kind = .integerOut i → stored = i.cName) ?_ fun stored hstored =>
          .bind (P := fun _ => True) (fun _ _ => trivial) fun declared _ => .ok ?_
      · cases kind <;> simp [storageType, Gives]
      · exact ⟨hname, hstored.1, hstored.2, by simpa using hbuffer, rfl, hsize⟩

lemma Registry.gives_resolve {name : String} {named : List (String × Datum)} (r : Registry)
    (type : String) (hname : IsName name)
    (hnamed : ∀ e ∈ named, e.1 = "array_size" ∧ Gives IsName e.2.asText) :
    Gives CType.Tidy (r.resolve name type [] named) := by
  unfold resolve
  dsimp only
  split
  · exact .error _
  · split
    · exact CType.gives_make _ _ hname nofun
    · refine .bind (P := fun t => "NULL_OK" ∉ t.attributes) ?_ fun selection hselection => ?_
      · unfold select
        split
        · exact .error _
        next word rest _ =>
          by_cases hmark : marks.contains word
          · simp only [hmark, if_true]
            refine .bind (P := fun _ => True) (fun _ _ => trivial) fun kind _ => .ok ?_
            rintro hmem
            rw [← List.mem_singleton.mp hmem] at hmark
            revert hmark
            decide
          · simp only [hmark]
            exact .bind (P := fun _ => True) (fun _ _ => trivial) fun kind _ => .ok List.not_mem_nil
      · refine .bind (CType.gives_make _ _ hname hnamed) fun t ht => .ok ?_
        exact { ht with given := by simpa [CType.has] using hselection }

lemma CType.Tidy.mark {t : CType} {mark : String} (h : t.Tidy) (hm : mark ≠ "NULL_OK") :
    (t.mark mark).Tidy := by
  refine { h with given := ?_ }
  have hgiven := h.given
  simp only [CType.has, CType.mark, List.contains_eq_mem, List.mem_insert_iff, decide_eq_false_iff_not,
    not_or] at hgiven ⊢
  exact ⟨hm.symm, hgiven⟩

/-- A class without methods only needs a name. -/
lemma ClassDef.tidy_of_bare {c : ClassDef} (hn : ∀ t ∈ c.name, IsName t) (he : c.entries = [])
    (ha : c.attributes = none) : c.Tidy := by
  refine ⟨hn, fun m hm => ?_, fun m hm => ?_⟩
  · simp [he] at hm
  · simp [ha] at hm

lemma ClassDef.tidy_default : (default : ClassDef).Tidy := by
  apply tidy_of_bare
  · intro t ht
    simp [default, instInhabitedClassDef.default] at ht
  · rfl
  · rfl

namespace ClassDef.Tidy

variable {c : ClassDef} {m : Method}

lemma method (h : c.Tidy) {slot : MethodSlot} (hm : c.method? slot = some m) :
    m.Tidy ∧ (slot = .attributes → m.errorSet = true) ∧ (slot ≠ .attributes → m.kind ≠ .attributes) := by
  cases slot with
  | constructor =>
    have hentry := h.entries m (List.mem_append_left _ (Option.mem_toList.mpr hm))
    exact ⟨hentry.1, nofun, fun _ => hentry.2⟩
  | attributes => exact ⟨(h.reader m hm).1, fun _ => (h.reader m hm).2, fun hs => absurd rfl hs⟩
  | method i =>
    have hentry := h.entries m (List.mem_append_right _ (List.mem_of_getElem? hm))
    exact ⟨hentry.1, nofun, fun _ => hentry.2⟩

/-- A method may be changed as long as it stays tidy and keeps its kind, and the reader its error exit. -/
lemma modifyMethod {f : Method → Method} (h : c.Tidy) (slot : MethodSlot)
    (hf : ∀ m, c.method? slot = some m → m.Tidy →
      (f m).Tidy ∧ (f m).kind = m.kind ∧
        (slot = .attributes → m.errorSet = true → (f m).errorSet = true)) :
    (c.modifyMethod slot f).Tidy := by
  have hentry : ∀ m, c.method? slot = some m → m ∈ c.entries → (f m).Tidy ∧ (f m).kind ≠ .attributes := by
    intro m hslot hm
    obtain ⟨htidy, hkind, -⟩ := hf m hslot (h.entries m hm).1
    exact ⟨htidy, hkind ▸ (h.entries m hm).2⟩
  refine ⟨?_, ?_, ?_⟩
  · cases slot <;> exact h.name
  · intro m hm
    cases slot with
    | attributes => exact h.entries m hm
    | constructor =>
      rcases List.mem_append.mp hm with hm | hm
      · rw [ClassDef.modifyMethod, Option.mem_toList, Option.map_eq_some_iff] at hm
        obtain ⟨m, hslot, rfl⟩ := hm
        exact hentry m hslot (List.mem_append_left _ (Option.mem_toList.mpr hslot))
      · exact h.entries m (List.mem_append_right _ hm)
    | method i =>
      rcases List.mem_append.mp hm with hm | hm
      · exact h.entries m (List.mem_append_left _ hm)
      · obtain ⟨j, hj⟩ := List.getElem?_of_mem hm
        rw [ClassDef.modifyMethod, List.getElem?_modify, Option.map_eq_map, Option.map_eq_some_iff] at hj
        obtain ⟨m, hslot, rfl⟩ := hj
        have hmem := List.mem_append_right c.constructor.toList (List.mem_of_getElem? hslot)
        split
        next hij =>
          subst hij
          exact hentry m hslot hmem
        next => exact h.entries m hmem
  · intro m hm
    cases slot with
    | attributes =>
      rw [ClassDef.modifyMethod, Option.mem_def, Option.map_eq_some_iff] at hm
      obtain ⟨m, hm, rfl⟩ := hm
      obtain ⟨htidy, -, herror⟩ := hf m hm (h.reader m hm).1
      exact ⟨htidy, herror rfl (h.reader m hm).2⟩
    | constructor => exact h.reader m hm
    | method => exact h.reader m hm

lemma withReader (h : c.Tidy) (hm : m.Tidy ∧ m.errorSet = true) :
    ({ c with attributes := some m } : ClassDef).Tidy := by
  refine ⟨h.name, h.entries, ?_⟩
  rintro m' ⟨⟩
  exact hm

lemma withConstructor (h : c.Tidy) (hm : m.Tidy ∧ m.kind ≠ .attributes) :
    ({ c with constructor := some m } : ClassDef).Tidy := by
  refine ⟨h.name, fun m' hm' => ?_, h.reader⟩
  rcases List.mem_append.mp hm' with hm' | hm'
  · cases Option.mem_toList.mp hm'
    exact hm
  · exact h.entries m' (List.mem_append_right _ hm')

lemma withoutConstructor (h : c.Tidy) (kind : ClassKind) (active : Bool) :
    ({ c with kind, active, constructor := none } : ClassDef).Tidy := by
  refine ⟨h.name, fun m hm => ?_, h.reader⟩
  exact h.entries m (List.mem_append_right _ hm)

lemma withoutReader (h : c.Tidy) (kind : ClassKind) (active : Bool) :
    ({ c with kind, active, attributes := none } : ClassDef).Tidy := by
  refine ⟨h.name, h.entries, fun m hm => ?_⟩
  simp at hm

lemma withMethods (h : c.Tidy) {ms : List Method} (hms : ∀ m ∈ ms, m.Tidy ∧ m.kind ≠ .attributes) :
    ({ c with methods := ms } : ClassDef).Tidy := by
  refine ⟨h.name, fun m' hm' => ?_, h.reader⟩
  rcases List.mem_append.mp hm' with hm' | hm'
  · exact h.entries m' (List.mem_append_left _ hm')
  · exact hms m' hm'

end ClassDef.Tidy

namespace Binding

variable {s : Settings} {b b' : Binding}

namespace Tidy

lemma congr (h : b.Tidy s) (hs : b'.settings = b.settings) (hc : b'.classes = b.classes)
    (hm : b'.members = b.members) : b'.Tidy s := by
  refine ⟨hs.trans h.settings, fun i => ?_, fun i => ?_⟩
  · rw [classAt, hc]
    exact h.classes i
  · rw [memberAt, hm]
    exact h.members i

lemma withClass (h : b.Tidy s) {id : ClassId} {f : ClassDef → ClassDef}
    (hf : (b.classAt id).Tidy → (f (b.classAt id)).Tidy) : (b.withClass id f).Tidy s := by
  refine ⟨h.settings, fun i => ?_, h.members⟩
  by_cases hi : i = id
  · subst hi
    by_cases hlt : i < b.classes.size
    · rw [classAt_withClass hlt]
      exact hf (h.classes i)
    · have hnone : (b.withClass i f).classes[i]? = none := by
        simpa using Nat.le_of_not_lt hlt
      rw [classAt, hnone]
      exact ClassDef.tidy_default
  · rw [classAt_withClass_of_ne hi]
    exact h.classes i

lemma push (h : b.Tidy s) {c : ClassDef} (hc : c.Tidy) :
    ({ b with classes := b.classes.push c } : Binding).Tidy s := by
  refine ⟨h.settings, fun i => ?_, h.members⟩
  simp only [classAt, Array.getElem?_push]
  split
  · exact hc
  · exact h.classes i

lemma pushMember (h : b.Tidy s) {x : Member} (hx : x.ctype.Tidy) :
    ({ b with members := b.members.push x } : Binding).Tidy s := by
  refine ⟨h.settings, h.classes, fun i => ?_⟩
  simp only [memberAt, Array.getElem?_push]
  split
  · exact hx
  · exact h.members i

lemma modifyMember (h : b.Tidy s) {id : MemberId} {f : Member → Member}
    (hf : (b.memberAt id).ctype.Tidy → (f (b.memberAt id)).ctype.Tidy) :
    ({ b with members := b.members.modify id f } : Binding).Tidy s := by
  refine ⟨h.settings, h.classes, fun i => ?_⟩
  have hold := h.members i
  simp only [memberAt, Array.getElem?_modify]
  split
  next hi =>
    subst hi
    have hnew := hf (h.members id)
    rw [memberAt] at hnew hold
    cases hx : b.members[id]? with
    | none => exact CType.tidy_default
    | some x =>
      rw [hx] at hnew
      exact hnew
  next => exact hold

end Tidy

/-- A property of bindings that lasts while they stay tidy and nothing is written. -/
structure Lasting (s : Settings) (I : Binding → Prop) : Prop where
  tidy : ∀ b, I b → b.Tidy s
  step : ∀ b b', I b → b'.Tidy s → b'.out = b.out → I b'

lemma lasting_tidy (s : Settings) : Lasting s (Tidy s) :=
  ⟨fun _ h => h, fun _ _ _ h _ => h⟩

end Binding

/-! ### Actions on parts of a binding -/

section Actions

variable {α : Type} {s : Settings} {I : Binding → Prop} (hI : Binding.Lasting s I)

include hI

namespace Binding

lemma maintains_update {f : Binding → Binding} (hf : ∀ b, b.Tidy s → (f b).Tidy s)
    (ho : ∀ b, (f b).out = b.out) : (Act.update f).Maintains I fun _ => True :=
  .update fun b hb => hI.step b _ hb (hf b (hI.tidy b hb)) (ho b)

lemma maintains_modifyClass {id : ClassId} {f : ClassDef → ClassDef}
    (hf : ∀ c : ClassDef, c.Tidy → (f c).Tidy) : (modifyClass id f).Maintains I fun _ => True :=
  maintains_update hI (fun _ hb => hb.withClass (hf _)) fun _ => rfl

lemma maintains_modifyMethod {ref : MethodRef} {f : Method → Method}
    (hf : ∀ m : Method, m.Tidy →
      (f m).Tidy ∧ (f m).kind = m.kind ∧
        (ref.slot = .attributes → m.errorSet = true → (f m).errorSet = true)) :
    (modifyMethod ref f).Maintains I fun _ => True :=
  maintains_modifyClass hI fun _ hc => hc.modifyMethod ref.slot fun m _ => hf m

lemma maintains_modifySignature (id : SignatureId) (f : Signature → Signature) :
    (modifySignature id f).Maintains I fun _ => True :=
  maintains_update hI (fun _ hb => hb.congr rfl rfl rfl) fun _ => rfl

lemma maintains_modifyMember {id : MemberId} {f : Member → Member}
    (hf : ∀ x : Member, x.ctype.Tidy → (f x).ctype.Tidy) :
    (modifyMember id f).Maintains I fun _ => True :=
  maintains_update hI (fun _ hb => hb.modifyMember (hf _)) fun _ => rfl

lemma maintains_addMember {x : Member} (hx : x.ctype.Tidy) :
    (addMember x).Maintains I fun _ => True := by
  refine .bind .state fun _ _ => .andThen (maintains_update hI (fun b hb => ?_) fun _ => rfl)
    fun _ => .pure trivial
  exact hb.pushMember hx

lemma maintains_addClassDef {c : ClassDef} (hc : c.Tidy) :
    (addClassDef c).Maintains I fun _ => True := by
  refine .bind .state fun _ _ => .andThen (maintains_update hI (fun b hb => ?_) fun _ => rfl)
    fun _ => .pure trivial
  exact hb.push hc

lemma maintains_addSignature (t : Signature) : (addSignature t).Maintains I fun _ => True := by
  refine .bind .state fun _ _ => .andThen (maintains_update hI (fun b hb => ?_) fun _ => rfl)
    fun _ => .pure trivial
  exact hb.congr rfl rfl rfl

omit hI in
lemma maintains_method (hI : ∀ b, I b → b.Tidy s) (ref : MethodRef) : (method ref).Maintains I fun m =>
    m.Tidy ∧ (ref.slot = .attributes → m.errorSet = true) ∧
      (ref.slot ≠ .attributes → m.kind ≠ .attributes) := by
  refine .bind .state fun b hb => ?_
  split
  next m hm => exact .pure (((hI b hb).classes ref.cls).method hm)
  next => exact .fail _

end Binding

omit hI in
lemma Consults.maintains {act : Act Binding α} (h : Consults act) :
    act.Maintains I fun _ => True := by
  intro b hb
  rw [Act.Ends, h.effect_eq b]
  cases (act.effect b).1 with
  | error => exact hb
  | ok => exact ⟨hb, trivial⟩

omit hI in
lemma maintains_need {name : Option String} : (Binding.need name).Maintains I fun t => t ∈ name := by
  refine .lift fun t ht => ?_
  cases name with
  | none => cases ht
  | some name =>
    cases ht
    rfl

/-! ### Declaring methods -/

namespace Method

lemma maintains_readNotes (ref : MethodRef) : (readNotes ref).Maintains I fun _ => True := by
  refine .bind (Binding.maintains_method hI.tidy ref) fun m _ => ?_
  refine .andThen (.forIn fun a _ => .andThen ?_ fun _ => .pure trivial) fun _ => .pure trivial
  cases a with
  | default name value =>
    exact .andThen (Consults.maintains (.report _)) fun _ => Binding.maintains_modifySignature hI _ _
  | raises r =>
    apply Binding.maintains_modifyMethod hI
    exact fun m hm => ⟨⟨hm.name, hm.className, hm.definitionClass, hm.proxy⟩, rfl, fun _ h => h⟩

lemma maintains_make {className baseName : Option String} {name : String} (kind : MethodKind)
    (args : List (String × String)) (returns : String) (owner : Option ClassId)
    (hc : ∀ t ∈ className, IsName t) (hn : IsName name) :
    (make kind className baseName name args returns owner).Maintains I fun m =>
      m.Tidy ∧ m.kind = kind := by
  cases owner with
  | none => exact .fail _
  | some owner =>
    refine .andThen (Consults.maintains (consults_addAllTo _ _ _ _)) fun args => ?_
    refine .andThen (Consults.maintains (consults_resultType _ _ _)) fun result => ?_
    refine .andThen (Binding.maintains_addSignature hI _) fun signature => .pure ?_
    exact ⟨⟨hn, hc, hc, nofun⟩, rfl⟩

omit hI in
lemma isName_readerName {className : Option String} (hc : ∀ t ∈ className, IsName t) :
    IsName (readerName className) := by
  unfold readerName
  split
  next name =>
    split
    · exact isName_empty
    · exact .append (.append (.ofList (by decide)) (hc name rfl)) (.ofList (by decide))
  next => exact isName_empty

lemma maintains_rename {m : Method} {className : Option String} (hm : m.Tidy)
    (hc : ∀ t ∈ className, IsName t) :
    (m.rename className).Maintains I fun m' => m'.Tidy ∧ m'.errorSet = m.errorSet := by
  refine .andThen (.forIn fun id _ => .andThen ?_ fun _ => .pure trivial) fun _ => .pure ?_
  · exact Binding.maintains_modifyMember hI fun x hx => hx
  · refine ⟨⟨isName_readerName hc, ?_, hm.definitionClass, hm.proxy⟩, rfl⟩
    rintro t ⟨⟩
    cases className with
    | none => exact isName_empty
    | some name => exact hc name rfl

lemma maintains_makeReader {className : Option String} (baseName : Option String) (owner : ClassId)
    (hc : ∀ t ∈ className, IsName t) :
    (makeReader className baseName owner).Maintains I fun m => m.Tidy ∧ m.errorSet = true := by
  refine .bind (maintains_make hI _ _ _ _ hc isName_empty) fun m hm => ?_
  have htidy : ({ m with errorSet := true } : Method).Tidy :=
    ⟨hm.1.name, hm.1.className, hm.1.definitionClass, hm.1.proxy⟩
  exact maintains_rename hI htidy hc

lemma maintains_inherit {ref : MethodRef} {className : String} (hr : ref.slot ≠ .attributes)
    (hc : IsName className) :
    (Method.inherit ref className).Maintains I fun m => m.Tidy ∧ m.kind ≠ .attributes := by
  refine .bind (Binding.maintains_method hI.tidy ref) fun m _ => ?_
  have hrest : (do
      readNotes ref
      let m ← Binding.method ref
      let copy ← make m.kind (some className) m.baseName m.name [] "void *" (some m.owner)
      return { copy with
        signature := m.signature
        definitionClass := m.definitionClass
        exception := m.exception } : Act Binding Method).Maintains I fun m =>
      m.Tidy ∧ m.kind ≠ .attributes := by
    refine .andThen (maintains_readNotes hI ref) fun _ => ?_
    refine .bind (Binding.maintains_method hI.tidy ref) fun m hm => ?_
    refine .bind (maintains_make hI _ _ _ _ hc.some hm.1.name) fun copy hcopy => .pure ?_
    refine ⟨⟨hcopy.1.name, hcopy.1.className, hm.1.definitionClass, hcopy.1.proxy⟩, ?_⟩
    exact hcopy.2 ▸ hm.2.2 hr
  split
  · exact .fail _
  · exact hrest

lemma maintains_inheritReader (m : Method) {className : String} (hc : IsName className) :
    (m.inheritReader className).Maintains I fun m => m.Tidy ∧ m.errorSet = true := by
  refine .bind (maintains_makeReader hI _ _ hc.some) fun copy hcopy => .pure ?_
  exact ⟨⟨hcopy.1.name, hcopy.1.className, hcopy.1.definitionClass, hcopy.1.proxy⟩, hcopy.2⟩

lemma maintains_makeProxy (ref : MethodRef) : (makeProxy ref).Maintains I fun _ => True := by
  refine .bind (Binding.maintains_method hI.tidy ref) fun m hm => ?_
  refine Binding.maintains_modifyMethod hI fun m' hm' => ⟨⟨hm'.name, hm'.className, hm'.definitionClass, ?_⟩, rfl, fun _ h => h⟩
  rintro p ⟨⟩
  exact hm.1.name

end Method

/-! ### Declaring classes -/

namespace Class

lemma maintains_make {name : Option String} (baseName : Option String) (hn : ∀ t ∈ name, IsName t) :
    (Class.make name baseName).Maintains I fun _ => True := by
  refine .andThen (Binding.maintains_addClassDef hI (ClassDef.tidy_of_bare hn rfl rfl)) fun id => ?_
  refine .bind (Method.maintains_makeReader hI _ _ hn) fun reader hreader => ?_
  refine .andThen (Binding.maintains_modifyClass hI fun c hc => hc.withReader hreader) fun _ => ?_
  refine .bind (Method.maintains_make hI _ _ _ _ hn (.ofList (by decide))) fun m hm => ?_
  refine .andThen (Binding.maintains_modifyClass hI fun c hc => ?_) fun _ => .pure trivial
  exact hc.withConstructor ⟨hm.1, hm.2 ▸ by decide⟩

lemma maintains_makeStruct {name : Option String} (hn : ∀ t ∈ name, IsName t) :
    (makeStruct name).Maintains I fun _ => True := by
  refine .andThen (maintains_make hI _ hn) fun id => ?_
  exact .andThen (Binding.maintains_modifyClass hI fun c hc => hc.withoutConstructor _ _) fun _ =>
    .pure trivial

lemma maintains_makeEnum {name : Option String} (hn : ∀ t ∈ name, IsName t) :
    (makeEnum name).Maintains I fun _ => True := by
  refine .andThen (maintains_makeStruct hI hn) fun id => ?_
  exact .andThen (Binding.maintains_modifyClass hI fun c hc => hc.withoutReader _ _) fun _ =>
    .pure trivial

lemma maintains_inheritMethods {className : String} (id : ClassId) (hc : IsName className)
    (count i : Nat) : (inheritMethods id className i count).Maintains I fun ms =>
      ∀ m ∈ ms, m.Tidy ∧ m.kind ≠ .attributes := by
  induction count generalizing i with
  | zero => exact .pure fun m hm => absurd hm List.not_mem_nil
  | succ count ih =>
    refine .bind (Method.maintains_inherit hI nofun hc) fun m hm => ?_
    refine .bind (ih (i + 1)) fun ms hms => .pure ?_
    exact List.forall_mem_cons.mpr ⟨hm, hms⟩

lemma maintains_inherit {className : String} (id : ClassId) (hc : IsName className) :
    (Class.inherit id className).Maintains I fun _ => True := by
  refine .bind .state fun b hb => ?_
  refine .andThen (maintains_make hI _ hc.some) fun new => ?_
  refine .bind (Method.maintains_inherit hI nofun hc) fun m hm => ?_
  refine .andThen (Binding.maintains_modifyClass hI fun c hc => hc.withConstructor hm) fun _ => ?_
  refine .bind (maintains_inheritMethods hI id hc _ _) fun ms hms => ?_
  refine .andThen (Binding.maintains_modifyClass hI fun c hc => hc.withMethods hms) fun _ => ?_
  split
  next reader _ =>
    refine .bind (Method.maintains_inheritReader hI reader hc) fun m hm => ?_
    exact .andThen (Binding.maintains_modifyClass hI fun c hc => hc.withReader hm) fun _ => .pure trivial
  next => exact .fail _

lemma maintains_declare (id : ClassId) (kind : Kind) : (declare id kind).Maintains I fun _ => True :=
  Binding.maintains_update hI (fun _ hb => hb.congr rfl rfl rfl) fun _ => rfl

omit hI in
lemma maintains_isActive (id : ClassId) : (isActive id).Maintains I fun _ => True := by
  refine .bind .state fun b _ => ?_
  dsimp only
  split
  · exact .pure trivial
  · split
    · refine .bind maintains_need fun _ _ => ?_
      exact .andThen (Consults.maintains (.report _)) fun _ => .pure trivial
    · exact .pure trivial

lemma maintains_addWanted {name modifier : String} {named : List (String × Datum)} (id : ClassId)
    (type : String) (hname : IsName name) (hmodifier : modifier ≠ "NULL_OK")
    (hnamed : ∀ e ∈ named, e.1 = "array_size" ∧ Gives IsName e.2.asText) :
    (addWanted id name type modifier named).Maintains I fun _ => True := by
  refine .bind .state fun b hb => ?_
  have hresolve := b.registry.gives_resolve s!"BORROWED {type}" hname hnamed
  dsimp only
  split
  · exact Consults.maintains (.report _)
  · exact .fail _
  next t ht =>
    split
    next reader _ =>
      split
      · refine .andThen (Binding.maintains_addMember hI ((hresolve t ht).mark hmodifier)) fun member => ?_
        apply Binding.maintains_modifyMethod hI
        exact fun m hm => ⟨⟨hm.name, hm.className, hm.definitionClass, hm.proxy⟩, rfl, fun _ h => h⟩
      · exact .pure trivial
    next => exact .fail _

lemma maintains_addAttribute {name modifier : String} {named : List (String × Datum)} (id : ClassId)
    (type : String) (hname : IsName name) (hmodifier : modifier ≠ "NULL_OK")
    (hnamed : ∀ e ∈ named, e.1 = "array_size" ∧ Gives IsName e.2.asText) :
    (addAttribute id name type modifier named).Maintains I fun _ => True := by
  have hwanted : (do
      if ← isWanted type then
        addWanted id name type modifier named : Act Binding Unit).Maintains I fun _ => True := by
    refine .andThen (.bind .state fun b _ => ?_) fun wanted => ?_
    · split
      · exact maintains_isActive _
      · exact .pure trivial
    · split
      · exact maintains_addWanted hI id type hname hmodifier hnamed
      · exact .pure trivial
  unfold addAttribute
  split
  · exact .fail _
  · exact hwanted

lemma maintains_prepareStruct (id : ClassId) : (prepareStruct id).Maintains I fun _ => True := by
  refine .bind .state fun b hb => ?_
  have hclass := (hI.tidy b hb).classes id
  dsimp only
  split
  · refine .bind (Method.maintains_make hI _ _ _ _ hclass.name (.ofList (by decide))) fun m hm => ?_
    refine .andThen (Binding.maintains_modifyClass hI fun c hc => ?_) fun _ => ?_
    · exact hc.withConstructor ⟨hm.1, hm.2 ▸ by decide⟩
    · split
      next reader hreader =>
        obtain ⟨htidy, herror⟩ := hclass.reader reader hreader
        refine .bind (Method.maintains_rename hI htidy hclass.name) fun reader' hreader' => ?_
        refine .andThen (Binding.maintains_modifyClass hI fun c hc => ?_) fun _ => ?_
        · exact hc.withReader ⟨hreader'.1, hreader'.2.trans herror⟩
        · refine .andThen (.forIn fun member _ => .andThen ?_ fun _ => .pure trivial) fun _ =>
            .pure trivial
          exact Binding.maintains_modifyMember hI fun x hx => hx.mark (by decide)
      next => exact .fail _
  · exact .pure trivial

lemma maintains_prepare (id : ClassId) : (prepare id).Maintains I fun _ => True := by
  refine .bind .state fun b hb => ?_
  have hclass := (hI.tidy b hb).classes id
  dsimp only
  split
  · exact .pure trivial
  · exact maintains_prepareStruct hI id
  · refine .bind (Method.maintains_make hI _ _ _ _ hclass.name (.ofList (by decide))) fun m hm => ?_
    refine .andThen (Binding.maintains_modifyClass hI fun c hc => ?_) fun _ =>
      maintains_prepareStruct hI id
    exact hc.withConstructor ⟨hm.1, hm.2 ▸ by decide⟩

end Class

end Actions

end HeaderBind
