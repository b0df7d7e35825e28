import HeaderBind.Proofs.Binding.Sound
import HeaderBind.Proofs.Header.Actions

/-!
# What declarations do to a sound binding

Whatever a header declares, a sound binding stays sound. The block of a class opens a new class: the heir
of the base where that is whole (`ends_baseClass_of_whole`), and one of its own otherwise
(`ends_baseClass`). A method that is opened brings a signature that is free (`ends_openMethod`,
`spares_openMethod`), so that it can be put into its class later.
-/

namespace HeaderBind

namespace Class

/-! ### Attributes -/

variable {γ : Type} {part : Binding → γ}

lemma keeps_report (message : String) : (Binding.report message).Keeps part := by
  intro b
  rw [Binding.effect_report]

lemma keeps_isActive (id : ClassId) : (isActive id).Keeps part := by
  refine .bind .state fun b => ?_
  dsimp only
  split
  · exact .pure _
  · split
    · exact .bind (.lift _) fun _ => .bind (keeps_report _) fun _ => .pure _
    · exact .pure _

lemma keeps_isWanted (type : String) : (isWanted type).Keeps part := by
  refine .bind .state fun b => ?_
  split
  · exact keeps_isActive _
  · exact .pure _

lemma keeps_core_addMember (m : Member) : (Binding.addMember m).Keeps Binding.core :=
  .bind .state fun _ => .bind (.update fun _ => rfl) fun _ => .pure _

lemma keeps_core_modifyReader (id : ClassId) (f : Method → Method) :
    (Binding.modifyMethod ⟨id, .attributes⟩ f).Keeps Binding.core := by
  intro b
  refine Binding.core_withClass (fun c => ?_) b id
  simp [ClassDef.core, ClassDef.modifyMethod]

lemma keeps_core_addWanted (id : ClassId) (name type modifier : String)
    (named : List (String × Datum)) : (addWanted id name type modifier named).Keeps Binding.core := by
  refine .bind .state fun b => ?_
  dsimp only
  split
  · exact keeps_report _
  · exact .fail _
  · split
    · split
      · exact (keeps_core_addMember _).bind fun _ => keeps_core_modifyReader id _
      · exact .pure _
    · exact .fail _

/-- Attributes are added to what is read of a class; what the class is does not change. -/
lemma keeps_core_addAttribute (id : ClassId) (name type modifier : String)
    (named : List (String × Datum)) :
    (addAttribute id name type modifier named).Keeps Binding.core := by
  have hrest : (do
      if ← isWanted type then
        addWanted id name type modifier named : Act Binding Unit).Keeps Binding.core := by
    refine (keeps_isWanted type).bind fun wanted => ?_
    split
    · exact keeps_core_addWanted id name type modifier named
    · exact .pure _
  rw [addAttribute]
  split
  · exact .bind (.fail _) fun _ => hrest
  · exact hrest

/-- The binding with one more attribute of a class. -/
def withMember (b : Binding) (id : ClassId) (x : Member) : Binding :=
  { b with
    members := b.members.push x
    classes := b.classes.modify id fun c =>
      c.modifyMethod .attributes fun m => { m with members := m.members ++ [b.members.size] } }

lemma classAt_withMember {b : Binding} {id : ClassId} (hid : id < b.classes.size) (x : Member) :
    (withMember b id x).classAt id = (b.classAt id).modifyMethod .attributes fun m =>
      { m with members := m.members ++ [b.members.size] } :=
  (Binding.classAt_of_modify (f := fun c => c.modifyMethod .attributes _) rfl hid).1

lemma classAt_withMember_of_ne {b : Binding} {id i : ClassId} (hi : i ≠ id) (x : Member) :
    (withMember b id x).classAt i = b.classAt i := by
  simp only [Binding.classAt, withMember, Array.getElem?_modify, if_neg (Ne.symm hi)]

/-- The binding is as it was, or has one more attribute of a class, which carries the name that the reader of
the class carries. -/
def AddsMember (b : Binding) (id : ClassId) (b' : Binding) : Prop :=
  b' = b ∨ ∃ r ∈ (b.classAt id).attributes, ∃ x : Member, x.className = r.className ∧ b' = withMember b id x

lemma adds_addWanted (id : ClassId) (name type modifier : String) (named : List (String × Datum))
    (b : Binding) :
    (addWanted id name type modifier named).Ends b (fun _ b' => AddsMember b id b') (fun _ _ => True) := by
  refine .bind_of_ok (Act.effect_state b) ?_
  dsimp only
  split
  · exact .of_ok (Binding.effect_report _ b) (.inl rfl)
  · exact .of_error (Act.effect_fail _ b) trivial
  · split
    next r hr =>
      split
      · exact .of_ok rfl (.inr ⟨r, hr, _, rfl, rfl⟩)
      · exact .pure (.inl rfl)
    next => exact .of_error (Act.effect_fail _ b) trivial

lemma adds_addAttribute (id : ClassId) (name type modifier : String) (named : List (String × Datum))
    (b : Binding) :
    (addAttribute id name type modifier named).Ends b (fun _ b' => AddsMember b id b') (fun _ _ => True) := by
  rw [addAttribute]
  split
  · exact .of_error (Act.effect_bind_of_error (Act.effect_fail _ b)) trivial
  · have hkeeps : (isWanted type).Keeps fun b : Binding => b := keeps_isWanted type
    have hkeeps := hkeeps b
    rcases he : (isWanted type).effect b with ⟨f | wanted, b'⟩ <;> rw [he] at hkeeps <;>
      obtain rfl : b' = b := hkeeps
    · exact .of_error (Act.effect_bind_of_error he) trivial
    · refine .bind_of_ok he ?_
      split
      · exact adds_addWanted id name type modifier named b'
      · exact .pure (.inl rfl)

/-- An attribute is one more member, or it is left out. -/
lemma ends_addAttribute (id : ClassId) (name type modifier : String) (named : List (String × Datum))
    (b : Binding) :
    (addAttribute id name type modifier named).Ends b (fun _ b' => b' = b ∨ ∃ x, b' = withMember b id x)
      (fun _ _ => True) := by
  refine (adds_addAttribute id name type modifier named b).mono ?_ fun _ _ h => h
  rintro _ b' (rfl | ⟨-, -, x, -, rfl⟩)
  · exact .inl rfl
  · exact .inr ⟨x, rfl⟩

end Class

namespace Declaring

variable {b b' : Binding} {id : ClassId}

open Binding (Sound Spares)

/-! ### Structs and enums -/

/-- A new struct has no methods. -/
lemma ends_makeStruct (name : Option String) (b : Binding) :
    (Class.makeStruct name).Ends b
      (fun id b' => id = b.classes.size ∧ b.Inherits none b' ∧
        ∃ c, b.Adds c b' ∧ c.kind ≠ .class_ ∧ c.entries = []) (fun _ _ => True) := by
  refine ((Class.ends_make name none b).mono (fun _ _ h => h) fun _ _ _ => trivial).bind ?_
  rintro _ b' ⟨rfl, hnew, reader, s, -, -, ha, -⟩
  refine .bind_of_ok (Binding.effect_modifyClass _ _ _) (.pure ⟨rfl,
    hnew.withClass (Nat.le_refl _) fun c hc => hc.of_subset rfl ?_ fun _ hr => hr, _, ha.modify _, by simp,
    by simp [ClassDef.entries, Class.newClass]⟩)
  simp [ClassDef.entries]

lemma ends_makeEnum (name : Option String) (b : Binding) :
    (Class.makeEnum name).Ends b
      (fun id b' => id = b.classes.size ∧ b.Inherits none b' ∧
        ∃ c, b.Adds c b' ∧ c.kind ≠ .class_ ∧ c.entries = []) (fun _ _ => True) := by
  refine (ends_makeStruct name b).bind ?_
  rintro _ b' ⟨rfl, hnew, c, ha, -, hentries⟩
  exact .bind_of_ok (Binding.effect_modifyClass _ _ _) (.pure ⟨rfl,
    hnew.withClass (Nat.le_refl _) fun c hc => hc.of_subset rfl (List.Subset.refl _) (by simp), _,
    ha.modify _, by simp, hentries⟩)

lemma spares_of_no_entries (h : b.Sound) {c : ClassDef} (ha : b.Adds c b') (hk : c.kind ≠ .class_)
    (hc : c.entries = []) : b.Spares b' ∧ b.classes.size < b'.classes.size := by
  refine ⟨.of_adds h ha (.of_entries_eq_nil hc hk) fun m hm => ?_, ?_⟩
  · rw [hc] at hm
    cases hm
  · rw [ha.size]
    exact Nat.lt_succ_self _

lemma ends_openStruct (h : b.Sound) (name : Option String) {setUp : ClassDef → ClassDef}
    (hs : ∀ c, (setUp c).outline = c.outline) :
    (openStruct name setUp).Ends b (fun id b' => b.Spares b' ∧ id < b'.classes.size)
      (fun _ _ => True) := by
  refine (ends_makeStruct name b).bind ?_
  rintro _ b' ⟨rfl, -, c, ha, hkind, hentries⟩
  obtain ⟨hspares, hid⟩ := spares_of_no_entries h ha hkind hentries
  refine .bind_of_ok (Binding.effect_modifyClass _ _ _) (.pure ⟨?_, ?_⟩)
  · exact hspares.trans (.of_outline hspares.sound (Binding.outline_withClass hs _ _))
  · rwa [Binding.size_withClass]

lemma ends_openEnum (h : b.Sound) (name : Option String) :
    (Class.makeEnum name).Ends b (fun id b' => b.Spares b' ∧ id < b'.classes.size)
      (fun _ _ => True) := by
  refine (ends_makeEnum name b).mono ?_ fun _ _ h => h
  rintro _ b' ⟨rfl, -, c, ha, hkind, hentries⟩
  exact spares_of_no_entries h ha hkind hentries

/-- The binding after a class became known under its name. -/
def named (b : Binding) (id : ClassId) (kind : Kind) : Binding :=
  { b with
    index := b.index.insert (b.classAt id).name id
    registry := b.registry.register (b.classAt id).name kind }

lemma effect_declare (id : ClassId) (kind : Kind) (b : Binding) :
    (Class.declare id kind).effect b = (.ok (), named b id kind) := rfl

lemma classAt_named (b : Binding) (id i : ClassId) (kind : Kind) :
    (named b id kind).classAt i = b.classAt i := rfl

lemma spares_named (h : b.Sound) (hid : id < b.classes.size) (kind : Kind) :
    b.Spares (named b id kind) :=
  .of_insert h hid _ _

lemma ends_closeStruct (h : b.Sound) (hid : id < b.classes.size) :
    (closeStruct id).Ends b (fun _ b' => b.Spares b') (fun _ _ => True) := by
  have hnamed := spares_named h hid .struct
  refine .bind_of_ok (effect_declare id .struct b) (.bind_of_ok (Act.effect_state _) ?_)
  rw [classAt_named]
  cases (b.classAt id).name with
  | none => exact .of_error rfl trivial
  | some name => exact .of_ok rfl (hnamed.trans (.of_outline hnamed.sound rfl))

lemma outline_addConstants (values : List String) (b : Binding) :
    (values.foldl (fun b v => b.addConstant v "integer") b).outline = b.outline := by
  induction values generalizing b with
  | nil => rfl
  | cons v values ih =>
    rw [List.foldl_cons, ih]
    rfl

lemma ends_closeEnum (h : b.Sound) (hid : id < b.classes.size) :
    (closeEnum id).Ends b (fun _ b' => b.Spares b') (fun _ _ => True) := by
  have hnamed := spares_named h hid .enumeration
  refine .bind_of_ok (effect_declare id .enumeration b) (.bind_of_ok (Act.effect_state _) ?_)
  exact .of_ok rfl (hnamed.trans (.of_outline hnamed.sound (outline_addConstants _ _)))

/-- Before it is closed a struct or an enum may get its name. -/
lemma ends_nameClass {act : Act Binding Unit} (h : b.Sound) (hid : id < b.classes.size) (name : String)
    (ha : ∀ b' : Binding, b'.Sound → id < b'.classes.size →
      act.Ends b' (fun _ b'' => b'.Spares b'') (fun _ _ => True)) :
    (do nameClass id name; act).Ends b (fun _ b' => b.Spares b') (fun _ _ => True) := by
  have hspares : b.Spares (b.withClass id fun c => { c with name := some name }) :=
    .of_outline h (Binding.outline_withClass (f := fun c => { c with name := some name })
      (fun _ => rfl) b id)
  refine .bind_of_ok (Binding.effect_modifyClass _ _ _) ?_
  refine (ha _ hspares.sound (Nat.lt_of_lt_of_le hid hspares.classes)).mono ?_ fun _ _ h => h
  exact fun _ b' hb' => hspares.trans hb'

/-! ### Classes -/

/-- The reader of a new class reads nothing yet, or what the reader of a class reads that is its base. -/
def ReadsLike (b : Binding) (base : Option ClassId) (name baseName : String) (r : Method) : Prop :=
  Class.NewReader (some name) (some baseName) [] r ∨
    ∃ i ∈ base, (b.classAt i).kind = .class_ ∧ ∃ r₀ ∈ (b.classAt i).attributes,
      Class.NewReader (some name) r₀.baseName r₀.members r

/-- A new class of a name in a sound binding, with what it inherits from a base. -/
structure Opens (b : Binding) (base : Option ClassId) (className baseName : String) (id : ClassId)
    (b' : Binding) : Prop where
  spares : b.Spares b'
  new : b.classes.size ≤ id
  known : id < b'.classes.size
  kind : (b'.classAt id).kind = .class_
  name : (b'.classAt id).name = some className
  index : b'.index = b.index
  inherits : b.Inherits base b'
  reader : ∃ r ∈ (b'.classAt id).attributes, ReadsLike b base className baseName r

lemma spares_newClass {name baseName : Option String} {reader : Method} {s : SignatureId}
    (h : b.Sound) (hle : b.signatures.size ≤ s) (hlt : s < b'.signatures.size)
    (ha : b.Adds (Class.newClass name baseName reader id s) b') : b.Spares b' := by
  refine .of_adds h ha ((Class.whole_newClass hlt).fit rfl) fun m hm => .inl ?_
  have hentry : m = Method.newMethod .emptyConstructor name baseName "Con" id s := by
    simpa [ClassDef.entries, Class.newClass] using hm
  rw [hentry]
  exact hle

lemma ends_make (h : b.Sound) (name baseName : String) :
    (Class.make (some name) (some baseName)).Ends b (Opens b none name baseName) (fun _ _ => True) := by
  refine (Class.ends_make (some name) (some baseName) b).mono ?_ fun _ _ _ => trivial
  rintro _ b' ⟨rfl, hinherits, reader, s, hle, hlt, ha, hreader⟩
  refine ⟨spares_newClass h hle hlt ha, Nat.le_refl _, ?_, ?_, ?_, ha.extended.index, hinherits,
    reader, ?_, .inl hreader⟩
  · rw [ha.size]
    exact Nat.lt_succ_self _
  · rw [ha.new]
    rfl
  · rw [ha.new]
    rfl
  · rw [ha.new]
    rfl

lemma effect_findClass {name : String} (h : b.index.get? (some name) = some id) :
    (Binding.findClass (some name)).effect b = (.ok id, b) := by
  rw [Binding.findClass, Act.effect_bind_of_ok (Act.effect_state b), h]
  rfl

/-- The class of a block whose base is whole is the heir of the base. -/
lemma ends_baseClass_of_whole {base : String} (hbase : b.index.get? (some base) = some id)
    (hid : id < b.classes.size) (hw : (b.classAt id).Whole b.signatures.size) (name : String) :
    (baseClass name base).Ends b
      (fun new b' => new = b.classes.size ∧ b.Inherits (some id) b' ∧
        ∃ r reader, (b.classAt id).attributes = some r ∧
          Class.NewReader (some name) r.baseName r.members reader ∧
          b.Adds (Class.heirClass b (b.classAt id) name reader) b')
      (fun _ _ => True) := by
  have hinherit := Class.ends_inherit hw hid name
  refine .bind_of_ok (Act.effect_attempt _ b) ?_
  rw [Act.effect_bind_of_ok (effect_findClass hbase)]
  rcases he : (Class.inherit id name).effect b with ⟨f | new, b'⟩
  · dsimp only
    rw [hinherit.error he]
    exact .of_error rfl trivial
  · exact .pure (hinherit.ok he)

lemma opens_heirClass {name : String} {r reader : Method} (h : b.Sound) (hid : id < b.classes.size)
    (hkind : (b.classAt id).kind = .class_) (hr : (b.classAt id).attributes = some r)
    (hreader : Class.NewReader (some name) r.baseName r.members reader) (hi : b.Inherits (some id) b')
    (ha : b.Adds (Class.heirClass b (b.classAt id) name reader) b') (baseName : String) :
    Opens b (some id) name baseName b.classes.size b' := by
  have hw := (h.fit id hid).whole hkind
  have hwhole := Class.whole_heirClass (b := b) hw name reader
  refine ⟨.of_adds h ha ((hwhole.mono ha.extended.signatures).fit rfl) fun m hm => ?_, Nat.le_refl _,
    ?_, ?_, ?_, ha.extended.index, hi, reader, ?_, .inr ⟨id, rfl, hkind, r, hr, hreader⟩⟩
  · refine .inr ⟨id, hid, ?_⟩
    rw [← Class.signatures_heirClass b (b.classAt id) name reader]
    exact List.mem_map_of_mem hm
  · rw [ha.size]
    exact Nat.lt_succ_self _
  · rw [ha.new]
    rfl
  · rw [ha.new]
    rfl
  · rw [ha.new]
    rfl

/-- Nothing can be inherited from a struct or an enum. The attempt leaves a class behind. -/
lemma ends_baseClass_of_ne {base : String} (h : b.Sound) (hbase : b.index.get? (some base) = some id)
    (hid : id < b.classes.size) (hkind : (b.classAt id).kind ≠ .class_) (name : String) :
    (baseClass name base).Ends b (Opens b (some id) name base) (fun _ _ => True) := by
  have hentries : (b.classAt id).entries = [] := by
    have hfit := h.fit id hid
    rwa [ClassDef.Fit, if_neg hkind] at hfit
  have hconstructor : (b.classAt id).constructor = none := by
    rw [ClassDef.entries, List.append_eq_nil_iff, Option.toList_eq_nil_iff] at hentries
    exact hentries.1
  have hinherit := Class.ends_inherit_of_none hconstructor hid name
  refine .bind_of_ok (Act.effect_attempt _ b) ?_
  rw [Act.effect_bind_of_ok (effect_findClass hbase)]
  rcases he : (Class.inherit id name).effect b with ⟨f | new, b'⟩
  · dsimp only
    rcases hinherit.error he with hcaught | ⟨hleft, reader, s, hle, hlt, ha⟩
    · rw [hcaught]
      exact .of_error rfl trivial
    · have hspares := spares_newClass h hle hlt ha
      split
      · refine (ends_make hspares.sound name base).mono ?_ fun _ _ h => h
        intro new b'' hnew
        obtain ⟨r, hr, hreader | ⟨i, hi, -⟩⟩ := hnew.reader
        · exact ⟨hspares.trans hnew.spares, Nat.le_trans hspares.classes hnew.new, hnew.known, hnew.kind,
            hnew.name, hnew.index.trans ha.extended.index,
            (hleft.trans hnew.inherits).of_entries_eq_nil hentries, r, hr, .inl hreader⟩
        · exact absurd hi (Option.not_mem_none i)
      · exact .of_error rfl trivial
  · exact (hinherit.ok he).elim

lemma ends_baseClass (h : b.Sound) (name base : String) :
    (baseClass name base).Ends b (Opens b (b.index.get? (some base)) name base) (fun _ _ => True) := by
  cases hbase : b.index.get? (some base) with
  | none =>
    have hfind : (Binding.findClass (some base)).effect b = (.error (.missingKey (some base)), b) := by
      rw [Binding.findClass, Act.effect_bind_of_ok (Act.effect_state b), hbase]
      rfl
    refine .bind_of_ok (Act.effect_attempt _ b) ?_
    rw [Act.effect_bind_of_error hfind]
    exact ends_make h name base
  | some i =>
    have hi := h.indexed _ i hbase
    by_cases hkind : (b.classAt i).kind = .class_
    · have hw := (h.fit i hi).whole hkind
      refine (ends_baseClass_of_whole hbase hi hw name).mono ?_ fun _ _ h => h
      rintro _ b' ⟨rfl, hinherits, r, reader, hr, hreader, ha⟩
      exact opens_heirClass h hi hkind hr hreader hinherits ha base
    · exact ends_baseClass_of_ne h hbase hi hkind name

lemma core_addModifier (c : ClassDef) (modifier : Option String) :
    (c.addModifier modifier).core = c.core := rfl

/-- The binding after a class became known, and pointers to it. -/
def announced (b : Binding) (id : ClassId) (doc : String) (modifier : Option String) (name : String) :
    Binding :=
  let b := named (b.withClass id fun c => { c with doc }.addModifier modifier) id .object
  { b with registry := b.registry.register (some s!"{name} *") .objectPointer }

lemma effect_announceClass (id : ClassId) (doc : String) (modifier : Option String) (name : String)
    (b : Binding) :
    (announceClass id doc modifier name).effect b = (.ok (), announced b id doc modifier name) := rfl

lemma classAt_announced (b : Binding) (id i : ClassId) (doc : String) (modifier : Option String)
    (name : String) :
    ((announced b id doc modifier name).classAt i).core = (b.classAt i).core :=
  Binding.classAt_of_map
    (Binding.map_withClass (fun c => core_addModifier { c with doc } modifier) b id) i

lemma spares_announced (h : b.Sound) (hid : id < b.classes.size) (doc : String)
    (modifier : Option String) (name : String) : b.Spares (announced b id doc modifier name) := by
  have hdescribed : b.Spares (b.withClass id fun c => { c with doc }.addModifier modifier) :=
    .of_outline h (Binding.outline_of_core
      (Binding.core_withClass (fun c => core_addModifier { c with doc } modifier) b id))
  have hnamed := spares_named hdescribed.sound (by rwa [Binding.size_withClass]) .object
  exact hdescribed.trans (hnamed.trans (.of_outline hnamed.sound rfl))

/-- A class that becomes known has what it had. -/
lemma inherits_announced {base : Option ClassId} (h : b.Inherits base b') (hid : b.classes.size ≤ id)
    (doc : String) (modifier : Option String) (name : String) :
    b.Inherits base (announced b' id doc modifier name) := by
  have hdescribed := h.withClass (f := fun c => { c with doc }.addModifier modifier) hid
    fun c hc => hc.of_subset rfl (List.Subset.refl _) fun _ hr => hr
  exact hdescribed.congr rfl rfl rfl

lemma ends_openClass (h : b.Sound) (doc : String) (modifier : Option String) (name base : String) :
    (openClass doc modifier name base).Ends b
      (fun id b' => b.Spares b' ∧ id < b'.classes.size ∧ (b'.classAt id).kind = .class_ ∧
        (b'.classAt id).name = some name ∧ b.classes.size ≤ id ∧
        b'.index = b.index.insert (some name) id ∧ b.Inherits (b.index.get? (some base)) b')
      (fun _ _ => True) := by
  refine (ends_baseClass h name base).bind ?_
  rintro id b' ⟨hspares, hnew, hid, hkind, hname, hindex, hinherits, -⟩
  have hannounced := spares_announced hspares.sound hid doc modifier name
  have hnamed : ((announced b' id doc modifier name).classAt id).name = some name := by
    have hdescribed := classAt_announced b' id id doc modifier name
    simp only [ClassDef.core, Prod.mk.injEq] at hdescribed
    rw [hdescribed.2.1, hname]
  refine .bind_of_ok (effect_announceClass id doc modifier name b')
    (.pure ⟨?_, ?_, ?_, hnamed, hnew, ?_, ?_⟩)
  · exact hspares.trans hannounced
  · exact Nat.lt_of_lt_of_le hid hannounced.classes
  · rw [hannounced.kinds id hid, hkind]
  · rw [← hindex, ← hnamed]
    rfl
  · exact inherits_announced hinherits hnew doc modifier name

/-! ### Methods -/

/-- The binding with a protocol that a class takes part in, if one is given. -/
def withProtocol (b : Binding) (id : ClassId) : Option String → Binding
  | some p => b.withClass id (·.addModifier (some p))
  | none => b

lemma effect_addProtocol (id : ClassId) (protocol : Option String) (b : Binding) :
    (addProtocol id protocol).effect b = (.ok (), withProtocol b id protocol) := by
  cases protocol <;> rfl

lemma core_withProtocol (b : Binding) (id : ClassId) (protocol : Option String) :
    (withProtocol b id protocol).core = b.core := by
  cases protocol with
  | none => rfl
  | some p => exact Binding.core_withClass (fun c => core_addModifier c (some p)) b id

/-- A method that was just opened in a class. -/
def openedMethod (c : ClassDef) (id : ClassId) (doc returns name : String) (s : SignatureId) : Method :=
  { Method.newMethod (HeaderReader.methodKind c.name returns name).1 c.name c.baseName name id s with
    doc }

/-- Apart from words about its class, a method that is opened brings nothing but its signature. -/
lemma ends_openMethod (id : ClassId) (doc returns name : String) (b : Binding) :
    (openMethod id doc returns name).Ends b
      (fun m b' => m = openedMethod (b.classAt id) id doc returns name b.signatures.size ∧
        ∃ t : CType, ((Method.resultType (b.classAt id).name name returns).effect b).1 = .ok t ∧
          b' = (withProtocol b id
            (HeaderReader.methodKind (b.classAt id).name returns name).2).withSignature
              { returns := Method.resultOf m.kind t })
      (fun _ _ => True) := by
  refine .bind_of_ok (Act.effect_state b) ?_
  dsimp only
  refine .bind_of_ok (effect_addProtocol id _ b) ?_
  have hcore := core_withProtocol b id (HeaderReader.methodKind (b.classAt id).name returns name).2
  generalize withProtocol b id (HeaderReader.methodKind (b.classAt id).name returns name).2 = b₁ at hcore ⊢
  have hsize : b₁.signatures.size = b.signatures.size := congrArg (fun k => k.2.2.1.size) hcore
  have hregistry : b₁.registry = b.registry := congrArg (fun k => k.1) hcore
  have hmake := Method.ends_make (HeaderReader.methodKind (b.classAt id).name returns name).1
    (b.classAt id).name (b.classAt id).baseName name returns id b₁
  refine (hmake.mono (fun _ _ h => h) fun _ _ _ => trivial).bind ?_
  rintro _ b' ⟨rfl, t, ht, rfl⟩
  rw [(Method.consults_resultType _ _ _).2 b₁ b hregistry] at ht
  rw [hsize]
  exact .pure ⟨rfl, t, ht, rfl⟩

lemma spares_openMethod (h : b.Sound) (hc : b'.core = b.core) (s : Signature) :
    b.Spares (b'.withSignature s) ∧ (b'.withSignature s).Free b.signatures.size := by
  have hspares : b.Spares b' := .of_outline h (Binding.outline_of_core hc)
  have hsize : b'.signatures.size = b.signatures.size := congrArg (fun k => k.2.2.1.size) hc
  exact ⟨hspares.trans (.withSignature hspares.sound s),
    hsize ▸ Binding.free_withSignature hspares.sound s⟩

/-- The binding with other arguments of a method. -/
def withArgs (b : Binding) (m : Method) (args : List CType) : Binding :=
  { b with signatures := b.signatures.modify m.signature fun s => { s with args } }

/-- An argument that is added to a method changes its signature. -/
lemma ends_addArgument (m : Method) (type name : String) (b : Binding) :
    (m.addArgument type name).Ends b
      (fun _ b' => ∃ args,
        ((Method.addTo m.className m.name (b.signatureAt m.signature).args type name).effect b).1 =
          .ok args ∧ b' = withArgs b m args)
      (fun _ _ => True) := by
  have hadd := (Method.consults_addTo m.className m.name (b.signatureAt m.signature).args type name)
  refine .bind_of_ok (Act.effect_bind_of_ok (Act.effect_state b)) ?_
  rcases hr : ((Method.addTo m.className m.name (b.signatureAt m.signature).args type name).effect b).1
    with f | args
  · exact .of_error (Act.effect_bind_of_error (hr ▸ hadd.effect_eq b)) trivial
  · exact .bind_of_ok (hr ▸ hadd.effect_eq b) (.of_ok rfl ⟨args, rfl, rfl⟩)

lemma outline_withArgs (b : Binding) (m : Method) (args : List CType) :
    (withArgs b m args).outline = b.outline := by
  simp only [Binding.outline, withArgs, Array.size_modify]

lemma ends_closeMethod (id : ClassId) (m : Method) (b : Binding) :
    (closeMethod id m).Ends b (fun _ b' => b' = b.withClass id (Class.putMethod · m))
      (fun _ _ => True) := by
  refine .bind_of_ok (Act.effect_state b) ?_
  dsimp only
  split
  · exact .of_error (Act.effect_bind_of_error (Act.effect_fail _ b)) trivial
  · exact .of_ok rfl rfl

end Declaring

end HeaderBind
