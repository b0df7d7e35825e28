import HeaderBind.Proofs.Binding.Registering
import HeaderBind.Proofs.Header.Flattening
import HeaderBind.Proofs.Header.Invariants

/-!
# Headers whose classes can be registered

What a declaration adds or changes leaves the classes that are known as they are, as far as their registration
goes (`Augments`). A struct or an enum becomes known when it is closed: a struct then has a name, unless closing it
fails, and an enum may go without one. So as long as nothing fails, whatever is read, and whatever presentable class
is added by hand, all classes that are known are presentable (`Populated.orderly`), and their registration
comes about and fits into its table. A call that fails may leave a struct without a name behind, and then no
class can be registered any more.
-/

namespace HeaderBind

open Binding

lemma Dict.mem_values_insert {κ ν : Type} [BEq κ] {d : Dict κ ν} {key : κ} {v w : ν}
    (h : w ∈ (d.insert key v).values) : w = v ∨ w ∈ d.values := by
  have hentries (entries : List (κ × ν)) : ∀ e ∈ insertList key v entries, e.2 = v ∨ e ∈ entries := by
    induction entries with
    | nil => simp [insertList]
    | cons e' rest ih =>
      intro e he
      rw [insertList] at he
      split at he
      · rcases List.mem_cons.mp he with rfl | he
        · exact .inl rfl
        · exact .inr (List.mem_cons_of_mem e' he)
      · rcases List.mem_cons.mp he with rfl | he
        · exact .inr List.mem_cons_self
        · exact (ih e he).imp_right (List.mem_cons_of_mem e')
  obtain ⟨e, he, rfl⟩ := List.mem_map.mp h
  exact (hentries d.entries e he).imp_right List.mem_map_of_mem

namespace ClassDef

variable {c c' : ClassDef}

/-- What decides whether a class is presentable. -/
def face (c : ClassDef) :=
  (c.kind, c.name, c.isOpen)

lemma Presentable.of_face (h : c.Presentable) (hf : c'.face = c.face) : c'.Presentable := by
  simp only [face, Prod.mk.injEq] at hf
  intro hname
  rw [hf.1, hf.2.2]
  exact h (hf.2.1 ▸ hname)

lemma presentable_of_name {name : String} (h : c.name = some name) : c.Presentable := by
  intro hnone
  rw [h] at hnone
  cases hnone

lemma not_presentable_default : ¬ (default : ClassDef).Presentable := by
  intro h
  exact (h rfl).2 rfl

lemma face_of_label (h : c'.label = c.label) : c'.face = c.face := by
  simp only [label, Prod.mk.injEq] at h
  simp only [face, isOpen, hasModifier, h]

lemma face_addModifier {m : Option String} (hp : m ≠ some "PRIVATE") (ha : m ≠ some "ABSTRACT") :
    (c.addModifier m).face = c.face := by
  have hmem {s : String} (hs : m ≠ some s) : (c.addModifier m).hasModifier s = c.hasModifier s := by
    simp [hasModifier, addModifier, hs.symm]
  have hactive : (c.addModifier m).active = c.active := rfl
  simp only [face, isOpen, hmem hp, hmem ha, hactive]
  rfl

end ClassDef

/-! ### Declarations that make nothing known -/

namespace Binding

variable {b b' b'' : Binding} {id : ClassId}

/-- No class became known, and the classes that are there are the same as far as registration goes. -/
structure Augments (b b' : Binding) : Prop where
  index : b'.index = b.index
  size : b.classes.size ≤ b'.classes.size
  face : ∀ i < b.classes.size, (b'.classAt i).face = (b.classAt i).face

lemma lt_size_of_presentable (h : (b.classAt id).Presentable) : id < b.classes.size := by
  by_contra hid
  rw [classAt, Array.getElem?_eq_none (Nat.le_of_not_lt hid)] at h
  exact ClassDef.not_presentable_default h

namespace Augments

lemma of_eq (hi : b'.index = b.index) (hc : b'.classes = b.classes) : b.Augments b' := by
  refine ⟨hi, Nat.le_of_eq (by rw [hc]), fun i _ => ?_⟩
  rw [classAt, classAt, hc]

lemma trans (h : b.Augments b') (h' : b'.Augments b'') : b.Augments b'' where
  index := h'.index.trans h.index
  size := Nat.le_trans h.size h'.size
  face i hi := (h'.face i (Nat.lt_of_lt_of_le hi h.size)).trans (h.face i hi)

/-- A class that was not there before may be changed at will. -/
lemma withNew (h : b.Augments b') (hid : b.classes.size ≤ id) (f : ClassDef → ClassDef) :
    b.Augments (b'.withClass id f) := by
  refine ⟨h.index, Nat.le_trans h.size (Nat.le_of_eq (size_withClass b' id f).symm), fun i hi => ?_⟩
  rw [classAt_withClass_of_ne (Nat.ne_of_lt (Nat.lt_of_lt_of_le hi hid))]
  exact h.face i hi

lemma withClass {f : ClassDef → ClassDef} (hf : ∀ c, (f c).face = c.face) : b.Augments (b.withClass id f) := by
  refine ⟨rfl, Nat.le_of_eq (size_withClass b id f).symm, fun i hi => ?_⟩
  by_cases hid : i = id
  · subst hid
    rw [classAt_withClass hi, hf]
  · rw [classAt_withClass_of_ne hid]

lemma push (b : Binding) (c : ClassDef) : b.Augments { b with classes := b.classes.push c } := by
  have hpush : ∀ i < b.classes.size, ({ b with classes := b.classes.push c } : Binding).classAt i = b.classAt i :=
    (classAt_of_push rfl).2
  refine ⟨rfl, by simp, fun i hi => ?_⟩
  rw [hpush i hi]

lemma presentable (h : b.Augments b') (hid : (b.classAt id).Presentable) : (b'.classAt id).Presentable :=
  hid.of_face (h.face id (lt_size_of_presentable hid))

end Augments

/-- What is presentable stays so, and only what is presentable becomes known. -/
structure Upholds (b b' : Binding) : Prop where
  presentable : ∀ i, (b.classAt i).Presentable → (b'.classAt i).Presentable
  known : ∀ i ∈ b'.index.values, i ∈ b.index.values ∨ (b'.classAt i).Presentable

namespace Upholds

lemma of_eq (hi : b'.index = b.index) (hc : b'.classes = b.classes) : b.Upholds b' := by
  refine ⟨fun i hp => ?_, fun i hv => .inl (hi ▸ hv)⟩
  rwa [classAt, hc]

lemma trans (h : b.Upholds b') (h' : b'.Upholds b'') : b.Upholds b'' where
  presentable i hi := h'.presentable i (h.presentable i hi)
  known i hi := by
    rcases h'.known i hi with hi | hi
    · exact (h.known i hi).imp_right (h'.presentable i)
    · exact .inr hi

lemma all (h : b.Upholds b') (hb : b.Presentable) : b'.Presentable := by
  intro i hi
  rcases h.known i hi with hi | hi
  · exact h.presentable i (hb i hi)
  · exact hi

lemma withClass {f : ClassDef → ClassDef} (hf : (b.classAt id).Presentable → (f (b.classAt id)).Presentable) :
    b.Upholds (b.withClass id f) := by
  refine ⟨fun i hi => ?_, fun i hi => .inl hi⟩
  by_cases hid : i = id
  · subst hid
    rw [classAt_withClass (lt_size_of_presentable hi)]
    exact hf hi
  · rwa [classAt_withClass_of_ne hid]

end Upholds

lemma Augments.upholds (h : b.Augments b') : b.Upholds b' :=
  ⟨fun _ => h.presentable, fun _ hi => .inl (h.index ▸ hi)⟩

lemma Enrich.augments {g : Binding → Binding} (h : Enrich g) (b : Binding) : b.Augments (g b) := by
  cases h with
  | signature s => exact .of_eq rfl rfl
  | member x => exact .of_eq rfl rfl
  | classDef c => exact .push b c
  | methods id h => exact .withClass fun c => ClassDef.face_of_label (h c)
  | touch h =>
    cases h with
    | emit text => exact .of_eq rfl rfl
    | signature id f => exact .of_eq rfl rfl
    | member id f => exact .of_eq rfl rfl
    | method ref h => exact .withClass fun c => ClassDef.face_of_label (Class.label_modifyMethod c _ _)
    | protocols id =>
      refine .withClass fun c => ?_
      rw [ClassDef.face_addModifier (by decide) (by decide), ClassDef.face_addModifier (by decide) (by decide)]

lemma Composed.maintains_augments {α : Type} {act : Act Binding α} (h : Composed Enrich act) (b : Binding) :
    act.Maintains b.Augments fun _ => True :=
  h.maintains fun _ hg b' hb' => hb'.trans (hg.augments b')

lemma Composed.augments {α : Type} {act : Act Binding α} {a : α} (h : Composed Enrich act)
    (he : act.effect b = (.ok a, b')) : b.Augments b' :=
  ((h.maintains_augments b).of_effect (.of_eq rfl rfl) he).1

end Binding

/-! ### Classes, structs and enums -/

namespace Declaring

variable {b b' : Binding} {id : ClassId}

lemma augments_make {name baseName : Option String} (he : (Class.make name baseName).effect b = (.ok id, b')) :
    id = b.classes.size ∧ b.Augments b' ∧ id < b'.classes.size ∧ (b'.classAt id).name = name ∧
      (b'.classAt id).modifiers = [] := by
  obtain ⟨rfl, -, reader, s, -, -, hadds, -⟩ := (Class.ends_make name baseName b).ok he
  refine ⟨rfl, (Class.enrich_make _ _).augments he, by rw [hadds.size]; exact Nat.lt_succ_self _, ?_, ?_⟩
  all_goals rw [hadds.new]; rfl

/-- The class that inherits goes by the name that it is given. -/
lemma name_inherit {base : ClassId} {name : String} (he : (Class.inherit base name).effect b = (.ok id, b')) :
    (b'.classAt id).name = some name := by
  rw [Class.inherit, Act.effect_bind_of_ok (Act.effect_state b)] at he
  obtain ⟨new, b₁, hmake, he⟩ := Act.effect_bind_eq_ok.mp he
  obtain ⟨-, -, hlt, hname, -⟩ := augments_make hmake
  -- What is done to the new class after it was made does not change its name.
  have hmodify {f : ClassDef → ClassDef} (h : ∀ c, (f c).label = c.label) :=
    (enrich_modifyClass new h).maintains_augments b₁
  obtain ⟨haugments, rfl⟩ : b₁.Augments b' ∧ id = new := by
    refine Act.Maintains.of_effect (I := b₁.Augments) (Q := (· = new)) ?_ (.of_eq rfl rfl) he
    refine .andThen ((Method.enrich_inherit _ _).maintains_augments b₁) fun _ => ?_
    refine .andThen (hmodify fun _ => rfl) fun _ => ?_
    refine .andThen ((Class.enrich_inheritMethods _ _ _ _).maintains_augments b₁) fun _ => ?_
    refine .andThen (hmodify fun _ => rfl) fun _ => ?_
    split
    · refine .andThen ((Method.enrich_inheritReader _ _).maintains_augments b₁) fun _ => ?_
      exact .andThen (hmodify fun _ => rfl) fun _ => .pure rfl
    · exact .fail _
  have hface := haugments.face id hlt
  simp only [ClassDef.face, Prod.mk.injEq] at hface
  exact hface.2.1.trans hname

lemma name_baseClass {name base : String} (he : (baseClass name base).effect b = (.ok id, b')) :
    (b'.classAt id).name = some name := by
  obtain ⟨r, b₁, hattempt, he⟩ := Act.effect_bind_eq_ok.mp he
  cases r with
  | ok new =>
    cases he
    rw [Act.effect_attempt, Prod.mk.injEq] at hattempt
    obtain ⟨i, b₂, -, hinherit⟩ := Act.effect_bind_eq_ok.mp (Prod.ext (Except.ok.inj hattempt.1) hattempt.2)
    exact name_inherit hinherit
  | error f =>
    dsimp only at he
    split at he
    · exact (augments_make he).2.2.2.1
    · cases he

/-- A struct that is opened is new, whatever it is set up with. -/
lemma augments_openStruct {name : Option String} {setUp : ClassDef → ClassDef}
    (he : (openStruct name setUp).effect b = (.ok id, b')) : b.Augments b' := by
  obtain ⟨new, b₁, hstruct, he⟩ := Act.effect_bind_eq_ok.mp he
  obtain ⟨new', b₂, hmake, hstruct⟩ := Act.effect_bind_eq_ok.mp hstruct
  obtain ⟨rfl, haugments, -⟩ := augments_make hmake
  cases hstruct
  cases he
  exact (haugments.withNew (Nat.le_refl _) _).withNew (Nat.le_refl _) _

/-- An enum is presentable from the start. -/
lemma augments_makeEnum {name : Option String} (he : (Class.makeEnum name).effect b = (.ok id, b')) :
    b.Augments b' ∧ (b'.classAt id).Presentable := by
  obtain ⟨new, b₁, hstruct, he⟩ := Act.effect_bind_eq_ok.mp he
  obtain ⟨new', b₂, hmake, hstruct⟩ := Act.effect_bind_eq_ok.mp hstruct
  obtain ⟨rfl, haugments, hlt, -, hmodifiers⟩ := augments_make hmake
  cases hstruct
  cases he
  refine ⟨(haugments.withNew (Nat.le_refl _) _).withNew (Nat.le_refl _) _, fun _ => ?_⟩
  have hnew {f g : ClassDef → ClassDef} : ((b₂.withClass b.classes.size f).withClass b.classes.size g).classAt
      b.classes.size = g (f (b₂.classAt b.classes.size)) := by
    rw [classAt_withClass (by rwa [size_withClass]), classAt_withClass hlt]
  show (((b₂.withClass _ _).withClass _ _).classAt _).isOpen ∧ (((b₂.withClass _ _).withClass _ _).classAt _).kind ≠ _
  rw [hnew]
  simp [ClassDef.isOpen, ClassDef.hasModifier, hmodifiers]

lemma upholds_named (hid : (b.classAt id).Presentable) (kind : Kind) : b.Upholds (named b id kind) where
  presentable _ hi := hi
  known i hi := by
    rcases Dict.mem_values_insert hi with rfl | hi
    · exact .inr hid
    · exact .inl hi

/-- A class that is opened becomes known under its name. -/
lemma upholds_openClass {doc : String} {modifier : Option String} {name base : String}
    (he : (openClass doc modifier name base).effect b = (.ok id, b')) : b.Upholds b' := by
  obtain ⟨new, b₁, hbase, he⟩ := Act.effect_bind_eq_ok.mp he
  obtain ⟨_, b₂, hannounce, he⟩ := Act.effect_bind_eq_ok.mp he
  cases he
  cases hannounce
  have hname := ClassDef.presentable_of_name (name_baseClass hbase)
  have hclass : b₁.Upholds (b₁.withClass id fun c => { c with doc }.addModifier modifier) :=
    .withClass fun _ => ClassDef.presentable_of_name (name_baseClass hbase)
  have hnamed := upholds_named (hclass.presentable id hname) .object
  exact ((enrich_baseClass name base).augments hbase).upholds.trans (hclass.trans (hnamed.trans (.of_eq rfl rfl)))

lemma protocol_ne {className : Option String} {returns name p : String}
    (h : (HeaderReader.methodKind className returns name).2 = some p) : p ≠ "PRIVATE" ∧ p ≠ "ABSTRACT" := by
  unfold HeaderReader.methodKind at h
  split_ifs at h <;> cases h <;> decide

/-- The protocols of methods are no modifiers that speak against code. -/
lemma augments_openMethod {doc returns name : String} {method : Method}
    (he : (openMethod id doc returns name).effect b = (.ok method, b')) : b.Augments b' := by
  rw [openMethod, Act.effect_bind_of_ok (Act.effect_state b)] at he
  obtain ⟨_, b₁, hprotocol, he⟩ := Act.effect_bind_eq_ok.mp he
  obtain ⟨made, b₂, hmake, he⟩ := Act.effect_bind_eq_ok.mp he
  cases he
  have hfirst : b.Augments b₁ := by
    unfold addProtocol at hprotocol
    split at hprotocol
    next p hp =>
      obtain ⟨hprivate, habstract⟩ := protocol_ne hp
      cases hprotocol
      exact .withClass fun c => ClassDef.face_addModifier (by simpa using hprivate) (by simpa using habstract)
    next =>
      cases hprotocol
      exact .of_eq rfl rfl
  exact hfirst.trans ((Method.enrich_make _ _ _ _ _ _ _).augments hmake)

/-- A struct that is closed without failing has a name. -/
lemma upholds_closeStruct (he : (closeStruct id).effect b = (.ok (), b')) : b.Upholds b' := by
  rw [closeStruct, Act.effect_bind_of_ok (effect_declare id .struct b), Act.effect_bind_of_ok (Act.effect_state _),
    classAt_named] at he
  cases hname : (b.classAt id).name with
  | none =>
    rw [hname] at he
    cases he
  | some name =>
    rw [hname] at he
    cases he
    exact (upholds_named (ClassDef.presentable_of_name hname) .struct).trans (.of_eq rfl rfl)

lemma upholds_closeEnum (hid : (b.classAt id).Presentable) (he : (closeEnum id).effect b = (.ok (), b')) :
    b.Upholds b' := by
  rw [closeEnum, Act.effect_bind_of_ok (effect_declare id .enumeration b), Act.effect_bind_of_ok (Act.effect_state _),
    Act.effect_update, Prod.mk.injEq] at he
  obtain ⟨constants, heq⟩ := addConstants_eq ((named b id .enumeration).classAt id).values (named b id .enumeration)
  rw [heq] at he
  rw [← he.2]
  exact (upholds_named hid .enumeration).trans (.of_eq rfl rfl)

/-- What has been given a name is presentable. -/
lemma upholds_withName (b : Binding) (id : ClassId) (name : String) :
    b.Upholds (b.withClass id fun c => { c with name := some name }) :=
  .withClass fun _ => ClassDef.presentable_of_name rfl

end Declaring

/-! ### Actions -/

/-- The classes that are known are presentable, and so is the enum that is open. -/
structure Header.Presentable (h : Header) : Prop where
  binding : h.binding.Presentable
  inEnum : ∀ id ∈ h.currentEnum, (h.binding.classAt id).Presentable

namespace HeaderReader

open Declaring Lexer Header.Table

variable {x y : HeaderReader} {m : Match}

/-- An action that does not fail leaves everything presentable. -/
def StaysPresentable (act : Act HeaderReader Unit) : Prop :=
  ∀ x y : HeaderReader, act.effect x = (.ok (), y) → x.host.Presentable → y.host.Presentable

lemma presentable_of_upholds (hx : x.host.Presentable) (hb : x.host.binding.Upholds y.host.binding)
    (henum : ∀ id ∈ y.host.currentEnum, id ∈ x.host.currentEnum) : y.host.Presentable :=
  ⟨hb.all hx.binding, fun id hid => hb.presentable id (hx.inEnum id (henum id hid))⟩

lemma presentable_withBinding {b : Binding} (hx : x.host.Presentable) (hb : x.host.binding.Upholds b) :
    (x.withBinding b).host.Presentable :=
  presentable_of_upholds hx hb fun _ hid => hid

lemma staysPresentable_onBinding {act : Act Binding Unit}
    (h : ∀ b b' : Binding, act.effect b = (.ok (), b') → b.Upholds b') : StaysPresentable (onBinding act) := by
  intro x y he hx
  obtain ⟨b, hb, rfl⟩ := onBinding_eq_ok he
  exact presentable_withBinding hx (h _ _ hb)

lemma staysPresentable_modifyClass (id : ClassId) {f : ClassDef → ClassDef} (hf : ∀ c, (f c).face = c.face) :
    StaysPresentable (onBinding (modifyClass id f)) := by
  refine staysPresentable_onBinding fun b b' he => ?_
  cases he
  exact Augments.upholds (.withClass hf)

lemma StaysPresentable.opened {which : Header → Option ClassId} {act : ClassId → Act HeaderReader Unit}
    (h : ∀ id, StaysPresentable (act id)) : StaysPresentable (do act (← opened (which (← header)))) := by
  intro x y he hx
  obtain ⟨id, -, he⟩ := opened_bind_eq_ok he
  exact h id x y he hx

lemma staysPresentable_comment {f : Header → String} :
    StaysPresentable (modifyHeader fun h => { h with comment := f h }) := by
  intro x y he hx
  cases he
  exact ⟨hx.binding, hx.inEnum⟩

lemma staysPresentable_addMethodArgument (m : Match) : StaysPresentable (addMethodArgument m) := by
  intro x y he hx
  rw [addMethodArgument, Act.effect_bind_of_ok (effect_header x)] at he
  cases hm : x.host.currentMethod with
  | none =>
    rw [hm] at he
    cases he
    exact hx
  | some method =>
    rw [hm] at he
    cases hunfinished : method.unfinished with
    | true =>
      simp only [hunfinished, if_true] at he
      cases he
    | false =>
      simp only [hunfinished, Bool.false_eq_true, if_false] at he
      have hargument := (Method.composed_addArgument method (trimmed m 1) (trimmed m 2)).enriches
      exact staysPresentable_onBinding (fun _ _ he => (hargument.augments he).upholds) x y he hx

lemma face_putMethod (c : ClassDef) (method : Method) : (Class.putMethod c method).face = c.face := by
  unfold Class.putMethod
  split_ifs <;> rfl

lemma staysPresentable_putOpenMethod (id : ClassId) (method : Method) (c : ClassDef) :
    StaysPresentable (putOpenMethod id method c) := by
  unfold putOpenMethod
  split_ifs
  · exact staysPresentable_modifyClass id fun c => face_putMethod c method
  · intro x y he
    cases he
  · exact staysPresentable_modifyClass id fun _ => rfl
  · exact staysPresentable_modifyClass id fun c => face_putMethod c method

lemma staysPresentable_endMethod : StaysPresentable endMethod := by
  intro x y he hx
  cases hm : x.host.currentMethod with
  | none =>
    rw [effect_endMethod_of_none hm] at he
    cases he
    exact hx
  | some method =>
    rw [effect_endMethod_of_some hm] at he
    obtain ⟨id, x', hopened, he⟩ := Act.effect_bind_eq_ok.mp he
    have hx' : x' = x := by
      cases hc : x.host.currentClass <;> rw [hc] at hopened <;> cases hopened
      rfl
    obtain ⟨_, z, hput, he⟩ := Act.effect_bind_eq_ok.mp he
    cases he
    have hz := staysPresentable_putOpenMethod id method _ x' z hput (hx' ▸ hx)
    exact ⟨hz.binding, hz.inEnum⟩

lemma staysPresentable_startMethod (m : Match) : StaysPresentable (startMethod m) := by
  intro x y he hx
  rcases startMethod_eq_ok he with ⟨-, rfl⟩ | ⟨-, id, method, b, -, hopen, rfl⟩
  · exact hx
  · exact presentable_of_upholds hx (augments_openMethod hopen).upholds fun _ hid => hid

lemma staysPresentable_startEnum (name : Option String) : StaysPresentable (startEnum name) := by
  intro x y he hx
  obtain ⟨id, b, hmake, rfl⟩ := startEnum_eq_ok he
  obtain ⟨haugments, hnew⟩ := augments_makeEnum hmake
  refine ⟨haugments.upholds.all hx.binding, ?_⟩
  rintro _ ⟨⟩
  exact hnew

lemma staysPresentable_action {name : String} {act : Match → Act HeaderReader Unit} (h : action name = some act)
    (m : Match) : StaysPresentable (act m) := by
  have hattribute (id : ClassId) (name type modifier : String) (named : List (String × Datum)) :
      StaysPresentable (onBinding (Class.addAttribute id name type modifier named)) :=
    staysPresentable_onBinding fun _ _ he => ((Class.enrich_addAttribute _ _ _ _ _).augments he).upholds
  cases h using action_cases with
  | bindStruct =>
    refine staysPresentable_onBinding fun b b' he => ?_
    cases he
    exact .of_eq rfl rfl
  | addClassAttribute => exact .opened fun id => hattribute _ _ _ _ _
  | startClass =>
    intro x y he hx
    obtain ⟨id, b, hopen, rfl⟩ := startClass_eq_ok he
    exact presentable_of_upholds hx (upholds_openClass hopen) fun _ hid => hid
  | clearComment => exact staysPresentable_comment
  | addComment => exact staysPresentable_comment
  | endComment => exact staysPresentable_comment
  | defineConstant =>
    intro x y he hx
    rw [effect_defineConstant, Prod.mk.injEq] at he
    rw [← he.2]
    have hconstant : x.host.binding.Upholds (constantIn (trimmed m 1) m.text x.host.binding) := by
      rw [constantIn]
      split <;> exact .of_eq rfl rfl
    exact presentable_withBinding hx hconstant
  | endClass =>
    intro x y he hx
    cases he
    exact ⟨hx.binding, hx.inEnum⟩
  | endEnum =>
    intro x y he hx
    obtain ⟨id, b, hid, hclose, rfl⟩ := endEnum_eq_ok he
    exact ⟨(upholds_closeEnum (hx.inEnum id hid) hclose).all hx.binding, forall_mem_none⟩
  | startEnum => exact staysPresentable_startEnum _
  | addEnumValue => exact .opened fun id => staysPresentable_modifyClass id fun _ => rfl
  | addMethodArgument => exact staysPresentable_addMethodArgument m
  | endMethod => exact staysPresentable_endMethod
  | startMethod => exact staysPresentable_startMethod m
  | aliasType =>
    refine staysPresentable_onBinding fun b b' he => ?_
    cases he
    exact .of_eq rfl rfl
  | addStructAttribute => exact .opened fun id => hattribute _ _ _ _ _
  | addStructPointer => exact .opened fun id => hattribute _ _ _ _ _
  | endStruct =>
    intro x y he hx
    obtain ⟨id, b, -, hclose, rfl⟩ := endStruct_eq_ok he
    exact presentable_of_upholds hx (upholds_closeStruct hclose) fun _ hid => hid
  | startStruct =>
    intro x y he hx
    obtain ⟨id, b, hopen, rfl⟩ := startStruct_eq_ok he
    exact presentable_of_upholds hx (augments_openStruct hopen).upholds fun _ hid => hid
  | endNamedEnum =>
    intro x y he hx
    obtain ⟨id, b, hid, hclose, rfl⟩ := endNamedEnum_eq_ok he
    rw [nameClass, Act.effect_bind_of_ok (effect_modifyClass _ _ _)] at hclose
    have hnamed := upholds_withName x.host.binding id (m.group 1)
    have hclosed := upholds_closeEnum (hnamed.presentable id (hx.inEnum id hid)) hclose
    exact ⟨(hnamed.trans hclosed).all hx.binding, forall_mem_none⟩
  | startNamelessEnum => exact staysPresentable_startEnum none
  | endNamedStruct =>
    intro x y he hx
    obtain ⟨id, b, -, hclose, rfl⟩ := endNamedStruct_eq_ok he
    rw [nameClass, Act.effect_bind_of_ok (effect_modifyClass _ _ _)] at hclose
    exact presentable_of_upholds hx ((upholds_withName _ _ _).trans (upholds_closeStruct hclose)) fun _ hid => hid
  | startNamelessStruct =>
    intro x y he hx
    obtain ⟨id, b, hopen, rfl⟩ := startNamelessStruct_eq_ok he
    exact presentable_of_upholds hx (augments_openStruct hopen).upholds fun _ hid => hid

/-! ### Reading on -/

/-- The readers that calls that do not fail lead to: headers are read, and classes are made and, where they are
presentable, become known. -/
inductive Populated : HeaderReader → Prop where
  | start {x : HeaderReader} (h : Started x) : Populated x
  | feed {x y : HeaderReader} {bytes : ByteArray} (h : Populated x)
      (he : (Lexer.feed bytes).effect x = (.ok (), y)) : Populated y
  | next {x y : HeaderReader} {atEnd : Bool} {token : Option String} (h : Populated x)
      (he : (nextToken callbacks atEnd).effect x = (.ok token, y)) : Populated y
  | note {x y : HeaderReader} {name : String} (h : Populated x)
      (he : (noteFile name).effect x = (.ok (), y)) : Populated y
  | make {x y : HeaderReader} {c : ClassDef} {id : ClassId} (h : Populated x)
      (he : (onBinding (addClassDef c)).effect x = (.ok id, y)) : Populated y
  | declare {x y : HeaderReader} {id : ClassId} {kind : Kind} (h : Populated x)
      (hid : (x.host.binding.classAt id).Presentable)
      (he : (onBinding (Class.declare id kind)).effect x = (.ok (), y)) : Populated y

lemma Built.populated (h : Built x) : Populated x := by
  induction h with
  | start h => exact .start h
  | feed _ he ih => exact .feed ih he
  | next _ he ih => exact .next ih he
  | note _ he ih => exact .note ih he

lemma presentable_of_started (h : Started x) : x.host.Presentable := by
  obtain ⟨settings, registry, name, base, verbose, rfl⟩ := h.eq
  exact ⟨List.forall_mem_nil _, forall_mem_none⟩

lemma presentable_of_actsIf {called : Option (String × Match)} {h h' : Header} (ha : ActsIf called h h')
    (hp : h.Presentable) : h'.Presentable := by
  obtain ⟨rfl, -⟩ | ⟨name, m, act, -, hact, x, y, he, rfl, rfl⟩ := ha.cases
  · exact hp
  · exact staysPresentable_action hact m x y he hp

/-- The rules are those of headers, the states agree with what is open, and everything is presentable. -/
structure Orderly (x : HeaderReader) : Prop where
  rows : x.rows = rules.map .rule
  agrees : Agrees x.stack x.state x.openings
  presentable : x.host.Presentable

lemma Orderly.withBinding {b : Binding} (h : x.Orderly) (hb : x.host.binding.Upholds b) : (x.withBinding b).Orderly :=
  ⟨h.rows, h.agrees, presentable_withBinding h.presentable hb⟩

lemma Populated.orderly (h : Populated x) : x.Orderly := by
  induction h with
  | start h =>
    have hread := wellRead_of_started h
    exact ⟨hread.rows, hread.agrees, presentable_of_started h⟩
  | feed _ he ih =>
    obtain ⟨text, rfl⟩ := feed_eq_ok he
    exact ⟨ih.rows, ih.agrees, ih.presentable⟩
  | @next x y atEnd _ _ he ih =>
    obtain ⟨hagrees, hacts⟩ := agrees_nextToken ih.rows ih.agrees he
    refine ⟨?_, hagrees, presentable_of_actsIf hacts ih.presentable⟩
    rw [← ih.rows, ← rows_nextToken ih.rows atEnd, he]
  | note _ he ih =>
    obtain rfl | ⟨files, includes, rfl⟩ := noteFile_eq_ok he
    · exact ih
    · exact ih.withBinding (.of_eq rfl rfl)
  | @make x y c id _ he ih =>
    obtain ⟨b, hb, rfl⟩ := onBinding_eq_ok he
    cases hb
    exact ih.withBinding (Augments.push _ c).upholds
  | declare _ hid he ih =>
    obtain ⟨b, hb, rfl⟩ := onBinding_eq_ok he
    cases hb
    exact ih.withBinding (upholds_named hid _)

/-! ### Registration -/

/-- The code that registers classes when a module is loaded comes about if and only if all classes that are known
are presentable, which they are as long as no call fails and no other class is added. It then enters the active
plain classes into the table and no other, each at the next place of the table and one after the other, and there
are fewer of them than the table has places. -/
theorem registers_initialization (b : Binding) :
    (b.Presentable → ∃ blocks, initialization.effect b = (.ok (b.initText ++ greeting ++ blocks), b) ∧
      Registers b (b.index.entries.length + 1) 0 b.registered blocks) ∧
    (¬ b.Presentable → initialization.effect b = (.error .badArgument, b)) ∧
    b.registered.length < b.index.entries.length + 1 ∧
    Reserves (b.index.entries.length + 1) b.supportCode ∧
    ∀ x : HeaderReader, Populated x → x.host.binding.Presentable := by
  refine ⟨fun hb => ⟨_, effect_initialization hb, registers_entries hb 0 ?_⟩, effect_initialization_of_not,
    length_registered_lt b, reserves_supportCode b, fun x hx => hx.orderly.presentable.binding⟩
  rw [Dict.values, List.length_map]
  omega

/-- The reader after a class was made and became known. -/
def adding (c : ClassDef) (kind : Kind) (x : HeaderReader) : HeaderReader :=
  let b := x.host.binding
  x.withBinding (named { b with classes := b.classes.push c } b.classes.size kind)

lemma Populated.adding {c : ClassDef} (h : Populated x) (hc : c.Presentable) (kind : Kind) :
    Populated (x.adding c kind) := by
  have hnew (b : Binding) : ({ b with classes := b.classes.push c } : Binding).classAt b.classes.size = c :=
    (classAt_of_push rfl).1
  have hmade : (onBinding (addClassDef c)).effect x = (.ok x.host.binding.classes.size,
      x.withBinding { x.host.binding with classes := x.host.binding.classes.push c }) := rfl
  exact (h.make hmade).declare ((hnew x.host.binding).symm ▸ hc) rfl

/-- A class, a private class, an enum without a name, and the first class once more. -/
def fourClasses : HeaderReader :=
  unread |>.adding { name := some "A" } .object
    |>.adding { name := some "B", modifiers := [some "PRIVATE"] } .object
    |>.adding { kind := .enum } .enumeration
    |>.adding { name := some "A", baseName := some "B" } .object

theorem registers_initialization_fourClasses : Populated fourClasses ∧
    ∃ blocks, initialization.effect fourClasses.host.binding =
        (.ok (fourClasses.host.binding.initText ++ greeting ++ blocks), fourClasses.host.binding) ∧
      Registers fourClasses.host.binding 4 0 [3] blocks ∧ Reserves 4 fourClasses.host.binding.supportCode := by
  have hpopulated : Populated fourClasses := by
    refine (((Populated.start started_unread).adding ?_ _).adding ?_ _).adding ?_ _ |>.adding ?_ _
    · exact ClassDef.presentable_of_name rfl
    · exact ClassDef.presentable_of_name rfl
    · exact fun _ => by decide
    · exact ClassDef.presentable_of_name rfl
  obtain ⟨hok, -, -, hreserves, hpresentable⟩ := registers_initialization fourClasses.host.binding
  obtain ⟨blocks, heffect, hregisters⟩ := hok (hpresentable _ hpopulated)
  have hids : fourClasses.host.binding.registered = [3] := by decide
  have hsize : fourClasses.host.binding.index.entries.length = 3 := by decide
  rw [hsize] at hreserves hregisters
  rw [hids] at hregisters
  exact ⟨hpopulated, blocks, heffect, hregisters, hreserves⟩

lemma visited_after (h : Visited x) (n : Nat) : Visited (after n x) := by
  induction n generalizing x with
  | zero => exact h
  | succ n ih => exact ih (h.next rfl)

/-- The reader after a class and a struct that is closed without a name, which fails. -/
def unnamedStruct : HeaderReader :=
  after 9 (fed "CCLASS(Object, Obj)\nEND_CCLASS\ntypedef struct \x7b\nint x;\n\x7d\n" unread)

/-- A class and a struct without a name, which are added by hand. -/
def addedStruct : HeaderReader :=
  unread |>.adding { name := some "Object" } .object |>.adding { kind := .struct, active := false } .struct

/-- A struct without a name may become known, by a call that fails as well as without one. Then there is a class to
register, and no code that does so. -/
theorem not_initialization_unnamedStruct :
    (Visited unnamedStruct ∧ unnamedStruct.host.binding.registered = [0] ∧
      initialization.effect unnamedStruct.host.binding = (.error .badArgument, unnamedStruct.host.binding)) ∧
    addedStruct.host.binding.registered = [0] ∧
      initialization.effect addedStruct.host.binding = (.error .badArgument, addedStruct.host.binding) := by
  have hvisited : Visited unnamedStruct :=
    visited_after ((Visited.start started_unread).feed (effect_feed _ _)) 9
  obtain ⟨hids, hnot⟩ : unnamedStruct.host.binding.registered = [0] ∧
      ¬ unnamedStruct.host.binding.Presentable := by
    decide +kernel
  have hadded : ¬ addedStruct.host.binding.Presentable := by decide
  exact ⟨⟨hvisited, hids, effect_initialization_of_not hnot⟩, by decide, effect_initialization_of_not hadded⟩

end HeaderReader

end HeaderBind
