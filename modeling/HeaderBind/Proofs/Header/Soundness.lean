import HeaderBind.Proofs.Binding.Declaring
import HeaderBind.Proofs.Header.Nesting

/-!
# Sound readers

While a header is read without failing, the binding is sound, and so is what is open: the class, struct
or enum that is being read is there, and the signature of the method that is being read is free
(`Reached.sound`).
-/

namespace HeaderBind

open Binding (Spares Secures)

/-- What is being read is sound: the binding is, the class, struct or enum that is open is there, and
the signature of the method that is open is free. -/
structure Header.Sound (h : Header) : Prop where
  binding : h.binding.Sound
  inClass : ∀ id ∈ h.currentClass,
    id < h.binding.classes.size ∧ (h.binding.classAt id).kind = .class_
  inStruct : ∀ id ∈ h.currentStruct, id < h.binding.classes.size
  inEnum : ∀ id ∈ h.currentEnum, id < h.binding.classes.size
  inMethod : ∀ m ∈ h.currentMethod, m.unfinished = false ∧ h.binding.Free m.signature

namespace HeaderReader

open Declaring Lexer Header.Table

variable {x y : HeaderReader} {m : Match} {b : Binding}

lemma forall_mem_none {α : Type} {P : α → Prop} : ∀ a ∈ (none : Option α), P a :=
  fun a h => absurd h (Option.not_mem_none a)

/-- The binding changes, and what is open stays open. -/
lemma sound_withBinding (h : x.host.Sound) (hb : x.host.binding.Spares b) :
    (x.withBinding b).host.Sound where
  binding := hb.sound
  inClass id hid := by
    obtain ⟨hlt, hkind⟩ := h.inClass id hid
    exact ⟨Nat.lt_of_lt_of_le hlt hb.classes, (hb.kinds id hlt).trans hkind⟩
  inStruct id hid := Nat.lt_of_lt_of_le (h.inStruct id hid) hb.classes
  inEnum id hid := Nat.lt_of_lt_of_le (h.inEnum id hid) hb.classes
  inMethod m hm := ⟨(h.inMethod m hm).1, hb.free _ (h.inMethod m hm).2⟩

/-- An action leads from what is sound to what is sound, if it does not fail. -/
def StaysSound (act : Act HeaderReader Unit) : Prop :=
  ∀ x y : HeaderReader, act.effect x = (.ok (), y) → x.host.Sound → y.host.Sound

/-- Work on the binding that does not touch what counts. -/
lemma staysSound_onBinding {act : Act Binding Unit} (h : act.Keeps Binding.outline) :
    StaysSound (onBinding act) := by
  intro x y he hx
  obtain ⟨b, hb, rfl⟩ := onBinding_eq_ok he
  exact sound_withBinding hx (.of_outline hx.binding (h.of_effect hb))

lemma StaysSound.opened {which : Header → Option ClassId} {act : ClassId → Act HeaderReader Unit}
    (h : ∀ id, StaysSound (act id)) : StaysSound (do act (← opened (which (← header)))) := by
  intro x y he hx
  obtain ⟨id, -, he⟩ := opened_bind_eq_ok he
  exact h id x y he hx

lemma staysSound_comment {f : Header → String} :
    StaysSound (modifyHeader fun h => { h with comment := f h }) := by
  intro x y he hx
  cases he
  exact ⟨hx.binding, hx.inClass, hx.inStruct, hx.inEnum, hx.inMethod⟩

lemma keeps_outline {act : Act Binding Unit} (h : act.Keeps Binding.core) :
    act.Keeps Binding.outline :=
  fun b => Binding.outline_of_core (h b)

lemma staysSound_addAttribute (id : ClassId) (name type modifier : String)
    (named : List (String × Datum)) :
    StaysSound (onBinding (Class.addAttribute id name type modifier named)) :=
  staysSound_onBinding (keeps_outline (Class.keeps_core_addAttribute id name type modifier named))

/-! ### Classes, structs and enums -/

lemma staysSound_startClass (m : Match) : StaysSound (startClass m) := by
  intro x y he hx
  obtain ⟨id, b, hopen, rfl⟩ := startClass_eq_ok he
  obtain ⟨hspares, hid, hkind, -⟩ := (ends_openClass hx.binding _ _ _ _).ok hopen
  exact { sound_withBinding hx hspares with
    inClass := by
      rintro _ ⟨⟩
      exact ⟨hid, hkind⟩ }

lemma staysSound_endClass : StaysSound endClass := by
  intro x y he hx
  cases he
  exact { hx with inClass := forall_mem_none }

lemma sound_openStruct {name : Option String} {setUp : ClassDef → ClassDef} {id : ClassId}
    (hx : x.host.Sound) (he : (openStruct name setUp).effect x.host.binding = (.ok id, b))
    (hs : ∀ c, (setUp c).outline = c.outline) :
    (x.withHost { x.host with binding := b, currentStruct := some id }).host.Sound := by
  obtain ⟨hspares, hid⟩ := (ends_openStruct hx.binding name hs).ok he
  exact { sound_withBinding hx hspares with
    inStruct := by
      rintro _ ⟨⟩
      exact hid }

lemma staysSound_startStruct (m : Match) : StaysSound (startStruct m) := by
  intro x y he hx
  obtain ⟨id, b, hopen, rfl⟩ := startStruct_eq_ok he
  exact sound_openStruct hx hopen fun _ => rfl

lemma staysSound_startNamelessStruct : StaysSound startNamelessStruct := by
  intro x y he hx
  obtain ⟨id, b, hopen, rfl⟩ := startNamelessStruct_eq_ok he
  exact sound_openStruct hx hopen fun _ => rfl

lemma staysSound_endStruct : StaysSound endStruct := by
  intro x y he hx
  obtain ⟨id, b, hid, hclose, rfl⟩ := endStruct_eq_ok he
  have hspares := (ends_closeStruct hx.binding (hx.inStruct id hid)).ok hclose
  exact { sound_withBinding hx hspares with inStruct := forall_mem_none }

lemma staysSound_endNamedStruct (m : Match) : StaysSound (endNamedStruct m) := by
  intro x y he hx
  obtain ⟨id, b, hid, hclose, rfl⟩ := endNamedStruct_eq_ok he
  have hspares := (ends_nameClass hx.binding (hx.inStruct id hid) (trimmed m 1)
    fun _ h hlt => ends_closeStruct h hlt).ok hclose
  exact { sound_withBinding hx hspares with inStruct := forall_mem_none }

lemma staysSound_startEnum (name : Option String) : StaysSound (startEnum name) := by
  intro x y he hx
  obtain ⟨id, b, hopen, rfl⟩ := startEnum_eq_ok he
  obtain ⟨hspares, hid⟩ := (ends_openEnum hx.binding name).ok hopen
  exact { sound_withBinding hx hspares with
    inEnum := by
      rintro _ ⟨⟩
      exact hid }

lemma staysSound_endEnum : StaysSound endEnum := by
  intro x y he hx
  obtain ⟨id, b, hid, hclose, rfl⟩ := endEnum_eq_ok he
  have hspares := (ends_closeEnum hx.binding (hx.inEnum id hid)).ok hclose
  exact { sound_withBinding hx hspares with inEnum := forall_mem_none }

lemma staysSound_endNamedEnum (m : Match) : StaysSound (endNamedEnum m) := by
  intro x y he hx
  obtain ⟨id, b, hid, hclose, rfl⟩ := endNamedEnum_eq_ok he
  have hspares := (ends_nameClass hx.binding (hx.inEnum id hid) (m.group 1)
    fun _ h hlt => ends_closeEnum h hlt).ok hclose
  exact { sound_withBinding hx hspares with inEnum := forall_mem_none }

/-! ### Methods -/

lemma staysSound_startMethod (m : Match) : StaysSound (startMethod m) := by
  intro x y he hx
  rcases startMethod_eq_ok he with ⟨-, rfl⟩ | ⟨-, id, method, b, -, hopen, rfl⟩
  · exact hx
  · obtain ⟨rfl, t, -, rfl⟩ := (ends_openMethod id _ _ _ _).ok hopen
    obtain ⟨hspares, hfree⟩ := spares_openMethod hx.binding (core_withProtocol _ _ _) _
    exact { sound_withBinding hx hspares with
      inMethod := by
        rintro _ ⟨⟩
        exact ⟨rfl, hfree⟩ }

/-- An argument is added to the method that is open, if one is. -/
lemma addMethodArgument_eq_ok (hx : x.host.Sound)
    (he : (addMethodArgument m).effect x = (.ok (), y)) :
    (x.host.currentMethod = none ∧ y = x) ∨
      ∃ method args, x.host.currentMethod = some method ∧
        ((Method.addTo method.className method.name (x.host.binding.signatureAt method.signature).args
          (trimmed m 1) (trimmed m 2)).effect x.host.binding).1 = .ok args ∧
        y = x.withBinding (withArgs x.host.binding method args) := by
  cases hm : x.host.currentMethod with
  | none =>
    rw [effect_addMethodArgument_of_none hm] at he
    cases he
    exact .inl ⟨rfl, rfl⟩
  | some method =>
    rw [effect_addMethodArgument hm (hx.inMethod method hm).1] at he
    obtain ⟨b, hadd, rfl⟩ := onBinding_eq_ok he
    obtain ⟨args, hargs, rfl⟩ := (ends_addArgument method _ _ _).ok hadd
    exact .inr ⟨method, args, rfl, hargs, rfl⟩

lemma staysSound_addMethodArgument (m : Match) : StaysSound (addMethodArgument m) := by
  intro x y he hx
  rcases addMethodArgument_eq_ok hx he with ⟨-, rfl⟩ | ⟨method, args, -, -, rfl⟩
  · exact hx
  · exact sound_withBinding hx (.of_outline hx.binding (outline_withArgs _ method args))

/-- The method that is open, if one is, is put into the class that is open. -/
lemma endMethod_eq_put (hx : x.host.Sound) (he : endMethod.effect x = (.ok (), y)) :
    (x.host.currentMethod = none ∧ y = x) ∨
      ∃ method id, x.host.currentMethod = some method ∧ x.host.currentClass = some id ∧
        y = x.withHost { x.host with
          binding := x.host.binding.withClass id (Class.putMethod · method)
          currentMethod := none } := by
  cases hm : x.host.currentMethod with
  | none =>
    rw [effect_endMethod_of_none hm] at he
    cases he
    exact .inl ⟨rfl, rfl⟩
  | some method =>
    cases hid : x.host.currentClass with
    | none =>
      rw [effect_endMethod_of_some hm, hid,
        Act.effect_bind_of_error (effect_opened_none x)] at he
      cases he
    | some id =>
      rw [effect_endMethod hm (hx.inMethod method hm).1 hid] at he
      obtain ⟨_, b, hclose, rfl⟩ := onBinding_modifyHeader_eq_ok he
      rw [(ends_closeMethod id method _).ok hclose]
      exact .inr ⟨method, id, rfl, rfl, rfl⟩

lemma staysSound_endMethod : StaysSound endMethod := by
  intro x y he hx
  rcases endMethod_eq_put hx he with ⟨-, rfl⟩ | ⟨method, id, hm, hid, rfl⟩
  · exact hx
  · obtain ⟨hlt, hkind⟩ := hx.inClass id hid
    obtain ⟨hf, hfree⟩ := hx.inMethod method hm
    have hput := Secures.putMethod hx.binding hkind hlt hf hfree
    refine ⟨hput.sound, fun id' hid' => ?_, fun id' hid' => ?_, fun id' hid' => ?_, forall_mem_none⟩
    · obtain ⟨hlt', hkind'⟩ := hx.inClass id' hid'
      exact ⟨Nat.lt_of_lt_of_le hlt' hput.classes, (hput.kinds id' hlt').trans hkind'⟩
    · exact Nat.lt_of_lt_of_le (hx.inStruct id' hid') hput.classes
    · exact Nat.lt_of_lt_of_le (hx.inEnum id' hid') hput.classes

/-! ### Reading on -/

lemma staysSound_action {name : String} {act : Match → Act HeaderReader Unit}
    (h : action name = some act) (m : Match) : StaysSound (act m) := by
  cases h using action_cases with
  | bindStruct => exact staysSound_onBinding (.update fun _ => rfl)
  | addClassAttribute => exact .opened fun id => staysSound_addAttribute id _ _ _ _
  | startClass => exact staysSound_startClass m
  | clearComment => exact staysSound_comment
  | addComment => exact staysSound_comment
  | endComment => exact staysSound_comment
  | defineConstant =>
    intro x y he hx
    rw [effect_defineConstant] at he
    cases he
    refine sound_withBinding hx (.of_outline hx.binding ?_)
    rw [constantIn]
    split <;> rfl
  | endClass => exact staysSound_endClass
  | endEnum => exact staysSound_endEnum
  | startEnum => exact staysSound_startEnum _
  | addEnumValue =>
    exact .opened fun id => staysSound_onBinding fun b =>
      Binding.outline_withClass (f := fun c => { c with values := c.values ++ [trimmed m 1] })
        (fun _ => rfl) b id
  | addMethodArgument => exact staysSound_addMethodArgument m
  | endMethod => exact staysSound_endMethod
  | startMethod => exact staysSound_startMethod m
  | aliasType => exact staysSound_onBinding (.update fun _ => rfl)
  | addStructAttribute => exact .opened fun id => staysSound_addAttribute id _ _ _ _
  | addStructPointer => exact .opened fun id => staysSound_addAttribute id _ _ _ _
  | endStruct => exact staysSound_endStruct
  | startStruct => exact staysSound_startStruct m
  | endNamedEnum => exact staysSound_endNamedEnum m
  | startNamelessEnum => exact staysSound_startEnum none
  | endNamedStruct => exact staysSound_endNamedStruct m
  | startNamelessStruct => exact staysSound_startNamelessStruct

lemma sound_of_actsIf {called : Option (String × Match)} {h h' : Header} (ha : ActsIf called h h')
    (hs : h.Sound) : h'.Sound := by
  obtain ⟨rfl, -⟩ | ⟨name, m, act, -, hact, x, y, he, rfl, rfl⟩ := ha.cases
  · exact hs
  · exact staysSound_action hact m x y he hs

theorem Reached.sound (h : Reached x) : x.host.Sound := by
  induction h with
  | start h =>
    obtain ⟨settings, registry, name, base, verbose, rfl⟩ := h.eq
    refine ⟨⟨fun key id hid => ?_, fun i hi => ?_⟩, forall_mem_none, forall_mem_none, forall_mem_none,
      forall_mem_none⟩
    · cases hid
    · exact absurd hi (Nat.not_lt_zero i)
  | feed _ he ih =>
    obtain ⟨text, rfl⟩ := feed_eq_ok he
    exact ih
  | next h he ih => exact sound_of_actsIf (agrees_nextToken h.rows h.agrees he).2 ih

end HeaderReader

end HeaderBind
