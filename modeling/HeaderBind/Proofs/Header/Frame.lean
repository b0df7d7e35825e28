import HeaderBind.Proofs.Header.Actions
import HeaderBind.Proofs.Lexer.Progress

/-!
# What the actions of a header leave alone

No action of a header touches the lexer around the header: not its state, its stack or its text. Of
what is open an action that succeeds changes only what it is there to open or to close
(`opensAs_action`).
-/

namespace HeaderBind

/-- A lexer apart from its host. -/
def Lexer.shell {η : Type} (x : Lexer η) : Lexer Unit :=
  { x with host := () }

namespace HeaderReader

open Declaring

variable {α γ : Type} {part : HeaderReader → γ} {m : Match} {x y : HeaderReader}

/-! ### Around the header -/

@[simp] lemma shell_withHost (x : HeaderReader) (h : Header) : (x.withHost h).shell = x.shell := rfl

/-- The lexer around the header, and what is open in it. -/
def frame (x : HeaderReader) :
    Lexer Unit × Option ClassId × Option ClassId × Option ClassId × Option Method :=
  (x.shell, x.host.currentClass, x.host.currentStruct, x.host.currentEnum, x.host.currentMethod)

@[simp] lemma frame_withBinding (x : HeaderReader) (b : Binding) :
    (x.withBinding b).frame = x.frame := rfl

lemma keeps_onBinding (h : ∀ x b, part (withBinding x b) = part x) (act : Act Binding α) :
    (onBinding act).Keeps part :=
  fun x => h x _

lemma keeps_modifyHeader {f : Header → Header}
    (h : ∀ x : HeaderReader, part (x.withHost (f x.host)) = part x) : (modifyHeader f).Keeps part := h

lemma keeps_header : header.Keeps part := fun _ => rfl

lemma keeps_opened (id : Option ClassId) : (opened id).Keeps part := by
  cases id <;> exact fun _ => rfl

/-- Work on what is open. -/
lemma keeps_opened_bind {which : Header → Option ClassId} {act : ClassId → Act HeaderReader α}
    (h : ∀ id, (act id).Keeps part) : (do act (← opened (which (← header)))).Keeps part :=
  keeps_header.bind fun _ => (keeps_opened _).bind h

/-- Work on what is open succeeds only if it is. -/
lemma opened_bind_eq_ok {which : Header → Option ClassId} {act : ClassId → Act HeaderReader α}
    {a : α} (h : (do act (← opened (which (← header))) : Act HeaderReader α).effect x = (.ok a, y)) :
    ∃ id, which x.host = some id ∧ (act id).effect x = (.ok a, y) := by
  rw [Act.effect_bind_of_ok (effect_header x)] at h
  cases hid : which x.host with
  | none =>
    rw [hid, Act.effect_bind_of_error (effect_opened_none x)] at h
    cases h
  | some id =>
    rw [hid, Act.effect_bind_of_ok (effect_opened_some id x)] at h
    exact ⟨id, rfl, h⟩

lemma onBinding_eq_ok {act : Act Binding α} {a : α} (h : (onBinding act).effect x = (.ok a, y)) :
    ∃ b, act.effect x.host.binding = (.ok a, b) ∧ y = x.withBinding b := by
  rw [effect_onBinding, Prod.mk.injEq] at h
  exact ⟨_, Prod.ext h.1 rfl, h.2.symm⟩

/-- Work on the binding, and then a change of what is open. -/
lemma onBinding_modifyHeader_eq_ok {act : Act Binding α} {f : α → Header → Header}
    (h : (do
      let a ← onBinding act
      modifyHeader (f a) : Act HeaderReader Unit).effect x = (.ok (), y)) :
    ∃ a b, act.effect x.host.binding = (.ok a, b) ∧
      y = x.withHost (f a { x.host with binding := b }) := by
  obtain ⟨a, t, ha, ht⟩ := Act.effect_bind_eq_ok.mp h
  obtain ⟨b, hb, rfl⟩ := onBinding_eq_ok ha
  cases ht
  exact ⟨a, b, hb, rfl⟩

/-! ### Actions that open and close nothing -/

lemma keeps_frame_onBinding (act : Act Binding α) : (onBinding act).Keeps frame :=
  keeps_onBinding frame_withBinding act

lemma keeps_frame_defineConstant (m : Match) : (defineConstant m).Keeps frame := by
  intro x
  rw [effect_defineConstant, frame_withBinding]

lemma keeps_frame_addMethodArgument (m : Match) : (addMethodArgument m).Keeps frame := by
  refine keeps_header.bind fun h => ?_
  split
  · exact .pure ()
  · split
    · exact .bind (.fail _) fun _ => keeps_frame_onBinding _
    · exact keeps_frame_onBinding _

/-! ### Actions that open -/

lemma startClass_eq_ok (h : (startClass m).effect x = (.ok (), y)) :
    ∃ id b, (openClass x.host.comment (m.group? 1) (trimmed m 2) (trimmed m 3)).effect
        x.host.binding = (.ok id, b) ∧
      y = x.withHost { x.host with binding := b, currentClass := some id } := by
  rw [effect_startClass] at h
  exact onBinding_modifyHeader_eq_ok h

lemma startStruct_eq_ok (h : (startStruct m).effect x = (.ok (), y)) :
    ∃ id b, (openStruct (some (trimmed m 2)) fun c =>
        { c with doc := x.host.comment }.addModifier (m.group? 1)).effect x.host.binding = (.ok id, b) ∧
      y = x.withHost { x.host with binding := b, currentStruct := some id } := by
  rw [effect_startStruct] at h
  exact onBinding_modifyHeader_eq_ok h

lemma startNamelessStruct_eq_ok (h : startNamelessStruct.effect x = (.ok (), y)) :
    ∃ id b, (openStruct none fun c => { c with doc := x.host.comment }).effect x.host.binding =
        (.ok id, b) ∧
      y = x.withHost { x.host with binding := b, currentStruct := some id } := by
  rw [effect_startNamelessStruct] at h
  exact onBinding_modifyHeader_eq_ok h

lemma startEnum_eq_ok {name : Option String} (h : (startEnum name).effect x = (.ok (), y)) :
    ∃ id b, (Class.makeEnum name).effect x.host.binding = (.ok id, b) ∧
      y = x.withHost { x.host with binding := b, currentEnum := some id } :=
  onBinding_modifyHeader_eq_ok h

/-- A method is opened in the class that is open, unless it is private. -/
lemma startMethod_eq_ok (h : (startMethod m).effect x = (.ok (), y)) :
    (m.group 1 = "PRIVATE" ∧ y = x) ∨
      m.group 1 ≠ "PRIVATE" ∧ ∃ id method b, x.host.currentClass = some id ∧
        (openMethod id x.host.comment (trimmed m 2) (trimmed m 5)).effect x.host.binding =
          (.ok method, b) ∧
        y = x.withHost { x.host with binding := b, currentMethod := some method } := by
  by_cases hp : m.group 1 = "PRIVATE"
  · rw [effect_startMethod_of_private hp] at h
    cases h
    exact .inl ⟨hp, rfl⟩
  · refine .inr ⟨hp, ?_⟩
    cases hid : x.host.currentClass with
    | none =>
      rw [effect_startMethod_of_none hp hid] at h
      cases h
    | some id =>
      rw [effect_startMethod hp hid] at h
      split at h
      next method b he =>
        cases h
        exact ⟨id, method, b, rfl, he, rfl⟩
      next => cases h

/-! ### Actions that close -/

lemma endStruct_eq_ok (h : endStruct.effect x = (.ok (), y)) :
    ∃ id b, x.host.currentStruct = some id ∧ (closeStruct id).effect x.host.binding = (.ok (), b) ∧
      y = x.withHost { x.host with binding := b, currentStruct := none } := by
  obtain ⟨id, hid, -⟩ := opened_bind_eq_ok h
  rw [effect_endStruct hid] at h
  obtain ⟨_, b, hb, hy⟩ := onBinding_modifyHeader_eq_ok h
  exact ⟨id, b, hid, hb, hy⟩

lemma endNamedStruct_eq_ok (h : (endNamedStruct m).effect x = (.ok (), y)) :
    ∃ id b, x.host.currentStruct = some id ∧
      (do nameClass id (trimmed m 1); closeStruct id).effect x.host.binding = (.ok (), b) ∧
      y = x.withHost { x.host with binding := b, currentStruct := none } := by
  obtain ⟨id, hid, -⟩ := opened_bind_eq_ok h
  rw [effect_endNamedStruct hid] at h
  obtain ⟨_, b, hb, hy⟩ := onBinding_modifyHeader_eq_ok h
  exact ⟨id, b, hid, hb, hy⟩

lemma endEnum_eq_ok (h : endEnum.effect x = (.ok (), y)) :
    ∃ id b, x.host.currentEnum = some id ∧ (closeEnum id).effect x.host.binding = (.ok (), b) ∧
      y = x.withHost { x.host with binding := b, currentEnum := none } := by
  obtain ⟨id, hid, -⟩ := opened_bind_eq_ok h
  rw [effect_endEnum hid] at h
  obtain ⟨_, b, hb, hy⟩ := onBinding_modifyHeader_eq_ok h
  exact ⟨id, b, hid, hb, hy⟩

lemma endNamedEnum_eq_ok (h : (endNamedEnum m).effect x = (.ok (), y)) :
    ∃ id b, x.host.currentEnum = some id ∧
      (do nameClass id (m.group 1); closeEnum id).effect x.host.binding = (.ok (), b) ∧
      y = x.withHost { x.host with binding := b, currentEnum := none } := by
  obtain ⟨id, hid, -⟩ := opened_bind_eq_ok h
  rw [effect_endNamedEnum hid] at h
  obtain ⟨_, b, hb, hy⟩ := onBinding_modifyHeader_eq_ok h
  exact ⟨id, b, hid, hb, hy⟩

/-- What is done to the binding when a method is closed, whether it was set up or not. -/
def putOpenMethod (id : ClassId) (method : Method) (c : ClassDef) : Act HeaderReader Unit :=
  if method.kind.isConstructor && !method.unfinished then
    onBinding (Binding.modifyClass id fun c => Class.putMethod c method)
  else if breaksOff method c.methods then
    Act.fail .noSuchPart
  else if method.unfinished then
    onBinding (Binding.modifyClass id fun c => { c with methods := c.methods ++ [method] })
  else
    onBinding (Binding.modifyClass id fun c => Class.putMethod c method)

lemma keeps_frame_putOpenMethod (id : ClassId) (method : Method) (c : ClassDef) :
    (putOpenMethod id method c).Keeps frame := by
  unfold putOpenMethod
  split
  · exact keeps_frame_onBinding _
  · split
    · exact .fail _
    · split <;> exact keeps_frame_onBinding _

lemma effect_endMethod_of_some {method : Method} (h : x.host.currentMethod = some method) :
    endMethod.effect x =
      (do
        let id ← opened x.host.currentClass
        putOpenMethod id method (x.host.binding.classAt id)
        modifyHeader fun h => { h with currentMethod := none } : Act HeaderReader Unit).effect x := by
  rw [endMethod, Act.effect_bind_of_ok (effect_header x), h]
  cases x.host.currentClass with
  | none => rfl
  | some id =>
    rw [Act.effect_bind_of_ok (effect_opened_some id x), Act.effect_bind_of_ok (effect_opened_some id x),
      putOpenMethod]
    dsimp only
    split
    · rfl
    · split
      · rfl
      · split <;> rfl

/-- After its end no method is open. -/
lemma endMethod_eq_ok (h : endMethod.effect x = (.ok (), y)) :
    y.shell = x.shell ∧ y.host.currentClass = x.host.currentClass ∧
      y.host.currentStruct = x.host.currentStruct ∧ y.host.currentEnum = x.host.currentEnum ∧
      y.host.currentMethod = none := by
  cases hm : x.host.currentMethod with
  | none =>
    rw [effect_endMethod_of_none hm] at h
    cases h
    exact ⟨rfl, rfl, rfl, rfl, hm⟩
  | some method =>
    rw [effect_endMethod_of_some hm] at h
    obtain ⟨id, s, hid, h⟩ := Act.effect_bind_eq_ok.mp h
    have hs : s = x := by
      cases hc : x.host.currentClass <;> rw [hc] at hid <;> cases hid
      rfl
    obtain ⟨_, t, hput, h⟩ := Act.effect_bind_eq_ok.mp h
    have hframe := (keeps_frame_putOpenMethod _ _ _).of_effect hput
    cases h
    rw [hs] at hframe
    simp only [frame, Prod.mk.injEq] at hframe
    exact ⟨hframe.1, hframe.2.1, hframe.2.2.1, hframe.2.2.2.1, rfl⟩

/-! ### All actions -/

lemma keeps_shell {act : Act HeaderReader α} (h : act.Keeps frame) : act.Keeps Lexer.shell :=
  fun x => congrArg Prod.fst (h x)

lemma keeps_shell_onBinding (act : Act Binding α) : (onBinding act).Keeps Lexer.shell :=
  keeps_shell (keeps_frame_onBinding act)

lemma keeps_shell_modifyHeader (f : Header → Header) : (modifyHeader f).Keeps Lexer.shell :=
  fun x => shell_withHost x _

lemma keeps_shell_startClass (m : Match) : (startClass m).Keeps Lexer.shell := by
  intro x
  rw [effect_startClass]
  exact (keeps_shell_onBinding _).bind (fun _ => keeps_shell_modifyHeader _) x

lemma keeps_shell_startMethod (m : Match) : (startMethod m).Keeps Lexer.shell := by
  intro x
  by_cases hp : m.group 1 = "PRIVATE"
  · rw [effect_startMethod_of_private hp]
  · cases hid : x.host.currentClass with
    | none => rw [effect_startMethod_of_none hp hid, shell_withHost]
    | some id =>
      rw [effect_startMethod hp hid]
      split <;> rfl

lemma keeps_shell_endMethod : endMethod.Keeps Lexer.shell := by
  intro x
  cases hm : x.host.currentMethod with
  | none => rw [effect_endMethod_of_none hm]
  | some method =>
    rw [effect_endMethod_of_some hm]
    exact (keeps_opened _).bind (fun _ => (keeps_shell (keeps_frame_putOpenMethod _ _ _)).bind
      fun _ => keeps_shell_modifyHeader _) x

lemma keeps_shell_startStruct (m : Match) : (startStruct m).Keeps Lexer.shell := by
  intro x
  rw [effect_startStruct]
  exact (keeps_shell_onBinding _).bind (fun _ => keeps_shell_modifyHeader _) x

lemma keeps_shell_startNamelessStruct : startNamelessStruct.Keeps Lexer.shell := by
  intro x
  rw [effect_startNamelessStruct]
  exact (keeps_shell_onBinding _).bind (fun _ => keeps_shell_modifyHeader _) x

lemma keeps_shell_startEnum (name : Option String) : (startEnum name).Keeps Lexer.shell :=
  (keeps_shell_onBinding _).bind fun _ => keeps_shell_modifyHeader _

lemma keeps_shell_endStruct : endStruct.Keeps Lexer.shell :=
  keeps_opened_bind fun _ => (keeps_shell_onBinding _).bind fun _ => keeps_shell_modifyHeader _

lemma keeps_shell_endEnum : endEnum.Keeps Lexer.shell :=
  keeps_opened_bind fun _ => (keeps_shell_onBinding _).bind fun _ => keeps_shell_modifyHeader _

/-- Which declarations are open. -/
structure Openings where
  inClass : Bool
  inStruct : Bool
  inEnum : Bool
  inMethod : Bool
deriving DecidableEq

/-- What is open while a header is read. -/
def openings (x : HeaderReader) : Openings :=
  ⟨x.host.currentClass.isSome, x.host.currentStruct.isSome, x.host.currentEnum.isSome,
    x.host.currentMethod.isSome⟩

lemma openings_of_frame (h : y.frame = x.frame) : y.openings = x.openings := by
  simp only [frame, Prod.mk.injEq] at h
  simp only [openings, h]

/-- What an action changes of what is open. -/
inductive Change where
  | nothing | opensClass | closesClass | opensStruct | closesStruct | opensEnum | closesEnum
  | opensMethod | closesMethod
deriving DecidableEq

/-- What an action changes of what is open, by its name. -/
def changeOf : String → Change
  | "CCLASS_START" => .opensClass
  | "END_CCLASS" => .closesClass
  | "STRUCT_START" | "TYPEDEF_STRUCT_START" => .opensStruct
  | "STRUCT_END" | "TYPEDEF_STRUCT_END" => .closesStruct
  | "ENUM_START" | "TYPEDEF_ENUM_START" => .opensEnum
  | "ENUM_END" | "TYPEDEFED_ENUM_END" => .closesEnum
  | "METHOD_START" => .opensMethod
  | "METHOD_END" => .closesMethod
  | _ => .nothing

/-- What may be open after a change: a private method is not opened. -/
def Openings.after (o : Openings) : Change → List Openings
  | .nothing => [o]
  | .opensClass => [{ o with inClass := true }]
  | .closesClass => [{ o with inClass := false }]
  | .opensStruct => [{ o with inStruct := true }]
  | .closesStruct => [{ o with inStruct := false }]
  | .opensEnum => [{ o with inEnum := true }]
  | .closesEnum => [{ o with inEnum := false }]
  | .opensMethod => [{ o with inMethod := true }, o]
  | .closesMethod => [{ o with inMethod := false }]

/-- The action leaves the lexer around the header alone, also when it fails, and when it succeeds it
opens and closes what its name says. -/
def OpensAs (name : String) (act : Act HeaderReader Unit) : Prop :=
  act.Keeps Lexer.shell ∧
    ∀ x y, act.effect x = (.ok (), y) → y.openings ∈ x.openings.after (changeOf name)

lemma OpensAs.of_keeps {name : String} {act : Act HeaderReader Unit} (h : act.Keeps frame)
    (hn : changeOf name = .nothing) : OpensAs name act := by
  refine ⟨keeps_shell h, fun x y he => ?_⟩
  rw [hn, openings_of_frame (h.of_effect he)]
  exact List.mem_singleton_self _

/-- An action after which only one thing can be open. -/
lemma OpensAs.of_host {name : String} {act : Act HeaderReader Unit} (h : act.Keeps Lexer.shell)
    (ho : ∀ x y, act.effect x = (.ok (), y) → [y.openings] = x.openings.after (changeOf name)) :
    OpensAs name act :=
  ⟨h, fun x y he => ho x y he ▸ List.mem_singleton_self _⟩

lemma opensAs_startMethod (m : Match) : OpensAs "METHOD_START" (startMethod m) := by
  refine ⟨keeps_shell_startMethod m, fun x y he => ?_⟩
  rcases startMethod_eq_ok he with ⟨-, rfl⟩ | ⟨-, id, method, b, -, -, rfl⟩
  · exact List.mem_cons_of_mem _ (List.mem_singleton_self _)
  · exact List.mem_cons_self

lemma opensAs_endMethod : OpensAs "METHOD_END" endMethod := by
  refine .of_host keeps_shell_endMethod fun x y he => ?_
  obtain ⟨-, hc, hs, hn, hm⟩ := endMethod_eq_ok he
  simp only [openings, hc, hs, hn, hm]
  rfl

lemma opensAs_startClass (m : Match) : OpensAs "CCLASS_START" (startClass m) := by
  refine .of_host (keeps_shell_startClass m) fun x y he => ?_
  obtain ⟨id, b, -, rfl⟩ := startClass_eq_ok he
  rfl

lemma opensAs_endClass : OpensAs "END_CCLASS" endClass := by
  refine .of_host (keeps_shell_modifyHeader _) fun x y he => ?_
  cases he
  rfl

lemma opensAs_startStruct (m : Match) : OpensAs "STRUCT_START" (startStruct m) := by
  refine .of_host (keeps_shell_startStruct m) fun x y he => ?_
  obtain ⟨id, b, -, rfl⟩ := startStruct_eq_ok he
  rfl

lemma opensAs_startNamelessStruct : OpensAs "TYPEDEF_STRUCT_START" startNamelessStruct := by
  refine .of_host keeps_shell_startNamelessStruct fun x y he => ?_
  obtain ⟨id, b, -, rfl⟩ := startNamelessStruct_eq_ok he
  rfl

lemma opensAs_endStruct : OpensAs "STRUCT_END" endStruct := by
  refine .of_host keeps_shell_endStruct fun x y he => ?_
  obtain ⟨id, b, -, -, rfl⟩ := endStruct_eq_ok he
  rfl

lemma opensAs_endNamedStruct (m : Match) : OpensAs "TYPEDEF_STRUCT_END" (endNamedStruct m) := by
  refine .of_host (keeps_opened_bind fun _ =>
    (keeps_shell_onBinding _).bind fun _ => keeps_shell_endStruct) fun x y he => ?_
  obtain ⟨id, b, -, -, rfl⟩ := endNamedStruct_eq_ok he
  rfl

lemma opensAs_startEnum {name : String} (hn : changeOf name = .opensEnum) (enum : Option String) :
    OpensAs name (startEnum enum) := by
  refine .of_host (keeps_shell_startEnum enum) fun x y he => ?_
  obtain ⟨id, b, -, rfl⟩ := startEnum_eq_ok he
  rw [hn]
  rfl

lemma opensAs_endEnum : OpensAs "ENUM_END" endEnum := by
  refine .of_host keeps_shell_endEnum fun x y he => ?_
  obtain ⟨id, b, -, -, rfl⟩ := endEnum_eq_ok he
  rfl

lemma opensAs_endNamedEnum (m : Match) : OpensAs "TYPEDEFED_ENUM_END" (endNamedEnum m) := by
  refine .of_host (keeps_opened_bind fun _ =>
    (keeps_shell_onBinding _).bind fun _ => keeps_shell_endEnum) fun x y he => ?_
  obtain ⟨id, b, -, -, rfl⟩ := endNamedEnum_eq_ok he
  rfl

/-- Every action of a header opens and closes what its name says, and nothing else. -/
theorem opensAs_action {name : String} {act : Match → Act HeaderReader Unit}
    (h : action name = some act) (m : Match) : OpensAs name (act m) := by
  have hbinding : ∀ {name : String} (act : Act Binding Unit), changeOf name = .nothing →
      OpensAs name (onBinding act) := fun act hn => .of_keeps (keeps_frame_onBinding act) hn
  cases h using action_cases with
  | bindStruct => exact hbinding _ rfl
  | addClassAttribute => exact .of_keeps (keeps_opened_bind fun _ => keeps_frame_onBinding _) rfl
  | startClass => exact opensAs_startClass m
  | clearComment => exact .of_keeps (keeps_modifyHeader fun _ => rfl) rfl
  | addComment => exact .of_keeps (keeps_modifyHeader fun _ => rfl) rfl
  | endComment => exact .of_keeps (keeps_modifyHeader fun _ => rfl) rfl
  | defineConstant => exact .of_keeps (keeps_frame_defineConstant m) rfl
  | endClass => exact opensAs_endClass
  | endEnum => exact opensAs_endEnum
  | startEnum => exact opensAs_startEnum rfl _
  | addEnumValue => exact .of_keeps (keeps_opened_bind fun _ => keeps_frame_onBinding _) rfl
  | addMethodArgument => exact .of_keeps (keeps_frame_addMethodArgument m) rfl
  | endMethod => exact opensAs_endMethod
  | startMethod => exact opensAs_startMethod m
  | aliasType => exact hbinding _ rfl
  | addStructAttribute => exact .of_keeps (keeps_opened_bind fun _ => keeps_frame_onBinding _) rfl
  | addStructPointer => exact .of_keeps (keeps_opened_bind fun _ => keeps_frame_onBinding _) rfl
  | endStruct => exact opensAs_endStruct
  | startStruct => exact opensAs_startStruct m
  | endNamedEnum => exact opensAs_endNamedEnum m
  | startNamelessEnum => exact opensAs_startEnum rfl _
  | endNamedStruct => exact opensAs_endNamedStruct m
  | startNamelessStruct => exact opensAs_startNamelessStruct

end HeaderReader

end HeaderBind
