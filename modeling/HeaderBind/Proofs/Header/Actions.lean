import HeaderBind.Header.Reader
import HeaderBind.Proofs.Method.Lookup

/-!
# What the actions of a header do

Every action of a header works on the binding, on the comment, or on what is open: the class, struct,
enum and method that are being read. For each action its effect is given by an action on the binding
alone, and by what becomes open or is closed then.
-/

namespace HeaderBind

/-! ### Declaring step by step -/

namespace Declaring

/-- The class that a block opens: it inherits from its base where that can be inherited from, and is a
class of its own otherwise. -/
def baseClass (name base : String) : Act Binding ClassId := do
  let inherited ← Act.attempt do
    let id ← Binding.findClass (some base)
    Class.inherit id name
  match inherited with
  | .ok id => return id
  | .error f => if f.isCaught then Class.make (some name) (some base) else Act.fail f

/-- Make a class known, and pointers to it. -/
def announceClass (id : ClassId) (doc : String) (modifier : Option String) (name : String) :
    Act Binding Unit := do
  Binding.modifyClass id fun c => { c with doc }.addModifier modifier
  Class.declare id .object
  Act.update fun b => { b with registry := b.registry.register (some s!"{name} *") .objectPointer }

/-- Open a class. -/
def openClass (doc : String) (modifier : Option String) (name base : String) :
    Act Binding ClassId := do
  let id ← baseClass name base
  announceClass id doc modifier name
  return id

/-- Note the protocol that a method adds to its class. -/
def addProtocol (id : ClassId) (protocol : Option String) : Act Binding Unit :=
  match protocol with
  | some p => Binding.modifyClass id fun c => c.addModifier (some p)
  | none => pure ()

/-- Set up a method of a class. -/
def openMethod (id : ClassId) (doc returns name : String) : Act Binding Method := do
  let c := (← Act.state).classAt id
  addProtocol id (HeaderReader.methodKind c.name returns name).2
  let method ← Method.make (HeaderReader.methodKind c.name returns name).1 c.name c.baseName name []
    returns (some id)
  return { method with doc }

/-- Put a method into a class. Nothing is put where the look for a method of the same name comes to one
that broke off. -/
def closeMethod (id : ClassId) (method : Method) : Act Binding Unit := do
  let c := (← Act.state).classAt id
  if !method.kind.isConstructor && HeaderReader.breaksOff method c.methods then
    Act.fail .noSuchPart
  Binding.modifyClass id fun c => Class.putMethod c method

/-- Open a struct, and set it up. -/
def openStruct (name : Option String) (setUp : ClassDef → ClassDef) : Act Binding ClassId := do
  let id ← Class.makeStruct name
  Binding.modifyClass id setUp
  return id

/-- Make a struct known, and pointers to it. -/
def closeStruct (id : ClassId) : Act Binding Unit := do
  Class.declare id .struct
  let name ← Binding.need ((← Act.state).classAt id).name
  Act.update fun b => { b with registry := b.registry.register (some s!"{name} *") .structPointer }

/-- Make an enum known. Its values become constants. -/
def closeEnum (id : ClassId) : Act Binding Unit := do
  Class.declare id .enumeration
  let c := (← Act.state).classAt id
  Act.update fun b => c.values.foldl (fun b v => b.addConstant v "integer") b

/-- Give a class its name. -/
def nameClass (id : ClassId) (name : String) : Act Binding Unit :=
  Binding.modifyClass id fun c => { c with name := some name }

end Declaring

namespace HeaderReader

open Declaring

variable {α : Type} {m : Match} {x : HeaderReader} {id : ClassId}

/-! ### Parts of a reader -/

/-- The reader with another host. -/
def withHost (x : HeaderReader) (h : Header) : HeaderReader := { x with host := h }

/-- The reader with another binding. -/
def withBinding (x : HeaderReader) (b : Binding) : HeaderReader :=
  x.withHost { x.host with binding := b }

@[simp] lemma effect_onBinding (act : Act Binding α) (x : HeaderReader) :
    (onBinding act).effect x =
      ((act.effect x.host.binding).1, x.withBinding (act.effect x.host.binding).2) := rfl

@[simp] lemma effect_modifyHeader (f : Header → Header) (x : HeaderReader) :
    (modifyHeader f).effect x = (.ok (), x.withHost (f x.host)) := rfl

@[simp] lemma effect_header (x : HeaderReader) : header.effect x = (.ok x.host, x) := rfl

@[simp] lemma effect_opened_some (id : ClassId) (x : HeaderReader) :
    (opened (some id)).effect x = (.ok id, x) := rfl

@[simp] lemma effect_opened_none (x : HeaderReader) :
    (opened none).effect x = (.error .noSuchPart, x) := rfl

/-- Work on the binding goes through sequences. -/
lemma effect_onBinding_bind {β : Type} (act : Act Binding α) (next : α → Act Binding β)
    (x : HeaderReader) :
    (onBinding (act >>= next)).effect x = (onBinding act >>= fun a => onBinding (next a)).effect x := by
  rw [Act.effect_bind, effect_onBinding, effect_onBinding, Act.effect_bind]
  rcases act.effect x.host.binding with ⟨_ | _, _⟩ <;> rfl

/-! ### Comments, constants and requests -/

lemma effect_addComment (m : Match) (x : HeaderReader) :
    (addComment m).effect x =
      (.ok (), x.withHost { x.host with comment := x.host.comment ++ m.group 1 ++ "\n" }) := rfl

lemma effect_endComment (m : Match) (x : HeaderReader) :
    (endComment m).effect x =
      (.ok (), x.withHost { x.host with comment := x.host.comment ++ m.group 1 }) := rfl

lemma effect_clearComment (x : HeaderReader) :
    clearComment.effect x = (.ok (), x.withHost { x.host with comment := "" }) := rfl

/-- A macro that has the name of a constant becomes one. -/
def constantIn (name line : String) (b : Binding) : Binding :=
  if isConstantName b.denylist name then b.addConstant name (constantType line) else b

lemma effect_defineConstant (m : Match) (x : HeaderReader) :
    (defineConstant m).effect x =
      (.ok (), x.withBinding (constantIn (trimmed m 1) m.text x.host.binding)) := by
  rw [defineConstant, Act.effect_bind_of_ok (effect_header x), constantIn]
  split <;> rfl

/-! ### Classes -/

lemma effect_baseOrNew (name base : String) (x : HeaderReader) :
    (baseOrNew name base).effect x = (onBinding (baseClass name base)).effect x := by
  rw [baseOrNew, baseClass, effect_onBinding_bind, Act.effect_bind, Act.effect_bind]
  simp only [Act.effect_attempt, effect_onBinding]
  generalize (Binding.findClass (some base) >>= fun id => Class.inherit id name).effect
    x.host.binding = outcome
  obtain ⟨inherited, b⟩ := outcome
  -- Only the message about a base that is not known stands between the two.
  have hnote : ∀ y : HeaderReader, (do
      if (← Act.state).verbose > 1 then
        Act.note s!"Base class {base} is not defined."
      onBinding (Class.make (some name) (some base)) : Act HeaderReader ClassId).effect y =
        (onBinding (Class.make (some name) (some base))).effect y := by
    intro y
    rw [Act.effect_bind_of_ok (Act.effect_state y)]
    split <;> rfl
  cases inherited with
  | ok id => rfl
  | error f =>
    cases f with
    | missingKey key => exact hnote _
    | noSuchPart => exact hnote _
    | _ => rfl

lemma effect_startClass (m : Match) (x : HeaderReader) :
    (startClass m).effect x =
      (do
        let id ← onBinding (openClass x.host.comment (m.group? 1) (trimmed m 2) (trimmed m 3))
        modifyHeader fun h => { h with currentClass := some id } : Act HeaderReader Unit).effect x := by
  rw [startClass, Act.effect_bind, effect_baseOrNew, Act.effect_bind, openClass, effect_onBinding_bind,
    Act.effect_bind]
  simp only [effect_onBinding]
  rcases (baseClass (trimmed m 2) (trimmed m 3)).effect x.host.binding with ⟨f | id, b⟩
  · rfl
  · rfl

lemma effect_endClass (x : HeaderReader) :
    endClass.effect x = (.ok (), x.withHost { x.host with currentClass := none }) := rfl

lemma effect_addClassAttribute (hid : x.host.currentClass = some id) (m : Match) :
    (addClassAttribute m).effect x =
      (onBinding (Class.addAttribute id (trimmed m 3) (trimmed m 2) (m.group 1))).effect x := by
  rw [addClassAttribute, Act.effect_bind_of_ok (effect_header x), hid]
  rfl

/-! ### Methods -/

lemma effect_startMethod_of_private (hp : m.group 1 = "PRIVATE") (x : HeaderReader) :
    (startMethod m).effect x = (.ok (), x) := by
  rw [startMethod]
  simp only [hp, beq_self_eq_true, if_true]
  rfl

lemma effect_startMethod_of_none (hp : m.group 1 ≠ "PRIVATE") (hid : x.host.currentClass = none) :
    (startMethod m).effect x = (.error .noSuchPart,
      x.withHost { x.host with currentMethod := some (unfinishedMethod .ordinary) }) := by
  rw [startMethod]
  simp only [beq_false_of_ne hp, Bool.false_eq_true, if_false]
  rw [Act.effect_bind_of_ok (effect_modifyHeader _ x), Act.effect_bind_of_ok (effect_header _)]
  simp only [withHost, hid]
  rfl

/-- A method that is not private is set up, and is open from then on. Where it cannot be set up,
nothing but its kind is known. -/
lemma effect_startMethod (hp : m.group 1 ≠ "PRIVATE") (hid : x.host.currentClass = some id) :
    (startMethod m).effect x =
      match (openMethod id x.host.comment (trimmed m 2) (trimmed m 5)).effect x.host.binding with
      | (.ok method, b) =>
        (.ok (), x.withHost { x.host with binding := b, currentMethod := some method })
      | (.error f, b) =>
        (.error f, x.withHost { x.host with
          binding := b
          currentMethod := some (unfinishedMethod (methodKind (x.host.binding.classAt id).name
            (trimmed m 2) (trimmed m 5)).1) }) := by
  rw [startMethod, openMethod, Act.effect_bind_of_ok (Act.effect_state _)]
  simp only [beq_false_of_ne hp, Bool.false_eq_true, if_false]
  rw [Act.effect_bind_of_ok (effect_modifyHeader _ x), Act.effect_bind_of_ok (effect_header _)]
  simp only [withHost, hid]
  rw [Act.effect_bind_of_ok (effect_opened_some id _),
    Act.effect_bind_of_ok (effect_modifyHeader _ _)]
  rcases methodKind (x.host.binding.classAt id).name (trimmed m 2) (trimmed m 5) with
    ⟨kind, _ | protocol⟩ <;>
  simp only [addProtocol, Act.effect_bind, effect_onBinding, Act.effect_pure, Binding.modifyClass,
    Act.effect_update, withBinding, withHost]
  · rcases (Method.make kind _ _ (trimmed m 5) [] (trimmed m 2) (some id)).effect _ with
      ⟨f | method, b⟩ <;> rfl
  · rcases (Method.make kind _ _ (trimmed m 5) [] (trimmed m 2) (some id)).effect _ with
      ⟨f | method, b⟩ <;> rfl

lemma effect_addMethodArgument_of_none (h : x.host.currentMethod = none) (m : Match) :
    (addMethodArgument m).effect x = (.ok (), x) := by
  rw [addMethodArgument, Act.effect_bind_of_ok (effect_header x), h]
  rfl

lemma effect_addMethodArgument {method : Method} (h : x.host.currentMethod = some method)
    (hf : method.unfinished = false) (m : Match) :
    (addMethodArgument m).effect x =
      (onBinding (method.addArgument (trimmed m 1) (trimmed m 2))).effect x := by
  rw [addMethodArgument, Act.effect_bind_of_ok (effect_header x), h]
  simp only [hf, Bool.false_eq_true, if_false]

lemma effect_endMethod_of_none (h : x.host.currentMethod = none) :
    endMethod.effect x = (.ok (), x) := by
  rw [endMethod, Act.effect_bind_of_ok (effect_header x), h]
  rfl

lemma effect_endMethod {method : Method} (h : x.host.currentMethod = some method)
    (hf : method.unfinished = false) (hid : x.host.currentClass = some id) :
    endMethod.effect x =
      (do
        onBinding (closeMethod id method)
        modifyHeader fun h => { h with currentMethod := none } : Act HeaderReader Unit).effect x := by
  rw [endMethod, Act.effect_bind_of_ok (effect_header x), h, closeMethod]
  simp only [hid, hf, Bool.not_false, Bool.and_true, Bool.false_eq_true, if_false]
  rw [Act.effect_bind_of_ok (effect_opened_some id x), Act.effect_bind, effect_onBinding,
    Act.effect_bind_of_ok (Act.effect_state _)]
  by_cases hk : method.kind.isConstructor = true
  · simp only [hk, if_true, Bool.not_true, Bool.false_and, Bool.false_eq_true, if_false]
    rfl
  · by_cases hb : breaksOff method (x.host.binding.classAt id).methods = true
    · simp only [hk, hb, if_true, Bool.not_false, Bool.true_and, Bool.false_eq_true, if_false]
      rfl
    · simp only [hk, hb, Bool.not_false, Bool.true_and, Bool.false_eq_true, if_false]
      rfl

/-! ### Structs and enums -/

lemma effect_startStruct (m : Match) (x : HeaderReader) :
    (startStruct m).effect x =
      (do
        let id ← onBinding (openStruct (some (trimmed m 2)) fun c =>
          { c with doc := x.host.comment }.addModifier (m.group? 1))
        modifyHeader fun h => { h with currentStruct := some id } : Act HeaderReader Unit).effect x := by
  rw [startStruct, Act.effect_bind_of_ok (effect_header x)]
  simp only [openStruct, Act.effect_bind, effect_onBinding]
  rcases (Class.makeStruct (some (trimmed m 2))).effect x.host.binding with ⟨f | id, b⟩ <;> rfl

lemma effect_startNamelessStruct (x : HeaderReader) :
    startNamelessStruct.effect x =
      (do
        let id ← onBinding (openStruct none fun c => { c with doc := x.host.comment })
        modifyHeader fun h => { h with currentStruct := some id } : Act HeaderReader Unit).effect x := by
  rw [startNamelessStruct, Act.effect_bind_of_ok (effect_header x)]
  simp only [openStruct, Act.effect_bind, effect_onBinding]
  rcases (Class.makeStruct none).effect x.host.binding with ⟨f | id, b⟩ <;> rfl

/-- The array size of an attribute, where it has one. -/
def arraySize (size : Option String) : List (String × Datum) :=
  match size with
  | some size => [("array_size", Datum.text (Text.strip size))]
  | none => []

lemma effect_addStructAttribute (hid : x.host.currentStruct = some id) (m : Match) :
    (addStructAttribute m).effect x =
      (onBinding (Class.addAttribute id (trimmed m 2) (trimmed m 1) "" (arraySize (m.group? 3)))).effect
        x := by
  rw [addStructAttribute, Act.effect_bind_of_ok (effect_header x), hid]
  rfl

lemma effect_addStructPointer (hid : x.host.currentStruct = some id) (m : Match) :
    (addStructPointer m).effect x =
      (onBinding (Class.addAttribute id (trimmed m 2) s!"{trimmed m 1} *" "")).effect x := by
  rw [addStructPointer, Act.effect_bind_of_ok (effect_header x), hid]
  rfl

lemma effect_endStruct (hid : x.host.currentStruct = some id) :
    endStruct.effect x =
      (do
        onBinding (closeStruct id)
        modifyHeader fun h => { h with currentStruct := none } : Act HeaderReader Unit).effect x := by
  rw [endStruct, Act.effect_bind_of_ok (effect_header x), hid]
  rfl

lemma effect_endNamedStruct (hid : x.host.currentStruct = some id) (m : Match) :
    (endNamedStruct m).effect x =
      (do
        onBinding (do nameClass id (trimmed m 1); closeStruct id)
        modifyHeader fun h => { h with currentStruct := none } : Act HeaderReader Unit).effect x := by
  have hb : ∀ b, (x.withBinding b).host.currentStruct = some id := fun _ => hid
  rw [endNamedStruct, Act.effect_bind_of_ok (effect_header x), hid,
    Act.effect_bind_of_ok (effect_opened_some id x), Act.effect_bind_of_ok (effect_onBinding _ x),
    effect_endStruct (hb _), Act.effect_bind, Act.effect_bind]
  rfl

lemma effect_startEnum (name : Option String) (x : HeaderReader) :
    (startEnum name).effect x =
      (do
        let id ← onBinding (Class.makeEnum name)
        modifyHeader fun h => { h with currentEnum := some id } : Act HeaderReader Unit).effect x := rfl

lemma effect_addEnumValue (hid : x.host.currentEnum = some id) (m : Match) :
    (addEnumValue m).effect x =
      (onBinding (Binding.modifyClass id fun c =>
        { c with values := c.values ++ [trimmed m 1] })).effect x := by
  rw [addEnumValue, Act.effect_bind_of_ok (effect_header x), hid]
  rfl

lemma effect_endEnum (hid : x.host.currentEnum = some id) :
    endEnum.effect x =
      (do
        onBinding (closeEnum id)
        modifyHeader fun h => { h with currentEnum := none } : Act HeaderReader Unit).effect x := by
  rw [endEnum, Act.effect_bind_of_ok (effect_header x), hid]
  rfl

lemma effect_endNamedEnum (hid : x.host.currentEnum = some id) (m : Match) :
    (endNamedEnum m).effect x =
      (do
        onBinding (do nameClass id (m.group 1); closeEnum id)
        modifyHeader fun h => { h with currentEnum := none } : Act HeaderReader Unit).effect x := by
  have hb : ∀ b, (x.withBinding b).host.currentEnum = some id := fun _ => hid
  rw [endNamedEnum, Act.effect_bind_of_ok (effect_header x), hid,
    Act.effect_bind_of_ok (effect_opened_some id x), Act.effect_bind_of_ok (effect_onBinding _ x),
    effect_endEnum (hb _), Act.effect_bind, Act.effect_bind]
  rfl

/-! ### All actions -/

/-- What holds of all actions can be shown for each of them. -/
@[elab_as_elim] lemma action_cases
    {motive : (name : String) → (act : Match → Act HeaderReader Unit) → action name = some act → Prop}
    {name : String} {act : Match → Act HeaderReader Unit} (h : action name = some act)
    (bindStruct : motive "BIND_STRUCT" bindStruct rfl)
    (addClassAttribute : motive "CCLASS_ATTRIBUTE" addClassAttribute rfl)
    (startClass : motive "CCLASS_START" startClass rfl)
    (clearComment : motive "CLEAR_COMMENT" (fun _ => clearComment) rfl)
    (addComment : motive "COMMENT" addComment rfl)
    (endComment : motive "COMMENT_END" endComment rfl)
    (defineConstant : motive "DEFINE" defineConstant rfl)
    (endClass : motive "END_CCLASS" (fun _ => endClass) rfl)
    (endEnum : motive "ENUM_END" (fun _ => endEnum) rfl)
    (startEnum : motive "ENUM_START" (fun m => startEnum (some (trimmed m 1))) rfl)
    (addEnumValue : motive "ENUM_VALUE" addEnumValue rfl)
    (addMethodArgument : motive "METHOD_ARG" addMethodArgument rfl)
    (endMethod : motive "METHOD_END" (fun _ => endMethod) rfl)
    (startMethod : motive "METHOD_START" startMethod rfl)
    (aliasType : motive "SIMPLE_TYPEDEF" aliasType rfl)
    (addStructAttribute : motive "STRUCT_ATTRIBUTE" addStructAttribute rfl)
    (addStructPointer : motive "STRUCT_ATTRIBUTE_PTR" addStructPointer rfl)
    (endStruct : motive "STRUCT_END" (fun _ => endStruct) rfl)
    (startStruct : motive "STRUCT_START" startStruct rfl)
    (endNamedEnum : motive "TYPEDEFED_ENUM_END" endNamedEnum rfl)
    (startNamelessEnum : motive "TYPEDEF_ENUM_START" (fun _ => HeaderReader.startEnum none) rfl)
    (endNamedStruct : motive "TYPEDEF_STRUCT_END" endNamedStruct rfl)
    (startNamelessStruct : motive "TYPEDEF_STRUCT_START" (fun _ => startNamelessStruct) rfl) :
    motive name act h := by
  unfold action at h
  split at h
  case h_24 => cases h
  all_goals
    obtain rfl := Option.some.inj h
    assumption

end HeaderReader

end HeaderBind
