import HeaderBind.Binding.Basic

/-!
# Declaring methods

How a method comes about: from a declaration with its arguments and its result, or by inheritance
from the method of a base class.
-/

namespace HeaderBind.Method

open Binding (report need)

/-- The tag of a struct that was announced under its tag only: the longest text between `struct `
and `_t *`. -/
def announcedStruct : Pattern :=
  .inOrder
    [.literal "struct ", .group 1 (.plus (.noneOf ['\n'])), .literal "_t *"]

/-- The kind of the type of an argument: the one of its name, or else the one of the tag of an announced
struct. -/
def selectArgument (r : Registry) (type : String) : Option Registry.Selection :=
  match Dict.get? r (some type) with
  | some kind => some { kind, type }
  | none => do
    let m ← announcedStruct.match? type.toList
    let kind ← Dict.get? r (some (m.group 1))
    return { kind, type := m.group 1 }

/-- The type of an argument, with the name under which it was found. Nothing when the type is unknown,
which is reported, as is the search for a tag. -/
def argumentType (className : Option String) (method type name : String) :
    Act Binding (Option (CType × String)) := do
  let registry := (← Act.state).registry
  let announced :=
    if Dict.contains registry (some type) then none else announcedStruct.match? type.toList
  if let some m := announced then
    report s!"Trying {m.group 1} for {m.text}"
  match selectArgument registry type with
  | some s => return some (← Act.lift (CType.make s.kind name s.type), s.type)
  | none =>
    let shown := (announced.map (·.group 1)).getD type
    report s!"Unable to handle type {← need className}.{method} {shown}"
    return none

/-- The arguments after one more. An integer after a string is its length: the two become one
buffer, which is to be filled if the string goes out. -/
def joinArgument (args : List CType) (t : CType) (type name : String) :
    Except Fault (List CType) :=
  match args.getLast? with
  | none => .ok [t]
  | some previous =>
    if t.interface == some "integer" && previous.interface == some "string" then do
      let kind := if previous.sense == "OUT" then Kind.bufferOut else Kind.buffer
      let joined ← CType.make kind previous.name previous.type [.text name, .text type]
      return args.dropLast ++ [joined]
    else
      .ok (args ++ [t])

/-- Add an argument to a list of arguments. An argument of unknown type is left out. -/
def addTo (className : Option String) (method : String) (args : List CType)
    (type name : String) : Act Binding (List CType) := do
  match ← argumentType className method type name with
  | none => return args
  | some (t, type) => Act.lift (joinArgument args t type name)

/-- Add an argument to a method. -/
def addArgument (m : Method) (type name : String) : Act Binding Unit := do
  let s ← Binding.signatureOf m
  let args ← addTo m.className m.name s.args type name
  Binding.modifySignature m.signature fun s => { s with args }

/-- Add arguments in order. -/
def addAllTo (className : Option String) (method : String) :
    List CType → List (String × String) → Act Binding (List CType)
  | args, [] => return args
  | args, (type, name) :: rest => do
    addAllTo className method (← addTo className method args type name) rest

/-- The result of a method. A result of unknown type is a pointer to anything, which is reported. -/
def resultType (className : Option String) (method returns : String) : Act Binding CType := do
  let registry := (← Act.state).registry
  match registry.resolve "func_return" returns with
  | .ok t => return { t.mark "OUT" with declared := some (some returns) }
  | .error (.missingKey _) =>
    if !returns.isEmpty then
      report s!"Unable to handle return type {← need className}.{method} {returns}"
    Act.lift (CType.make .voidPointer "func_return" "void *")
  | .error f => Act.fail f

/-- A new method with a signature of its own. It has to belong to a class. -/
def make (kind : MethodKind) (className baseName : Option String) (name : String)
    (args : List (String × String)) (returns : String) (owner : Option ClassId) :
    Act Binding Method := do
  let some owner := owner | Act.fail (.refused "myclass not an instance of ClassGenerator")
  let args ← addAllTo className name [] args
  let result ← resultType className name returns
  -- An iterator ends by returning nothing.
  let result := if kind.isIterator then result.mark "NULL_OK" else result
  let signature ← Binding.addSignature { args, returns := result }
  return { kind, name, className, baseName, definitionClass := className, owner, signature }

/-- The name of the function that reads the attributes of a class. -/
def readerName (className : Option String) : String :=
  match className with
  | some name => if name.isEmpty then "" else s!"py{name}_getattr"
  | none => ""

/-- Let an attribute reader belong to a class of a given name. Its members are read through that
class from then on. -/
def rename (m : Method) (className : Option String) : Act Binding Method := do
  for id in m.members do
    Binding.modifyMember id fun x => { x with className }
  return { m with className := some (className.getD ""), name := readerName className }

/-- A new attribute reader without attributes. -/
def makeReader (className baseName : Option String) (owner : ClassId) : Act Binding Method := do
  let m ← make .attributes className baseName "" [] "void" (some owner)
  rename { m with errorSet := true } className

/-- Take over an annotation of a method at its place. -/
def takeOver (ref : MethodRef) (m : Method) : Doc.Annotation → Act Binding Unit
  | .default name value => do
    report s!"Setting default value for {name} of {value}"
    Binding.modifySignature m.signature fun s =>
      { s with defaults := s.defaults.insert name (Text.strip value) }
  | .raises r => Binding.modifyMethod ref fun m => { m with exception := some r }

/-- Take over what the comment of a method says about its arguments and its result. -/
def readNotes (ref : MethodRef) : Act Binding Unit := do
  let m ← Binding.method ref
  for a in Doc.annotations m.doc do
    takeOver ref m a

/-- The method that a class of another name inherits. It shares the signature and the class that
declares it; its comment is not inherited. -/
def inherit (ref : MethodRef) (className : String) : Act Binding Method := do
  if (← Binding.method ref).unfinished then
    Act.fail .badArgument
  readNotes ref
  let m ← Binding.method ref
  let copy ← make m.kind (some className) m.baseName m.name [] "void *" (some m.owner)
  return { copy with
    signature := m.signature
    definitionClass := m.definitionClass
    exception := m.exception }

/-- The attribute reader that a class of another name inherits. It shares the members. -/
def inheritReader (m : Method) (className : String) : Act Binding Method := do
  let copy ← makeReader (some className) m.baseName m.owner
  return { copy with members := m.members }

/-- Announce the function through which the library calls a method. -/
def makeProxy (ref : MethodRef) : Act Binding Unit := do
  let m ← Binding.method ref
  let proxy : Proxy := {
    name := m.name
    definitionClass := m.definitionClass
    owner := m.owner
    signature := m.signature }
  Binding.modifyMethod ref fun m => { m with proxy := some proxy }

end HeaderBind.Method
