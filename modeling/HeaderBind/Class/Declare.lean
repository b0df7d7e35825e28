import HeaderBind.Method.Declare
import HeaderBind.Text.Quoted

/-!
# Declaring classes, structs and enums

How a class comes about: on its own, or from a base class whose methods and attributes it inherits.
-/

namespace HeaderBind.Class

open Binding (report need)

/-- A new class with an attribute reader and a constructor that does nothing. Nobody can name it
yet. -/
def make (name baseName : Option String) : Act Binding ClassId := do
  let id ← Binding.addClassDef { name, baseName }
  let reader ← Method.makeReader name baseName id
  Binding.modifyClass id fun c => { c with attributes := some reader }
  let constructor ← Method.make .emptyConstructor name baseName "Con" [] "" (some id)
  Binding.modifyClass id fun c => { c with constructor := some constructor }
  return id

/-- A new struct. It has no constructor yet, and is only exposed if a header asks for it. -/
def makeStruct (name : Option String) : Act Binding ClassId := do
  let id ← make name none
  Binding.modifyClass id fun c => { c with kind := .struct, active := false, constructor := none }
  return id

/-- A new enum. It has no attributes. -/
def makeEnum (name : Option String) : Act Binding ClassId := do
  let id ← makeStruct name
  Binding.modifyClass id fun c => { c with kind := .enum, active := true, attributes := none }
  return id

/-- The methods of a class as another class inherits them, in order. -/
def inheritMethods (id : ClassId) (className : String) :
    Nat → Nat → Act Binding (List Method)
  | _, 0 => return []
  | i, count + 1 => do
    let m ← Method.inherit ⟨id, .method i⟩ className
    return m :: (← inheritMethods id className (i + 1) count)

/-- A new class that inherits constructor, methods and attributes of another one. A struct that was
not prepared, and an enum, have nothing to inherit. -/
def inherit (id : ClassId) (className : String) : Act Binding ClassId := do
  let base := (← Act.state).classAt id
  let new ← make (some className) base.name
  let constructor ← Method.inherit ⟨id, .constructor⟩ className
  Binding.modifyClass new fun c => { c with constructor := some constructor }
  let methods ← inheritMethods id className 0 base.methods.length
  Binding.modifyClass new fun c => { c with methods }
  let some reader := base.attributes | Act.fail .noSuchPart
  let attributes ← Method.inheritReader reader className
  Binding.modifyClass new fun c => { c with attributes := some attributes }
  return new

/-- Give a name to a class, and make the type of that name known. A name that is declared again keeps
its place in the order. -/
def declare (id : ClassId) (kind : Kind) : Act Binding Unit :=
  Act.update fun b =>
    let name := (b.classAt id).name
    { b with index := b.index.insert name id, registry := b.registry.register name kind }

/-- A set of modifiers as it is shown in the log. -/
def showModifiers (modifiers : List (Option String)) : String :=
  if modifiers.isEmpty then "set()"
  else
    let items := modifiers.map fun m => match m with
      | some s => Text.quoted s.toList
      | none => "None"
    "\x7b" ++ ", ".intercalate items ++ "\x7d"

/-- Whether code is written for a class: a header asks for it, or nothing speaks against it. -/
def isActive (id : ClassId) : Act Binding Bool := do
  let b ← Act.state
  let c := b.classAt id
  if c.name.any b.activeStructs.contains then
    return true
  if !c.active || c.hasModifier "PRIVATE" || c.hasModifier "ABSTRACT" then
    report s!"{← need c.name} is not active {showModifiers c.modifiers}"
    return false
  return true

/-- Names that an attribute declaration already uses. -/
def attributeParameters : List String :=
  ["self", "attr_name", "attr_type", "modifier"]

/-- Whether attributes of a type are wanted: those of an inactive class are not. -/
def isWanted (type : String) : Act Binding Bool := do
  match (← Act.state).index.get? (some type) with
  | some other => isActive other
  | none => return true

/-- Add an attribute that is wanted. One of an unknown type is left out, which is reported. -/
def addWanted (id : ClassId) (name type modifier : String) (named : List (String × Datum)) :
    Act Binding Unit := do
  let b ← Act.state
  let c := b.classAt id
  match b.registry.resolve name s!"BORROWED {type}" [] named with
  | .error (.missingKey _) =>
    let shown := c.name.getD "None"
    report s!"Unknown attribute type {type} for {shown}.{name}"
  | .error f => Act.fail f
  | .ok t =>
    let t := t.mark modifier
    let some reader := c.attributes | Act.fail .noSuchPart
    if !t.name.isEmpty then
      let member ← Binding.addMember { className := reader.className, ctype := t }
      Binding.modifyMethod ⟨id, .attributes⟩ fun m => { m with members := m.members ++ [member] }

/-- Add an attribute. Attributes of an inactive class are left out, and so are those of an unknown
type. -/
def addAttribute (id : ClassId) (name type modifier : String)
    (named : List (String × Datum) := []) : Act Binding Unit := do
  if named.any fun e => attributeParameters.contains e.1 then
    Act.fail .badArgument
  if ← isWanted type then
    addWanted id name type modifier named

/-- Give a class a constructor, if the method has the name of one. -/
def addConstructor (id : ClassId) (name : String) (args : List (String × String))
    (returns doc : String) : Act Binding Unit := do
  if name.startsWith "Con" then
    let c := (← Act.state).classAt id
    let m ← Method.make .constructor c.name c.baseName name args returns (some id)
    Binding.modifyClass id fun c => { c with constructor := some { m with doc } }

/-- Give a struct its constructor, once its name is known. Its attributes are read through that name
and belong to the library. -/
def prepareStruct (id : ClassId) : Act Binding Unit := do
  let c := (← Act.state).classAt id
  if c.constructor.isNone then
    let m ← Method.make .structConstructor c.name c.baseName "Con" [] "void" (some id)
    Binding.modifyClass id fun c => { c with constructor := some m }
    let some reader := c.attributes | Act.fail .noSuchPart
    let reader ← reader.rename c.name
    Binding.modifyClass id fun c => { c with attributes := some reader }
    for member in reader.members do
      Binding.modifyMember member fun x => { x with ctype := x.ctype.mark "FOREIGN" }

/-- Get ready for writing code. -/
def prepare (id : ClassId) : Act Binding Unit := do
  let c := (← Act.state).classAt id
  match c.kind with
  | .class_ => pure ()
  | .struct => prepareStruct id
  | .enum =>
    let m ← Method.make .enumConstructor c.name c.baseName "Con" [] "void" (some id)
    Binding.modifyClass id fun c => { c with constructor := some m }
    prepareStruct id

/-- The place of the first method of a name. A method that broke off has no name to compare. -/
def findMethod (id : ClassId) (name : String) : Act Binding MethodRef := do
  let methods := ((← Act.state).classAt id).methods
  match methods.findIdx? fun m => m.unfinished || m.name == name with
  | none => Act.fail .notFound
  | some i =>
    if methods[i]?.any Method.unfinished then
      Act.fail .noSuchPart
    return ⟨id, .method i⟩

/-- Put a method into a class: constructors take the place of the constructor, and a method of the
same name is replaced. -/
def putMethod (c : ClassDef) (m : Method) : ClassDef :=
  if m.kind.isConstructor then { c with constructor := some m }
  else if c.methods.any fun x => x.name == m.name then
    { c with methods := replaceFirst m c.methods }
  else
    { c with methods := c.methods ++ [m] }
where
  /-- Replace the first method of the same name. -/
  replaceFirst (m : Method) : List Method → List Method
    | [] => []
    | x :: rest => if x.name == m.name then m :: rest else x :: replaceFirst m rest

end HeaderBind.Class
