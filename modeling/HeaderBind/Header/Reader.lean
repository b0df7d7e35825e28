import HeaderBind.Binding.Write
import HeaderBind.Files
import HeaderBind.Header.Rules
import HeaderBind.Lexer.Basic

/-!
# Reading headers

The lexer for headers and what its actions do: they keep track of the declaration that is being read
and add it to the binding when it is complete.
-/

namespace HeaderBind

/-- What is being read of a header. -/
structure Header where
  /-- What was declared so far. -/
  binding : Binding
  /-- The start of file names that is left out where a header is included. -/
  base : String := ""
  /-- The comment since the last empty line. -/
  comment : String := ""
  /-- The class that is being read. -/
  currentClass : Option ClassId := none
  /-- The struct that is being read. -/
  currentStruct : Option ClassId := none
  /-- The enum that is being read. -/
  currentEnum : Option ClassId := none
  /-- The method that is being read. -/
  currentMethod : Option Method := none
deriving Inhabited

/-- A lexer that reads headers. -/
abbrev HeaderReader := Lexer Header

namespace HeaderReader

variable {α : Type}

/-- Work on the binding. -/
def onBinding (act : Act Binding α) : Act HeaderReader α :=
  Act.focus (fun x => x.host.binding)
    (fun b x => { x with host := { x.host with binding := b } }) act

/-- Change what is being read. -/
def modifyHeader (f : Header → Header) : Act HeaderReader Unit :=
  Act.update fun x => { x with host := f x.host }

/-- What is being read. -/
def header : Act HeaderReader Header :=
  Act.view Lexer.host

/-- A declaration that has to be open. -/
def opened (id : Option ClassId) : Act HeaderReader ClassId :=
  match id with
  | some id => return id
  | none => Act.fail .noSuchPart

/-- The text of a group without the blanks around it. -/
def trimmed (m : Match) (number : Nat) : String :=
  Text.strip (m.group number)

/-! ### Comments and constants -/

/-- Add a line to the comment. -/
def addComment (m : Match) : Act HeaderReader Unit :=
  modifyHeader fun h => { h with comment := h.comment ++ m.group 1 ++ "\n" }

/-- Add the end of a block comment. -/
def endComment (m : Match) : Act HeaderReader Unit :=
  modifyHeader fun h => { h with comment := h.comment ++ m.group 1 }

/-- Forget the comment. -/
def clearComment : Act HeaderReader Unit :=
  modifyHeader fun h => { h with comment := "" }

/-- Whether a macro becomes a constant: its name is long enough, has no lower case letter, does not
start with an underscore and is not denied. -/
def isConstantName (denylist : List String) (name : String) : Bool :=
  name.length > 3 && !name.startsWith "_" && !name.toList.any Char.isLower
    && !denylist.contains name

/-- The type of a constant by the line that defines it, up to a comment. -/
def constantType (line : String) : String :=
  let value := (line.splitOn "/*").headD ""
  if value.toList.contains '"' then "string" else "integer"

/-- Define a constant. -/
def defineConstant (m : Match) : Act HeaderReader Unit := do
  let type := constantType m.text
  let name := trimmed m 1
  if isConstantName (← header).binding.denylist name then
    onBinding (Act.update (Binding.addConstant name type))

/-! ### Classes -/

/-- The class that a block opens: it inherits from its base if that can be inherited from. -/
def baseOrNew (name base : String) : Act HeaderReader ClassId := do
  let inherited ← Act.attempt (onBinding do
    let id ← Binding.findClass (some base)
    Class.inherit id name)
  match inherited with
  | .ok id => return id
  | .error (.missingKey _) | .error .noSuchPart =>
    if (← Act.state).verbose > 1 then
      Act.note s!"Base class {base} is not defined."
    onBinding (Class.make (some name) (some base))
  | .error f => Act.fail f

/-- Open a class. -/
def startClass (m : Match) : Act HeaderReader Unit := do
  let name := trimmed m 2
  let base := trimmed m 3
  let id ← baseOrNew name base
  modifyHeader fun h => { h with currentClass := some id }
  let doc := (← header).comment
  onBinding do
    Binding.modifyClass id fun c => { c with doc }.addModifier (m.group? 1)
    Class.declare id .object
    Act.update fun b => { b with registry := b.registry.register (some s!"{name} *") .objectPointer }

/-- Close the class. -/
def endClass : Act HeaderReader Unit :=
  modifyHeader fun h => { h with currentClass := none }

/-- Add an attribute to the class. -/
def addClassAttribute (m : Match) : Act HeaderReader Unit := do
  let id ← opened (← header).currentClass
  onBinding (Class.addAttribute id (trimmed m 3) (trimmed m 2) (m.group 1))

/-! ### Methods -/

/-- The kind of a method and the protocol that it adds to its class, by its result and its name. -/
def methodKind (className : Option String) (returns name : String) :
    MethodKind × Option String :=
  if some returns == className && name.startsWith "Con" then (.constructor, none)
  else if name == "iternext" then (.iterator, some "ITERATOR")
  else if name == "__iter__" then (.selfIterator, some "SELF_ITER")
  else if name == "__str__" then (.ordinary, some "TP_STR")
  else (.ordinary, none)

/-- A method of which nothing but the kind is known. -/
def unfinishedMethod (kind : MethodKind) : Method :=
  { kind, name := "", className := none, baseName := none, definitionClass := none, owner := 0,
    signature := 0, unfinished := true }

/-- Open a method, unless it is private. Until it is set up nothing but its kind is known. -/
def startMethod (m : Match) : Act HeaderReader Unit := do
  let returns := trimmed m 2
  let name := trimmed m 5
  if m.group 1 == "PRIVATE" then
    return
  modifyHeader fun h => { h with currentMethod := some (unfinishedMethod .ordinary) }
  let h ← header
  let id ← opened h.currentClass
  let c := h.binding.classAt id
  let (kind, protocol) := methodKind c.name returns name
  modifyHeader fun h => { h with currentMethod := some (unfinishedMethod kind) }
  match protocol with
  | some p => onBinding (Binding.modifyClass id fun c => c.addModifier (some p))
  | none => pure ()
  let method ← onBinding (Method.make kind c.name c.baseName name [] returns (some id))
  modifyHeader fun h => { h with currentMethod := some { method with doc := h.comment } }

/-- Add an argument to the method. -/
def addMethodArgument (m : Match) : Act HeaderReader Unit := do
  match (← header).currentMethod with
  | none => pure ()
  | some method =>
    if method.unfinished then
      Act.fail .badArgument
    onBinding (method.addArgument (trimmed m 1) (trimmed m 2))

/-- Whether the look for a method of the same name breaks off, because some method that comes first
has no name. -/
def breaksOff (method : Method) : List Method → Bool
  | [] => false
  | x :: rest =>
    x.unfinished || method.unfinished || (x.name != method.name && breaksOff method rest)

/-- Put the method into the class. -/
def endMethod : Act HeaderReader Unit := do
  let h ← header
  match h.currentMethod with
  | none => pure ()
  | some method =>
    let id ← opened h.currentClass
    let c := h.binding.classAt id
    if method.kind.isConstructor && !method.unfinished then
      onBinding (Binding.modifyClass id fun c => Class.putMethod c method)
    else if breaksOff method c.methods then
      Act.fail .noSuchPart
    else if method.unfinished then
      onBinding (Binding.modifyClass id fun c => { c with methods := c.methods ++ [method] })
    else
      onBinding (Binding.modifyClass id fun c => Class.putMethod c method)
    modifyHeader fun h => { h with currentMethod := none }

/-! ### Structs -/

/-- Open a struct that has a name. -/
def startStruct (m : Match) : Act HeaderReader Unit := do
  let doc := (← header).comment
  let id ← onBinding (Class.makeStruct (some (trimmed m 2)))
  modifyHeader fun h => { h with currentStruct := some id }
  onBinding (Binding.modifyClass id fun c => { c with doc }.addModifier (m.group? 1))

/-- Open a struct that is named at its end. -/
def startNamelessStruct : Act HeaderReader Unit := do
  let doc := (← header).comment
  let id ← onBinding (Class.makeStruct none)
  modifyHeader fun h => { h with currentStruct := some id }
  onBinding (Binding.modifyClass id fun c => { c with doc })

/-- Add an attribute to the struct, with the size of an array if there is one. -/
def addStructAttribute (m : Match) : Act HeaderReader Unit := do
  let id ← opened (← header).currentStruct
  let named := match m.group? 3 with
    | some size => [("array_size", Datum.text (Text.strip size))]
    | none => []
  onBinding (Class.addAttribute id (trimmed m 2) (trimmed m 1) "" named)

/-- Add an attribute to the struct that is a pointer. -/
def addStructPointer (m : Match) : Act HeaderReader Unit := do
  let id ← opened (← header).currentStruct
  onBinding (Class.addAttribute id (trimmed m 2) s!"{trimmed m 1} *" "")

/-- Close the struct. -/
def endStruct : Act HeaderReader Unit := do
  let id ← opened (← header).currentStruct
  onBinding do
    Class.declare id .struct
    let name ← Binding.need ((← Act.state).classAt id).name
    Act.update fun b => { b with registry := b.registry.register (some s!"{name} *") .structPointer }
  modifyHeader fun h => { h with currentStruct := none }

/-- Close a struct with its name. -/
def endNamedStruct (m : Match) : Act HeaderReader Unit := do
  let id ← opened (← header).currentStruct
  onBinding (Binding.modifyClass id fun c => { c with name := some (trimmed m 1) })
  endStruct

/-! ### Enums -/

/-- Open an enum. -/
def startEnum (name : Option String) : Act HeaderReader Unit := do
  let id ← onBinding (Class.makeEnum name)
  modifyHeader fun h => { h with currentEnum := some id }

/-- Add a value to the enum. -/
def addEnumValue (m : Match) : Act HeaderReader Unit := do
  let id ← opened (← header).currentEnum
  onBinding (Binding.modifyClass id fun c => { c with values := c.values ++ [trimmed m 1] })

/-- Close the enum. Its values become constants. -/
def endEnum : Act HeaderReader Unit := do
  let id ← opened (← header).currentEnum
  onBinding do
    Class.declare id .enumeration
    let c := (← Act.state).classAt id
    Act.update fun b => c.values.foldl (fun b v => b.addConstant v "integer") b
  modifyHeader fun h => { h with currentEnum := none }

/-- Close an enum with its name. -/
def endNamedEnum (m : Match) : Act HeaderReader Unit := do
  let id ← opened (← header).currentEnum
  onBinding (Binding.modifyClass id fun c => { c with name := some (m.group 1) })
  endEnum

/-! ### Requests -/

/-- Expose a struct and pointers to it. -/
def bindStruct (m : Match) : Act HeaderReader Unit := do
  let name := m.group 1
  onBinding (Act.update fun b =>
    { b with activeStructs := (b.activeStructs.insert name).insert s!"{name} *" })

/-- Give a type another name. -/
def aliasType (m : Match) : Act HeaderReader Unit :=
  onBinding (Act.update fun b =>
    { b with registry := b.registry.registerAlias (trimmed m 1) (trimmed m 2) })

/-! ### Actions -/

/-- The action of a header by its name. -/
def action : String → Option (Match → Act HeaderReader Unit)
  | "BIND_STRUCT" => some bindStruct
  | "CCLASS_ATTRIBUTE" => some addClassAttribute
  | "CCLASS_START" => some startClass
  | "CLEAR_COMMENT" => some fun _ => clearComment
  | "COMMENT" => some addComment
  | "COMMENT_END" => some endComment
  | "DEFINE" => some defineConstant
  | "END_CCLASS" => some fun _ => endClass
  | "ENUM_END" => some fun _ => endEnum
  | "ENUM_START" => some fun m => startEnum (some (trimmed m 1))
  | "ENUM_VALUE" => some addEnumValue
  | "METHOD_ARG" => some addMethodArgument
  | "METHOD_END" => some fun _ => endMethod
  | "METHOD_START" => some startMethod
  | "SIMPLE_TYPEDEF" => some aliasType
  | "STRUCT_ATTRIBUTE" => some addStructAttribute
  | "STRUCT_ATTRIBUTE_PTR" => some addStructPointer
  | "STRUCT_END" => some fun _ => endStruct
  | "STRUCT_START" => some startStruct
  | "TYPEDEFED_ENUM_END" => some endNamedEnum
  | "TYPEDEF_ENUM_START" => some fun _ => startEnum none
  | "TYPEDEF_STRUCT_END" => some endNamedStruct
  | "TYPEDEF_STRUCT_START" => some fun _ => startNamelessStruct
  | _ => none

/-- The actions of a lexer that reads headers. -/
def callbacks : Lexer.Callbacks Header where
  find name :=
    match action name with
    | some act => some fun _ m => do act m; return none
    | none => Lexer.builtIn name
  fallback := Lexer.defaultHandler

/-! ### Headers -/

/-- The declaration that every module starts with. -/
def prelude : String :=
  "// Base object\nCCLASS(Object, Obj)\nEND_CCLASS\n"

/-- Read the bytes of a header. -/
def parse (bytes : ByteArray) : Act HeaderReader Unit :=
  Lexer.parse callbacks bytes

/-- Read the declaration that every module starts with. -/
def readPrelude : Act HeaderReader Unit :=
  parse prelude.toUTF8

/-- A lexer that has read nothing yet. -/
def fresh (settings : Settings) (registry : Registry) (name base : String) (verbose : Int) :
    Except Fault HeaderReader := do
  return {
    rows := ← Lexer.readTable Header.table
    verbose
    host := { binding := { settings, registry, name }, base } }

/-- The file name as it stands where the header is included. -/
def includedName (base name : String) : String :=
  if name.startsWith base then (name.drop base.length).toString else name

/-- Note that a header was read. A name that is listed already is not listed again. -/
def noteFile (name : String) : Act HeaderReader Unit :=
  modifyHeader fun h =>
    if h.binding.files.contains name then h
    else
      let shown := includedName h.base name
      { h with binding := { h.binding with
          includes := h.binding.includes ++ s!"#include \"{shown}\"\n"
          files := h.binding.files ++ [shown] } }

/-- Read a header from a file. -/
def parseFile (files : Files) (name : String) : Act HeaderReader Unit := do
  let text ← Act.lift (files.read name)
  parse text.toUTF8
  noteFile name

/-- Read headers from files, all of them twice, so that each sees the types of the others. -/
def parseFiles (files : Files) (names : List String) : Act HeaderReader Unit := do
  for name in names do
    parseFile files name
  for name in names do
    parseFile files name

/-- The code for headers, read twice. Nothing is said about where they came from. -/
def generate (files : Files) (names : List String) : Act HeaderReader String := do
  readPrelude
  for name in names ++ names do
    parse (← Act.lift (files.read name)).toUTF8
  onBinding (Binding.written Binding.write)

end HeaderReader

end HeaderBind
