import HeaderBind.Act
import HeaderBind.CType.Convert
import HeaderBind.CType.Registry
import HeaderBind.Method.Basic
import HeaderBind.Settings

/-!
# The module being bound

Everything that headers declared so far, and the code written for it. Classes, signatures and
members are numbered in the order in which they came up; a name that is declared again gets a new
class, while methods go on to refer to the class in whose block they were declared.
-/

namespace HeaderBind

/-- A module of the wrapped language that is being put together. -/
structure Binding where
  settings : Settings := {}
  registry : Registry := Registry.initial
  /-- The name of the module. -/
  name : String
  /-- All classes, structs and enums by number. -/
  classes : Array ClassDef := #[]
  /-- The current class of each name, in order of first declaration. -/
  index : Dict (Option String) ClassId := ⟨[]⟩
  signatures : Array Signature := #[]
  members : Array Member := #[]
  /-- Constants with their types, each once. -/
  constants : List (String × String) := []
  /-- Names that never become constants. -/
  denylist : List String := ["TSK3_H_"]
  /-- Structs that are exposed because a header asks for it. -/
  activeStructs : List String := []
  /-- Functions that were defined in the code written so far. -/
  defined : List String := []
  /-- The headers that were read. -/
  files : List String := []
  /-- The lines that include them. -/
  includes : String := ""
  /-- Code to run first when the module is loaded. -/
  initText : String := ""
  /-- The public interface, where one is asked for. -/
  publicText : Option String := none
  /-- The code written so far. -/
  out : String := ""
deriving Inhabited

/-- Where a method is found in its class. -/
inductive MethodSlot where
  | constructor
  | attributes
  | method (index : Nat)
deriving DecidableEq, Repr, Inhabited

/-- A method by its class and its place there. -/
structure MethodRef where
  cls : ClassId
  slot : MethodSlot
deriving DecidableEq, Repr, Inhabited

namespace ClassDef

/-- The method at a place. -/
def method? (c : ClassDef) : MethodSlot → Option Method
  | .constructor => c.constructor
  | .attributes => c.attributes
  | .method i => c.methods[i]?

/-- Change the method at a place. -/
def modifyMethod (c : ClassDef) (slot : MethodSlot) (f : Method → Method) : ClassDef :=
  match slot with
  | .constructor => { c with constructor := c.constructor.map f }
  | .attributes => { c with attributes := c.attributes.map f }
  | .method i => { c with methods := c.methods.modify i f }

end ClassDef

namespace Binding

variable {α : Type}

/-- The class of a number. -/
def classAt (b : Binding) (id : ClassId) : ClassDef :=
  b.classes[id]?.getD default

/-- The signature of a number. -/
def signatureAt (b : Binding) (id : SignatureId) : Signature :=
  b.signatures[id]?.getD default

/-- The member of a number. -/
def memberAt (b : Binding) (id : MemberId) : Member :=
  b.members[id]?.getD default

/-- Write code. -/
def emit (text : String) : Act Binding Unit :=
  Act.update fun b => { b with out := b.out ++ text }

/-- Write lines of code. -/
def emitCode (code : Code) : Act Binding Unit :=
  emit code.render

/-- The code that an action writes, apart from all other code. -/
def written (act : Act Binding Unit) : Act Binding String := do
  let before := (← Act.state).out
  Act.update fun b => { b with out := "" }
  let result ← Act.attempt act
  let text := (← Act.state).out
  Act.update fun b => { b with out := before }
  Act.lift result
  return text

/-- Log a message about what is skipped, if such messages are wanted. -/
def report (message : String) : Act Binding Unit := do
  if (← Act.state).settings.debug then
    Act.note message

/-- A name that has to be known. -/
def known (name : Option String) : Except Fault String :=
  match name with
  | some s => .ok s
  | none => .error .badArgument

/-- A name that has to be known, in an action. -/
def need {σ : Type} (name : Option String) : Act σ String :=
  Act.lift (known name)

/-- Change a class. -/
def modifyClass (id : ClassId) (f : ClassDef → ClassDef) : Act Binding Unit :=
  Act.update fun b => { b with classes := b.classes.modify id f }

/-- Change a signature. -/
def modifySignature (id : SignatureId) (f : Signature → Signature) : Act Binding Unit :=
  Act.update fun b => { b with signatures := b.signatures.modify id f }

/-- Change a member. -/
def modifyMember (id : MemberId) (f : Member → Member) : Act Binding Unit :=
  Act.update fun b => { b with members := b.members.modify id f }

/-- A method by its place. A place where there is none has no parts either. -/
def method (ref : MethodRef) : Act Binding Method := do
  match ((← Act.state).classAt ref.cls).method? ref.slot with
  | some m => return m
  | none => Act.fail .noSuchPart

/-- Change a method at its place. -/
def modifyMethod (ref : MethodRef) (f : Method → Method) : Act Binding Unit :=
  modifyClass ref.cls fun c => c.modifyMethod ref.slot f

/-- The signature of a method. -/
def signatureOf (m : Method) : Act Binding Signature := do
  return (← Act.state).signatureAt m.signature

/-- Add a signature. -/
def addSignature (s : Signature) : Act Binding SignatureId := do
  let id := (← Act.state).signatures.size
  Act.update fun b => { b with signatures := b.signatures.push s }
  return id

/-- Add a member. -/
def addMember (m : Member) : Act Binding MemberId := do
  let id := (← Act.state).members.size
  Act.update fun b => { b with members := b.members.push m }
  return id

/-- Add a class that nobody can name yet. -/
def addClassDef (c : ClassDef) : Act Binding ClassId := do
  let id := (← Act.state).classes.size
  Act.update fun b => { b with classes := b.classes.push c }
  return id

/-- The class of a name. -/
def findClass (name : Option String) : Act Binding ClassId := do
  match (← Act.state).index.get? name with
  | some id => return id
  | none => Act.fail (.missingKey name)

/-- Change the argument at a place of a list of arguments. -/
def setArg (s : Signature) (i : Nat) (t : CType) : Signature :=
  { s with args := s.args.set i t }

/-- Work on an argument of a method at its place of use. -/
def atArgument (ref : MethodRef) (i : Nat) (act : Act CType.Site α) : Act Binding α := do
  let m ← method ref
  let s ← signatureOf m
  let (result, site) ← Act.onValue ⟨s.args[i]?.getD default, m.errorSet⟩ act
  modifySignature m.signature fun s => setArg s i site.ctype
  modifyMethod ref fun m => { m with errorSet := site.errorSet }
  Act.lift result

/-- Work on the result of a method at its place of use. -/
def atResult (ref : MethodRef) (act : Act CType.Site α) : Act Binding α := do
  let m ← method ref
  let s ← signatureOf m
  let (result, site) ← Act.onValue ⟨s.returns, m.errorSet⟩ act
  modifySignature m.signature fun s => { s with returns := site.ctype }
  modifyMethod ref fun m => { m with errorSet := site.errorSet }
  Act.lift result

/-- Work on a member that a method reads. -/
def atMember (ref : MethodRef) (id : MemberId) (act : Act CType.Site α) : Act Binding α := do
  let m ← method ref
  let member := (← Act.state).memberAt id
  let (result, site) ← Act.onValue ⟨member.ctype, m.errorSet⟩ act
  modifyMember id fun x => { x with ctype := site.ctype }
  modifyMethod ref fun m => { m with errorSet := site.errorSet }
  Act.lift result

end Binding

end HeaderBind
