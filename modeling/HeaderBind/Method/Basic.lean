import HeaderBind.CType.Basic
import HeaderBind.Doc

/-!
# Methods

A method of a class of the header, together with the kind of wrapper that is written for it. What
was declared of its arguments and result is its signature; a method that a class inherits shares the
signature of the method it comes from.
-/

namespace HeaderBind

/-- The number of a class among all classes declared so far. -/
abbrev ClassId := Nat

/-- The number of a signature. -/
abbrev SignatureId := Nat

/-- The number of a member. -/
abbrev MemberId := Nat

/-- Arguments, result, and the values of arguments that may be left out. -/
structure Signature where
  args : List CType := []
  returns : CType
  defaults : Dict String String := ⟨[]⟩
deriving Repr, Inhabited

/-- The kind of wrapper of a method. -/
inductive MethodKind where
  /-- An ordinary method. -/
  | ordinary
  /-- The method that steps an iterator. -/
  | iterator
  /-- The method that makes an object its own iterator. -/
  | selfIterator
  /-- The constructor of a class. -/
  | constructor
  /-- The constructor of a class that declares none. -/
  | emptyConstructor
  /-- The constructor of a struct. -/
  | structConstructor
  /-- The constructor of an enum. -/
  | enumConstructor
  /-- The method that reads attributes. -/
  | attributes
deriving DecidableEq, Repr, Inhabited

/-- Whether wrappers of a kind construct an object. -/
def MethodKind.isConstructor : MethodKind → Bool
  | constructor | emptyConstructor | structConstructor | enumConstructor => true
  | _ => false

/-- Whether wrappers of a kind iterate. -/
def MethodKind.isIterator : MethodKind → Bool
  | iterator | selfIterator => true
  | _ => false

/-- A function through which the library calls a method that was overridden. -/
structure Proxy where
  name : String
  definitionClass : Option String
  owner : ClassId
  signature : SignatureId
deriving Repr, Inhabited

/-- A method. -/
structure Method where
  kind : MethodKind
  name : String
  /-- The class that the wrapper belongs to. -/
  className : Option String
  /-- The base of the class in which the method was first declared. -/
  baseName : Option String
  /-- The class that declares the method. -/
  definitionClass : Option String
  /-- The class in whose block the method was declared. -/
  owner : ClassId
  signature : SignatureId
  exception : Option Doc.Raise := none
  doc : String := ""
  /-- Whether the wrapper has an error exit. -/
  errorSet : Bool := false
  /-- The function through which the library calls back, once it was announced. -/
  proxy : Option Proxy := none
  /-- The members that an attribute reader exposes. -/
  members : List MemberId := []
  /-- Whether the declaration broke off: then nothing but the kind is known. -/
  unfinished : Bool := false
deriving Repr, Inhabited

/-- A member of a class or struct: the class it is read through, and its type. -/
structure Member where
  className : Option String
  ctype : CType
deriving Repr, Inhabited

/-- What is declared: a class, a struct or an enum. -/
inductive ClassKind where
  | class_ | struct | enum
deriving DecidableEq, Repr, Inhabited

/-- A class, struct or enum. -/
structure ClassDef where
  kind : ClassKind := .class_
  name : Option String := none
  baseName : Option String := none
  active : Bool := true
  /-- The words before the declaration and the protocols that it takes part in, each once. -/
  modifiers : List (Option String) := []
  doc : String := ""
  constructor : Option Method := none
  methods : List Method := []
  /-- The reader of the attributes; enums have none. -/
  attributes : Option Method := none
  /-- The names of the values of an enum. -/
  values : List String := []
deriving Repr, Inhabited

namespace ClassDef

/-- Add a modifier. -/
def addModifier (c : ClassDef) (m : Option String) : ClassDef :=
  { c with modifiers := c.modifiers.insert m }

/-- Whether the class has a modifier. -/
def hasModifier (c : ClassDef) (m : String) : Bool :=
  c.modifiers.contains (some m)

end ClassDef

end HeaderBind
