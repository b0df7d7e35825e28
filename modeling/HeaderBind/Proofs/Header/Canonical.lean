import HeaderBind.Proofs.Header.Actions

/-!
# Headers in canonical form

Declarations as they stand in a header that is written in one plain form: constants, enums, structs and
classes, one item a line and single spaces between words. Each has its text (`Declaration.chars`), and
what it declares (`Declaration.declare`).
-/

namespace HeaderBind.Canonical

open Declaring

/-! ### Words -/

/-- A word of letters, digits and underscores. -/
structure Identifier where
  chars : List Char
  ne_nil : chars ≠ []
  isWord : ∀ c ∈ chars, Pattern.wordSet.holds c

/-- The name that a word is. -/
def Identifier.text (i : Identifier) : String :=
  String.ofList i.chars

/-- What may stand in front of a declaration, and so is not the start of a type. -/
def modifiers : List (List Char) :=
  [['F', 'O', 'R', 'E', 'I', 'G', 'N'], ['A', 'B', 'S', 'T', 'R', 'A', 'C', 'T'],
   ['P', 'R', 'I', 'V', 'A', 'T', 'E']]

/-- A type: one word or more, and some stars. -/
structure TypeName (most : Nat) where
  first : Identifier
  more : List Identifier := []
  stars : Nat := 0
  stars_le : stars ≤ most

namespace TypeName

variable {most : Nat}

/-- The words of a type. -/
def words (t : TypeName most) : List Char :=
  t.first.chars ++ t.more.flatMap fun w => ' ' :: w.chars

/-- A type as it is written in front of a name. -/
def chars (t : TypeName most) : List Char :=
  t.words ++ ' ' :: List.replicate t.stars '*'

/-- A type as it is known. -/
def text (t : TypeName most) : String :=
  String.ofList (t.words ++ if t.stars = 0 then [] else ' ' :: List.replicate t.stars '*')

/-- The type does not start with what may stand in front of a declaration. -/
def IsPlain (t : TypeName most) : Prop :=
  ∀ w ∈ modifiers, ¬ w <+: t.first.chars

end TypeName

/-- What a name is defined to be. It does not start with a blank, and stays on its line. -/
structure Value where
  chars : List Char
  ne_nil : chars ≠ []
  head_not_blank : ∀ c ∈ chars.head?, Text.isBlank c = false
  in_line : '\n' ∉ chars

/-! ### Declarations -/

/-- A member of a struct or a class. -/
structure Field where
  type : TypeName 1
  name : Identifier

/-- An argument of a method. -/
structure Argument where
  type : TypeName 2
  name : Identifier

/-- A line in a class. -/
inductive Member where
  | field (f : Field) (plain : f.type.IsPlain)
  | method (returns : TypeName 1) (plain : returns.IsPlain) (name : Identifier) (args : List Argument)

/-- A declaration in a header. -/
inductive Declaration where
  | constant (name : Identifier) (value : Value)
  | enumeration (values : List (Identifier × Value)) (name : Identifier)
  | struct (fields : List (Field × Option Identifier)) (name : Identifier)
  | class_ (name base : Identifier) (members : List Member)

/-! ### Texts -/

/-- The size of an array behind its name. -/
def sizeChars : Option Identifier → List Char
  | none => []
  | some size => '[' :: size.chars ++ [']']

/-- A member with its name. -/
def Field.chars (f : Field) : List Char :=
  f.type.chars ++ f.name.chars

/-- An argument with its name. -/
def Argument.chars (a : Argument) : List Char :=
  a.type.chars ++ a.name.chars

/-- A line of a struct. -/
def fieldLine (f : Field × Option Identifier) : List Char :=
  f.1.chars ++ sizeChars f.2 ++ [';', '\n']

/-- A line of an enum. -/
def valueLine (v : Identifier × Value) : List Char :=
  v.1.chars ++ [' ', '=', ' '] ++ v.2.chars ++ [',', '\n']

/-- A line of a class. -/
def Member.line (className : Identifier) : Member → List Char
  | field f _ => f.chars ++ [';', '\n']
  | method returns _ name args =>
    returns.chars ++ ['M', 'E', 'T', 'H', 'O', 'D', '('] ++ className.chars ++ [',', ' '] ++
      name.chars ++ (args.flatMap fun a => [',', ' '] ++ a.chars) ++ [')', ';', '\n']

/-- The text of a declaration. -/
def Declaration.chars : Declaration → List Char
  | constant name value =>
    ['#', 'd', 'e', 'f', 'i', 'n', 'e', ' '] ++ name.chars ++ [' '] ++ value.chars ++ ['\n']
  | enumeration values name =>
    ['t', 'y', 'p', 'e', 'd', 'e', 'f', ' ', 'e', 'n', 'u', 'm', ' ', '\x7b', '\n'] ++
      values.flatMap valueLine ++ ['\x7d', ' '] ++ name.chars ++ [';', '\n']
  | struct fields name =>
    ['t', 'y', 'p', 'e', 'd', 'e', 'f', ' ', 's', 't', 'r', 'u', 'c', 't', ' ', '\x7b', '\n'] ++
      fields.flatMap fieldLine ++ ['\x7d', ' '] ++ name.chars ++ [';', '\n']
  | class_ name base members =>
    ['C', 'C', 'L', 'A', 'S', 'S', '('] ++ name.chars ++ [',', ' '] ++ base.chars ++ [')', '\n'] ++
      members.flatMap (Member.line name) ++ ['E', 'N', 'D', '_', 'C', 'C', 'L', 'A', 'S', 'S', '\n']

/-- The text of a header. -/
def printed (ds : List Declaration) : String :=
  String.ofList (ds.flatMap Declaration.chars)

/-! ### What is declared -/

/-- Declare a member of a struct or a class. -/
def Field.declare (f : Field) (size : Option Identifier) (id : ClassId) : Act Binding Unit :=
  Class.addAttribute id f.name.text f.type.text "" (HeaderReader.arraySize (size.map (·.text)))

/-- Declare an argument of a method. -/
def Argument.declare (a : Argument) (m : Method) : Act Binding Unit :=
  m.addArgument a.type.text a.name.text

/-- Declare what stands on a line of a class. -/
def Member.declare (doc : String) (id : ClassId) : Member → Act Binding Unit
  | field f _ => f.declare none id
  | method returns _ name args => do
    let m ← openMethod id doc returns.text name.text
    args.forM fun a => a.declare m
    closeMethod id m

/-- Declare a value of an enum. -/
def declareValue (id : ClassId) (v : Identifier × Value) : Act Binding Unit :=
  Binding.modifyClass id fun c => { c with values := c.values ++ [v.1.text] }

/-- Declare something. -/
def Declaration.declare (doc : String) : Declaration → Act Binding Unit
  | constant name value =>
    Act.update (HeaderReader.constantIn name.text (String.ofList (name.chars ++ ' ' :: value.chars)))
  | enumeration values name => do
    let id ← Class.makeEnum none
    values.forM (declareValue id)
    nameClass id name.text
    closeEnum id
  | struct fields name => do
    let id ← openStruct none fun c => { c with doc }
    fields.forM fun f => f.1.declare f.2 id
    nameClass id name.text
    closeStruct id
  | class_ name base members => do
    let id ← openClass doc none name.text base.text
    members.forM (Member.declare doc id)

/-- Declare everything in a header, one after the other. -/
def declareAll (doc : String) (ds : List Declaration) : Act Binding Unit :=
  ds.forM (Declaration.declare doc)

end HeaderBind.Canonical
