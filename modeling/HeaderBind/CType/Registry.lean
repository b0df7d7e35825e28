import HeaderBind.CType.Basic
import HeaderBind.Dict

/-!
# The registry of C types

Which kind wraps a C type is looked up by its name. Headers add their own classes, structs, enums and
aliases to the types known from the start.
-/

namespace HeaderBind

/-- The kinds of the known C types, by name. A struct that has not got a name yet is known without
one. -/
abbrev Registry := Dict (Option String) Kind

namespace Registry

/-- The C types known from the start. -/
def builtIn : List (String × Kind) :=
  [("char", .character),
   ("char *", .string),
   ("char **", .stringArray),
   ("IN char *", .string),
   ("int16_t", .integer .int16),
   ("int32_t", .integer .int32),
   ("int64_t", .integer .int64),
   ("int8_t", .integer .int8),
   ("int", .integer .int),
   ("IN unsigned char *", .string),
   ("long int", .integer .int),
   ("long", .integer .long),
   ("off_t", .integer .int64),
   ("OUT char *", .stringOut),
   ("OUT uint32_t *", .integerOut .uint32),
   ("OUT uint64_t *", .integerOut .uint64),
   ("OUT unsigned char *", .stringOut),
   ("PyObject *", .pyObject),
   ("size_t", .integer .uint64),
   ("ssize_t", .integer .int64),
   ("struct timeval", .timeval),
   ("TDB_DATA", .blob),
   ("TDB_DATA *", .blobPointer),
   ("time_t", .integer .int64),
   ("TSK_INUM_T", .integer .int),
   ("uint16_t", .integer .uint16),
   ("uint32_t", .integer .uint32),
   ("uint64_t", .integer .uint64),
   ("uint8_t", .integer .uint8),
   ("unsigned char *", .string),
   ("unsigned int", .integer .int),
   ("unsigned long int", .integer .ulong),
   ("unsigned long", .integer .ulong),
   ("void *", .voidPointer),
   ("void", .void),
   ("ZString", .zeroTerminated)]

/-- The registry at the start of a run. -/
def initial : Registry :=
  ⟨builtIn.map fun (name, kind) => (some name, kind)⟩

/-- Make a type known, or change its kind. -/
def register (r : Registry) (name : Option String) (kind : Kind) : Registry :=
  Dict.insert r name kind

/-- Make another name known for a type, if the type is known. -/
def registerAlias (r : Registry) (name other : String) : Registry :=
  match Dict.get? r (some name) with
  | some kind => r.register (some other) kind
  | none => r

/-- Whether values of the type are exposed: the type is known and its kind is active. -/
def isActive (r : Registry) (name : Option String) : Bool :=
  (Dict.get? r name).any Kind.isActive

/-- The entries that were added or changed since the start of the run. -/
def additions (r : Registry) : List (Option String × Kind) :=
  r.entries.filter fun (name, kind) => Dict.get? initial name != some kind

/-- The kind of a type that has to be known. -/
def kindOf (r : Registry) (name : Option String) : Except Fault Kind :=
  match Dict.get? r name with
  | some kind => .ok kind
  | none => .error (.missingKey name)

/-- A type in use, by the exact name of the type. -/
def exact (r : Registry) (name : String) (type : String) : Except Fault CType := do
  CType.make (← r.kindOf (some type)) name type

/-- The words that may stand in front of a type as a mark. -/
def marks : List String :=
  ["BORROWED", "DESTRUCTOR", "IGNORE"]

/-- Whether a character is an ASCII letter or digit. -/
def isLetterOrDigit (c : Char) : Bool :=
  c.isAlpha || c.isDigit

/-- The name between `struct ` and `_t `, where a type starts that way. The name consists of letters
and digits and is not empty. -/
def structTag? (type : String) : Option String :=
  match "struct ".toList.isPrefixOf type.toList with
  | false => none
  | true =>
    let rest := type.toList.drop 7
    let name := rest.takeWhile isLetterOrDigit
    let after := rest.dropWhile isLetterOrDigit
    if !name.isEmpty && "_t".toList.isPrefixOf after then some (String.ofList name) else none

/-- A kind that was found for a type. -/
structure Selection where
  kind : Kind
  /-- The name under which the kind was found. -/
  type : String
  /-- The marks that stood in front of the type. -/
  attributes : List String := []
deriving DecidableEq, Repr

/-- The kind of a type as it stands in a declaration: a tagged struct goes by its tag, a mark in front
is split off, and blanks are made single. -/
def select (r : Registry) (type : String) : Except Fault Selection := do
  match Text.words ((structTag? type).getD type) with
  | [] => throw .outOfRange
  | word :: rest =>
    let (attributes, words) := if marks.contains word then ([word], rest) else ([], word :: rest)
    let type := " ".intercalate words
    return { kind := ← r.kindOf (some type), type, attributes }

/-- A type in use, by a type as it stands in a declaration. No type at all is a pointer to anything. -/
def resolve (r : Registry) (name : String) (type : String) (args : List Datum := [])
    (named : List (String × Datum) := []) : Except Fault CType := do
  if named.any fun e => e.1 == "cls" || e.1 == "name" || e.1 == "data_type" then
    throw .badArgument
  if type.isEmpty then
    return ← CType.make .voidPointer name "void *"
  let s ← r.select type
  let t ← CType.make s.kind name s.type args named
  return { t with attributes := s.attributes }

end Registry

end HeaderBind
