import HeaderBind.CType.Kind
import HeaderBind.Datum
import HeaderBind.Text.Blank

/-!
# C types in use

A type in use has a name (of an argument, a member or a result), the C type that declares it, and
what its kind adds: a length, the type as it was first declared, the text that a function returns
when it fails.
-/

namespace HeaderBind

/-- A C type in use. -/
structure CType where
  kind : Kind
  /-- The name of the argument, member or result. -/
  name : String
  /-- The C type that stores the value. -/
  type : String
  /-- The direction in which the value goes. -/
  sense : String := "IN"
  /-- The interface of the kind, by which neighbouring arguments are joined. -/
  interface : Option String := none
  /-- The statement with which a function of this result type reports failure. -/
  errorValue : String := "return 0;"
  /-- The marks of the declaration, each once. -/
  attributes : List String := []
  /-- The length of a buffer. -/
  length : Option Datum := none
  /-- The type of that length. -/
  lengthType : Option Datum := none
  /-- The type as declared: absent where the kind keeps none, empty before it is known. -/
  declared : Option (Option String) := none
  /-- Named values that came with the declaration. -/
  extra : List (String × Datum) := []
deriving Repr, Inhabited

namespace CType

/-- Whether the declaration carries a mark. -/
def has (t : CType) (mark : String) : Bool :=
  t.attributes.contains mark

/-- Add a mark to the declaration. -/
def mark (t : CType) (mark : String) : CType :=
  { t with attributes := t.attributes.insert mark }

/-- The first word of a C type. A blank type has none. -/
def bareType (type : String) : Except Fault String :=
  match Text.words type with
  | [] => .error .outOfRange
  | word :: _ => .ok word

/-- The interface of a kind. -/
def interfaceOf : Kind → Option String
  | .string | .borrowedString | .stringOut => some "string"
  | .zeroTerminated => some "null_terminated_string"
  | .stringArray => some "array"
  | .buffer | .bufferOut | .blob | .blobPointer => some "char_and_length"
  | .integer _ | .integerOut _ | .enumeration => some "integer"
  | .character => some "small_integer"
  | .timeval => some "numeric"
  | .pyObject => some "opaque"
  | .plain | .void | .voidPointer | .object | .objectPointer | .struct | .structPointer => none

/-- The statement with which a function of a result kind reports failure. A block of memory is
cleared first: there `{result:s}` stands for the name of the result. -/
def errorValueOf : Kind → String
  | .string | .zeroTerminated | .borrowedString | .stringOut | .stringArray
  | .buffer | .bufferOut | .blobPointer
  | .object | .objectPointer | .struct | .structPointer => "return NULL;"
  | .blob => "\x7bresult:s\x7d.dptr = NULL;\nreturn \x7bresult:s\x7d;"
  | .void | .voidPointer => "return;"
  | .plain | .integer _ | .integerOut _ | .character | .enumeration | .timeval | .pyObject =>
    "return 0;"

/-- The direction in which values of a kind go. -/
def senseOf : Kind → String
  | .stringOut => "OUT"
  | .integerOut _ | .bufferOut | .blob | .blobPointer => "OUT_DONE"
  | _ => "IN"

/-- The C type that stores a value of a kind declared with a type. -/
def storageType (kind : Kind) (type : String) : Except Fault String :=
  match kind with
  | .integer t => .ok t.cName
  | .integerOut t => .ok t.cName
  | .character => .ok IntegerType.int.cName
  | .objectPointer => bareType type
  | _ => .ok type

/-- What is known of the declared type of a kind from the start. -/
def declaredOf (kind : Kind) (type : String) : Except Fault (Option (Option String)) :=
  match kind with
  | .integer _ | .integerOut _ | .character | .enumeration => .ok (some (some type))
  | .void | .voidPointer => .ok (some (some ""))
  | .object | .objectPointer => .ok (some none)
  | .struct | .structPointer => do return some (some (← bareType type))
  | _ => .ok none

/-- The value of a named parameter: by position when there is one left, else by name. A parameter
that is given both ways or not at all is a fault. Returns the arguments that are left. -/
def takeParameter (name : String) :
    List Datum → List (String × Datum) → Except Fault (Datum × List Datum × List (String × Datum))
  | d :: rest, named =>
    if (named.lookup name).isSome then .error .badArgument else .ok (d, rest, named)
  | [], named =>
    match named.lookup name with
    | some d => .ok (d, [], named.filter fun e => e.1 != name)
    | none => .error .badArgument

/-- A type of a given kind in use. Buffers take a length and its type; other positional arguments
are ignored, named ones are kept. -/
def make (kind : Kind) (name type : String) (args : List Datum := [])
    (named : List (String × Datum) := []) : Except Fault CType := do
  if named.any fun e => e.1 == "self" || e.1 == "name" || e.1 == "data_type" then
    throw .badArgument
  let mut length := if kind.isString then some (Datum.text s!"strlen({name})") else none
  let mut lengthType := none
  let mut extra := named
  if kind.isBuffer then
    let (l, args, named) ← takeParameter "length" args named
    let (lt, _, named) ← takeParameter "length_type" args named
    length := some l
    lengthType := some lt
    extra := named
  return {
    kind, name, length, lengthType, extra
    type := ← storageType kind type
    declared := ← declaredOf kind type
    sense := senseOf kind
    interface := interfaceOf kind
    errorValue := errorValueOf kind }

/-- The length of a buffer or string as text. -/
def lengthText (t : CType) : Except Fault String :=
  (t.length.getD .nothing).asText

/-- The type of a length as text. -/
def lengthTypeText (t : CType) : Except Fault String :=
  (t.lengthType.getD .nothing).asText

/-- The declared type as text. -/
def declaredText (t : CType) : Except Fault String :=
  match t.declared with
  | none => .error .noSuchPart
  | some none => .error .badArgument
  | some (some s) => .ok s

end CType

end HeaderBind
