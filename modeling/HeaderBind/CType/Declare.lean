import HeaderBind.Code
import HeaderBind.CType.Basic

/-!
# Declaring and passing a value

The code that needs no conversion: how a value is declared, referred to, passed to a call, named in
a comment and handed back as a result.
-/

namespace HeaderBind.CType

/-- The operand that refers to the place an argument is read into. Kinds that are not read from
arguments have none. -/
def byReference (t : CType) : Except Fault (Option String) :=
  match t.kind with
  | .void | .voidPointer => .ok none
  | .integerOut _ => .ok (some t.name)
  | .character => .ok (some s!"&str_{t.name}")
  | .buffer => do return some s!"&{t.name}, &{← t.lengthText}"
  | .bufferOut => do return some s!"&{← t.lengthText}"
  | .blob | .blobPointer => .ok (some s!"{t.name}.dptr, &{t.name}.dsize")
  | .stringArray => .ok (some s!"&py_{t.name}")
  | .object | .objectPointer | .structPointer => .ok (some s!"&wrapped_{t.name}")
  | .timeval => .ok (some s!"&{t.name}_flt")
  | _ => .ok (some s!"&{t.name}")

/-- The operand that passes the value to a call. -/
def callArgument (t : CType) : Except Fault String :=
  match t.kind with
  | .void | .voidPointer => .ok "NULL"
  | .buffer | .bufferOut => do
    return s!"({t.type}){t.name}, ({← t.lengthTypeText}){← t.lengthText}"
  | _ => .ok t.name

/-- The operand that passes the value on unchanged. -/
def passThrough (t : CType) : Except Fault String :=
  match t.kind with
  | .integerOut _ => .ok t.name
  | _ => t.callArgument

/-- The parameter as a prototype declares it. -/
def comment (t : CType) : Except Fault String :=
  match t.kind with
  | .void | .voidPointer => .ok "void *ctx"
  | .buffer | .bufferOut | .blob | .blobPointer => do
    return s!"{t.type} {t.name}, {← t.lengthTypeText} {← t.lengthText}"
  | .integer _ | .integerOut _ | .character | .enumeration => do
    return s!"{← t.declaredText} {t.name} "
  | .objectPointer => .ok s!"{t.type} *{t.name}"
  | _ => .ok s!"{t.type} {t.name} "

/-- Whether a text occurs in another. -/
def occursIn (part whole : List Char) : Bool :=
  match whole with
  | [] => part.isEmpty
  | c :: rest => part.isPrefixOf (c :: rest) || occursIn part rest

/-- The form of the type in the overview of a module. -/
def overview (t : CType) : String :=
  if t.name == "func_return" then t.type
  else if occursIn "void".toList t.type.toList then ""
  else s!"{t.type} : {t.name}"

/-- The declaration of a value of no particular kind. A value that is given is the initial one; of
an array only a pointer and an index are declared. -/
def plainDefinition (t : CType) (initial : Datum) : Except Fault String :=
  if initial.isGiven then do
    return s!"    {t.type} {t.name} = {← initial.asText};\n"
  else if (t.extra.lookup "array_size").isSome then
    .ok s!"    int array_index = 0;\n    {t.type} UNUSED *{t.name};\n"
  else
    .ok s!"    {t.type} UNUSED {t.name};\n"

/-- Whether the value itself is declared beside its wrapper: not where it only goes out. -/
def declaresValue (t : CType) (sense : Datum) : Bool :=
  sense.isText "IN" && !t.has "OUT"

/-- The declaration of the value. An initial value that is not given is the one of the kind. -/
def definition (t : CType) (initial : Option Datum := none) (sense : Datum := .text "IN") :
    Except Fault String :=
  match t.kind with
  | .zeroTerminated =>
    let initial := initial.getD .nothing
    t.plainDefinition (if initial.isText "\"\"" then .text "(char *) \"\"" else initial)
  | .buffer => do
    let initial ← (initial.getD (.text "\"\"")).asText
    let length ← t.lengthText
    return s!"    char *{t.name} = {initial};\n    Py_ssize_t {length} = strlen({initial});\n"
  | .character => do
    let initial ← (initial.getD (.text "\"\\x0\"")).asText
    return s!"char {t.name} UNUSED = 0;\nchar *str_{t.name} UNUSED = {initial};\n"
  | .integerOut _ => do
    let storage := s!"storage_{t.name}"
    let bare ← bareType t.type
    let pointer ← t.plainDefinition (.text s!"&{storage}")
    return s!"{bare} {storage} = 0;\n{pointer}\n"
  | .bufferOut => do
    let length ← t.lengthText
    let initial ← (initial.getD (.number 0)).asNumber
    return (Code.indent
      [s!"char *{t.name} = NULL;",
       s!"Py_ssize_t {length} = {initial};",
       s!"PyObject *tmp_{t.name} = NULL;"]).render
  | .blob | .blobPointer => t.plainDefinition .nothing
  | .void | .voidPointer => .ok ""
  | .stringArray => .ok s!"    char **{t.name} = NULL;\n    PyObject *py_{t.name} = NULL;\n"
  | .object => do
    let initial ← (initial.getD (.text "NULL")).asText
    let wrapper := s!"    Gen_wrapper wrapped_{t.name} UNUSED = {initial};\n"
    return if t.declaresValue sense then wrapper ++ s!"    {t.type} UNUSED {t.name};\n" else wrapper
  | .objectPointer => do
    let initial ← (initial.getD (.text "NULL")).asText
    let wrapper := s!"    Gen_wrapper wrapped_{t.name} = {initial};\n"
    return if t.declaresValue sense then wrapper ++ s!"    {t.type} *{t.name};\n" else wrapper
  | .struct | .structPointer => do
    let initial ← (initial.getD (.text "NULL")).asText
    let wrapper := s!"    Gen_wrapper wrapped_{t.name} = {initial};\n"
    if t.declaresValue sense then
      return wrapper ++ s!"    {← t.declaredText} *{t.name} = NULL;\n"
    else
      return wrapper
  | .timeval => .ok s!"struct timeval {t.name};\nfloat {t.name}_flt;\n"
  | .pyObject => do
    let initial ← (initial.getD (.text "NULL")).asText
    return s!"PyObject *{t.name} = {initial};\n"
  | .enumeration =>
    let initial := initial.getD .nothing
    if initial.isGiven then do
      return s!"    int {t.name} = {← initial.asText};\n"
    else
      .ok s!"    int UNUSED {t.name} = 0;\n"
  | _ => t.plainDefinition (initial.getD .nothing)

/-- The declaration of the value where the wrapped language hands it in. -/
def returnedDefinition (t : CType) (initial : Option Datum := none)
    (sense : Datum := .text "IN") : Except Fault String :=
  if t.kind.isWrapped then do
    let initial ← (initial.getD (.text "NULL")).asText
    return s!"{t.type} {t.name} = {initial};\n"
  else
    t.definition initial sense

/-- What the conversion of the value needs besides the value. -/
def localDefinition (t : CType) : String :=
  match t.kind with
  | .timeval => s!"float {t.name}_flt;\n"
  | _ => ""

/-- The name of the argument in the wrapped language. Values that only come out have none, and of a
buffer to be filled only the length goes in. -/
def argumentName (t : CType) : Datum :=
  match t.kind with
  | .integerOut _ => .nothing
  | .bufferOut | .blob | .blobPointer => t.length.getD .nothing
  | _ => .text t.name

/-- The statement that returns a value. -/
def returnValue (t : CType) (value : String) : String :=
  if t.kind.isVoid then "return;" else s!"return {value};"

/-- What follows every call: a pending error ends the function, and a destroyed object is no longer
referred to. -/
def afterCall (t : CType) : String :=
  let check := (Code.jumpIf "check_error()").render
  if t.has "DESTRUCTOR" then
    check ++ "self->base = NULL;  /* DESTRUCTOR - C object no longer valid */\n"
  else
    check

/-- What a function that failed releases. Only buffers to be filled hold something. -/
def errorCleanup (t : CType) : Option String :=
  match t.kind with
  | .bufferOut | .blob | .blobPointer =>
    some (Code.block s!"if(tmp_{t.name} != NULL)" [s!"Py_DecRef(tmp_{t.name});"]).indent.render
  | _ => none

/-- What is released with a failed argument. Only arrays of strings hold something. -/
def errorCondition (t : CType) : Option String :=
  match t.kind with
  | .stringArray =>
    some (Code.block s!"if({t.name})" [s!"talloc_free({t.name});"]).indent.render
  | _ => none

end HeaderBind.CType
