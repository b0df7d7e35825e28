import HeaderBind.Act
import HeaderBind.Code
import HeaderBind.CType.Basic
import HeaderBind.Settings

/-!
# Converting a value

The code that converts between C values and objects of the wrapped language: before a call, around
a call, and of its results. Some conversions need the error exit of the function they stand in, and
some settle the declared type of the value.
-/

namespace HeaderBind.CType

/-- A type at its place of use: the type, and whether the function around it has an error exit. -/
structure Site where
  ctype : CType
  errorSet : Bool := false
deriving Inhabited

/-- Require the error exit of the function around a value. -/
def Site.needError : Act Site Unit :=
  Act.update fun s => { s with errorSet := true }

/-- Settle the declared type as the first word of the C type. -/
def Site.settle : Act Site String := do
  let t ← Act.view Site.ctype
  let bare ← Act.lift (bareType t.type)
  Act.update fun s => { s with ctype := { s.ctype with declared := some (some bare) } }
  return bare

/-- Raise an exception of the wrapped language and end the function. -/
def raiseAndJump (message : String) : Code :=
  [s!"PyErr_Format(PyExc_RuntimeError, \"{message}\");", Code.jump]

/-- Release the object that a call returned, as its owner requires. -/
def releaseReturned : Code :=
  Code.block "if(returned_object != NULL)" (Code.branches
    [("if(self->base_is_python_object != 0)", ["Py_DecRef((PyObject *) returned_object);"]),
     ("else if(self->base_is_internal != 0)", ["talloc_free(returned_object);"])])

/-- Call a function that returns an object of the wrapped library, and wrap the object. -/
def assignObject (t : CType) (incref call name : String) : Code :=
  Code.indent <| Code.scope <|
    ["Object returned_object = NULL;",
     "",
     "ClearError();",
     "",
     "Py_BEGIN_ALLOW_THREADS",
     "// This call will return a Python object if the base is a proxied Python object",
     "// or a talloc managed object otherwise.",
     s!"returned_object = (Object) {call};",
     "Py_END_ALLOW_THREADS",
     ""]
    ++ Code.block "if(check_error())" (releaseReturned ++ [Code.jump])
    ++ (if t.has "NULL_OK" then Code.jumpIf "returned_object == NULL" else [])
    ++ [s!"wrapped_{name} = new_class_wrapper(returned_object, "
          ++ "self->base_is_python_object, (PyObject *) self);",
        ""]
    ++ Code.block s!"if(wrapped_{name} == NULL)" (releaseReturned ++ [Code.jump])
    ++ (if t.has "BORROWED" then
          ["#error unchecked BORROWED code segment", s!"{incref}(wrapped_{name}->base);"]
          ++ Code.block s!"if(((Object) wrapped_{name}->base)->extension)"
            [s!"Py_IncRef((PyObject *) ((Object) wrapped_{name}->base)->extension);"]
        else [])

/-- Wrap a struct that belongs to another object, which is kept alive. -/
def assignStruct (t : CType) (bare call name : String) (borrowed : Bool) : Code :=
  Code.shift 8 <|
    ["",
     "PyErr_Clear();",
     "",
     "/* GC_New (not PyObject_New) because the type carries",
     " * Py_TPFLAGS_HAVE_GC; GC_Track is deferred to after the",
     " * keepalive fields below are wired. */",
     s!"wrapped_{name} = (Gen_wrapper) PyObject_GC_New(py{bare}, &{bare}_Type);"]
    ++ Code.block s!"if(wrapped_{name} == NULL)" ["return NULL;"]
    ++ [""]
    ++ (if borrowed then ["// Base is borrowed from another object."] else [])
    ++ [s!"wrapped_{name}->base = {call};",
        s!"wrapped_{name}->base_is_python_object = 0;",
        s!"wrapped_{name}->base_is_internal = 0;",
        "Py_IncRef((PyObject *) self);",
        s!"wrapped_{name}->python_object1 = (PyObject *) self;",
        s!"wrapped_{name}->python_object2 = NULL;",
        "",
        s!"PyObject_GC_Track((PyObject *) wrapped_{name});",
        ""]
    ++ (if t.has "NULL_OK" then
          [s!"if(wrapped_{name}->base == NULL) \x7b"]
          ++ Code.shift 5 ([s!"Py_DecRef((PyObject *) wrapped_{name});"]
            ++ Code.jumpIf "check_error()" ++ ["return NULL;"])
          ++ ["\x7d"]
        else [])
    ++ ["// A NULL object gets translated to a None"]
    ++ Code.block s!"if(wrapped_{name}->base == NULL)"
      [s!"Py_DecRef((PyObject *) wrapped_{name});",
       "Py_IncRef(Py_None);",
       s!"wrapped_{name} = (Gen_wrapper) Py_None;"]

/-- The text of a call without blanks around it. Only a text can be trimmed. -/
def trimmedCall : Datum → Except Fault String
  | .text s => .ok (Text.strip s)
  | _ => .error .noSuchPart

/-- Make a call and keep its result, in the target when one is given. -/
def assign (settings : Settings) (call : Datum) (target : Datum := .nothing)
    (borrowed : Bool := true) : Act Site String := do
  let t ← Act.view Site.ctype
  let target := target.orElse t.name
  match t.kind with
  | .object | .objectPointer =>
    Site.needError
    let call ← Act.lift (trimmedCall call)
    let name ← Act.lift target.asText
    return (assignObject t settings.incref call name).render
  | .struct | .structPointer =>
    let bare ← Site.settle
    let call ← Act.lift (trimmedCall call)
    let name ← Act.lift target.asText
    return (assignStruct t bare call name borrowed).render
  | .void | .voidPointer =>
    let call ← Act.lift call.asText
    return (Code.indent ["Py_BEGIN_ALLOW_THREADS", s!"(void) {call};",
      "Py_END_ALLOW_THREADS"]).render
  | _ =>
    let name ← Act.lift target.asText
    let call ← Act.lift call.asText
    return Code.render ["Py_BEGIN_ALLOW_THREADS", s!"{name} = {call};", "Py_END_ALLOW_THREADS"]

/-- Copy a byte string into memory of a context. -/
def copyString (source destination context : String) : Code :=
  ["", "\x7b"]
  ++ Code.indent (
    ["char *buff = NULL;",
     "Py_ssize_t length = 0;",
     "",
     "PyErr_Clear();",
     ""]
    ++ Code.jumpIf s!"PyBytes_AsStringAndSize({source}, &buff, &length) == -1"
    ++ [s!"{destination} = (char *) talloc_size({context}, length + 1);"]
    ++ Code.block s!"if({destination} == NULL)" ["PyErr_NoMemory();", Code.jump]
    ++ [s!"memcpy({destination}, buff, length);", s!"{destination}[length] = 0;"])
  ++ ["\x7d;"]

/-- Read a byte string into a counted block of memory. -/
def readBlob (source : String) (copy : Code) : Code :=
  Code.scope (
    ["char *buf = NULL;",
     "Py_ssize_t tmp = 0;",
     "",
     "PyErr_Clear();",
     ""]
    ++ Code.jumpIf s!"PyBytes_AsStringAndSize({source}, &buf, &tmp) == -1"
    ++ copy)
  ++ ["// We no longer need the Python object", s!"Py_DecRef({source});"]

/-- Copy a sequence of byte strings into an array that ends with a null pointer. -/
def copyStrings (source destination : String) : Code :=
  Code.scope (
    ["Py_ssize_t i = 0;",
     "Py_ssize_t size = 0;",
     ""]
    ++ Code.block s!"if({source})" (
      Code.block s!"if(!PySequence_Check({source}))"
        [s!"PyErr_Format(PyExc_ValueError, \"{destination} must be a sequence\");", Code.jump]
      ++ [s!"size = PySequence_Size({source});"])
    ++ [s!"{destination} = talloc_zero_array(NULL, char *, size + 1);", ""]
    ++ Code.block "for(i = 0; i < size; i++)" (
      [s!"PyObject *tmp = PySequence_GetItem({source}, i);"]
      ++ Code.jumpIf "!tmp"
      ++ [s!"{destination}[i] = PyBytes_AsString(tmp);", ""]
      ++ Code.block s!"if(!{destination}[i])" ["Py_DecRef(tmp);", Code.jump]
      ++ ["Py_DecRef(tmp);"]))

/-- Read a wrapped object of the right class. -/
def unwrapObject (type source destination : String) : Code :=
  Code.shift 5 (
    ["/* First check that the returned value is in fact a Wrapper */",
     s!"if(!type_check({source}, &{type}_Type)) \x7b"]
    ++ Code.shift 5 (raiseAndJump s!"function must return an {type} instance")
    ++ ["\x7d",
        "",
        s!"{destination} = ({type}) ((Gen_wrapper) {source})->base;",
        "",
        s!"if(!{destination}) \x7b"]
    ++ Code.shift 5 (raiseAndJump s!"{type} instance is no longer valid (was it gc'ed?)"))
  ++ ["\x7d", ""]

/-- Read a pointer to a wrapped struct of the right type. -/
def unwrapStruct (type source destination : String) : Code :=
  Code.indent (
    Code.block s!"if({source} == NULL || !type_check({source}, &{type}_Type))"
      ["PyErr_Format(PyExc_RuntimeError,",
       s!"    \"proxied {type} method returned NULL or wrong type\");",
       Code.jump]
    ++ [s!"{destination} = ({type} *) ((Gen_wrapper) {source})->base;"])

/-- Read an integer with a function of the wrapped language. -/
def readInteger (reader source destination : String) : Code :=
  ["PyErr_Clear();", s!"{destination} = {reader}({source});"]

/-- Read a long integer where the platform has one. -/
def readLongLong (wide narrow source destination : String) : Code :=
  ["    PyErr_Clear();",
   "#if defined( HAVE_LONG_LONG )",
   s!"    {destination} = {wide}({source});",
   "#else",
   s!"    {destination} = {narrow}({source});",
   "#endif"]

/-- Convert an object of the wrapped language into a C value. -/
def fromObject (source destination : Datum) (context : Datum := .text "NULL") :
    Act Site String := do
  let t ← Act.view Site.ctype
  match t.kind with
  | .string | .zeroTerminated | .borrowedString | .stringOut =>
    Site.needError
    let source ← Act.lift source.asText
    let destination ← Act.lift destination.asText
    let context ← Act.lift context.asText
    return (copyString source destination context).render
  | .stringArray =>
    Site.needError
    let source ← Act.lift source.asText
    let destination ← Act.lift destination.asText
    return (copyStrings source destination).render
  | .blobPointer =>
    Site.needError
    let destination ← Act.lift destination.asText
    let source ← Act.lift source.asText
    return Code.render ([s!"{destination} = talloc_zero(self, TDB_DATA);"]
      ++ readBlob source
        ["",
         "// Take a copy of the Python string",
         s!"{destination}->dptr = talloc_memdup({destination}, buf, tmp);",
         s!"{destination}->dsize = tmp;"])
  | .blob =>
    Site.needError
    let source ← Act.lift source.asText
    let destination ← Act.lift destination.asText
    return Code.render (readBlob source
      ["// Take a copy of the Python string - This leaks - how to fix it?",
       s!"{destination}.dptr = talloc_memdup(NULL, buf, tmp);",
       s!"{destination}.dsize = tmp;"])
  | .object | .objectPointer | .struct =>
    let source ← Act.lift source.asText
    let destination ← Act.lift destination.asText
    return (unwrapObject t.type source destination).render
  | .structPointer =>
    let source ← Act.lift source.asText
    let type ← Act.lift (match t.declared with
      | some (some d) => .ok d
      | _ => .error .badArgument)
    let destination ← Act.lift destination.asText
    return (unwrapStruct type source destination).render
  | .integer i =>
    let destination ← Act.lift destination.asText
    let source ← Act.lift source.asText
    return match i with
      | .int | .int8 | .int16 | .int32 =>
        (readInteger "PyLong_AsLongMask" source destination).indent.render
      | .unsigned | .uint8 | .uint16 | .uint32 =>
        (readInteger "PyLong_AsUnsignedLongMask" source destination).indent.render
      | .int64 =>
        (readLongLong "PyLong_AsLongLongMask" "PyLong_AsLongMask" source destination).render
      | .uint64 =>
        (readLongLong "PyLong_AsUnsignedLongLongMask" "PyLong_AsUnsignedLongMask" source
          destination).render
      | .long => (readInteger "PyLong_AsLongMask" source destination).render
      | .ulong => (readInteger "PyLong_AsUnsignedLongMask" source destination).render
  | .integerOut _ | .character | .enumeration =>
    let destination ← Act.lift destination.asText
    let source ← Act.lift source.asText
    return (readInteger "PyLong_AsLongMask" source destination).indent.render
  | .plain | .buffer | .bufferOut | .void | .voidPointer | .timeval | .pyObject =>
    return ""

/-- Check an argument that has to be a wrapped object of the right class, and keep it alive with the
object in one of two places. -/
def checkObject (t : CType) (bare : String) (keeper : Int) : Code :=
  let wrapped := s!"wrapped_{t.name}"
  Code.indent (Code.branches
    [(s!"if({wrapped} == NULL || (PyObject *){wrapped} == Py_None)", [s!"{t.name} = NULL;"]),
     (s!"else if(!type_check((PyObject *){wrapped},&{bare}_Type))",
       raiseAndJump s!"{t.name} must be derived from type {bare}"),
     (s!"else if({wrapped}->base == NULL)",
       raiseAndJump s!"{bare} instance is no longer valid (was it gc'ed?)"),
     ("else",
       [s!"{t.name} = ({t.type}) {wrapped}->base;"]
       ++ Code.block s!"if(self->python_object{keeper} == NULL)"
         [s!"self->python_object{keeper} = (PyObject *) {wrapped};",
          s!"Py_IncRef(self->python_object{keeper});"])])

/-- Check an argument that has to be a wrapped object of the right class, and point at it. -/
def checkObjectPointer (t : CType) (bare : String) : Code :=
  let wrapped := s!"wrapped_{t.name}"
  [s!"if(!{wrapped} || (PyObject *){wrapped}==Py_None) \x7b",
   s!"   {t.name} = NULL;",
   s!"\x7d else if(!type_check((PyObject *){wrapped},&{bare}_Type)) \x7b"]
  ++ Code.shift 5 (raiseAndJump s!"{t.name} must be derived from type {bare}")
  ++ ["\x7d else \x7b",
      s!"   {t.name} = ({bare} *)&{wrapped}->base;",
      "\x7d;"]

/-- Make room for the bytes that a call fills in. -/
def allocateBuffer (name length : String) : Code :=
  Code.indent (
    ["PyErr_Clear();",
     "",
     s!"tmp_{name} = PyBytes_FromStringAndSize(NULL, {length});"]
    ++ Code.jumpIf s!"!tmp_{name}"
    ++ ["",
        s!"PyBytes_AsStringAndSize(tmp_{name}, &{name}, (Py_ssize_t *)&{length});"])

/-- What precedes a call. Objects are kept alive in the place of the given number. -/
def beforeCall (keeper : Datum := .number 1) : Act Site String := do
  let t ← Act.view Site.ctype
  match t.kind with
  | .character =>
    -- A single character cannot be passed in: its check is not well-formed.
    Site.needError
    Act.fail .badValue
  | .enumeration =>
    Site.needError
    return ""
  | .stringArray => fromObject (.text s!"py_{t.name}") (.text t.name)
  | .bufferOut => return (allocateBuffer t.name (← Act.lift t.lengthText)).render
  | .object | .struct | .structPointer =>
    if t.has "OUT" || t.sense == "OUT" then return ""
    let bare ← Site.settle
    return (checkObject t bare (← Act.lift keeper.asNumber)).render
  | .objectPointer =>
    if t.has "OUT" || t.sense == "OUT" then return ""
    let bare ← Site.settle
    return (checkObjectPointer t bare).render
  | .timeval =>
    return Code.render
      [s!"{t.name}.tv_sec = (int){t.name}_flt;",
       s!"{t.name}.tv_usec = ({t.name}_flt - {t.name}.tv_sec) * 1e6;"]
  | _ => return ""

/-- What follows a call into the wrapped language: bytes that were returned are copied into the
buffer of the caller, and their number is the result. Other kinds need nothing. -/
def afterProxyCall (t : CType) (result : Datum) : Except Fault String :=
  match t.kind with
  | .bufferOut | .blob | .blobPointer => do
    let result ← result.asText
    let length ← t.lengthText
    return (Code.scope (
      ["char *tmp_buff = NULL;",
       "Py_ssize_t tmp_len = 0;",
       ""]
      ++ Code.jumpIf s!"PyBytes_AsStringAndSize({result}, &tmp_buff, &tmp_len) == -1"
      ++ ["/* Bound the user-controlled return length to the buffer",
          " * size that libtsk requested; a Python override that",
          " * returns more bytes than asked for would otherwise",
          " * overflow the caller's buffer.",
          " */"]
      ++ Code.block s!"if((size_t) tmp_len > (size_t) {length})"
        [s!"tmp_len = (Py_ssize_t) {length};"]
      ++ [s!"memcpy({t.name}, tmp_buff, tmp_len);",
          s!"Py_DecRef({result});",
          s!"{result} = PyLong_FromLong(tmp_len);"]
      ++ Code.jumpIf s!"{result} == NULL")).render
  | _ => .ok ""

/-- Turn a C integer into an object; where a function of the library calls back, failure is checked
at once. -/
def fromInteger (maker name result : String) (proxied : Bool) : Code :=
  ["PyErr_Clear();", s!"{result} = {maker}({name});"]
  ++ (if proxied then Code.jumpIf s!"{result} == NULL" else [])

/-- Turn a wide C integer into an object. -/
def fromWideInteger (wide narrow name result : String) (proxied : Bool) : Code :=
  ["    PyErr_Clear();",
   "#if defined( HAVE_LONG_LONG )",
   s!"    {result} = {wide}({name});",
   "#else",
   s!"    {result} = {narrow}({name});",
   "#endif"]
  ++ (if proxied then (Code.jumpIf s!"{result} == NULL").indent else [])

/-- Turn an array of C integers into a list. -/
def fromIntegers (size name result : String) : Code :=
  ["    PyErr_Clear();",
   s!"    {result} = PyList_New(0);",
   s!"    for(array_index = 0; array_index < {size}; array_index++) \x7b",
   s!"       PyList_Append({result}, PyLong_FromLong((long) {name}[array_index]));",
   "    \x7d"]

/-- How a result is asked for. -/
structure ResultRequest where
  /-- The C value; the name of the type in use when it is not given. -/
  name : Datum := .nothing
  /-- The variable that takes the object. -/
  result : Datum := .text "Py_result"
  /-- The direction; `proxied` where the library calls back. -/
  sense : Datum := .text "IN"
  /-- Whether the value belongs to somebody else. -/
  borrowed : Bool := false
deriving Inhabited

/-- Convert a C value into an object of the wrapped language. -/
def toObject (t : CType) (r : ResultRequest := {}) : Except Fault String := do
  let proxied := r.sense.isText "proxied"
  let name := r.name.orElse t.name
  match t.kind with
  | .plain | .pyObject => throw .noSuchPart
  | .string | .zeroTerminated | .stringOut | .stringArray =>
    let given := r.name
    let name ← name.asText
    let result ← r.result.asText
    let length ← t.lengthText
    let convert := (Code.indent (["PyErr_Clear();", ""] ++ Code.branches
      [(s!"if(!{name})", ["Py_IncRef(Py_None);", s!"{result} = Py_None;"]),
       ("else",
         [s!"{result} = PyBytes_FromStringAndSize((char *){name}, {length});"]
         ++ Code.jumpIf s!"!{result}")])).render
    if t.has "BORROWED" || r.borrowed then
      return convert
    else
      -- The string is released by the name that was asked for.
      return convert ++ s!"talloc_unlink(NULL, {← given.asText});\n"
  | .borrowedString =>
    let result ← r.result.asText
    let name ← name.asText
    let length ← t.lengthText
    return (Code.indent ["PyErr_Clear();",
      s!"{result} = PyBytes_FromStringAndSize((char *){name}, {length});"]).render
  | .buffer =>
    let result ← r.result.asText
    let length ← t.lengthText
    return (Code.indent (["PyErr_Clear();",
      s!"{result} = PyBytes_FromStringAndSize((char *){t.name}, {length});",
      ""] ++ Code.jumpIf s!"!{result}")).render
  | .bufferOut =>
    let length ← t.lengthText
    if proxied then
      return Code.render ([s!"py_{t.name} = PyLong_FromSize_t((size_t) {length});"]
        ++ Code.jumpIf s!"py_{t.name} == NULL")
    else
      let name ← name.asText
      let result ← r.result.asText
      return (Code.indent (
        ["/* NOTE - this should never happen",
         " * it might indicate an overflow condition.",
         " */",
         s!"if(func_return > (uint64_t) {length}) \x7b",
         "    printf(\"Programming Error - possible overflow!!\\n\");",
         "    abort();",
         "",
         "// Do we need to truncate the buffer for a short read?",
         s!"\x7d else if(func_return < (uint64_t) {length}) \x7b",
         s!"    _PyBytes_Resize(&tmp_{name}, (Py_ssize_t) func_return);",
         "\x7d",
         "",
         s!"{result} = tmp_{name};"])).render
  | .blobPointer =>
    let result ← r.result.asText
    let name ← name.asText
    return (Code.indent ["PyErr_Clear();",
      s!"{result} = PyBytes_FromStringAndSize((char *){name}->dptr, {name}->dsize);",
      s!"talloc_free({name});"]).render
  | .blob =>
    let result ← r.result.asText
    let name ← name.asText
    return (Code.indent ["PyErr_Clear();",
      s!"{result} = PyBytes_FromStringAndSize((char *){name}.dptr, {name}.dsize);"]).render
  | .integer i =>
    let result ← r.result.asText
    match i with
    | .int | .int8 | .int16 | .int32 =>
      return (fromInteger "PyLong_FromLong" (← name.asText) result proxied).indent.render
    | .unsigned | .uint8 | .uint16 | .uint32 =>
      match t.extra.lookup "array_size" with
      | some size =>
        let size ← size.asText
        return (fromIntegers size (← name.asText) result).render
      | none =>
        let name ← name.asText
        return (fromInteger "PyLong_FromLong" s!"(long) {name}" result proxied).indent.render
    | .int64 =>
      return (fromWideInteger "PyLong_FromLongLong" "PyLong_FromLong" (← name.asText) result
        proxied).render
    | .uint64 =>
      return (fromWideInteger "PyLong_FromUnsignedLongLong" "PyLong_FromUnsignedLong"
        (← name.asText) result proxied).render
    | .long => return (fromInteger "PyLong_FromLongLong" (← name.asText) result proxied).render
    | .ulong =>
      return (fromInteger "PyLong_FromUnsignedLong" (← name.asText) result proxied).render
  | .integerOut _ =>
    let result ← r.result.asText
    let name ← name.asText
    return Code.render ["PyErr_Clear();", s!"{result} = PyLong_FromLongLong(*{name});"]
  | .character =>
    let name ← name.asText
    let result ← r.result.asText
    return Code.render
      ["\x7b",
       s!"    char *str_{name} = &{name};",
       "",
       "    PyErr_Clear();",
       s!"    {result} = PyBytes_FromStringAndSize(str_{name}, 1);",
       "",
       s!"    if(!{result}) \x7b",
       "        " ++ Code.jump,
       "\x7d"]
  | .enumeration =>
    let result ← r.result.asText
    let name ← name.asText
    return (Code.indent ["PyErr_Clear();", s!"{result} = PyLong_FromLong({name});"]).render
  | .void | .voidPointer => return Code.render ["Py_IncRef(Py_None);", "Py_result = Py_None;"]
  | .object | .objectPointer | .struct | .structPointer =>
    let result ← r.result.asText
    let name ← name.asText
    if proxied then
      return s!"{result} = (PyObject *) new_class_wrapper((Object){name}, 0, NULL);\n"
    else
      return s!"{result} = (PyObject *) wrapped_{name};\n"
  | .timeval =>
    let name ← name.asText
    let result ← r.result.asText
    return Code.render
      [s!"{name}_flt = (double)({name}.tv_sec) + {name}.tv_usec;",
       s!"{result} = PyFloat_FromDouble({name}_flt);"]

/-- The results left when the value joins them: a buffer that was filled stands for the return value
of the call, which is dropped. -/
def joinResults {α : Type} (t : CType) (results : List α) : Except Fault (List α) :=
  match t.kind with
  | .bufferOut =>
    match results with
    | [] => .error .outOfRange
    | _ :: rest => .ok rest
  | _ => .ok results

end HeaderBind.CType
