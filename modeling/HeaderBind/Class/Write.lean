import HeaderBind.Class.Declare
import HeaderBind.Method.Attributes
import HeaderBind.Method.Constructor

/-!
# Writing classes

The code for a class: its object layout, its tables of methods and attributes, its type object and
its functions.
-/

namespace HeaderBind

open Binding (emit emitCode need)

namespace Method

/-- The form of a method in the overview of a module. -/
def describe (m : Method) : Act Binding String :=
  if m.unfinished then Act.fail .badArgument
  else if m.kind == .attributes then m.attributeOverview
  else m.overview

/-- Announce the functions of a method. -/
def announce (m : Method) : Act Binding Unit :=
  if m.unfinished then Act.fail .badArgument
  else if m.kind == .attributes then m.writeReaderPrototypes
  else m.writePrototype

/-- Define the functions of a method. -/
def define (ref : MethodRef) : Act Binding Unit := do
  let m ← Binding.method ref
  if m.unfinished then
    Act.fail .badArgument
  match m.kind with
  | .ordinary | .iterator => writeCall ref
  | .selfIterator => m.writeSelfIterator
  | .constructor => writeConstructor ref
  | .emptyConstructor => writeEmptyConstructor (← need m.className)
  | .structConstructor => writeStructConstructor (← need m.className)
  | .enumConstructor => m.writeEnumConstructor
  | .attributes => writeReader ref

/-- The entry of a method in the method table of its class. -/
def tabulate (m : Method) : Act Binding Unit :=
  if m.unfinished then Act.fail .badArgument else m.writeTableEntry

end Method

namespace Class

/-- A class by its number. -/
def get (id : ClassId) : Act Binding ClassDef := do
  return (← Act.state).classAt id

/-- The places of the methods of a class. -/
def methodRefs (id : ClassId) (c : ClassDef) : List MethodRef :=
  (List.range c.methods.length).map fun i => ⟨id, .method i⟩

/-! ### Overview -/

/-- The methods in the overview of a module. -/
def methodsOverview (id : ClassId) : Act Binding String := do
  let lines ← (← get id).methods.mapM fun m => do
    return s!"        {← m.describe}\n"
  return String.join lines

/-- The attributes in the overview of a module. -/
def attributesOverview (id : ClassId) : Act Binding String := do
  match (← get id).attributes with
  | some reader => reader.attributeOverview
  | none => Act.fail .noSuchPart

/-- The form of a class, struct or enum in the overview of a module. -/
def overview (id : ClassId) : Act Binding String := do
  let c ← get id
  match c.kind with
  | .class_ =>
    let constructor ← (← Binding.method ⟨id, .constructor⟩).describe
    let attributes ← attributesOverview id
    let methods ← methodsOverview id
    return Code.render
      [s!"#{c.doc}",
       s!"Class {← need c.name}({← need c.baseName}):",
       s!"    Constructor:{constructor}",
       "    Attributes:",
       attributes,
       "    Methods:"] ++ methods
  | .struct =>
    let attributes ← attributesOverview id
    return Code.render [s!"# {c.doc}", s!"Struct {← need c.name}:", attributes]
  | .enum =>
    let name ← need c.name
    return Code.render (s!"Enum {name}:" :: c.values.map fun v => s!"    {v}")

/-! ### Layout and prototypes -/

/-- Set one value of an enum in the dictionary of its type. -/
def enumValueCode (value : String) : Code :=
  let failed := ["Py_DecRef(type_object->tp_dict);", "type_object->tp_dict = NULL;", "return 0;"]
  Code.indent (
    [s!"integer_object = PyLong_FromLong({value});"]
    ++ Code.block "if(integer_object == NULL)" failed
    ++ Code.block (s!"if(PyDict_SetItemString(type_object->tp_dict, \"{value}\", "
        ++ "integer_object) < 0)")
      ("Py_DecRef(integer_object);" :: failed)
    ++ ["Py_DecRef(integer_object);", ""])

/-- Write the object layout of a class; for an enum also the function that fills its type. -/
def writeLayout (id : ClassId) : Act Binding Unit := do
  let c ← get id
  let cls ← need c.name
  let layout (fields : Code) : Code :=
    ["", "typedef struct \x7b"] ++ Code.indent ("PyObject_HEAD" :: fields) ++ ["\x7d " ++ s!"py{cls};"]
  let keepers : Code :=
    ["int base_is_python_object;",
     "int base_is_internal;",
     "PyObject *python_object1;",
     "PyObject *python_object2;",
     "int object_is_proxied;"]
  match c.kind with
  | .class_ =>
    emitCode (layout ([s!"{cls} base;"] ++ keepers
      ++ ["", "void (*initialise)(Gen_wrapper self, void *item);"]))
  | .struct => emitCode (layout ([s!"{cls} *base;"] ++ keepers ++ [s!"{cls} *cbase;"]))
  | .enum =>
    emitCode (layout ["PyObject *value;"]
      ++ ["", s!"int {cls}_init_type(", "    PyTypeObject *type_object )", "\x7b"]
      ++ Code.indent (
        ["type_object->tp_dict = PyDict_New();"]
        ++ Code.block "if(type_object->tp_dict == NULL)" ["return 0;"]))
    if !c.values.isEmpty then
      emit "    PyObject *integer_object = NULL;\n"
      for value in c.values do
        emitCode (enumValueCode value)
    emitCode ["    return( 1 );", "\x7d", ""]

/-- Announce a method and, unless it closes the object, its proxy. -/
def announceMethod (ref : MethodRef) : Act Binding Unit := do
  let m ← Binding.method ref
  m.announce
  if m.name != "close" then
    Method.makeProxy ref
    match (← Binding.method ref).proxy with
    | some p => p.writePrototype
    | none => pure ()

/-- Announce the functions of a class. -/
def writePrototypes (id : ClassId) : Act Binding Unit := do
  let c ← get id
  let cls ← need c.name
  emit s!"/* static PyTypeObject {cls}_Type; */\n"
  (← Binding.method ⟨id, .constructor⟩).announce
  emit s!"static void {cls}_dealloc(py{cls} *self);\n"
  match c.attributes with
  | some reader => reader.announce
  | none => pure ()
  for ref in methodRefs id c do
    announceMethod ref

/-! ### Tables -/

/-- Write the table of the methods. Enums have none. -/
def writeMethodTable (id : ClassId) : Act Binding Unit := do
  let c ← get id
  emit (s!"static PyMethodDef {← need c.name}_methods[] = " ++ "\x7b\n")
  if c.kind != .enum then
    for m in c.methods do
      m.tabulate
  emit "    \x7bNULL, NULL, 0, NULL\x7d  /* Sentinel */\n\x7d;\n\n"

/-- Write the table of the attributes. -/
def writeAttributeTable (id : ClassId) : Act Binding Unit := do
  let c ← get id
  emit (s!"static PyGetSetDef {← need c.name}_get_set_definitions[] = " ++ "\x7b\n")
  if c.kind != .enum then
    match c.attributes with
    | some reader => reader.writeAttributeTable
    | none => pure ()
  emit "    \x7bNULL, NULL, NULL, NULL, NULL\x7d  /* Sentinel */\n\x7d;\n\n"

/-! ### Type object -/

/-- The function that says whether an object stands for something. Enums have none. -/
def truthFunction (id : ClassId) : Act Binding (Option String) := do
  let c ← get id
  if c.kind == .enum then
    return none
  let cls ← need c.name
  return some (Code.block s!"static int {cls}_nonzero(py{cls} *v)" ["return v->base != 0;"]).render

/-- The function that gives the number of an object. Only enums have one. -/
def numberFunction (id : ClassId) : Act Binding (Option String) := do
  let c ← get id
  if c.kind != .enum then
    return none
  let cls ← need c.name
  return some (Code.block s!"static PyObject *{cls}_int(py{cls} *self)"
    ["Py_IncRef(self->value);", "return self->value;"]).render

/-- The table of the operators, all of which are missing but two. -/
def numberTable (cls truth number : String) : Code :=
  [s!"static PyNumberMethods {cls}_as_number = " ++ "\x7b",
   "    (binaryfunc)    0,             /* nb_add */",
   "    (binaryfunc)    0,             /* nb_subtract */",
   "    (binaryfunc)    0,             /* nb_multiply */",
   "    (binaryfunc)    0,             /* nb_remainder */",
   "    (binaryfunc)    0,             /* nb_divmod */",
   "    (ternaryfunc)   0,             /* nb_power */",
   "    (unaryfunc)     0,             /* nb_negative */",
   "    (unaryfunc)     0,             /* nb_positive */",
   "    (unaryfunc)     0,             /* nb_absolute */",
   s!"    (inquiry)       {truth},   /* nb_bool */",
   "    (unaryfunc)     0,             /* nb_invert */",
   "    (binaryfunc)    0,             /* nb_lshift */",
   "    (binaryfunc)    0,             /* nb_rshift */",
   "    (binaryfunc)    0,             /* nb_and */",
   "    (binaryfunc)    0,             /* nb_xor */",
   "    (binaryfunc)    0,             /* nb_or */",
   s!"    (unaryfunc)     {number},       /* nb_int */",
   "    (void *)        NULL,          /* nb_reserved */",
   "    (unaryfunc)     0,             /* nb_float */",
   "",
   "    (binaryfunc)    0,             /* nb_inplace_add */",
   "    (binaryfunc)    0,             /* nb_inplace_subtract */",
   "    (binaryfunc)    0,             /* nb_inplace_multiply */",
   "    (binaryfunc)    0,             /* nb_inplace_remainder */",
   "    (ternaryfunc)   0,             /* nb_inplace_power */",
   "    (binaryfunc)    0,             /* nb_inplace_lshift */",
   "    (binaryfunc)    0,             /* nb_inplace_rshift */",
   "    (binaryfunc)    0,             /* nb_inplace_and */",
   "    (binaryfunc)    0,             /* nb_inplace_xor */",
   "    (binaryfunc)    0,             /* nb_inplace_or */",
   "",
   "    (binaryfunc)    0,             /* nb_floor_divide */",
   "    (binaryfunc)    0,             /* nb_true_divide */",
   "    (binaryfunc)    0,             /* nb_inplace_floor_divide */",
   "    (binaryfunc)    0,             /* nb_inplace_true_divide */",
   "",
   "    (unaryfunc)     0,             /* nb_index */",
   "\x7d;",
   ""]

/-- Write a function of the operator table if there is one. Returns its name, or zero. -/
def writeOperator (cls suffix : String) (definition : Option String) : Act Binding String := do
  match definition with
  | some code =>
    emit code
    return s!"{cls}_{suffix}"
  | none => return "0"

/-- Write the operators of a class. Returns how the type object refers to them. -/
def writeNumbers (id : ClassId) : Act Binding String := do
  let name := (← get id).name
  let truthCode ← truthFunction id
  let truth ← writeOperator (name.getD "") "nonzero" truthCode
  let numberCode ← numberFunction id
  let number ← writeOperator (name.getD "") "int" numberCode
  let cls ← need name
  emitCode (numberTable cls truth number)
  return s!"&{cls}_as_number"

/-- What a type object refers to. -/
structure TypeSlots where
  name : String
  numbers : String
  text : String := "0"
  reader : String := "0"
  flags : String
  doc : String
  traverse : String := "0"
  clear : String := "0"
  compare : String := "0"
  iterator : String := "0"
  next : String := "0"
deriving Repr, Inhabited

/-- The slots of a type object in order: what each is for, and its value. -/
def TypeSlots.entries (cls : String) (s : TypeSlots) : List (String × String) :=
  [("tp_name", s!"\"{s.name}\""),
   ("tp_basicsize", s!"sizeof(py{cls})"),
   ("tp_itemsize", "0"),
   ("tp_dealloc", s!"(destructor) {cls}_dealloc"),
   ("tp_print", "0"),
   ("tp_getattr", "0"),
   ("tp_setattr", "0"),
   ("tp_compare", "0"),
   ("tp_repr", "0"),
   ("tp_as_number", s.numbers),
   ("tp_as_sequence", "0"),
   ("tp_as_mapping", "0"),
   ("tp_hash", "0"),
   ("tp_call", "0"),
   ("tp_str", s!"(reprfunc) {s.text}"),
   ("tp_getattro", s!"(getattrofunc) {s.reader}"),
   ("tp_setattro", "0"),
   ("tp_as_buffer", "0"),
   ("tp_flags", s.flags),
   ("tp_doc", s!"\"{s.doc}\""),
   ("tp_traverse", s.traverse),
   ("tp_clear", s.clear),
   ("tp_richcompare", s.compare),
   ("tp_weaklistoffset", "0"),
   ("tp_iter", s!"(getiterfunc) {s.iterator}"),
   ("tp_iternext", s!"(iternextfunc) {s.next}"),
   ("tp_methods", s!"{cls}_methods"),
   ("tp_members", "0"),
   ("tp_getset", s!"{cls}_get_set_definitions"),
   ("tp_base", "0"),
   ("tp_dict", "0"),
   ("tp_descr_get", "0"),
   ("tp_descr_set", "0"),
   ("tp_dictoffset", "0"),
   ("tp_init", s!"(initproc) py{cls}_init"),
   ("tp_alloc", "0"),
   ("tp_new", "0")]

/-- The code of a type object. -/
def TypeSlots.code (cls : String) (s : TypeSlots) : Code :=
  [s!"static PyTypeObject {cls}_Type = " ++ "\x7b", "    PyVarObject_HEAD_INIT(NULL, 0)"]
  ++ Code.indent ((s.entries cls).flatMap fun (slot, value) => [s!"/* {slot} */", s!"{value},"])
  ++ ["\x7d;", ""]

/-- Write the type object of a class. Enums cannot form cycles, so that the collector need not see
them. -/
def writeTypeObject (id : ClassId) : Act Binding Unit := do
  let c ← get id
  let doc := Doc.toLiteral c.doc
  let cls ← need c.name
  let numbers ← writeNumbers id
  let collected := c.kind != .enum
  let pick (modifier value : String) : String := if c.hasModifier modifier then value else "0"
  let slots : TypeSlots := {
    name := s!"{(← Act.state).name}.{cls}"
    numbers
    text := pick "TP_STR" s!"py{cls}___str__"
    reader := (c.attributes.map Method.name).getD "0"
    flags := "Py_TPFLAGS_DEFAULT | Py_TPFLAGS_BASETYPE"
      ++ (if collected then " | Py_TPFLAGS_HAVE_GC" else "")
    doc := s!"{cls}: {doc}"
    traverse := if collected then "(traverseproc) Gen_wrapper_traverse" else "0"
    clear := if collected then "(inquiry) Gen_wrapper_clear" else "0"
    compare := pick "TP_EQUAL" s!"{cls}_eq"
    iterator := if c.hasModifier "SELF_ITER" then s!"py{cls}___iter__"
      else pick "ITERATOR" "PyObject_SelfIter"
    next := pick "ITERATOR" s!"py{cls}_iternext" }
  emitCode (slots.code cls)

/-! ### Functions -/

/-- Define the functions of a class. -/
def writeFunctions (id : ClassId) : Act Binding Unit := do
  let c ← get id
  let some constructor := c.constructor
    | Act.fail (.refused s!"No constructor found for class {← need c.name}")
  constructor.writeDestructor
  Method.define ⟨id, .constructor⟩
  if c.attributes.isSome then
    Method.define ⟨id, .attributes⟩
  for ref in methodRefs id c do
    Method.define ref
    match (← Binding.method ref).proxy with
    | some p => p.writeDefinition
    | none => pure ()

/-- The code that registers a class when the module is loaded. Structs and enums need none. -/
def initialization (id : ClassId) : Act Binding String := do
  let c ← get id
  match c.kind with
  | .struct => return ""
  | .enum => return "\n"
  | .class_ =>
    let cls ← need c.name
    let install := s!"py{cls}_initialize_proxies"
    let installs := if (← Act.state).defined.contains install then
        [s!"python_wrappers[idx].initialize_proxies = (void (*)(Gen_wrapper, void *)) &{install};"]
      else []
    return (Code.scope (
      ["int idx = TOTAL_CCLASSES.load(std::memory_order_relaxed);",
       s!"python_wrappers[idx].class_ref = (Object)&__{cls};",
       s!"python_wrappers[idx].python_type = &{cls}_Type;"]
      ++ installs
      ++ ["(void) TOTAL_CCLASSES.fetch_add(1, std::memory_order_release);"])).render

end Class

end HeaderBind
