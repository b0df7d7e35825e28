import HeaderBind.Method.Wrapper

/-!
# Reading attributes

The function that reads an attribute by its name, and one function for each attribute that is
exposed.
-/

namespace HeaderBind.Method

open Binding (emit emitCode need)

/-- The members that are exposed: those of an active type, and those of a struct that a header asks
for. -/
def exposedMembers (m : Method) : Act Binding (List (MemberId × Member)) := do
  let b ← Act.state
  return (m.members.map fun id => (id, b.memberAt id)).filter fun (_, x) =>
    b.registry.isActive (some x.ctype.type) || b.activeStructs.contains x.ctype.type

/-- The form of the attributes in the overview of a module. -/
def attributeOverview (m : Method) : Act Binding String := do
  let exposed ← m.exposedMembers
  return String.join (exposed.map fun (_, x) => s!"    {x.ctype.overview}\n")

/-- Announce the functions that read attributes. -/
def writeReaderPrototypes (m : Method) : Act Binding Unit := do
  if m.name.isEmpty then
    return
  let cls ← need m.className
  emit s!"static PyObject *{m.name}(py{cls} *self, PyObject *name);\n"
  for (_, x) in ← m.exposedMembers do
    emit (s!"PyObject *py{cls}_{x.ctype.name}_getter(py{cls} *self, "
      ++ "PyObject *arguments);\n")

/-- The entries of the attributes in the attribute table of the class. -/
def writeAttributeTable (m : Method) : Act Binding Unit := do
  for (_, x) in ← m.exposedMembers do
    let name := x.ctype.name
    let doc := Doc.toLiteral s!"{name}."
    let cls ← need m.className
    emit ("    \x7b " ++ s!"\"{name}\",\n      (getter) py{cls}_{name}_getter,\n"
      ++ s!"      (setter) 0,\n      \"{doc}\",\n      NULL " ++ "\x7d,\n\n")

/-- Release the name of the attribute. -/
def releaseName : Code :=
  Code.block "if( utf8_string_object != NULL )" ["Py_DecRef(utf8_string_object);"]

/-- Add a text object to the list of attribute names. -/
def appendName : Code :=
  Code.block "if(string_object == NULL)" ["Py_DecRef(list_object);", Code.jump]
  ++ Code.block "if(PyList_Append(list_object, string_object) < 0)"
    ["Py_DecRef(string_object);", "Py_DecRef(list_object);", Code.jump]
  ++ ["Py_DecRef(string_object);"]

/-- Write the part that lists the names of all attributes and methods. -/
def writeBuiltIns (m : Method) : Act Binding Unit := do
  emitCode (Code.indent (
    ["if(strcmp(name, \"__members__\") == 0) \x7b"]
    ++ Code.indent (
      ["PyMethodDef *i = NULL;",
       "PyObject *list_object = NULL;",
       "PyObject *string_object = NULL;",
       "",
       "list_object = PyList_New(0);"]
      ++ Code.jumpIf "list_object == NULL")))
  for (_, x) in ← m.exposedMembers do
    emitCode ([""] ++ Code.shift 8 (
      [s!"string_object = PyUnicode_FromString(\"{x.ctype.name}\");"] ++ appendName))
  let cls ← need m.className
  emitCode (["", ""] ++ Code.indent (
    Code.indent (
      Code.block s!"for(i = {cls}_methods; i->ml_name; i++)"
        (["string_object = PyUnicode_FromString(i->ml_name);"] ++ appendName)
      ++ releaseName
      ++ ["return list_object;"])
    ++ ["\x7d"]))

/-- The start of the function that reads an attribute: the wrapped language is asked first. -/
def readerStart (cls name : String) : Code :=
  [s!"static PyObject *py{cls}_getattr(py{cls} *self, PyObject *pyname) " ++ "\x7b"]
  ++ Code.indent (
    ["PyObject *result = NULL;",
     "char *name = NULL;",
     "",
     "PyObject *utf8_string_object  = NULL;",
     "",
     "// Try to hand it off to the Python native handler first",
     "result = PyObject_GenericGetAttr((PyObject*) self, pyname);",
     ""]
    ++ Code.block "if(result)" ["return result;"]
    ++ ["",
        "PyErr_Clear();",
        "// No - nothing interesting was found by python",
        "utf8_string_object = PyUnicode_AsUTF8String(pyname);",
        ""]
    ++ Code.block "if(utf8_string_object != NULL)" ["name = PyBytes_AsString(utf8_string_object);"]
    ++ [""]
    ++ Code.block "if(!self->base)" (
      releaseName
      ++ [s!"return PyErr_Format(PyExc_RuntimeError, \"Wrapped object ({cls}.{name}) "
            ++ "no longer valid\");"])
    ++ Code.jumpIf "!name")

/-- Release the name of the attribute, with the braces of this place written twice. -/
def releaseNameTwice : Code :=
  ["    if( utf8_string_object != NULL ) \x7b\x7b",
   "        Py_DecRef(utf8_string_object);",
   "    \x7d\x7d"]

/-- The function that reads one attribute through a cast to the class of the reader. -/
def getterCode (cls name define assign convert : String) : Code :=
  [s!"PyObject *py{cls}_{name}_getter(py{cls} *self, PyObject *arguments) " ++ "\x7b",
   "    PyObject *Py_result = NULL;",
   define,
   ""]
  ++ Code.indent (Code.block "if(self->base == NULL)"
    ["return PyErr_Format(PyExc_RuntimeError,",
     s!"    \"{cls}.{name}: object is not bound \"",
     "    \"to any libtsk handle (was it instantiated \"",
     "    \"directly?)\");"])
  ++ ["",
      assign,
      convert,
      "",
      "    return Py_result;",
      ""]

/-- The operand that reads a member of the object. Structs are read directly. -/
def memberOperand (m : Method) (cls name : String) : String :=
  if (m.baseName.getD "").isEmpty then s!"(self->base->{name})"
  else s!"((({cls}) self->base)->{name})"

/-- Define the function that reads one attribute. -/
def writeGetter (ref : MethodRef) (id : MemberId) : Act Binding Unit := do
  let m ← Binding.method ref
  let b ← Act.state
  let cls ← need m.className
  let x := b.memberAt id
  let name := x.ctype.name
  let convert ← Act.lift x.ctype.toObject
  let assign ← Binding.atMember ref id
    (CType.assign b.settings (.text (m.memberOperand cls name)) .nothing true)
  let t := ((← Act.state).memberAt id).ctype
  let define ← Act.lift (t.definition none (.text "OUT"))
  emitCode (getterCode cls name define assign convert)
  -- Strings are the only attributes whose conversion uses the error exit.
  if t.kind.isString then
    emit (Code.errorLabel ++ s!":\n    {t.errorValue}\n")
  emit "\x7d\n\n"

/-- Define the functions that read the attributes. -/
def writeGetters (ref : MethodRef) : Act Binding Unit := do
  for (id, _) in ← (← Binding.method ref).exposedMembers do
    writeGetter ref id

/-- Write the function that reads an attribute by its name. -/
def writeLookup (ref : MethodRef) : Act Binding Unit := do
  let m ← Binding.method ref
  let cls ← need m.className
  emitCode (readerStart cls m.name)
  m.writeBuiltIns
  emitCode ([""] ++ releaseNameTwice
    ++ ["    return PyObject_GenericGetAttr((PyObject *) self, pyname);"])
  if m.errorSet then
    let label := [Code.errorLabel ++ ":"]
    emit (Code.render (label ++ releaseNameTwice) ++ (← m.errorCondition))
  emit "\x7d\n\n"

/-- Define the function that reads an attribute by its name, and those that read one attribute. -/
def writeReader (ref : MethodRef) : Act Binding Unit := do
  if (← Binding.method ref).name.isEmpty then
    return
  writeLookup ref
  writeGetters ref

end HeaderBind.Method
