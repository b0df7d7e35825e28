import HeaderBind.Binding.Support
import HeaderBind.Class.Write

/-!
# Writing the module

The complete code of a module: an overview, the support code, the classes, and the function that
loads the module.
-/

namespace HeaderBind.Binding

/-- The version of the generated modules. -/
def version : String := "20260715"

/-! ### Orders -/

/-- Whether a constant comes before another one: by name, then by type. -/
def constantLe (a b : String × String) : Bool :=
  if a.1 == b.1 then a.2 ≤ b.2 else a.1 ≤ b.1

/-- The constants in order. -/
def sortedConstants (constants : List (String × String)) : List (String × String) :=
  constants.mergeSort constantLe

/-- Numbers of classes with their names, in the order of the names. -/
def sortedByName (named : List (String × ClassId)) : List ClassId :=
  (named.mergeSort fun a b => a.1 ≤ b.1).map Prod.snd

/-- The numbers of the current classes, in the order of their declaration. -/
def classIds : Act Binding (List ClassId) := do
  return (← Act.state).index.values

/-- The numbers of the current classes, in the order of their names. Classes can only be compared by
names that are known. -/
def sortedClassIds : Act Binding (List ClassId) := do
  let b ← Act.state
  let ids := b.index.values
  match ids with
  | [id] => return [id]
  | _ =>
    let named ← ids.mapM fun id => do return ((← need (b.classAt id).name), id)
    return sortedByName named

/-! ### Declarations -/

/-- Add a constant. -/
def addConstant (name : String) (type : String := "numeric") (b : Binding) : Binding :=
  { b with constants := b.constants.insert (name, type) }

/-! ### Overview -/

/-- Join the texts that an action gives for the active classes among some. -/
def overActive (ids : List ClassId) (act : ClassId → Act Binding String) : Act Binding String := do
  let texts ← ids.mapM fun id => do
    if ← Class.isActive id then act id else return ""
  return String.join texts

/-- The overview of a module: its active classes and its constants. -/
def overview : Act Binding String := do
  let classes ← overActive (← sortedClassIds) fun id => do
    return s!"    {← Class.overview id}\n"
  let b ← Act.state
  let constants := (sortedConstants b.constants).map fun (name, _) => s!" {name}\n"
  return s!"Module {b.name}\n" ++ classes ++ "Constants:\n" ++ String.join constants

/-! ### Loading the module -/

/-- The code that makes a type ready. An enum fills its type first. -/
def typeReady (cls : String) (kind : ClassKind) : Code :=
  ["",
   s!"    /* Initialize: {cls} */",
   s!"    {cls}_Type.tp_new = PyType_GenericNew;"]
  ++ Code.indent (
    (if kind == .enum then
      Code.block s!"if ({cls}_init_type(&{cls}_Type) != 1)" [Code.jump] else [])
    ++ Code.block s!"if (PyType_Ready(&{cls}_Type) < 0)" [Code.jump]
    ++ Code.block s!"if (PyModule_AddType(module, &{cls}_Type) < 0)" [Code.jump])

/-- Whether code is written for the base of a class. -/
def hasActiveBase (c : ClassDef) : Act Binding Bool := do
  match (← Act.state).index.get? c.baseName with
  | some base => Class.isActive base
  | none => return false

/-- Write the code that makes the type of a class ready, after that of its base. Returns the names
that are done. The fuel bounds the length of a chain of bases, which is at most the number of
classes, since no class is done twice. -/
def initializeClass : Nat → Option String → List (Option String) →
    Act Binding (List (Option String))
  | 0, _, done => return done
  | fuel + 1, name, done => do
    if done.contains name then
      return done
    let done := done ++ [name]
    let id ← findClass name
    if !(← Class.isActive id) then
      return done
    let c := (← Act.state).classAt id
    if !(← hasActiveBase c) then
      emitCode (typeReady (← need name) c.kind)
      return done
    let done ← initializeClass fuel c.baseName done
    emit s!"    {← need name}_Type.tp_base = &{← need c.baseName}_Type;"
    emitCode (typeReady (← need name) c.kind)
    return done

/-- A bound on the length of a chain of bases. -/
def chainBound (b : Binding) : Nat :=
  b.index.entries.length + 1

/-- Write the code that makes all types ready, in the order of their declaration unless a base comes
first. No chain of bases is longer than the bound. -/
def initializeWithin (bound : Nat) : Act Binding Unit := do
  let b ← Act.state
  let _ ← b.index.keys.foldlM (fun done name => initializeClass bound name done) []

/-- Write the code that makes all types ready. -/
def initializeClasses : Act Binding Unit := do
  initializeWithin (chainBound (← Act.state))

/-- The code that registers the active classes when the module is loaded. -/
def initialization : Act Binding String := do
  let b ← Act.state
  let start := b.initText ++ Code.render
    ["",
     "talloc_set_log_fn((void (*)(const char *)) printf);",
     "// DEBUG: talloc_enable_leak_report();",
     "// DEBUG: talloc_enable_leak_report_full();"]
  return start ++ (← overActive b.index.values Class.initialization)

/-- The support code, with room for all classes. -/
def supportCode (b : Binding) : String :=
  Support.code (b.index.entries.length + 1) b.settings.errorFunction

/-- The code that sets a constant. Of other types than integers and texts only a remark is left. -/
def constantCode (name type : String) : Code :=
  let set := [s!"PyDict_SetItemString(d, \"{name}\", tmp);", "Py_DecRef(tmp);"]
  Code.indent <|
    if type == "integer" then
      s!"tmp = PyLong_FromUnsignedLongLong((uint64_t) {name});" :: set
    else if type == "string" then
      let maker := if name == "TSK_VERSION_STR" then "PyUnicode_FromString" else "PyBytes_FromString"
      s!"tmp = {maker}((char *){name});" :: set
    else
      [s!"/* I don't know how to convert {name} type {type} */"]

/-- The definition of the module, and the start of the function that loads it. -/
def moduleStart (name : String) : Code :=
  [s!"/* Retrieves the {name} version",
   " * Returns a Python object if successful or NULL on error",
   " */"]
  ++ Code.block s!"PyObject *{name}_get_version(PyObject *self, PyObject *arguments)"
    ["const char *errors = NULL;",
     s!"return(PyUnicode_DecodeUTF8(\"{version}\", (Py_ssize_t) {version.length}, errors));"]
  ++ ["",
      s!"static PyMethodDef {name}_module_methods[] = " ++ "\x7b",
      "    \x7b \"get_version\",",
      s!"        (PyCFunction) {name}_get_version,",
      "        METH_NOARGS,",
      "        \"get_version() -> String\\n\"",
      "        \"\\n\"",
      "        \"Retrieves the version.\" \x7d,",
      "",
      "    \x7bNULL, NULL, 0, NULL\x7d  /* Sentinel */",
      "\x7d;",
      "",
      "",
      s!"/* The {name} module definition",
      " */",
      s!"PyModuleDef {name}_module_definition = " ++ "\x7b",
      "\tPyModuleDef_HEAD_INIT,",
      "",
      "\t/* m_name */",
      s!"\t\"{name}\",",
      "\t/* m_doc */",
      s!"\t\"Python {name} module.\",",
      "\t/* m_size */",
      "\t-1,",
      "\t/* m_methods */",
      s!"\t{name}_module_methods,",
      "\t/* m_reload */",
      "\tNULL,",
      "\t/* m_traverse */",
      "\tNULL,",
      "\t/* m_clear */",
      "\tNULL,",
      "\t/* m_free */",
      "\tNULL,",
      "\x7d;",
      "",
      "",
      s!"/* Initializes the {name} module",
      " */",
      s!"PyObject * PyInit_{name}(void) " ++ "\x7b"]
  ++ Code.indent (
    ["PyGILState_STATE gil_state;",
     "",
     "PyObject *module = NULL;",
     "PyObject *d = NULL;",
     "PyObject *tmp = NULL;",
     "",
     "/* Create the module",
     " * This function must be called before grabbing the GIL",
     " * otherwise the module will segfault on a version mismatch",
     " */",
     "module = PyModule_Create(",
     s!"    &{name}_module_definition );"]
    ++ Code.block "if (module == NULL)" ["return(NULL);"])
  ++ ["",
      "#ifdef Py_GIL_DISABLED"]
  ++ Code.indent (
    ["/* Declare this module safe for free-threaded Python. Without this call, CPython",
     " * force-enables the GIL for our module at import time on free-threaded builds,",
     " * which would serialize every pytsk3 call and defeat the point of free-threading.",
     " * The symbol is only declared when Py_GIL_DISABLED is set.",
     " */"]
    ++ Code.block "if( PyUnstable_Module_SetGIL(module, Py_MOD_GIL_NOT_USED) != 0)"
      ["Py_DecRef(module);", "return(NULL);"])
  ++ ["#endif",
      ""]
  ++ Code.indent
    ["d = PyModule_GetDict(module);",
     "",
     "gil_state = PyGILState_Ensure();",
     "",
     "/* Relaxed: per-class registration's release fetch_add",
     " * carries the happens-before for any acquire-load reader.",
     " */",
     "TOTAL_CCLASSES.store(0, std::memory_order_relaxed);"]

/-- The end of the function that loads the module. -/
def moduleEnd : Code :=
  ["    PyGILState_Release(gil_state);",
   "",
   "\treturn module;",
   "",
   Code.errorLabel ++ ":",
   "\tPyGILState_Release(gil_state);",
   "",
   "   Py_DecRef(module);",
   "",
   "\treturn NULL;",
   "\x7d",
   "",
   "#ifdef __cplusplus",
   "\x7d",
   "#endif"]

/-! ### The whole module -/

/-- The comment at the top of the module. -/
def moduleBanner (name : String) (files : List String) (overview : String) : String :=
  Code.render
    (["/*************************************************************",
      s!" * Autogenerated module {name}",
      " *",
      " * This module was autogenerated from the following files:"]
    ++ files.map (fun file => s!" * {file}")
    ++ [" *",
        " * This module implements the following classes:"])
  ++ overview
  ++ " ************************************************************/\n\n"

/-- The start of the public interface. -/
def publicStart : Code :=
  ["#ifdef BUILDING_DLL",
   "#include \"misc.h\"",
   "#else",
   "#include \"aff4_public.h\"",
   "#endif"]

/-- Write the start of the public interface, where one is asked for. -/
def writePublic : Act Binding Unit :=
  Act.update fun b => { b with publicText := b.publicText.map (· ++ publicStart.render) }

/-- Run an action for every class that is active when its turn comes. -/
def forActive (act : ClassId → Act Binding Unit) : Act Binding Unit := do
  for id in ← classIds do
    if ← Class.isActive id then
      act id

/-- Write what comes before the functions of the classes: what the module includes, the support code, and
the layouts, the announcements and the tables of the classes. -/
def writeStart : Act Binding Unit := do
  writePublic
  for id in ← classIds do
    Class.prepare id
  let text ← overview
  let b ← Act.state
  emit (moduleBanner b.name b.files text)
  emit b.includes
  emitCode
    ["",
     "#ifdef __cplusplus",
     "#include <atomic>",
     "extern \"C\" \x7b",
     "#endif",
     "",
     "#include <Python.h>"]
  emit b.supportCode
  forActive fun id => do
    let cls ← need ((← Act.state).classAt id).name
    emit s!"/******************** {cls} ***********************/"
    Class.writeLayout id
    Class.writePrototypes id
  emitCode
    ["/*****************************************************",
     " *           Implementation",
     " ****************************************************/",
     ""]
  forActive fun id => do
    Class.writeMethodTable id
    Class.writeAttributeTable id
    Class.writeTypeObject id

/-- Write the function that loads the module. -/
def writeLoading : Act Binding Unit := do
  emitCode (moduleStart (← Act.state).name)
  initializeClasses
  for (name, type) in sortedConstants (← Act.state).constants do
    emitCode (constantCode name type)
  emit (← initialization)
  emitCode moduleEnd

/-- Write the code of the module. -/
def write : Act Binding Unit := do
  writeStart
  forActive Class.writeFunctions
  writeLoading

end HeaderBind.Binding
