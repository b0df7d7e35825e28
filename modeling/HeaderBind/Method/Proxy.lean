import HeaderBind.Method.Wrapper

/-!
# Proxy functions

The function through which the library calls a method that the wrapped language overrides: it
converts the arguments to objects, calls the method of the object and converts the result back.
-/

namespace HeaderBind.Proxy

open Binding (emit emitCode need)

/-- The signature of the method behind a proxy. -/
def signatureOf (p : Proxy) : Act Binding Signature := do
  return (← Act.state).signatureAt p.signature

/-- The name of the proxy function: it belongs to the class that declared the method first. -/
def functionName (p : Proxy) : Act Binding String := do
  let owner := (← Act.state).classAt p.owner
  return s!"Proxied{← need owner.name}_{p.name}"

/-- Write the head of the proxy function. -/
def writeHead (p : Proxy) : Act Binding Unit := do
  let s ← p.signatureOf
  let name ← p.functionName
  emit s!"static {Text.strip s.returns.type} {name}({← need p.definitionClass} self"
  for t in s.args do
    let parameter := Text.strip (← Act.lift t.comment)
    if !parameter.isEmpty then
      emit s!", {parameter}"
  emit ")"

/-- Announce the proxy function. -/
def writePrototype (p : Proxy) : Act Binding Unit := do
  p.writeHead
  emit ";\n"

/-- What the proxy function does at its error exit: it returns the error value of the result. -/
def errorCondition (p : Proxy) : Act Binding String := do
  let s ← p.signatureOf
  return s.returns.errorValue.replace "\x7bresult:s\x7d" "func_return"

/-- Release an object if there is one. -/
def release (object : String) : Code :=
  Code.indent (Code.block s!"if({object} != NULL)" [s!"Py_DecRef({object});"])

/-- Release the objects of the arguments. -/
def releaseArguments (s : Signature) : Code :=
  s.args.flatMap fun t => release s!"py_{t.name}"

/-- Keep the object that was returned alive until the next call, since the library goes on to use
what it wraps. -/
def keepResult : Code :=
  ["    if(Py_result != NULL) \x7b",
   "        PyObject *extension = (PyObject *) ((Object) self)->extension;",
   "        PyObject *old = NULL;",
   "#if PY_VERSION_HEX >= 0x030D0000",
   "        Py_BEGIN_CRITICAL_SECTION(extension);",
   "#endif",
   "        old = ((Gen_wrapper) extension)->python_object2;",
   "        ((Gen_wrapper) extension)->python_object2 = Py_result;",
   "#if PY_VERSION_HEX >= 0x030D0000",
   "        Py_END_CRITICAL_SECTION();",
   "#endif",
   "        if(old != NULL) Py_DecRef(old);",
   "        Py_result = NULL;",
   "    \x7d"]

/-- Write what the proxy function declares, and the name of the method as an object. -/
def writeStart (p : Proxy) (s : Signature) : Act Binding Unit := do
  emit (" \x7b\n" ++ (Code.indent ["PyGILState_STATE gil_state;", "PyObject *Py_result = NULL;",
    "PyObject *method_name = NULL;"]).render)
  emit (← Act.lift s.returns.returnedDefinition)
  for t in s.args do
    emit t.localDefinition
    emit s!"PyObject *py_{t.name} = NULL;\n"
  emitCode (Code.indent (
    ["",
     "// Grab the GIL so we can do Python stuff",
     "gil_state = PyGILState_Ensure();",
     "",
     s!"method_name = PyUnicode_FromString(\"{p.name}\");",
     "/* PyUnicode_FromString sets MemoryError on failure;",
     " * propagate via the proxied error machinery rather than",
     " * passing NULL to PyObject_CallMethodObjArgs (which would",
     " * raise SystemError and lose the original cause).",
     " */"]
    ++ Code.block "if(method_name == NULL)" ["pytsk_fetch_error();", Code.jump])
    ++ ["", "// Obtain Python objects for all the args:"])

/-- Write the objects of the arguments and the call of the method. -/
def writeCallback (p : Proxy) (s : Signature) : Act Binding Unit := do
  for t in s.args do
    emit (← Act.lift (t.toObject {
      result := .text s!"py_{t.name}", sense := .text "proxied", borrowed := true }))
  let owner ← need ((← Act.state).classAt p.owner).name
  emitCode (Code.indent (
    Code.block "if(((Object) self)->extension == NULL)"
      [s!"RaiseError(ERuntimeError, \"No proxied object in {owner}\");", Code.jump]
    ++ ["", "// Now call the method"]))
  emit ("    Py_result = PyObject_CallMethodObjArgs((PyObject *) "
    ++ "((Object) self)->extension, method_name, ")
  for t in s.args do
    emit s!"py_{t.name},"
  emit "NULL);\n\n"
  emitCode (Code.indent (
    ["/* Check for Python errors */"]
    ++ Code.block "if(PyErr_Occurred())" ["pytsk_fetch_error();", "", Code.jump]
    ++ [""]))

/-- Write what the proxy function returns, and what it releases before. -/
def writeReturn (s : Signature) : Act Binding Unit := do
  for t in s.args do
    emit (← Act.lift (t.afterProxyCall (.text "Py_result")))
  let (result, _) ← Act.onValue (⟨s.returns, true⟩ : CType.Site)
    (CType.fromObject (.text "Py_result") (.text s.returns.name) (.text "self"))
  emit ("    " ++ (← Act.lift result))
  if s.returns.kind == .object || s.returns.kind == .objectPointer then
    emitCode keepResult
  else
    emitCode (release "Py_result")
  emit "    Py_DecRef(method_name);\n\n"
  emitCode (releaseArguments s)
  let back := s.returns.returnValue "func_return"
  emit s!"    PyGILState_Release(gil_state);\n\n    {back}\n"

/-- Write the error exit of the proxy function. -/
def writeErrorExit (p : Proxy) (s : Signature) : Act Binding Unit := do
  emit ("\n" ++ Code.errorLabel ++ ":\n")
  emitCode (release "Py_result")
  emit "    Py_DecRef(method_name);\n\n"
  emitCode (releaseArguments s)
  emit s!"    PyGILState_Release(gil_state);\n\n    {← p.errorCondition}\n"
  emit "\x7d\n\n"

/-- Write the body of the proxy function. -/
def writeBody (p : Proxy) : Act Binding Unit := do
  let s ← p.signatureOf
  p.writeStart s
  p.writeCallback s
  writeReturn s
  p.writeErrorExit s

/-- Define the proxy function, unless it was defined before. -/
def writeDefinition (p : Proxy) : Act Binding Unit := do
  let name ← p.functionName
  if (← Act.state).defined.contains name then
    return
  Act.update fun b => { b with defined := b.defined.insert name }
  p.writeHead
  p.writeBody

end HeaderBind.Proxy
