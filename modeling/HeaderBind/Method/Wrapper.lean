import HeaderBind.Binding.Basic
import HeaderBind.CType.Declare
import HeaderBind.Method.Declare

/-!
# Wrapper functions

The function that the wrapped language calls for a method: it reads the arguments, makes the call and
converts the results.
-/

namespace HeaderBind.Method

open Binding (emit emitCode need)

/-- The declaration of a method as its header has it, with the class in front of the name. -/
def comment (m : Method) : Act Binding String := do
  let s ← Binding.signatureOf m
  let args ← Act.lift (s.args.mapM CType.comment)
  let list := ", ".intercalate args
  let declared ← Act.lift s.returns.declaredText
  return s!"{declared} {← need m.className}.{m.name}({list});\n"

/-- The form of a method in the overview of a module. -/
def overview (m : Method) : Act Binding String := do
  let s ← Binding.signatureOf m
  if m.kind.isIterator then
    return s!"Iterator returning {s.returns.overview}."
  else
    let args := " , ".intercalate (s.args.map CType.overview)
    return s!"def {s.returns.overview} {m.name}({args}):"

/-! ### Prototypes -/

/-- The head of a wrapper function. -/
def head (m : Method) : Act Binding String := do
  let cls ← need m.className
  if m.kind.isConstructor then
    return s!"static int py{cls}_init(py{cls} *self, PyObject *args, PyObject *kwds)\n"
  else if m.kind.isIterator then
    return s!"static PyObject *py{cls}_{m.name}(py{cls} *self)"
  else
    return s!"static PyObject *py{cls}_{m.name}(py{cls} *self, PyObject *args, PyObject *kwds)"

/-- Announce a wrapper function, and for a constructor the function that installs the proxies. -/
def writePrototype (m : Method) : Act Binding Unit := do
  emit (← m.head)
  if m.kind == .constructor then
    let cls ← need m.className
    emit s!";\nstatic void py{cls}_initialize_proxies(py{cls} *self, void *item);\n"
  else
    emit ";\n"

/-! ### Errors -/

/-- What a wrapper function does at its error exit. -/
def errorCondition (m : Method) : Act Binding String := do
  if m.kind.isConstructor then
    return "    return -1;"
  let s ← Binding.signatureOf m
  let destroyed := if s.returns.has "DESTRUCTOR" then "self->base = NULL;\n" else ""
  -- A wrapper that was made before the error came up is released.
  let wrapper := if s.returns.kind.isWrapped then
      (Code.block s!"if(wrapped_{s.returns.name} != NULL)"
        [s!"Py_DecRef((PyObject *) wrapped_{s.returns.name});"]).indent.render
    else ""
  let cleanup := String.join (s.args.filterMap CType.errorCleanup)
  return destroyed ++ wrapper ++ cleanup ++ "    return NULL;\n"

/-! ### Arguments -/

/-- The name of an argument in the wrapped language, if it is passed in at all. -/
def keyword? (t : CType) : Option String :=
  match t.argumentName with
  | .text s => if s.isEmpty then none else some s
  | _ => none

/-- Whether an argument may be left out. -/
def isOptional (s : Signature) (t : CType) : Bool :=
  (keyword? t).any s.defaults.contains

/-- The names of the arguments: those that have to be given, then the others. -/
def keywords (s : Signature) : List String :=
  (s.args.filter fun t => !isOptional s t).filterMap keyword?
  ++ (s.args.filter (isOptional s)).filterMap keyword?

/-- The units of the format string in the order of the names. -/
def formatUnits (s : Signature) : List String × List String :=
  ((s.args.filter fun t => !isOptional s t).map fun t => t.kind.formatUnit,
   (s.args.filter (isOptional s)).map fun t => t.kind.formatUnit)

/-- The format string: a bar separates what may be left out. -/
def formatString (s : Signature) : String :=
  let (required, optional) := formatUnits s
  let optional := String.join optional
  String.join required ++ (if optional.isEmpty then "" else "|" ++ optional)

/-- The places that the arguments are read into, in the order of declaration. -/
def destinations (s : Signature) : Except Fault (List String) := do
  let places ← s.args.mapM CType.byReference
  return (places.filterMap id).filter (!·.isEmpty)

/-- The declaration of an argument with its default value. -/
def argumentDefinition (s : Signature) (t : CType) : Except Fault String :=
  match (keyword? t).bind s.defaults.get? with
  | some value => t.definition (some (.text value))
  | none => t.definition

/-- Declare the arguments and read them. Iterators take none. -/
def writeLocals (ref : MethodRef) : Act Binding Unit := do
  readNotes ref
  let m ← Binding.method ref
  let s ← Binding.signatureOf m
  for t in s.args do
    emit s!"    // DEBUG: local arg type: {t.kind.label}\n"
    emit (← Act.lift (argumentDefinition s t))
  if !CType.occursIn "iternext".toList m.name.toList then
    let names := String.join ((keywords s).map fun k => s!"\"{k}\", ")
    emit "\n"
    emit ("    const char *kwlist[] = \x7b" ++ names ++ " NULL\x7d;\n")
    emit s!"\n    if(!PyArg_ParseTupleAndKeywords(args, kwds, \"{formatString s}\", "
    let places ← Act.lift (destinations s)
    emit (", ".intercalate ("(char **) kwlist" :: places))
    Binding.modifyMethod ref fun m => { m with errorSet := true }
    emit (")) \x7b\n        " ++ Code.jump ++ "\n    \x7d\n")

/-- The operands of a call after the object. An enum is cast to its type. -/
def operands (s : Signature) : Except Fault String := do
  let parts ← s.args.mapM fun t => do
    let operand ← t.callArgument
    return if t.kind == .enumeration then s!", ({t.type}) {operand}" else s!", {operand}"
  return String.join parts

/-- Write what precedes a call for each argument. -/
def writeBeforeCall (ref : MethodRef) (count : Nat) (keeper : Nat → Datum) : Act Binding Unit := do
  for i in List.range count do
    emit (← Binding.atArgument ref i (CType.beforeCall (keeper i)))

/-! ### Results -/

/-- Convert the values that a call handed out through arguments, after the results so far. -/
def outResults : List String → List CType → Except Fault (List String)
  | results, [] => .ok results
  | results, t :: rest =>
    if t.sense == "OUT_DONE" then do
      let left ← t.joinResults results
      outResults (left ++ [← t.toObject]) rest
    else
      outResults results rest

/-- The conversions of all results of a call. No value does not count beside others. -/
def results (s : Signature) : Except Fault (List String) := do
  let all ← outResults [← s.returns.toObject] s.args
  return if s.returns.kind.isVoid && all.length > 1 then all.drop 1 else all

/-- Return the results: several ones as a list. -/
def returnResults : List String → String
  | [] => ""
  | [result] => result ++ "    returned_result = Py_result;\n    return returned_result;\n"
  | several =>
    "returned_result = PyList_New(0);\n"
    ++ String.join (several.map fun result =>
      result ++ "PyList_Append(returned_result, Py_result);\nPy_DecRef(Py_result);\n")
    ++ "return returned_result;\n"

/-- Check after a call; a check that was written before is not repeated. -/
def checksAfterCall (s : Signature) : List String :=
  ((s.returns :: s.args).map CType.afterCall).foldl
    (fun seen check => if seen.contains check then seen else seen ++ [check]) []

/-! ### Definitions -/

/-- The comment above a wrapper function. -/
def banner (title comment : String) : String :=
  let line := "********************************************************"
  s!"\n/{line}\n{title}\n{comment}{line}/\n"

/-- A check that there is an object to call. -/
def baseGuard (cls : String) : Code :=
  Code.indent (["// Make sure that we have something valid to wrap"]
    ++ Code.block "if(self->base == NULL)"
      [s!"return PyErr_Format(PyExc_RuntimeError, \"{cls} object no longer valid\");"])

/-- The start of a call: a check that there is a function to call. -/
def callGuard (cls definition name : String) : Code :=
  Code.indent (["// Check the function is implemented", "\x7b"]
    ++ Code.indent (
      [s!"void *method = (void *) (({definition}) self->base)->{name};",
       ""]
      ++ Code.block "if(method == NULL || (void *) unimplemented == (void *) method)"
        [s!"PyErr_Format(PyExc_RuntimeError, \"{cls}.{name} is not implemented\");",
         Code.jump]
      ++ ["",
          "// Make the call",
          "ClearError();"]))

/-- Write the comment above a wrapper function. -/
def writeBanner (m : Method) (title : String) : Act Binding Unit := do
  emit (banner title (← m.comment))

/-- Write a wrapper function up to its call: declarations, arguments, and what precedes the call. -/
def writeOpening (ref : MethodRef) (m : Method) : Act Binding Unit := do
  emit (← m.head)
  let s ← Binding.signatureOf m
  emit ("\x7b\n"
    ++ (Code.indent ["PyObject *returned_result = NULL;", "PyObject *Py_result = NULL;", "",
      s!"// DEBUG: return type: {s.returns.kind.label}"]).render
    ++ "    ")
  emit (← Act.lift s.returns.definition)
  writeLocals ref
  emit ("\n" ++ (baseGuard (← need m.className)).render ++ "\n")
  emit "    // Precall preparations\n"
  emit (← Binding.atResult ref CType.beforeCall)
  writeBeforeCall ref s.args.length fun _ => .number 1

/-- Write the call of a wrapper function, and what it raises when the result is as announced. -/
def writeMadeCall (ref : MethodRef) (m : Method) : Act Binding Unit := do
  let definition ← need m.definitionClass
  emitCode (callGuard (← need m.className) definition m.name)
  let base := s!"(({definition}) self->base)"
  let s ← Binding.signatureOf m
  let call := s!"        {base}->{m.name}({base}{← Act.lift (operands s)})"
  let settings := (← Act.state).settings
  emit (← Binding.atResult ref (CType.assign settings (.text call) .nothing false))
  match (← Binding.method ref).exception with
  | some r => emitCode r.code
  | none => pure ()
  Binding.modifyMethod ref fun m => { m with errorSet := true }
  emit "    \x7d;\n\n    // Postcall preparations\n"

/-- Write the checks after a call and its results. -/
def writeOutcome (m : Method) : Act Binding Unit := do
  let s ← Binding.signatureOf m
  for check in checksAfterCall s do
    emit ("    " ++ check)
  let all ← Act.lift (results s)
  emit "\n    // prepare results\n"
  emit (returnResults all)

/-- Write the wrapper function of a method. -/
def writeCallFunction (ref : MethodRef) : Act Binding Unit := do
  let m ← Binding.method ref
  writeOpening ref m
  writeMadeCall ref m
  m.writeOutcome
  emit ("\n" ++ Code.errorLabel ++ ":\n")
  emit (← m.errorCondition)
  emit "\x7d;\n\n"

/-- Define the wrapper function of a method. -/
def writeCall (ref : MethodRef) : Act Binding Unit := do
  (← Binding.method ref).writeBanner "Autogenerated wrapper for function:"
  writeCallFunction ref

/-- Write the function that makes an object its own iterator. -/
def writeIterFunction (m : Method) : Act Binding Unit := do
  emit (← m.head)
  let cls ← need m.className
  let base := s!"(({cls}) self->base)"
  emitCode (Code.scope (
    Code.block "if(self->base == NULL)"
      ["return PyErr_Format(PyExc_RuntimeError,",
       s!"    \"{cls}.{m.name}: object is not bound to any libtsk handle\");"]
    ++ [s!"{base}->{m.name}(({cls}) self->base);",
        "return PyObject_SelfIter((PyObject *) self);"]))

/-- Define the function that makes an object its own iterator. -/
def writeSelfIterator (m : Method) : Act Binding Unit := do
  m.writeBanner " * Autogenerated wrapper for function:"
  m.writeIterFunction

/-- The entry of a method in the method table of its class. Iterators are linked in elsewhere. -/
def writeTableEntry (m : Method) : Act Binding Unit := do
  if m.kind.isIterator then
    return
  let doc := Doc.toLiteral ((← m.comment) ++ "\n\n" ++ Text.strip m.doc)
  let cls ← need m.className
  emit ("    \x7b " ++ s!"\"{m.name}\",\n      (PyCFunction) py{cls}_{m.name},\n"
    ++ s!"      METH_VARARGS|METH_KEYWORDS,\n      \"{doc}\" " ++ "\x7d,\n\n")

end HeaderBind.Method
