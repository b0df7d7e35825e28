import HeaderBind.Method.Proxy

/-!
# Constructors

The function that makes a new object: it reads the arguments, allocates an object of the library,
installs proxies for the methods that are overridden and calls the constructor of the library. Its
counterpart releases the object.
-/

namespace HeaderBind.Method

open Binding (emit emitCode need)

/-- Drop a reference that an object holds in one of its fields. -/
def dropField (field : String) : Code :=
  Code.block s!"if(self->{field} != NULL)"
    [s!"Py_DecRef(self->{field});", s!"self->{field} = NULL;"]

/-- The name of the proxy of a method that has been announced. -/
def proxyName (m : Method) : Act Binding String := do
  match m.proxy with
  | some p => p.functionName
  | none => Act.fail .noSuchPart

/-- Whether proxies of the method are installed: never of methods that start with an underscore, nor of the
method that closes an object. -/
def isInstalled (m : Method) : Bool :=
  !m.name.startsWith "_" && m.name != "close"

/-- What a function that installs proxies does first. -/
def keepObject (cls : String) : Code :=
  Code.indent
    [s!"{cls} target = ({cls}) item;",
     "",
     "/* Maintain a reference to the Python object",
     " * in the C object extension",
     " */",
     "((Object) item)->extension = self;",
     ""]

/-- Install the proxy of a method that is overridden. -/
def installProxy (cls definition name proxy : String) : Code :=
  Code.indent (
    Code.block (s!"if(check_method_override((PyObject *) self, "
        ++ s!"&{cls}_Type, \"{name}\"))")
      [s!"// Proxy the {name} method",
       s!"(({definition}) target)->{name} = {proxy};"])

/-- Define the function that installs proxies for the methods of the class. -/
def writeInitializeProxies (m : Method) : Act Binding Unit := do
  let cls ← need m.className
  Act.update fun b => { b with defined := b.defined.insert s!"py{cls}_initialize_proxies" }
  emit (s!"static void py{cls}_initialize_proxies(py{cls} *self, void *item) " ++ "\x7b\n")
  emitCode (keepObject cls)
  let id ← Binding.findClass m.className
  for method in ((← Act.state).classAt id).methods do
    if method.unfinished then
      Act.fail .noSuchPart
    if method.isInstalled then
      let proxy ← method.proxyName
      let cls ← need method.className
      let definition ← need method.definitionClass
      emitCode (installProxy cls definition method.name proxy)
  emit "\x7d\n\n"

/-- Release what an earlier run of the constructor left, and remember how proxies are installed. -/
def resetObject (cls : String) : Code :=
  Code.indent (
    ["/* Release any state from a prior __init__ call so that",
     " * re-initialization does not leak keepalives or libtsk handles.",
     " */",
     "Py_CLEAR(self->python_object1);",
     "Py_CLEAR(self->python_object2);"]
    ++ Code.block "if(self->base != NULL)" (
      Code.branches
        [("if(self->base_is_python_object != 0)", ["Py_DecRef((PyObject *) self->base);"]),
         ("else if(self->base_is_internal != 0)", ["talloc_free(self->base);"])]
      ++ ["self->base = NULL;"])
    ++ ["",
        "/* Initialise is used to keep a reference on the object?",
        " * If not called no longer valid warnings have been seen",
        " * on Windows.",
        " */",
        s!"self->initialise = (function_initialize_Gen_wrapper_t) py{cls}_initialize_proxies;",
        ""])

/-- Allocate the object of the library. -/
def allocateObject (cls : String) : Code :=
  Code.indent (
    ["ClearError();",
     "",
     "/* Allocate a new instance */",
     s!"self->base = ({cls}) alloc_{cls}();"]
    ++ Code.block "if(self->base == NULL)" ["PyErr_NoMemory();", Code.jump]
    ++ ["self->base_is_python_object = 0;",
        "self->base_is_internal = 1;",
        "self->object_is_proxied = 0;",
        "",
        "/* Update the target by replacing its methods with proxies",
        " * to call back into Python",
        " */",
        s!"py{cls}_initialize_proxies(self, self->base);",
        "",
        "/* Now call the constructor */",
        "Py_BEGIN_ALLOW_THREADS"])

/-- Let the collector of the wrapped language see an object. -/
def trackObject : Code :=
  Code.block "if(!PyObject_GC_IsTracked((PyObject *) self))" ["PyObject_GC_Track((PyObject *) self);"]

/-- Check that the object was constructed. -/
def finishObject (cls : String) : Code :=
  [");"]
  ++ Code.indent (
    ["Py_END_ALLOW_THREADS",
     ""]
    ++ Code.block "if(!CheckError(EZero))"
      ["char *buffer = NULL;",
       "PyObject *exception = resolve_exception(&buffer);",
       "",
       "PyErr_Format(exception, \"%s\", buffer);",
       "ClearError();",
       Code.jump]
    ++ Code.block "if(result_constructor == NULL)"
      [s!"PyErr_Format(PyExc_IOError, \"Unable to construct class {cls}\");",
       Code.jump]
    ++ ["",
        "/* Track only after every PyObject* field is wired. The",
        " * IsTracked guard makes re-init (a second __init__) a no-op. */"]
    ++ trackObject
    ++ ["return 0;"])

/-- Take everything back when construction fails. -/
def undoObject : Code :=
  ["", Code.errorLabel ++ ":"]
  ++ Code.indent (
    dropField "python_object2"
    ++ dropField "python_object1"
    ++ Code.block "if(self->base != NULL)" ["talloc_free(self->base);", "self->base = NULL;"])

/-- Write the function that constructs an object of a class. -/
def writeInit (ref : MethodRef) : Act Binding Unit := do
  let m ← Binding.method ref
  emit (← m.head)
  let cls ← need m.className
  emit ("\x7b\n" ++ s!"    {cls} result_constructor = NULL;\n")
  writeLocals ref
  emitCode (resetObject cls)
  let s ← Binding.signatureOf m
  writeBeforeCall ref s.args.length fun i => .number (Int.ofNat i + 1)
  emitCode (allocateObject cls)
  let definition ← need m.definitionClass
  emit s!"    result_constructor = CONSTRUCT_INITIALIZE({cls}, {definition}, Con, self->base"
  let s ← Binding.signatureOf m
  let list ← Act.lift (operands s)
  Binding.modifyMethod ref fun m => { m with errorSet := true }
  emit list
  emitCode (finishObject cls)
  emit (undoObject.render ++ (← m.errorCondition) ++ "\n")
  emit "\x7d\n\n"

/-- Define the constructor of a class. -/
def writeConstructor (ref : MethodRef) : Act Binding Unit := do
  (← Binding.method ref).writeInitializeProxies
  writeInit ref

/-- Define the constructor of a class that declares none. -/
def writeEmptyConstructor (cls : String) : Act Binding Unit := do
  emitCode (
    Code.block s!"static int py{cls}_init(py{cls} *self, PyObject *args, PyObject *kwds)"
      (trackObject ++ ["return 0;"])
    ++ [""])

/-- Define the constructor of a struct, which belongs to another object. -/
def writeStructConstructor (cls : String) : Act Binding Unit := do
  emitCode (
    Code.block s!"static int py{cls}_init(py{cls} *self, PyObject *args, PyObject *kwds)"
      (["// Base is borrowed from another object.", "self->base = NULL;"]
        ++ trackObject ++ ["return 0;"])
    ++ [""])

/-- Define the constructor of an enum, which holds a value. Its class then has a text form and can be
compared. -/
def writeEnumConstructor (m : Method) : Act Binding Unit := do
  Binding.modifyClass m.owner fun c =>
    (c.addModifier (some "TP_STR")).addModifier (some "TP_EQUAL")
  emit (← m.head)
  emitCode ("\x7b" :: Code.indent (
      ["const char *kwlist[] = \x7b\"value\", NULL\x7d;",
       ""]
      ++ Code.jumpIf ("!PyArg_ParseTupleAndKeywords(args, kwds, \"O\", (char **) kwlist, "
        ++ "&self->value)")
      ++ ["",
          "Py_IncRef(self->value);",
          "",
          "return 0;",
          ""])
    ++ [Code.errorLabel ++ ":",
        "    return -1;",
        "\x7d",
        ""])

/-- The end of every destructor: hand the memory back. -/
def freeObject : Code :=
  ["ob_type = Py_TYPE(self);"]
  ++ Code.block "if(ob_type != NULL && ob_type->tp_free != NULL)"
    ["ob_type->tp_free((PyObject*) self);"]

/-- A destructor around the part that differs. -/
def destructor (cls : String) (body : Code) : Code :=
  Code.block s!"static void {cls}_dealloc(py{cls} *self)" (
    ["struct _typeobject *ob_type = NULL;",
     ""]
    ++ Code.block "if(self != NULL)" (body ++ freeObject))

/-- Define the destructor that goes with a constructor. -/
def writeDestructor (m : Method) : Act Binding Unit := do
  let cls ← need m.className
  let free := (← Act.state).settings.free
  match m.kind with
  | .constructor | .emptyConstructor =>
    emitCode (destructor cls (
      ["/* UnTrack first: dealloc tears down PyObject* fields",
       " * the GC traverse function reads. */",
       "PyObject_GC_UnTrack((PyObject *) self);"]
      ++ Code.block "if(self->base != NULL)" (
        Code.branches
          [("if(self->base_is_python_object != 0)", ["Py_DecRef((PyObject*) self->base);"]),
           ("else if(self->base_is_internal != 0)", [s!"{free}(self->base);"])]
        ++ ["self->base = NULL;"])
      ++ dropField "python_object2"
      ++ dropField "python_object1") ++ [""])
  | .structConstructor =>
    emitCode (destructor cls (
      ["PyObject_GC_UnTrack((PyObject *) self);"]
      ++ Code.block "if(self->base != NULL)" ["self->base = NULL;"]
      ++ ["/* Drop the parent keepalive (python_object1/2 wired",
          " * by the C->Py struct getter that yielded this borrow).",
          " */"]
      ++ dropField "python_object2"
      ++ dropField "python_object1") ++ [""])
  | .enumConstructor => emitCode (destructor cls ["Py_DecRef(self->value);"])
  | _ => Act.fail .noSuchPart

end HeaderBind.Method
