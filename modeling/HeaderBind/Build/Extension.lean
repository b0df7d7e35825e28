import HeaderBind.Files

/-!
# Extensions

What is built: an extension module, with its sources and everything that the compiler and the linker
have to be told.
-/

namespace HeaderBind.Build

/-- The kinds of compilers that are treated differently. -/
inductive CompilerKind where
  | msvc
  | mingw32
  | other
deriving DecidableEq, Repr, Inhabited

/-- What is said about a macro. -/
inductive Macro where
  /-- It is defined, with a value if there is one. -/
  | defined (name : String) (value : Option String)
  /-- It is not defined. -/
  | undefined (name : String)
deriving DecidableEq, Repr, Inhabited

/-- An extension module. -/
structure Extension where
  name : String
  /-- The source files; nothing if they were not given as a list. -/
  sources : Option (List String) := some []
  definedMacros : List (String × Option String) := []
  undefinedMacros : List String := []
  includeFolders : List String := []
  libraries : List String := []
  libraryFolders : List String := []
  runtimeLibraryFolders : List String := []
  /-- Objects that are linked in as they are. -/
  extraObjects : List String := []
  compileFlags : List String := []
  linkFlags : List String := []
  exportedSymbols : List String := []
  /-- Other files that the extension depends on. -/
  depends : List String := []
  /-- The language whose linker is used, if it is given. -/
  language : Option String := none
deriving DecidableEq, Repr, Inhabited

/-- The macros that are defined for the wrapped library. -/
def definedMacros : CompilerKind → List (String × Option String)
  | .msvc =>
    [("WIN32", some "1"), ("UNICODE", some "1"), ("NOMINMAX", some "1"),
     ("_CRT_SECURE_NO_WARNINGS", some "1")]
  | _ =>
    [("HAVE_CONFIG_H", some "1"), ("LOCALEDIR", some "\"/usr/share/locale\""),
     ("TSK_MULTITHREAD_LIB", none)]

/-- The folders where headers are found. -/
def includeFolders : List String :=
  [".", "talloc", "sleuthkit"]

/-- The libraries that are linked. -/
def libraries : CompilerKind → List String
  | .msvc => []
  | _ => ["stdc++", "pthread"]

/-- The sources with fixed names. -/
def ownSources : List String :=
  ["class.cpp", "error.cpp", "tsk3.cpp", "pytsk3.cpp", "talloc/talloc.c",
   "sleuthkit/tsk/auto/guid.cpp"]

/-- The folders of the wrapped library whose sources are compiled. -/
def sourceFolders : List String :=
  ["base", "docs", "fs", "img", "pool", "util", "vs"].map fun folder => s!"sleuthkit/tsk/{folder}"

/-- Whether a file of the wrapped library is compiled. Hidden files are not. -/
def isSource (name : String) : Bool :=
  !name.startsWith "." && (name.endsWith ".c" || name.endsWith ".cpp")

/-- The sources of the wrapped library, sorted. -/
def librarySources (files : Files) : List String :=
  let found := sourceFolders.flatMap fun folder =>
    ((files.children folder).filter isSource).map fun name => s!"{folder}/{name}"
  found.mergeSort fun a b => a ≤ b

/-- The sources of the module. -/
def sources (files : Files) : List String :=
  ownSources ++ librarySources files

/-- The module that is built. -/
def moduleExtension (kind : CompilerKind) (files : Files) : Extension where
  name := "pytsk3"
  sources := some (sources files)
  definedMacros := definedMacros kind
  includeFolders := includeFolders
  libraries := libraries kind

end HeaderBind.Build
