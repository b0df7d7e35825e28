import HeaderBind.Build.Extension
import HeaderBind.Shell.Workshop

/-!
# Building extensions

Sources in C and in C++ are compiled separately, since a flag that chooses the version of C++ is
refused for C, and everything is linked together.
-/

namespace HeaderBind.Build

/-- A compiler. -/
structure Compiler where
  kind : CompilerKind := .other
  /-- The object that a source is compiled to. -/
  objectOf : String → String

/-- Sources that are compiled together. -/
structure CompileStep where
  sources : List String
  outputFolder : String
  macros : List Macro
  includeFolders : List String
  debug : Option Bool
  flags : List String
  depends : List String
deriving DecidableEq, Repr, Inhabited

/-- Objects that are linked. -/
structure LinkStep where
  objects : List String
  target : String
  libraries : List String
  libraryFolders : List String
  runtimeLibraryFolders : List String
  flags : List String
  exportedSymbols : List String
  debug : Option Bool
  outputFolder : String
  language : String
deriving DecidableEq, Repr, Inhabited

/-- What is done for an extension. -/
structure Steps where
  compiled : List CompileStep := []
  linked : Option LinkStep := none
deriving DecidableEq, Repr, Inhabited

/-- How extensions are built. -/
structure Plan where
  /-- The folder for objects. -/
  outputFolder : String
  /-- The file that is built for an extension. -/
  targetOf : String → String
  debug : Option Bool := none
  /-- Whether an extension is built even if it is up to date. -/
  force : Bool := true

/-- The flag for sources in C++. -/
def cxxFlag : CompilerKind → String
  | .msvc => "/EHsc"
  | _ => "-std=c++14"

/-- The flags for linking its own libraries into the extension. -/
def staticFlags : CompilerKind → List String
  | .mingw32 => ["-static-libgcc", "-static-libstdc++"]
  | _ => []

/-- Add flags to those of an extension. Flags that were given are extended for good, while without
any the new ones serve once: the first result is for now, the second for later. -/
def extendFlags (given more : List String) : List String × List String :=
  let all := given ++ more
  (all, if given.isEmpty then [] else all)

/-- What an extension says about macros. -/
def Extension.macros (e : Extension) : List Macro :=
  e.definedMacros.map (fun (name, value) => .defined name value)
  ++ e.undefinedMacros.map .undefined

/-- The language of sources as they are linked. -/
def languageOf (sources : List String) : String :=
  if sources.any fun s => s.endsWith ".cpp" then "c++" else "c"

/-- A step that compiles sources of an extension. -/
def compileStep (p : Plan) (e : Extension) (sources flags : List String) : CompileStep where
  sources
  outputFolder := p.outputFolder
  macros := e.macros
  includeFolders := e.includeFolders
  debug := p.debug
  flags
  depends := e.depends

/-- Compile and link an extension with these sources, whatever its state. The extension comes back
with the flags that it keeps. Extra objects are linked twice, and only flags that the extension
keeps are given to the linker. -/
def buildAlways (compiler : Compiler) (p : Plan) (e : Extension) (sources : List String) :
    Steps × Extension :=
  let cSources := sources.filter fun s => s.endsWith ".c"
  let cxxSources := sources.filter fun s => !s.endsWith ".c"
  let cStep := compileStep p e cSources e.compileFlags
  let (cxxFlags, compileFlags) := extendFlags e.compileFlags [cxxFlag compiler.kind]
  let cxxStep := compileStep p e cxxSources cxxFlags
  let (_, linkFlags) := extendFlags e.linkFlags (staticFlags compiler.kind)
  let link : LinkStep := {
    objects := (cSources ++ cxxSources).map compiler.objectOf ++ e.extraObjects ++ e.extraObjects
    target := p.targetOf e.name
    libraries := e.libraries
    libraryFolders := e.libraryFolders
    runtimeLibraryFolders := e.runtimeLibraryFolders
    flags := linkFlags
    exportedSymbols := e.exportedSymbols
    debug := p.debug
    outputFolder := p.outputFolder
    language := (e.language.filter (!·.isEmpty)).getD (languageOf cxxSources) }
  ({ compiled := [cStep, cxxStep], linked := some link }, { e with compileFlags, linkFlags })

/-- Build an extension, unless it is up to date. -/
def build (compiler : Compiler) (p : Plan) (files : Files) (e : Extension) :
    Except Fault (Steps × Extension) :=
  match e.sources with
  | none =>
    .error (.badSetup
      (s!"in 'ext_modules' option (extension '{e.name}'), 'sources' "
        ++ "must be present and must be a list of source filenames"))
  | some sources =>
    if p.force || files.isStale (p.targetOf e.name) (sources ++ e.depends) then
      .ok (buildAlways compiler p e sources)
    else
      .ok ({}, e)

/-- Get ready for building the module: its code has to be there, and the library is configured
where it can be. -/
def prepare (kind : CompilerKind) : Act Workshop Unit := do
  if !(← Act.state).files.isThere "pytsk3.cpp" then
    Act.fail (.system "Missing pytsk3.cpp")
  if kind != .msvc then
    Workshop.configure

end HeaderBind.Build
