import HeaderBind.Header.Reader
import HeaderBind.Release.Options
import HeaderBind.Release.Stamp

/-!
# Updating the sources

Before a release the library that is wrapped is fetched anew, patched and configured, the versions
are brought up to date, and the module is generated from the headers.
-/

namespace HeaderBind.Release

open Workshop (say run runInLibrary)

/-- An update of the sources. -/
structure Update where
  options : Options := {}
  clock : Clock
  /-- Whether the configuration is copied instead of made. -/
  isWindows : Bool := false
  settings : Settings := {}
deriving Inhabited

namespace Update

/-- The version of the library that is wrapped. -/
def libraryVersion : String := "4.15.0"

/-- The patches that are applied to the library, where they exist. -/
def patches : List String :=
  ["configure.ac", "Makefile.am"].map fun file => s!"patches/sleuthkit-{libraryVersion}-{file}"

/-- Apply the patches. -/
def applyPatches : Act Workshop Unit := do
  for patch in patches do
    if (← Act.state).files.isThere patch then
      say s!"Applying patch file: {patch}"
      runInLibrary ["git", "apply", s!"../{patch}"]
    else
      say s!"No such patch file: {patch}"

/-- The headers from which the module is generated. -/
def headers : List String :=
  ["libtsk.h", "base/tsk_base.h", "fs/tsk_fs.h", "img/tsk_img.h", "vs/tsk_vs.h"].map
    (fun file => s!"sleuthkit/tsk/{file}")
  ++ ["tsk3.h"]

/-- The file that holds the code of the module. -/
def moduleFile : String := "pytsk3.cpp"

/-- Read the headers of the module. -/
def readHeaders (files : Files) : Act HeaderReader Unit := do
  HeaderReader.readPrelude
  HeaderReader.onBinding (Act.update fun b => { b with initText := "tsk_init();" })
  HeaderReader.parseFiles files headers

/-- Generate the module. When writing fails, the file holds what was written so far. -/
def generateModule (u : Update) : Act Workshop Unit := do
  say s!"Generating {moduleFile}"
  let settings := { u.settings with free := "talloc_free" }
  let reader ← Act.lift
    (HeaderReader.fresh settings Registry.initial "pytsk3" "" (if u.options.verbose then 1 else 0))
  let files := (← Act.state).files
  let (result, reader) ← Act.onValue reader (readHeaders files)
  Act.lift result
  let (result, reader) ← Act.onValue reader (HeaderReader.onBinding Binding.write)
  Workshop.writeFile moduleFile reader.host.binding.out
  Act.lift result

/-- Files of the library that must not be distributed. -/
def unwantedFiles : List String :=
  ["win32", "win64"].map fun folder =>
    s!"sleuthkit/win32/PostgreSQL_CRT/{folder}/msvcr120.dll"

/-- Remove files that must not be distributed. -/
def removeFiles : Act Workshop Unit := do
  for file in unwantedFiles do
    say s!"Removing: {file}"
    Workshop.removeFile file

/-- Fetch the library. -/
def fetchLibrary (u : Update) : Act Workshop Unit := do
  runInLibrary ["git", "stash"]
  run ["git", "submodule", "init"]
  run ["git", "submodule", "update"]
  if u.options.useHead then
    say "Updating SleuthKit from HEAD"
  else
    say s!"Updating SleuthKit from tag: {libraryVersion}"
  runInLibrary ["git", "reset", "--hard"]
  runInLibrary ["git", "clean", "-x", "-f", "-d"]
  runInLibrary ["git", "checkout", "main"]
  runInLibrary ["git", "pull"]
  if !u.options.useHead then
    runInLibrary ["git", "fetch", "--force", "--tags"]
    runInLibrary ["git", "checkout", s!"tags/sleuthkit-{libraryVersion}"]
    applyPatches

/-- The header that is written where the library is not configured. -/
def includesHeader : String :=
  "\n".intercalate
    ["#ifndef _TSK_INCS_H",
     "#define _TSK_INCS_H",
     "#include <unistd.h>",
     "#ifndef __STDC_FORMAT_MACROS",
     "#define __STDC_FORMAT_MACROS",
     "#endif",
     "#include <inttypes.h>",
     "#include <sys/param.h>",
     "#endif",
     ""]

/-- Configure the library. -/
def configureLibrary (u : Update) : Act Workshop Unit := do
  if u.isWindows then
    let config := "sleuthkit/tsk/tsk_config.h"
    Workshop.copyFile s!"{config}.in" config
    Workshop.writeFile "sleuthkit/tsk/tsk_incs.h" includesHeader
  else
    runInLibrary ["./bootstrap"]
    Workshop.configure

/-- Update the sources. -/
def perform (u : Update) : Act Workshop Unit := do
  u.fetchLibrary
  u.configureLibrary
  removeFiles
  stampFiles u.clock
  u.generateModule

/-- The command that updates the sources, by its arguments. -/
def command (u : Update) (arguments : List String) : Act Workshop Unit := do
  let options ← Act.lift (Options.read arguments)
  { u with options }.perform

end Update

end HeaderBind.Release
