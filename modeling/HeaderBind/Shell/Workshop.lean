import HeaderBind.Act
import HeaderBind.Files
import HeaderBind.Shell.Words
import HeaderBind.Text.Blank

/-!
# Work on a tree of files

What is done to a tree of files: files are read and written, commands are run, and messages are
printed. A record is kept of the commands and the messages. How commands end is given from the
start.
-/

namespace HeaderBind

/-- A command that is run. -/
structure Command where
  /-- The folder in which it is run, if it is another one. -/
  folder : Option String := none
  words : List String
deriving DecidableEq, Repr, Inhabited

/-- How a command of the shell ends. -/
structure Reply where
  code : Int := 0
  output : String := ""
  error : String := ""
deriving DecidableEq, Repr, Inhabited

/-- A tree of files that is worked on. -/
structure Workshop where
  files : Files := ⟨[]⟩
  /-- How commands of the shell end; nothing if they cannot be started. -/
  reply : Option Reply := some {}
  /-- The number of commands that succeed, if some fail. -/
  failAfter : Option Nat := none
  /-- The commands that were run. -/
  commands : List Command := []
  /-- What was printed. -/
  printed : String := ""
deriving Repr, Inhabited

namespace Workshop

/-- Print a line. -/
def say (line : String) : Act Workshop Unit :=
  Act.update fun w => { w with printed := w.printed ++ line ++ "\n" }

/-- Keep a command in the record. -/
def record (command : Command) : Act Workshop Unit :=
  Act.update fun w => { w with commands := w.commands ++ [command] }

/-- Run a command that has to succeed. -/
def run (words : List String) (folder : Option String := none) : Act Workshop Unit := do
  record { folder, words }
  let w ← Act.state
  if w.failAfter.any (· < w.commands.length) then
    Act.fail (.refused "command failed")

/-- The folder of the library that is wrapped. -/
def libraryFolder : String := "sleuthkit"

/-- Run a command in the folder of the library. -/
def runInLibrary (words : List String) : Act Workshop Unit :=
  run words (some libraryFolder)

/-- The last lines of an error text. -/
def lastLines (error : String) : String :=
  let lines := Text.pieces '\n' error
  "\n".intercalate (lines.drop (lines.length - 5))

/-- Run a script with the shell in the folder of the library, and take its output. -/
def shell (command : String) : Act Workshop String := do
  let words ← Act.lift (Shell.words s!"sh {command}")
  record { folder := some libraryFolder, words }
  match (← Act.state).reply with
  | none => Act.fail (.refused s!"Running: {command} failed.")
  | some reply =>
    if reply.code != 0 then
      let error := lastLines reply.error
      Act.fail (.refused s!"Running: {command} failed with error:\n{error}.")
    return reply.output

/-- The script that configures the library, with as little else as possible. -/
def configureCommand : String :=
  " ".intercalate
    ["configure", "--disable-java", "--disable-multithreading", "--without-afflib",
     "--without-libbfio", "--without-libewf", "--without-libvhdi", "--without-libvmdk",
     "--without-libvslvm", "--without-zlib"]

/-- The lines of a summary: those from the line `configure:` on. -/
def summaryLines (output : String) : List String :=
  ((Text.pieces '\n' output).map Text.stripEnd).dropWhile (· != "configure:")

/-- Print the summary in the output of the configuration. -/
def printSummary (output : String) : Act Workshop Unit := do
  for line in summaryLines output do
    say line

/-- Configure the library. -/
def configure : Act Workshop Unit := do
  printSummary (← shell configureCommand)

/-- The text of a file. -/
def readFile (name : String) : Act Workshop String := do
  Act.lift ((← Act.state).files.read name)

/-- Write a file. -/
def writeFile (name text : String) : Act Workshop Unit :=
  Act.update fun w => { w with files := w.files.write name text }

/-- Remove a file. -/
def removeFile (name : String) : Act Workshop Unit := do
  let files ← Act.lift ((← Act.state).files.remove name)
  Act.update fun w => { w with files }

/-- Copy a file. -/
def copyFile (source target : String) : Act Workshop Unit := do
  writeFile target (← readFile source)

end Workshop

end HeaderBind
