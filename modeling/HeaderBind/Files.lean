import HeaderBind.Dict
import HeaderBind.Fault
import HeaderBind.Text.Blank

/-!
# Files

The files at hand, by their names relative to the place where the program runs. A later file is
newer than an earlier one. There are no folders apart from the files in them.
-/

namespace HeaderBind

/-- The texts of files by name, the oldest first. -/
abbrev Files := Dict String String

namespace Files

/-- Take one more step of a way: steps that stay where they are change nothing, and a step back undoes
the last one. -/
def takeStep (way : List String) (step : String) : List String :=
  if step.isEmpty || step == "." then way
  else if step == ".." && way.getLast?.any (· != "..") then way.dropLast
  else way ++ [step]

/-- A name without detours. -/
def plainName (name : String) : String :=
  if name.toList.head? == some '/' then name
  else "/".intercalate ((Text.pieces '/' name).foldl takeStep [])

/-- The text of a file. -/
def read (files : Files) (name : String) : Except Fault String :=
  match Dict.get? files (plainName name) with
  | some text => .ok text
  | none => .error (.missingFile name)

/-- Write a file, in place of one of the same name. -/
def write (files : Files) (name text : String) : Files :=
  Dict.insert files (plainName name) text

/-- Remove a file. -/
def remove (files : Files) (name : String) : Except Fault Files :=
  if Dict.contains files (plainName name) then .ok (Dict.erase files (plainName name))
  else .error (.missingFile name)

/-- Whether a file lies in a folder. -/
def isInside (file folder : String) : Bool :=
  (folder ++ "/").toList.isPrefixOf file.toList

/-- Whether there is a file of a name or a folder with files in it. -/
def isThere (files : Files) (name : String) : Bool :=
  files.keys.any fun file => file == name || isInside file name

/-- The names of what lies directly in a folder, each once. -/
def children (files : Files) (folder : String) : List String :=
  let inside := files.keys.filter fun file => isInside file folder
  let names := inside.map fun file =>
    (Text.pieces '/' (file.drop (folder.length + 1)).toString).headD ""
  names.eraseDups

/-- The age rank of a file: the newer, the greater. A folder is as new as its newest file. -/
def rank (files : Files) (name : String) : Option Nat :=
  let places := files.keys.zipIdx.filter fun (file, _) =>
    file == name || isInside file name
  places.getLast?.map Prod.snd

/-- Whether something made from sources is out of date: it is missing, or a source is missing or
newer. -/
def isStale (files : Files) (target : String) (sources : List String) : Bool :=
  match files.rank target with
  | none => true
  | some age => sources.any fun source => (files.rank source).all (age < ·)

end Files

end HeaderBind
