import HeaderBind.Pattern.Template
import HeaderBind.Shell.Workshop
import HeaderBind.Text.LineEnd

/-!
# Version stamps

A release carries its version, which is the day it was made, and the time in several files. They are
brought up to date by replacing what stands there.
-/

namespace HeaderBind.Release

/-- The time of a release. -/
structure Clock where
  /-- The day, as year, month and day without anything between them. -/
  version : String
  /-- The day of the week, the day and the time, in words and numbers. -/
  stamp : String
  /-- The distance from universal time in seconds; positive to the west. -/
  timezone : Int := 0
deriving DecidableEq, Repr, Inhabited

/-- A number with at least two digits. -/
def twoDigits (n : Nat) : String :=
  if n < 10 then s!"0{n}" else s!"{n}"

/-- The time zone as it stands in a changelog: a sign, hours and minutes. The sign and the hours are
those of the distance rounded down to hours, and the minutes are what remains of it. -/
def zoneText (timezone : Int) : String :=
  let minutes := timezone.fdiv 60
  let hours := minutes.fdiv 60
  let sign := if hours < 0 then "-" else "+"
  sign ++ twoDigits hours.natAbs ++ twoDigits (minutes.fmod 60).toNat

/-- Something that is replaced in a file. -/
structure Rule where
  pattern : Pattern
  /-- The number of groups in the pattern. -/
  groups : Nat := 0
  replacement : String
deriving Repr, Inhabited

open Pattern

/-- A version between quotes after a name and an equals sign. -/
def assignedVersion (name version : String) : Rule where
  pattern := inOrder [literal s!"{name} = \"", plus (noneOf ['"']), char '"']
  replacement := s!"{name} = \"{version}\""

/-- The version after the name of the package. -/
def packageVersion (version : String) : Rule where
  pattern := inOrder [literal "pytsk3 (", plus (noneOf [')']), char ')']
  replacement := s!"pytsk3 ({version}-1)"

/-- The time after an address. -/
def signedTime (time : String) : Rule where
  pattern := seq (group 1 (inOrder [char '<', plus (noneOf ['>']), char '>'])) (plus (noneOf ['\n']))
  groups := 1
  replacement := s!"\\1  {time}"

/-- The files that carry the version, with what is replaced in them. -/
def stampedFiles (clock : Clock) : List (String × List Rule) :=
  [("class_parser.py", [assignedVersion "VERSION" clock.version]),
   ("dpkg/changelog",
    [packageVersion clock.version, signedTime s!"{clock.stamp} {zoneText clock.timezone}"]),
   ("pyproject.toml", [assignedVersion "version" clock.version])]

/-- A text in which a rule has replaced everything that it matches. -/
def Rule.apply (text : String) (r : Rule) : Except Fault String :=
  r.pattern.substitute r.groups r.replacement text

/-- A text after rules, one after the other. -/
def stampText (rules : List Rule) (text : String) : Except Fault String :=
  rules.foldlM Rule.apply (Text.withPlainLineEnds text)

/-- Bring the files that carry the version up to date. -/
def stampFiles (clock : Clock) : Act Workshop Unit := do
  for (name, rules) in stampedFiles clock do
    let text ← Workshop.readFile name
    Workshop.writeFile name (← Act.lift (stampText rules text))

end HeaderBind.Release
