import HeaderBind.Code
import HeaderBind.Dict
import HeaderBind.Pattern.Basic
import HeaderBind.Text.Escape

/-!
# Comments as documentation

The comment before a declaration documents it. Its text becomes a string literal of the generated
code, and lines of a certain form in it give default values of arguments and say which results raise
an exception.
-/

namespace HeaderBind.Doc

open Pattern

/-- The margin of a line inside a block comment: the blanks before the line end, the indentation of
the next line, its star and one space. -/
def margin : Pattern :=
  inOrder
    [star (char ' '),
     char '\n',
     plus (set ⟨false, [.range ' ' ' ', .range '\t' '\t']⟩),
     char '*',
     maybe false (char ' ')]

/-- A comment without the margins of its lines. -/
def withoutMargins (comment : String) : String :=
  margin.replaceAll (fun _ => ['\n']) comment

/-- A comment as the inside of a string literal. -/
def toLiteral (comment : String) : String :=
  String.ofList (Text.escape (withoutMargins comment).toList)

/-- A result that raises an exception: the condition on it, the exception, and the message, all as
code. -/
structure Raise where
  check : String
  exception : String
  message : String
deriving DecidableEq, Repr, Inhabited

/-- The code that checks a result. -/
def Raise.code (r : Raise) : Code :=
  ["", "/* Handle exceptions */"]
  ++ Code.block s!"if({r.check})"
    [s!"PyErr_Format(PyExc_{r.exception}, {r.message});", Code.jump]
  ++ [""]

/-- A line of a comment that says something about a method. -/
inductive Annotation where
  /-- The argument of this name may be left out; the value is kept with its blanks. -/
  | default (name value : String)
  /-- The result raises an exception. -/
  | raises (r : Raise)
deriving DecidableEq, Repr, Inhabited

/-- A default value: the name of the argument, then the value up to the last semicolon. -/
def defaultPattern : Pattern :=
  inOrder
    [literal "DEFAULT(", group 1 (plus (set wordSet)), literal ") =",
     group 2 (plus (noneOf ['\n'])), char ';']

/-- An exception: the condition, the exception, then the message up to the last semicolon. -/
def raisesPattern : Pattern :=
  inOrder
    [literal "RAISES(", group 1 (plus (noneOf [','])), char ',', star blank,
     group 2 (plus (noneOf [')'])), literal ") =", group 3 (plus (noneOf ['\n'])), char ';']

/-- The annotations on one line. -/
def lineAnnotations (line : String) : List Annotation :=
  ((defaultPattern.search? line).map fun m => .default (m.group 1) (m.group 2)).toList
  ++ ((raisesPattern.search? line).map fun m =>
    .raises ⟨m.group 1, m.group 2, m.group 3⟩).toList

/-- The annotations of a comment, line by line. -/
def annotations (comment : String) : List Annotation :=
  (Text.lines comment).flatMap lineAnnotations

/-- What the comments read so far say about a method. -/
structure Notes where
  /-- The values of arguments that may be left out, by name. -/
  defaults : Dict String String := ⟨[]⟩
  /-- The exception that the result may raise. -/
  exception : Option Raise := none
deriving Repr, Inhabited

namespace Notes

/-- Take over an annotation. A later one replaces an earlier one. -/
def add (n : Notes) : Annotation → Notes
  | .default name value => { n with defaults := n.defaults.insert name (Text.strip value) }
  | .raises r => { n with exception := some r }

/-- Take over the annotations of a comment. -/
def read (n : Notes) (comment : String) : Notes :=
  (annotations comment).foldl add n

end Notes

end HeaderBind.Doc
