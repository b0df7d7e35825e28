/-!
# Lines of code

Generated code is a list of lines. Blocks indent what they hold by four columns; an empty line stays
empty at any depth.
-/

namespace HeaderBind

/-- Lines of code, without their line ends. -/
abbrev Code := List String

namespace Code

/-- The text of the lines, each with a line end. -/
def render (code : Code) : String :=
  String.join (code.map (· ++ "\n"))

/-- Shift one line to the right by a number of columns, unless it is empty. -/
def shiftLine (columns : Nat) (line : String) : String :=
  if line.isEmpty then line else String.ofList (List.replicate columns ' ') ++ line

/-- Shift all lines to the right by a number of columns. -/
def shift (columns : Nat) (code : Code) : Code :=
  code.map (shiftLine columns)

/-- Shift all lines one level to the right. -/
def indent (code : Code) : Code :=
  code.shift 4

/-- A head with a braced body. -/
def block (head : String) (body : Code) : Code :=
  (head ++ " \x7b") :: body.indent ++ ["\x7d"]

/-- A braced body that stands alone. -/
def scope (body : Code) : Code :=
  "\x7b" :: body.indent ++ ["\x7d"]

/-- The branches of a choice after the first one. -/
def branchesFrom : List (String × Code) → Code
  | [] => ["\x7d"]
  | (head, body) :: rest => ("\x7d " ++ head ++ " \x7b") :: body.indent ++ branchesFrom rest

/-- A chain of branches: the first head opens it, the others follow a closing brace. -/
def branches : List (String × Code) → Code
  | [] => []
  | (head, body) :: rest => (head ++ " \x7b") :: body.indent ++ branchesFrom rest

/-- The label where a function that failed cleans up. -/
def errorLabel : String := "on_error"

/-- The jump to the label where a function that failed cleans up. -/
def jump : String := "goto " ++ errorLabel ++ ";"

/-- Jump to the clean-up when a condition holds. -/
def jumpIf (condition : String) : Code :=
  block ("if(" ++ condition ++ ")") [jump]

/-- Text as a double-quoted literal; the text is taken as it is. -/
def literal (s : String) : String :=
  "\"" ++ s ++ "\""

end Code

end HeaderBind
