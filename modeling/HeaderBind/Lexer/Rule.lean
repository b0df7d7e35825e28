import HeaderBind.Pattern.Parser

/-!
# Rules of a lexer

A rule applies in the states that its state pattern matches at their start. Where its text pattern
matches, the token of the rule names the actions to take, separated by commas, and the rule may give
the next state.
-/

namespace HeaderBind.Lexer

/-- A rule that is ready for use. -/
structure Rule where
  /-- The pattern of the states in which the rule applies. -/
  states : Pattern
  /-- The pattern of the text that the rule consumes. -/
  pattern : Pattern
  /-- The text pattern as it was written. -/
  source : String
  /-- The actions, separated by commas. -/
  token : Option String
  /-- The state after the rule, unless an action gives another one. -/
  next : Option String
deriving DecidableEq, Repr, Inhabited

/-- The names of the actions of a token. -/
def actionNames (token : String) : List String :=
  (token.toList.splitOn ',').map String.ofList

/-- A row of a rule table. -/
inductive Row where
  /-- A row that was read as a rule. -/
  | rule (r : Rule)
  /-- A row with too few or too many columns. It is noticed when its turn comes. -/
  | misshapen
  /-- A row that has the columns of a rule, of a table whose patterns were not read. -/
  | unread
deriving Repr, Inhabited

/-- The columns of a row, some of which may be empty. -/
abbrev Columns := List (Option String)

/-- The pattern in a column. -/
def patternIn (o : Pattern.Options) : Option String → Except Fault Pattern
  | some text => Pattern.parse o text
  | none => .error .badArgument

/-- Read the patterns of a row: of its states, then of its text. A row without the second column is
refused as having no pattern there. -/
def readRow : Columns → Except Fault Row
  | [] => .error .outOfRange
  | [states] => do
    let _ ← patternIn {} states
    throw .badValue
  | states :: text :: rest => do
    let stateSet ← patternIn {} states
    let pattern ← patternIn { multiline := true } text
    match rest with
    | [token, next] =>
      return .rule { states := stateSet, pattern, source := text.getD "", token, next }
    | _ => return .misshapen

/-- A row of a table whose patterns are not read. -/
def leaveRow (columns : Columns) : Row :=
  if columns.length == 6 then .unread else .misshapen

/-- Read a rule table. The number of columns of the first row decides whether the patterns are
read. -/
def readTable : List Columns → Except Fault (List Row)
  | [] => .error .outOfRange
  | first :: rest =>
    if first.length == 4 then (first :: rest).mapM readRow
    else .ok ((first :: rest).map leaveRow)

end HeaderBind.Lexer
