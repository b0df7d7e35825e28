import HeaderBind.Lexer.Basic

/-!
# A lexer that records

A lexer whose actions collect what they matched. Each action has a fixed outcome: a next state, or
none.
-/

namespace HeaderBind.Lexer

/-- The outcomes of the actions, by name. -/
abbrev Outcomes := List (String × Option String)

/-- Collect an action and what it matched. -/
def record (outcome : Option String) : Callback Outcomes := fun name m => do
  Act.update fun x => { x with objects := x.objects ++ [.list [.text name, .text m.text]] }
  return outcome

/-- The actions of a lexer that records. Its own actions come before those that every lexer has. -/
def recording (outcomes : Outcomes) : Callbacks Outcomes where
  find name := ((outcomes.lookup name).map record).orElse fun _ => builtIn name
  fallback := ((outcomes.lookup "default_handler").map record).getD defaultHandler

/-- A lexer that records, by its rule table. -/
def recorder (table : List Columns) (outcomes : Outcomes) (file : Option Nat) (verbose : Int) :
    Except Fault (Lexer Outcomes) := do
  return { rows := ← readTable table, file, verbose, host := outcomes }

end HeaderBind.Lexer
