import HeaderBind.Fault

/-!
# Words of a command

A command is split into words at blanks. Quotes keep blanks inside a word: between single quotes
everything stands for itself; between double quotes a backslash protects a double quote or another
backslash; outside of quotes it protects any character.
-/

namespace HeaderBind.Shell

/-- The blanks between words. -/
def isSeparator (c : Char) : Bool :=
  c == ' ' || c == '\t' || c == '\r' || c == '\n'

/-- Where in a command a character stands. -/
inductive Place where
  /-- Outside of quotes. -/
  | plain
  /-- Outside of quotes, after a backslash. -/
  | escape
  /-- Between quotes of a kind. -/
  | quoted (mark : Char)
  /-- Between double quotes, after a backslash. -/
  | quotedEscape
deriving DecidableEq, Repr, Inhabited

/-- Add a character to the word that is being read, last character first, or start one. -/
def extend (word : Option (List Char)) (c : Char) : Option (List Char) :=
  some (c :: word.getD [])

/-- The text of the word that is being read. -/
def finished (word : Option (List Char)) : List String :=
  (word.map fun w => String.ofList w.reverse).toList

/-- The words of the rest of a command, where `word` is the word that is being read, if one is. The
command may not end inside quotes or after a backslash. -/
def wordsFrom : Place → Option (List Char) → List Char → Except Fault (List String)
  | .plain, word, [] => .ok (finished word)
  | _, _, [] => .error .badValue
  | .plain, word, c :: rest =>
    if isSeparator c then do
      return finished word ++ (← wordsFrom .plain none rest)
    else if c == '\\' then wordsFrom .escape word rest
    else if c == '\'' || c == '"' then wordsFrom (.quoted c) (some (word.getD [])) rest
    else wordsFrom .plain (extend word c) rest
  | .escape, word, c :: rest => wordsFrom .plain (extend word c) rest
  | .quoted mark, word, c :: rest =>
    if c == mark then wordsFrom .plain word rest
    else if c == '\\' && mark == '"' then wordsFrom .quotedEscape word rest
    else wordsFrom (.quoted mark) (extend word c) rest
  | .quotedEscape, word, c :: rest =>
    if c == '\\' || c == '"' then wordsFrom (.quoted '"') (extend word c) rest
    else wordsFrom (.quoted '"') (extend (extend word '\\') c) rest

/-- The words of a command. -/
def words (command : String) : Except Fault (List String) :=
  wordsFrom .plain none command.toList

end HeaderBind.Shell
