/-!
# Line ends

Texts from elsewhere may end their lines with a carriage return, alone or with a line feed.
-/

namespace HeaderBind.Text

/-- Characters with every line end as a line feed. -/
def plainLineEnds : List Char → List Char
  | [] => []
  | '\r' :: '\n' :: rest => '\n' :: plainLineEnds rest
  | c :: rest => (if c == '\r' then '\n' else c) :: plainLineEnds rest

/-- A text with every line end as a line feed. -/
def withPlainLineEnds (s : String) : String :=
  String.ofList (plainLineEnds s.toList)

end HeaderBind.Text
