import HeaderBind.Text.Escape
import HeaderBind.Text.Printable

/-!
# Quoted text

How a piece of text is shown in a log message: between quotes, on one line, with everything that
cannot be printed written as an escape.
-/

namespace HeaderBind.Text

/-- The quote around a text: a single quote, unless the text has single quotes and no double one. -/
def quoteFor (cs : List Char) : Char :=
  if cs.contains '\'' && !cs.contains '"' then '"' else '\''

/-- The form of one character between quotes. -/
def quoteChar (quote c : Char) : List Char :=
  if c = '\\' then ['\\', '\\']
  else if c = quote then ['\\', c]
  else if c = '\n' then ['\\', 'n']
  else if c = '\r' then ['\\', 'r']
  else if c = '\t' then ['\\', 't']
  else if isPlain c || isPrintable c then [c]
  else numericEscape c

/-- A text as it is shown in a log message. -/
def quoted (cs : List Char) : String :=
  let quote := quoteFor cs
  String.ofList (quote :: cs.flatMap (quoteChar quote) ++ [quote])

end HeaderBind.Text
