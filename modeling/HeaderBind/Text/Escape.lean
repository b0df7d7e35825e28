/-!
# Escaped text

Text inside a string literal of the generated code is plain ASCII: everything else is written as an
escape that starts with a backslash.
-/

namespace HeaderBind.Text

/-- The hexadecimal digits of a number, padded with zeros to a width. -/
def hexPadded (width n : Nat) : List Char :=
  let digits := Nat.toDigits 16 n
  List.replicate (width - digits.length) '0' ++ digits

/-- The escape of a character by its number: two, four or eight hexadecimal digits. -/
def numericEscape (c : Char) : List Char :=
  if c.toNat < 0x100 then ['\\', 'x'] ++ hexPadded 2 c.toNat
  else if c.toNat < 0x10000 then ['\\', 'u'] ++ hexPadded 4 c.toNat
  else ['\\', 'U'] ++ hexPadded 8 c.toNat

/-- Whether a character is printable ASCII. -/
def isPlain (c : Char) : Bool :=
  0x20 ≤ c.toNat && c.toNat < 0x7f

/-- The form of one character inside a double-quoted literal. -/
def escapeChar (c : Char) : List Char :=
  if c = '\\' then ['\\', '\\']
  else if c = '"' then ['\\', '"']
  else if c = '\n' then ['\\', 'n']
  else if c = '\r' then ['\\', 'r']
  else if c = '\t' then ['\\', 't']
  else if isPlain c then [c]
  else numericEscape c

/-- The form of a text inside a double-quoted literal. -/
def escape (cs : List Char) : List Char :=
  cs.flatMap escapeChar

end HeaderBind.Text
