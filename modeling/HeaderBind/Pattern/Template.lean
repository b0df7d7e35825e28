import HeaderBind.Fault
import HeaderBind.Pattern.Basic

/-!
# Replacement texts

What takes the place of a match: characters stand for themselves, a backslash and a number for what
a group matched, and some letters after a backslash for control characters.
-/

namespace HeaderBind

/-- A piece of a replacement. -/
inductive Template.Piece where
  /-- Fixed characters. -/
  | fixed (cs : List Char)
  /-- What a group matched; group 0 is the whole match. -/
  | group (number : Nat)
deriving DecidableEq, Repr, Inhabited

/-- A replacement text, piece by piece. -/
abbrev Template := List Template.Piece

namespace Template

/-- The characters that a piece stands for. -/
def Piece.expand (m : Match) : Piece → List Char
  | .fixed cs => cs
  | .group 0 => m.whole.chars
  | .group number => (m.group number).toList

/-- The characters that a replacement stands for. -/
def expand (t : Template) (m : Match) : List Char :=
  t.flatMap (Piece.expand m)

/-- The control character that a letter after a backslash stands for. -/
def control? : Char → Option Char
  | 'a' => some '\x07'
  | 'b' => some '\x08'
  | 'f' => some '\x0c'
  | 'n' => some '\n'
  | 'r' => some '\r'
  | 't' => some '\t'
  | 'v' => some '\x0b'
  | '\\' => some '\\'
  | _ => none

/-- The value of a digit. -/
def digit (c : Char) : Nat := c.toNat - '0'.toNat

/-- The value of digits to a base. -/
def value (base : Nat) (digits : List Char) : Nat :=
  digits.foldl (fun n c => n * base + digit c) 0

/-- Whether a character is a digit below eight. -/
def isOctal (c : Char) : Bool := '0' ≤ c && c ≤ '7'

/-- A reference to a group, which has to exist. -/
def reference (groups number : Nat) : Except Fault Piece :=
  if number ≤ groups then .ok (.group number) else .error .badPattern

/-- Whether a character may stand in a name. -/
def isNameChar (c : Char) : Bool :=
  c.isAlphanum || c == '_' || c.toNat ≥ 128

/-- A reference to a group by what stands between angle brackets. Groups have numbers and no
names. -/
def named (groups : Nat) (name : List Char) : Except Fault Piece :=
  match name with
  | [] => .error .badPattern
  | c :: _ =>
    if name.all Char.isDigit then reference groups (value 10 name)
    else if name.all isNameChar && !c.isDigit then .error .outOfRange
    else .error .badPattern

/-- A character by its number. -/
def coded (number : Nat) : Except Fault Piece :=
  if number ≤ 0xff then .ok (.fixed [Char.ofNat number]) else .error .badPattern

/-- What a backslash stands for, and how many of the characters after it belong to it. Three octal
digits, or those after a zero, are a character; other digits are a group. -/
def escape (groups : Nat) : List Char → Except Fault (Piece × Nat)
  | [] => .error .badPattern
  | 'g' :: '<' :: rest => do
    let name := rest.takeWhile (· != '>')
    if name.length == rest.length then
      throw .badPattern
    return (← named groups name, name.length + 3)
  | '0' :: rest => do
    let digits := (rest.take 2).takeWhile isOctal
    return (← coded (value 8 digits), digits.length + 1)
  | c :: rest =>
    if c.isDigit then do
      let digits := c :: (rest.take 2).takeWhile Char.isDigit
      if digits.length == 3 && digits.all isOctal then
        return (← coded (value 8 digits), 3)
      else
        let digits := digits.take 2
        return (← reference groups (value 10 digits), digits.length)
    else
      match control? c with
      | some control => .ok (.fixed [control], 1)
      | none => if c.isAlpha then .error .badPattern else .ok (.fixed ['\\', c], 1)

/-- Read a replacement for a pattern with some number of groups. `skip` characters belong to a piece
that was read. -/
def readFrom (groups : Nat) : (skip : Nat) → List Char → Except Fault Template
  | _, [] => .ok []
  | skip + 1, _ :: rest => readFrom groups skip rest
  | 0, c :: rest =>
    if c == '\\' then do
      let (piece, length) ← escape groups rest
      return piece :: (← readFrom groups length rest)
    else do
      return .fixed [c] :: (← readFrom groups 0 rest)

/-- Read a replacement for a pattern with some number of groups. -/
def read (groups : Nat) (text : String) : Except Fault Template :=
  readFrom groups 0 text.toList

end Template

/-- A text with every match replaced as a text says. The text is read first, so that it has to be
right even if nothing matches. -/
def Pattern.substitute (p : Pattern) (groups : Nat) (replacement s : String) :
    Except Fault String := do
  let template ← Template.read groups replacement
  return p.replaceAll template.expand s

end HeaderBind
