import HeaderBind.Text.Blank

/-!
# Patterns

Regular patterns over text, matched from left to right with backtracking: of two alternatives the
first one that lets the whole match succeed is taken, and a repetition takes as many rounds as it
can, or as few as it can when it is lazy. Groups remember what they matched last.
-/

namespace HeaderBind

/-- A member of a character set. -/
inductive CharSet.Item where
  | range (first last : Char)
  | blank
  | notBlank
deriving DecidableEq, Repr, Inhabited

/-- A set of characters: those that are members of some item, or the others. -/
structure CharSet where
  negated : Bool := false
  items : List CharSet.Item := []
deriving DecidableEq, Repr, Inhabited

namespace CharSet

/-- Whether a character belongs to an item. -/
def Item.holds (c : Char) : Item → Bool
  | .range first last => first.toNat ≤ c.toNat && c.toNat ≤ last.toNat
  | .blank => Text.isBlank c
  | .notBlank => !Text.isBlank c

/-- Whether a character belongs to a set. -/
def holds (s : CharSet) (c : Char) : Bool :=
  (s.items.any (Item.holds c)) != s.negated

/-- The set of one character. -/
def single (c : Char) : CharSet := ⟨false, [.range c c]⟩

/-- The set of all characters. -/
def any : CharSet := ⟨true, []⟩

end CharSet

/-- A pattern over text. -/
inductive Pattern where
  /-- Matches the empty text. -/
  | empty
  /-- Matches one character of a set. -/
  | set (s : CharSet)
  /-- Matches the empty text at the start of the whole text. -/
  | textStart
  /-- Matches the empty text at the start of a line. -/
  | lineStart
  /-- Matches one pattern, then another. -/
  | seq (p q : Pattern)
  /-- Matches one pattern or another, trying the first one first. -/
  | alt (p q : Pattern)
  /-- Matches a pattern or the empty text. -/
  | maybe (lazily : Bool) (p : Pattern)
  /-- Matches a pattern any number of times. -/
  | many (lazily : Bool) (p : Pattern)
  /-- Matches a pattern and remembers the text under a number. -/
  | group (number : Nat) (p : Pattern)
deriving DecidableEq, Repr, Inhabited

namespace Pattern

/-- Matches one given character. -/
def char (c : Char) : Pattern := set (CharSet.single c)

/-- Matches patterns one after the other. -/
def inOrder : List Pattern → Pattern
  | [] => empty
  | [p] => p
  | p :: ps => seq p (inOrder ps)

/-- Matches a given text. -/
def literal (s : String) : Pattern := inOrder (s.toList.map char)

/-- Matches one character that is not among the given ones. -/
def noneOf (cs : List Char) : Pattern := set ⟨true, cs.map fun c => .range c c⟩

/-- Matches a pattern any number of times, as often as it can. -/
def star (p : Pattern) : Pattern := many false p

/-- Matches a pattern at least once, as often as it can. -/
def plus (p : Pattern) : Pattern := seq p (many false p)

/-- The characters of identifiers: letters, digits and the underscore. -/
def wordSet : CharSet :=
  ⟨false, [.range 'A' 'Z', .range '_' '_', .range 'a' 'z', .range '0' '9']⟩

/-- Matches a blank character. -/
def blank : Pattern := set ⟨false, [.blank]⟩

end Pattern

/-- A piece of text, as the text from its start on and its length. -/
structure Span where
  start : List Char
  length : Nat
deriving DecidableEq, Repr, Inhabited

/-- The characters of a piece of text. -/
def Span.chars (s : Span) : List Char :=
  s.start.take s.length

/-- A position in a text during a match. -/
structure Cursor where
  /-- The number of characters before the position. -/
  pos : Nat := 0
  /-- Whether the position is at the start of a line. -/
  atLineStart : Bool := true
  /-- The characters from the position on. -/
  rest : List Char
  /-- What the groups matched, the latest first. -/
  groups : List (Nat × Span) := []
deriving DecidableEq, Repr, Inhabited

namespace Cursor

/-- The position after the next character. -/
def next (k : Cursor) (c : Char) (rest : List Char) : Cursor :=
  { k with pos := k.pos + 1, atLineStart := c == '\n', rest }

/-- The position after a group that started at another position. -/
def close (start : Cursor) (number : Nat) (k : Cursor) : Cursor :=
  { k with groups := (number, ⟨start.rest, k.pos - start.pos⟩) :: k.groups }

end Cursor

namespace Pattern

/-- A way to go on after a pattern has matched: the position where everything ends, if it does. -/
abbrev Onward := Cursor → Option Cursor

/-- The positions that a run of characters of a set reaches, the farthest first, before those that
are already known. -/
def runsFrom (s : CharSet) : List Char → Cursor → List Cursor → List Cursor
  | [], k, known => k :: known
  | c :: rest, k, known =>
    if s.holds c then runsFrom s rest (k.next c rest) (k :: known) else k :: known

/-- Go on from the nearest position of a run of characters of a set from where that succeeds. -/
def nearestRun (s : CharSet) (onward : Onward) : List Char → Cursor → Option Cursor
  | [], k => onward k
  | c :: rest, k =>
    match onward k with
    | some e => some e
    | none => if s.holds c then nearestRun s onward rest (k.next c rest) else none

/-- Repeat a body. Every round but the last one consumes something, so that there are at most as many
rounds as characters, and one more. -/
def repeated (body : Cursor → Onward → Option Cursor) (lazily : Bool) :
    List Char → Cursor → Onward → Option Cursor
  | [], k, onward =>
    if lazily then (onward k).orElse fun _ => body k onward
    else (body k onward).orElse fun _ => onward k
  | _ :: left, k, onward =>
    let again := fun (_ : Unit) => body k fun k' =>
      if k'.pos == k.pos then onward k' else repeated body lazily left k' onward
    if lazily then (onward k).orElse again else (again ()).orElse fun _ => onward k

/-- Match a pattern at a position and go on from where it ends; alternatives are tried in order until
one lets everything succeed. -/
def run : Pattern → Cursor → Onward → Option Cursor
  | empty, k, onward => onward k
  | set s, k, onward =>
    match k.rest with
    | [] => none
    | c :: rest => if s.holds c then onward (k.next c rest) else none
  | textStart, k, onward => if k.pos == 0 then onward k else none
  | lineStart, k, onward => if k.atLineStart then onward k else none
  | seq p q, k, onward => p.run k fun k' => q.run k' onward
  | alt p q, k, onward => (p.run k onward).orElse fun _ => q.run k onward
  | maybe lazily p, k, onward =>
    if lazily then (onward k).orElse fun _ => p.run k onward
    else (p.run k onward).orElse fun _ => onward k
  | many false (set s), k, onward => (runsFrom s k.rest k []).findSome? onward
  | many true (set s), k, onward => nearestRun s onward k.rest k
  | many lazily p, k, onward => repeated p.run lazily k.rest k onward
  | group number p, k, onward => p.run k fun k' => onward (k.close number k')

/-- The position where the first match that starts at a position ends. -/
def matchAt (p : Pattern) (k : Cursor) : Option Cursor :=
  p.run k some

end Pattern

/-- A match of a pattern. -/
structure Match where
  /-- The text that was matched. -/
  whole : Span
  /-- What the groups matched, the latest first. -/
  groups : List (Nat × Span) := []
deriving DecidableEq, Repr, Inhabited

namespace Match

/-- The number of characters matched. -/
def length (m : Match) : Nat := m.whole.length

/-- The text that was matched. -/
def text (m : Match) : String := String.ofList m.whole.chars

/-- The text of a group that took part in the match. -/
def group? (m : Match) (number : Nat) : Option String :=
  (m.groups.lookup number).map fun s => String.ofList s.chars

/-- The text of a group; empty when the group took no part. -/
def group (m : Match) (number : Nat) : String :=
  (m.group? number).getD ""

/-- The match of a whole text that has no groups. -/
def ofText (s : String) : Match := ⟨⟨s.toList, s.length⟩, []⟩

end Match

namespace Pattern

/-- The first match that starts at a position. -/
def matchFrom (p : Pattern) (k : Cursor) : Option Match :=
  (p.matchAt { k with groups := [] }).map fun e =>
    ⟨⟨k.rest, e.pos - k.pos⟩, e.groups⟩

/-- The first match at the start of a text. -/
def match? (p : Pattern) (cs : List Char) : Option Match :=
  p.matchFrom { rest := cs }

/-- The leftmost match at or after a position. -/
def searchFrom (p : Pattern) : Cursor → List Char → Option Match
  | k, [] => p.matchFrom { k with rest := [] }
  | k, c :: rest =>
    let k := { k with rest := c :: rest }
    (p.matchFrom k).orElse fun _ => p.searchFrom (k.next c rest) rest

/-- The leftmost match in a text. -/
def search? (p : Pattern) (s : String) : Option Match :=
  p.searchFrom { rest := [] } s.toList

/-- Replace matches from left to right. `skip` characters belong to a match that was replaced. -/
def replaceFrom (p : Pattern) (replacement : Match → List Char) :
    (skip : Nat) → Cursor → List Char → List Char
  | 0, k, [] =>
    match p.matchFrom { k with rest := [] } with
    | some m => replacement m
    | none => []
  | _ + 1, _, [] => []
  | skip + 1, k, c :: rest => p.replaceFrom replacement skip (k.next c rest) rest
  | 0, k, c :: rest =>
    let k := { k with rest := c :: rest }
    match p.matchFrom k with
    | none => c :: p.replaceFrom replacement 0 (k.next c rest) rest
    | some m =>
      if m.length == 0 then
        replacement m ++ c :: p.replaceFrom replacement 0 (k.next c rest) rest
      else
        replacement m ++ p.replaceFrom replacement (m.length - 1) (k.next c rest) rest

/-- A text with every match replaced; matches do not overlap. -/
def replaceAll (p : Pattern) (replacement : Match → List Char) (s : String) : String :=
  String.ofList (p.replaceFrom replacement 0 { rest := [] } s.toList)

end Pattern

end HeaderBind
