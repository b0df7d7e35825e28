import HeaderBind.Fault
import HeaderBind.Pattern.Basic

/-!
# The text of a pattern

Patterns are written in the usual way: characters stand for themselves; a dot for any character;
sets in brackets; a backslash takes the meaning from a sign or gives one to a letter; parentheses
group; a bar separates alternatives; a star, a plus or a question mark repeats, lazily with another
question mark; a caret is the start of the text or, where asked for, of a line.
-/

namespace HeaderBind.Pattern

/-- How the text of a pattern is read. -/
structure Options where
  /-- Whether a caret also matches at the start of every line. -/
  multiline : Bool := false
  /-- Whether a dot also matches a line end. -/
  dotAll : Bool := true
deriving Repr, Inhabited

/-- The pieces of the text of a pattern. -/
inductive Token where
  | one (s : CharSet)
  | caret
  | opening (captures : Bool)
  | closing
  | bar
  | star
  | plus
  | question
deriving DecidableEq, Repr, Inhabited

/-- The digits and letters of ASCII, and the underscore. -/
def wordItems : List CharSet.Item :=
  [.range '0' '9', .range 'A' 'Z', .range '_' '_', .range 'a' 'z']

/-- The value of a hexadecimal digit. -/
def hexDigit? (c : Char) : Option Nat :=
  if c.isDigit then some (c.toNat - '0'.toNat)
  else if 'a' ≤ c && c ≤ 'f' then some (c.toNat - 'a'.toNat + 10)
  else if 'A' ≤ c && c ≤ 'F' then some (c.toNat - 'A'.toNat + 10)
  else none

/-- What a backslash and a letter or sign stand for, one character only. -/
def escapedChar? (c : Char) : Option Char :=
  match c with
  | 'n' => some '\n'
  | 't' => some '\t'
  | 'r' => some '\r'
  | 'f' => some '\x0c'
  | 'v' => some '\x0b'
  | 'a' => some '\x07'
  | '0' => some '\x00'
  | c => if c.isAlpha || c.isDigit then none else some c

/-- A character or class after a backslash, and what follows it. -/
def readEscape : List Char → Except Fault ((Char ⊕ CharSet) × List Char)
  | [] => .error .badPattern
  | 's' :: rest => .ok (.inr ⟨false, [.blank]⟩, rest)
  | 'S' :: rest => .ok (.inr ⟨false, [.notBlank]⟩, rest)
  | 'd' :: rest => .ok (.inr ⟨false, [.range '0' '9']⟩, rest)
  | 'D' :: rest => .ok (.inr ⟨true, [.range '0' '9']⟩, rest)
  | 'w' :: rest => .ok (.inr ⟨false, wordItems⟩, rest)
  | 'W' :: rest => .ok (.inr ⟨true, wordItems⟩, rest)
  | 'x' :: h :: l :: rest =>
    match hexDigit? h, hexDigit? l with
    | some h, some l => .ok (.inl (Char.ofNat (16 * h + l)), rest)
    | _, _ => .error .badPattern
  | c :: rest =>
    match escapedChar? c with
    | some d => .ok (.inl d, rest)
    | none => .error .badPattern

/-- One member of a bracketed set and what follows it. -/
def readMember : List Char → Except Fault ((Char ⊕ CharSet) × List Char)
  | [] => .error .badPattern
  | '\\' :: rest => readEscape rest
  | c :: rest => .ok (.inl c, rest)

/-- The members of a bracketed set up to the closing bracket, which stands for itself in the first
place. The fuel bounds the number of members. -/
def readSet : Nat → (first : Bool) → List CharSet.Item → List Char →
    Except Fault (List CharSet.Item × List Char)
  | 0, _, _, _ => .error .badPattern
  | fuel + 1, first, items, cs => do
    match first, cs with
    | false, ']' :: rest => return (items.reverse, rest)
    | _, cs =>
      let (low, rest) ← readMember cs
      match low, rest with
      | .inr class_, '-' :: rest' =>
        match rest' with
        | ']' :: rest'' =>
          return ((class_.items.reverse ++ items).reverse ++ [.range '-' '-'], rest'')
        | _ => throw .badPattern
      | .inr class_, rest => readSet fuel false (class_.items.reverse ++ items) rest
      | .inl low, '-' :: ']' :: rest' =>
        return ((.range '-' '-' :: .range low low :: items).reverse, rest')
      | .inl low, '-' :: rest' =>
        let (high, rest) ← readMember rest'
        match high with
        | .inl high =>
          if high < low then throw .badPattern
          readSet fuel false (.range low high :: items) rest
        | .inr _ => throw .badPattern
      | .inl low, rest => readSet fuel false (.range low low :: items) rest

/-- The pieces of the text of a pattern. The fuel bounds their number. -/
def tokens (o : Options) : Nat → List Char → Except Fault (List Token)
  | _, [] => .ok []
  | 0, _ :: _ => .error .badPattern
  | fuel + 1, c :: rest => do
    match c, rest with
    | '\\', rest =>
      let (what, rest) ← readEscape rest
      let one := match what with
        | .inl d => CharSet.single d
        | .inr s => s
      return .one one :: (← tokens o fuel rest)
    | '[', '^' :: rest =>
      let (items, rest) ← readSet (rest.length + 1) true [] rest
      return .one ⟨true, items⟩ :: (← tokens o fuel rest)
    | '[', rest =>
      let (items, rest) ← readSet (rest.length + 1) true [] rest
      return .one ⟨false, items⟩ :: (← tokens o fuel rest)
    | '(', '?' :: ':' :: rest => return .opening false :: (← tokens o fuel rest)
    | '(', '?' :: _ => throw .badPattern
    | '(', rest => return .opening true :: (← tokens o fuel rest)
    | ')', rest => return .closing :: (← tokens o fuel rest)
    | '|', rest => return .bar :: (← tokens o fuel rest)
    | '*', rest => return .star :: (← tokens o fuel rest)
    | '+', rest => return .plus :: (← tokens o fuel rest)
    | '?', rest => return .question :: (← tokens o fuel rest)
    | '^', rest => return .caret :: (← tokens o fuel rest)
    | '.', rest =>
      let dot : CharSet := if o.dotAll then CharSet.any else ⟨true, [.range '\n' '\n']⟩
      return .one dot :: (← tokens o fuel rest)
    | c, rest => return .one (CharSet.single c) :: (← tokens o fuel rest)

/-- A part of a sequence. -/
structure Part where
  pattern : Pattern
  /-- Whether a repetition may follow. -/
  repeatable : Bool
deriving Repr, Inhabited

/-- A group that is being read: its number when it captures, the alternatives before the last bar,
and the parts after it, latest first. -/
structure Frame where
  number : Option Nat
  alternatives : List Pattern := []
  parts : List Part := []
deriving Repr, Inhabited

namespace Frame

/-- The parts in order as one pattern. -/
def sequence : List Part → Pattern
  | [] => .empty
  | [part] => part.pattern
  | part :: rest => .seq part.pattern (sequence rest)

/-- The alternatives in order as one pattern. -/
def choice : List Pattern → Pattern
  | [] => .empty
  | [p] => p
  | p :: rest => .alt p (choice rest)

/-- Start a new alternative. -/
def bar (f : Frame) : Frame :=
  { f with alternatives := sequence f.parts.reverse :: f.alternatives, parts := [] }

/-- The whole group as one pattern. -/
def finish (f : Frame) : Pattern :=
  let p := choice (f.bar.alternatives.reverse)
  match f.number with
  | some n => .group n p
  | none => p

/-- Add a part. -/
def add (f : Frame) (p : Pattern) (repeatable : Bool) : Frame :=
  { f with parts := ⟨p, repeatable⟩ :: f.parts }

/-- Repeat the last part. There has to be one, and it must not be repeated already. -/
def onLast (f : Frame) (g : Pattern → Pattern) : Except Fault Frame :=
  match f.parts with
  | ⟨p, true⟩ :: rest => .ok { f with parts := ⟨g p, false⟩ :: rest }
  | _ => .error .badPattern

end Frame

/-- Assemble a pattern from its pieces. `outer` are the groups around the one being read and `count`
is the number of groups opened so far. -/
def assemble (o : Options) (outer : List Frame) (f : Frame) (count : Nat) :
    List Token → Except Fault Pattern
  | [] => if outer.isEmpty then .ok f.finish else .error .badPattern
  | .one s :: ts => assemble o outer (f.add (.set s) true) count ts
  | .caret :: ts =>
    assemble o outer (f.add (if o.multiline then .lineStart else .textStart) false) count ts
  | .bar :: ts => assemble o outer f.bar count ts
  | .opening true :: ts => assemble o (f :: outer) { number := some (count + 1) } (count + 1) ts
  | .opening false :: ts => assemble o (f :: outer) { number := none } count ts
  | .closing :: ts =>
    match outer with
    | [] => .error .badPattern
    | g :: outer => assemble o outer (g.add f.finish true) count ts
  | .star :: .question :: ts => do
    assemble o outer (← f.onLast (.many true ·)) count ts
  | .star :: ts => do
    assemble o outer (← f.onLast (.many false ·)) count ts
  | .plus :: .question :: ts => do
    assemble o outer (← f.onLast fun p => .seq p (.many true p)) count ts
  | .plus :: ts => do
    assemble o outer (← f.onLast fun p => .seq p (.many false p)) count ts
  | .question :: .question :: ts => do
    assemble o outer (← f.onLast (.maybe true ·)) count ts
  | .question :: ts => do
    assemble o outer (← f.onLast (.maybe false ·)) count ts

/-- Read the text of a pattern. -/
def parse (o : Options) (text : String) : Except Fault Pattern := do
  let cs := text.toList
  assemble o [] { number := none } 0 (← tokens o cs.length cs)

end HeaderBind.Pattern
