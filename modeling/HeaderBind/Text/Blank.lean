/-!
# Blank space and line breaks

Which characters separate words and which end lines, and the operations built on them: trimming,
splitting into words, lines, and the pieces between separators.
-/

namespace HeaderBind.Text

/-- The code point ranges of blank characters: control characters that move the print position, the
four separators of information, and the spaces and separators of Unicode. -/
def blankRanges : List (Nat × Nat) :=
  [(0x09, 0x0d), (0x1c, 0x20), (0x85, 0x85), (0xa0, 0xa0), (0x1680, 0x1680), (0x2000, 0x200a),
   (0x2028, 0x2029), (0x202f, 0x202f), (0x205f, 0x205f), (0x3000, 0x3000)]

/-- Whether a character is blank. -/
def isBlank (c : Char) : Bool :=
  blankRanges.any fun (lo, hi) => lo ≤ c.toNat && c.toNat ≤ hi

/-- The code point ranges of characters that end a line. -/
def lineBreakRanges : List (Nat × Nat) :=
  [(0x0a, 0x0d), (0x1c, 0x1e), (0x85, 0x85), (0x2028, 0x2029)]

/-- Whether a character ends a line. -/
def isLineBreak (c : Char) : Bool :=
  lineBreakRanges.any fun (lo, hi) => lo ≤ c.toNat && c.toNat ≤ hi

/-- Drop the blanks at the end of a list of characters. -/
def trimRight (cs : List Char) : List Char :=
  (cs.reverse.dropWhile isBlank).reverse

/-- A text without the blanks at its two ends. -/
def strip (s : String) : String :=
  String.ofList (trimRight (s.toList.dropWhile isBlank))

/-- A text without the blanks at its end. -/
def stripEnd (s : String) : String :=
  String.ofList (trimRight s.toList)

/-- The maximal runs of characters that are not blank; `word` is the run being read, reversed. -/
def wordsFrom (word : List Char) : List Char → List (List Char)
  | [] => if word.isEmpty then [] else [word.reverse]
  | c :: cs =>
    if isBlank c then
      if word.isEmpty then wordsFrom [] cs else word.reverse :: wordsFrom [] cs
    else wordsFrom (c :: word) cs

/-- The words of a text. -/
def words (s : String) : List String :=
  (wordsFrom [] s.toList).map String.ofList

/-- The lines of a list of characters; `line` is the line being read, reversed. A carriage return
and the line feed after it are one break, and nothing follows the last break. -/
def linesFrom (line : List Char) : List Char → List (List Char)
  | [] => if line.isEmpty then [] else [line.reverse]
  | '\r' :: '\n' :: cs => line.reverse :: linesFrom [] cs
  | c :: cs => if isLineBreak c then line.reverse :: linesFrom [] cs else linesFrom (c :: line) cs

/-- The lines of a text, without their ends. -/
def lines (s : String) : List String :=
  (linesFrom [] s.toList).map String.ofList

/-- The pieces of a list of characters between separators; `piece` is the one being read, reversed. -/
def piecesFrom (separator : Char) (piece : List Char) : List Char → List (List Char)
  | [] => [piece.reverse]
  | c :: cs =>
    if c == separator then piece.reverse :: piecesFrom separator [] cs
    else piecesFrom separator (c :: piece) cs

/-- The pieces of a text between separators. -/
def pieces (separator : Char) (s : String) : List String :=
  (piecesFrom separator [] s.toList).map String.ofList

end HeaderBind.Text
