import HeaderBind.Header.Rules
import HeaderBind.Proofs.Act
import HeaderBind.Proofs.Pattern.Language

/-!
# The rules for headers, read

The rule table for headers is written as text. Here stand the rules that it reads to, one by one, so
that a proof can name them (`readTable_table`), and for each state the rules that apply in it, in the
order in which they are tried.
-/

namespace HeaderBind.Header.Table

open Lexer Pattern

/-- The characters of a text, one after the other. -/
def spelled (cs : List Char) : List Pattern :=
  cs.map char

/-- The characters in some ranges. -/
def within (ranges : List (Char × Char)) : CharSet :=
  ⟨false, ranges.map fun r => .range r.1 r.2⟩

/-- A character of a name. The table writes this set in several orders. -/
def name : Pattern := set (within [('A', 'Z'), ('_', '_'), ('a', 'z'), ('0', '9')])

/-- A name, in another order of its set. -/
def name' : Pattern := set (within [('0', '9'), ('A', 'Z'), ('a', 'z'), ('_', '_')])

/-- A character of a name or a space: a type is a run of these. -/
def nameOrSpace : Pattern :=
  set (within [('0', '9'), ('A', 'Z'), ('_', '_'), ('a', 'z'), (' ', ' ')])

/-- A character that is not a line end. -/
def inLine : Pattern := noneOf ['\n']

/-- Any character. -/
def anyChar : Pattern := set CharSet.any

/-- A pattern that may be left out. -/
def optional (p : Pattern) : Pattern := maybe false p

/-- A rule that applies in one state. -/
def inState (state : List Char) (pattern : List Pattern) (source token : String)
    (next : Option String := none) : Rule :=
  { states := inOrder (spelled state), pattern := inOrder pattern, source, token := some token, next }

/-- A rule that applies in every state. -/
def everywhere (pattern : List Pattern) (source token : String)
    (next : Option String := none) : Rule :=
  { states := anyChar, pattern := inOrder pattern, source, token := some token, next }

/-! ### States -/

def initial : List Char := ['I', 'N', 'I', 'T', 'I', 'A', 'L']
def define : List Char := ['D', 'E', 'F', 'I', 'N', 'E']
def comment : List Char := ['C', 'O', 'M', 'M', 'E', 'N', 'T']
def cclass : List Char := ['C', 'C', 'L', 'A', 'S', 'S']
def method : List Char := ['M', 'E', 'T', 'H', 'O', 'D']
def struct : List Char := ['S', 'T', 'R', 'U', 'C', 'T']
def inner : List Char := ['R', 'E', 'C', 'U', 'R', 'S', 'I', 'V', 'E', '_', 'S', 'T', 'R', 'U', 'C', 'T']
def enum : List Char := ['E', 'N', 'U', 'M']

/-! ### Constants -/

def startDefine : Rule :=
  inState initial (spelled ['#', 'd', 'e', 'f', 'i', 'n', 'e'] ++ [plus blank]) r"#define\s+" "PUSH_STATE" (some "DEFINE")

def defineConstant : Rule :=
  inState define
    [group 1 (plus (set (within [('A', 'Z'), ('a', 'z'), ('_', '_'), ('0', '9')]))), plus blank,
     plus inLine]
    r"([A-Za-z_0-9]+)\s+[^\n]+" "DEFINE,POP_STATE"

def defineLineEnd : Rule :=
  inState define [char '\n'] r"\n" "POP_STATE"

def defineMacro : Rule :=
  inState define [char '(', plus inLine] r"\([^\n]+" "POP_STATE"

/-! ### Comments and blanks -/

def startComment : Rule :=
  everywhere [char '/', char '*', group 1 anyChar] r"/\*(.)" "PUSH_STATE" (some "COMMENT")

def endComment : Rule :=
  inState comment
    [group 1 (seq anyChar (many true anyChar)), char '*', char '/', plus blank]
    r"(.+?)\*/\s+" "COMMENT_END,POP_STATE"

def openComment : Rule :=
  inState comment [group 1 (plus anyChar)] r"(.+)" "COMMENT"

def lineComment : Rule :=
  everywhere [char '/', char '/', group 1 (plus inLine)] r"//([^\n]+)" "COMMENT"

def emptyLine : Rule :=
  everywhere [optional (char '\r'), char '\n', optional (char '\r'), char '\n'] r"\r?\n\r?\n"
    "CLEAR_COMMENT"

def blanks : Rule :=
  everywhere [plus blank] r"\s+" "SPACE"

def continuedLine : Rule :=
  everywhere [char '\\', char '\n'] r"\\\n" "SPACE"

/-! ### Classes -/

def startClass : Rule :=
  inState initial
    ([lineStart, optional (group 1 (plus (set (within [('A', 'Z')])))), star blank]
      ++ spelled ['C', 'C', 'L', 'A', 'S', 'S', '(']
      ++ [group 2 (plus name), star blank, char ',', star blank, group 3 (plus name), char ')'])
    r"^([A-Z]+)?\s*CCLASS\(([A-Z_a-z0-9]+)\s*,\s*([A-Z_a-z0-9]+)\)" "PUSH_STATE,CCLASS_START"
    (some "CCLASS")

def startMethod : Rule :=
  inState cclass
    ([lineStart, star blank,
      optional (group 1 (alt (inOrder (spelled ['F', 'O', 'R', 'E', 'I', 'G', 'N'])) (alt (inOrder (spelled ['A', 'B', 'S', 'T', 'R', 'A', 'C', 'T'])) (inOrder (spelled ['P', 'R', 'I', 'V', 'A', 'T', 'E']))))),
      group 2 (inOrder [plus nameOrSpace, group 3 (alt (char ' ') (char '*'))])]
      ++ spelled ['M', 'E', 'T', 'H', 'O', 'D', '(']
      ++ [group 4 (plus name), char ',', star blank, group 5 (plus name), optional (char ',')])
    (r"^\s*(FOREIGN|ABSTRACT|PRIVATE)?([0-9A-Z_a-z ]+( |\*))"
      ++ r"METHOD\(([A-Z_a-z0-9]+),\s*([A-Z_a-z0-9]+),?")
    "PUSH_STATE,METHOD_START" (some "METHOD")

def methodArgument : Rule :=
  inState method
    [star blank,
     group 1 (inOrder
       [plus (set (within [('0', '9'), ('A', 'Z'), (' ', ' '), ('a', 'z'), ('_', '_')])),
        plus blank, optional (char '*'), optional (char '*')]),
     group 2 (plus name'), optional (char ',')]
    r"\s*([0-9A-Z a-z_]+\s+\*?\*?)([0-9A-Za-z_]+),?" "METHOD_ARG"

def endMethod : Rule :=
  inState method [char ')', char ';'] r"\);" "POP_STATE,METHOD_END"

def classAttribute : Rule :=
  inState cclass
    [lineStart, star blank,
     optional (group 1 (alt (inOrder (spelled ['F', 'O', 'R', 'E', 'I', 'G', 'N'])) (inOrder (spelled ['A', 'B', 'S', 'T', 'R', 'A', 'C', 'T'])))),
     group 2 (inOrder [plus nameOrSpace, plus blank, optional (char '*')]),
     star blank, group 3 (plus name), star blank, char ';']
    r"^\s*(FOREIGN|ABSTRACT)?([0-9A-Z_a-z ]+\s+\*?)\s*([A-Z_a-z0-9]+)\s*;" "CCLASS_ATTRIBUTE"

def endClass : Rule :=
  inState cclass (spelled ['E', 'N', 'D', '_', 'C', 'C', 'L', 'A', 'S', 'S']) "END_CCLASS" "END_CCLASS,POP_STATE"

/-! ### Structs -/

def startStruct : Rule :=
  inState initial
    ([optional (group 1 (plus (set (within
        [('A', 'Z'), ('_', '_'), ('a', 'z'), ('0', '9'), (' ', ' ')]))))]
      ++ spelled ['s', 't', 'r', 'u', 'c', 't'] ++ [plus blank, group 2 (plus name), plus blank, char '\x7b'])
    r#"([A-Z_a-z0-9 ]+)?struct\s+([A-Z_a-z0-9]+)\s+{"# "PUSH_STATE,STRUCT_START" (some "STRUCT")

def startNamelessStruct : Rule :=
  inState initial
    (spelled ['t', 'y', 'p', 'e', 'd', 'e', 'f'] ++ [plus blank] ++ spelled ['s', 't', 'r', 'u', 'c', 't'] ++ [plus blank, char '\x7b'])
    r#"typedef\s+struct\s+{"# "PUSH_STATE,TYPEDEF_STRUCT_START" (some "STRUCT")

def structAttribute : Rule :=
  inState struct
    [lineStart, star blank,
     group 1 (inOrder [plus nameOrSpace, plus blank, optional (char '*')]),
     star blank, group 2 (plus name),
     optional (inOrder [char '[', group 3 (plus name), char ']']), star blank, char ';']
    r"^\s*([0-9A-Z_a-z ]+\s+\*?)\s*([A-Z_a-z0-9]+)(?:\[([A-Z_a-z0-9]+)\])?\s*;"
    "STRUCT_ATTRIBUTE"

def structPointer : Rule :=
  inState struct
    [lineStart, star blank, group 1 (plus nameOrSpace), char '*', plus blank, group 2 (plus name),
     star blank, char ';']
    r"^\s*([0-9A-Z_a-z ]+)\*\s+([A-Z_a-z0-9]+)\s*;" "STRUCT_ATTRIBUTE_PTR"

def endNamedStruct : Rule :=
  inState struct [char '\x7d', plus blank, group 1 (plus name'), char ';']
    r#"}\s+([0-9A-Za-z_]+);"# "POP_STATE,TYPEDEF_STRUCT_END"

def endStruct : Rule :=
  inState struct [char '\x7d'] "\x7d" "POP_STATE,STRUCT_END"

def startInner : Rule :=
  { states := inOrder (optional (group 1 (inOrder (spelled ['R', 'E', 'C', 'U', 'R', 'S', 'I', 'V', 'E', '_']))) :: spelled ['S', 'T', 'R', 'U', 'C', 'T'])
    pattern := inOrder
      [group 1 (alt (inOrder (spelled ['s', 't', 'r', 'u', 'c', 't'])) (inOrder (spelled ['u', 'n', 'i', 'o', 'n']))), plus blank,
       optional (group 2 (plus (set (within [('_', '_'), ('A', 'Z'), ('a', 'z'), ('0', '9')])))),
       star blank, char '\x7b']
    source := r#"(struct|union)\s+([_A-Za-z0-9]+)?\s*{"#
    token := some "PUSH_STATE"
    next := some "RECURSIVE_STRUCT" }

def endNamedInner : Rule :=
  inState inner
    [char '\x7d', plus blank, plus (set (within [('0', '9'), ('A', 'Z'), ('a', 'z')]))]
    r#"}\s+[0-9A-Za-z]+"# "POP_STATE"

def endInner : Rule :=
  inState inner [char '\x7d', char ';'] "\x7d;" "POP_STATE"

/-! ### Enums -/

def startEnum : Rule :=
  inState initial
    (spelled ['e', 'n', 'u', 'm'] ++ [plus blank, group 1 (plus name'), plus blank, char '\x7b'])
    r#"enum\s+([0-9A-Za-z_]+)\s+{"# "PUSH_STATE,ENUM_START" (some "ENUM")

def startNamelessEnum : Rule :=
  inState initial
    (spelled ['t', 'y', 'p', 'e', 'd', 'e', 'f'] ++ [plus blank] ++ spelled ['e', 'n', 'u', 'm'] ++ [plus blank, char '\x7b'])
    r#"typedef\s+enum\s+{"# "PUSH_STATE,TYPEDEF_ENUM_START" (some "ENUM")

def enumValue : Rule :=
  inState enum [group 1 (plus name'), plus blank, char '=', plus inLine]
    r"([0-9A-Za-z_]+)\s+=[^\n]+" "ENUM_VALUE"

def endNamedEnum : Rule :=
  inState enum [char '\x7d', plus blank, group 1 (plus name'), char ';']
    r#"}\s+([0-9A-Za-z_]+);"# "POP_STATE,TYPEDEFED_ENUM_END"

def endEnum : Rule :=
  inState enum [char '\x7d'] "\x7d" "POP_STATE,ENUM_END"

/-! ### Requests -/

def bindStruct : Rule :=
  inState initial
    (spelled ['B', 'I', 'N', 'D', '_', 'S', 'T', 'R', 'U', 'C', 'T', '(']
      ++ [group 1 (plus (set (within
            [('0', '9'), ('A', 'Z'), ('a', 'z'), ('_', '_'), (' ', ' '), ('*', '*')]))),
          char ')'])
    r"BIND_STRUCT\(([0-9A-Za-z_ \*]+)\)" "BIND_STRUCT"

def aliasType : Rule :=
  inState initial
    (spelled ['t', 'y', 'p', 'e', 'd', 'e', 'f', ' ']
      ++ [group 1 (plus (set (within [('A', 'Z'), ('a', 'z'), ('_', '_'), ('0', '9')]))),
          plus (char ' '), group 2 (plus (noneOf [';'])), char ';'])
    r"typedef ([A-Za-z_0-9]+) +([^;]+);" "SIMPLE_TYPEDEF"

/-- The rules for headers, in the order in which they are tried. -/
def rules : List Rule :=
  [startDefine, defineConstant, defineLineEnd, defineMacro, startComment, endComment, openComment,
   lineComment, emptyLine, blanks, continuedLine, startClass, startMethod, methodArgument,
   endMethod, classAttribute, endClass, startStruct, startNamelessStruct, structAttribute,
   structPointer, endNamedStruct, endStruct, startInner, endNamedInner, endInner, startEnum,
   startNamelessEnum, enumValue, endNamedEnum, endEnum, bindStruct, aliasType]

/-! ### Reading the table -/

lemma parse_ofList {o : Options} {cs : List Char} {p : Pattern}
    (h : (tokens o cs.length cs >>= assemble o [] { number := none } 0).toOption = some p) :
    Pattern.parse o (String.ofList cs) = .ok p := by
  have hp : Pattern.parse o (String.ofList cs) =
      tokens o cs.length cs >>= assemble o [] { number := none } 0 := by
    rw [Pattern.parse, String.toList_ofList]
  rw [hp]
  rcases he : tokens o cs.length cs >>= assemble o [] { number := none } 0 with _ | q <;>
    rw [he] at h <;> cases h
  rfl

/-- A text that is written on two lines. -/
lemma parse_append {o : Options} {cs ds : List Char} {p : Pattern}
    (h : (tokens o (cs ++ ds).length (cs ++ ds) >>=
      assemble o [] { number := none } 0).toOption = some p) :
    Pattern.parse o (String.ofList cs ++ String.ofList ds) = .ok p := by
  rw [← String.ofList_append]
  exact parse_ofList h

lemma readRow_rule {states text token : String} {next : Option String} {p q : Pattern}
    (hp : Pattern.parse {} states = .ok p)
    (hq : Pattern.parse { multiline := true } text = .ok q) :
    readRow (rule states text token next) =
      .ok (.rule { states := p, pattern := q, source := text, token := some token, next }) := by
  simp only [rule, readRow, patternIn, hp, hq]
  rfl

/-- The table reads to these rules. -/
theorem readTable_table : readTable table = .ok (rules.map .rule) := by
  refine mapM_eq_ok_iff.mpr ?_
  -- All rows but one are read alike; the text of the rule for methods is put together from two.
  iterate 12
    refine .cons (readRow_rule (parse_ofList (by decide +kernel))
      (parse_ofList (by decide +kernel))) ?_
  refine .cons (readRow_rule (parse_ofList (by decide +kernel))
    (parse_append (by decide +kernel))) ?_
  iterate 20
    refine .cons (readRow_rule (parse_ofList (by decide +kernel))
      (parse_ofList (by decide +kernel))) ?_
  exact .nil

end HeaderBind.Header.Table
