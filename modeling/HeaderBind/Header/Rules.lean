import HeaderBind.Lexer.Rule

/-!
# Rules for headers

What is recognized in a C header, in the order in which it is tried. Comments and blanks come first;
a class starts and ends with a macro of its own, and so does each of its methods.
-/

namespace HeaderBind.Header

/-- A rule: its states, its text, its actions, and the next state. -/
def rule (states text token : String) (next : Option String := none) : Lexer.Columns :=
  [some states, some text, some token, next]

/-- The rule table for headers. -/
def table : List Lexer.Columns :=
  [ -- Constants; macros with arguments are ignored.
   rule "INITIAL" r"#define\s+" "PUSH_STATE" (some "DEFINE"),
   rule "DEFINE" r"([A-Za-z_0-9]+)\s+[^\n]+" "DEFINE,POP_STATE",
   rule "DEFINE" r"\n" "POP_STATE",
   rule "DEFINE" r"\([^\n]+" "POP_STATE",
   -- Comments; an empty line clears them.
   rule "." r"/\*(.)" "PUSH_STATE" (some "COMMENT"),
   rule "COMMENT" r"(.+?)\*/\s+" "COMMENT_END,POP_STATE",
   rule "COMMENT" r"(.+)" "COMMENT",
   rule "." r"//([^\n]+)" "COMMENT",
   rule "." r"\r?\n\r?\n" "CLEAR_COMMENT",
   -- Blanks.
   rule "." r"\s+" "SPACE",
   rule "." r"\\\n" "SPACE",
   -- Classes.
   rule "INITIAL" r"^([A-Z]+)?\s*CCLASS\(([A-Z_a-z0-9]+)\s*,\s*([A-Z_a-z0-9]+)\)"
     "PUSH_STATE,CCLASS_START" (some "CCLASS"),
   rule "CCLASS"
     (r"^\s*(FOREIGN|ABSTRACT|PRIVATE)?([0-9A-Z_a-z ]+( |\*))"
       ++ r"METHOD\(([A-Z_a-z0-9]+),\s*([A-Z_a-z0-9]+),?")
     "PUSH_STATE,METHOD_START" (some "METHOD"),
   rule "METHOD" r"\s*([0-9A-Z a-z_]+\s+\*?\*?)([0-9A-Za-z_]+),?" "METHOD_ARG",
   rule "METHOD" r"\);" "POP_STATE,METHOD_END",
   rule "CCLASS" r"^\s*(FOREIGN|ABSTRACT)?([0-9A-Z_a-z ]+\s+\*?)\s*([A-Z_a-z0-9]+)\s*;"
     "CCLASS_ATTRIBUTE",
   rule "CCLASS" "END_CCLASS" "END_CCLASS,POP_STATE",
   -- Structs, with a name of their own or named by a typedef.
   rule "INITIAL" r#"([A-Z_a-z0-9 ]+)?struct\s+([A-Z_a-z0-9]+)\s+{"# "PUSH_STATE,STRUCT_START"
     (some "STRUCT"),
   rule "INITIAL" r#"typedef\s+struct\s+{"# "PUSH_STATE,TYPEDEF_STRUCT_START" (some "STRUCT"),
   rule "STRUCT"
     r"^\s*([0-9A-Z_a-z ]+\s+\*?)\s*([A-Z_a-z0-9]+)(?:\[([A-Z_a-z0-9]+)\])?\s*;"
     "STRUCT_ATTRIBUTE",
   rule "STRUCT" r"^\s*([0-9A-Z_a-z ]+)\*\s+([A-Z_a-z0-9]+)\s*;" "STRUCT_ATTRIBUTE_PTR",
   rule "STRUCT" r#"}\s+([0-9A-Za-z_]+);"# "POP_STATE,TYPEDEF_STRUCT_END",
   rule "STRUCT" "\x7d" "POP_STATE,STRUCT_END",
   -- Structs and unions inside of structs are skipped.
   rule "(RECURSIVE_)?STRUCT" r#"(struct|union)\s+([_A-Za-z0-9]+)?\s*{"# "PUSH_STATE"
     (some "RECURSIVE_STRUCT"),
   rule "RECURSIVE_STRUCT" r#"}\s+[0-9A-Za-z]+"# "POP_STATE",
   rule "RECURSIVE_STRUCT" "\x7d;" "POP_STATE",
   -- Enums, with a name of their own or named by a typedef.
   rule "INITIAL" r#"enum\s+([0-9A-Za-z_]+)\s+{"# "PUSH_STATE,ENUM_START" (some "ENUM"),
   rule "INITIAL" r#"typedef\s+enum\s+{"# "PUSH_STATE,TYPEDEF_ENUM_START" (some "ENUM"),
   rule "ENUM" r"([0-9A-Za-z_]+)\s+=[^\n]+" "ENUM_VALUE",
   rule "ENUM" r#"}\s+([0-9A-Za-z_]+);"# "POP_STATE,TYPEDEFED_ENUM_END",
   rule "ENUM" "\x7d" "POP_STATE,ENUM_END",
   -- Requests for structs, and other names for types.
   rule "INITIAL" r"BIND_STRUCT\(([0-9A-Za-z_ \*]+)\)" "BIND_STRUCT",
   rule "INITIAL" r"typedef ([A-Za-z_0-9]+) +([^;]+);" "SIMPLE_TYPEDEF"]

end HeaderBind.Header
