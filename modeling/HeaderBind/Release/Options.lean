import HeaderBind.Fault
import HeaderBind.Text.Blank

/-!
# Options of an update

The arguments of the command that updates the sources. A long option may be cut short as long as
only one option starts that way, and short options may stand together.
-/

namespace HeaderBind.Release

/-- What an option asks for. -/
inductive Wish where
  | help
  | useHead
  | verbose
deriving DecidableEq, Repr, Inhabited

/-- The long options. -/
def longOptions : List (String × Wish) :=
  [("--help", .help), ("--use-head", .useHead), ("--use_head", .useHead), ("--verbose", .verbose)]

/-- The short options. -/
def shortOption? : Char → Option Wish
  | 'h' => some .help
  | 'v' => some .verbose
  | _ => none

/-- What an argument means. -/
inductive Argument where
  /-- It asks for something; what follows may be unknown. -/
  | wishes (ws : List Wish) (complete : Bool)
  /-- It is the start of several options. -/
  | ambiguous
  /-- It gives a value to an option that takes none. -/
  | misused
  /-- It is no option. -/
  | unknown
  /-- Everything after it is no option. -/
  | last
deriving DecidableEq, Repr, Inhabited

/-- The meaning of letters after a dash; `seen` are the wishes before them. -/
def readLetters (seen : List Wish) : List Char → Argument
  | [] => .wishes seen true
  | '-' :: _ => .misused
  | c :: rest =>
    match shortOption? c with
    | some w => readLetters (seen ++ [w]) rest
    | none => .wishes seen false

/-- The meaning of a long option, which may be cut short. -/
def readLong (name : String) (hasValue : Bool) : Argument :=
  let found := match longOptions.lookup name with
    | some w => [w]
    | none => (longOptions.filter fun o => o.1.startsWith name).map Prod.snd
  match found with
  | [] => .unknown
  | [w] => if hasValue then .misused else .wishes [w] true
  | _ => .ambiguous

/-- The meaning of an argument. -/
def readArgument (argument : String) : Argument :=
  let hasValue := argument.toList.contains '='
  if argument == "--" then .last
  else if argument.startsWith "--" then
    readLong ((Text.pieces '=' argument).headD "") hasValue
  else
    match argument.toList with
    | ['-', c, '='] => if (shortOption? c).isSome then .misused else .unknown
    | '-' :: c :: '=' :: _ => if (shortOption? c).isSome then .misused else .unknown
    | '-' :: c :: rest =>
      match shortOption? c with
      | some w => readLetters [w] rest
      | none => .unknown
    | _ => .unknown

/-- What was asked for. -/
structure Options where
  useHead : Bool := false
  verbose : Bool := false
deriving DecidableEq, Repr, Inhabited

/-- Take over a wish. Help ends the program. -/
def Options.grant (o : Options) : Wish → Except Fault Options
  | .help => .error (.exit 0)
  | .useHead => .ok { o with useHead := true }
  | .verbose => .ok { o with verbose := true }

/-- The exit code for arguments that cannot be used. -/
def usageError : Fault := .exit 2

/-- Take over the meanings of arguments in order. Arguments that are no options are refused in the
end, so that a wish for help goes first. -/
def Options.apply (o : Options) (complete : Bool) : List Argument → Except Fault Options
  | [] => if complete then .ok o else .error usageError
  | .wishes ws whole :: rest => do
    let o ← ws.foldlM Options.grant o
    o.apply (complete && whole) rest
  | .ambiguous :: _ | .misused :: _ => .error usageError
  | .unknown :: rest => o.apply false rest
  | .last :: _ => .error usageError

/-- Read the arguments of the command. An ambiguous option is refused before all others. -/
def Options.read (arguments : List String) : Except Fault Options := do
  let meanings := arguments.map readArgument
  if (meanings.takeWhile (· != .last)).contains .ambiguous then
    throw usageError
  Options.apply {} true meanings

end HeaderBind.Release
