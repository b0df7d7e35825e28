import HeaderBind.Act
import HeaderBind.Datum
import HeaderBind.Lexer.Rule
import HeaderBind.Text.Quoted

/-!
# A lexer that is fed

The lexer holds the text that was fed and not yet consumed. Each step takes the first rule of the
table that applies in the current state and matches at the start of that text, consumes the match
and runs the actions of the rule. Where no rule matches, one character is given up so that the
lexer always gets on.
-/

namespace HeaderBind

/-- What is kept of a lexer to return to. -/
structure Lexer.Snapshot where
  state : String
  stack : List String
  /-- The consumed text, last character first. -/
  consumed : List Char
  processed : Nat
  error : Int
  objects : List Datum
  /-- The offset in the file from where to read on. -/
  offset : Int
deriving Repr, Inhabited

/-- A lexer with a host that its actions work on. -/
structure Lexer (η : Type) where
  /-- The rule table. -/
  rows : List Lexer.Row
  /-- The state that chooses the rules. -/
  state : String := "INITIAL"
  /-- The states to return to, the latest last. -/
  stack : List String := []
  /-- The text consumed so far, last character first. -/
  consumed : List Char := []
  /-- The text still to be consumed. -/
  ahead : List Char := []
  /-- The number of characters consumed by rules. -/
  processed : Nat := 0
  /-- The weight of the errors so far. -/
  error : Int := 0
  /-- How much is logged. -/
  verbose : Int := 0
  /-- What the actions collected. -/
  objects : List Datum := []
  /-- The place to return to. -/
  saved : Option Lexer.Snapshot := none
  /-- Whether the stack is the one of the saved place, so that changes show there. -/
  stackShared : Bool := false
  /-- Whether the collected objects are those of the saved place. -/
  objectsShared : Bool := false
  /-- The offset in the file that the text comes from, if there is one. -/
  file : Option Nat := none
  /-- What the actions work on. -/
  host : η
deriving Inhabited

namespace Lexer

variable {η : Type}

/-- An action of a rule: it is given its own name and the match, and may give the next state. -/
abbrev Callback (η : Type) := String → Match → Act (Lexer η) (Option String)

/-- The actions of a lexer by name, and the one for all other names. -/
structure Callbacks (η : Type) where
  find : String → Option (Callback η)
  fallback : Callback η

/-- The text consumed so far. -/
def consumedText (x : Lexer η) : String :=
  String.ofList x.consumed.reverse

/-- The start of the text ahead as it is shown in the log. -/
def preview (x : Lexer η) : String :=
  Text.quoted (x.ahead.take 10)

/-- Log a message when the lexer is at least this verbose. -/
def noteAbove (level : Int) (message : Lexer η → String) : Act (Lexer η) Unit := do
  let x ← Act.state
  if x.verbose > level then
    Act.note (message x ++ "\n")

/-- Take over more text. Bytes that are not UTF-8 are refused. -/
def feed (bytes : ByteArray) : Act (Lexer η) Unit :=
  match String.fromUTF8? bytes with
  | some s => Act.update fun x => { x with ahead := x.ahead ++ s.toList }
  | none => Act.fail .notUtf8

/-- Move characters from the text ahead to the consumed text. -/
def consume (n : Nat) (x : Lexer η) : Lexer η :=
  { x with
    consumed := (x.ahead.take n).reverse ++ x.consumed
    ahead := x.ahead.drop n }

/-- Consuming moves the border between the two texts and changes neither. -/
theorem consumed_append_ahead_consume (n : Nat) (x : Lexer η) :
    (consume n x).consumed.reverse ++ (consume n x).ahead = x.consumed.reverse ++ x.ahead := by
  simp [consume]

/-- Whether there is no text ahead. -/
def isEmpty (x : Lexer η) : Bool :=
  x.ahead.isEmpty

/-- Count an error. The message is logged when there is one. -/
def raise (message : Option String) (weight : Int := 1) : Act (Lexer η) Unit := do
  match message with
  | some m => if !m.isEmpty then noteAbove 0 fun _ => s!"Error({weight}): {m}"
  | none => pure ()
  Act.update fun x => { x with error := x.error + weight }

/-- Keep the current state to return to. -/
def pushState : Act (Lexer η) Unit := do
  noteAbove 1 fun x => s!"Storing state {x.state}"
  Act.update fun x => { x with stack := x.stack ++ [x.state] }

/-- The state to return to. When there is none this is only logged. -/
def popState : Act (Lexer η) (Option String) := do
  let x ← Act.state
  match x.stack.getLast? with
  | some s =>
    Act.update fun x => { x with stack := x.stack.dropLast }
    noteAbove 1 fun _ => s!"Returned state to {s}"
    return some s
  | none =>
    Act.note "Tried to pop the state but failed - possible recursion error\n"
    return none

/-- What is done for an action that has no meaning of its own. -/
def defaultHandler : Callback η := fun name m => do
  noteAbove 2 fun _ => s!"Default handler: {name} with {Text.quoted m.whole.chars}"
  return none

/-! ### Saving and restoring -/

/-- Keep the place to return to. Nothing is kept after an error, since the text then does not say
where to read on. -/
def save (m : Option Match) : Act (Lexer η) Unit := do
  let x ← Act.state
  if x.error != 0 then
    return
  if m.isNone then
    Act.fail .noSuchPart
  let some position := x.file | Act.fail .noSuchPart
  let snapshot : Snapshot := {
    state := x.state
    stack := x.stack
    consumed := x.consumed
    processed := x.processed
    error := x.error
    objects := x.objects
    offset := Int.ofNat position - Int.ofNat x.ahead.length }
  Act.update fun x =>
    { x with saved := some snapshot, stackShared := false, objectsShared := false }
  -- The message about it cannot be put together.
  if x.verbose > 1 then
    Act.fail .badValue

/-- Move the file to an offset. -/
def seek (offset : Int) : Act (Lexer η) Unit := do
  let x ← Act.state
  if x.file.isNone then
    Act.fail .noSuchPart
  if offset < 0 then
    Act.fail .badValue
  Act.update fun x => { x with file := some offset.toNat }

/-- The offset in the file. -/
def tell : Act (Lexer η) Nat := do
  match (← Act.state).file with
  | some position => return position
  | none => Act.fail .noSuchPart

/-- Return to the place that was kept, if there is one. From then on the stack and the objects are
those of that place: what changes them changes the place as well. -/
def restore : Act (Lexer η) Unit := do
  let x ← Act.state
  let some s := x.saved | return
  Act.update fun x =>
    { x with
      stack := if x.stackShared then x.stack else s.stack
      stackShared := true
      processed := s.processed
      consumed := s.consumed
      ahead := [] }
  seek s.offset
  Act.update fun x =>
    { x with
      state := s.state
      objects := if x.objectsShared then x.objects else s.objects
      objectsShared := true
      error := s.error }
  if x.verbose > 1 then
    Act.fail .badValue

/-! ### Tokens -/

/-- The first row that applies in a state and matches the text ahead. -/
def firstMatch (state : String) : List Row → Act (Lexer η) (Option (Rule × Match))
  | [] => return none
  | .misshapen :: _ => Act.fail .badValue
  | .unread :: _ => Act.fail .noSuchPart
  | .rule r :: rest => do
    if (r.states.match? state.toList).isNone then
      firstMatch state rest
    else
      noteAbove 2 fun x =>
        s!"{x.state}: Trying to match {x.preview}... with {Text.quoted r.source.toList}"
      let x ← Act.state
      match r.pattern.match? x.ahead with
      | none => firstMatch state rest
      | some m =>
        noteAbove 3 fun x => s!"{r.source} matched {x.preview}..."
        return some (r, m)

/-- The digits of a number in hexadecimal. -/
def hexText (n : Nat) : String :=
  String.ofList (Nat.toDigits 16 n)

/-- Run actions in order. An action that gives a state changes to it at once. Returns the state that
was given last, or the one before. -/
def runActions (callbacks : Callbacks η) (m : Match) :
    List String → Option String → Act (Lexer η) (Option String)
  | [], next => return next
  | name :: rest, next => do
    noteAbove 0 fun x => s!"0x{hexText x.processed}: Calling {name} {x.preview}..."
    let callback := (callbacks.find name).getD callbacks.fallback
    let given ← callback name m
    match given with
    | none => runActions callbacks m rest next
    | some state =>
      if state == "CONTINUE" || state.isEmpty then
        runActions callbacks m rest next
      else
        Act.update fun x => { x with state := state }
        runActions callbacks m rest (some state)

/-- Whether the lexer gives up a character: at the end of the text, or when much text waits. -/
def isStuck (atEnd : Bool) (x : Lexer η) : Bool :=
  (atEnd && !x.ahead.isEmpty) || x.ahead.length > 1024

/-- Give up one character. -/
def giveUp : Act (Lexer η) Unit := do
  Act.update (consume 1)
  let x ← Act.state
  raise (some s!"Lexer Stuck, discarding 1 byte ({x.preview}...) - state {x.state}")

/-- The next token: the actions of the rule that matched, or `ERROR` when a character was given up.
There is none when no rule matches and more text may come, or no text is left. -/
def nextToken (callbacks : Callbacks η) (atEnd : Bool) : Act (Lexer η) (Option String) := do
  let x ← Act.state
  match ← firstMatch x.state x.rows with
  | some (r, m) =>
    Act.update fun x => { consume m.length x with processed := x.processed + m.length }
    let some token := r.token | Act.fail .noSuchPart
    let next ← runActions callbacks m (actionNames token) r.next
    match next with
    | some state =>
      if !state.isEmpty then
        Act.update fun x => { x with state := state }
    | none => pure ()
    return some token
  | none =>
    if isStuck atEnd (← Act.state) then
      giveUp
      return some "ERROR"
    else
      return none

/-- Tokens until there is none, and the fault that ended them if one did. The fuel bounds their
number. -/
def tokensFrom (callbacks : Callbacks η) (atEnd : Bool) :
    Nat → Act (Lexer η) (List String × Option Fault)
  | 0 => return ([], none)
  | fuel + 1 => do
    match ← Act.attempt (nextToken callbacks atEnd) with
    | .error f => return ([], some f)
    | .ok none => return ([], none)
    | .ok (some token) =>
      if token.isEmpty then
        return ([], none)
      else
        let (rest, f) ← tokensFrom callbacks atEnd fuel
        return (token :: rest, f)

/-- A bound on the number of tokens in the text ahead: rules that consume nothing are given up after
many turns. -/
def tokenBound (x : Lexer η) : Nat :=
  (x.ahead.length + 1) * 256

/-- All tokens of the text ahead, and the fault that ended them if one did. -/
def drain (callbacks : Callbacks η) (atEnd : Bool) :
    Act (Lexer η) (List String × Option Fault) := do
  tokensFrom callbacks atEnd (tokenBound (← Act.state))

/-- Consume the text ahead. -/
def close (callbacks : Callbacks η) : Act (Lexer η) Unit := do
  match (← drain callbacks true).2 with
  | some f => Act.fail f
  | none => pure ()

/-- Take over a text and consume it. -/
def parse (callbacks : Callbacks η) (bytes : ByteArray) : Act (Lexer η) Unit := do
  feed bytes
  close callbacks

/-! ### Actions by name -/

/-- Names that denote something other than an action. -/
def reservedNames : List String :=
  ["close", "empty", "feed", "log", "next_token", "restore_state", "ERROR", "parse_fd", "buffer",
   "encoding", "error", "flags", "objects", "processed", "processed_buffer", "saved_state", "state",
   "state_stack", "verbose", "file_object", "_TOKENS"]

/-- The actions that every lexer has. -/
def builtIn (name : String) : Option (Callback η) :=
  match name with
  | "PUSH_STATE" => some fun _ _ => do pushState; return none
  | "POP_STATE" => some fun _ _ => popState
  | "save_state" => some fun _ m => do save (some m); return none
  | "default_handler" => some defaultHandler
  | name => if reservedNames.contains name then some fun _ _ => Act.fail .badArgument else none

end Lexer

end HeaderBind
