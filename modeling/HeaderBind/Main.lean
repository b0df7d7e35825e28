import HeaderBind.Header.Reader

/-!
# The command line

Reads the headers that are named as arguments and prints the code of the module.
-/

namespace HeaderBind.Main

/-- What is shown when a run fails. -/
def message : Fault → String
  | .missingKey key => "unknown name " ++ key.getD "of a declaration without one"
  | .missingFile name => s!"no such file: {name}"
  | .refused reason | .system reason | .badSetup reason => reason
  | .exit code => s!"exit {code}"
  | .noSuchPart => "a part is missing"
  | .badArgument => "an argument does not fit"
  | .badValue => "a value does not have the right form"
  | .outOfRange => "a position is out of range"
  | .notUtf8 => "a header is not UTF-8"
  | .notFound => "a look-up found nothing"
  | .badPattern => "a pattern cannot be read"

/-- The code for headers, and the messages logged on the way. -/
def code (files : Files) (names : List String) : Except Fault String × List String :=
  match HeaderReader.fresh {} Registry.initial "pytsk3" "" 0 with
  | .error f => (.error f, [])
  | .ok reader =>
    let (result, after) := (HeaderReader.generate files names).perform ⟨reader, []⟩
    (result, after.log)

/-- The files among the named ones that can be read. -/
def load (names : List String) : IO (Except Fault Files) := do
  let mut files : Files := ⟨[]⟩
  for name in names do
    match ← (IO.FS.readBinFile name).toBaseIO with
    | .error _ => pure ()
    | .ok bytes =>
      match String.fromUTF8? bytes with
      | some text => files := files.write name text
      | none => return .error .notUtf8
  return .ok files

end HeaderBind.Main

/-- Print the code for the headers that are named as arguments. -/
def main (args : List String) : IO UInt32 := do
  let fail (f : HeaderBind.Fault) : IO UInt32 := do
    IO.eprintln (HeaderBind.Main.message f)
    return 1
  match ← HeaderBind.Main.load args with
  | .error f => fail f
  | .ok files =>
    let (result, log) := HeaderBind.Main.code files args
    for line in log do
      IO.eprint line
    match result with
    | .error f => fail f
    | .ok text =>
      IO.print text
      return 0
