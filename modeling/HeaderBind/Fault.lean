/-!
# Faults

Everything that can go wrong while a header is read or code is written for it. A fault names its
cause; the wording that a caller sees is chosen where it is shown.
-/

namespace HeaderBind

/-- The cause of a failed operation. -/
inductive Fault where
  /-- A table has no entry under the key. The key of a declaration without a name is `none`. -/
  | missingKey (key : Option String)
  /-- There is no file of this name. -/
  | missingFile (name : String)
  /-- An operation was refused, with the reason. -/
  | refused (reason : String)
  /-- The surrounding system reported a failure. -/
  | system (reason : String)
  /-- The description of a build is unusable. -/
  | badSetup (reason : String)
  /-- The program ends with an exit code. -/
  | exit (code : Nat)
  /-- A part was asked for that the object at hand does not have. -/
  | noSuchPart
  /-- An argument is of a kind that the operation does not take, or there are too many or too few. -/
  | badArgument
  /-- A value of the right kind does not have the form that is needed. -/
  | badValue
  /-- A position lies outside of a sequence. -/
  | outOfRange
  /-- A byte sequence is not UTF-8. -/
  | notUtf8
  /-- A look-up by name found nothing. -/
  | notFound
  /-- The text of a pattern or of a replacement cannot be read. -/
  | badPattern
deriving DecidableEq, Repr, Inhabited

end HeaderBind
