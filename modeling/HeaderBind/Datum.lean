import HeaderBind.Fault

/-!
# Values from outside

A caller hands over values of several kinds: texts, whole numbers, flags, lists, or nothing at all.
The places in generated code where such a value is written take texts, and a few take numbers;
a value of another kind is a fault there.
-/

namespace HeaderBind

/-- A value handed over by a caller. -/
inductive Datum where
  | nothing
  | flag (value : Bool)
  | number (value : Int)
  | text (value : String)
  | list (items : List Datum)
deriving Repr, Inhabited

namespace Datum

/-- Whether the value counts as given: not nothing, zero, false, or empty. -/
def isGiven : Datum → Bool
  | nothing => false
  | flag b => b
  | number n => n != 0
  | text s => !s.isEmpty
  | list xs => !xs.isEmpty

/-- The value in a place that takes text. A number there has the wrong form, anything else is of the
wrong kind. -/
def asText : Datum → Except Fault String
  | text s => .ok s
  | number _ | flag _ => .error .badValue
  | nothing | list _ => .error .badArgument

/-- The value in a place that takes a whole number. A flag counts as one or zero. -/
def asNumber : Datum → Except Fault Int
  | number n => .ok n
  | flag b => .ok (if b then 1 else 0)
  | text _ => .error .badValue
  | nothing | list _ => .error .badArgument

/-- Whether the value is this very text. -/
def isText (s : String) : Datum → Bool
  | text t => t == s
  | _ => false

/-- The first value that is given, else the text. -/
def orElse (d : Datum) (s : String) : Datum :=
  if d.isGiven then d else text s

instance : Coe String Datum := ⟨text⟩

end Datum

end HeaderBind
