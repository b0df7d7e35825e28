import HeaderBind.CType.Convert
import HeaderBind.CType.Declare

/-!
# Asking for a fragment of code

A fragment is asked for by its name, with arguments by position and by name. Which arguments a
fragment takes depends on the kind of the type; one that it does not take is refused.
-/

namespace HeaderBind.CType

/-- The fragments of code that a type in use can give. -/
inductive Fragment where
  | assign | byReference | callArgument | comment | definition | fromObject | overview
  | localDefinition | passThrough | beforeCall | afterCall | argumentName | afterProxyCall
  | returnValue | returnedDefinition | toObject | errorCleanup | errorCondition
deriving DecidableEq, Repr, Inhabited

/-- A parameter of a fragment. -/
structure Parameter where
  name : String
  required : Bool := false
deriving Repr, Inhabited

/-- What a fragment takes: parameters in order, and whether other names are ignored. -/
structure Parameters where
  list : List Parameter := []
  ignoresOthers : Bool := true
deriving Repr, Inhabited

/-- A parameter that has to be given. -/
def Parameter.need (name : String) : Parameter := ⟨name, true⟩

/-- A parameter that may be left out. -/
def Parameter.may (name : String) : Parameter := ⟨name, false⟩

open Parameter (need may)

/-- What a fragment of a type of a given kind takes; nothing when the kind has no such fragment. The
surrounding method is passed under a name of its own where it is used. -/
def parameters (kind : Kind) : Fragment → Option Parameters
  | .byReference | .callArgument | .comment | .overview | .passThrough | .argumentName =>
    some ⟨[], false⟩
  | .assign =>
    some <| if kind.isStruct then ⟨[need "call", need "method", may "target", may "borrowed"], true⟩
      else if kind.isWrapped then ⟨[need "call", need "method", may "target"], true⟩
      else ⟨[need "call", need "unused_method", may "target"], true⟩
  | .definition =>
    some <| if kind.isWrapped then ⟨[may "default", may "sense"], true⟩
      else ⟨[may "default"], true⟩
  | .fromObject =>
    some <| match kind with
      | .string | .zeroTerminated | .borrowedString | .stringOut | .stringArray =>
        ⟨[need "source", need "destination", need "method", may "context"], true⟩
      | .blob | .blobPointer => ⟨[need "source", need "destination", need "method"], true⟩
      | .plain | .buffer | .bufferOut | .void | .voidPointer | .timeval | .pyObject =>
        ⟨[need "unused_source", need "unused_destination", need "unused_method"], true⟩
      | _ => ⟨[need "source", need "destination", need "unused_method"], true⟩
  | .localDefinition => some ⟨[], true⟩
  | .beforeCall =>
    some <| match kind with
      | .object | .struct | .structPointer =>
        ⟨[need "unused_method", may "python_object_index"], true⟩
      | .character | .stringArray | .enumeration => ⟨[need "method"], true⟩
      | _ => ⟨[need "unused_method"], true⟩
  | .afterCall => some ⟨[need "unused_method"], false⟩
  | .afterProxyCall =>
    some <| match kind with
      | .bufferOut | .blob | .blobPointer => ⟨[may "result"], false⟩
      | _ => ⟨[], false⟩
  | .returnValue => some ⟨[need "value"], false⟩
  | .returnedDefinition =>
    some <| if kind.isWrapped then ⟨[may "default"], true⟩ else ⟨[], true⟩
  | .toObject =>
    match kind with
    | .plain | .pyObject => none
    | .buffer => some ⟨[may "result"], true⟩
    | .void | .voidPointer => some ⟨[], true⟩
    | .integer _ | .bufferOut | .object | .objectPointer | .struct | .structPointer =>
      some ⟨[may "name", may "result", may "sense"], true⟩
    | _ => some ⟨[may "name", may "result"], true⟩
  | .errorCleanup =>
    match kind with
    | .bufferOut | .blob | .blobPointer => some ⟨[], false⟩
    | _ => none
  | .errorCondition =>
    match kind with
    | .stringArray => some ⟨[], false⟩
    | _ => none

/-- Bind parameters in order: by position first, then by name. -/
def bindParameters : List Parameter → List Datum → List (String × Datum) →
    Except Fault (List (String × Datum))
  | [], [], _ => .ok []
  | [], _ :: _, _ => .error .badArgument
  | p :: ps, d :: ds, named =>
    if (named.lookup p.name).isSome then .error .badArgument
    else do return (p.name, d) :: (← bindParameters ps ds named)
  | p :: ps, [], named =>
    match named.lookup p.name with
    | some d => do return (p.name, d) :: (← bindParameters ps [] named)
    | none => if p.required then .error .badArgument else bindParameters ps [] named

/-- Bind the arguments of a fragment. The result holds the parameters that were given, then the
other names. -/
def Parameters.bind (ps : Parameters) (args : List Datum) (named : List (String × Datum)) :
    Except Fault (List (String × Datum)) := do
  let others := named.filter fun e => !ps.list.any fun p => p.name == e.1
  if !ps.ignoresOthers && !others.isEmpty then
    throw .badArgument
  return (← bindParameters ps.list args named) ++ others

/-- Stands for the surrounding method among the arguments: an object that has no text. -/
def methodArgument : Datum := .list [.nothing]

/-- Whether an argument is the surrounding method. -/
def isMethod : Datum → Bool
  | .list [.nothing] => true
  | _ => false

/-- What a fragment works on: the type at its place, and the results assembled so far. -/
structure Bench where
  site : Site
  results : List Datum := []
deriving Inhabited

/-- Work on the type alone. -/
def Bench.onSite {α : Type} (act : Act Site α) : Act Bench α :=
  Act.focus Bench.site (fun s b => { b with site := s }) act

/-- The form of a value inside a return statement. -/
def displayValue : Datum → String
  | .nothing => "None"
  | .flag b => if b then "True" else "False"
  | .number n => toString n
  | .text s => s
  | .list _ => "[]"

/-- The named definition arguments that a returned value passes on. -/
def definitionWith (t : CType) (bound : List (String × Datum)) : Except Fault String :=
  t.definition (bound.lookup "default") ((bound.lookup "sense").getD (.text "IN"))

/-- A fragment of code, with its arguments. -/
def request (settings : Settings) (fragment : Fragment) (args : List Datum)
    (named : List (String × Datum)) : Act Bench Datum := do
  let t := (← Act.state).site.ctype
  let some ps := parameters t.kind fragment | Act.fail .noSuchPart
  let args := match fragment with
    | .beforeCall | .afterCall => [methodArgument]
    | .fromObject | .assign => args ++ [methodArgument]
    | _ => args
  let bound ← Act.lift (ps.bind args named)
  let value (name : String) (default : Datum) : Datum := (bound.lookup name).getD default
  -- A method that is used has to be one.
  if (bound.lookup "method").any (!isMethod ·) && !t.kind.isStruct then
    Act.fail .noSuchPart
  match fragment with
  | .byReference => return ((← Act.lift t.byReference).map Datum.text).getD .nothing
  | .callArgument => return .text (← Act.lift t.callArgument)
  | .passThrough => return .text (← Act.lift t.passThrough)
  | .comment => return .text (← Act.lift t.comment)
  | .overview => return .text t.overview
  | .localDefinition => return .text t.localDefinition
  | .argumentName => return t.argumentName
  | .afterCall => return .text t.afterCall
  | .returnValue => return .text (t.returnValue (displayValue (value "value" .nothing)))
  | .definition => return .text (← Act.lift (definitionWith t bound))
  | .returnedDefinition =>
    if t.kind.isWrapped then
      return .text (← Act.lift (t.returnedDefinition (bound.lookup "default")))
    else
      return .text (← Act.lift (definitionWith t bound))
  | .afterProxyCall =>
    return .text (← Act.lift (t.afterProxyCall (value "result" (.text "Py_result"))))
  | .errorCleanup => return (t.errorCleanup.map Datum.text).getD .nothing
  | .errorCondition => return (t.errorCondition.map Datum.text).getD .nothing
  | .beforeCall =>
    return .text (← Bench.onSite (beforeCall (value "python_object_index" (.number 1))))
  | .fromObject =>
    return .text (← Bench.onSite (CType.fromObject (value "source" .nothing)
      (value "destination" .nothing) (value "context" (.text "NULL"))))
  | .assign =>
    return .text (← Bench.onSite (CType.assign settings (value "call" .nothing)
      (value "target" .nothing) (value "borrowed" (.flag true)).isGiven))
  | .toObject =>
    if (bound.lookup "results").isSome then
      let left ← Act.lift (t.joinResults (← Act.state).results)
      Act.update fun b => { b with results := left }
    return .text (← Act.lift (t.toObject {
      name := value "name" .nothing
      result := value "result" (.text "Py_result")
      sense := value "sense" (.text "IN")
      borrowed := (bound.lookup "BORROWED").isSome }))

end HeaderBind.CType
