import HeaderBind.Fault

/-!
# Actions

An action works on a state, may write to the log, and ends with a result or a fault. A fault keeps
what was done before it: the state and the log are those at the point of failure. The log is only
written: what an action does never depends on the messages before it.
-/

namespace HeaderBind

/-- A state together with the messages logged so far, oldest first. -/
structure Logged (σ : Type) where
  state : σ
  log : List String := []
deriving Inhabited

/-- What an action leads to: its result or a fault, the state that it leaves behind, and the messages
that it logged, oldest first. -/
structure Outcome (σ α : Type) where
  result : Except Fault α
  state : σ
  log : List String := []

/-- An action on states of type `σ`. -/
def Act (σ α : Type) : Type := σ → Outcome σ α

namespace Act

variable {σ τ α β : Type}

/-- Do nothing. -/
protected def pure (a : α) : Act σ α := fun s => ⟨.ok a, s, []⟩

/-- Go on after an action unless it failed. -/
protected def bind (act : Act σ α) (next : α → Act σ β) : Act σ β := fun s =>
  match act s with
  | ⟨.ok a, t, log⟩ =>
    let o := next a t
    ⟨o.result, o.state, log ++ o.log⟩
  | ⟨.error f, t, log⟩ => ⟨.error f, t, log⟩

instance : Monad (Act σ) where
  pure := Act.pure
  bind := Act.bind

/-- An action sees the state, and of the log only what it adds itself. -/
instance : MonadStateOf (Logged σ) (Act σ) where
  get := fun s => ⟨.ok ⟨s, []⟩, s, []⟩
  set l := fun _ => ⟨.ok (), l.state, l.log⟩
  modifyGet f := fun s =>
    let (a, l) := f ⟨s, []⟩
    ⟨.ok a, l.state, l.log⟩

instance : Inhabited (Act σ α) := ⟨fun s => ⟨default, s, []⟩⟩

/-- The current state. -/
def state : Act σ σ := do
  return (← get).state

/-- Change the state. -/
def update (f : σ → σ) : Act σ Unit :=
  modify fun l => { l with state := f l.state }

/-- Read a part of the state. -/
def view (f : σ → α) : Act σ α := do
  return f (← get).state

/-- Add a message to the log. Every message is followed by a line end. -/
def note (message : String) : Act σ Unit :=
  modify fun l => { l with log := l.log ++ [message ++ "\n"] }

/-- Fail with the given cause. -/
def fail (f : Fault) : Act σ α := fun s => ⟨.error f, s, []⟩

/-- Take over a result that was computed without touching the state. -/
def lift (r : Except Fault α) : Act σ α := fun s => ⟨r, s, []⟩

/-- The outcome of an action, a fault included. -/
def attempt (act : Act σ α) : Act σ (Except Fault α) := fun s =>
  let o := act s
  ⟨.ok o.result, o.state, o.log⟩

/-- Run an action: its result and what it leaves behind. -/
def perform (act : Act σ α) (l : Logged σ) : Except Fault α × Logged σ :=
  let o := act l.state
  (o.result, ⟨o.state, l.log ++ o.log⟩)

/-- Run an action on a part of the state. The part is written back also when the action fails. -/
def focus (part : σ → τ) (put : τ → σ → σ) (act : Act τ α) : Act σ α := fun s =>
  let o := act (part s)
  ⟨o.result, put o.state s, o.log⟩

/-- Run an action on a value that is not part of the state; the value is returned with the result,
also when the action fails. -/
def onValue (t : τ) (act : Act τ α) : Act σ (Except Fault α × τ) := fun s =>
  let o := act t
  ⟨.ok (o.result, o.state), s, o.log⟩

end Act

end HeaderBind
