import HeaderBind.Proofs.Binding.Declaring
import HeaderBind.Proofs.Header.Nesting

/-!
# Reading as declaring

To read on is to call for tokens one after the other. Where each of the calls picks a rule whose actions
do what an action on the binding does, all of them together do what these actions do one after the
other (`Reads.bind`): they end where the actions end, and fail where they fail.
-/

namespace HeaderBind

namespace Lexer

variable {η : Type} {callbacks : Callbacks η} {rules : List Rule} {atEnd : Bool} {x y z : Lexer η}
  {f : Option Fault}

/-! ### Calls one after the other -/

/-- Calls for tokens that give one, and after them one that fails if there is a fault. -/
inductive Runs (callbacks : Callbacks η) (atEnd : Bool) :
    Lexer η → Option Fault → Lexer η → Prop where
  | stay (x : Lexer η) : Runs callbacks atEnd x none x
  | failed {x y : Lexer η} {f : Fault} (h : (nextToken callbacks atEnd).effect x = (.error f, y)) :
      Runs callbacks atEnd x (some f) y
  | more {x y z : Lexer η} {token : String} {f : Option Fault}
      (h : (nextToken callbacks atEnd).effect x = (.ok (some token), y)) (ht : token ≠ "")
      (hr : Runs callbacks atEnd y f z) : Runs callbacks atEnd x f z

lemma Runs.trans (h : Runs callbacks atEnd x none y) (h' : Runs callbacks atEnd y f z) :
    Runs callbacks atEnd x f z := by
  generalize hn : (none : Option Fault) = n at h
  induction h with
  | stay => exact h'
  | failed => cases hn
  | more h ht _ ih => exact .more h ht (ih h' hn)

/-- What every call for a token keeps, calls one after the other keep. -/
lemma Runs.invariant {I : Lexer η → Prop}
    (hstep : ∀ x y token, I x → (nextToken callbacks atEnd).effect x = (.ok (some token), y) → I y)
    (h : Runs callbacks atEnd x none y) (hx : I x) : I y := by
  generalize hn : (none : Option Fault) = n at h
  induction h with
  | stay => exact hx
  | failed => cases hn
  | more h _ _ ih => exact ih (hstep _ _ _ hx h) hn

/-- Calls until there is no token, after some that give one. -/
lemma Runs.exists_calls_of_calls {n : Nat} (h : Runs callbacks atEnd x none y)
    (hcalls : Calls callbacks atEnd y n f z) : ∃ n, Calls callbacks atEnd x n f z := by
  generalize hn : (none : Option Fault) = o at h
  induction h with
  | stay => exact ⟨n, hcalls⟩
  | failed => cases hn
  | more h ht _ ih =>
    obtain ⟨n, hn⟩ := ih hcalls hn
    exact ⟨n + 1, .more h ht hn⟩

/-- Calls until there is no token. -/
lemma Runs.exists_calls (h : Runs callbacks atEnd x f y)
    (hend : f = none → (nextToken callbacks atEnd).effect y = (.ok none, y)) :
    ∃ n, Calls callbacks atEnd x n f y := by
  induction h with
  | stay x => exact ⟨1, .done (hend rfl) rfl⟩
  | failed h => exact ⟨1, .failed h⟩
  | more h ht _ ih =>
    obtain ⟨n, hn⟩ := ih hend
    exact ⟨n + 1, .more h ht hn⟩

/-- There are no more calls than characters, and one more. -/
lemma Calls.le_length {n : Nat} (h : Calls callbacks atEnd x n f z) (hx : x.rows = rules.map .rule)
    (hr : Consuming rules) (hc : callbacks.KeepText) : n ≤ x.ahead.length + 1 := by
  induction h with
  | done => omega
  | failed => omega
  | @more x y z token n f h ht _ ih =>
    have hne : x.ahead ≠ [] := by
      intro hnil
      rw [nextToken_of_nil hx hr hnil] at h
      cases h
    rcases nextToken_getsOn hx hr hc hne atEnd with hon | ⟨-, -, hnone⟩
    · rw [h] at hon
      obtain ⟨t, htne, hahead, -⟩ := hon.text
      have hpos := List.length_pos_iff.mpr htne
      have hle := ih (hon.rows.trans hx)
      have hlength : x.ahead.length = t.length + y.ahead.length := by
        rw [hahead, List.length_append]
      omega
    · rw [h] at hnone
      cases hnone

lemma effect_runActions_append (callbacks : Callbacks η) (m : Match) (names others : List String)
    (next : Option String) (x : Lexer η) :
    (runActions callbacks m (names ++ others) next).effect x =
      match (runActions callbacks m names next).effect x with
      | (.ok next', y) => (runActions callbacks m others next').effect y
      | (.error f, y) => (.error f, y) := by
  induction names generalizing next x with
  | nil => rfl
  | cons name names ih =>
    rw [List.cons_append, effect_runActions_cons, effect_runActions_cons]
    rcases (callbacks.callback name name m).effect x with ⟨_ | given, y⟩
    · rfl
    · exact ih _ _

end Lexer

namespace HeaderReader

open Lexer Header.Table Declaring

variable {α : Type} {atEnd : Bool} {doc : String} {stack stack' : List String} {state state' : String}
  {error : Int} {t rest : List Char} {x y : HeaderReader} {m : Match} {r : Rule} {mv : Move}

/-- Where a reader is: the comment and the errors so far, the states, and the text ahead. -/
structure At (doc : String) (stack : List String) (state : String) (error : Int) (ahead : List Char)
    (x : HeaderReader) : Prop where
  rows : x.rows = rules.map .rule
  comment : x.host.comment = doc
  stack : x.stack = stack
  state : x.state = state
  error : x.error = error
  ahead : x.ahead = ahead

/-- Where a reader is, apart from the comment and the errors. -/
def Stands (stack : List String) (state : String) (ahead : List Char) (x : HeaderReader) : Prop :=
  ∃ doc error, At doc stack state error ahead x

/-- Actions of a header do what an action on the binding does. Apart from that they leave the header as
stated. -/
def Performs {α : Type} (m : Match) (names : List String) (h : Header) (act : Act Binding α)
    (after : α → Header) : Prop :=
  ∀ (x : HeaderReader) (next : Option String), x.host = h →
    act.Ends h.binding
      (fun a b => (runActions callbacks m names next).effect x =
        (.ok next, x.withHost { after a with binding := b }))
      (fun f b => ∃ h', h'.binding = b ∧
        (runActions callbacks m names next).effect x = (.error f, x.withHost h'))

/-- The states that a move leads to. -/
def Move.Turns (stack : List String) (state : String) (stack' : List String) (state' : String) :
    Move → Prop
  | .stay _ => stack' = stack ∧ state' = state
  | .enter entered _ => stack' = stack ++ [state] ∧ state' = entered
  | .leave _ | .finish _ => stack = stack' ++ [state']

lemma host_moveTo (next : Option String) (x : HeaderReader) : (moveTo next x).host = x.host := by
  unfold moveTo
  split
  · split <;> rfl
  · rfl

lemma at_take (hx : At doc stack state error (t ++ rest) x) (hm : m.length = t.length) :
    At doc stack state error rest (take m.length x) where
  rows := hx.rows
  comment := hx.comment
  stack := hx.stack
  state := hx.state
  error := hx.error
  ahead := by
    show x.ahead.drop m.length = rest
    rw [hx.ahead, hm, List.drop_left]

/-- The actions of a move do what they do to the header, and turn the states. -/
lemma ends_runActions_of_performs {act : Act Binding α} {after : α → Header} {doc' : String}
    (hx : At doc stack state error rest x) (hp : Performs m mv.name?.toList x.host act after)
    (hdoc : ∀ a, (after a).comment = doc') (hmv : mv.Turns stack state stack' state') (hmove : isMove state') :
    act.Ends x.host.binding
      (fun a b => ∃ next y, (runActions callbacks m mv.actions mv.next).effect x = (.ok next, y) ∧
        At doc' stack' state' error rest (moveTo next y) ∧ y.host = { after a with binding := b })
      (fun f b => ∃ y, (runActions callbacks m mv.actions mv.next).effect x = (.error f, y) ∧
        y.host.binding = b) := by
  cases mv with
  | stay name =>
    obtain ⟨rfl, rfl⟩ := hmv
    refine (hp x none rfl).mono (fun a b h => ⟨none, _, h, ?_, rfl⟩) ?_
    · exact ⟨hx.rows, hdoc a, hx.stack, hx.state, hx.error, hx.ahead⟩
    · rintro f b ⟨h', hb, h⟩
      exact ⟨_, h, hb⟩
  | enter entered name =>
    obtain ⟨rfl, rfl⟩ := hmv
    have hpush : (runActions callbacks m (Move.enter state' name).actions
        (Move.enter state' name).next).effect x =
        (runActions callbacks m name.toList (some state')).effect
          { x with stack := x.stack ++ [x.state] } := by
      rw [Move.actions, effect_runActions_cons, callback_push]
      rfl
    rw [hpush]
    refine (hp { x with stack := x.stack ++ [x.state] } (some state') rfl).mono
      (fun a b h => ⟨some state', _, h, ?_, rfl⟩) ?_
    · rw [moveTo_of_isMove hmove]
      exact ⟨hx.rows, hdoc a, by rw [← hx.stack, ← hx.state]; rfl, rfl, hx.error, hx.ahead⟩
    · rintro f b ⟨h', hb, h⟩
      exact ⟨_, h, hb⟩
  | leave name =>
    have hstack : x.stack = stack' ++ [state'] := hx.stack.trans hmv
    have hpop : (runActions callbacks m (Move.leave name).actions (Move.leave name).next).effect x =
        (runActions callbacks m name.toList (some state')).effect
          { x with stack := stack', state := state' } := by
      rw [Move.actions, effect_runActions_cons, callback_pop hstack]
      simp only [settle_of_isMove hmove, Option.filter_some, if_pos hmove, Option.some_or]
    rw [hpop]
    refine (hp { x with stack := stack', state := state' } (some state') rfl).mono
      (fun a b h => ⟨some state', _, h, ?_, rfl⟩) ?_
    · rw [moveTo_of_isMove hmove]
      exact ⟨hx.rows, hdoc a, rfl, rfl, hx.error, hx.ahead⟩
    · rintro f b ⟨h', hb, h⟩
      exact ⟨_, h, hb⟩
  | finish name =>
    have hstack : x.stack = stack' ++ [state'] := hx.stack.trans hmv
    have happend : (Move.finish name).actions = [name] ++ ["POP_STATE"] := rfl
    rw [happend, effect_runActions_append]
    refine (hp x none rfl).mono (fun a b h => ?_) ?_
    · have h : (runActions callbacks m [name] (Move.finish name).next).effect x =
          (.ok none, x.withHost { after a with binding := b }) := h
      have hstack' : (x.withHost { after a with binding := b }).stack = stack' ++ [state'] := hstack
      rw [h]
      refine ⟨some state', { x.withHost { after a with binding := b } with stack := stack', state := state' }, ?_, ?_, rfl⟩
      · simp only
        rw [effect_runActions_cons, callback_pop hstack']
        simp only [settle_of_isMove hmove, Option.filter_some, if_pos hmove, Option.some_or]
        rfl
      · rw [moveTo_of_isMove hmove]
        exact ⟨hx.rows, hdoc a, rfl, rfl, hx.error, hx.ahead⟩
    · rintro f b ⟨h', hb, h⟩
      have h : (runActions callbacks m [name] (Move.finish name).next).effect x =
          (.error f, x.withHost h') := h
      rw [h]
      exact ⟨_, rfl, hb⟩

/-- A call for a token that picks a rule does what its actions do, and turns the states. -/
lemma ends_nextToken_of_performs {act : Act Binding α} {after : α → Header} {doc' : String}
    (hx : At doc stack state error (t ++ rest) x)
    (hpick : pick rules state (t ++ rest) = some (r, m)) (hm : m.length = t.length) (hr : Makes r mv)
    (hp : Performs m mv.name?.toList x.host act after) (hdoc : ∀ a, (after a).comment = doc')
    (hmv : mv.Turns stack state stack' state') (hmove : isMove state') (atEnd : Bool) :
    act.Ends x.host.binding
      (fun a b => ∃ token y, (nextToken callbacks atEnd).effect x = (.ok (some token), y) ∧ token ≠ "" ∧
        At doc' stack' state' error rest y ∧ y.host = { after a with binding := b })
      (fun f b => ∃ y, (nextToken callbacks atEnd).effect x = (.error f, y) ∧ y.host.binding = b) := by
  obtain ⟨hactions, hne, hnext⟩ := hr
  obtain ⟨token, htoken, hnames⟩ := Option.map_eq_some_iff.mp hactions
  have hne : token ≠ "" := fun hempty => hne (hempty ▸ htoken)
  rw [← hx.state, ← hx.ahead] at hpick
  have hstep : (nextToken callbacks atEnd).effect x = _ :=
    effect_nextToken_of_pick hx.rows hpick htoken atEnd
  rw [hnames, hnext] at hstep
  refine (ends_runActions_of_performs (at_take hx hm) hp hdoc hmv hmove).mono ?_ ?_
  · rintro a b ⟨next, y, hy, hat, hhost⟩
    rw [hy] at hstep
    exact ⟨token, moveTo next y, hstep, hne, hat, (host_moveTo next y).trans hhost⟩
  · rintro f b ⟨y, hy, hb⟩
    rw [hy] at hstep
    exact ⟨y, hstep, hb⟩

/-! ### Reading as declaring -/

/-- Reading on does what an action on the binding does: calls for tokens lead to a reader with the binding
that the action leaves, of which `Q` holds, or to the fault of the action. -/
def Reads (atEnd : Bool) (x : HeaderReader) (act : Act Binding α) (Q : α → HeaderReader → Prop) :
    Prop :=
  act.Ends x.host.binding
    (fun a b => ∃ y, Runs callbacks atEnd x none y ∧ y.host.binding = b ∧ Q a y)
    (fun f b => ∃ y, Runs callbacks atEnd x (some f) y ∧ y.host.binding = b)

namespace Reads

variable {β : Type} {act : Act Binding α} {P Q : α → HeaderReader → Prop}

lemma pure {a : α} (h : Q a x) : Reads atEnd x (Pure.pure a) Q :=
  Act.Ends.pure ⟨x, .stay x, rfl, h⟩

lemma bind {next : α → Act Binding β} {Q : β → HeaderReader → Prop} (h : Reads atEnd x act P)
    (hn : ∀ a y, P a y → Reads atEnd y (next a) Q) : Reads atEnd x (act >>= next) Q := by
  rcases he : act.effect x.host.binding with ⟨f | a, b⟩
  · exact .of_error (Act.effect_bind_of_error he) (Act.Ends.error h he)
  · obtain ⟨y, hy, rfl, hp⟩ := Act.Ends.ok h he
    have hnext := hn a y hp
    rw [Reads, Act.Ends, Act.effect_bind_of_ok he]
    refine Act.Ends.mono hnext ?_ ?_
    · rintro c b ⟨z, hz, hb, hq⟩
      exact ⟨z, hy.trans hz, hb, hq⟩
    · rintro f b ⟨z, hz, hb⟩
      exact ⟨z, hy.trans hz, hb⟩

/-- Reading on where nothing more is declared. -/
lemma andThen (h : Reads atEnd x act P) (hn : ∀ a y, P a y → Reads atEnd y (Pure.pure a) Q) :
    Reads atEnd x act Q := by
  have hbind := h.bind hn
  rcases he : act.effect x.host.binding with ⟨f | a, b⟩
  · exact .of_error he (Act.Ends.error hbind (Act.effect_bind_of_error he))
  · exact .of_ok he (Act.Ends.ok hbind (Act.effect_bind_of_ok he))

/-- Reading over something that declares nothing. -/
lemma skip {P : Unit → HeaderReader → Prop} (h : Reads atEnd x (Pure.pure ()) P)
    (hn : ∀ y, P () y → Reads atEnd y act Q) : Reads atEnd x act Q := by
  have hbind : Reads atEnd x (Pure.pure () >>= fun _ => act) Q := h.bind fun _ y hp => hn y hp
  exact hbind

lemma mono (h : Reads atEnd x act P) (hq : ∀ a y, P a y → Q a y) : Reads atEnd x act Q :=
  h.andThen fun a y hp => .pure (hq a y hp)

/-- What the action ends with holds where reading ends. -/
lemma and_ends {R : α → Prop} (h : Reads atEnd x act Q)
    (hr : act.Ends x.host.binding (fun a _ => R a) fun _ _ => True) :
    Reads atEnd x act fun a y => Q a y ∧ R a := by
  rcases he : act.effect x.host.binding with ⟨f | a, b⟩
  · exact .of_error he (Act.Ends.error h he)
  · obtain ⟨y, hy, hb, hq⟩ := Act.Ends.ok h he
    exact .of_ok he ⟨y, hy, hb, hq, hr.ok he⟩

/-- One call for a token, by which the comment may change. -/
lemma turn {after : α → Header} {doc' : String} (hx : At doc stack state error (t ++ rest) x)
    (hpick : pick rules state (t ++ rest) = some (r, m)) (hm : m.length = t.length) (hr : Makes r mv)
    (hp : Performs m mv.name?.toList x.host act after) (hdoc : ∀ a, (after a).comment = doc')
    (hmv : mv.Turns stack state stack' state') (hmove : isMove state') :
    Reads atEnd x act fun a y =>
      At doc' stack' state' error rest y ∧ y.host = { after a with binding := y.host.binding } := by
  refine (ends_nextToken_of_performs hx hpick hm hr hp hdoc hmv hmove atEnd).mono ?_ ?_
  · rintro a b ⟨token, y, hstep, hne, hat, hhost⟩
    have hb : y.host.binding = b := congrArg Header.binding hhost
    exact ⟨y, .more hstep hne (.stay y), hb, hat, by rw [hb]; exact hhost⟩
  · rintro f b ⟨y, hstep, hb⟩
    exact ⟨y, .failed hstep, hb⟩

/-- One call for a token. -/
lemma step {after : α → Header} (hx : At doc stack state error (t ++ rest) x)
    (hpick : pick rules state (t ++ rest) = some (r, m)) (hm : m.length = t.length) (hr : Makes r mv)
    (hp : Performs m mv.name?.toList x.host act after) (hdoc : ∀ a, (after a).comment = x.host.comment)
    (hmv : mv.Turns stack state stack' state') (hmove : isMove state') :
    Reads atEnd x act fun a y =>
      At doc stack' state' error rest y ∧ y.host = { after a with binding := y.host.binding } :=
  turn hx hpick hm hr hp (fun a => (hdoc a).trans hx.comment) hmv hmove

/-- A call for a token where no rule applies gives up a character. -/
lemma giveUp {c : Char} (hx : At doc stack state error (c :: rest) x)
    (hpick : pick rules state (c :: rest) = none) :
    Reads true x (Pure.pure ()) fun _ y => At doc stack state (error + 1) rest y ∧ y.host = x.host := by
  rw [← hx.state, ← hx.ahead] at hpick
  have hstep : (nextToken callbacks true).effect x = _ := effect_nextToken_of_none hx.rows hpick true
  rw [if_pos (by simp [isStuck, hx.ahead])] at hstep
  refine Act.Ends.pure ⟨gaveUp x, .more hstep (by decide) (.stay _), rfl, ?_, rfl⟩
  refine ⟨hx.rows, hx.comment, hx.stack, hx.state, congrArg (· + 1) hx.error, ?_⟩
  show x.ahead.drop 1 = rest
  rw [hx.ahead]
  rfl

/-- Asking for all tokens reads on, where none comes behind. -/
lemma effect_drain (h : Reads atEnd x act Q) (hx : x.rows = rules.map .rule)
    (hend : ∀ a y, Q a y → (nextToken callbacks atEnd).effect y = (.ok none, y)) :
    act.Ends x.host.binding
      (fun a b => ∃ tokens y, (drain callbacks atEnd).effect x = (.ok (tokens, none), y) ∧
        y.host.binding = b ∧ Q a y)
      (fun f b => ∃ tokens y, (drain callbacks atEnd).effect x = (.ok (tokens, some f), y) ∧
        y.host.binding = b) := by
  refine Act.Ends.mono h ?_ ?_
  · rintro a b ⟨y, hruns, hb, hq⟩
    obtain ⟨n, hcalls⟩ := hruns.exists_calls fun _ => hend a y hq
    obtain ⟨tokens, hdrain⟩ := hcalls.effect_drain (hcalls.le_length hx consuming_rules keepText_callbacks)
    exact ⟨tokens, y, hdrain, hb, hq⟩
  · rintro f b ⟨y, hruns, hb⟩
    obtain ⟨n, hcalls⟩ := hruns.exists_calls fun hnone => nomatch hnone
    obtain ⟨tokens, hdrain⟩ := hcalls.effect_drain (hcalls.le_length hx consuming_rules keepText_callbacks)
    exact ⟨tokens, y, hdrain, hb⟩

end Reads

/-! ### What actions perform -/

section Performs

variable {name : String} {handler : Match → Act HeaderReader Unit} {h : Header} {id : ClassId}
  {act : Act Binding α}

lemma runActions_of_action (ha : action name = some handler) (m : Match) (next : Option String)
    (x : HeaderReader) :
    (runActions callbacks m [name] next).effect x =
      match (handler m).effect x with
      | (.ok _, y) => (.ok next, y)
      | (.error f, y) => (.error f, y) := by
  rw [effect_runActions_cons, callback_of_action ha, Act.effect_bind]
  rcases (handler m).effect x with ⟨_ | _, y⟩ <;> rfl

/-- An action that works on the binding and then changes what is open. -/
lemma performs_of_modify {f : α → Header → Header}
    (hf : ∀ a (h : Header) b, f a { h with binding := b } = { f a h with binding := b })
    (ha : action name = some handler)
    (he : ∀ x : HeaderReader, x.host = h → (handler m).effect x =
      (do let a ← onBinding act; modifyHeader (f a) : Act HeaderReader Unit).effect x) :
    Performs m [name] h act fun a => f a h := by
  rintro x next rfl
  rcases hact : act.effect x.host.binding with ⟨e | a, b⟩
  · refine .of_error hact ⟨{ x.host with binding := b }, rfl, ?_⟩
    rw [runActions_of_action ha, he x rfl, Act.effect_bind, effect_onBinding, hact]
    rfl
  · refine .of_ok hact ?_
    rw [runActions_of_action ha, he x rfl, Act.effect_bind, effect_onBinding, hact, ← hf]
    rfl

/-- An action that works on the binding only. -/
lemma performs_of_onBinding {act : Act Binding Unit} (ha : action name = some handler)
    (he : ∀ x : HeaderReader, x.host = h → (handler m).effect x = (onBinding act).effect x) :
    Performs m [name] h act fun _ => h := by
  refine performs_of_modify (f := fun _ h => h) (fun _ _ _ => rfl) ha fun x hx => ?_
  rw [he x hx, Act.effect_bind]
  rcases hact : act.effect x.host.binding with ⟨e | a, b⟩
  · simp only [effect_onBinding, hact]
  · simp only [effect_onBinding, hact]
    rfl

/-- No action at all. -/
lemma performs_nil (m : Match) (h : Header) : Performs m [] h (Pure.pure ()) fun _ => h := by
  rintro x next rfl
  exact Act.Ends.pure rfl

lemma performs_space (m : Match) (h : Header) :
    Performs m ["SPACE"] h (Pure.pure ()) fun _ => h := by
  rintro x next rfl
  have hcallback : callbacks.callback "SPACE" = defaultHandler := rfl
  refine Act.Ends.pure ?_
  rw [effect_runActions_cons, hcallback, defaultHandler, Act.effect_bind_of_ok (effect_noteAbove _ _ x)]
  rfl

lemma performs_startMethod (hp : m.group 1 ≠ "PRIVATE") (hid : h.currentClass = some id) :
    Performs m ["METHOD_START"] h (openMethod id h.comment (trimmed m 2) (trimmed m 5))
      fun method => { h with currentMethod := some method } := by
  rintro x next rfl
  have hrun : (runActions callbacks m ["METHOD_START"] next).effect x = _ :=
    runActions_of_action rfl m next x
  rw [effect_startMethod hp hid] at hrun
  rcases hact : (openMethod id x.host.comment (trimmed m 2) (trimmed m 5)).effect x.host.binding with
    ⟨e | a, b⟩ <;> rw [hact] at hrun
  · exact .of_error hact ⟨_, by exact rfl, hrun⟩
  · exact .of_ok hact hrun

end Performs

end HeaderReader

end HeaderBind
