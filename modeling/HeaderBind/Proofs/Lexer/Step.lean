import HeaderBind.Lexer.Basic
import HeaderBind.Proofs.Act
import HeaderBind.Proofs.Pattern.Language

/-!
# One step of a lexer

For a table all of whose rows are rules, one step is determined by the rule that is picked: the first
rule that applies in the state and matches the text ahead. Its match is taken off the text, and its
actions run one after the other (`effect_nextToken_of_pick`). Where no rule is picked a character is
given up, or the lexer waits (`effect_nextToken_of_none`).
-/

namespace HeaderBind.Lexer

variable {η : Type}

/-! ### Picking a rule -/

/-- Whether a rule applies in a state. -/
def Rule.appliesIn (r : Rule) (state : String) : Bool :=
  (r.states.match? state.toList).isSome

/-- The first rule that matches a text, with its match. -/
def firstOf (rules : List Rule) (text : List Char) : Option (Rule × Match) :=
  rules.findSome? fun r => (r.pattern.match? text).map (r, ·)

/-- The first rule that applies in a state and matches a text, with its match. -/
def pick (rules : List Rule) (state : String) (text : List Char) : Option (Rule × Match) :=
  firstOf (rules.filter (·.appliesIn state)) text

lemma firstOf_cons_of_some {r : Rule} {rules : List Rule} {text : List Char} {m : Match}
    (h : r.pattern.match? text = some m) : firstOf (r :: rules) text = some (r, m) := by
  simp [firstOf, h]

lemma firstOf_cons_of_none {r : Rule} {rules : List Rule} {text : List Char}
    (h : r.pattern.match? text = none) : firstOf (r :: rules) text = firstOf rules text := by
  simp [firstOf, h]

/-- The rule that is picked is in the table, applies in the state, and matches. -/
lemma pick_eq_some {rules : List Rule} {state : String} {text : List Char} {r : Rule} {m : Match}
    (h : pick rules state text = some (r, m)) :
    r ∈ rules ∧ r.appliesIn state ∧ r.pattern.match? text = some m := by
  obtain ⟨r', hr', hm⟩ := List.exists_of_findSome?_eq_some h
  rw [Option.map_eq_some_iff] at hm
  obtain ⟨m', hm, heq⟩ := hm
  cases heq
  rw [List.mem_filter] at hr'
  exact ⟨hr'.1, hr'.2, hm⟩

@[simp] lemma effect_noteAbove (level : Int) (message : Lexer η → String) (x : Lexer η) :
    (noteAbove level message).effect x = (.ok (), x) := by
  rw [noteAbove, Act.effect_bind_of_ok (Act.effect_state x)]
  split <;> rfl

lemma effect_firstMatch (rules : List Rule) (state : String) (x : Lexer η) :
    (firstMatch state (rules.map .rule)).effect x = (.ok (pick rules state x.ahead), x) := by
  induction rules with
  | nil => rfl
  | cons r rules ih =>
    rw [List.map_cons, firstMatch]
    by_cases hr : r.appliesIn state
    · have hs : (r.states.match? state.toList).isNone = false := by
        simpa [Rule.appliesIn, Option.isSome_iff_ne_none] using hr
      have hf : (r :: rules).filter (·.appliesIn state) =
          r :: rules.filter (·.appliesIn state) := by simp [hr]
      rw [if_neg (by simp [hs]), Act.effect_bind_of_ok (effect_noteAbove _ _ x),
        Act.effect_bind_of_ok (Act.effect_state x), pick, hf]
      cases hm : r.pattern.match? x.ahead with
      | none =>
        rw [firstOf_cons_of_none hm]
        exact ih
      | some m =>
        rw [firstOf_cons_of_some hm]
        exact Act.effect_bind_of_ok (effect_noteAbove _ _ x)
    · have hs : (r.states.match? state.toList).isNone = true := by
        simpa [Rule.appliesIn] using hr
      rw [if_pos hs, ih, pick, pick]
      simp [hr]

/-! ### Taking a match -/

/-- Take a number of characters off the text ahead, on account of a rule. -/
def take (n : Nat) (x : Lexer η) : Lexer η :=
  { consume n x with processed := x.processed + n }

/-- The action of a name, or the one for all other names. -/
def Callbacks.callback (callbacks : Callbacks η) (name : String) : Callback η :=
  (callbacks.find name).getD callbacks.fallback

/-- Whether what an action gives is a state to change to. -/
def isMove (state : String) : Bool :=
  !(state == "CONTINUE" || state.isEmpty)

/-- Change to the state that an action gave, if it gave one to change to. -/
def settle (given : Option String) (x : Lexer η) : Lexer η :=
  match given.filter isMove with
  | none => x
  | some s => { x with state := s }

/-- Actions run one after the other. One that gives a state changes to it before the others go on. -/
lemma effect_runActions_cons (callbacks : Callbacks η) (m : Match) (name : String)
    (rest : List String) (next : Option String) (x : Lexer η) :
    (runActions callbacks m (name :: rest) next).effect x =
      match (callbacks.callback name name m).effect x with
      | (.error f, y) => (.error f, y)
      | (.ok given, y) =>
        (runActions callbacks m rest ((given.filter isMove).or next)).effect (settle given y) := by
  rw [runActions, Act.effect_bind_of_ok (effect_noteAbove _ _ x)]
  show ((callbacks.callback name name m >>= _).effect x) = _
  rw [Act.effect_bind]
  rcases (callbacks.callback name name m).effect x with ⟨_ | _ | s, y⟩
  · rfl
  · rfl
  · by_cases hs : isMove s
    · have hs' : ¬ (s == "CONTINUE" || s.isEmpty) = true := by
        rwa [isMove, Bool.not_eq_true', ← Bool.not_eq_true] at hs
      simp only [settle, Option.filter_some, hs, if_true, if_neg hs']
      exact Act.effect_bind_of_ok (Act.effect_update _ y)
    · have hs' : (s == "CONTINUE" || s.isEmpty) = true := by
        rwa [isMove, Bool.not_eq_true, Bool.not_eq_false'] at hs
      simp only [settle, Option.filter_some, hs, if_pos hs', Bool.false_eq_true, if_false,
        Option.none_or]

/-- Running actions succeeds when the first does and then the others do. -/
lemma runActions_cons_eq_ok {callbacks : Callbacks η} {m : Match} {name : String}
    {rest : List String} {next next' : Option String} {x z : Lexer η}
    (h : (runActions callbacks m (name :: rest) next).effect x = (.ok next', z)) :
    ∃ given y, (callbacks.callback name name m).effect x = (.ok given, y) ∧
      (runActions callbacks m rest ((given.filter isMove).or next)).effect (settle given y) =
        (.ok next', z) := by
  rw [effect_runActions_cons] at h
  rcases he : (callbacks.callback name name m).effect x with ⟨f | given, y⟩ <;> rw [he] at h
  · cases h
  · exact ⟨given, y, rfl, h⟩

/-- While actions run, the action of a name is called on a lexer. -/
inductive Called (callbacks : Callbacks η) (m : Match) :
    List String → Lexer η → String → Lexer η → Prop where
  | first {name : String} {rest : List String} {x : Lexer η} :
      Called callbacks m (name :: rest) x name x
  | later {name other : String} {rest : List String} {given : Option String} {x y z : Lexer η}
      (h : (callbacks.callback name name m).effect x = (.ok given, y))
      (hc : Called callbacks m rest (settle given y) other z) :
      Called callbacks m (name :: rest) x other z

/-- A call for a token calls the action of a name, with a match, on a lexer. -/
def StepCalls (callbacks : Callbacks η) (rules : List Rule) (x : Lexer η) (name : String) (m : Match)
    (z : Lexer η) : Prop :=
  ∃ r token, pick rules x.state x.ahead = some (r, m) ∧ r.token = some token ∧
    Called callbacks m (actionNames token) (take m.length x) name z

/-! ### The step -/

/-- Change to the state that a rule or its actions gave last. -/
def moveTo (next : Option String) (x : Lexer η) : Lexer η :=
  match next with
  | some s => if s.isEmpty then x else { x with state := s }
  | none => x

lemma settle_of_isMove {s : String} (hs : isMove s) (x : Lexer η) :
    settle (some s) x = { x with state := s } := by
  rw [settle, Option.filter_some, if_pos hs]

lemma moveTo_of_isMove {s : String} (hs : isMove s) (x : Lexer η) :
    moveTo (some s) x = { x with state := s } := by
  have hne : s.isEmpty = false := by
    rw [isMove, Bool.not_eq_true', Bool.or_eq_false_iff] at hs
    exact hs.2
  simp only [moveTo, hne, Bool.false_eq_true, if_false]

/-- A rule that is picked takes its match and runs its actions. -/
theorem effect_nextToken_of_pick {callbacks : Callbacks η} {rules : List Rule} {x : Lexer η}
    (hx : x.rows = rules.map .rule) {r : Rule} {m : Match} {token : String}
    (hp : pick rules x.state x.ahead = some (r, m)) (ht : r.token = some token) (atEnd : Bool) :
    (nextToken callbacks atEnd).effect x =
      match (runActions callbacks m (actionNames token) r.next).effect (take m.length x) with
      | (.ok next, y) => (.ok (some token), moveTo next y)
      | (.error f, y) => (.error f, y) := by
  have hm : (firstMatch x.state x.rows).effect x = (.ok (some (r, m)), x) := by
    rw [hx, effect_firstMatch, hp]
  rw [nextToken, Act.effect_bind_of_ok (Act.effect_state x), Act.effect_bind_of_ok hm]
  refine (Act.effect_bind_of_ok (Act.effect_update _ x)).trans ?_
  rw [ht]
  show ((runActions callbacks m (actionNames token) r.next >>= _).effect (take m.length x)) = _
  rw [Act.effect_bind]
  rcases (runActions callbacks m (actionNames token) r.next).effect (take m.length x) with
    ⟨_ | _ | s, y⟩
  · rfl
  · rfl
  · by_cases hs : s.isEmpty <;> simp only [moveTo, hs, Bool.not_true, Bool.not_false, if_true,
      if_false, Bool.false_eq_true] <;> rfl

/-- The lexer after one character was given up. -/
def gaveUp (x : Lexer η) : Lexer η :=
  { consume 1 x with error := x.error + 1 }

lemma effect_raise (message : Option String) (weight : Int) (x : Lexer η) :
    (raise message weight).effect x = (.ok (), { x with error := x.error + weight }) := by
  cases message with
  | none => rfl
  | some message =>
    rw [raise]
    by_cases h : (!message.isEmpty) = true
    · simp only [if_pos h]
      exact Act.effect_bind_of_ok (effect_noteAbove _ _ x)
    · simp only [if_neg h]
      rfl

lemma effect_giveUp (x : Lexer η) : giveUp.effect x = (.ok (), gaveUp x) := by
  rw [giveUp, Act.effect_bind_of_ok (Act.effect_update _ x),
    Act.effect_bind_of_ok (Act.effect_state _), effect_raise]
  rfl

/-- Where no rule is picked, a character is given up or the lexer waits. -/
theorem effect_nextToken_of_none {callbacks : Callbacks η} {rules : List Rule} {x : Lexer η}
    (hx : x.rows = rules.map .rule) (hp : pick rules x.state x.ahead = none) (atEnd : Bool) :
    (nextToken callbacks atEnd).effect x =
      if isStuck atEnd x then (.ok (some "ERROR"), gaveUp x) else (.ok none, x) := by
  have hm : (firstMatch x.state x.rows).effect x = (.ok none, x) := by
    rw [hx, effect_firstMatch, hp]
  rw [nextToken, Act.effect_bind_of_ok (Act.effect_state x), Act.effect_bind_of_ok hm]
  refine (Act.effect_bind_of_ok (Act.effect_state x)).trans ?_
  split
  · exact Act.effect_bind_of_ok (effect_giveUp x)
  · rfl

end HeaderBind.Lexer
