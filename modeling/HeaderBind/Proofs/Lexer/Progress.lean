import HeaderBind.Proofs.Lexer.Step

/-!
# A lexer gets on

Suppose that every rule takes something off the text and has a token, and that no action touches the
text. Then a step on a text that is not empty takes something off it, unless the lexer may wait for
more (`nextToken_getsOn`). So the calls for tokens come to an end, after at most one more call than
there are characters (`exists_calls`), and the bound on the tokens of `drain` is never reached.
-/

namespace HeaderBind.Lexer

variable {η : Type} {callbacks : Callbacks η} {rules : List Rule} {x y z : Lexer η}

/-! ### What actions leave alone -/

/-- The rules, the text before and after the border, and what was counted of it. -/
def tally (x : Lexer η) : List Row × List Char × List Char × Nat × Int :=
  (x.rows, x.consumed, x.ahead, x.processed, x.error)

/-- No action touches the rules, the text or the counts. -/
def Callbacks.KeepText (callbacks : Callbacks η) : Prop :=
  ∀ name m, (callbacks.callback name name m).Keeps tally

/-- Running actions leaves a part of the lexer alone if each action that is called does. -/
lemma runActions_of_called {γ : Type} {part : Lexer η → γ} {m : Match} {names : List String}
    (hs : ∀ (x : Lexer η) s, part { x with state := s } = part x)
    (hc : ∀ name z, Called callbacks m names x name z →
      part ((callbacks.callback name name m).effect z).2 = part z) (next : Option String) :
    part ((runActions callbacks m names next).effect x).2 = part x := by
  induction names generalizing x next with
  | nil => rfl
  | cons name names ih =>
    have hx := hc name x .first
    rw [effect_runActions_cons]
    rcases he : (callbacks.callback name name m).effect x with ⟨e | given, y⟩ <;> rw [he] at hx
    · exact hx
    · have hsettle : part (settle given y) = part y := by
        unfold settle
        split
        · rfl
        · exact hs y _
      exact ((ih (fun other z hz => hc other z (.later he hz)) _).trans hsettle).trans hx

lemma keeps_runActions {γ : Type} {part : Lexer η → γ} {m : Match}
    (hc : ∀ name, (callbacks.callback name name m).Keeps part)
    (hs : ∀ (x : Lexer η) s, part { x with state := s } = part x) (names : List String)
    (next : Option String) : (runActions callbacks m names next).Keeps part :=
  fun _ => runActions_of_called hs (fun name z _ => hc name z) next

/-- Where running actions fails, one of them failed. -/
lemma exists_of_runActions_error {m : Match} {names : List String} {next : Option String}
    {f : Fault} (h : (runActions callbacks m names next).effect x = (.error f, y)) :
    ∃ name z, Called callbacks m names x name z ∧
      (callbacks.callback name name m).effect z = (.error f, y) := by
  induction names generalizing x next with
  | nil => cases h
  | cons name names ih =>
    rw [effect_runActions_cons] at h
    rcases hc : (callbacks.callback name name m).effect x with ⟨e | given, z⟩ <;> rw [hc] at h
    · cases h
      exact ⟨name, x, .first, hc⟩
    · obtain ⟨other, w, hw, he⟩ := ih h
      exact ⟨other, w, .later hc hw, he⟩

lemma tally_moveTo (next : Option String) (x : Lexer η) : tally (moveTo next x) = tally x := by
  unfold moveTo
  split
  · split <;> rfl
  · rfl

lemma keeps_noteAbove {γ : Type} {part : Lexer η → γ} (level : Int) (message : Lexer η → String) :
    (noteAbove level message).Keeps part := by
  intro x
  rw [effect_noteAbove]

lemma keeps_tally_popState : (popState : Act (Lexer η) (Option String)).Keeps tally := by
  refine .bind .state fun x => ?_
  split
  · exact .bind (.update fun _ => rfl) fun _ => .bind (keeps_noteAbove _ _) fun _ => .pure _
  · exact .bind (.note _) fun _ => .pure _

lemma keeps_tally_save (m : Option Match) : (save m : Act (Lexer η) Unit).Keeps tally := by
  have hkeep : ∀ x : Lexer η, ∀ f : Lexer η → Lexer η, (∀ y, tally (f y) = tally y) →
      (do Act.update f; if x.verbose > 1 then Act.fail .badValue).Keeps tally := by
    intro x f hf
    refine .bind (.update hf) fun _ => ?_
    split
    · exact .fail _
    · exact .pure _
  refine .bind .state fun x => ?_
  split
  · exact .pure ()
  · split <;> dsimp only <;> split
    · exact .bind (.fail _) fun _ => hkeep x _ fun _ => rfl
    · exact hkeep x _ fun _ => rfl
    · exact .bind (.fail _) fun _ => .fail _
    · exact .fail _

/-- The actions that every lexer has do not touch the text. -/
lemma keeps_tally_builtIn {name : String} {act : Callback η} (h : builtIn name = some act)
    (m : Match) : (act name m).Keeps tally := by
  unfold builtIn at h
  split at h
  · obtain rfl := Option.some.inj h
    exact .bind (.bind (keeps_noteAbove _ _) fun _ => .update fun _ => rfl) fun _ => .pure none
  · obtain rfl := Option.some.inj h
    exact keeps_tally_popState
  · obtain rfl := Option.some.inj h
    exact .bind (keeps_tally_save _) fun _ => .pure none
  · obtain rfl := Option.some.inj h
    exact .bind (keeps_noteAbove _ _) fun _ => .pure none
  · split at h
    · obtain rfl := Option.some.inj h
      exact .fail _
    · cases h

/-! ### A step -/

/-- Every rule takes something, and has a token. -/
def Consuming (rules : List Rule) : Prop :=
  ∀ r ∈ rules, 0 < r.pattern.minLength ∧ ∃ token, r.token = some token ∧ token ≠ ""

/-- Something was taken off the text: either there is a token, or an action of the rule that was
picked failed. -/
structure GotOn (callbacks : Callbacks η) (rules : List Rule) (x : Lexer η)
    (result : Except Fault (Option String)) (y : Lexer η) : Prop where
  rows : y.rows = x.rows
  text : ∃ t, t ≠ [] ∧ x.ahead = t ++ y.ahead ∧ y.consumed = t.reverse ++ x.consumed
  token : (∃ token, result = .ok (some token) ∧ token ≠ "") ∨
    ∃ f, result = .error f ∧ ∃ name m z, StepCalls callbacks rules x name m z ∧
      (callbacks.callback name name m).effect z = (.error f, y)

lemma text_of_tally {n : Nat} (hn : 0 < n) (hl : n ≤ x.ahead.length)
    (hc : y.consumed = (consume n x).consumed) (ha : y.ahead = (consume n x).ahead) :
    ∃ t, t ≠ [] ∧ x.ahead = t ++ y.ahead ∧ y.consumed = t.reverse ++ x.consumed := by
  refine ⟨x.ahead.take n, ?_, ?_, hc⟩
  · intro h
    have := congrArg List.length h
    rw [List.length_take, List.length_nil] at this
    omega
  · rw [ha]
    exact (List.take_append_drop n x.ahead).symm

/-- A step on a text that is not empty takes something off it. Otherwise the lexer waits, which it
only does when more may come and not much is there, and then nothing changes at all. -/
theorem nextToken_getsOn (hx : x.rows = rules.map .rule) (hr : Consuming rules)
    (hc : callbacks.KeepText) (hne : x.ahead ≠ []) (atEnd : Bool) :
    GotOn callbacks rules x ((nextToken callbacks atEnd).effect x).1
        ((nextToken callbacks atEnd).effect x).2 ∨
      (atEnd = false ∧ x.ahead.length ≤ 1024 ∧
        (nextToken callbacks atEnd).effect x = (.ok none, x)) := by
  rcases hp : pick rules x.state x.ahead with _ | ⟨r, m⟩
  · rw [effect_nextToken_of_none hx hp]
    by_cases hs : isStuck atEnd x
    · left
      rw [if_pos hs]
      refine ⟨rfl, text_of_tally (n := 1) Nat.one_pos ?_ rfl rfl, .inl ⟨"ERROR", rfl, by decide⟩⟩
      exact List.length_pos_iff.mpr hne
    · right
      rw [if_neg hs]
      have hne' : x.ahead.isEmpty = false := by simpa using hne
      simp only [isStuck, hne', Bool.not_false, Bool.and_true, Bool.or_eq_true, not_or,
        Bool.not_eq_true, decide_eq_true_eq, Nat.not_lt] at hs
      exact ⟨hs.1, hs.2, rfl⟩
  · left
    obtain ⟨hmem, -, hmatch⟩ := pick_eq_some hp
    obtain ⟨hpos, token, htoken, hne'⟩ := hr r hmem
    have hlen := Pattern.length_of_match? hmatch
    have hpick : (nextToken callbacks atEnd).effect x = _ :=
      effect_nextToken_of_pick hx hp htoken atEnd
    have hkeep : tally _ = tally (take m.length x) :=
      keeps_runActions (fun name => hc name m) (fun _ _ => rfl) (actionNames token) r.next _
    rcases he : (runActions callbacks m (actionNames token) r.next).effect (take m.length x) with
      ⟨f | next, y⟩ <;> rw [he] at hpick hkeep <;> rw [hpick]
    · simp only [tally, Prod.mk.injEq] at hkeep
      obtain ⟨name, z, hcalled, hz⟩ := exists_of_runActions_error he
      exact ⟨hkeep.1, text_of_tally (by omega) hlen.2 hkeep.2.1 hkeep.2.2.1,
        .inr ⟨f, rfl, name, m, z, ⟨r, token, hp, htoken, hcalled⟩, hz⟩⟩
    · have hkeep' := (tally_moveTo next y).trans hkeep
      simp only [tally, Prod.mk.injEq] at hkeep'
      exact ⟨hkeep'.1, text_of_tally (by omega) hlen.2 hkeep'.2.1 hkeep'.2.2.1,
        .inl ⟨token, rfl, hne'⟩⟩

/-- Where the text is used up there is no token, and nothing changes. -/
theorem nextToken_of_nil (hx : x.rows = rules.map .rule) (hr : Consuming rules)
    (hnil : x.ahead = []) (atEnd : Bool) :
    (nextToken callbacks atEnd).effect x = (.ok none, x) := by
  have hp : pick rules x.state x.ahead = none := by
    rw [pick, firstOf, List.findSome?_eq_none_iff]
    intro r hmem
    rw [hnil, Pattern.match?_nil (hr r (List.mem_filter.mp hmem).1).1]
    rfl
  rw [effect_nextToken_of_none hx hp, if_neg]
  simp [isStuck, hnil]

/-! ### All steps -/

/-- Calls for tokens, until there is none or one fails: their number, the fault that ended them if one
did, and the lexer that they leave behind. -/
inductive Calls (callbacks : Callbacks η) (atEnd : Bool) :
    Lexer η → Nat → Option Fault → Lexer η → Prop where
  | done {x y : Lexer η} {token : Option String}
      (h : (nextToken callbacks atEnd).effect x = (.ok token, y)) (ht : token.getD "" = "") :
      Calls callbacks atEnd x 1 none y
  | failed {x y : Lexer η} {f : Fault}
      (h : (nextToken callbacks atEnd).effect x = (.error f, y)) :
      Calls callbacks atEnd x 1 (some f) y
  | more {x y z : Lexer η} {token : String} {n : Nat} {f : Option Fault}
      (h : (nextToken callbacks atEnd).effect x = (.ok (some token), y)) (ht : token ≠ "")
      (hc : Calls callbacks atEnd y n f z) : Calls callbacks atEnd x (n + 1) f z

/-- There are at most as many calls as characters, and one more; unless one fails, the text is used
up. -/
theorem exists_calls (hx : x.rows = rules.map .rule) (hr : Consuming rules)
    (hc : callbacks.KeepText) :
    ∃ n f z, Calls callbacks true x n f z ∧ n ≤ x.ahead.length + 1 ∧
      (f = none → z.ahead = []) := by
  induction hlen : x.ahead.length using Nat.strongRecOn generalizing x with
  | ind len ih =>
    by_cases hnil : x.ahead = []
    · refine ⟨1, none, x, .done (nextToken_of_nil hx hr hnil true) rfl, ?_, fun _ => hnil⟩
      omega
    · rcases nextToken_getsOn hx hr hc hnil true with h | ⟨h, -⟩
      · obtain ⟨t, ht, hahead, -⟩ := h.text
        have hpos := List.length_pos_iff.mpr ht
        have hlt : ((nextToken callbacks true).effect x).2.ahead.length < len := by
          rw [← hlen, hahead, List.length_append]
          omega
        rcases h.token with ⟨token, hresult, hne⟩ | ⟨f, hresult, -⟩
        · obtain ⟨n, f, z, hcalls, hn, hz⟩ := ih _ hlt (h.rows.trans hx) rfl
          exact ⟨n + 1, f, z, .more (Prod.ext hresult rfl) hne hcalls, by omega, hz⟩
        · exact ⟨1, some f, _, .failed (Prod.ext hresult rfl), by omega, fun h => nomatch h⟩
      · cases h

/-- What every call that does not fail keeps, calls keep if none of them fails. -/
theorem Calls.invariant {I : Lexer η → Prop} {atEnd : Bool} {n : Nat} {f : Option Fault}
    (hstep : ∀ x y token, I x → (nextToken callbacks atEnd).effect x = (.ok token, y) → I y)
    (h : Calls callbacks atEnd x n f z) (hf : f = none) (hx : I x) : I z := by
  induction h with
  | done h _ => exact hstep _ _ _ hx h
  | failed _ => cases hf
  | more h _ _ ih => exact ih hf (hstep _ _ _ hx h)

/-- With enough fuel the tokens are those of the calls. -/
theorem Calls.effect_tokensFrom {atEnd : Bool} {n fuel : Nat} {f : Option Fault}
    (h : Calls callbacks atEnd x n f z) (hn : n ≤ fuel) :
    ∃ tokens, (tokensFrom callbacks atEnd fuel).effect x = (.ok (tokens, f), z) := by
  induction h generalizing fuel with
  | @done x y token h ht =>
    obtain ⟨fuel, rfl⟩ : ∃ k, fuel = k + 1 := ⟨fuel - 1, by omega⟩
    refine ⟨[], ?_⟩
    rw [tokensFrom, Act.effect_bind_of_ok (by rw [Act.effect_attempt, h])]
    cases token with
    | none => rfl
    | some token =>
      have hempty : token.isEmpty = true := by simpa using ht
      simp only [hempty, if_true]
      rfl
  | failed h =>
    obtain ⟨fuel, rfl⟩ : ∃ k, fuel = k + 1 := ⟨fuel - 1, by omega⟩
    exact ⟨[], by rw [tokensFrom, Act.effect_bind_of_ok (by rw [Act.effect_attempt, h])]; rfl⟩
  | @more x y z token n f h ht hc ih =>
    obtain ⟨fuel, rfl⟩ : ∃ k, fuel = k + 1 := ⟨fuel - 1, by omega⟩
    obtain ⟨tokens, htokens⟩ := ih (show n ≤ fuel by omega)
    refine ⟨token :: tokens, ?_⟩
    have hempty : token.isEmpty = false := by simpa using ht
    rw [tokensFrom, Act.effect_bind_of_ok (by rw [Act.effect_attempt, h])]
    simp only [hempty, Bool.false_eq_true, if_false]
    rw [Act.effect_bind_of_ok htokens]
    rfl

/-- Within the bound of `drain` all calls are made. -/
theorem Calls.effect_drain {atEnd : Bool} {n : Nat} {f : Option Fault}
    (h : Calls callbacks atEnd x n f z) (hn : n ≤ x.ahead.length + 1) :
    ∃ tokens, (drain callbacks atEnd).effect x = (.ok (tokens, f), z) := by
  rw [drain, Act.effect_bind_of_ok (Act.effect_state x)]
  apply h.effect_tokensFrom
  rw [tokenBound]
  omega

/-- What calls result in that a fault ended, or none. -/
def endedBy : Option Fault → Except Fault Unit
  | some f => .error f
  | none => .ok ()

/-- Closing makes all calls, and fails when one of them does. -/
theorem Calls.effect_close {n : Nat} {f : Option Fault} (h : Calls callbacks true x n f z)
    (hn : n ≤ x.ahead.length + 1) : (close callbacks).effect x = (endedBy f, z) := by
  obtain ⟨tokens, ht⟩ := h.effect_drain hn
  rw [close, Act.effect_bind_of_ok ht]
  cases f <;> rfl

/-- The lexer with more text ahead. -/
def fed (text : String) (x : Lexer η) : Lexer η :=
  { x with ahead := x.ahead ++ text.toList }

lemma effect_feed (text : String) (x : Lexer η) :
    (feed text.toUTF8).effect x = (.ok (), fed text x) := by
  have hdecode : String.fromUTF8? text.toUTF8 = some text := dif_pos text.isValidUTF8
  rw [feed, hdecode]
  rfl

lemma feed_eq_ok {bytes : ByteArray} (h : (feed bytes).effect x = (.ok (), y)) : ∃ text, y = fed text x := by
  unfold feed at h
  split at h <;> cases h
  exact ⟨_, rfl⟩

end HeaderBind.Lexer
