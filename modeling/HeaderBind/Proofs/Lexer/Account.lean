import HeaderBind.Lexer.Recorder
import HeaderBind.Proofs.Lexer.Progress
import Mathlib.Algebra.Ring.Int.Defs

/-!
# No text is lost

Whatever is done to a lexer, the text on both sides of the border is the text that was fed, in its
order. What was consumed was taken by rules or given up, and the errors count what was given up and
what was raised (`accounted_runAll`). The table may hold rows that are no rules, and calls may fail: all
that is asked is that the actions leave the text and the counts alone.
-/

namespace HeaderBind.Lexer

variable {η : Type} {callbacks : Callbacks η} {x y z : Lexer η}

/-- The text before and after the border, and what was counted of it. -/
def account (x : Lexer η) : List Char × List Char × Nat × Int :=
  (x.consumed, x.ahead, x.processed, x.error)

/-- No action touches the text or the counts, whether it fails or not. -/
def Callbacks.KeepAccount (callbacks : Callbacks η) : Prop :=
  ∀ name m, (callbacks.callback name name m).Keeps account

/-! ### What becomes of the text -/

/-- From one lexer to another a text was added behind the border, a number of characters were given up,
and errors of a weight were raised. Nothing else happened to the text and the counts. -/
structure Accounted (x : Lexer η) (text : List Char) (lost : Nat) (weight : Int) (z : Lexer η) :
    Prop where
  text : z.consumed.reverse ++ z.ahead = x.consumed.reverse ++ x.ahead ++ text
  processed : z.consumed.length + x.processed = x.consumed.length + z.processed + lost
  error : z.error = x.error + lost + weight

lemma Accounted.of_account_eq (h : account z = account x) : Accounted x [] 0 0 z := by
  simp only [account, Prod.mk.injEq] at h
  obtain ⟨hc, ha, hp, he⟩ := h
  exact ⟨by rw [hc, ha, List.append_nil], by rw [hc, hp, Nat.add_zero], by rw [he]; simp⟩

lemma Accounted.trans {t u : List Char} {l k : Nat} {w v : Int} (h : Accounted x t l w y)
    (h' : Accounted y u k v z) : Accounted x (t ++ u) (l + k) (w + v) z := by
  refine ⟨?_, ?_, ?_⟩
  · rw [h'.text, h.text, List.append_assoc _ t u]
  · have hxy := h.processed
    have hyz := h'.processed
    omega
  · rw [h'.error, h.error]
    omega

/-- What leaves the account of the other lexer alone changes nothing about it. -/
lemma Accounted.trans_account_eq {t : List Char} {l : Nat} {w : Int} (h : Accounted x t l w y)
    (hz : account z = account y) : Accounted x t l w z := by
  have := h.trans (.of_account_eq hz)
  rwa [List.append_nil, Nat.add_zero, Int.add_zero] at this

lemma accounted_take {n : Nat} (hn : n ≤ x.ahead.length) : Accounted x [] 0 0 (take n x) := by
  refine ⟨?_, ?_, ?_⟩
  · rw [List.append_nil]
    exact consumed_append_ahead_consume n x
  · simp only [take, consume, List.length_append, List.length_reverse, List.length_take]
    omega
  · simp [take, consume]

lemma accounted_gaveUp (hne : x.ahead ≠ []) : Accounted x [] 1 0 (gaveUp x) := by
  have hpos := List.length_pos_iff.mpr hne
  refine ⟨?_, ?_, ?_⟩
  · rw [List.append_nil]
    exact consumed_append_ahead_consume 1 x
  · simp only [gaveUp, consume, List.length_append, List.length_reverse, List.length_take]
    omega
  · simp [gaveUp]

/-! ### A call for a token -/

/-- Looking for a match changes nothing, also where it comes to a row that is no rule. -/
lemma keeps_firstMatch (state : String) (rows : List Row) :
    (firstMatch state rows : Act (Lexer η) _).Keeps id := by
  induction rows with
  | nil => exact .pure none
  | cons row rows ih =>
    cases row with
    | misshapen => exact .fail _
    | unread => exact .fail _
    | rule r =>
      rw [firstMatch]
      split
      · exact ih
      · refine .bind (keeps_noteAbove _ _) fun _ => .bind .state fun x => ?_
        split
        · exact ih
        · exact .bind (keeps_noteAbove _ _) fun _ => .pure _

/-- A match that is found is one of the text ahead. -/
lemma match?_of_firstMatch {state : String} {rows : List Row} {r : Rule} {m : Match}
    (h : (firstMatch state rows).effect x = (.ok (some (r, m)), y)) :
    r.pattern.match? x.ahead = some m := by
  induction rows with
  | nil => cases h
  | cons row rows ih =>
    cases row with
    | misshapen => cases h
    | unread => cases h
    | rule r' =>
      rw [firstMatch] at h
      split at h
      · exact ih h
      · rw [Act.effect_bind_of_ok (effect_noteAbove _ _ x),
          Act.effect_bind_of_ok (Act.effect_state x)] at h
        split at h
        · exact ih h
        · rename_i hm
          rw [Act.effect_bind_of_ok (effect_noteAbove _ _ x)] at h
          cases h
          exact hm

/-- How many characters a call for a token gives up: one where there is no match and the lexer is
stuck. -/
def discards (atEnd : Bool) (x : Lexer η) : Nat :=
  match ((firstMatch x.state x.rows).effect x).1 with
  | .ok none => if isStuck atEnd x then 1 else 0
  | _ => 0

lemma ahead_ne_nil_of_isStuck {atEnd : Bool} (h : isStuck atEnd x) : x.ahead ≠ [] := by
  intro hnil
  simp [isStuck, hnil] at h

/-- A call for a token takes a match or gives up a character, whatever the actions give or however they
fail. -/
lemma accounted_nextToken (hc : callbacks.KeepAccount) (atEnd : Bool) (x : Lexer η) :
    Accounted x [] (discards atEnd x) 0 ((nextToken callbacks atEnd).effect x).2 := by
  rw [nextToken, Act.effect_bind_of_ok (Act.effect_state x), Act.effect_bind, discards]
  have hkeep : ((firstMatch x.state x.rows).effect x).2 = x := keeps_firstMatch x.state x.rows x
  rcases hm : (firstMatch x.state x.rows).effect x with ⟨f | _ | ⟨r, m⟩, y⟩ <;>
    rw [hm] at hkeep <;> obtain rfl : y = x := hkeep
  · exact .of_account_eq rfl
  · show Accounted y [] _ 0 (Act.effect (Act.state >>= _) y).2
    rw [Act.effect_bind_of_ok (Act.effect_state y)]
    by_cases hs : isStuck atEnd y
    · simp only [if_pos hs]
      rw [Act.effect_bind_of_ok (effect_giveUp y)]
      exact accounted_gaveUp (ahead_ne_nil_of_isStuck hs)
    · simp only [if_neg hs]
      exact .of_account_eq rfl
  · show Accounted y [] 0 0 (Act.effect (Act.update _ >>= _) y).2
    have hlen := (Pattern.length_of_match? (match?_of_firstMatch hm)).2
    rw [Act.effect_bind_of_ok (Act.effect_update _ y)]
    refine (accounted_take hlen).trans_account_eq ?_
    -- The rest of the call is made of actions and of changes of state.
    show account (Act.effect _ (take m.length y)).2 = account (take m.length y)
    cases r.token with
    | none => rfl
    | some token =>
      refine Act.Keeps.bind ?_ ?_ (take m.length y)
      · exact keeps_runActions (fun name => hc name m) (fun _ _ => rfl) (actionNames token) r.next
      · intro next
        cases next with
        | none => exact .pure _
        | some s =>
          dsimp only
          split
          · exact .bind (.update fun _ => rfl) fun _ => .pure _
          · exact .pure _

/-! ### Calls for all tokens -/

/-- How many characters are given up by calls for tokens until there is none. -/
def discardsAll (callbacks : Callbacks η) (atEnd : Bool) : Nat → Lexer η → Nat
  | 0, _ => 0
  | fuel + 1, x =>
    discards atEnd x +
      match (nextToken callbacks atEnd).effect x with
      | (.ok (some token), y) => if token.isEmpty then 0 else discardsAll callbacks atEnd fuel y
      | _ => 0

lemma accounted_tokensFrom (hc : callbacks.KeepAccount) (atEnd : Bool) (fuel : Nat) (x : Lexer η) :
    Accounted x [] (discardsAll callbacks atEnd fuel x) 0
      ((tokensFrom callbacks atEnd fuel).effect x).2 := by
  induction fuel generalizing x with
  | zero => exact .of_account_eq rfl
  | succ fuel ih =>
    have hfirst := accounted_nextToken hc atEnd x
    rw [tokensFrom, Act.effect_bind_of_ok (Act.effect_attempt _ x), discardsAll]
    rcases he : (nextToken callbacks atEnd).effect x with ⟨f | _ | token, y⟩ <;> rw [he] at hfirst
    · exact hfirst
    · exact hfirst
    · dsimp only
      split
      · exact hfirst
      · have hrest := hfirst.trans (ih y)
        rw [Act.effect_bind]
        rcases hr : (tokensFrom callbacks atEnd fuel).effect y with ⟨f | tokens, w⟩ <;>
          rw [hr] at hrest <;> exact hrest

/-! ### Whatever is done to a lexer -/

/-- A call from outside. -/
inductive Call where
  | feed (bytes : ByteArray)
  | nextToken (atEnd : Bool)
  | close
  | pushState
  | popState
  | raise (message : Option String) (weight : Int)

namespace Call

/-- The lexer after a call, whether the call failed or not. -/
def run (callbacks : Callbacks η) (call : Call) (x : Lexer η) : Lexer η :=
  match call with
  | feed bytes => ((Lexer.feed bytes).effect x).2
  | nextToken atEnd => ((Lexer.nextToken callbacks atEnd).effect x).2
  | close => ((Lexer.close callbacks).effect x).2
  | pushState => (Lexer.pushState.effect x).2
  | popState => (Lexer.popState.effect x).2
  | raise message weight => ((Lexer.raise message weight).effect x).2

/-- The text that a call brings: that of the bytes fed, where they can be read. -/
def text : Call → List Char
  | feed bytes => ((String.fromUTF8? bytes).map String.toList).getD []
  | _ => []

/-- The weight of the error that a call raises. -/
def weight : Call → Int
  | raise _ weight => weight
  | _ => 0

/-- How many characters a call gives up. -/
def lost (callbacks : Callbacks η) (call : Call) (x : Lexer η) : Nat :=
  match call with
  | nextToken atEnd => discards atEnd x
  | close => discardsAll callbacks true (tokenBound x) x
  | _ => 0

lemma accounted_feed (bytes : ByteArray) (x : Lexer η) :
    Accounted x (feed bytes).text 0 0 ((Lexer.feed bytes).effect x).2 := by
  rw [Lexer.feed, text]
  cases String.fromUTF8? bytes with
  | none => exact .of_account_eq rfl
  | some s => exact ⟨by simp, by simp, by simp⟩

lemma accounted_close (hc : callbacks.KeepAccount) (x : Lexer η) :
    Accounted x [] (discardsAll callbacks true (tokenBound x) x) 0
      ((Lexer.close callbacks).effect x).2 := by
  have hall := accounted_tokensFrom hc true (tokenBound x) x
  have hdrain : (drain callbacks true).effect x =
      (tokensFrom callbacks true (tokenBound x)).effect x :=
    Act.effect_bind_of_ok (Act.effect_state x)
  rw [Lexer.close, Act.effect_bind, hdrain]
  rcases he : (tokensFrom callbacks true (tokenBound x)).effect x with ⟨f | ⟨tokens, _ | f⟩, y⟩ <;>
    rw [he] at hall <;> exact hall

/-- What one call does to the text and the counts. -/
lemma accounted_run (hc : callbacks.KeepAccount) (call : Call) (x : Lexer η) :
    Accounted x call.text (call.lost callbacks x) call.weight (call.run callbacks x) := by
  cases call with
  | feed bytes => exact accounted_feed bytes x
  | nextToken atEnd => exact accounted_nextToken hc atEnd x
  | close => exact accounted_close hc x
  | pushState =>
    have hkeep : (Lexer.pushState : Act (Lexer η) Unit).Keeps account :=
      .bind (keeps_noteAbove _ _) fun _ => .update fun _ => rfl
    exact .of_account_eq (hkeep x)
  | popState =>
    have hkeep := keeps_tally_popState x
    simp only [tally, Prod.mk.injEq] at hkeep
    exact .of_account_eq (by simp only [account, run, hkeep])
  | raise message weight =>
    rw [run, effect_raise]
    exact ⟨by simp [text], by simp [lost], by simp [lost, Call.weight]⟩

end Call

/-- The lexer after calls, one after the other. -/
def runAll (callbacks : Callbacks η) : List Call → Lexer η → Lexer η
  | [], x => x
  | call :: calls, x => runAll callbacks calls (call.run callbacks x)

/-- How many characters are given up in calls, one after the other. -/
def lostIn (callbacks : Callbacks η) : List Call → Lexer η → Nat
  | [], _ => 0
  | call :: calls, x => call.lost callbacks x + lostIn callbacks calls (call.run callbacks x)

lemma accounted_runAll (hc : callbacks.KeepAccount) (calls : List Call) (x : Lexer η) :
    Accounted x (calls.flatMap Call.text) (lostIn callbacks calls x) (calls.map Call.weight).sum
      (runAll callbacks calls x) := by
  induction calls generalizing x with
  | nil => exact .of_account_eq rfl
  | cons call calls ih =>
    rw [List.flatMap_cons, List.map_cons, List.sum_cons]
    exact (call.accounted_run hc x).trans (ih _)

lemma keepAccount_recording (outcomes : Outcomes) : (recording outcomes).KeepAccount := by
  have hrecord : ∀ outcome name m, (record outcome name m).Keeps account := fun _ _ _ =>
    .bind (.update fun _ => rfl) fun _ => .pure _
  have hbuiltIn : ∀ {name : String} {act : Callback Outcomes}, builtIn name = some act →
      ∀ m, (act name m).Keeps account := by
    intro name act h m x
    have hkeep := keeps_tally_builtIn h m x
    simp only [tally, Prod.mk.injEq] at hkeep
    simp only [account, hkeep]
  intro name m
  unfold Callbacks.callback recording
  dsimp only
  cases outcomes.lookup name with
  | some outcome => exact hrecord outcome name m
  | none =>
    simp only [Option.map_none, Option.orElse_none]
    cases hb : builtIn name with
    | some act => exact hbuiltIn hb m
    | none =>
      cases outcomes.lookup "default_handler" with
      | some outcome => exact hrecord outcome name m
      | none => exact .bind (keeps_noteAbove _ _) fun _ => .pure _

/-- Of a lexer that starts without text, whatever calls are made and however they end: the text on both
sides of the border is what was fed, what was consumed was taken by rules or given up, and the errors
count what was given up and what was raised. -/
theorem account_runAll (hc : callbacks.KeepAccount) (hx : account x = ([], [], 0, 0))
    (calls : List Call) :
    (runAll callbacks calls x).consumed.reverse ++ (runAll callbacks calls x).ahead =
        calls.flatMap Call.text ∧
      (runAll callbacks calls x).consumed.length =
        (runAll callbacks calls x).processed + lostIn callbacks calls x ∧
      (runAll callbacks calls x).error =
        lostIn callbacks calls x + (calls.map Call.weight).sum := by
  have h := accounted_runAll hc calls x
  simp only [account, Prod.mk.injEq] at hx
  obtain ⟨hconsumed, hahead, hprocessed, herror⟩ := hx
  refine ⟨?_, ?_, ?_⟩
  · rw [h.text, hconsumed, hahead]
    rfl
  · have := h.processed
    rw [hconsumed, hprocessed, List.length_nil] at this
    omega
  · rw [h.error, herror]
    omega

/-- A rule takes `a`, another takes `b` by an action that fails, and nothing takes `c`. -/
def failsAtB : Lexer Outcomes where
  rows := [.rule ⟨.set .any, .char 'a', "a", some "A", none⟩,
    .rule ⟨.set .any, .char 'b', "b", some "feed", none⟩]
  host := []

/-- Text of which one character is given up, an error, bytes that are no text, and an action that
fails. -/
theorem account_runAll_failsAtB :
    (recording []).KeepAccount ∧ account failsAtB = ([], [], 0, 0) ∧
      let calls : List Call := [.feed "ac".toUTF8, .close, .raise none 5, .feed ⟨#[255]⟩, .pushState,
        .feed "bab".toUTF8, .nextToken false, .popState]
      lostIn (recording []) calls failsAtB = 1 ∧
        (runAll (recording []) calls failsAtB).ahead = ['a', 'b'] ∧
        (runAll (recording []) calls failsAtB).consumed.reverse ++
          (runAll (recording []) calls failsAtB).ahead = calls.flatMap Call.text ∧
        (runAll (recording []) calls failsAtB).consumed.length =
          (runAll (recording []) calls failsAtB).processed + lostIn (recording []) calls failsAtB ∧
        (runAll (recording []) calls failsAtB).error =
          lostIn (recording []) calls failsAtB + (calls.map Call.weight).sum :=
  ⟨keepAccount_recording [], rfl, by decide +kernel, by decide +kernel,
    account_runAll (keepAccount_recording []) rfl _⟩

end HeaderBind.Lexer
