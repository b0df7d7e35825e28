import HeaderBind.Proofs.Header.Frame
import HeaderBind.Proofs.Header.Table

/-!
# Reading a header comes to an end

No rule for headers matches the empty text, and no action of a header touches the text. So a reader
of headers gets on whatever it is given, in every state that it can be brought into, be it by calls
that fail (`getsOn_of_visited`).
-/

namespace HeaderBind.HeaderReader

open Lexer Header.Table

variable {x y : HeaderReader}

/-! ### The rules and the actions -/

lemma consuming_rules : Consuming rules := by
  have h : rules.all (fun r => decide (0 < r.pattern.minLength) && r.token.any (· != "")) = true := by
    decide +kernel
  intro r hr
  have hr := List.all_eq_true.mp h r hr
  rw [Bool.and_eq_true, decide_eq_true_eq, Option.any_eq_true] at hr
  obtain ⟨hpos, token, htoken, hne⟩ := hr
  exact ⟨hpos, token, htoken, by simpa using hne⟩

lemma callback_of_action {name : String} {act : Match → Act HeaderReader Unit} (h : action name = some act) :
    callbacks.callback name = fun _ m => do act m; return none := by
  simp only [Callbacks.callback, callbacks, h, Option.getD_some]

/-- Where a header has no action of a name, the action is the one that every lexer has. -/
lemma callback_of_action_none {name : String} (h : action name = none) :
    callbacks.callback name = (builtIn name).getD defaultHandler := by
  simp only [Callbacks.callback, callbacks, h]

lemma keepText_callbacks : callbacks.KeepText := by
  intro name m
  have htally : ∀ {act : Act HeaderReader Unit}, act.Keeps shell → act.Keeps tally :=
    fun h x => congrArg (fun s : Lexer Unit => s.tally) (h x)
  cases ha : action name with
  | some act =>
    rw [callback_of_action ha]
    exact .bind (htally (opensAs_action ha m).1) fun _ => .pure none
  | none =>
    rw [callback_of_action_none ha]
    cases hb : (builtIn name : Option (Callback Header)) with
    | some act => exact keeps_tally_builtIn hb m
    | none => exact .bind (keeps_noteAbove _ _) fun _ => .pure none

/-! ### Where a reader can get -/

/-- A reader that has read nothing yet. -/
def Started (x : HeaderReader) : Prop :=
  ∃ settings registry name base verbose, fresh settings registry name base verbose = .ok x

/-- The readers that feeding and asking for tokens leads to, whether the calls fail or not. -/
inductive Visited : HeaderReader → Prop where
  | start {x : HeaderReader} (h : Started x) : Visited x
  | feed {x y : HeaderReader} {bytes : ByteArray} {r : Except Fault Unit} (h : Visited x)
      (he : (Lexer.feed bytes).effect x = (r, y)) : Visited y
  | next {x y : HeaderReader} {atEnd : Bool} {r : Except Fault (Option String)} (h : Visited x)
      (he : (nextToken callbacks atEnd).effect x = (r, y)) : Visited y

/-- A reader starts with the rules of headers and with nothing read. -/
lemma Started.eq (h : Started x) : ∃ settings registry name base verbose, x =
    { rows := rules.map .rule, verbose, host := { binding := { settings, registry, name }, base } } := by
  obtain ⟨settings, registry, name, base, verbose, h⟩ := h
  rw [fresh, readTable_table] at h
  cases h
  exact ⟨settings, registry, name, base, verbose, rfl⟩

lemma rows_of_started (h : Started x) : x.rows = rules.map .rule := by
  obtain ⟨settings, registry, name, base, verbose, rfl⟩ := h.eq
  rfl

/-- A reader for a module of one letter. -/
def unread : HeaderReader :=
  { rows := rules.map .rule, host := { binding := { name := "m" } } }

lemma started_unread : Started unread := by
  refine ⟨{}, Registry.initial, "m", "", 0, ?_⟩
  rw [fresh, readTable_table]
  rfl

lemma rows_feed (bytes : ByteArray) (x : HeaderReader) :
    ((Lexer.feed bytes).effect x).2.rows = x.rows := by
  unfold Lexer.feed
  split <;> rfl

lemma rows_nextToken (hx : x.rows = rules.map .rule) (atEnd : Bool) :
    ((nextToken callbacks atEnd).effect x).2.rows = x.rows := by
  by_cases hnil : x.ahead = []
  · rw [nextToken_of_nil hx consuming_rules hnil]
  · rcases nextToken_getsOn hx consuming_rules keepText_callbacks hnil atEnd with h | ⟨-, -, h⟩
    · exact h.rows
    · rw [h]

lemma rows_of_visited (h : Visited x) : x.rows = rules.map .rule := by
  induction h with
  | start h => exact rows_of_started h
  | @feed x _ bytes _ _ he ih => rw [← ih, ← rows_feed bytes x, he]
  | @next _ _ atEnd _ _ he ih => rw [← ih, ← rows_nextToken ih atEnd, he]

/-! ### Getting on -/

/-- Calls for tokens until there is none, from a reader that has its text: there are no more of them
than characters ahead and one more, and unless one of them fails the text is used up. -/
def ComesToEnd (x : HeaderReader) (result : Except Fault Unit × HeaderReader) : Prop :=
  ∃ n f z, Calls callbacks true x n f z ∧ n ≤ x.ahead.length + 1 ∧ result = (endedBy f, z) ∧
    (f = none → z.ahead = [])

lemma comesToEnd_close (hx : x.rows = rules.map .rule) :
    ComesToEnd x ((close callbacks).effect x) := by
  obtain ⟨n, f, z, hcalls, hn, hz⟩ := exists_calls hx consuming_rules keepText_callbacks
  exact ⟨n, f, z, hcalls, hn, hcalls.effect_close hn, hz⟩

lemma comesToEnd_parse (hx : x.rows = rules.map .rule) (text : String) :
    ComesToEnd (fed text x) ((parse text.toUTF8).effect x) := by
  rw [parse, Lexer.parse, Act.effect_bind_of_ok (effect_feed text x)]
  exact comesToEnd_close hx

/-- What feeding keeps, and every call for a token that does not fail, reading a text keeps. -/
lemma brings_parse_of {I : HeaderReader → Prop} (hrows : ∀ x, I x → x.rows = rules.map .rule)
    (hfeed : ∀ x text, I x → I (fed text x))
    (hnext : ∀ x y token, I x → (nextToken callbacks true).effect x = (.ok token, y) → I y) (text : String) :
    (parse text.toUTF8).Brings I I := by
  intro x hx
  obtain ⟨n, f, z, hcalls, -, heq, -⟩ := comesToEnd_parse (hrows x hx) text
  cases f with
  | none => exact .of_ok heq (hcalls.invariant hnext rfl (hfeed x text hx))
  | some f => exact .of_error heq trivial

lemma visited_of_calls {atEnd : Bool} {n : Nat} {f : Option Fault} {z : HeaderReader}
    (h : Calls callbacks atEnd x n f z) (hx : Visited x) : Visited z := by
  induction h with
  | done h _ => exact hx.next h
  | failed h => exact hx.next h
  | more h _ _ ih => exact ih (hx.next h)

/-- Reading a text is feeding it and asking for tokens, so a reader that has read some texts, such as
the one that every module starts with, is reached in this way. -/
lemma visited_parse (hx : Visited x) (text : String) :
    Visited ((parse text.toUTF8).effect x).2 := by
  obtain ⟨n, f, z, hcalls, -, heq, -⟩ := comesToEnd_parse (rows_of_visited hx) text
  rw [heq]
  exact visited_of_calls hcalls (hx.feed (effect_feed text x))

/-- In every reader that can be reached a call for a token takes something off the text that is ahead:
then there is a token, or an action failed. It may take nothing only where more can come and not much
is ahead, and changes nothing then. So reading on to the end and reading a text come to an end after
at most one call more than there are characters, with nothing left unless an action failed; and they
lead to readers of which the same holds. -/
theorem getsOn_of_visited (hx : Visited x) :
    (∀ atEnd, x.ahead ≠ [] →
      GotOn callbacks rules x ((nextToken callbacks atEnd).effect x).1
          ((nextToken callbacks atEnd).effect x).2 ∨
        (atEnd = false ∧ x.ahead.length ≤ 1024 ∧
          (nextToken callbacks atEnd).effect x = (.ok none, x))) ∧
      ComesToEnd x ((close callbacks).effect x) ∧
      ∀ text : String, ComesToEnd (fed text x) ((parse text.toUTF8).effect x) ∧
        Visited ((parse text.toUTF8).effect x).2 := by
  have hrows := rows_of_visited hx
  exact ⟨fun atEnd hne => nextToken_getsOn hrows consuming_rules keepText_callbacks hne atEnd,
    comesToEnd_close hrows, fun text => ⟨comesToEnd_parse hrows text, visited_parse hx text⟩⟩

/-- A reader with a closing brace ahead, for which there is no rule. -/
def beforeBrace : HeaderReader := fed "\x7d" unread

theorem getsOn_beforeBrace :
    Visited beforeBrace ∧ beforeBrace.ahead ≠ [] ∧
      GotOn callbacks rules beforeBrace ((nextToken callbacks true).effect beforeBrace).1
        ((nextToken callbacks true).effect beforeBrace).2 ∧
      ComesToEnd beforeBrace ((close callbacks).effect beforeBrace) := by
  have hvisited : Visited beforeBrace := (Visited.start started_unread).feed (effect_feed "\x7d" _)
  have hne : beforeBrace.ahead ≠ [] := by decide
  refine ⟨hvisited, hne, ?_, (getsOn_of_visited hvisited).2.1⟩
  rcases (getsOn_of_visited hvisited).1 true hne with h | ⟨h, -⟩
  · exact h
  · cases h

end HeaderBind.HeaderReader
