import HeaderBind.Proofs.Header.Progress
import Mathlib.Data.List.Chain

/-!
# States within states

While a header is read states are entered from other states and left again. The stack together with
the state says where the reader is: which states were entered, one within the other. What is open
agrees with it. This holds for any text as long as no call fails (`agrees_of_reached`); so nothing is
ever left that was not entered, and no action finds closed what it works on.
-/

namespace HeaderBind.HeaderReader

open Lexer Header.Table

/-! ### Entering states -/

/-- The states of a reader of headers. -/
def states : List String :=
  ["INITIAL", "DEFINE", "COMMENT", "CCLASS", "METHOD", "STRUCT", "RECURSIVE_STRUCT", "ENUM"]

/-- Whether a state can be entered from another one. A comment can be entered from everywhere. -/
def Nests (outer inner : String) : Prop :=
  inner = "COMMENT" ∧ outer ∈ states ∨
    (outer, inner) ∈ [("INITIAL", "DEFINE"), ("INITIAL", "CCLASS"), ("INITIAL", "STRUCT"),
      ("INITIAL", "ENUM"), ("CCLASS", "METHOD"), ("STRUCT", "RECURSIVE_STRUCT"),
      ("RECURSIVE_STRUCT", "RECURSIVE_STRUCT")]

instance (outer inner : String) : Decidable (Nests outer inner) :=
  inferInstanceAs (Decidable (_ ∨ _))

/-- The stack and the state are those of states that were entered one within the other. -/
inductive Nested : List String → String → Prop where
  | initial : Nested [] "INITIAL"
  | enter {stack : List String} {outer inner : String} (h : Nested stack outer)
      (hn : Nests outer inner) : Nested (stack ++ [outer]) inner

namespace Nested

variable {stack : List String} {state : String}

lemma mem_states (h : Nested stack state) : state ∈ states := by
  cases h with
  | initial => decide
  | enter _ hn =>
    rcases hn with ⟨rfl, -⟩ | hn
    · decide
    · simp only [List.mem_cons, Prod.mk.injEq, List.not_mem_nil, or_false] at hn
      rcases hn with ⟨-, rfl⟩ | ⟨-, rfl⟩ | ⟨-, rfl⟩ | ⟨-, rfl⟩ | ⟨-, rfl⟩ | ⟨-, rfl⟩ | ⟨-, rfl⟩ <;>
        decide

/-- Nothing encloses the initial state. -/
lemma eq_nil_of_initial (h : Nested stack "INITIAL") : stack = [] := by
  generalize hs : "INITIAL" = state at h
  cases h with
  | initial => rfl
  | enter _ hn =>
    subst hs
    rcases hn with ⟨hn, -⟩ | hn
    · exact absurd hn (by decide)
    · simp at hn

/-- Every other state is enclosed. -/
lemma outer (h : Nested stack state) (hi : state ≠ "INITIAL") :
    ∃ outer rest, stack = rest ++ [outer] ∧ Nested rest outer := by
  cases h with
  | initial => exact absurd rfl hi
  | @enter rest outer _ h _ => exact ⟨outer, rest, rfl, h⟩

/-- Only the initial state encloses a class, a struct or an enum. -/
lemma eq_initial {inner : String} (hi : inner = "CCLASS" ∨ inner = "STRUCT" ∨ inner = "ENUM")
    (h : Nested stack inner) : stack = ["INITIAL"] := by
  cases h with
  | initial => exact absurd hi (by decide)
  | @enter stack outer _ h hn =>
    have houter : outer = "INITIAL" := by
      rcases hi with rfl | rfl | rfl <;> simpa [Nests] using hn
    subst houter
    rw [h.eq_nil_of_initial, List.nil_append]

/-- Only a class encloses a method. -/
lemma eq_class (h : Nested stack "METHOD") : stack = ["INITIAL", "CCLASS"] := by
  generalize hs : "METHOD" = state at h
  cases h with
  | initial => exact absurd hs (by decide)
  | @enter stack outer _ h hn =>
    subst hs
    have houter : outer = "CCLASS" := by simpa [Nests] using hn
    subst houter
    rw [h.eq_initial (.inl rfl)]
    rfl

/-- The states from the outermost to the innermost: the first is the initial one, and each can be
entered from the one before. -/
lemma isChain (h : Nested stack state) :
    (stack ++ [state]).head? = some "INITIAL" ∧ List.IsChain Nests (stack ++ [state]) := by
  induction h with
  | initial => exact ⟨rfl, .singleton _⟩
  | @enter stack outer inner h hn ih =>
    constructor
    · rw [List.head?_append_of_ne_nil _ (by simp)]
      exact ih.1
    · rw [List.append_assoc, List.singleton_append, List.isChain_append_cons_cons]
      exact ⟨ih.2, hn, .singleton _⟩

end Nested

/-! ### What is open -/

/-- What is open agrees with the states that were entered. -/
structure Agrees (stack : List String) (state : String) (o : Openings) : Prop where
  nested : Nested stack state
  inClass : o.inClass = true ↔ "CCLASS" ∈ stack ++ [state]
  inStruct : o.inStruct = true ↔ "STRUCT" ∈ stack ++ [state]
  inEnum : o.inEnum = true ↔ "ENUM" ∈ stack ++ [state]
  inMethod : o.inMethod = true → "METHOD" ∈ stack ++ [state]

/-- What has to be opened where a state is entered. -/
def entering : String → Change
  | "CCLASS" => .opensClass
  | "STRUCT" => .opensStruct
  | "ENUM" => .opensEnum
  | "METHOD" => .opensMethod
  | _ => .nothing

/-- What has to be closed where a state is left. -/
def leaving : String → Change
  | "CCLASS" => .closesClass
  | "STRUCT" => .closesStruct
  | "ENUM" => .closesEnum
  | "METHOD" => .closesMethod
  | _ => .nothing

namespace Agrees

variable {stack : List String} {state inner : String} {o o' : Openings}

lemma initial : Agrees [] "INITIAL" ⟨false, false, false, false⟩ :=
  ⟨.initial, by decide, by decide, by decide, by decide⟩

lemma enter (h : Agrees stack state o) (hn : Nests state inner) (ho : o' ∈ o.after (entering inner)) :
    Agrees (stack ++ [state]) inner o' := by
  obtain ⟨hnested, hclass, hstruct, henum, hmethod⟩ := h
  have hmem : ∀ s, s ∈ (stack ++ [state]) ++ [inner] ↔ s ∈ stack ++ [state] ∨ s = inner := by
    intro s
    rw [List.mem_append, List.mem_singleton]
  unfold entering at ho
  split at ho <;>
    simp only [Openings.after, List.mem_cons, List.not_mem_nil, or_false] at ho <;>
    refine ⟨.enter hnested hn, ?_, ?_, ?_, ?_⟩ <;> rw [hmem] <;> grind -ring -linarith

lemma leave (h : Agrees stack state o) (hi : state ≠ "INITIAL") (ho : o' ∈ o.after (leaving state)) :
    ∃ outer rest, stack = rest ++ [outer] ∧ Agrees rest outer o' := by
  obtain ⟨hnested, hclass, hstruct, henum, hmethod⟩ := h
  -- A class, a struct or an enum is never within another one, so after it was left none is open.
  have hself : state = "CCLASS" ∨ state = "STRUCT" ∨ state = "ENUM" → state ∉ stack := by
    intro hs
    rw [hnested.eq_initial hs]
    rcases hs with rfl | rfl | rfl <;> decide
  cases hnested with
  | initial => exact absurd rfl hi
  | @enter rest outer _ hrest hn =>
    rw [List.mem_append, List.mem_singleton] at hclass hstruct henum hmethod
    unfold leaving at ho
    split at ho <;>
      simp only [Openings.after, List.mem_cons, List.not_mem_nil, or_false] at ho <;>
      refine ⟨outer, rest, rfl, hrest, ?_, ?_, ?_, ?_⟩ <;> grind -ring -linarith

end Agrees

/-! ### What rules do -/

/-- What a rule does with the states: it stays, it enters a state and opens something there, or it
leaves the state and closes something, before or after. -/
inductive Move where
  | stay (name : String)
  | enter (inner : String) (name : Option String)
  | leave (name : Option String)
  | finish (name : String)

namespace Move

/-- The actions of a rule that makes the move. -/
def actions : Move → List String
  | stay name => [name]
  | enter _ name => "PUSH_STATE" :: name.toList
  | leave name => "POP_STATE" :: name.toList
  | finish name => [name, "POP_STATE"]

/-- The state that a rule gives that makes the move. -/
def next : Move → Option String
  | enter entered _ => some entered
  | _ => none

/-- The action apart from those on the stack. -/
def name? : Move → Option String
  | stay name | finish name => some name
  | enter _ name | leave name => name

/-- What the move changes of what is open. -/
def change (mv : Move) : Change :=
  (mv.name?.map changeOf).getD .nothing

/-- The move may be made in a state. -/
def Fits (state : String) : Move → Prop
  | mv@(stay _) => mv.change = .nothing
  | mv@(enter entered _) => Nests state entered ∧ mv.change = entering entered
  | mv@(leave _) | mv@(finish _) => state ≠ "INITIAL" ∧ mv.change = leaving state

instance (state : String) : (mv : Move) → Decidable (mv.Fits state)
  | stay _ => inferInstanceAs (Decidable (_ = _))
  | enter _ _ | leave _ | finish _ => inferInstanceAs (Decidable (_ ∧ _))

end Move

/-- The moves that rules for headers make. -/
def moves : List Move :=
  [.enter "DEFINE" none, .finish "DEFINE", .leave none,
   .enter "COMMENT" none, .finish "COMMENT_END", .stay "COMMENT", .stay "CLEAR_COMMENT",
   .stay "SPACE", .enter "CCLASS" (some "CCLASS_START"), .enter "METHOD" (some "METHOD_START"),
   .stay "METHOD_ARG", .leave (some "METHOD_END"), .stay "CCLASS_ATTRIBUTE", .finish "END_CCLASS",
   .enter "STRUCT" (some "STRUCT_START"), .enter "STRUCT" (some "TYPEDEF_STRUCT_START"),
   .stay "STRUCT_ATTRIBUTE", .stay "STRUCT_ATTRIBUTE_PTR", .leave (some "TYPEDEF_STRUCT_END"),
   .leave (some "STRUCT_END"), .enter "RECURSIVE_STRUCT" none,
   .enter "ENUM" (some "ENUM_START"), .enter "ENUM" (some "TYPEDEF_ENUM_START"),
   .stay "ENUM_VALUE", .leave (some "TYPEDEFED_ENUM_END"), .leave (some "ENUM_END"),
   .stay "BIND_STRUCT", .stay "SIMPLE_TYPEDEF"]

/-- The rule makes a move. -/
def Makes (r : Rule) (mv : Move) : Prop :=
  r.token.map actionNames = some mv.actions ∧ r.token ≠ some "" ∧ r.next = mv.next

instance (r : Rule) (mv : Move) : Decidable (Makes r mv) :=
  inferInstanceAs (Decidable (_ ∧ _))

/-- The moves of the rules for headers, in the order of the table. -/
def ruleMoves : List (Rule × Move) :=
  rules.zip
    [.enter "DEFINE" none, .finish "DEFINE", .leave none, .leave none, .enter "COMMENT" none,
     .finish "COMMENT_END", .stay "COMMENT", .stay "COMMENT", .stay "CLEAR_COMMENT", .stay "SPACE", .stay "SPACE",
     .enter "CCLASS" (some "CCLASS_START"), .enter "METHOD" (some "METHOD_START"), .stay "METHOD_ARG",
     .leave (some "METHOD_END"), .stay "CCLASS_ATTRIBUTE", .finish "END_CCLASS",
     .enter "STRUCT" (some "STRUCT_START"), .enter "STRUCT" (some "TYPEDEF_STRUCT_START"),
     .stay "STRUCT_ATTRIBUTE", .stay "STRUCT_ATTRIBUTE_PTR", .leave (some "TYPEDEF_STRUCT_END"),
     .leave (some "STRUCT_END"), .enter "RECURSIVE_STRUCT" none, .leave none, .leave none,
     .enter "ENUM" (some "ENUM_START"), .enter "ENUM" (some "TYPEDEF_ENUM_START"), .stay "ENUM_VALUE",
     .leave (some "TYPEDEFED_ENUM_END"), .leave (some "ENUM_END"), .stay "BIND_STRUCT", .stay "SIMPLE_TYPEDEF"]

lemma makes_ruleMoves : ∀ p ∈ ruleMoves, Makes p.1 p.2 := by
  decide +kernel

lemma makes_of_mem {r : Rule} {mv : Move} (h : (r, mv) ∈ ruleMoves) : Makes r mv :=
  makes_ruleMoves (r, mv) h

lemma exists_mem_ruleMoves {r : Rule} (h : r ∈ rules) : ∃ mv, (r, mv) ∈ ruleMoves := by
  have hrules : ruleMoves.map Prod.fst = rules := rfl
  rw [← hrules] at h
  obtain ⟨⟨r, mv⟩, hmem, rfl⟩ := List.mem_map.mp h
  exact ⟨mv, hmem⟩

lemma mem_moves_of_mem_ruleMoves : ∀ p ∈ ruleMoves, p.2 ∈ moves := by
  simp [ruleMoves, rules, moves]

/-- The actions that work on the class that is open. -/
def onClass : List String := ["CCLASS_ATTRIBUTE", "METHOD_START", "METHOD_END"]

/-- The actions that work on the struct that is open. -/
def onStruct : List String :=
  ["STRUCT_ATTRIBUTE", "STRUCT_ATTRIBUTE_PTR", "STRUCT_END", "TYPEDEF_STRUCT_END"]

/-- The actions that work on the enum that is open. -/
def onEnum : List String := ["ENUM_VALUE", "ENUM_END", "TYPEDEFED_ENUM_END"]

/-- The state is within what an action works on. -/
def Within (state name : String) : Prop :=
  (name ∈ onClass → state = "CCLASS" ∨ state = "METHOD") ∧ (name ∈ onStruct → state = "STRUCT") ∧
    (name ∈ onEnum → state = "ENUM")

instance (state name : String) : Decidable (Within state name) :=
  inferInstanceAs (Decidable (_ ∧ _))

/-- Every rule makes a move that may be made in the states where the rule applies, and what its action
works on encloses them. -/
lemma exists_move : ∀ s ∈ states, ∀ r ∈ rules, r.appliesIn s →
    ∃ mv ∈ moves, r.token.map actionNames = some mv.actions ∧ r.next = mv.next ∧ mv.Fits s ∧
      ∀ name ∈ mv.name?, Within s name := by
  have hfits : ∀ p ∈ ruleMoves, ∀ s ∈ states, p.1.appliesIn s →
      p.2.Fits s ∧ ∀ name ∈ p.2.name?, Within s name := by decide +kernel
  intro s hs r hr happlies
  obtain ⟨mv, hmem⟩ := exists_mem_ruleMoves hr
  obtain ⟨htoken, -, hnext⟩ := makes_of_mem hmem
  exact ⟨mv, mem_moves_of_mem_ruleMoves _ hmem, htoken, hnext, hfits (r, mv) hmem s hs happlies⟩

/-- An action of a header, or one that has no meaning. -/
def isPlain (name : String) : Bool :=
  (action name).isSome || name == "SPACE"

lemma isPlain_of_move : ∀ mv ∈ moves, ∀ name ∈ mv.name?, isPlain name := by
  decide +kernel

lemma find?_actions : ∀ mv ∈ moves, mv.actions.find? isPlain = mv.name? := by
  decide +kernel

/-- The action of a rule apart from those on the stack. -/
def ruleAction (r : Rule) : Option String :=
  r.token.bind fun token => (actionNames token).find? isPlain

/-- What a rule for headers has to do with its action can be shown for each of the moves. -/
lemma forall_ruleAction {P : Rule → String → Prop} (h : ∀ p ∈ ruleMoves, ∀ name ∈ p.2.name?, P p.1 name) :
    ∀ r ∈ rules, ∀ name ∈ ruleAction r, P r name := by
  intro r hr name hname
  obtain ⟨mv, hmem⟩ := exists_mem_ruleMoves hr
  obtain ⟨token, htoken, hnames⟩ := Option.map_eq_some_iff.mp (makes_of_mem hmem).1
  rw [ruleAction, htoken, Option.bind_some, hnames, find?_actions mv (mem_moves_of_mem_ruleMoves _ hmem)] at hname
  exact h (r, mv) hmem name hname

/-- The action apart from those on the stack that the next call for a token calls, with its match. -/
def nextAction (x : HeaderReader) : Option (String × Match) :=
  (pick rules x.state x.ahead).bind fun p => (ruleAction p.1).map (·, p.2)

/-- What is being read, before and after an action that does not fail. -/
def Acts (name : String) (m : Match) (h h' : Header) : Prop :=
  match action name with
  | some act => ∃ x y : HeaderReader, (act m).effect x = (.ok (), y) ∧ x.host = h ∧ y.host = h'
  | none => h' = h

/-- What is being read, before and after an action if there is one. -/
def ActsIf (called : Option (String × Match)) (h h' : Header) : Prop :=
  match called with
  | some (name, m) => Acts name m h h'
  | none => h' = h

/-- Either nothing came of it, or one of the actions of a header did it. -/
lemma ActsIf.cases {called : Option (String × Match)} {h h' : Header} (ha : ActsIf called h h') :
    (h' = h ∧ ∀ name m, called = some (name, m) → action name = none) ∨
      ∃ name m act, called = some (name, m) ∧ action name = some act ∧
        ∃ x y : HeaderReader, (act m).effect x = (.ok (), y) ∧ x.host = h ∧ y.host = h' := by
  unfold ActsIf at ha
  split at ha
  next name m =>
    unfold Acts at ha
    split at ha
    next act hact => exact .inr ⟨name, m, act, rfl, hact, ha⟩
    next hnone =>
      refine .inl ⟨ha, fun name' m' heq => ?_⟩
      obtain ⟨rfl, -⟩ := Prod.mk.inj (Option.some.inj heq)
      exact hnone
  next => exact .inl ⟨ha, fun _ _ heq => nomatch heq⟩

/-! ### What actions do -/

section Callbacks

variable {name : String} {m : Match} {x y : HeaderReader}

lemma callback_push (n : String) (m : Match) (x : HeaderReader) :
    (callbacks.callback "PUSH_STATE" n m).effect x =
      (.ok none, { x with stack := x.stack ++ [x.state] }) := by
  have hcallback : callbacks.callback "PUSH_STATE" = fun _ _ => do pushState; return none := rfl
  have hpush : pushState.effect x = (.ok (), { x with stack := x.stack ++ [x.state] }) :=
    Act.effect_bind_of_ok (effect_noteAbove _ _ x)
  rw [hcallback]
  exact Act.effect_bind_of_ok hpush

lemma callback_pop {rest : List String} {outer : String} (h : x.stack = rest ++ [outer])
    (n : String) (m : Match) :
    (callbacks.callback "POP_STATE" n m).effect x = (.ok (some outer), { x with stack := rest }) := by
  have hcallback : callbacks.callback "POP_STATE" = fun _ _ => popState := rfl
  have hlast : x.stack.getLast? = some outer := by rw [h, List.getLast?_concat]
  have hrest : x.stack.dropLast = rest := by rw [h, List.dropLast_concat]
  rw [hcallback]
  dsimp only
  rw [popState, Act.effect_bind_of_ok (Act.effect_state x), hlast]
  dsimp only
  rw [Act.effect_bind_of_ok (Act.effect_update _ x), hrest,
    Act.effect_bind_of_ok (effect_noteAbove _ _ _)]
  rfl

/-- A plain action gives no state, and leaves the lexer around the header alone. -/
lemma callback_plain (hn : isPlain name) {given : Option String}
    (h : (callbacks.callback name name m).effect x = (.ok given, y)) :
    given = none ∧ y.shell = x.shell ∧ y.openings ∈ x.openings.after (changeOf name) ∧
      Acts name m x.host y.host := by
  rw [Acts]
  cases ha : action name with
  | some act =>
    rw [callback_of_action ha] at h
    obtain ⟨_, z, hz, hy⟩ := Act.effect_bind_eq_ok.mp h
    cases hy
    exact ⟨rfl, (opensAs_action ha m).1.of_effect hz, (opensAs_action ha m).2 x _ hz,
      x, _, hz, rfl, rfl⟩
  | none =>
    have hspace : name = "SPACE" := by
      simpa [isPlain, ha] using hn
    subst hspace
    have hcallback : callbacks.callback "SPACE" = defaultHandler := rfl
    rw [hcallback, defaultHandler, Act.effect_bind_of_ok (effect_noteAbove _ _ x)] at h
    cases h
    exact ⟨rfl, rfl, List.mem_singleton_self _, rfl⟩

lemma isMove_of_mem : ∀ s ∈ states, isMove s := by
  decide +kernel

/-- Running no action, or a plain one. -/
lemma runActions_plain {name : Option String} (hn : ∀ n ∈ name, isPlain n)
    {next next' : Option String}
    (h : (runActions callbacks m name.toList next).effect x = (.ok next', y)) :
    next' = next ∧ y.shell = x.shell ∧
      y.openings ∈ x.openings.after ((name.map changeOf).getD .nothing) ∧
      ActsIf (name.map (·, m)) x.host y.host := by
  cases name with
  | none =>
    cases h
    exact ⟨rfl, rfl, List.mem_singleton_self _, rfl⟩
  | some name =>
    obtain ⟨given, z, hz, h⟩ := runActions_cons_eq_ok h
    obtain ⟨rfl, hshell, ho, hacts⟩ := callback_plain (hn name rfl) hz
    cases h
    exact ⟨rfl, hshell, ho, hacts⟩

/-- Where a move leads. -/
def Move.Leads (x y : HeaderReader) : Move → Prop
  | .stay _ => y.stack = x.stack ∧ y.state = x.state
  | .enter entered _ => y.stack = x.stack ++ [x.state] ∧ y.state = entered
  | .leave _ | .finish _ => x.stack = y.stack ++ [y.state]

lemma stack_of_shell (h : y.shell = x.shell) : y.stack = x.stack :=
  congrArg (fun s : Lexer Unit => s.stack) h

lemma state_of_shell (h : y.shell = x.shell) : y.state = x.state :=
  congrArg (fun s : Lexer Unit => s.state) h

/-- The actions of a move make it. -/
lemma leads_of_runActions {mv : Move} (hmv : mv ∈ moves) (hfits : mv.Fits x.state)
    (hx : Agrees x.stack x.state x.openings) {next : Option String}
    (h : (runActions callbacks m mv.actions mv.next).effect x = (.ok next, y)) :
    mv.Leads x (moveTo next y) ∧ openings (moveTo next y) ∈ x.openings.after mv.change ∧
      ActsIf (mv.name?.map (·, m)) x.host (moveTo next y).host := by
  have hplain := isPlain_of_move mv hmv
  cases mv with
  | stay name =>
    obtain ⟨rfl, hshell, ho, hacts⟩ := runActions_plain hplain h
    exact ⟨⟨stack_of_shell hshell, state_of_shell hshell⟩, ho, hacts⟩
  | enter inner name =>
    obtain ⟨given, z, hz, h⟩ := runActions_cons_eq_ok h
    rw [callback_push] at hz
    cases hz
    obtain ⟨rfl, hshell, ho, hacts⟩ := runActions_plain hplain h
    have hinner := isMove_of_mem inner (hx.nested.enter hfits.1).mem_states
    rw [Option.filter_none, Option.none_or, Move.next, moveTo_of_isMove hinner]
    exact ⟨⟨stack_of_shell hshell, rfl⟩, ho, hacts⟩
  | leave name =>
    obtain ⟨outer, rest, hstack, hrest⟩ := hx.nested.outer hfits.1
    have houter := isMove_of_mem outer hrest.mem_states
    obtain ⟨given, z, hz, h⟩ := runActions_cons_eq_ok h
    rw [callback_pop hstack] at hz
    cases hz
    rw [settle_of_isMove houter, Option.filter_some, if_pos houter] at h
    obtain ⟨rfl, hshell, ho, hacts⟩ := runActions_plain hplain h
    rw [Option.some_or, moveTo_of_isMove houter]
    refine ⟨?_, ho, hacts⟩
    show x.stack = y.stack ++ [outer]
    rw [hstack, stack_of_shell hshell]
  | finish name =>
    obtain ⟨outer, rest, hstack, hrest⟩ := hx.nested.outer hfits.1
    have houter := isMove_of_mem outer hrest.mem_states
    obtain ⟨given, z, hz, h⟩ := runActions_cons_eq_ok h
    obtain ⟨rfl, hshell, ho, hacts⟩ := callback_plain (hplain name rfl) hz
    obtain ⟨given, w, hw, h⟩ := runActions_cons_eq_ok h
    have hz' : (settle none z).stack = rest ++ [outer] := (stack_of_shell hshell).trans hstack
    rw [callback_pop hz'] at hw
    cases hw
    cases h
    rw [Option.filter_some, if_pos houter, Option.some_or, settle_of_isMove houter,
      moveTo_of_isMove houter]
    exact ⟨hstack, ho, hacts⟩

end Callbacks

/-! ### Reading on without failing -/

section Reached

variable {x y z : HeaderReader}

lemma agrees_of_leads {mv : Move} (hx : Agrees x.stack x.state x.openings)
    (hfits : mv.Fits x.state) (hleads : mv.Leads x y) (ho : y.openings ∈ x.openings.after mv.change) :
    Agrees y.stack y.state y.openings := by
  -- What a move that leaves leads to is what is left of the stack.
  have hleave : x.stack = y.stack ++ [y.state] → x.state ≠ "INITIAL" →
      mv.change = leaving x.state → Agrees y.stack y.state y.openings := by
    intro hstack hi hchange
    rw [hchange] at ho
    obtain ⟨outer, rest, hrest, h⟩ := hx.leave hi ho
    rw [hstack] at hrest
    obtain ⟨h₁, h₂⟩ := List.append_inj' hrest rfl
    cases h₂
    rwa [h₁]
  cases mv with
  | stay name =>
    rw [show (Move.stay name).change = .nothing from hfits, Openings.after,
      List.mem_singleton] at ho
    rwa [hleads.1, hleads.2, ho]
  | enter inner name =>
    rw [hfits.2] at ho
    rw [hleads.1, hleads.2]
    exact hx.enter hfits.1 ho
  | leave name => exact hleave hleads hfits.1 hfits.2
  | finish name => exact hleave hleads hfits.1 hfits.2

/-- The move of the rule that is picked. -/
lemma exists_move_of_pick (hx : Nested x.stack x.state) {r : Rule} {m : Match}
    (hp : pick rules x.state x.ahead = some (r, m)) :
    ∃ mv ∈ moves, ∃ token, r.token = some token ∧ actionNames token = mv.actions ∧
      r.next = mv.next ∧ mv.Fits x.state ∧ ∀ name ∈ mv.name?, Within x.state name := by
  obtain ⟨hmem, hstate, -⟩ := pick_eq_some hp
  obtain ⟨mv, hmv, htoken, hnext, hfits, hwithin⟩ := exists_move _ hx.mem_states r hmem hstate
  rw [Option.map_eq_some_iff] at htoken
  obtain ⟨token, htoken, hnames⟩ := htoken
  exact ⟨mv, hmv, token, htoken, hnames, hnext, hfits, hwithin⟩

/-- A call for a token that does not fail keeps what is open in agreement with the states, and does to
what is being read what the action does that it calls. -/
lemma agrees_nextToken (hrows : x.rows = rules.map .rule) (hx : Agrees x.stack x.state x.openings)
    {atEnd : Bool} {token : Option String}
    (h : (nextToken callbacks atEnd).effect x = (.ok token, y)) :
    Agrees y.stack y.state y.openings ∧ ActsIf x.nextAction x.host y.host := by
  rw [nextAction]
  rcases hp : pick rules x.state x.ahead with _ | ⟨r, m⟩
  · rw [effect_nextToken_of_none hrows hp] at h
    split at h <;> cases h <;> exact ⟨hx, rfl⟩
  · obtain ⟨mv, hmv, token, htoken, hnames, hnext, hfits, -⟩ := exists_move_of_pick hx.nested hp
    rw [effect_nextToken_of_pick hrows hp htoken, hnames, hnext] at h
    rw [Option.bind_some, ruleAction, htoken, Option.bind_some, hnames, find?_actions mv hmv]
    split at h
    next next z hz =>
      cases h
      have htake : Agrees (take m.length x).stack (take m.length x).state x.openings := hx
      obtain ⟨hleads, ho, hacts⟩ := leads_of_runActions hmv
        (show mv.Fits (take m.length x).state from hfits) htake hz
      exact ⟨agrees_of_leads htake hfits hleads ho, hacts⟩
    next => cases h

/-- The readers that feeding and asking for tokens leads to when no call fails. -/
inductive Reached : HeaderReader → Prop where
  | start {x : HeaderReader} (h : Started x) : Reached x
  | feed {x y : HeaderReader} {bytes : ByteArray} (h : Reached x)
      (he : (Lexer.feed bytes).effect x = (.ok (), y)) : Reached y
  | next {x y : HeaderReader} {atEnd : Bool} {token : Option String} (h : Reached x)
      (he : (nextToken callbacks atEnd).effect x = (.ok token, y)) : Reached y

lemma Reached.visited (h : Reached x) : Visited x := by
  induction h with
  | start h => exact .start h
  | feed _ he ih => exact .feed ih he
  | next _ he ih => exact .next ih he

lemma Reached.rows (h : Reached x) : x.rows = rules.map .rule :=
  rows_of_visited h.visited

lemma Reached.agrees (h : Reached x) : Agrees x.stack x.state x.openings := by
  induction h with
  | start h =>
    obtain ⟨settings, registry, name, base, verbose, rfl⟩ := h.eq
    exact Agrees.initial
  | feed _ he ih =>
    obtain ⟨text, rfl⟩ := feed_eq_ok he
    exact ih
  | next h he ih => exact (agrees_nextToken h.rows ih he).1

/-- Reading a text without failing leads on, so a reader that has read some texts, such as the one that
every module starts with, is reached in this way. -/
lemma reached_parse (hx : Reached x) {text : String}
    (h : (parse text.toUTF8).effect x = (.ok (), y)) : Reached y := by
  have hbrings : (parse text.toUTF8).Brings Reached Reached :=
    brings_parse_of (fun _ hx => hx.rows) (fun x text hx => hx.feed (effect_feed text x))
      (fun _ _ _ hx he => hx.next he) text
  exact (hbrings x hx).ok h

/-! ### What actions find -/

/-- What an action has to find where it is called. -/
structure Finds (name : String) (z : HeaderReader) : Prop where
  entered : name = "POP_STATE" → z.stack ≠ []
  inClass : name ∈ onClass → z.host.currentClass.isSome
  inStruct : name ∈ onStruct → z.host.currentStruct.isSome
  inEnum : name ∈ onEnum → z.host.currentEnum.isSome

lemma ne_pop_of_isPlain {name : String} (h : isPlain name) : name ≠ "POP_STATE" := by
  rintro rfl
  exact absurd h (by decide +kernel)

lemma finds_push (z : HeaderReader) : Finds "PUSH_STATE" z :=
  ⟨fun h => absurd h (by decide), fun h => absurd h (by decide), fun h => absurd h (by decide),
    fun h => absurd h (by decide)⟩

lemma finds_pop (h : z.stack ≠ []) : Finds "POP_STATE" z :=
  ⟨fun _ => h, fun h => absurd h (by decide), fun h => absurd h (by decide),
    fun h => absurd h (by decide)⟩

/-- An action of a header finds what it works on while nothing was closed. -/
lemma finds_of_within {name : String} (hx : Agrees x.stack x.state x.openings)
    (hplain : isPlain name) (hwithin : Within x.state name) (ho : z.openings = x.openings) :
    Finds name z := by
  refine ⟨fun h => absurd h (ne_pop_of_isPlain hplain), fun h => ?_, fun h => ?_, fun h => ?_⟩
  · have hz : z.openings.inClass = true := by
      rw [ho, hx.inClass]
      rcases hwithin.1 h with hs | hs
      · simp [hs]
      · have hstack := hx.nested
        rw [hs] at hstack ⊢
        rw [hstack.eq_class]
        decide
    exact hz
  · have hz : z.openings.inStruct = true := by
      rw [ho, hx.inStruct, hwithin.2.1 h]
      simp
    exact hz
  · have hz : z.openings.inEnum = true := by
      rw [ho, hx.inEnum, hwithin.2.2 h]
      simp
    exact hz

/-- Of at most one action, that one is called, and first. -/
lemma eq_of_called_toList {n : Option String} {m : Match} {name : String}
    (h : Called callbacks m n.toList x name z) : n = some name ∧ z = x := by
  cases n with
  | none => cases h
  | some n =>
    cases h with
    | first => exact ⟨rfl, rfl⟩
    | later _ h => cases h

/-- Every action that a move calls finds what it needs. -/
lemma finds_of_called {mv : Move} {m : Match} {name : String} (hmv : mv ∈ moves)
    (hfits : mv.Fits x.state) (hx : Agrees x.stack x.state x.openings)
    (hwithin : ∀ name ∈ mv.name?, Within x.state name)
    (h : Called callbacks m mv.actions x name z) : Finds name z := by
  have hplain := isPlain_of_move mv hmv
  -- The action of the move is called before anything is closed, whatever was done to the stack.
  have hname : ∀ n ∈ mv.name?, ∀ w : HeaderReader, w.openings = x.openings → Finds n w :=
    fun n hn w hw => finds_of_within hx (hplain n hn) (hwithin n hn) hw
  cases mv with
  | stay n =>
    cases h with
    | first => exact hname name rfl x rfl
    | later _ h => cases h
  | enter inner n =>
    cases h with
    | first => exact finds_push x
    | later hpush h =>
      rw [callback_push] at hpush
      cases hpush
      obtain ⟨rfl, rfl⟩ := eq_of_called_toList h
      exact hname name rfl _ rfl
  | leave n =>
    obtain ⟨outer, rest, hstack, hrest⟩ := hx.nested.outer hfits.1
    cases h with
    | first => exact finds_pop (by simp [hstack])
    | later hpop h =>
      rw [callback_pop hstack] at hpop
      cases hpop
      rw [settle_of_isMove (isMove_of_mem outer hrest.mem_states)] at h
      obtain ⟨rfl, rfl⟩ := eq_of_called_toList h
      exact hname name rfl _ rfl
  | finish n =>
    obtain ⟨outer, rest, hstack, -⟩ := hx.nested.outer hfits.1
    cases h with
    | first => exact hname name rfl x rfl
    | @later _ _ _ given _ y _ hn h =>
      obtain ⟨rfl, hshell, -⟩ := callback_plain (hplain n rfl) hn
      cases h with
      | first => exact finds_pop (by
          rw [show (settle none y).stack = y.stack from rfl, stack_of_shell hshell, hstack]; simp)
      | later _ h => cases h

/-- Wherever a reader is after calls that did not fail, its states were entered one within the other,
the initial one first, and it has open exactly what they say. So a state is only left that was
entered, and the class, the struct or the enum that an action works on is open where it is called.
Reading texts without failing leads to readers of which the same holds. -/
theorem agrees_of_reached (hx : Reached x) :
    ((x.stack ++ [x.state]).head? = some "INITIAL" ∧ List.IsChain Nests (x.stack ++ [x.state])) ∧
      (x.host.currentClass.isSome ↔ "CCLASS" ∈ x.stack ++ [x.state]) ∧
      (x.host.currentStruct.isSome ↔ "STRUCT" ∈ x.stack ++ [x.state]) ∧
      (x.host.currentEnum.isSome ↔ "ENUM" ∈ x.stack ++ [x.state]) ∧
      (x.host.currentMethod.isSome → "METHOD" ∈ x.stack ++ [x.state]) ∧
      (∀ name m z, StepCalls callbacks rules x name m z → Finds name z) ∧
      ∀ (text : String) y, (parse text.toUTF8).effect x = (.ok (), y) → Reached y := by
  have h := hx.agrees
  refine ⟨h.nested.isChain, h.inClass, h.inStruct, h.inEnum, h.inMethod, fun name m z hcalls => ?_,
    fun _ _ => reached_parse hx⟩
  obtain ⟨r, token, hp, htoken, hcalled⟩ := hcalls
  obtain ⟨mv, hmv, token', htoken', hnames, -, hfits, hwithin⟩ := exists_move_of_pick h.nested hp
  cases htoken.symm.trans htoken'
  rw [hnames] at hcalled
  have htake : Agrees (take m.length x).stack (take m.length x).state x.openings := h
  exact finds_of_called hmv (show mv.Fits (take m.length x).state from hfits) htake hwithin hcalled

/-- A reader before the start of an enum. -/
def beforeEnum : HeaderReader := fed "enum E \x7b" unread

/-- The reader after the start of an enum. -/
def afterEnumStart : HeaderReader := ((nextToken callbacks true).effect beforeEnum).2

theorem reached_afterEnumStart :
    Reached afterEnumStart ∧ afterEnumStart.stack = ["INITIAL"] ∧ afterEnumStart.state = "ENUM" ∧
      afterEnumStart.host.currentEnum.isSome := by
  have hbefore : Reached beforeEnum :=
    (Reached.start started_unread).feed (effect_feed "enum E \x7b" _)
  have htoken : ((nextToken callbacks true).effect beforeEnum).1.toOption =
      some (some "PUSH_STATE,ENUM_START") := by
    decide +kernel
  have hafter : Reached afterEnumStart := by
    rcases he : (nextToken callbacks true).effect beforeEnum with ⟨f | token, y⟩
    · rw [he] at htoken
      cases htoken
    · rw [show afterEnumStart = y from congrArg Prod.snd he]
      exact hbefore.next he
  have hstate : afterEnumStart.stack = ["INITIAL"] ∧ afterEnumStart.state = "ENUM" := by
    decide +kernel
  exact ⟨hafter, hstate.1, hstate.2,
    (agrees_of_reached hafter).2.2.2.1.mpr (by rw [hstate.2]; simp)⟩

end Reached

end HeaderBind.HeaderReader
