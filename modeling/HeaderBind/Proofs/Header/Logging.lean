import HeaderBind.Proofs.Class.Composed
import HeaderBind.Proofs.Header.Nesting

/-!
# Logging changes nothing

How much a reader of headers logs, and whether reports are wanted, shows in the log only. A reader that logs
more answers every request the same way, with the same tokens, faults and code, and stays the same reader but
for how much it logs (`answers_withLogging`).
-/

namespace HeaderBind

open Lexer Binding

/-- The header when reports are wanted, or are not. -/
def Header.withDebug (debug : Bool) (h : Header) : Header :=
  { h with binding := h.binding.withDebug debug }

namespace HeaderReader

variable {α β : Type} {verbose : Int} {debug : Bool}

/-- The reader when this much is logged. -/
def withLogging (verbose : Int) (debug : Bool) (x : HeaderReader) : HeaderReader :=
  { x with verbose, host := x.host.withDebug debug }

/-! ### Actions of a header -/

lemma blind_onBinding_of_steady {act : Act Binding α} (h : Composed Steady act) :
    (onBinding act).Blind (withLogging verbose debug) :=
  .focus (h.blind fun _ hg => hg debug) (fun _ => rfl) fun _ _ => rfl

lemma blind_onBinding {act : Act Binding α} (h : Composed Declares act) :
    (onBinding act).Blind (withLogging verbose debug) :=
  blind_onBinding_of_steady h.apart.steady

lemma blind_modifyHeader {g : Header → Header} (h : ∀ x, g (x.withDebug debug) = (g x).withDebug debug) :
    (modifyHeader g).Blind (withLogging verbose debug) :=
  .update fun x => congrArg (fun h => { x with verbose, host := h }) (h x.host)

lemma blind_bind_header {next : Header → Act HeaderReader α}
    (h : ∀ x, (next x).Blind (withLogging verbose debug)) (hn : ∀ x, next (x.withDebug debug) = next x) :
    (header >>= next).Blind (withLogging verbose debug) := by
  intro x
  rw [Act.effect_bind_of_ok (effect_header _), Act.effect_bind_of_ok (effect_header _)]
  show (next (x.host.withDebug debug)).effect _ = _
  rw [hn]
  exact h x.host x

lemma blind_opened (id : Option ClassId) : (opened id).Blind (withLogging verbose debug) := by
  cases id with
  | none => exact .fail _
  | some id => exact .pure _

/-- An action on what is open, which is looked up first. -/
lemma blind_opened_bind {which : Header → Option ClassId} {next : ClassId → Act HeaderReader α}
    (hw : ∀ x, which (x.withDebug debug) = which x) (h : ∀ id, (next id).Blind (withLogging verbose debug)) :
    (do next (← opened (which (← header)))).Blind (withLogging verbose debug) :=
  blind_bind_header (fun x => .bind (blind_opened _) h) fun x => by rw [hw]

lemma blind_defineConstant (m : Match) : (defineConstant m).Blind (withLogging verbose debug) := by
  refine blind_bind_header (fun x => .ite (fun _ => ?_) fun _ => .pure _) fun _ => rfl
  exact blind_onBinding_of_steady (.update fun _ _ => rfl)

lemma blind_startClass (m : Match) : (startClass m).Blind (withLogging verbose debug) := by
  have hfind : Composed Declares (do
      let id ← findClass (some (trimmed m 3))
      Class.inherit id (trimmed m 2)) :=
    .bind (composed_findClass _) fun id => Class.composed_inherit id _
  have hbase : (baseOrNew (trimmed m 2) (trimmed m 3)).Blind (withLogging verbose debug) := by
    intro x
    rw [effect_baseOrNew, effect_baseOrNew]
    refine blind_onBinding (.bind (.attempt hfind) fun inherited => ?_) x
    split
    · exact .pure _
    · exact .ite (fun _ => Class.composed_make _ _) fun _ => .fail _
  refine .bind hbase fun id => .bind (blind_modifyHeader fun _ => rfl) fun _ => ?_
  refine blind_bind_header (fun h => blind_onBinding ?_) fun _ => rfl
  refine .bind (composed_modifyClass _ _) fun _ => .bind (Class.composed_declare _ _) fun _ => ?_
  exact .update ⟨fun _ _ => rfl, fun _ => rfl⟩

lemma blind_startMethod (m : Match) : (startMethod m).Blind (withLogging verbose debug) := by
  have hopen (method : Method) : (modifyHeader fun h =>
      { h with currentMethod := some { method with doc := h.comment } }).Blind (withLogging verbose debug) :=
    blind_modifyHeader fun _ => rfl
  refine .ite (fun _ => .pure _) fun _ => .bind (blind_modifyHeader fun _ => rfl) fun _ => ?_
  refine blind_bind_header (fun h => .bind (blind_opened _) fun id => ?_) fun _ => rfl
  dsimp only
  generalize methodKind (h.binding.classAt id).name (trimmed m 2) (trimmed m 5) = kind
  refine .bind (blind_modifyHeader fun _ => rfl) fun _ => ?_
  split
  · refine .bind (blind_onBinding (composed_modifyClass _ _)) fun _ => ?_
    exact .bind (blind_onBinding (Method.composed_make _ _ _ _ _ _ _)) fun method => hopen method
  · exact .bind (blind_onBinding (Method.composed_make _ _ _ _ _ _ _)) fun method => hopen method

lemma blind_addMethodArgument (m : Match) : (addMethodArgument m).Blind (withLogging verbose debug) := by
  refine blind_bind_header (fun h => ?_) fun _ => rfl
  split
  · exact .pure _
  · refine .ite (fun _ => .bind (.fail _) fun _ => ?_) fun _ => ?_
    · exact blind_onBinding (Method.composed_addArgument _ _ _).declares
    · exact blind_onBinding (Method.composed_addArgument _ _ _).declares

lemma blind_endMethod : endMethod.Blind (withLogging verbose debug) := by
  have hput (id : ClassId) (f : ClassDef → ClassDef) : (do
      onBinding (Binding.modifyClass id f)
      modifyHeader fun h => { h with currentMethod := none }).Blind (withLogging verbose debug) :=
    .bind (blind_onBinding (composed_modifyClass _ _)) fun _ => blind_modifyHeader fun _ => rfl
  refine blind_bind_header (fun h => ?_) fun _ => rfl
  split
  · exact .pure _
  · refine .bind (blind_opened _) fun id => .ite (fun _ => hput _ _) fun _ => .ite (fun _ => ?_) fun _ => ?_
    · exact .bind (.fail _) fun _ => blind_modifyHeader fun _ => rfl
    · exact .ite (fun _ => hput _ _) fun _ => hput _ _

lemma blind_startStruct (m : Match) : (startStruct m).Blind (withLogging verbose debug) := by
  refine blind_bind_header (fun h => .bind (blind_onBinding (Class.composed_makeStruct _)) fun id => ?_) fun _ => rfl
  exact .bind (blind_modifyHeader fun _ => rfl) fun _ => blind_onBinding (composed_modifyClass _ _)

lemma blind_startNamelessStruct : startNamelessStruct.Blind (withLogging verbose debug) := by
  refine blind_bind_header (fun h => .bind (blind_onBinding (Class.composed_makeStruct _)) fun id => ?_) fun _ => rfl
  exact .bind (blind_modifyHeader fun _ => rfl) fun _ => blind_onBinding (composed_modifyClass _ _)

lemma blind_endStruct : endStruct.Blind (withLogging verbose debug) := by
  refine blind_opened_bind (fun _ => rfl) fun id => .bind (blind_onBinding ?_) fun _ =>
    blind_modifyHeader fun _ => rfl
  refine .bind (Class.composed_declare _ _) fun _ => .look (fun b => ?_) fun _ _ _ _ => rfl
  exact .bind (.lift _) fun _ => .update ⟨fun _ _ => rfl, fun _ => rfl⟩

lemma steady_addConstants (values : List String) :
    Steady fun b => values.foldl (fun b v => b.addConstant v "integer") b := by
  intro debug b
  induction values generalizing b with
  | nil => rfl
  | cons v values ih => exact ih (b.addConstant v "integer")

lemma blind_endEnum : endEnum.Blind (withLogging verbose debug) := by
  refine blind_opened_bind (fun _ => rfl) fun id => .bind (blind_onBinding_of_steady ?_) fun _ =>
    blind_modifyHeader fun _ => rfl
  refine .bind (Class.composed_declare _ _).apart.steady fun _ => .look (fun b => ?_) fun _ _ _ _ => rfl
  exact .update (steady_addConstants _)

lemma blind_action {name : String} {act : Match → Act HeaderReader Unit} (h : action name = some act) (m : Match) :
    (act m).Blind (withLogging verbose debug) := by
  cases h using action_cases with
  | bindStruct => exact blind_onBinding (.update ⟨fun _ _ => rfl, fun _ => rfl⟩)
  | addClassAttribute =>
    exact blind_opened_bind (fun _ => rfl) fun id => blind_onBinding (Class.composed_addAttribute _ _ _ _ _)
  | startClass => exact blind_startClass m
  | clearComment => exact blind_modifyHeader fun _ => rfl
  | addComment => exact blind_modifyHeader fun _ => rfl
  | endComment => exact blind_modifyHeader fun _ => rfl
  | defineConstant => exact blind_defineConstant m
  | endClass => exact blind_modifyHeader fun _ => rfl
  | endEnum => exact blind_endEnum
  | startEnum =>
    exact .bind (blind_onBinding (Class.composed_makeEnum _)) fun _ => blind_modifyHeader fun _ => rfl
  | addEnumValue => exact blind_opened_bind (fun _ => rfl) fun id => blind_onBinding (composed_modifyClass _ _)
  | addMethodArgument => exact blind_addMethodArgument m
  | endMethod => exact blind_endMethod
  | startMethod => exact blind_startMethod m
  | aliasType => exact blind_onBinding (.update ⟨fun _ _ => rfl, fun _ => rfl⟩)
  | addStructAttribute =>
    exact blind_opened_bind (fun _ => rfl) fun id => blind_onBinding (Class.composed_addAttribute _ _ _ _ _)
  | addStructPointer =>
    exact blind_opened_bind (fun _ => rfl) fun id => blind_onBinding (Class.composed_addAttribute _ _ _ _ _)
  | endStruct => exact blind_endStruct
  | startStruct => exact blind_startStruct m
  | endNamedEnum =>
    exact blind_opened_bind (fun _ => rfl) fun id => .bind (blind_onBinding (composed_modifyClass _ _)) fun _ =>
      blind_endEnum
  | startNamelessEnum =>
    exact .bind (blind_onBinding (Class.composed_makeEnum _)) fun _ => blind_modifyHeader fun _ => rfl
  | endNamedStruct =>
    exact blind_opened_bind (fun _ => rfl) fun id => .bind (blind_onBinding (composed_modifyClass _ _)) fun _ =>
      blind_endStruct
  | startNamelessStruct => exact blind_startNamelessStruct

/-! ### Tokens -/

lemma blind_noteAbove (level : Int) (message : HeaderReader → String) :
    (noteAbove level message).Blind (withLogging verbose debug) := by
  intro x
  rw [effect_noteAbove, effect_noteAbove]

/-- Only keeping the place to return to depends on how much is logged. -/
lemma blind_callback {name : String} (hname : name ≠ "save_state") (n : String) (m : Match) :
    (callbacks.callback name n m).Blind (withLogging verbose debug) := by
  cases ha : action name with
  | some act =>
    rw [callback_of_action ha]
    exact .bind (blind_action ha m) fun _ => .pure _
  | none =>
    have hdefault : (defaultHandler n m : Act HeaderReader _).Blind (withLogging verbose debug) :=
      .bind (blind_noteAbove _ _) fun _ => .pure _
    rw [callback_of_action_none ha]
    unfold builtIn
    split
    · refine .bind (.bind (blind_noteAbove _ _) fun _ => .update fun _ => rfl) fun _ => .pure _
    · refine .bind_state (fun x => ?_) fun _ => rfl
      split
      · exact .bind (.update fun _ => rfl) fun _ => .bind (blind_noteAbove _ _) fun _ => .pure _
      · exact .bind (.note _) fun _ => .pure _
    · exact absurd rfl hname
    · exact hdefault
    · split
      · exact .fail _
      · exact hdefault

lemma blind_runActions (m : Match) {names : List String} (hnames : "save_state" ∉ names) (next : Option String) :
    (runActions callbacks m names next).Blind (withLogging verbose debug) := by
  induction names generalizing next with
  | nil => exact .pure _
  | cons name rest ih =>
    rw [List.mem_cons, not_or] at hnames
    refine .bind (blind_noteAbove _ _) fun _ => .bind (blind_callback (Ne.symm hnames.1) _ _) fun given => ?_
    split
    · exact ih hnames.2 _
    · refine .ite (fun _ => ih hnames.2 _) fun _ => ?_
      exact .bind (.update fun _ => rfl) fun _ => ih hnames.2 _

lemma save_not_mem : ∀ r ∈ Header.Table.rules, ∀ token ∈ r.token, "save_state" ∉ actionNames token := by
  decide +kernel

/-! ### Requests -/

/-- With the rules for headers, the action does the same however much is logged, and keeps the rules. -/
def Alike (verbose : Int) (debug : Bool) (act : Act HeaderReader α) : Prop :=
  ∀ x : HeaderReader, x.rows = Header.Table.rules.map .rule →
    act.effect (x.withLogging verbose debug) = ((act.effect x).1, (act.effect x).2.withLogging verbose debug) ∧
      (act.effect x).2.rows = Header.Table.rules.map .rule

namespace Alike

variable {act : Act HeaderReader α}

lemma of_blind (h : act.Blind (withLogging verbose debug)) (hk : act.Keeps Lexer.rows) :
    Alike verbose debug act :=
  fun x hx => ⟨h x, (hk x).trans hx⟩

lemma pure (a : α) : Alike verbose debug (Pure.pure a) :=
  .of_blind (.pure a) (.pure a)

lemma attempt (h : Alike verbose debug act) : Alike verbose debug act.attempt := by
  intro x hx
  obtain ⟨he, hrows⟩ := h x hx
  rw [Act.effect_attempt, Act.effect_attempt, he]
  exact ⟨rfl, hrows⟩

lemma bind {next : α → Act HeaderReader β} (h : Alike verbose debug act)
    (hn : ∀ a, Alike verbose debug (next a)) : Alike verbose debug (act >>= next) := by
  intro x hx
  obtain ⟨he, hrows⟩ := h x hx
  rw [Act.effect_bind, Act.effect_bind, he]
  generalize act.effect x = outcome at hrows
  obtain ⟨fault | a, y⟩ := outcome
  · exact ⟨rfl, hrows⟩
  · exact hn a y hrows

lemma bind_state {next : HeaderReader → Act HeaderReader α} (h : ∀ x, Alike verbose debug (next x))
    (hn : ∀ x, next (x.withLogging verbose debug) = next x) : Alike verbose debug (Act.state >>= next) := by
  intro x hx
  rw [Act.effect_bind_of_ok (Act.effect_state _), Act.effect_bind_of_ok (Act.effect_state _), hn]
  exact h x x hx

end Alike

lemma alike_nextToken (atEnd : Bool) : Alike verbose debug (nextToken callbacks atEnd) := by
  intro x hx
  refine ⟨?_, (rows_nextToken hx atEnd).trans hx⟩
  have hx' : (x.withLogging verbose debug).rows = Header.Table.rules.map .rule := hx
  cases hp : pick Header.Table.rules x.state x.ahead with
  | none =>
    rw [effect_nextToken_of_none hx' hp, effect_nextToken_of_none hx hp]
    show (if isStuck atEnd x then _ else _) = _
    split <;> rfl
  | some found =>
    obtain ⟨r, m⟩ := found
    obtain ⟨hr, -, -⟩ := pick_eq_some hp
    obtain ⟨-, token, htoken, -⟩ := consuming_rules r hr
    have hrun : (runActions callbacks m (actionNames token) r.next).Blind (withLogging verbose debug) :=
      blind_runActions m (save_not_mem r hr token htoken) r.next
    have htake : take m.length (x.withLogging verbose debug) = withLogging verbose debug (take m.length x) := rfl
    rw [effect_nextToken_of_pick hx' hp htoken, effect_nextToken_of_pick hx hp htoken, htake, hrun]
    rcases (runActions callbacks m (actionNames token) r.next).effect (take m.length x) with ⟨f | _ | s, y⟩
    · rfl
    · rfl
    · by_cases hs : s.isEmpty
      · simp only [moveTo, hs, if_true]
      · simp only [moveTo, hs, if_false, Bool.false_eq_true]
        rfl

lemma alike_close : Alike verbose debug (close callbacks) := by
  have htokens (fuel : Nat) : Alike verbose debug (tokensFrom callbacks true fuel) := by
    induction fuel with
    | zero => exact .pure _
    | succ fuel ih =>
      refine .bind (alike_nextToken true).attempt fun result => ?_
      split
      · exact .pure _
      · exact .pure _
      · split
        · exact .pure _
        · exact .bind ih fun _ => .pure _
  refine .bind (.bind_state (fun x => htokens _) fun _ => rfl) fun tokens => ?_
  split
  · exact .of_blind (.fail _) (.fail _)
  · exact .pure _

/-- What can be asked of a reader. -/
inductive Request where
  /-- Take over more text. -/
  | feed (bytes : ByteArray)
  /-- Give the next token. -/
  | nextToken (atEnd : Bool)
  /-- Consume the text ahead. -/
  | close
  /-- Give the code for what was read. -/
  | code

/-- What a reader answers, unless it fails. -/
inductive Answer where
  | done
  | token (token : Option String)
  | code (text : String)

/-- Answer a request. -/
def Request.answer : Request → Act HeaderReader Answer
  | feed bytes => do Lexer.feed bytes; return .done
  | nextToken atEnd => do return .token (← Lexer.nextToken callbacks atEnd)
  | close => do Lexer.close callbacks; return .done
  | code => do return .code (← onBinding (written write))

/-- Answer requests one after another. A reader that failed goes on to answer. -/
def answers : List Request → Act HeaderReader (List (Except Fault Answer))
  | [] => return []
  | request :: rest => do
    let answer ← Act.attempt request.answer
    return answer :: (← answers rest)

lemma alike_answer (request : Request) : Alike verbose debug request.answer := by
  cases request with
  | feed bytes =>
    refine .bind (.of_blind ?_ (rows_feed bytes)) fun _ => .pure _
    unfold Lexer.feed
    split
    · exact .update fun _ => rfl
    · exact .fail _
  | nextToken atEnd => exact .bind (alike_nextToken atEnd) fun _ => .pure _
  | close => exact .bind alike_close fun _ => .pure _
  | code =>
    refine .bind (.of_blind ?_ fun _ => rfl) fun _ => .pure _
    exact .focus (blind_written_write debug) (fun _ => rfl) fun _ _ => rfl

lemma alike_answers (requests : List Request) : Alike verbose debug (answers requests) := by
  induction requests with
  | nil => exact .pure _
  | cons request rest ih => exact .bind (alike_answer request).attempt fun _ => .bind ih fun _ => .pure _

/-- Two readers that start out alike but for how much they log, and for whether they report, answer the same
requests with the same tokens, the same code and the same faults, and stay alike. -/
theorem answers_withLogging (settings : Settings) (registry : Registry) (name base : String)
    (verbose verbose' : Int) (debug : Bool) (requests : List Request) :
    ∃ x y, fresh settings registry name base verbose = .ok x ∧
      fresh { settings with debug } registry name base verbose' = .ok y ∧
      ((answers requests).effect y).1 = ((answers requests).effect x).1 ∧
      ((answers requests).effect y).2 = ((answers requests).effect x).2.withLogging verbose' debug := by
  obtain ⟨x, hx⟩ : ∃ x, fresh settings registry name base verbose = .ok x := by
    rw [fresh, Header.Table.readTable_table]
    exact ⟨_, rfl⟩
  have hy : fresh { settings with debug } registry name base verbose' = .ok (x.withLogging verbose' debug) := by
    rw [fresh, Header.Table.readTable_table] at hx ⊢
    cases hx
    rfl
  have hrows := rows_of_started ⟨settings, registry, name, base, verbose, hx⟩
  have halike : Alike verbose' debug (answers requests) := alike_answers requests
  obtain ⟨heffect, -⟩ := halike x hrows
  refine ⟨x, _, hx, hy, ?_, ?_⟩
  · rw [heffect]
  · rw [heffect]

end HeaderReader

end HeaderBind
