import HeaderBind.Proofs.Lexer.Account

/-!
# Returning to a place

A place is kept in the middle of a token: the match is consumed, but the actions that follow have not
run and the state that the rule gives has not been entered. The offset to read on from is that of the
file less the number of characters ahead, and not the number of their bytes.

So a lexer that returns stands at the end of the token that kept the place exactly where the state and
the stack were not changed in the rest of that token, and all the text ahead was of one byte each
(`standsAt_restore_iff`). Where each call to keep a place came after an error, nothing was kept and
returning does nothing.
-/

namespace HeaderBind.Lexer

variable {η : Type} {callbacks : Callbacks η} {x y z : Lexer η} {position : Nat}

/-! ### The place that is kept -/

/-- The place that is kept of a lexer whose file is at an offset. -/
def snapshot (x : Lexer η) (position : Nat) : Snapshot where
  state := x.state
  stack := x.stack
  consumed := x.consumed
  processed := x.processed
  error := x.error
  objects := x.objects
  offset := Int.ofNat position - Int.ofNat x.ahead.length

lemma effect_save (m : Match) (herror : x.error = 0) (hfile : x.file = some position) :
    (save (some m)).effect x =
      (if x.verbose > 1 then .error .badValue else .ok (),
        { x with
          saved := some (x.snapshot position)
          stackShared := false
          objectsShared := false }) := by
  have hok : ¬ (x.error != 0) = true := by simp [herror]
  cases x
  cases hfile
  rw [save, Act.effect_bind_of_ok (Act.effect_state _)]
  simp only [if_neg hok]
  refine (Act.effect_bind_of_ok (Act.effect_update _ _)).trans ?_
  split <;> rfl

lemma effect_save_of_error (m : Option Match) (herror : x.error ≠ 0) :
    (save m).effect x = (.ok (), x) := by
  have hbad : (x.error != 0) = true := by simpa using herror
  rw [save, Act.effect_bind_of_ok (Act.effect_state x)]
  simp only [if_pos hbad]
  rfl

lemma effect_seek (offset : Nat) (hfile : x.file.isSome) :
    (seek offset).effect x = (.ok (), { x with file := some offset }) := by
  have hnone : ¬ x.file.isNone = true := by simpa [Option.isSome_iff_ne_none] using hfile
  have hpos : ¬ (offset : Int) < 0 := by omega
  rw [seek, Act.effect_bind_of_ok (Act.effect_state x)]
  simp only [if_neg hnone, if_neg hpos]
  rfl

/-- A place that was kept is returned to. What is shared with it is as it is by then. -/
lemma effect_restore_of_saved {s : Snapshot} {offset : Nat} (hs : y.saved = some s)
    (hfile : y.file.isSome) (ho : s.offset = offset) :
    restore.effect y =
      (if y.verbose > 1 then .error .badValue else .ok (),
        { y with
          stack := if y.stackShared then y.stack else s.stack
          stackShared := true
          processed := s.processed
          consumed := s.consumed
          ahead := []
          file := some offset
          state := s.state
          objects := if y.objectsShared then y.objects else s.objects
          objectsShared := true
          error := s.error }) := by
  cases y
  cases hs
  rw [restore, Act.effect_bind_of_ok (Act.effect_state _)]
  simp only [ho]
  refine (Act.effect_bind_of_ok (Act.effect_update _ _)).trans ?_
  refine (Act.effect_bind_of_ok (effect_seek offset (by exact hfile))).trans ?_
  refine (Act.effect_bind_of_ok (Act.effect_update _ _)).trans ?_
  split <;> rfl

/-- A place that was kept, with a stack of its own, is returned to. -/
lemma effect_restore {s : Snapshot} {offset : Nat} (hs : y.saved = some s)
    (happart : y.stackShared = false) (hfile : y.file.isSome) (ho : s.offset = offset) :
    restore.effect y =
      (if y.verbose > 1 then .error .badValue else .ok (),
        { y with
          stack := s.stack
          stackShared := true
          processed := s.processed
          consumed := s.consumed
          ahead := []
          file := some offset
          state := s.state
          objects := if y.objectsShared then y.objects else s.objects
          objectsShared := true
          error := s.error }) := by
  rw [effect_restore_of_saved hs hfile ho, happart]
  rfl

/-! ### What keeps a place -/

/-- What becomes of the place that is kept, on the way from one lexer to another on which a place was
to be kept of some lexers. It is the place of one of those, or the one that was kept before and then
all of those had errors. -/
structure Keeping (position : Nat) (called : Lexer η → Prop) (x y : Lexer η) : Prop where
  file : y.file = x.file
  apart : x.stackShared = false → y.stackShared = false
  saved : (y.saved = x.saved ∧ ∀ z, called z → z.error ≠ 0) ∨
    ∃ z, called z ∧ z.error = 0 ∧ z.consumed = y.consumed ∧ z.ahead = y.ahead ∧
      y.saved = some (z.snapshot position)

/-- Only the action of its name keeps places, and it keeps that of the lexer that it is called on. No
action touches the text. -/
structure Callbacks.KeepPlaces (callbacks : Callbacks η) : Prop where
  account : callbacks.KeepAccount
  keeping : ∀ {position : Nat} {x : Lexer η}, x.file = some position → ∀ name m,
    Keeping position (fun z => name = "save_state" ∧ z = x) x
      ((callbacks.callback name name m).effect x).2

/-- What the actions of a token may do to the place that is kept. -/
lemma keeping_runActions (hc : callbacks.KeepPlaces) (m : Match) (names : List String)
    (next : Option String) (x : Lexer η) (hfile : x.file = some position) :
    Keeping position (Called callbacks m names x "save_state") x
      ((runActions callbacks m names next).effect x).2 := by
  induction names generalizing next x with
  | nil => exact ⟨rfl, id, .inl ⟨rfl, nofun⟩⟩
  | cons name names ih =>
    have hfirst := hc.keeping hfile name m
    have hkeep := hc.account name m x
    rw [effect_runActions_cons]
    rcases he : (callbacks.callback name name m).effect x with ⟨f | given, w⟩ <;>
      rw [he] at hfirst hkeep
    · -- The first action failed, and is the only one that was called.
      refine ⟨hfirst.file, hfirst.apart, ?_⟩
      rcases hfirst.saved with ⟨hsaved, hnone⟩ | ⟨z, ⟨rfl, rfl⟩, hz⟩
      · refine .inl ⟨hsaved, fun z hz => ?_⟩
        cases hz with
        | first => exact hnone _ ⟨rfl, rfl⟩
        | later h _ => rw [he] at h; cases h
      · exact .inr ⟨z, .first, hz⟩
    · have hrest : Keeping position _ (settle given w) _ :=
        ih ((given.filter isMove).or next) (settle given w) (by
          rw [← hfile, ← hfirst.file]; unfold settle; split <;> rfl)
      have hfinal := keeps_runActions (fun name => hc.account name m) (fun _ _ => rfl) names
        ((given.filter isMove).or next) (settle given w)
      have hsettle : (settle given w).file = w.file ∧
          (settle given w).stackShared = w.stackShared ∧ (settle given w).saved = w.saved ∧
          account (settle given w) = account w := by
        unfold settle
        split <;> exact ⟨rfl, rfl, rfl, rfl⟩
      obtain ⟨hsfile, hsapart, hssaved, hsaccount⟩ := hsettle
      refine ⟨hrest.file.trans (hsfile.trans hfirst.file),
        fun h => hrest.apart (hsapart.trans (hfirst.apart h)), ?_⟩
      rcases hrest.saved with ⟨hsaved, hnone⟩ | ⟨z, hz, hplace⟩
      · rw [hssaved] at hsaved
        rcases hfirst.saved with ⟨hsaved', hnone'⟩ | ⟨z, ⟨rfl, rfl⟩, herror, _, _, hz⟩
        · refine .inl ⟨hsaved.trans hsaved', fun z hz => ?_⟩
          cases hz with
          | first => exact hnone' _ ⟨rfl, rfl⟩
          | later h hz =>
            rw [he] at h
            cases h
            exact hnone z hz
        · have hsame := hfinal.trans (hsaccount.trans hkeep)
          simp only [Lexer.account, Prod.mk.injEq] at hsame
          exact .inr ⟨z, .first, herror, hsame.1.symm, hsame.2.1.symm, hsaved.trans hz⟩
      · exact .inr ⟨z, .later he hz, hplace⟩

/-- In a call for a token, the action that keeps a place is called on a lexer. -/
def Saves (callbacks : Callbacks η) (x z : Lexer η) : Prop :=
  ∃ r m token, (firstMatch x.state x.rows).effect x = (.ok (some (r, m)), x) ∧
    r.token = some token ∧ Called callbacks m (actionNames token) (take m.length x) "save_state" z

lemma saves_iff {r : Rule} {m : Match} (hm : (firstMatch x.state x.rows).effect x = (.ok (some (r, m)), x))
    (z : Lexer η) : Saves callbacks x z ↔ ∃ token, r.token = some token ∧
      Called callbacks m (actionNames token) (take m.length x) "save_state" z := by
  refine ⟨?_, fun ⟨token, ht, hz⟩ => ⟨r, m, token, hm, ht, hz⟩⟩
  rintro ⟨r, m, token, h, ht, hz⟩
  rw [hm] at h
  cases h
  exact ⟨token, ht, hz⟩

/-- What a call for a token may do to the place that is kept. -/
lemma keeping_nextToken (hc : callbacks.KeepPlaces) (atEnd : Bool) (hfile : x.file = some position) :
    Keeping position (Saves callbacks x) x ((nextToken callbacks atEnd).effect x).2 := by
  have hkeep : ((firstMatch x.state x.rows).effect x).2 = x := keeps_firstMatch x.state x.rows x
  rw [nextToken, Act.effect_bind_of_ok (Act.effect_state x), Act.effect_bind]
  rcases hm : (firstMatch x.state x.rows).effect x with ⟨f | _ | ⟨r, m⟩, y⟩ <;>
    rw [hm] at hkeep <;> obtain rfl : y = x := hkeep
  · refine ⟨rfl, id, .inl ⟨rfl, ?_⟩⟩
    rintro z ⟨r, m, token, h, _⟩
    rw [hm] at h
    cases h
  · have hnone : ∀ z, Saves callbacks y z → z.error ≠ 0 := by
      rintro z ⟨r, m, token, h, _⟩
      rw [hm] at h
      cases h
    show Keeping position _ y (Act.effect (Act.state >>= _) y).2
    rw [Act.effect_bind_of_ok (Act.effect_state y)]
    by_cases hs : isStuck atEnd y
    · simp only [if_pos hs]
      rw [Act.effect_bind_of_ok (effect_giveUp y)]
      exact ⟨rfl, id, .inl ⟨rfl, hnone⟩⟩
    · simp only [if_neg hs]
      exact ⟨rfl, id, .inl ⟨rfl, hnone⟩⟩
  · show Keeping position _ y (Act.effect (Act.update _ >>= _) y).2
    rw [Act.effect_bind_of_ok (Act.effect_update _ y)]
    show Keeping position _ y (Act.effect _ (take m.length y)).2
    cases ht : r.token with
    | none =>
      refine ⟨rfl, id, .inl ⟨rfl, fun z hz => ?_⟩⟩
      obtain ⟨token, ht', -⟩ := (saves_iff hm z).mp hz
      rw [ht] at ht'
      cases ht'
    | some token =>
      have hrun : Keeping position _ y _ :=
        have h := keeping_runActions hc m (actionNames token) r.next (take m.length y) hfile
        ⟨h.file, h.apart, h.saved⟩
      have hcalled : ∀ z, Saves callbacks y z ↔
          Called callbacks m (actionNames token) (take m.length y) "save_state" z := by
        intro z
        simp [saves_iff hm z, ht]
      show Keeping position _ y (Act.effect (runActions _ _ _ _ >>= _) (take m.length y)).2
      rw [Act.effect_bind, funext fun z => propext (hcalled z)]
      rcases he : (runActions callbacks m (actionNames token) r.next).effect (take m.length y) with
        ⟨f | next, w⟩ <;> rw [he] at hrun
      · exact hrun
      · cases next with
        | none => exact hrun
        | some s =>
          dsimp only
          split <;> exact ⟨hrun.file, hrun.apart, hrun.saved⟩

/-! ### The actions of a lexer that records -/

/-- The file, the place that is kept, what is shared with it, and how much is logged. -/
def placeOf (x : Lexer η) : Option Nat × Option Snapshot × Bool × Bool × Int :=
  (x.file, x.saved, x.stackShared, x.objectsShared, x.verbose)

/-- No action but the one that keeps a place touches it. -/
def Callbacks.LeavePlaces (callbacks : Callbacks η) : Prop :=
  ∀ name, name ≠ "save_state" → ∀ m, (callbacks.callback name name m).Keeps placeOf

private lemma keeping_of_keeps {α : Type} {act : Act (Lexer η) α} {name : String}
    (hname : name ≠ "save_state") (h : act.Keeps placeOf) (x : Lexer η) :
    Keeping position (fun z => name = "save_state" ∧ z = x) x (act.effect x).2 := by
  have hx := h x
  simp only [placeOf, Prod.mk.injEq] at hx
  exact ⟨hx.1, fun hx' => hx.2.2.1.trans hx', .inl ⟨hx.2.1, fun _ hz => absurd hz.1 hname⟩⟩

lemma keeping_save (hfile : x.file = some position) (m : Match) :
    Keeping position (fun z => "save_state" = "save_state" ∧ z = x) x
      ((save (some m)).effect x).2 := by
  by_cases herror : x.error = 0
  · rw [effect_save m herror hfile]
    exact ⟨rfl, fun _ => rfl, .inr ⟨x, ⟨rfl, rfl⟩, herror, rfl, rfl, rfl⟩⟩
  · rw [effect_save_of_error _ herror]
    exact ⟨rfl, id, .inl ⟨rfl, fun z hz => hz.2 ▸ herror⟩⟩

lemma keeps_placeOf_pushState : (pushState : Act (Lexer η) Unit).Keeps placeOf :=
  .bind (keeps_noteAbove _ _) fun _ => .update fun _ => rfl

lemma keeps_placeOf_popState : (popState : Act (Lexer η) (Option String)).Keeps placeOf := by
  refine .bind .state fun x => ?_
  split
  · exact .bind (.update fun _ => rfl) fun _ => .bind (keeps_noteAbove _ _) fun _ => .pure _
  · exact .bind (.note _) fun _ => .pure _

/-- The actions that every lexer has leave the place alone, but for the one that keeps it. -/
lemma keeps_placeOf_builtIn {name : String} {act : Callback η} (h : builtIn name = some act)
    (hname : name ≠ "save_state") (m : Match) : (act name m).Keeps placeOf := by
  unfold builtIn at h
  split at h
  · obtain rfl := Option.some.inj h
    exact .bind keeps_placeOf_pushState fun _ => .pure none
  · obtain rfl := Option.some.inj h
    exact keeps_placeOf_popState
  · exact absurd rfl hname
  · obtain rfl := Option.some.inj h
    exact .bind (keeps_noteAbove _ _) fun _ => .pure none
  · split at h
    · obtain rfl := Option.some.inj h
      exact .fail _
    · cases h

lemma leavePlaces_recording (outcomes : Outcomes) : (recording outcomes).LeavePlaces := by
  intro name hname m
  have hrecord : ∀ outcome, (record outcome name m).Keeps placeOf := fun _ =>
    .bind (.update fun _ => rfl) fun _ => .pure _
  unfold Callbacks.callback recording
  dsimp only
  cases outcomes.lookup name with
  | some outcome => exact hrecord outcome
  | none =>
    simp only [Option.map_none, Option.orElse_none]
    cases hb : builtIn name with
    | some act => exact keeps_placeOf_builtIn hb hname m
    | none =>
      cases outcomes.lookup "default_handler" with
      | some outcome => exact hrecord outcome
      | none => exact .bind (keeps_noteAbove _ _) fun _ => .pure _

lemma keepPlaces_recording {outcomes : Outcomes} (hsave : outcomes.lookup "save_state" = none) :
    (recording outcomes).KeepPlaces := by
  refine ⟨keepAccount_recording outcomes, fun {position x} hfile name m => ?_⟩
  by_cases hname : name = "save_state"
  · subst hname
    have hkeeping := keeping_save hfile m
    unfold Callbacks.callback recording
    dsimp only
    rw [hsave]
    show Keeping position _ x (Act.effect (save (some m) >>= _) x).2
    rw [Act.effect_bind]
    rcases he : (save (some m)).effect x with ⟨f | _, w⟩ <;> rw [he] at hkeeping <;> exact hkeeping
  · exact keeping_of_keeps hname (leavePlaces_recording outcomes name hname m) x

/-! ### A run -/

/-- The lexers between the tokens of a run, the latest first. Calls for a token may fail. -/
inductive Passed (callbacks : Callbacks η) (x : Lexer η) : List (Lexer η) → Prop where
  | start : Passed callbacks x [x]
  | next {y : Lexer η} {past : List (Lexer η)} (h : Passed callbacks x (y :: past)) (atEnd : Bool) :
      Passed callbacks x (((nextToken callbacks atEnd).effect y).2 :: y :: past)

/-- The bytes of a text. -/
def bytes (text : List Char) : List UInt8 :=
  text.flatMap String.utf8EncodeChar

/-- The lexer was given the start of a content, and its file is at the end of that. -/
structure Fed (content : List Char) (x : Lexer η) : Prop where
  text : x.consumed.reverse ++ x.ahead <+: content
  file : x.file = some (bytes (x.consumed.reverse ++ x.ahead)).length
  unsaved : x.saved = none
  apart : x.stackShared = false

/-- What is known of the place that is kept at the end of a run. -/
structure Passed.Kept (callbacks : Callbacks η) (fed : List Char) (y : Lexer η)
    (past : List (Lexer η)) : Prop where
  text : ∀ v ∈ y :: past, v.consumed.reverse ++ v.ahead = fed
  file : y.file = some (bytes fed).length
  apart : y.stackShared = false
  saved : ((∀ v u z, [v, u] <:+: y :: past → Saves callbacks u z → z.error ≠ 0) ∧
      y.saved = none) ∨
    ∃ v u z, [v, u] <:+: y :: past ∧ Saves callbacks u z ∧ z.error = 0 ∧
      z.consumed = v.consumed ∧ z.ahead = v.ahead ∧ y.saved = some (z.snapshot (bytes fed).length)

/-- A call for a token adds one more pair of neighbours to a run. -/
private lemma infix_pair_cons {v u w y : Lexer η} {past : List (Lexer η)} :
    [v, u] <:+: w :: y :: past ↔ (v = w ∧ u = y) ∨ [v, u] <:+: y :: past := by
  rw [List.infix_cons_iff, List.cons_prefix_cons, List.cons_prefix_cons]
  simp

lemma Passed.kept (hc : callbacks.KeepPlaces) {content : List Char} (hx : Fed content x)
    {bs : List (Lexer η)} (h : Passed callbacks x bs) :
    ∃ y past, bs = y :: past ∧ Kept callbacks (x.consumed.reverse ++ x.ahead) y past := by
  induction h with
  | start =>
    refine ⟨x, [], rfl, ⟨by simp, hx.file, hx.apart, .inl ⟨fun v u z h => ?_, hx.unsaved⟩⟩⟩
    have := h.length_le
    simp at this
  | @next y past h atEnd ih =>
    obtain ⟨_, _, heq, hk⟩ := ih
    cases heq
    have hstep := keeping_nextToken hc atEnd hk.file
    have htext := (accounted_nextToken hc.account atEnd y).text
    rw [List.append_nil, hk.text y List.mem_cons_self] at htext
    refine ⟨_, _, rfl, List.forall_mem_cons.mpr ⟨htext, hk.text⟩, hstep.file.trans hk.file,
      hstep.apart hk.apart, ?_⟩
    rcases hstep.saved with ⟨hsaved, hnone⟩ | ⟨z, hz, herror, hplace⟩
    · rcases hk.saved with ⟨hall, hno⟩ | ⟨v, u, z, hvu, hz⟩
      · refine .inl ⟨fun v u z hvu hz => ?_, hsaved.trans hno⟩
        rcases infix_pair_cons.mp hvu with ⟨_, rfl⟩ | hvu
        · exact hnone z hz
        · exact hall v u z hvu hz
      · exact .inr ⟨v, u, z, infix_pair_cons.mpr (.inr hvu), hsaved ▸ hz⟩
    · exact .inr ⟨_, y, z, infix_pair_cons.mpr (.inl ⟨rfl, rfl⟩), hz, herror, hplace⟩

/-! ### Bytes and characters -/

lemma bytes_append (s t : List Char) : bytes (s ++ t) = bytes s ++ bytes t :=
  List.flatMap_append

lemma length_le_length_bytes (s : List Char) : s.length ≤ (bytes s).length := by
  induction s with
  | nil => exact Nat.le_refl 0
  | cons c s ih =>
    have hc := c.utf8Size_pos
    rw [bytes, List.flatMap_cons, List.length_append, String.length_utf8EncodeChar, List.length_cons]
    change s.length ≤ (List.flatMap String.utf8EncodeChar s).length at ih
    omega

lemma length_bytes_eq_iff {s : List Char} :
    (bytes s).length = s.length ↔ ∀ c ∈ s, c.utf8Size = 1 := by
  induction s with
  | nil => simp [bytes]
  | cons c s ih =>
    have hc := c.utf8Size_pos
    have hs := length_le_length_bytes s
    rw [List.forall_mem_cons, ← ih, bytes, List.flatMap_cons, List.length_append,
      String.length_utf8EncodeChar, List.length_cons]
    change c.utf8Size + (bytes s).length = s.length + 1 ↔ _
    omega

/-- The offset that is kept is that of the border where all the text ahead is of one byte each. -/
lemma take_bytes_eq_iff {s t content : List Char} {offset : Nat} (h : s ++ t <+: content)
    (ho : offset + t.length = (bytes (s ++ t)).length) :
    (bytes content).take offset = bytes s ↔ ∀ c ∈ t, c.utf8Size = 1 := by
  obtain ⟨rest, rfl⟩ := h
  have ht := length_le_length_bytes t
  rw [bytes_append, List.length_append] at ho
  rw [← length_bytes_eq_iff, bytes_append, bytes_append, List.append_assoc]
  constructor
  · intro h
    have := congrArg List.length h
    rw [List.length_take, List.length_append, List.length_append] at this
    omega
  · intro h
    rw [show offset = (bytes s).length by omega, List.take_left']
    rfl

/-! ### Returning -/

/-- The lexer has no text ahead and its file is where another one was in a content, in the state and
with the stack of that one. -/
structure StandsAt (content : List Char) (w v : Lexer η) : Prop where
  ahead : w.ahead = []
  file : ∃ offset, w.file = some offset ∧ (bytes content).take offset = bytes v.consumed.reverse
  state : w.state = v.state
  stack : w.stack = v.stack

/-- For each run of a lexer that was given the start of a content: either each call to keep a place
came after an error, and returning does nothing, or returning leads to the place of a call to keep one
in some token. It then stands where that token ended exactly if the text ahead was of one byte each,
and the rest of the token changed neither the state nor the stack. -/
theorem standsAt_restore_iff {outcomes : Outcomes} {content : List Char} {x y : Lexer Outcomes}
    {past : List (Lexer Outcomes)} (hsave : outcomes.lookup "save_state" = none)
    (hx : Fed content x) (hrun : Passed (recording outcomes) x (y :: past)) :
    ((∀ v u z, [v, u] <:+: y :: past → Saves (recording outcomes) u z → z.error ≠ 0) ∧
        restore.effect y = (.ok (), y)) ∨
      ∃ v u z w, [v, u] <:+: y :: past ∧ Saves (recording outcomes) u z ∧ z.error = 0 ∧
        restore.effect y = (if y.verbose > 1 then .error .badValue else .ok (), w) ∧
        w.ahead = [] ∧ w.consumed = v.consumed ∧ w.state = z.state ∧ w.stack = z.stack ∧
        (∃ offset, w.file = some offset ∧
          offset + v.ahead.length = (bytes (v.consumed.reverse ++ v.ahead)).length) ∧
        (StandsAt content w v ↔
          (∀ c ∈ v.ahead, c.utf8Size = 1) ∧ z.state = v.state ∧ z.stack = v.stack) := by
  obtain ⟨_, _, heq, hk⟩ := hrun.kept (keepPlaces_recording hsave) hx
  cases heq
  rcases hk.saved with ⟨hall, hno⟩ | ⟨v, u, z, hvu, hz, herror, hconsumed, hahead, hs⟩
  · refine .inl ⟨hall, ?_⟩
    rw [restore, Act.effect_bind_of_ok (Act.effect_state y)]
    simp only [hno]
    rfl
  · have htext := hk.text v (hvu.subset List.mem_cons_self)
    have hlen : v.ahead.length ≤ (bytes (v.consumed.reverse ++ v.ahead)).length := by
      have := length_le_length_bytes v.ahead
      rw [bytes_append, List.length_append]
      omega
    rw [← htext] at hs
    obtain ⟨offset, ho⟩ := Nat.exists_eq_add_of_le' hlen
    have hoffset : (z.snapshot (bytes (v.consumed.reverse ++ v.ahead)).length).offset = offset := by
      simp only [snapshot, hahead, ho, Int.ofNat_eq_natCast]
      omega
    have htake := take_bytes_eq_iff (htext ▸ hx.text) ho.symm
    refine .inr ⟨v, u, z, _, hvu, hz, herror,
      effect_restore hs hk.apart (by rw [hk.file]; rfl) hoffset, rfl, hconsumed, rfl, rfl,
      ⟨offset, rfl, ho.symm⟩, ?_⟩
    constructor
    · rintro ⟨-, ⟨_, hf, hb⟩, hstate, hstack⟩
      cases hf
      exact ⟨htake.mp hb, hstate, hstack⟩
    · rintro ⟨hone, hstate, hstack⟩
      exact ⟨rfl, ⟨offset, rfl, htake.mpr hone⟩, hstate, hstack⟩

/-- A rule keeps a place at each `a`, and some of the text behind it has two bytes. -/
def accented : Lexer Outcomes where
  rows := [.rule ⟨.set .any, .char 'a', "a", some "save_state", none⟩]
  ahead := "aéb".toList
  file := some 4
  host := []

/-- The lexer after one more token. -/
def oneOn (x : Lexer Outcomes) : Lexer Outcomes :=
  ((nextToken (recording []) true).effect x).2

lemma Passed.oneOn {x y : Lexer Outcomes} {past : List (Lexer Outcomes)}
    (h : Passed (recording []) x (y :: past)) :
    Passed (recording []) x (y.oneOn :: y :: past) :=
  h.next true

/-- The offset that was kept is in the middle of a character. -/
theorem not_standsAt_accented :
    Fed "aéb".toList accented ∧ Passed (recording []) accented [oneOn accented, accented] ∧
      ¬ StandsAt "aéb".toList (restore.effect (oneOn accented)).2 (oneOn accented) := by
  have hfed : Fed "aéb".toList accented := ⟨by decide +kernel, by decide +kernel, rfl, rfl⟩
  have hrun : Passed (recording []) accented [oneOn accented, accented] := .oneOn .start
  have hahead : (oneOn accented).ahead = ['é', 'b'] := by decide +kernel
  refine ⟨hfed, hrun, ?_⟩
  generalize oneOn accented = y at hrun hahead ⊢
  generalize accented = x at hfed hrun
  intro hstands
  rcases standsAt_restore_iff (by rfl) hfed hrun with ⟨_, h⟩ | ⟨v, u, z, w, hvu, _, _, h, _, _, _, _, _, hiff⟩
  · have hnil := hstands.ahead
    rw [h, hahead] at hnil
    cases hnil
  · rcases infix_pair_cons.mp hvu with ⟨rfl, _⟩ | hvu
    · rw [h] at hstands
      have hone := (hiff.mp hstands).1 'é' (by rw [hahead]; decide)
      exact absurd hone (by decide)
    · have := hvu.length_le
      simp at this

/-- A rule keeps a place at each `a` and then changes the state. -/
def movesOn : Lexer Outcomes where
  rows := [.rule ⟨.set .any, .char 'a', "a", some "save_state", some "NEXT"⟩,
    .rule ⟨.set .any, .char 'b', "b", some "B", none⟩]
  ahead := "ab".toList
  file := some 2
  host := []

/-- After returning the lexer is at none of the points between two tokens of the run: where the text is
right the state is not. -/
theorem not_standsAt_movesOn :
    Fed "ab".toList movesOn ∧
      Passed (recording []) movesOn [oneOn (oneOn movesOn), oneOn movesOn, movesOn] ∧
      (oneOn movesOn).saved.isSome ∧
      ∀ v ∈ [oneOn (oneOn movesOn), oneOn movesOn, movesOn],
        ¬ StandsAt "ab".toList (restore.effect (oneOn (oneOn movesOn))).2 v := by
  refine ⟨⟨by decide +kernel, by decide +kernel, rfl, rfl⟩, .oneOn (.oneOn .start),
    by decide +kernel, ?_⟩
  have hstate : (restore.effect (oneOn (oneOn movesOn))).2.state = "INITIAL" := by decide +kernel
  have hfile : (restore.effect (oneOn (oneOn movesOn))).2.file = some 1 := by decide +kernel
  simp only [List.forall_mem_cons]
  refine ⟨fun h => ?_, fun h => ?_, fun h => ?_, nofun⟩
  · exact absurd (hstate.symm.trans h.state) (by decide +kernel)
  · exact absurd (hstate.symm.trans h.state) (by decide +kernel)
  · obtain ⟨offset, ho, hb⟩ := h.file
    cases hfile.symm.trans ho
    exact absurd hb (by decide +kernel)

end HeaderBind.Lexer
