import HeaderBind.Proofs.Lexer.Restore

/-!
# Returning more than once

From the first return on, the stack and the collected objects of a lexer are those of the place that was
kept. So a second return gives the state, the text, the counts and the offset of the first one again, but
the stack and the objects as the steps in between left them (`sameReturn_restore_iff`).
-/

namespace HeaderBind.Lexer

variable {η : Type} {callbacks : Callbacks η} {x y z : Lexer η}

/-! ### Steps that keep no place -/

/-- The lexers that steps lead to in none of which a place is kept. Steps may fail. -/
inductive WithoutSaving (callbacks : Callbacks η) (x : Lexer η) : Lexer η → Prop where
  | start : WithoutSaving callbacks x x
  | feed {y : Lexer η} (h : WithoutSaving callbacks x y) (bytes : ByteArray) :
      WithoutSaving callbacks x ((feed bytes).effect y).2
  | next {y : Lexer η} (h : WithoutSaving callbacks x y) (hsave : ∀ z, ¬ Saves callbacks y z)
      (atEnd : Bool) : WithoutSaving callbacks x ((nextToken callbacks atEnd).effect y).2
  | push {y : Lexer η} (h : WithoutSaving callbacks x y) : WithoutSaving callbacks x (pushState.effect y).2
  | pop {y : Lexer η} (h : WithoutSaving callbacks x y) : WithoutSaving callbacks x (popState.effect y).2
  | raise {y : Lexer η} (h : WithoutSaving callbacks x y) (message : Option String) (weight : Int) :
      WithoutSaving callbacks x ((raise message weight).effect y).2
  | collect {y : Lexer η} (h : WithoutSaving callbacks x y) (d : Datum) :
      WithoutSaving callbacks x { y with objects := y.objects ++ [d] }
  | seek {y : Lexer η} (h : WithoutSaving callbacks x y) (offset : Int) :
      WithoutSaving callbacks x ((seek offset).effect y).2

/-- A call for a token that keeps no place leaves the one that was kept alone. -/
lemma placeOf_nextToken (hc : callbacks.LeavePlaces) (hsave : ∀ z, ¬ Saves callbacks x z) (atEnd : Bool) :
    placeOf ((nextToken callbacks atEnd).effect x).2 = placeOf x := by
  have hkeep : ((firstMatch x.state x.rows).effect x).2 = x := keeps_firstMatch x.state x.rows x
  rw [nextToken, Act.effect_bind_of_ok (Act.effect_state x), Act.effect_bind]
  rcases hm : (firstMatch x.state x.rows).effect x with ⟨f | _ | ⟨r, m⟩, y⟩ <;>
    rw [hm] at hkeep <;> obtain rfl : y = x := hkeep
  · rfl
  · show placeOf (Act.effect (Act.state >>= _) y).2 = placeOf y
    rw [Act.effect_bind_of_ok (Act.effect_state y)]
    split
    · rw [Act.effect_bind_of_ok (effect_giveUp y)]
      rfl
    · rfl
  · show placeOf (Act.effect (Act.update _ >>= _) y).2 = placeOf y
    rw [Act.effect_bind_of_ok (Act.effect_update _ y)]
    cases ht : r.token with
    | none => rfl
    | some token =>
      have hcalled : ∀ name z, Called callbacks m (actionNames token) (take m.length y) name z →
          placeOf ((callbacks.callback name name m).effect z).2 = placeOf z := by
        intro name z hz
        refine hc name ?_ m z
        rintro rfl
        exact hsave z ⟨r, m, token, hm, ht, hz⟩
      have hrun := runActions_of_called (fun _ _ => rfl) hcalled r.next
      show placeOf (Act.effect (runActions _ _ _ _ >>= _) (take m.length y)).2 = placeOf y
      rw [Act.effect_bind]
      rcases he : (runActions callbacks m (actionNames token) r.next).effect (take m.length y) with
        ⟨f | _ | s, w⟩ <;> rw [he] at hrun
      · exact hrun
      · exact hrun
      · dsimp only
        split <;> exact hrun

/-- The place that is kept, what is shared with it, whether there is a file, and how much is logged. -/
def sharing (x : Lexer η) : Bool × Option Snapshot × Bool × Bool × Int :=
  (x.file.isSome, x.saved, x.stackShared, x.objectsShared, x.verbose)

lemma sharing_of_placeOf (h : placeOf y = placeOf x) : sharing y = sharing x := by
  simp only [placeOf, Prod.mk.injEq] at h
  simp only [sharing, h]

lemma effect_seek_of_neg {offset : Int} (hfile : x.file.isSome) (ho : offset < 0) :
    (seek offset).effect x = (.error .badValue, x) := by
  have hnone : ¬ x.file.isNone = true := by simpa [Option.isSome_iff_ne_none] using hfile
  rw [seek, Act.effect_bind_of_ok (Act.effect_state x)]
  simp only [if_neg hnone, if_pos ho]
  rfl

lemma sharing_seek (offset : Int) (x : Lexer η) : sharing ((seek offset).effect x).2 = sharing x := by
  by_cases hfile : x.file.isSome
  · by_cases hneg : offset < 0
    · rw [effect_seek_of_neg hfile hneg]
    · obtain ⟨n, rfl⟩ := Int.eq_ofNat_of_zero_le (Int.not_lt.mp hneg)
      rw [effect_seek n hfile]
      simp [sharing, hfile]
  · have hnone : x.file.isNone = true := by simpa using hfile
    rw [seek, Act.effect_bind_of_ok (Act.effect_state x)]
    simp only [if_pos hnone]
    rfl

/-- Steps that keep no place leave the one that was kept alone, and what is shared with it. -/
lemma WithoutSaving.sharing_eq (hc : callbacks.LeavePlaces) (h : WithoutSaving callbacks x z) :
    sharing z = sharing x := by
  induction h with
  | start => rfl
  | @feed y _ bytes ih =>
    rw [Lexer.feed]
    split <;> exact ih
  | next _ hsave atEnd ih => exact (sharing_of_placeOf (placeOf_nextToken hc hsave atEnd)).trans ih
  | push _ ih => exact (sharing_of_placeOf (keeps_placeOf_pushState _)).trans ih
  | pop _ ih => exact (sharing_of_placeOf (keeps_placeOf_popState _)).trans ih
  | raise _ message weight ih =>
    rw [effect_raise]
    exact ih
  | collect _ d ih => exact ih
  | seek _ offset ih => exact (sharing_seek offset _).trans ih

/-! ### The second return -/

/-- Two lexers are in the same state, at the same text, with the same counts and file offset. -/
structure SamePosition (y w : Lexer η) : Prop where
  state : w.state = y.state
  processed : w.processed = y.processed
  consumed : w.consumed = y.consumed
  error : w.error = y.error
  file : w.file = y.file

/-- Two lexers are at the same position, with the same stack and the same objects. -/
structure SameReturn (y w : Lexer η) : Prop extends SamePosition y w where
  stack : w.stack = y.stack
  objects : w.objects = y.objects

/-- An offset before the start of the file cannot be returned to. -/
lemma effect_restore_of_neg {s : Snapshot} (hs : x.saved = some s) (hfile : x.file.isSome)
    (ho : s.offset < 0) :
    restore.effect x =
      (.error .badValue,
        { x with
          stack := if x.stackShared then x.stack else s.stack
          stackShared := true
          processed := s.processed
          consumed := s.consumed
          ahead := [] }) := by
  cases x
  cases hs
  rw [restore, Act.effect_bind_of_ok (Act.effect_state _)]
  refine (Act.effect_bind_of_ok (Act.effect_update _ _)).trans ?_
  exact Act.effect_bind_of_error (effect_seek_of_neg (by exact hfile) ho)

/-- A lexer returns to the place that it kept, goes on without keeping another one, and returns again. If
the offset can be returned to, then both times it comes to the same position, but the second time with
the stack and the objects that it has by then. So it comes to the same place exactly if these are what
they were after the first return. -/
theorem sameReturn_restore_iff {s : Snapshot} (hc : callbacks.LeavePlaces) (hs : x.saved = some s)
    (hfile : x.file.isSome) (hverbose : x.verbose ≤ 1)
    (hrun : WithoutSaving callbacks (restore.effect x).2 z) :
    (s.offset < 0 ∧ (restore.effect x).1 = .error .badValue ∧ (restore.effect z).1 = .error .badValue) ∨
      ∃ y w, restore.effect x = (.ok (), y) ∧ restore.effect z = (.ok (), w) ∧ SamePosition y w ∧
        w.stack = z.stack ∧ w.objects = z.objects ∧
        (SameReturn y w ↔ z.stack = y.stack ∧ z.objects = y.objects) := by
  have hsharing := hrun.sharing_eq hc
  simp only [sharing, Prod.mk.injEq] at hsharing
  obtain ⟨hzfile, hzs, hzstack, hzobjects, hzverbose⟩ := hsharing
  by_cases hneg : s.offset < 0
  · have hx := effect_restore_of_neg hs hfile hneg
    rw [hx] at hzs hzfile ⊢
    rw [effect_restore_of_neg (hzs.trans hs) (hzfile.trans hfile) hneg]
    exact .inl ⟨hneg, rfl, rfl⟩
  · obtain ⟨offset, ho⟩ := Int.eq_ofNat_of_zero_le (Int.not_lt.mp hneg)
    have hx := effect_restore_of_saved hs hfile ho
    rw [hx] at hzfile hzs hzstack hzobjects hzverbose
    dsimp only at hzverbose
    have hz := effect_restore_of_saved (hzs.trans hs) hzfile ho
    rw [hzstack, hzobjects, hzverbose, if_neg (by omega)] at hz
    rw [if_neg (by omega)] at hx
    refine .inr ⟨_, _, hx, hz, ⟨rfl, rfl, rfl, rfl, rfl⟩, rfl, rfl, ?_⟩
    exact ⟨fun h => ⟨h.stack, h.objects⟩, fun h => ⟨⟨rfl, rfl, rfl, rfl, rfl⟩, h.1, h.2⟩⟩

/-- A rule keeps a place at each `a`. -/
def marksA : Lexer Outcomes where
  rows := [.rule ⟨.set .any, .char 'a', "a", some "save_state", none⟩]
  ahead := "ab".toList
  file := some 2
  host := []

/-- The lexer that returned for the first time, after the rule kept a place. -/
def returned : Lexer Outcomes :=
  (restore.effect (oneOn marksA)).2

/-- A state that is put on the stack and taken off again does not show. -/
theorem sameReturn_poppedAgain :
    (oneOn marksA).saved.isSome ∧ (oneOn marksA).file.isSome ∧ (oneOn marksA).verbose ≤ 1 ∧
      ∃ w, restore.effect (popState.effect (pushState.effect returned).2).2 = (.ok (), w) ∧
        SameReturn returned w := by
  have hsaved : (oneOn marksA).saved.isSome := by decide +kernel
  have hfile : (oneOn marksA).file.isSome := by decide +kernel
  have hverbose : (oneOn marksA).verbose ≤ 1 := by decide +kernel
  have hfirst : (restore.effect (oneOn marksA)).1 = .ok () := by decide +kernel
  have hstack : (popState.effect (pushState.effect returned).2).2.stack = returned.stack := by
    decide +kernel
  have hobjects : (popState.effect (pushState.effect returned).2).2.objects.isEmpty ∧
      returned.objects.isEmpty := by decide +kernel
  simp only [List.isEmpty_iff] at hobjects
  unfold returned at hstack hobjects ⊢
  generalize oneOn marksA = x at hsaved hfile hverbose hfirst hstack hobjects ⊢
  refine ⟨hsaved, hfile, hverbose, ?_⟩
  obtain ⟨s, hs⟩ := Option.isSome_iff_exists.mp hsaved
  rcases sameReturn_restore_iff (leavePlaces_recording []) hs hfile hverbose (.pop (.push .start)) with
    ⟨-, h, -⟩ | ⟨y, w, hy, hw, -, -, -, hiff⟩
  · rw [h] at hfirst
    cases hfirst
  · rw [hy] at hstack hobjects hw ⊢
    rw [hy] at hiff
    exact ⟨w, hw, hiff.mpr ⟨hstack, hobjects.1.trans hobjects.2.symm⟩⟩

/-- A state that is put on the stack after the first return is there after the second one as well. -/
theorem not_sameReturn_pushed :
    (oneOn marksA).saved.isSome ∧ (oneOn marksA).file.isSome ∧ (oneOn marksA).verbose ≤ 1 ∧
      WithoutSaving (recording []) returned (pushState.effect returned).2 ∧
      (restore.effect (oneOn marksA)).1 = .ok () ∧
      (restore.effect (pushState.effect returned).2).1 = .ok () ∧
      ¬ SameReturn returned (restore.effect (pushState.effect returned).2).2 := by
  refine ⟨by decide +kernel, by decide +kernel, by decide +kernel, .push .start, by decide +kernel,
    by decide +kernel, fun h => ?_⟩
  exact absurd h.stack (by decide +kernel)

end HeaderBind.Lexer
