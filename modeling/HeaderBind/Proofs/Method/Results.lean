import HeaderBind.Method.Wrapper
import HeaderBind.Proofs.Act

/-!
# The results of a call

A call gives its return value, and more values through arguments that hand them out. Their conversions
wait in a row: what is handed out comes in at the end, and a buffer that was filled takes the first one
away. So it is not always the return value that goes: `results_eq` says how many go from the front of
the row, and `results_complete_iff` when these are the ones that may go.
-/

namespace HeaderBind.Method

variable {s : Signature} {t : CType} {ts : List CType} {r : String} {codes row : List String}

/-- Whether a call hands a value out through the argument. -/
def handsOut (t : CType) : Bool :=
  t.sense == "OUT_DONE"

/-- The arguments through which a call hands values out. -/
def outArguments (ts : List CType) : List CType :=
  ts.filter handsOut

/-- The number of buffers that a call fills. -/
def filledBuffers (ts : List CType) : Nat :=
  (outArguments ts).countP (·.kind == .bufferOut)

/-- The conversions of the values that a call hands out, in the order of the arguments. -/
def conversions (ts : List CType) : Except Fault (List String) :=
  (outArguments ts).mapM fun t => t.toObject

/-- All conversions that the results have to hold: one for each value that is handed out, after the one of
the return value. A void return value does not stand beside others, and a return value that is the
number of bytes in a buffer does not stand beside the buffer. -/
def complete (s : Signature) (r : String) (codes : List String) : List String :=
  if s.returns.kind.isVoid ∧ outArguments s.args ≠ [] ∨ 0 < filledBuffers s.args then codes
  else r :: codes

/-! ### What is taken from the row -/

lemma conversions_cons (h : handsOut t) :
    conversions (t :: ts) = do return (← t.toObject) :: (← conversions ts) := by
  simp [conversions, outArguments, h]

lemma filledBuffers_cons (h : handsOut t) :
    filledBuffers (t :: ts) = (if t.kind = .bufferOut then 1 else 0) + filledBuffers ts := by
  simp [filledBuffers, outArguments, h, List.countP_cons, Nat.add_comm]

lemma outResults_cons (h : handsOut t) :
    outResults row (t :: ts) = (do
      let left ← t.joinResults row
      outResults (left ++ [← t.toObject]) ts) :=
  if_pos h

lemma outResults_cons_of_not (h : ¬ handsOut t) : outResults row (t :: ts) = outResults row ts :=
  if_neg h

lemma filledBuffers_le (ts : List CType) : filledBuffers ts ≤ (outArguments ts).length :=
  List.countP_le_length

lemma length_of_conversions (h : conversions ts = .ok codes) :
    codes.length = (outArguments ts).length :=
  (mapM_eq_ok_iff.mp h).length_eq.symm

/-- The row is never empty, so that a buffer that is filled always takes its first. -/
lemma joinResults_eq (t : CType) (h : row ≠ []) :
    t.joinResults row = .ok (row.drop (if t.kind = .bufferOut then 1 else 0)) := by
  obtain ⟨first, rest, rfl⟩ := List.exists_cons_of_ne_nil h
  by_cases hk : t.kind = .bufferOut
  · simp [CType.joinResults, hk]
  · simp [CType.joinResults, hk]

/-- The conversions come in at the end of the row, and as many go from its front as buffers are filled. -/
lemma outResults_eq (h : row ≠ []) :
    outResults row ts = do return (row ++ (← conversions ts)).drop (filledBuffers ts) := by
  induction ts generalizing row with
  | nil =>
    show Except.ok row = Except.ok ((row ++ []).drop 0)
    simp
  | cons t ts ih =>
    by_cases ht : handsOut t
    · rw [outResults_cons ht, conversions_cons ht, filledBuffers_cons ht, joinResults_eq t h]
      cases hc : t.toObject with
      | error f => rfl
      | ok code =>
        show outResults (row.drop _ ++ [code]) ts = _
        rw [ih (by simp)]
        cases conversions ts with
        | error f => rfl
        | ok codes =>
          -- What is taken away stands before the conversion that comes in.
          have hdrop : ∀ n ≤ 1, (row ++ code :: codes).drop n = row.drop n ++ code :: codes := by
            intro n hn
            have hlength : 0 < row.length := List.length_pos_iff.mpr h
            exact List.drop_append_of_le_length (by omega)
          show Except.ok _ = Except.ok _
          rw [List.append_assoc, List.singleton_append, ← List.drop_drop, hdrop _ (by split <;> omega)]
    · rw [outResults_cons_of_not ht, ih h]
      simp [conversions, filledBuffers, outArguments, ht]

/-! ### What is left -/

/-- The number of conversions that the results lack, from the return value on: as many as buffers are
filled, and one more if nothing is returned and something would be left. -/
def leftOut (s : Signature) : Nat :=
  filledBuffers s.args +
    if s.returns.kind.isVoid ∧ filledBuffers s.args < (outArguments s.args).length then 1 else 0

lemma results_eq (hr : s.returns.toObject = .ok r) (hcodes : conversions s.args = .ok codes) :
    results s = .ok ((r :: codes).drop (leftOut s)) := by
  have hall : outResults [r] s.args = .ok ((r :: codes).drop (filledBuffers s.args)) := by
    rw [outResults_eq (List.cons_ne_nil r []), hcodes]
    rfl
  have hmore : 1 < ((r :: codes).drop (filledBuffers s.args)).length ↔
      filledBuffers s.args < (outArguments s.args).length := by
    have hlength := length_of_conversions hcodes
    simp only [List.length_drop, List.length_cons]
    omega
  rw [results, hr]
  show (outResults [r] s.args >>= fun all => _) = _
  rw [hall]
  show Except.ok _ = Except.ok _
  simp only [Bool.and_eq_true, decide_eq_true_eq, gt_iff_lt, hmore, leftOut]
  split
  · rw [List.drop_drop]
  · rw [Nat.add_zero]

/-- The results of a call are complete if and only if no buffer is filled, or only one, which stands alone
where nothing is returned. -/
theorem results_complete_iff (hr : s.returns.toObject = .ok r)
    (hcodes : conversions s.args = .ok codes) :
    results s = .ok (complete s r codes) ↔
      filledBuffers s.args = 0 ∨ filledBuffers s.args = 1 ∧
        (s.returns.kind.isVoid = false ∨ (outArguments s.args).length = 1) := by
  have hlength := length_of_conversions hcodes
  have hfilled := filledBuffers_le s.args
  have hspare : complete s r codes = (r :: codes).drop (if s.returns.kind.isVoid ∧
      0 < (outArguments s.args).length ∨ 0 < filledBuffers s.args then 1 else 0) := by
    simp only [complete, List.length_pos_iff]
    split <;> rfl
  -- What is left of a row tells how many are missing.
  have hdrop : ∀ m n, m ≤ codes.length → n ≤ codes.length + 1 →
      ((r :: codes).drop m = (r :: codes).drop n ↔ m = n) := by
    intro m n hm hn
    constructor
    · intro h
      have := congrArg List.length h
      simp only [List.length_drop, List.length_cons] at this
      omega
    · intro h
      rw [h]
  rw [results_eq hr hcodes, Except.ok.injEq, hspare, hdrop]
  · unfold leftOut
    cases s.returns.kind.isVoid with
    | false =>
      simp only [Bool.false_eq_true, false_and, if_false, false_or, true_or, and_true]
      split <;> omega
    | true =>
      simp only [true_and, Bool.true_eq_false, false_or]
      split <;> split <;> omega
  · unfold leftOut
    split <;> omega
  · split <;> omega

/-- The signature of a method with the given arguments and result, of types known from the start. -/
def declaredSignature (args : List (String × String)) (returns : String) : Except Fault Signature :=
  let declare : Act Binding Signature := do
    return { args := ← addAllTo (some "A") "m" [] args, returns := ← resultType (some "A") "m" returns }
  (declare { name := "m" }).result

/-- The bytes that a call reads into a buffer are its only result. -/
theorem results_complete_read :
    ∃ s r codes, declaredSignature [("OUT char *", "buffer"), ("size_t", "size")] "ssize_t" = .ok s ∧
      s.returns.toObject = .ok r ∧ conversions s.args = .ok codes ∧
      results s = .ok (complete s r codes) := by
  refine ⟨_, _, _, rfl, rfl, rfl, ?_⟩
  exact (results_complete_iff rfl rfl).mpr (by decide +kernel)

/-- Where nothing is returned, the bytes that were read are lost beside another value. -/
theorem not_results_complete_readBeside :
    ∃ s r codes,
      declaredSignature [("OUT char *", "buffer"), ("size_t", "size"), ("OUT uint32_t *", "flags")] "void" =
        .ok s ∧
      s.returns.toObject = .ok r ∧ conversions s.args = .ok codes ∧
      codes.length = 2 ∧ complete s r codes = codes ∧ results s = .ok (codes.drop 1) ∧
      results s ≠ .ok (complete s r codes) := by
  refine ⟨_, _, _, rfl, rfl, rfl, rfl, rfl, rfl, ?_⟩
  intro h
  have hlength := congrArg List.length (Except.ok.inj h)
  cases hlength

end HeaderBind.Method
