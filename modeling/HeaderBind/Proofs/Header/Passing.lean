import HeaderBind.Proofs.Header.Lines

/-!
# Passing over blanks

Outside of definitions and comments blanks are passed over (`Reads.passBlanks`). Blanks that start with
an empty line clear the comment. Those that hold one further on do not, since they are taken as a whole.
-/

namespace HeaderBind

namespace Header.Table

open Lexer Pattern

variable {state : String} {r : Rule} {t rest cs w : List Char} {c : Char} {gs : List (Nat × List Char)}

/-! ### Empty lines -/

/-- The texts of an empty line with the line end before it. -/
def emptyLines : List (List Char) :=
  [['\n', '\n'], ['\n', '\r', '\n'], ['\r', '\n', '\n'], ['\r', '\n', '\r', '\n']]

/-- A text starts with an empty line. -/
def StartsEmpty (cs : List Char) : Prop :=
  ∃ t ∈ emptyLines, t <+: cs

instance : Decidable (StartsEmpty cs) :=
  List.decidableBEx _ _

lemma mem_emptyLines_of_accepts (h : Accepts emptyLine.pattern t) : t ∈ emptyLines := by
  have hoptional : ∀ {u}, Accepts (optional (char '\r')) u → u = [] ∨ u = ['\r'] := by
    intro u hu
    cases hu with
    | without => exact .inl rfl
    | once hu => exact .inr (eq_of_accepts_char hu)
  obtain ⟨t₁, t, rfl, h₁, h⟩ := h.exists_cons
  obtain ⟨t₂, t, rfl, h₂, h⟩ := h.exists_cons
  obtain ⟨t₃, t₄, rfl, h₃, h₄⟩ := h.exists_cons
  rw [eq_of_accepts_char h₂, eq_of_accepts_char h₄]
  rcases hoptional h₁ with rfl | rfl <;> rcases hoptional h₃ with rfl | rfl <;> decide

lemma match?_emptyLine_of_not (h : ¬ StartsEmpty cs) : emptyLine.pattern.match? cs = none := by
  apply match?_eq_none
  rintro t rest rfl ha
  exact h ⟨t, mem_emptyLines_of_accepts ha, List.prefix_append t rest⟩

lemma finds_emptyLine (ht : t ∈ emptyLines) (rest : List Char) :
    ∃ m, emptyLine.pattern.Finds t rest [] m := by
  simp only [emptyLines, List.mem_cons, List.not_mem_nil, or_false] at ht
  rcases ht with rfl | rfl | rfl | rfl <;> exact exists_finds ⟨_, rfl, rfl, rfl⟩

lemma finds_allBlanks (hne : w ≠ []) (hw : ∀ c ∈ w, Text.isBlank c) (hrest : Stops ⟨false, [.blank]⟩ rest) :
    ∃ m, blanks.pattern.Finds w rest [] m := by
  apply exists_finds
  refine .of (fun _ => run_plus (t := w) rfl hne (fun c hc => ?_) hrest) ?_
  · simpa [CharSet.holds, CharSet.Item.holds] using hw c hc
  · exact ⟨_, rfl, Nat.zero_add _, rfl⟩

lemma isBlank_of_mem_emptyLines : ∀ t ∈ emptyLines, t ≠ [] ∧ ∀ c ∈ t, Text.isBlank c := by
  decide

/-- An empty line does not reach beyond the blanks. -/
lemma StartsEmpty.of_append (h : StartsEmpty (w ++ rest)) (hrest : Stops ⟨false, [.blank]⟩ rest) :
    StartsEmpty w := by
  obtain ⟨t, ht, hprefix⟩ := h
  refine ⟨t, ht, ?_⟩
  rcases List.prefix_or_prefix_of_prefix hprefix (List.prefix_append w rest) with h | ⟨u, rfl⟩
  · exact h
  · rw [List.prefix_append_right_inj] at hprefix
    rcases u with _ | ⟨c, u⟩
    · simp
    · obtain ⟨v, rfl⟩ := hprefix
      have hc := (isBlank_of_mem_emptyLines _ ht).2 c (by simp)
      have hfalse := hrest c rfl
      simp [CharSet.holds, CharSet.Item.holds, hc] at hfalse

/-! ### Picking among the rules for a state -/

/-- A rule that finds something is picked where those that apply in the state before it find nothing. -/
lemma exists_picks_of_applying (before : List Rule) (h : ∃ m, r.pattern.Finds t rest gs m)
    (happlying : before ++ [r] <+: rules.filter (·.appliesIn state))
    (hbefore : ∀ r' ∈ before, r'.pattern.match? (t ++ rest) = none) :
    ∃ m, Picks state r t rest gs m := by
  obtain ⟨m, hm⟩ := h
  obtain ⟨after, hafter⟩ := happlying
  refine ⟨m, hm, ?_⟩
  rw [pick, ← hafter, List.append_assoc]
  clear hafter
  induction before with
  | nil => exact firstOf_cons_of_some hm.match?
  | cons r' before ih =>
    rw [List.cons_append, firstOf_cons_of_none (hbefore r' List.mem_cons_self)]
    exact ih fun r'' hr'' => hbefore r'' (List.mem_cons_of_mem r' hr'')

/-- The states in which blanks are passed over. -/
def openStates : List String := ["INITIAL", "CCLASS", "METHOD", "STRUCT", "RECURSIVE_STRUCT", "ENUM"]

/-- In these states little is tried before the rules for blanks. -/
lemma applying_openStates : ∀ s ∈ openStates, ∃ before ∈ [[startDefine, startComment, lineComment],
    [startComment, lineComment]], before ++ [emptyLine, blanks] <+: rules.filter (·.appliesIn s) := by
  have hlater : ∀ s rs, (s, rs) ∈ stateRules → [startComment, lineComment, emptyLine, blanks] <+: rs →
      ∃ before ∈ [[startDefine, startComment, lineComment], [startComment, lineComment]],
        before ++ [emptyLine, blanks] <+: rules.filter (·.appliesIn s) :=
    fun s rs hs h => ⟨_, List.mem_cons_of_mem _ List.mem_cons_self, prefix_applying (s, rs) hs h⟩
  simp only [openStates, List.forall_mem_cons]
  refine ⟨⟨_, List.mem_cons_self, prefix_applying ("INITIAL", initialRules) ?_ ⟨_, rfl⟩⟩,
    hlater "CCLASS" classRules ?_ ⟨_, rfl⟩, hlater "METHOD" methodRules ?_ ⟨_, rfl⟩,
    hlater "STRUCT" structRules ?_ ⟨_, rfl⟩, hlater "RECURSIVE_STRUCT" innerRules ?_ ⟨_, rfl⟩,
    hlater "ENUM" enumRules ?_ ⟨_, rfl⟩, nofun⟩
  all_goals simp [stateRules]

lemma match?_of_isBlank (hc : Text.isBlank c) (cs : List Char) :
    ∀ r ∈ [startDefine, startComment, lineComment], r.pattern.match? (c :: cs) = none := by
  have hne : ∀ d, Text.isBlank d = false → (CharSet.single d).holds c = false := by
    intro d hd
    rw [← Bool.not_eq_true, holds_single]
    rintro rfl
    rw [hc] at hd
    cases hd
  have hpos : ∀ r ∈ [startDefine, startComment, lineComment], 0 < r.pattern.minLength := by
    decide
  have hstart : ∀ r ∈ [startDefine, startComment, lineComment], r.pattern.mayStart c = false := by
    simp [startDefine, startComment, lineComment, inState, everywhere, spelled, inOrder, char, mayStart,
      minLength, hne '#' (by decide), hne '/' (by decide)]
  exact fun r hr => match?_eq_none_of_start (hpos r hr) (hstart r hr)

lemma exists_picks_blank (hstate : state ∈ openStates) (hw : ∀ c ∈ t, Text.isBlank c)
    (hne : t ≠ []) (hr : (∃ m, r.pattern.Finds t rest gs m))
    (h : r = emptyLine ∨ r = blanks ∧ ¬ StartsEmpty (t ++ rest)) : ∃ m, Picks state r t rest gs m := by
  obtain ⟨c, cs, rfl⟩ := List.exists_cons_of_ne_nil hne
  obtain ⟨before, hbefore, happlying⟩ := applying_openStates state hstate
  have hnone : ∀ r' ∈ before, r'.pattern.match? (c :: cs ++ rest) = none := by
    intro r' hr'
    refine match?_of_isBlank (hw c List.mem_cons_self) (cs ++ rest) r' ?_
    have hsub : ∀ rs ∈ [[startDefine, startComment, lineComment], [startComment, lineComment]],
        rs ⊆ [startDefine, startComment, lineComment] := by
      simp
    exact hsub before hbefore hr'
  rcases h with rfl | ⟨rfl, hempty⟩
  · exact exists_picks_of_applying before hr
      (List.IsPrefix.trans (by simp) happlying) hnone
  · refine exists_picks_of_applying (before ++ [emptyLine]) hr (by simpa using happlying) ?_
    intro r' hr'
    rcases List.mem_append.mp hr' with hr' | hr'
    · exact hnone r' hr'
    · rw [List.mem_singleton.mp hr']
      exact match?_emptyLine_of_not hempty

end Header.Table

namespace HeaderReader

open Lexer Header.Table Pattern

variable {atEnd : Bool} {doc : String} {stack : List String} {state : String} {error : Int}
  {w rest : List Char} {x : HeaderReader}

lemma solid_dropWhile (cs : List Char) : Solid (cs.dropWhile Text.isBlank) := by
  intro c hc
  have hnot := List.head?_dropWhile_not Text.isBlank cs
  rw [Option.mem_def.mp hc] at hnot
  simpa [CharSet.holds, CharSet.Item.holds] using hnot

/-- The comment behind blanks. -/
def commentAfter (w : List Char) (doc : String) : String :=
  if StartsEmpty w then "" else doc

lemma performs_clearComment (m : Match) (h : Header) :
    Performs m ["CLEAR_COMMENT"] h (Pure.pure ()) fun _ => { h with comment := "" } :=
  performs_of_modify (f := fun _ h => { h with comment := "" }) (fun _ _ _ => rfl) rfl
    fun y hy => by rw [effect_clearComment]; rfl

lemma isMove_of_openState : ∀ s ∈ openStates, isMove s := by
  decide

/-- Blanks in front of something else are passed over. -/
lemma Reads.passBlanks (hstate : state ∈ openStates) (hw : ∀ c ∈ w, Text.isBlank c)
    (hrest : Solid rest) (hx : At doc stack state error (w ++ rest) x) :
    Reads atEnd x (Pure.pure ()) fun _ y =>
      At (commentAfter w doc) stack state error rest y ∧
        y.host = { x.host with comment := commentAfter w doc, binding := y.host.binding } := by
  have hmove := isMove_of_openState state hstate
  -- By induction on the number of blanks: an empty line at their start leaves fewer of them.
  induction hn : w.length using Nat.strongRecOn generalizing w doc x with
  | ind n ih =>
    subst hn
    by_cases hnil : w = []
    · subst hnil
      have hcomment : commentAfter [] doc = doc := if_neg (by decide)
      rw [hcomment]
      refine .pure ⟨hx, ?_⟩
      rw [← hx.comment]
    by_cases hempty : StartsEmpty w
    · have hcomment : ∀ w' doc, commentAfter w' "" = "" ∧ commentAfter w doc = "" := by
        intro w' doc
        exact ⟨ite_self _, if_pos hempty⟩
      obtain ⟨t, ht, w', rfl⟩ := hempty
      obtain ⟨hne, hblank⟩ := isBlank_of_mem_emptyLines t ht
      rw [List.append_assoc] at hx
      obtain ⟨m, hm⟩ := exists_picks_blank hstate hblank hne (finds_emptyLine ht (w' ++ rest)) (.inl rfl)
      have hmakes : Makes emptyLine (.stay "CLEAR_COMMENT") := makes_of_mem (by simp [ruleMoves, rules])
      refine (Reads.turn hx hm.pick hm.length hmakes (performs_clearComment m x.host) (fun _ => rfl)
        ⟨rfl, rfl⟩ hmove).skip ?_
      rintro y ⟨hy, hhost⟩
      have hlt : w'.length < (t ++ w').length := by
        rw [List.length_append]
        have := List.length_pos_iff.mpr hne
        omega
      refine (ih _ hlt (fun c hc => hw c (List.mem_append_right t hc)) hy rfl).mono ?_
      rintro _ z ⟨hz, hsame⟩
      rw [(hcomment w' doc).1] at hz hsame
      rw [(hcomment w' doc).2, hsame, hhost]
      exact ⟨hz, rfl⟩
    · have hcomment : commentAfter w doc = doc := if_neg hempty
      have hwhole : ¬ StartsEmpty (w ++ rest) := fun h => hempty (h.of_append hrest)
      obtain ⟨m, hm⟩ := exists_picks_blank hstate hw hnil (finds_allBlanks hnil hw hrest) (.inr ⟨rfl, hwhole⟩)
      have hmakes : Makes blanks (.stay "SPACE") := makes_of_mem (by simp [ruleMoves, rules])
      refine (Reads.step hx hm.pick hm.length hmakes (performs_space m x.host) (fun _ => rfl) ⟨rfl, rfl⟩
        hmove).mono ?_
      rintro _ y ⟨hy, hhost⟩
      rw [hcomment]
      refine ⟨hy, ?_⟩
      rw [hhost, ← hx.comment]

end HeaderReader

end HeaderBind
