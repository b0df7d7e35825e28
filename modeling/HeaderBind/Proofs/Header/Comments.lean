import HeaderBind.Proofs.Header.Passing

/-!
# Block comments

A block comment is opened by a rule that takes the first character of its text with it, and closed by one
that wants a character before the closing mark and a blank behind it. So not every comment ends where its
closing mark stands. It does exactly if its text has two characters or more, does not seem to open another
comment behind the first of them, and is followed by a blank (`passes_block_iff`).
-/

namespace HeaderBind

namespace Header.Table

open Lexer Pattern

variable {t rest cs g w : List Char} {c : Char} {r : Rule} {m : Match}

/-! ### Opening and closing -/

/-- A text opens a block comment. -/
def OpensComment (cs : List Char) : Prop :=
  ∃ d rest, cs = '/' :: '*' :: d :: rest

lemma finds_startComment (c : Char) (rest : List Char) :
    ∃ m, startComment.pattern.Finds ['/', '*', c] rest [(1, [c])] m :=
  exists_finds ⟨_, rfl, rfl, rfl⟩

/-- What the rule that opens a comment takes. -/
lemma exists_of_accepts_startComment (h : Accepts startComment.pattern t) : ∃ d, t = ['/', '*', d] := by
  replace h : Accepts (inOrder (spelled ['/', '*'] ++ [group 1 anyChar])) t := h
  obtain ⟨t₁, t₂, rfl, h₁, h₂⟩ := h.exists_append _
  rw [eq_of_accepts_spelled h₁]
  cases h₂ with
  | group h₂ =>
    cases h₂ with
    | set => exact ⟨_, rfl⟩

lemma match?_startComment_eq_none (h : ¬ OpensComment cs) : startComment.pattern.match? cs = none := by
  apply match?_eq_none
  rintro t rest rfl ha
  obtain ⟨d, rfl⟩ := exists_of_accepts_startComment ha
  exact h ⟨d, rest, rfl⟩

/-- What the rule that closes a comment takes. -/
lemma exists_of_accepts_endComment (h : Accepts endComment.pattern t) :
    ∃ g w, t = g ++ '*' :: '/' :: w ∧ g ≠ [] ∧ w ≠ [] ∧ ∀ c ∈ w, Text.isBlank c := by
  obtain ⟨g, t, rfl, hg, h⟩ := h.exists_cons
  obtain ⟨t₁, t, rfl, h₁, h⟩ := h.exists_cons
  obtain ⟨t₂, w, rfl, h₂, h₃⟩ := h.exists_cons
  rw [eq_of_accepts_char h₁, eq_of_accepts_char h₂]
  obtain ⟨hne, hblank⟩ := holds_of_accepts_plus h₃
  refine ⟨g, w, rfl, ?_, hne, fun c hc => ?_⟩
  · cases hg with
    | group hg =>
      have hpos := hg.minLength_le
      rintro rfl
      cases hpos
  · simpa [CharSet.holds, CharSet.Item.holds] using hblank c hc

/-- A comment is closed at the first closing mark that has something before it. -/
lemma finds_endComment (hg : g ≠ [])
    (hopen : ∀ g₁ g₂, g = g₁ ++ g₂ → g₂ ≠ [] → ¬ ['*', '/'] <+: g₂ ++ '*' :: '/' :: (w ++ rest))
    (hw : w ≠ []) (hblank : ∀ c ∈ w, Text.isBlank c) (hrest : Stops ⟨false, [.blank]⟩ rest) :
    ∃ m, endComment.pattern.Finds (g ++ '*' :: '/' :: w) rest [(1, g)] m := by
  obtain ⟨d, g, rfl⟩ := List.exists_cons_of_ne_nil hg
  apply exists_finds
  simp only [endComment, inState, run_inOrder_cons, run_inOrder_nil, run_group, run_seq, List.cons_append,
    List.append_assoc]
  refine .of (fun _ => run_set rfl rfl) ?_
  refine .of (fun _ => run_lazy (u := g) rfl (fun _ _ => rfl) ?_) ?_
  · intro g₁ g₂ hg' hne
    exact run_spelled_eq_none (t := ['*', '/']) (hopen (d :: g₁) g₂ (by rw [hg']; rfl) hne)
  refine .of (fun _ => run_char rfl) ?_
  refine .of (fun _ => run_char rfl) ?_
  refine .of (fun _ => run_plus (t := w) rfl hw (fun c hc => ?_) hrest) ?_
  · simpa [CharSet.holds, CharSet.Item.holds] using hblank c hc
  refine ⟨_, rfl, ?_, ?_⟩
  · simp [Cursor.past, Cursor.close]
    omega
  · simp [Cursor.past, Cursor.close, Span.chars, Nat.add_comm 1]

lemma finds_openComment (hne : cs ≠ []) : ∃ m, openComment.pattern.Finds cs [] [(1, cs)] m := by
  apply exists_finds
  simp only [openComment, inState, run_inOrder_cons, run_inOrder_nil, run_group]
  refine .of (fun _ => run_plus (t := cs) rfl hne (fun _ _ => rfl) (by rintro _ ⟨⟩)) ?_
  refine ⟨_, rfl, ?_, ?_⟩
  · simp [Cursor.past, Cursor.close]
  · simp [Cursor.past, Cursor.close, Span.chars]

/-! ### Picking rules for comments -/

/-- The rules for comments are tried first on a slash. -/
lemma starting_slash : ∀ s ∈ HeaderReader.states, s ≠ "COMMENT" →
    starting s '/' = [startComment, lineComment] := by
  simp only [HeaderReader.states, List.forall_mem_cons]
  refine ⟨fun _ => starting_eq ("INITIAL", initialRules) ?_ '/', fun _ => starting_eq ("DEFINE", defineRules) ?_ '/',
    fun hne => absurd rfl hne, fun _ => starting_eq ("CCLASS", classRules) ?_ '/',
    fun _ => starting_eq ("METHOD", methodRules) ?_ '/', fun _ => starting_eq ("STRUCT", structRules) ?_ '/',
    fun _ => starting_eq ("RECURSIVE_STRUCT", innerRules) ?_ '/', fun _ => starting_eq ("ENUM", enumRules) ?_ '/',
    nofun⟩
  all_goals simp [stateRules]

lemma exists_picks_startComment {state : String} (hstate : state ∈ HeaderReader.states)
    (hne : state ≠ "COMMENT") (c : Char) (rest : List Char) :
    ∃ m, Picks state startComment ['/', '*', c] rest [(1, [c])] m := by
  refine exists_picks state [] (finds_startComment c rest) rfl ?_ nofun
  rw [starting_slash state hstate hne]
  exact ⟨[lineComment], rfl⟩

/-- The rules that are tried first within a comment. -/
lemma applying_comment :
    [startComment, endComment, openComment] <+: rules.filter (·.appliesIn "COMMENT") := by
  exact prefix_applying ("COMMENT", commentRules) (by simp [stateRules]) ⟨_, rfl⟩

/-- Within a comment another one is opened, or the comment is closed, or all of the text is taken. -/
lemma pick_comment (hne : cs ≠ []) : ∃ r m, pick rules "COMMENT" cs = some (r, m) ∧
    ((r = startComment ∧ ∃ d rest, cs = ['/', '*', d] ++ rest ∧ m.length = ['/', '*', d].length) ∨
      (r = endComment ∧ ¬ OpensComment cs ∧ ∃ g w rest, cs = (g ++ '*' :: '/' :: w) ++ rest ∧
        m.length = (g ++ '*' :: '/' :: w).length ∧ g ≠ [] ∧ w ≠ [] ∧ ∀ c ∈ w, Text.isBlank c) ∨
      (r = openComment ∧ m.length = cs.length)) := by
  obtain ⟨after, hafter⟩ := applying_comment
  rw [pick, ← hafter]
  cases hstart : startComment.pattern.match? cs with
  | some m =>
    refine ⟨startComment, m, firstOf_cons_of_some hstart, .inl ⟨rfl, ?_⟩⟩
    obtain ⟨t, rest, rfl, hlength, -, ha⟩ := accepts_of_match? hstart
    obtain ⟨d, rfl⟩ := exists_of_accepts_startComment ha
    exact ⟨d, rest, rfl, hlength⟩
  | none =>
    have hopens : ¬ OpensComment cs := by
      rintro ⟨d, rest, rfl⟩
      obtain ⟨m, hm⟩ := finds_startComment d rest
      have hsome : startComment.pattern.match? ('/' :: '*' :: d :: rest) = some m := hm.match?
      rw [hstart] at hsome
      cases hsome
    rw [List.cons_append, firstOf_cons_of_none hstart]
    cases hend : endComment.pattern.match? cs with
    | some m =>
      refine ⟨endComment, m, firstOf_cons_of_some hend, .inr (.inl ⟨rfl, hopens, ?_⟩)⟩
      obtain ⟨t, rest, rfl, hlength, -, ha⟩ := accepts_of_match? hend
      obtain ⟨g, w, rfl, hg, hw, hblank⟩ := exists_of_accepts_endComment ha
      exact ⟨g, w, rest, rfl, hlength, hg, hw, hblank⟩
    | none =>
      obtain ⟨m, hm⟩ := finds_openComment hne
      have hmatch := hm.match?
      rw [List.append_nil] at hmatch
      rw [List.cons_append, firstOf_cons_of_none hend]
      exact ⟨openComment, m, firstOf_cons_of_some hmatch, .inr (.inr ⟨rfl, hm.length⟩)⟩

end Header.Table

/-! ### Reading comments -/

namespace HeaderReader

open Lexer Header.Table Pattern

variable {atEnd : Bool} {doc : String} {outer stack : List String} {state s : String} {error : Int}
  {a b r rest w ahead : List Char} {x y : HeaderReader} {token : String}

lemma performs_addComment (m : Match) (h : Header) :
    Performs m ["COMMENT"] h (Pure.pure ()) fun _ =>
      { h with comment := h.comment ++ m.group 1 ++ "\n" } :=
  performs_of_modify (f := fun _ h => { h with comment := h.comment ++ m.group 1 ++ "\n" }) (fun _ _ _ => rfl)
    rfl fun y _ => by rw [effect_addComment]; rfl

lemma performs_endComment (m : Match) (h : Header) :
    Performs m ["COMMENT_END"] h (Pure.pure ()) fun _ => { h with comment := h.comment ++ m.group 1 } :=
  performs_of_modify (f := fun _ h => { h with comment := h.comment ++ m.group 1 }) (fun _ _ _ => rfl) rfl
    fun y _ => by rw [effect_endComment]; rfl

lemma makes_startComment : Makes Header.Table.startComment (.enter "COMMENT" none) :=
  makes_of_mem (by simp [ruleMoves, rules])

lemma makes_endComment : Makes Header.Table.endComment (.finish "COMMENT_END") :=
  makes_of_mem (by simp [ruleMoves, rules])

/-- A call for a token that declares nothing leads to one reader only. -/
lemma stands_of_nextToken {t : List Char} {m : Match} {rule : Rule} {mv : Move} {after : Header}
    {stack' : List String} {state' : String} (hx : At doc stack state error (t ++ rest) x)
    (hpick : pick rules state (t ++ rest) = some (rule, m)) (hm : m.length = t.length) (hr : Makes rule mv)
    (hp : Performs m mv.name?.toList x.host (Pure.pure ()) fun _ => after)
    (hmv : mv.Turns stack state stack' state') (hmove : isMove state')
    (h : (nextToken callbacks atEnd).effect x = (.ok (some token), y)) : Stands stack' state' rest y := by
  have hends := ends_nextToken_of_performs hx hpick hm hr hp (fun _ => rfl) hmv hmove atEnd
  obtain ⟨token', y', hstep, -, hat, -⟩ := hends.ok rfl
  rw [h] at hstep
  cases hstep
  exact ⟨_, _, hat⟩

/-- A call for a token within a comment opens another one, closes the comment, or takes all of the
text. -/
lemma nextToken_comment (hx : Stands (outer ++ [s]) "COMMENT" ahead x) (hs : isMove s) (hne : ahead ≠ [])
    (h : (nextToken callbacks atEnd).effect x = (.ok (some token), y)) :
    (∃ d rest, ahead = '/' :: '*' :: d :: rest ∧ Stands (outer ++ [s] ++ ["COMMENT"]) "COMMENT" rest y) ∨
      (¬ OpensComment ahead ∧ ∃ g w rest, ahead = g ++ '*' :: '/' :: (w ++ rest) ∧ g ≠ [] ∧ w ≠ [] ∧
        (∀ c ∈ w, Text.isBlank c) ∧ Stands outer s rest y) ∨
      Stands (outer ++ [s]) "COMMENT" [] y := by
  obtain ⟨doc, error, hx⟩ := hx
  have hcomment : isMove "COMMENT" := by decide
  obtain ⟨rule, m, hp, hcases⟩ := pick_comment hne
  rcases hcases with ⟨rfl, d, rest, rfl, hlength⟩ |
    ⟨rfl, hopens, g, w, rest, rfl, hlength, hg, hw, hblank⟩ | ⟨rfl, hlength⟩
  · exact .inl ⟨d, rest, rfl, stands_of_nextToken hx hp hlength makes_startComment (performs_nil m x.host)
      ⟨rfl, rfl⟩ hcomment h⟩
  · refine .inr (.inl ⟨hopens, g, w, rest, by simp, hg, hw, hblank, ?_⟩)
    exact stands_of_nextToken hx hp hlength makes_endComment (performs_endComment m x.host) rfl hs h
  · have hmakes : Makes Header.Table.openComment (.stay "COMMENT") := makes_of_mem (by simp [ruleMoves, rules])
    rw [← List.append_nil ahead] at hx hp
    exact .inr (.inr (stands_of_nextToken hx hp hlength hmakes (performs_addComment m x.host)
      ⟨rfl, rfl⟩ hcomment h))

/-! ### Comments that are passed -/

/-- The text of a comment stands behind its first character as it has to for the comment to be closed at
its mark: there is something, and it does not open another comment. -/
def Closable (b : List Char) : Prop :=
  2 ≤ b.length ∧ ¬ ['/', '*'] <+: b.drop 1 ++ ['*']

instance (b : List Char) : Decidable (Closable b) :=
  inferInstanceAs (Decidable (_ ∧ _))

/-- A text without a closing mark does not get one from the mark behind it. -/
lemma not_prefix_of_not_infix {a b u : List Char} (hb : ¬ ['*', '/'] <:+: a ++ b) (hne : b ≠ []) :
    ¬ ['*', '/'] <+: b ++ '*' :: '/' :: u := by
  rcases b with _ | ⟨c, _ | ⟨d, b⟩⟩
  · exact absurd rfl hne
  · simp
  · intro h
    rw [List.cons_append, List.cons_append, List.cons_prefix_cons, List.cons_prefix_cons] at h
    obtain ⟨rfl, rfl, -⟩ := h
    exact hb ⟨a, b, by simp⟩

/-- The first character of a comment is taken with the mark that opens it. -/
lemma Reads.openBlock {c : Char} (hstate : state ∈ states) (hne : state ≠ "COMMENT")
    (hx : At doc stack state error ('/' :: '*' :: c :: ahead) x) :
    Reads atEnd x (Pure.pure ()) fun _ y =>
      At doc (stack ++ [state]) "COMMENT" error ahead y ∧
        y.host = { x.host with binding := y.host.binding } := by
  obtain ⟨m, hm⟩ := exists_picks_startComment hstate hne c ahead
  exact Reads.step hx hm.pick hm.length makes_startComment (performs_nil m x.host) (fun _ => rfl) ⟨rfl, rfl⟩
    (by decide)

/-- A comment with a blank behind it is passed, and its text is kept but for the first character. -/
lemma Reads.passBlock (hstate : state ∈ states) (hne : state ≠ "COMMENT") (hb : ¬ ['*', '/'] <:+: b)
    (hclosable : Closable b) (hw : w ≠ []) (hblank : ∀ c ∈ w, Text.isBlank c) (hrest : Solid rest)
    (hx : At doc stack state error ('/' :: '*' :: (b ++ '*' :: '/' :: (w ++ rest))) x) :
    Reads atEnd x (Pure.pure ()) fun _ y =>
      At (doc ++ String.ofList (b.drop 1)) stack state error rest y ∧
        y.host = { x.host with comment := doc ++ String.ofList (b.drop 1), binding := y.host.binding } := by
  obtain ⟨hlength, hopens⟩ := hclosable
  rcases b with _ | ⟨c, g⟩
  · simp at hlength
  have hg : g ≠ [] := by
    rintro rfl
    simp at hlength
  have htext : c :: g ++ '*' :: '/' :: (w ++ rest) = c :: (g ++ '*' :: '/' :: w ++ rest) := by simp
  rw [htext] at hx
  refine (Reads.openBlock hstate hne hx).skip ?_
  rintro y ⟨hy, hhost⟩
  have hend := finds_endComment hg (fun g₁ g₂ hsplit hne₂ =>
    not_prefix_of_not_infix (a := c :: g₁) (by rwa [List.cons_append, ← hsplit]) hne₂) hw hblank hrest
  have hstart : Header.Table.startComment.pattern.match? ((g ++ '*' :: '/' :: w) ++ rest) = none := by
    apply match?_startComment_eq_none
    rintro ⟨d, u, hu⟩
    apply hopens
    obtain ⟨e, g, rfl⟩ := List.exists_cons_of_ne_nil hg
    rcases g with _ | ⟨e', g⟩ <;> simp_all
  obtain ⟨m, hm⟩ : ∃ m, Picks "COMMENT" _ _ _ _ m := exists_picks_of_applying [Header.Table.startComment] hend
    (List.IsPrefix.trans (by simp) applying_comment) (by simpa using hstart)
  have hgroup : m.group 1 = String.ofList g := by
    rw [Match.group, hm.group?]
    rfl
  have hcomment : y.host.comment = doc := hy.comment
  refine (Reads.turn hy hm.pick hm.length makes_endComment (performs_endComment m y.host) (fun _ => rfl) rfl
    (isMove_of_mem state hstate)).mono ?_
  rintro _ z ⟨hz, hsame⟩
  rw [hgroup, hcomment] at hz hsame
  refine ⟨hz, ?_⟩
  rw [hsame, hhost]
  rfl

/-! ### Comments that are not -/

/-- The closing marks of a text, as seen from the first of them. -/
lemma eq_or_exists_of_marks {p u : List Char} (hb : ¬ ['*', '/'] <:+: b)
    (h : p ++ '*' :: '/' :: u = b ++ '*' :: '/' :: r) :
    (p = b ∧ u = r) ∨ ∃ v, r = v ++ '*' :: '/' :: u := by
  rcases List.append_eq_append_iff.mp h with ⟨v, rfl, hv⟩ | ⟨v, rfl, hv⟩
  · rcases v with _ | ⟨c, _ | ⟨d, v⟩⟩
    · simp_all
    · simp at hv
    · obtain ⟨rfl, rfl, -⟩ : '*' = c ∧ '/' = d ∧ _ := by simpa using hv
      exact absurd ⟨p, v, by simp⟩ hb
  · rcases v with _ | ⟨c, _ | ⟨d, v⟩⟩
    · simp_all
    · simp at hv
    · obtain ⟨rfl, rfl, rfl⟩ : '*' = c ∧ '/' = d ∧ r = v ++ '*' :: '/' :: u := by simpa using hv
      exact .inr ⟨v, rfl⟩

/-- Text of `r` is taken as the text of a comment: reading is within the comment and a part of `r` is ahead,
or it is further within, and even a part of the comment may be. -/
def Buried (outer : List String) (b r : List Char) (x : HeaderReader) : Prop :=
  ∃ k a, Stands (outer ++ List.replicate k "COMMENT") "COMMENT" a x ∧
    (a <:+ r ∨ 0 < k ∧ a <:+ b ++ '*' :: '/' :: r)

/-- Reading is further on than at the start of `r`. -/
def Beyond (r : List Char) (x : HeaderReader) : Prop :=
  x.rows = rules.map .rule ∧ x.ahead.length < (r.dropWhile Text.isBlank).length

lemma length_lt_dropWhile {v u : List Char} :
    u.length < ((v ++ '*' :: '/' :: u).dropWhile Text.isBlank).length := by
  rw [List.dropWhile_append]
  have hmark : Text.isBlank '*' = false := by decide
  split
  · rw [List.dropWhile_cons_of_neg (by simp [hmark]), List.length_cons, List.length_cons]
    omega
  · simp
    omega

lemma Beyond.nextToken (hx : Beyond r x)
    (h : (nextToken callbacks atEnd).effect x = (.ok (some token), y)) : Beyond r y := by
  obtain ⟨hrows, hlength⟩ := hx
  have hne : x.ahead ≠ [] := by
    intro hnil
    rw [nextToken_of_nil hrows consuming_rules hnil] at h
    cases h
  rcases nextToken_getsOn hrows consuming_rules keepText_callbacks hne atEnd with hon | ⟨-, -, hnone⟩
  · rw [h] at hon
    obtain ⟨t, -, hahead, -⟩ := hon.text
    have hahead : x.ahead = t ++ y.ahead := hahead
    rw [hahead, List.length_append] at hlength
    exact ⟨hon.rows.trans hrows, by omega⟩
  · rw [h] at hnone
    cases hnone

/-- Within a comment no call for a token leads to the start of `r`. -/
lemma Buried.nextToken {outer : List String} (hs : isMove s) (hb : ¬ ['*', '/'] <:+: b)
    (hx : Buried (outer ++ [s]) b r x)
    (h : (nextToken callbacks atEnd).effect x = (.ok (some token), y)) :
    Buried (outer ++ [s]) b r y ∨ Beyond r y := by
  obtain ⟨k, a, hstands, hsuffix⟩ := hx
  have hne : a ≠ [] := by
    rintro rfl
    obtain ⟨doc, error, hat⟩ := hstands
    rw [nextToken_of_nil hat.rows consuming_rules hat.ahead] at h
    cases h
  have hwhole : a <:+ b ++ '*' :: '/' :: r := by
    rcases hsuffix with hsuffix | ⟨-, hsuffix⟩
    · exact hsuffix.trans ⟨b ++ ['*', '/'], by simp⟩
    · exact hsuffix
  cases k with
  | zero =>
    rw [List.replicate_zero, List.append_nil] at hstands
    have hsuffix : a <:+ r := by simpa using hsuffix
    rcases nextToken_comment hstands hs hne h with ⟨d, rest, rfl, hy⟩ |
      ⟨-, g, w, rest, rfl, -, -, -, hy⟩ | hy
    · exact .inl ⟨1, rest, hy, .inr ⟨Nat.one_pos, .trans ⟨['/', '*', d], rfl⟩ hwhole⟩⟩
    · obtain ⟨q, rfl⟩ := hsuffix
      obtain ⟨doc, error, hat⟩ := hy
      refine .inr ⟨hat.rows, ?_⟩
      rw [hat.ahead, ← List.append_assoc]
      refine Nat.lt_of_le_of_lt ?_ length_lt_dropWhile
      rw [List.length_append]
      omega
    · exact .inl ⟨0, [], by simpa using hy, .inl (List.nil_suffix)⟩
  | succ k =>
    rw [List.replicate_succ', ← List.append_assoc] at hstands
    rcases nextToken_comment hstands (by decide) hne h with ⟨d, rest, rfl, hy⟩ |
      ⟨-, g, w, rest, rfl, -, -, -, hy⟩ | hy
    · refine .inl ⟨k + 2, rest, ?_, .inr ⟨by omega, .trans ⟨['/', '*', d], rfl⟩ hwhole⟩⟩
      rw [List.replicate_succ', List.replicate_succ', ← List.append_assoc, ← List.append_assoc]
      exact hy
    · refine .inl ⟨k, rest, hy, .inl ?_⟩
      obtain ⟨q, hq⟩ := hwhole
      rw [← List.append_assoc] at hq
      rcases eq_or_exists_of_marks hb hq with ⟨-, rfl⟩ | ⟨v, rfl⟩
      · exact List.suffix_append w rest
      · exact ⟨v ++ '*' :: '/' :: w, by simp⟩
    · refine .inl ⟨k + 1, [], ?_, .inl (List.nil_suffix)⟩
      rw [List.replicate_succ', ← List.append_assoc]
      exact hy

/-- Once text of `r` is taken as the text of a comment, reading does not come to its start any more. -/
lemma Buried.runs {outer : List String} (hs : isMove s) (hne : s ≠ "COMMENT") (hb : ¬ ['*', '/'] <:+: b)
    (hx : Buried (outer ++ [s]) b r x ∨ Beyond r x) (h : Runs callbacks atEnd x none y) (hy : y.state = s) :
    y.ahead.length < (r.dropWhile Text.isBlank).length := by
  have hinv : Buried (outer ++ [s]) b r y ∨ Beyond r y := by
    refine h.invariant (I := fun z => Buried (outer ++ [s]) b r z ∨ Beyond r z) ?_ hx
    rintro x y token (hburied | hbeyond) hstep
    · exact hburied.nextToken hs hb hstep
    · exact .inr (hbeyond.nextToken hstep)
  rcases hinv with ⟨k, a, ⟨doc, error, hat⟩, -⟩ | ⟨-, hlength⟩
  · exact absurd (hy.symm.trans hat.state) hne
  · exact hlength

/-- The second call for a token closes the comment, or text of `r` is taken as that of a comment. -/
lemma closable_or_buried {outer : List String} {c : Char} {a : List Char} (hs : isMove s)
    (hb : ¬ ['*', '/'] <:+: b) (hwhole : b ++ '*' :: '/' :: r = c :: a)
    (hx : Stands (outer ++ [s]) "COMMENT" a x)
    (h : (nextToken callbacks atEnd).effect x = (.ok (some token), y)) :
    (Closable b ∧ ∃ c ∈ r.head?, Text.isBlank c) ∨ Buried (outer ++ [s]) b r y ∨ Beyond r y := by
  have hne : a ≠ [] := by
    rintro rfl
    have hlength := congrArg List.length hwhole
    simp at hlength
    omega
  rcases nextToken_comment hx hs hne h with ⟨d, rest, rfl, hy⟩ |
    ⟨hopens, g, w, rest, rfl, hg, hw, hblank, hy⟩ | hy
  · exact .inr (.inl ⟨1, rest, hy, .inr ⟨Nat.one_pos, ⟨[c, '/', '*', d], hwhole.symm⟩⟩⟩)
  · rcases eq_or_exists_of_marks (p := c :: g) hb hwhole.symm with ⟨rfl, rfl⟩ | ⟨v, rfl⟩
    · refine .inl ⟨⟨?_, ?_⟩, ?_⟩
      · have hpos := List.length_pos_iff.mpr hg
        rw [List.length_cons]
        omega
      · intro hprefix
        apply hopens
        obtain ⟨e, g, rfl⟩ := List.exists_cons_of_ne_nil hg
        rcases g with _ | ⟨e', g⟩
        · obtain rfl : '/' = e := by simpa using hprefix
          exact ⟨'/', w ++ rest, rfl⟩
        · obtain ⟨rfl, rfl⟩ : '/' = e ∧ '*' = e' := by simpa using hprefix
          obtain ⟨f, u, hu⟩ := List.exists_cons_of_ne_nil (l := g ++ '*' :: '/' :: (w ++ rest)) (by simp)
          exact ⟨f, u, by simp [hu]⟩
      · obtain ⟨f, w, rfl⟩ := List.exists_cons_of_ne_nil hw
        exact ⟨f, rfl, hblank f List.mem_cons_self⟩
    · obtain ⟨doc, error, hat⟩ := hy
      refine .inr (.inr ⟨hat.rows, ?_⟩)
      rw [hat.ahead]
      refine Nat.lt_of_le_of_lt ?_ length_lt_dropWhile
      rw [List.length_append]
      omega
  · exact .inr (.inl ⟨0, [], by simpa using hy, .inl List.nil_suffix⟩)

/-- Reading that comes to the text behind a comment has closed it at its mark. -/
lemma closable_of_runs (hx : At doc stack state error ('/' :: '*' :: (b ++ '*' :: '/' :: r)) x)
    (hstate : state ∈ states) (hne : state ≠ "COMMENT") (hb : ¬ ['*', '/'] <:+: b)
    (hruns : Runs callbacks atEnd x none y) (hy : y.state = state)
    (hbehind : y.ahead = r ∨ y.ahead = r.dropWhile Text.isBlank) :
    Closable b ∧ ∃ c ∈ r.head?, Text.isBlank c := by
  have hle : (r.dropWhile Text.isBlank).length ≤ r.length := (List.dropWhile_suffix _).length_le
  have hlength : y.ahead.length ≤ r.length ∧ (r.dropWhile Text.isBlank).length ≤ y.ahead.length := by
    rcases hbehind with h | h <;> rw [h] <;> simp [hle]
  have hmove : isMove state := isMove_of_mem state hstate
  obtain ⟨c, a, hwhole⟩ := List.exists_cons_of_ne_nil (l := b ++ '*' :: '/' :: r) (by simp)
  have hlonger : r.length < x.ahead.length := by
    rw [hx.ahead]
    simp
    omega
  rw [hwhole] at hx
  obtain ⟨m, hm⟩ := exists_picks_startComment hstate hne c a
  -- Within the comment the state is another one, so two calls for a token come before `y` at least.
  cases hruns with
  | stay => exact absurd hlonger (Nat.not_lt.mpr hlength.1)
  | more hfirst _ hruns =>
    have hin := stands_of_nextToken hx hm.pick hm.length makes_startComment (performs_nil m x.host)
      ⟨rfl, rfl⟩ (by decide) hfirst
    cases hruns with
    | stay =>
      obtain ⟨doc, error, hat⟩ := hin
      exact absurd (hy.symm.trans hat.state) hne
    | more hsecond _ hruns =>
      rcases closable_or_buried hmove hb hwhole hin hsecond with h | h
      · exact h
      · exact absurd (Buried.runs hmove hne hb h hruns hy) (Nat.not_lt.mpr hlength.2)

/-- Reading comes to the text behind a block comment, with the blanks at its start or without them, in the
states before the comment, if and only if the text of the comment is closable and a blank stands behind
it. -/
theorem passes_block_iff (hrows : x.rows = rules.map .rule) (hstate : x.state ∈ states)
    (hne : x.state ≠ "COMMENT") (hb : ¬ ['*', '/'] <:+: b)
    (hahead : x.ahead = '/' :: '*' :: (b ++ '*' :: '/' :: r)) :
    (∃ y, Runs callbacks atEnd x none y ∧ y.state = x.state ∧ y.stack = x.stack ∧
      (y.ahead = r ∨ y.ahead = r.dropWhile Text.isBlank)) ↔
      Closable b ∧ ∃ c ∈ r.head?, Text.isBlank c := by
  have hx : At x.host.comment x.stack x.state x.error ('/' :: '*' :: (b ++ '*' :: '/' :: r)) x :=
    ⟨hrows, rfl, rfl, rfl, rfl, hahead⟩
  constructor
  · rintro ⟨y, hruns, hy, -, hbehind⟩
    exact closable_of_runs hx hstate hne hb hruns hy hbehind
  · rintro ⟨hclosable, c, hc, hblank⟩
    have hw : r.takeWhile Text.isBlank ≠ [] := by
      cases r with
      | nil => cases hc
      | cons d r =>
        cases hc
        simp [hblank]
    rw [← List.takeWhile_append_dropWhile (p := Text.isBlank) (l := r)] at hx
    have hread : Reads atEnd x _ _ := Reads.passBlock hstate hne hb hclosable hw
      (fun c hc => List.mem_takeWhile_imp hc) (solid_dropWhile r) hx
    obtain ⟨y, hruns, -, hat, -⟩ := Act.Ends.ok hread rfl
    exact ⟨y, hruns, hat.state, hat.stack, .inr hat.ahead⟩

/-- A comment that seems to open another one, but not behind its first character, is passed. -/
theorem passes_commented :
    ∃ y, Runs callbacks true (fed "/* DEFAULT(n) = 3; /* of run */\nCCLASS(A, Object)" unread) none y ∧
      y.state = "INITIAL" ∧ y.stack = [] ∧
      (y.ahead = "\nCCLASS(A, Object)".toList ∨
        y.ahead = "\nCCLASS(A, Object)".toList.dropWhile Text.isBlank) := by
  have hb : ¬ ['*', '/'] <:+: " DEFAULT(n) = 3; /* of run ".toList := by decide +kernel
  have hahead : (fed "/* DEFAULT(n) = 3; /* of run */\nCCLASS(A, Object)" unread).ahead =
      '/' :: '*' :: (" DEFAULT(n) = 3; /* of run ".toList ++ '*' :: '/' ::
        "\nCCLASS(A, Object)".toList) := by
    decide +kernel
  have hclosable : Closable " DEFAULT(n) = 3; /* of run ".toList := by decide +kernel
  exact (passes_block_iff rfl (by decide) (by decide) hb hahead).mpr
    ⟨hclosable, '\n', by decide +kernel, by decide⟩

/-- A class right behind a comment is not reached. -/
theorem not_passes_tight :
    ¬ ∃ y, Runs callbacks true (fed "/* ab */CCLASS(A, Object)\nEND_CCLASS\n" unread) none y ∧
      y.state = "INITIAL" ∧ y.stack = [] ∧
      (y.ahead = "CCLASS(A, Object)\nEND_CCLASS\n".toList ∨
        y.ahead = "CCLASS(A, Object)\nEND_CCLASS\n".toList.dropWhile Text.isBlank) := by
  rintro ⟨y, hruns, hstate, -, hbehind⟩
  have hahead : (fed "/* ab */CCLASS(A, Object)\nEND_CCLASS\n" unread).ahead =
      '/' :: '*' :: (" ab ".toList ++ '*' :: '/' :: "CCLASS(A, Object)\nEND_CCLASS\n".toList) := by
    decide +kernel
  have hb : ¬ ['*', '/'] <:+: " ab ".toList := by decide +kernel
  obtain ⟨-, c, hc, hblank⟩ := closable_of_runs ⟨rfl, rfl, rfl, rfl, rfl, hahead⟩ (by decide) (by decide) hb
    hruns hstate hbehind
  have hhead : "CCLASS(A, Object)\nEND_CCLASS\n".toList.head? = some 'C' := by decide +kernel
  obtain rfl : 'C' = c := Option.some.inj (hhead.symm.trans hc)
  exact absurd hblank (by decide)

end HeaderReader

end HeaderBind
