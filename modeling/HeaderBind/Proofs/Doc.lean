import HeaderBind.Doc
import HeaderBind.Proofs.Pattern.Matching
import HeaderBind.Proofs.Text.Escape

/-!
# Comments as literals

What the pattern of a margin takes off a comment is said without the pattern: `Unmargined` relates a
comment to its text, and determines it (`Unmargined.unique`). A comment as the inside of a string literal
is printable ASCII and is read back as that text (`unescape_toLiteral_iff`).
-/

namespace HeaderBind.Doc

open Pattern

variable {s t t' u v rest : List Char}

/-! ### Margins -/

/-- The margin of a line inside a block comment, up to its star: the spaces before the line end, the line
end, and the indentation of the star. -/
def IsMargin (t : List Char) : Prop :=
  ∃ blanks indent, t = blanks ++ '\n' :: (indent ++ ['*']) ∧ (∀ c ∈ blanks, c = ' ') ∧ indent ≠ [] ∧
    ∀ c ∈ indent, c = ' ' ∨ c = '\t'

/-- What follows the star of a margin, without one space. -/
def afterStar : List Char → List Char
  | ' ' :: rest => rest
  | rest => rest

/-- A comment and its text: from left to right each margin became a line end, and all else was kept. -/
inductive Unmargined : List Char → List Char → Prop where
  | done : Unmargined [] []
  | margin {t rest u : List Char} (ht : IsMargin t) (h : Unmargined (afterStar rest) u) :
      Unmargined (t ++ rest) ('\n' :: u)
  | keep {c : Char} {rest u : List Char} (hc : ∀ t, t <+: c :: rest → ¬ IsMargin t)
      (h : Unmargined rest u) : Unmargined (c :: rest) (c :: u)

lemma IsMargin.ne_nil (h : IsMargin t) : t ≠ [] := by
  obtain ⟨blanks, indent, rfl, -⟩ := h
  simp

/-- The star of a margin is its last character and no other. -/
lemma IsMargin.exists_concat (h : IsMargin t) : ∃ u, t = u ++ ['*'] ∧ '*' ∉ u := by
  obtain ⟨blanks, indent, rfl, hblanks, -, hindent⟩ := h
  refine ⟨blanks ++ '\n' :: indent, by simp, ?_⟩
  intro hmem
  rcases List.mem_append.mp hmem with hmem | hmem
  · exact absurd (hblanks _ hmem) (by decide)
  · rcases List.mem_cons.mp hmem with hmem | hmem
    · exact absurd hmem (by decide)
    · exact absurd (hindent _ hmem) (by decide)

/-- No margin goes on to be another one. -/
lemma IsMargin.eq_of_prefix (h : IsMargin t) (h' : IsMargin t') (hpre : t <+: t') : t = t' := by
  obtain ⟨u, rfl, -⟩ := h.exists_concat
  obtain ⟨u', rfl, hstar⟩ := h'.exists_concat
  rcases List.prefix_concat_iff.mp hpre with heq | hpre
  · exact heq
  · exact absurd (hpre.subset (by simp)) hstar

lemma IsMargin.unique (h : IsMargin t) (h' : IsMargin t') (ht : t <+: s) (ht' : t' <+: s) : t = t' := by
  rcases List.prefix_or_prefix_of_prefix ht ht' with hpre | hpre
  · exact h.eq_of_prefix h' hpre
  · exact (h'.eq_of_prefix h hpre).symm

/-- A comment has one text. -/
lemma Unmargined.unique (h : Unmargined s u) (h' : Unmargined s v) : u = v := by
  induction h generalizing v with
  | done =>
    generalize hs : [] = s at h'
    cases h' with
    | done => rfl
    | margin ht => exact absurd (List.append_eq_nil_iff.mp hs.symm).1 ht.ne_nil
    | keep => cases hs
  | @margin t rest u ht h ih =>
    generalize hs : t ++ rest = s at h'
    cases h' with
    | done => exact absurd (List.append_eq_nil_iff.mp hs).1 ht.ne_nil
    | @margin t' rest' u' ht' h' =>
      obtain rfl := ht.unique ht' ⟨rest, rfl⟩ ⟨rest', hs.symm⟩
      obtain rfl := List.append_cancel_left hs
      rw [ih h']
    | keep hc => exact absurd ht (hc t ⟨rest, hs⟩)
  | @keep c rest u hc h ih =>
    generalize hs : c :: rest = s at h'
    cases h' with
    | done => cases hs
    | margin ht' => exact absurd ht' (hc _ ⟨_, hs.symm⟩)
    | keep _ h' =>
      cases hs
      rw [ih h']

/-! ### The pattern of a margin -/

/-- Where no margin is, the pattern does not match. -/
lemma matchFrom_margin_eq_none {k : Cursor} (h : ∀ t, t <+: k.rest → ¬ IsMargin t) :
    margin.matchFrom k = none := by
  refine matchFrom_eq_none fun t rest hk ha => ?_
  obtain ⟨blanks, _, rfl, hblanks, ha⟩ := ha.exists_cons
  obtain ⟨_, _, rfl, hline, ha⟩ := ha.exists_cons
  obtain ⟨indent, _, rfl, hindent, ha⟩ := ha.exists_cons
  obtain ⟨_, space, rfl, hstar, -⟩ := ha.exists_cons
  rw [eq_of_accepts_char hline, eq_of_accepts_char hstar] at hk
  obtain ⟨hne, hindent⟩ := holds_of_accepts_plus hindent
  refine h (blanks ++ '\n' :: (indent ++ ['*'])) ⟨space ++ rest, by simp [hk]⟩
    ⟨blanks, indent, rfl, fun c hc => ?_, hne, fun c hc => ?_⟩
  · exact holds_single.mp (holds_of_accepts_many hblanks c hc)
  · have hholds := hindent c hc
    simp only [CharSet.holds, CharSet.Item.holds, List.any_cons, List.any_nil, Bool.or_false, bne_iff_ne,
      ne_eq, Bool.not_eq_false, Bool.or_eq_true, Bool.and_eq_true, decide_eq_true_eq] at hholds
    rw [← Char.toNat_inj, ← Char.toNat_inj]
    omega

/-- A margin is passed over up to its star. -/
lemma run_margin {k e : Cursor} {onward : Onward} (h : IsMargin t) (hk : k.rest = t ++ rest)
    (he : (maybe false (char ' ')).run (k.past t rest) onward = some e) : margin.run k onward = some e := by
  obtain ⟨blanks, indent, rfl, hblanks, hne, hindent⟩ := h
  have hspaces : ∀ c ∈ blanks, (CharSet.single ' ').holds c := fun c hc => holds_single.mpr (hblanks c hc)
  have hindents : ∀ c ∈ indent, CharSet.holds ⟨false, [.range ' ' ' ', .range '\t' '\t']⟩ c := by
    intro c hc
    rcases hindent c hc with rfl | rfl <;> decide
  rw [margin, run_inOrder_cons]
  have hrest : k.rest = blanks ++ '\n' :: (indent ++ '*' :: rest) := by simpa using hk
  refine run_star hrest hspaces (stops_cons (by decide)) ?_
  rw [run_inOrder_cons]
  refine run_char rfl ?_
  rw [run_inOrder_cons]
  refine run_plus rfl hne hindents (stops_cons (by decide)) ?_
  rw [run_inOrder_cons]
  refine run_char rfl ?_
  simp only [Cursor.past_past, List.append_assoc, List.cons_append, List.nil_append]
  exact he

/-- Where a margin is, the pattern matches it, and one space behind its star. -/
lemma matchFrom_margin {k : Cursor} (h : IsMargin t) (hk : k.rest = t ++ rest) :
    ∃ m u, margin.matchFrom k = some m ∧ rest = u ++ afterStar rest ∧ m.length = (t ++ u).length := by
  have hmatch : ∀ u, rest = u ++ afterStar rest →
      (maybe false (char ' ')).run ({ k with groups := [] }.past t rest) some =
        some ({ k with groups := [] }.past (t ++ u) (afterStar rest)) →
      ∃ m u, margin.matchFrom k = some m ∧ rest = u ++ afterStar rest ∧ m.length = (t ++ u).length := by
    intro u hu hrun
    refine ⟨⟨⟨k.rest, (t ++ u).length⟩, []⟩, u, ?_, hu, rfl⟩
    rw [matchFrom, matchAt, run_margin (k := { k with groups := [] }) h hk hrun]
    simp [Cursor.past]
  cases rest with
  | nil =>
    refine hmatch [] rfl (run_optional_char_of_ne (by rintro _ ⟨⟩) ?_)
    rw [List.append_nil]
    rfl
  | cons c rest =>
    by_cases hc : c = ' '
    · subst hc
      refine hmatch [' '] rfl (run_optional_char rfl ?_)
      rw [Cursor.past_past]
      rfl
    · have hafter : afterStar (c :: rest) = c :: rest := by
        unfold afterStar
        split
        next heq => exact absurd (List.cons.inj heq).1 hc
        next => rfl
      rw [hafter] at hmatch ⊢
      refine hmatch [] rfl (run_optional_char_of_ne (by rintro _ ⟨⟩; exact hc) ?_)
      rw [List.append_nil]

/-! ### Comments without margins -/

/-- Characters of a match that was replaced are skipped. -/
lemma exists_replaceFrom_append (p : Pattern) (r : Match → List Char) (k : Cursor) (t rest : List Char) :
    ∃ k', p.replaceFrom r t.length k (t ++ rest) = p.replaceFrom r 0 k' rest := by
  induction t generalizing k with
  | nil => exact ⟨k, rfl⟩
  | cons c t ih =>
    obtain ⟨k', hk'⟩ := ih (k.next c (t ++ rest))
    exact ⟨k', by rw [List.length_cons, List.cons_append, replaceFrom, hk']⟩

lemma unmargined_replaceFrom (k : Cursor) (s : List Char) :
    Unmargined s (margin.replaceFrom (fun _ => ['\n']) 0 k s) := by
  -- The induction is on the length: a margin is taken off as a whole.
  induction hlen : s.length using Nat.strong_induction_on generalizing k s with
  | h n ih =>
    subst hlen
    by_cases hs : ∃ t, t <+: s ∧ IsMargin t
    · obtain ⟨t, ⟨rest, rfl⟩, ht⟩ := hs
      obtain ⟨c, t', rfl⟩ := List.exists_cons_of_ne_nil ht.ne_nil
      obtain ⟨m, u, hm, hu, hlength⟩ := matchFrom_margin (k := { k with rest := c :: t' ++ rest }) ht rfl
      obtain ⟨k', hk'⟩ := exists_replaceFrom_append margin (fun _ => ['\n'])
        ({ k with rest := c :: (t' ++ rest) }.next c (t' ++ rest)) (t' ++ u) (afterStar rest)
      rw [List.append_assoc, ← hu] at hk'
      have hreplace : margin.replaceFrom (fun _ => ['\n']) 0 k (c :: t' ++ rest) =
          '\n' :: margin.replaceFrom (fun _ => ['\n']) 0 k' (afterStar rest) := by
        rw [List.cons_append] at hm ⊢
        rw [replaceFrom]
        simp only [hm, hlength, List.cons_append, List.length_cons, Nat.add_sub_cancel, hk']
        rfl
      rw [hreplace]
      refine .margin ht (ih _ ?_ k' _ rfl)
      have := congrArg List.length hu
      simp only [List.cons_append, List.length_cons, List.length_append] at this ⊢
      omega
    · have hnone : ∀ t, t <+: s → ¬ IsMargin t := fun t hpre ht => hs ⟨t, hpre, ht⟩
      cases s with
      | nil =>
        rw [replaceFrom, matchFrom_margin_eq_none hnone]
        exact .done
      | cons c rest =>
        rw [replaceFrom]
        simp only [matchFrom_margin_eq_none (k := { k with rest := c :: rest }) hnone]
        exact .keep hnone (ih _ (Nat.lt_succ_self _) _ rest rfl)

/-- A comment without the margins of its lines is its text. -/
lemma unmargined_withoutMargins (comment : String) :
    Unmargined comment.toList (withoutMargins comment).toList := by
  rw [withoutMargins, replaceAll, String.toList_ofList]
  exact unmargined_replaceFrom _ _

/-- A comment as the inside of a string literal is printable ASCII. Read from left to right it comes to its
end, without a double quote that would end the literal, and stands for the comment without the margins of
its lines, and for no other text. -/
theorem unescape_toLiteral_iff (comment : String) :
    (∀ c ∈ (toLiteral comment).toList, Text.isPlain c = true) ∧
      ∀ text, Text.unescape (toLiteral comment).toList = some text ↔ Unmargined comment.toList text := by
  have htext := unmargined_withoutMargins comment
  rw [toLiteral, String.toList_ofList, Text.unescape_escape]
  refine ⟨fun c hc => Text.isPlain_of_mem_escape hc, fun text => ?_⟩
  constructor
  · rintro ⟨⟩
    exact htext
  · intro h
    rw [htext.unique h]

end HeaderBind.Doc
