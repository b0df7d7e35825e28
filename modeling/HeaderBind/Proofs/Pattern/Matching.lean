import HeaderBind.Proofs.Pattern.Language

/-!
# Finding a match

A run takes what comes first. For each form of pattern a lemma says from which position the run goes on,
so that the match of a text is found by following the pattern. Where a repetition took too much, it gives
back what keeps the rest from going on (`run_plus_back`).
-/

namespace HeaderBind

namespace Cursor

/-- The position behind a text. -/
def past (k : Cursor) (t rest : List Char) : Cursor :=
  { k with
    pos := k.pos + t.length
    atLineStart := (t.getLast?.map (· == '\n')).getD k.atLineStart
    rest }

lemma past_nil (k : Cursor) : k.past [] k.rest = k := by
  simp [past]

lemma past_past (k : Cursor) (t u rest rest' : List Char) :
    (k.past t rest).past u rest' = k.past (t ++ u) rest' := by
  rcases u.eq_nil_or_concat with rfl | ⟨u, c, rfl⟩
  · simp [past]
  · simp [past, List.getLast?_append, Nat.add_assoc]

lemma next_eq_past (k : Cursor) (c : Char) (rest : List Char) : k.next c rest = k.past [c] rest := by
  simp [past, next]

end Cursor

namespace Pattern

variable {p q : Pattern} {s : CharSet} {k e : Cursor} {onward : Onward} {c : Char}
  {cs t u v rest : List Char}

/-- The match of a run. -/
lemma match?_of_run (h : p.run { rest := cs } some = some e) :
    p.match? cs = some ⟨⟨cs, e.pos⟩, e.groups⟩ := by
  simp only [match?, matchFrom, matchAt, h]
  rfl

/-! ### Patterns in order -/

lemma run_inOrder_cons (p : Pattern) (ps : List Pattern) (k : Cursor) (onward : Onward) :
    (inOrder (p :: ps)).run k onward = p.run k fun k' => (inOrder ps).run k' onward := by
  cases ps <;> rfl

lemma run_inOrder_nil (k : Cursor) (onward : Onward) : (inOrder []).run k onward = onward k := rfl

lemma run_inOrder_append (ps qs : List Pattern) (k : Cursor) (onward : Onward) :
    (inOrder (ps ++ qs)).run k onward = (inOrder ps).run k fun k' => (inOrder qs).run k' onward := by
  induction ps generalizing k with
  | nil => rfl
  | cons p ps ih =>
    rw [List.cons_append, run_inOrder_cons, run_inOrder_cons]
    congr 1
    funext k'
    exact ih k'

/-! ### Single characters -/

@[simp] lemma holds_single {c d : Char} : (CharSet.single c).holds d ↔ d = c := by
  simp only [CharSet.single, CharSet.holds, CharSet.Item.holds, List.any_cons, List.any_nil,
    Bool.or_false, bne_iff_ne, ne_eq, Bool.not_eq_false, Bool.and_eq_true, decide_eq_true_eq]
  rw [← Char.toNat_inj]
  omega

lemma run_set (hk : k.rest = c :: rest) (hc : s.holds c) (h : onward (k.past [c] rest) = some e) :
    (set s).run k onward = some e := by
  rw [← Cursor.next_eq_past] at h
  simp only [run, hk, hc, if_true]
  exact h

lemma run_char (hk : k.rest = c :: rest) (h : onward (k.past [c] rest) = some e) :
    (char c).run k onward = some e :=
  run_set hk (holds_single.mpr rfl) h

/-- The characters of a text, one after the other. -/
lemma run_spelled (hk : k.rest = t ++ rest) (h : onward (k.past t rest) = some e) :
    (inOrder (t.map char)).run k onward = some e := by
  induction t generalizing k with
  | nil =>
    rw [List.nil_append] at hk
    rw [← hk, Cursor.past_nil] at h
    exact h
  | cons c t ih =>
    rw [List.map_cons, run_inOrder_cons]
    refine run_char hk (ih rfl ?_)
    rw [Cursor.past_past]
    exact h

/-- A pattern that takes something does not get on where the text cannot start it. -/
lemma run_eq_none (hp : 0 < p.minLength) (hc : ∀ c ∈ k.rest.head?, p.mayStart c = false) :
    p.run k onward = none := by
  have hends : p.ends k = [] := by
    rw [List.eq_nil_iff_forall_not_mem]
    intro e he
    obtain ⟨t, ⟨hrest, -⟩, ha⟩ := accepts_of_mem_ends he
    rcases t with _ | ⟨c, t⟩
    · exact absurd ha.minLength_le (by simp only [List.length_nil]; omega)
    · have hfalse := hc c (by rw [hrest]; rfl)
      rw [ha.mayStart rfl] at hfalse
      cases hfalse
  rw [run_eq_findSome?, hends]
  rfl

/-! ### Repetitions -/

/-- A text goes on with no character of a set. -/
def Stops (s : CharSet) (cs : List Char) : Prop :=
  ∀ c ∈ cs.head?, s.holds c = false

lemma runsFrom_of_stops (h : Stops s cs) (k : Cursor) : runsFrom s cs k [] = [k] := by
  cases cs with
  | nil => rfl
  | cons c cs =>
    have hc : s.holds c = false := h c rfl
    simp [runsFrom, hc]

lemma findSome?_runsFrom_cons (hc : s.holds c) (k : Cursor) :
    (runsFrom s (c :: cs) k []).findSome? onward =
      ((runsFrom s cs (k.past [c] cs) []).findSome? onward).or (onward k) := by
  rw [runsFrom, if_pos hc, runsFrom_append, List.findSome?_append, Cursor.next_eq_past]
  simp

/-- Nothing is found in a run of characters from where nothing is. -/
lemma findSome?_runsFrom_eq_none (hv : ∀ c ∈ v, s.holds c) (hrest : Stops s rest) {k : Cursor}
    (hk : k.rest = v ++ rest)
    (h : ∀ v₁ v₂, v = v₁ ++ v₂ → onward (k.past v₁ (v₂ ++ rest)) = none) :
    (runsFrom s (v ++ rest) k []).findSome? onward = none := by
  induction v generalizing k with
  | nil =>
    rw [List.nil_append, runsFrom_of_stops hrest, List.findSome?_singleton]
    have hnil := h [] [] rfl
    rwa [List.nil_append, ← List.nil_append rest, ← hk, Cursor.past_nil] at hnil
  | cons c v ih =>
    rw [List.cons_append, findSome?_runsFrom_cons (hv c List.mem_cons_self), ih, Option.none_or]
    · have hnil := h [] (c :: v) rfl
      rwa [← hk, Cursor.past_nil] at hnil
    · exact fun d hd => hv d (List.mem_cons_of_mem _ hd)
    · rfl
    · intro v₁ v₂ hv'
      rw [Cursor.past_past]
      exact h (c :: v₁) v₂ (by rw [hv', List.cons_append])

/-- A repetition takes as much as it can, and gives back what keeps the rest from going on. -/
lemma run_star_back (hk : k.rest = u ++ (v ++ rest)) (hs : ∀ c ∈ u ++ v, s.holds c)
    (hrest : Stops s rest)
    (hback : ∀ v₁ v₂, v = v₁ ++ v₂ → v₁ ≠ [] → onward (k.past (u ++ v₁) (v₂ ++ rest)) = none)
    (h : onward (k.past u (v ++ rest)) = some e) : (star (set s)).run k onward = some e := by
  rw [star, run, hk]
  induction u generalizing k with
  | nil =>
    rw [List.nil_append] at hk ⊢
    rw [← hk, Cursor.past_nil] at h
    cases v with
    | nil => rwa [List.nil_append, runsFrom_of_stops hrest, List.findSome?_singleton]
    | cons c v =>
      rw [List.cons_append, findSome?_runsFrom_cons (hs c List.mem_cons_self),
        findSome?_runsFrom_eq_none (fun d hd => hs d (List.mem_cons_of_mem _ hd)) hrest rfl,
        Option.none_or, h]
      intro v₁ v₂ hv
      rw [Cursor.past_past]
      exact hback (c :: v₁) v₂ (by rw [hv, List.cons_append]) (List.cons_ne_nil _ _)
  | cons c u ih =>
    rw [List.cons_append, findSome?_runsFrom_cons (hs c List.mem_cons_self), ih, Option.some_or]
    · rfl
    · exact fun d hd => hs d (List.mem_cons_of_mem _ hd)
    · intro v₁ v₂ hv hne
      rw [Cursor.past_past]
      exact hback v₁ v₂ hv hne
    · rw [Cursor.past_past]
      exact h

/-- A repetition takes nothing where there is no character of its set. -/
lemma run_star_nil (hrest : Stops s k.rest) (h : onward k = some e) :
    (star (set s)).run k onward = some e := by
  rw [star, run, runsFrom_of_stops hrest, List.findSome?_singleton, h]

lemma run_plus_back (hk : k.rest = u ++ (v ++ rest)) (hu : u ≠ []) (hs : ∀ c ∈ u ++ v, s.holds c)
    (hrest : Stops s rest)
    (hback : ∀ v₁ v₂, v = v₁ ++ v₂ → v₁ ≠ [] → onward (k.past (u ++ v₁) (v₂ ++ rest)) = none)
    (h : onward (k.past u (v ++ rest)) = some e) : (plus (set s)).run k onward = some e := by
  obtain ⟨c, u, rfl⟩ := List.exists_cons_of_ne_nil hu
  show (set s).run k (fun k' => (star (set s)).run k' onward) = some e
  refine run_set hk (hs c List.mem_cons_self) (run_star_back (u := u) rfl ?_ hrest ?_ ?_)
  · exact fun d hd => hs d (List.mem_cons_of_mem _ hd)
  · intro v₁ v₂ hv hne
    rw [Cursor.past_past]
    exact hback v₁ v₂ hv hne
  · rw [Cursor.past_past]
    exact h

/-- A repetition takes all characters of its set. -/
lemma run_plus (hk : k.rest = t ++ rest) (ht : t ≠ []) (hs : ∀ c ∈ t, s.holds c)
    (hrest : Stops s rest) (h : onward (k.past t rest) = some e) :
    (plus (set s)).run k onward = some e := by
  refine run_plus_back (u := t) (v := []) hk ht ?_ hrest ?_ h
  · rwa [List.append_nil]
  · intro v₁ v₂ hv hne
    exact absurd (List.append_eq_nil_iff.mp hv.symm).1 hne

/-- A repetition takes all characters of its set, if there are any. -/
lemma run_star (hk : k.rest = t ++ rest) (hs : ∀ c ∈ t, s.holds c) (hrest : Stops s rest)
    (h : onward (k.past t rest) = some e) : (star (set s)).run k onward = some e := by
  refine run_star_back (u := t) (v := []) hk ?_ hrest ?_ h
  · rwa [List.append_nil]
  · intro v₁ v₂ hv hne
    exact absurd (List.append_eq_nil_iff.mp hv.symm).1 hne

/-- A lazy repetition takes as little as lets the rest go on. -/
lemma run_lazy (hk : k.rest = u ++ rest) (hs : ∀ c ∈ u, s.holds c)
    (hback : ∀ u₁ u₂, u = u₁ ++ u₂ → u₂ ≠ [] → onward (k.past u₁ (u₂ ++ rest)) = none)
    (h : onward (k.past u rest) = some e) : (many true (set s)).run k onward = some e := by
  rw [run, hk]
  induction u generalizing k with
  | nil =>
    rw [List.nil_append] at hk ⊢
    rw [← hk, Cursor.past_nil] at h
    cases rest with
    | nil => exact h
    | cons c rest => rw [nearestRun, h]
  | cons c u ih =>
    have hfirst := hback [] (c :: u) rfl (List.cons_ne_nil c u)
    rw [← hk, Cursor.past_nil] at hfirst
    rw [List.cons_append, nearestRun, hfirst, if_pos (hs c List.mem_cons_self), Cursor.next_eq_past]
    refine ih rfl (fun d hd => hs d (List.mem_cons_of_mem c hd)) ?_ ?_
    · intro u₁ u₂ hu hne
      rw [Cursor.past_past]
      exact hback (c :: u₁) u₂ (by rw [hu, List.cons_append]) hne
    · rw [Cursor.past_past]
      exact h

@[simp] lemma mayStart_plus (s : CharSet) (c : Char) : (plus (set s)).mayStart c = s.holds c := by
  simp [plus, mayStart, minLength]

/-- A repetition gives back what it took too much where the pattern behind it cannot start there. -/
lemma run_plus_before {onward : Cursor → Onward} (hk : k.rest = u ++ c :: (v ++ rest)) (hu : u ≠ [])
    (hs : ∀ d ∈ u ++ c :: v, s.holds d) (hrest : Stops s rest) (hq : 0 < q.minLength)
    (hv : ∀ d ∈ v, q.mayStart d = false) (hr : ∀ d ∈ rest.head?, q.mayStart d = false)
    (h : q.run (k.past u (c :: (v ++ rest))) (onward (k.past u (c :: (v ++ rest)))) = some e) :
    (plus (set s)).run k (fun k' => q.run k' (onward k')) = some e := by
  refine run_plus_back (u := u) (v := c :: v) hk hu hs hrest ?_ h
  intro v₁ v₂ hsplit hne
  obtain ⟨d, v₁, rfl⟩ := List.exists_cons_of_ne_nil hne
  obtain ⟨-, rfl⟩ := List.cons.inj hsplit
  refine run_eq_none hq fun d hd => ?_
  cases v₂ with
  | nil => exact hr d hd
  | cons d' v₂ =>
    cases hd
    exact hv d (List.mem_append_right _ List.mem_cons_self)

lemma stops_cons (h : s.holds c = false) : Stops s (c :: rest) := by
  rintro _ ⟨⟩
  exact h

/-- One space before a text that does not start with a blank. -/
lemma run_space (hk : k.rest = ' ' :: rest) (hrest : Stops ⟨false, [.blank]⟩ rest)
    (h : onward (k.past [' '] rest) = some e) : (plus blank).run k onward = some e :=
  run_plus (t := [' ']) hk (by decide) (List.forall_mem_singleton.mpr (by decide)) hrest h

/-! ### Optional parts and groups -/

lemma run_maybe_of_some (h : p.run k onward = some e) : (maybe false p).run k onward = some e := by
  simp [run, h]

lemma run_maybe_of_none (hp : p.run k onward = none) (h : onward k = some e) :
    (maybe false p).run k onward = some e := by
  simp [run, hp, h]

lemma run_alt_of_some (h : p.run k onward = some e) : (alt p q).run k onward = some e := by
  simp [run, h]

lemma run_alt_of_none (hp : p.run k onward = none) (h : q.run k onward = some e) :
    (alt p q).run k onward = some e := by
  simp [run, hp, h]

lemma run_alt_eq_none (hp : p.run k onward = none) (hq : q.run k onward = none) :
    (alt p q).run k onward = none := by
  simp [run, hp, hq]

lemma run_seq (p q : Pattern) (k : Cursor) (onward : Onward) :
    (seq p q).run k onward = p.run k fun k' => q.run k' onward := rfl

lemma run_group (n : Nat) (p : Pattern) (k : Cursor) (onward : Onward) :
    (group n p).run k onward = p.run k fun k' => onward (k.close n k') := rfl

lemma run_optional_char (hk : k.rest = c :: rest) (h : onward (k.past [c] rest) = some e) :
    (maybe false (char c)).run k onward = some e :=
  run_maybe_of_some (run_char hk h)

lemma run_optional_char_of_ne (hk : ∀ d ∈ k.rest.head?, d ≠ c) (h : onward k = some e) :
    (maybe false (char c)).run k onward = some e := by
  refine run_maybe_of_none (run_eq_none Nat.one_pos ?_) h
  intro d hd
  rw [← Bool.not_eq_true]
  exact fun hholds => hk d hd (holds_single.mp hholds)

lemma run_lineStart (hk : k.atLineStart = true) (h : onward k = some e) :
    lineStart.run k onward = some e := by
  simp [run, hk, h]

/-! ### The ends of a run -/

/-- What a run ends with, it reaches through an end of its pattern. -/
lemma exists_end_of_run (h : p.run k onward = some e) : ∃ k' ∈ p.ends k, onward k' = some e := by
  rw [run_eq_findSome?] at h
  obtain ⟨k', hk', he⟩ := List.exists_of_findSome?_eq_some h
  exact ⟨k', hk', he⟩

lemma groups_of_mem_ends_set (h : e ∈ (set s).ends k) : e.groups = k.groups := by
  simp only [ends] at h
  split at h
  · cases h
  · split at h
    · rw [List.mem_singleton] at h
      rw [h]
      rfl
    · cases h

lemma ends_inOrder_cons (p : Pattern) (ps : List Pattern) (k : Cursor) :
    (inOrder (p :: ps)).ends k = (p.ends k).flatMap (inOrder ps).ends := by
  cases ps with
  | nil => simp [inOrder, ends]
  | cons => rfl

lemma between_of_mem_ends_spelled (h : e ∈ (inOrder (cs.map char)).ends k) :
    Between k cs e ∧ e.groups = k.groups := by
  induction cs generalizing k with
  | nil =>
    rw [List.map_nil, inOrder, ends, List.mem_singleton] at h
    rw [h]
    exact ⟨.refl k, rfl⟩
  | cons c cs ih =>
    rw [List.map_cons, ends_inOrder_cons, List.mem_flatMap] at h
    obtain ⟨k', hk', he⟩ := h
    obtain ⟨hbetween, hgroups⟩ := ih he
    obtain ⟨u, hu, ha⟩ := accepts_of_mem_ends hk'
    obtain rfl : u = [c] := by
      cases ha with
      | set h => rw [holds_single.mp h]
    exact ⟨hu.trans hbetween, hgroups.trans (groups_of_mem_ends_set hk')⟩

lemma run_spelled_eq_none (h : ¬ t <+: k.rest) : (inOrder (t.map char)).run k onward = none := by
  have hends : (inOrder (t.map char)).ends k = [] := by
    rw [List.eq_nil_iff_forall_not_mem]
    intro e he
    exact h ⟨e.rest, (between_of_mem_ends_spelled he).1.1.symm⟩
  rw [run_eq_findSome?, hends]
  rfl

/-! ### What groups match -/

/-- The groups of a pattern with their numbers. -/
def groups : Pattern → List (Nat × Pattern)
  | group n p => (n, p) :: p.groups
  | seq p q | alt p q => p.groups ++ q.groups
  | maybe _ p | many _ p => p.groups
  | empty | set _ | textStart | lineStart => []

/-- Whether every match of the pattern has a group of the number. -/
def needsGroup (number : Nat) : Pattern → Bool
  | group n p => n == number || p.needsGroup number
  | seq p q => p.needsGroup number || q.needsGroup number
  | alt p q => p.needsGroup number && q.needsGroup number
  | maybe _ _ | many _ _ | empty | set _ | textStart | lineStart => false

/-- What was matched, somewhere in a text, by groups that a pattern has. -/
def Captured (p : Pattern) (cs : List Char) (gs : List (Nat × Span)) : Prop :=
  ∀ g ∈ gs, g.2.chars <:+: cs ∧ ∃ q, (g.1, q) ∈ p.groups ∧ Accepts q g.2.chars

lemma Captured.nil : Captured p cs [] :=
  fun _ h => absurd h List.not_mem_nil

lemma Captured.append {gs gs' : List (Nat × Span)} (h : Captured p cs gs) (h' : Captured p cs gs') :
    Captured p cs (gs ++ gs') :=
  List.forall_mem_append.mpr ⟨h, h'⟩

lemma Captured.mono {ds : List Char} {gs : List (Nat × Span)} (h : Captured p cs gs) (hq : p.groups ⊆ q.groups)
    (hds : cs <:+ ds) : Captured q ds gs := by
  intro g hg
  obtain ⟨hpart, r, hr, ha⟩ := h g hg
  exact ⟨hpart.trans hds.isInfix, r, hq hr, ha⟩

lemma groups_of_mem_runsFrom (h : e ∈ runsFrom s cs k []) : e.groups = k.groups := by
  induction cs generalizing k with
  | nil =>
    rw [runsFrom, List.mem_singleton] at h
    rw [h]
  | cons c cs ih =>
    rw [runsFrom] at h
    split at h
    · rw [runsFrom_append, List.mem_append, List.mem_singleton] at h
      rcases h with h | rfl
      · have hnext := ih h
        exact hnext
      · rfl
    · rw [List.mem_singleton] at h
      rw [h]

/-- What each round of a repetition captures, all its rounds capture. -/
lemma captured_of_mem_endsRepeated {body : Cursor → List Cursor} {lazily : Bool}
    (hbody : ∀ k e, e ∈ body k → e.rest <:+ k.rest ∧ ∃ gs, e.groups = gs ++ k.groups ∧ Captured p k.rest gs)
    (h : e ∈ endsRepeated body lazily cs k) : ∃ gs, e.groups = gs ++ k.groups ∧ Captured p k.rest gs := by
  induction cs generalizing k with
  | nil =>
    rcases mem_endsRepeated_nil.mp h with rfl | he
    · exact ⟨[], rfl, .nil⟩
    · exact (hbody k e he).2
  | cons c cs ih =>
    rcases mem_endsRepeated_cons.mp h with rfl | ⟨k', hk', he⟩
    · exact ⟨[], rfl, .nil⟩
    · obtain ⟨hrest, gs, hgs, hcaptured⟩ := hbody k k' hk'
      split at he
      · rw [List.mem_singleton] at he
        exact ⟨gs, he ▸ hgs, hcaptured⟩
      · obtain ⟨gs', hgs', hcaptured'⟩ := ih he
        exact ⟨gs' ++ gs, by rw [hgs', hgs, List.append_assoc],
          (hcaptured'.mono (List.Subset.refl _) hrest).append hcaptured⟩

lemma rest_of_mem_ends (h : e ∈ p.ends k) : e.rest <:+ k.rest := by
  obtain ⟨t, ⟨hrest, -⟩, -⟩ := accepts_of_mem_ends h
  rw [hrest]
  exact List.suffix_append _ _

/-- Where a match ends, what its groups matched comes before what groups had matched already. -/
lemma captured_of_mem_ends (h : e ∈ p.ends k) : ∃ gs, e.groups = gs ++ k.groups ∧ Captured p k.rest gs ∧
    ∀ n, p.needsGroup n → ∃ s, (n, s) ∈ gs := by
  induction p generalizing k e with
  | empty =>
    rw [ends, List.mem_singleton] at h
    exact ⟨[], h ▸ rfl, .nil, fun _ hn => absurd hn Bool.false_ne_true⟩
  | set s => exact ⟨[], groups_of_mem_ends_set h, .nil, fun _ hn => absurd hn Bool.false_ne_true⟩
  | textStart =>
    rw [ends] at h
    split at h
    · exact ⟨[], List.mem_singleton.mp h ▸ rfl, .nil, fun _ hn => absurd hn Bool.false_ne_true⟩
    · cases h
  | lineStart =>
    rw [ends] at h
    split at h
    · exact ⟨[], List.mem_singleton.mp h ▸ rfl, .nil, fun _ hn => absurd hn Bool.false_ne_true⟩
    · cases h
  | seq p q ihp ihq =>
    rw [ends, List.mem_flatMap] at h
    obtain ⟨k', hk', he⟩ := h
    obtain ⟨gs, hgs, hcaptured, hneeds⟩ := ihp hk'
    obtain ⟨gs', hgs', hcaptured', hneeds'⟩ := ihq he
    have hfirst : Captured (seq p q) k.rest gs := hcaptured.mono (List.subset_append_left _ _) List.suffix_rfl
    have hsecond : Captured (seq p q) k.rest gs' :=
      hcaptured'.mono (List.subset_append_right _ _) (rest_of_mem_ends hk')
    refine ⟨gs' ++ gs, by rw [hgs', hgs, List.append_assoc], hsecond.append hfirst, fun n hn => ?_⟩
    rw [needsGroup, Bool.or_eq_true] at hn
    rcases hn with hn | hn
    · obtain ⟨s, hs⟩ := hneeds n hn
      exact ⟨s, List.mem_append_right _ hs⟩
    · obtain ⟨s, hs⟩ := hneeds' n hn
      exact ⟨s, List.mem_append_left _ hs⟩
  | alt p q ihp ihq =>
    rw [ends, List.mem_append] at h
    simp only [needsGroup, Bool.and_eq_true]
    rcases h with h | h
    · obtain ⟨gs, hgs, hcaptured, hneeds⟩ := ihp h
      exact ⟨gs, hgs, hcaptured.mono (List.subset_append_left _ _) List.suffix_rfl, fun n hn => hneeds n hn.1⟩
    · obtain ⟨gs, hgs, hcaptured, hneeds⟩ := ihq h
      exact ⟨gs, hgs, hcaptured.mono (List.subset_append_right _ _) List.suffix_rfl, fun n hn => hneeds n hn.2⟩
  | maybe lazily p ih =>
    rcases mem_ends_maybe.mp h with rfl | h
    · exact ⟨[], rfl, .nil, fun _ hn => absurd hn Bool.false_ne_true⟩
    · obtain ⟨gs, hgs, hcaptured, -⟩ := ih h
      exact ⟨gs, hgs, hcaptured, fun _ hn => absurd hn Bool.false_ne_true⟩
  | many lazily p ih =>
    have hround : ∀ k e, e ∈ p.ends k →
        e.rest <:+ k.rest ∧ ∃ gs, e.groups = gs ++ k.groups ∧ Captured p k.rest gs := by
      intro k e he
      obtain ⟨gs, hgs, hcaptured, -⟩ := ih he
      exact ⟨rest_of_mem_ends he, gs, hgs, hcaptured⟩
    cases p with
    | set s =>
      have hgroups : e.groups = k.groups := by
        cases lazily
        · exact groups_of_mem_runsFrom (by simpa only [ends] using h)
        · exact groups_of_mem_runsFrom (by simpa only [ends, List.mem_reverse] using h)
      exact ⟨[], hgroups, .nil, fun _ hn => absurd hn Bool.false_ne_true⟩
    | _ =>
      simp only [ends] at h
      obtain ⟨gs, hgs, hcaptured⟩ := captured_of_mem_endsRepeated hround h
      exact ⟨gs, hgs, hcaptured, fun _ hn => absurd hn Bool.false_ne_true⟩
  | group n p ih =>
    rw [ends, List.mem_map] at h
    obtain ⟨k', hk', rfl⟩ := h
    obtain ⟨t, ⟨hrest, hpos⟩, ha⟩ := accepts_of_mem_ends hk'
    obtain ⟨gs, hgs, hcaptured, hneeds⟩ := ih hk'
    refine ⟨(n, ⟨k.rest, k'.pos - k.pos⟩) :: gs, by rw [Cursor.close, hgs, List.cons_append], ?_, fun i hi => ?_⟩
    · have hchars : (⟨k.rest, k'.pos - k.pos⟩ : Span).chars = t := by
        rw [Span.chars, hrest, hpos, Nat.add_sub_cancel_left, List.take_left]
      refine List.forall_mem_cons.mpr ⟨?_, hcaptured.mono (List.subset_cons_self _ _) List.suffix_rfl⟩
      rw [hchars, hrest]
      exact ⟨(List.prefix_append _ _).isInfix, p, List.mem_cons_self, ha⟩
    · rw [needsGroup, Bool.or_eq_true, beq_iff_eq] at hi
      rcases hi with rfl | hi
      · exact ⟨_, List.mem_cons_self⟩
      · obtain ⟨s, hs⟩ := hneeds i hi
        exact ⟨s, List.mem_cons_of_mem _ hs⟩

variable {number : Nat} {d : Char} {m : Match}

/-- What a group of a match matched is part of what was matched, and a text of a group of the pattern. A group
that the pattern needs has matched something. -/
lemma accepts_group? (h : p.match? cs = some m) (number : Nat) :
    (∀ t, m.group? number = some t → t.toList <:+: cs ∧ ∃ q, (number, q) ∈ p.groups ∧ Accepts q t.toList) ∧
      (p.needsGroup number → m.group? number ≠ none) := by
  simp only [match?, matchFrom, matchAt, Option.map_eq_some_iff] at h
  obtain ⟨e, he, rfl⟩ := h
  obtain ⟨e', he', hs⟩ := exists_end_of_run he
  cases hs
  obtain ⟨gs, hgs, hcaptured, hneeds⟩ := captured_of_mem_ends he'
  rw [List.append_nil] at hgs
  simp only [Match.group?, Option.map_eq_some_iff, ne_eq, Option.map_eq_none_iff]
  refine ⟨?_, fun hn hnone => ?_⟩
  · rintro _ ⟨s, hlookup, rfl⟩
    obtain ⟨l₁, l₂, hl, -⟩ := List.lookup_eq_some_iff.mp hlookup
    rw [String.toList_ofList]
    exact hcaptured (number, s) (by rw [← hgs, hl]; simp)
  · obtain ⟨s, hs⟩ := hneeds number hn
    rw [List.lookup_eq_none_iff] at hnone
    have hne := hnone (number, s) (hgs ▸ hs)
    simp at hne

lemma mem_of_mem_group {c : Char} (h : p.match? cs = some m) (hc : c ∈ (m.group number).toList) : c ∈ cs := by
  rw [Match.group] at hc
  cases ht : m.group? number with
  | none => simp [ht] at hc
  | some t =>
    rw [ht, Option.getD_some] at hc
    exact ((accepts_group? h _).1 t ht).1.subset hc

/-- Whether no group of the number can match a character. -/
def groupAvoids (number : Nat) (d : Char) : Pattern → Bool
  | group n p => (n != number || p.avoids d) && p.groupAvoids number d
  | seq p q | alt p q => p.groupAvoids number d && q.groupAvoids number d
  | maybe _ p | many _ p => p.groupAvoids number d
  | empty | set _ | textStart | lineStart => true

lemma avoids_of_groupAvoids (hp : p.groupAvoids number d) (hq : (number, q) ∈ p.groups) : q.avoids d := by
  induction p with
  | group n p ih =>
    rw [groupAvoids, Bool.and_eq_true, Bool.or_eq_true] at hp
    rw [groups, List.mem_cons, Prod.mk.injEq] at hq
    rcases hq with ⟨rfl, rfl⟩ | hq
    · simpa using hp.1
    · exact ih hp.2 hq
  | seq p p' ih ih' | alt p p' ih ih' =>
    rw [groupAvoids, Bool.and_eq_true] at hp
    rw [groups, List.mem_append] at hq
    rcases hq with hq | hq
    · exact ih hp.1 hq
    · exact ih' hp.2 hq
  | maybe lazily p ih | many lazily p ih => exact ih hp hq
  | empty | set s | textStart | lineStart => cases hq

/-- The text of a group lacks a character that the group cannot match. -/
lemma not_mem_group (hp : p.groupAvoids number d) (h : p.match? cs = some m) : d ∉ (m.group number).toList := by
  rw [Match.group]
  cases ht : m.group? number with
  | none => simp
  | some t =>
    obtain ⟨-, q, hq, ha⟩ := (accepts_group? h _).1 t ht
    exact ha.not_mem (avoids_of_groupAvoids hp hq)

/-! ### What is found -/

/-- A run succeeds, and ends as stated. -/
def Reaches (o : Option Cursor) (G : Cursor → Prop) : Prop :=
  ∃ e, o = some e ∧ G e

/-- A run succeeds where one does that goes on from it. -/
lemma Reaches.of {o o' : Option Cursor} {G : Cursor → Prop} (h : ∀ e, o = some e → o' = some e) :
    Reaches o G → Reaches o' G :=
  fun ⟨e, he, hg⟩ => ⟨e, h e he, hg⟩

/-- What is found of a pattern at the start of a text: what the match takes off it, and the texts of its
groups, the latest first. -/
structure Finds (p : Pattern) (t rest : List Char) (gs : List (Nat × List Char)) (m : Match) : Prop where
  match? : p.match? (t ++ rest) = some m
  text : m.text = String.ofList t
  length : m.length = t.length
  group? : ∀ n, m.group? n = (gs.lookup n).map String.ofList

/-- A group is looked up among the texts of the groups. -/
lemma group?_eq_lookup (m : Match) (n : Nat) :
    m.group? n = ((m.groups.map fun g => (g.1, g.2.chars)).lookup n).map String.ofList := by
  rw [Match.group?]
  induction m.groups with
  | nil => rfl
  | cons g gs ih =>
    rw [List.map_cons, List.lookup_cons, List.lookup_cons]
    split
    · rfl
    · exact ih

lemma exists_finds {gs : List (Nat × List Char)}
    (h : Reaches (p.run { rest := t ++ rest } some) fun e =>
      e.pos = t.length ∧ e.groups.map (fun g => (g.1, g.2.chars)) = gs) :
    ∃ m, p.Finds t rest gs m := by
  obtain ⟨e, he, hpos, rfl⟩ := h
  refine ⟨_, match?_of_run he, ?_, hpos, group?_eq_lookup _⟩
  simp [Match.text, Span.chars, hpos]

/-! ### Texts without a match -/

lemma Accepts.exists_append (ps : List Pattern) {qs : List Pattern} (h : Accepts (inOrder (ps ++ qs)) t) :
    ∃ t₁ t₂, t = t₁ ++ t₂ ∧ Accepts (inOrder ps) t₁ ∧ Accepts (inOrder qs) t₂ := by
  induction ps generalizing t with
  | nil => exact ⟨[], t, rfl, .empty, h⟩
  | cons p ps ih =>
    cases hps : ps ++ qs with
    | nil =>
      obtain ⟨rfl, rfl⟩ := List.append_eq_nil_iff.mp hps
      exact ⟨t, [], (List.append_nil t).symm, h, .empty⟩
    | cons r rs =>
      rw [List.cons_append, hps] at h
      cases h with
      | seq hp hq =>
        rw [← hps] at hq
        obtain ⟨t₁, t₂, rfl, h₁, h₂⟩ := ih hq
        refine ⟨_, t₂, (List.append_assoc _ _ _).symm, ?_, h₂⟩
        cases ps with
        | nil =>
          cases h₁
          rwa [List.append_nil]
        | cons => exact .seq hp h₁

lemma Accepts.exists_cons {ps : List Pattern} (h : Accepts (inOrder (p :: ps)) t) :
    ∃ t₁ t₂, t = t₁ ++ t₂ ∧ Accepts p t₁ ∧ Accepts (inOrder ps) t₂ :=
  Accepts.exists_append [p] h

lemma eq_of_accepts_char (h : Accepts (char c) t) : t = [c] := by
  cases h with
  | set hc => rw [holds_single.mp hc]

lemma eq_of_accepts_spelled (h : Accepts (inOrder (cs.map char)) t) : t = cs := by
  induction cs generalizing t with
  | nil =>
    cases h
    rfl
  | cons c cs ih =>
    obtain ⟨t₁, t₂, rfl, h₁, h₂⟩ := h.exists_cons
    rw [eq_of_accepts_char h₁, ih h₂, List.singleton_append]

lemma holds_of_accepts_many {lazily : Bool} (h : Accepts (many lazily (set s)) t) :
    ∀ c ∈ t, s.holds c := by
  generalize hp : many lazily (set s) = p at h
  induction h with
  | done => simp
  | again h _ _ ih =>
    cases hp
    cases h with
    | set hc =>
      rw [List.singleton_append, List.forall_mem_cons]
      exact ⟨hc, ih rfl⟩
  | _ => cases hp

lemma holds_of_accepts_plus (h : Accepts (plus (set s)) t) : t ≠ [] ∧ ∀ c ∈ t, s.holds c := by
  cases h with
  | seq hfirst hmore =>
    cases hfirst with
    | set hc =>
      rw [List.singleton_append, List.forall_mem_cons]
      exact ⟨List.cons_ne_nil _ _, hc, holds_of_accepts_many hmore⟩

/-- There is no match where what a pattern needs only comes after a character that it cannot pass. -/
lemma match?_eq_none_of_needs (ps : List Pattern) {qs : List Pattern} {P : Char → Prop} {d : Char}
    {a b : List Char} (hneeds : ∀ t, Accepts (inOrder ps) t → d ∉ t ∧ ∃ c ∈ t, P c) (ha : ∀ c ∈ a, ¬ P c) :
    (inOrder (ps ++ qs)).match? (a ++ d :: b) = none := by
  apply match?_eq_none
  rintro t rest hcs haccepts
  obtain ⟨t₁, t₂, rfl, h₁, -⟩ := haccepts.exists_append ps
  obtain ⟨hd, c, hc, hneeded⟩ := hneeds t₁ h₁
  rw [List.append_assoc, List.append_eq_append_iff] at hcs
  rcases hcs with ⟨v, rfl, hv⟩ | ⟨v, rfl, hv⟩
  · rcases v with _ | ⟨x, v⟩
    · exact ha c (by simpa using hc) hneeded
    · obtain ⟨rfl, -⟩ := List.cons.inj hv
      exact hd (List.mem_append_right a List.mem_cons_self)
  · exact ha c (List.mem_append_left v hc) hneeded

/-- There is no match where a character that the pattern needs only comes after one that it cannot
pass. -/
lemma match?_eq_none_of_avoids (ps : List Pattern) {qs : List Pattern} {d : Char} {a b : List Char}
    (hd : (inOrder ps).avoids d) (hcd : c ≠ d) (hc : c ∉ a) :
    (inOrder (ps ++ char c :: qs)).match? (a ++ d :: b) = none := by
  have hsplit : ps ++ char c :: qs = (ps ++ [char c]) ++ qs := by simp
  rw [hsplit]
  refine match?_eq_none_of_needs (P := (· = c)) _ ?_ fun e he heq => hc (heq ▸ he)
  intro t ht
  obtain ⟨t₁, t₂, rfl, h₁, h₂⟩ := ht.exists_append ps
  rw [eq_of_accepts_char h₂]
  refine ⟨?_, c, by simp, rfl⟩
  simp [h₁.not_mem hd, hcd.symm]

/-- Blanks that are not there are passed over. -/
lemma match?_lineStart_star {ps : List Pattern} (h : Stops s cs) :
    (inOrder (lineStart :: star (set s) :: ps)).match? cs = (inOrder ps).match? cs := by
  simp only [match?, matchFrom, matchAt]
  rw [run_inOrder_cons, run, if_pos rfl, run_inOrder_cons, star, run, runsFrom_of_stops h,
    List.findSome?_singleton]

end Pattern

end HeaderBind
