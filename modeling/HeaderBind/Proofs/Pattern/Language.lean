import HeaderBind.Pattern.Basic
import Mathlib.Tactic.Lemma
import Mathlib.Tactic.Tauto

/-!
# The language of a pattern

Matching tries alternatives in order and goes on from each until one lets everything succeed. Seen from
outside, a pattern has a list of ends at every position, the preferred one first, and a run finds the
first of them from where the rest succeeds (`run_eq_findSome?`).

What lies between a position and an end belongs to the language of the pattern (`accepts_of_mem_ends`).
Three facts about a whole language are computed from the pattern alone: the least length of its texts,
the characters that they may start with, and characters that never occur in them.
-/

namespace HeaderBind

namespace Pattern

/-! ### Ends -/

/-- The ends of a repetition of a body, by the ends of the body. -/
def endsRepeated (body : Cursor → List Cursor) (lazily : Bool) : List Char → Cursor → List Cursor
  | [], k => if lazily then k :: body k else body k ++ [k]
  | _ :: left, k =>
    let again := (body k).flatMap fun k' =>
      if k'.pos == k.pos then [k'] else endsRepeated body lazily left k'
    if lazily then k :: again else again ++ [k]

/-- The positions where a match of the pattern may end, the preferred one first. -/
def ends : Pattern → Cursor → List Cursor
  | empty, k => [k]
  | set s, k =>
    match k.rest with
    | [] => []
    | c :: rest => if s.holds c then [k.next c rest] else []
  | textStart, k => if k.pos == 0 then [k] else []
  | lineStart, k => if k.atLineStart then [k] else []
  | seq p q, k => (p.ends k).flatMap q.ends
  | alt p q, k => p.ends k ++ q.ends k
  | maybe lazily p, k => if lazily then k :: p.ends k else p.ends k ++ [k]
  | many false (set s), k => runsFrom s k.rest k []
  | many true (set s), k => (runsFrom s k.rest k []).reverse
  | many lazily p, k => endsRepeated p.ends lazily k.rest k
  | group number p, k => (p.ends k).map (k.close number)

lemma findSome?_flatMap {α β γ : Type} (f : α → List β) (g : β → Option γ) (xs : List α) :
    (xs.flatMap f).findSome? g = xs.findSome? fun x => (f x).findSome? g := by
  induction xs with
  | nil => rfl
  | cons x xs ih => simp [List.findSome?_append, ih, List.findSome?_cons]; grind

lemma runsFrom_append (s : CharSet) (cs : List Char) (k : Cursor) (known : List Cursor) :
    runsFrom s cs k known = runsFrom s cs k [] ++ known := by
  induction cs generalizing k known with
  | nil => rfl
  | cons c cs ih =>
    by_cases h : s.holds c
    · simp only [runsFrom, h, if_true]
      rw [ih _ (k :: known), ih _ [k]]
      simp
    · simp [runsFrom, h]

lemma nearestRun_eq (s : CharSet) (onward : Onward) (cs : List Char) (k : Cursor) :
    nearestRun s onward cs k = (runsFrom s cs k []).reverse.findSome? onward := by
  induction cs generalizing k with
  | nil => simp [nearestRun, runsFrom]
  | cons c cs ih =>
    by_cases h : s.holds c
    · simp only [nearestRun, runsFrom, h, if_true, ih]
      rw [runsFrom_append s cs _ [k]]
      cases ho : onward k <;> simp [ho]
    · cases ho : onward k <;> simp [nearestRun, runsFrom, h, ho]

lemma repeated_eq {body : Cursor → Onward → Option Cursor} {bodyEnds : Cursor → List Cursor}
    (h : ∀ k onward, body k onward = (bodyEnds k).findSome? onward) (lazily : Bool)
    (cs : List Char) (k : Cursor) (onward : Onward) :
    repeated body lazily cs k onward =
      (endsRepeated bodyEnds lazily cs k).findSome? onward := by
  induction cs generalizing k onward with
  | nil =>
    cases lazily
    · simp [repeated, endsRepeated, h, List.findSome?_append]
    · simp [repeated, endsRepeated, h, List.findSome?_cons]
      cases onward k <;> rfl
  | cons c cs ih =>
    -- One round of the body, after which the repetition goes on or, without progress, ends.
    have hagain : (body k fun k' => if k'.pos == k.pos then onward k'
          else repeated body lazily cs k' onward) =
        ((bodyEnds k).flatMap fun k' => if k'.pos == k.pos then [k']
          else endsRepeated bodyEnds lazily cs k').findSome? onward := by
      rw [h, findSome?_flatMap]
      congr 1
      funext k'
      by_cases hp : k'.pos == k.pos
      · simp [hp, List.findSome?_cons]
        cases onward k' <;> rfl
      · simp only [hp, ih]
        rfl
    cases lazily
    · simp only [repeated, endsRepeated]
      rw [if_neg (by decide), if_neg (by decide), hagain, List.findSome?_append]
      rw [List.findSome?_singleton, Option.orElse_eq_or]
    · simp only [repeated, endsRepeated, if_true]
      rw [hagain, List.findSome?_cons]
      cases onward k <;> rfl

/-- A run goes on from the first end from where that succeeds. -/
theorem run_eq_findSome? (p : Pattern) (k : Cursor) (onward : Onward) :
    p.run k onward = (p.ends k).findSome? onward := by
  induction p generalizing k onward with
  | empty => simp [run, ends]
  | set s =>
    simp only [run, ends]
    rcases k.rest with _ | ⟨c, rest⟩
    · rfl
    · by_cases h : s.holds c <;> simp [h]
  | textStart => simp only [run, ends]; split <;> simp
  | lineStart => simp only [run, ends]; split <;> simp
  | seq p q ihp ihq =>
    simp only [run, ends, findSome?_flatMap, ihp]
    congr 1
    funext k'
    exact ihq k' onward
  | alt p q ihp ihq => simp [run, ends, ihp, ihq, List.findSome?_append]
  | maybe lazily p ih =>
    cases lazily
    · simp [run, ends, ih, List.findSome?_append]
    · simp only [run, ends, ih, if_true, List.findSome?_cons]
      cases onward k <;> rfl
  | many lazily p ih =>
    cases p with
    | set s =>
      cases lazily
      · simp [run, ends]
      · simp [run, ends, nearestRun_eq]
    | _ =>
      simp only [run, ends]
      exact repeated_eq ih lazily _ _ _
  | group number p ih => simp [run, ends, ih, List.findSome?_map, Function.comp_def]

lemma mem_endsRepeated_nil {body : Cursor → List Cursor} {lazily : Bool} {k e : Cursor} :
    e ∈ endsRepeated body lazily [] k ↔ e = k ∨ e ∈ body k := by
  cases lazily
  · simp [endsRepeated, or_comm]
  · simp [endsRepeated]

/-- Either there is no round, or one after which the repetition goes on unless it got nowhere. -/
lemma mem_endsRepeated_cons {body : Cursor → List Cursor} {lazily : Bool} {c : Char} {cs : List Char}
    {k e : Cursor} :
    e ∈ endsRepeated body lazily (c :: cs) k ↔
      e = k ∨ ∃ k' ∈ body k, e ∈ if k'.pos == k.pos then [k'] else endsRepeated body lazily cs k' := by
  cases lazily
  · simp only [endsRepeated, Bool.false_eq_true, if_false, List.mem_append, List.mem_flatMap,
      List.mem_singleton, or_comm]
  · simp only [endsRepeated, if_true, List.mem_cons, List.mem_flatMap]

lemma mem_ends_maybe {p : Pattern} {lazily : Bool} {k e : Cursor} :
    e ∈ (maybe lazily p).ends k ↔ e = k ∨ e ∈ p.ends k := by
  cases lazily
  · simp [ends, or_comm]
  · simp [ends]

/-! ### Texts that a pattern accepts -/

/-- The texts of a pattern. Where a text starts is left out of account. -/
inductive Accepts : Pattern → List Char → Prop where
  | empty : Accepts empty []
  | set {s : CharSet} {c : Char} (h : s.holds c) : Accepts (set s) [c]
  | textStart : Accepts textStart []
  | lineStart : Accepts lineStart []
  | seq {p q : Pattern} {t u : List Char} (hp : Accepts p t) (hq : Accepts q u) :
      Accepts (seq p q) (t ++ u)
  | altLeft {p q : Pattern} {t : List Char} (h : Accepts p t) : Accepts (alt p q) t
  | altRight {p q : Pattern} {t : List Char} (h : Accepts q t) : Accepts (alt p q) t
  | without (lazily : Bool) (p : Pattern) : Accepts (maybe lazily p) []
  | once {lazily : Bool} {p : Pattern} {t : List Char} (h : Accepts p t) :
      Accepts (maybe lazily p) t
  | done (lazily : Bool) (p : Pattern) : Accepts (many lazily p) []
  | again {lazily : Bool} {p : Pattern} {t u : List Char} (hp : Accepts p t)
      (hq : Accepts (many lazily p) u) : Accepts (many lazily p) (t ++ u)
  | group {number : Nat} {p : Pattern} {t : List Char} (h : Accepts p t) :
      Accepts (group number p) t

/-- A position lies behind another one, with a text between them. -/
def Between (k : Cursor) (t : List Char) (e : Cursor) : Prop :=
  k.rest = t ++ e.rest ∧ e.pos = k.pos + t.length

lemma Between.refl (k : Cursor) : Between k [] k := ⟨rfl, rfl⟩

lemma Between.trans {k k' e : Cursor} {t u : List Char} (h : Between k t k')
    (h' : Between k' u e) : Between k (t ++ u) e := by
  refine ⟨?_, ?_⟩
  · rw [h.1, h'.1, List.append_assoc]
  · rw [h'.2, h.2, List.length_append, Nat.add_assoc]

lemma Between.next {k : Cursor} {c : Char} {rest : List Char} (h : k.rest = c :: rest) :
    Between k [c] (k.next c rest) := ⟨h, rfl⟩

lemma accepts_of_mem_runsFrom {s : CharSet} {lazily : Bool} {cs : List Char} {k e : Cursor}
    (hk : k.rest = cs) (he : e ∈ runsFrom s cs k []) :
    ∃ t, Between k t e ∧ Accepts (many lazily (set s)) t := by
  induction cs generalizing k with
  | nil =>
    simp only [runsFrom, List.mem_singleton] at he
    exact ⟨[], he ▸ Between.refl k, .done _ _⟩
  | cons c cs ih =>
    by_cases hc : s.holds c
    · simp only [runsFrom, hc, if_true] at he
      rw [runsFrom_append, List.mem_append, List.mem_singleton] at he
      rcases he with he | rfl
      · obtain ⟨t, ht, ha⟩ := ih rfl he
        exact ⟨c :: t, (Between.next hk).trans ht, .again (.set hc) ha⟩
      · exact ⟨[], Between.refl e, .done _ _⟩
    · simp only [runsFrom, hc, Bool.false_eq_true, if_false, List.mem_singleton] at he
      exact ⟨[], he ▸ Between.refl k, .done _ _⟩

lemma accepts_of_mem_endsRepeated {p : Pattern} {lazily : Bool}
    (hp : ∀ {k e}, e ∈ p.ends k → ∃ t, Between k t e ∧ Accepts p t) {cs : List Char}
    {k e : Cursor} (he : e ∈ endsRepeated p.ends lazily cs k) :
    ∃ t, Between k t e ∧ Accepts (many lazily p) t := by
  -- A single round, after which the repetition is over.
  have once : ∀ {k e}, e ∈ p.ends k → ∃ t, Between k t e ∧ Accepts (many lazily p) t := by
    intro k e he
    obtain ⟨t, ht, ha⟩ := hp he
    exact ⟨t, ht, by simpa using Accepts.again ha (.done lazily p)⟩
  induction cs generalizing k with
  | nil =>
    rcases mem_endsRepeated_nil.mp he with rfl | he
    · exact ⟨[], Between.refl e, .done _ _⟩
    · exact once he
  | cons c cs ih =>
    rcases mem_endsRepeated_cons.mp he with rfl | ⟨k', hk', he⟩
    · exact ⟨[], Between.refl e, .done _ _⟩
    · split at he
      · rw [List.mem_singleton] at he
        exact he ▸ once hk'
      · obtain ⟨t, ht, ha⟩ := hp hk'
        obtain ⟨u, hu, hb⟩ := ih he
        exact ⟨t ++ u, ht.trans hu, .again ha hb⟩

/-- What lies between a position and an end is a text of the pattern. -/
theorem accepts_of_mem_ends {p : Pattern} {k e : Cursor} (he : e ∈ p.ends k) :
    ∃ t, Between k t e ∧ Accepts p t := by
  induction p generalizing k e with
  | empty =>
    simp only [ends, List.mem_singleton] at he
    exact ⟨[], he ▸ Between.refl k, .empty⟩
  | set s =>
    simp only [ends] at he
    rcases hr : k.rest with _ | ⟨c, rest⟩ <;> rw [hr] at he
    · cases he
    · by_cases hc : s.holds c
      · simp only [hc, if_true, List.mem_singleton] at he
        exact ⟨[c], he ▸ Between.next hr, .set hc⟩
      · simp [hc] at he
  | textStart =>
    simp only [ends] at he
    split at he
    · rw [List.mem_singleton] at he
      exact ⟨[], he ▸ Between.refl k, .textStart⟩
    · cases he
  | lineStart =>
    simp only [ends] at he
    split at he
    · rw [List.mem_singleton] at he
      exact ⟨[], he ▸ Between.refl k, .lineStart⟩
    · cases he
  | seq p q ihp ihq =>
    simp only [ends, List.mem_flatMap] at he
    obtain ⟨k', hk', he⟩ := he
    obtain ⟨t, ht, ha⟩ := ihp hk'
    obtain ⟨u, hu, hb⟩ := ihq he
    exact ⟨t ++ u, ht.trans hu, .seq ha hb⟩
  | alt p q ihp ihq =>
    simp only [ends, List.mem_append] at he
    rcases he with he | he
    · obtain ⟨t, ht, ha⟩ := ihp he
      exact ⟨t, ht, .altLeft ha⟩
    · obtain ⟨t, ht, ha⟩ := ihq he
      exact ⟨t, ht, .altRight ha⟩
  | maybe lazily p ih =>
    rcases mem_ends_maybe.mp he with rfl | he
    · exact ⟨[], Between.refl e, .without _ _⟩
    · obtain ⟨t, ht, ha⟩ := ih he
      exact ⟨t, ht, .once ha⟩
  | many lazily p ih =>
    cases p with
    | set s =>
      cases lazily
      · exact accepts_of_mem_runsFrom rfl (by simpa only [ends] using he)
      · exact accepts_of_mem_runsFrom rfl (by simpa only [ends, List.mem_reverse] using he)
    | _ =>
      simp only [ends] at he
      exact accepts_of_mem_endsRepeated ih he
  | group number p ih =>
    simp only [ends, List.mem_map] at he
    obtain ⟨k', hk', rfl⟩ := he
    obtain ⟨t, ht, ha⟩ := ih hk'
    exact ⟨t, ht, .group ha⟩

/-- A match is a text of the pattern at the start of the text ahead. -/
theorem accepts_of_matchFrom {p : Pattern} {k : Cursor} {m : Match} (h : p.matchFrom k = some m) :
    ∃ t rest, k.rest = t ++ rest ∧ m.length = t.length ∧ m.whole.chars = t ∧ Accepts p t := by
  simp only [matchFrom, matchAt, Option.map_eq_some_iff] at h
  obtain ⟨e, he, rfl⟩ := h
  rw [run_eq_findSome?] at he
  obtain ⟨e', he', hs⟩ := List.exists_of_findSome?_eq_some he
  obtain ⟨t, ⟨hrest, hpos⟩, ha⟩ := accepts_of_mem_ends he'
  cases hs
  refine ⟨t, e.rest, hrest, ?_, ?_, ha⟩
  · simp [Match.length, hpos]
  · simp only [Span.chars, hpos]
    simp only at hrest
    simp [hrest]

theorem accepts_of_match? {p : Pattern} {cs : List Char} {m : Match} (h : p.match? cs = some m) :
    ∃ t rest, cs = t ++ rest ∧ m.length = t.length ∧ m.whole.chars = t ∧ Accepts p t :=
  accepts_of_matchFrom h

/-- Where no start of the text belongs to the pattern, there is no match. -/
theorem matchFrom_eq_none {p : Pattern} {k : Cursor}
    (h : ∀ t rest, k.rest = t ++ rest → ¬ Accepts p t) : p.matchFrom k = none := by
  rcases hm : p.matchFrom k with _ | m
  · rfl
  · obtain ⟨t, rest, hcs, -, -, ha⟩ := accepts_of_matchFrom hm
    exact absurd ha (h t rest hcs)

theorem match?_eq_none {p : Pattern} {cs : List Char}
    (h : ∀ t rest, cs = t ++ rest → ¬ Accepts p t) : p.match? cs = none :=
  matchFrom_eq_none h

/-! ### Facts that are computed from a pattern -/

/-- The least number of characters in a text of the pattern. -/
def minLength : Pattern → Nat
  | empty | textStart | lineStart => 0
  | set _ => 1
  | seq p q => p.minLength + q.minLength
  | alt p q => min p.minLength q.minLength
  | maybe _ _ | many _ _ => 0
  | group _ p => p.minLength

/-- Whether a text of the pattern may start with a character. -/
def mayStart (c : Char) : Pattern → Bool
  | empty | textStart | lineStart => false
  | set s => s.holds c
  | seq p q => p.mayStart c || (p.minLength == 0 && q.mayStart c)
  | alt p q => p.mayStart c || q.mayStart c
  | maybe _ p | many _ p | group _ p => p.mayStart c

/-- Whether a character is in no set of the pattern. -/
def avoids (c : Char) : Pattern → Bool
  | empty | textStart | lineStart => true
  | set s => !s.holds c
  | seq p q | alt p q => p.avoids c && q.avoids c
  | maybe _ p | many _ p | group _ p => p.avoids c

lemma Accepts.minLength_le {p : Pattern} {t : List Char} (h : Accepts p t) :
    p.minLength ≤ t.length := by
  induction h with
  | empty | textStart | lineStart | set | without | done | once => simp [minLength]
  | seq _ _ ihp ihq =>
    rw [minLength, List.length_append]
    omega
  | altLeft _ ih | altRight _ ih => rw [minLength]; omega
  | again => simp [minLength]
  | group _ ih => exact ih

lemma Accepts.mayStart {p : Pattern} {t u : List Char} {c : Char} (h : Accepts p t)
    (ht : t = c :: u) : p.mayStart c := by
  induction h generalizing u with
  | empty | textStart | lineStart | without | done => cases ht
  | set h =>
    cases ht
    exact h
  | @seq p q t₁ t₂ hp hq ihp ihq =>
    simp only [Pattern.mayStart, Bool.or_eq_true, Bool.and_eq_true, beq_iff_eq]
    rcases t₁ with _ | ⟨d, t₁⟩
    · exact .inr ⟨Nat.le_zero.mp hp.minLength_le, ihq ht⟩
    · simp only [List.cons_append, List.cons.injEq] at ht
      exact .inl (ihp (by rw [ht.1]))
  | altLeft _ ih => simp [Pattern.mayStart, ih ht]
  | altRight _ ih => simp [Pattern.mayStart, ih ht]
  | once _ ih | group _ ih => exact ih ht
  | @again lazily p t₁ t₂ hp hq ihp ihq =>
    rcases t₁ with _ | ⟨d, t₁⟩
    · exact ihq ht
    · simp only [List.cons_append, List.cons.injEq] at ht
      exact ihp (by rw [ht.1])

lemma Accepts.not_mem {p : Pattern} {t : List Char} {c : Char} (h : Accepts p t)
    (hc : p.avoids c) : c ∉ t := by
  induction h with
  | empty | textStart | lineStart | without | done => simp
  | set h =>
    rw [List.mem_singleton]
    rintro rfl
    simp [avoids, h] at hc
  | seq _ _ ihp ihq =>
    simp only [avoids, Bool.and_eq_true] at hc
    simp [ihp hc.1, ihq hc.2]
  | altLeft _ ih =>
    simp only [avoids, Bool.and_eq_true] at hc
    exact ih hc.1
  | altRight _ ih =>
    simp only [avoids, Bool.and_eq_true] at hc
    exact ih hc.2
  | once _ ih | group _ ih => exact ih hc
  | again _ _ ihp ihq => simp [ihp hc, ihq hc]

/-- A match is at least as long as the shortest text of the pattern, and not longer than the text
ahead. -/
theorem length_of_match? {p : Pattern} {cs : List Char} {m : Match} (h : p.match? cs = some m) :
    p.minLength ≤ m.length ∧ m.length ≤ cs.length := by
  obtain ⟨t, rest, rfl, hl, -, ha⟩ := accepts_of_match? h
  rw [hl, List.length_append]
  exact ⟨ha.minLength_le, Nat.le_add_right _ _⟩

/-- A pattern that takes something does not match where nothing is left. -/
theorem match?_nil {p : Pattern} (h : 0 < p.minLength) : p.match? [] = none := by
  rcases hm : p.match? [] with _ | m
  · rfl
  · have := length_of_match? hm
    simp only [List.length_nil] at this
    omega

/-- A pattern that takes something does not match where the first character is not one of its own. -/
theorem match?_eq_none_of_start {p : Pattern} {c : Char} {cs : List Char} (hp : 0 < p.minLength)
    (hc : p.mayStart c = false) : p.match? (c :: cs) = none := by
  apply match?_eq_none
  rintro (_ | ⟨d, t⟩) rest ht ha
  · exact absurd ha.minLength_le (by simp only [List.length_nil]; omega)
  · cases ht
    rw [ha.mayStart rfl] at hc
    cases hc

end Pattern

end HeaderBind
