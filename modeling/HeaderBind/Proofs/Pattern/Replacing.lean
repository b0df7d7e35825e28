import HeaderBind.Pattern.Template
import HeaderBind.Proofs.Pattern.Matching

/-!
# Replacing what a pattern matches

A replacement goes through a text from left to right. Where the pattern matches, the text that it matched gives
way to another, and all other characters are kept (`Edits`). What gives way to what is said apart from patterns
(`Swap`), and a pattern is tied to it once (`Tells`). A text that carries its replacements already (`Carries`) is
not changed by another one.
-/

namespace HeaderBind

namespace Pattern

/-! ### Edits -/

/-- What gives way to what, in front of some rest. -/
abbrev Swap := List Char → List Char → List Char → Prop

variable {S S' : Swap} {K K' : List Char → Prop} {c d o : Char} {cs ds old new rest u x y : List Char}

/-- One text comes from another by swaps, and characters outside of them are kept where that is allowed. -/
inductive Edits (S : Swap) (K : List Char → Prop) : List Char → List Char → Prop where
  | nil : Edits S K [] []
  | keep {c : Char} {cs ds : List Char} (hk : K (c :: cs)) (h : Edits S K cs ds) : Edits S K (c :: cs) (c :: ds)
  | swap {old new rest ds : List Char} (hs : S old new rest) (h : Edits S K rest ds) :
      Edits S K (old ++ rest) (new ++ ds)

/-- Nothing gives way at the start of a text. -/
def Untouched (S : Swap) (cs : List Char) : Prop :=
  ∀ old new rest, cs = old ++ rest → ¬ S old new rest

/-- What gives way at the start of a text gives way to itself. -/
def CarriesAt (S : Swap) (cs : List Char) : Prop :=
  ∀ old new rest, cs = old ++ rest → S old new rest → new = old

/-- Whatever gives way anywhere in a text gives way to itself. -/
def Carries (S : Swap) (cs : List Char) : Prop :=
  ∀ x, x <:+ cs → CarriesAt S x

lemma Untouched.carriesAt (h : Untouched S cs) : CarriesAt S cs :=
  fun old new rest hcs hs => absurd hs (h old new rest hcs)

lemma Carries.of_suffix (h : Carries S cs) (hx : x <:+ cs) : Carries S x :=
  fun y hy => h y (hy.trans hx)

/-- A text that carries its swaps stays the same. -/
lemma Edits.eq_of_carries (h : Edits S K cs ds) (hc : Carries S cs) : ds = cs := by
  induction h with
  | nil => rfl
  | @keep c cs ds _ _ ih => rw [ih (hc.of_suffix (List.suffix_cons c cs))]
  | @swap old new rest ds hs _ ih =>
    have hnew : new = old := hc _ List.suffix_rfl old new rest rfl hs
    rw [ih (hc.of_suffix (List.suffix_append old rest)), hnew]

lemma Edits.append (h : Edits S (fun _ => True) cs ds) (u : List Char) :
    Edits S (fun _ => True) (u ++ cs) (u ++ ds) := by
  induction u with
  | nil => exact h
  | cons c u ih => exact .keep trivial ih

/-! ### Swaps that open with a character -/

/-- What gives way opens with a character, and so does what it gives way to. -/
def Opens (o : Char) (S : Swap) : Prop :=
  ∀ old new rest, S old new rest → old.head? = some o ∧ new.head? = some o

lemma untouched_of_head? (ho : Opens o S) (h : cs.head? ≠ some o) : Untouched S cs := by
  intro old new rest hcs hs
  rw [hcs, List.head?_append, (ho old new rest hs).1, Option.some_or] at h
  exact h rfl

lemma Edits.head?_eq (h : Edits S K cs ds) (ho : Opens o S) : ds.head? = cs.head? := by
  cases h with
  | nil => rfl
  | keep => rfl
  | swap hs _ =>
    obtain ⟨hold, hnew⟩ := ho _ _ _ hs
    rw [List.head?_append, List.head?_append, hold, hnew, Option.some_or, Option.some_or]

/-- A character that opens no swap is kept. -/
lemma Edits.exists_tails (h : Edits S K cs ds) (ho : Opens o S) (hc : cs.head? = some c) (hne : c ≠ o) :
    ∃ x y, cs = c :: x ∧ ds = c :: y ∧ Edits S K x y := by
  cases h with
  | nil => cases hc
  | keep _ h =>
    cases hc
    exact ⟨_, _, rfl, rfl, h⟩
  | swap hs _ =>
    rw [List.head?_append, (ho _ _ _ hs).1, Option.some_or, Option.some.injEq] at hc
    exact absurd hc.symm hne

/-- Up to the first character that may open a swap, both texts are the same. -/
lemma Edits.exists_source (h : Edits S K cs (u ++ y)) (ho : Opens o S) (hu : o ∉ u) :
    ∃ x, cs = u ++ x ∧ Edits S K x y := by
  induction u generalizing cs with
  | nil => exact ⟨cs, rfl, h⟩
  | cons c u ih =>
    rw [List.mem_cons, not_or] at hu
    obtain ⟨x, z, rfl, heq, hxz⟩ := h.exists_tails ho (h.head?_eq ho).symm (Ne.symm hu.1)
    cases heq
    obtain ⟨x, rfl, hx⟩ := ih hxz hu.2
    exact ⟨x, rfl, hx⟩

lemma Edits.exists_target (h : Edits S K (u ++ x) ds) (ho : Opens o S) (hu : o ∉ u) :
    ∃ y, ds = u ++ y ∧ Edits S K x y := by
  induction u generalizing ds with
  | nil => exact ⟨ds, rfl, h⟩
  | cons c u ih =>
    rw [List.mem_cons, not_or] at hu
    obtain ⟨z, y, heq, rfl, hzy⟩ := h.exists_tails ho rfl (Ne.symm hu.1)
    cases heq
    obtain ⟨y, rfl, hy⟩ := ih hzy hu.2
    exact ⟨y, rfl, hy⟩

/-- A character that no swap brings in comes from the text before. -/
lemma Edits.mem_of_mem (h : Edits S K cs ds) (hs : ∀ old new rest, S old new rest → d ∈ new → d ∈ old)
    (hd : d ∈ ds) : d ∈ cs := by
  induction h with
  | nil => exact hd
  | keep _ _ ih =>
    rw [List.mem_cons] at hd ⊢
    exact hd.imp_right ih
  | swap h _ ih =>
    rw [List.mem_append] at hd ⊢
    exact hd.imp (hs _ _ _ h) ih

/-! ### What edits lead to -/

lemma Carries.cons (h : Carries S cs) (hc : CarriesAt S (c :: cs)) : Carries S (c :: cs) := by
  intro x hx
  rcases List.suffix_cons_iff.mp hx with rfl | hx
  · exact hc
  · exact h x hx

lemma Carries.append (h : Carries S cs) (hu : ∀ x, x <:+ u → x ≠ [] → CarriesAt S (x ++ cs)) :
    Carries S (u ++ cs) := by
  induction u with
  | nil => exact h
  | cons c u ih =>
    have hrest := ih fun x hx => hu x (hx.trans (List.suffix_cons c u))
    exact hrest.cons (hu (c :: u) List.suffix_rfl (List.cons_ne_nil c u))

/-- Edits that are made wherever something gives way lead to a text that carries them, if keeping a character
brings nothing out and what is put in carries itself. -/
lemma Edits.carries (h : Edits S (Untouched S) cs ds) (ho : Opens o S)
    (hkeep : ∀ c cs ds, Untouched S (c :: cs) → Edits S (Untouched S) cs ds → Untouched S (c :: ds))
    (hswap : ∀ old new rest ds, S old new rest → Edits S (Untouched S) rest ds →
      ∀ x, x <:+ new → x ≠ [] → CarriesAt S (x ++ ds)) : Carries S ds := by
  induction h with
  | nil =>
    intro x hx
    rw [List.suffix_nil.mp hx]
    exact (untouched_of_head? ho (by simp)).carriesAt
  | keep hk h ih => exact ih.cons (hkeep _ _ _ hk h).carriesAt
  | swap hs h ih => exact ih.append (hswap _ _ _ _ hs h)

/-! ### Patterns and swaps -/

/-- A pattern matches what gives way, and what is made of the match is what it gives way to. -/
structure Tells (p : Pattern) (f : Match → List Char) (S : Swap) : Prop where
  ne_nil : ∀ {old new rest}, S old new rest → old ≠ []
  matched : ∀ {k : Cursor} {old new rest}, k.rest = old ++ rest → S old new rest →
    ∃ m, p.matchFrom k = some m ∧ m.length = old.length ∧ f m = new
  found : ∀ {k : Cursor} {m}, p.matchFrom k = some m → ∃ old new rest, k.rest = old ++ rest ∧ S old new rest

variable {p : Pattern} {f : Match → List Char} {k : Cursor} {m : Match}

lemma Tells.untouched (h : Tells p f S) (hm : p.matchFrom k = none) : Untouched S k.rest := by
  intro old new rest hk hs
  obtain ⟨m, hm', -⟩ := h.matched hk hs
  rw [hm] at hm'
  cases hm'

lemma Tells.exists_swap (h : Tells p f S) (hm : p.matchFrom k = some m) :
    ∃ old rest, k.rest = old ++ rest ∧ m.length = old.length ∧ S old (f m) rest := by
  obtain ⟨old, new, rest, hk, hs⟩ := h.found hm
  obtain ⟨m', hm', hlength, rfl⟩ := h.matched hk hs
  obtain rfl : m = m' := Option.some.inj (hm.symm.trans hm')
  exact ⟨old, rest, hk, hlength, hs⟩

/-- What a pattern matches gives way to what is made of the match. -/
def Replaced (p : Pattern) (f : Match → List Char) : Swap := fun old new rest =>
  ∃ k m, k.rest = old ++ rest ∧ p.matchFrom k = some m ∧ m.length = old.length ∧ f m = new

lemma Tells.replaced_eq (h : Tells p f S) : Replaced p f = S := by
  ext old new rest
  constructor
  · rintro ⟨k, m, hk, hm, hlength, rfl⟩
    obtain ⟨old', rest', hk', hlength', hs⟩ := h.exists_swap hm
    obtain ⟨rfl, rfl⟩ := List.append_inj (hk.symm.trans hk') (hlength.symm.trans hlength')
    exact hs
  · intro hs
    obtain ⟨m, hm, hlength, hf⟩ := h.matched (k := { rest := old ++ rest }) rfl hs
    exact ⟨_, m, rfl, hm, hlength, hf⟩

lemma matchFrom_of_run {e : Cursor} (h : p.run { k with groups := [] } some = some e) :
    p.matchFrom k = some ⟨⟨k.rest, e.pos - k.pos⟩, e.groups⟩ := by
  simp only [matchFrom, matchAt, h, Option.map_some]

lemma holds_noneOf : CharSet.holds ⟨true, [.range d d]⟩ c ↔ c ≠ d := by
  simp only [CharSet.holds, CharSet.Item.holds, List.any_cons, List.any_nil, Bool.or_false, bne_iff_ne, ne_eq,
    Bool.not_eq_true, Bool.and_eq_false_iff, decide_eq_false_iff_not]
  rw [← Char.toNat_inj]
  omega

lemma forall_holds_noneOf (h : d ∉ u) : ∀ c ∈ u, CharSet.holds ⟨true, [.range d d]⟩ c :=
  fun _ hc => holds_noneOf.mpr fun heq => h (heq ▸ hc)

lemma stops_noneOf (h : ∀ c ∈ rest.head?, c = d) : Stops ⟨true, [.range d d]⟩ rest := by
  intro c hc
  rw [← Bool.not_eq_true, holds_noneOf, not_not]
  exact h c hc

lemma accepts_noneOf (h : Accepts (plus (noneOf [d])) u) : u ≠ [] ∧ d ∉ u := by
  obtain ⟨hne, hholds⟩ := holds_of_accepts_plus h
  exact ⟨hne, fun hmem => holds_noneOf.mp (hholds d hmem) rfl⟩

/-! ### Replacing -/

lemma exists_replaceFrom_skip (p : Pattern) (f : Match → List Char) (k : Cursor) (t rest : List Char) :
    ∃ k', p.replaceFrom f t.length k (t ++ rest) = p.replaceFrom f 0 k' rest := by
  induction t generalizing k with
  | nil => exact ⟨k, rfl⟩
  | cons c t ih => exact ih (k.next c (t ++ rest))

theorem Tells.edits (h : Tells p f S) (k : Cursor) (cs : List Char) :
    Edits S (Untouched S) cs (p.replaceFrom f 0 k cs) := by
  cases cs with
  | nil =>
    rw [replaceFrom]
    split
    next m hm =>
      obtain ⟨old, rest, hk, -, hs⟩ := h.exists_swap hm
      exact absurd (List.append_eq_nil_iff.mp hk.symm).1 (h.ne_nil hs)
    next => exact .nil
  | cons c cs =>
    rw [replaceFrom]
    split
    next hm => exact .keep (h.untouched hm) (h.edits _ cs)
    next m hm =>
      obtain ⟨old, rest, hk, hlength, hs⟩ := h.exists_swap hm
      obtain ⟨c', t, rfl⟩ := List.exists_cons_of_ne_nil (h.ne_nil hs)
      have hcs : cs = t ++ rest := (List.cons.inj hk).2
      obtain rfl : c = c' := (List.cons.inj hk).1
      subst hcs
      obtain ⟨k', hk'⟩ := exists_replaceFrom_skip p f (Cursor.next { k with rest := c :: (t ++ rest) } c (t ++ rest)) t rest
      rw [hlength, List.length_cons, if_neg (by simp), Nat.add_sub_cancel, hk']
      exact .swap hs (h.edits k' rest)
termination_by cs.length

end Pattern

/-! ### Reading replacements -/

namespace Template

/-- A replacement in which every character stands for itself. -/
def plain (cs : List Char) : Template :=
  cs.map fun c => .fixed [c]

lemma expand_plain (cs : List Char) (m : Match) : (plain cs).expand m = cs := by
  simp [plain, expand, List.flatMap_map, Piece.expand]

lemma readFrom_plain {cs : List Char} (groups : Nat) (h : '\\' ∉ cs) : readFrom groups 0 cs = .ok (plain cs) := by
  induction cs with
  | nil => rfl
  | cons c cs ih =>
    rw [List.mem_cons, not_or] at h
    rw [readFrom, if_neg (by simpa using Ne.symm h.1), ih h.2]
    rfl

lemma readFrom_escape {groups length : Nat} {piece : Piece} {cs : List Char}
    (h : escape groups cs = .ok (piece, length)) :
    readFrom groups 0 ('\\' :: cs) = (readFrom groups length cs).map (piece :: ·) := by
  rw [readFrom, if_pos (by decide), h]
  cases hread : readFrom groups length cs <;> simp only [bind, Except.bind, hread] <;> rfl

end Template

end HeaderBind
