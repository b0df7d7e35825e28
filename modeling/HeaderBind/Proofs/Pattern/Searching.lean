import HeaderBind.Proofs.Pattern.Replacing

/-!
# Searching for a pattern

A search goes through a text from left to right and stops where the pattern matches. What a text says at its start is
said apart from patterns, and a pattern is tied to it once (`Reads`). What a search finds is then what the text says
first (`Reads.search?_iff`).
-/

namespace HeaderBind.Pattern

variable {α : Type} {S : List Char → α → Prop} {p : Pattern} {f : Match → α} {k : Cursor} {a : α} {cs : List Char}

/-- What a text says first: at its start, or else further on. -/
inductive First (S : List Char → α → Prop) : List Char → α → Prop where
  | here {cs : List Char} {a : α} (h : S cs a) : First S cs a
  | later {c : Char} {cs : List Char} {a : α} (hc : ∀ a, ¬ S (c :: cs) a) (h : First S cs a) : First S (c :: cs) a

/-- A pattern matches where a text says something at its start, and what is made of the match is what it says. -/
structure Reads (p : Pattern) (f : Match → α) (S : List Char → α → Prop) : Prop where
  matched : ∀ {k : Cursor} {a}, S k.rest a → ∃ m, p.matchFrom k = some m ∧ f m = a
  found : ∀ {k : Cursor} {m}, p.matchFrom k = some m → ∃ a, S k.rest a

lemma Reads.matchFrom_iff (h : Reads p f S) : (p.matchFrom k).map f = some a ↔ S k.rest a := by
  rw [Option.map_eq_some_iff]
  constructor
  · rintro ⟨m, hm, rfl⟩
    obtain ⟨a, ha⟩ := h.found hm
    obtain ⟨m', hm', rfl⟩ := h.matched ha
    obtain rfl : m = m' := Option.some.inj (hm.symm.trans hm')
    exact ha
  · intro ha
    exact h.matched ha

lemma Reads.searchFrom_iff (h : Reads p f S) : (p.searchFrom k cs).map f = some a ↔ First S cs a := by
  induction cs generalizing k with
  | nil =>
    rw [searchFrom, h.matchFrom_iff]
    constructor
    · intro ha
      exact .here ha
    · rintro ⟨ha⟩
      exact ha
  | cons c cs ih =>
    rw [searchFrom]
    cases hm : p.matchFrom { k with rest := c :: cs } with
    | some m =>
      have hsays : S (c :: cs) (f m) := h.matchFrom_iff.1 (by rw [hm, Option.map_some])
      have hunique : ∀ a, S (c :: cs) a ↔ f m = a := by
        intro a
        rw [← h.matchFrom_iff (k := { k with rest := c :: cs }), hm, Option.map_some, Option.some.injEq]
      simp only [Option.orElse_some, Option.map_some, Option.some.injEq]
      constructor
      · rintro rfl
        exact .here hsays
      · intro hfirst
        cases hfirst with
        | here ha => exact (hunique a).1 ha
        | later hc => exact absurd hsays (hc _)
    | none =>
      have hnone : ∀ a, ¬ S (c :: cs) a := by
        intro a ha
        obtain ⟨m, hm', -⟩ := h.matched (k := { k with rest := c :: cs }) ha
        rw [hm] at hm'
        cases hm'
      simp only [Option.orElse_none, ih]
      constructor
      · intro hfirst
        exact .later hnone hfirst
      · intro hfirst
        cases hfirst with
        | here ha => exact absurd ha (hnone a)
        | later _ hfirst => exact hfirst

/-- A search finds what the text says first. -/
lemma Reads.search?_iff (h : Reads p f S) {s : String} : (p.search? s).map f = some a ↔ First S s.toList a :=
  h.searchFrom_iff

/-- What is remembered of a match that a run comes to. -/
lemma exists_matchFrom {gs : List (Nat × List Char)}
    (h : Reaches (p.run { k with groups := [] } some) fun e => e.groups.map (fun g => (g.1, g.2.chars)) = gs) :
    ∃ m, p.matchFrom k = some m ∧ ∀ n, m.group n = ((gs.lookup n).map String.ofList).getD "" := by
  obtain ⟨e, he, rfl⟩ := h
  refine ⟨_, matchFrom_of_run he, ?_⟩
  intro n
  rw [Match.group, group?_eq_lookup]

end HeaderBind.Pattern
