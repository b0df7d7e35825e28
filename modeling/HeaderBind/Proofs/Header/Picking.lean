import HeaderBind.Proofs.Header.Canonical
import HeaderBind.Proofs.Header.Progress
import HeaderBind.Proofs.Pattern.Matching
import HeaderBind.Proofs.Text.Blank

/-!
# The rules that canonical headers pick

The rules for headers overlap, and some of them reach over a line end. On a header in canonical form
each of them is told apart by the state and the first character of the text ahead (`pick_cons`) and by
what may stand behind it. For every part of a canonical header it is shown here which rule is picked,
what it takes off the text, and what its groups match.
-/

namespace HeaderBind

/-! ### Properties of the characters of a text -/

namespace Text

variable {P : Char → Prop} [DecidablePred P]

/-- Properties of all characters of a text are decided by going through the text. -/
instance decidableForallMem (cs : List Char) : Decidable (∀ c ∈ cs, P c) :=
  List.decidableBAll P cs

instance decidableExistsMem (cs : List Char) : Decidable (∃ c ∈ cs, P c) :=
  List.decidableBEx P cs

instance decidableForallMemOption : (o : Option Char) → Decidable (∀ c ∈ o, P c)
  | none => isTrue nofun
  | some c => decidable_of_iff (P c) (by simp)

end Text

/-! ### Sets of characters and words -/

namespace Pattern

variable {s : CharSet} {c : Char}

/-- A set has all characters of words. -/
def HasWords (s : CharSet) : Prop :=
  ∀ n < 128, wordSet.holds (Char.ofNat n) → s.holds (Char.ofNat n) = true

/-- A set has no characters of words. -/
def LacksWords (s : CharSet) : Prop :=
  ∀ n < 128, wordSet.holds (Char.ofNat n) → s.holds (Char.ofNat n) = false

/-- A set has the characters of words and the space that stands between them, but no star. -/
def HasTypes (s : CharSet) : Prop :=
  HasWords s ∧ s.holds ' ' = true ∧ s.holds '*' = false

instance : Decidable (HasWords s) :=
  Nat.decidableBallLT _ _

instance : Decidable (LacksWords s) :=
  Nat.decidableBallLT _ _

instance : Decidable (HasTypes s) :=
  inferInstanceAs (Decidable (_ ∧ _))

/-- A set made of more ranges has more characters. -/
lemma holds_within_of_subset {ranges more : List (Char × Char)} (h : ranges ⊆ more)
    (hc : (Header.Table.within ranges).holds c) : (Header.Table.within more).holds c := by
  simp only [Header.Table.within, CharSet.holds, Bool.bne_false, List.any_map, List.any_eq_true] at hc ⊢
  obtain ⟨r, hr, hc⟩ := hc
  exact ⟨r, h hr, hc⟩

lemma word_of_within {ranges : List (Char × Char)}
    (h : ranges ⊆ [('A', 'Z'), ('_', '_'), ('a', 'z'), ('0', '9')]) (hc : (Header.Table.within ranges).holds c) :
    wordSet.holds c := by
  have hword := holds_within_of_subset h hc
  exact hword

lemma hasWords_within {ranges : List (Char × Char)}
    (h : [('A', 'Z'), ('_', '_'), ('a', 'z'), ('0', '9')] ⊆ ranges) : HasWords (Header.Table.within ranges) :=
  fun _ _ hn => holds_within_of_subset h hn

lemma hasTypes_within {ranges : List (Char × Char)}
    (h : [('A', 'Z'), ('_', '_'), ('a', 'z'), ('0', '9'), (' ', ' ')] ⊆ ranges)
    (hstar : (Header.Table.within ranges).holds '*' = false) : HasTypes (Header.Table.within ranges) :=
  ⟨hasWords_within fun r hr => h (List.mem_append_left [(' ', ' ')] hr),
    holds_within_of_subset h (by decide), hstar⟩

lemma lacksWords_blank : LacksWords ⟨false, [.blank]⟩ := by
  decide +kernel

lemma lacksWords_single (hc : wordSet.holds c = false) : LacksWords (.single c) := by
  intro n _ hn
  rw [← Bool.not_eq_true, holds_single]
  rintro rfl
  rw [hn] at hc
  cases hc

lemma toNat_lt_of_word (hc : wordSet.holds c) : c.toNat < 128 := by
  have hlast : 'Z'.toNat = 90 ∧ '_'.toNat = 95 ∧ 'z'.toNat = 122 ∧ '9'.toNat = 57 := by decide
  simp only [wordSet, CharSet.holds, CharSet.Item.holds, List.any_cons, List.any_nil,
    Bool.or_false, bne_iff_ne, ne_eq, Bool.not_eq_false, Bool.or_eq_true, Bool.and_eq_true,
    decide_eq_true_eq] at hc
  omega

/-- What holds of all characters of words can be checked for each of them. -/
lemma forall_word {P : Char → Prop} (h : ∀ n < 128, wordSet.holds (Char.ofNat n) → P (Char.ofNat n))
    (hc : wordSet.holds c) : P c := by
  have hchar := h c.toNat (toNat_lt_of_word hc)
  rw [Char.ofNat_toNat] at hchar
  exact hchar hc

lemma lacks_of_word (hs : LacksWords s) (hc : wordSet.holds c) : s.holds c = false :=
  forall_word (P := fun c => s.holds c = false) hs hc

lemma isBlank_of_word (hc : wordSet.holds c) : Text.isBlank c = false := by
  simpa [CharSet.holds, CharSet.Item.holds] using lacks_of_word lacksWords_blank hc

end Pattern

namespace Canonical

open Pattern

variable {s : CharSet} {k e : Cursor} {onward : Onward} {rest after : List Char} {most : Nat}

lemma Identifier.holds (hs : HasWords s) (i : Identifier) : ∀ c ∈ i.chars, s.holds c :=
  fun c hc => forall_word (P := fun c => s.holds c = true) hs (i.isWord c hc)

lemma Identifier.lacks (hs : LacksWords s) (i : Identifier) : ∀ c ∈ i.chars, s.holds c = false :=
  fun c hc => lacks_of_word hs (i.isWord c hc)

lemma Identifier.stops (hs : LacksWords s) (i : Identifier) (rest : List Char) :
    Stops s (i.chars ++ rest) := by
  obtain ⟨c, cs, hcs⟩ := List.exists_cons_of_ne_nil i.ne_nil
  have hc := i.lacks hs c (by rw [hcs]; exact List.mem_cons_self)
  rw [hcs]
  exact stops_cons hc

lemma TypeName.words_ne_nil (t : TypeName most) : t.words ≠ [] := by
  simp [words, t.first.ne_nil]

lemma TypeName.holds (hs : HasTypes s) (t : TypeName most) : ∀ c ∈ t.words, s.holds c := by
  intro c hc
  rw [words, List.mem_append, List.mem_flatMap] at hc
  rcases hc with hc | ⟨w, -, hc⟩
  · exact t.first.holds hs.1 c hc
  · rcases List.mem_cons.mp hc with rfl | hc
    · exact hs.2.1
    · exact w.holds hs.1 c hc

lemma TypeName.stops (hs : LacksWords s) (t : TypeName most) (rest : List Char) :
    Stops s (t.chars ++ rest) := by
  rw [chars, words, List.append_assoc, List.append_assoc]
  exact t.first.stops hs _

lemma Value.stops (v : Value) (rest : List Char) : Stops ⟨false, [.blank]⟩ (v.chars ++ rest) := by
  obtain ⟨c, cs, hcs⟩ := List.exists_cons_of_ne_nil v.ne_nil
  have hc := v.head_not_blank c (by rw [hcs]; rfl)
  rw [hcs]
  exact stops_cons (by simp [CharSet.holds, CharSet.Item.holds, hc])

lemma Field.holds (hs : HasWords s) (hspace : s.holds ' ' = true) (hstar : s.holds '*' = true) (f : Field) :
    ∀ c ∈ f.chars, s.holds c := by
  intro c hc
  simp only [chars, TypeName.chars, TypeName.words, List.mem_append, List.mem_cons, List.mem_flatMap,
    List.mem_replicate] at hc
  rcases hc with ((hc | ⟨w, -, rfl | hc⟩) | rfl | ⟨-, rfl⟩) | hc
  · exact f.type.first.holds hs c hc
  · exact hspace
  · exact w.holds hs c hc
  · exact hspace
  · exact hstar
  · exact f.name.holds hs c hc

/-- A type starts with its first word, and a space comes behind that. -/
lemma TypeName.exists_chars (t : TypeName most) : ∃ cs, t.chars = t.first.chars ++ ' ' :: cs := by
  rw [chars, words, List.append_assoc]
  cases t.more with
  | nil => exact ⟨_, rfl⟩
  | cons w ws => exact ⟨_, rfl⟩

/-- A plain type does not start with a modifier, whatever comes behind it. -/
lemma TypeName.IsPlain.not_modifier {t : TypeName most} (ht : t.IsPlain) {w : List Char}
    (hw : w ∈ modifiers) (rest : List Char) : ¬ w <+: t.chars ++ rest := by
  have hmodifiers : ∀ w ∈ modifiers, ' ' ∉ w := by decide
  have hspace := hmodifiers w hw
  intro hprefix
  obtain ⟨cs, hcs⟩ := t.exists_chars
  rw [hcs, List.append_assoc, List.cons_append] at hprefix
  rcases List.prefix_or_prefix_of_prefix hprefix (List.prefix_append t.first.chars _) with h | ⟨u, hu⟩
  · exact ht w hw h
  · rw [← hu, List.prefix_append_right_inj] at hprefix
    cases u with
    | nil => exact ht w hw ⟨[], by rw [← hu, List.append_nil, List.append_nil]⟩
    | cons c u =>
      obtain ⟨rfl, -⟩ := List.cons_prefix_cons.mp hprefix
      exact hspace (by rw [← hu]; simp)

/-! ### Running over words and types -/

lemma run_identifier (i : Identifier) (hk : k.rest = i.chars ++ rest) (hs : HasWords s)
    (hrest : Stops s rest) (h : onward (k.past i.chars rest) = some e) :
    (plus (set s)).run k onward = some e :=
  run_plus hk i.ne_nil (i.holds hs) hrest h

/-- A run over the words of a type also takes the space behind them and the name that follows, and
gives them back. -/
lemma run_words {p : Pattern} {onward : Cursor → Onward} (hs : HasTypes s) (t : TypeName most)
    {v : List Char} (hk : k.rest = t.words ++ ' ' :: (v ++ rest)) (hv : ∀ c ∈ v, s.holds c)
    (hrest : Stops s rest) (hp : 0 < p.minLength) (hpv : ∀ c ∈ v, p.mayStart c = false)
    (hpr : ∀ c ∈ rest.head?, p.mayStart c = false)
    (h : p.run (k.past t.words (' ' :: (v ++ rest)))
      (onward (k.past t.words (' ' :: (v ++ rest)))) = some e) :
    (plus (set s)).run k (fun k' => p.run k' (onward k')) = some e := by
  refine run_plus_before hk t.words_ne_nil ?_ hrest hp hpv hpr h
  intro c hc
  rw [List.mem_append, List.mem_cons] at hc
  rcases hc with hc | rfl | hc
  · exact t.holds hs c hc
  · exact hs.2.1
  · exact hv c hc

/-- A type is taken up to its last word, with the space behind it. -/
lemma run_unstarred (hs : HasTypes s) (t : TypeName most) (w : Identifier) (hafter : Stops s after)
    (hblank : Stops ⟨false, [.blank]⟩ after)
    (hk : k.rest = t.words ++ ' ' :: (List.replicate t.stars '*' ++ (w.chars ++ after)))
    (h : onward (k.past (t.words ++ [' ']) (List.replicate t.stars '*' ++ (w.chars ++ after))) =
      some e) :
    (plus (set s)).run k (fun k' => (plus blank).run k' onward) = some e := by
  rw [← Cursor.past_past k t.words [' '] (' ' :: (List.replicate t.stars '*' ++ (w.chars ++ after)))]
    at h
  have hmay : ∀ c, (plus blank).mayStart c = CharSet.holds ⟨false, [.blank]⟩ c := mayStart_plus _
  cases hstars : t.stars with
  | zero =>
    rw [hstars, List.replicate_zero, List.nil_append] at hk h
    refine run_words hs t hk (w.holds hs.1) hafter (by decide) ?_ ?_ ?_
    · exact fun c hc => (hmay c).trans (w.lacks lacksWords_blank c hc)
    · exact fun c hc => (hmay c).trans (hblank c hc)
    · exact run_space rfl (w.stops lacksWords_blank after) h
  | succ n =>
    rw [hstars, List.replicate_succ, List.cons_append] at hk h
    refine run_words (v := []) hs t hk (by simp) (stops_cons hs.2.2) (by decide) (by simp) ?_ ?_
    · rintro _ ⟨⟩
      exact hmay '*'
    · exact run_space rfl (stops_cons (by decide)) h

lemma run_star_optional {n : Nat} (hn : n ≤ 1) (w : Identifier)
    (hk : k.rest = List.replicate n '*' ++ (w.chars ++ rest))
    (h : onward (k.past (List.replicate n '*') (w.chars ++ rest)) = some e) :
    (maybe false (char '*')).run k onward = some e := by
  cases n with
  | zero =>
    rw [List.replicate_zero, List.nil_append] at hk
    rw [List.replicate_zero, ← hk, Cursor.past_nil] at h
    refine run_optional_char_of_ne (fun d hd => ?_) h
    rw [hk] at hd
    have hstar := w.stops (lacksWords_single (c := '*') (by decide)) rest d hd
    rintro rfl
    rw [holds_single.mpr rfl] at hstar
    cases hstar
  | succ n =>
    obtain rfl : n = 0 := by omega
    exact run_optional_char hk h

/-- A type with its star. -/
lemma run_type (hs : HasTypes s) (t : TypeName 1) (w : Identifier) (hafter : Stops s after)
    (hblank : Stops ⟨false, [.blank]⟩ after) (hk : k.rest = t.chars ++ (w.chars ++ after))
    (h : onward (k.past t.chars (w.chars ++ after)) = some e) :
    (plus (set s)).run k (fun k' => (plus blank).run k' fun k' =>
      (maybe false (char '*')).run k' onward) = some e := by
  rw [TypeName.chars, List.append_assoc, List.cons_append] at hk
  refine run_unstarred hs t w hafter hblank hk (run_star_optional t.stars_le w rfl ?_)
  rw [Cursor.past_past, List.append_assoc]
  exact h

/-- The type of an argument with its stars. -/
lemma run_argumentType (hs : HasTypes s) (t : TypeName 2) (w : Identifier) (hafter : Stops s after)
    (hblank : Stops ⟨false, [.blank]⟩ after) (hk : k.rest = t.chars ++ (w.chars ++ after))
    (h : onward (k.past t.chars (w.chars ++ after)) = some e) :
    (plus (set s)).run k (fun k' => (plus blank).run k' fun k' =>
      (maybe false (char '*')).run k' fun k' => (maybe false (char '*')).run k' onward) = some e := by
  rw [TypeName.chars, List.append_assoc, List.cons_append] at hk
  refine run_unstarred hs t w hafter hblank hk ?_
  have hle := t.stars_le
  have hwhole : k.past t.chars (w.chars ++ after) =
      (k.past (t.words ++ [' ']) (List.replicate t.stars '*' ++ (w.chars ++ after))).past
        (List.replicate t.stars '*') (w.chars ++ after) := by
    rw [Cursor.past_past, TypeName.chars, List.append_assoc]
    rfl
  rw [hwhole] at h
  generalize t.stars = n at h hle
  cases n with
  | zero =>
    refine run_star_optional (Nat.zero_le 1) w rfl ?_
    refine run_star_optional (Nat.zero_le 1) w rfl ?_
    rwa [Cursor.past_past]
  | succ n =>
    refine run_optional_char rfl ?_
    refine run_star_optional (by omega) w rfl ?_
    rwa [Cursor.past_past _ ['*']]

/-- A type ends with a space, or with a space and a star. -/
lemma TypeName.chars_cases (t : TypeName 1) :
    t.chars = t.words ++ [' '] ∨ t.chars = (t.words ++ [' ']) ++ ['*'] := by
  have hle := t.stars_le
  rw [chars, List.append_assoc]
  generalize t.stars = n at hle
  rcases n with _ | n
  · exact .inl rfl
  · obtain rfl : n = 0 := by omega
    exact .inr rfl

/-- The type of a result is taken up to its last character. -/
lemma run_result {p : Pattern} {onward : Cursor → Onward} (hs : HasTypes s) (t : TypeName 1)
    {c : Char} {u v : List Char} (hchars : t.chars = u ++ [c]) (hk : k.rest = u ++ c :: (v ++ rest))
    (hv : ∀ c ∈ v, s.holds c) (hrest : Stops s rest) (hp : 0 < p.minLength)
    (hpv : ∀ c ∈ v, p.mayStart c = false) (hpr : ∀ c ∈ rest.head?, p.mayStart c = false)
    (h : p.run (k.past u (c :: (v ++ rest))) (onward (k.past u (c :: (v ++ rest)))) = some e) :
    (plus (set s)).run k (fun k' => p.run k' (onward k')) = some e := by
  rcases t.chars_cases with hcases | hcases <;> rw [hchars] at hcases
  · obtain ⟨rfl, hlast⟩ := List.append_inj' hcases rfl
    cases hlast
    exact run_words hs t hk hv hrest hp hpv hpr h
  · obtain ⟨rfl, hlast⟩ := List.append_inj' hcases rfl
    cases hlast
    refine run_plus hk (by simp) ?_ (stops_cons hs.2.2) h
    intro d hd
    rw [List.mem_append, List.mem_singleton] at hd
    rcases hd with hd | rfl
    · exact t.holds hs d hd
    · exact hs.2.1

/-! ### Arguments -/

/-- The comma in front of arguments, if there are any. -/
def comma (args : List Argument) : List Char :=
  if args.isEmpty then [] else [',']

/-- The arguments of a method behind the comma in front of them, up to the end of the method. -/
def argumentsChars : List Argument → List Char
  | [] => [')', ';', '\n']
  | a :: args => ' ' :: (a.chars ++ (comma args ++ argumentsChars args))

lemma comma_append_argumentsChars (args : List Argument) :
    comma args ++ argumentsChars args =
      (args.flatMap fun a => [',', ' '] ++ a.chars) ++ [')', ';', '\n'] := by
  induction args with
  | nil => rfl
  | cons a args ih =>
    rw [List.flatMap_cons, List.append_assoc, ← ih]
    simp [comma, argumentsChars]

lemma stops_comma (hcomma : s.holds ',' = false) (hclose : s.holds ')' = false)
    (args : List Argument) (rest : List Char) : Stops s (comma args ++ (argumentsChars args ++ rest)) := by
  cases args with
  | nil => exact stops_cons hclose
  | cons => exact stops_cons hcomma

lemma run_comma (args : List Argument) (hk : k.rest = comma args ++ (argumentsChars args ++ rest))
    (h : onward (k.past (comma args) (argumentsChars args ++ rest)) = some e) :
    (maybe false (char ',')).run k onward = some e := by
  cases args with
  | nil =>
    have hnext : k.past (comma []) (argumentsChars [] ++ rest) = k := by
      rw [← Cursor.past_nil k, hk]
      rfl
    rw [hnext] at h
    refine run_optional_char_of_ne ?_ h
    rw [hk]
    rintro _ ⟨⟩
    decide
  | cons => exact run_optional_char hk h

end Canonical

/-! ### What rules find -/

namespace Header.Table

open Lexer Pattern Canonical

lemma holds_inLine {c : Char} {cs : List Char} (h : '\n' ∉ cs) (hc : c ∈ cs) :
    CharSet.holds ⟨true, [.range '\n' '\n']⟩ c = true := by
  have hsingle : (CharSet.single '\n').holds c = false := by
    rw [← Bool.not_eq_true]
    exact fun hholds => h (holds_single.mp hholds ▸ hc)
  rw [CharSet.holds, CharSet.single, Bool.bne_false] at hsingle
  rw [CharSet.holds, hsingle]
  rfl

lemma finds_startDefine (i : Identifier) (rest : List Char) :
    ∃ m, startDefine.pattern.Finds ['#', 'd', 'e', 'f', 'i', 'n', 'e', ' '] (i.chars ++ rest) [] m := by
  apply exists_finds
  simp only [startDefine, inState, spelled, run_inOrder_append, List.cons_append, List.nil_append]
  refine .of (fun _ => run_spelled (t := ['#', 'd', 'e', 'f', 'i', 'n', 'e']) rfl) ?_
  refine .of (fun _ => run_space rfl (i.stops lacksWords_blank rest)) ?_
  exact ⟨_, rfl, rfl, rfl⟩

lemma finds_defineConstant (i : Identifier) (value : Value) (rest : List Char) :
    ∃ m, defineConstant.pattern.Finds (i.chars ++ ' ' :: value.chars) ('\n' :: rest) [(1, i.chars)] m := by
  apply exists_finds
  simp only [List.append_assoc, List.cons_append, defineConstant, inState, run_inOrder_cons,
    run_inOrder_nil, run_group]
  refine .of (fun _ => run_identifier i rfl (hasWords_within (by simp)) (stops_cons (by decide))) ?_
  refine .of (fun _ => run_space rfl (value.stops _)) ?_
  refine .of (fun _ => run_plus rfl value.ne_nil (fun _ => holds_inLine value.in_line)
    (stops_cons (by decide))) ?_
  refine ⟨_, rfl, ?_, ?_⟩
  · simp [Cursor.past, Cursor.close]
    omega
  · simp [Cursor.past, Cursor.close, Span.chars]

lemma finds_enumValue (i : Identifier) {text : List Char} (hne : text ≠ []) (hline : '\n' ∉ text)
    (rest : List Char) :
    ∃ m, enumValue.pattern.Finds (i.chars ++ (' ' :: '=' :: text)) ('\n' :: rest) [(1, i.chars)] m := by
  apply exists_finds
  simp only [List.append_assoc, List.cons_append, enumValue, inState, run_inOrder_cons,
    run_inOrder_nil, run_group]
  refine .of (fun _ => run_identifier i rfl (hasWords_within (by simp)) (stops_cons (by decide))) ?_
  refine .of (fun _ => run_space rfl (stops_cons (by decide))) ?_
  refine .of (fun _ => run_char rfl) ?_
  refine .of (fun _ => run_plus rfl hne (fun _ => holds_inLine hline) (stops_cons (by decide))) ?_
  refine ⟨_, rfl, ?_, ?_⟩
  · simp [Cursor.past, Cursor.close]
    omega
  · simp [Cursor.past, Cursor.close, Span.chars]

lemma finds_endNamed {r : Rule} (hr : r = endNamedStruct ∨ r = endNamedEnum) (i : Identifier) (rest : List Char) :
    ∃ m, r.pattern.Finds ('\x7d' :: ' ' :: (i.chars ++ [';'])) rest [(1, i.chars)] m := by
  have hp : r.pattern = inOrder [char '\x7d', plus blank, group 1 (plus name'), char ';'] := by
    rcases hr with rfl | rfl <;> rfl
  apply exists_finds
  simp only [hp, List.append_assoc, List.cons_append, List.nil_append, run_inOrder_cons, run_inOrder_nil, run_group]
  refine .of (fun _ => run_char rfl) ?_
  refine .of (fun _ => run_space rfl (i.stops lacksWords_blank _)) ?_
  refine .of (fun _ => run_identifier i rfl (hasWords_within (by simp)) (stops_cons (by decide))) ?_
  refine .of (fun _ => run_char rfl) ?_
  refine ⟨_, rfl, ?_, ?_⟩
  · simp [Cursor.past, Cursor.close]
    omega
  · simp [Cursor.past, Cursor.close, Span.chars]

lemma finds_startClass (i j : Identifier) (rest : List Char) :
    ∃ m, startClass.pattern.Finds
      (['C', 'C', 'L', 'A', 'S', 'S', '('] ++ i.chars ++ [',', ' '] ++ j.chars ++ [')']) rest
      [(3, j.chars), (2, i.chars)] m := by
  apply exists_finds
  simp only [List.append_assoc, List.cons_append, List.nil_append, startClass, inState, spelled,
    run_inOrder_cons, run_inOrder_append, run_inOrder_nil, run_group]
  refine .of (fun _ => run_lineStart rfl) ?_
  refine .of (fun _ => run_maybe_of_none rfl) ?_
  refine .of (fun _ => run_star_nil (stops_cons (by decide))) ?_
  refine .of (fun _ => run_spelled (t := ['C', 'C', 'L', 'A', 'S', 'S', '(']) rfl) ?_
  refine .of (fun _ => run_identifier i rfl (hasWords_within (by simp)) (stops_cons (by decide))) ?_
  refine .of (fun _ => run_star_nil (stops_cons (by decide))) ?_
  refine .of (fun _ => run_char rfl) ?_
  refine .of (fun _ => run_star (t := [' ']) rfl (by decide) (j.stops lacksWords_blank _)) ?_
  refine .of (fun _ => run_identifier j rfl (hasWords_within (by simp)) (stops_cons (by decide))) ?_
  refine .of (fun _ => run_char rfl) ?_
  refine ⟨_, rfl, ?_, ?_⟩
  · simp [Cursor.past, Cursor.close]
    omega
  · simp [Cursor.past, Cursor.close, Span.chars]

lemma finds_methodArgument (a : Argument) (args : List Argument) (rest : List Char) :
    ∃ m, methodArgument.pattern.Finds (a.chars ++ comma args) (argumentsChars args ++ rest)
      [(2, a.name.chars), (1, a.type.chars)] m := by
  apply exists_finds
  simp only [List.append_assoc, methodArgument, Argument.chars, inState, run_inOrder_cons,
    run_inOrder_nil, run_group]
  refine .of (fun _ => run_star_nil (a.type.stops lacksWords_blank _)) ?_
  refine .of (fun _ => run_argumentType (hasTypes_within (by simp) (by decide)) a.type a.name
    (stops_comma (by decide) (by decide) args rest) (stops_comma (by decide) (by decide) args rest) rfl) ?_
  refine .of (fun _ => run_identifier a.name rfl (hasWords_within (by simp))
    (stops_comma (by decide) (by decide) args rest)) ?_
  refine .of (fun _ => run_comma args rfl) ?_
  refine ⟨_, rfl, ?_, ?_⟩
  · simp [Cursor.past, Cursor.close]
    omega
  · simp [Cursor.past, Cursor.close, Span.chars]

lemma finds_classAttribute (f : Field) (plain : f.type.IsPlain) (rest : List Char) :
    ∃ m, classAttribute.pattern.Finds (f.chars ++ [';']) rest [(3, f.name.chars), (2, f.type.chars)] m := by
  apply exists_finds
  simp only [List.append_assoc, List.cons_append, List.nil_append, classAttribute, Field.chars, inState,
    run_inOrder_cons, run_inOrder_nil, run_group]
  refine .of (fun _ => run_lineStart rfl) ?_
  refine .of (fun _ => run_star_nil (f.type.stops lacksWords_blank _)) ?_
  refine .of (fun _ => run_maybe_of_none ?_) ?_
  · exact run_alt_eq_none (run_spelled_eq_none (plain.not_modifier (by decide) _))
      (run_spelled_eq_none (plain.not_modifier (by decide) _))
  refine .of (fun _ => run_type (hasTypes_within (by simp) (by decide)) f.type f.name (stops_cons (by decide))
    (stops_cons (by decide)) rfl) ?_
  refine .of (fun _ => run_star_nil (f.name.stops lacksWords_blank _)) ?_
  refine .of (fun _ => run_identifier f.name rfl (hasWords_within (by simp)) (stops_cons (by decide))) ?_
  refine .of (fun _ => run_star_nil (stops_cons (by decide))) ?_
  refine .of (fun _ => run_char rfl) ?_
  refine ⟨_, rfl, ?_, ?_⟩
  · simp [Cursor.past, Cursor.close]
    omega
  · simp [Cursor.past, Cursor.close, Span.chars]

/-- Neither a size nor the end of a member goes on with what stands in front of it. -/
lemma stops_memberEnd {s : CharSet} (hend : s.holds ';' = false) (hsize : s.holds '[' = false)
    (size : Option Identifier) (rest : List Char) : Stops s (sizeChars size ++ ';' :: rest) := by
  cases size with
  | none => exact stops_cons hend
  | some size => exact stops_cons hsize

/-- A member of a struct is found where its type is. -/
lemma finds_structAttribute_of {t b : List Char} (name : Identifier) (size : Option Identifier) (rest : List Char)
    (hsolid : Stops ⟨false, [.blank]⟩ (t ++ (b ++ (name.chars ++ (sizeChars size ++ ';' :: rest)))))
    (hb : ∀ c ∈ b, CharSet.holds ⟨false, [.blank]⟩ c)
    (hrun : ∀ {k e : Cursor} {onward : Onward},
      k.rest = t ++ (b ++ (name.chars ++ (sizeChars size ++ ';' :: rest))) →
      onward (k.past t (b ++ (name.chars ++ (sizeChars size ++ ';' :: rest)))) = some e →
      (plus nameOrSpace).run k (fun k' => (plus blank).run k' fun k' =>
        (maybe false (char '*')).run k' onward) = some e) :
    ∃ m, structAttribute.pattern.Finds (t ++ (b ++ (name.chars ++ (sizeChars size ++ [';'])))) rest
      ((size.map fun i => (3, i.chars)).toList ++ [(2, name.chars), (1, t)]) m := by
  apply exists_finds
  simp only [List.append_assoc, List.cons_append, List.nil_append, structAttribute, inState,
    run_inOrder_cons, run_inOrder_nil, run_group]
  refine .of (fun _ => run_lineStart rfl) ?_
  refine .of (fun _ => run_star_nil hsolid) ?_
  refine .of (fun _ => hrun rfl) ?_
  refine .of (fun _ => run_star (t := b) rfl hb (name.stops lacksWords_blank _)) ?_
  refine .of (fun _ => run_identifier name rfl (hasWords_within (by simp))
    (stops_memberEnd (by decide) (by decide) size rest)) ?_
  cases size with
  | none =>
    refine .of (fun _ => run_maybe_of_none rfl) ?_
    refine .of (fun _ => run_star_nil (stops_cons (by decide))) ?_
    refine .of (fun _ => run_char rfl) ?_
    refine ⟨_, rfl, ?_, ?_⟩
    · simp [Cursor.past, Cursor.close, sizeChars]
      omega
    · simp [Cursor.past, Cursor.close, Span.chars]
  | some size =>
    refine .of (fun _ => run_maybe_of_some) ?_
    simp only [sizeChars, List.append_assoc, List.cons_append, List.nil_append, run_inOrder_cons,
      run_inOrder_nil, run_group]
    refine .of (fun _ => run_char rfl) ?_
    refine .of (fun _ => run_identifier size rfl (hasWords_within (by simp)) (stops_cons (by decide))) ?_
    refine .of (fun _ => run_char rfl) ?_
    refine .of (fun _ => run_star_nil (stops_cons (by decide))) ?_
    refine .of (fun _ => run_char rfl) ?_
    refine ⟨_, rfl, ?_, ?_⟩
    · simp [Cursor.past, Cursor.close]
      omega
    · simp [Cursor.past, Cursor.close, Span.chars]

lemma finds_structAttribute (f : Field) (size : Option Identifier) (rest : List Char) :
    ∃ m, structAttribute.pattern.Finds (f.chars ++ sizeChars size ++ [';']) rest
      ((size.map fun i => (3, i.chars)).toList ++ [(2, f.name.chars), (1, f.type.chars)]) m := by
  have h := finds_structAttribute_of (b := []) f.name size rest (f.type.stops lacksWords_blank _)
    (by simp) (run_type (hasTypes_within (by simp) (by decide)) f.type f.name (stops_memberEnd (by decide) (by decide) size rest)
      (stops_memberEnd (by decide) (by decide) size rest))
  rwa [Field.chars, List.append_assoc, List.append_assoc]

lemma run_spaceOrStar {k e : Cursor} {onward : Onward} {c : Char} {rest : List Char}
    (hc : c = ' ' ∨ c = '*') (hk : k.rest = c :: rest) (h : onward (k.past [c] rest) = some e) :
    (alt (char ' ') (char '*')).run k onward = some e := by
  rcases hc with rfl | rfl
  · exact run_alt_of_some (run_char hk h)
  · refine run_alt_of_none (run_eq_none (by decide) ?_) (run_char hk h)
    rw [hk]
    rintro _ ⟨⟩
    decide

lemma finds_startMethod (t : TypeName 1) (plain : t.IsPlain) (cls i : Identifier) (args : List Argument)
    (rest : List Char) :
    ∃ c m, startMethod.pattern.Finds (t.chars ++ (['M', 'E', 'T', 'H', 'O', 'D', '('] ++ cls.chars ++
        [',', ' '] ++ i.chars ++ comma args)) (argumentsChars args ++ rest)
      [(5, i.chars), (4, cls.chars), (2, t.chars), (3, [c])] m := by
  obtain ⟨u, c, hchars, hc⟩ : ∃ u c, t.chars = u ++ [c] ∧ (c = ' ' ∨ c = '*') := by
    rcases t.chars_cases with h | h
    · exact ⟨_, _, h, .inl rfl⟩
    · exact ⟨_, _, h, .inr rfl⟩
  have hmodifier := fun w hw => plain.not_modifier (w := w) hw
  have hstops := t.stops lacksWords_blank
  refine ⟨c, exists_finds ?_⟩
  rw [hchars] at hmodifier hstops ⊢
  simp only [List.append_assoc, List.cons_append, List.nil_append, startMethod, inState, spelled,
    run_inOrder_cons, run_inOrder_append, run_inOrder_nil, run_group]
  simp only [List.append_assoc, List.cons_append, List.nil_append] at hmodifier hstops
  refine .of (fun _ => run_lineStart rfl) ?_
  refine .of (fun _ => run_star_nil (hstops _)) ?_
  refine .of (fun _ => run_maybe_of_none ?_) ?_
  · exact run_alt_eq_none (run_spelled_eq_none (hmodifier _ (by decide) _))
      (run_alt_eq_none (run_spelled_eq_none (hmodifier _ (by decide) _))
        (run_spelled_eq_none (hmodifier _ (by decide) _)))
  refine .of (fun _ => run_result (v := ['M', 'E', 'T', 'H', 'O', 'D']) (hasTypes_within (by simp) (by decide)) t hchars rfl
    (by decide) (stops_cons (by decide)) (by decide) (by decide) ?_) ?_
  · rintro _ ⟨⟩
    decide
  refine .of (fun _ => run_spaceOrStar hc rfl) ?_
  refine .of (fun _ => run_spelled (t := ['M', 'E', 'T', 'H', 'O', 'D', '(']) rfl) ?_
  refine .of (fun _ => run_identifier cls rfl (hasWords_within (by simp)) (stops_cons (by decide))) ?_
  refine .of (fun _ => run_char rfl) ?_
  refine .of (fun _ => run_star (t := [' ']) rfl (by decide) (i.stops lacksWords_blank _)) ?_
  refine .of (fun _ => run_identifier i rfl (hasWords_within (by simp))
    (stops_comma (by decide) (by decide) args rest)) ?_
  refine .of (fun _ => run_comma args rfl) ?_
  refine ⟨_, rfl, ?_, ?_⟩
  · simp [Cursor.past, Cursor.close]
    omega
  · simp [Cursor.past, Cursor.close, Span.chars, List.take_length_add_append]

lemma finds_blanks {c : Char} (hc : Text.isBlank c) {rest : List Char}
    (hrest : Stops ⟨false, [.blank]⟩ rest) : ∃ m, blanks.pattern.Finds [c] rest [] m := by
  apply exists_finds
  refine .of (fun _ => run_plus (t := [c]) rfl (List.cons_ne_nil c []) ?_ hrest) ?_
  · simpa [CharSet.holds, CharSet.Item.holds] using hc
  · exact ⟨_, rfl, rfl, rfl⟩

lemma finds_endMethod (rest : List Char) : ∃ m, endMethod.pattern.Finds [')', ';'] rest [] m :=
  exists_finds ⟨_, rfl, rfl, rfl⟩

lemma finds_endClass (rest : List Char) :
    ∃ m, endClass.pattern.Finds ['E', 'N', 'D', '_', 'C', 'C', 'L', 'A', 'S', 'S'] rest [] m :=
  exists_finds ⟨_, rfl, rfl, rfl⟩

/-- How a struct without a name starts. -/
def structStart : List Char :=
  ['t', 'y', 'p', 'e', 'd', 'e', 'f', ' ', 's', 't', 'r', 'u', 'c', 't', ' ', '\x7b']

/-- How an enum without a name starts. -/
def enumStart : List Char :=
  ['t', 'y', 'p', 'e', 'd', 'e', 'f', ' ', 'e', 'n', 'u', 'm', ' ', '\x7b']

lemma finds_startNamelessStruct (rest : List Char) :
    ∃ m, startNamelessStruct.pattern.Finds structStart rest [] m :=
  exists_finds ⟨_, rfl, rfl, rfl⟩

lemma finds_startNamelessEnum (rest : List Char) :
    ∃ m, startNamelessEnum.pattern.Finds enumStart rest [] m :=
  exists_finds ⟨_, rfl, rfl, rfl⟩

/-! ### Where rules find nothing -/

/-- A struct without a name is not taken for one with a name. -/
lemma match?_startStruct_structStart (rest : List Char) :
    startStruct.pattern.match? (structStart ++ rest) = none := rfl

lemma match?_enumStart (rest : List Char) :
    ∀ r ∈ [startStruct, startNamelessStruct], r.pattern.match? (enumStart ++ rest) = none := by
  have hnamed : startStruct.pattern.match? (enumStart ++ rest) = none := rfl
  have hnameless : startNamelessStruct.pattern.match? (enumStart ++ rest) = none := rfl
  simp [hnamed, hnameless]

lemma match?_emptyLine {rest : List Char} (hrest : Stops ⟨false, [.blank]⟩ rest) :
    emptyLine.pattern.match? ('\n' :: rest) = none := by
  cases rest with
  | nil => rfl
  | cons c rest =>
    have hne : ∀ d, CharSet.holds ⟨false, [.blank]⟩ d = true → (CharSet.single d).holds c = false := by
      intro d hd
      rw [← Bool.not_eq_true, holds_single]
      rintro rfl
      rw [hrest c rfl] at hd
      cases hd
    have hfirst : (CharSet.single '\r').holds '\n' = false := by decide
    simp [emptyLine, everywhere, optional, match?, matchFrom, matchAt, run_inOrder_cons, run, char,
      Cursor.next, hfirst, hne '\r' (by decide), hne '\n' (by decide)]

/-- A member is not taken for a method: in front of its end there is no bracket. -/
lemma match?_startMethod_field (f : Field) (rest : List Char) :
    startMethod.pattern.match? (f.chars ++ ';' :: rest) = none := by
  have hfield : '(' ∉ f.chars := by
    intro hmem
    have hholds := f.holds (s := within [('0', '9'), ('A', 'Z'), ('_', '_'), ('a', 'z'), (' ', ' '), ('*', '*')])
      (hasWords_within (by simp)) (by decide) (by decide) _ hmem
    exact absurd hholds (by decide)
  exact match?_eq_none_of_avoids
    [lineStart, star blank,
      optional (group 1 (alt (inOrder (spelled ['F', 'O', 'R', 'E', 'I', 'G', 'N']))
        (alt (inOrder (spelled ['A', 'B', 'S', 'T', 'R', 'A', 'C', 'T']))
          (inOrder (spelled ['P', 'R', 'I', 'V', 'A', 'T', 'E']))))),
      group 2 (inOrder [plus nameOrSpace, group 3 (alt (char ' ') (char '*'))]),
      char 'M', char 'E', char 'T', char 'H', char 'O', char 'D']
    (by decide) (by decide) hfield

/-- Behind the end of a class no declaration is taken for a member of it. -/
lemma match?_endClass (ds : List Declaration) :
    startMethod.pattern.match?
        (['E', 'N', 'D', '_', 'C', 'C', 'L', 'A', 'S', 'S', '\n'] ++ ds.flatMap Declaration.chars) = none ∧
      classAttribute.pattern.match?
        (['E', 'N', 'D', '_', 'C', 'C', 'L', 'A', 'S', 'S', '\n'] ++ ds.flatMap Declaration.chars) = none := by
  rcases ds with _ | ⟨d, ds⟩
  · exact ⟨rfl, rfl⟩
  · cases d <;> exact ⟨rfl, rfl⟩

/-! ### Picking rules -/

/-- The rules for a state that may start with a character. -/
def starting (state : String) (c : Char) : List Rule :=
  rules.filter fun r => r.appliesIn state && r.pattern.mayStart c

lemma starting_eq_filter (state : String) (c : Char) :
    starting state c = (rules.filter (·.appliesIn state)).filter fun r => r.pattern.mayStart c := by
  rw [starting, List.filter_filter]
  congr 1
  funext r
  exact Bool.and_comm _ _

/-- Only those rules are tried that may start with the first character of the text. -/
lemma pick_cons (state : String) (c : Char) (cs : List Char) :
    pick rules state (c :: cs) = firstOf (starting state c) (c :: cs) := by
  have hpos : ∀ r ∈ rules.filter (·.appliesIn state), 0 < r.pattern.minLength :=
    fun r hr => (HeaderReader.consuming_rules r (List.mem_filter.mp hr).1).1
  rw [pick, starting_eq_filter]
  generalize rules.filter (·.appliesIn state) = rs at hpos
  induction rs with
  | nil => rfl
  | cons r rs ih =>
    have ih := ih fun r' hr' => hpos r' (List.mem_cons_of_mem r hr')
    rw [List.filter_cons]
    split
    · cases hm : r.pattern.match? (c :: cs) with
      | some m => rw [firstOf_cons_of_some hm, firstOf_cons_of_some hm]
      | none => rw [firstOf_cons_of_none hm, firstOf_cons_of_none hm, ih]
    next hc =>
      have hnone : r.pattern.match? (c :: cs) = none :=
        match?_eq_none_of_start (hpos r List.mem_cons_self) (by simpa using hc)
      rw [firstOf_cons_of_none hnone, ih]

variable {state : String} {r : Rule} {rest t : List Char} {gs : List (Nat × List Char)} {m : Match}

/-- Nothing is picked where none of the rules that may start with the first character finds anything. -/
lemma pick_eq_none (rs : List Rule) {c : Char} {cs : List Char} (hstart : starting state c ⊆ rs)
    (hnone : ∀ r ∈ rs, r.pattern.match? (c :: cs) = none) : pick rules state (c :: cs) = none := by
  rw [pick_cons, firstOf, List.findSome?_eq_none_iff]
  intro r hr
  rw [hnone r (hstart hr)]
  rfl

/-- A rule is picked in a state, and this is what it finds. -/
structure Picks (state : String) (r : Rule) (t rest : List Char) (gs : List (Nat × List Char))
    (m : Match) : Prop extends Finds r.pattern t rest gs m where
  pick : pick rules state (t ++ rest) = some (r, m)

/-- A rule that finds something is picked where those before it find nothing. -/
lemma exists_picks (state : String) (before : List Rule) {c : Char} {cs : List Char}
    (h : ∃ m, r.pattern.Finds t rest gs m) (ht : t = c :: cs) (hstart : before ++ [r] <+: starting state c)
    (hbefore : ∀ r' ∈ before, r'.pattern.match? (t ++ rest) = none) :
    ∃ m, Picks state r t rest gs m := by
  obtain ⟨m, hm⟩ := h
  obtain ⟨after, hafter⟩ := hstart
  refine ⟨m, hm, ?_⟩
  have hmatch := hm.match?
  rw [ht, List.cons_append] at hbefore hmatch ⊢
  rw [pick_cons, ← hafter, List.append_assoc]
  clear hafter
  induction before with
  | nil => exact firstOf_cons_of_some hmatch
  | cons r' before ih =>
    rw [List.cons_append, firstOf_cons_of_none (hbefore r' List.mem_cons_self)]
    exact ih fun r'' hr'' => hbefore r'' (List.mem_cons_of_mem r' hr'')

/-! ### The rules of each state -/

def initialRules : List Rule :=
  [startDefine, startComment, lineComment, emptyLine, blanks, continuedLine, startClass, startStruct,
   startNamelessStruct, startEnum, startNamelessEnum, bindStruct, aliasType]

def defineRules : List Rule :=
  [defineConstant, defineLineEnd, defineMacro, startComment, lineComment, emptyLine, blanks, continuedLine]

def commentRules : List Rule :=
  [startComment, endComment, openComment, lineComment, emptyLine, blanks, continuedLine]

def classRules : List Rule :=
  [startComment, lineComment, emptyLine, blanks, continuedLine, startMethod, classAttribute, endClass]

def methodRules : List Rule :=
  [startComment, lineComment, emptyLine, blanks, continuedLine, methodArgument, endMethod]

def structRules : List Rule :=
  [startComment, lineComment, emptyLine, blanks, continuedLine, structAttribute, structPointer, endNamedStruct,
   endStruct, startInner]

def innerRules : List Rule :=
  [startComment, lineComment, emptyLine, blanks, continuedLine, startInner, endNamedInner, endInner]

def enumRules : List Rule :=
  [startComment, lineComment, emptyLine, blanks, continuedLine, enumValue, endNamedEnum, endEnum]

def stateRules : List (String × List Rule) :=
  [("INITIAL", initialRules), ("DEFINE", defineRules), ("COMMENT", commentRules), ("CCLASS", classRules),
   ("METHOD", methodRules), ("STRUCT", structRules), ("RECURSIVE_STRUCT", innerRules), ("ENUM", enumRules)]

/-- These are the rules that apply in each state. -/
lemma applying_stateRules : ∀ p ∈ stateRules, rules.filter (·.appliesIn p.1) = p.2 := by
  decide +kernel

lemma prefix_applying (p : String × List Rule) (hp : p ∈ stateRules) {first : List Rule} (h : first <+: p.2) :
    first <+: rules.filter (·.appliesIn p.1) := by
  rwa [applying_stateRules p hp]

lemma starting_eq (p : String × List Rule) (hp : p ∈ stateRules) (c : Char) :
    starting p.1 c = p.2.filter fun r => r.pattern.mayStart c := by
  rw [starting_eq_filter, applying_stateRules p hp]

lemma prefix_starting (p : String × List Rule) (hp : p ∈ stateRules) {first : List Rule} {c : Char}
    (h : first <+: p.2.filter fun r => r.pattern.mayStart c) : first <+: starting p.1 c := by
  rwa [starting_eq p hp]

lemma starting_subset (p : String × List Rule) (hp : p ∈ stateRules) {all : List Rule} {c : Char}
    (h : (p.2.filter fun r => r.pattern.mayStart c) ⊆ all) : starting p.1 c ⊆ all := by
  rwa [starting_eq p hp]

/-- Of the rules of a state, those that are tried first on a word, and all that are tried on one. -/
def wordRules : List (List Rule × List Rule × List Rule) :=
  [(defineRules, [defineConstant], [defineConstant]), (enumRules, [enumValue], [enumValue]),
   (structRules, [structAttribute, structPointer], [structAttribute, structPointer, startInner]),
   (innerRules, [], [startInner]), (methodRules, [methodArgument], [methodArgument]),
   (classRules, [startMethod, classAttribute], [startMethod, classAttribute, endClass])]

lemma filter_wordRules : ∀ p ∈ wordRules, ∀ n < 128, wordSet.holds (Char.ofNat n) →
    p.2.1 <+: p.1.filter (fun r => r.pattern.mayStart (Char.ofNat n)) ∧
      p.1.filter (fun r => r.pattern.mayStart (Char.ofNat n)) ⊆ p.2.2 := by
  decide +kernel

/-- In a state these rules are tried first on a word. -/
def OnWords (rs : List Rule) (state : String) : Prop :=
  ∀ n < 128, wordSet.holds (Char.ofNat n) → rs <+: starting state (Char.ofNat n)

lemma OnWords.of_prefix {rs rs' : List Rule} (h : OnWords rs state) (hp : rs' <+: rs) :
    OnWords rs' state :=
  fun n hn hword => hp.trans (h n hn hword)

lemma onWords_of_mem (p : List Rule × List Rule × List Rule) (hs : (state, p.1) ∈ stateRules)
    (hp : p ∈ wordRules) : OnWords p.2.1 state :=
  fun n hn hword => prefix_starting (state, p.1) hs (filter_wordRules p hp n hn hword).1

/-- These are all rules that are tried on a word. -/
lemma starting_subset_of_word (p : List Rule × List Rule × List Rule) (hs : (state, p.1) ∈ stateRules)
    (hp : p ∈ wordRules) {c : Char} (hc : wordSet.holds c) : starting state c ⊆ p.2.2 := by
  refine starting_subset (state, p.1) hs ?_
  exact forall_word (P := fun c => p.1.filter (fun r => r.pattern.mayStart c) ⊆ p.2.2)
    (fun n hn hword => (filter_wordRules p hp n hn hword).2) hc

lemma onWords_define : OnWords [defineConstant] "DEFINE" :=
  onWords_of_mem (defineRules, [defineConstant], [defineConstant]) (by simp [stateRules]) (by simp [wordRules])

lemma onWords_enum : OnWords [enumValue] "ENUM" :=
  onWords_of_mem (enumRules, [enumValue], [enumValue]) (by simp [stateRules]) (by simp [wordRules])

lemma onWords_struct : OnWords [structAttribute, structPointer] "STRUCT" :=
  onWords_of_mem (structRules, [structAttribute, structPointer], [structAttribute, structPointer, startInner])
    (by simp [stateRules]) (by simp [wordRules])

lemma onWords_class : OnWords [startMethod, classAttribute] "CCLASS" :=
  onWords_of_mem (classRules, [startMethod, classAttribute], [startMethod, classAttribute, endClass])
    (by simp [stateRules]) (by simp [wordRules])

lemma onWords_method : OnWords [methodArgument] "METHOD" :=
  onWords_of_mem (methodRules, [methodArgument], [methodArgument]) (by simp [stateRules]) (by simp [wordRules])

/-- A rule that finds something at a word is picked where those before it find nothing. -/
lemma exists_picks_of_word (before : List Rule) (i : Identifier) {u : List Char}
    (h : ∃ m, r.pattern.Finds t rest gs m) (ht : t = i.chars ++ u)
    (hstart : OnWords (before ++ [r]) state)
    (hbefore : ∀ r' ∈ before, r'.pattern.match? (t ++ rest) = none) :
    ∃ m, Picks state r t rest gs m := by
  obtain ⟨c, cs, hcs⟩ := List.exists_cons_of_ne_nil i.ne_nil
  have hword := i.isWord c (by rw [hcs]; exact List.mem_cons_self)
  rw [hcs, List.cons_append] at ht
  refine exists_picks state before h ht ?_ hbefore
  exact forall_word (P := fun c => before ++ [r] <+: starting state c) hstart hword

end Header.Table

end HeaderBind
