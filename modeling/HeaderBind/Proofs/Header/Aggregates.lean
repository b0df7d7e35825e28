import HeaderBind.Proofs.Header.Passing

/-!
# Structs with aggregates in them

The body of a struct holds members, and structs and unions that have bodies of their own (`Body`). These
are skipped: they are entered and left like blocks, but no rule is for what stands in them, so it is given
up character by character. The name behind an aggregate is only taken up to its first underscore, and what
remains of it is given up in the struct around it. Therefore each rest of a member and of such a name has to be
told apart from everything that a rule is for. What is declared then are the members of the struct itself
(`drained_struct`).
-/

namespace HeaderBind

namespace Canonical

open Declaring Pattern

/-! ### Texts of bodies -/

/-- Blanks, or nothing. -/
structure Blanks where
  chars : List Char
  isBlank : ∀ c ∈ chars, Text.isBlank c

/-- Blanks between two words. -/
structure Gap extends Blanks where
  ne_nil : chars ≠ []

/-- Words with spaces between them. -/
structure Words where
  chars : List Char
  ne_nil : chars ≠ []
  isWord : ∀ c ∈ chars, wordSet.holds c ∨ c = ' '
  head_isWord : ∀ c ∈ chars.head?, wordSet.holds c
  last_isWord : ∀ c ∈ chars.getLast?, wordSet.holds c

/-- A member of a struct. Its star, if it has one, stands in front of its name, or against its type. -/
inductive StructMember where
  | field (type : Words) (gap : Gap) (mark : Option Blanks) (name : Identifier) (size : Option Identifier)
  | pointer (type : Words) (gap : Gap) (name : Identifier)

/-- A star, with blanks behind it. -/
def starChars : Option Blanks → List Char
  | none => []
  | some blanks => '*' :: blanks.chars

namespace StructMember

/-- The text of the member, up to its end. -/
def chars : StructMember → List Char
  | field type gap mark name size =>
    type.chars ++ (gap.chars ++ (starChars mark ++ (name.chars ++ sizeChars size)))
  | pointer type gap name => type.chars ++ '*' :: (gap.chars ++ name.chars)

/-- The type of the member. Blanks in front of a star stay as they are, and a star against the type gets a
space. -/
def typeChars : StructMember → List Char
  | field type _ none _ _ => type.chars
  | field type gap (some _) _ _ => type.chars ++ (gap.chars ++ ['*'])
  | pointer type _ _ => type.chars ++ [' ', '*']

def name : StructMember → Identifier
  | field _ _ _ name _ | pointer _ _ name => name

def size : StructMember → Option Identifier
  | field _ _ _ _ size => size
  | pointer .. => none

/-- Declare the member. -/
def declare (id : ClassId) (m : StructMember) : Act Binding Unit :=
  Class.addAttribute id m.name.text (String.ofList m.typeChars) ""
    (HeaderReader.arraySize (m.size.map (·.text)))

end StructMember

/-- What an aggregate is. -/
inductive Keyword where
  | struct
  | union

def Keyword.chars : Keyword → List Char
  | struct => ['s', 't', 'r', 'u', 'c', 't']
  | union => ['u', 'n', 'i', 'o', 'n']

/-- How an aggregate starts, with a name or without one. -/
inductive Opening where
  | named (keyword : Keyword) (gap : Gap) (name : Identifier) (blanks : Blanks)
  | nameless (keyword : Keyword) (gap : Gap)

/-- The start of an aggregate in front of its brace. -/
def Opening.chars : Opening → List Char
  | named keyword gap name blanks => keyword.chars ++ (gap.chars ++ (name.chars ++ blanks.chars))
  | nameless keyword gap => keyword.chars ++ gap.chars

/-- A letter or a digit. -/
def alphanumeric : CharSet := Header.Table.within [('0', '9'), ('A', 'Z'), ('a', 'z')]

/-- How an aggregate ends: as a member with a name, which starts with a letter or a digit, or without one. -/
inductive Closing where
  | named (gap : Gap) (name : Identifier) (start : ∀ c ∈ name.chars.head?, alphanumeric.holds c)
  | nameless

/-- The end of an aggregate behind its brace. -/
def Closing.chars : Closing → List Char
  | named gap name _ => gap.chars ++ (name.chars ++ [';'])
  | nameless => [';']

/-- The body of a struct, with blanks in front of each member and aggregate and at its end. -/
inductive Body where
  | nil (blanks : Blanks)
  | member (blanks : Blanks) (m : StructMember) (rest : Body)
  | aggregate (blanks : Blanks) (opening : Opening) (inner : Body) (closing : Closing) (rest : Body)

namespace Body

def chars : Body → List Char
  | nil blanks => blanks.chars
  | member blanks m rest => blanks.chars ++ (m.chars ++ ';' :: rest.chars)
  | aggregate blanks opening inner closing rest =>
    blanks.chars ++ (opening.chars ++ '\x7b' :: (inner.chars ++ '\x7d' :: (closing.chars ++ rest.chars)))

/-- The members of the struct itself, without those of aggregates. -/
def members : Body → List StructMember
  | nil _ => []
  | member _ m rest => m :: rest.members
  | aggregate _ _ _ _ rest => rest.members

/-- A struct with the body. -/
def structChars (body : Body) (name : Identifier) : List Char :=
  ['t', 'y', 'p', 'e', 'd', 'e', 'f', ' ', 's', 't', 'r', 'u', 'c', 't', ' ', '\x7b'] ++ body.chars ++
    ['\x7d', ' '] ++ name.chars ++ [';']

/-- Declare a struct with the body. -/
def declare (doc : String) (body : Body) (name : Identifier) : Act Binding Unit := do
  let id ← openStruct none fun c => { c with doc }
  body.members.forM (StructMember.declare id)
  nameClass id name.text
  closeStruct id

end Body

/-! ### Characters of members -/

lemma Words.exists_cons (w : Words) : ∃ c cs, w.chars = c :: cs ∧ wordSet.holds c := by
  obtain ⟨c, cs, hcs⟩ := List.exists_cons_of_ne_nil w.ne_nil
  exact ⟨c, cs, hcs, w.head_isWord c (by rw [hcs]; rfl)⟩

lemma Words.stops {s : CharSet} (hs : LacksWords s) (w : Words) (rest : List Char) :
    Stops s (w.chars ++ rest) := by
  obtain ⟨c, cs, hcs, hc⟩ := w.exists_cons
  rw [hcs]
  exact stops_cons (lacks_of_word hs hc)

lemma Words.not_mem {c : Char} (hword : wordSet.holds c = false) (hspace : c ≠ ' ') (w : Words) : c ∉ w.chars := by
  intro hc
  rcases w.isWord c hc with h | h
  · rw [hword] at h
    cases h
  · exact hspace h

/-- The characters of members and of what aggregates start with. -/
def memberChar (c : Char) : Prop :=
  Text.isBlank c ∨ wordSet.holds c ∨ c ∈ ['*', '[', ']']

lemma Identifier.memberChar (i : Identifier) : ∀ c ∈ i.chars, memberChar c :=
  fun c hc => .inr (.inl (i.isWord c hc))

lemma Blanks.memberChar (b : Blanks) : ∀ c ∈ b.chars, memberChar c :=
  fun c hc => .inl (b.isBlank c hc)

lemma Words.memberChar (w : Words) : ∀ c ∈ w.chars, memberChar c := by
  intro c hc
  rcases w.isWord c hc with h | rfl
  · exact .inr (.inl h)
  · exact .inl (by decide)

lemma StructMember.memberChar (m : StructMember) : ∀ c ∈ m.chars, memberChar c := by
  have hmark : ∀ c ∈ ['*', '[', ']'], Canonical.memberChar c := fun c hc => .inr (.inr hc)
  have hstar : ∀ mark, ∀ c ∈ starChars mark, Canonical.memberChar c := by
    intro mark
    cases mark with
    | none => simp [starChars]
    | some blanks => exact List.forall_mem_cons.mpr ⟨hmark _ (by simp), blanks.memberChar⟩
  have hsize : ∀ size, ∀ c ∈ sizeChars size, Canonical.memberChar c := by
    intro size
    cases size with
    | none => simp [sizeChars]
    | some size => simpa [sizeChars, or_imp, forall_and, hmark] using size.memberChar
  cases m with
  | field type gap mark name size =>
    simp only [chars, List.forall_mem_append]
    exact ⟨type.memberChar, gap.memberChar, hstar mark, name.memberChar, hsize size⟩
  | pointer type gap name =>
    simp only [chars, List.forall_mem_append, List.forall_mem_cons]
    exact ⟨type.memberChar, hmark _ (by simp), gap.memberChar, name.memberChar⟩

lemma StructMember.solid (m : StructMember) (rest : List Char) : Stops ⟨false, [.blank]⟩ (m.chars ++ rest) := by
  cases m <;> rw [chars, List.append_assoc] <;> exact Words.stops lacksWords_blank _ _

lemma Opening.solid (o : Opening) (rest : List Char) : Stops ⟨false, [.blank]⟩ (o.chars ++ rest) := by
  rcases o with ⟨_ | _, _, _, _⟩ | ⟨_ | _, _⟩ <;> exact stops_cons (by decide)

/-- Members and what aggregates start with do not hold what ends them. -/
lemma memberChar.ne {c : Char} (h : memberChar c) : c ∉ [';', '\x7b', '\x7d'] := by
  have hnot : ∀ c ∈ [';', '\x7b', '\x7d'],
      Text.isBlank c = false ∧ wordSet.holds c = false ∧ c ∉ ['*', '[', ']'] := by
    decide
  intro hmem
  obtain ⟨hblank, hword, hmark⟩ := hnot c hmem
  rcases h with h | h | h
  · rw [hblank] at h
    cases h
  · rw [hword] at h
    cases h
  · exact hmark h

lemma Keyword.memberChar (k : Keyword) : ∀ c ∈ k.chars, memberChar c := by
  have hword : ∀ c ∈ k.chars, wordSet.holds c := by
    cases k <;> decide
  exact fun c hc => .inr (.inl (hword c hc))

lemma Opening.memberChar (o : Opening) : ∀ c ∈ o.chars, memberChar c := by
  cases o with
  | named keyword gap name blanks =>
    simp only [chars, List.forall_mem_append]
    exact ⟨keyword.memberChar, gap.memberChar, name.memberChar, blanks.memberChar⟩
  | nameless keyword gap =>
    simp only [chars, List.forall_mem_append]
    exact ⟨keyword.memberChar, gap.memberChar⟩

lemma Blanks.holds (b : Blanks) : ∀ c ∈ b.chars, CharSet.holds ⟨false, [.blank]⟩ c := by
  intro c hc
  simpa [CharSet.holds, CharSet.Item.holds] using b.isBlank c hc

lemma Words.strip (w : Words) : Text.strip (String.ofList w.chars) = String.ofList w.chars :=
  Text.strip_ofList (fun c hc => isBlank_of_word (w.head_isWord c hc))
    fun c hc => isBlank_of_word (w.last_isWord c hc)

/-- The type of a member does not hold the blanks behind it. -/
lemma strip_typeChars (type : Words) (gap : Gap) (mark : Option Blanks) (name : Identifier)
    (size : Option Identifier) :
    Text.strip (String.ofList (type.chars ++ (gap.chars ++ if mark.isSome then ['*'] else []))) =
      String.ofList (StructMember.field type gap mark name size).typeChars := by
  cases mark with
  | none =>
    rw [Option.isSome_none, if_neg (by decide), List.append_nil, Text.strip_ofList_append _ gap.isBlank]
    exact type.strip
  | some blanks =>
    obtain ⟨c, cs, hcs, hc⟩ := type.exists_cons
    refine Text.strip_ofList ?_ ?_
    · rw [hcs]
      rintro _ ⟨⟩
      exact isBlank_of_word hc
    · rw [Option.isSome_some, if_pos rfl, ← List.append_assoc, List.getLast?_concat]
      rintro _ ⟨⟩
      decide

/-! ### Running over types and the blanks behind them -/

/-- The characters of types. -/
def typeSet : CharSet :=
  Header.Table.within [('0', '9'), ('A', 'Z'), ('_', '_'), ('a', 'z'), (' ', ' ')]

lemma hasTypes_typeSet : HasTypes typeSet :=
  hasTypes_within (by simp) (by decide)

/-- Types are made of words and spaces. -/
lemma holds_typeSet_iff {c : Char} : typeSet.holds c ↔ wordSet.holds c ∨ c = ' ' := by
  have hsplit : typeSet.holds c = ((Header.Table.within [('0', '9'), ('A', 'Z'), ('_', '_'), ('a', 'z')]).holds c ||
      (CharSet.single ' ').holds c) := by
    simp [typeSet, Header.Table.within, CharSet.single, CharSet.holds, Bool.or_assoc]
  constructor
  · rw [hsplit, Bool.or_eq_true]
    rintro (hc | hc)
    · exact .inl (word_of_within (by simp) hc)
    · exact .inr (holds_single.mp hc)
  · rintro (hc | rfl)
    · exact forall_word (P := fun c => typeSet.holds c = true) hasTypes_typeSet.1 hc
    · exact hasTypes_typeSet.2.1

/-- Of the blanks, types hold spaces only. -/
lemma holds_typeSet_of_isBlank {c : Char} (hc : Text.isBlank c) (hne : c ≠ ' ') : typeSet.holds c = false := by
  rw [← Bool.not_eq_true, holds_typeSet_iff]
  rintro (hword | rfl)
  · rw [isBlank_of_word hword] at hc
    cases hc
  · exact hne rfl

lemma Words.holds (w : Words) : ∀ c ∈ w.chars, typeSet.holds c :=
  fun c hc => holds_typeSet_iff.mpr (w.isWord c hc)

/-- A gap starts with spaces, which a run over a type also takes. -/
lemma Gap.exists_spaces (gap : Gap) :
    ∃ u w, gap.chars = u ++ w ∧ (∀ c ∈ u, c = ' ') ∧ ∀ c ∈ w.head?, c ≠ ' ' := by
  refine ⟨_, _, (List.takeWhile_append_dropWhile (p := (· == ' ')) (l := gap.chars)).symm, ?_, ?_⟩
  · exact fun c hc => by simpa using List.mem_takeWhile_imp hc
  · intro c hc
    have hnot := List.head?_dropWhile_not (· == ' ') gap.chars
    rw [Option.mem_def.mp hc] at hnot
    simpa using hnot

/-- A type is taken with all blanks behind it, in front of a name or of something that is no part of a type. -/
lemma run_gap {k e : Cursor} {onward : Onward} {v after : List Char} (type : Words) (gap : Gap)
    (hk : k.rest = type.chars ++ (gap.chars ++ (v ++ after))) (hv : ∀ c ∈ v, wordSet.holds c)
    (hafter : Stops typeSet after) (hblank : Stops ⟨false, [.blank]⟩ after)
    (h : onward (k.past (type.chars ++ gap.chars) (v ++ after)) = some e) :
    (plus (set typeSet)).run k (fun k' => (plus blank).run k' onward) = some e := by
  have hlacks : ∀ c ∈ v, CharSet.holds ⟨false, [.blank]⟩ c = false :=
    fun c hc => lacks_of_word lacksWords_blank (hv c hc)
  have hstops : Stops ⟨false, [.blank]⟩ (v ++ after) := by
    cases v with
    | nil => exact hblank
    | cons c v => exact stops_cons (hlacks c List.mem_cons_self)
  obtain ⟨u, w, hgap, hu, hw⟩ := gap.exists_spaces
  have htaken : ∀ u', (∀ c ∈ u', c = ' ') → ∀ c ∈ type.chars ++ u', typeSet.holds c := by
    intro u' hu' c hc
    rcases List.mem_append.mp hc with hc | hc
    · exact type.holds c hc
    · exact holds_typeSet_iff.mpr (.inr (hu' c hc))
  have hne : ∀ u', type.chars ++ u' ≠ [] := fun u' => List.append_ne_nil_of_left_ne_nil type.ne_nil u'
  cases w with
  | nil =>
    -- Only spaces: the last of them is given back.
    rw [List.append_nil] at hgap
    obtain ⟨u, c, rfl⟩ := u.eq_nil_or_concat'.resolve_left (hgap ▸ gap.ne_nil)
    obtain rfl := hu c (by simp)
    have hspaces : ∀ c ∈ u, c = ' ' := fun c hc => hu c (List.mem_append_left _ hc)
    rw [hgap] at hk h
    rw [List.append_assoc, ← List.append_assoc, List.singleton_append] at hk
    rw [← List.append_assoc, ← Cursor.past_past k (type.chars ++ u) [' '] (' ' :: (v ++ after))] at h
    refine run_plus_before hk (hne u) ?_ hafter (by decide) ?_ ?_ (run_space rfl hstops h)
    · intro c hc
      rw [List.mem_append, List.mem_cons] at hc
      rcases hc with hc | rfl | hc
      · exact htaken u hspaces c hc
      · exact hasTypes_typeSet.2.1
      · exact holds_typeSet_iff.mpr (.inl (hv c hc))
    · exact fun c hc => (mayStart_plus _ c).trans (hlacks c hc)
    · exact fun c hc => (mayStart_plus _ c).trans (hblank c hc)
  | cons c w =>
    have hblanks : ∀ d ∈ c :: w, d ∈ gap.chars := fun d hd => hgap ▸ List.mem_append_right u hd
    rw [hgap] at hk h
    rw [List.append_assoc, ← List.append_assoc] at hk
    rw [← List.append_assoc, ← Cursor.past_past k (type.chars ++ u) (c :: w) (c :: w ++ (v ++ after))] at h
    refine run_plus hk (hne u) (htaken u hu) (stops_cons ?_) ?_
    · exact holds_typeSet_of_isBlank (gap.isBlank c (hblanks c List.mem_cons_self)) (hw c rfl)
    · exact run_plus (t := c :: w) rfl (List.cons_ne_nil c w) (fun d hd => gap.holds d (hblanks d hd)) hstops h

lemma Blanks.stops {s : CharSet} {rest : List Char} (hs : ∀ c, Text.isBlank c → s.holds c = false) (b : Blanks)
    (hrest : Stops s rest) : Stops s (b.chars ++ rest) := by
  cases hb : b.chars with
  | nil => exact hrest
  | cons c cs => exact stops_cons (hs c (b.isBlank c (by simp [hb])))

end Canonical

/-! ### What rules find in bodies -/

namespace Header.Table

open Lexer Pattern Canonical

variable {a rest : List Char}

lemma run_keyword (keyword : Keyword) {k e : Cursor} {onward : Onward} (hk : k.rest = keyword.chars ++ rest)
    (h : onward (k.past keyword.chars rest) = some e) :
    (alt (inOrder (spelled ['s', 't', 'r', 'u', 'c', 't'])) (inOrder (spelled ['u', 'n', 'i', 'o', 'n']))).run k
      onward = some e := by
  cases keyword with
  | struct => exact run_alt_of_some (run_spelled (t := ['s', 't', 'r', 'u', 'c', 't']) hk h)
  | union =>
    refine run_alt_of_none (run_spelled_eq_none (t := ['s', 't', 'r', 'u', 'c', 't']) ?_)
      (run_spelled (t := ['u', 'n', 'i', 'o', 'n']) hk h)
    rw [hk]
    simp [Keyword.chars]

/-- The start of an aggregate. -/
lemma finds_startInner (o : Opening) (rest : List Char) :
    ∃ gs m, startInner.pattern.Finds (o.chars ++ ['\x7b']) rest gs m := by
  have hbrace : ∀ s : CharSet, s.holds '\x7b' = false → Stops s ('\x7b' :: rest) := fun s hs => stops_cons hs
  have hname : ∀ c, Text.isBlank c →
      CharSet.holds (within [('_', '_'), ('A', 'Z'), ('a', 'z'), ('0', '9')]) c = false := by
    intro c hc
    rw [← Bool.not_eq_true]
    intro hholds
    have hword := word_of_within (by simp) hholds
    rw [isBlank_of_word hword] at hc
    cases hc
  cases o with
  | named keyword gap name blanks =>
    refine ⟨[(2, name.chars), (1, keyword.chars)], exists_finds ?_⟩
    simp only [Opening.chars, List.append_assoc, List.cons_append, List.nil_append, startInner, optional,
      run_inOrder_cons, run_inOrder_nil, run_group]
    refine .of (fun _ => run_keyword keyword rfl) ?_
    refine .of (fun _ => run_plus rfl gap.ne_nil gap.holds (name.stops lacksWords_blank _)) ?_
    refine .of (fun _ => run_maybe_of_some) ?_
    rw [run_group]
    refine .of (fun _ => run_identifier name rfl (hasWords_within (by simp))
      (blanks.stops hname (hbrace _ (by decide)))) ?_
    refine .of (fun _ => run_star (t := blanks.chars) rfl blanks.holds (hbrace _ (by decide))) ?_
    refine .of (fun _ => run_char rfl) ?_
    refine ⟨_, rfl, ?_, ?_⟩
    · simp [Cursor.past, Cursor.close]
      omega
    · simp [Cursor.past, Cursor.close, Span.chars]
  | nameless keyword gap =>
    refine ⟨[(1, keyword.chars)], exists_finds ?_⟩
    simp only [Opening.chars, List.append_assoc, List.cons_append, List.nil_append, startInner, optional,
      run_inOrder_cons, run_inOrder_nil, run_group]
    refine .of (fun _ => run_keyword keyword rfl) ?_
    refine .of (fun _ => run_plus rfl gap.ne_nil gap.holds (hbrace _ (by decide))) ?_
    refine .of (fun _ => run_maybe_of_none (run_eq_none (by decide) ?_)) ?_
    · rintro _ ⟨⟩
      decide
    refine .of (fun _ => run_star_nil (hbrace _ (by decide))) ?_
    refine .of (fun _ => run_char rfl) ?_
    refine ⟨_, rfl, ?_, ?_⟩
    · simp [Cursor.past, Cursor.close]
      omega
    · simp [Cursor.past, Cursor.close, Span.chars]

/-- A member is found with its type, up to the star if that stands in front of the name. -/
lemma finds_field (type : Words) (gap : Gap) (mark : Option Blanks) (name : Identifier) (size : Option Identifier)
    (rest : List Char) :
    ∃ m, structAttribute.pattern.Finds ((StructMember.field type gap mark name size).chars ++ [';']) rest
      ((size.map fun i => (3, i.chars)).toList ++
        [(2, name.chars), (1, type.chars ++ (gap.chars ++ if mark.isSome then ['*'] else []))]) m := by
  have hend : ∀ s : CharSet, s.holds ';' = false → s.holds '[' = false → Stops s (sizeChars size ++ ';' :: rest) :=
    fun s h h' => stops_memberEnd h h' size rest
  cases mark with
  | none =>
    have h := finds_structAttribute_of (t := type.chars ++ gap.chars) (b := []) name size rest
      (by rw [List.append_assoc]; exact type.stops lacksWords_blank _) (by simp) ?_
    · simpa [StructMember.chars, starChars] using h
    intro k e onward hk h
    rw [List.append_assoc, List.nil_append] at hk
    rw [List.nil_append] at h
    refine run_gap type gap hk name.isWord (hend _ (by decide) (by decide)) (hend _ (by decide) (by decide)) ?_
    refine run_star_optional (Nat.zero_le 1) name rfl ?_
    rwa [Cursor.past_past, List.replicate_zero, List.append_nil]
  | some blanks =>
    have h := finds_structAttribute_of (t := type.chars ++ (gap.chars ++ ['*'])) (b := blanks.chars) name size rest
      (by rw [List.append_assoc]; exact type.stops lacksWords_blank _) blanks.holds ?_
    · simpa [StructMember.chars, starChars] using h
    intro k e onward hk h
    rw [List.append_assoc, List.append_assoc] at hk
    refine run_gap (v := []) type gap hk (by simp) (stops_cons (by decide)) (stops_cons (by decide)) ?_
    exact run_optional_char rfl (by rwa [Cursor.past_past, List.append_assoc])

/-- A member whose star stands against the type. -/
lemma finds_pointer (type : Words) (gap : Gap) (name : Identifier) (rest : List Char) :
    ∃ m, structPointer.pattern.Finds ((StructMember.pointer type gap name).chars ++ [';']) rest
      [(2, name.chars), (1, type.chars)] m := by
  apply exists_finds
  simp only [StructMember.chars, List.append_assoc, List.cons_append, List.nil_append, structPointer, inState,
    run_inOrder_cons, run_inOrder_nil, run_group]
  refine .of (fun _ => run_lineStart rfl) ?_
  refine .of (fun _ => run_star_nil (type.stops lacksWords_blank _)) ?_
  refine .of (fun _ => run_plus (s := typeSet) (t := type.chars) rfl type.ne_nil type.holds
    (stops_cons (by decide))) ?_
  refine .of (fun _ => run_char rfl) ?_
  refine .of (fun _ => run_plus (t := gap.chars) rfl gap.ne_nil gap.holds (name.stops lacksWords_blank _)) ?_
  refine .of (fun _ => run_identifier name rfl (hasWords_within (by simp)) (stops_cons (by decide))) ?_
  refine .of (fun _ => run_star_nil (stops_cons (by decide))) ?_
  refine .of (fun _ => run_char rfl) ?_
  refine ⟨_, rfl, ?_, ?_⟩
  · simp [Cursor.past, Cursor.close]
    omega
  · simp [Cursor.past, Cursor.close, Span.chars]

/-- Where the star stands against the type, it is not in front of a name. -/
lemma match?_structAttribute_pointer (type : Words) (rest : List Char) :
    structAttribute.pattern.match? (type.chars ++ '*' :: rest) = none := by
  have hsolid : Stops ⟨false, [.blank]⟩ (type.chars ++ '*' :: rest) := type.stops lacksWords_blank _
  refine (match?_lineStart_star hsolid).trans (match?_eq_none ?_)
  rintro t after hcs ha
  obtain ⟨g, u, rfl, hg, hu⟩ := ha.exists_cons
  have hunstarred : '*' ∉ u := hu.not_mem (by decide)
  have hend : ';' ∈ u := by
    obtain ⟨u₁, u₂, rfl, -, h₂⟩ := hu.exists_append [_, _, _, _]
    rw [eq_of_accepts_char h₂]
    simp
  have hne : ∀ l : List Char, '*' ∉ l → ∀ c ∈ l, (c != '*') = true := by
    rintro l hl c hc
    rw [bne_iff_ne]
    rintro rfl
    exact hl hc
  cases hg with
  | group hg =>
    obtain ⟨n, _, rfl, hn, hg⟩ := hg.exists_cons
    obtain ⟨b, s, rfl, hb, hs⟩ := hg.exists_cons
    -- The type goes up to the first star. Either there is none before the end, or a blank is before it.
    have htype : type.chars = n ++ (b ++ (s ++ (u ++ after)).takeWhile (· != '*')) := by
      have htake := congrArg (List.takeWhile (· != '*')) hcs
      rw [List.takeWhile_append_of_pos (hne _ (type.not_mem (by decide) (by decide))),
        List.append_assoc, List.append_assoc, List.append_assoc,
        List.takeWhile_append_of_pos (hne _ (hn.not_mem (by decide))),
        List.takeWhile_append_of_pos (hne _ (hb.not_mem (by decide)))] at htake
      simpa using htake
    cases hs with
    | without =>
      rw [List.nil_append, List.takeWhile_append_of_pos (hne u hunstarred)] at htype
      exact type.not_mem (c := ';') (by decide) (by decide) (htype ▸ by simp [hend])
    | once hs =>
      obtain ⟨hnil, hb⟩ := holds_of_accepts_plus hb
      rw [eq_of_accepts_char hs] at htype
      obtain ⟨b, c, rfl⟩ := b.eq_nil_or_concat'.resolve_left hnil
      have hword := type.last_isWord c (by simp [htype])
      have hlacks := lacks_of_word lacksWords_blank hword
      rw [hb c (by simp)] at hlacks
      cases hlacks

/-- There is a blank behind the type of a member. -/
lemma match?_structAttribute_eq_none (ha : ∀ c ∈ a, ¬ CharSet.holds ⟨false, [.blank]⟩ c) (rest : List Char) :
    structAttribute.pattern.match? (a ++ ';' :: rest) = none := by
  refine match?_eq_none_of_needs [_, _, _] (fun t ht => ⟨ht.not_mem (by decide), ?_⟩) ha
  obtain ⟨t₁, t, rfl, -, ht⟩ := ht.exists_cons
  obtain ⟨t₂, t₃, rfl, -, h₃⟩ := ht.exists_cons
  cases h₃ with
  | group h₃ =>
    obtain ⟨n, t, rfl, -, h₃⟩ := h₃.exists_cons
    obtain ⟨b, s, rfl, hb, -⟩ := h₃.exists_cons
    obtain ⟨hne, hholds⟩ := holds_of_accepts_plus hb
    obtain ⟨c, b, rfl⟩ := List.exists_cons_of_ne_nil hne
    exact ⟨c, by simp, hholds c List.mem_cons_self⟩

/-- An aggregate does not start before the brace. -/
lemma match?_startInner_eq_none (ha : '\x7b' ∉ a) (rest : List Char) :
    startInner.pattern.match? (a ++ ';' :: rest) = none :=
  match?_eq_none_of_avoids [_, _, _, _] (by decide) (by decide) ha

/-- A member does not reach beyond a brace. -/
lemma match?_member_eq_none (ha : ∀ c ∈ a, memberChar c) (rest : List Char) :
    ∀ r ∈ [structAttribute, structPointer], r.pattern.match? (a ++ '\x7b' :: rest) = none := by
  have hend : ';' ∉ a := fun h => (ha _ h).ne (by simp)
  intro r hr
  simp only [List.mem_cons, List.not_mem_nil, or_false] at hr
  rcases hr with rfl | rfl
  · exact match?_eq_none_of_avoids [_, _, _, _, _, _, _] (by decide) (by decide) hend
  · exact match?_eq_none_of_avoids [_, _, _, _, _, _, _] (by decide) (by decide) hend

lemma exists_picks_startInner {state : String} (hstate : state = "STRUCT" ∨ state = "RECURSIVE_STRUCT")
    (o : Opening) (rest : List Char) : ∃ gs m, Picks state startInner (o.chars ++ ['\x7b']) rest gs m := by
  obtain ⟨gs, hm⟩ := finds_startInner o rest
  obtain ⟨c, cs, hcs, hc⟩ : ∃ c cs, o.chars = c :: cs ∧ (c = 's' ∨ c = 'u') := by
    rcases o with ⟨_ | _, _, _, _⟩ | ⟨_ | _, _⟩ <;> exact ⟨_, _, rfl, by decide⟩
  refine ⟨gs, ?_⟩
  rcases hstate with rfl | rfl
  · refine exists_picks "STRUCT" [structAttribute, structPointer] hm (by rw [hcs]; rfl)
      (prefix_starting ("STRUCT", structRules) (by simp [stateRules]) ?_) ?_
    · rcases hc with rfl | rfl <;> exact ⟨_, rfl⟩
    · rw [List.append_assoc]
      exact match?_member_eq_none o.memberChar rest
  · refine exists_picks "RECURSIVE_STRUCT" [] hm (by rw [hcs]; rfl)
      (prefix_starting ("RECURSIVE_STRUCT", innerRules) (by simp [stateRules]) ?_) (by simp)
    rcases hc with rfl | rfl <;> exact ⟨_, rfl⟩

/-- The end of an aggregate takes the name behind it up to the first underscore. -/
lemma exists_picks_endNamedInner (gap : Gap) (name : Identifier)
    (start : ∀ c ∈ name.chars.head?, alphanumeric.holds c) (rest : List Char) :
    ∃ m, Picks "RECURSIVE_STRUCT" endNamedInner ('\x7d' :: (gap.chars ++ name.chars.takeWhile alphanumeric.holds))
      (name.chars.dropWhile alphanumeric.holds ++ ';' :: rest) [] m := by
  obtain ⟨c, cs, hcs⟩ := List.exists_cons_of_ne_nil name.ne_nil
  have hc : alphanumeric.holds c = true := start c (by rw [hcs]; rfl)
  have htaken : name.chars.takeWhile alphanumeric.holds = c :: cs.takeWhile alphanumeric.holds := by
    rw [hcs, List.takeWhile_cons_of_pos hc]
  have hstops : Stops alphanumeric (name.chars.dropWhile alphanumeric.holds ++ ';' :: rest) := by
    have hnot := List.head?_dropWhile_not alphanumeric.holds name.chars
    cases hdrop : name.chars.dropWhile alphanumeric.holds with
    | nil => exact stops_cons (by decide)
    | cons d ds =>
      rw [hdrop] at hnot
      exact stops_cons (by simpa using hnot)
  have hblank : CharSet.holds ⟨false, [.blank]⟩ c = false :=
    name.lacks lacksWords_blank c (by rw [hcs]; exact List.mem_cons_self)
  refine exists_picks "RECURSIVE_STRUCT" [] (exists_finds ?_) rfl
    (prefix_starting ("RECURSIVE_STRUCT", innerRules) (by simp [stateRules]) ⟨_, rfl⟩) (by simp)
  simp only [List.append_assoc, List.cons_append, endNamedInner, inState, run_inOrder_cons, run_inOrder_nil]
  refine .of (fun _ => run_char rfl) ?_
  refine .of (fun _ => run_plus (t := gap.chars) rfl gap.ne_nil gap.holds ?_) ?_
  · rw [htaken]
    exact stops_cons hblank
  refine .of (fun _ => run_plus (s := alphanumeric) rfl (by rw [htaken]; exact List.cons_ne_nil _ _)
    (fun d hd => List.mem_takeWhile_imp hd) hstops) ?_
  refine ⟨_, rfl, ?_, ?_⟩
  · simp [Cursor.past]
    omega
  · rfl

lemma exists_picks_endInner (rest : List Char) :
    ∃ m, Picks "RECURSIVE_STRUCT" endInner ['\x7d', ';'] rest [] m :=
  exists_picks "RECURSIVE_STRUCT" [endNamedInner] (exists_finds ⟨_, rfl, rfl, rfl⟩) rfl
    (prefix_starting ("RECURSIVE_STRUCT", innerRules) (by simp [stateRules]) ⟨_, rfl⟩)
    (List.forall_mem_singleton.mpr rfl)

/-- Within aggregates no rule is for what is left of a member. -/
lemma pick_recursive_eq_none (ha : ∀ c ∈ a, memberChar c) (hsolid : Stops ⟨false, [.blank]⟩ (a ++ ';' :: rest)) :
    pick rules "RECURSIVE_STRUCT" (a ++ ';' :: rest) = none := by
  have hnone := match?_startInner_eq_none (fun h => (ha _ h).ne (by simp)) rest
  have hinner : ("RECURSIVE_STRUCT", innerRules) ∈ stateRules := by simp [stateRules]
  cases a with
  | nil => exact pick_eq_none [] (starting_subset _ hinner (List.nil_subset [])) (by simp)
  | cons c a =>
    refine pick_eq_none [startInner] ?_ (List.forall_mem_singleton.mpr hnone)
    rcases ha c List.mem_cons_self with hblank | hword | hmark
    · have hnot := hsolid c rfl
      simp [CharSet.holds, CharSet.Item.holds, hblank] at hnot
    · exact starting_subset_of_word (innerRules, [], [startInner]) hinner (by simp [wordRules]) hword
    · simp only [List.mem_cons, List.not_mem_nil, or_false] at hmark
      rcases hmark with rfl | rfl | rfl <;> exact starting_subset _ hinner (List.nil_subset _)

/-- In a struct no rule is for what is left of a name. -/
lemma pick_struct_eq_none (ha : ∀ c ∈ a, wordSet.holds c) (rest : List Char) :
    pick rules "STRUCT" (a ++ ';' :: rest) = none := by
  have hblank : ∀ c ∈ a, ¬ CharSet.holds ⟨false, [.blank]⟩ c := by
    intro c hc
    rw [Bool.not_eq_true]
    exact lacks_of_word lacksWords_blank (ha c hc)
  have hmark : ∀ d, wordSet.holds d = false → d ∉ a := fun d hd hmem => by
    rw [ha d hmem] at hd
    cases hd
  have hstruct : ("STRUCT", structRules) ∈ stateRules := by simp [stateRules]
  cases a with
  | nil => exact pick_eq_none [] (starting_subset _ hstruct (List.nil_subset [])) (by simp)
  | cons c a =>
    have hwords : (structRules, [structAttribute, structPointer],
        [structAttribute, structPointer, startInner]) ∈ wordRules := by
      simp [wordRules]
    refine pick_eq_none _ (starting_subset_of_word _ hstruct hwords (ha c List.mem_cons_self)) ?_
    intro r hr
    simp only [List.mem_cons, List.not_mem_nil, or_false] at hr
    rcases hr with rfl | rfl | rfl
    · exact match?_structAttribute_eq_none hblank rest
    · exact match?_eq_none_of_avoids [_, _, _] (by decide) (by decide) (hmark '*' (by decide))
    · exact match?_startInner_eq_none (hmark '\x7b' (by decide)) rest

end Header.Table

/-! ### Reading bodies -/

namespace HeaderReader

open Lexer Header Header.Table Declaring Canonical Pattern

variable {atEnd : Bool} {stack : List String} {state : String} {id : ClassId} {a rest : List Char}
  {x : HeaderReader}

/-- Where a reader is while a struct is open. -/
structure InStruct (id : ClassId) (stack : List String) (state : String) (ahead : List Char) (x : HeaderReader) :
    Prop where
  stands : Stands stack state ahead x
  current : x.host.currentStruct = some id

namespace InStruct

/-- Blanks are passed over. -/
lemma passBlanks (b : Blanks) (hstate : state ∈ openStates) (hrest : Solid rest)
    (hx : InStruct id stack state (b.chars ++ rest) x) :
    Reads atEnd x (Pure.pure ()) fun _ y => InStruct id stack state rest y := by
  obtain ⟨⟨doc, error, hx⟩, hid⟩ := hx
  refine (Reads.passBlanks hstate b.isBlank hrest hx).mono ?_
  rintro _ y ⟨hy, hhost⟩
  exact ⟨⟨_, error, hy⟩, hhost ▸ hid⟩

/-- A character is given up where no rule applies. -/
lemma giveUp {c : Char} (hpick : pick rules state (c :: rest) = none)
    (hx : InStruct id stack state (c :: rest) x) :
    Reads true x (Pure.pure ()) fun _ y => InStruct id stack state rest y := by
  obtain ⟨⟨doc, error, hx⟩, hid⟩ := hx
  refine (Reads.giveUp hx hpick).mono ?_
  rintro _ y ⟨hy, hhost⟩
  exact ⟨⟨doc, _, hy⟩, hhost ▸ hid⟩

/-- A rule that leaves the open struct as it is. -/
lemma step {α : Type} {act : Act Binding α} {r : Rule} {mv : Move} {t : List Char} {gs : List (Nat × List Char)}
    {m : Match} {stack' : List String} {state' : String} (hm : Picks state r t rest gs m) (hr : Makes r mv)
    (hp : Performs m mv.name?.toList x.host act fun _ => x.host) (hmv : mv.Turns stack state stack' state')
    (hmove : isMove state') (hx : InStruct id stack state (t ++ rest) x) :
    Reads atEnd x act fun _ y => InStruct id stack' state' rest y := by
  obtain ⟨⟨doc, error, hx⟩, hid⟩ := hx
  refine (Reads.step hx hm.pick hm.length hr hp (fun _ => rfl) hmv hmove).mono ?_
  rintro _ y ⟨hy, hhost⟩
  exact ⟨⟨doc, error, hy⟩, hhost ▸ hid⟩

/-- A text is skipped up to its end where no rule is for what is left of it at any place. -/
lemma skip (hstate : state ∈ openStates)
    (hpick : ∀ a', a' <:+ a → Solid (a' ++ ';' :: rest) → pick rules state (a' ++ ';' :: rest) = none)
    (hx : InStruct id stack state (a ++ ';' :: rest) x) :
    Reads true x (Pure.pure ()) fun _ y => InStruct id stack state rest y := by
  -- By induction on its length: blanks at its start are passed over, and then a character is given up.
  induction hn : a.length using Nat.strongRecOn generalizing a x with
  | ind n ih =>
    subst hn
    have hsolid : Solid (a.dropWhile Text.isBlank ++ ';' :: rest) := by
      have hdrop := solid_dropWhile a
      cases h : a.dropWhile Text.isBlank with
      | nil => exact stops_cons (by decide)
      | cons c cs => exact stops_cons ((h ▸ hdrop) c rfl)
    have hsuffix := List.dropWhile_suffix Text.isBlank (l := a)
    rw [← List.takeWhile_append_dropWhile (p := Text.isBlank) (l := a), List.append_assoc] at hx
    refine (passBlanks ⟨_, fun c hc => List.mem_takeWhile_imp hc⟩ hstate hsolid hx).skip fun y hy => ?_
    cases hdrop : a.dropWhile Text.isBlank with
    | nil =>
      rw [hdrop] at hy hsolid
      exact giveUp (hpick [] List.nil_suffix hsolid) hy
    | cons c cs =>
      rw [hdrop] at hy hsolid hsuffix
      refine (giveUp (hpick (c :: cs) hsuffix hsolid) hy).skip fun z hz => ?_
      have hcs := (List.suffix_cons c cs).trans hsuffix
      have hlength : cs.length < a.length := hsuffix.length_le
      exact ih cs.length hlength (fun a' ha' => hpick a' (ha'.trans hcs)) hz rfl

/-- Within aggregates members are skipped. -/
lemma skipMember (m : StructMember) (hx : InStruct id stack "RECURSIVE_STRUCT" (m.chars ++ ';' :: rest) x) :
    Reads true x (Pure.pure ()) fun _ y => InStruct id stack "RECURSIVE_STRUCT" rest y :=
  skip (by decide)
    (fun _ ha hsolid => pick_recursive_eq_none (fun c hc => m.memberChar c (ha.subset hc)) hsolid) hx

/-- What is left of a name is skipped. -/
lemma skipWord (hstate : state = "STRUCT" ∨ state = "RECURSIVE_STRUCT") (ha : ∀ c ∈ a, wordSet.holds c)
    (hx : InStruct id stack state (a ++ ';' :: rest) x) :
    Reads true x (Pure.pure ()) fun _ y => InStruct id stack state rest y := by
  rcases hstate with rfl | rfl
  · exact skip (by decide) (fun _ ha' _ => pick_struct_eq_none (fun c hc => ha c (ha'.subset hc)) rest) hx
  · exact skip (by decide)
      (fun _ ha' hsolid => pick_recursive_eq_none (fun c hc => .inr (.inl (ha c (ha'.subset hc)))) hsolid) hx

/-- An aggregate is left at its end. -/
lemma leave (hstate : state = "STRUCT" ∨ state = "RECURSIVE_STRUCT") (closing : Closing)
    (hx : InStruct id (stack ++ [state]) "RECURSIVE_STRUCT" ('\x7d' :: (closing.chars ++ rest)) x) :
    Reads true x (Pure.pure ()) fun _ y => InStruct id stack state rest y := by
  have hmove : isMove state := by
    rcases hstate with rfl | rfl <;> decide
  have hnamed : Makes endNamedInner (.leave none) := makes_of_mem (by simp [ruleMoves, rules])
  have hnameless : Makes endInner (.leave none) := makes_of_mem (by simp [ruleMoves, rules])
  cases closing with
  | named gap name start =>
    obtain ⟨m, hm⟩ := exists_picks_endNamedInner gap name start rest
    have htext : '\x7d' :: ((Closing.named gap name start).chars ++ rest) =
        '\x7d' :: (gap.chars ++ name.chars.takeWhile alphanumeric.holds) ++
          (name.chars.dropWhile alphanumeric.holds ++ ';' :: rest) := by
      simp [Closing.chars, ← List.append_assoc (List.takeWhile _ _)]
    rw [htext] at hx
    refine (step hm hnamed (performs_nil m x.host) rfl hmove hx).skip fun y hy => ?_
    exact skipWord hstate (fun c hc => name.isWord c ((List.dropWhile_suffix _).subset hc)) hy
  | nameless =>
    obtain ⟨m, hm⟩ := exists_picks_endInner rest
    exact step hm hnameless (performs_nil m x.host) rfl hmove hx

/-- An aggregate is skipped where its body is. -/
lemma skipAggregate (hstate : state = "STRUCT" ∨ state = "RECURSIVE_STRUCT") (opening : Opening)
    (inner : List Char) (closing : Closing)
    (hinner : ∀ y,
      InStruct id (stack ++ [state]) "RECURSIVE_STRUCT" (inner ++ '\x7d' :: (closing.chars ++ rest)) y →
      Reads true y (Pure.pure ()) fun _ z =>
        InStruct id (stack ++ [state]) "RECURSIVE_STRUCT" ('\x7d' :: (closing.chars ++ rest)) z)
    (hx : InStruct id stack state (opening.chars ++ '\x7b' :: (inner ++ '\x7d' :: (closing.chars ++ rest))) x) :
    Reads true x (Pure.pure ()) fun _ y => InStruct id stack state rest y := by
  obtain ⟨gs, m, hm⟩ := exists_picks_startInner hstate opening (inner ++ '\x7d' :: (closing.chars ++ rest))
  have hmakes : Makes startInner (.enter "RECURSIVE_STRUCT" none) := makes_of_mem (by simp [ruleMoves, rules])
  have htext : ∀ cs, opening.chars ++ '\x7b' :: cs = (opening.chars ++ ['\x7b']) ++ cs := by simp
  rw [htext] at hx
  refine (step hm hmakes (performs_nil m x.host) ⟨rfl, rfl⟩ (by decide) hx).skip fun y hy => ?_
  exact (hinner y hy).skip fun z hz => leave hstate closing hz

/-- The body of an aggregate is skipped. -/
lemma skipBody (body : Body) (hx : InStruct id stack "RECURSIVE_STRUCT" (body.chars ++ '\x7d' :: rest) x) :
    Reads true x (Pure.pure ()) fun _ y => InStruct id stack "RECURSIVE_STRUCT" ('\x7d' :: rest) y := by
  induction body generalizing stack rest x with
  | nil blanks => exact passBlanks blanks (by decide) (stops_cons (by decide)) hx
  | member blanks m body ih =>
    rw [Body.chars, List.append_assoc, List.append_assoc, List.cons_append] at hx
    refine (passBlanks blanks (by decide) (m.solid _) hx).skip fun y hy => ?_
    exact (skipMember m hy).skip fun z hz => ih hz
  | aggregate blanks opening inner closing body ihInner ih =>
    simp only [Body.chars, List.append_assoc, List.cons_append] at hx
    refine (passBlanks blanks (by decide) (opening.solid _) hx).skip fun y hy => ?_
    exact (skipAggregate (.inr rfl) opening inner.chars closing (fun z hz => ihInner hz) hy).skip fun z hz => ih hz

/-- In a struct a member is declared. -/
lemma readMember (member : StructMember) (hx : InStruct id stack "STRUCT" (member.chars ++ ';' :: rest) x) :
    Reads atEnd x (member.declare id) fun _ y => InStruct id stack "STRUCT" rest y := by
  have htext : member.chars ++ ';' :: rest = (member.chars ++ [';']) ++ rest := by simp
  rw [htext] at hx
  cases member with
  | field type gap mark name size =>
    obtain ⟨c, cs, hcs, hc⟩ := type.exists_cons
    have hstart := forall_word (P := fun c => [structAttribute] <+: starting "STRUCT" c)
      (onWords_struct.of_prefix ⟨_, rfl⟩) hc
    obtain ⟨m, hm⟩ := exists_picks "STRUCT" [] (finds_field type gap mark name size rest)
      (by rw [StructMember.chars, hcs]; rfl) hstart (by simp)
    have htype := (trimmed_of_lookup (n := 1) hm (by cases size <;> rfl)).trans
      (strip_typeChars type gap mark name size)
    have hsize : m.group? 3 = size.map (·.text) := by
      rw [hm.group?]
      cases size <;> rfl
    have hname := trimmed_of_word (n := 2) name hm (by cases size <;> rfl)
    have hperforms := performs_structAttribute hx.current hname htype hsize
    exact step hm makes_structAttribute hperforms ⟨rfl, rfl⟩ (by decide) hx
  | pointer type gap name =>
    obtain ⟨c, cs, hcs, hc⟩ := type.exists_cons
    have hstart := forall_word (P := fun c => [structAttribute, structPointer] <+: starting "STRUCT" c)
      onWords_struct hc
    have hnone :
        structAttribute.pattern.match? ((StructMember.pointer type gap name).chars ++ [';'] ++ rest) = none := by
      simp only [StructMember.chars, List.append_assoc, List.cons_append]
      exact match?_structAttribute_pointer type _
    obtain ⟨m, hm⟩ := exists_picks "STRUCT" [structAttribute] (finds_pointer type gap name rest)
      (by rw [StructMember.chars, hcs]; rfl) hstart (List.forall_mem_singleton.mpr hnone)
    have hmakes : Makes structPointer (.stay "STRUCT_ATTRIBUTE_PTR") := makes_of_mem (by simp [ruleMoves, rules])
    have hperforms : Performs m ["STRUCT_ATTRIBUTE_PTR"] x.host
        ((StructMember.pointer type gap name).declare id) fun _ => x.host := by
      have hstarred : s!"{String.ofList type.chars} *" = String.ofList (type.chars ++ [' ', '*']) := by
        rw [String.ofList_append]
        rfl
      refine performs_of_onBinding rfl fun y hy => ?_
      rw [effect_addStructPointer (hy ▸ hx.current), trimmed_of_word name hm rfl,
        (trimmed_of_lookup (n := 1) hm rfl).trans type.strip, hstarred]
      rfl
    exact step hm hmakes hperforms ⟨rfl, rfl⟩ (by decide) hx

/-- The body of a struct declares the members of the struct itself. -/
lemma readBody (body : Body) (hx : InStruct id stack "STRUCT" (body.chars ++ '\x7d' :: rest) x) :
    Reads true x (body.members.forM (StructMember.declare id)) fun _ y =>
      InStruct id stack "STRUCT" ('\x7d' :: rest) y := by
  induction body generalizing x with
  | nil blanks => exact passBlanks blanks (by decide) (stops_cons (by decide)) hx
  | member blanks m body ih =>
    rw [Body.chars, List.append_assoc, List.append_assoc, List.cons_append] at hx
    refine (passBlanks blanks (by decide) (m.solid _) hx).skip fun y hy => ?_
    exact (readMember m hy).bind fun _ z hz => ih hz
  | aggregate blanks opening inner closing body _ ih =>
    simp only [Body.chars, List.append_assoc, List.cons_append] at hx
    refine (passBlanks blanks (by decide) (opening.solid _) hx).skip fun y hy => ?_
    exact (skipAggregate (.inl rfl) opening inner.chars closing (fun z hz => skipBody inner hz) hy).skip
      fun z hz => ih hz

end InStruct

/-- A struct with a body is read: it declares its own members. -/
lemma reading_structBody {doc : String} {error : Int} (body : Body) (name : Identifier)
    (hx : At doc stack "INITIAL" error (body.structChars name ++ rest) x) :
    Reads true x (Body.declare doc body name) fun _ y => Stands stack "INITIAL" rest y := by
  obtain ⟨m, hm⟩ := exists_picks_structStart (body.chars ++ '\x7d' :: ' ' :: (name.chars ++ ';' :: rest))
  have htext : body.structChars name ++ rest =
      structStart ++ (body.chars ++ '\x7d' :: ' ' :: (name.chars ++ ';' :: rest)) := by
    simp [Body.structChars, structStart]
  rw [htext] at hx
  obtain rfl := hx.comment
  refine (Reads.step hx hm.pick hm.length makes_startNamelessStruct (performs_startNamelessStruct m x.host)
    (fun _ => rfl) ⟨rfl, rfl⟩ (by decide)).bind fun id y h => ?_
  obtain ⟨hy, hhost⟩ := h
  have hid : y.host.currentStruct = some id := by
    rw [hhost]
  refine (InStruct.readBody body ⟨⟨_, error, hy⟩, hid⟩).bind fun _ z hz => ?_
  obtain ⟨⟨doc, error', hz⟩, hid⟩ := hz
  obtain ⟨m', hm'⟩ := exists_picks_structEnd name rest
  have hend : '\x7d' :: ' ' :: (name.chars ++ ';' :: rest) = '\x7d' :: ' ' :: (name.chars ++ [';']) ++ rest := by
    simp
  rw [hend] at hz
  refine (Reads.step hz hm'.pick hm'.length makes_endNamedStruct
    (performs_endNamedStruct hid (trimmed_of_word name hm' rfl)) (fun _ => rfl) rfl (by decide)).mono ?_
  rintro _ w ⟨hw, -⟩
  exact ⟨_, _, hw⟩

/-- A struct with members and aggregates in its body. Draining it declares a struct with the members of its own,
in their order, and with none of the members of an aggregate. It ends where it started, or with the fault that
declaring them ends with. -/
theorem drained_struct (body : Body) (name : Identifier) (hrows : x.rows = rules.map .rule)
    (hstate : x.state = "INITIAL") (hahead : x.ahead = body.structChars name) :
    (Body.declare x.host.comment body name).Ends x.host.binding
      (fun _ b => ∃ tokens y, (drain callbacks true).effect x = (.ok (tokens, none), y) ∧ y.host.binding = b ∧
        y.state = "INITIAL" ∧ y.stack = x.stack ∧ y.ahead = [])
      (fun f b => ∃ tokens y, (drain callbacks true).effect x = (.ok (tokens, some f), y) ∧
        y.host.binding = b) := by
  have hx : At x.host.comment x.stack "INITIAL" x.error (body.structChars name ++ []) x :=
    ⟨hrows, rfl, rfl, hstate, rfl, by rw [hahead, List.append_nil]⟩
  have hdrain := (reading_structBody body name hx).effect_drain hrows fun _ y ⟨_, _, hy⟩ =>
    nextToken_of_nil hy.rows consuming_rules hy.ahead true
  refine hdrain.mono ?_ fun _ _ h => h
  rintro _ b ⟨tokens, y, hdrain, hb, _, _, hy⟩
  exact ⟨tokens, y, hdrain, hb, hy.state, hy.stack, hy.ahead⟩

/-! ### A struct with a union in it -/

/-- A member of a type that is one word. -/
def intMember (name : Identifier) : StructMember :=
  .field ⟨['i', 'n', 't'], by decide, by decide, by decide, by decide⟩ ⟨⟨[' '], by decide⟩, by decide⟩ none name none

/-- A body with a struct in a union in it, and with a pointer behind them whose star stands against the type. -/
def nestedBody : Body :=
  .aggregate ⟨['\n'], by decide⟩ (.nameless .union ⟨⟨[' '], by decide⟩, by decide⟩)
    (.member ⟨[' '], by decide⟩ (intMember ⟨['a'], by decide, by decide⟩)
      (.aggregate ⟨[' '], by decide⟩
        (.named .struct ⟨⟨[' '], by decide⟩, by decide⟩ ⟨['P'], by decide, by decide⟩ ⟨[' '], by decide⟩)
        (.member ⟨[' '], by decide⟩ (intMember ⟨['c'], by decide, by decide⟩) (.nil ⟨[' '], by decide⟩))
        .nameless (.nil ⟨['\n'], by decide⟩)))
    (.named ⟨⟨[' '], by decide⟩, by decide⟩ ⟨['b', '_', 'd'], by decide, by decide⟩ (by decide))
    (.member ⟨['\n'], by decide⟩ (intMember ⟨['z'], by decide, by decide⟩)
      (.member ⟨['\n'], by decide⟩
        (.pointer ⟨['c', 'h', 'a', 'r'], by decide, by decide, by decide, by decide⟩ ⟨⟨[' '], by decide⟩, by decide⟩
          ⟨['p'], by decide, by decide⟩)
        (.nil ⟨['\n'], by decide⟩)))

/-- A reader in front of a struct with this body. -/
def beforeNested : HeaderReader :=
  { unread with ahead := nestedBody.structChars ⟨['N'], by decide, by decide⟩ }

/-- Neither the members of the union nor those of the struct in it are declared. -/
theorem drained_struct_nested :
    beforeNested.ahead = ("typedef struct \x7b\nunion \x7b int a; struct P \x7b int c; \x7d;\n\x7d b_d;\n" ++
      "int z;\nchar* p;\n\x7d N;").toList ∧
    ∃ tokens y, (drain callbacks true).effect beforeNested = (.ok (tokens, none), y) ∧
      y.host.binding.members.toList.map (fun m => m.ctype.name) = ["z", "p"] ∧ y.state = "INITIAL" ∧ y.stack = [] := by
  refine ⟨by decide +kernel, ?_⟩
  have hended := drained_struct nestedBody _ (x := beforeNested) rfl rfl rfl
  obtain ⟨hok, hmembers⟩ :
      ((Body.declare beforeNested.host.comment nestedBody ⟨['N'], by decide, by decide⟩).effect
        beforeNested.host.binding).1 = .ok () ∧
      ((Body.declare beforeNested.host.comment nestedBody ⟨['N'], by decide, by decide⟩).effect
        beforeNested.host.binding).2.members.toList.map (fun m => m.ctype.name) = ["z", "p"] := by
    decide +kernel
  obtain ⟨b, hdeclared⟩ := Act.exists_effect_eq_ok hok
  rw [hdeclared] at hmembers
  obtain ⟨tokens, y, hdrain, rfl, hstate, hstack, -⟩ := hended.ok hdeclared
  exact ⟨tokens, y, hdrain, hmembers, hstate, hstack⟩

end HeaderReader

end HeaderBind
