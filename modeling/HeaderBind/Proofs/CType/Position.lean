import HeaderBind.Method.Declare
import HeaderBind.Proofs.Pattern.Matching
import HeaderBind.Proofs.Text.Blank
import Mathlib.Data.List.TakeWhile

/-!
# The kind of a type in each position

A type is looked up in three ways: as the result of a method, as the type of an attribute, where it is
marked as borrowed first, and as the type of an argument. All three come down to one look into the
registry (`kindAsAttribute_eq`, `kindAsResult_eq`, `kindAsArgument_eq`), but not under the same name: blanks
are made single in two of them only, and a tagged struct goes by its tag in two of them only, which do
not agree on what a tag is.
-/

namespace HeaderBind

namespace Text

variable {word cs : List Char}

lemma wordsFrom_append (h : ∀ c ∈ word, isBlank c = false) (acc : List Char) :
    wordsFrom acc (word ++ cs) = wordsFrom (word.reverse ++ acc) cs := by
  induction word generalizing acc with
  | nil => rfl
  | cons c word ih =>
    rw [List.cons_append, wordsFrom, if_neg (by simp [h c List.mem_cons_self])]
    rw [ih fun d hd => h d (List.mem_cons_of_mem c hd)]
    simp

/-- A word and a blank after it are taken off the front. -/
lemma words_append {w t : String} (hw : ∀ c ∈ w.toList, isBlank c = false) (hne : w ≠ "") :
    words (w ++ " " ++ t) = w :: words t := by
  have hempty : w.toList ≠ [] := by simpa using hne
  have hblank : isBlank ' ' = true := by decide
  simp only [words, String.toList_append, List.append_assoc]
  rw [wordsFrom_append hw]
  simp [wordsFrom, hblank, hempty]

/-- A text without blanks is one word. -/
lemma words_of_forall {w : String} (hw : ∀ c ∈ w.toList, isBlank c = false) (hne : w ≠ "") :
    words w = [w] := by
  have hempty : w.toList ≠ [] := by simpa using hne
  rw [words, ← List.append_nil w.toList, wordsFrom_append hw]
  simp [wordsFrom, hempty]

end Text

namespace Registry

variable {r : Registry} {t tag word : String} {words : List String}

/-! ### One look into the registry -/

/-- The kind of a type that stands as the result of a method. -/
def kindAsResult (r : Registry) (t : String) : Option Kind :=
  (r.select t).toOption.map Selection.kind

/-- The kind of a type that stands as the type of an attribute. -/
def kindAsAttribute (r : Registry) (t : String) : Option Kind :=
  (r.select s!"BORROWED {t}").toOption.map Selection.kind

/-- The kind of a type that stands as the type of an argument. -/
def kindAsArgument (r : Registry) (t : String) : Option Kind :=
  (Method.selectArgument r t).map Selection.kind

/-- The type has the same kind in all three positions, or none in all of them. -/
def SameKind (r : Registry) (t : String) : Prop :=
  r.kindAsResult t = r.kindAsAttribute t ∧ r.kindAsArgument t = r.kindAsAttribute t

/-- A type with its blanks made single. -/
def spaced (t : String) : String :=
  " ".intercalate (Text.words t)

/-- The kind that is selected, by the words that are left to look up. -/
lemma kind_select (hw : Text.words ((structTag? t).getD t) = word :: words) :
    (r.select t).toOption.map Selection.kind =
      Dict.get? r (some (" ".intercalate (if word ∈ marks then words else word :: words))) := by
  rw [select, hw]
  by_cases hm : word ∈ marks
  · simp only [List.contains_iff_mem, hm, if_true, kindOf]
    cases Dict.get? r (some (" ".intercalate words)) <;> rfl
  · simp only [List.contains_iff_mem, hm, if_false, kindOf]
    cases Dict.get? r (some (" ".intercalate (word :: words))) <;> rfl

lemma structTag?_of_start (h : "struct ".toList.isPrefixOf t.toList = false) :
    structTag? t = none := by
  rw [structTag?, h]

lemma kindAsAttribute_eq (r : Registry) (t : String) :
    r.kindAsAttribute t = Dict.get? r (some (spaced t)) := by
  have happend : s!"BORROWED {t}" = "BORROWED" ++ " " ++ t := rfl
  have htag : structTag? ("BORROWED" ++ " " ++ t) = none :=
    structTag?_of_start (by simp [String.toList_append, List.isPrefixOf])
  have hmark : ("BORROWED".toList.all fun c => !Text.isBlank c) = true := by decide
  have hw : Text.words ((structTag? ("BORROWED" ++ " " ++ t)).getD ("BORROWED" ++ " " ++ t)) =
      "BORROWED" :: Text.words t := by
    rw [htag, Option.getD_none]
    exact Text.words_append (by simpa only [List.all_eq_true, Bool.not_eq_true'] using hmark) (by decide)
  rw [kindAsAttribute, happend, kind_select hw, if_pos (by decide)]
  rfl

lemma kindAsResult_eq (hw : Text.words t = word :: words) (hm : word ∉ marks)
    (htag : structTag? t = none) : r.kindAsResult t = Dict.get? r (some (spaced t)) := by
  rw [kindAsResult, kind_select (by rw [htag]; exact hw), if_neg hm, spaced, hw]

lemma kindAsArgument_eq (r : Registry) (t : String) :
    r.kindAsArgument t = (Dict.get? r (some t)).or
      ((Method.announcedStruct.match? t.toList).bind fun m => Dict.get? r (some (m.group 1))) := by
  rw [kindAsArgument, Method.selectArgument]
  cases Dict.get? r (some t) with
  | some kind => rfl
  | none =>
    cases Method.announcedStruct.match? t.toList with
    | none => rfl
    | some m =>
      show Option.map Selection.kind ((Dict.get? r (some (m.group 1))).bind fun kind =>
        some ⟨kind, m.group 1, []⟩) = Dict.get? r (some (m.group 1))
      cases Dict.get? r (some (m.group 1)) <;> rfl

/-! ### Tags -/

lemma isBlank_of_isLetterOrDigit {c : Char} (h : isLetterOrDigit c) : Text.isBlank c = false := by
  have hranges := Text.isAlphanum_iff.mp h
  simp only [Text.isBlank, Text.blankRanges, List.any_cons, List.any_nil, Bool.or_eq_false_iff,
    Bool.and_eq_false_iff, decide_eq_false_iff_not, Nat.not_le, and_true]
  omega

/-- The tag of a struct is one word, and the struct is not. -/
lemma structTag?_eq_some (h : structTag? t = some tag) :
    Text.words tag = [tag] ∧ ' ' ∉ tag.toList ∧ ' ' ∈ t.toList := by
  rw [structTag?] at h
  split at h
  next => cases h
  next hstart =>
    dsimp only at h
    split at h
    next hname =>
      obtain rfl := Option.some.inj h
      simp only [Bool.and_eq_true, Bool.not_eq_true', List.isEmpty_eq_false_iff] at hname
      have hblank : ∀ c ∈ (t.toList.drop 7).takeWhile isLetterOrDigit, Text.isBlank c = false :=
        fun c hc => isBlank_of_isLetterOrDigit (List.mem_takeWhile_imp hc)
      refine ⟨Text.words_of_forall ?_ ?_, ?_, ?_⟩
      · rwa [String.toList_ofList]
      · simpa using hname.1
      · rw [String.toList_ofList]
        intro hmem
        cases hblank _ hmem
      · obtain ⟨rest, hrest⟩ := List.isPrefixOf_iff_prefix.mp hstart
        rw [← hrest]
        exact List.mem_append_left rest (by decide)
    next => cases h

end Registry

namespace Method

variable {t : String} {m : Match}

/-- The tag of an announced struct lies within the type. -/
lemma announced_eq_some (h : announcedStruct.match? t.toList = some m) :
    ∃ rest, t.toList = "struct ".toList ++ ((m.group 1).toList ++ ("_t *".toList ++ rest)) := by
  simp only [Pattern.match?, Pattern.matchFrom, Pattern.matchAt, Option.map_eq_some_iff] at h
  obtain ⟨e, he, rfl⟩ := h
  rw [announcedStruct, Pattern.run_inOrder_cons] at he
  obtain ⟨k₁, hk₁, he⟩ := Pattern.exists_end_of_run he
  rw [Pattern.run_inOrder_cons, Pattern.run] at he
  obtain ⟨k₂, hk₂, he⟩ := Pattern.exists_end_of_run he
  obtain ⟨k₃, hk₃, he⟩ := Pattern.exists_end_of_run he
  obtain rfl := Option.some.inj he
  obtain ⟨⟨hstart, -⟩, -⟩ := Pattern.between_of_mem_ends_spelled hk₁
  obtain ⟨tag, ⟨htag, hlength⟩, -⟩ := Pattern.accepts_of_mem_ends hk₂
  obtain ⟨⟨hend, -⟩, hgroups⟩ := Pattern.between_of_mem_ends_spelled hk₃
  -- The group is what lies between the two fixed texts.
  have hgroup : Match.group ⟨⟨t.toList, k₃.pos - 0⟩, k₃.groups⟩ 1 = String.ofList tag := by
    simp [Match.group, Match.group?, hgroups, Cursor.close, Span.chars, hlength, htag]
  refine ⟨k₃.rest, ?_⟩
  rw [hgroup, ← hend, String.toList_ofList (l := tag)]
  exact hstart.trans (congrArg _ htag)

end Method

namespace Registry

variable {t tag word : String} {words : List String}

lemma get?_single (a b : String) (kind : Kind) :
    Dict.get? (⟨[(some a, kind)]⟩ : Registry) (some b) = if b = a then some kind else none := by
  by_cases h : b = a
  · simp [Dict.get?, h]
  · have hne : (some b == some a) = false := by simpa using h
    simp [Dict.get?, List.lookup_cons, hne, h]

/-- The struct of a tag is looked up under the tag when it stands as a result, and never under its own
name. -/
lemma kindAsResult_of_tag (h : structTag? t = some tag) :
    ∃ key, key ≠ t ∧ ∀ r : Registry, r.kindAsResult t = Dict.get? r (some key) := by
  obtain ⟨hwords, hno, hblank⟩ := structTag?_eq_some h
  refine ⟨" ".intercalate (if tag ∈ marks then [] else [tag]), ?_, ?_⟩
  · rintro rfl
    split at hblank
    · simp at hblank
    · exact hno (by simpa using hblank)
  · intro r
    exact kind_select (by rw [h]; exact hwords)

/-- A type has the same kind in every position, whatever is registered, if and only if its blanks are
single and it starts like no tagged struct. -/
theorem sameKind_iff (hw : Text.words t = word :: words) (hm : word ∉ marks) :
    (∀ r : Registry, r.SameKind t) ↔
      spaced t = t ∧ structTag? t = none ∧ Method.announcedStruct.match? t.toList = none := by
  constructor
  · intro h
    have hspaced : spaced t = t := by
      by_contra hne
      have hsame := (h ⟨[(some t, .void)]⟩).2
      rw [kindAsArgument_eq, kindAsAttribute_eq, get?_single, get?_single, if_pos rfl, if_neg hne] at hsame
      cases hsame
    have htag : structTag? t = none := by
      by_contra hne
      obtain ⟨tag, htag⟩ := Option.ne_none_iff_exists'.mp hne
      obtain ⟨key, hkey, hresult⟩ := kindAsResult_of_tag htag
      have hsame := (h ⟨[(some t, .void)]⟩).1
      rw [hresult, kindAsAttribute_eq, hspaced, get?_single, get?_single, if_neg hkey, if_pos rfl] at hsame
      cases hsame
    refine ⟨hspaced, htag, ?_⟩
    by_contra hne
    obtain ⟨m, hmatch⟩ := Option.ne_none_iff_exists'.mp hne
    have hgroup : t ≠ m.group 1 := by
      obtain ⟨rest, hrest⟩ := Method.announced_eq_some hmatch
      intro heq
      have hlength := congrArg List.length hrest
      rw [← heq] at hlength
      simp only [List.length_append] at hlength
      have : "struct ".toList.length = 7 := rfl
      omega
    have hsame := (h ⟨[(some (m.group 1), .void)]⟩).2
    rw [kindAsArgument_eq, kindAsAttribute_eq, hspaced, hmatch, get?_single, if_neg hgroup,
      Option.bind_some, get?_single, if_pos rfl] at hsame
    cases hsame
  · rintro ⟨hspaced, htag, hmatch⟩ r
    constructor
    · rw [kindAsResult_eq hw hm htag, kindAsAttribute_eq]
    · rw [kindAsArgument_eq, kindAsAttribute_eq, hspaced, hmatch, Option.bind_none, Option.or_none]

theorem sameKind_unsignedChar :
    Text.words "unsigned char *" = ["unsigned", "char", "*"] ∧ "unsigned" ∉ marks ∧
      ∀ r : Registry, r.SameKind "unsigned char *" :=
  have hwords : Text.words "unsigned char *" = ["unsigned", "char", "*"] := by decide +kernel
  have hmark : "unsigned" ∉ marks := by decide
  ⟨hwords, hmark, (sameKind_iff hwords hmark).mpr ⟨by decide +kernel, by decide +kernel, by decide +kernel⟩⟩

/-- A struct that goes by its tag has a kind as a result and as an argument, and none as an attribute. -/
theorem not_sameKind_fooStruct :
    let r := initial.registerAlias "int" "foo"
    r.kindAsResult "struct foo_t *" = some (.integer .int) ∧
      r.kindAsArgument "struct foo_t *" = some (.integer .int) ∧
      r.kindAsAttribute "struct foo_t *" = none ∧ ¬ r.SameKind "struct foo_t *" := by
  have hresult : (initial.registerAlias "int" "foo").kindAsResult "struct foo_t *" =
      some (.integer .int) := by decide +kernel
  have hattribute : (initial.registerAlias "int" "foo").kindAsAttribute "struct foo_t *" = none := by
    decide +kernel
  refine ⟨hresult, by decide +kernel, hattribute, ?_⟩
  rintro ⟨hsame, -⟩
  rw [hresult, hattribute] at hsame
  cases hsame

end Registry

end HeaderBind
