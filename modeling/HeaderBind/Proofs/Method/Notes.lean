import HeaderBind.Proofs.Binding.Settled
import HeaderBind.Proofs.Doc.Annotations

/-!
# Notes from comments

The comment of a method is read line by line. What the last line says that gives a value to an argument, or names an
exception, is noted, and all else that was noted stays (`takesOver_read`). So reading the comment once more changes
nothing (`effect_readNotes_twice`).
-/

namespace HeaderBind

namespace Doc

variable {α : Type} {comment name value : String} {lines : List String} {r : Raise}

/-- What the last line gives that gives anything. -/
def GivesLast (gives : String → α → Prop) (lines : List String) (a : α) : Prop :=
  ∃ earlier line later, lines = earlier ++ line :: later ∧ gives line a ∧ ∀ line' ∈ later, ∀ a', ¬ gives line' a'

/-- What lines of a comment say was taken over into notes. -/
structure TakesOver (lines : List String) (n n' : Notes) : Prop where
  /-- An argument has the value that was given to it last. -/
  value : ∀ name value, GivesLast (fun line => GivesDefault line name) lines value →
    n'.defaults.get? name = some (Text.strip value)
  /-- An argument without such a line keeps its value. -/
  otherValue : ∀ name, (∀ line ∈ lines, ∀ value, ¬ GivesDefault line name value) →
    n'.defaults.get? name = n.defaults.get? name
  /-- All keep their places, and only arguments that a value was given to join them. -/
  places : ∃ added, n'.defaults.keys = n.defaults.keys ++ added ∧
    ∀ name ∈ added, ∃ line ∈ lines, ∃ value, GivesDefault line name value
  /-- The exception is the one that was named last. -/
  exception : ∀ r, GivesLast GivesRaise lines r → n'.exception = some r
  /-- Without such a line the exception is kept. -/
  otherException : (∀ line ∈ lines, ∀ r, ¬ GivesRaise line r) → n'.exception = n.exception

/-- The exception that an annotation names. -/
def raiseOf : Annotation → Option Raise
  | .default _ _ => none
  | .raises r => some r

lemma some_mem_map_keyOf :
    some name ∈ (lines.flatMap lineAnnotations).map keyOf ↔ ∃ line ∈ lines, ∃ value, GivesDefault line name value := by
  simp only [List.mem_map, List.mem_flatMap, ← default_mem_lineAnnotations]
  constructor
  · rintro ⟨a, ⟨line, hline, ha⟩, hkey⟩
    cases a with
    | default name' value =>
      obtain rfl := Option.some.inj hkey
      exact ⟨line, hline, value, ha⟩
    | raises r => cases hkey
  · rintro ⟨line, hline, value, ha⟩
    exact ⟨_, ⟨line, hline, ha⟩, rfl⟩

lemma mem_filterMap_raiseOf :
    r ∈ (lines.flatMap lineAnnotations).filterMap raiseOf ↔ ∃ line ∈ lines, GivesRaise line r := by
  simp only [List.mem_filterMap, List.mem_flatMap, ← raises_mem_lineAnnotations]
  constructor
  · rintro ⟨a, ⟨line, hline, ha⟩, hraise⟩
    cases a with
    | default => cases hraise
    | raises r' =>
      obtain rfl := Option.some.inj hraise
      exact ⟨line, hline, ha⟩
  · rintro ⟨line, hline, ha⟩
    exact ⟨_, ⟨line, hline, ha⟩, rfl⟩

namespace Notes

lemma exception_foldl_add (n : Notes) (as : List Annotation) :
    (as.foldl add n).exception = (as.filterMap raiseOf).getLast?.or n.exception := by
  induction as generalizing n with
  | nil => rfl
  | cons a as ih =>
    rw [List.foldl_cons, ih]
    cases a with
    | default name value => rfl
    | raises r => simp [add, raiseOf, List.getLast?_cons]

lemma keys_foldl_add (n : Notes) (as : List Annotation) : ∃ added,
    (as.foldl add n).defaults.keys = n.defaults.keys ++ added ∧ ∀ name ∈ added, some name ∈ as.map keyOf := by
  induction as generalizing n with
  | nil => exact ⟨[], (List.append_nil _).symm, nofun⟩
  | cons a as ih =>
    obtain ⟨added, hkeys, hadded⟩ := ih (n.add a)
    rw [List.foldl_cons, hkeys]
    cases a with
    | raises r => exact ⟨added, rfl, fun name hname => List.mem_cons_of_mem _ (hadded name hname)⟩
    | default name value =>
      simp only [add, Dict.keys_insert]
      split
      · exact ⟨added, rfl, fun name hname => List.mem_cons_of_mem _ (hadded name hname)⟩
      · refine ⟨name :: added, by simp, ?_⟩
        intro name' hname'
        rw [List.map_cons]
        rcases List.mem_cons.mp hname' with rfl | hname'
        · exact List.mem_cons_self
        · exact List.mem_cons_of_mem _ (hadded name' hname')

/-- Notes hold what a comment says after it was read. -/
lemma takesOver_read (n : Notes) (comment : String) : TakesOver (Text.lines comment) n (n.read comment) where
  value := by
    rintro name value ⟨earlier, line, later, hlines, hline, hlater⟩
    obtain ⟨rs, hrs⟩ := lineAnnotations_of_givesDefault hline
    have hafter : some name ∉ (rs.map Annotation.raises ++ later.flatMap lineAnnotations).map keyOf := by
      rw [List.map_append, List.mem_append, not_or, some_mem_map_keyOf]
      constructor
      · simp [keyOf]
      · rintro ⟨line', hline', value', hvalue'⟩
        exact hlater line' hline' value' hvalue'
    rw [read, annotations, hlines, List.flatMap_append, List.flatMap_cons, hrs, List.foldl_append, List.cons_append,
      List.foldl_cons, get?_foldl_add hafter]
    simp [add]
  otherValue := by
    intro name hnone
    apply get?_foldl_add
    rw [annotations, some_mem_map_keyOf]
    rintro ⟨line, hline, value, hvalue⟩
    exact hnone line hline value hvalue
  places := by
    obtain ⟨added, hkeys, hadded⟩ := keys_foldl_add n (annotations comment)
    exact ⟨added, hkeys, fun name hname => some_mem_map_keyOf.mp (hadded name hname)⟩
  exception := by
    rintro r ⟨earlier, line, later, hlines, hline, hlater⟩
    obtain ⟨as, has⟩ := lineAnnotations_of_givesRaise hline
    have hafter : (later.flatMap lineAnnotations).filterMap raiseOf = [] := by
      rw [List.eq_nil_iff_forall_not_mem]
      intro r' hr'
      obtain ⟨line', hline', hraise⟩ := mem_filterMap_raiseOf.mp hr'
      exact hlater line' hline' r' hraise
    rw [read, exception_foldl_add, annotations, hlines, List.flatMap_append, List.flatMap_cons, has]
    simp [List.filterMap_append, hafter, raiseOf]
  otherException := by
    intro hnone
    have hraises : (annotations comment).filterMap raiseOf = [] := by
      rw [List.eq_nil_iff_forall_not_mem]
      intro r hr
      obtain ⟨line, hline, hraise⟩ := mem_filterMap_raiseOf.mp hr
      exact hnone line hline r hraise
    rw [read, exception_foldl_add, hraises]
    rfl

/-- Reading a comment once more changes nothing. -/
lemma read_read (n : Notes) (comment : String) : (n.read comment).read comment = n.read comment := by
  have hdefaults : ((n.read comment).read comment).defaults = (n.read comment).defaults :=
    defaults_foldl_add_twice n (annotations comment)
  have hexception : ((n.read comment).read comment).exception = (n.read comment).exception := by
    simp only [read, exception_foldl_add]
    cases ((annotations comment).filterMap raiseOf).getLast? <;> rfl
  cases hread : (n.read comment).read comment
  simp only [hread] at hdefaults hexception
  rw [hdefaults, hexception]

end Notes

end Doc

/-! ### Reading the comment of a method -/

/-- What is noted of a method. -/
def Binding.notesOf (b : Binding) (m : Method) : Doc.Notes :=
  { defaults := (b.signatureAt m.signature).defaults, exception := m.exception }

namespace Method

variable {b : Binding} {ref : MethodRef} {m : Method}

/-- Reading the comment of a method changes its notes only, and takes over into them what the lines of the comment
say. Reading it again changes nothing any more. -/
theorem effect_readNotes_twice (hm : (b.classAt ref.cls).method? ref.slot = some m)
    (hs : m.signature < b.signatures.size) :
    ∃ n b', (readNotes ref).effect b = (.ok (), b') ∧ b' = b.withNotes ref m.signature n ∧
      (b'.classAt ref.cls).method? ref.slot = some { m with exception := n.exception } ∧
      b'.notesOf { m with exception := n.exception } = n ∧
      Doc.TakesOver (Text.lines m.doc) (b.notesOf m) n ∧ (readNotes ref).effect b' = (.ok (), b') := by
  let n : Doc.Notes := (b.notesOf m).read m.doc
  let b' : Binding := b.withNotes ref m.signature n
  have hm' : (b'.classAt ref.cls).method? ref.slot = some { m with exception := n.exception } := by
    rw [(Binding.classAt_withNotes m.signature n (Binding.lt_size_of_method? hm)).1]
    exact ClassDef.method?_modifyMethod hm
  have hknown : b'.notesOf { m with exception := n.exception } = n := by
    rw [Binding.notesOf, (Binding.signatureAt_withNotes hs).1]
  have hagain : (readNotes ref).effect b' = (.ok (), b') := by
    have hsame : b'.notes { m with exception := n.exception } = b'.notesOf { m with exception := n.exception } := by
      rw [Binding.notes, ← Binding.notesOf, hknown]
      exact (b.notesOf m).read_read m.doc
    rw [effect_readNotes hm', hsame]
    exact congrArg (Prod.mk _) (withNotes_eq_self hm')
  exact ⟨n, b', effect_readNotes hm, rfl, hm', hknown, (b.notesOf m).takesOver_read m.doc, hagain⟩

/-- A method whose comment gives two values to an argument. -/
def notedMethod : Method :=
  { kind := .ordinary
    name := "run"
    className := some "A"
    baseName := none
    definitionClass := some "A"
    owner := 0
    signature := 0
    doc := "DEFAULT(n) = 1;\nDEFAULT(n) = 2 ;" }

/-- A binding in which an argument of the method has a value already. -/
def notedBinding : Binding :=
  { name := "m"
    classes := #[{ name := some "A", methods := [notedMethod] }]
    signatures := #[{
      returns := { kind := .integer .int, name := "func_return", type := "int" }
      defaults := ⟨[("n", "0"), ("k", "5")]⟩ }] }

/-- The value that was given last is noted, and the other argument keeps its value. -/
theorem effect_readNotes_notedMethod : ∃ b', (readNotes ⟨0, .method 0⟩).effect notedBinding = (.ok (), b') ∧
    (b'.signatureAt 0).defaults.get? "n" = some "2" ∧ (b'.signatureAt 0).defaults.get? "k" = some "5" ∧
    (readNotes ⟨0, .method 0⟩).effect b' = (.ok (), b') := by
  have hm : (notedBinding.classAt (MethodRef.mk 0 (.method 0)).cls).method? (MethodRef.mk 0 (.method 0)).slot =
      some notedMethod := rfl
  obtain ⟨n, b', heffect, -, -, hknown, htakes, hagain⟩ := effect_readNotes_twice hm (by decide)
  have hdefaults : (b'.signatureAt 0).defaults = n.defaults := congrArg Doc.Notes.defaults hknown
  have hlines : Text.lines notedMethod.doc = ["DEFAULT(n) = 1;", "DEFAULT(n) = 2 ;"] := by decide +kernel
  have hgives : Doc.GivesDefault "DEFAULT(n) = 2 ;" "n" " 2 " :=
    .here ⟨[], by decide, by decide, ⟨by decide, by decide, by decide⟩, by decide⟩
  have hvalue := htakes.value "n" " 2 " ⟨["DEFAULT(n) = 1;"], _, [], hlines, hgives, nofun⟩
  have hother : n.defaults.get? "k" = some "5" := by
    refine htakes.otherValue "k" fun line hline value hvalue => ?_
    have hkey : some "k" ∈ ((Text.lines notedMethod.doc).flatMap Doc.lineAnnotations).map Doc.keyOf :=
      Doc.some_mem_map_keyOf.mpr ⟨line, hline, value, hvalue⟩
    exact absurd hkey (by decide +kernel)
  rw [← hdefaults] at hvalue hother
  exact ⟨b', heffect, hvalue.trans (by decide +kernel), hother, hagain⟩

end Method

end HeaderBind
