import HeaderBind.Proofs.Method.Arguments
import HeaderBind.Proofs.Method.Inherit

/-!
# Reading the arguments of a call

A wrapper reads its arguments by a list of names, a format string and a list of places. The three are
made from the arguments in different ways: names and units come in the order of reading, in which the
arguments that may be left out are last, and places in the order of declaration; and each of them leaves
out other arguments. `aligned_iff` says when they fit together all the same.
-/

namespace HeaderBind.Method

open Binding Declaring

variable {s : Signature} {t : CType} {args args' : List CType} {b b' : Binding} {ref : MethodRef} {m : Method}

/-! ### Arguments that were added -/

/-- Arguments that were added one after another, whatever was known of types at the time. -/
inductive Added : List CType → Prop
  | nil : Added []
  | add {args args' : List CType} {className : Option String} {method type name : String} {b : Binding}
      (h : Added args) (hadd : ((addTo className method args type name).effect b).1 = .ok args') : Added args'

/-- The outcome of adding an argument: it was left out, or its type in use was joined with the others. -/
lemma addTo_eq_ok {className : Option String} {method type name : String}
    (h : ((addTo className method args type name).effect b).1 = .ok args') :
    args' = args ∨ ∃ t type, MadeFrom type t ∧ joinArgument args t type t.name = .ok args' := by
  cases hs : selectArgument b.registry type with
  | none =>
    rw [effect_addTo_of_none hs] at h
    cases className with
    | none => cases h
    | some cls =>
      cases h
      exact .inl rfl
  | some selection =>
    rw [effect_addTo_of_some hs] at h
    cases ht : CType.make selection.kind name selection.type with
    | error f =>
      rw [ht] at h
      cases h
    | ok t =>
      obtain ⟨-, rfl, hmade⟩ := madeFrom_of_make ht
      rw [ht] at h
      exact .inr ⟨t, selection.type, hmade, h⟩

lemma Added.joins (h : Added args) : ∃ uses, Joins uses args ∧ Apart args := by
  induction h with
  | nil => exact ⟨[], .nil, .nil⟩
  | add _ hadd ih =>
    obtain ⟨uses, hjoins, hapart⟩ := ih
    rcases addTo_eq_ok hadd with rfl | ⟨t, type, hmade, hjoin⟩
    · exact ⟨uses, hjoins, hapart⟩
    · obtain ⟨args', hargs', hjoins', hapart'⟩ := joinArgument_joins hjoins hapart hmade
      cases hjoin.symm.trans hargs'
      exact ⟨_, hjoins', hapart'⟩

/-- Every argument is a type in use, or a string with its length. -/
lemma Joins.mem_cases {uses : List CType} (h : Joins uses args) (ht : t ∈ args) :
    t.kind.isBuffer = false ∨ ∃ string length lengthType, t = joined string length lengthType := by
  induction h with
  | nil => cases ht
  | keep hb _ ih =>
    rcases List.mem_cons.mp ht with rfl | ht
    · exact .inl hb
    · exact ih ht
  | join _ _ _ _ ih =>
    rcases List.mem_cons.mp ht with rfl | ht
    · exact .inr ⟨_, _, _, rfl⟩
    · exact ih ht

/-! ### What is read, with the arguments that it belongs to -/

/-- The unit that reads an argument, if there is one. -/
def unit? (t : CType) : Option String :=
  if t.kind.formatUnit.isEmpty then none else some t.kind.formatUnit

/-- The place that an argument is read into, if there is one. -/
def place? (t : CType) : Option String :=
  match t.byReference with
  | .ok (some place) => if place.isEmpty then none else some place
  | _ => none

/-- The arguments of a signature, each with its number. -/
def numbered (s : Signature) : List (CType × Nat) :=
  s.args.zipIdx

/-- The arguments in the order of reading: those that have to be given, then the others. -/
def readingOrder (s : Signature) : List (CType × Nat) :=
  (numbered s).filter (fun a => !isOptional s a.1) ++ (numbered s).filter fun a => isOptional s a.1

/-- The texts that the arguments of a list have, each with the argument that it belongs to. -/
def owned (text? : CType → Option String) (l : List (CType × Nat)) : List (String × CType × Nat) :=
  l.filterMap fun a => (text? a.1).map fun text => (text, a)

/-- Names, units and places belong to the same arguments, one after another. -/
def Aligned (s : Signature) : Prop :=
  (owned keyword? (readingOrder s)).map Prod.snd = (owned unit? (readingOrder s)).map Prod.snd ∧
    (owned unit? (readingOrder s)).map Prod.snd = (owned place? (numbered s)).map Prod.snd

lemma texts_owned (text? : CType → Option String) (l : List (CType × Nat)) :
    (owned text? l).map Prod.fst = (l.map Prod.fst).filterMap text? := by
  induction l with
  | nil => rfl
  | cons a l ih =>
    cases ha : text? a.1 with
    | none => simpa [owned, ha] using ih
    | some text => simpa [owned, ha] using ih

lemma owners_owned (text? : CType → Option String) (l : List (CType × Nat)) :
    (owned text? l).map Prod.snd = l.filter fun a => (text? a.1).isSome := by
  induction l with
  | nil => rfl
  | cons a l ih =>
    cases ha : text? a.1 with
    | none => simpa [owned, ha] using ih
    | some text => simpa [owned, ha] using ih

lemma args_numbered (s : Signature) : (numbered s).map Prod.fst = s.args :=
  List.zipIdx_map_fst 0 s.args

lemma args_filter_numbered (s : Signature) (p : CType → Bool) :
    ((numbered s).filter fun a => p a.1).map Prod.fst = s.args.filter p := by
  rw [← args_numbered s, List.filter_map]
  rfl

lemma args_readingOrder (s : Signature) :
    (readingOrder s).map Prod.fst = s.args.filter (fun t => !isOptional s t) ++ s.args.filter (isOptional s) := by
  rw [readingOrder, List.map_append, args_filter_numbered s fun t => !isOptional s t,
    args_filter_numbered s (isOptional s)]

/-- The names that are read. -/
lemma texts_keywords (s : Signature) : (owned keyword? (readingOrder s)).map Prod.fst = keywords s := by
  rw [texts_owned, args_readingOrder, List.filterMap_append, keywords]

lemma join_filterMap_unit? (ts : List CType) :
    String.join (ts.filterMap unit?) = String.join (ts.map fun t => t.kind.formatUnit) := by
  induction ts with
  | nil => rfl
  | cons t ts ih =>
    by_cases ht : t.kind.formatUnit = ""
    · simp [unit?, ht, ih]
    · simp [unit?, ht, ih]

/-- The format string holds the units, and a bar before those of arguments that may be left out. -/
lemma texts_units (s : Signature) : ∃ required optional bar,
    (owned unit? (readingOrder s)).map Prod.fst = required ++ optional ∧ (bar = "" ∨ bar = "|") ∧
      formatString s = String.join required ++ bar ++ String.join optional := by
  have hunits : (owned unit? (readingOrder s)).map Prod.fst =
      (s.args.filter fun t => !isOptional s t).filterMap unit? ++
        (s.args.filter (isOptional s)).filterMap unit? := by
    rw [texts_owned, args_readingOrder, List.filterMap_append]
  have hformat : formatString s = String.join ((s.args.filter fun t => !isOptional s t).filterMap unit?) ++
      if (String.join ((s.args.filter (isOptional s)).filterMap unit?)).isEmpty then ""
      else "|" ++ String.join ((s.args.filter (isOptional s)).filterMap unit?) := by
    rw [join_filterMap_unit?, join_filterMap_unit?]
    rfl
  by_cases hnone : String.join ((s.args.filter (isOptional s)).filterMap unit?) = ""
  · exact ⟨_, _, "", hunits, .inl rfl, by simp [hformat, hnone]⟩
  · exact ⟨_, _, "|", hunits, .inr rfl, by simp [hformat, hnone, String.append_assoc]⟩

/-! ### Places -/

/-- The place of an argument can always be told. -/
lemma Added.byReference_eq (h : Added args) (ht : t ∈ args) : ∃ place, t.byReference = .ok place := by
  obtain ⟨uses, hjoins, -⟩ := h.joins
  rcases hjoins.mem_cases ht with hb | ⟨string, length, lengthType, rfl⟩
  · unfold CType.byReference
    cases hk : t.kind <;> simp_all [Kind.isBuffer]
  · rcases kind_joined string length lengthType with ⟨hk, -⟩ | ⟨hk, -⟩
    · rw [CType.byReference, hk]
      exact ⟨_, rfl⟩
    · rw [CType.byReference, hk]
      exact ⟨_, rfl⟩

lemma filter_places {places : List (Option String)}
    (h : List.Forall₂ (fun t place => t.byReference = .ok place) args places) :
    (places.filterMap id).filter (!·.isEmpty) = args.filterMap place? := by
  induction h with
  | nil => rfl
  | @cons t place _ _ ht _ ih =>
    cases place with
    | none => simpa [place?, ht] using ih
    | some place =>
      by_cases hplace : place = ""
      · simpa [place?, ht, hplace] using ih
      · simpa [place?, ht, hplace] using ih

/-- The places that are read into. -/
lemma texts_places (h : Added s.args) :
    destinations s = .ok ((owned place? (numbered s)).map Prod.fst) := by
  obtain ⟨places, hplaces⟩ := exists_mapM_eq_ok fun t ht => h.byReference_eq ht
  rw [texts_owned, args_numbered, ← filter_places (mapM_eq_ok_iff.mp hplaces), destinations, hplaces]
  rfl

/-! ### The order of reading -/

/-- Where the same is taken from two lists, common members are taken from both or from none. -/
lemma eq_of_filter_eq {α : Type} {p q : α → Bool} {l l' : List α} {x : α} (h : l.filter p = l'.filter q)
    (hx : x ∈ l) (hx' : x ∈ l') : p x = q x := by
  have hiff : x ∈ l.filter p ↔ x ∈ l'.filter q := by rw [h]
  rw [List.mem_filter, List.mem_filter, and_iff_right hx, and_iff_right hx'] at hiff
  exact Bool.eq_iff_iff.mpr hiff

/-- Members that are put last change their order, unless they were last before. -/
lemma filter_append_filter_eq_iff {α : Type} (p : α → Bool) (l : List α) :
    l.filter (fun x => !p x) ++ l.filter p = l ↔ l.Pairwise fun x y => p x → p y := by
  constructor
  · intro h
    rw [← h, List.pairwise_append, List.pairwise_filter, List.pairwise_filter]
    refine ⟨List.pairwise_of_forall ?_, List.pairwise_of_forall ?_, ?_⟩
    · intro x y hx _ hpx
      simp [hpx] at hx
    · exact fun _ _ _ hy _ => hy
    · exact fun x _ y hy _ => (List.mem_filter.mp hy).2
  · intro h
    induction h with
    | nil => rfl
    | @cons x l hx _ ih =>
      cases hp : p x with
      | false => simp [hp, ih]
      | true =>
        have hall : ∀ y ∈ l, p y = true := fun y hy => hx y hy hp
        have hnone : l.filter (fun y => !p y) = [] := by simpa [List.filter_eq_nil_iff] using hall
        simp [hp, hnone, List.filter_eq_self.mpr hall]

lemma perm_readingOrder (s : Signature) : (readingOrder s).Perm (numbered s) := by
  have hperm := List.filter_append_perm (fun a => isOptional s a.1) (numbered s)
  exact (List.perm_append_comm).trans hperm

lemma filter_readingOrder (s : Signature) (p : CType → Bool) :
    (readingOrder s).filter (fun a => p a.1) =
      ((numbered s).filter fun a => p a.1).filter (fun a => !isOptional s a.1) ++
        ((numbered s).filter fun a => p a.1).filter fun a => isOptional s a.1 := by
  rw [readingOrder, List.filter_append, List.filter_comm, List.filter_comm (fun a : CType × Nat => p a.1)]

/-- The arguments that are taken from both orders are the same if the optional ones are last. -/
lemma filter_readingOrder_eq_iff (s : Signature) (p q : CType → Bool) :
    (readingOrder s).filter (fun a => p a.1) = (numbered s).filter (fun a => q a.1) ↔
      (∀ t ∈ s.args, p t = q t) ∧ s.args.Pairwise fun t u => p t → p u → isOptional s t → isOptional s u := by
  have hmem (a : CType × Nat) (ha : a ∈ numbered s) : a.1 ∈ s.args := by
    rw [← args_numbered s]
    exact List.mem_map_of_mem ha
  have hsorted : (readingOrder s).filter (fun a => p a.1) = (numbered s).filter (fun a => p a.1) ↔
      s.args.Pairwise fun t u => p t → p u → isOptional s t → isOptional s u := by
    rw [filter_readingOrder, filter_append_filter_eq_iff, List.pairwise_filter, ← args_numbered s,
      List.pairwise_map]
  constructor
  · intro h
    have hsame : ∀ t ∈ s.args, p t = q t := by
      intro t ht
      rw [← args_numbered s] at ht
      obtain ⟨a, ha, rfl⟩ := List.mem_map.mp ht
      exact eq_of_filter_eq (p := fun a => p a.1) (q := fun a => q a.1) h
        ((perm_readingOrder s).mem_iff.mpr ha) ha
    have hfilter := List.filter_congr fun a ha => (hsame a.1 (hmem a ha)).symm
    exact ⟨hsame, hsorted.mp (h.trans hfilter)⟩
  · rintro ⟨hsame, hlast⟩
    have hfilter := List.filter_congr fun a ha => hsame a.1 (hmem a ha)
    exact (hsorted.mpr hlast).trans hfilter

/-! ### When reading is aligned -/

/-- Whether name, unit and place of an argument go together: an argument without a unit has neither of
them, and every other one has all three. -/
def fits (t : CType) : Bool :=
  if t.kind.formatUnit.isEmpty then t.name.isEmpty else (keyword? t).isSome

lemma fits_iff_of_not_buffer (h : t.kind.isBuffer = false) :
    fits t ↔ (keyword? t).isSome = (unit? t).isSome ∧ (unit? t).isSome = (place? t).isSome := by
  have hunit (i : IntegerType) : i.formatUnit ≠ "" := by cases i <;> decide
  unfold fits unit? place? keyword? CType.byReference CType.argumentName
  cases hk : t.kind <;> simp_all [Kind.isBuffer, Kind.formatUnit, toString]

lemma Added.fits_iff (h : Added args) (ht : t ∈ args) :
    fits t ↔ (keyword? t).isSome = (unit? t).isSome ∧ (unit? t).isSome = (place? t).isSome := by
  obtain ⟨uses, hjoins, -⟩ := h.joins
  rcases hjoins.mem_cases ht with hb | ⟨string, length, lengthType, rfl⟩
  · exact fits_iff_of_not_buffer hb
  · unfold fits unit? place? CType.byReference
    rcases kind_joined string length lengthType with ⟨hk, -⟩ | ⟨hk, -⟩ <;> rw [hk] <;>
      simp [Kind.formatUnit, joined, CType.lengthText, Datum.asText, toString]

lemma keyword?_of_isOptional (h : isOptional s t) : (keyword? t).isSome := by
  rw [isOptional, Option.any_eq_true] at h
  obtain ⟨name, hname, -⟩ := h
  simp [hname]

lemma aligned_iff_of_added (h : Added s.args) :
    Aligned s ↔ (∀ t ∈ s.args, fits t) ∧
      s.args.Pairwise fun t u => isOptional s t → (keyword? u).isSome → isOptional s u := by
  have hmem (a : CType × Nat) : a ∈ readingOrder s ↔ a ∈ numbered s := (perm_readingOrder s).mem_iff
  have hnames : (readingOrder s).filter (fun a => (keyword? a.1).isSome) =
      (readingOrder s).filter (fun a => (unit? a.1).isSome) ↔
        ∀ t ∈ s.args, (keyword? t).isSome = (unit? t).isSome := by
    constructor
    · intro hfilter t ht
      rw [← args_numbered s] at ht
      obtain ⟨a, ha, rfl⟩ := List.mem_map.mp ht
      have ha := (hmem a).mpr ha
      exact eq_of_filter_eq (p := fun a => (keyword? a.1).isSome) (q := fun a => (unit? a.1).isSome) hfilter ha ha
    · intro hsame
      refine List.filter_congr fun a ha => hsame a.1 ?_
      rw [← args_numbered s]
      exact List.mem_map_of_mem ((hmem a).mp ha)
  rw [Aligned, owners_owned, owners_owned, owners_owned, hnames,
    filter_readingOrder_eq_iff s (fun t => (unit? t).isSome) fun t => (place? t).isSome]
  constructor
  · rintro ⟨hunits, hplaces, hlast⟩
    refine ⟨fun t ht => (h.fits_iff ht).mpr ⟨hunits t ht, hplaces t ht⟩, ?_⟩
    refine hlast.imp_of_mem ?_
    intro t u ht hu hkeep hoptional hname
    exact hkeep (hunits t ht ▸ keyword?_of_isOptional hoptional) (hunits u hu ▸ hname) hoptional
  · rintro ⟨hfits, hlast⟩
    have hsame (t : CType) (ht : t ∈ s.args) := (h.fits_iff ht).mp (hfits t ht)
    refine ⟨fun t ht => (hsame t ht).1, fun t ht => (hsame t ht).2, ?_⟩
    refine hlast.imp_of_mem ?_
    intro t u ht hu hkeep _ hunit hoptional
    exact hkeep hoptional ((hsame u hu).1 ▸ hunit)

/-! ### What is written -/

/-- The code that reads the arguments of a call. -/
def readingText (names : List String) (format : String) (places : List String) : String :=
  "\n" ++ ("    const char *kwlist[] = \x7b" ++ String.join (names.map fun k => s!"\"{k}\", ") ++ " NULL\x7d;\n")
  ++ s!"\n    if(!PyArg_ParseTupleAndKeywords(args, kwds, \"{format}\", "
  ++ ", ".intercalate ("(char **) kwlist" :: places)
  ++ (")) \x7b\n        " ++ Code.jump ++ "\n    \x7d\n")

/-- The arguments are read as the comment of the method has it, after they were declared. -/
lemma ends_writeLocals (hm : (b.classAt ref.cls).method? ref.slot = some m)
    (hs : m.signature < b.signatures.size)
    (hname : CType.occursIn "iternext".toList m.name.toList = false) :
    (writeLocals ref).Ends b (fun _ b' => ∃ text places, destinations (b.noted m) = .ok places ∧
      b'.out = b.out ++ text ++ readingText (keywords (b.noted m)) (formatString (b.noted m)) places)
      fun _ _ => True := by
  have hnoted : ((b.withNotes ref m.signature (b.notes m)).classAt ref.cls).method? ref.slot =
      some (b.reread m) := by
    rw [(classAt_withNotes _ _ (lt_size_of_method? hm)).1]
    exact ClassDef.method?_modifyMethod hm
  have hsignature : (signatureOf (b.reread m)).effect (b.withNotes ref m.signature (b.notes m)) =
      (.ok (b.noted m), b.withNotes ref m.signature (b.notes m)) :=
    congrArg (fun s => (Except.ok s, _)) (signatureAt_withNotes hs).1
  refine .bind_of_ok (effect_readNotes hm) (.bind_of_ok (effect_method hnoted) (.bind_of_ok hsignature ?_))
  have hloop : Composed Touch (ForIn.forIn (b.noted m).args PUnit.unit fun t _ => do
      emit s!"    // DEBUG: local arg type: {t.kind.label}\n"
      emit (← Act.lift (argumentDefinition (b.noted m) t))
      return .yield PUnit.unit : Act Binding PUnit) := by
    refine .forIn fun t _ => .bind (composed_emit _) fun _ => .bind (.lift _) fun _ => ?_
    exact .bind (composed_emit _) fun _ => .pure _
  refine (hloop.ends_touch _).bind ?_
  rintro _ b₁ ⟨-, text, hout⟩
  have hreads : (!CType.occursIn "iternext".toList (b.reread m).name.toList) = true := by
    rw [Bool.not_eq_true']
    exact hname
  rw [if_pos hreads]
  refine .bind_of_ok (effect_emit _ b₁) (.bind_of_ok (effect_emit _ _) (.bind_of_ok (effect_emit _ _) ?_))
  cases hplaces : destinations (b.noted m) with
  | error f => exact .of_error rfl trivial
  | ok places =>
    refine .bind_of_ok (Act.effect_lift _ _) (.bind_of_ok (effect_emit _ _) (.bind_of_ok rfl (.of_ok rfl ?_)))
    refine ⟨text, places, rfl, ?_⟩
    rw [readingText]
    show b₁.out ++ _ ++ _ ++ _ ++ _ ++ _ = _
    rw [hout]
    simp only [String.append_assoc]
    rfl

/-- The code that a method writes to read its arguments is made of names, units and places. They fit
together if and only if every argument fits and those that may be left out were declared last. -/
theorem aligned_iff (hm : (b.classAt ref.cls).method? ref.slot = some m)
    (hs : m.signature < b.signatures.size) (hadded : Added (b.signatureAt m.signature).args)
    (hname : CType.occursIn "iternext".toList m.name.toList = false)
    (hwritten : (writeLocals ref).effect b = (.ok (), b')) :
    (∃ text required optional bar,
      b'.out = b.out ++ text ++ readingText ((owned keyword? (readingOrder (b.noted m))).map Prod.fst)
        (String.join required ++ bar ++ String.join optional)
        ((owned place? (numbered (b.noted m))).map Prod.fst) ∧
      (owned unit? (readingOrder (b.noted m))).map Prod.fst = required ++ optional ∧
      (bar = "" ∨ bar = "|")) ∧
    (Aligned (b.noted m) ↔ (∀ t ∈ (b.noted m).args, fits t) ∧
      (b.noted m).args.Pairwise fun t u =>
        isOptional (b.noted m) t → (keyword? u).isSome → isOptional (b.noted m) u) := by
  have hends := ends_writeLocals hm hs hname
  rw [Act.Ends, hwritten] at hends
  obtain ⟨text, places, hplaces, hout⟩ := hends
  obtain ⟨required, optional, bar, hunits, hbar, hformat⟩ := texts_units (b.noted m)
  cases (texts_places hadded).symm.trans hplaces
  rw [← texts_keywords, hformat] at hout
  exact ⟨⟨text, required, optional, bar, hout, hunits, hbar⟩, aligned_iff_of_added hadded⟩

/-- The arguments of a function that opens a file: a number, and the path as a string. -/
def openArguments : List CType :=
  [{ kind := .integer .int, name := "mode", type := "int", interface := some "integer"
     declared := some (some "int") },
   { kind := .string, name := "path", type := "char *", interface := some "string"
     errorValue := "return NULL;", length := some (.text "strlen(path)") }]

lemma added_openArguments : Added openArguments := by
  have hmode : ((addTo none "open" [] "int" "mode").effect (fileBinding .initial)).1 =
      .ok (openArguments.take 1) := rfl
  have hpath : ((addTo none "open" (openArguments.take 1) "char *" "path").effect (fileBinding .initial)).1 =
      .ok openArguments := rfl
  exact (Added.nil.add hmode).add hpath

/-- The function that opens a file, with its comment. -/
def openMethod (doc : String) : Method :=
  { readMethod with name := "open", doc }

/-- A binding in which a class has that function for a method. -/
def openBinding (doc : String) : Binding :=
  { fileBinding .initial with
    classes := #[{ name := some "File", methods := [openMethod doc] }]
    signatures := #[{
      args := openArguments
      returns := { kind := .integer .int, name := "func_return", type := "int" } }] }

/-- The path may be left out, and it was declared last. -/
theorem aligned_iff_last :
    ∃ b', (writeLocals ⟨0, .method 0⟩).effect (openBinding "DEFAULT(path) = NULL;") = (.ok (), b') ∧
      keywords ((openBinding "DEFAULT(path) = NULL;").noted (openMethod "DEFAULT(path) = NULL;")) =
        ["mode", "path"] ∧
      Aligned ((openBinding "DEFAULT(path) = NULL;").noted (openMethod "DEFAULT(path) = NULL;")) := by
  have hok : ((writeLocals ⟨0, .method 0⟩).effect (openBinding "DEFAULT(path) = NULL;")).1 = .ok () := by
    decide +kernel
  obtain ⟨b', hwritten⟩ := Act.exists_effect_eq_ok hok
  have hm (doc : String) : ((openBinding doc).classAt 0).method? (.method 0) = some (openMethod doc) := rfl
  have hadded (doc : String) : Added ((openBinding doc).signatureAt (openMethod doc).signature).args :=
    added_openArguments
  have hiff := (aligned_iff (hm _) Nat.zero_lt_one (hadded _) (by decide) hwritten).2
  exact ⟨b', hwritten, by decide +kernel, hiff.mpr (by decide +kernel)⟩

/-- The number may be left out, and it was declared first: then it is read into the place of the path. -/
theorem not_aligned_first :
    ∃ b', (writeLocals ⟨0, .method 0⟩).effect (openBinding "DEFAULT(mode) = 1;") = (.ok (), b') ∧
      keywords ((openBinding "DEFAULT(mode) = 1;").noted (openMethod "DEFAULT(mode) = 1;")) =
        ["path", "mode"] ∧
      formatString ((openBinding "DEFAULT(mode) = 1;").noted (openMethod "DEFAULT(mode) = 1;")) = "s|i" ∧
      destinations ((openBinding "DEFAULT(mode) = 1;").noted (openMethod "DEFAULT(mode) = 1;")) =
        .ok ["&mode", "&path"] ∧
      ¬ Aligned ((openBinding "DEFAULT(mode) = 1;").noted (openMethod "DEFAULT(mode) = 1;")) := by
  have hok : ((writeLocals ⟨0, .method 0⟩).effect (openBinding "DEFAULT(mode) = 1;")).1 = .ok () := by
    decide +kernel
  obtain ⟨b', hwritten⟩ := Act.exists_effect_eq_ok hok
  have hplaces (doc : String) : destinations ((openBinding doc).noted (openMethod doc)) =
      .ok ["&mode", "&path"] := rfl
  refine ⟨b', hwritten, by decide +kernel, by decide +kernel, hplaces _, ?_⟩
  rw [aligned_iff_of_added added_openArguments]
  decide +kernel

end HeaderBind.Method
