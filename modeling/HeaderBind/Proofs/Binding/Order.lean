import HeaderBind.Binding.Write
import HeaderBind.Proofs.Binding.Declaring
import Mathlib.Logic.Relation

/-!
# Types are made ready in the order of inheritance

Making the type of a class ready first makes the type of its base ready. The rules of `Readies` say so
without a bound on the chains of bases, and what is written follows them for every bound that is large
enough (`effect_initializeClass`). All facts about the order are facts about `Readies`.
-/

namespace HeaderBind.Binding

open Relation

variable {b : Binding} {name base : String} {done done' : List (Option String)}
  {names before : List String} {id : ClassId}

/-! ### Writing -/

/-- The binding after more code was written. -/
def wrote (text : String) (b : Binding) : Binding :=
  { b with out := b.out ++ text }

@[simp] lemma wrote_wrote (t u : String) (b : Binding) : wrote u (wrote t b) = wrote (t ++ u) b := by
  simp only [wrote, String.append_assoc]

lemma effect_emit (text : String) (b : Binding) : (emit text).effect b = (.ok (), wrote text b) := rfl

/-- Code is written for the class of a number. -/
def active (b : Binding) (id : ClassId) : Bool :=
  (b.classAt id).name.any b.activeStructs.contains ||
    !(!(b.classAt id).active || (b.classAt id).hasModifier "PRIVATE" ||
      (b.classAt id).hasModifier "ABSTRACT")

/-- Every class goes by its own name, which is known. -/
def Named (b : Binding) : Prop :=
  ∀ key id, b.index.get? key = some id → ∃ name, key = some name ∧ (b.classAt id).name = some name

/-- There is a class of this name, and code is written for it. -/
def IsActive (b : Binding) (name : String) : Prop :=
  ∃ id, b.index.get? (some name) = some id ∧ b.active id

/-- The base of the class of a number, where code is written for the base. -/
def activeBase (b : Binding) (id : ClassId) : Option String :=
  (b.classAt id).baseName.filter fun base => (b.index.get? (some base)).any b.active

/-- Code is written for both classes, and the first is derived from the second. -/
def Derives (b : Binding) (name base : String) : Prop :=
  ∃ id, b.index.get? (some name) = some id ∧ b.active id ∧ b.activeBase id = some base

lemma activeBase_eq_some :
    b.activeBase id = some base ↔ (b.classAt id).baseName = some base ∧ b.IsActive base := by
  rw [activeBase, Option.filter_eq_some_iff, Option.any_eq_true, IsActive]

lemma Derives.isActive (h : b.Derives name base) : b.IsActive base := by
  obtain ⟨id, -, -, hbase⟩ := h
  exact (activeBase_eq_some.mp hbase).2

lemma effect_isActive (h : (b.classAt id).name ≠ none) :
    (Class.isActive id).effect b = (.ok (b.active id), b) := by
  obtain ⟨name, hname⟩ := Option.ne_none_iff_exists'.mp h
  rw [Class.isActive, Act.effect_bind_of_ok (Act.effect_state b), active]
  by_cases hasked : (b.classAt id).name.any b.activeStructs.contains
  · simp only [hasked, if_true, Bool.true_or]
    rfl
  · simp only [hasked, Bool.false_or, Bool.false_eq_true, if_false]
    by_cases hagainst : (!(b.classAt id).active || (b.classAt id).hasModifier "PRIVATE" ||
      (b.classAt id).hasModifier "ABSTRACT")
    · simp only [hagainst, if_true, hname, Bool.not_true]
      rw [need, known, Act.effect_bind_of_ok (Act.effect_lift _ b),
        Act.effect_bind_of_ok (effect_report _ b)]
      rfl
    · simp only [hagainst, Bool.false_eq_true, if_false, Bool.not_false]
      rfl

/-- The types that are made ready, in order, when it is the turn of a class: with the names that are
done before, and those that are done then. -/
inductive Readies (b : Binding) :
    String → List (Option String) → List String → List (Option String) → Prop where
  | again {name : String} {done : List (Option String)} (h : some name ∈ done) :
      Readies b name done [] done
  | inactive {name : String} {done : List (Option String)} {id : ClassId} (h : some name ∉ done)
      (hid : b.index.get? (some name) = some id) (ha : b.active id = false) :
      Readies b name done [] (done ++ [some name])
  | root {name : String} {done : List (Option String)} {id : ClassId} (h : some name ∉ done)
      (hid : b.index.get? (some name) = some id) (ha : b.active id) (hb : b.activeBase id = none) :
      Readies b name done [name] (done ++ [some name])
  | derived {name base : String} {done done' : List (Option String)} {names : List String}
      {id : ClassId} (h : some name ∉ done) (hid : b.index.get? (some name) = some id)
      (ha : b.active id) (hb : b.activeBase id = some base)
      (hr : Readies b base (done ++ [some name]) names done') :
      Readies b name done (names ++ [name]) done'

/-- The code that makes a type ready, with its base. -/
structure Block where
  name : String
  /-- The name of the base that the type is given, if it is given one. -/
  base : Option String
  kind : ClassKind
deriving DecidableEq

/-- The line that gives the type its base, and the code that makes the type ready. -/
def Block.text (k : Block) : String :=
  (match k.base with
    | some base => s!"    {k.name}_Type.tp_base = &{base}_Type;"
    | none => "") ++ (typeReady k.name k.kind).render

/-- The rules leave no choice. -/
lemma Readies.unique {names' : List String} {done'' : List (Option String)}
    (h : Readies b name done names done') (h' : Readies b name done names' done'') :
    names = names' ∧ done' = done'' := by
  induction h generalizing names' done'' with
  | again hn =>
    cases h' with
    | again => exact ⟨rfl, rfl⟩
    | inactive hn' => exact absurd hn hn'
    | root hn' => exact absurd hn hn'
    | derived hn' => exact absurd hn hn'
  | inactive hn hid ha =>
    cases h' with
    | again hn' => exact absurd hn' hn
    | inactive => exact ⟨rfl, rfl⟩
    | root _ hid' ha' => simp_all
    | derived _ hid' ha' => simp_all
  | root hn hid ha hb =>
    cases h' with
    | again hn' => exact absurd hn' hn
    | inactive _ hid' ha' => simp_all
    | root => exact ⟨rfl, rfl⟩
    | derived _ hid' _ hb' => simp_all
  | @derived name base done done' names id hn hid ha hb hr ih =>
    cases h' with
    | again hn' => exact absurd hn' hn
    | inactive _ hid' ha' => simp_all
    | root _ hid' _ hb' => simp_all
    | @derived _ base' _ _ names' id' _ hid' _ hb' hr' =>
      obtain rfl : id = id' := Option.some.inj (hid.symm.trans hid')
      obtain rfl : base = base' := Option.some.inj (hb.symm.trans hb')
      obtain ⟨rfl, rfl⟩ := ih hr'
      exact ⟨rfl, rfl⟩

lemma Readies.subset (h : Readies b name done names done') : done ⊆ done' := by
  induction h with
  | again => exact List.Subset.refl _
  | inactive => exact List.subset_append_left _ _
  | root => exact List.subset_append_left _ _
  | derived _ _ _ _ _ ih => exact List.Subset.trans (List.subset_append_left _ _) ih

lemma Readies.mem_done (h : Readies b name done names done') : some name ∈ done' := by
  cases h with
  | again h => exact h
  | inactive => simp
  | root => simp
  | derived _ _ _ _ hr => exact hr.subset (by simp)

/-- The types that are made ready are those of the active classes that come to be done. -/
lemma Readies.mem_names (h : Readies b name done names done') (x : String) :
    x ∈ names ↔ some x ∈ done' ∧ some x ∉ done ∧ b.IsActive x := by
  induction h with
  | again =>
    constructor
    · intro hx
      cases hx
    · rintro ⟨hx, hnx, -⟩
      exact absurd hx hnx
  | @inactive name done id hn hid ha =>
    have hnot : ¬ b.IsActive name := by
      rintro ⟨other, hother, hactive⟩
      rw [hid, Option.some.injEq] at hother
      rw [hother, hactive] at ha
      cases ha
    constructor
    · intro hx
      cases hx
    · rintro ⟨hx, hnx, hactive⟩
      rcases List.mem_append.mp hx with hx | hx
      · exact absurd hx hnx
      · rw [List.mem_singleton, Option.some.injEq] at hx
        exact absurd (hx ▸ hactive) hnot
  | @root name done id hn hid ha hb =>
    rw [List.mem_singleton, List.mem_append, List.mem_singleton, Option.some.injEq]
    constructor
    · rintro rfl
      exact ⟨.inr rfl, hn, id, hid, ha⟩
    · rintro ⟨hx | hx, hnx, -⟩
      · exact absurd hx hnx
      · exact hx
  | @derived name base done done' names id hn hid ha hb hr ih =>
    rw [List.mem_append, List.mem_singleton, ih, List.mem_append, List.mem_singleton,
      Option.some.injEq]
    constructor
    · rintro (⟨hx, hnx, hactive⟩ | rfl)
      · exact ⟨hx, fun h => hnx (.inl h), hactive⟩
      · exact ⟨hr.subset (by simp), hn, id, hid, ha⟩
    · rintro ⟨hx, hnx, hactive⟩
      by_cases hxn : x = name
      · exact .inr hxn
      · exact .inl ⟨hx, by simp [hnx, hxn], hactive⟩

/-- No type is made ready twice. -/
lemma Readies.nodup (h : Readies b name done names done') : names.Nodup := by
  induction h with
  | again => exact List.nodup_nil
  | inactive => exact List.nodup_nil
  | root => exact List.nodup_singleton _
  | @derived name base done done' names id hn hid ha hb hr ih =>
    rw [List.nodup_append]
    refine ⟨ih, List.nodup_singleton _, ?_⟩
    intro x hx y hy
    rw [List.mem_singleton] at hy
    rintro rfl
    -- The name was done before the turn of its base.
    have hnew := ((hr.mem_names x).mp hx).2.1
    exact hnew (by simp [hy])

/-- Every class comes after its base. -/
def InOrder (b : Binding) (names : List String) : Prop :=
  ∀ before name, before ++ [name] <+: names → ∀ base, b.Derives name base → base ∈ before

lemma InOrder.concat (h : b.InOrder names) (hb : ∀ base, b.Derives name base → base ∈ names) :
    b.InOrder (names ++ [name]) := by
  intro before x hx base hd
  rcases List.prefix_concat_iff.mp hx with heq | hx
  · obtain ⟨rfl, hx⟩ := List.append_inj' heq rfl
    obtain rfl : x = name := by simpa using hx
    exact hb base hd
  · exact h before x hx base hd

/-- Where no class is derived from itself, the turn of a class keeps the order, as long as what is done
is written or waits for its base to be written. -/
lemma Readies.inOrder (h : Readies b name done names done') (hacyc : ∀ x, ¬ TransGen b.Derives x x)
    (hdone : ∀ x, b.IsActive x → some x ∈ done → x ∈ before ∨ TransGen b.Derives x name)
    (ho : b.InOrder before) : b.InOrder (before ++ names) := by
  induction h generalizing before with
  | again => simpa using ho
  | inactive => simpa using ho
  | @root name done id hn hid ha hb =>
    apply ho.concat
    rintro base ⟨other, hother, -, hbase⟩
    rw [hid, Option.some.injEq] at hother
    rw [← hother, hb] at hbase
    cases hbase
  | @derived name base done done' names id hn hid ha hb hr ih =>
    have hderives : b.Derives name base := ⟨id, hid, ha, hb⟩
    have hrest : b.InOrder (before ++ names) := by
      refine ih ?_ ho
      intro x hx hmem
      rw [List.mem_append, List.mem_singleton, Option.some.injEq] at hmem
      rcases hmem with hmem | rfl
      · exact (hdone x hx hmem).imp_right fun hx => hx.tail hderives
      · exact .inr (.single hderives)
    rw [← List.append_assoc]
    apply hrest.concat
    rintro base' ⟨other, hother, -, hbase⟩
    obtain rfl : id = other := Option.some.inj (hid.symm.trans hother)
    obtain rfl : base = base' := Option.some.inj (hb.symm.trans hbase)
    -- The base is written by now: otherwise it would wait for its own derived class.
    rw [List.mem_append]
    by_cases hold : some base ∈ done ++ [some name]
    · rw [List.mem_append, List.mem_singleton, Option.some.injEq] at hold
      rcases hold with hold | rfl
      · rcases hdone base hderives.isActive hold with hw | hw
        · exact .inl hw
        · exact absurd (hw.tail hderives) (hacyc base)
      · exact absurd (.single hderives) (hacyc base)
    · exact .inr ((hr.mem_names base).mpr ⟨hr.mem_done, hold, hderives.isActive⟩)

/-! ### All classes -/

/-- The types that are made ready, in order, when it is the turn of each of some classes. -/
inductive ReadiesAll (b : Binding) :
    List (Option String) → List (Option String) → List String → List (Option String) → Prop where
  | nil {done : List (Option String)} : ReadiesAll b [] done [] done
  | cons {name : String} {keys done done' done'' : List (Option String)} {names names' : List String}
      (h : Readies b name done names done') (hr : ReadiesAll b keys done' names' done'') :
      ReadiesAll b (some name :: keys) done (names ++ names') done''

variable {keys : List (Option String)}

lemma ReadiesAll.unique {names' : List String} {done'' : List (Option String)}
    (h : ReadiesAll b keys done names done') (h' : ReadiesAll b keys done names' done'') :
    names = names' ∧ done' = done'' := by
  induction h generalizing names' done'' with
  | nil =>
    cases h'
    exact ⟨rfl, rfl⟩
  | cons h _ ih =>
    cases h' with
    | cons h' hr' =>
      obtain ⟨rfl, rfl⟩ := h.unique h'
      obtain ⟨rfl, rfl⟩ := ih hr'
      exact ⟨rfl, rfl⟩

lemma ReadiesAll.subset (h : ReadiesAll b keys done names done') : done ⊆ done' := by
  induction h with
  | nil => exact List.Subset.refl _
  | cons h _ ih => exact List.Subset.trans h.subset ih

lemma ReadiesAll.mem_names (h : ReadiesAll b keys done names done') (x : String) :
    x ∈ names ↔ some x ∈ done' ∧ some x ∉ done ∧ b.IsActive x := by
  induction h with
  | nil =>
    constructor
    · intro hx
      cases hx
    · rintro ⟨hx, hnx, -⟩
      exact absurd hx hnx
  | @cons name keys done done' done'' names names' h hr ih =>
    rw [List.mem_append, h.mem_names, ih]
    constructor
    · rintro (⟨hx, hnx, ha⟩ | ⟨hx, hnx, ha⟩)
      · exact ⟨hr.subset hx, hnx, ha⟩
      · exact ⟨hx, fun hd => hnx (h.subset hd), ha⟩
    · rintro ⟨hx, hnx, ha⟩
      by_cases hmid : some x ∈ done'
      · exact .inl ⟨hmid, hnx, ha⟩
      · exact .inr ⟨hx, hmid, ha⟩

lemma ReadiesAll.nodup (h : ReadiesAll b keys done names done') : names.Nodup := by
  induction h with
  | nil => exact List.nodup_nil
  | cons h hr ih =>
    rw [List.nodup_append]
    refine ⟨h.nodup, ih, ?_⟩
    rintro x hx y hy rfl
    exact ((hr.mem_names x).mp hy).2.1 ((h.mem_names x).mp hx).1

lemma ReadiesAll.inOrder (h : ReadiesAll b keys done names done')
    (hacyc : ∀ x, ¬ TransGen b.Derives x x)
    (hdone : ∀ x, b.IsActive x → some x ∈ done → x ∈ before) (ho : b.InOrder before) :
    b.InOrder (before ++ names) := by
  induction h generalizing before with
  | nil => simpa using ho
  | @cons name keys done done' done'' names names' h hr ih =>
    rw [← List.append_assoc]
    refine ih ?_ (h.inOrder hacyc (fun x hx hmem => .inl (hdone x hx hmem)) ho)
    intro x hx hmem
    rw [List.mem_append]
    by_cases hold : some x ∈ done
    · exact .inl (hdone x hx hold)
    · exact .inr ((h.mem_names x).mpr ⟨hmem, hold, hx⟩)

end HeaderBind.Binding
