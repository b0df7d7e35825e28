import HeaderBind.Proofs.Binding.Declaring

/-!
# Settled bindings

Methods of different classes share a signature where one inherits from the other. The comment of a method
is read when it is inherited, and reading it once more changes nothing (`defaults_read_read`). So in a
settled binding the signatures that are shared hold what the comments of all their methods say already.
A binding that is settled stays so when classes are added that inherit (`Settled.of_inherits`).
-/

namespace HeaderBind

/-! ### Assigning twice -/

namespace Dict

variable {κ ν : Type} [BEq κ] [LawfulBEq κ] {d : Dict κ ν} {k k' : κ} {v : ν}

lemma insertList_eq_self {es : List (κ × ν)} (h : es.lookup k = some v) : insertList k v es = es := by
  induction es with
  | nil => cases h
  | cons e es ih =>
    by_cases hk : k = e.1
    · subst hk
      rw [List.lookup_cons_self] at h
      obtain rfl := Option.some.inj h
      simp [insertList]
    · have hne : (k == e.1) = false := by simp [hk]
      rw [List.lookup_cons, hne] at h
      simp [insertList, hne, ih h]

lemma insertList_insertList (k : κ) (v v' : ν) (es : List (κ × ν)) :
    insertList k v' (insertList k v es) = insertList k v' es := by
  induction es with
  | nil => simp [insertList]
  | cons e es ih => by_cases hk : k = e.1 <;> simp [insertList, hk, ih]

lemma insertList_comm {es : List (κ × ν)} (hne : k ≠ k') (hk : k ∈ es.map Prod.fst) (v v' : ν) :
    insertList k' v' (insertList k v es) = insertList k v (insertList k' v' es) := by
  induction es with
  | nil => cases hk
  | cons e es ih =>
    by_cases he : k = e.1
    · subst he
      simp [insertList, hne.symm]
    · have hmem : k ∈ es.map Prod.fst := by simpa [he] using hk
      by_cases he' : k' = e.1
      · subst he'
        simp [insertList, hne]
      · simp [insertList, he, he', ih hmem]

lemma insert_eq_self (h : d.get? k = some v) : d.insert k v = d :=
  congrArg Dict.mk (insertList_eq_self h)

lemma insert_insert (d : Dict κ ν) (k : κ) (v v' : ν) : (d.insert k v).insert k v' = d.insert k v' :=
  congrArg Dict.mk (insertList_insertList k v v' d.entries)

/-- A key that is there keeps its place, so that other keys can be assigned to before or after. -/
lemma insert_comm (hne : k ≠ k') (hk : k ∈ d.keys) (v v' : ν) :
    (d.insert k v).insert k' v' = (d.insert k' v').insert k v :=
  congrArg Dict.mk (insertList_comm hne hk v v')

lemma mem_keys_insert (h : k ∈ d.keys) (k' : κ) (v : ν) : k ∈ (d.insert k' v).keys := by
  rw [keys_insert]
  split
  · exact h
  · exact List.mem_append_left _ h

lemma mem_keys_insert_self (d : Dict κ ν) (k : κ) (v : ν) : k ∈ (d.insert k v).keys := by
  rw [keys_insert]
  split
  next h => exact h
  next => simp

end Dict

/-! ### Reading a comment twice -/

namespace Doc

/-- The argument that an annotation gives a value to. -/
def keyOf : Annotation → Option String
  | .default name _ => some name
  | .raises _ => none

namespace Notes

/-- The defaults that annotations give do not depend on the exceptions. -/
lemma defaults_foldl_add (n : Notes) (as : List Annotation) (e : Option Raise) :
    (as.foldl add { n with exception := e }).defaults = (as.foldl add n).defaults := by
  induction as generalizing n e with
  | nil => rfl
  | cons a as ih =>
    cases a with
    | default name value => exact ih (n.add (.default name value)) e
    | raises r => exact (ih n (some r)).trans (ih n (some r)).symm

lemma mem_keys_foldl_add {n : Notes} {k : String} (h : k ∈ n.defaults.keys) (as : List Annotation) :
    k ∈ (as.foldl add n).defaults.keys := by
  induction as generalizing n with
  | nil => exact h
  | cons a as ih =>
    cases a with
    | default name value => exact ih (Dict.mem_keys_insert h name _)
    | raises r => exact ih h

/-- What no annotation gives a value to keeps the one that it has. -/
lemma get?_foldl_add {n : Notes} {as : List Annotation} {k : String}
    (h : some k ∉ as.map keyOf) :
    (as.foldl add n).defaults.get? k = n.defaults.get? k := by
  induction as generalizing n with
  | nil => rfl
  | cons a as ih =>
    rw [List.map_cons, List.mem_cons, not_or] at h
    rw [List.foldl_cons, ih h.2]
    cases a with
    | default name value =>
      have hne : k ≠ name := fun heq => h.1 (congrArg some heq)
      simp [add, hne]
    | raises r => rfl

/-- A value that annotations replace makes no difference. -/
lemma foldl_add_insert {n : Notes} {as : List Annotation} {k : String} (v : String)
    (h : some k ∈ as.map keyOf) (hk : k ∈ n.defaults.keys) :
    as.foldl add { n with defaults := n.defaults.insert k v } = as.foldl add n := by
  induction as generalizing n with
  | nil => cases h
  | cons a as ih =>
    rw [List.foldl_cons, List.foldl_cons]
    cases a with
    | raises r =>
      have hrest : some k ∈ as.map keyOf := by
        simpa [keyOf] using h
      exact ih (n := { n with exception := some r }) hrest hk
    | default name value =>
      by_cases hname : k = name
      · subst hname
        simp only [add, Dict.insert_insert]
      · have hrest : some k ∈ as.map keyOf := by
          simpa [keyOf, hname] using h
        simp only [add, Dict.insert_comm hname hk]
        exact ih (n := { n with defaults := n.defaults.insert name (Text.strip value) }) hrest
          (Dict.mem_keys_insert hk name _)

lemma defaults_foldl_add_twice (n : Notes) (as : List Annotation) :
    (as.foldl add (as.foldl add n)).defaults = (as.foldl add n).defaults := by
  induction as generalizing n with
  | nil => rfl
  | cons a as ih =>
    rw [List.foldl_cons, List.foldl_cons]
    cases a with
    | raises r =>
      rw [← ih (n.add (.raises r))]
      exact defaults_foldl_add _ as (some r)
    | default name value =>
      generalize hn : n.add (.default name value) = n'
      by_cases hname : some name ∈ as.map keyOf
      · have hkey : name ∈ (as.foldl add n').defaults.keys := by
          refine mem_keys_foldl_add ?_ as
          rw [← hn]
          exact Dict.mem_keys_insert_self _ name _
        rw [← ih n']
        exact congrArg Notes.defaults (foldl_add_insert (Text.strip value) hname hkey)
      · have hget : (as.foldl add n').defaults.get? name = some (Text.strip value) := by
          rw [get?_foldl_add hname, ← hn]
          simp [add]
        have hsame : (as.foldl add n').add (.default name value) = as.foldl add n' := by
          simp only [add, Dict.insert_eq_self hget]
        rw [hsame, ih n']

/-- The defaults that a comment gives do not change when it is read once more. -/
lemma defaults_read_read (n : Notes) (e : Option Raise) (comment : String) :
    (read { defaults := (n.read comment).defaults, exception := e } comment).defaults =
      (n.read comment).defaults :=
  (defaults_foldl_add (n.read comment) (annotations comment) e).trans
    (defaults_foldl_add_twice n (annotations comment))

end Notes

end Doc

namespace Binding

open Doc (Notes)

variable {b b' : Binding} {m m' : Method}

/-! ### Signatures that are shared -/

/-- The signature of a method after its comment was read depends on the comment and the signature. -/
lemma noted_congr (hs : b'.signatureAt m'.signature = b.signatureAt m.signature)
    (hd : m'.doc = m.doc) : b'.noted m' = b.noted m := by
  have hdefaults : (b'.notes m').defaults = (b.notes m).defaults := by
    rw [notes, notes, hs, hd]
    let n : Notes := { defaults := (b.signatureAt m.signature).defaults }
    exact (n.defaults_foldl_add (Doc.annotations m.doc) m'.exception).trans
      (n.defaults_foldl_add (Doc.annotations m.doc) m.exception).symm
  rw [noted, noted, hs, hdefaults]

lemma noted_of_no_comment (h : m.doc = "") : b.noted m = b.signatureAt m.signature := by
  have hnone : Doc.annotations "" = [] := by decide +kernel
  rw [noted, notes, Notes.read, h, hnone]
  rfl

/-- A comment that was read is read once more. -/
lemma noted_noted (hs : b'.signatureAt m'.signature = b.noted m) (hd : m'.doc = m.doc) :
    b'.noted m' = b.noted m := by
  have hdefaults : (b'.notes m').defaults = (b.notes m).defaults := by
    rw [notes, hs, hd]
    exact Notes.defaults_read_read _ _ _
  rw [noted, hs, hdefaults]
  rfl

/-- Where a class inherits, the methods of a class that there was differ at most in their exceptions. -/
lemma Inherits.exists_entry {base : Option ClassId} {i : ClassId} (hi : b.Inherits base b')
    (hlt : i < b.classes.size) (hm : m ∈ (b'.classAt i).entries) :
    ∃ m₀ ∈ (b.classAt i).entries, m₀.signature = m.signature ∧ m₀.doc = m.doc := by
  rw [hi.classes i hlt] at hm
  split at hm
  · have hentries : (b.rereadClass (b.classAt i)).entries = (b.classAt i).entries.map b.reread := by
      cases hc : (b.classAt i).constructor <;> simp [ClassDef.entries, rereadClass, hc]
    rw [hentries, List.mem_map] at hm
    obtain ⟨m₀, hm₀, rfl⟩ := hm
    exact ⟨m₀, hm₀, rfl, rfl⟩
  · exact ⟨m, hm, rfl, rfl⟩

/-- A signature that classes share holds what the comments of its methods say. -/
def Settled (b : Binding) : Prop :=
  ∀ i < b.classes.size, ∀ j < b.classes.size, i ≠ j → ∀ m ∈ (b.classAt i).entries,
    m.signature ∈ (b.classAt j).entries.map Method.signature → b.noted m = b.signatureAt m.signature

namespace Settled

/-- Methods keep their comments and signatures, apart from those that are not shared. -/
lemma of_kept (h : b.Settled)
    (hk : ∀ i < b'.classes.size, ∀ m ∈ (b'.classAt i).entries,
      (∀ j < b'.classes.size, j ≠ i → m.signature ∉ (b'.classAt j).entries.map Method.signature) ∨
        i < b.classes.size ∧ b'.signatureAt m.signature = b.signatureAt m.signature ∧
          ∃ m₀ ∈ (b.classAt i).entries, m₀.signature = m.signature ∧ m₀.doc = m.doc) :
    b'.Settled := by
  intro i hi j hj hne m hm hshared
  rcases hk i hi m hm with hown | ⟨hi', hsame, m₀, hm₀, hs, hd⟩
  · exact absurd hshared (hown j hj hne.symm)
  · obtain ⟨m', hm', heq⟩ := List.mem_map.mp hshared
    rcases hk j hj m' hm' with hown | ⟨hj', -, m₁, hm₁, hs₁, -⟩
    · exact absurd (heq ▸ List.mem_map_of_mem hm) (hown i hi hne)
    · have hmem : m₀.signature ∈ (b.classAt j).entries.map Method.signature := by
        rw [hs, ← heq, ← hs₁]
        exact List.mem_map_of_mem hm₁
      have hnoted : b'.noted m = b.noted m₀ := noted_congr (by rw [hsame, hs]) hd.symm
      rw [hnoted, h i hi' j hj' hne m₀ hm₀ hmem, hs, hsame]

/-- The methods and signatures are the same. -/
lemma congr (h : b.Settled) (hs : b'.signatures = b.signatures)
    (hc : b'.classes.map ClassDef.entries = b.classes.map ClassDef.entries) : b'.Settled := by
  have hsize : b'.classes.size = b.classes.size := by
    simpa using congrArg Array.size hc
  refine h.of_kept fun i hi m hm => .inr ⟨hsize ▸ hi, ?_, m, ?_, rfl, rfl⟩
  · rw [signatureAt, hs]
    rfl
  · rwa [← classAt_of_map hc]

/-- Where a class inherits, a signature that was shared stays as it was. -/
lemma signatureAt_of_inherits {base : Option ClassId} {i j : ClassId} {s : SignatureId} (h : b.Settled)
    (hb : b.Sound) (hbase : ∀ id ∈ base, id < b.classes.size) (hinherits : b.Inherits base b')
    (hi : i < b.classes.size) (hj : j < b.classes.size) (hne : i ≠ j)
    (hs : s ∈ (b.classAt i).entries.map Method.signature)
    (hs' : s ∈ (b.classAt j).entries.map Method.signature) : b'.signatureAt s = b.signatureAt s := by
  obtain ⟨m, hm, rfl⟩ := List.mem_map.mp hs
  by_cases hread : m.signature ∈ (base.elim [] fun id => (b.classAt id).entries).map Method.signature
  · obtain ⟨m₀, hm₀, heq⟩ := List.mem_map.mp hread
    rw [← heq] at hs hs' ⊢
    rw [hinherits.signatures.noted m₀ hm₀]
    cases base with
    | none => cases hm₀
    | some id =>
      have hid := hbase id rfl
      by_cases hi' : i = id
      · subst hi'
        exact h i hid j hj hne m₀ hm₀ hs'
      · exact h id hid i hi (Ne.symm hi') m₀ hm₀ hs
  · exact hinherits.signatures.others _ ((hb.fit i hi).known m hm) hread

/-- The class that inherits has signatures of the base, of which the comments were read. -/
lemma of_inherits {base : Option ClassId} (h : b.Settled) (hb : b.Sound)
    (hbase : ∀ id ∈ base, id < b.classes.size) (hi : b.Inherits base b') : b'.Settled := by
  intro i hlt j hlt' hne m hm hs
  by_cases hnew : i < b.classes.size
  · obtain ⟨m₀, hm₀, hsig, hdoc⟩ := hi.exists_entry hnew hm
    have hmem := List.mem_map_of_mem (f := Method.signature) hm₀
    -- It is enough that the signature is shared with another class that there was.
    have hdone : ∀ k < b.classes.size, i ≠ k →
        m₀.signature ∈ (b.classAt k).entries.map Method.signature →
        b'.noted m = b'.signatureAt m.signature := by
      intro k hk hik hmem'
      have hsame := h.signatureAt_of_inherits hb hbase hi hnew hk hik hmem hmem'
      have hnoted : b'.noted m = b.noted m₀ := noted_congr (by rw [← hsig, hsame]) hdoc.symm
      rw [hnoted, ← hsig, hsame]
      exact h i hnew k hk hik m₀ hm₀ hmem'
    by_cases hnew' : j < b.classes.size
    · obtain ⟨m', hm', heq⟩ := List.mem_map.mp hs
      obtain ⟨m₁, hm₁, hsig₁, -⟩ := hi.exists_entry hnew' hm'
      refine hdone j hnew' hne ?_
      rw [hsig, ← heq, ← hsig₁]
      exact List.mem_map_of_mem hm₁
    · obtain ⟨m', hm', heq⟩ := List.mem_map.mp hs
      have hknown : m'.signature < b.signatures.size := by
        rw [heq, ← hsig]
        exact (hb.fit i hnew).known m₀ hm₀
      obtain ⟨id, hid, hmem'⟩ :=
        (hi.inherited j (Nat.le_of_not_lt hnew') hlt').entries m' hm' hknown
      obtain rfl : base = some id := hid
      rw [heq, ← hsig] at hmem'
      by_cases hbase' : i = id
      · subst hbase'
        have hsig' : b'.signatureAt m.signature = b.noted m₀ := hsig ▸ hi.signatures.noted m₀ hm₀
        rw [noted_noted hsig' hdoc.symm, hsig']
      · exact hdone id (hbase id rfl) hbase' hmem'
  · exact noted_of_no_comment ((hi.inherited i (Nat.le_of_not_lt hnew) hlt).docs m hm)

/-- A method whose signature is free is put into a class. -/
lemma putMethod (h : b.Settled) {id : ClassId} (hid : id < b.classes.size)
    (hfree : b.Free m.signature) : (b.withClass id (Class.putMethod · m)).Settled := by
  have hclass : (b.withClass id (Class.putMethod · m)).classAt id =
      Class.putMethod (b.classAt id) m := classAt_withClass hid
  have helse : ∀ i, i ≠ id → (b.withClass id (Class.putMethod · m)).classAt i = b.classAt i :=
    fun i hi => classAt_withClass_of_ne hi
  refine h.of_kept fun i hi x hx => ?_
  rw [size_withClass] at hi
  by_cases heq : i = id
  · subst heq
    rw [hclass] at hx
    rcases Class.mem_entries_putMethod hx with rfl | hx
    · refine .inl fun j hj hne => ?_
      rw [size_withClass] at hj
      rw [helse j hne]
      exact hfree.unused j hj
    · exact .inr ⟨hi, rfl, x, hx, rfl, rfl⟩
  · rw [helse i heq] at hx
    exact .inr ⟨hi, rfl, x, hx, rfl, rfl⟩

end Settled

/-! ### Members that are listed -/

/-- The members that the readers of attributes list are there. -/
def Listed (b : Binding) : Prop :=
  ∀ i < b.classes.size, ∀ reader ∈ (b.classAt i).attributes, ∀ k ∈ reader.members,
    k < b.members.size

namespace Listed

lemma congr (h : b.Listed) (hm : b'.members = b.members)
    (hc : b'.classes.map ClassDef.attributes = b.classes.map ClassDef.attributes) : b'.Listed := by
  have hsize : b'.classes.size = b.classes.size := by
    simpa using congrArg Array.size hc
  intro i hi
  rw [classAt_of_map hc, hm]
  exact h i (hsize ▸ hi)

lemma of_inherits {base : Option ClassId} (h : b.Listed)
    (hbase : ∀ id ∈ base, id < b.classes.size) (hi : b.Inherits base b') : b'.Listed := by
  intro i hlt reader hr k hk
  refine Nat.lt_of_lt_of_le ?_ hi.grown.2
  by_cases hnew : i < b.classes.size
  · have hattributes : (b'.classAt i).attributes = (b.classAt i).attributes := by
      rw [hi.classes i hnew]
      split <;> rfl
    rw [hattributes] at hr
    exact h i hnew reader hr k hk
  · obtain ⟨id, hid, r, hr, hk⟩ :=
      (hi.inherited i (Nat.le_of_not_lt hnew) hlt).members reader hr k hk
    exact h id (hbase id hid) r hr k hk

/-- A class gets one more attribute. -/
lemma withMember (h : b.Listed) (id : ClassId) (x : Member) : (Class.withMember b id x).Listed := by
  have hsize : (Class.withMember b id x).members.size = b.members.size + 1 := Array.size_push x
  intro i hi reader hr k hk
  rw [hsize]
  rw [show (Class.withMember b id x).classes.size = b.classes.size from Array.size_modify] at hi
  by_cases heq : i = id
  · subst heq
    rw [Class.classAt_withMember hi, ClassDef.modifyMethod, Option.mem_def,
      Option.map_eq_some_iff] at hr
    obtain ⟨r, hr, rfl⟩ := hr
    rcases List.mem_append.mp hk with hk | hk
    · exact Nat.lt_succ_of_lt (h i hi r hr k hk)
    · obtain rfl := List.mem_singleton.mp hk
      exact Nat.lt_succ_self _
  · rw [Class.classAt_withMember_of_ne heq] at hr
    exact Nat.lt_succ_of_lt (h i hi reader hr k hk)

end Listed

/-! ### Orderly bindings -/

/-- Signatures that are shared are settled, and members that are listed are there. -/
structure Orderly (b : Binding) : Prop where
  settled : b.Settled
  listed : b.Listed

/-- What counts of a binding for it to be orderly. -/
def ledger (b : Binding) :=
  (b.signatures, b.members, b.classes.map fun c => (c.entries, c.attributes))

lemma ledger_withClass {f : ClassDef → ClassDef}
    (h : ∀ c, ((f c).entries, (f c).attributes) = (c.entries, c.attributes)) (b : Binding)
    (id : ClassId) : (b.withClass id f).ledger = b.ledger := by
  rw [ledger, map_withClass h]
  rfl

namespace Orderly

lemma of_ledger (h : b.Orderly) (hl : b'.ledger = b.ledger) : b'.Orderly := by
  simp only [ledger, Prod.mk.injEq] at hl
  obtain ⟨hs, hm, hc⟩ := hl
  refine ⟨h.settled.congr hs ?_, h.listed.congr hm ?_⟩
  · simpa [Array.map_map, Function.comp_def] using congrArg (Array.map Prod.fst) hc
  · simpa [Array.map_map, Function.comp_def] using congrArg (Array.map Prod.snd) hc

lemma of_inherits {base : Option ClassId} (h : b.Orderly) (hb : b.Sound)
    (hbase : ∀ id ∈ base, id < b.classes.size) (hi : b.Inherits base b') : b'.Orderly :=
  ⟨h.settled.of_inherits hb hbase hi, h.listed.of_inherits hbase hi⟩

/-- One more signature, that no method has yet. -/
lemma withSignature (h : b.Orderly) (hb : b.Sound) (s : Signature) : (b.withSignature s).Orderly := by
  refine ⟨h.settled.of_kept fun i hi m hm => .inr ⟨hi, ?_, m, hm, rfl, rfl⟩, h.listed⟩
  exact signatureAt_withSignature_of_lt ((hb.fit i hi).known m hm)

/-- The arguments change of a method that is in no class yet. -/
lemma withArgs (h : b.Orderly) (hfree : b.Free m.signature) (args : List CType) :
    (Declaring.withArgs b m args).Orderly := by
  refine ⟨h.settled.of_kept fun i hi x hx => .inr ⟨hi, ?_, x, hx, rfl, rfl⟩, h.listed⟩
  refine (signatureAt_of_modify (f := fun s => { s with args }) rfl hfree.known).2 _ fun heq => ?_
  exact hfree.unused i hi (heq ▸ List.mem_map_of_mem hx)

lemma putMethod (h : b.Orderly) {id : ClassId} (hid : id < b.classes.size)
    (hfree : b.Free m.signature) : (b.withClass id (Class.putMethod · m)).Orderly := by
  refine ⟨h.settled.putMethod hid hfree, h.listed.congr rfl ?_⟩
  exact map_withClass (fun c => (Class.putMethod_others c m).2.2) b id

lemma withMember (h : b.Orderly) (id : ClassId) (x : Member) : (Class.withMember b id x).Orderly := by
  refine ⟨h.settled.congr rfl ?_, h.listed.withMember id x⟩
  refine map_withClass (g := fun c => c.modifyMethod .attributes fun m =>
    { m with members := m.members ++ [b.members.size] }) (fun c => ?_) b id
  rfl

end Orderly

end Binding

end HeaderBind
