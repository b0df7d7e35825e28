import HeaderBind.Header.Reader
import HeaderBind.Proofs.Class.Inherit
import Mathlib.Data.List.Nodup
import Mathlib.Data.List.Perm.Subperm

/-!
# Overriding methods

A method that is put into a class takes the place of the one of its name, or comes last; a class that is
whole stays so, if the signature of the method is its own (`whole_putMethod`). What a block of method
declarations makes of a class that inherits from another one is flat: a list of methods, each of which
stems from a declaration of the block or from a method of the base (`Flattened`). Declarations are added
one after the other (`Flattened.put`).
-/

namespace HeaderBind

namespace Class

/-! ### Putting methods -/

variable {c : ClassDef} {m x : Method}

lemma names_replaceFirst (m : Method) (ms : List Method) :
    (putMethod.replaceFirst m ms).map Method.name = ms.map Method.name := by
  induction ms with
  | nil => rfl
  | cons x rest ih =>
    rw [putMethod.replaceFirst]
    split
    next h => rw [List.map_cons, List.map_cons, eq_of_beq h]
    next => rw [List.map_cons, List.map_cons, ih]

/-- With different names only the method of the same name is gone. -/
lemma mem_replaceFirst {ms : List Method} (hn : (ms.map Method.name).Nodup)
    (h : x ∈ putMethod.replaceFirst m ms) : x = m ∨ x ∈ ms ∧ x.name ≠ m.name := by
  induction ms with
  | nil => cases h
  | cons y rest ih =>
    rw [List.map_cons, List.nodup_cons] at hn
    rw [putMethod.replaceFirst] at h
    split at h
    next hy =>
      refine (List.mem_cons.mp h).imp_right fun hx => ⟨List.mem_cons_of_mem y hx, fun heq => hn.1 ?_⟩
      rw [eq_of_beq hy, ← heq]
      exact List.mem_map_of_mem hx
    next hy =>
      rcases List.mem_cons.mp h with rfl | hx
      · exact .inr ⟨List.mem_cons_self, fun heq => hy (beq_iff_eq.mpr heq)⟩
      · exact (ih hn.2 hx).imp_right (And.imp_left (List.mem_cons_of_mem y))

lemma subperm_replaceFirst (m : Method) (ms : List Method) :
    (putMethod.replaceFirst m ms).Subperm (m :: ms) := by
  induction ms with
  | nil => exact List.nil_subperm
  | cons x rest ih =>
    rw [putMethod.replaceFirst]
    split
    · exact ((List.sublist_cons_self x rest).cons_cons m).subperm
    · exact ((List.subperm_cons x).mpr ih).trans (List.Perm.swap m x rest).subperm

lemma putMethod_of_constructor (h : m.kind.isConstructor = true) :
    putMethod c m = { c with constructor := some m } := by
  rw [putMethod, if_pos h]

lemma constructor_putMethod (h : m.kind.isConstructor = false) :
    (putMethod c m).constructor = c.constructor := by
  rw [putMethod, if_neg (by simp [h])]
  split <;> rfl

/-- A method that is no constructor takes the place of the one of its name, or comes last. -/
lemma names_putMethod (h : m.kind.isConstructor = false) :
    (putMethod c m).methods.map Method.name =
      if m.name ∈ c.methods.map Method.name then c.methods.map Method.name
      else c.methods.map Method.name ++ [m.name] := by
  have hany : (c.methods.any fun x => x.name == m.name) = true ↔
      m.name ∈ c.methods.map Method.name := by
    simp
  rw [putMethod, if_neg (by simp [h])]
  by_cases hm : m.name ∈ c.methods.map Method.name
  · rw [if_pos (hany.mpr hm), if_pos hm]
    exact names_replaceFirst m c.methods
  · rw [if_neg (mt hany.mp hm), if_neg hm, List.map_append]
    rfl

lemma nodup_names_putMethod (hn : (c.methods.map Method.name).Nodup) (m : Method) :
    ((putMethod c m).methods.map Method.name).Nodup := by
  cases hk : m.kind.isConstructor with
  | true =>
    rw [putMethod_of_constructor hk]
    exact hn
  | false =>
    rw [names_putMethod hk]
    split
    next => exact hn
    next hnew => exact List.nodup_append_comm.mp (List.nodup_cons.mpr ⟨hnew, hn⟩)

lemma mem_putMethod (h : m.kind.isConstructor = false) (hn : (c.methods.map Method.name).Nodup)
    (hx : x ∈ (putMethod c m).methods) : x = m ∨ x ∈ c.methods ∧ x.name ≠ m.name := by
  rw [putMethod, if_neg (by simp [h])] at hx
  split at hx
  next => exact mem_replaceFirst hn hx
  next hany =>
    rcases List.mem_append.mp hx with hx | hx
    · refine .inr ⟨hx, fun heq => hany (List.any_eq_true.mpr ⟨x, hx, ?_⟩)⟩
      exact beq_iff_eq.mpr heq
    · exact .inl (List.mem_singleton.mp hx)

lemma subperm_entries_putMethod (c : ClassDef) (m : Method) :
    (putMethod c m).entries.Subperm (m :: c.entries) := by
  rw [putMethod]
  split
  · exact ((List.sublist_append_right c.constructor.toList c.methods).cons_cons m).subperm
  · split
    · exact ((List.subperm_append_left _).mpr (subperm_replaceFirst m c.methods)).trans
        List.perm_middle.subperm
    · have hlast : (c.entries ++ [m]).Perm (m :: c.entries) := List.perm_append_singleton m c.entries
      rw [ClassDef.entries, List.append_assoc] at hlast
      exact hlast.subperm

lemma mem_entries_putMethod (h : x ∈ (putMethod c m).entries) : x = m ∨ x ∈ c.entries :=
  List.mem_cons.mp ((subperm_entries_putMethod c m).subset h)

/-- Only the constructor and the methods are touched. -/
lemma putMethod_others (c : ClassDef) (m : Method) :
    (putMethod c m).kind = c.kind ∧ (putMethod c m).name = c.name ∧
      (putMethod c m).attributes = c.attributes := by
  rw [putMethod]
  split
  · exact ⟨rfl, rfl, rfl⟩
  · split <;> exact ⟨rfl, rfl, rfl⟩

lemma whole_putMethod {n : Nat} (h : c.Whole n) (hf : m.unfinished = false) (hs : m.signature < n)
    (hm : m.signature ∉ c.entries.map Method.signature) : (putMethod c m).Whole n := by
  refine ⟨?_, ?_, ?_, ?_, ?_, nodup_names_putMethod h.names m⟩
  · cases hk : m.kind.isConstructor with
    | true => rw [putMethod_of_constructor hk, Option.isSome_some]
    | false => rw [constructor_putMethod hk, h.constructor]
  · rw [(putMethod_others c m).2.2]
    exact h.attributes
  · intro x hx
    rcases mem_entries_putMethod hx with rfl | hx
    · exact hf
    · exact h.finished x hx
  · intro x hx
    rcases mem_entries_putMethod hx with rfl | hx
    · exact hs
    · exact h.known x hx
  · obtain ⟨l, hperm, hsublist⟩ := subperm_entries_putMethod c m
    have hnodup : ((m :: c.entries).map Method.signature).Nodup := by
      rw [List.map_cons, List.nodup_cons]
      exact ⟨hm, h.apart⟩
    exact (hperm.map Method.signature).nodup_iff.mp (hnodup.sublist (hsublist.map Method.signature))

end Class

/-! ### Blocks of declarations -/

/-- A method as it stands in the block of a class. -/
structure MethodDecl where
  isPrivate : Bool
  returns : String
  name : String
  /-- The types and names of the arguments. -/
  args : List (String × String) := []

namespace MethodDecl

/-- The declaration is one of a constructor of a class. -/
def constructs (cls : String) (d : MethodDecl) : Bool :=
  d.returns == cls && d.name.startsWith "Con"

/-- The methods that a block adds to its class. -/
def methodsIn (cls : String) (ds : List MethodDecl) : List MethodDecl :=
  ds.filter fun d => !d.isPrivate && !d.constructs cls

/-- The constructors that a block gives to its class. -/
def constructorsIn (cls : String) (ds : List MethodDecl) : List MethodDecl :=
  ds.filter fun d => !d.isPrivate && d.constructs cls

lemma isConstructor_methodKind (cls returns name : String) :
    (HeaderReader.methodKind (some cls) returns name).1.isConstructor =
      (returns == cls && name.startsWith "Con") := by
  have hsome : (some returns == some cls) = (returns == cls) := rfl
  rw [HeaderReader.methodKind, hsome]
  cases returns == cls && name.startsWith "Con" with
  | true => rfl
  | false =>
    simp only [Bool.false_eq_true, if_false]
    split
    · rfl
    · split
      · rfl
      · split <;> rfl

/-- The method is what was declared, in the class of a number: its arguments and its result are those
of the declaration, as far as their types are known. -/
structure Declares (b : Binding) (cls : String) (id : ClassId) (d : MethodDecl) (m : Method) :
    Prop where
  kind : m.kind = (HeaderReader.methodKind (some cls) d.returns d.name).1
  name : m.name = d.name
  className : m.className = some cls
  definitionClass : m.definitionClass = some cls
  owner : m.owner = id
  args : ((Method.addAllTo (some cls) d.name [] d.args).effect b).1 =
    .ok (b.signatureAt m.signature).args
  returns : ∃ t, ((Method.resultType (some cls) d.name d.returns).effect b).1 = .ok t ∧
    (b.signatureAt m.signature).returns = Method.resultOf m.kind t

/-- What a method is declared as depends on the types that are known, and on its signature. -/
lemma Declares.congr {b b' : Binding} {cls : String} {id : ClassId} {d : MethodDecl} {m : Method}
    (h : Declares b cls id d m) (hr : b'.registry = b.registry)
    (hs : b'.signatureAt m.signature = b.signatureAt m.signature) : Declares b' cls id d m where
  kind := h.kind
  name := h.name
  className := h.className
  definitionClass := h.definitionClass
  owner := h.owner
  args := by
    rw [(Method.consults_addAllTo _ _ _ _).2 b' b hr, h.args, hs]
  returns := by
    rw [(Method.consults_resultType _ _ _).2 b' b hr, hs]
    exact h.returns

end MethodDecl

open MethodDecl

/-! ### Flat classes -/

/-- The names of methods that are inherited, and then those that are declared, each once. -/
def flatNames (inherited declared : List String) : List String :=
  inherited ++ (declared.filter (· ∉ inherited)).eraseDups

lemma flatNames_concat (inherited declared : List String) (name : String) :
    flatNames inherited (declared ++ [name]) =
      if name ∈ flatNames inherited declared then flatNames inherited declared
      else flatNames inherited declared ++ [name] := by
  have hmem : name ∈ flatNames inherited declared ↔
      name ∈ inherited ∨ name ∈ declared.filter (· ∉ inherited) := by
    rw [flatNames, List.mem_append, List.mem_eraseDups]
  rw [flatNames, List.filter_append, List.eraseDups_append, ← List.append_assoc, ← flatNames]
  by_cases hi : name ∈ inherited
  · rw [if_pos (hmem.mpr (.inl hi))]
    simp [hi, List.removeAll]
  · by_cases hd : name ∈ declared
    · rw [if_pos (hmem.mpr (.inr (by simp [hi, hd])))]
      simp [hi, hd, List.removeAll]
    · rw [if_neg (by rw [hmem]; simp [hi, hd])]
      simp [hi, hd, List.removeAll, List.eraseDups_cons]

/-- Where a method of a class comes from: from the last declaration if there is one, and from one of
some methods of the base otherwise. -/
def Stems (b₀ b : Binding) (cls : String) (id : ClassId) (last : Option MethodDecl)
    (inherited : List Method) (m : Method) : Prop :=
  match last with
  | some d => Declares b cls id d m
  | none => ∃ m₀ ∈ inherited, m = b₀.heir cls m₀ ∧ b.signatureAt m.signature = b₀.noted m₀

lemma Stems.congr {b₀ b b' : Binding} {cls : String} {id : ClassId} {last : Option MethodDecl}
    {inherited : List Method} {m : Method} (h : Stems b₀ b cls id last inherited m)
    (hr : b'.registry = b.registry)
    (hs : b'.signatureAt m.signature = b.signatureAt m.signature) :
    Stems b₀ b' cls id last inherited m := by
  cases last with
  | some d => exact Declares.congr h hr hs
  | none =>
    obtain ⟨m₀, hm₀, hm, hsig⟩ := h
    exact ⟨m₀, hm₀, hm, hs.trans hsig⟩

/-- The class of a number inherits from a base as it was before, with the declarations of a block: the
methods of the base come first, in their order, and then the new ones. Each is the last one that was
declared under its name, or else the heir of the one of the base. -/
structure Flattened (b₀ : Binding) (base : ClassDef) (cls : String) (id : ClassId)
    (ds : List MethodDecl) (b : Binding) : Prop where
  names : (b.classAt id).methods.map Method.name =
    flatNames (base.methods.map Method.name) ((methodsIn cls ds).map MethodDecl.name)
  apart : ((b.classAt id).methods.map Method.name).Nodup
  methods : ∀ m ∈ (b.classAt id).methods,
    Stems b₀ b cls id ((methodsIn cls ds).filter (·.name == m.name)).getLast? base.methods m
  constructor : ∃ m, (b.classAt id).constructor = some m ∧
    Stems b₀ b cls id (constructorsIn cls ds).getLast? base.constructor.toList m

namespace Flattened

variable {b₀ b b' : Binding} {base : ClassDef} {cls : String} {id : ClassId}
  {ds : List MethodDecl} {d : MethodDecl} {m : Method}

/-- At the start of the block there are the heirs. -/
lemma start {n : Nat} (hw : base.Whole n)
    (hs : ∀ m ∈ base.entries, b.signatureAt m.signature = b₀.noted m)
    (hm : (b.classAt id).methods = base.methods.map (b₀.heir cls))
    (hc : (b.classAt id).constructor = base.constructor.map (b₀.heir cls)) :
    Flattened b₀ base cls id [] b := by
  obtain ⟨c, hsome⟩ := Option.isSome_iff_exists.mp hw.constructor
  have hnames : (b.classAt id).methods.map Method.name = base.methods.map Method.name := by
    rw [hm, List.map_map]
    rfl
  refine ⟨?_, ?_, ?_, b₀.heir cls c, ?_, c, ?_, rfl, ?_⟩
  · rw [hnames]
    simp [flatNames, methodsIn]
  · rw [hnames]
    exact hw.names
  · rw [hm]
    intro m hm'
    obtain ⟨m₀, hm₀, rfl⟩ := List.mem_map.mp hm'
    exact ⟨m₀, hm₀, rfl, hs m₀ (List.mem_append_right _ hm₀)⟩
  · rw [hc, hsome, Option.map_some]
  · rw [hsome]
    exact List.mem_singleton_self c
  · exact hs c (by simp [ClassDef.entries, hsome])

/-- Nothing happened to the class and to the signatures of its methods. -/
lemma congr (h : Flattened b₀ base cls id ds b) (hr : b'.registry = b.registry)
    (hm : (b'.classAt id).methods = (b.classAt id).methods)
    (hc : (b'.classAt id).constructor = (b.classAt id).constructor)
    (hs : ∀ m ∈ (b.classAt id).entries, b'.signatureAt m.signature = b.signatureAt m.signature) :
    Flattened b₀ base cls id ds b' := by
  obtain ⟨hnames, hapart, hmethods, c, hsome, hstems⟩ := h
  refine ⟨by rw [hm, hnames], by rwa [hm], ?_, c, by rw [hc, hsome], ?_⟩
  · rw [hm]
    intro m hm'
    exact (hmethods m hm').congr hr (hs m (by simp [ClassDef.entries, hm']))
  · exact hstems.congr hr (hs c (by simp [ClassDef.entries, hsome]))

/-- A declaration that is private adds nothing. -/
lemma skip (h : Flattened b₀ base cls id ds b) (hd : d.isPrivate = true) :
    Flattened b₀ base cls id (ds ++ [d]) b := by
  have hm : methodsIn cls (ds ++ [d]) = methodsIn cls ds := by
    simp [methodsIn, hd]
  have hc : constructorsIn cls (ds ++ [d]) = constructorsIn cls ds := by
    simp [constructorsIn, hd]
  refine ⟨?_, h.apart, ?_, ?_⟩
  · rw [hm, h.names]
  · rw [hm]
    exact h.methods
  · rw [hc]
    exact h.constructor

/-- A constructor takes the place of the constructor. -/
lemma put_constructor (h : Flattened b₀ base cls id ds b) (hid : id < b.classes.size)
    (hd : d.isPrivate = false) (hk : d.constructs cls = true) (hm : Declares b cls id d m) :
    Flattened b₀ base cls id (ds ++ [d]) (b.withClass id (Class.putMethod · m)) := by
  have hkind : m.kind.isConstructor = true := by
    rw [hm.kind, isConstructor_methodKind]
    exact hk
  have hin : methodsIn cls (ds ++ [d]) = methodsIn cls ds := by
    simp [methodsIn, hk]
  have hcin : constructorsIn cls (ds ++ [d]) = constructorsIn cls ds ++ [d] := by
    simp [constructorsIn, hd, hk]
  have hclass : (b.withClass id (Class.putMethod · m)).classAt id =
      { b.classAt id with constructor := some m } := by
    rw [Binding.classAt_withClass hid, Class.putMethod_of_constructor hkind]
  refine ⟨?_, ?_, ?_, m, ?_, ?_⟩
  · rw [hclass, hin, h.names]
  · rw [hclass]
    exact h.apart
  · rw [hclass, hin]
    exact fun x hx => (h.methods x hx).congr rfl rfl
  · rw [hclass]
  · rw [hcin, List.getLast?_concat]
    exact hm.congr rfl rfl

/-- Any other method takes the place of the one of its name, or comes last. -/
lemma put_method (h : Flattened b₀ base cls id ds b) (hid : id < b.classes.size)
    (hd : d.isPrivate = false) (hk : d.constructs cls = false) (hm : Declares b cls id d m) :
    Flattened b₀ base cls id (ds ++ [d]) (b.withClass id (Class.putMethod · m)) := by
  have hkind : m.kind.isConstructor = false := by
    rw [hm.kind, isConstructor_methodKind]
    exact hk
  have hin : methodsIn cls (ds ++ [d]) = methodsIn cls ds ++ [d] := by
    simp [methodsIn, hd, hk]
  have hcin : constructorsIn cls (ds ++ [d]) = constructorsIn cls ds := by
    simp [constructorsIn, hk]
  obtain ⟨hnames, hapart, hmethods, c, hsome, hstems⟩ := h
  have hclass : (b.withClass id (Class.putMethod · m)).classAt id =
      Class.putMethod (b.classAt id) m := Binding.classAt_withClass hid
  refine ⟨?_, ?_, ?_, c, ?_, ?_⟩
  · rw [hclass, Class.names_putMethod hkind, hin, List.map_append, List.map_singleton,
      flatNames_concat, ← hnames, hm.name]
  · rw [hclass]
    exact Class.nodup_names_putMethod hapart m
  · rw [hclass, hin]
    intro x hx
    rcases Class.mem_putMethod hkind hapart hx with rfl | ⟨hx, hne⟩
    · have hlast : (methodsIn cls ds ++ [d]).filter (·.name == x.name) =
          (methodsIn cls ds).filter (·.name == x.name) ++ [d] := by
        simp [hm.name]
      rw [hlast, List.getLast?_concat]
      exact hm.congr rfl rfl
    · have hsame : (methodsIn cls ds ++ [d]).filter (·.name == x.name) =
          (methodsIn cls ds).filter (·.name == x.name) := by
        have hother : d.name ≠ x.name := fun heq => hne (heq.symm.trans hm.name.symm)
        simp [hother]
      rw [hsame]
      exact (hmethods x hx).congr rfl rfl
  · rw [hclass, Class.constructor_putMethod hkind, hsome]
  · rw [hcin]
    exact hstems.congr rfl rfl

lemma put (h : Flattened b₀ base cls id ds b) (hid : id < b.classes.size)
    (hd : d.isPrivate = false) (hm : Declares b cls id d m) :
    Flattened b₀ base cls id (ds ++ [d]) (b.withClass id (Class.putMethod · m)) := by
  cases hk : d.constructs cls with
  | true => exact h.put_constructor hid hd hk hm
  | false => exact h.put_method hid hd hk hm

end Flattened

end HeaderBind
