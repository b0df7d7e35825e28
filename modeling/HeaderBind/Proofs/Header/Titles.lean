import HeaderBind.Proofs.Header.Logging
import HeaderBind.Proofs.Header.Undisturbed

/-!
# Constructors go by the names of their classes

While headers are read without failing, every class is known by its own name, and its constructor and its
methods carry that name, whether they were declared for the class or inherited (`Reached.entitled`). So the
name that a constructor carries leads back to its class (`Entitled.titled`).
-/

namespace HeaderBind

lemma Dict.get?_of_mem {κ ν : Type} [BEq κ] [LawfulBEq κ] {d : Dict κ ν} {key : κ} {v : ν} (hn : d.keys.Nodup)
    (h : (key, v) ∈ d.entries) : d.get? key = some v := by
  obtain ⟨front, rest, heq⟩ := List.append_of_mem h
  rw [keys, heq, List.map_append, List.map_cons, List.nodup_append] at hn
  refine List.lookup_eq_some_iff.mpr ⟨front, rest, heq, fun e he => ?_⟩
  have hne := hn.2.2 e.1 (List.mem_map_of_mem he) key List.mem_cons_self
  exact bne_iff_ne.mpr hne.symm

lemma Dict.nodup_keys_insert {κ ν : Type} [BEq κ] [LawfulBEq κ] {d : Dict κ ν} (hn : d.keys.Nodup) (key : κ)
    (v : ν) : (d.insert key v).keys.Nodup := by
  rw [keys_insert]
  split
  · exact hn
  next hnew => exact List.nodup_append.mpr ⟨hn, List.nodup_singleton _, by
      rintro x hx y hy rfl
      exact hnew (List.mem_singleton.mp hy ▸ hx)⟩

namespace ClassDef

variable {c c' : ClassDef}

/-- The methods of the class carry its name, and what reads its attributes is a reader. -/
structure Entitled (c : ClassDef) : Prop where
  methods : ∀ m ∈ c.entries, m.className = c.name
  reader : ∀ r ∈ c.attributes, r.kind = .attributes

/-- What a class is and what it is called, and the same of its methods and of its reader. -/
def titles (c : ClassDef) :=
  (c.kind, c.name, c.entries.map fun m => (m.kind, m.className), c.attributes.map Method.kind)

lemma Entitled.of_titles (h : c.Entitled) (ht : c'.titles = c.titles) : c'.Entitled := by
  simp only [titles, Prod.mk.injEq] at ht
  obtain ⟨-, hname, hentries, hattributes⟩ := ht
  refine ⟨fun m hm => ?_, fun r hr => ?_⟩
  · have hmem := List.mem_map_of_mem (f := fun m : Method => (m.kind, m.className)) hm
    rw [hentries] at hmem
    obtain ⟨m', hm', heq⟩ := List.mem_map.mp hmem
    rw [← (Prod.mk.inj heq).2, hname]
    exact h.methods m' hm'
  · rw [hr, Option.map_some, eq_comm, Option.map_eq_some_iff] at hattributes
    obtain ⟨r', hr', hkind⟩ := hattributes
    rw [← hkind]
    exact h.reader r' hr'

lemma Entitled.putMethod {m : Method} (h : c.Entitled) (hm : m.className = c.name) :
    (Class.putMethod c m).Entitled := by
  obtain ⟨-, hname, hattributes⟩ := Class.putMethod_others c m
  refine ⟨fun m' hm' => ?_, hattributes ▸ h.reader⟩
  rw [hname]
  rcases Class.mem_entries_putMethod hm' with rfl | hm'
  · exact hm
  · exact h.methods m' hm'

lemma titles_modifyMethod {f : Method → Method} (hk : ∀ m, (f m).kind = m.kind)
    (hn : ∀ m, (f m).className = m.className) (c : ClassDef) (slot : MethodSlot) :
    (c.modifyMethod slot f).titles = c.titles := by
  have hkind : Method.kind ∘ f = Method.kind := funext hk
  cases slot with
  | constructor => cases hc : c.constructor <;> simp [titles, entries, modifyMethod, hc, hk, hn]
  | attributes => simp only [titles, entries, modifyMethod, Option.map_map, hkind]
  | method i => simp only [titles, entries, modifyMethod, List.map_append, map_modify_of_eq, hk, hn, implies_true]

end ClassDef

namespace Binding

variable {b b' : Binding} {id : ClassId}

/-- The name that a constructor carries is the name under which its class is known, and no reader of
attributes is a constructor. -/
structure Titled (b : Binding) : Prop where
  constructors : ∀ id ∈ b.index.values, ∀ m ∈ (b.classAt id).entries, m.kind = .constructor →
    b.index.get? m.className = some id
  readers : ∀ id, ∀ r ∈ (b.classAt id).attributes, r.kind = .attributes

namespace Titled

lemma of_titles (h : b.Titled) (hi : b'.index = b.index)
    (hc : b'.classes.map ClassDef.titles = b.classes.map ClassDef.titles) : b'.Titled := by
  have htitles := classAt_of_map hc
  simp only [ClassDef.titles, Prod.mk.injEq] at htitles
  refine ⟨fun id hid m hm hkind => ?_, fun id r hr => ?_⟩
  · have hmem := List.mem_map_of_mem (f := fun m : Method => (m.kind, m.className)) hm
    rw [(htitles id).2.2.1] at hmem
    obtain ⟨m', hm', heq⟩ := List.mem_map.mp hmem
    obtain ⟨hkind', hname'⟩ := Prod.mk.inj heq
    rw [hi] at hid ⊢
    rw [← hname']
    exact h.constructors id hid m' hm' (hkind'.trans hkind)
  · have hreader := (htitles id).2.2.2
    rw [hr, Option.map_some, eq_comm, Option.map_eq_some_iff] at hreader
    obtain ⟨r', hr', hkind⟩ := hreader
    rw [← hkind]
    exact h.readers id r' hr'

/-- One class changes, and gets no constructor that needs a name. -/
lemma withClass (h : b.Titled) {f : ClassDef → ClassDef}
    (he : ∀ m ∈ (f (b.classAt id)).entries, m.kind = .constructor → m ∈ (b.classAt id).entries)
    (hr : ∀ r ∈ (f (b.classAt id)).attributes, r.kind = .attributes) : (b.withClass id f).Titled := by
  have hcases (i : ClassId) : (b.withClass id f).classAt i = b.classAt i ∨
      i = id ∧ (b.withClass id f).classAt i = f (b.classAt id) := by
    by_cases hi : i = id
    · subst hi
      by_cases hlt : i < b.classes.size
      · exact .inr ⟨rfl, classAt_withClass hlt⟩
      · left
        simp [classAt, Binding.withClass, hlt]
    · exact .inl (classAt_withClass_of_ne hi)
  refine ⟨fun i hi m hm hkind => ?_, fun i r hreader => ?_⟩
  · rcases hcases i with heq | ⟨rfl, heq⟩ <;> rw [heq] at hm
    · exact h.constructors i hi m hm hkind
    · exact h.constructors i hi m (he m hm hkind) hkind
  · rcases hcases i with heq | ⟨rfl, heq⟩ <;> rw [heq] at hreader
    · exact h.readers i r hreader
    · exact hr r hreader

end Titled

/-- Classes are known by their own names, each once, and their methods carry these names. No function is
defined yet. -/
structure Entitled (b : Binding) : Prop where
  keys : b.index.keys.Nodup
  keyed : ∀ key id, b.index.get? key = some id → (b.classAt id).kind = .class_ → (b.classAt id).name = key
  classes : ∀ i < b.classes.size, (b.classAt i).Entitled
  undefined : b.defined = []

lemma Entitled.titled (h : b.Entitled) (hs : b.Sound) : b.Titled := by
  refine ⟨fun i hi m hm hkind => ?_, fun i r hr => ?_⟩
  · obtain ⟨⟨key, i'⟩, hentry, rfl⟩ : ∃ e ∈ b.index.entries, e.2 = i := List.mem_map.mp hi
    change m ∈ (b.classAt i').entries at hm
    change _ = some i'
    have hget := Dict.get?_of_mem h.keys hentry
    have hlt := hs.indexed _ _ hget
    -- A struct or an enum has no methods, so this is a class.
    have hclass : (b.classAt i').kind = .class_ := by
      by_contra hne
      have hfit := hs.fit i' hlt
      rw [ClassDef.Fit, if_neg hne] at hfit
      rw [hfit] at hm
      cases hm
    rw [(h.classes i' hlt).methods m hm, h.keyed key i' hget hclass]
    exact hget
  · by_cases hlt : i < b.classes.size
    · exact (h.classes i hlt).reader r hr
    · rw [classAt, Array.getElem?_eq_none (Nat.le_of_not_lt hlt)] at hr
      cases hr

/-- The binding stays entitled, and classes go by the names that they had. -/
structure Retains (b b' : Binding) : Prop where
  entitled : b'.Entitled
  kinds : ∀ i < b.classes.size, (b'.classAt i).kind = (b.classAt i).kind
  names : ∀ i < b.classes.size, (b.classAt i).kind = .class_ → (b'.classAt i).name = (b.classAt i).name

namespace Retains

/-- What is known stays known, and classes may come. -/
lemma of_classes (h : b.Entitled) (hs : b.Sound) (hi : b'.index = b.index) (hd : b'.defined = b.defined)
    (hk : ∀ i < b.classes.size, (b'.classAt i).kind = (b.classAt i).kind)
    (hn : ∀ i < b.classes.size, (b.classAt i).kind = .class_ → (b'.classAt i).name = (b.classAt i).name)
    (hc : ∀ i < b'.classes.size, (b'.classAt i).Entitled) : b.Retains b' := by
  refine ⟨⟨hi ▸ h.keys, fun key id hget hkind => ?_, hc, hd.trans h.undefined⟩, hk, hn⟩
  rw [hi] at hget
  have hlt := hs.indexed key id hget
  rw [hk id hlt] at hkind
  rw [hn id hlt hkind]
  exact h.keyed key id hget hkind

/-- Nothing happens that names speak of. -/
lemma of_titles (h : b.Entitled) (hs : b.Sound) (hi : b'.index = b.index)
    (hc : b'.classes.map ClassDef.titles = b.classes.map ClassDef.titles) (hd : b'.defined = b.defined) :
    b.Retains b' := by
  have hsize : b'.classes.size = b.classes.size := by simpa using congrArg Array.size hc
  have htitles := classAt_of_map hc
  refine .of_classes h hs hi hd (fun i _ => congrArg (fun t => t.1) (htitles i))
    (fun i _ _ => congrArg (fun t => t.2.1) (htitles i)) fun i hi => ?_
  exact (h.classes i (hsize ▸ hi)).of_titles (htitles i)

lemma congr (h : b.Entitled) (hs : b.Sound) (hi : b'.index = b.index) (hc : b'.classes = b.classes)
    (hd : b'.defined = b.defined) : b.Retains b' :=
  of_titles h hs hi (congrArg _ hc) hd

/-- One class changes, and stays what it is. -/
lemma withClass (h : b.Entitled) (hs : b.Sound) (hid : id < b.classes.size) {f : ClassDef → ClassDef}
    (hk : (f (b.classAt id)).kind = (b.classAt id).kind)
    (hn : (b.classAt id).kind = .class_ → (f (b.classAt id)).name = (b.classAt id).name)
    (hc : (f (b.classAt id)).Entitled) : b.Retains (b.withClass id f) := by
  have hcases {P : ClassDef → ClassDef → Prop} (i : ClassId) (hsame : P (b.classAt i) (b.classAt i))
      (hchanged : P (b.classAt id) (f (b.classAt id))) : P (b.classAt i) ((b.withClass id f).classAt i) := by
    by_cases hi : i = id
    · subst hi
      rwa [classAt_withClass hid]
    · rwa [classAt_withClass_of_ne hi]
  refine .of_classes h hs rfl rfl (fun i _ => ?_) (fun i _ => ?_) fun i hi => ?_
  · exact hcases (P := fun c c' => c'.kind = c.kind) i rfl hk
  · exact hcases (P := fun c c' => c.kind = .class_ → c'.name = c.name) i (fun _ => rfl) hn
  · rw [size_withClass] at hi
    exact hcases (P := fun _ c' => c'.Entitled) i (h.classes i hi) hc

/-- Classes are added that inherit. -/
lemma of_inherits {base : Option ClassId} (h : b.Entitled) (hs : b.Sound) (hi : b.Inherits base b')
    (hindex : b'.index = b.index) (hd : b'.defined = b.defined) : b.Retains b' := by
  have htitles : ∀ i < b.classes.size, (b'.classAt i).titles = (b.classAt i).titles := by
    intro i hlt
    rw [hi.classes i hlt]
    split
    · cases hc : (b.classAt i).constructor <;>
        simp [rereadClass, ClassDef.titles, ClassDef.entries, hc, reread, Function.comp_def]
    · rfl
  refine .of_classes h hs hindex hd (fun i hlt => congrArg (fun t => t.1) (htitles i hlt))
    (fun i hlt _ => congrArg (fun t => t.2.1) (htitles i hlt)) fun i hlt => ?_
  by_cases hold : i < b.classes.size
  · exact (h.classes i hold).of_titles (htitles i hold)
  · have hnew := hi.inherited i (Nat.le_of_not_lt hold) hlt
    exact ⟨hnew.titles, hnew.reader⟩

lemma trans {b'' : Binding} (h : b.Retains b') (h' : b'.Retains b'') (hle : b.classes.size ≤ b'.classes.size) :
    b.Retains b'' where
  entitled := h'.entitled
  kinds i hi := (h'.kinds i (Nat.lt_of_lt_of_le hi hle)).trans (h.kinds i hi)
  names i hi hk := by
    rw [h'.names i (Nat.lt_of_lt_of_le hi hle) ((h.kinds i hi).trans hk), h.names i hi hk]

/-- A class becomes known by its name. -/
lemma named (h : b.Entitled) {name : Option String} (hname : (b.classAt id).name = name)
    (hi : b'.index = b.index.insert name id) (hc : b'.classes = b.classes) (hd : b'.defined = b.defined) :
    b.Retains b' := by
  have hclass (i : ClassId) : b'.classAt i = b.classAt i := by rw [classAt, hc, classAt]
  refine ⟨⟨?_, fun key i hget hkind => ?_, fun i hlt => ?_, hd.trans h.undefined⟩, fun i _ => by rw [hclass],
    fun i _ _ => by rw [hclass]⟩
  · rw [hi]
    exact Dict.nodup_keys_insert h.keys _ _
  · rw [hclass] at hkind ⊢
    rw [hi, Dict.get?_insert] at hget
    split at hget
    next heq =>
      cases hget
      rw [hname, eq_of_beq heq]
    next => exact h.keyed key i hget hkind
  · rw [hclass]
    exact h.classes i (hc ▸ hlt)

end Retains

end Binding

/-! ### Declaring -/

namespace Declaring

open Binding

variable {b b' : Binding} {id : ClassId}

lemma enrich_baseClass (name base : String) : Composed Enrich (baseClass name base) := by
  refine .bind (.attempt (.bind (composed_findClass _) fun id => Class.enrich_inherit id _)) fun inherited => ?_
  split
  · exact .pure _
  · exact .ite (fun _ => Class.enrich_make _ _) fun _ => .fail _

lemma composed_openClass (doc : String) (modifier : Option String) (name base : String) :
    Composed Declares (openClass doc modifier name base) := by
  refine .bind (enrich_baseClass name base).enriched fun id => .bind ?_ fun _ => .pure _
  refine .bind (composed_modifyClass _ _) fun _ => .bind (Class.composed_declare _ _) fun _ => ?_
  exact .update ⟨fun _ _ => rfl, fun _ => rfl⟩

lemma composed_openStruct (name : Option String) (setUp : ClassDef → ClassDef) :
    Composed Declares (openStruct name setUp) :=
  .bind (Class.composed_makeStruct name) fun _ => .bind (composed_modifyClass _ _) fun _ => .pure _

/-- No function is defined where something is declared. -/
lemma defined_of_composed {α : Type} {act : Act Binding α} {r : Except Fault α} (h : Composed Declares act)
    (he : act.effect b = (r, b')) : b'.defined = b.defined :=
  have hkeeps : act.Keeps Binding.defined := h.keeps fun _ hg => hg.defined
  hkeeps.of_effect he

/-- A class is opened. -/
lemma retains_openClass {doc : String} {modifier : Option String} {name base : String} (h : b.Entitled)
    (hs : b.Sound) (he : (openClass doc modifier name base).effect b = (.ok id, b')) : b.Retains b' := by
  obtain ⟨-, -, -, hname, -, hindex, hinherits⟩ := (ends_openClass hs doc modifier name base).ok he
  have hdefined := defined_of_composed (composed_openClass _ _ _ _) he
  -- The class is there before it becomes known.
  have hadded : b.Retains { b' with index := b.index } :=
    .of_inherits h hs (hinherits.congr rfl rfl rfl) rfl hdefined
  exact hadded.trans (.named hadded.entitled hname hindex rfl rfl) hinherits.grown.1

/-- A struct is opened, and it is none of the classes. -/
lemma retains_openStruct {name : Option String} {setUp : ClassDef → ClassDef} (h : b.Entitled) (hs : b.Sound)
    (he : (openStruct name setUp).effect b = (.ok id, b')) (hk : ∀ c, (setUp c).kind = c.kind)
    (hn : ∀ c, (setUp c).name = c.name) (hc : ∀ c, (setUp c).entries = c.entries)
    (ha : ∀ c, (setUp c).attributes = c.attributes) : b.Retains b' ∧ (b'.classAt id).kind ≠ .class_ := by
  have hinherits := (inherits_openStruct name hn hc ha).ok he
  have hdefined := defined_of_composed (composed_openStruct name setUp) he
  obtain ⟨new, b₁, hmake, he⟩ := Act.effect_bind_eq_ok.mp he
  obtain ⟨rfl, -, c, hadds, hkind, -⟩ := (ends_makeStruct name b).ok hmake
  cases he
  have hlt : b.classes.size < b₁.classes.size := by
    rw [hadds.size]
    exact Nat.lt_succ_self _
  refine ⟨.of_inherits h hs hinherits hadds.extended.index hdefined, ?_⟩
  show ((b₁.withClass b.classes.size setUp).classAt b.classes.size).kind ≠ .class_
  rwa [classAt_withClass hlt, hk, hadds.new]

lemma retains_makeEnum {name : Option String} (h : b.Entitled) (hs : b.Sound)
    (he : (Class.makeEnum name).effect b = (.ok id, b')) : b.Retains b' ∧ (b'.classAt id).kind ≠ .class_ := by
  have hdefined := defined_of_composed (Class.composed_makeEnum name) he
  obtain ⟨rfl, hinherits, c, hadds, hkind, -⟩ := (ends_makeEnum name b).ok he
  refine ⟨.of_inherits h hs hinherits hadds.extended.index hdefined, ?_⟩
  rwa [hadds.new]

lemma ends_retains_closeStruct (h : b.Entitled) (id : ClassId) :
    (closeStruct id).Ends b (fun _ b' => b.Retains b') (fun _ _ => True) := by
  refine .bind_of_ok (effect_declare id .struct b) (.bind_of_ok (Act.effect_state _) ?_)
  rw [classAt_named]
  cases (b.classAt id).name with
  | none => exact .of_error rfl trivial
  | some name => exact .of_ok rfl (.named h (rfl : (b.classAt id).name = _) rfl rfl rfl)

lemma addConstants_eq (values : List String) (b : Binding) : ∃ constants,
    values.foldl (fun b v => b.addConstant v "integer") b = { b with constants } := by
  induction values generalizing b with
  | nil => exact ⟨b.constants, rfl⟩
  | cons v values ih => exact ih (b.addConstant v "integer")

lemma ends_retains_closeEnum (h : b.Entitled) (id : ClassId) :
    (closeEnum id).Ends b (fun _ b' => b.Retains b') (fun _ _ => True) := by
  refine .bind_of_ok (effect_declare id .enumeration b) (.bind_of_ok (Act.effect_state _) ?_)
  refine .of_ok (Act.effect_update _ _) ?_
  obtain ⟨constants, heq⟩ := addConstants_eq ((named b id .enumeration).classAt id).values (named b id .enumeration)
  rw [heq]
  exact .named h (rfl : (b.classAt id).name = _) rfl rfl rfl

/-- What is not a class may get another name before it is closed. -/
lemma ends_retains_nameClass {act : Act Binding Unit} (h : b.Entitled) (hs : b.Sound) (hid : id < b.classes.size)
    (hk : (b.classAt id).kind ≠ .class_) (name : String)
    (ha : ∀ b' : Binding, b'.Entitled → act.Ends b' (fun _ b'' => b'.Retains b'') (fun _ _ => True)) :
    (do nameClass id name; act).Ends b (fun _ b' => b.Retains b') (fun _ _ => True) := by
  have hnone : ({ b.classAt id with name := some name } : ClassDef).entries = [] := by
    have hfit := hs.fit id hid
    rwa [ClassDef.Fit, if_neg hk] at hfit
  have hnamed : b.Retains (b.withClass id fun c => { c with name := some name }) := by
    refine .withClass h hs hid rfl (fun hclass => absurd hclass hk) ⟨fun m hm => ?_, (h.classes id hid).reader⟩
    rw [hnone] at hm
    cases hm
  refine .bind_of_ok (effect_modifyClass _ _ _) ((ha _ hnamed.entitled).mono ?_ fun _ _ h => h)
  exact fun _ b' hb' => hnamed.trans hb' (Nat.le_of_eq (size_withClass _ _ _).symm)

end Declaring

/-! ### Entitled readers -/

/-- What is being read is entitled: the binding is, a struct or an enum that is open is no class, and the
method that is open carries the name of the class that is open. -/
structure Header.Entitled (h : Header) : Prop where
  binding : h.binding.Entitled
  inStruct : ∀ id ∈ h.currentStruct, (h.binding.classAt id).kind ≠ .class_
  inEnum : ∀ id ∈ h.currentEnum, (h.binding.classAt id).kind ≠ .class_
  inMethod : ∀ m ∈ h.currentMethod, ∀ id ∈ h.currentClass, m.className = (h.binding.classAt id).name

namespace HeaderReader

open Declaring Lexer Header.Table

variable {x y : HeaderReader} {m : Match} {b : Binding}

/-- The binding changes, and what is open stays open. -/
lemma entitled_withBinding (h : x.host.Entitled) (hs : x.host.Sound) (hb : x.host.binding.Retains b) :
    (x.withBinding b).host.Entitled where
  binding := hb.entitled
  inStruct id hid := by
    rw [show ((x.withBinding b).host.binding.classAt id).kind = _ from hb.kinds id (hs.inStruct id hid)]
    exact h.inStruct id hid
  inEnum id hid := by
    rw [show ((x.withBinding b).host.binding.classAt id).kind = _ from hb.kinds id (hs.inEnum id hid)]
    exact h.inEnum id hid
  inMethod m hm id hid := by
    obtain ⟨hlt, hkind⟩ := hs.inClass id hid
    rw [show ((x.withBinding b).host.binding.classAt id).name = _ from hb.names id hlt hkind]
    exact h.inMethod m hm id hid

/-- An action leads from what is sound and entitled to what is entitled, if it does not fail. -/
def StaysEntitled (act : Act HeaderReader Unit) : Prop :=
  ∀ x y : HeaderReader, act.effect x = (.ok (), y) → x.host.Sound → x.host.Entitled → y.host.Entitled

lemma staysEntitled_onBinding {act : Act Binding Unit}
    (h : ∀ b b' : Binding, b.Entitled → b.Sound → act.effect b = (.ok (), b') → b.Retains b') :
    StaysEntitled (onBinding act) := by
  intro x y he hs hx
  obtain ⟨b, hb, rfl⟩ := onBinding_eq_ok he
  exact entitled_withBinding hx hs (h _ b hx.binding hs.binding hb)

lemma StaysEntitled.opened {which : Header → Option ClassId} {act : ClassId → Act HeaderReader Unit}
    (h : ∀ id, StaysEntitled (act id)) : StaysEntitled (do act (← opened (which (← header)))) := by
  intro x y he hs hx
  obtain ⟨id, -, he⟩ := opened_bind_eq_ok he
  exact h id x y he hs hx

lemma staysEntitled_comment {f : Header → String} :
    StaysEntitled (modifyHeader fun h => { h with comment := f h }) := by
  intro x y he _ hx
  cases he
  exact ⟨hx.binding, hx.inStruct, hx.inEnum, hx.inMethod⟩

lemma staysEntitled_addAttribute (id : ClassId) (name type modifier : String) (named : List (String × Datum)) :
    StaysEntitled (onBinding (Class.addAttribute id name type modifier named)) := by
  refine staysEntitled_onBinding fun b b' h hs he => ?_
  rcases (Class.ends_addAttribute _ _ _ _ _ _).ok he with rfl | ⟨member, rfl⟩
  · exact .congr h hs rfl rfl rfl
  · let extend (r : Method) : Method := { r with members := r.members ++ [b.members.size] }
    have hextend (c : ClassDef) : (c.modifyMethod .attributes extend).titles = c.titles :=
      c.titles_modifyMethod (f := extend) (fun _ => rfl) (fun _ => rfl) .attributes
    exact .of_titles h hs rfl (Binding.map_withClass hextend b id) rfl

/-- No method is open where a class is opened. -/
lemma entitled_startClass (he : (startClass m).effect x = (.ok (), y)) (hs : x.host.Sound) (hx : x.host.Entitled)
    (hn : x.host.currentMethod = none) : y.host.Entitled := by
  obtain ⟨id, b, hopen, rfl⟩ := startClass_eq_ok he
  exact { entitled_withBinding hx hs (retains_openClass hx.binding hs.binding hopen) with
    inMethod := by
      intro method hm
      rw [show (x.withHost { x.host with binding := b, currentClass := some id }).host.currentMethod = none from
        hn] at hm
      cases hm }

lemma staysEntitled_startStruct (m : Match) : StaysEntitled (startStruct m) := by
  intro x y he hs hx
  obtain ⟨id, b, hopen, rfl⟩ := startStruct_eq_ok he
  obtain ⟨hretains, hkind⟩ := retains_openStruct hx.binding hs.binding hopen (fun _ => rfl) (fun _ => rfl)
    (fun _ => rfl) fun _ => rfl
  exact { entitled_withBinding hx hs hretains with
    inStruct := by
      rintro _ ⟨⟩
      exact hkind }

lemma staysEntitled_startNamelessStruct : StaysEntitled startNamelessStruct := by
  intro x y he hs hx
  obtain ⟨id, b, hopen, rfl⟩ := startNamelessStruct_eq_ok he
  obtain ⟨hretains, hkind⟩ := retains_openStruct hx.binding hs.binding hopen (fun _ => rfl) (fun _ => rfl)
    (fun _ => rfl) fun _ => rfl
  exact { entitled_withBinding hx hs hretains with
    inStruct := by
      rintro _ ⟨⟩
      exact hkind }

lemma staysEntitled_startEnum (name : Option String) : StaysEntitled (startEnum name) := by
  intro x y he hs hx
  obtain ⟨id, b, hopen, rfl⟩ := startEnum_eq_ok he
  obtain ⟨hretains, hkind⟩ := retains_makeEnum hx.binding hs.binding hopen
  exact { entitled_withBinding hx hs hretains with
    inEnum := by
      rintro _ ⟨⟩
      exact hkind }

lemma staysEntitled_startMethod (m : Match) : StaysEntitled (startMethod m) := by
  intro x y he hs hx
  rcases startMethod_eq_ok he with ⟨-, rfl⟩ | ⟨-, id, method, b, hid, hopen, rfl⟩
  · exact hx
  · obtain ⟨rfl, t, -, rfl⟩ := (ends_openMethod id _ _ _ _).ok hopen
    have hretains (protocol : Option String) (s : Signature) :
        x.host.binding.Retains ((withProtocol x.host.binding id protocol).withSignature s) := by
      cases protocol with
      | none => exact .congr hx.binding hs.binding rfl rfl rfl
      | some p =>
        exact .of_titles hx.binding hs.binding rfl
          (Binding.map_withClass (f := ClassDef.titles) (g := (·.addModifier (some p))) (fun _ => rfl) _ id) rfl
    refine { entitled_withBinding hx hs (hretains _ _) with inMethod := ?_ }
    rintro _ ⟨⟩ id' hid'
    obtain rfl : id = id' := Option.some.inj (hid.symm.trans hid')
    obtain ⟨hlt, hkind⟩ := hs.inClass id hid
    exact ((hretains _ _).names id hlt hkind).symm

lemma staysEntitled_addMethodArgument (m : Match) : StaysEntitled (addMethodArgument m) := by
  intro x y he hs hx
  rcases addMethodArgument_eq_ok hs he with ⟨-, rfl⟩ | ⟨method, args, -, -, rfl⟩
  · exact hx
  · exact entitled_withBinding hx hs (.congr hx.binding hs.binding rfl rfl rfl)

lemma staysEntitled_endMethod : StaysEntitled endMethod := by
  intro x y he hs hx
  rcases endMethod_eq_put hs he with ⟨-, rfl⟩ | ⟨method, id, hm, hid, rfl⟩
  · exact hx
  · obtain ⟨hkind, hname, -⟩ := Class.putMethod_others (x.host.binding.classAt id) method
    have hlt := (hs.inClass id hid).1
    have hput := (hx.binding.classes id hlt).putMethod (hx.inMethod method hm id hid)
    exact { entitled_withBinding hx hs (.withClass hx.binding hs.binding hlt hkind (fun _ => hname) hput) with
      inMethod := by
        rintro _ ⟨⟩ }

lemma staysEntitled_action {name : String} {act : Match → Act HeaderReader Unit} (h : action name = some act)
    (hne : name ≠ "CCLASS_START") (m : Match) : StaysEntitled (act m) := by
  have hupdate {g : Binding → Binding} (hi : ∀ b, (g b).index = b.index) (hc : ∀ b, (g b).classes = b.classes)
      (hd : ∀ b, (g b).defined = b.defined) : StaysEntitled (onBinding (Act.update g)) := by
    refine staysEntitled_onBinding fun b b' h hs he => ?_
    cases he
    exact .congr h hs (hi b) (hc b) (hd b)
  cases h using action_cases with
  | bindStruct => exact hupdate (fun _ => rfl) (fun _ => rfl) fun _ => rfl
  | addClassAttribute => exact .opened fun id => staysEntitled_addAttribute id _ _ _ _
  | startClass => exact absurd rfl hne
  | clearComment => exact staysEntitled_comment
  | addComment => exact staysEntitled_comment
  | endComment => exact staysEntitled_comment
  | defineConstant =>
    intro x y he hs hx
    rw [effect_defineConstant] at he
    cases he
    refine entitled_withBinding hx hs ?_
    rw [constantIn]
    split
    · exact .congr hx.binding hs.binding rfl rfl rfl
    · exact .congr hx.binding hs.binding rfl rfl rfl
  | endClass =>
    intro x y he _ hx
    cases he
    refine ⟨hx.binding, hx.inStruct, hx.inEnum, ?_⟩
    rintro _ _ _ ⟨⟩
  | endEnum =>
    intro x y he hs hx
    obtain ⟨id, b, -, hclose, rfl⟩ := endEnum_eq_ok he
    have hretains := (ends_retains_closeEnum hx.binding id).ok hclose
    exact { entitled_withBinding hx hs hretains with inEnum := forall_mem_none }
  | startEnum => exact staysEntitled_startEnum _
  | addEnumValue =>
    refine .opened fun id => staysEntitled_onBinding fun b b' h hs he => ?_
    cases he
    exact .of_titles h hs rfl (Binding.map_withClass (f := ClassDef.titles)
      (g := fun c => { c with values := c.values ++ [trimmed m 1] }) (fun _ => rfl) b id) rfl
  | addMethodArgument => exact staysEntitled_addMethodArgument m
  | endMethod => exact staysEntitled_endMethod
  | startMethod => exact staysEntitled_startMethod m
  | aliasType => exact hupdate (fun _ => rfl) (fun _ => rfl) fun _ => rfl
  | addStructAttribute => exact .opened fun id => staysEntitled_addAttribute id _ _ _ _
  | addStructPointer => exact .opened fun id => staysEntitled_addAttribute id _ _ _ _
  | endStruct =>
    intro x y he hs hx
    obtain ⟨id, b, -, hclose, rfl⟩ := endStruct_eq_ok he
    have hretains := (ends_retains_closeStruct hx.binding id).ok hclose
    exact { entitled_withBinding hx hs hretains with inStruct := forall_mem_none }
  | startStruct => exact staysEntitled_startStruct m
  | endNamedEnum =>
    intro x y he hs hx
    obtain ⟨id, b, hid, hclose, rfl⟩ := endNamedEnum_eq_ok he
    have hretains := (ends_retains_nameClass hx.binding hs.binding (hs.inEnum id hid) (hx.inEnum id hid)
      (m.group 1) fun _ h => ends_retains_closeEnum h id).ok hclose
    exact { entitled_withBinding hx hs hretains with inEnum := forall_mem_none }
  | startNamelessEnum => exact staysEntitled_startEnum none
  | endNamedStruct =>
    intro x y he hs hx
    obtain ⟨id, b, hid, hclose, rfl⟩ := endNamedStruct_eq_ok he
    have hretains := (ends_retains_nameClass hx.binding hs.binding (hs.inStruct id hid) (hx.inStruct id hid)
      (trimmed m 1) fun _ h => ends_retains_closeStruct h id).ok hclose
    exact { entitled_withBinding hx hs hretains with inStruct := forall_mem_none }
  | startNamelessStruct => exact staysEntitled_startNamelessStruct

/-- The readers that feeding, asking for tokens and noting the headers that were read leads to when no call
fails. -/
inductive Built : HeaderReader → Prop where
  | start {x : HeaderReader} (h : Started x) : Built x
  | feed {x y : HeaderReader} {bytes : ByteArray} (h : Built x)
      (he : (Lexer.feed bytes).effect x = (.ok (), y)) : Built y
  | next {x y : HeaderReader} {atEnd : Bool} {token : Option String} (h : Built x)
      (he : (nextToken callbacks atEnd).effect x = (.ok token, y)) : Built y
  | note {x y : HeaderReader} {name : String} (h : Built x)
      (he : (noteFile name).effect x = (.ok (), y)) : Built y

/-- What holds of a reader at any time while headers are read. -/
structure WellRead (x : HeaderReader) : Prop where
  rows : x.rows = rules.map .rule
  agrees : Agrees x.stack x.state x.openings
  sound : x.host.Sound
  entitled : x.host.Entitled

lemma wellRead_of_started (h : Started x) : x.WellRead := by
  have hreached := Reached.start h
  refine ⟨hreached.rows, hreached.agrees, hreached.sound, ?_⟩
  obtain ⟨settings, registry, name, base, verbose, rfl⟩ := h.eq
  exact ⟨⟨List.nodup_nil, fun _ _ hget => absurd hget.symm (Option.some_ne_none _),
    fun i hi => absurd hi (Nat.not_lt_zero i), rfl⟩, forall_mem_none, forall_mem_none, forall_mem_none⟩

lemma WellRead.next {atEnd : Bool} {token : Option String} (h : x.WellRead)
    (he : (nextToken callbacks atEnd).effect x = (.ok token, y)) : y.WellRead := by
  obtain ⟨hagrees, hacts⟩ := agrees_nextToken h.rows h.agrees he
  refine ⟨?_, hagrees, sound_of_actsIf hacts h.sound, ?_⟩
  · rw [← h.rows, ← rows_nextToken h.rows atEnd, he]
  · obtain ⟨heq, -⟩ | ⟨name, m, act, hcalled, hact, x', y', he', hx', hy'⟩ := hacts.cases
    · exact heq ▸ h.entitled
    · have hs : x'.host.Sound := hx' ▸ h.sound
      have hx : x'.host.Entitled := hx' ▸ h.entitled
      rw [← hy']
      by_cases hname : name = "CCLASS_START"
      · subst hname
        obtain rfl : startClass = act := Option.some.inj hact
        exact entitled_startClass he' hs hx (hx' ▸ currentMethod_eq_none_of_agrees h.agrees hcalled (.inl rfl))
      · exact staysEntitled_action hact hname m x' y' he' hs hx

lemma WellRead.withFiles (h : x.WellRead) (files : List String) (includes : String) :
    (x.withBinding { x.host.binding with files, includes }).WellRead where
  rows := h.rows
  agrees := h.agrees
  sound := sound_withBinding h.sound (.of_outline h.sound.binding rfl)
  entitled := entitled_withBinding h.entitled h.sound (.congr h.entitled.binding h.sound.binding rfl rfl rfl)

lemma effect_noteFile (name : String) (x : HeaderReader) :
    (noteFile name).effect x = (.ok (), if x.host.binding.files.contains name then x else x.withBinding
      { x.host.binding with
        includes := x.host.binding.includes ++ s!"#include \"{includedName x.host.base name}\"\n"
        files := x.host.binding.files ++ [includedName x.host.base name] }) := by
  rw [noteFile, modifyHeader, Act.effect_update]
  split <;> rfl

/-- Noting a header changes nothing, or what is listed and included. -/
lemma noteFile_eq_ok {name : String} (h : (noteFile name).effect x = (.ok (), y)) :
    y = x ∨ ∃ files includes, y = x.withBinding { x.host.binding with files, includes } := by
  rw [effect_noteFile, Prod.mk.injEq] at h
  obtain ⟨-, rfl⟩ := h
  split
  · exact .inl rfl
  · exact .inr ⟨_, _, rfl⟩

theorem Built.wellRead (h : Built x) : x.WellRead := by
  induction h with
  | start h => exact wellRead_of_started h
  | feed _ he ih =>
    obtain ⟨text, rfl⟩ := feed_eq_ok he
    exact ⟨ih.rows, ih.agrees, ih.sound, ih.entitled⟩
  | next _ he ih => exact ih.next he
  | note _ he ih =>
    obtain rfl | ⟨files, includes, rfl⟩ := noteFile_eq_ok he
    · exact ih
    · exact ih.withFiles files includes

lemma Reached.built (h : Reached x) : Built x := by
  induction h with
  | start h => exact .start h
  | feed _ he ih => exact .feed ih he
  | next _ he ih => exact .next ih he

/-- Headers that are read from files, one after another and all of them twice, build up a reader. -/
theorem brings_parseFiles (files : Files) (names : List String) : (parseFiles files names).Brings Built Built := by
  have hparse (text : String) : (parse text.toUTF8).Brings Built Built :=
    brings_parse_of (fun _ hx => hx.wellRead.rows) (fun x text hx => hx.feed (effect_feed text x))
      (fun _ _ _ hx he => hx.next he) text
  have hnote (name : String) : (noteFile name).Brings Built Built := fun x hx => .of_ok rfl (hx.note rfl)
  have hfile (name : String) : (parseFile files name).Brings Built Built := by
    intro x hx
    cases hread : files.read name with
    | error f => exact .of_error (Act.effect_bind_of_error (by rw [hread]; rfl)) trivial
    | ok text => exact .bind_of_ok (by rw [hread]; rfl) (((hparse text).bind fun _ => hnote name) x hx)
  have hall : (ForIn.forIn names PUnit.unit fun name _ => do
      parseFile files name
      return .yield ⟨⟩ : Act HeaderReader PUnit).Brings Built Built :=
    .forIn fun name _ => .bind (hfile name) fun _ => .pure _
  exact .bind hall fun _ => .bind hall fun _ => .pure _

end HeaderReader

end HeaderBind
