import HeaderBind.Proofs.Header.Picking
import HeaderBind.Proofs.Header.Tidiness
import HeaderBind.Proofs.Header.Titles
import HeaderBind.Proofs.Method.Operands

/-!
# Attributes and the classes that declare them

While headers are read without failing, each attribute that a class reads was declared in the block of some
class, that class or one that it inherits from, and the attribute carries the name of that class
(`Built.attributed`, `DeclaredIn.className_eq`). A getter does not look at it: it casts the object to the class
that it is written for. So it reads an attribute through the class that declares it just where that is the
class itself (`Built.getsAttributes`).
-/

namespace HeaderBind

namespace Binding

/-! ### What actions leave of classes -/

/-- Classes and their readers are what they were, and no class becomes known. Members may come. -/
structure Carries (b b' : Binding) : Prop where
  grown : b.classes.size ≤ b'.classes.size ∧ b.members.size ≤ b'.members.size
  kinds : ∀ i < b.classes.size, (b'.classAt i).kind = (b.classAt i).kind
  faces : ∀ i < b.classes.size, (b.classAt i).kind = .class_ →
    (b'.classAt i).name = (b.classAt i).name ∧ (b'.classAt i).attributes = (b.classAt i).attributes
  members : ∀ k < b.members.size, b'.memberAt k = b.memberAt k
  known : ∀ key i, b'.index.get? key = some i → (b'.classAt i).kind = .class_ → b.index.get? key = some i

namespace Carries

variable {b b' b'' : Binding} {id : ClassId}

lemma trans (h : b.Carries b') (h' : b'.Carries b'')
    (hi : ∀ key i, b'.index.get? key = some i → i < b'.classes.size) : b.Carries b'' where
  grown := ⟨Nat.le_trans h.grown.1 h'.grown.1, Nat.le_trans h.grown.2 h'.grown.2⟩
  kinds i hi := (h'.kinds i (Nat.lt_of_lt_of_le hi h.grown.1)).trans (h.kinds i hi)
  faces i hi hk := by
    obtain ⟨hname, hattributes⟩ := h.faces i hi hk
    obtain ⟨hname', hattributes'⟩ := h'.faces i (Nat.lt_of_lt_of_le hi h.grown.1) ((h.kinds i hi).trans hk)
    exact ⟨hname'.trans hname, hattributes'.trans hattributes⟩
  members k hk := (h'.members k (Nat.lt_of_lt_of_le hk h.grown.2)).trans (h.members k hk)
  known key i hget hkind := by
    have hget' := h'.known key i hget hkind
    exact h.known key i hget' ((h'.kinds i (hi key i hget')).symm.trans hkind)

/-- Nothing happens to the kinds, the names and the readers of classes. -/
lemma of_faces (hi : b'.index = b.index) (hm : b'.members = b.members)
    (hc : b'.classes.map (fun c => (c.kind, c.name, c.attributes)) =
      b.classes.map fun c => (c.kind, c.name, c.attributes)) : b.Carries b' := by
  have hsize : b'.classes.size = b.classes.size := by simpa using congrArg Array.size hc
  have hfaces := classAt_of_map hc
  simp only [Prod.mk.injEq] at hfaces
  exact ⟨⟨hsize.ge, (congrArg Array.size hm).ge⟩, fun i _ => (hfaces i).1, fun i _ _ => (hfaces i).2,
    fun k _ => by rw [memberAt, hm, memberAt], fun key i hget _ => hi ▸ hget⟩

lemma congr (hi : b'.index = b.index) (hm : b'.members = b.members) (hc : b'.classes = b.classes) :
    b.Carries b' :=
  of_faces hi hm (congrArg _ hc)

/-- One class changes, but not in what it reads. -/
lemma withClass {f : ClassDef → ClassDef}
    (hf : ∀ c : ClassDef, ((f c).kind, (f c).name, (f c).attributes) = (c.kind, c.name, c.attributes))
    (b : Binding) (id : ClassId) : b.Carries (b.withClass id f) :=
  of_faces rfl rfl (map_withClass hf b id)

/-- A struct or an enum changes. Members may come. -/
lemma of_ne {f : ClassDef → ClassDef} (hid : id < b.classes.size) (hk : (b.classAt id).kind ≠ .class_)
    (hf : (f (b.classAt id)).kind = (b.classAt id).kind) (hc : b'.classes = b.classes.modify id f)
    (hi : b'.index = b.index) (hg : b.members.size ≤ b'.members.size)
    (hm : ∀ k < b.members.size, b'.memberAt k = b.memberAt k) : b.Carries b' := by
  obtain ⟨hhere, helse⟩ := classAt_of_modify hc hid
  refine ⟨⟨by rw [hc, Array.size_modify], hg⟩, fun i _ => ?_, fun i _ hki => ?_, hm, fun key i hget _ => hi ▸ hget⟩
  · by_cases heq : i = id
    · rw [heq, hhere, hf]
    · rw [helse i heq]
  · have hne : i ≠ id := by
      rintro rfl
      exact hk hki
    rw [helse i hne]
    exact ⟨rfl, rfl⟩

/-- Classes come that nobody knows. -/
lemma of_inherits {base : Option ClassId} (h : b.Inherits base b') (hi : b'.index = b.index) : b.Carries b' := by
  have hface (i : ClassId) (hlt : i < b.classes.size) : (b'.classAt i).kind = (b.classAt i).kind ∧
      (b'.classAt i).name = (b.classAt i).name ∧ (b'.classAt i).attributes = (b.classAt i).attributes := by
    rw [h.classes i hlt]
    split
    · exact ⟨rfl, rfl, rfl⟩
    · exact ⟨rfl, rfl, rfl⟩
  exact ⟨h.grown, fun i hlt => (hface i hlt).1, fun i hlt _ => (hface i hlt).2, h.members,
    fun key i hget _ => hi ▸ hget⟩

/-- A struct or an enum becomes known. -/
lemma named {name : Option String} (hk : (b.classAt id).kind ≠ .class_) (hi : b'.index = b.index.insert name id)
    (hc : b'.classes = b.classes) (hm : b'.members = b.members) : b.Carries b' := by
  have hclass (i : ClassId) : b'.classAt i = b.classAt i := by rw [classAt, hc, classAt]
  refine ⟨⟨(congrArg Array.size hc).ge, (congrArg Array.size hm).ge⟩, fun i _ => by rw [hclass],
    fun i _ _ => by rw [hclass]; exact ⟨rfl, rfl⟩, fun k _ => by rw [memberAt, hm, memberAt],
    fun key i hget hkind => ?_⟩
  rw [hi, Dict.get?_insert] at hget
  split at hget
  · cases hget
    rw [hclass] at hkind
    exact absurd hkind hk
  · exact hget

end Carries

end Binding

/-! ### Declaring -/

namespace Declaring

open Binding

variable {b b' : Binding} {id : ClassId}

lemma carries_openStruct {name : Option String} {setUp : ClassDef → ClassDef}
    (he : (openStruct name setUp).effect b = (.ok id, b')) (hn : ∀ c, (setUp c).name = c.name)
    (hc : ∀ c, (setUp c).entries = c.entries) (ha : ∀ c, (setUp c).attributes = c.attributes) :
    b.Carries b' := by
  have hinherits := (inherits_openStruct name hn hc ha).ok he
  obtain ⟨new, b₁, hmake, he⟩ := Act.effect_bind_eq_ok.mp he
  obtain ⟨-, -, c, hadds, -⟩ := (ends_makeStruct name b).ok hmake
  cases he
  exact .of_inherits hinherits hadds.extended.index

lemma ends_carries_closeStruct (hk : (b.classAt id).kind ≠ .class_) :
    (closeStruct id).Ends b (fun _ b' => b.Carries b') (fun _ _ => True) := by
  refine .bind_of_ok (effect_declare id .struct b) (.bind_of_ok (Act.effect_state _) ?_)
  rw [classAt_named]
  cases (b.classAt id).name with
  | none => exact .of_error rfl trivial
  | some name => exact .of_ok rfl (.named hk rfl rfl rfl)

lemma ends_carries_closeEnum (hk : (b.classAt id).kind ≠ .class_) :
    (closeEnum id).Ends b (fun _ b' => b.Carries b') (fun _ _ => True) := by
  refine .bind_of_ok (effect_declare id .enumeration b) (.bind_of_ok (Act.effect_state _) ?_)
  refine .of_ok (Act.effect_update _ _) ?_
  obtain ⟨constants, heq⟩ := addConstants_eq ((named b id .enumeration).classAt id).values (named b id .enumeration)
  rw [heq]
  exact .named hk rfl rfl rfl

lemma ends_carries_nameClass {act : Act Binding Unit} (hs : b.Sound) (hid : id < b.classes.size)
    (hk : (b.classAt id).kind ≠ .class_) (name : String)
    (ha : ∀ b' : Binding, (b'.classAt id).kind ≠ .class_ →
      act.Ends b' (fun _ b'' => b'.Carries b'') (fun _ _ => True)) :
    (do nameClass id name; act).Ends b (fun _ b' => b.Carries b') (fun _ _ => True) := by
  let rename (c : ClassDef) : ClassDef := { c with name := some name }
  have hnamed : b.Carries (b.withClass id rename) :=
    .of_ne (f := rename) hid hk rfl rfl rfl (Nat.le_refl _) fun _ _ => rfl
  have hkind : ((b.withClass id rename).classAt id).kind ≠ .class_ := by
    rwa [hnamed.kinds id hid]
  refine .bind_of_ok (effect_modifyClass _ _ _) ((ha _ hkind).mono (fun _ b' hb' => ?_) fun _ _ h => h)
  refine hnamed.trans hb' fun key i hget => ?_
  rw [size_withClass]
  exact hs.indexed key i hget

/-- A new attribute of a struct or an enum is none of a class. -/
lemma carries_withMember (hid : id < b.classes.size) (hk : (b.classAt id).kind ≠ .class_) (x : Member) :
    b.Carries (Class.withMember b id x) := by
  let extend (m : Method) : Method := { m with members := m.members ++ [b.members.size] }
  refine .of_ne (f := (·.modifyMethod .attributes extend)) hid hk rfl rfl rfl ?_ fun k hlt => ?_
  · simp [Class.withMember]
  · simp only [memberAt, Class.withMember, Array.getElem?_push, if_neg (Nat.ne_of_lt hlt)]

lemma reader_openClass (hs : b.Sound) {doc name base : String} {modifier : Option String}
    (he : (openClass doc modifier name base).effect b = (.ok id, b')) :
    ∃ r ∈ (b'.classAt id).attributes, ReadsLike b (b.index.get? (some base)) name base r := by
  obtain ⟨id', b₁, hbase, he⟩ := Act.effect_bind_eq_ok.mp he
  obtain ⟨r, hr, hreads⟩ := ((ends_baseClass hs name base).ok hbase).reader
  rw [Act.effect_bind_of_ok (effect_announceClass id' doc modifier name b₁)] at he
  cases he
  refine ⟨r, ?_, hreads⟩
  have hsame := classAt_of_map (f := ClassDef.attributes) (map_withClass (f := ClassDef.attributes)
    (g := fun c => { c with doc }.addModifier modifier) (fun _ => rfl) b₁ id) id
  exact hsame.trans hr

end Declaring

/-! ### What an action does to attributes -/

/-- What happens to classes and to what they read where an action is called: a class is opened, an attribute of
the class that is open is declared or skipped, or neither. -/
inductive Header.Steps (h h' : Header) : Option (String × Match) → Prop where
  | carries {called : Option (String × Match)} (hne : ∀ m, called ≠ some ("CCLASS_ATTRIBUTE", m))
      (binding : h.binding.Carries h'.binding) (inClass : ∀ i ∈ h'.currentClass, i ∈ h.currentClass) :
      Steps h h' called
  | skips {m : Match} (heq : h' = h) : Steps h h' (some ("CCLASS_ATTRIBUTE", m))
  | declares {m : Match} {id : ClassId} {r : Method} {x : Member} (opened : h.currentClass = some id)
      (reader : (h.binding.classAt id).attributes = some r) (title : x.className = r.className)
      (heq : h' = { h with binding := Class.withMember h.binding id x }) :
      Steps h h' (some ("CCLASS_ATTRIBUTE", m))
  | opens {m : Match} {id : ClassId} {r : Method} {name base : String} (opened : h'.currentClass = some id)
      (hname : (h'.binding.classAt id).name = some name) (hbase : base.isEmpty = false)
      (index : h'.binding.index = h.binding.index.insert (some name) id)
      (inherits : h.binding.Inherits (h.binding.index.get? (some base)) h'.binding)
      (reader : (h'.binding.classAt id).attributes = some r)
      (reads : Declaring.ReadsLike h.binding (h.binding.index.get? (some base)) name base r) :
      Steps h h' (some ("CCLASS_START", m))

namespace HeaderReader

open Binding Declaring Lexer Header.Table

variable {x y : HeaderReader} {m : Match}

/-- The action does nothing to what classes read, and opens none. -/
def Carried (act : Act HeaderReader Unit) : Prop :=
  ∀ x y : HeaderReader, act.effect x = (.ok (), y) → x.host.Sound → x.host.Entitled →
    x.host.binding.Carries y.host.binding ∧ ∀ i ∈ y.host.currentClass, i ∈ x.host.currentClass

lemma carried_withBinding {b : Binding} (h : x.host.binding.Carries b) :
    x.host.binding.Carries (x.withBinding b).host.binding ∧
      ∀ i ∈ (x.withBinding b).host.currentClass, i ∈ x.host.currentClass :=
  ⟨h, fun _ hi => hi⟩

lemma carried_onBinding {act : Act Binding Unit}
    (h : ∀ b b' : Binding, act.effect b = (.ok (), b') → b.Carries b') : Carried (onBinding act) := by
  intro x y he _ _
  obtain ⟨b, hb, rfl⟩ := onBinding_eq_ok he
  exact carried_withBinding (h _ b hb)

lemma carried_comment {f : Header → String} : Carried (modifyHeader fun h => { h with comment := f h }) := by
  intro x y he _ _
  cases he
  exact ⟨.congr rfl rfl rfl, fun _ hi => hi⟩

/-- Attributes of the struct that is open. -/
lemma carried_addAttribute (name type modifier : String) (named : List (String × Datum)) :
    Carried (do
      let id ← opened (← header).currentStruct
      onBinding (Class.addAttribute id name type modifier named)) := by
  intro x y he hs hx
  obtain ⟨id, hid, he⟩ := opened_bind_eq_ok he
  obtain ⟨b, hadd, rfl⟩ := onBinding_eq_ok he
  refine ⟨?_, fun _ hi => hi⟩
  rcases (Class.ends_addAttribute _ _ _ _ _ _).ok hadd with rfl | ⟨member, rfl⟩
  · exact .congr rfl rfl rfl
  · exact carries_withMember (hs.inStruct id hid) (hx.inStruct id hid) member

lemma carries_constantIn (name line : String) (b : Binding) : b.Carries (constantIn name line b) := by
  rw [constantIn]
  split
  · exact .congr rfl rfl rfl
  · exact .congr rfl rfl rfl

lemma carried_startMethod (m : Match) : Carried (startMethod m) := by
  intro x y he _ _
  rcases startMethod_eq_ok he with ⟨-, rfl⟩ | ⟨-, id, method, b, -, hopen, rfl⟩
  · exact ⟨.congr rfl rfl rfl, fun _ hi => hi⟩
  · obtain ⟨-, t, -, rfl⟩ := (ends_openMethod id _ _ _ _).ok hopen
    have hcarries (protocol : Option String) (s : Signature) :
        x.host.binding.Carries ((withProtocol x.host.binding id protocol).withSignature s) := by
      cases protocol with
      | none => exact .congr rfl rfl rfl
      | some p =>
        exact .of_faces rfl rfl (map_withClass (f := fun c => (c.kind, c.name, c.attributes))
          (g := (·.addModifier (some p))) (fun _ => rfl) _ id)
    exact ⟨hcarries _ _, fun _ hi => hi⟩

lemma carried_endMethod : Carried endMethod := by
  intro x y he hs _
  rcases endMethod_eq_put hs he with ⟨-, rfl⟩ | ⟨method, id, -, -, rfl⟩
  · exact ⟨.congr rfl rfl rfl, fun _ hi => hi⟩
  · refine ⟨.withClass (fun c => ?_) _ id, fun _ hi => hi⟩
    obtain ⟨hkind, hname, hattributes⟩ := Class.putMethod_others c method
    rw [hkind, hname, hattributes]

/-- Only blocks of classes and their attributes do something to what classes read. -/
lemma carried_action {name : String} {act : Match → Act HeaderReader Unit} (h : action name = some act)
    (hne : name ≠ "CCLASS_START") (hne' : name ≠ "CCLASS_ATTRIBUTE") (m : Match) : Carried (act m) := by
  have hupdate {g : Binding → Binding} (hi : ∀ b, (g b).index = b.index) (hm : ∀ b, (g b).members = b.members)
      (hc : ∀ b, (g b).classes = b.classes) : Carried (onBinding (Act.update g)) := by
    refine carried_onBinding fun b b' he => ?_
    cases he
    exact .congr (hi b) (hm b) (hc b)
  cases h using action_cases with
  | bindStruct => exact hupdate (fun _ => rfl) (fun _ => rfl) fun _ => rfl
  | addClassAttribute => exact absurd rfl hne'
  | startClass => exact absurd rfl hne
  | clearComment => exact carried_comment
  | addComment => exact carried_comment
  | endComment => exact carried_comment
  | defineConstant =>
    intro x y he _ _
    rw [effect_defineConstant] at he
    cases he
    exact carried_withBinding (carries_constantIn _ _ _)
  | endClass =>
    intro x y he _ _
    cases he
    exact ⟨.congr rfl rfl rfl, forall_mem_none⟩
  | endEnum =>
    intro x y he hs hx
    obtain ⟨id, b, hid, hclose, rfl⟩ := endEnum_eq_ok he
    exact ⟨(ends_carries_closeEnum (hx.inEnum id hid)).ok hclose, fun _ hi => hi⟩
  | startEnum =>
    intro x y he _ _
    obtain ⟨id, b, hopen, rfl⟩ := startEnum_eq_ok he
    obtain ⟨-, hinherits, c, hadds, -⟩ := (ends_makeEnum _ _).ok hopen
    exact ⟨.of_inherits hinherits hadds.extended.index, fun _ hi => hi⟩
  | addEnumValue =>
    intro x y he _ _
    obtain ⟨id, -, he⟩ := opened_bind_eq_ok he
    cases he
    exact carried_withBinding (.withClass (f := fun c => { c with values := c.values ++ [trimmed m 1] })
      (fun _ => rfl) _ id)
  | addMethodArgument =>
    intro x y he hs _
    rcases addMethodArgument_eq_ok hs he with ⟨-, rfl⟩ | ⟨method, args, -, -, rfl⟩
    · exact ⟨.congr rfl rfl rfl, fun _ hi => hi⟩
    · exact ⟨.congr rfl rfl rfl, fun _ hi => hi⟩
  | endMethod => exact carried_endMethod
  | startMethod => exact carried_startMethod m
  | aliasType => exact hupdate (fun _ => rfl) (fun _ => rfl) fun _ => rfl
  | addStructAttribute => exact carried_addAttribute _ _ _ _
  | addStructPointer => exact carried_addAttribute _ _ _ _
  | endStruct =>
    intro x y he hs hx
    obtain ⟨id, b, hid, hclose, rfl⟩ := endStruct_eq_ok he
    exact ⟨(ends_carries_closeStruct (hx.inStruct id hid)).ok hclose, fun _ hi => hi⟩
  | startStruct =>
    intro x y he _ _
    obtain ⟨id, b, hopen, rfl⟩ := startStruct_eq_ok he
    exact ⟨carries_openStruct hopen (fun _ => rfl) (fun _ => rfl) fun _ => rfl, fun _ hi => hi⟩
  | endNamedEnum =>
    intro x y he hs hx
    obtain ⟨id, b, hid, hclose, rfl⟩ := endNamedEnum_eq_ok he
    exact ⟨(ends_carries_nameClass hs.binding (hs.inEnum id hid) (hx.inEnum id hid) _ fun _ =>
      ends_carries_closeEnum).ok hclose, fun _ hi => hi⟩
  | startNamelessEnum =>
    intro x y he _ _
    obtain ⟨id, b, hopen, rfl⟩ := startEnum_eq_ok he
    obtain ⟨-, hinherits, c, hadds, -⟩ := (ends_makeEnum _ _).ok hopen
    exact ⟨.of_inherits hinherits hadds.extended.index, fun _ hi => hi⟩
  | endNamedStruct =>
    intro x y he hs hx
    obtain ⟨id, b, hid, hclose, rfl⟩ := endNamedStruct_eq_ok he
    exact ⟨(ends_carries_nameClass hs.binding (hs.inStruct id hid) (hx.inStruct id hid) _ fun _ =>
      ends_carries_closeStruct).ok hclose, fun _ hi => hi⟩
  | startNamelessStruct =>
    intro x y he _ _
    obtain ⟨id, b, hopen, rfl⟩ := startNamelessStruct_eq_ok he
    exact ⟨carries_openStruct hopen (fun _ => rfl) (fun _ => rfl) fun _ => rfl, fun _ hi => hi⟩

lemma baseGroup_rules : ∀ r ∈ rules, ∀ name ∈ ruleAction r, name = "CCLASS_START" →
    r.pattern.needsGroup 3 ∧ ∀ g ∈ r.pattern.groups, g.1 = 3 → g.2 = .plus (.set Pattern.wordSet) :=
  forall_ruleAction (by decide +kernel)

/-- A block names a base. -/
lemma isEmpty_base (h : x.nextAction = some ("CCLASS_START", m)) : (trimmed m 3).isEmpty = false := by
  obtain ⟨r, hr, -, hname, hmatch⟩ := nextAction_eq_some h
  obtain ⟨hneeds, hgroups⟩ := baseGroup_rules r hr _ hname rfl
  obtain ⟨haccepts, hmatched⟩ := Pattern.accepts_group? hmatch 3
  obtain ⟨t, ht⟩ := Option.ne_none_iff_exists'.mp (hmatched hneeds)
  obtain ⟨-, q, hq, ha⟩ := haccepts t ht
  obtain rfl : q = _ := hgroups (3, q) hq rfl
  obtain ⟨hne, hword⟩ := Pattern.holds_of_accepts_plus ha
  have hblank : ∀ c ∈ t.toList, Text.isBlank c = false := fun c hc => Pattern.isBlank_of_word (hword c hc)
  have hstrip : Text.strip t = t := by
    have hstrip := Text.strip_ofList (fun c hc => hblank c (List.mem_of_mem_head? hc))
      fun c hc => hblank c (List.mem_of_mem_getLast? hc)
    rwa [String.ofList_toList] at hstrip
  rw [trimmed, Match.group, ht, Option.getD_some, hstrip, ← Bool.not_eq_true, String.isEmpty_iff]
  rintro rfl
  exact hne rfl

/-- What the next call for a token does to classes and to what they read. -/
lemma steps_of_nextToken {atEnd : Bool} {token : Option String} (h : x.WellRead)
    (he : (nextToken callbacks atEnd).effect x = (.ok token, y)) : x.host.Steps y.host x.nextAction := by
  have hacts := (agrees_nextToken h.rows h.agrees he).2
  obtain ⟨hhost, hnone⟩ | ⟨name, m, act, hcalled, hact, x', y', he', hx', hy'⟩ := hacts.cases
  · rw [hhost]
    exact .carries (fun m heq => nomatch hnone _ m heq) (.congr rfl rfl rfl) fun _ hi => hi
  · have hs : x'.host.Sound := hx' ▸ h.sound
    rw [hcalled, ← hx', ← hy']
    by_cases hstart : name = "CCLASS_START"
    · subst hstart
      obtain rfl : startClass = act := Option.some.inj hact
      obtain ⟨id, b, hopen, rfl⟩ := startClass_eq_ok he'
      obtain ⟨-, -, -, hname, -, hindex, hinherits⟩ := (ends_openClass hs.binding _ _ _ _).ok hopen
      obtain ⟨r, hr, hreads⟩ := reader_openClass hs.binding hopen
      exact .opens rfl hname (isEmpty_base hcalled) hindex hinherits hr hreads
    · by_cases hattribute : name = "CCLASS_ATTRIBUTE"
      · subst hattribute
        obtain rfl : addClassAttribute = act := Option.some.inj hact
        obtain ⟨id, hid, he'⟩ := opened_bind_eq_ok he'
        obtain ⟨b, hadd, rfl⟩ := onBinding_eq_ok he'
        rcases (Class.adds_addAttribute _ _ _ _ _ _).ok hadd with rfl | ⟨r, hr, member, htitle, rfl⟩
        · exact .skips rfl
        · exact .declares hid hr htitle rfl
      · obtain ⟨hcarries, hclass⟩ := carried_action hact hstart hattribute m x' y' he' hs (hx' ▸ h.entitled)
        refine .carries (fun m' heq => ?_) hcarries hclass
        exact hattribute (Prod.mk.inj (Option.some.inj heq)).1

end HeaderReader

/-! ### What is read was declared -/

namespace Binding

variable {b b' : Binding} {id : ClassId} {r : Method} {P Q : String → MemberId → Prop}

/-- The reader goes by the name of its class, which has a base. Each of its members was declared in a class, and
carries the name of that class. -/
structure ReadsDeclared (P : String → MemberId → Prop) (b : Binding) (name : Option String) (r : Method) :
    Prop where
  titled : ∃ cls, name = some cls ∧ r.className = some cls
  based : (r.baseName.getD "").isEmpty = false
  declared : ∀ k ∈ r.members, k < b.members.size ∧ ∃ cls, P cls k ∧ (b.memberAt k).className = some cls

/-- The class reads what was declared. -/
def Attributed (P : String → MemberId → Prop) (b : Binding) (id : ClassId) : Prop :=
  ∀ r ∈ (b.classAt id).attributes, b.ReadsDeclared P (b.classAt id).name r

lemma ReadsDeclared.mono {name : Option String} (h : b.ReadsDeclared P name r) (hPQ : ∀ cls k, P cls k → Q cls k)
    (hg : b.members.size ≤ b'.members.size) (hm : ∀ k < b.members.size, b'.memberAt k = b.memberAt k) :
    b'.ReadsDeclared Q name r where
  titled := h.titled
  based := h.based
  declared k hk := by
    obtain ⟨hlt, cls, hP, hname⟩ := h.declared k hk
    exact ⟨Nat.lt_of_lt_of_le hlt hg, cls, hPQ cls k hP, by rw [hm k hlt, hname]⟩

/-- The class reads what it read. -/
lemma Attributed.of_faces (h : b.Attributed P id) (hf : (b'.classAt id).name = (b.classAt id).name ∧
      (b'.classAt id).attributes = (b.classAt id).attributes) (hPQ : ∀ cls k, P cls k → Q cls k)
    (hg : b.members.size ≤ b'.members.size) (hm : ∀ k < b.members.size, b'.memberAt k = b.memberAt k) :
    b'.Attributed Q id := by
  intro r hr
  rw [hf.1]
  exact (h r (hf.2 ▸ hr)).mono hPQ hg hm

/-- The class that is opened reads nothing, or what its base reads. -/
lemma readsDeclared_of_readsLike {base : Option ClassId} {name baseName : String}
    (h : ∀ i ∈ base, (b.classAt i).kind = .class_ → b.Attributed P i) (hbase : baseName.isEmpty = false)
    (hr : Declaring.ReadsLike b base name baseName r) : b.ReadsDeclared P (some name) r := by
  rcases hr with hnew | ⟨i, hi, hkind, r₀, hr₀, hnew⟩
  · refine ⟨⟨name, rfl, hnew.className⟩, ?_, fun k hk => ?_⟩
    · rw [hnew.baseName]
      exact hbase
    · rw [hnew.members] at hk
      cases hk
  · have hreads := h i hi hkind r₀ hr₀
    refine ⟨⟨name, rfl, hnew.className⟩, ?_, ?_⟩
    · rw [hnew.baseName]
      exact hreads.based
    · rw [hnew.members]
      exact hreads.declared

lemma memberAt_withMember_of_lt {k : MemberId} (h : k < b.members.size) (x : Member) :
    (Class.withMember b id x).memberAt k = b.memberAt k := by
  simp only [memberAt, Class.withMember, Array.getElem?_push, if_neg (Nat.ne_of_lt h)]

lemma memberAt_withMember_size (b : Binding) (id : ClassId) (x : Member) :
    (Class.withMember b id x).memberAt b.members.size = x := by
  simp [memberAt, Class.withMember]

lemma size_members_withMember (b : Binding) (id : ClassId) (x : Member) :
    (Class.withMember b id x).members.size = b.members.size + 1 :=
  Array.size_push _

/-- The class that is open reads what is declared in it. -/
lemma Attributed.withMember {i : ClassId} {x : Member} {cls : String} (h : b.Attributed P i)
    (hid : id < b.classes.size) (hname : (b.classAt id).name = some cls) (hx : x.className = some cls)
    (hPQ : ∀ cls k, P cls k → Q cls k) (hQ : Q cls b.members.size) : (Class.withMember b id x).Attributed Q i := by
  have hgrown : b.members.size ≤ (Class.withMember b id x).members.size := by
    rw [size_members_withMember]
    exact Nat.le_succ _
  have hmembers : ∀ k < b.members.size, (Class.withMember b id x).memberAt k = b.memberAt k :=
    fun k hk => memberAt_withMember_of_lt hk x
  by_cases hi : i = id
  · subst hi
    intro r hr
    rw [Class.classAt_withMember hid] at hr ⊢
    simp only [ClassDef.modifyMethod, Option.mem_def, Option.map_eq_some_iff] at hr ⊢
    obtain ⟨r₀, hr₀, rfl⟩ := hr
    have hreads := (h r₀ hr₀).mono hPQ hgrown hmembers
    refine ⟨hreads.titled, hreads.based, List.forall_mem_append.mpr ⟨hreads.declared, ?_⟩⟩
    rw [List.forall_mem_singleton]
    refine ⟨?_, cls, hQ, ?_⟩
    · rw [size_members_withMember]
      exact Nat.lt_succ_self _
    · rw [memberAt_withMember_size, hx]
  · intro r hr
    rw [Class.classAt_withMember_of_ne hi] at hr ⊢
    exact (h r hr).mono hPQ hgrown hmembers

end Binding

namespace Header

variable {h h' : Header} {called : Option (String × Match)} {P Q : String → MemberId → Prop}

/-- The classes that are known, and the one that is open, read what was declared. -/
structure Attributed (P : String → MemberId → Prop) (h : Header) : Prop where
  known : ∀ key i, h.binding.index.get? key = some i → (h.binding.classAt i).kind = .class_ →
    h.binding.Attributed P i
  inClass : ∀ i ∈ h.currentClass, h.binding.Attributed P i

lemma Steps.members (hsteps : h.Steps h' called) : h.binding.members.size ≤ h'.binding.members.size ∧
    ∀ k < h.binding.members.size, h'.binding.memberAt k = h.binding.memberAt k := by
  cases hsteps with
  | carries _ hb _ => exact ⟨hb.grown.2, hb.members⟩
  | skips heq => exact heq ▸ ⟨Nat.le_refl _, fun _ _ => rfl⟩
  | declares _ _ _ heq =>
    subst heq
    refine ⟨?_, fun k hk => Binding.memberAt_withMember_of_lt hk _⟩
    rw [Binding.size_members_withMember]
    exact Nat.le_succ _
  | opens _ _ _ _ hi _ _ => exact ⟨hi.grown.2, hi.members⟩

/-- An attribute that comes in the class that is open carries its name. -/
lemma Steps.className {id : ClassId} {k : MemberId} {cls : String} {m : Match}
    (hsteps : h.Steps h' called) (hcalled : called = some ("CCLASS_ATTRIBUTE", m)) (ha : h.Attributed P)
    (hid : h.currentClass = some id) (hname : (h.binding.classAt id).name = some cls)
    (hle : h.binding.members.size ≤ k) (hlt : k < h'.binding.members.size) : (h'.binding.memberAt k).className = some cls := by
  cases hsteps with
  | carries hne _ _ => exact absurd hcalled (hne m)
  | skips heq =>
    subst heq
    exact absurd hlt (Nat.not_lt.mpr hle)
  | @declares _ id' r x hid' hr htitle heq =>
    subst heq
    obtain rfl : id = id' := Option.some.inj (hid.symm.trans hid')
    obtain ⟨cls', hname', hreader⟩ := (ha.inClass id hid r hr).titled
    have hk : k = h.binding.members.size := by
      rw [Binding.size_members_withMember] at hlt
      exact Nat.le_antisymm (Nat.lt_succ_iff.mp hlt) hle
    rw [hk, Binding.memberAt_withMember_size, htitle, hreader, ← hname', hname]
  | opens => exact absurd (Prod.mk.inj (Option.some.inj hcalled)).1 (by decide)

/-- What is read was declared, if that was so before and new attributes are declared in the class that is
open. -/
lemma Attributed.step (ha : h.Attributed P) (hs : h.Sound) (hsteps : h.Steps h' called)
    (hPQ : ∀ cls k, P cls k → Q cls k)
    (hQ : ∀ m id cls k, called = some ("CCLASS_ATTRIBUTE", m) → h.currentClass = some id →
      (h.binding.classAt id).name = some cls → h.binding.members.size ≤ k → k < h'.binding.members.size →
      Q cls k) : h'.Attributed Q := by
  cases hsteps with
  | carries _ hb hc =>
    refine ⟨fun key i hget hkind => ?_, fun i hi => ?_⟩
    · have hget' := hb.known key i hget hkind
      have hlt := hs.binding.indexed key i hget'
      rw [hb.kinds i hlt] at hkind
      exact (ha.known key i hget' hkind).of_faces (hb.faces i hlt hkind) hPQ hb.grown.2 hb.members
    · obtain ⟨hlt, hkind⟩ := hs.inClass i (hc i hi)
      exact (ha.inClass i (hc i hi)).of_faces (hb.faces i hlt hkind) hPQ hb.grown.2 hb.members
  | skips heq =>
    subst heq
    have hmono {i : ClassId} (hi : h'.binding.Attributed P i) : h'.binding.Attributed Q i :=
      hi.of_faces ⟨rfl, rfl⟩ hPQ (Nat.le_refl _) fun _ _ => rfl
    exact ⟨fun key i hget hkind => hmono (ha.known key i hget hkind), fun i hi => hmono (ha.inClass i hi)⟩
  | @declares m id r x hid hr htitle heq =>
    subst heq
    obtain ⟨cls, hname, hreader⟩ := (ha.inClass id hid r hr).titled
    have hlt := (hs.inClass id hid).1
    have hnew : Q cls h.binding.members.size := by
      refine hQ m id cls _ rfl hid hname (Nat.le_refl _) ?_
      rw [Binding.size_members_withMember]
      exact Nat.lt_succ_self _
    refine ⟨fun key i hget hkind => ?_, fun i hi => ?_⟩
    · have hkind' : (h.binding.classAt i).kind = .class_ := by
        by_cases hi : i = id
        · subst hi
          rwa [Class.classAt_withMember hlt] at hkind
        · rwa [Class.classAt_withMember_of_ne hi] at hkind
      exact (ha.known key i hget hkind').withMember hlt hname (htitle.trans hreader) hPQ hnew
    · exact (ha.inClass i hi).withMember hlt hname (htitle.trans hreader) hPQ hnew
  | @opens m id r name base hopen hname hbase hindex hinherits hr hreads =>
    -- The class is there before it becomes known.
    have hcarries : h.binding.Carries { h'.binding with index := h.binding.index } :=
      .of_inherits (hinherits.congr rfl rfl rfl) rfl
    have hnew : h'.binding.Attributed Q id := by
      intro r' hr'
      obtain rfl : r = r' := Option.some.inj (hr.symm.trans hr')
      rw [hname]
      exact (Binding.readsDeclared_of_readsLike (ha.known _) hbase hreads).mono hPQ hinherits.grown.2
        hinherits.members
    refine ⟨fun key i hget hkind => ?_, fun i hi => ?_⟩
    · rw [hindex, Dict.get?_insert] at hget
      split at hget
      · obtain rfl : id = i := Option.some.inj hget
        exact hnew
      · have hlt := hs.binding.indexed key i hget
        have hkind' : (h.binding.classAt i).kind = .class_ := (hcarries.kinds i hlt).symm.trans hkind
        exact (ha.known key i hget hkind').of_faces (hcarries.faces i hlt hkind') hPQ hinherits.grown.2
          hinherits.members
    · obtain rfl : id = i := Option.some.inj (hopen.symm.trans hi)
      exact hnew

end Header

namespace HeaderReader

open Binding Lexer Method

variable {x y : HeaderReader}

/-- A member was declared in the block of a class: it came up when an attribute was read and the class was
open. -/
inductive DeclaredIn (cls : String) (k : MemberId) : HeaderReader → Prop where
  | here {x y : HeaderReader} {atEnd : Bool} {token : Option String} {m : Match} {id : ClassId} (h : Built x)
      (he : (nextToken callbacks atEnd).effect x = (.ok token, y))
      (hcalled : x.nextAction = some ("CCLASS_ATTRIBUTE", m)) (hid : x.host.currentClass = some id)
      (hname : (x.host.binding.classAt id).name = some cls) (hle : x.host.binding.members.size ≤ k)
      (hlt : k < y.host.binding.members.size) : DeclaredIn cls k y
  | feed {x y : HeaderReader} {bytes : ByteArray} (h : DeclaredIn cls k x)
      (he : (Lexer.feed bytes).effect x = (.ok (), y)) : DeclaredIn cls k y
  | next {x y : HeaderReader} {atEnd : Bool} {token : Option String} (h : DeclaredIn cls k x)
      (he : (nextToken callbacks atEnd).effect x = (.ok token, y)) : DeclaredIn cls k y
  | note {x y : HeaderReader} {name : String} (h : DeclaredIn cls k x)
      (he : (noteFile name).effect x = (.ok (), y)) : DeclaredIn cls k y

lemma steps_feed {bytes : ByteArray} (he : (Lexer.feed bytes).effect x = (.ok (), y)) :
    x.host.Steps y.host none := by
  rw [host_feed he]
  exact .carries nofun (.congr rfl rfl rfl) fun _ hi => hi

lemma steps_noteFile {name : String} (he : (noteFile name).effect x = (.ok (), y)) : x.host.Steps y.host none := by
  obtain rfl | ⟨files, includes, rfl⟩ := noteFile_eq_ok he
  · exact .carries nofun (.congr rfl rfl rfl) fun _ hi => hi
  · exact .carries nofun (.congr rfl rfl rfl) fun _ hi => hi

/-- Each attribute that a class reads was declared in the block of a class. -/
lemma Built.attributed (h : Built x) : x.host.Attributed fun cls k => DeclaredIn cls k x := by
  induction h with
  | start h =>
    obtain ⟨settings, registry, name, base, verbose, rfl⟩ := h.eq
    exact ⟨fun _ _ hget => absurd hget.symm (Option.some_ne_none _), forall_mem_none⟩
  | feed h he ih =>
    refine ih.step h.wellRead.sound (steps_feed he) (fun cls k hk => hk.feed he) ?_
    exact fun _ _ _ _ hcalled => absurd hcalled.symm (Option.some_ne_none _)
  | next h he ih =>
    refine ih.step h.wellRead.sound (steps_of_nextToken h.wellRead he) (fun cls k hk => hk.next he) ?_
    intro m id cls k hcalled hid hname hle hlt
    exact .here h he hcalled hid hname hle hlt
  | note h he ih =>
    refine ih.step h.wellRead.sound (steps_noteFile he) (fun cls k hk => hk.note he) ?_
    exact fun _ _ _ _ hcalled => absurd hcalled.symm (Option.some_ne_none _)

lemma DeclaredIn.built {cls : String} {k : MemberId} (h : DeclaredIn cls k x) : Built x := by
  induction h with
  | here h he => exact h.next he
  | feed _ he ih => exact ih.feed he
  | next _ he ih => exact ih.next he
  | note _ he ih => exact ih.note he

/-- The attribute carries the name of the class that it was declared in. -/
lemma DeclaredIn.className_eq {cls : String} {k : MemberId} (h : DeclaredIn cls k x) :
    k < x.host.binding.members.size ∧ (x.host.binding.memberAt k).className = some cls := by
  have hkept {x y : HeaderReader} {called : Option (String × Match)} (hsteps : x.host.Steps y.host called)
      (hx : k < x.host.binding.members.size ∧ (x.host.binding.memberAt k).className = some cls) :
      k < y.host.binding.members.size ∧ (y.host.binding.memberAt k).className = some cls := by
    obtain ⟨hgrown, hmembers⟩ := hsteps.members
    exact ⟨Nat.lt_of_lt_of_le hx.1 hgrown, by rw [hmembers k hx.1, hx.2]⟩
  induction h with
  | here h he hcalled hid hname hle hlt =>
    exact ⟨hlt, (steps_of_nextToken h.wellRead he).className hcalled h.attributed hid hname hle hlt⟩
  | feed _ he ih => exact hkept (steps_feed he) ih
  | next h he ih => exact hkept (steps_of_nextToken h.built.wellRead he) ih
  | note _ he ih => exact hkept (steps_noteFile he) ih

/-! ### What getters cast to -/

/-- The text is that of a getter of a class for an attribute. It casts the object to the class, and so to the
class that the attribute was declared in just where that is the same. -/
def GetsAttribute (x : HeaderReader) (cls : String) (member : MemberId × Member) (text : String) : Prop :=
  let casting (target : String) := getterBy x.host.binding.settings cls
    (castOperand target member.2.ctype.name) member.2.ctype
  casting cls = .ok text ∧ ∃ declaring, (∀ A, DeclaredIn A member.1 x ↔ A = declaring) ∧
    member.2.className = some declaring ∧ (casting declaring = .ok text ↔ declaring = cls)

lemma getsAttribute_of_reads {cls text : String} {r : Method} {member : MemberId × Member}
    (hr : x.host.binding.ReadsDeclared (fun cls k => DeclaredIn cls k x) (some cls) r)
    (hmember : member ∈ r.exposed x.host.binding) (h : Method.Reads x.host.binding.settings r cls member text) :
    GetsAttribute x cls member text := by
  obtain ⟨k, hk, rfl⟩ := List.mem_map.mp (List.mem_filter.mp hmember).1
  obtain ⟨-, A, hA, hname⟩ := hr.declared k hk
  rw [Method.Reads, memberOperand_of_based hr.based] at h
  refine ⟨h, A, fun B => ⟨fun hB => ?_, ?_⟩, hname, fun hcast => ?_, ?_⟩
  · exact Option.some.inj (hB.className_eq.2.symm.trans hname)
  · rintro rfl
    exact hA
  · exact castOperand_injective _ (eq_of_getterBy (strip_castOperand _ _) (strip_castOperand _ _) hcast h)
  · rintro rfl
    exact h

/-- The getters of a class are written for the attributes that it exposes, in their order, up to one that fails,
and each casts the object to this class, wherever its attribute was declared. -/
theorem Built.getsAttributes (h : Built x) {cls : String} {id : ClassId}
    (hid : x.host.binding.index.get? (some cls) = some id)
    (hkind : (x.host.binding.classAt id).kind = .class_) :
    ∃ r done texts, (x.host.binding.classAt id).attributes = some r ∧ done <+: r.exposed x.host.binding ∧
      ((writeGetters ⟨id, .attributes⟩).effect x.host.binding).2.out = x.host.binding.out ++ String.join texts ∧
      (((writeGetters ⟨id, .attributes⟩).effect x.host.binding).1 = .ok () → done = r.exposed x.host.binding) ∧
      List.Forall₂ (GetsAttribute x cls) done texts := by
  have hread := h.wellRead
  have hwhole := (hread.sound.binding.fit id (hread.sound.binding.indexed _ id hid)).whole hkind
  obtain ⟨r, hr⟩ := Option.isSome_iff_exists.mp hwhole.attributes
  have hdeclared := h.attributed.known _ id hid hkind r hr
  rw [hread.entitled.binding.keyed _ id hid hkind] at hdeclared
  have htitle : r.className = some cls := by
    obtain ⟨cls', hcls, htitle⟩ := hdeclared.titled
    rwa [hcls]
  have hgets {done : List (MemberId × Member)} {texts : List String} (hdone : done <+: r.exposed x.host.binding)
      (hall : List.Forall₂ (Method.Reads x.host.binding.settings r cls) done texts) :
      List.Forall₂ (GetsAttribute x cls) done texts := by
    have hexposed := (List.forall₂_and_left done texts).mpr ⟨fun member hmember => hdone.subset hmember, hall⟩
    exact hexposed.imp fun member text hreads => getsAttribute_of_reads hdeclared hreads.1 hreads.2
  have hends := ends_writeGetters ⟨id, .attributes⟩ hr htitle fun k hk => (hdeclared.declared k hk).1
  rcases he : (writeGetters ⟨id, .attributes⟩).effect x.host.binding with ⟨f | _, b'⟩
  · obtain ⟨done, texts, hdone, hout, hall⟩ := hends.error he
    exact ⟨r, done, texts, hr, hdone, hout, nofun, hgets hdone hall⟩
  · obtain ⟨texts, hout, hall⟩ := hends.ok he
    exact ⟨r, r.exposed x.host.binding, texts, hr, List.prefix_rfl, hout, fun _ => rfl, hgets List.prefix_rfl hall⟩

/-! ### An attribute that is inherited -/

/-- A class with an attribute, and one that inherits it and declares another. -/
def twoAttributes : HeaderReader :=
  fed ("CCLASS(A, Object)\n  int x;\nEND_CCLASS\n" ++ "CCLASS(B, A)\n  int y;\nEND_CCLASS\n") unread

/-- The reader within the second class. -/
def withinHeir : HeaderReader :=
  after 9 twoAttributes

lemma built_withinHeir : Built withinHeir := by
  have hgoes : goesOn 9 twoAttributes = true := by
    decide +kernel
  exact ((run_after hgoes).reached ((Reached.start started_unread).feed (effect_feed _ _))).built

theorem getsAttributes_withinHeir : withinHeir.host.binding.index.get? (some "B") = some 1 ∧
    ∃ r done texts, (withinHeir.host.binding.classAt 1).attributes = some r ∧ r.members = [0, 1] ∧
      done <+: r.exposed withinHeir.host.binding ∧
      ((writeGetters ⟨1, .attributes⟩).effect withinHeir.host.binding).2.out =
        withinHeir.host.binding.out ++ String.join texts ∧
      (((writeGetters ⟨1, .attributes⟩).effect withinHeir.host.binding).1 = .ok () →
        done = r.exposed withinHeir.host.binding) ∧
      List.Forall₂ (GetsAttribute withinHeir "B") done texts := by
  obtain ⟨hid, hkind, hmembers⟩ : withinHeir.host.binding.index.get? (some "B") = some 1 ∧
      (withinHeir.host.binding.classAt 1).kind = .class_ ∧
      (withinHeir.host.binding.classAt 1).attributes.map Method.members = some [0, 1] := by
    decide +kernel
  obtain ⟨r, done, texts, hr, hdone, hout, hok, hall⟩ := built_withinHeir.getsAttributes hid hkind
  rw [hr] at hmembers
  exact ⟨hid, r, done, texts, hr, Option.some.inj hmembers, hdone, hout, hok, hall⟩

/-- The getter of an attribute that a class inherits casts to the heir, not to the class that declares it. -/
theorem casts_to_heir : ∃ text, DeclaredIn "A" 0 withinHeir ∧
    text.toList <+: ((writeGetters ⟨1, .attributes⟩).effect withinHeir.host.binding).2.out.toList ∧
    getterBy withinHeir.host.binding.settings "B" (castOperand "B" "x") (withinHeir.host.binding.memberAt 0).ctype =
      .ok text ∧
    getterBy withinHeir.host.binding.settings "B" (castOperand "A" "x") (withinHeir.host.binding.memberAt 0).ctype ≠
      .ok text := by
  obtain ⟨hid, hkind, hexposed, hname, hfield, hout, hok⟩ :
      withinHeir.host.binding.index.get? (some "B") = some 1 ∧
      (withinHeir.host.binding.classAt 1).kind = .class_ ∧
      (withinHeir.host.binding.classAt 1).attributes.map (fun r =>
        (r.className, (r.exposed withinHeir.host.binding).map Prod.fst)) = some (some "B", [0, 1]) ∧
      (withinHeir.host.binding.memberAt 0).className = some "A" ∧
      (withinHeir.host.binding.memberAt 0).ctype.name = "x" ∧ withinHeir.host.binding.out = "" ∧
      ((writeGetters ⟨1, .attributes⟩).effect withinHeir.host.binding).1.toBool = true := by
    decide +kernel
  have hbuilt := built_withinHeir
  generalize withinHeir = x at *
  obtain ⟨r, hr, heq⟩ := Option.map_eq_some_iff.mp hexposed
  obtain ⟨htitle, hexposed⟩ := Prod.mk.inj heq
  obtain ⟨member, rest, hcons, hmember, -⟩ := List.map_eq_cons_iff.mp hexposed
  have hdeclared := hbuilt.attributed.known _ 1 hid hkind r hr
  rw [hbuilt.wellRead.entitled.binding.keyed _ 1 hid hkind] at hdeclared
  have hends := ends_writeGetters ⟨1, .attributes⟩ hr htitle fun k hk => (hdeclared.declared k hk).1
  rcases he : (writeGetters ⟨1, .attributes⟩).effect x.host.binding with ⟨f | _, b'⟩ <;> rw [he] at hok
  · cases hok
  · obtain ⟨texts, hout', hall⟩ := hends.ok he
    rw [hcons] at hall
    obtain ⟨text, texts, hreads, -, rfl⟩ := List.forall₂_cons_left_iff.mp hall
    have hfirst : member ∈ r.exposed x.host.binding := hcons ▸ List.mem_cons_self
    obtain ⟨hcast, A, hA, hname', hiff⟩ := getsAttribute_of_reads hdeclared hfirst hreads
    obtain ⟨k, -, rfl⟩ := List.mem_map.mp (List.mem_filter.mp hfirst).1
    obtain rfl : k = 0 := hmember
    obtain rfl : "A" = A := Option.some.inj (hname.symm.trans hname')
    rw [hfield] at hcast hiff
    refine ⟨text, (hA "A").mpr rfl, ?_, hcast, fun hcast' => absurd (hiff.mp hcast') (by decide)⟩
    rw [hout', hout, String.join_cons, String.empty_append, String.toList_append]
    exact List.prefix_append _ _

end HeaderReader

end HeaderBind
