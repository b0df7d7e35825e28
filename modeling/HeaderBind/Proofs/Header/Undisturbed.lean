import HeaderBind.Proofs.Binding.Settled
import HeaderBind.Proofs.Header.Flattening

/-!
# Classes that are not disturbed

While headers are read without failing, the binding is orderly (`Reached.orderly`). The block of a class
works on the class that it opens, and on signatures and members that are new. Of the other classes only
the base is touched: the comments of its methods are read when they are inherited (`undisturbed_of_run`).
-/

namespace HeaderBind

open Binding (Leaves Inherits)

/-! ### Opening structs -/

namespace Declaring

variable {b b' : Binding} {id : ClassId}

lemma inherits_openStruct (name : Option String) {setUp : ClassDef → ClassDef}
    (hn : ∀ c, (setUp c).name = c.name) (he : ∀ c, (setUp c).entries = c.entries)
    (ha : ∀ c, (setUp c).attributes = c.attributes) :
    (openStruct name setUp).Ends b (fun _ b' => b.Inherits none b') (fun _ _ => True) := by
  refine (ends_makeStruct name b).bind ?_
  rintro _ b' ⟨rfl, hnew, -⟩
  refine .bind_of_ok (Binding.effect_modifyClass _ _ _)
    (.pure (hnew.withClass (Nat.le_refl _) fun c hc => hc.of_subset (hn c) ?_ ?_))
  · rw [he]
    exact List.Subset.refl _
  · rw [ha]
    exact fun _ hr => hr

/-! ### Closing structs and enums -/

lemma keeps_ledger_closeStruct (id : ClassId) : (closeStruct id).Keeps Binding.ledger :=
  .bind (.update fun _ => rfl) fun _ => .bind .state fun _ => .bind (.lift _) fun _ => .update fun _ => rfl

lemma ledger_addConstants (values : List String) (b : Binding) :
    (values.foldl (fun b v => b.addConstant v "integer") b).ledger = b.ledger := by
  induction values generalizing b with
  | nil => rfl
  | cons v values ih => exact ih (b.addConstant v "integer")

lemma keeps_ledger_closeEnum (id : ClassId) : (closeEnum id).Keeps Binding.ledger :=
  .bind (.update fun _ => rfl) fun _ => .bind .state fun _ => .update fun b => ledger_addConstants _ b

lemma keeps_ledger_nameClass (id : ClassId) (name : String) : (nameClass id name).Keeps Binding.ledger :=
  fun b => Binding.ledger_withClass (f := fun c => { c with name := some name }) (fun _ => rfl) b id

lemma ledger_withProtocol (b : Binding) (id : ClassId) (protocol : Option String) :
    (withProtocol b id protocol).ledger = b.ledger := by
  cases protocol with
  | none => rfl
  | some p => exact Binding.ledger_withClass (f := (·.addModifier (some p))) (fun _ => rfl) b id

end Declaring

/-! ### Orderly readers -/

namespace HeaderReader

open Declaring Lexer Header.Table

variable {x y z : HeaderReader} {m : Match} {b : Binding}

/-- An action leads from what is sound and orderly to what is orderly, if it does not fail. -/
def StaysOrderly (act : Act HeaderReader Unit) : Prop :=
  ∀ x y : HeaderReader, act.effect x = (.ok (), y) → x.host.Sound → x.host.binding.Orderly →
    y.host.binding.Orderly

lemma staysOrderly_onBinding {act : Act Binding Unit} (h : act.Keeps Binding.ledger) :
    StaysOrderly (onBinding act) := by
  intro x y he _ hx
  obtain ⟨b, hb, rfl⟩ := onBinding_eq_ok he
  exact hx.of_ledger (h.of_effect hb)

lemma StaysOrderly.opened {which : Header → Option ClassId} {act : ClassId → Act HeaderReader Unit}
    (h : ∀ id, StaysOrderly (act id)) : StaysOrderly (do act (← opened (which (← header)))) := by
  intro x y he hs hx
  obtain ⟨id, -, he⟩ := opened_bind_eq_ok he
  exact h id x y he hs hx

lemma staysOrderly_modifyHeader {f : Header → Header} (h : ∀ h, (f h).binding = h.binding) :
    StaysOrderly (modifyHeader f) := by
  intro x y he _ hx
  cases he
  exact (h x.host).symm ▸ hx

lemma staysOrderly_addAttribute (id : ClassId) (name type modifier : String)
    (named : List (String × Datum)) :
    StaysOrderly (onBinding (Class.addAttribute id name type modifier named)) := by
  intro x y he _ hx
  obtain ⟨b, hb, rfl⟩ := onBinding_eq_ok he
  rcases (Class.ends_addAttribute _ _ _ _ _ _).ok hb with rfl | ⟨member, rfl⟩
  · exact hx
  · exact hx.withMember id member

lemma staysOrderly_startClass (m : Match) : StaysOrderly (startClass m) := by
  intro x y he hs hx
  obtain ⟨id, b, hopen, rfl⟩ := startClass_eq_ok he
  obtain ⟨-, -, -, -, -, -, hinherits⟩ := (ends_openClass hs.binding _ _ _ _).ok hopen
  exact hx.of_inherits hs.binding (fun id hid => hs.binding.indexed _ id hid) hinherits

lemma orderly_openStruct {name : Option String} {setUp : ClassDef → ClassDef} {id : ClassId}
    (hs : x.host.Sound) (hx : x.host.binding.Orderly)
    (hopen : (openStruct name setUp).effect x.host.binding = (.ok id, b))
    (hn : ∀ c, (setUp c).name = c.name) (he : ∀ c, (setUp c).entries = c.entries)
    (ha : ∀ c, (setUp c).attributes = c.attributes) : b.Orderly :=
  hx.of_inherits hs.binding forall_mem_none ((inherits_openStruct name hn he ha).ok hopen)

lemma staysOrderly_startStruct (m : Match) : StaysOrderly (startStruct m) := by
  intro x y he hs hx
  obtain ⟨id, b, hopen, rfl⟩ := startStruct_eq_ok he
  exact orderly_openStruct hs hx hopen (fun _ => rfl) (fun _ => rfl) fun _ => rfl

lemma staysOrderly_startNamelessStruct : StaysOrderly startNamelessStruct := by
  intro x y he hs hx
  obtain ⟨id, b, hopen, rfl⟩ := startNamelessStruct_eq_ok he
  exact orderly_openStruct hs hx hopen (fun _ => rfl) (fun _ => rfl) fun _ => rfl

lemma staysOrderly_startEnum (name : Option String) : StaysOrderly (startEnum name) := by
  intro x y he hs hx
  obtain ⟨id, b, hopen, rfl⟩ := startEnum_eq_ok he
  obtain ⟨-, hinherits, -⟩ := (ends_makeEnum name _).ok hopen
  exact hx.of_inherits hs.binding forall_mem_none hinherits

lemma staysOrderly_startMethod (m : Match) : StaysOrderly (startMethod m) := by
  intro x y he hs hx
  rcases startMethod_eq_ok he with ⟨-, rfl⟩ | ⟨-, id, method, b, -, hopen, rfl⟩
  · exact hx
  · obtain ⟨rfl, t, -, rfl⟩ := (ends_openMethod id _ _ _ _).ok hopen
    have hspares : ∀ protocol, x.host.binding.Spares (withProtocol x.host.binding id protocol) :=
      fun _ => .of_outline hs.binding (Binding.outline_of_core (core_withProtocol _ _ _))
    exact (hx.of_ledger (ledger_withProtocol _ _ _)).withSignature (hspares _).sound _

lemma staysOrderly_addMethodArgument (m : Match) : StaysOrderly (addMethodArgument m) := by
  intro x y he hs hx
  rcases addMethodArgument_eq_ok hs he with ⟨-, rfl⟩ | ⟨method, args, hm, -, rfl⟩
  · exact hx
  · exact hx.withArgs (hs.inMethod method hm).2 args

lemma staysOrderly_endMethod : StaysOrderly endMethod := by
  intro x y he hs hx
  rcases endMethod_eq_put hs he with ⟨-, rfl⟩ | ⟨method, id, hm, hid, rfl⟩
  · exact hx
  · exact hx.putMethod (hs.inClass id hid).1 (hs.inMethod method hm).2

lemma staysOrderly_action {name : String} {act : Match → Act HeaderReader Unit}
    (h : action name = some act) (m : Match) : StaysOrderly (act m) := by
  cases h using action_cases with
  | bindStruct => exact staysOrderly_onBinding (.update fun _ => rfl)
  | addClassAttribute => exact .opened fun id => staysOrderly_addAttribute id _ _ _ _
  | startClass => exact staysOrderly_startClass m
  | clearComment => exact staysOrderly_modifyHeader fun _ => rfl
  | addComment => exact staysOrderly_modifyHeader fun _ => rfl
  | endComment => exact staysOrderly_modifyHeader fun _ => rfl
  | defineConstant =>
    intro x y he _ hx
    rw [effect_defineConstant] at he
    cases he
    refine hx.of_ledger ?_
    rw [constantIn]
    split <;> rfl
  | endClass => exact staysOrderly_modifyHeader fun _ => rfl
  | endEnum =>
    intro x y he _ hx
    obtain ⟨id, b, -, hclose, rfl⟩ := endEnum_eq_ok he
    exact hx.of_ledger ((keeps_ledger_closeEnum id).of_effect hclose)
  | startEnum => exact staysOrderly_startEnum _
  | addEnumValue =>
    exact .opened fun id => staysOrderly_onBinding fun b =>
      Binding.ledger_withClass (f := fun c => { c with values := c.values ++ [trimmed m 1] })
        (fun _ => rfl) b id
  | addMethodArgument => exact staysOrderly_addMethodArgument m
  | endMethod => exact staysOrderly_endMethod
  | startMethod => exact staysOrderly_startMethod m
  | aliasType => exact staysOrderly_onBinding (.update fun _ => rfl)
  | addStructAttribute => exact .opened fun id => staysOrderly_addAttribute id _ _ _ _
  | addStructPointer => exact .opened fun id => staysOrderly_addAttribute id _ _ _ _
  | endStruct =>
    intro x y he _ hx
    obtain ⟨id, b, -, hclose, rfl⟩ := endStruct_eq_ok he
    exact hx.of_ledger ((keeps_ledger_closeStruct id).of_effect hclose)
  | startStruct => exact staysOrderly_startStruct m
  | endNamedEnum =>
    intro x y he _ hx
    obtain ⟨id, b, -, hclose, rfl⟩ := endNamedEnum_eq_ok he
    have hkeeps := (keeps_ledger_nameClass id (m.group 1)).bind fun _ => keeps_ledger_closeEnum id
    exact hx.of_ledger (hkeeps.of_effect hclose)
  | startNamelessEnum => exact staysOrderly_startEnum none
  | endNamedStruct =>
    intro x y he _ hx
    obtain ⟨id, b, -, hclose, rfl⟩ := endNamedStruct_eq_ok he
    have hkeeps := (keeps_ledger_nameClass id (trimmed m 1)).bind fun _ => keeps_ledger_closeStruct id
    exact hx.of_ledger (hkeeps.of_effect hclose)
  | startNamelessStruct => exact staysOrderly_startNamelessStruct

lemma orderly_of_actsIf {called : Option (String × Match)} {h h' : Header} (ha : ActsIf called h h')
    (hs : h.Sound) (ho : h.binding.Orderly) : h'.binding.Orderly := by
  obtain ⟨rfl, -⟩ | ⟨name, m, act, -, hact, x, y, he, rfl, rfl⟩ := ha.cases
  · exact ho
  · exact staysOrderly_action hact m x y he hs ho

theorem Reached.orderly (h : Reached x) : x.host.binding.Orderly := by
  induction h with
  | start h =>
    obtain ⟨settings, registry, name, base, verbose, rfl⟩ := h.eq
    exact ⟨fun i hi => absurd hi (Nat.not_lt_zero i), fun i hi => absurd hi (Nat.not_lt_zero i)⟩
  | feed _ he ih =>
    rw [host_feed he]
    exact ih
  | next h he ih => exact orderly_of_actsIf (agrees_nextToken h.rows h.agrees he).2 h.sound ih

/-! ### The block of a class -/

/-- While the block of a class is read, what is open is new, and all else is left as it was, but that
the comments of the base were read. -/
structure Besides (b₀ : Binding) (base : Option ClassId) (cls : String) (h : Header) : Prop where
  opened : ∃ id ∈ h.currentClass, b₀.classes.size ≤ id
  method : ∀ m ∈ h.currentMethod, b₀.signatures.size ≤ m.signature
  index : ∀ key, key ≠ some cls → h.binding.index.get? key = b₀.index.get? key
  leaves : b₀.Leaves base h.binding

end HeaderReader

lemma Binding.Sound.known_of_base {b : Binding} (h : b.Sound) {base : Option ClassId}
    (hbase : ∀ i ∈ base, i < b.classes.size) :
    ∀ m ∈ base.elim [] fun i => (b.classAt i).entries, m.signature < b.signatures.size := by
  cases base with
  | none => simp
  | some i => exact (h.fit i (hbase i rfl)).known

namespace Binding.Leaves

variable {b b' : Binding} {base : Option ClassId}

lemma withMember (h : b.Leaves base b') {id : ClassId} (hid : b.classes.size ≤ id) (x : Member) :
    b.Leaves base (Class.withMember b' id x) := by
  have hsize : (Class.withMember b' id x).members.size = b'.members.size + 1 := Array.size_push x
  refine ⟨⟨?_, ?_⟩, fun i hi => ?_, ⟨h.signatures.grown, h.signatures.noted, h.signatures.others⟩,
    fun i hi => ?_⟩
  · rw [show (Class.withMember b' id x).classes.size = b'.classes.size from Array.size_modify]
    exact h.grown.1
  · rw [hsize]
    exact Nat.le_succ_of_le h.grown.2
  · rw [Class.classAt_withMember_of_ne (Nat.ne_of_lt (Nat.lt_of_lt_of_le hi hid)), h.classes i hi]
  · have hlt := Nat.lt_of_lt_of_le hi h.grown.2
    rw [← h.members i hi]
    simp only [memberAt, Class.withMember, Array.getElem?_push, if_neg (Nat.ne_of_lt hlt)]

/-- The signatures that there were are left as they are. -/
lemma withSignatures {b'' : Binding} (h : b.Leaves base b')
    (hk : ∀ m ∈ base.elim [] fun i => (b.classAt i).entries, m.signature < b.signatures.size)
    (hc : b''.classes = b'.classes) (hm : b''.members = b'.members)
    (hle : b'.signatures.size ≤ b''.signatures.size)
    (hs : ∀ i < b.signatures.size, b''.signatureAt i = b'.signatureAt i) : b.Leaves base b'' := by
  refine ⟨?_, fun i hi => ?_, ⟨Nat.le_trans h.signatures.grown hle, fun m hm => ?_, fun i hi hn => ?_⟩,
    fun i hi => ?_⟩
  · rw [hc, hm]
    exact h.grown
  · rw [classAt, hc]
    exact h.classes i hi
  · rw [hs _ (hk m hm), h.signatures.noted m hm]
  · rw [hs i hi, h.signatures.others i hi hn]
  · rw [memberAt, hm]
    exact h.members i hi

end Binding.Leaves

namespace HeaderReader

open Declaring Lexer

variable {x y z : HeaderReader} {b₀ b : Binding} {base : Option ClassId} {cls : String} {h h' : Header}

namespace Besides

lemma withClass (hw : Besides b₀ base cls h) {id : ClassId} (hid : h.currentClass = some id)
    (f : ClassDef → ClassDef) {method : Option Method}
    (hm : ∀ m ∈ method, b₀.signatures.size ≤ m.signature) :
    Besides b₀ base cls { h with binding := h.binding.withClass id f, currentMethod := method } := by
  obtain ⟨id', hid', hnew⟩ := hw.opened
  obtain rfl : id' = id := Option.some.inj (hid'.symm.trans hid)
  exact ⟨⟨id', hid', hnew⟩, hm, hw.index, hw.leaves.withClass hnew f⟩

/-- A method that is opened has a signature that is new. -/
lemma startMethod (hw : Besides b₀ base cls h)
    (hk : ∀ m ∈ base.elim [] fun i => (b₀.classAt i).entries, m.signature < b₀.signatures.size)
    {id : ClassId} (hid : h.currentClass = some id) (protocol : Option String) (s : Signature)
    {method : Method} (hm : b₀.signatures.size ≤ method.signature) :
    Besides b₀ base cls { h with
      binding := (withProtocol h.binding id protocol).withSignature s
      currentMethod := some method } := by
  have hprotocol : Besides b₀ base cls { h with
      binding := withProtocol h.binding id protocol
      currentMethod := some method } := by
    have hmethod : ∀ m ∈ some method, b₀.signatures.size ≤ m.signature := by
      rintro _ ⟨⟩
      exact hm
    cases protocol with
    | none => exact ⟨hw.opened, hmethod, hw.index, hw.leaves⟩
    | some p => exact hw.withClass hid _ hmethod
  refine { hprotocol with leaves := hprotocol.leaves.withSignatures hk rfl rfl ?_ fun i hi => ?_ }
  · simp [Binding.withSignature]
  · exact Binding.signatureAt_withSignature_of_lt
      (Nat.lt_of_lt_of_le hi hprotocol.leaves.signatures.grown)

/-- The signature of the method that is open changes. -/
lemma addArgument (hw : Besides b₀ base cls h)
    (hk : ∀ m ∈ base.elim [] fun i => (b₀.classAt i).entries, m.signature < b₀.signatures.size)
    {method : Method} (hm : h.currentMethod = some method) (args : List CType) :
    Besides b₀ base cls { h with binding := withArgs h.binding method args } := by
  refine { hw with leaves := hw.leaves.withSignatures hk rfl rfl ?_ fun i hi => ?_ }
  · simp [withArgs]
  · have hne : method.signature ≠ i := Nat.ne_of_gt (Nat.lt_of_lt_of_le hi (hw.method method hm))
    simp only [Binding.signatureAt, withArgs, Array.getElem?_modify, if_neg hne]

lemma congr (hw : Besides b₀ base cls h) (hb : h'.binding = h.binding)
    (hc : h'.currentClass = h.currentClass) (hm : h'.currentMethod = h.currentMethod) :
    Besides b₀ base cls h' := by
  obtain ⟨hopened, hmethod, hindex, hleaves⟩ := hw
  exact ⟨hc ▸ hopened, hm ▸ hmethod, hb ▸ hindex, hb ▸ hleaves⟩

end Besides

/-- An action in a block leaves all else as it was. -/
lemma besides_acts {name : String} {m : Match} (hw : Besides b₀ base cls h) (hs : h.Sound)
    (hk : ∀ m ∈ base.elim [] fun i => (b₀.classAt i).entries, m.signature < b₀.signatures.size)
    (hname : name ∈ blockActions) (ha : Acts name m h h') : Besides b₀ base cls h' := by
  simp only [blockActions, List.mem_cons, List.not_mem_nil, or_false] at hname
  rcases hname with rfl | rfl | rfl | rfl | rfl | rfl | rfl | rfl
  · obtain ⟨x, y, he, rfl, rfl⟩ := ha
    cases he
    exact hw.congr rfl rfl rfl
  · obtain ⟨x, y, he, rfl, rfl⟩ := ha
    cases he
    exact hw.congr rfl rfl rfl
  · obtain ⟨x, y, he, rfl, rfl⟩ := ha
    cases he
    exact hw.congr rfl rfl rfl
  · obtain rfl : h' = h := ha
    exact hw
  · obtain ⟨x, y, he, rfl, rfl⟩ := ha
    obtain ⟨id, hid, he⟩ := opened_bind_eq_ok he
    obtain ⟨b, hadd, rfl⟩ := onBinding_eq_ok he
    rcases (Class.ends_addAttribute _ _ _ _ _ _).ok hadd with rfl | ⟨member, rfl⟩
    · exact hw.congr rfl rfl rfl
    · obtain ⟨id', hid', hnew⟩ := hw.opened
      obtain rfl : id' = id := Option.some.inj (hid'.symm.trans hid)
      exact ⟨⟨id', hid', hnew⟩, hw.method, hw.index, hw.leaves.withMember hnew member⟩
  · obtain ⟨x, y, he, rfl, rfl⟩ := ha
    rcases startMethod_eq_ok he with ⟨-, rfl⟩ | ⟨-, id, method, b, hid, hopen, rfl⟩
    · exact hw
    · obtain ⟨rfl, t, -, rfl⟩ := (ends_openMethod id _ _ _ _).ok hopen
      exact hw.startMethod hk hid _ _ hw.leaves.signatures.grown
  · obtain ⟨x, y, he, rfl, rfl⟩ := ha
    rcases addMethodArgument_eq_ok hs he with ⟨-, rfl⟩ | ⟨method, args, hm, -, rfl⟩
    · exact hw
    · exact hw.addArgument hk hm args
  · obtain ⟨x, y, he, rfl, rfl⟩ := ha
    rcases endMethod_eq_put hs he with ⟨-, rfl⟩ | ⟨method, id, hm, hid, rfl⟩
    · exact hw
    · exact hw.withClass hid _ forall_mem_none

/-- At the start of the block the class is opened, and the comments of the base are read. -/
lemma besides_startClass {m : Match} (hs : x.host.Sound) (hn : x.host.currentMethod = none)
    (he : (startClass m).effect x = (.ok (), y)) :
    Besides x.host.binding (x.host.binding.index.get? (some (trimmed m 3))) (trimmed m 2) y.host := by
  obtain ⟨id, b, hopen, rfl⟩ := startClass_eq_ok he
  obtain ⟨-, -, -, -, hnew, hindex, hinherits⟩ := (ends_openClass hs.binding _ _ _ _).ok hopen
  refine ⟨⟨id, rfl, hnew⟩, ?_, fun key hkey => ?_, hinherits.toLeaves⟩
  · rw [show (x.withHost { x.host with binding := b, currentClass := some id }).host.currentMethod =
      none from hn]
    exact forall_mem_none
  · show b.index.get? key = _
    rw [hindex, Dict.get?_insert, if_neg (by simpa using hkey)]

/-- The rest of a block, up to its end, leaves all else as it was. -/
lemma leaves_of_besides (hx : Reached x) {body : List (String × Match)} {finish : Match}
    (hk : ∀ m ∈ base.elim [] fun i => (b₀.classAt i).entries, m.signature < b₀.signatures.size)
    (hw : Besides b₀ base cls x.host) (hbody : ∀ event ∈ body, event.1 ≠ "END_CCLASS")
    (hrun : Run x (body ++ [("END_CCLASS", finish)]) z) :
    (∀ key, key ≠ some cls → z.host.binding.index.get? key = b₀.index.get? key) ∧
      b₀.Leaves base z.host.binding := by
  induction body generalizing x with
  | nil =>
    obtain ⟨y, y', -, -, -, ⟨u, v, he, hu, hv⟩, hy', hrest⟩ := Run.first hx hrun
    cases he
    have hz : z.host = { x.host with currentClass := none } := by
      rw [hrest.host_eq hy', ← hv, ← hu]
      rfl
    rw [hz]
    exact ⟨hw.index, hw.leaves⟩
  | cons event body ih =>
    obtain ⟨name, m⟩ := event
    obtain ⟨y, y', hy, hhost, hnext, hacts, hy', hrest⟩ := Run.first hx hrun
    rw [← hhost] at hw hacts
    obtain ⟨id, hid, -⟩ := hw.opened
    rcases blockActions_of_nextAction hy (by rw [hid]; rfl) hnext with hname | hname
    · exact ih hy' (besides_acts hw hy.sound hk hname hacts)
        (fun event hevent => hbody event (List.mem_cons_of_mem _ hevent)) hrest
    · exact absurd hname (hbody (name, m) List.mem_cons_self)

end HeaderReader

/-! ### All other classes -/

namespace Binding

/-- A class is as it was, with the signatures of its constructor and methods, and with its
attributes. -/
structure Untouched (b b' : Binding) (id : ClassId) : Prop where
  classDef : b'.classAt id = b.classAt id
  signatures : ∀ m ∈ (b.classAt id).entries, b'.signatureAt m.signature = b.signatureAt m.signature
  members : ∀ reader ∈ (b.classAt id).attributes, ∀ k ∈ reader.members, b'.memberAt k = b.memberAt k

/-- A class is as it was, but that the comments of its constructor and methods were read: they say which
arguments have which defaults, and what exceptions there are. -/
structure OnlyReread (b b' : Binding) (id : ClassId) : Prop where
  classDef : b'.classAt id = b.rereadClass (b.classAt id)
  signatures : ∀ m ∈ (b.classAt id).entries, b'.signatureAt m.signature = b.noted m
  members : ∀ reader ∈ (b.classAt id).attributes, ∀ k ∈ reader.members, b'.memberAt k = b.memberAt k

namespace Leaves

variable {b b' : Binding} {base : Option ClassId} {id : ClassId}

lemma onlyReread (h : b.Leaves (some id) b') (ho : b.Orderly) (hid : id < b.classes.size) :
    b.OnlyReread b' id where
  classDef := by rw [h.classes id hid, if_pos rfl]
  signatures m hm := h.signatures.noted m hm
  members reader hr k hk := h.members k (ho.listed id hid reader hr k hk)

/-- A class that shares signatures with the base sees no change, since the comments of the base were
read before. -/
lemma untouched (h : b.Leaves base b') (ho : b.Orderly) (hb : b.Sound)
    (hbase : ∀ i ∈ base, i < b.classes.size) (hid : id < b.classes.size) (hne : base ≠ some id) :
    b.Untouched b' id where
  classDef := by rw [h.classes id hid, if_neg hne]
  signatures m hm := by
    by_cases hread : m.signature ∈ (base.elim [] fun i => (b.classAt i).entries).map Method.signature
    · obtain ⟨m₀, hm₀, heq⟩ := List.mem_map.mp hread
      rw [← heq, h.signatures.noted m₀ hm₀]
      cases base with
      | none => cases hm₀
      | some i =>
        have hshared : m₀.signature ∈ (b.classAt id).entries.map Method.signature := by
          rw [heq]
          exact List.mem_map_of_mem hm
        exact ho.settled i (hbase i rfl) id hid (fun hi => hne (congrArg some hi)) m₀ hm₀ hshared
    · exact h.signatures.others _ ((hb.fit id hid).known m hm) hread
  members reader hr k hk := h.members k (ho.listed id hid reader hr k hk)

end Leaves

end Binding

namespace HeaderReader

open Lexer Binding

variable {x z : HeaderReader}

/-- The block of a class, read from its start to its end without failing, leaves what all other names
stand for as it was: the classes with their methods and attributes, and with the arguments and results of
the methods. Only the comments of the base are read. -/
theorem undisturbed_of_run (hx : Reached x) {start finish : Match} {body : List (String × Match)}
    (hrun : Run x (("CCLASS_START", start) :: body ++ [("END_CCLASS", finish)]) z)
    (hbody : ∀ event ∈ body, event.1 ≠ "END_CCLASS") {key : Option String} {id : ClassId}
    (hkey : key ≠ some (trimmed start 2)) (hid : x.host.binding.index.get? key = some id) :
    z.host.binding.index.get? key = some id ∧
      if x.host.binding.index.get? (some (trimmed start 3)) = some id then
        x.host.binding.OnlyReread z.host.binding id
      else x.host.binding.Untouched z.host.binding id := by
  obtain ⟨y, y', hy, hhost, hnext, ⟨u, v, he, hu, hv⟩, hy', hrest⟩ := Run.first hx hrun
  have hmethod := currentMethod_eq_none hy hnext (.inl rfl)
  have hsound := hx.sound.binding
  have horderly := hx.orderly
  have hu' : u.host.Sound := hu ▸ hx.sound
  rw [hhost, ← hu] at hmethod
  rw [← hu] at hid hsound horderly ⊢
  have hw := besides_startClass hu' hmethod he
  rw [hv] at hw
  have hbase : ∀ i ∈ u.host.binding.index.get? (some (trimmed start 3)),
      i < u.host.binding.classes.size := fun i hi => hsound.indexed _ i hi
  have hlt := hsound.indexed key id hid
  obtain ⟨hindex, hleaves⟩ := leaves_of_besides hy' (hsound.known_of_base hbase) hw hbody hrest
  refine ⟨(hindex key hkey).trans hid, ?_⟩
  split
  next hb =>
    rw [hb] at hleaves
    exact hleaves.onlyReread horderly hlt
  next hb => exact hleaves.untouched horderly hsound hbase hlt hb

/-- A class with a method whose comment gives a default, and two that have it as their base. The second
of those declares the method anew. -/
def threeClasses : HeaderReader :=
  fed ("CCLASS(A, Obj)// DEFAULT(n) = 3;\nint METHOD(A, run,int n);END_CCLASS" ++
    "CCLASS(S, A)END_CCLASS" ++ "CCLASS(D, A)void METHOD(D, run);END_CCLASS") unread

/-- The reader before the last of three classes. -/
def beforeLast : HeaderReader :=
  after 9 threeClasses

/-- How the three classes are read. -/
lemma goesOn_threeClasses : goesOn 9 threeClasses = true ∧ goesOn 4 beforeLast = true ∧
    (called 4 beforeLast).map Prod.fst = "CCLASS_START" :: ["METHOD_START", "METHOD_END"] ++ ["END_CCLASS"] ∧
    (called 4 beforeLast).head?.map (fun event => trimmed event.2 2) = some "D" ∧
    (called 4 beforeLast).head?.map (fun event => trimmed event.2 3) = some "A" ∧
    beforeLast.host.binding.index.get? (some "A") = some 0 ∧
    beforeLast.host.binding.index.get? (some "S") = some 1 := by
  decide +kernel

/-- The other class with the same base is untouched, though it shares the signature of the method. -/
theorem undisturbed_beforeLast :
    (called 4 beforeLast).map Prod.fst = "CCLASS_START" :: ["METHOD_START", "METHOD_END"] ++
        ["END_CCLASS"] ∧
      (after 4 beforeLast).host.binding.index.get? (some "S") = some 1 ∧
      beforeLast.host.binding.Untouched (after 4 beforeLast).host.binding 1 ∧
      beforeLast.host.binding.OnlyReread (after 4 beforeLast).host.binding 0 := by
  obtain ⟨hbefore, hgoes, hnames, hcls, hbase, hindex, hsibling⟩ := goesOn_threeClasses
  have hreached : Reached beforeLast :=
    (run_after hbefore).reached ((Reached.start started_unread).feed (effect_feed _ _))
  have hrun := run_after hgoes
  refine ⟨hnames, ?_⟩
  generalize called 4 beforeLast = events at *
  generalize after 4 beforeLast = z at *
  generalize beforeLast = x at *
  obtain ⟨front, last, rfl, hfront, hlast⟩ := List.map_eq_append_iff.mp hnames
  obtain ⟨⟨-, start⟩, body, rfl, rfl, hbody⟩ := List.map_eq_cons_iff.mp hfront
  obtain ⟨⟨-, finish⟩, rfl, rfl⟩ := List.map_eq_singleton_iff.mp hlast
  have hstart : trimmed start 2 = "D" := Option.some.inj hcls
  have hfrom : trimmed start 3 = "A" := Option.some.inj hbase
  have hinside : ∀ event ∈ body, event.1 ≠ "END_CCLASS" := by
    intro event hevent heq
    have hmem := List.mem_map_of_mem (f := Prod.fst) hevent
    rw [hbody, heq] at hmem
    simp at hmem
  have hother := undisturbed_of_run hreached hrun hinside (by rw [hstart]; decide) hsibling
  have hown := undisturbed_of_run hreached hrun hinside (by rw [hstart]; decide) hindex
  rw [hfrom, hindex, if_neg (by decide)] at hother
  rw [hfrom, hindex, if_pos rfl] at hown
  exact ⟨hother.1, hother.2, hown.2⟩

end HeaderReader

end HeaderBind
