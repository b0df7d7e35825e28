import HeaderBind.Proofs.Header.Soundness

/-!
# Blocks of classes

A run of a reader is told by the actions that it calls. Those between the start of a class and its end
declare methods (`declarations`). The class that a block with a base has declared at its end is flat: it
has the methods of the base and those that were declared (`flattened_of_run`).
-/

namespace HeaderBind

open MethodDecl Declaring

/-! ### What is read of a block -/

/-- The methods of a block, as far as they were read: those that are complete, and the one that is
not. -/
structure Reading where
  done : List MethodDecl := []
  current : Option MethodDecl := none

namespace Reading

/-- What an action adds to the methods of a block. -/
def add (r : Reading) : String × Match → Reading
  | ("METHOD_START", m) =>
    { r with current := some {
        isPrivate := m.group 1 == "PRIVATE"
        returns := HeaderReader.trimmed m 2
        name := HeaderReader.trimmed m 5 } }
  | ("METHOD_ARG", m) =>
    { r with current := r.current.map fun d =>
        { d with args := d.args ++ [(HeaderReader.trimmed m 1, HeaderReader.trimmed m 2)] } }
  | ("METHOD_END", _) => { done := r.done ++ r.current.toList }
  | _ => r

end Reading

/-- The methods that the actions of a block declare. -/
def declarations (body : List (String × Match)) : List MethodDecl :=
  (body.foldl Reading.add {}).done

/-- The method that is open is the declaration that is being read. For a private one none is open. -/
def OpenAs (b : Binding) (cls : String) (id : ClassId) :
    Option MethodDecl → Option Method → Prop
  | some d, some m => d.isPrivate = false ∧ Declares b cls id d m
  | some d, none => d.isPrivate = true
  | none, some _ => False
  | none, none => True

/-- While a block is read, its class is open and has what was declared so far. -/
structure InBlock (b₀ : Binding) (base : ClassDef) (cls : String) (id : ClassId) (r : Reading)
    (h : Header) : Prop where
  opened : h.currentClass = some id
  known : h.binding.index.get? (some cls) = some id
  name : (h.binding.classAt id).name = some cls
  method : OpenAs h.binding cls id r.current h.currentMethod
  flattened : Flattened b₀ base cls id r.done h.binding

namespace InBlock

variable {b₀ b b' : Binding} {base : ClassDef} {cls : String} {id : ClassId} {r : Reading}
  {h : Header}

lemma openAs_congr {current : Option MethodDecl} {method : Option Method}
    (ho : OpenAs b cls id current method) (hr : b'.registry = b.registry)
    (hs : ∀ m ∈ method, b'.signatureAt m.signature = b.signatureAt m.signature) :
    OpenAs b' cls id current method := by
  cases current <;> cases method
  case some.some d m => exact ⟨ho.1, ho.2.congr hr (hs m rfl)⟩
  all_goals exact ho

/-- Something happens that leaves the classes as they are. -/
lemma of_core (hb : InBlock b₀ base cls id r h) (hc : b.core = h.binding.core) (comment : String) :
    InBlock b₀ base cls id r { h with binding := b, comment } := by
  have hregistry : b.registry = h.binding.registry := congrArg (fun k => k.1) hc
  have hindex : b.index = h.binding.index := congrArg (fun k => k.2.1) hc
  have hsignatures : b.signatures = h.binding.signatures := congrArg (fun k => k.2.2.1) hc
  have hclass : (b.classAt id).core = (h.binding.classAt id).core :=
    Binding.classAt_of_map (congrArg (fun k => k.2.2.2) hc) id
  have hat : ∀ s, b.signatureAt s = h.binding.signatureAt s := by
    intro s
    rw [Binding.signatureAt, hsignatures]
    rfl
  simp only [ClassDef.core, Prod.mk.injEq] at hclass
  obtain ⟨-, hname, hconstructor, hmethods, -⟩ := hclass
  refine ⟨hb.opened, ?_, hname.trans hb.name, ?_, ?_⟩
  · rw [show ({ h with binding := b, comment } : Header).binding.index = h.binding.index from hindex]
    exact hb.known
  · exact openAs_congr hb.method hregistry fun m _ => hat m.signature
  · exact hb.flattened.congr hregistry hmethods hconstructor fun m _ => hat m.signature

/-- A method that was just opened is what was declared. -/
lemma declares_openedMethod {c : ClassDef} (hc : c.name = some cls) (id : ClassId)
    (isPrivate : Bool) (doc returns name : String) {t : CType}
    (ht : ((Method.resultType (some cls) name returns).effect b).1 = .ok t)
    (hb : b'.registry = b.registry) :
    let m := openedMethod c id doc returns name b'.signatures.size
    Declares (b'.withSignature { returns := Method.resultOf m.kind t }) cls id
      { isPrivate, returns, name } m := by
  refine ⟨?_, rfl, hc, hc, rfl, ?_, t, ?_, ?_⟩
  · show (HeaderReader.methodKind c.name returns name).1 = _
    rw [hc]
  · show _ = Except.ok ((b'.withSignature _).signatureAt b'.signatures.size).args
    rw [Binding.signatureAt_withSignature_size]
    rfl
  · exact ((Method.consults_resultType _ name returns).2 (b'.withSignature _) b hb).trans ht
  · show ((b'.withSignature _).signatureAt b'.signatures.size).returns = _
    rw [Binding.signatureAt_withSignature_size]

/-- A method is opened. -/
lemma startMethod (hb : InBlock b₀ base cls id r h) (hs : h.Sound) (hc : b.core = h.binding.core)
    {m : Match} (hp : (m.group 1 == "PRIVATE") = false) {t : CType}
    (ht : ((Method.resultType (some cls) (HeaderReader.trimmed m 5)
      (HeaderReader.trimmed m 2)).effect h.binding).1 = .ok t) :
    let method := openedMethod (h.binding.classAt id) id h.comment (HeaderReader.trimmed m 2)
      (HeaderReader.trimmed m 5) h.binding.signatures.size
    InBlock b₀ base cls id (r.add ("METHOD_START", m)) { h with
      binding := b.withSignature { returns := Method.resultOf method.kind t }
      currentMethod := some method } := by
  intro method
  have hcore := hb.of_core hc h.comment
  have hsize : b.signatures.size = h.binding.signatures.size := congrArg (fun k => k.2.2.1.size) hc
  have hregistry : b.registry = h.binding.registry := congrArg (fun k => k.1) hc
  refine ⟨hb.opened, hcore.known, hcore.name, ?_, ?_⟩
  · have hdeclares := declares_openedMethod hb.name id (m.group 1 == "PRIVATE") h.comment
      (HeaderReader.trimmed m 2) (HeaderReader.trimmed m 5) ht hregistry
    rw [hsize] at hdeclares
    exact ⟨hp, hdeclares⟩
  · refine hcore.flattened.congr rfl rfl rfl fun m' hm' => ?_
    have hspares : h.binding.Spares b := .of_outline hs.binding (Binding.outline_of_core hc)
    have hid := Nat.lt_of_lt_of_le (hs.inClass id hb.opened).1 hspares.classes
    exact Binding.signatureAt_withSignature_of_lt ((hspares.sound.fit id hid).known m' hm')

/-- A private method is passed over. -/
lemma skipMethod (hb : InBlock b₀ base cls id r h) (hn : h.currentMethod = none) {m : Match}
    (hp : (m.group 1 == "PRIVATE") = true) : InBlock b₀ base cls id (r.add ("METHOD_START", m)) h := by
  refine ⟨hb.opened, hb.known, hb.name, ?_, hb.flattened⟩
  rw [hn]
  exact hp

/-- An argument for which no method is open. -/
lemma skipArgument (hb : InBlock b₀ base cls id r h) (hn : h.currentMethod = none) (m : Match) :
    InBlock b₀ base cls id (r.add ("METHOD_ARG", m)) h := by
  refine ⟨hb.opened, hb.known, hb.name, ?_, hb.flattened⟩
  have hmethod := hb.method
  rw [hn] at hmethod ⊢
  rw [Reading.add]
  cases hcurrent : r.current with
  | none => trivial
  | some d =>
    rw [hcurrent] at hmethod
    exact hmethod

/-- With one more argument a method is what was declared with that argument. -/
lemma declares_withArgs {d : MethodDecl} {m : Method} {type name : String} {args : List CType}
    (hd : Declares b cls id d m) (hs : m.signature < b.signatures.size)
    (ha : ((Method.addTo m.className m.name (b.signatureAt m.signature).args type name).effect b).1 =
      .ok args) :
    Declares (withArgs b m args) cls id { d with args := d.args ++ [(type, name)] } m := by
  have hat : (withArgs b m args).signatureAt m.signature = { b.signatureAt m.signature with args } :=
    (Binding.signatureAt_of_modify (f := fun s => { s with args }) rfl hs).1
  refine ⟨hd.kind, hd.name, hd.className, hd.definitionClass, hd.owner, ?_, ?_⟩
  · have hbefore := (Method.consults_addAllTo (some cls) d.name [] d.args).effect_eq b
    rw [hd.args] at hbefore
    rw [(Method.consults_addAllTo _ _ _ _).2 (withArgs b m args) b rfl, Method.addAllTo_concat,
      Act.effect_bind_of_ok hbefore, ← hd.className, ← hd.name, ha, hat]
  · obtain ⟨t, ht, hreturns⟩ := hd.returns
    refine ⟨t, ((Method.consults_resultType _ _ _).2 (withArgs b m args) b rfl).trans ht, ?_⟩
    rw [hat, ← hreturns]

/-- An argument is added to the method that is open. -/
lemma addArgument (hb : InBlock b₀ base cls id r h) (hs : h.Sound) {method : Method}
    (hm : h.currentMethod = some method) {m : Match} {args : List CType}
    (ha : ((Method.addTo method.className method.name (h.binding.signatureAt method.signature).args
      (HeaderReader.trimmed m 1) (HeaderReader.trimmed m 2)).effect h.binding).1 = .ok args) :
    InBlock b₀ base cls id (r.add ("METHOD_ARG", m))
      { h with binding := withArgs h.binding method args } := by
  obtain ⟨-, hfree⟩ := hs.inMethod method hm
  refine ⟨hb.opened, hb.known, hb.name, ?_, ?_⟩
  · have hmethod := hb.method
    rw [hm] at hmethod ⊢
    rw [Reading.add]
    cases hcurrent : r.current with
    | none =>
      rw [hcurrent] at hmethod
      exact hmethod.elim
    | some d =>
      rw [hcurrent] at hmethod
      exact ⟨hmethod.1, declares_withArgs hmethod.2 hfree.known ha⟩
  · -- The signature that changes is none of those of the class.
    have hat : ∀ j, j ≠ method.signature →
        (withArgs h.binding method args).signatureAt j = h.binding.signatureAt j :=
      (Binding.signatureAt_of_modify (f := fun s => { s with args }) rfl hfree.known).2
    refine hb.flattened.congr rfl rfl rfl fun m' hm' => hat _ fun heq => ?_
    have hid := (hs.inClass id hb.opened).1
    exact hfree.unused id hid (heq ▸ List.mem_map_of_mem hm')

/-- The method that is open is closed, and put into the class. -/
lemma putMethod (hb : InBlock b₀ base cls id r h) (hs : h.Sound) {method : Method}
    (hm : h.currentMethod = some method) (m : Match) :
    InBlock b₀ base cls id (r.add ("METHOD_END", m)) { h with
      binding := h.binding.withClass id (Class.putMethod · method)
      currentMethod := none } := by
  have hid := (hs.inClass id hb.opened).1
  have hclass : (h.binding.withClass id (Class.putMethod · method)).classAt id =
      Class.putMethod (h.binding.classAt id) method := Binding.classAt_withClass hid
  have hmethod := hb.method
  rw [Reading.add]
  cases hcurrent : r.current with
  | none =>
    rw [hcurrent, hm] at hmethod
    exact hmethod.elim
  | some d =>
    rw [hcurrent, hm] at hmethod
    refine ⟨hb.opened, hb.known, ?_, trivial, hb.flattened.put hid hmethod.1 hmethod.2⟩
    show ((h.binding.withClass id (Class.putMethod · method)).classAt id).name = some cls
    rw [hclass, (Class.putMethod_others _ _).2.1, hb.name]

/-- Nothing is put where no method is open. -/
lemma skipEnd (hb : InBlock b₀ base cls id r h) (hn : h.currentMethod = none) (m : Match) :
    InBlock b₀ base cls id (r.add ("METHOD_END", m)) h := by
  have hmethod := hb.method
  rw [hn] at hmethod
  rw [Reading.add]
  cases hcurrent : r.current with
  | none =>
    refine ⟨hb.opened, hb.known, hb.name, ?_, ?_⟩
    · rw [hn]
      trivial
    · rw [Option.toList_none, List.append_nil]
      exact hb.flattened
  | some d =>
    rw [hcurrent] at hmethod
    refine ⟨hb.opened, hb.known, hb.name, ?_, hb.flattened.skip hmethod⟩
    rw [hn]
    trivial

end InBlock

namespace HeaderReader

open Lexer Header.Table

variable {x y z : HeaderReader} {b₀ : Binding} {base : ClassDef} {cls : String} {id : ClassId}
  {r : Reading}

/-! ### Actions of a block -/

/-- The actions that are called while a block is read, apart from the one at its end. -/
def blockActions : List String :=
  ["CLEAR_COMMENT", "COMMENT", "COMMENT_END", "SPACE", "CCLASS_ATTRIBUTE", "METHOD_START", "METHOD_ARG",
   "METHOD_END"]

lemma inBlock_comment {f : Header → String} (hb : InBlock b₀ base cls id r x.host)
    (he : (modifyHeader fun h => { h with comment := f h }).effect x = (.ok (), y)) :
    InBlock b₀ base cls id r y.host := by
  cases he
  exact hb.of_core rfl (f x.host)

lemma inBlock_addClassAttribute {m : Match} (hb : InBlock b₀ base cls id r x.host)
    (he : (addClassAttribute m).effect x = (.ok (), y)) : InBlock b₀ base cls id r y.host := by
  obtain ⟨id', -, he⟩ := opened_bind_eq_ok he
  obtain ⟨b, hadd, rfl⟩ := onBinding_eq_ok he
  exact hb.of_core ((Class.keeps_core_addAttribute _ _ _ _ _).of_effect hadd) x.host.comment

lemma inBlock_startMethod {m : Match} (hb : InBlock b₀ base cls id r x.host) (hs : x.host.Sound)
    (hn : x.host.currentMethod = none) (he : (startMethod m).effect x = (.ok (), y)) :
    InBlock b₀ base cls id (r.add ("METHOD_START", m)) y.host := by
  rcases startMethod_eq_ok he with ⟨hp, rfl⟩ | ⟨hp, id', method, b, hid', hopen, rfl⟩
  · exact hb.skipMethod hn (beq_iff_eq.mpr hp)
  · obtain rfl : id = id' := Option.some.inj (hb.opened.symm.trans hid')
    obtain ⟨rfl, t, ht, rfl⟩ := (ends_openMethod id _ _ _ _).ok hopen
    rw [hb.name] at ht
    exact hb.startMethod hs (core_withProtocol _ _ _) (beq_false_of_ne hp) ht

lemma inBlock_addMethodArgument {m : Match} (hb : InBlock b₀ base cls id r x.host)
    (hs : x.host.Sound) (he : (addMethodArgument m).effect x = (.ok (), y)) :
    InBlock b₀ base cls id (r.add ("METHOD_ARG", m)) y.host := by
  rcases addMethodArgument_eq_ok hs he with ⟨hn, rfl⟩ | ⟨method, args, hm, ha, rfl⟩
  · exact hb.skipArgument hn m
  · exact hb.addArgument hs hm ha

lemma inBlock_endMethod (hb : InBlock b₀ base cls id r x.host) (hs : x.host.Sound)
    (he : endMethod.effect x = (.ok (), y)) (m : Match) :
    InBlock b₀ base cls id (r.add ("METHOD_END", m)) y.host := by
  rcases endMethod_eq_put hs he with ⟨hn, rfl⟩ | ⟨method, id', hm, hid', rfl⟩
  · exact hb.skipEnd hn m
  · obtain rfl : id = id' := Option.some.inj (hb.opened.symm.trans hid')
    exact hb.putMethod hs hm m

/-- What an action in a block does to the class of the block is what it declares. -/
lemma inBlock_acts {name : String} {m : Match} {h h' : Header} (hb : InBlock b₀ base cls id r h)
    (hs : h.Sound) (hname : name ∈ blockActions)
    (hstart : name = "METHOD_START" → h.currentMethod = none) (ha : Acts name m h h') :
    InBlock b₀ base cls id (r.add (name, m)) h' := by
  simp only [blockActions, List.mem_cons, List.not_mem_nil, or_false] at hname
  rcases hname with rfl | rfl | rfl | rfl | rfl | rfl | rfl | rfl
  · obtain ⟨x, y, he, rfl, rfl⟩ := ha
    exact inBlock_comment hb he
  · obtain ⟨x, y, he, rfl, rfl⟩ := ha
    exact inBlock_comment hb he
  · obtain ⟨x, y, he, rfl, rfl⟩ := ha
    exact inBlock_comment hb he
  · obtain rfl : h' = h := ha
    exact hb
  · obtain ⟨x, y, he, rfl, rfl⟩ := ha
    exact inBlock_addClassAttribute hb he
  · obtain ⟨x, y, he, rfl, rfl⟩ := ha
    exact inBlock_startMethod hb hs (hstart rfl) he
  · obtain ⟨x, y, he, rfl, rfl⟩ := ha
    exact inBlock_addMethodArgument hb hs he
  · obtain ⟨x, y, he, rfl, rfl⟩ := ha
    exact inBlock_endMethod hb hs he m

/-! ### States of a block -/

/-- While a class is open, the reader is in it, in one of its methods, or in a comment. -/
lemma Nested.mem_classStates {stack : List String} {state : String} (h : Nested stack state)
    (hc : "CCLASS" ∈ stack ++ [state]) : state ∈ ["CCLASS", "METHOD", "COMMENT"] := by
  induction h with
  | initial => simp at hc
  | @enter stack outer inner _ hn ih =>
    rw [List.mem_append, List.mem_singleton] at hc
    rcases hc with hc | rfl
    · have houter := ih hc
      rcases hn with ⟨rfl, -⟩ | hn
      · simp
      · simp only [List.mem_cons, Prod.mk.injEq, List.not_mem_nil, or_false] at hn houter
        grind
    · simp

/-- In those states only actions of a block are called, or the one at its end. -/
lemma blockActions_of_applies : ∀ r ∈ rules, ∀ name ∈ ruleAction r,
    ∀ s ∈ ["CCLASS", "METHOD", "COMMENT"], r.appliesIn s → name ∈ blockActions ∨ name = "END_CCLASS" :=
  forall_ruleAction (by decide +kernel)

/-- Classes and methods start outside of methods. -/
lemma outside_of_applies : ∀ r ∈ rules, ∀ name ∈ ruleAction r, name = "CCLASS_START" ∨ name = "METHOD_START" →
    ∀ s ∈ states, r.appliesIn s → s = "INITIAL" ∨ s = "CCLASS" :=
  forall_ruleAction (by decide +kernel)

lemma nextAction_eq_some {name : String} {m : Match} (h : x.nextAction = some (name, m)) :
    ∃ r ∈ rules, r.appliesIn x.state ∧ name ∈ ruleAction r ∧ r.pattern.match? x.ahead = some m := by
  rw [nextAction, Option.bind_eq_some_iff] at h
  obtain ⟨⟨r, m'⟩, hpick, h⟩ := h
  rw [Option.map_eq_some_iff] at h
  obtain ⟨name', hname, heq⟩ := h
  cases heq
  obtain ⟨hmem, happlies, hmatch⟩ := pick_eq_some hpick
  exact ⟨r, hmem, happlies, hname, hmatch⟩

/-- No method is open where a class or a method starts. -/
lemma currentMethod_eq_none_of_agrees (hagrees : Agrees x.stack x.state x.openings) {name : String} {m : Match}
    (h : x.nextAction = some (name, m)) (hname : name = "CCLASS_START" ∨ name = "METHOD_START") :
    x.host.currentMethod = none := by
  obtain ⟨r, hr, happlies, hmem, -⟩ := nextAction_eq_some h
  have hnot : "METHOD" ∉ x.stack ++ [x.state] := by
    have hnested := hagrees.nested
    rcases outside_of_applies r hr name hmem hname _ hnested.mem_states happlies with hs | hs
    · rw [hs] at hnested ⊢
      rw [hnested.eq_nil_of_initial]
      decide
    · rw [hs] at hnested ⊢
      rw [hnested.eq_initial (.inl rfl)]
      decide
  by_contra hsome
  exact hnot (hagrees.inMethod (Option.isSome_iff_ne_none.mpr hsome))

lemma currentMethod_eq_none (hx : Reached x) {name : String} {m : Match}
    (h : x.nextAction = some (name, m)) (hname : name = "CCLASS_START" ∨ name = "METHOD_START") :
    x.host.currentMethod = none :=
  currentMethod_eq_none_of_agrees hx.agrees h hname

lemma blockActions_of_nextAction (hx : Reached x) (hopen : x.host.currentClass.isSome)
    {name : String} {m : Match} (h : x.nextAction = some (name, m)) :
    name ∈ blockActions ∨ name = "END_CCLASS" := by
  have hagrees := hx.agrees
  have hclass : "CCLASS" ∈ x.stack ++ [x.state] := by
    rw [← hagrees.inClass]
    exact hopen
  obtain ⟨r, hr, happlies, hmem, -⟩ := nextAction_eq_some h
  exact blockActions_of_applies r hr name hmem x.state (hagrees.nested.mem_classStates hclass) happlies

/-! ### Runs -/

/-- A run of a reader in which no call fails, with the actions that are called, apart from those on the
stack. -/
inductive Run : HeaderReader → List (String × Match) → HeaderReader → Prop where
  | done (x : HeaderReader) : Run x [] x
  | feed {x y z : HeaderReader} {bytes : ByteArray} {events : List (String × Match)}
      (he : (Lexer.feed bytes).effect x = (.ok (), y)) (h : Run y events z) : Run x events z
  | next {x y z : HeaderReader} {atEnd : Bool} {token : Option String} {events : List (String × Match)}
      (he : (nextToken callbacks atEnd).effect x = (.ok token, y)) (h : Run y events z) :
      Run x (x.nextAction.toList ++ events) z

lemma host_feed {bytes : ByteArray} (h : (Lexer.feed bytes).effect x = (.ok (), y)) :
    y.host = x.host := by
  obtain ⟨text, rfl⟩ := feed_eq_ok h
  rfl

namespace Run

variable {events : List (String × Match)}

lemma reached (hx : Reached x) (h : Run x events z) : Reached z := by
  induction h with
  | done => exact hx
  | feed he _ ih => exact ih (hx.feed he)
  | next he _ ih => exact ih (hx.next he)

/-- Where no action is called, nothing happens to what is being read. -/
lemma host_eq (hx : Reached x) (h : Run x [] z) : z.host = x.host := by
  generalize hnil : [] = events at h
  induction h with
  | done => rfl
  | feed he _ ih => rw [ih (hx.feed he) hnil, host_feed he]
  | @next x y z _ _ _ he _ ih =>
    obtain ⟨hnone, hrest⟩ := List.nil_eq_append_iff.mp hnil
    have hacts := (agrees_nextToken hx.rows hx.agrees he).2
    rw [Option.toList_eq_nil_iff.mp hnone] at hacts
    rw [ih (hx.next he) hrest.symm, hacts]

/-- The first action of a run. -/
lemma first {name : String} {m : Match} (hx : Reached x) (h : Run x ((name, m) :: events) z) :
    ∃ y y', Reached y ∧ y.host = x.host ∧ y.nextAction = some (name, m) ∧
      Acts name m x.host y'.host ∧ Reached y' ∧ Run y' events z := by
  generalize hevents : (name, m) :: events = all at h
  induction h with
  | done => cases hevents
  | feed he _ ih =>
    rw [← host_feed he]
    exact ih (hx.feed he) hevents
  | @next x x' z _ _ rest he hrun ih =>
    have hacts := (agrees_nextToken hx.rows hx.agrees he).2
    cases hnext : x.nextAction with
    | none =>
      rw [hnext] at hevents hacts
      rw [← show x'.host = x.host from hacts]
      exact ih (hx.next he) hevents
    | some event =>
      rw [hnext] at hevents hacts
      obtain ⟨rfl, rfl⟩ := List.cons.inj hevents
      exact ⟨x, x', hx, rfl, hnext, hacts, hx.next he, hrun⟩

end Run

/-! ### Flat classes -/

/-- The actions of a block that are still to come declare what they do. -/
lemma flattened_of_inBlock (hx : Reached x) {body : List (String × Match)} {finish : Match}
    (hb : InBlock b₀ base cls id r x.host) (hbody : ∀ event ∈ body, event.1 ≠ "END_CCLASS")
    (h : Run x (body ++ [("END_CCLASS", finish)]) z) :
    z.host.binding.index.get? (some cls) = some id ∧
      Flattened b₀ base cls id (body.foldl Reading.add r).done z.host.binding := by
  induction body generalizing x r with
  | nil =>
    obtain ⟨y, y', -, -, -, ⟨u, v, he, hu, hv⟩, hy', hrest⟩ := Run.first hx h
    cases he
    have hz : z.host = { x.host with currentClass := none } := by
      rw [hrest.host_eq hy', ← hv, ← hu]
      rfl
    rw [hz]
    exact ⟨hb.known, hb.flattened⟩
  | cons event body ih =>
    obtain ⟨name, m⟩ := event
    obtain ⟨y, y', hy, hhost, hnext, hacts, hy', hrest⟩ := Run.first hx h
    rw [← hhost] at hb hacts
    rcases blockActions_of_nextAction hy (by rw [hb.opened]; rfl) hnext with hname | hname
    · have hb' := inBlock_acts hb hy.sound hname
        (fun hstart => currentMethod_eq_none hy hnext (.inr hstart)) hacts
      exact ih hy' hb' (fun event hevent => hbody event (List.mem_cons_of_mem _ hevent)) hrest
    · exact absurd hname (hbody (name, m) List.mem_cons_self)

/-- The class that a block opens has the heirs of the methods of the base, and is known. -/
lemma ends_openClass_of_whole {b : Binding} {baseName : String}
    (hbase : b.index.get? (some baseName) = some id) (hid : id < b.classes.size)
    (hw : (b.classAt id).Whole b.signatures.size) (doc : String) (modifier : Option String)
    (cls : String) :
    (openClass doc modifier cls baseName).Ends b
      (fun new b' => b'.index.get? (some cls) = some new ∧ (b'.classAt new).name = some cls ∧
        Flattened b (b.classAt id) cls new [] b')
      (fun _ _ => True) := by
  refine (ends_baseClass_of_whole hbase hid hw cls).bind ?_
  rintro _ b' ⟨rfl, hinherits, -, reader, -, -, ha⟩
  have hlt : b.classes.size < b'.classes.size := by
    rw [ha.size]
    exact Nat.lt_succ_self _
  have hcore := classAt_announced b' b.classes.size b.classes.size doc modifier cls
  rw [ha.new] at hcore
  simp only [ClassDef.core, Class.heirClass, Prod.mk.injEq] at hcore
  obtain ⟨-, hname, hconstructor, hmethods, -⟩ := hcore
  refine .bind_of_ok (effect_announceClass _ doc modifier cls b') (.pure ⟨?_, hname, ?_⟩)
  · -- The new class is entered under the name that it has.
    have hinsert : (announced b' b.classes.size doc modifier cls).index =
        b'.index.insert (some cls) b.classes.size := by
      rw [← hname]
      rfl
    rw [hinsert, Dict.get?_insert]
    simp
  · exact .start hw (fun m hm => hinherits.signatures.noted m hm) hmethods hconstructor

/-- At the start of a block there are the heirs of the base. -/
lemma inBlock_startClass {base : ClassId} {m : Match} (hs : x.host.Sound)
    (hn : x.host.currentMethod = none)
    (hbase : x.host.binding.index.get? (some (trimmed m 3)) = some base)
    (hkind : (x.host.binding.classAt base).kind = .class_)
    (he : (startClass m).effect x = (.ok (), y)) :
    ∃ id, InBlock x.host.binding (x.host.binding.classAt base) (trimmed m 2) id {} y.host := by
  have hid := hs.binding.indexed _ base hbase
  obtain ⟨id, b, hopen, rfl⟩ := startClass_eq_ok he
  obtain ⟨hknown, hname, hflat⟩ := (ends_openClass_of_whole hbase hid
    ((hs.binding.fit base hid).whole hkind) _ _ _).ok hopen
  refine ⟨id, rfl, hknown, hname, ?_, hflat⟩
  rw [show (x.withHost { x.host with binding := b, currentClass := some id }).host.currentMethod =
    none from hn]
  trivial

/-- A block that names a class as its base, read from its start to its end without failing, leaves its
class flat: the methods of the base as they were at the start, in their order, and then the new ones in
the order in which they were first declared. Each is the last one that was declared under its name, or
else the heir of the one of the base; and the constructor is the last one that was declared, or else the
heir of the one of the base. -/
theorem flattened_of_run (hx : Reached x) {start finish : Match} {body : List (String × Match)}
    (hrun : Run x (("CCLASS_START", start) :: body ++ [("END_CCLASS", finish)]) z)
    (hbody : ∀ event ∈ body, event.1 ≠ "END_CCLASS") {base : ClassId}
    (hbase : x.host.binding.index.get? (some (trimmed start 3)) = some base)
    (hkind : (x.host.binding.classAt base).kind = .class_) :
    ∃ id, z.host.binding.index.get? (some (trimmed start 2)) = some id ∧
      Flattened x.host.binding (x.host.binding.classAt base) (trimmed start 2) id (declarations body)
        z.host.binding := by
  obtain ⟨y, y', hy, hhost, hnext, ⟨u, v, he, hu, hv⟩, hy', hrest⟩ := Run.first hx hrun
  have hmethod := currentMethod_eq_none hy hnext (.inl rfl)
  rw [hhost, ← hu] at hmethod
  rw [← hu] at hbase hkind ⊢
  have hsound : u.host.Sound := hu ▸ hx.sound
  obtain ⟨id, hblock⟩ := inBlock_startClass hsound hmethod hbase hkind he
  rw [hv] at hblock
  exact ⟨id, flattened_of_inBlock hy' hblock hbody hrest⟩

/-! ### A block with a base -/

/-- The reader after a number of calls for a token. -/
def after : Nat → HeaderReader → HeaderReader
  | 0, x => x
  | n + 1, x => after n ((nextToken callbacks true).effect x).2

/-- The actions that a number of calls for a token call. -/
def called : Nat → HeaderReader → List (String × Match)
  | 0, _ => []
  | n + 1, x => x.nextAction.toList ++ called n ((nextToken callbacks true).effect x).2

/-- Whether a number of calls for a token do not fail. -/
def goesOn : Nat → HeaderReader → Bool
  | 0, _ => true
  | n + 1, x =>
    ((nextToken callbacks true).effect x).1.toBool && goesOn n ((nextToken callbacks true).effect x).2

lemma run_after {n : Nat} (h : goesOn n x = true) : Run x (called n x) (after n x) := by
  induction n generalizing x with
  | zero => exact .done x
  | succ n ih =>
    rw [goesOn, Bool.and_eq_true] at h
    rcases he : (nextToken callbacks true).effect x with ⟨f | token, y⟩ <;> rw [he] at h
    · cases h.1
    · rw [called, after, he]
      exact .next he (ih h.2)

/-- A class, and one that has it as its base and declares its method anew. -/
def twoClasses : HeaderReader :=
  fed ("CCLASS(A, Obj)\nint METHOD(A, foo);\nEND_CCLASS\n" ++
    "CCLASS(B, A)\nint METHOD(B, bar);\nvoid METHOD(B, foo);\nEND_CCLASS\n") unread

/-- The reader before the second class. -/
def beforeBlock : HeaderReader :=
  after 7 twoClasses

/-- How the two classes are read. -/
lemma goesOn_twoClasses : goesOn 7 twoClasses = true ∧ goesOn 9 beforeBlock = true ∧
    (called 9 beforeBlock).map Prod.fst = "CCLASS_START" :: ["SPACE", "METHOD_START", "METHOD_END",
      "SPACE", "METHOD_START", "METHOD_END", "SPACE"] ++ ["END_CCLASS"] ∧
    (called 9 beforeBlock).head?.map (fun event => trimmed event.2 3) = some "A" ∧
    beforeBlock.host.binding.index.get? (some "A") = some 0 ∧
    (beforeBlock.host.binding.classAt 0).kind = .class_ := by
  decide +kernel

theorem flattened_beforeBlock : ∃ start body finish,
    called 9 beforeBlock = ("CCLASS_START", start) :: body ++ [("END_CCLASS", finish)] ∧
      ∃ id, (after 9 beforeBlock).host.binding.index.get? (some (trimmed start 2)) = some id ∧
        Flattened beforeBlock.host.binding (beforeBlock.host.binding.classAt 0) (trimmed start 2) id
          (declarations body) (after 9 beforeBlock).host.binding := by
  obtain ⟨hbefore, hgoes, hnames, hbase, hindex, hkind⟩ := goesOn_twoClasses
  have hreached : Reached beforeBlock :=
    (run_after hbefore).reached ((Reached.start started_unread).feed (effect_feed _ _))
  obtain ⟨front, last, hcalled, hfront, hlast⟩ := List.map_eq_append_iff.mp hnames
  obtain ⟨⟨-, start⟩, body, rfl, rfl, hbody⟩ := List.map_eq_cons_iff.mp hfront
  obtain ⟨⟨-, finish⟩, rfl, rfl⟩ := List.map_eq_singleton_iff.mp hlast
  have hstart : trimmed start 3 = "A" := by
    rw [hcalled] at hbase
    exact Option.some.inj hbase
  have hrun := run_after hgoes
  rw [hcalled] at hrun
  refine ⟨start, body, finish, hcalled, flattened_of_run hreached hrun ?_ ?_ hkind⟩
  · intro event hevent heq
    have hmem := List.mem_map_of_mem (f := Prod.fst) hevent
    rw [hbody, heq] at hmem
    simp at hmem
  · rw [hstart]
    exact hindex

end HeaderReader

end HeaderBind
