import HeaderBind.Proofs.Binding.Order
import HeaderBind.Proofs.Class.Composed

/-!
# The code of classes, function by function

The code of a class is written function by function. `Emits` takes code apart into functions, each with the
text that it adds. Some functions have to do with proxies: those that define one, and those that install the
proxies of a class. Which ones there are, and in what order, follows from the binding as it was declared
(`traces_writeFunctions`, `traces_forActive`), since writing code does not change that
(`Composed.keeps_asDeclared`).
-/

namespace HeaderBind

open Binding Code Method

variable {α β : Type} {b b' k : Binding}

/-! ### What was declared -/

/-- A class apart from what writing its code finds out about it. -/
def ClassDef.asDeclared (c : ClassDef) : ClassDef :=
  { c with
    modifiers := c.modifiers.filter fun m => m == some "PRIVATE" || m == some "ABSTRACT"
    constructor := c.constructor.map Method.asDeclared
    methods := c.methods.map Method.asDeclared
    attributes := c.attributes.map Method.asDeclared }

namespace Binding

/-- A binding apart from the code that was written, and from what writing it finds out. -/
def asDeclared (b : Binding) : Binding :=
  { b with
    classes := b.classes.map ClassDef.asDeclared
    signatures := #[]
    members := #[]
    defined := []
    out := "" }

/-- The method at a place. -/
def method? (b : Binding) (ref : MethodRef) : Option Method :=
  (b.classAt ref.cls).method? ref.slot

lemma classAt_asDeclared (b : Binding) (id : ClassId) :
    b.asDeclared.classAt id = (b.classAt id).asDeclared := by
  rw [classAt, classAt, asDeclared, Array.getElem?_map]
  cases b.classes[id]? <;> rfl

lemma method?_asDeclared (b : Binding) (ref : MethodRef) :
    b.asDeclared.method? ref = (b.method? ref).map Method.asDeclared := by
  rw [method?, method?, classAt_asDeclared]
  cases ref.slot with
  | constructor => rfl
  | attributes => rfl
  | method i => exact List.getElem?_map

lemma active_asDeclared (b : Binding) (id : ClassId) : b.asDeclared.active id = b.active id := by
  rw [active, active, classAt_asDeclared]
  simp only [ClassDef.asDeclared, ClassDef.hasModifier, asDeclared, List.contains_eq_mem, List.mem_filter]
  simp

lemma asDeclared_withClass {f : ClassDef → ClassDef} (h : ∀ c, (f c).asDeclared = c.asDeclared) (b : Binding)
    (id : ClassId) : (b.withClass id f).asDeclared = b.asDeclared := by
  rw [asDeclared, map_withClass h]
  rfl

end Binding

lemma ClassDef.asDeclared_modifyMethod {f : Method → Method} (h : ∀ m, (f m).asDeclared = m.asDeclared)
    (c : ClassDef) (slot : MethodSlot) : (c.modifyMethod slot f).asDeclared = c.asDeclared := by
  have hsame : Method.asDeclared ∘ f = Method.asDeclared := funext h
  cases slot with
  | constructor => simp only [asDeclared, modifyMethod, Option.map_map, hsame]
  | attributes => simp only [asDeclared, modifyMethod, Option.map_map, hsame]
  | method i => simp only [asDeclared, modifyMethod, map_modify_of_eq h]

lemma ClassDef.asDeclared_addModifier {p : String} (hp : p ≠ "PRIVATE" ∧ p ≠ "ABSTRACT") (c : ClassDef) :
    (c.addModifier (some p)).asDeclared = c.asDeclared := by
  simp only [asDeclared, addModifier, List.insert]
  split
  · rfl
  · simp [hp.1, hp.2]

namespace Binding

variable {g : Binding → Binding}

/-- Code is only added. -/
lemma Touch.grows (h : Touch g) (b : Binding) : ∃ text, (g b).out = b.out ++ text := by
  cases h with
  | emit text => exact ⟨text, rfl⟩
  | signature | member | method | protocols => exact ⟨"", String.append_empty.symm⟩

lemma Announce.grows (h : Announce g) (b : Binding) : ∃ text, (g b).out = b.out ++ text := by
  cases h with
  | touch h => exact h.grows b
  | proxy ref p => exact ⟨"", String.append_empty.symm⟩

lemma Define.grows (h : Define g) (b : Binding) : ∃ text, (g b).out = b.out ++ text := by
  cases h with
  | touch h => exact h.grows b
  | define name => exact ⟨"", String.append_empty.symm⟩

end Binding

namespace Binding.Composed

variable {act : Act Binding α}

/-- Writing code does not change what was declared. -/
lemma keeps_asDeclared (h : Composed Define act) : act.Keeps asDeclared := by
  refine h.keeps fun g hg b => ?_
  cases hg with
  | define name => rfl
  | touch hg =>
    cases hg with
    | emit text => rfl
    | signature id f => rfl
    | member id f => rfl
    | method ref hf => exact asDeclared_withClass (fun c => c.asDeclared_modifyMethod hf ref.slot) b ref.cls
    | protocols id =>
      refine asDeclared_withClass (fun c => ?_) b id
      rw [ClassDef.asDeclared_addModifier (by decide), ClassDef.asDeclared_addModifier (by decide)]

/-- An action adds to the code what its changes add. -/
lemma grows {U : (Binding → Binding) → Prop} (h : Composed U act)
    (hU : ∀ g, U g → ∀ b, ∃ text, (g b).out = b.out ++ text) (b : Binding) :
    ∃ text, (act.effect b).2.out = b.out ++ text := by
  have hsame (b : Binding) : ∃ text, b.out = b.out ++ text := ⟨"", String.append_empty.symm⟩
  induction h generalizing b with
  | pure a => exact hsame b
  | fail f => exact hsame b
  | lift r => exact hsame b
  | report message =>
    rw [effect_report]
    exact hsame b
  | onValue t act => exact hsame b
  | update hg => exact hU _ hg b
  | attempt _ ih => exact ih b
  | bind _ _ ih ihn =>
    rw [Act.effect_bind]
    obtain ⟨text, htext⟩ := ih b
    split
    next a b₁ he =>
      obtain ⟨text', htext'⟩ := ihn a b₁
      rw [he] at htext
      exact ⟨text ++ text', by rw [htext', htext, String.append_assoc]⟩
    next f b₁ he =>
      rw [he] at htext
      exact ⟨text, htext⟩
  | look _ _ ih =>
    rw [Act.effect_bind_of_ok (Act.effect_state b)]
    exact ih b b

lemma grows_of_define (h : Composed Define act) (b : Binding) : ∃ text, (act.effect b).2.out = b.out ++ text :=
  h.grows (fun _ hg => hg.grows) b

end Binding.Composed

/-! ### Functions -/

/-- A function in the code of a class. -/
inductive Function where
  | destructor (m : Method)
  | installer (m : Method)
  | init (ref : MethodRef)
  | emptyInit (cls : String)
  | structInit (cls : String)
  | enumInit (m : Method)
  | call (ref : MethodRef)
  | iter (m : Method)
  | lookup (ref : MethodRef)
  | getter (ref : MethodRef) (id : MemberId)
  | proxy (p : Proxy)

/-- What a function has to do with proxies: it installs those of the class of a constructor, or it defines
one. -/
inductive Role where
  | installs (m : Method)
  | defines (p : Proxy)

namespace Function

/-- Write a function. -/
def write : Function → Act Binding Unit
  | destructor m => m.writeDestructor
  | installer m => m.writeInitializeProxies
  | init ref => writeInit ref
  | emptyInit cls => writeEmptyConstructor cls
  | structInit cls => writeStructConstructor cls
  | enumInit m => m.writeEnumConstructor
  | call ref => writeCallFunction ref
  | iter m => m.writeIterFunction
  | lookup ref => writeLookup ref
  | getter ref id => writeGetter ref id
  | proxy p => p.writeDefinition

/-- What the function has to do with proxies, if anything. -/
def role : Function → Option Role
  | installer m => some (.installs m.asDeclared)
  | proxy p => some (.defines p)
  | destructor _ | init _ | emptyInit _ | structInit _ | enumInit _ | call _ | iter _ | lookup _
  | getter _ _ => none

/-- The methods that a function is written for were declared, with the names that it is written with. -/
def From (k : Binding) : Function → Prop
  | destructor m | installer m | iter m => ∃ ref, k.method? ref = some m.asDeclared
  | emptyInit cls | structInit cls => ∃ ref m, k.method? ref = some m ∧ m.className = some cls
  | lookup ref => ∃ m, k.method? ref = some m ∧ m.kind = .attributes
  | init _ | enumInit _ | call _ | getter _ _ | proxy _ => True

/-- A function that has nothing to do with proxies is not noted. -/
lemma composed_touch {f : Function} (h : f.role = none) : Composed Touch f.write := by
  cases f with
  | installer m => cases h
  | proxy p => cases h
  | destructor m => exact composed_writeDestructor m
  | init ref => exact composed_writeInit ref
  | emptyInit cls => exact composed_emit _
  | structInit cls => exact composed_emit _
  | enumInit m => exact composed_writeEnumConstructor m
  | call ref => exact composed_writeCallFunction ref
  | iter m => exact composed_writeIterFunction m
  | lookup ref => exact composed_writeLookup ref
  | getter ref id => exact composed_writeGetter ref id

lemma composed_write (f : Function) : Composed Define f.write := by
  cases f with
  | installer m => exact composed_writeInitializeProxies m
  | proxy p => exact Proxy.composed_writeDefinition p
  | _ => exact (composed_touch rfl).defines

end Function

/-! ### One function after another -/

/-- A function that was written: the binding before, and the text that was added. -/
structure Emission where
  before : Binding
  function : Function
  text : String

/-- Functions are written one after another, some with a comment above. -/
inductive Emits : Binding → List Emission → Binding → Prop
  | done (b : Binding) : Emits b [] b
  | comment {b b₁ b₂ : Binding} {es : List Emission} {m : Method} {title : String}
    (h : (m.writeBanner title).effect b = (.ok (), b₁)) (rest : Emits b₁ es b₂) : Emits b es b₂
  | function {b b₁ b₂ : Binding} {es : List Emission} {f : Function} {text : String}
    (h : f.write.effect b = (.ok (), b₁)) (hout : b₁.out = b.out ++ text) (rest : Emits b₁ es b₂) :
    Emits b (⟨b, f, text⟩ :: es) b₂

lemma Emits.append {b₁ b₂ : Binding} {es es' : List Emission} (h : Emits b es b₁) (h' : Emits b₁ es' b₂) :
    Emits b (es ++ es') b₂ := by
  induction h with
  | done => exact h'
  | comment hc _ ih => exact .comment hc (ih h')
  | function hf hout _ ih => exact .function hf hout (ih h')

/-- What functions have to do with proxies, in order. -/
def trace (es : List Emission) : List Role :=
  es.filterMap fun e => e.function.role

lemma trace_append (es es' : List Emission) : trace (es ++ es') = trace es ++ trace es' :=
  List.filterMap_append

/-- From a binding as it was declared the action writes functions for what was declared, with what they have
to do with proxies. -/
def Traces (k : Binding) (act : Act Binding α) (Q : α → Prop) (roles : List Role) : Prop :=
  ∀ b, b.asDeclared = k → act.Ends b
    (fun a b' => Q a ∧ b'.asDeclared = k ∧
      ∃ es, Emits b es b' ∧ (∀ e ∈ es, e.function.From k) ∧ trace es = roles)
    fun _ _ => True

namespace Traces

variable {act : Act Binding α} {Q : α → Prop} {roles roles' : List Role}

lemma pure {a : α} (h : Q a) : Traces k (Pure.pure a) Q [] :=
  fun b hb => .pure ⟨h, hb, [], .done b, fun _ he => absurd he List.not_mem_nil, rfl⟩

lemma fail (f : Fault) : Traces k (Act.fail f) Q roles :=
  fun _ _ => trivial

lemma fail_bind (f : Fault) (next : β → Act Binding α) : Traces k (Act.fail f >>= next) Q roles :=
  fun _ _ => trivial

lemma ite {p : Prop} [Decidable p] {a c : Act Binding α} (ha : p → Traces k a Q roles)
    (hc : ¬ p → Traces k c Q roles) : Traces k (if p then a else c) Q roles := by
  split
  next h => exact ha h
  next h => exact hc h

lemma bind {next : α → Act Binding β} {R : β → Prop} (h : Traces k act Q roles)
    (hn : ∀ a, Q a → Traces k (next a) R roles') : Traces k (act >>= next) R (roles ++ roles') := by
  intro b hb
  refine (h b hb).bind fun a b₁ ha => ?_
  obtain ⟨hq, hb₁, es, hes, hfrom, htrace⟩ := ha
  refine (hn a hq b₁ hb₁).mono (fun c b₂ hc => ?_) fun _ _ _ => trivial
  obtain ⟨hr, hb₂, es', hes', hfrom', htrace'⟩ := hc
  refine ⟨hr, hb₂, es ++ es', hes.append hes', List.forall_mem_append.mpr ⟨hfrom, hfrom'⟩, ?_⟩
  rw [trace_append, htrace, htrace']

/-- What comes first has nothing to do with proxies. -/
lemma andThen {next : α → Act Binding β} {R : β → Prop} (h : Traces k act Q [])
    (hn : ∀ a, Q a → Traces k (next a) R roles) : Traces k (act >>= next) R roles :=
  h.bind hn

/-- What comes last has nothing to do with proxies. -/
lemma before {next : α → Act Binding β} {R : β → Prop} (h : Traces k act Q roles)
    (hn : ∀ a, Q a → Traces k (next a) R []) : Traces k (act >>= next) R roles := by
  have hboth := h.bind hn
  rwa [List.append_nil] at hboth

/-- Looking something up writes nothing. -/
lemma of_keeps (hk : act.Keeps id)
    (h : ∀ b a, b.asDeclared = k → act.effect b = (.ok a, b) → Q a) : Traces k act Q [] := by
  intro b hb
  rcases he : act.effect b with ⟨f | a, b₁⟩
  · exact .of_error he trivial
  · obtain rfl : b₁ = b := hk.of_effect he
    exact .of_ok he ⟨h _ a hb he, hb, [], .done _, fun _ h => absurd h List.not_mem_nil, rfl⟩

lemma look (hk : act.Keeps id) : Traces k act (fun _ => True) [] :=
  of_keeps hk fun _ _ _ _ => trivial

lemma function {f : Function} (hf : f.From k) : Traces k f.write (fun _ => True) f.role.toList := by
  intro b hb
  have hdeclared := f.composed_write.keeps_asDeclared
  obtain ⟨text, hout⟩ := f.composed_write.grows_of_define b
  rcases he : f.write.effect b with ⟨f | _, b₁⟩ <;> rw [he] at hout
  · exact .of_error he trivial
  · refine .of_ok he ⟨trivial, (hdeclared.of_effect he).trans hb, [⟨b, f, text⟩], .function he hout (.done _), ?_, ?_⟩
    · rintro _ hmem
      rw [List.mem_singleton.mp hmem]
      exact hf
    · cases hrole : f.role <;> simp [trace, hrole]

lemma comment (m : Method) (title : String) : Traces k (m.writeBanner title) (fun _ => True) [] := by
  intro b hb
  have hdeclared := (composed_writeBanner m title).defines.keeps_asDeclared
  rcases he : (m.writeBanner title).effect b with ⟨f | _, b₁⟩
  · exact .of_error he trivial
  · exact .of_ok he ⟨trivial, (hdeclared.of_effect he).trans hb, [], .comment he (.done _),
      fun _ h => absurd h List.not_mem_nil, rfl⟩

lemma forIn {xs : List β} {step : β → PUnit → Act Binding (ForInStep PUnit)} {roles : β → List Role}
    (h : ∀ x ∈ xs, Traces k (step x ⟨⟩) (fun r => r = .yield ⟨⟩) (roles x)) :
    Traces k (ForIn.forIn xs PUnit.unit step) (fun _ => True) (xs.flatMap roles) := by
  induction xs with
  | nil => exact .pure trivial
  | cons x xs ih =>
    rw [List.forIn_cons, List.flatMap_cons]
    refine (h x List.mem_cons_self).bind ?_
    rintro _ rfl
    exact ih fun y hy => h y (List.mem_cons_of_mem x hy)

/-- A loop in which nothing has to do with proxies. -/
lemma forIn_nil {xs : List β} {step : β → PUnit → Act Binding (ForInStep PUnit)}
    (h : ∀ x ∈ xs, Traces k (step x ⟨⟩) (fun r => r = .yield ⟨⟩) []) :
    Traces k (ForIn.forIn xs PUnit.unit step) (fun _ => True) [] := by
  have hloop := forIn h
  rwa [List.flatMap_eq_nil_iff.mpr fun _ _ => rfl] at hloop

lemma method (ref : MethodRef) :
    Traces k (Binding.method ref) (fun m => k.method? ref = some m.asDeclared) [] := by
  refine of_keeps (.bind .state fun b => ?_) ?_
  · split
    · exact .pure _
    · exact .fail _
  · rintro b m rfl he
    rw [method?_asDeclared, method?]
    rw [Binding.method, Act.effect_bind_of_ok (Act.effect_state b)] at he
    split at he
    next m' hm =>
      cases he
      rw [hm]
      rfl
    next => cases he

lemma need (name : Option String) : Traces k (Binding.need name) (fun t => name = some t) [] := by
  refine of_keeps (.lift _) fun b t _ he => ?_
  cases name with
  | none => cases he
  | some s =>
    cases he
    rfl

lemma isActive (id : ClassId) : Traces k (Class.isActive id) (fun r => r = k.active id) [] := by
  refine of_keeps (Class.keeps_isActive id) ?_
  rintro b r rfl he
  rw [active_asDeclared]
  by_cases hname : (b.classAt id).name = none
  · -- Without a name a class is active, or the lookup fails.
    rw [Class.isActive, Act.effect_bind_of_ok (Act.effect_state b)] at he
    simp only [hname, Option.any_none, Bool.false_eq_true, if_false] at he
    split at he
    · cases he
    next hactive =>
      cases he
      rw [active, hname, Option.any_none, Bool.false_or]
      simpa using hactive
  · rw [effect_isActive hname] at he
    cases he
    rfl

end Traces

/-! ### The functions of a class -/

/-- A constructor that is declared installs proxies. -/
def Method.installer (m : Method) : List Role :=
  if m.kind = .constructor then [.installs m] else []

/-- What the functions of a method have to do with proxies. -/
def Method.roles (m : Method) : List Role :=
  m.installer ++ m.proxy.toList.map .defines

/-- What the functions of a class have to do with proxies. -/
def ClassDef.roles (c : ClassDef) : List Role :=
  c.constructor.toList.flatMap Method.installer ++
    (c.attributes.toList.flatMap Method.installer ++ c.methods.flatMap Method.roles)

lemma traces_writeReader {ref : MethodRef} {m : Method} (hm : k.method? ref = some m)
    (hkind : m.kind = .attributes) : Traces k (Method.writeReader ref) (fun _ => True) [] := by
  have hgetters : Traces k (writeGetters ref) (fun _ => True) [] := by
    refine .andThen (.method ref) fun m _ => .andThen (.look ?_) fun members _ => ?_
    · exact .bind .state fun _ => .pure _
    · refine .before (.forIn_nil fun x _ => ?_) fun _ _ => .pure trivial
      exact .andThen (.function (f := .getter ref x.1) trivial) fun _ _ => .pure rfl
  refine .andThen (.method ref) fun _ _ => ?_
  split
  · exact .pure trivial
  · exact .andThen (.function (f := .lookup ref) ⟨m, hm, hkind⟩) fun _ _ => hgetters

lemma traces_define (k : Binding) (ref : MethodRef) :
    Traces k (Method.define ref) (fun _ => True) ((k.method? ref).toList.flatMap Method.installer) := by
  have hnone {m : Method} (hm : k.method? ref = some m) (hk : m.kind ≠ .constructor) :
      (k.method? ref).toList.flatMap Method.installer = [] := by
    simp [hm, Method.installer, hk]
  have hcall : Traces k (writeCall ref) (fun _ => True) [] :=
    .andThen (.method ref) fun m _ => .andThen (.comment m _) fun _ _ => .function (f := .call ref) trivial
  refine .andThen (.method ref) fun m hm => .ite (fun _ => .fail_bind _ _) fun _ => ?_
  have hkind : m.asDeclared.kind = m.kind := rfl
  split
  next h =>
    rw [hnone hm (by rw [hkind, h]; decide)]
    exact hcall
  next h =>
    rw [hnone hm (by rw [hkind, h]; decide)]
    exact hcall
  next h =>
    rw [hnone hm (by rw [hkind, h]; decide)]
    exact .andThen (.comment m _) fun _ _ => .function (f := .iter m) ⟨ref, hm⟩
  next h =>
    refine .andThen (.method ref) fun m' hm' => ?_
    have heq : m.asDeclared = m'.asDeclared := Option.some.inj (hm.symm.trans hm')
    have hinstalls : (k.method? ref).toList.flatMap Method.installer = [.installs m'.asDeclared] := by
      rw [hm']
      simp [Method.installer, ← heq, hkind, h]
    rw [hinstalls]
    exact .before (.function (f := .installer m') ⟨ref, hm'⟩) fun _ _ => .function (f := .init ref) trivial
  next h =>
    rw [hnone hm (by rw [hkind, h]; decide)]
    exact .andThen (.need _) fun cls hcls => .function (f := .emptyInit cls) ⟨ref, _, hm, hcls⟩
  next h =>
    rw [hnone hm (by rw [hkind, h]; decide)]
    exact .andThen (.need _) fun cls hcls => .function (f := .structInit cls) ⟨ref, _, hm, hcls⟩
  next h =>
    rw [hnone hm (by rw [hkind, h]; decide)]
    exact .function (f := .enumInit m) trivial
  next h =>
    rw [hnone hm (by rw [hkind, h]; decide)]
    exact traces_writeReader hm h

lemma flatMap_getElem? (f : α → List β) (xs : List α) :
    ((List.range xs.length).flatMap fun i => xs[i]?.toList.flatMap f) = xs.flatMap f := by
  induction xs with
  | nil => rfl
  | cons x xs ih =>
    rw [List.length_cons, List.range_succ_eq_map, List.flatMap_cons, List.flatMap_map, List.flatMap_cons, ← ih]
    simp

namespace Traces

/-- A loop over the methods of a class. -/
lemma forMethods {c : ClassDef} {id : ClassId} {step : MethodRef → PUnit → Act Binding (ForInStep PUnit)}
    (hc : c.asDeclared = k.classAt id)
    (h : ∀ ref, Traces k (step ref ⟨⟩) (fun r => r = .yield ⟨⟩) ((k.method? ref).toList.flatMap Method.roles)) :
    Traces k (ForIn.forIn (Class.methodRefs id c) PUnit.unit step) (fun _ => True)
      ((k.classAt id).methods.flatMap Method.roles) := by
  have hrefs : (k.classAt id).methods.flatMap Method.roles =
      (Class.methodRefs id c).flatMap fun ref => (k.method? ref).toList.flatMap Method.roles := by
    rw [← flatMap_getElem?, Class.methodRefs, List.flatMap_map, ← hc, ClassDef.asDeclared, List.length_map]
    simp only [method?, ← hc]
    rfl
  rw [hrefs]
  exact .forIn fun ref _ => h ref

/-- A method is defined, and then its proxy. -/
lemma defineThen {Q : α → Prop} {next : Method → Act Binding α} (ref : MethodRef)
    (h : ∀ m : Method, Traces k (next m) Q (m.proxy.toList.map .defines)) :
    Traces k (do define ref; next (← Binding.method ref)) Q ((k.method? ref).toList.flatMap Method.roles) := by
  have hroles : (k.method? ref).toList.flatMap Method.roles = (k.method? ref).toList.flatMap Method.installer ++
      (k.method? ref).toList.flatMap fun m => m.proxy.toList.map .defines := by
    cases k.method? ref <;> simp [Method.roles]
  rw [hroles]
  refine .bind (traces_define k ref) fun _ _ => .andThen (.method ref) fun m hm => ?_
  rw [hm, Option.toList_some, List.flatMap_singleton]
  exact h m

end Traces

lemma traces_writeFunctions (k : Binding) (id : ClassId) :
    Traces k (Class.writeFunctions id) (fun _ => True) (k.classAt id).roles := by
  have hget : Traces k (Class.get id) (fun c => c.asDeclared = k.classAt id) [] := by
    refine .of_keeps (.bind .state fun _ => .pure _) ?_
    rintro b _ rfl ⟨⟩
    rw [classAt_asDeclared]
  refine .andThen hget fun c hc => ?_
  split
  next m hm =>
    have hconstructor : k.method? ⟨id, .constructor⟩ = some m.asDeclared := by
      rw [method?, ← hc, ClassDef.method?, ClassDef.asDeclared, hm]
      rfl
    refine .andThen (.function (f := .destructor m) ⟨_, hconstructor⟩) fun _ _ => ?_
    refine .bind (traces_define k ⟨id, .constructor⟩) fun _ _ => ?_
    refine .ite (fun _ => .bind (traces_define k ⟨id, .attributes⟩) fun _ _ => ?_) fun ha => ?_
    on_goal 2 =>
      have hnone : (k.classAt id).attributes = none := by
        rw [← hc, ClassDef.asDeclared, Option.map_eq_none_iff]
        simpa using ha
      rw [hnone, Option.toList_none, List.flatMap_nil, List.nil_append]
    all_goals
      refine .before (.forMethods hc fun ref => .defineThen ref fun m => ?_) fun _ _ => .pure trivial
      split
      next p hp =>
        rw [hp]
        exact .before (.function (f := .proxy p) trivial) fun _ _ => .pure rfl
      next hp =>
        rw [hp]
        exact .pure rfl
  next => exact .andThen (.need _) fun _ _ => .fail _

/-- What the functions of the classes for which code is written have to do with proxies. -/
def Binding.roles (b : Binding) : List Role :=
  (b.index.values.filter b.active).flatMap fun id => (b.classAt id).roles

end HeaderBind
