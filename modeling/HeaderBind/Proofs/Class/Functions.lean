import HeaderBind.Proofs.Class.Trace
import HeaderBind.Proofs.Header.Flattening
import HeaderBind.Proofs.Header.Tidiness
import HeaderBind.Proofs.Method.Getters

/-!
# Every jump has its label

The code of a class is written function by function. A function that jumps to its clean-up defines the
label of the clean-up, with one exception: the getters of single characters and of objects jump to a label
that they do not define. `Produced` are the bindings that come from reading headers and writing classes.
-/

namespace HeaderBind

open Binding Code Method HeaderReader Lexer

variable {α β : Type} {s : Settings} {b b' : Binding}

/-! ### Functions -/

namespace Function

/-- The names that a function is written with are names, and attributes are looked up by a reader. -/
def Fits : Function → Prop
  | destructor m | installer m | iter m => m.Tidy
  | emptyInit cls | structInit cls => IsName cls
  | lookup ref => ref.slot = .attributes
  | init _ | enumInit _ | call _ | getter _ _ | proxy _ => True

/-- The function reads an attribute of a kind for which the label is forgotten. -/
def LacksLabel (b : Binding) : Function → Prop
  | getter _ id => (memberKind id b).jumpsOnRead = true
  | _ => False

/-- Every function that fits is labelled, but for those that lack the label. -/
lemma labelled_iff (hs : s.Named) {f : Function} (hf : f.Fits) (hb : b.Tidy s)
    (h : f.write.effect b = (.ok (), b')) :
    b'.Tidy s ∧ ∃ text, b'.out = b.out ++ text ∧ (Labelled text ↔ ¬ f.LacksLabel b) := by
  have hstart : Wrote s b.out (· = "") b := .start hb rfl
  have hlabelled : ∀ {act : Act Binding Unit}, act.Brings (Wrote s b.out (· = "")) (Wrote s b.out Labelled) →
      act.effect b = (.ok (), b') → b'.Tidy s ∧ ∃ text, b'.out = b.out ++ text ∧ (Labelled text ↔ ¬ False) :=
    fun hact he => ((hact b hstart).ok he).mono fun _ ht => iff_of_true ht not_false
  have hexit : ∀ {act : Act Binding Unit}, act.Brings (Wrote s b.out fun _ => True) (Wrote s b.out Defines) →
      act.Brings (Wrote s b.out (· = "")) (Wrote s b.out Labelled) :=
    fun hact => hact.mono (fun _ h => h.mono fun _ _ => trivial) fun _ h => h.mono fun _ ht _ => ht
  have hquiet : ∀ {act : Act Binding Unit}, act.Maintains (Wrote s b.out Calm) (fun _ => True) →
      act.Brings (Wrote s b.out (· = "")) (Wrote s b.out Labelled) :=
    fun hact => hact.brings.mono (fun _ h => h.mono fun _ ht => ht ▸ calm_empty) fun _ h =>
      h.mono fun _ ht => ht.labelled
  cases f with
  | destructor m => exact hlabelled (hquiet (maintains_writeDestructor hs hf)) h
  | installer m => exact hlabelled (hquiet (maintains_writeInitializeProxies hf)) h
  | init ref => exact hlabelled (hexit (brings_writeInit ref)) h
  | emptyInit cls => exact hlabelled (hquiet (maintains_writeEmptyConstructor hf)) h
  | structInit cls => exact hlabelled (hquiet (maintains_writeStructConstructor hf)) h
  | enumInit m => exact hlabelled (hexit (brings_writeEnumConstructor m)) h
  | call ref => exact hlabelled (hexit (brings_writeCallFunction ref)) h
  | iter m => exact hlabelled (hquiet (maintains_writeIterFunction hf)) h
  | lookup ref => exact hlabelled (hexit (brings_writeLookup hf)) h
  | getter ref id =>
    have hgetter := (brings_labelled_writeGetter hs ref id (memberKind id b) b ⟨hstart, rfl⟩).ok h
    refine hgetter.mono fun _ ht => ?_
    rw [ht, LacksLabel, Bool.not_eq_true]
  | proxy p => exact hlabelled (Proxy.brings_writeDefinition p) h

end Function

/-! ### One function after another -/

/-- The function is labelled unless it is of the kind that lacks the label. -/
def Emission.Right (e : Emission) : Prop :=
  Labelled e.text ↔ ¬ e.function.LacksLabel e.before

/-- A function that is written is labelled unless it is of the kind that lacks the label. -/
lemma exists_emission (hs : s.Named) {f : Function} (hf : f.Fits) (hb : b.Tidy s)
    (h : f.write.effect b = (.ok (), b')) :
    b'.Tidy s ∧ ∃ e : Emission, e.before = b ∧ e.function = f ∧ e.Right ∧ Emits b [e] b' := by
  obtain ⟨hb', text, hout, hright⟩ := f.labelled_iff hs hf hb h
  exact ⟨hb', ⟨b, f, text⟩, rfl, rfl, hright, .function h hout (.done _)⟩

/-- The action writes functions, each with its label where it has to have one. -/
def Lists (s : Settings) (act : Act Binding α) (Q : α → Prop) : Prop :=
  ∀ b, b.Tidy s → act.Ends b (fun a b' => (b'.Tidy s ∧ ∃ es, Emits b es b' ∧ ∀ e ∈ es, e.Right) ∧ Q a)
    fun _ _ => True

lemma Lists.function (hs : s.Named) {f : Function} (hf : f.Fits) : Lists s f.write fun _ => True := by
  intro b hb
  rcases he : f.write.effect b with ⟨f | _, b₁⟩
  · exact .of_error he trivial
  · obtain ⟨hb₁, e, -, -, hright, hes⟩ := exists_emission hs hf hb he
    exact .of_ok he ⟨⟨hb₁, [e], hes, fun _ he => List.mem_singleton.mp he ▸ hright⟩, trivial⟩

lemma maintains_writeBanner (m : Method) (title : String) :
    (m.writeBanner title).Maintains (Tidy s) fun _ => True := by
  have hkeeps : m.comment.Keeps id := .bind (keeps_signatureOf m) fun _ => .bind (.lift _) fun _ =>
    .bind (.lift _) fun _ => .bind (.lift _) fun _ => .pure _
  exact .andThen hkeeps.maintains fun _ => .update fun _ hb => hb.congr rfl rfl rfl

/-- In a tidy binding, functions fit that are written for what was declared. -/
lemma Function.From.fits {f : Function} (h : f.From b.asDeclared) (hb : b.Tidy s) : f.Fits := by
  have htidy {ref : MethodRef} {m : Method} (hm : b.asDeclared.method? ref = some m) :
      m.Tidy ∧ (ref.slot ≠ .attributes → m.kind ≠ .attributes) := by
    rw [method?_asDeclared, Option.map_eq_some_iff] at hm
    obtain ⟨m', hm', rfl⟩ := hm
    obtain ⟨hm', -, hkind⟩ := (hb.classes ref.cls).method hm'
    exact ⟨⟨hm'.name, hm'.className, hm'.definitionClass, hm'.proxy⟩, hkind⟩
  have hmethod {m : Method} (hm : ∃ ref, b.asDeclared.method? ref = some m.asDeclared) : m.Tidy := by
    obtain ⟨ref, hm⟩ := hm
    obtain ⟨hm, -⟩ := htidy hm
    exact ⟨hm.name, hm.className, hm.definitionClass, hm.proxy⟩
  have hclass {cls : String} (hm : ∃ ref m, b.asDeclared.method? ref = some m ∧ m.className = some cls) :
      IsName cls := by
    obtain ⟨ref, m, hm, hcls⟩ := hm
    exact (htidy hm).1.className cls hcls
  cases f with
  | destructor m => exact hmethod h
  | installer m => exact hmethod h
  | iter m => exact hmethod h
  | emptyInit cls => exact hclass h
  | structInit cls => exact hclass h
  | lookup ref =>
    -- Only the reader of attributes reads attributes.
    obtain ⟨m, hm, hkind⟩ := h
    by_contra hne
    exact (htidy hm).2 hne hkind
  | init ref => trivial
  | enumInit m => trivial
  | call ref => trivial
  | getter ref id => trivial
  | proxy p => trivial

lemma Emits.right (hs : s.Named) {es : List Emission} (h : Emits b es b') (hb : b.Tidy s)
    (hf : ∀ e ∈ es, e.function.From b.asDeclared) : b'.Tidy s ∧ ∀ e ∈ es, e.Right := by
  induction h with
  | done => exact ⟨hb, fun _ he => absurd he List.not_mem_nil⟩
  | @comment b _ _ _ m title h _ ih =>
    have hdeclared := (composed_writeBanner m title).defines.keeps_asDeclared.of_effect h
    exact ih ((maintains_writeBanner m title).of_effect hb h).1 fun e he => hdeclared ▸ hf e he
  | @function b _ _ _ f _ h hout _ ih =>
    have hdeclared := f.composed_write.keeps_asDeclared.of_effect h
    have hfits := (hf _ List.mem_cons_self).fits hb
    obtain ⟨hb₁, text, htext, hright⟩ := f.labelled_iff hs hfits hb h
    obtain ⟨hb₂, hrest⟩ := ih hb₁ fun e he => hdeclared ▸ hf e (List.mem_cons_of_mem _ he)
    refine ⟨hb₂, List.forall_mem_cons.mpr ⟨?_, hrest⟩⟩
    obtain rfl := (String.append_right_inj _).mp (hout.symm.trans htext)
    exact hright

lemma Lists.of_traces (hs : s.Named) {act : Act Binding α} {Q : α → Prop} {roles : Binding → List Role}
    (h : ∀ k, Traces k act Q (roles k)) : Lists s act Q := by
  refine fun b hb => (h _ b rfl).mono ?_ fun _ _ _ => trivial
  rintro a b' ⟨hq, -, es, hes, hfrom, -⟩
  obtain ⟨hb', hright⟩ := hes.right hs hb hfrom
  exact ⟨⟨hb', es, hes, hright⟩, hq⟩

/-! ### The code of a class -/

lemma lists_define (hs : s.Named) (ref : MethodRef) : Lists s (Method.define ref) fun _ => True :=
  .of_traces hs fun k => traces_define k ref

lemma lists_writeFunctions (hs : s.Named) (id : ClassId) : Lists s (Class.writeFunctions id) fun _ => True :=
  .of_traces hs fun k => traces_writeFunctions k id

/-! ### Announcing functions -/

section

variable {I : Binding → Prop} (hI : Growing s I)

include hI

lemma maintains_announce (m : Method) : m.announce.Maintains I fun _ => True := by
  have hemit := hI.maintains_emit
  refine .ite (fun _ => .fail _) fun _ => .ite (fun _ => ?_) fun _ => ?_
  · refine .ite (fun _ => .pure trivial) fun _ => .andThen (.liftAny _) fun _ => ?_
    refine .andThen (hemit _) fun _ => .andThen (.bind .state fun _ _ => .pure trivial) fun _ => ?_
    exact .andThen (.forIn fun _ _ => .andThen (hemit _) fun _ => .pure trivial) fun _ => .pure trivial
  · refine .andThen (keeps_head m).maintains fun _ => .andThen (hemit _) fun _ => ?_
    refine .ite (fun _ => ?_) fun _ => hemit _
    exact .andThen (.liftAny _) fun _ => hemit _

lemma maintains_announceMethod (ref : MethodRef) :
    (Class.announceMethod ref).Maintains I fun _ => True := by
  refine .bind (maintains_method hI.tidy ref) fun m _ => .andThen (maintains_announce hI m) fun _ => ?_
  refine .ite (fun _ => ?_) fun _ => .pure trivial
  refine .andThen (maintains_makeProxy hI.toLasting ref) fun _ => ?_
  refine .bind (maintains_method hI.tidy ref) fun m _ => ?_
  split
  · exact .andThen (Proxy.maintains_writeHead hI _) fun _ => hI.maintains_emit _
  · exact .pure trivial

lemma maintains_writePrototypes (id : ClassId) : (Class.writePrototypes id).Maintains I fun _ => True := by
  have hemit := hI.maintains_emit
  refine .andThen (.bind .state fun _ _ => .pure trivial) fun c => .andThen (.liftAny _) fun cls => ?_
  have hmethods : (do
      for ref in Class.methodRefs id c do
        Class.announceMethod ref : Act Binding Unit).Maintains I fun _ => True :=
    .andThen (.forIn fun ref _ => .andThen (maintains_announceMethod hI ref) fun _ => .pure trivial)
      fun _ => .pure trivial
  refine .andThen (hemit _) fun _ => .bind (maintains_method hI.tidy _) fun m _ => ?_
  refine .andThen (maintains_announce hI m) fun _ => .andThen (hemit _) fun _ => ?_
  split
  · exact .andThen (maintains_announce hI _) fun _ => hmethods
  · exact hmethods

end

/-! ### Bindings from headers -/

/-- The bindings that reading headers leads to, and then preparing classes, announcing and defining their
functions, and writing anything else in between. -/
inductive Produced : Binding → Prop
  | read {x : HeaderReader} (h : HeaderReader.Reached x) (hs : x.host.binding.settings.Named) :
    Produced x.host.binding
  | prepare {b b' : Binding} {id : ClassId} (h : Produced b)
    (he : (Class.prepare id).effect b = (.ok (), b')) : Produced b'
  | announce {b b' : Binding} {id : ClassId} (h : Produced b)
    (he : (Class.writePrototypes id).effect b = (.ok (), b')) : Produced b'
  | define {b b' : Binding} {id : ClassId} (h : Produced b)
    (he : (Class.writeFunctions id).effect b = (.ok (), b')) : Produced b'
  | emit {b : Binding} (h : Produced b) (text : String) : Produced { b with out := b.out ++ text }

lemma Produced.tidy (h : Produced b) : ∃ s : Settings, s.Named ∧ b.Tidy s := by
  induction h with
  | read h hs => exact ⟨_, hs, h.tidy.binding⟩
  | prepare _ he ih =>
    obtain ⟨s, hs, hb⟩ := ih
    exact ⟨s, hs, ((Class.maintains_prepare (lasting_tidy s) _).of_effect hb he).1⟩
  | announce _ he ih =>
    obtain ⟨s, hs, hb⟩ := ih
    have hI : Growing s (Tidy s) := ⟨lasting_tidy s, fun _ _ hb => hb.congr rfl rfl rfl⟩
    exact ⟨s, hs, ((maintains_writePrototypes hI _).of_effect hb he).1⟩
  | define _ he ih =>
    obtain ⟨s, hs, hb⟩ := ih
    exact ⟨s, hs, ((lists_writeFunctions hs _ _ hb).ok he).1.1⟩
  | emit _ text ih =>
    obtain ⟨s, hs, hb⟩ := ih
    exact ⟨s, hs, hb.congr rfl rfl rfl⟩

/-! ### The getter of a single attribute -/

/-- A binding apart from the code that was written so far. -/
def Binding.silent (b : Binding) : Binding :=
  { b with out := "" }

lemma keeps_silent_emit (text : String) : (emit text).Keeps silent :=
  .update fun _ => rfl

lemma keeps_silent_writeDestructor (m : Method) : m.writeDestructor.Keeps silent := by
  refine .bind (.lift _) fun cls => .bind .state fun b => ?_
  dsimp only
  split
  · exact keeps_silent_emit _
  · exact keeps_silent_emit _
  · exact keeps_silent_emit _
  · exact keeps_silent_emit _
  · exact .fail _

lemma keeps_silent_writeLookup (ref : MethodRef) : (writeLookup ref).Keeps silent := by
  have hemit := keeps_silent_emit
  have hmethod : (Binding.method ref).Keeps silent := by
    refine .bind .state fun b => ?_
    split
    · exact .pure _
    · exact .fail _
  have hbuiltIns (m : Method) : m.writeBuiltIns.Keeps silent := by
    refine .bind (hemit _) fun _ => .bind (.bind .state fun _ => .pure _) fun xs => ?_
    refine .bind (.forIn fun x _ => .bind (hemit _) fun _ => .pure _) fun _ => ?_
    exact .bind (.lift _) fun _ => hemit _
  refine .bind hmethod fun m => .bind (.lift _) fun cls => .bind (hemit _) fun _ => ?_
  refine .bind (hbuiltIns m) fun _ => .bind (hemit _) fun _ => .ite (fun _ => ?_) fun _ => hemit _
  exact .bind (keeps_errorCondition m).of_id fun _ => .bind (hemit _) fun _ => hemit _

section

variable {ref : MethodRef} {m : Method}

lemma effect_method_of_silent (ref : MethodRef) {b₁ : Binding} (hb : b₁.silent = b.silent)
    (hm : (b.classAt ref.cls).method? ref.slot = some m) : (Binding.method ref).effect b₁ = (.ok m, b₁) := by
  have hclass : b₁.classAt ref.cls = b.classAt ref.cls := congrArg (fun b => b.classAt ref.cls) hb
  rw [Binding.method, Act.effect_bind_of_ok (Act.effect_state _), hclass, hm]
  rfl

lemma silent_define_of_empty (hm : (Binding.method ref).effect b = (.ok m, b))
    (hkind : m.kind = .emptyConstructor) (h : (define ref).effect b = (.ok (), b')) : b'.silent = b.silent := by
  rw [define, Act.effect_bind_of_ok hm] at h
  dsimp only at h
  rw [hkind] at h
  split at h
  · cases h
  · have hkeeps : (do writeEmptyConstructor (← need m.className) : Act Binding Unit).Keeps silent :=
      .bind (.lift _) fun _ => keeps_silent_emit _
    exact hkeeps.of_effect h

lemma define_eq_ok_of_reader (hm : (Binding.method ref).effect b = (.ok m, b)) (hkind : m.kind = .attributes)
    (h : (define ref).effect b = (.ok (), b')) : (writeReader ref).effect b = (.ok (), b') := by
  rw [define, Act.effect_bind_of_ok hm] at h
  dsimp only at h
  rw [hkind] at h
  split at h
  · cases h
  · exact h

/-- The getter of a single attribute is written after the function that looks attributes up. -/
lemma writeReader_eq_ok (ref : MethodRef) {x : MemberId}
    (hm : (b.classAt ref.cls).method? ref.slot = some m)
    (hname : m.name.isEmpty = false) (hmembers : m.members = [x])
    (hactive : b.registry.isActive (some (b.memberAt x).ctype.type) = true)
    (h : (writeReader ref).effect b = (.ok (), b')) :
    ∃ b₁, (writeLookup ref).effect b = (.ok (), b₁) ∧ b₁.silent = b.silent ∧
      (writeGetter ref x).effect b₁ = (.ok (), b') := by
  rw [writeReader, Act.effect_bind_of_ok (effect_method_of_silent ref rfl hm), hname] at h
  obtain ⟨_, b₁, h₁, h⟩ := Act.effect_bind_eq_ok.mp h
  have hb₁ : b₁.silent = b.silent := (keeps_silent_writeLookup ref).of_effect h₁
  have hexposed : m.exposedMembers.effect b₁ = (.ok [(x, b₁.memberAt x)], b₁) := by
    have hactive₁ : b₁.registry.isActive (some (b₁.memberAt x).ctype.type) = true :=
      (congrArg (fun b => b.registry.isActive (some (b.memberAt x).ctype.type)) hb₁).trans hactive
    rw [exposedMembers, Act.effect_bind_of_ok (Act.effect_state _)]
    simp [hmembers, hactive₁]
  rw [writeGetters, Act.effect_bind_of_ok (effect_method_of_silent ref hb₁ hm), Act.effect_bind_of_ok hexposed,
    List.forIn_cons] at h
  obtain ⟨_, b₂, h₂, h⟩ := Act.effect_bind_eq_ok.mp h
  obtain ⟨r, b₃, h₃, h₂⟩ := Act.effect_bind_eq_ok.mp h₂
  obtain ⟨_, b₄, h₄, h₃⟩ := Act.effect_bind_eq_ok.mp h₃
  cases h₃
  cases h₂
  cases h
  exact ⟨b₁, h₁, hb₁, h₄⟩

end

/-- A class with one attribute, no method and no constructor of its own: the getter of the attribute is among
its functions. -/
lemma exists_getter (hs : s.Named) (hb : b.Tidy s) {id : ClassId} {m r : Method} {x : MemberId}
    (hm : (b.classAt id).constructor = some m) (hmkind : m.kind = .emptyConstructor)
    (hr : (b.classAt id).attributes = some r) (hrkind : r.kind = .attributes) (hname : r.name.isEmpty = false)
    (hmembers : r.members = [x]) (hactive : b.registry.isActive (some (b.memberAt x).ctype.type) = true)
    (hmethods : (b.classAt id).methods = []) (h : (Class.writeFunctions id).effect b = (.ok (), b')) :
    ∃ es, Emits b es b' ∧ ∃ e ∈ es, e.Right ∧ e.function = .getter ⟨id, .attributes⟩ x ∧
      memberKind x e.before = memberKind x b := by
  have hget : (Class.get id).effect b = (.ok (b.classAt id), b) := rfl
  have htidy := ((hb.classes id).entries m (List.mem_append_left _ (Option.mem_toList.mpr hm))).1
  rw [Class.writeFunctions, Act.effect_bind_of_ok hget] at h
  simp only [hm, hr, hmethods, Class.methodRefs, Option.isSome_some, if_true, List.length_nil, List.range_zero,
    List.map_nil, List.forIn_nil] at h
  obtain ⟨_, b₁, h₁, h⟩ := Act.effect_bind_eq_ok.mp h
  have hb₁ : b₁.silent = b.silent := (keeps_silent_writeDestructor m).of_effect h₁
  obtain ⟨⟨htidy₁, es₁, hes₁, -⟩, -⟩ := (Lists.function (f := .destructor m) hs htidy b hb).ok h₁
  obtain ⟨_, b₂, h₂, h⟩ := Act.effect_bind_eq_ok.mp h
  have hb₂ : b₂.silent = b.silent :=
    (silent_define_of_empty (effect_method_of_silent ⟨id, .constructor⟩ hb₁ hm) hmkind h₂).trans hb₁
  obtain ⟨⟨htidy₂, es₂, hes₂, -⟩, -⟩ := (lists_define hs _ b₁ htidy₁).ok h₂
  obtain ⟨_, b₃, h₃, h⟩ := Act.effect_bind_eq_ok.mp h
  cases h
  have hclass₂ : b₂.classAt id = b.classAt id := congrArg (fun b => b.classAt id) hb₂
  have hactive₂ : b₂.registry.isActive (some (b₂.memberAt x).ctype.type) = true :=
    (congrArg (fun b => b.registry.isActive (some (b.memberAt x).ctype.type)) hb₂).trans hactive
  have hr₂ : (b₂.classAt id).attributes = some r := by
    rw [hclass₂, hr]
  obtain ⟨b₃, hlookup, hb₃, hgetter⟩ := writeReader_eq_ok ⟨id, .attributes⟩ hr₂ hname hmembers hactive₂
    (define_eq_ok_of_reader (effect_method_of_silent ⟨id, .attributes⟩ hb₂ hr) hrkind h₃)
  obtain ⟨⟨htidy₃, es₃, hes₃, -⟩, -⟩ :=
    (Lists.function (f := .lookup ⟨id, .attributes⟩) hs rfl b₂ htidy₂).ok hlookup
  obtain ⟨-, e, hbefore, hfunction, hright, hes₄⟩ :=
    exists_emission (f := .getter ⟨id, .attributes⟩ x) hs trivial htidy₃ hgetter
  refine ⟨_, hes₁.append (hes₂.append (hes₃.append hes₄)), e, ?_, hright, hfunction, ?_⟩
  · simp
  · rw [hbefore]
    have hkind : memberKind x b₃.silent = memberKind x b.silent := by
      rw [hb₃, hb₂]
    exact hkind

/-- A class with an attribute that is a single character. -/
def charClass : HeaderReader :=
  fed "CCLASS(A, Obj)\nchar c;\nEND_CCLASS\n" unread

/-- The reader after the class. -/
def afterCharClass : HeaderReader :=
  after 5 charClass

lemma produced_charClass : Produced afterCharClass.host.binding := by
  obtain ⟨hgoes, hfree, hincref⟩ : goesOn 5 charClass = true ∧
      afterCharClass.host.binding.settings.free = "aff4_free" ∧
      afterCharClass.host.binding.settings.incref = "aff4_incref" := by
    decide +kernel
  have hreached : Reached afterCharClass :=
    (run_after hgoes).reached ((Reached.start started_unread).feed (effect_feed _ _))
  refine .read hreached ⟨?_, ?_⟩
  · rw [hfree]
    unfold IsName
    decide
  · rw [hincref]
    unfold IsName
    decide

/-! ### The code of a class of a module -/

/-- The code that is written for a class of a module is one function after another. Each function that
jumps to its clean-up defines the label of the clean-up, but for the getters of attributes that are single
characters or objects: these jump, and there is no label. -/
theorem labelled_iff_of_writeFunctions {id : ClassId} (hb : Produced b)
    (h : (Class.writeFunctions id).effect b = (.ok (), b')) :
    ∃ es, Emits b es b' ∧ ∀ e ∈ es, (Labelled e.text ↔ ¬ e.function.LacksLabel e.before) := by
  obtain ⟨s, hs, htidy⟩ := hb.tidy
  obtain ⟨⟨-, es, hes, hright⟩, -⟩ := (lists_writeFunctions hs id b htidy).ok h
  exact ⟨es, hes, hright⟩

theorem labelled_iff_charClass : Produced afterCharClass.host.binding ∧
    ∃ b', (Class.writeFunctions 0).effect afterCharClass.host.binding = (.ok (), b') ∧
      ∃ es, Emits afterCharClass.host.binding es b' ∧
        ∀ e ∈ es, (Labelled e.text ↔ ¬ e.function.LacksLabel e.before) := by
  have hok : ((Class.writeFunctions 0).effect afterCharClass.host.binding).1.toBool = true := by
    decide +kernel
  refine ⟨produced_charClass, ?_⟩
  rcases he : (Class.writeFunctions 0).effect afterCharClass.host.binding with ⟨f | _, b'⟩ <;> rw [he] at hok
  · cases hok
  · exact ⟨b', rfl, labelled_iff_of_writeFunctions produced_charClass he⟩

/-- The getter of the attribute jumps to its clean-up and has no label for it. -/
theorem not_labelled_charClass : Produced afterCharClass.host.binding ∧
    ∃ b', (Class.writeFunctions 0).effect afterCharClass.host.binding = (.ok (), b') ∧
      ∃ es, Emits afterCharClass.host.binding es b' ∧ ∃ e ∈ es, Jumps e.text ∧ ¬ Defines e.text := by
  refine ⟨produced_charClass, ?_⟩
  obtain ⟨s, hs, htidy⟩ := produced_charClass.tidy
  obtain ⟨hok, hmethods, hactive, hjumps, hm, hr⟩ :
      ((Class.writeFunctions 0).effect afterCharClass.host.binding).1.toBool = true ∧
      (afterCharClass.host.binding.classAt 0).methods.length = 0 ∧
      afterCharClass.host.binding.registry.isActive
        (some (afterCharClass.host.binding.memberAt 0).ctype.type) = true ∧
      (memberKind 0 afterCharClass.host.binding).jumpsOnRead = true ∧
      (afterCharClass.host.binding.classAt 0).constructor.map (·.kind) = some .emptyConstructor ∧
      (afterCharClass.host.binding.classAt 0).attributes.map (fun r => (r.kind, r.name.isEmpty, r.members)) =
        some (.attributes, false, [0]) := by
    decide +kernel
  generalize afterCharClass.host.binding = b at *
  obtain ⟨m, hm, hmkind⟩ := Option.map_eq_some_iff.mp hm
  obtain ⟨r, hr, hreader⟩ := Option.map_eq_some_iff.mp hr
  simp only [Prod.mk.injEq] at hreader
  obtain ⟨hrkind, hname, hmembers⟩ := hreader
  rcases he : (Class.writeFunctions 0).effect b with ⟨f | _, b'⟩ <;> rw [he] at hok
  · cases hok
  · obtain ⟨es, hes, e, hmem, hright, hfunction, hkind⟩ :=
      exists_getter hs htidy hm hmkind hr hrkind hname hmembers hactive (List.eq_nil_of_length_eq_zero hmethods) he
    have hlacks : e.function.LacksLabel e.before := by
      rw [hfunction, Function.LacksLabel, hkind]
      exact hjumps
    have hnot : ¬ Labelled e.text := fun hl => hright.mp hl hlacks
    rw [Labelled, Classical.not_imp] at hnot
    exact ⟨b', rfl, es, hes, e, hmem, hnot⟩

end HeaderBind
