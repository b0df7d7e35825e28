import HeaderBind.Binding.Write
import HeaderBind.Proofs.Blind

/-!
# What actions on a binding are made of

An action is composed of some changes when it looks things up, reports, and changes the binding in these
ways only. What it looks up never depends on whether reports are wanted, or on the order of the constants.
So an action that is composed of changes that leave a part of the binding alone keeps that part
(`Composed.keeps`), and one that is composed of changes for which reports do not matter is blind to reports
(`Composed.blind`).
-/

namespace HeaderBind

/-- A method apart from what writing its wrapper finds out about it. -/
def Method.asDeclared (m : Method) : Method :=
  { m with errorSet := false, exception := none }

namespace Binding

variable {α β : Type}

/-- The binding when reports are wanted, or are not. -/
def withDebug (debug : Bool) (b : Binding) : Binding :=
  { b with settings := { b.settings with debug } }

/-- The action is made of lookups, reports, and changes of certain kinds. -/
inductive Composed (U : (Binding → Binding) → Prop) : {α : Type} → Act Binding α → Prop
  | pure {α : Type} (a : α) : Composed U (Pure.pure a)
  | fail {α : Type} (f : Fault) : Composed U (Act.fail f : Act Binding α)
  | lift {α : Type} (r : Except Fault α) : Composed U (Act.lift r)
  | report (message : String) : Composed U (report message)
  | onValue {τ α : Type} (t : τ) (act : Act τ α) : Composed U (Act.onValue t act)
  | update {g : Binding → Binding} (h : U g) : Composed U (Act.update g)
  | attempt {α : Type} {act : Act Binding α} (h : Composed U act) : Composed U act.attempt
  | bind {α β : Type} {act : Act Binding α} {next : α → Act Binding β} (h : Composed U act)
    (hn : ∀ a, Composed U (next a)) : Composed U (act >>= next)
  | look {α : Type} {next : Binding → Act Binding α} (h : ∀ b, Composed U (next b))
    (hn : ∀ debug constants b, b.constants.Perm constants →
      next { b.withDebug debug with constants } = next b) : Composed U (Act.state >>= next)

namespace Composed

variable {U V : (Binding → Binding) → Prop} {act : Act Binding α}

lemma mono (h : Composed U act) (hUV : ∀ g, U g → V g) : Composed V act := by
  induction h with
  | pure a => exact .pure a
  | fail f => exact .fail f
  | lift r => exact .lift r
  | report message => exact .report message
  | onValue t act => exact .onValue t act
  | update h => exact .update (hUV _ h)
  | attempt _ ih => exact .attempt ih
  | bind _ _ ih ihn => exact .bind ih ihn
  | look _ hn ih => exact .look ih hn

/-- An action keeps what all its changes leave alone. -/
lemma keeps {γ : Type} {part : Binding → γ} (h : Composed U act) (hU : ∀ g, U g → ∀ b, part (g b) = part b) :
    act.Keeps part := by
  induction h with
  | pure a => exact .pure a
  | fail f => exact .fail f
  | lift r => exact .lift r
  | report message =>
    refine .bind .state fun b => ?_
    split
    · exact .note _
    · exact .pure _
  | onValue t act => exact fun _ => rfl
  | update h => exact .update (hU _ h)
  | attempt _ ih => exact .attempt ih
  | bind _ _ ih ihn => exact .bind ih ihn
  | look _ _ ih => exact .bind .state ih

/-- An action maintains what all its changes maintain. -/
lemma maintains {I : Binding → Prop} (h : Composed U act) (hU : ∀ g, U g → ∀ b, I b → I (g b)) :
    act.Maintains I fun _ => True := by
  induction h with
  | pure a => exact .pure trivial
  | fail f => exact .fail f
  | lift r => exact .liftAny r
  | report message =>
    refine .bind .state fun b _ => ?_
    split
    · exact .note _
    · exact .pure trivial
  | onValue t act =>
    have hkeeps : (Act.onValue t act : Act Binding _).Keeps id := fun _ => rfl
    exact hkeeps.maintains
  | update hg => exact .update (hU _ hg)
  | attempt _ ih => exact ih.attempt.mono fun _ _ => trivial
  | bind _ _ ih ihn => exact ih.bind fun a _ => ihn a
  | look _ _ ih => exact .bind .state fun b _ => ih b

/-- An action does not see a change of the binding that does not show in reports, in its lookups and in its
changes. -/
lemma blind_of {f : Binding → Binding} (h : Composed U act) (hU : ∀ g, U g → ∀ b, g (f b) = f (g b))
    (hreport : ∀ message, (Binding.report message).Blind f)
    (hlook : ∀ (b : Binding) {α : Type} (next : Binding → Act Binding α),
      (∀ debug constants b, b.constants.Perm constants → next { b.withDebug debug with constants } = next b) →
      next (f b) = next b) :
    act.Blind f := by
  induction h with
  | pure a => exact .pure a
  | fail f => exact .fail f
  | lift r => exact .lift r
  | report message => exact hreport message
  | onValue t act => exact .onValue t act
  | update h => exact .update (hU _ h)
  | attempt _ ih => exact .attempt ih
  | bind _ _ ih ihn => exact .bind ih ihn
  | look _ hn ih => exact .bind_state ih fun b => hlook b _ hn

/-- An action does not see whether reports are wanted if its changes do not. -/
lemma blind (h : Composed U act) {debug : Bool} (hU : ∀ g, U g → ∀ b, g (withDebug debug b) = withDebug debug (g b)) :
    act.Blind (withDebug debug) := by
  refine h.blind_of hU (fun message b => ?_) fun b _ next hn => hn debug b.constants b (.refl _)
  rw [Binding.report, Act.effect_bind_of_ok (Act.effect_state _), Act.effect_bind_of_ok (Act.effect_state _)]
  split <;> split <;> rfl

lemma ite {p : Prop} [Decidable p] {a b : Act Binding α} (ha : p → Composed U a) (hb : ¬ p → Composed U b) :
    Composed U (if p then a else b) := by
  split
  next h => exact ha h
  next h => exact hb h

lemma forIn {xs : List β} {step : β → PUnit → Act Binding (ForInStep PUnit)}
    (h : ∀ x ∈ xs, Composed U (step x ⟨⟩)) : Composed U (ForIn.forIn xs PUnit.unit step) := by
  induction xs with
  | nil => exact .pure _
  | cons x xs ih =>
    rw [List.forIn_cons]
    refine (h x List.mem_cons_self).bind fun r => ?_
    cases r with
    | done => exact .pure _
    | yield => exact ih fun y hy => h y (List.mem_cons_of_mem x hy)

lemma mapM {xs : List β} {f : β → Act Binding α} (h : ∀ x ∈ xs, Composed U (f x)) : Composed U (xs.mapM f) := by
  suffices hloop : ∀ done, Composed U (List.mapM.loop f xs done) from hloop []
  induction xs with
  | nil => exact fun _ => .pure _
  | cons x xs ih =>
    intro done
    refine (h x List.mem_cons_self).bind fun a => ?_
    exact ih (fun y hy => h y (List.mem_cons_of_mem x hy)) (a :: done)

lemma foldlM {xs : List β} {f : α → β → Act Binding α} (h : ∀ a, ∀ x ∈ xs, Composed U (f a x)) (a : α) :
    Composed U (xs.foldlM f a) := by
  induction xs generalizing a with
  | nil => exact .pure a
  | cons x xs ih =>
    exact (h a x List.mem_cons_self).bind fun a' => ih (fun a'' y hy => h a'' y (List.mem_cons_of_mem x hy)) a'

end Composed

/-! ### Lookups -/

section

variable {U : (Binding → Binding) → Prop}

lemma composed_method (ref : MethodRef) : Composed U (method ref) := by
  refine .look (fun b => ?_) fun _ _ _ _ => rfl
  split
  · exact .pure _
  · exact .fail _

lemma composed_signatureOf (m : Method) : Composed U (signatureOf m) :=
  .look (fun _ => .pure _) fun _ _ _ _ => rfl

lemma composed_findClass (name : Option String) : Composed U (findClass name) := by
  refine .look (fun b => ?_) fun _ _ _ _ => rfl
  split
  · exact .pure _
  · exact .fail _

lemma composed_get (id : ClassId) : Composed U (Class.get id) :=
  .look (fun _ => .pure _) fun _ _ _ _ => rfl

lemma composed_isActive (id : ClassId) : Composed U (Class.isActive id) := by
  refine .look (fun b => .ite (fun _ => .pure _) fun _ => .ite (fun _ => ?_) fun _ => .pure _) fun _ _ _ _ => rfl
  exact .bind (.lift _) fun _ => .bind (.report _) fun _ => .pure _

end

/-! ### Changes -/

/-- The change is the same whether reports are wanted or not. -/
def Steady (g : Binding → Binding) : Prop :=
  ∀ debug b, g (withDebug debug b) = withDebug debug (g b)

/-- What stands beside the declarations: the settings, the constants, and the headers that were read. -/
structure Margin where
  settings : Settings
  constants : List (String × String)
  files : List String
  includes : String

/-- What stands beside the declarations of a binding. -/
def margin (b : Binding) : Margin :=
  { b with }

/-- The binding with something else beside its declarations. -/
def withMargin (m : Margin) (b : Binding) : Binding :=
  { b with settings := m.settings, constants := m.constants, files := m.files, includes := m.includes }

lemma withDebug_eq (debug : Bool) (b : Binding) :
    withDebug debug b = withMargin { b.margin with settings := { b.margin.settings with debug } } b := rfl

/-- The change has nothing to do with what stands beside the declarations. -/
def Apart (g : Binding → Binding) : Prop :=
  ∀ m b, g (withMargin m b) = withMargin m (g b)

namespace Apart

variable {g : Binding → Binding}

lemma margin (h : Apart g) (b : Binding) : (g b).margin = b.margin := by
  have hsame : g b = withMargin b.margin (g b) := h b.margin b
  rw [hsame]
  rfl

lemma steady (h : Apart g) : Steady g := by
  intro debug b
  rw [withDebug_eq, h, ← h.margin b, ← withDebug_eq]

end Apart

/-- The change has nothing to do with what stands beside the declarations, and no function is defined. -/
structure Declares (g : Binding → Binding) : Prop where
  apart : Apart g
  defined : ∀ b, (g b).defined = b.defined

/-- What writing code changes: the code itself, types at their places of use, and what is found out about a
method on the way. -/
inductive Touch : (Binding → Binding) → Prop
  | emit (text : String) : Touch fun b => { b with out := b.out ++ text }
  | signature (id : SignatureId) (f : Signature → Signature) :
    Touch fun b => { b with signatures := b.signatures.modify id f }
  | member (id : MemberId) (f : Member → Member) : Touch fun b => { b with members := b.members.modify id f }
  | method (ref : MethodRef) {f : Method → Method} (h : ∀ m, (f m).asDeclared = m.asDeclared) :
    Touch fun b => { b with classes := b.classes.modify ref.cls fun c => c.modifyMethod ref.slot f }
  | protocols (id : ClassId) : Touch fun b => { b with
      classes := b.classes.modify id fun c => (c.addModifier (some "TP_STR")).addModifier (some "TP_EQUAL") }

/-- What announcing the functions of classes changes: methods get their proxies. -/
inductive Announce : (Binding → Binding) → Prop
  | touch {g : Binding → Binding} (h : Touch g) : Announce g
  | proxy (ref : MethodRef) (p : Proxy) : Announce fun b => { b with
      classes := b.classes.modify ref.cls fun c => c.modifyMethod ref.slot fun m => { m with proxy := some p } }

/-- What defining the functions of classes changes: some of them are noted by their names. -/
inductive Define : (Binding → Binding) → Prop
  | touch {g : Binding → Binding} (h : Touch g) : Define g
  | define (name : String) : Define fun b => { b with defined := b.defined.insert name }

lemma Touch.declares {g : Binding → Binding} (h : Touch g) : Declares g := by
  cases h <;> exact ⟨fun _ _ => rfl, fun _ => rfl⟩

lemma Announce.declares {g : Binding → Binding} (h : Announce g) : Declares g := by
  cases h with
  | touch h => exact h.declares
  | proxy ref p => exact ⟨fun _ _ => rfl, fun _ => rfl⟩

lemma Define.apart {g : Binding → Binding} (h : Define g) : Apart g := by
  cases h with
  | touch h => exact h.declares.apart
  | define name => exact fun _ _ => rfl

namespace Composed

variable {act : Act Binding α}

lemma declares (h : Composed Touch act) : Composed Declares act :=
  h.mono fun _ => Touch.declares

lemma announces (h : Composed Touch act) : Composed Announce act :=
  h.mono fun _ => .touch

lemma defines (h : Composed Touch act) : Composed Define act :=
  h.mono fun _ => .touch

lemma apart (h : Composed Declares act) : Composed Apart act :=
  h.mono fun _ => Declares.apart

lemma steady (h : Composed Apart act) : Composed Steady act :=
  h.mono fun _ => Apart.steady

end Composed

lemma composed_modifyClass (id : ClassId) (f : ClassDef → ClassDef) : Composed Declares (modifyClass id f) :=
  .update ⟨fun _ _ => rfl, fun _ => rfl⟩

lemma composed_emit (text : String) : Composed Touch (emit text) :=
  .update (.emit text)

lemma composed_modifySignature (id : SignatureId) (f : Signature → Signature) :
    Composed Touch (modifySignature id f) :=
  .update (.signature id f)

lemma composed_modifyMethod (ref : MethodRef) {f : Method → Method} (h : ∀ m, (f m).asDeclared = m.asDeclared) :
    Composed Touch (modifyMethod ref f) :=
  .update (Touch.method ref h)

lemma composed_atArgument (ref : MethodRef) (i : Nat) (act : Act CType.Site α) :
    Composed Touch (atArgument ref i act) := by
  refine .bind (composed_method ref) fun m => .bind (composed_signatureOf m) fun s => ?_
  refine .bind (.onValue _ _) fun r => .bind (composed_modifySignature _ _) fun _ => ?_
  exact .bind (composed_modifyMethod ref fun _ => rfl) fun _ => .lift _

lemma composed_atResult (ref : MethodRef) (act : Act CType.Site α) : Composed Touch (atResult ref act) := by
  refine .bind (composed_method ref) fun m => .bind (composed_signatureOf m) fun s => ?_
  refine .bind (.onValue _ _) fun r => .bind (composed_modifySignature _ _) fun _ => ?_
  exact .bind (composed_modifyMethod ref fun _ => rfl) fun _ => .lift _

lemma composed_atMember (ref : MethodRef) (id : MemberId) (act : Act CType.Site α) :
    Composed Touch (atMember ref id act) := by
  refine .bind (composed_method ref) fun m => .look (fun b => ?_) fun _ _ _ _ => rfl
  refine .bind (.onValue _ _) fun r => .bind (.update (.member _ _)) fun _ => ?_
  exact .bind (composed_modifyMethod ref fun _ => rfl) fun _ => .lift _

end Binding

end HeaderBind
