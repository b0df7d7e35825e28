import HeaderBind.Method.Declare
import HeaderBind.Proofs.Act

/-!
# Looking up the types of a method

The types of the arguments and of the result are looked up in the registry. Looking them up changes
nothing, and what is found depends on the registry only (`Consults`). A result that cannot be looked up
is never taken for a base class that is not known (`uncaught_resultType`).
-/

namespace HeaderBind

/-! ### Consulting the registry -/

lemma Binding.effect_report (message : String) (b : Binding) :
    (report message).effect b = (.ok (), b) := by
  rw [report, Act.effect_bind_of_ok (Act.effect_state b)]
  split <;> rfl

/-- The action changes nothing, and its result depends on the registry only. -/
def Consults {α : Type} (act : Act Binding α) : Prop :=
  (∀ b, (act.effect b).2 = b) ∧
    ∀ b b', b.registry = b'.registry → (act.effect b).1 = (act.effect b').1

namespace Consults

variable {α β : Type} {act : Act Binding α}

lemma effect_eq (h : Consults act) (b : Binding) : act.effect b = ((act.effect b).1, b) :=
  Prod.ext rfl (h.1 b)

lemma pure (a : α) : Consults (Pure.pure a) := ⟨fun _ => rfl, fun _ _ _ => rfl⟩

lemma fail (f : Fault) : Consults (Act.fail f : Act Binding α) := ⟨fun _ => rfl, fun _ _ _ => rfl⟩

lemma lift (r : Except Fault α) : Consults (Act.lift r) := ⟨fun _ => rfl, fun _ _ _ => rfl⟩

lemma report (message : String) : Consults (Binding.report message) :=
  ⟨fun b => by rw [Binding.effect_report], fun b b' _ => by simp only [Binding.effect_report]⟩

lemma bind {next : α → Act Binding β} (h : Consults act) (hn : ∀ a, Consults (next a)) :
    Consults (act >>= next) := by
  constructor
  · intro b
    rw [Act.effect_bind, h.effect_eq b]
    rcases (act.effect b).1 with f | a
    · rfl
    · exact (hn a).1 b
  · intro b b' hb
    rw [Act.effect_bind, Act.effect_bind, h.effect_eq b, h.effect_eq b', h.2 b b' hb]
    rcases (act.effect b').1 with f | a
    · rfl
    · exact (hn a).2 b b' hb

/-- An action that begins by looking at the registry. -/
lemma state {next : Binding → Act Binding α} (h : ∀ b, Consults (next b))
    (hr : ∀ b b', b.registry = b'.registry → next b = next b') : Consults (Act.state >>= next) := by
  constructor
  · intro b
    rw [Act.effect_bind_of_ok (Act.effect_state b)]
    exact (h b).1 b
  · intro b b' hb
    rw [Act.effect_bind_of_ok (Act.effect_state b), Act.effect_bind_of_ok (Act.effect_state b'),
      hr b b' hb]
    exact (h b').2 b b' hb

end Consults

namespace Method

lemma consults_argumentType (className : Option String) (method type name : String) :
    Consults (argumentType className method type name) := by
  refine .state (fun b => ?_) fun b b' hb => by rw [hb]
  dsimp only
  split
  on_goal 1 => refine .bind (.report _) fun _ => ?_
  all_goals
    split
    · exact .bind (.lift _) fun _ => .pure _
    · exact .bind (.lift _) fun _ => .bind (.report _) fun _ => .pure _

lemma consults_addTo (className : Option String) (method : String) (args : List CType)
    (type name : String) : Consults (addTo className method args type name) := by
  refine .bind (consults_argumentType _ _ _ _) fun found => ?_
  split
  · exact .pure _
  · exact .lift _

lemma consults_addAllTo (className : Option String) (method : String) (args : List CType)
    (declared : List (String × String)) : Consults (addAllTo className method args declared) := by
  induction declared generalizing args with
  | nil => exact .pure _
  | cons d declared ih => exact .bind (consults_addTo _ _ _ _ _) ih

/-- One more argument is added after the others. -/
lemma addAllTo_concat (className : Option String) (method : String) (args : List CType)
    (declared : List (String × String)) (type name : String) (b : Binding) :
    (addAllTo className method args (declared ++ [(type, name)])).effect b =
      (addAllTo className method args declared >>= fun args =>
        addTo className method args type name).effect b := by
  induction declared generalizing args b with
  | nil =>
    rw [List.nil_append, addAllTo, addAllTo, Act.effect_bind_of_ok (Act.effect_pure args b),
      Act.effect_bind]
    rcases (addTo className method args type name).effect b with ⟨f | args', b'⟩ <;> rfl
  | cons d declared ih =>
    obtain ⟨type', name'⟩ := d
    rw [List.cons_append, addAllTo, addAllTo, Act.effect_bind, Act.effect_bind, Act.effect_bind]
    rcases (addTo className method args type' name').effect b with ⟨f | args', b'⟩
    · rfl
    · dsimp only
      rw [ih, Act.effect_bind]

lemma consults_resultType (className : Option String) (method returns : String) :
    Consults (resultType className method returns) := by
  refine .state (fun b => ?_) fun b b' hb => by rw [hb]
  dsimp only
  split
  · exact .pure _
  · split
    · exact .bind (.lift _) fun _ => .bind (.report _) fun _ => .lift _
    · exact .lift _
  · exact .fail _

end Method

/-! ### Faults -/

/-- Whether a class of its own is opened after the fault, instead of one that inherits. -/
def Fault.isCaught : Fault → Bool
  | .missingKey _ | .noSuchPart => true
  | _ => false

/-- A fault that the result is, if it is one, is as stated. -/
def Faults {α : Type} (P : Fault → Prop) (r : Except Fault α) : Prop :=
  ∀ f, r = .error f → P f

namespace Faults

variable {α β : Type} {P P' : Fault → Prop} {r : Except Fault α}

lemma ok (a : α) : Faults P (.ok a) := fun _ h => nomatch h

lemma error {f : Fault} (h : P f) : Faults P (.error f : Except Fault α) := by
  rintro _ ⟨⟩
  exact h

lemma bind {next : α → Except Fault β} (h : Faults P r) (hn : ∀ a, Faults P (next a)) :
    Faults P (r >>= next) := by
  cases r with
  | error f => exact error (h f rfl)
  | ok a => exact hn a

lemma mono (h : Faults P r) (hp : ∀ f, P f → P' f) : Faults P' r := fun f hf => hp f (h f hf)

end Faults

/-- The result is no fault that is caught. -/
abbrev Uncaught {α : Type} (r : Except Fault α) : Prop := Faults (fun f => f.isCaught = false) r

namespace CType

lemma uncaught_takeParameter (name : String) (args : List Datum) (named : List (String × Datum)) :
    Uncaught (takeParameter name args named) := by
  unfold takeParameter
  split <;> split
  · exact .error rfl
  · exact .ok _
  · exact .ok _
  · exact .error rfl

lemma uncaught_bareType (type : String) : Uncaught (bareType type) := by
  unfold bareType
  split
  · exact .error rfl
  · exact .ok _

lemma uncaught_storageType (kind : Kind) (type : String) : Uncaught (storageType kind type) := by
  unfold storageType
  split
  case h_4 => exact uncaught_bareType type
  all_goals exact .ok _

lemma uncaught_declaredOf (kind : Kind) (type : String) : Uncaught (declaredOf kind type) := by
  unfold declaredOf
  split
  case h_9 => exact .bind (uncaught_bareType type) fun _ => .ok _
  case h_10 => exact .bind (uncaught_bareType type) fun _ => .ok _
  all_goals exact .ok _

lemma uncaught_make (kind : Kind) (name type : String) (args : List Datum)
    (named : List (String × Datum)) : Uncaught (CType.make kind name type args named) := by
  have hrest : ∀ length lengthType extra, Uncaught (do
      return {
        kind, name, length, lengthType, extra
        type := ← storageType kind type
        declared := ← declaredOf kind type
        sense := senseOf kind
        interface := interfaceOf kind
        errorValue := errorValueOf kind } : Except Fault CType) :=
    fun _ _ _ => .bind (uncaught_storageType kind type) fun _ =>
      .bind (uncaught_declaredOf kind type) fun _ => .ok _
  unfold CType.make
  dsimp only
  split
  · exact .error rfl
  · split
    · exact .bind (uncaught_takeParameter _ _ _) fun _ =>
        .bind (uncaught_takeParameter _ _ _) fun _ => hrest _ _ _
    · exact hrest _ _ _

end CType

/-- A type that is used is not found, or not made. -/
lemma Registry.faults_resolve (r : Registry) (name type : String) (args : List Datum)
    (named : List (String × Datum)) :
    Faults (fun f => f ≠ .noSuchPart) (r.resolve name type args named) := by
  have hmake : ∀ kind type args named,
      Faults (fun f => f ≠ .noSuchPart) (CType.make kind name type args named) := by
    intro kind type args named
    refine (CType.uncaught_make kind name type args named).mono ?_
    rintro _ hf rfl
    cases hf
  have hkind : ∀ type, Faults (fun f => f ≠ .noSuchPart) (r.kindOf type) := by
    intro type
    unfold kindOf
    split
    · exact .ok _
    · exact .error (by simp)
  have hselect : Faults (fun f => f ≠ .noSuchPart) (r.select type) := by
    unfold select
    split
    · exact .error (by simp)
    · exact .bind (hkind _) fun _ => .ok _
  unfold resolve
  dsimp only
  split
  · exact .error (by simp)
  · split
    · exact hmake _ _ _ _
    · exact .bind hselect fun _ => .bind (hmake _ _ _ _) fun _ => .ok _

lemma Method.uncaught_resultType (className : Option String) (method returns : String) (b : Binding) :
    Uncaught ((resultType className method returns).effect b).1 := by
  have hvoid : Uncaught (CType.make .voidPointer "func_return" "void *") :=
    CType.uncaught_make _ _ _ _ _
  have hneed : Uncaught (Binding.known className) := by
    unfold Binding.known
    split
    · exact .ok _
    · exact .error rfl
  rw [resultType, Act.effect_bind_of_ok (Act.effect_state b)]
  dsimp only
  split
  · exact .ok _
  · split
    · rw [Act.effect_bind]
      rcases hn : (Binding.need className : Act Binding String).effect b with ⟨f | cls, b'⟩
      · exact .error (hneed f (congrArg Prod.fst hn))
      · dsimp only
        rw [Act.effect_bind_of_ok (Binding.effect_report _ _)]
        exact hvoid
    · exact hvoid
  -- A type that is not found was dealt with, so another fault is left.
  next f hf he =>
    refine .error ?_
    have hpart := b.registry.faults_resolve "func_return" returns [] [] f he
    cases f with
    | missingKey key => exact absurd rfl (hf key)
    | noSuchPart => exact absurd rfl hpart
    | _ => rfl

end HeaderBind
