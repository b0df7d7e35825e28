import HeaderBind.Proofs.Act

/-!
# What actions do not see

An action is blind to a change of the state when it makes no difference whether the state is changed
before the action or after it: the result is the same, and so is the state up to the change. An action
that is blind to how much is logged does the same however much is logged.
-/

namespace HeaderBind.Act

variable {σ τ α β : Type} {f : σ → σ}

/-- It makes no difference to the action whether the state is changed before or after. -/
def Blind (f : σ → σ) (act : Act σ α) : Prop :=
  ∀ s, act.effect (f s) = ((act.effect s).1, f (act.effect s).2)

namespace Blind

variable {act : Act σ α} {next : α → Act σ β}

lemma pure (a : α) : (Pure.pure a : Act σ α).Blind f := fun _ => rfl

lemma fail (fault : Fault) : (Act.fail fault : Act σ α).Blind f := fun _ => rfl

lemma lift (r : Except Fault α) : (Act.lift r : Act σ α).Blind f := fun _ => rfl

lemma note (message : String) : (Act.note message : Act σ Unit).Blind f := fun _ => rfl

lemma onValue (t : τ) (act : Act τ α) : (Act.onValue t act : Act σ _).Blind f := fun _ => rfl

lemma update {g : σ → σ} (h : ∀ s, g (f s) = f (g s)) : (Act.update g).Blind f :=
  fun s => congrArg (Prod.mk (Except.ok ())) (h s)

lemma attempt (h : act.Blind f) : act.attempt.Blind f := by
  intro s
  rw [effect_attempt, effect_attempt, h s]

lemma bind (h : act.Blind f) (hn : ∀ a, (next a).Blind f) : (act >>= next).Blind f := by
  intro s
  rw [effect_bind, effect_bind, h s]
  rcases act.effect s with ⟨fault | a, t⟩
  · rfl
  · exact hn a t

/-- What is looked up in the state may depend on the change, as long as what follows does not. -/
lemma bind_state {next : σ → Act σ α} (h : ∀ s, (next s).Blind f) (hn : ∀ s, next (f s) = next s) :
    (Act.state >>= next).Blind f := by
  intro s
  rw [effect_bind_of_ok (effect_state _), effect_bind_of_ok (effect_state _), hn s]
  exact h s s

/-- Work on a part of the state that changes by itself. -/
lemma focus {part : σ → τ} {put : τ → σ → σ} {g : τ → τ} {act : Act τ α} (h : act.Blind g)
    (hpart : ∀ s, part (f s) = g (part s)) (hput : ∀ t s, put (g t) (f s) = f (put t s)) :
    (Act.focus part put act).Blind f := by
  intro s
  rw [effect_focus, effect_focus, hpart s, h (part s)]
  exact congrArg (Prod.mk _) (hput _ _)

lemma ite {p : Prop} [Decidable p] {a b : Act σ α} (ha : p → a.Blind f) (hb : ¬ p → b.Blind f) :
    (if p then a else b).Blind f := by
  split
  next h => exact ha h
  next h => exact hb h

end Blind

end HeaderBind.Act
