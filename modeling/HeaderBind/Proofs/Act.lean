import HeaderBind.Act
import Mathlib.Data.List.Forall2
import Mathlib.Tactic.Lemma

/-!
# What actions do

The effect of an action is its result and the state that it leaves behind, without the messages that
it logs. Effects compose: `effect_bind` says how, and `effect_bind_eq_ok` takes a run that succeeded
apart into the runs of its parts. An action keeps a part of the state when it leaves that part as it
is, whether it fails or not.
-/

namespace HeaderBind

/-- If there is a result, it is as stated. -/
def Gives {α : Type} (P : α → Prop) (r : Except Fault α) : Prop :=
  ∀ a, r = .ok a → P a

namespace Gives

variable {α β : Type} {P : α → Prop} {r : Except Fault α}

lemma ok {a : α} (h : P a) : Gives P (.ok a) := by
  rintro _ ⟨⟩
  exact h

lemma pure {a : α} (h : P a) : Gives P (Pure.pure a) :=
  ok h

lemma error (f : Fault) : Gives P (.error f) :=
  nofun

lemma bind {Q : β → Prop} {next : α → Except Fault β} (h : Gives P r) (hn : ∀ a, P a → Gives Q (next a)) :
    Gives Q (r >>= next) := by
  cases r with
  | error f => exact error f
  | ok a => exact hn a (h a rfl)

end Gives

/-- The members of a list have results if each of them has one. -/
lemma mapM_eq_ok_iff {α β : Type} {f : α → Except Fault β} {xs : List α} {ys : List β} :
    xs.mapM f = .ok ys ↔ List.Forall₂ (fun x y => f x = .ok y) xs ys := by
  constructor
  · intro h
    induction xs generalizing ys with
    | nil =>
      cases h
      exact .nil
    | cons x xs ih =>
      rw [List.mapM_cons] at h
      cases hx : f x with
      | error e =>
        rw [hx] at h
        cases h
      | ok y =>
        cases hxs : xs.mapM f with
        | error e =>
          rw [hx, hxs] at h
          cases h
        | ok zs =>
          rw [hx, hxs] at h
          cases h
          exact .cons hx (ih hxs)
  · intro h
    induction h with
    | nil => rfl
    | cons hx _ ih =>
      rw [List.mapM_cons, hx, ih]
      rfl

lemma exists_mapM_eq_ok {α β : Type} {f : α → Except Fault β} {xs : List α}
    (h : ∀ x ∈ xs, ∃ y, f x = .ok y) : ∃ ys, xs.mapM f = .ok ys := by
  induction xs with
  | nil => exact ⟨[], rfl⟩
  | cons x xs ih =>
    obtain ⟨y, hy⟩ := h x List.mem_cons_self
    obtain ⟨ys, hys⟩ := ih fun z hz => h z (List.mem_cons_of_mem x hz)
    exact ⟨y :: ys, mapM_eq_ok_iff.mpr (.cons hy (mapM_eq_ok_iff.mp hys))⟩

namespace Act

variable {σ τ α β : Type}

/-- What an action does apart from the log: its result and the state that it leaves behind. -/
def effect (act : Act σ α) (s : σ) : Except Fault α × σ :=
  ((act s).result, (act s).state)

/-- Performing an action adds to the log; what it does otherwise does not depend on the log. -/
lemma perform_eq (act : Act σ α) (l : Logged σ) :
    act.perform l = ((act.effect l.state).1, ⟨(act.effect l.state).2, l.log ++ (act l.state).log⟩) :=
  rfl

@[simp] lemma effect_pure (a : α) (s : σ) : (pure a : Act σ α).effect s = (.ok a, s) := rfl

lemma exists_effect_eq_ok {act : Act σ α} {s : σ} {a : α} (h : (act.effect s).1 = .ok a) :
    ∃ t, act.effect s = (.ok a, t) :=
  ⟨_, Prod.ext h rfl⟩

lemma effect_bind (act : Act σ α) (next : α → Act σ β) (s : σ) :
    (act >>= next).effect s =
      match act.effect s with
      | (.ok a, t) => (next a).effect t
      | (.error f, t) => (.error f, t) := by
  show ((Act.bind act next s).result, (Act.bind act next s).state) = _
  simp only [Act.bind, effect]
  rcases act s with ⟨_ | _, _, _⟩ <;> rfl

lemma effect_bind_of_ok {act : Act σ α} {next : α → Act σ β} {s t : σ} {a : α}
    (h : act.effect s = (.ok a, t)) : (act >>= next).effect s = (next a).effect t := by
  rw [effect_bind, h]

lemma effect_bind_of_error {act : Act σ α} {next : α → Act σ β} {s t : σ} {f : Fault}
    (h : act.effect s = (.error f, t)) : (act >>= next).effect s = (.error f, t) := by
  rw [effect_bind, h]

lemma effect_bind_assoc {γ : Type} (act : Act σ α) (next : α → Act σ β) (rest : β → Act σ γ) (s : σ) :
    ((act >>= next) >>= rest).effect s = (act >>= fun a => next a >>= rest).effect s := by
  simp only [effect_bind]
  rcases act.effect s with ⟨_ | a, t⟩ <;> rfl

/-- A sequence of two actions succeeds when both do. -/
lemma effect_bind_eq_ok {act : Act σ α} {next : α → Act σ β} {s u : σ} {b : β} :
    (act >>= next).effect s = (.ok b, u) ↔
      ∃ a t, act.effect s = (.ok a, t) ∧ (next a).effect t = (.ok b, u) := by
  rw [effect_bind]
  constructor
  · intro h
    rcases he : act.effect s with ⟨_ | a, t⟩ <;> rw [he] at h
    · cases h
    · exact ⟨a, t, rfl, h⟩
  · rintro ⟨a, t, ha, hb⟩
    rw [ha]
    exact hb

@[simp] lemma effect_state (s : σ) : (state : Act σ σ).effect s = (.ok s, s) := rfl

@[simp] lemma effect_update (f : σ → σ) (s : σ) : (update f).effect s = (.ok (), f s) := rfl

@[simp] lemma effect_view (f : σ → α) (s : σ) : (view f).effect s = (.ok (f s), s) := rfl

@[simp] lemma effect_note (message : String) (s : σ) : (note message).effect s = (.ok (), s) := rfl

@[simp] lemma effect_fail (f : Fault) (s : σ) :
    (fail f : Act σ α).effect s = (.error f, s) := rfl

@[simp] lemma effect_lift (r : Except Fault α) (s : σ) :
    (lift r : Act σ α).effect s = (r, s) := rfl

@[simp] lemma effect_attempt (act : Act σ α) (s : σ) :
    act.attempt.effect s = (.ok (act.effect s).1, (act.effect s).2) := rfl

@[simp] lemma effect_focus (part : σ → τ) (put : τ → σ → σ) (act : Act τ α) (s : σ) :
    (focus part put act).effect s =
      ((act.effect (part s)).1, put (act.effect (part s)).2 s) := rfl

/-! ### Parts of the state that actions keep -/

/-- The action leaves a part of the state as it is, also when it fails. -/
def Keeps {γ : Type} (part : σ → γ) (act : Act σ α) : Prop :=
  ∀ s, part (act.effect s).2 = part s

namespace Keeps

variable {γ : Type} {part : σ → γ}

lemma of_effect {act : Act σ α} {s t : σ} {r : Except Fault α} (h : act.Keeps part)
    (he : act.effect s = (r, t)) : part t = part s := by
  have := h s
  rwa [he] at this

lemma pure (a : α) : (Pure.pure a : Act σ α).Keeps part := fun _ => rfl

lemma bind {act : Act σ α} {next : α → Act σ β} (h : act.Keeps part)
    (hn : ∀ a, (next a).Keeps part) : (act >>= next).Keeps part := by
  intro s
  have h₁ := h s
  rw [effect_bind]
  rcases he : act.effect s with ⟨_ | a, t⟩ <;> rw [he] at h₁
  · exact h₁
  · exact (hn a t).trans h₁

lemma state : (Act.state : Act σ σ).Keeps part := fun _ => rfl

lemma note (message : String) : (Act.note message : Act σ Unit).Keeps part := fun _ => rfl

lemma fail (f : Fault) : (Act.fail f : Act σ α).Keeps part := fun _ => rfl

lemma lift (r : Except Fault α) : (Act.lift r : Act σ α).Keeps part := fun _ => rfl

lemma update {f : σ → σ} (h : ∀ s, part (f s) = part s) : (Act.update f).Keeps part := h

lemma attempt {act : Act σ α} (h : act.Keeps part) : act.attempt.Keeps part := h

/-- An action that leaves the state as it is keeps every part of it. -/
lemma of_id {act : Act σ α} (h : act.Keeps id) : act.Keeps part :=
  fun s => congrArg part (h s)

lemma ite {p : Prop} [Decidable p] {a b : Act σ α} (ha : p → a.Keeps part) (hb : ¬ p → b.Keeps part) :
    (if p then a else b).Keeps part := by
  split
  next h => exact ha h
  next h => exact hb h

/-- A loop keeps what every round keeps. -/
lemma forIn {xs : List β} {step : β → PUnit → Act σ (ForInStep PUnit)}
    (h : ∀ x ∈ xs, (step x ⟨⟩).Keeps part) : (ForIn.forIn xs PUnit.unit step).Keeps part := by
  induction xs with
  | nil => exact .pure _
  | cons x xs ih =>
    rw [List.forIn_cons]
    refine (h x List.mem_cons_self).bind fun r => ?_
    cases r with
    | done => exact .pure _
    | yield => exact ih fun y hy => h y (List.mem_cons_of_mem x hy)

end Keeps

/-! ### What actions end with -/

/-- From a state the action ends as stated: `P` holds of its result and the state it leaves, or `E` of
its fault and that state. -/
def Ends (act : Act σ α) (s : σ) (P : α → σ → Prop) (E : Fault → σ → Prop) : Prop :=
  match act.effect s with
  | (.ok a, t) => P a t
  | (.error f, t) => E f t

namespace Ends

variable {act : Act σ α} {s t : σ} {a : α} {f : Fault} {P P' : α → σ → Prop}
  {E E' : Fault → σ → Prop}

lemma of_ok (h : act.effect s = (.ok a, t)) (hp : P a t) : act.Ends s P E := by
  rw [Ends, h]
  exact hp

lemma of_error (h : act.effect s = (.error f, t)) (he : E f t) : act.Ends s P E := by
  rw [Ends, h]
  exact he

lemma ok (h : act.Ends s P E) (he : act.effect s = (.ok a, t)) : P a t := by
  rwa [Ends, he] at h

lemma error (h : act.Ends s P E) (he : act.effect s = (.error f, t)) : E f t := by
  rwa [Ends, he] at h

lemma pure (h : P a s) : (Pure.pure a : Act σ α).Ends s P E := h

lemma bind_of_ok {next : α → Act σ β} {Q : β → σ → Prop} (h : act.effect s = (.ok a, t))
    (hn : (next a).Ends t Q E) : (act >>= next).Ends s Q E := by
  rwa [Ends, effect_bind_of_ok h]

lemma mono (h : act.Ends s P E) (hp : ∀ a t, P a t → P' a t) (hf : ∀ f t, E f t → E' f t) :
    act.Ends s P' E' := by
  rcases he : act.effect s with ⟨f | a, t⟩
  · exact of_error he (hf f t (h.error he))
  · exact of_ok he (hp a t (h.ok he))

lemma bind {next : α → Act σ β} {Q : β → σ → Prop} (h : act.Ends s P E)
    (hn : ∀ a t, P a t → (next a).Ends t Q E) : (act >>= next).Ends s Q E := by
  rcases he : act.effect s with ⟨f | a, t⟩
  · exact of_error (effect_bind_of_error he) (h.error he)
  · have := hn a t (h.ok he)
    rwa [Ends, effect_bind_of_ok he]

/-- Two steps taken together, and what follows. -/
lemma bind_bind {γ : Type} {next : α → Act σ β} {rest : β → Act σ γ} {P : β → σ → Prop}
    {Q : γ → σ → Prop} (h : (act >>= next).Ends s P E) (hn : ∀ b t, P b t → (rest b).Ends t Q E) :
    (act >>= fun a => next a >>= rest).Ends s Q E := by
  rcases he : act.effect s with ⟨f | a, t⟩
  · exact of_error (effect_bind_of_error he) (h.error (effect_bind_of_error he))
  · rw [Ends, effect_bind_of_ok he] at h
    rw [Ends, effect_bind_of_ok he]
    have hnext : (next a).Ends t P E := h
    exact hnext.bind hn

end Ends

/-! ### What actions maintain -/

/-- From a state where `I` holds the action only leads to such states, and its result is as stated. -/
def Maintains (I : σ → Prop) (act : Act σ α) (Q : α → Prop) : Prop :=
  ∀ s, I s → act.Ends s (fun a t => I t ∧ Q a) fun _ t => I t

/-- From a state where `I` holds the action leads to one where `J` holds, unless it fails. -/
def Brings (I J : σ → Prop) (act : Act σ α) : Prop :=
  ∀ s, I s → act.Ends s (fun _ t => J t) fun _ _ => True

namespace Maintains

variable {I : σ → Prop} {act : Act σ α} {Q Q' : α → Prop}

lemma of_effect {s : σ} {a : α} {t : σ} (h : act.Maintains I Q) (hs : I s)
    (he : act.effect s = (.ok a, t)) : I t ∧ Q a :=
  (h s hs).ok he

lemma mono (h : act.Maintains I Q) (hq : ∀ a, Q a → Q' a) : act.Maintains I Q' :=
  fun s hs => (h s hs).mono (fun a _ hp => ⟨hp.1, hq a hp.2⟩) fun _ _ hp => hp

lemma pure {a : α} (h : Q a) : (Pure.pure a : Act σ α).Maintains I Q :=
  fun _ hs => ⟨hs, h⟩

lemma bind {next : α → Act σ β} {R : β → Prop} (h : act.Maintains I Q)
    (hn : ∀ a, Q a → (next a).Maintains I R) : (act >>= next).Maintains I R :=
  fun s hs => (h s hs).bind fun a t hp => hn a hp.2 t hp.1

lemma andThen {next : α → Act σ β} {R : β → Prop} (h : act.Maintains I fun _ => True)
    (hn : ∀ a, (next a).Maintains I R) : (act >>= next).Maintains I R :=
  h.bind fun a _ => hn a

lemma fail (f : Fault) : (Act.fail f : Act σ α).Maintains I Q :=
  fun _ hs => hs

lemma fail_bind (f : Fault) (next : β → Act σ α) : ((Act.fail f : Act σ β) >>= next).Maintains I Q :=
  fun _ hs => hs

lemma lift {r : Except Fault α} (h : Gives Q r) : (Act.lift r : Act σ α).Maintains I Q := by
  intro s hs
  cases r with
  | error f => exact Ends.of_error (effect_lift _ s) hs
  | ok a => exact Ends.of_ok (effect_lift _ s) ⟨hs, h a rfl⟩

lemma liftAny (r : Except Fault α) : (Act.lift r : Act σ α).Maintains I fun _ => True :=
  lift fun _ _ => trivial

lemma state : (Act.state : Act σ σ).Maintains I I :=
  fun _ hs => ⟨hs, hs⟩

lemma view {f : σ → α} (h : ∀ s, I s → Q (f s)) : (Act.view f).Maintains I Q :=
  fun s hs => ⟨hs, h s hs⟩

lemma update {f : σ → σ} (h : ∀ s, I s → I (f s)) : (Act.update f).Maintains I fun _ => True :=
  fun s hs => ⟨h s hs, trivial⟩

lemma note (message : String) : (Act.note message : Act σ Unit).Maintains I fun _ => True :=
  fun _ hs => ⟨hs, trivial⟩

lemma ite {p : Prop} [Decidable p] {a b : Act σ α} (ha : p → a.Maintains I Q)
    (hb : ¬ p → b.Maintains I Q) : (if p then a else b).Maintains I Q := by
  split
  next h => exact ha h
  next h => exact hb h

/-- What is maintained also holds after a fault that is caught. -/
lemma attempt (h : act.Maintains I Q) : act.attempt.Maintains I (Gives Q) := by
  intro s hs
  refine Ends.of_ok (effect_attempt act s) ?_
  rcases he : act.effect s with ⟨f | a, t⟩
  · exact ⟨(h s hs).error he, .error f⟩
  · obtain ⟨ht, hq⟩ := (h s hs).ok he
    exact ⟨ht, .ok hq⟩

/-- What is maintained of a value that is not part of the state. -/
lemma onValue {J : τ → Prop} {t : τ} {act : Act τ α} (h : act.Maintains J Q) (ht : J t) :
    (Act.onValue t act : Act σ _).Maintains I fun r => J r.2 ∧ Gives Q r.1 := by
  intro s hs
  refine Ends.of_ok (a := ((act.effect t).1, (act.effect t).2)) rfl ⟨hs, ?_⟩
  rcases he : act.effect t with ⟨f | a, t'⟩
  · exact ⟨(h t ht).error he, .error f⟩
  · obtain ⟨ht', hq⟩ := (h t ht).ok he
    exact ⟨ht', .ok hq⟩

/-- A loop maintains what every round maintains. -/
lemma forIn {xs : List β} {step : β → PUnit → Act σ (ForInStep PUnit)}
    (h : ∀ x ∈ xs, (step x ⟨⟩).Maintains I fun _ => True) :
    (ForIn.forIn xs PUnit.unit step).Maintains I fun _ => True := by
  induction xs with
  | nil => exact .pure trivial
  | cons x xs ih =>
    rw [List.forIn_cons]
    refine (h x List.mem_cons_self).bind fun r _ => ?_
    cases r with
    | done => exact .pure trivial
    | yield => exact ih fun y hy => h y (List.mem_cons_of_mem x hy)

/-- An action that is run for every element of a list gives a result for each. -/
lemma mapM {R : β → α → Prop} {xs : List β} {f : β → Act σ α}
    (h : ∀ x ∈ xs, (f x).Maintains I (R x)) : (xs.mapM f).Maintains I fun ys => List.Forall₂ R xs ys := by
  suffices hloop : ∀ done, (List.mapM.loop f xs done).Maintains I fun ys =>
      ∃ zs, ys = done.reverse ++ zs ∧ List.Forall₂ R xs zs from
    (hloop []).mono fun ys hys => by
      obtain ⟨zs, rfl, hzs⟩ := hys
      exact hzs
  induction xs with
  | nil => exact fun done => .pure ⟨[], (List.append_nil _).symm, .nil⟩
  | cons x xs ih =>
    intro done
    refine (h x List.mem_cons_self).bind fun a ha => ?_
    refine (ih (fun y hy => h y (List.mem_cons_of_mem x hy)) (a :: done)).mono ?_
    rintro ys ⟨zs, rfl, hzs⟩
    exact ⟨a :: zs, by simp, .cons ha hzs⟩

lemma brings (h : act.Maintains I Q) : act.Brings I I :=
  fun s hs => (h s hs).mono (fun _ _ hp => hp.1) fun _ _ _ => trivial

/-- What leads on after an action that maintains what it leads on from. -/
lemma bind_brings {J : σ → Prop} {next : α → Act σ β} (h : act.Maintains I Q)
    (hn : ∀ a, Q a → (next a).Brings I J) : (act >>= next).Brings I J := by
  intro s hs
  refine Ends.bind (P := fun a t => I t ∧ Q a) ?_ fun a t hp => hn a hp.2 t hp.1
  exact (h s hs).mono (fun _ _ hp => hp) fun _ _ _ => trivial

end Maintains

/-- What is maintained, together with a part of the state that is kept. -/
lemma Maintains.and_keeps {γ : Type} {I : σ → Prop} {act : Act σ α} {Q : α → Prop} {part : σ → γ} {p : γ}
    (h : act.Maintains I Q) (hk : act.Keeps part) : act.Maintains (fun s => I s ∧ part s = p) Q := by
  rintro s ⟨hs, hp⟩
  rcases he : act.effect s with ⟨f | a, t⟩
  · exact Ends.of_error he ⟨(h s hs).error he, (hk.of_effect he).trans hp⟩
  · obtain ⟨ht, hq⟩ := (h s hs).ok he
    exact Ends.of_ok he ⟨⟨ht, (hk.of_effect he).trans hp⟩, hq⟩

/-- An action that leaves the state as it is maintains everything. -/
lemma Keeps.maintains {I : σ → Prop} {act : Act σ α} (h : act.Keeps id) :
    act.Maintains I fun _ => True := by
  intro s hs
  rcases he : act.effect s with ⟨f | a, t⟩
  · obtain rfl : t = s := h.of_effect he
    exact Ends.of_error he hs
  · obtain rfl : t = s := h.of_effect he
    exact Ends.of_ok he ⟨hs, trivial⟩

namespace Brings

variable {I J K : σ → Prop} {act : Act σ α}

lemma mono {I' J' : σ → Prop} (h : act.Brings I J) (hI : ∀ s, I' s → I s) (hJ : ∀ s, J s → J' s) :
    act.Brings I' J' :=
  fun s hs => (h s (hI s hs)).mono (fun _ t ht => hJ t ht) fun _ _ _ => trivial

lemma bind {next : α → Act σ β} (h : act.Brings I J) (hn : ∀ a, (next a).Brings J K) :
    (act >>= next).Brings I K :=
  fun s hs => (h s hs).bind fun a t ht => hn a t ht

lemma pure (a : α) : (Pure.pure a : Act σ α).Brings I I :=
  fun _ hs => hs

lemma look {next : σ → Act σ α} (h : ∀ s, (next s).Brings I J) : (Act.state >>= next).Brings I J :=
  fun s hs => .bind_of_ok (effect_state s) (h s s hs)

lemma forIn {xs : List β} {step : β → PUnit → Act σ (ForInStep PUnit)}
    (h : ∀ x ∈ xs, (step x ⟨⟩).Brings I I) : (ForIn.forIn xs PUnit.unit step).Brings I I := by
  induction xs with
  | nil => exact .pure _
  | cons x xs ih =>
    rw [List.forIn_cons]
    refine (h x List.mem_cons_self).bind fun r => ?_
    cases r with
    | done => exact .pure _
    | yield => exact ih fun y hy => h y (List.mem_cons_of_mem x hy)

end Brings

end Act

end HeaderBind
