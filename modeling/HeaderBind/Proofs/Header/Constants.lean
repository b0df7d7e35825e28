import HeaderBind.Proofs.Class.Composed
import HeaderBind.Proofs.Header.Invariants

/-!
# The order of constants does not show

What is written for a module depends on which constants were gathered, and not on the order of the calls that
gathered them (`sameText_of_gathered`). Only two places look at the constants, and both of them sort what they
find. So it makes no difference to what is written whether the constants are sorted before or after
(`blind_inOrder`). Reading headers adds constants by such calls and in no other way (`Built.gathered`).
-/

namespace HeaderBind

namespace Binding

variable {α : Type} {act : Act Binding α} {b b' : Binding} {calls calls' : List (String × String)}

/-- The binding with its constants in order. -/
def inOrder (b : Binding) : Binding :=
  { b with constants := sortedConstants b.constants }

lemma inOrder_eq_withMargin (b : Binding) :
    b.inOrder = withMargin { b.margin with constants := sortedConstants b.margin.constants } b := rfl

lemma Apart.inOrder {g : Binding → Binding} (h : Apart g) (b : Binding) : g b.inOrder = (g b).inOrder := by
  rw [inOrder_eq_withMargin, h, ← h.margin b, ← inOrder_eq_withMargin]

/-- Actions that change nothing but declarations do not see in which order the constants stand. -/
lemma Composed.blind_inOrder (h : Composed Apart act) : act.Blind inOrder := by
  refine h.blind_of (fun _ hg => hg.inOrder) (fun message => ?_) fun b _ next hn => ?_
  · exact .bind_state (fun b => .ite (fun _ => .note _) fun _ => .pure _) fun _ => rfl
  · exact hn b.settings.debug _ b (List.mergeSort_perm _ _).symm

/-- Modules with the same constants in another order give the same results, and stay the same but for the order of
their constants. -/
lemma Composed.effect_of_perm (h : Composed Apart act) (hperm : b.constants.Perm b'.constants)
    (hrest : b' = { b with constants := b'.constants }) :
    (act.effect b').1 = (act.effect b).1 ∧ (act.effect b').2.inOrder = (act.effect b).2.inOrder := by
  have hsame : b'.inOrder = b.inOrder := by
    rw [hrest, inOrder, inOrder, sortedConstants_eq_of_perm hperm]
  have heffect := h.blind_inOrder b'
  rw [hsame, h.blind_inOrder b, Prod.mk.injEq] at heffect
  exact ⟨heffect.1.symm, heffect.2.symm⟩

/-- Two modules that differ in the calls that gathered their constants have the same overview and the same code, if
the calls are for the same constants. -/
theorem sameText_of_gathered (h : Gathered calls b) (h' : Gathered calls' b') (hcalls : ∀ c, c ∈ calls ↔ c ∈ calls')
    (hrest : b' = { b with constants := b'.constants }) :
    (overview.effect b').1 = (overview.effect b).1 ∧ (write.effect b').1 = (write.effect b).1 ∧
      (write.effect b').2.out = (write.effect b).2.out ∧
      (write.effect b').2.publicText = (write.effect b).2.publicText := by
  have hperm := h.perm h' hcalls
  obtain ⟨hoverview, -⟩ := composed_overview.effect_of_perm hperm hrest
  obtain ⟨hwrite, hstate⟩ := composed_write.effect_of_perm hperm hrest
  have hout := congrArg Binding.out hstate
  have hpublic := congrArg Binding.publicText hstate
  exact ⟨hoverview, hwrite, hout, hpublic⟩

/-- A module that has nothing but its name and the constants that some calls gathered. -/
def gather (calls : List (String × String)) : Binding :=
  calls.foldl (fun b c => b.addConstant c.1 c.2) { name := "m" }

lemma gathered_gather (calls : List (String × String)) : Gathered calls (gather calls) := by
  induction calls using List.reverseRecOn with
  | nil => exact .start rfl
  | append_singleton calls c ih =>
    rw [gather, List.foldl_append]
    exact ih.call c.1 c.2

/-- Calls for three constants, of which two have the same name. -/
def someCalls : List (String × String) :=
  [("B", "string"), ("A", "string"), ("B", "string"), ("A", "integer")]

/-- Calls for the same constants. -/
def otherCalls : List (String × String) :=
  [("A", "integer"), ("B", "string"), ("A", "string")]

/-- The constants are kept in different orders, and the code is the same. -/
theorem sameText_someCalls : Gathered someCalls (gather someCalls) ∧ Gathered otherCalls (gather otherCalls) ∧
    (gather otherCalls).constants ≠ (gather someCalls).constants ∧
    (overview.effect (gather otherCalls)).1 = (overview.effect (gather someCalls)).1 ∧
    (write.effect (gather otherCalls)).2.out = (write.effect (gather someCalls)).2.out := by
  have hcalls : ∀ c, c ∈ someCalls ↔ c ∈ otherCalls := by
    simp only [someCalls, otherCalls, List.mem_cons, List.not_mem_nil, or_false]
    tauto
  have hsame := sameText_of_gathered (gathered_gather someCalls) (gathered_gather otherCalls) hcalls rfl
  exact ⟨gathered_gather _, gathered_gather _, by decide, hsame.1, hsame.2.2.1⟩

end Binding

namespace HeaderReader

open Header.Table

variable {x : HeaderReader}

/-- While headers are read, constants are added by calls only: for each definition of a constant, and for each
value when an enum is closed. -/
theorem Built.gathered (h : Built x) : ∃ calls, Binding.Gathered calls x.host.binding := by
  refine (h.satisfies (Q := fun _ => True) (I := fun b => ∃ calls, b.Gathered calls)
    (fun x hx => ?_) (fun x name m act _ hact => ?_) ?_).binding
  · obtain ⟨settings, registry, name, base, verbose, rfl⟩ := hx.eq
    exact ⟨⟨[], .start rfl⟩, fun _ _ => trivial⟩
  · refine stays_action (fun g hg b hb => ?_) (fun b name type hb => ?_) hact m
    · obtain ⟨calls, hcalls⟩ := hb
      exact ⟨calls, hcalls.other (congrArg Binding.Margin.constants (hg.apart.margin b))⟩
    · obtain ⟨calls, hcalls⟩ := hb
      exact ⟨_, hcalls.call name type⟩
  · rintro b files includes ⟨calls, hcalls⟩
    exact ⟨calls, hcalls.other rfl⟩

end HeaderReader

end HeaderBind
