import HeaderBind.Proofs.Binding.Tidy
import HeaderBind.Proofs.Text.Blank

/-!
# What was written

`Wrote s o P` says of a binding that what was written after the text `o` is as `P` says, and that the
binding is tidy. While code is written, arguments, results and members are worked on at their places of
use; there a type only learns how it was declared, and an error exit is never given up (`Site.From`).
-/

namespace HeaderBind

namespace CType

/-- The first word of a C type holds no blank. -/
lemma gives_bareType (type : String) : Gives (fun bare => ' ' ∉ bare.toList) (bareType type) := by
  unfold bareType
  split
  · exact .error _
  next word rest hrest =>
    have hmem : word ∈ Text.words type := hrest ▸ List.mem_cons_self
    exact .ok fun hblank => absurd (Text.mem_of_mem_words hmem hblank).2 (by decide)

/-- The site comes from a type and an error exit: the type has at most learnt how it was declared, and the
error exit is still there. -/
def Site.From (t : CType) (e : Bool) (x : Site) : Prop :=
  (∃ d, x.ctype = { t with declared := d }) ∧ (e = true → x.errorSet = true)

namespace Site

variable {t : CType} {e : Bool}

lemma from_start : From t e ⟨t, e⟩ :=
  ⟨⟨t.declared, rfl⟩, fun h => h⟩

lemma maintains_ctype : (Act.view Site.ctype).Maintains (From t e) fun t' =>
    ∃ d, t' = { t with declared := d } :=
  .view fun _ hx => hx.1

lemma maintains_needError : needError.Maintains (From t e) fun _ => True :=
  .update fun _ hx => ⟨hx.1, fun _ => rfl⟩

lemma maintains_settle : settle.Maintains (From t e) fun bare => ' ' ∉ bare.toList := by
  refine .andThen (.view fun _ _ => trivial) fun t' => ?_
  refine .bind (.lift (gives_bareType _)) fun bare hbare => ?_
  refine .andThen (.update fun x hx => ?_) fun _ => .pure hbare
  obtain ⟨⟨d, hd⟩, he⟩ := hx
  exact ⟨⟨some (some bare), by rw [hd]⟩, he⟩

end Site

variable {t : CType} {e : Bool}

lemma Tidy.declared (h : t.Tidy) (d : Option (Option String)) :
    ({ t with declared := d } : CType).Tidy :=
  ⟨h.name, h.integer, h.integerOut, h.single, h.given, h.size⟩

section

variable (t e)

/-- Whatever a conversion looks up, requires or settles, its place of use stays in order. -/
lemma maintains_assign (settings : Settings) (call target : Datum) (borrowed : Bool) :
    (assign settings call target borrowed).Maintains (Site.From t e) fun _ => True := by
  refine .andThen (.view fun _ _ => trivial) fun t' => ?_
  dsimp only
  split
  all_goals with_reducible repeat' first
    | exact .pure trivial
    | refine .andThen (.liftAny _) fun _ => ?_
    | refine .andThen Site.maintains_needError fun _ => ?_
    | refine .bind Site.maintains_settle fun _ _ => ?_

lemma maintains_fromObject (source destination context : Datum) :
    (fromObject source destination context).Maintains (Site.From t e) fun _ => True := by
  refine .andThen (.view fun _ _ => trivial) fun t' => ?_
  split
  all_goals with_reducible repeat' first
    | exact .pure trivial
    | refine .andThen (.liftAny _) fun _ => ?_
    | refine .andThen Site.maintains_needError fun _ => ?_

lemma maintains_beforeCall (keeper : Datum) :
    (beforeCall keeper).Maintains (Site.From t e) fun _ => True := by
  refine .andThen (.view fun _ _ => trivial) fun t' => ?_
  split
  all_goals with_reducible repeat' first
    | exact .pure trivial
    | exact .fail _
    | exact maintains_fromObject t e _ _ _
    | refine .ite (fun _ => ?_) fun _ => ?_
    | refine .andThen (.liftAny _) fun _ => ?_
    | refine .andThen Site.maintains_needError fun _ => ?_
    | refine .bind Site.maintains_settle fun _ _ => ?_

end

end CType

namespace Binding

variable {α : Type} {s : Settings} {o : String} {P P' : String → Prop} {I : Binding → Prop}

/-! ### Code that was written -/

/-- The binding is tidy, and what was written after a text is as stated. -/
def Wrote (s : Settings) (o : String) (P : String → Prop) (b : Binding) : Prop :=
  b.Tidy s ∧ ∃ t, b.out = o ++ t ∧ P t

lemma Wrote.start {b : Binding} (hb : b.Tidy s) (hP : P "") : Wrote s b.out P b :=
  ⟨hb, "", by simp, hP⟩

lemma Wrote.mono {b : Binding} (h : Wrote s o P b) (hP : ∀ t, P t → P' t) : Wrote s o P' b := by
  obtain ⟨htidy, t, ht, hPt⟩ := h
  exact ⟨htidy, t, ht, hP t hPt⟩

lemma lasting_wrote (s : Settings) (o : String) (P : String → Prop) : Lasting s (Wrote s o P) := by
  refine ⟨fun b h => h.1, ?_⟩
  rintro b b' ⟨-, t, ht, hP⟩ htidy hout
  exact ⟨htidy, t, hout.trans ht, hP⟩

lemma Wrote.emit {b : Binding} {t : String} (h : Wrote s o P b) (ht : ∀ u, P u → P' (u ++ t)) :
    Wrote s o P' { b with out := b.out ++ t } := by
  obtain ⟨htidy, u, hu, hP⟩ := h
  refine ⟨htidy.congr rfl rfl rfl, u ++ t, ?_, ht u hP⟩
  rw [← String.append_assoc, ← hu]

lemma maintains_emit {t : String} (h : ∀ u, P u → P (u ++ t)) :
    (emit t).Maintains (Wrote s o P) fun _ => True :=
  .update fun _ hb => hb.emit h

lemma brings_emit {t : String} (h : ∀ u, P u → P' (u ++ t)) :
    (emit t).Brings (Wrote s o P) (Wrote s o P') :=
  fun _ hb => hb.emit h

/-- A property that lasts while the binding stays tidy, whatever is written. -/
structure Growing (s : Settings) (I : Binding → Prop) : Prop extends Lasting s I where
  grow : ∀ b t, I b → I { b with out := b.out ++ t }

lemma growing_wrote (s : Settings) (o : String) (hP : ∀ t u, P t → P (t ++ u)) :
    Growing s (Wrote s o P) :=
  ⟨lasting_wrote s o P, fun _ t hb => hb.emit fun u hu => hP u t hu⟩

lemma Growing.maintains_emit (hI : Growing s I) (t : String) : (emit t).Maintains I fun _ => True :=
  .update fun b hb => hI.grow b t hb

/-! ### Places of use -/

section

variable {act : Act CType.Site α} {Q : α → Prop} (hI : Lasting s I)

include hI

/-- A method may take over the error exit of a place of use that it gave to that place. -/
lemma maintains_takeError {ref : MethodRef} {m : Method} {t : CType} {x : CType.Site}
    (hm : ref.slot = .attributes → m.errorSet = true) (hx : x.From t m.errorSet) :
    (modifyMethod ref fun m => { m with errorSet := x.errorSet }).Maintains I fun _ => True := by
  refine maintains_modifyMethod hI fun m' hm' => ⟨?_, rfl, fun hr _ => hx.2 (hm hr)⟩
  exact ⟨hm'.name, hm'.className, hm'.definitionClass, hm'.proxy⟩

lemma maintains_atResult (ref : MethodRef) (hact : ∀ t e, act.Maintains (CType.Site.From t e) Q) :
    (atResult ref act).Maintains I Q := by
  refine .bind (maintains_method hI.tidy ref) fun m hm => ?_
  refine .andThen (.bind .state fun _ _ => .pure trivial) fun t => ?_
  refine .bind (.onValue (hact _ _) CType.Site.from_start) fun r hr => ?_
  refine .andThen (maintains_modifySignature hI _ _) fun _ => ?_
  exact .andThen (maintains_takeError hI hm.2.1 hr.1) fun _ => .lift hr.2

lemma maintains_atArgument (ref : MethodRef) (i : Nat)
    (hact : ∀ t e, act.Maintains (CType.Site.From t e) Q) : (atArgument ref i act).Maintains I Q := by
  refine .bind (maintains_method hI.tidy ref) fun m hm => ?_
  refine .andThen (.bind .state fun _ _ => .pure trivial) fun t => ?_
  refine .bind (.onValue (hact _ _) CType.Site.from_start) fun r hr => ?_
  refine .andThen (maintains_modifySignature hI _ _) fun _ => ?_
  exact .andThen (maintains_takeError hI hm.2.1 hr.1) fun _ => .lift hr.2

end

/-- The kind of a member. -/
def memberKind (id : MemberId) (b : Binding) : Kind :=
  (b.memberAt id).ctype.kind

/-- A member that is worked on stays of its kind. -/
lemma maintains_atMember {act : Act CType.Site α} {Q : α → Prop} {id : MemberId} {k : Kind}
    (ref : MethodRef)
    (hact : ∀ (t : CType) e, t.Tidy → t.kind = k → act.Maintains (CType.Site.From t e) Q) :
    (atMember ref id act).Maintains (fun b => Wrote s o P b ∧ memberKind id b = k) Q := by
  refine .bind (maintains_method (fun b hb => hb.1.1) ref) fun m hm => ?_
  refine .bind .state fun b hb => ?_
  have htidy := hb.1.1.members id
  refine .bind (.onValue (hact _ _ htidy hb.2) CType.Site.from_start) fun r hr => ?_
  obtain ⟨hfrom, hq⟩ := hr
  refine .andThen (.update ?_) fun _ => .andThen ?_ fun _ => .lift hq
  · obtain ⟨⟨d, hd⟩, -⟩ := hfrom
    rintro b' ⟨⟨htidy', t, ht, hP⟩, hkind⟩
    refine ⟨⟨htidy'.modifyMember fun _ => ?_, t, ht, hP⟩, ?_⟩
    · rw [hd]
      exact htidy.declared d
    · simp only [memberKind, memberAt, Array.getElem?_modify, if_true] at hkind ⊢
      cases hx : b'.members[id]? with
      | none =>
        rw [hx] at hkind
        exact hkind
      | some x => exact (congrArg CType.kind hd).trans hb.2
  · exact (maintains_takeError (lasting_wrote s o P) hm.2.1 hfrom).and_keeps (.update fun _ => rfl)

end Binding

end HeaderBind
