import HeaderBind.Proofs.Class.Trace
import HeaderBind.Proofs.Method.Getters

/-!
# What a getter reads

The text of a getter stands around the operand that reads the attribute: the operand occurs once, and all
else is the same whatever the operand is (`around_assign`). So the text tells the class that the object is
cast to (`eq_of_getterBy`). The getters of a class are written one after another, each with the
operand that the reader of the class gives (`ends_writeGetters`).
-/

namespace HeaderBind

open Binding

/-! ### Texts around an operand -/

namespace Code

/-- The text stands around what is put in. -/
def Around (f : String → String) : Prop :=
  ∃ front back, ∀ c, f c = front ++ c ++ back

/-- One line of the code stands around what is put in, and it does not start with it. -/
def AroundCode (f : String → Code) : Prop :=
  ∃ (before : Code) (front back : String) (after : Code), front.isEmpty = false ∧
    ∀ c, f c = before ++ (front ++ c ++ back) :: after

lemma Around.injective {f : String → String} (h : Around f) : Function.Injective f := by
  obtain ⟨front, back, hf⟩ := h
  intro c d heq
  rw [hf, hf, ← String.toList_inj] at heq
  simp only [String.toList_append, List.append_assoc, List.append_cancel_left_eq,
    List.append_cancel_right_eq] at heq
  exact String.toList_inj.mp heq

lemma Around.append {f : String → String} (h : Around f) (text : String) : Around fun c => f c ++ text := by
  obtain ⟨front, back, hf⟩ := h
  exact ⟨front, back ++ text, fun c => by simp only [hf, String.append_assoc]⟩

namespace AroundCode

variable {f : String → Code}

lemma here {front : String} (h : front.isEmpty = false) (back : String) (after : Code) :
    AroundCode fun c => (front ++ c ++ back) :: after :=
  ⟨[], front, back, after, h, fun _ => rfl⟩

lemma appendLeft (h : AroundCode f) (code : Code) : AroundCode fun c => code ++ f c := by
  obtain ⟨before, front, back, after, hne, hf⟩ := h
  exact ⟨code ++ before, front, back, after, hne, fun c => by simp only [hf, List.append_assoc]⟩

lemma cons (h : AroundCode f) (line : String) : AroundCode fun c => line :: f c :=
  h.appendLeft [line]

lemma appendRight (h : AroundCode f) (code : Code) : AroundCode fun c => f c ++ code := by
  obtain ⟨before, front, back, after, hne, hf⟩ := h
  exact ⟨before, front, back, after ++ code, hne, fun c => by simp only [hf, List.append_assoc, List.cons_append]⟩

lemma shift (h : AroundCode f) (n : Nat) : AroundCode fun c => (f c).shift n := by
  obtain ⟨before, front, back, after, hne, hf⟩ := h
  have hempty (t u : String) (ht : t.isEmpty = false) : (t ++ u).isEmpty = false := by
    simp only [String.isEmpty_eq_false_iff] at ht ⊢
    simp [ht]
  refine ⟨before.shift n, String.ofList (List.replicate n ' ') ++ front, back, after.shift n, ?_, fun c => ?_⟩
  · simp only [String.isEmpty_eq_false_iff] at hne ⊢
    simp [hne]
  · have hline := hempty _ back (hempty front c hne)
    simp only [hf, Code.shift, List.map_append, List.map_cons, shiftLine, hline, Bool.false_eq_true, if_false]
    simp only [String.append_assoc]

lemma indent (h : AroundCode f) : AroundCode fun c => (f c).indent :=
  h.shift 4

lemma scope (h : AroundCode f) : AroundCode fun c => Code.scope (f c) :=
  (h.indent.appendRight ["\x7d"]).appendLeft ["\x7b"]

lemma render (h : AroundCode f) : Around fun c => (f c).render := by
  obtain ⟨before, front, back, after, -, hf⟩ := h
  refine ⟨Code.render before ++ front, back ++ "\n" ++ Code.render after, fun c => ?_⟩
  simp only [hf, Code.render, List.map_append, List.map_cons, String.join_append, String.join_cons,
    String.append_assoc]

end AroundCode

end Code

/-! ### The text of a getter -/

namespace CType

variable {s : Settings} {t : CType}

lemma definition_declared (t : CType) (d : Option (Option String)) :
    ({ t with declared := d } : CType).definition none (.text "OUT") = t.definition none (.text "OUT") := by
  cases hk : t.kind <;>
    simp only [definition, plainDefinition, lengthText, hk, declaresValue_out, Bool.false_eq_true, if_false]

lemma toObject_declared (t : CType) (d : Option (Option String)) :
    ({ t with declared := d } : CType).toObject = t.toObject := rfl

lemma around_assignObject (t : CType) (incref name : String) :
    Code.Around fun c => (assignObject t incref c name).render := by
  have hcall : Code.AroundCode fun c => [s!"returned_object = (Object) {c};", "Py_END_ALLOW_THREADS", ""] :=
    .here (by decide) _ _
  refine Code.AroundCode.render (.indent (.scope ?_))
  refine .appendRight (.appendRight (.appendRight (.appendRight (.appendRight ?_ _) _) _) _) _
  exact .cons (.cons (.cons (.cons (.cons (.cons (.cons hcall _) _) _) _) _) _) _

lemma around_assignStruct (t : CType) (bare name : String) :
    Code.Around fun c => (assignStruct t bare c name true).render := by
  refine Code.AroundCode.render (.shift (.appendRight (.appendRight (.appendRight (.appendLeft ?_ _) _) _) _) 8)
  refine .here ?_ _ _
  simp [toString]

/-- What is assigned stands around the operand that it is assigned from, or there is nothing to assign. Neither
the declared type nor the error exit counts. -/
lemma around_assign (s : Settings) (t : CType) :
    (∃ f, ∀ c (x : Site), Text.strip c = c → (∃ d, x.ctype = { t with declared := d }) →
      ((assign s (.text c) .nothing true).effect x).1 = .error f) ∨
    ∃ g, Code.Around g ∧ ∀ c (x : Site), Text.strip c = c → (∃ d, x.ctype = { t with declared := d }) →
      ((assign s (.text c) .nothing true).effect x).1 = .ok (g c) := by
  have hsettle (x : Site) : Site.settle.effect x =
      match bareType x.ctype.type with
      | .ok bare => (.ok bare, { x with ctype.declared := some (some bare) })
      | .error f => (.error f, x) := by
    rw [Site.settle, Act.effect_bind_of_ok (Act.effect_view _ _), Act.effect_bind, Act.effect_lift]
    cases bareType x.ctype.type <;> rfl
  have hstart (c : String) (x : Site) : (assign s (.text c) .nothing true).effect x = _ :=
    Act.effect_bind_of_ok (Act.effect_view Site.ctype x)
  cases hk : t.kind with
  | object | objectPointer =>
    refine .inr ⟨_, around_assignObject t s.incref t.name, ?_⟩
    rintro c x hc ⟨d, hx⟩
    rw [hstart, hx]
    dsimp only
    show Except.ok (assignObject _ s.incref (Text.strip c) _).render = _
    rw [hc]
    rfl
  | struct | structPointer =>
    cases hb : bareType t.type with
    | error f =>
      refine .inl ⟨f, ?_⟩
      rintro c x - ⟨d, hx⟩
      rw [hstart, hx]
      dsimp only
      rw [Act.effect_bind, hsettle, hx, hb]
    | ok bare =>
      refine .inr ⟨_, around_assignStruct t bare t.name, ?_⟩
      rintro c x hc ⟨d, hx⟩
      rw [hstart, hx]
      dsimp only
      rw [Act.effect_bind, hsettle, hx, hb]
      show Except.ok (assignStruct _ bare (Text.strip c) _ true).render = _
      rw [hc]
      rfl
  | void | voidPointer =>
    have hcall : Code.AroundCode fun c => [s!"(void) {c};", "Py_END_ALLOW_THREADS"] := .here (by decide) _ _
    refine .inr ⟨_, (hcall.cons "Py_BEGIN_ALLOW_THREADS").indent.render, ?_⟩
    rintro c x - ⟨d, hx⟩
    rw [hstart, hx]
    rfl
  | _ =>
    have hcall : Code.AroundCode fun c => [s!"{t.name} = {c};", "Py_END_ALLOW_THREADS"] :=
      .here (by simp [toString]) _ _
    refine .inr ⟨_, (hcall.cons "Py_BEGIN_ALLOW_THREADS").render, ?_⟩
    rintro c x - ⟨d, hx⟩
    rw [hstart, hx]
    rfl

end CType

/-- Neither the declared type nor the error exit counts for what is assigned. -/
lemma CType.assign_congr {s : Settings} {t : CType} {c : String} {x y : Site} (hc : Text.strip c = c)
    (hx : ∃ d, x.ctype = { t with declared := d }) (hy : ∃ d, y.ctype = { t with declared := d }) :
    ((assign s (.text c) .nothing true).effect x).1 = ((assign s (.text c) .nothing true).effect y).1 := by
  rcases around_assign s t with ⟨f, hf⟩ | ⟨g, -, hg⟩
  · rw [hf c x hc hx, hf c y hc hy]
  · rw [hg c x hc hx, hg c y hc hy]

namespace Method

variable {s : Settings} {t : CType} {b b' : Binding}

/-- The operand that reads a member of the object after a cast to a class. -/
def castOperand (cls name : String) : String :=
  s!"((({cls}) self->base)->{name})"

lemma castOperand_injective (name : String) : Function.Injective fun cls => castOperand cls name := by
  refine Code.Around.injective ⟨"(((", ") self->base)->" ++ name ++ ")", fun cls => ?_⟩
  simp only [castOperand, toString, String.append_assoc]

lemma strip_castOperand (cls name : String) : Text.strip (castOperand cls name) = castOperand cls name :=
  strip_of_parentheses ("((".toList ++ cls.toList ++ ") self->base)->".toList ++ name.toList)
    (by simp [castOperand, toString])

/-- A class that has a base casts the object to itself. -/
lemma memberOperand_of_based {m : Method} (h : (m.baseName.getD "").isEmpty = false) (cls name : String) :
    m.memberOperand cls name = castOperand cls name := by
  rw [memberOperand, h]
  rfl

/-- The getter of an attribute, in a class, that reads the attribute with an operand. -/
def getterBy (s : Settings) (cls operand : String) (t : CType) : Except Fault String := do
  let convert ← t.toObject
  let assign ← ((CType.assign s (.text operand) .nothing true).effect ⟨t, true⟩).1
  let define ← t.definition none (.text "OUT")
  return getterText t.kind cls t.name define assign convert t.errorValue

/-- How the getter comes out does not depend on the declared type of the attribute. -/
lemma getterBy_declared {c : String} (hc : Text.strip c = c) (cls : String) (t : CType)
    (d : Option (Option String)) : getterBy s cls c { t with declared := d } = getterBy s cls c t := by
  have hassign : ((CType.assign s (.text c) .nothing true).effect ⟨{ t with declared := d }, true⟩).1 =
      ((CType.assign s (.text c) .nothing true).effect ⟨t, true⟩).1 :=
    CType.assign_congr hc ⟨d, rfl⟩ ⟨t.declared, rfl⟩
  rw [getterBy, hassign, CType.definition_declared, CType.toObject_declared, getterBy]

lemma around_getterText (k : Kind) (cls name define convert value : String) :
    Code.Around fun assign => getterText k cls name define assign convert value := by
  obtain ⟨before, hbefore⟩ : ∃ before : Code, ∀ assign, getterCode cls name define assign convert =
      before ++ assign :: [convert, "", "    return Py_result;", ""] := by
    apply Exists.intro
    intro assign
    rw [getterCode, List.append_cons _ ""]
  have hcode : Code.Around fun assign => (getterCode cls name define assign convert).render := by
    refine ⟨before.render, "\n" ++ Code.render [convert, "", "    return Py_result;", ""], fun assign => ?_⟩
    simp only [hbefore, Code.render, List.map_append, List.map_cons, String.join_append, String.join_cons,
      String.append_assoc]
  exact (hcode.append _).append _

/-- Different operands make different getters. -/
lemma eq_of_getterBy {c c' cls text : String} (hc : Text.strip c = c) (hc' : Text.strip c' = c')
    (h : getterBy s cls c t = .ok text) (h' : getterBy s cls c' t = .ok text) : c = c' := by
  rcases CType.around_assign s t with ⟨f, hf⟩ | ⟨g, hg, hassign⟩
  · rw [getterBy, hf c _ hc ⟨t.declared, rfl⟩] at h
    cases hconvert : t.toObject <;> rw [hconvert] at h <;> cases h
  · rw [getterBy, hassign c _ hc ⟨t.declared, rfl⟩] at h
    rw [getterBy, hassign c' _ hc' ⟨t.declared, rfl⟩] at h'
    cases hconvert : t.toObject with
    | error f =>
      rw [hconvert] at h
      cases h
    | ok convert =>
      cases hdefine : t.definition none (.text "OUT") with
      | error f =>
        rw [hconvert, hdefine] at h
        cases h
      | ok define =>
        rw [hconvert, hdefine] at h h'
        have htext := (Except.ok.inj h).trans (Except.ok.inj h').symm
        exact hg.injective ((around_getterText _ _ _ _ _ _).injective htext)

/-! ### Writing getters -/

/-- What getters are written from is the same. -/
structure SameAttributes (b b' : Binding) : Prop where
  declared : b'.asDeclared = b.asDeclared
  size : b'.members.size = b.members.size
  members : ∀ k, ∃ d, (b'.memberAt k) = { b.memberAt k with ctype.declared := d }

lemma SameAttributes.refl (b : Binding) : SameAttributes b b :=
  ⟨rfl, rfl, fun _ => ⟨_, rfl⟩⟩

lemma SameAttributes.trans {b'' : Binding} (h : SameAttributes b b') (h' : SameAttributes b' b'') :
    SameAttributes b b'' := by
  refine ⟨h'.declared.trans h.declared, h'.size.trans h.size, fun k => ?_⟩
  obtain ⟨d, hd⟩ := h.members k
  obtain ⟨d', hd'⟩ := h'.members k
  exact ⟨d', by rw [hd', hd]⟩

/-- The binding after a member was worked on at its place of use. -/
def withSite (b : Binding) (ref : MethodRef) (k : MemberId) (site : CType.Site) : Binding :=
  { b with
    members := b.members.modify k fun x => { x with ctype := site.ctype }
    classes := b.classes.modify ref.cls fun c =>
      c.modifyMethod ref.slot fun m => { m with errorSet := site.errorSet } }

lemma effect_atMember {α : Type} {ref : MethodRef} {m : Method} (hm : b.method? ref = some m) (k : MemberId)
    (act : Act CType.Site α) :
    (atMember ref k act).effect b = ((act.effect ⟨(b.memberAt k).ctype, m.errorSet⟩).1,
      withSite b ref k (act.effect ⟨(b.memberAt k).ctype, m.errorSet⟩).2) := by
  rw [atMember, Act.effect_bind_of_ok (effect_method hm), Act.effect_bind_of_ok (Act.effect_state b)]
  rfl

lemma memberAt_withSite {ref : MethodRef} {k : MemberId} (hk : k < b.members.size) (site : CType.Site)
    (i : MemberId) : (withSite b ref k site).memberAt i =
      if i = k then { b.memberAt k with ctype := site.ctype } else b.memberAt i := by
  rw [memberAt, withSite, Array.getElem?_modify]
  split
  next h =>
    subst h
    rw [if_pos rfl, memberAt, Array.getElem?_eq_getElem hk]
    rfl
  next h => rw [if_neg (Ne.symm h), memberAt]

lemma sameAttributes_withSite {ref : MethodRef} {k : MemberId} {site : CType.Site} (hk : k < b.members.size)
    (hsite : ∃ d, site.ctype = { (b.memberAt k).ctype with declared := d }) (out : String) :
    SameAttributes b { withSite b ref k site with out } := by
  refine ⟨?_, Array.size_modify, fun i => ?_⟩
  · let setError (m : Method) : Method := { m with errorSet := site.errorSet }
    exact asDeclared_withClass (f := (·.modifyMethod ref.slot setError))
      (fun c => c.asDeclared_modifyMethod (f := setError) (fun _ => rfl) ref.slot) b ref.cls
  · obtain ⟨d, hd⟩ := hsite
    show ∃ d, (withSite b ref k site).memberAt i = _
    rw [memberAt_withSite hk]
    split
    next h => exact ⟨d, by rw [h, hd]⟩
    next => exact ⟨_, rfl⟩

/-- The value of a member is taken over as it would be where errors can be reported, and the member at most learns
how it was declared. -/
lemma ends_assignMember {ref : MethodRef} {m : Method} {k : MemberId} {operand : String}
    (hm : b.method? ref = some m) (hk : k < b.members.size) (hstrip : Text.strip operand = operand) :
    (atMember ref k (CType.assign b.settings (.text operand) .nothing true)).Ends b
      (fun assign b' => ∃ site d, b' = withSite b ref k site ∧
        site.ctype = { (b.memberAt k).ctype with declared := d } ∧
        ((CType.assign b.settings (.text operand) .nothing true).effect ⟨(b.memberAt k).ctype, true⟩).1 = .ok assign)
      (fun _ b' => SameAttributes b b' ∧ b'.out = b.out) := by
  have hat := effect_atMember hm k (CType.assign b.settings (.text operand) .nothing true)
  have hfrom := (CType.maintains_assign (t := (b.memberAt k).ctype) (e := m.errorSet) b.settings (.text operand)
    .nothing true) _ CType.Site.from_start
  have hassign : ((CType.assign b.settings (.text operand) .nothing true).effect
      ⟨(b.memberAt k).ctype, m.errorSet⟩).1 =
      ((CType.assign b.settings (.text operand) .nothing true).effect ⟨(b.memberAt k).ctype, true⟩).1 :=
    CType.assign_congr hstrip ⟨_, rfl⟩ ⟨_, rfl⟩
  rcases ha : (CType.assign b.settings (.text operand) .nothing true).effect ⟨(b.memberAt k).ctype, m.errorSet⟩
    with ⟨f | assign, site⟩ <;> rw [ha] at hat hassign
  · obtain ⟨hctype, -⟩ := hfrom.error ha
    exact .of_error hat ⟨sameAttributes_withSite hk hctype _, rfl⟩
  · obtain ⟨⟨d, hd⟩, -⟩ := (hfrom.ok ha).1
    exact .of_ok hat ⟨site, d, rfl, hd, hassign.symm⟩

/-- The getter of a member is written with the operand that the reader gives, or nothing is written. -/
lemma ends_writeGetter {ref : MethodRef} {m : Method} {cls : String} {k : MemberId}
    (hm : b.method? ref = some m) (hcls : m.className = some cls) (hk : k < b.members.size) :
    (writeGetter ref k).Ends b
      (fun _ b' => SameAttributes b b' ∧ ∃ text, b'.out = b.out ++ text ∧
        getterBy b.settings cls (m.memberOperand cls (b.memberAt k).ctype.name) (b.memberAt k).ctype = .ok text)
      (fun _ b' => SameAttributes b b' ∧ b'.out = b.out) := by
  have hneed : (need m.className : Act Binding String).effect b = (.ok cls, b) := by
    rw [need, hcls]
    rfl
  have hlift {α : Type} {r : Except Fault α} {a : α} (b : Binding) (h : r = .ok a) :
      (Act.lift r : Act Binding α).effect b = (.ok a, b) := by
    rw [h]
    rfl
  refine .bind_of_ok (effect_method hm) (.bind_of_ok (Act.effect_state b) (.bind_of_ok hneed ?_))
  dsimp only
  have hassigns := ends_assignMember hm hk (strip_memberOperand m cls (b.memberAt k).ctype.name)
  generalize m.memberOperand cls (b.memberAt k).ctype.name = operand at hassigns ⊢
  cases hconvert : (b.memberAt k).ctype.toObject with
  | error f => exact .of_error rfl ⟨.refl b, rfl⟩
  | ok convert =>
    refine .bind_of_ok (hlift b rfl) (hassigns.bind ?_)
    rintro assign _ ⟨site, d, rfl, hd, hassign⟩
    have hsame (out : String) : SameAttributes b { withSite b ref k site with out } :=
      sameAttributes_withSite hk ⟨d, hd⟩ out
    have ht : ((withSite b ref k site).memberAt k).ctype = { (b.memberAt k).ctype with declared := d } := by
      rw [memberAt_withSite hk, if_pos rfl]
      exact hd
    refine .bind_of_ok (Act.effect_state _) ?_
    rw [ht, CType.definition_declared]
    cases hdefine : (b.memberAt k).ctype.definition none (.text "OUT") with
    | error f => exact .of_error rfl ⟨hsame _, rfl⟩
    | ok define =>
      refine .bind_of_ok (hlift _ rfl) (.bind_of_ok (Act.effect_update _ _) ?_)
      have hgetter : getterBy b.settings cls operand (b.memberAt k).ctype =
          .ok (getterText (b.memberAt k).ctype.kind cls (b.memberAt k).ctype.name define assign convert
            (b.memberAt k).ctype.errorValue) := by
        rw [getterBy, hconvert, hassign, hdefine]
        rfl
      dsimp only
      split
      next hstring =>
        refine .bind_of_ok (Act.effect_update _ _) (.of_ok (Act.effect_update _ _) ⟨hsame _, _, ?_, hgetter⟩)
        rw [getterText, if_pos hstring]
        simp only [withSite, String.append_assoc]
      next hstring =>
        refine .of_ok (Act.effect_update _ _) ⟨hsame _, _, ?_, hgetter⟩
        rw [getterText, if_neg hstring]
        simp only [withSite, String.append_assoc, String.append_empty]

/-- The reader as it is found when getters were written already. -/
lemma SameAttributes.method? (h : SameAttributes b b') {ref : MethodRef} {m : Method}
    (hm : b.method? ref = some m) :
    ∃ m', b'.method? ref = some m' ∧ m'.className = m.className ∧ m'.baseName = m.baseName := by
  have hdeclared : b'.asDeclared.method? ref = b.asDeclared.method? ref := by rw [h.declared]
  rw [method?_asDeclared, method?_asDeclared, hm, Option.map_some, Option.map_eq_some_iff] at hdeclared
  obtain ⟨m', hm', heq⟩ := hdeclared
  exact ⟨m', hm', (congrArg className heq :), (congrArg baseName heq :)⟩

/-- The members that a reader exposes. -/
def exposed (m : Method) (b : Binding) : List (MemberId × Member) :=
  (m.members.map fun k => (k, b.memberAt k)).filter fun (_, x) =>
    b.registry.isActive (some x.ctype.type) || b.activeStructs.contains x.ctype.type

lemma effect_exposedMembers (m : Method) (b : Binding) : m.exposedMembers.effect b = (.ok (m.exposed b), b) := rfl

/-- The text is that of the getter of a member, as the reader of a class has it written. -/
def Reads (s : Settings) (m : Method) (cls : String) (x : MemberId × Member) (text : String) : Prop :=
  getterBy s cls (m.memberOperand cls x.2.ctype.name) x.2.ctype = .ok text

/-- The getters of members are written one after another, up to one that fails. -/
lemma ends_writeEach {ref : MethodRef} {m : Method} {cls : String} (hm : b.method? ref = some m)
    (hcls : m.className = some cls) (xs : List (MemberId × Member))
    (hxs : ∀ x ∈ xs, x.1 < b.members.size ∧ x.2 = b.memberAt x.1) (h : SameAttributes b b') :
    (ForIn.forIn xs PUnit.unit fun x _ => do
        writeGetter ref x.1
        return .yield ⟨⟩ : Act Binding PUnit).Ends b'
      (fun _ b'' => ∃ texts, b''.out = b'.out ++ String.join texts ∧ List.Forall₂ (Reads b.settings m cls) xs texts)
      (fun _ b'' => ∃ done texts, done <+: xs ∧ b''.out = b'.out ++ String.join texts ∧
        List.Forall₂ (Reads b.settings m cls) done texts) := by
  induction xs generalizing b' with
  | nil => exact .pure ⟨[], by simp, .nil⟩
  | cons x xs ih =>
    obtain ⟨m', hm', hname, hbase⟩ := h.method? hm
    obtain ⟨hlt, hx⟩ := hxs x List.mem_cons_self
    have hsettings : b'.settings = b.settings := (congrArg Binding.settings h.declared :)
    have hgetter := ends_writeGetter hm' (hname.trans hcls) (h.size.symm ▸ hlt)
    rw [List.forIn_cons]
    rcases he : (writeGetter ref x.1).effect b' with ⟨f | _, b₁⟩
    · obtain ⟨-, hout⟩ := hgetter.error he
      refine .of_error (Act.effect_bind_of_error (Act.effect_bind_of_error he)) ⟨[], [], List.nil_prefix, ?_, .nil⟩
      simpa using hout
    · obtain ⟨hsame, text, hout, htext⟩ := hgetter.ok he
      -- Getters that were written already may have settled the declared type of the member.
      have hreads : Reads b.settings m cls x text := by
        obtain ⟨d, hd⟩ := h.members x.1
        have hoperand : m'.memberOperand = m.memberOperand := by
          funext cls name
          rw [memberOperand, memberOperand, hbase]
        rw [hsettings, hd, ← hx, hoperand, getterBy_declared (strip_memberOperand _ _ _)] at htext
        exact htext
      refine .bind_of_ok (Act.effect_bind_of_ok he) ((ih ?_ (h.trans hsame)).mono ?_ ?_)
      · exact fun y hy => hxs y (List.mem_cons_of_mem _ hy)
      · rintro _ b₂ ⟨texts, hout₂, hall⟩
        exact ⟨text :: texts, by rw [hout₂, hout, String.join_cons, String.append_assoc], .cons hreads hall⟩
      · rintro _ b₂ ⟨done, texts, ⟨rest, rfl⟩, hout₂, hall⟩
        exact ⟨x :: done, text :: texts, ⟨rest, rfl⟩, by rw [hout₂, hout, String.join_cons, String.append_assoc],
          .cons hreads hall⟩

/-- The getters of a class are written for the members that are exposed, in their order, up to one that fails. -/
lemma ends_writeGetters (ref : MethodRef) {m : Method} {cls : String} (hm : b.method? ref = some m)
    (hcls : m.className = some cls) (hk : ∀ k ∈ m.members, k < b.members.size) :
    (writeGetters ref).Ends b
      (fun _ b' => ∃ texts, b'.out = b.out ++ String.join texts ∧
        List.Forall₂ (Reads b.settings m cls) (m.exposed b) texts)
      (fun _ b' => ∃ done texts, done <+: m.exposed b ∧ b'.out = b.out ++ String.join texts ∧
        List.Forall₂ (Reads b.settings m cls) done texts) := by
  have hexposed : ∀ x ∈ m.exposed b, x.1 < b.members.size ∧ x.2 = b.memberAt x.1 := by
    intro x hx
    obtain ⟨k, hk', rfl⟩ := List.mem_map.mp (List.mem_filter.mp hx).1
    exact ⟨hk k hk', rfl⟩
  refine .bind_of_ok (effect_method hm) (.bind_of_ok (effect_exposedMembers m b) ?_)
  exact (ends_writeEach hm hcls (m.exposed b) hexposed (.refl b)).bind fun _ b' h => .pure h

end Method

end HeaderBind
