import HeaderBind.Proofs.Header.Titles

/-!
# Invariants of headers

Many properties of what was read of a header are properties of the binding, with one of the method that is
still open (`Satisfies`). Such a property lasts while headers are read if every action makes it last
(`Built.satisfies`). An action works on the binding with one of a few steps, and it is enough that this step
maintains the property of bindings. What has nothing to do with declarations lasts under all actions if it
lasts when a constant is added (`stays_action`).
-/

namespace HeaderBind

/-- The binding and the method that is open have properties. -/
structure Header.Satisfies (I : Binding → Prop) (Q : Method → Prop) (h : Header) : Prop where
  binding : I h.binding
  inMethod : ∀ m ∈ h.currentMethod, Q m

namespace HeaderReader

open Declaring Lexer Header.Table

variable {α : Type} {I : Binding → Prop} {Q : Method → Prop} {x y : HeaderReader} {m : Match}

/-- An action makes the properties last, if it does not fail. -/
def Stays (I : Binding → Prop) (Q : Method → Prop) (act : Act HeaderReader Unit) : Prop :=
  ∀ x y : HeaderReader, act.effect x = (.ok (), y) → x.host.Sound → x.host.Satisfies I Q → y.host.Satisfies I Q

/-! ### Steps -/

lemma satisfies_withBinding {b : Binding} (hb : I b) (hx : x.host.Satisfies I Q) :
    (x.withBinding b).host.Satisfies I Q :=
  ⟨hb, hx.inMethod⟩

lemma stays_onBinding {act : Act Binding Unit} (h : act.Maintains I fun _ => True) : Stays I Q (onBinding act) := by
  intro x y he _ hx
  obtain ⟨b, hb, rfl⟩ := onBinding_eq_ok he
  exact satisfies_withBinding (h.of_effect hx.binding hb).1 hx

lemma Stays.opened {which : Header → Option ClassId} {act : ClassId → Act HeaderReader Unit}
    (h : ∀ id, Stays I Q (act id)) : Stays I Q (do act (← opened (which (← header)))) := by
  intro x y he hsound hx
  obtain ⟨id, -, he⟩ := opened_bind_eq_ok he
  exact h id x y he hsound hx

lemma stays_comment {f : Header → String} : Stays I Q (modifyHeader fun h => { h with comment := f h }) := by
  intro x y he _ hx
  cases he
  exact ⟨hx.binding, hx.inMethod⟩

lemma stays_defineConstant (h : ∀ b, I b → I (constantIn (trimmed m 1) m.text b)) :
    Stays I Q (defineConstant m) := by
  intro x y he _ hx
  rw [effect_defineConstant, Prod.mk.injEq] at he
  rw [← he.2]
  exact satisfies_withBinding (h _ hx.binding) hx

lemma stays_startClass
    (h : ∀ doc, (openClass doc (m.group? 1) (trimmed m 2) (trimmed m 3)).Maintains I fun _ => True) :
    Stays I Q (startClass m) := by
  intro x y he _ hx
  obtain ⟨id, b, hopen, rfl⟩ := startClass_eq_ok he
  exact ⟨((h _).of_effect hx.binding hopen).1, hx.inMethod⟩

lemma stays_endClass : Stays I Q endClass := by
  intro x y he _ hx
  cases he
  exact ⟨hx.binding, hx.inMethod⟩

lemma stays_startMethod (h : ∀ id doc, (openMethod id doc (trimmed m 2) (trimmed m 5)).Maintains I Q) :
    Stays I Q (startMethod m) := by
  intro x y he _ hx
  rcases startMethod_eq_ok he with ⟨-, rfl⟩ | ⟨-, id, method, b, -, hopen, rfl⟩
  · exact hx
  · obtain ⟨hb, hmethod⟩ := (h id _).of_effect hx.binding hopen
    refine ⟨hb, ?_⟩
    rintro _ ⟨⟩
    exact hmethod

lemma stays_addMethodArgument
    (h : ∀ method : Method, (method.addArgument (trimmed m 1) (trimmed m 2)).Maintains I fun _ => True) :
    Stays I Q (addMethodArgument m) := by
  intro x y he hsound hx
  cases hm : x.host.currentMethod with
  | none =>
    rw [effect_addMethodArgument_of_none hm] at he
    cases he
    exact hx
  | some method =>
    rw [effect_addMethodArgument hm (hsound.inMethod method hm).1] at he
    exact stays_onBinding (h method) x y he hsound hx

lemma stays_endMethod (h : ∀ b id method, I b → Q method → I (b.withClass id (Class.putMethod · method))) :
    Stays I Q endMethod := by
  intro x y he hsound hx
  rcases endMethod_eq_put hsound he with ⟨-, rfl⟩ | ⟨method, id, hm, -, rfl⟩
  · exact hx
  · exact ⟨h _ id method hx.binding (hx.inMethod method hm), forall_mem_none⟩

lemma stays_startStruct (h : ∀ doc, (openStruct (some (trimmed m 2)) fun c =>
      { c with doc }.addModifier (m.group? 1)).Maintains I fun _ => True) : Stays I Q (startStruct m) := by
  intro x y he _ hx
  obtain ⟨id, b, hopen, rfl⟩ := startStruct_eq_ok he
  exact ⟨((h _).of_effect hx.binding hopen).1, hx.inMethod⟩

lemma stays_startNamelessStruct
    (h : ∀ doc, (openStruct none fun c => { c with doc }).Maintains I fun _ => True) :
    Stays I Q startNamelessStruct := by
  intro x y he _ hx
  obtain ⟨id, b, hopen, rfl⟩ := startNamelessStruct_eq_ok he
  exact ⟨((h _).of_effect hx.binding hopen).1, hx.inMethod⟩

lemma stays_endStruct (h : ∀ id, (closeStruct id).Maintains I fun _ => True) : Stays I Q endStruct := by
  intro x y he _ hx
  obtain ⟨id, b, -, hclose, rfl⟩ := endStruct_eq_ok he
  exact ⟨((h id).of_effect hx.binding hclose).1, hx.inMethod⟩

lemma stays_endNamedStruct (hn : ∀ id, (nameClass id (trimmed m 1)).Maintains I fun _ => True)
    (h : ∀ id, (closeStruct id).Maintains I fun _ => True) : Stays I Q (endNamedStruct m) := by
  intro x y he _ hx
  obtain ⟨id, b, -, hclose, rfl⟩ := endNamedStruct_eq_ok he
  exact ⟨(((hn id).andThen fun _ => h id).of_effect hx.binding hclose).1, hx.inMethod⟩

lemma stays_startEnum {name : Option String} (h : (Class.makeEnum name).Maintains I fun _ => True) :
    Stays I Q (startEnum name) := by
  intro x y he _ hx
  obtain ⟨id, b, hopen, rfl⟩ := startEnum_eq_ok he
  exact ⟨(h.of_effect hx.binding hopen).1, hx.inMethod⟩

lemma stays_endEnum (h : ∀ id, (closeEnum id).Maintains I fun _ => True) : Stays I Q endEnum := by
  intro x y he _ hx
  obtain ⟨id, b, -, hclose, rfl⟩ := endEnum_eq_ok he
  exact ⟨((h id).of_effect hx.binding hclose).1, hx.inMethod⟩

lemma stays_endNamedEnum (hn : ∀ id, (nameClass id (m.group 1)).Maintains I fun _ => True)
    (h : ∀ id, (closeEnum id).Maintains I fun _ => True) : Stays I Q (endNamedEnum m) := by
  intro x y he _ hx
  obtain ⟨id, b, -, hclose, rfl⟩ := endNamedEnum_eq_ok he
  exact ⟨(((hn id).andThen fun _ => h id).of_effect hx.binding hclose).1, hx.inMethod⟩

/-! ### What declarations have nothing to do with -/

lemma stays_action {name : String} {act : Match → Act HeaderReader Unit}
    (hdeclare : ∀ g, Binding.Declares g → ∀ b, I b → I (g b))
    (hconstant : ∀ b name type, I b → I (b.addConstant name type)) (h : action name = some act) (m : Match) :
    Stays I (fun _ => True) (act m) := by
  have hcomposed {α : Type} {act : Act Binding α} (h : Binding.Composed Binding.Declares act) :
      act.Maintains I fun _ => True := h.maintains hdeclare
  have hclass (id : ClassId) (f : ClassDef → ClassDef) : (Binding.modifyClass id f).Maintains I fun _ => True :=
    hcomposed (Binding.composed_modifyClass id f)
  have hmethod (id : ClassId) (doc returns name : String) :
      (openMethod id doc returns name).Maintains I fun _ => True := by
    refine .andThen (.mono .state fun _ _ => trivial) fun b => .andThen ?_ fun _ => ?_
    · unfold addProtocol
      split
      · exact hclass _ _
      · exact .pure trivial
    · exact .andThen (hcomposed (Method.composed_make _ _ _ _ _ _ _)) fun _ => .pure trivial
  have hstruct (id : ClassId) : (closeStruct id).Maintains I fun _ => True := by
    refine .andThen (hcomposed (Class.composed_declare _ _)) fun _ => .bind .state fun b _ => ?_
    refine .andThen (.liftAny _) fun _ => hcomposed (.update ⟨fun _ _ => rfl, fun _ => rfl⟩)
  have hconstants (values : List String) (b : Binding) (hb : I b) :
      I (values.foldl (fun b v => b.addConstant v "integer") b) := by
    induction values generalizing b with
    | nil => exact hb
    | cons v values ih => exact ih _ (hconstant b v "integer" hb)
  have henum (id : ClassId) : (closeEnum id).Maintains I fun _ => True :=
    .andThen (hcomposed (Class.composed_declare _ _)) fun _ => .bind .state fun b _ => .update (hconstants _)
  cases h using action_cases with
  | bindStruct => exact stays_onBinding (hcomposed (.update ⟨fun _ _ => rfl, fun _ => rfl⟩))
  | addClassAttribute => exact .opened fun id => stays_onBinding (hcomposed (Class.composed_addAttribute _ _ _ _ _))
  | startClass => exact stays_startClass fun doc => hcomposed (composed_openClass _ _ _ _)
  | clearComment => exact stays_comment
  | addComment => exact stays_comment
  | endComment => exact stays_comment
  | defineConstant =>
    refine stays_defineConstant fun b hb => ?_
    rw [constantIn]
    split
    · exact hconstant b _ _ hb
    · exact hb
  | endClass => exact stays_endClass
  | endEnum => exact stays_endEnum henum
  | startEnum => exact stays_startEnum (hcomposed (Class.composed_makeEnum _))
  | addEnumValue => exact .opened fun id => stays_onBinding (hclass _ _)
  | addMethodArgument =>
    exact stays_addMethodArgument fun method => hcomposed (Method.composed_addArgument _ _ _).declares
  | endMethod =>
    refine stays_endMethod fun b id method hb _ => ?_
    exact hdeclare (·.withClass id (Class.putMethod · method)) ⟨fun _ _ => rfl, fun _ => rfl⟩ b hb
  | startMethod => exact stays_startMethod fun id doc => hmethod id doc _ _
  | aliasType => exact stays_onBinding (hcomposed (.update ⟨fun _ _ => rfl, fun _ => rfl⟩))
  | addStructAttribute => exact .opened fun id => stays_onBinding (hcomposed (Class.composed_addAttribute _ _ _ _ _))
  | addStructPointer => exact .opened fun id => stays_onBinding (hcomposed (Class.composed_addAttribute _ _ _ _ _))
  | endStruct => exact stays_endStruct hstruct
  | startStruct => exact stays_startStruct fun doc => hcomposed (composed_openStruct _ _)
  | endNamedEnum => exact stays_endNamedEnum (fun id => hclass _ _) henum
  | startNamelessEnum => exact stays_startEnum (hcomposed (Class.composed_makeEnum _))
  | endNamedStruct => exact stays_endNamedStruct (fun id => hclass _ _) hstruct
  | startNamelessStruct => exact stays_startNamelessStruct fun doc => hcomposed (composed_openStruct _ _)

/-! ### Reading on -/

/-- What holds of new readers and lasts under every action holds of what was read. -/
theorem Built.satisfies (h : Built x) (hstart : ∀ x, Started x → x.host.Satisfies I Q)
    (hstays : ∀ (x : HeaderReader) name m act, x.nextAction = some (name, m) → action name = some act →
      Stays I Q (act m))
    (hnote : ∀ (b : Binding) files includes, I b → I { b with files, includes }) : x.host.Satisfies I Q := by
  induction h with
  | start h => exact hstart _ h
  | feed _ he ih =>
    obtain ⟨text, rfl⟩ := feed_eq_ok he
    exact ih
  | @next x y atEnd token h he ih =>
    have hwell := h.wellRead
    have hacts := (agrees_nextToken hwell.rows hwell.agrees he).2
    obtain ⟨heq, -⟩ | ⟨name, m, act, hcalled, hact, x', y', he', hx', hy'⟩ := hacts.cases
    · exact heq ▸ ih
    · rw [← hy']
      exact hstays x name m act hcalled hact x' y' he' (hx' ▸ hwell.sound) (hx' ▸ ih)
  | note _ he ih =>
    obtain rfl | ⟨files, includes, rfl⟩ := noteFile_eq_ok he
    · exact ih
    · exact ⟨hnote _ files includes ih.binding, ih.inMethod⟩

end HeaderReader

end HeaderBind
