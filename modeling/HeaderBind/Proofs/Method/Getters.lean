import HeaderBind.Proofs.Method.Quiet

/-!
# Functions that read an attribute

A getter is pieced together from the declaration of the value, the assignment and the conversion of the
value, each of which depends on the kind of the attribute. Only for strings the label of the error exit is
written, but the code for objects and for single characters jumps there as well.
-/

namespace HeaderBind

open Binding Code

variable {s : Settings} {I : Binding → Prop} {o : String} {t : CType} {e : Bool}

namespace Method

/-- An operand without blanks around it, which holds neither a jump nor a label. -/
structure Operand (c : String) : Prop where
  strip : Text.strip c = c
  calm : Calm c
  clear : ':' ∉ c.toList

lemma strip_of_parentheses {c : String} (inner : List Char) (hc : c.toList = '(' :: inner ++ [')']) :
    Text.strip c = c := by
  have hopen : Text.isBlank '(' = false := by decide
  have hclose : Text.isBlank ')' = false := by decide
  rw [Text.strip, hc]
  have htrim : Text.trimRight ('(' :: inner ++ [')']) = '(' :: inner ++ [')'] := by
    simp [Text.trimRight, hclose]
  rw [List.cons_append, List.dropWhile_cons_of_neg (by simp [hopen]), ← List.cons_append, htrim, ← hc,
    String.ofList_toList]

lemma strip_memberOperand (m : Method) (cls name : String) :
    Text.strip (m.memberOperand cls name) = m.memberOperand cls name := by
  unfold memberOperand
  split
  · exact strip_of_parentheses ("self->base->".toList ++ name.toList) (by simp [toString])
  · exact strip_of_parentheses ("((".toList ++ cls.toList ++ ") self->base)->".toList ++ name.toList)
      (by simp [toString])

lemma operand_memberOperand (m : Method) {cls name : String} (hcls : IsName cls) (hname : IsName name) :
    Operand (m.memberOperand cls name) := by
  have hcls' := hcls.calm
  have hname' := hname.calm
  refine ⟨strip_memberOperand m cls name, ?_, ?_⟩
  · unfold memberOperand
    split
    all_goals
      refine Pieced.holds joins_calm ?_
      with_reducible repeat' first | assumption | constructor
      all_goals decide
  · unfold memberOperand
    split
    · simp [toString, hname.2.2]
    · simp [toString, hname.2.2, hcls.2.2]

/-- The text of a getter. -/
def getterText (k : Kind) (cls name define assign convert value : String) : String :=
  (getterCode cls name define assign convert).render
    ++ (if k.isString then errorLabel ++ s!":\n    {value}\n" else "") ++ "\x7d\n\n"

/-- What is known of a getter, from what is known of its pieces for a kind. -/
lemma brings_writeGetter {k : Kind} {C A D R : String → Prop} (ref : MethodRef) (id : MemberId)
    (hconvert : ∀ t : CType, t.Tidy → t.kind = k → Gives C t.toObject)
    (hassign : ∀ (t : CType) e c, t.Tidy → t.kind = k → Operand c →
      (CType.assign s (.text c) .nothing true).Maintains (CType.Site.From t e) A)
    (hdefine : ∀ t : CType, t.Tidy → t.kind = k → Gives D (t.definition none (.text "OUT")))
    (htext : ∀ cls name define assign convert value, IsName cls → IsName name → D define → A assign →
      C convert → R (getterText k cls name define assign convert value)) :
    (writeGetter ref id).Brings (fun b => Wrote s o (· = "") b ∧ memberKind id b = k) (Wrote s o R) := by
  refine (maintains_method (fun b hb => hb.1.1) ref).bind_brings fun m hm => ?_
  refine Act.Maintains.state.bind_brings fun b hb => ?_
  refine (maintains_need_name hm.1.className).bind_brings fun cls hcls => ?_
  have htidy := hb.1.1.members id
  have hoperand := operand_memberOperand m hcls htidy.name
  dsimp only
  rw [hb.1.1.settings]
  refine (Act.Maintains.lift (hconvert _ htidy hb.2)).bind_brings fun convert hc => ?_
  refine (maintains_atMember ref fun t e ht hk => hassign t e _ ht hk hoperand).bind_brings fun assign ha => ?_
  refine Act.Maintains.state.bind_brings fun b' hb' => ?_
  refine (Act.Maintains.lift (hdefine _ (hb'.1.1.members id) hb'.2)).bind_brings fun define hd => ?_
  have hkind : (b'.memberAt id).ctype.kind = k := hb'.2
  have hcode : ∀ code : Code, (emitCode code).Brings (fun b => Wrote s o (· = "") b ∧ memberKind id b = k)
      (Wrote s o (· = code.render)) := by
    intro code
    refine (brings_emit ?_).mono (fun _ hb => hb.1) fun _ h => h
    rintro _ rfl
    exact String.empty_append
  refine (hcode _).bind fun _ => ?_
  rw [hkind]
  cases hstring : k.isString with
  | false =>
    rw [if_neg Bool.false_ne_true]
    refine brings_emit ?_
    rintro _ rfl
    have hgetter := htext cls _ define assign convert "" hcls htidy.name hd ha hc
    rwa [getterText, hstring, if_neg Bool.false_ne_true, String.append_empty] at hgetter
  | true =>
    rw [if_pos rfl]
    have hlabel : ∀ t u : String, (emit u).Brings (Wrote s o (· = t)) (Wrote s o (· = t ++ u)) := by
      intro t u
      refine brings_emit ?_
      rintro _ rfl
      rfl
    refine (hlabel _ _).bind fun _ => brings_emit ?_
    rintro _ rfl
    have hgetter := htext cls _ define assign convert (b'.memberAt id).ctype.errorValue hcls htidy.name hd ha hc
    rwa [getterText, hstring, if_pos rfl] at hgetter

end Method

namespace CType

/-! ### Calm pieces -/

lemma ok_bind {α β : Type} (a : α) (f : α → Except Fault β) : (Except.ok a >>= f) = f a := rfl

lemma not_proxied : Datum.isText "proxied" (.text "IN") = false := by decide

lemma orElse_nothing (s : String) : Datum.nothing.orElse s = .text s := rfl

lemma calm_toObject (ht : t.Tidy) (hstring : t.kind.isString = false) (hquiet : t.kind ≠ .character) :
    Gives Calm t.toObject := by
  have hname := ht.name.calm
  cases hk : t.kind with
  | plain | pyObject =>
    simp only [toObject, hk]
    exact .error _
  | string | zeroTerminated | borrowedString | stringOut | stringArray =>
    simp [hk, Kind.isString] at hstring
  | buffer | bufferOut | blob | blobPointer => exact absurd ht.single (by simp [hk, Kind.isBuffer])
  | character => exact absurd hk hquiet
  | integer i =>
    simp only [toObject, hk, not_proxied, orElse_nothing, Datum.asText, ok_bind]
    have hshort : ∀ maker name, Calm maker → Calm name →
        CalmCode (fromInteger maker name "Py_result" false) := by
      intro maker name hm hn
      simp only [fromInteger, Bool.false_eq_true, if_false]
      with_reducible repeat' first | assumption | constructor
      all_goals decide
    have hwide : ∀ maker maker' name, Calm maker → Calm maker' → Calm name →
        CalmCode (fromWideInteger maker maker' name "Py_result" false) := by
      intro maker maker' name hm hm' hn
      simp only [fromWideInteger, Bool.false_eq_true, if_false]
      with_reducible repeat' first | assumption | constructor
      all_goals decide
    cases i with
    | int | int8 | int16 | int32 =>
      exact .pure ((hshort _ _ (joins_calm.spelled _ (by decide)) hname).indent.render joins_calm)
    | unsigned | uint8 | uint16 | uint32 =>
      dsimp only
      split
      next size hsize =>
        refine .bind (ht.size size · hsize) fun text htext => .pure (PiecedCode.render joins_calm ?_)
        replace htext := htext.calm
        unfold fromIntegers
        with_reducible repeat' first | assumption | constructor
        all_goals decide
      next =>
        have hcast : Calm s!"(long) {t.name}" := joins_calm.append _ _ (joins_calm.spelled _ (by decide)) hname
        exact .pure ((hshort _ _ (joins_calm.spelled _ (by decide)) hcast).indent.render joins_calm)
    | int64 | uint64 =>
      exact .pure ((hwide _ _ _ (joins_calm.spelled _ (by decide)) (joins_calm.spelled _ (by decide))
        hname).render joins_calm)
    | long | ulong => exact .pure ((hshort _ _ (joins_calm.spelled _ (by decide)) hname).render joins_calm)
  | integerOut | enumeration | void | voidPointer | timeval =>
    simp only [toObject, hk, orElse_nothing, Datum.asText, ok_bind]
    refine .pure (PiecedCode.render joins_calm ?_)
    with_reducible repeat' first | assumption | constructor
    all_goals decide
  | object | objectPointer | struct | structPointer =>
    simp only [toObject, hk, not_proxied, orElse_nothing, Datum.asText, ok_bind, Bool.false_eq_true,
      if_false]
    refine .pure (Pieced.holds joins_calm ?_)
    with_reducible repeat' first | assumption | constructor
    all_goals decide

lemma declaresValue_out (t : CType) : t.declaresValue (.text "OUT") = false := by
  simp [declaresValue, Datum.isText]

lemma firm_cName (i : IntegerType) : Firm i.cName := by
  cases i <;> exact firm_ofList (by decide)

lemma firm_cName_out (i : OutInteger) : Firm i.cName := by
  cases i <;> exact firm_ofList (by decide)

lemma gives_bareType_out (i : OutInteger) : Gives Firm (bareType i.cName) := by
  cases i with
  | int => exact .ok (a := "int") (firm_ofList (by decide))
  | uint32 => exact .ok (a := "uint32_t") (firm_ofList (by decide))
  | uint64 => exact .ok (a := "uint64_t") (firm_ofList (by decide))

lemma calm_plainDefinition (hname : Calm t.name) (htype : Firm t.type) {initial : Datum}
    (hinitial : Gives Calm initial.asText) : Gives Calm (t.plainDefinition initial) := by
  have hstart : Pieced calmChars Calm (toString "    " ++ toString t.type ++ toString " ") :=
    .part (htype.after (joins_calm.spelled _ (by decide))).blank
  have htype' := htype.calm
  unfold plainDefinition
  split
  · refine .bind hinitial fun value hvalue => .pure (Pieced.holds joins_calm ?_)
    with_reducible repeat' first | assumption | constructor
    all_goals decide
  · split
    all_goals
      refine .ok (Pieced.holds joins_calm ?_)
      with_reducible repeat' first | assumption | constructor
      all_goals decide

lemma calm_definition (ht : t.Tidy) (hstring : t.kind.isString = false)
    (hplain : t.kind ≠ .plain ∧ t.kind ≠ .pyObject) : Gives Calm (t.definition none (.text "OUT")) := by
  have hname := ht.name.calm
  cases hk : t.kind with
  | plain => exact absurd hk hplain.1
  | pyObject => exact absurd hk hplain.2
  | string | zeroTerminated | borrowedString | stringOut | stringArray =>
    simp [hk, Kind.isString] at hstring
  | buffer | bufferOut | blob | blobPointer => exact absurd ht.single (by simp [hk, Kind.isBuffer])
  | integer i =>
    simp only [definition, hk]
    exact calm_plainDefinition hname (ht.integer i hk ▸ firm_cName i) (.error _)
  | integerOut i =>
    simp only [definition, hk]
    have hstorage : Gives Calm (Datum.text (toString "&" ++ toString s!"storage_{t.name}")).asText := by
      refine .ok (Pieced.holds joins_calm ?_)
      with_reducible repeat' first | assumption | constructor
      all_goals decide
    have htype := ht.integerOut i hk
    refine .bind (htype ▸ gives_bareType_out i) fun bare hbare => ?_
    refine .bind (calm_plainDefinition hname (htype ▸ firm_cName_out i) hstorage) fun pointer hpointer => ?_
    have hstart : Pieced calmChars Calm (toString bare ++ toString " ") := .part hbare.blank
    refine .pure (Pieced.holds joins_calm ?_)
    with_reducible repeat' first | assumption | constructor
    all_goals decide
  | void | voidPointer =>
    simp only [definition, hk]
    exact .ok calm_empty
  | character | enumeration | timeval =>
    simp only [definition, hk, Option.getD_none, Datum.asText, ok_bind, Datum.isGiven, Bool.false_eq_true,
      if_false]
    refine .pure (Pieced.holds joins_calm ?_)
    with_reducible repeat' first | assumption | constructor
    all_goals decide
  | object | objectPointer | struct | structPointer =>
    simp only [definition, hk, declaresValue_out, Option.getD_none, Datum.asText, ok_bind,
      Bool.false_eq_true, if_false]
    refine .pure (Pieced.holds joins_calm ?_)
    with_reducible repeat' first | assumption | constructor
    all_goals decide

lemma calm_assign (ht : t.Tidy) (hobject : t.kind ≠ .object ∧ t.kind ≠ .objectPointer) {c : String}
    (hc : Method.Operand c) :
    (assign s (.text c) .nothing true).Maintains (Site.From t e) Calm := by
  have hname := ht.name.calm
  have hcall := hc.calm
  refine .bind Site.maintains_ctype fun t' ht' => ?_
  obtain ⟨d, rfl⟩ := ht'
  have hgiven : t.attributes.contains "NULL_OK" = false := ht.given
  dsimp only
  cases hk : t.kind with
  | object => exact absurd hk hobject.1
  | objectPointer => exact absurd hk hobject.2
  | struct | structPointer =>
    refine .bind Site.maintains_settle fun bare hbare => ?_
    replace hbare := calm_of_no_blank hbare
    refine .bind (Q := (· = c)) (.lift (.ok hc.strip)) ?_
    rintro _ rfl
    refine .bind (Q := (· = t.name)) (.lift (.ok rfl)) ?_
    rintro _ rfl
    refine .pure (PiecedCode.render joins_calm ?_)
    simp only [assignStruct, has, hgiven, Bool.false_eq_true, if_false, if_true]
    with_reducible repeat' first | assumption | constructor
    all_goals decide
  | void | voidPointer =>
    refine .bind (Q := (· = c)) (.lift (.ok rfl)) ?_
    rintro _ rfl
    refine .pure (PiecedCode.render joins_calm ?_)
    with_reducible repeat' first | assumption | constructor
    all_goals decide
  | _ =>
    refine .bind (Q := (· = t.name)) (.lift (.ok rfl)) ?_
    rintro _ rfl
    refine .bind (Q := (· = c)) (.lift (.ok rfl)) ?_
    rintro _ rfl
    refine .pure (PiecedCode.render joins_calm ?_)
    with_reducible repeat' first | assumption | constructor
    all_goals decide

/-! ### Pieces that jump -/

/-- The text jumps to the clean-up, and does not define its label. -/
def Exposed (t : String) : Prop :=
  Jumps t ∧ Clear t

lemma clear_jump : Clear jump :=
  clear_of_no_colon (by decide)

lemma exposed_toObject (ht : t.Tidy) (hk : t.kind = .character) : Gives Exposed t.toObject := by
  have hname := clear_of_no_colon ht.name.2.2
  have hjump := clear_jump
  simp only [toObject, hk, orElse_nothing, Datum.asText, ok_bind]
  refine .pure ⟨JumpsCode.render ⟨"        " ++ jump, by simp, jumps_jump.right⟩, PiecedCode.render joins_clear ?_⟩
  with_reducible repeat' first | assumption | constructor
  all_goals decide

lemma exposed_assignObject (t : CType) {incref call name : String} (hincref : Clear incref)
    (hcall : Clear call) (hname : Clear name) : Exposed (assignObject t incref call name).render := by
  have hjump := clear_jump
  have hexit : JumpsCode [jump] := ⟨jump, List.mem_singleton_self _, jumps_jump⟩
  refine ⟨JumpsCode.render (.shift (.scope ?_)), PiecedCode.render joins_clear ?_⟩
  · exact .left (.left (.left (.left (.right (.block (.right hexit))))))
  · unfold assignObject releaseReturned jumpIf
    simp only [branches, branchesFrom]
    split
    all_goals
      split
      all_goals
        with_reducible repeat' first | assumption | constructor
        all_goals decide

lemma exposed_assign (hs : s.Named) (ht : t.Tidy) (hk : t.kind = .object ∨ t.kind = .objectPointer)
    {c : String} (hc : Method.Operand c) :
    (assign s (.text c) .nothing true).Maintains (Site.From t e) Exposed := by
  refine .bind Site.maintains_ctype fun t' ht' => ?_
  obtain ⟨d, rfl⟩ := ht'
  have hcode := exposed_assignObject { t with declared := d } (clear_of_no_colon hs.incref.2.2)
    (clear_of_no_colon hc.clear) (clear_of_no_colon ht.name.2.2)
  dsimp only
  rcases hk with hk | hk
  all_goals
    rw [hk] at hcode ⊢
    refine .andThen Site.maintains_needError fun _ => ?_
    refine .bind (Q := (· = c)) (.lift (.ok hc.strip)) ?_
    rintro _ rfl
    refine .bind (Q := (· = t.name)) (.lift (.ok rfl)) ?_
    rintro _ rfl
    exact .pure hcode

lemma clear_assign (ht : t.Tidy) (hk : t.kind = .character) {c : String} (hc : Method.Operand c) :
    (assign s (.text c) .nothing true).Maintains (Site.From t e) Clear := by
  have hname := clear_of_no_colon ht.name.2.2
  have hcall := clear_of_no_colon hc.clear
  refine .bind Site.maintains_ctype fun t' ht' => ?_
  obtain ⟨d, rfl⟩ := ht'
  dsimp only
  rw [hk]
  refine .bind (Q := (· = t.name)) (.lift (.ok rfl)) ?_
  rintro _ rfl
  refine .bind (Q := (· = c)) (.lift (.ok rfl)) ?_
  rintro _ rfl
  refine .pure (PiecedCode.render joins_clear ?_)
  with_reducible repeat' first | assumption | constructor
  all_goals decide

lemma clear_toObject (ht : t.Tidy) (hk : t.kind = .object ∨ t.kind = .objectPointer) :
    Gives Clear t.toObject := by
  have hname := clear_of_no_colon ht.name.2.2
  rcases hk with hk | hk
  all_goals
    simp only [toObject, hk, not_proxied, orElse_nothing, Datum.asText, ok_bind, Bool.false_eq_true,
      if_false]
    refine .pure (Pieced.holds joins_clear ?_)
    with_reducible repeat' first | assumption | constructor
    all_goals decide

lemma clear_definition (ht : t.Tidy)
    (hk : t.kind = .character ∨ t.kind = .object ∨ t.kind = .objectPointer) :
    Gives Clear (t.definition none (.text "OUT")) := by
  have hname := clear_of_no_colon ht.name.2.2
  rcases hk with hk | hk | hk
  all_goals
    simp only [definition, hk, declaresValue_out, Option.getD_none, Datum.asText, ok_bind,
      Bool.false_eq_true, if_false]
    refine .pure (Pieced.holds joins_clear ?_)
    with_reducible repeat' first | assumption | constructor
    all_goals decide

end CType

/-! ### Whole getters -/

/-- Whether reading an attribute of the kind jumps to the clean-up of the getter though that is no string,
and has no label. -/
def Kind.jumpsOnRead : Kind → Bool
  | character | object | objectPointer => true
  | _ => false

namespace Method

variable {cls name define assign convert value : String} {k : Kind}

lemma defines_getterText (hk : k.isString = true) :
    Defines (getterText k cls name define assign convert value) := by
  have hended : Ended (getterCode cls name define assign convert).render := ended_render _ _
  rw [getterText, hk, if_pos rfl]
  have hlabel : (errorLabel ++ ":").toList <+: (errorLabel ++ s!":\n    {value}\n").toList :=
    ⟨"\n    ".toList ++ value.toList ++ "\n".toList, by simp [toString]⟩
  exact (hended.defines hlabel).left

lemma calm_getterText (hk : k.isString = false) (hcls : Calm cls) (hname : Calm name)
    (hd : Calm define) (ha : Calm assign) (hc : Calm convert) :
    Calm (getterText k cls name define assign convert value) := by
  have hcode : Calm (getterCode cls name define assign convert).render := by
    refine PiecedCode.render joins_calm ?_
    unfold getterCode
    with_reducible repeat' first | assumption | constructor
    all_goals decide
  rw [getterText, hk, if_neg Bool.false_ne_true, String.append_empty]
  exact joins_calm.append _ _ hcode (joins_calm.spelled _ (by decide))

lemma clear_getterText (hk : k.isString = false) (hcls : IsName cls) (hname : IsName name)
    (hd : Clear define) (ha : Clear assign) (hc : Clear convert) :
    Clear (getterText k cls name define assign convert value) := by
  have hcode : Clear (getterCode cls name define assign convert).render := by
    refine PiecedCode.render joins_clear ?_
    -- The only line with a colon starts with blanks.
    have hline : Opens s!"    \"{cls}.{name}: object is not bound \"" := by
      refine .append (.append (.append (.append (opens_ofList ?_) hcls.2.1) ?_) hname.2.1) ?_
      all_goals decide
    have hpiece : Pieced (fun cs => !cs.contains ':') Clear
        s!"    \"{cls}.{name}: object is not bound \"" := .part hline.clear
    have hcls' := clear_of_no_colon hcls.2.2
    have hname' := clear_of_no_colon hname.2.2
    unfold getterCode
    with_reducible repeat' first | assumption | constructor
    all_goals decide
  rw [getterText, hk, if_neg Bool.false_ne_true, String.append_empty]
  exact joins_clear.append _ _ hcode (joins_clear.spelled _ (by decide))

/-- A getter that jumps without a label: one of its pieces jumps, and none defines a label. -/
lemma not_labelled_getterText (hk : k.isString = false) (hcls : IsName cls) (hname : IsName name)
    (hd : Clear define) (ha : Clear assign) (hc : Clear convert) (hj : Jumps assign ∨ Jumps convert) :
    ¬ Labelled (getterText k cls name define assign convert value) := by
  intro h
  refine (clear_getterText hk hcls hname hd ha hc).not_defines (h ?_)
  have hcode : JumpsCode (getterCode cls name define assign convert) := by
    rcases hj with hj | hj
    · exact ⟨assign, by simp [getterCode], hj⟩
    · exact ⟨convert, by simp [getterCode], hj⟩
  exact hcode.render.left.left

/-- A getter defines the label that it jumps to, but for kinds that are no strings and jump all the
same. -/
lemma brings_labelled_writeGetter (hs : s.Named) (ref : MethodRef) (id : MemberId) (k : Kind) :
    (writeGetter ref id).Brings (fun b => Wrote s o (· = "") b ∧ memberKind id b = k)
      (Wrote s o fun text => Labelled text ↔ k.jumpsOnRead = false) := by
  have hlabelled : ∀ text, k.jumpsOnRead = false → Labelled text →
      (Labelled text ↔ k.jumpsOnRead = false) := fun _ hk h => ⟨fun _ => hk, fun _ => h⟩
  have hexposed : ∀ text, k.jumpsOnRead = true → ¬ Labelled text →
      (Labelled text ↔ k.jumpsOnRead = false) := fun _ hk h => ⟨fun h' => absurd h' h, by simp [hk]⟩
  cases k with
  | string | zeroTerminated | borrowedString | stringOut | stringArray =>
    -- The label is written, whatever the pieces are.
    refine brings_writeGetter (C := fun _ => True) (A := fun _ => True) (D := fun _ => True) ref id
      (fun _ _ _ _ _ => trivial) (fun t e _ _ _ _ => CType.maintains_assign t e _ _ _ _)
      (fun _ _ _ _ _ => trivial) ?_
    intros
    exact hlabelled _ rfl fun _ => defines_getterText rfl
  | plain | pyObject =>
    -- Such values cannot be converted.
    refine brings_writeGetter (C := fun _ => False) (A := fun _ => True) (D := fun _ => True) ref id ?_
      (fun t e _ _ _ _ => CType.maintains_assign t e _ _ _ _) (fun _ _ _ _ _ => trivial) ?_
    · intro t _ hk
      simp only [CType.toObject, hk]
      exact .error _
    · intro _ _ _ _ _ _ _ _ _ _ hc
      exact hc.elim
  | character =>
    refine brings_writeGetter ref id (fun t ht hk => CType.exposed_toObject ht hk)
      (fun t e c ht hk hc => CType.clear_assign ht hk hc)
      (fun t ht hk => CType.clear_definition ht (.inl hk)) ?_
    intro _ _ _ _ _ _ hcls hname hd ha hc
    exact hexposed _ rfl (not_labelled_getterText rfl hcls hname hd ha hc.2 (.inr hc.1))
  | object =>
    refine brings_writeGetter ref id (fun t ht hk => CType.clear_toObject ht (.inl hk))
      (fun t e c ht hk hc => CType.exposed_assign hs ht (.inl hk) hc)
      (fun t ht hk => CType.clear_definition ht (.inr (.inl hk))) ?_
    intro _ _ _ _ _ _ hcls hname hd ha hc
    exact hexposed _ rfl (not_labelled_getterText rfl hcls hname hd ha.2 hc (.inl ha.1))
  | objectPointer =>
    refine brings_writeGetter ref id (fun t ht hk => CType.clear_toObject ht (.inr hk))
      (fun t e c ht hk hc => CType.exposed_assign hs ht (.inr hk) hc)
      (fun t ht hk => CType.clear_definition ht (.inr (.inr hk))) ?_
    intro _ _ _ _ _ _ hcls hname hd ha hc
    exact hexposed _ rfl (not_labelled_getterText rfl hcls hname hd ha.2 hc (.inl ha.1))
  | _ =>
    refine brings_writeGetter ref id
      (fun t ht hk => CType.calm_toObject ht (by simp [hk, Kind.isString]) (by simp [hk]))
      (fun t e c ht hk hc => CType.calm_assign ht (by simp [hk]) hc)
      (fun t ht hk => CType.calm_definition ht (by simp [hk, Kind.isString]) (by simp [hk])) ?_
    intro _ _ _ _ _ _ hcls hname hd ha hc
    exact hlabelled _ rfl (calm_getterText rfl hcls.calm hname.calm hd ha hc).labelled

end Method

end HeaderBind
