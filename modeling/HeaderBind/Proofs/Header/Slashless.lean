import HeaderBind.Proofs.Binding.Slashless
import HeaderBind.Proofs.Header.Invariants

/-!
# Headers declare slashless bindings

The groups that the actions take names and types from match no slash (`groupAvoids_slash`). So what was read of
a header is slashless at all times, whatever stands in its comments (`Built.slashless`).
-/

namespace HeaderBind

lemma ClassDef.Slashless.putMethod {c : ClassDef} {m : Method} (h : c.Slashless) (hm : NoSlash m.name) :
    (Class.putMethod c m).Slashless := by
  have hentries : ∀ m' ∈ (Class.putMethod c m).entries, NoSlash m'.name := by
    intro m' hm'
    rcases Class.mem_entries_putMethod hm' with rfl | hm'
    · exact hm
    · exact h.entries m' hm'
  refine h.of_entries ?_ ?_ ?_ hentries
  all_goals
    unfold Class.putMethod
    split
    · rfl
    · split <;> rfl

/-! ### Declaring step by step -/

namespace Declaring

lemma slashless_baseClass {name base : String} (hn : NoSlash name) (hb : NoSlash base) :
    (baseClass name base).Maintains Binding.Slashless fun _ => True := by
  have hinherit : (do
      let id ← Binding.findClass (some base)
      Class.inherit id name : Act Binding ClassId).Maintains Binding.Slashless fun _ => True := by
    refine .andThen (.bind .state fun b _ => ?_) fun id => Class.slashless_inherit id hn
    split
    · exact .pure trivial
    · exact .fail _
  refine .bind hinherit.attempt fun inherited _ => ?_
  split
  · exact .pure trivial
  · refine .ite (fun _ => Class.slashless_make ?_ ?_) fun _ => .fail _
    · rintro t ⟨⟩
      exact hn
    · rintro t ⟨⟩
      exact hb

lemma slashless_openClass {name base : String} (doc : String) (modifier : Option String) (hn : NoSlash name)
    (hb : NoSlash base) : (openClass doc modifier name base).Maintains Binding.Slashless fun _ => True := by
  refine .andThen (slashless_baseClass hn hb) fun id => .andThen ?_ fun _ => .pure trivial
  refine .andThen (Binding.slashless_modifyClass id fun c hc => ?_) fun _ => ?_
  · exact hc.of_entries rfl rfl rfl hc.entries
  · refine .andThen (Class.slashless_declare id _) fun _ => ?_
    exact .update fun b hb => hb.congr rfl rfl rfl rfl

lemma slashless_openMethod {returns name : String} (id : ClassId) (doc : String) (hr : NoSlash returns)
    (hn : NoSlash name) :
    (openMethod id doc returns name).Maintains Binding.Slashless fun m => NoSlash m.name := by
  refine .bind .state fun b hb => .andThen ?_ fun _ => ?_
  · unfold addProtocol
    split
    · exact Binding.slashless_modifyClass id fun c hc => hc.of_entries rfl rfl rfl hc.entries
    · exact .pure trivial
  · refine .bind (Method.slashless_make _ _ _ _ _ hr) fun m hm => .pure ?_
    exact hm ▸ hn

lemma slashless_openStruct {name : Option String} {setUp : ClassDef → ClassDef} (hn : ∀ t ∈ name, NoSlash t)
    (hs : ∀ c : ClassDef, c.Slashless → (setUp c).Slashless) :
    (openStruct name setUp).Maintains Binding.Slashless fun _ => True := by
  refine .andThen (Class.slashless_makeStruct hn) fun id => ?_
  exact .andThen (Binding.slashless_modifyClass id hs) fun _ => .pure trivial

lemma slashless_closeStruct (id : ClassId) : (closeStruct id).Maintains Binding.Slashless fun _ => True := by
  refine .andThen (Class.slashless_declare id _) fun _ => .bind .state fun b _ => ?_
  refine .andThen (.liftAny _) fun name => ?_
  exact .update fun b hb => hb.congr rfl rfl rfl rfl

lemma slashless_addConstant {b : Binding} {name : String} (h : b.Slashless) (hn : NoSlash name) (type : String) :
    (b.addConstant name type).Slashless := by
  refine { h with constants := fun c hc => ?_ }
  rcases List.mem_insert_iff.mp hc with rfl | hc
  · exact hn
  · exact h.constants c hc

lemma slashless_closeEnum (id : ClassId) : (closeEnum id).Maintains Binding.Slashless fun _ => True := by
  have hvalues (values : List String) (hv : ∀ v ∈ values, NoSlash v) (b : Binding) (hb : b.Slashless) :
      (values.foldl (fun b v => b.addConstant v "integer") b).Slashless := by
    induction values generalizing b with
    | nil => exact hb
    | cons v values ih =>
      rw [List.forall_mem_cons] at hv
      exact ih hv.2 _ (slashless_addConstant hb hv.1 _)
  refine .andThen (Class.slashless_declare id _) fun _ => .bind .state fun b hb => ?_
  exact .update (hvalues _ (hb.classes id).values)

lemma slashless_nameClass {name : String} (id : ClassId) (hn : NoSlash name) :
    (nameClass id name).Maintains Binding.Slashless fun _ => True := by
  refine Binding.slashless_modifyClass id fun c hc => { hc with name := ?_ }
  rintro t ⟨⟩
  exact hn

end Declaring

namespace HeaderReader

open Declaring Lexer Header.Table

variable {x : HeaderReader} {m : Match}

/-! ### Matches -/

/-- The groups that an action takes names and types from. -/
def declaringGroups : String → List Nat
  | "CCLASS_START" => [2, 3]
  | "CCLASS_ATTRIBUTE" => [2, 3]
  | "METHOD_START" => [2, 5]
  | "METHOD_ARG" => [1, 2]
  | "STRUCT_START" => [2]
  | "STRUCT_ATTRIBUTE" => [1, 2]
  | "STRUCT_ATTRIBUTE_PTR" => [1, 2]
  | "TYPEDEF_STRUCT_END" => [1]
  | "ENUM_START" => [1]
  | "TYPEDEFED_ENUM_END" => [1]
  | "ENUM_VALUE" => [1]
  | "DEFINE" => [1]
  | _ => []

lemma groupAvoids_slash : ∀ r ∈ rules, ∀ name ∈ ruleAction r, ∀ g ∈ declaringGroups name,
    r.pattern.groupAvoids g '/' :=
  forall_ruleAction (by decide +kernel)

lemma noSlash_of_nextAction {name : String} (h : x.nextAction = some (name, m)) :
    ∀ g ∈ declaringGroups name, NoSlash (m.group g) := by
  obtain ⟨r, hr, -, hname, hmatch⟩ := nextAction_eq_some h
  exact fun g hg => Pattern.not_mem_group (groupAvoids_slash r hr name hname g hg) hmatch

/-! ### Actions -/

lemma staysSlashless_action {name : String} {act : Match → Act HeaderReader Unit} (h : action name = some act)
    (hm : ∀ g ∈ declaringGroups name, NoSlash (m.group g)) :
    Stays Binding.Slashless (fun m => NoSlash m.name) (act m) := by
  have hsome {t : String} (ht : NoSlash t) : ∀ u ∈ some t, NoSlash u := by
    rintro u ⟨⟩
    exact ht
  cases h using action_cases with
  | bindStruct => exact stays_onBinding (.update fun _ hb => hb.congr rfl rfl rfl rfl)
  | addClassAttribute =>
    refine .opened fun id => stays_onBinding ?_
    exact Class.slashless_addAttribute id _ _ (hm 3 (by decide)).strip (hm 2 (by decide)).strip
  | startClass =>
    refine stays_startClass fun doc => ?_
    exact slashless_openClass doc _ (hm 2 (by decide)).strip (hm 3 (by decide)).strip
  | clearComment => exact stays_comment
  | addComment => exact stays_comment
  | endComment => exact stays_comment
  | defineConstant =>
    refine stays_defineConstant fun b hb => ?_
    rw [constantIn]
    split
    · exact slashless_addConstant hb (hm 1 (by decide)).strip _
    · exact hb
  | endClass => exact stays_endClass
  | endEnum => exact stays_endEnum slashless_closeEnum
  | startEnum => exact stays_startEnum (Class.slashless_makeEnum (hsome (hm 1 (by decide)).strip))
  | addEnumValue =>
    refine .opened fun id => stays_onBinding (Binding.slashless_modifyClass id fun c hc => { hc with values := ?_ })
    exact List.forall_mem_append.mpr ⟨hc.values, List.forall_mem_singleton.mpr (hm 1 (by decide)).strip⟩
  | addMethodArgument =>
    refine stays_addMethodArgument fun method => ?_
    exact method.slashless_addArgument (hm 1 (by decide)).strip (hm 2 (by decide)).strip
  | endMethod => exact stays_endMethod fun b id method hb hmethod => hb.withClass (fun c hc => hc.putMethod hmethod) id
  | startMethod =>
    refine stays_startMethod fun id doc => ?_
    exact slashless_openMethod id doc (hm 2 (by decide)).strip (hm 5 (by decide)).strip
  | aliasType => exact stays_onBinding (.update fun _ hb => hb.congr rfl rfl rfl rfl)
  | addStructAttribute =>
    refine .opened fun id => stays_onBinding ?_
    exact Class.slashless_addAttribute id _ _ (hm 2 (by decide)).strip (hm 1 (by decide)).strip
  | addStructPointer =>
    refine .opened fun id => stays_onBinding ?_
    exact Class.slashless_addAttribute id _ _ (hm 2 (by decide)).strip ((hm 1 (by decide)).strip.append (by decide))
  | endStruct => exact stays_endStruct slashless_closeStruct
  | startStruct =>
    refine stays_startStruct fun doc => slashless_openStruct (hsome (hm 2 (by decide)).strip) fun c hc => ?_
    exact hc.of_entries rfl rfl rfl hc.entries
  | endNamedEnum => exact stays_endNamedEnum (fun id => slashless_nameClass id (hm 1 (by decide))) slashless_closeEnum
  | startNamelessEnum => exact stays_startEnum (Class.slashless_makeEnum forall_mem_none)
  | endNamedStruct =>
    exact stays_endNamedStruct (fun id => slashless_nameClass id (hm 1 (by decide)).strip) slashless_closeStruct
  | startNamelessStruct =>
    refine stays_startNamelessStruct fun doc => slashless_openStruct forall_mem_none fun c hc => ?_
    exact hc.of_entries rfl rfl rfl hc.entries

/-- What was read of a header is slashless. -/
theorem Built.slashless (h : Built x) : x.host.binding.Slashless := by
  refine (h.satisfies (Q := fun m => NoSlash m.name) (fun x h => ?_) (fun y name m act hnext hact => ?_) ?_).binding
  · obtain ⟨settings, registry, name, base, verbose, rfl⟩ := h.eq
    refine ⟨⟨fun i => ?_, fun i => ?_, fun i => ?_, List.forall_mem_nil _⟩, forall_mem_none⟩
    · exact .of_bare forall_mem_none forall_mem_none rfl rfl
    · exact ⟨List.forall_mem_nil _, CType.slashless_default⟩
    · exact CType.slashless_default
  · exact staysSlashless_action hact (noSlash_of_nextAction hnext)
  · exact fun b files includes hb => hb.congr rfl rfl rfl rfl

end HeaderReader

end HeaderBind
