import HeaderBind.Proofs.Binding.Tidy
import HeaderBind.Proofs.Header.Invariants
import HeaderBind.Proofs.Pattern.Matching

/-!
# Headers declare tidy bindings

The rules for headers match the names of classes, methods and members with groups that take neither blanks
nor line ends (`groupAvoids_rules`), and the actions take all names from those groups. So what was read of
a header is tidy at all times (`Reached.tidy`).
-/

namespace HeaderBind

lemma ClassDef.Tidy.putMethod {c : ClassDef} {m : Method} (h : c.Tidy)
    (hm : m.Tidy ∧ m.kind ≠ .attributes) : (Class.putMethod c m).Tidy := by
  obtain ⟨-, hname, hattributes⟩ := Class.putMethod_others c m
  refine ⟨hname ▸ h.name, fun m' hm' => ?_, hattributes ▸ h.reader⟩
  rcases Class.mem_entries_putMethod hm' with rfl | hm'
  · exact hm
  · exact h.entries m' hm'

/-- What is being read of a header is tidy. -/
structure Header.Tidy (s : Settings) (h : Header) : Prop where
  binding : h.binding.Tidy s
  inMethod : ∀ m ∈ h.currentMethod, m.Tidy ∧ m.kind ≠ .attributes

namespace HeaderReader

open Lexer Header.Table

variable {α : Type} {s : Settings} {x : HeaderReader} {m : Match}

/-! ### Names in matches -/

/-- The groups that an action takes names from. -/
def nameGroups : String → List Nat
  | "CCLASS_START" => [2, 3]
  | "CCLASS_ATTRIBUTE" => [3]
  | "METHOD_START" => [5]
  | "STRUCT_START" => [2]
  | "STRUCT_ATTRIBUTE" => [2, 3]
  | "STRUCT_ATTRIBUTE_PTR" => [2]
  | "TYPEDEF_STRUCT_END" => [1]
  | "ENUM_START" => [1]
  | "TYPEDEFED_ENUM_END" => [1]
  | _ => []

/-- What an action takes names from are names, and an attribute is not marked as one that may be missing. -/
structure Proper (name : String) (m : Match) : Prop where
  names : ∀ g ∈ nameGroups name, IsName (m.group g)
  mark : name = "CCLASS_ATTRIBUTE" → m.group 1 ≠ "NULL_OK"

lemma groupAvoids_rules : ∀ r ∈ rules, ∀ name ∈ ruleAction r, ∀ g ∈ nameGroups name,
    r.pattern.groupAvoids g ' ' ∧ r.pattern.groupAvoids g '\n' ∧ r.pattern.groupAvoids g ':' :=
  forall_ruleAction (by decide +kernel)

lemma groupAvoids_attribute : ∀ r ∈ rules, ∀ name ∈ ruleAction r, name = "CCLASS_ATTRIBUTE" →
    r.pattern.groupAvoids 1 'L' :=
  forall_ruleAction (by decide +kernel)

lemma proper_of_nextAction {name : String} (h : x.nextAction = some (name, m)) : Proper name m := by
  obtain ⟨r, hr, -, hname, hmatch⟩ := nextAction_eq_some h
  refine ⟨fun g hg => ?_, ?_⟩
  · obtain ⟨hblank, hline, hcolon⟩ := groupAvoids_rules r hr name hname g hg
    exact ⟨Pattern.not_mem_group hblank hmatch, Pattern.not_mem_group hline hmatch,
      Pattern.not_mem_group hcolon hmatch⟩
  · rintro rfl hmark
    have hnot := Pattern.not_mem_group (groupAvoids_attribute r hr _ hname rfl) hmatch
    rw [hmark] at hnot
    exact hnot (by decide)

end HeaderReader

/-! ### Declaring step by step -/

namespace Declaring

variable {s : Settings}

lemma maintains_baseClass {name : String} (base : String) (hn : IsName name) :
    (baseClass name base).Maintains (Binding.Tidy s) fun _ => True := by
  have hI := Binding.lasting_tidy s
  have hinherit : (do
      let id ← Binding.findClass (some base)
      Class.inherit id name : Act Binding ClassId).Maintains (Binding.Tidy s) fun _ => True := by
    refine .andThen (.bind .state fun b _ => ?_) fun id => Class.maintains_inherit hI id hn
    split
    · exact .pure trivial
    · exact .fail _
  -- What was done before a class turned out to be no base is not undone.
  refine .bind hinherit.attempt fun inherited _ => ?_
  split
  · exact .pure trivial
  · exact .ite (fun _ => Class.maintains_make hI _ hn.some) fun _ => .fail _

lemma maintains_openClass {name : String} (doc : String) (modifier : Option String) (base : String)
    (hn : IsName name) : (openClass doc modifier name base).Maintains (Binding.Tidy s) fun _ => True := by
  have hI := Binding.lasting_tidy s
  refine .andThen (maintains_baseClass base hn) fun id => .andThen ?_ fun _ => .pure trivial
  refine .andThen (Binding.maintains_modifyClass hI fun c hc => ⟨hc.name, hc.entries, hc.reader⟩) fun _ => ?_
  refine .andThen (Class.maintains_declare hI id _) fun _ => ?_
  exact Binding.maintains_update hI (fun b hb => hb.congr rfl rfl rfl) fun _ => rfl

lemma methodKind_ne_attributes (className : Option String) (returns name : String) :
    (HeaderReader.methodKind className returns name).1 ≠ .attributes := by
  unfold HeaderReader.methodKind
  split
  · nofun
  · split
    · nofun
    · split
      · nofun
      · split <;> nofun

lemma maintains_openMethod {name : String} (id : ClassId) (doc returns : String) (hn : IsName name) :
    (openMethod id doc returns name).Maintains (Binding.Tidy s) fun m =>
      m.Tidy ∧ m.kind ≠ .attributes := by
  have hI := Binding.lasting_tidy s
  refine .bind .state fun b hb => .andThen ?_ fun _ => ?_
  · unfold addProtocol
    split
    · exact Binding.maintains_modifyClass hI fun c hc => ⟨hc.name, hc.entries, hc.reader⟩
    · exact .pure trivial
  · refine .bind (Method.maintains_make hI _ _ _ _ (hb.classes id).name hn) fun m hm => .pure ?_
    refine ⟨⟨hm.1.name, hm.1.className, hm.1.definitionClass, hm.1.proxy⟩, ?_⟩
    rw [hm.2]
    exact methodKind_ne_attributes _ _ _

lemma maintains_addArgument (m : Method) (type name : String) :
    (m.addArgument type name).Maintains (Binding.Tidy s) fun _ => True := by
  refine .andThen (.bind .state fun _ _ => .pure trivial) fun t => ?_
  refine .andThen (Consults.maintains (Method.consults_addTo _ _ _ _ _)) fun args => ?_
  exact Binding.maintains_modifySignature (Binding.lasting_tidy s) _ _

lemma maintains_openStruct {name : Option String} {setUp : ClassDef → ClassDef}
    (hn : ∀ t ∈ name, IsName t) (hs : ∀ c : ClassDef, c.Tidy → (setUp c).Tidy) :
    (openStruct name setUp).Maintains (Binding.Tidy s) fun _ => True := by
  have hI := Binding.lasting_tidy s
  refine .andThen (Class.maintains_makeStruct hI hn) fun id => ?_
  exact .andThen (Binding.maintains_modifyClass hI hs) fun _ => .pure trivial

lemma maintains_closeStruct (id : ClassId) :
    (closeStruct id).Maintains (Binding.Tidy s) fun _ => True := by
  have hI := Binding.lasting_tidy s
  refine .andThen (Class.maintains_declare hI id _) fun _ => .bind .state fun b _ => ?_
  refine .bind maintains_need fun name _ => ?_
  exact Binding.maintains_update hI (fun b hb => hb.congr rfl rfl rfl) fun _ => rfl

lemma tidy_addConstants {b : Binding} (h : b.Tidy s) (values : List String) :
    (values.foldl (fun b v => b.addConstant v "integer") b).Tidy s := by
  induction values generalizing b with
  | nil => exact h
  | cons v values ih => exact ih (h.congr rfl rfl rfl)

lemma maintains_closeEnum (id : ClassId) :
    (closeEnum id).Maintains (Binding.Tidy s) fun _ => True := by
  have hI := Binding.lasting_tidy s
  refine .andThen (Class.maintains_declare hI id _) fun _ => .bind .state fun b _ => ?_
  exact .update fun b hb => tidy_addConstants hb _

lemma maintains_nameClass {name : String} (id : ClassId) (hn : IsName name) :
    (nameClass id name).Maintains (Binding.Tidy s) fun _ => True :=
  Binding.maintains_modifyClass (Binding.lasting_tidy s) fun _ hc => ⟨hn.some, hc.entries, hc.reader⟩

end Declaring

/-! ### Actions -/

namespace HeaderReader

open Declaring Lexer Header.Table

variable {s : Settings} {x y : HeaderReader} {m : Match}

/-- An action leads from what is tidy to what is tidy, if it does not fail. -/
def StaysTidy (s : Settings) (act : Act HeaderReader Unit) : Prop :=
  ∀ x y : HeaderReader, act.effect x = (.ok (), y) → x.host.Sound → x.host.Tidy s → y.host.Tidy s

lemma StaysTidy.of_stays {act : Act HeaderReader Unit}
    (h : Stays (Binding.Tidy s) (fun m => m.Tidy ∧ m.kind ≠ .attributes) act) : StaysTidy s act := by
  intro x y he hsound hx
  have hy := h x y he hsound ⟨hx.binding, hx.inMethod⟩
  exact ⟨hy.binding, hy.inMethod⟩

lemma gives_arraySize (h : Proper "STRUCT_ATTRIBUTE" m) :
    ∀ e ∈ arraySize (m.group? 3), e.1 = "array_size" ∧ Gives IsName e.2.asText := by
  have hname := h.names 3 (by decide)
  rw [Match.group] at hname
  cases hsize : m.group? 3 with
  | none => exact fun e he => absurd he List.not_mem_nil
  | some size =>
    rw [hsize] at hname
    intro e he
    rw [arraySize, List.mem_singleton] at he
    subst he
    exact ⟨rfl, .ok hname.strip⟩

lemma staysTidy_action {name : String} {act : Match → Act HeaderReader Unit}
    (h : action name = some act) (hm : Proper name m) : StaysTidy s (act m) := by
  have hI := Binding.lasting_tidy s
  refine .of_stays ?_
  cases h using action_cases with
  | bindStruct => exact stays_onBinding (.update fun _ hb => hb.congr rfl rfl rfl)
  | addClassAttribute =>
    refine .opened fun id => stays_onBinding ?_
    exact Class.maintains_addAttribute hI id _ (hm.names 3 (by decide)).strip (hm.mark rfl) nofun
  | startClass => exact stays_startClass fun doc => maintains_openClass doc _ _ (hm.names 2 (by decide)).strip
  | clearComment => exact stays_comment
  | addComment => exact stays_comment
  | endComment => exact stays_comment
  | defineConstant =>
    refine stays_defineConstant fun b hb => ?_
    rw [constantIn]
    split
    · exact hb.congr rfl rfl rfl
    · exact hb
  | endClass => exact stays_endClass
  | endEnum => exact stays_endEnum maintains_closeEnum
  | startEnum => exact stays_startEnum (Class.maintains_makeEnum hI (hm.names 1 (by decide)).strip.some)
  | addEnumValue =>
    refine .opened fun id => stays_onBinding ?_
    exact Binding.maintains_modifyClass hI fun c hc => ⟨hc.name, hc.entries, hc.reader⟩
  | addMethodArgument => exact stays_addMethodArgument fun method => maintains_addArgument method _ _
  | endMethod => exact stays_endMethod fun b id method hb hmethod => hb.withClass fun hc => hc.putMethod hmethod
  | startMethod => exact stays_startMethod fun id doc => maintains_openMethod id doc _ (hm.names 5 (by decide)).strip
  | aliasType => exact stays_onBinding (.update fun _ hb => hb.congr rfl rfl rfl)
  | addStructAttribute =>
    refine .opened fun id => stays_onBinding ?_
    exact Class.maintains_addAttribute hI id _ (hm.names 2 (by decide)).strip (by decide) (gives_arraySize hm)
  | addStructPointer =>
    refine .opened fun id => stays_onBinding ?_
    exact Class.maintains_addAttribute hI id _ (hm.names 2 (by decide)).strip (by decide) nofun
  | endStruct => exact stays_endStruct maintains_closeStruct
  | startStruct =>
    refine stays_startStruct fun doc => maintains_openStruct (hm.names 2 (by decide)).strip.some fun c hc => ?_
    exact ⟨hc.name, hc.entries, hc.reader⟩
  | endNamedEnum =>
    exact stays_endNamedEnum (fun id => maintains_nameClass id (hm.names 1 (by decide))) maintains_closeEnum
  | startNamelessEnum => exact stays_startEnum (Class.maintains_makeEnum hI forall_mem_none)
  | endNamedStruct =>
    exact stays_endNamedStruct (fun id => maintains_nameClass id (hm.names 1 (by decide)).strip) maintains_closeStruct
  | startNamelessStruct =>
    refine stays_startNamelessStruct fun doc => maintains_openStruct forall_mem_none fun c hc => ?_
    exact ⟨hc.name, hc.entries, hc.reader⟩

/-- What was read of a header is tidy. -/
theorem Reached.tidy (h : Reached x) : x.host.Tidy x.host.binding.settings := by
  have hall := h.built.satisfies (I := fun b => b.Tidy b.settings) (Q := fun m => m.Tidy ∧ m.kind ≠ .attributes)
    (fun x h => ?_) (fun x name m act hnext hact y z he hsound hy => ?_) fun b files includes hb => hb.congr rfl rfl rfl
  · exact ⟨hall.binding, hall.inMethod⟩
  · obtain ⟨settings, registry, name, base, verbose, rfl⟩ := h.eq
    exact ⟨⟨rfl, fun _ => ClassDef.tidy_default, fun _ => CType.tidy_default⟩, forall_mem_none⟩
  · have hz := staysTidy_action hact (proper_of_nextAction hnext) y z he hsound ⟨hy.binding, hy.inMethod⟩
    exact ⟨hz.binding.settings.symm ▸ hz.binding, hz.inMethod⟩

end HeaderReader

end HeaderBind
