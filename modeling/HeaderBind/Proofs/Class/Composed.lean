import HeaderBind.Proofs.Binding.Constants
import HeaderBind.Proofs.Method.Composed

/-!
# What declaring and writing classes is made of

Writing a class touches only what writing its methods does, but for the announcement of the proxies. All that
is declared, prepared or written is the same whether reports are wanted or not, and in whatever order the
constants stand, because they are looked up in sorted order only (`composed_write`).
-/

namespace HeaderBind

open Binding

variable {α : Type} {U : (Binding → Binding) → Prop}

/-! ### Writing classes -/

namespace Method

lemma composed_describe (m : Method) : Composed U m.describe :=
  .ite (fun _ => .fail _) fun _ => .ite (fun _ => composed_attributeOverview m) fun _ => composed_overview m

lemma composed_announce (m : Method) : Composed Touch m.announce :=
  .ite (fun _ => .fail _) fun _ =>
    .ite (fun _ => composed_writeReaderPrototypes m) fun _ => composed_writePrototype m

lemma composed_define (ref : MethodRef) : Composed Define (define ref) := by
  refine .bind (composed_method ref) fun m => .ite (fun _ => .bind (.fail _) fun _ => ?_) fun _ => ?_
  all_goals
    split
    · exact (composed_writeCall ref).defines
    · exact (composed_writeCall ref).defines
    · exact (composed_writeSelfIterator m).defines
    · exact .bind (composed_method ref) fun m => .bind (composed_writeInitializeProxies m) fun _ =>
        (composed_writeInit ref).defines
    · exact .bind (.lift _) fun _ => (composed_emit _).defines
    · exact .bind (.lift _) fun _ => (composed_emit _).defines
    · exact (composed_writeEnumConstructor m).defines
    · exact (composed_writeReader ref).defines

lemma composed_tabulate (m : Method) : Composed Touch m.tabulate :=
  .ite (fun _ => .fail _) fun _ => composed_writeTableEntry m

end Method

namespace Class

lemma composed_attributesOverview (id : ClassId) : Composed U (attributesOverview id) := by
  refine .bind (composed_get id) fun c => ?_
  split
  · exact Method.composed_attributeOverview _
  · exact .fail _

lemma composed_overview (id : ClassId) : Composed U (overview id) := by
  refine .bind (composed_get id) fun c => ?_
  split
  · refine .bind (composed_method _) fun m => .bind (Method.composed_describe m) fun _ => ?_
    refine .bind (composed_attributesOverview id) fun _ => .bind ?_ fun _ => ?_
    · refine .bind (composed_get id) fun c => .bind (.mapM fun m _ => ?_) fun _ => .pure _
      exact .bind (Method.composed_describe m) fun _ => .pure _
    · exact .bind (.lift _) fun _ => .bind (.lift _) fun _ => .pure _
  · exact .bind (composed_attributesOverview id) fun _ => .bind (.lift _) fun _ => .pure _
  · exact .bind (.lift _) fun _ => .pure _

lemma composed_writeLayout (id : ClassId) : Composed Touch (writeLayout id) := by
  have hemit := composed_emit
  refine .bind (composed_get id) fun c => .bind (.lift _) fun cls => ?_
  dsimp only
  split
  · exact hemit _
  · exact hemit _
  · refine .bind (hemit _) fun _ => .ite (fun _ => ?_) fun _ => hemit _
    refine .bind (hemit _) fun _ => .bind (.forIn fun _ _ => ?_) fun _ => hemit _
    exact .bind (hemit _) fun _ => .pure _

lemma composed_writeMethodTable (id : ClassId) : Composed Touch (writeMethodTable id) := by
  have hemit := composed_emit
  refine .bind (composed_get id) fun c => .bind (.lift _) fun cls => .bind (hemit _) fun _ => ?_
  refine .ite (fun _ => .bind (.forIn fun m _ => ?_) fun _ => hemit _) fun _ => hemit _
  exact .bind (Method.composed_tabulate m) fun _ => .pure _

lemma composed_writeAttributeTable (id : ClassId) : Composed Touch (writeAttributeTable id) := by
  have hemit := composed_emit
  refine .bind (composed_get id) fun c => .bind (.lift _) fun cls => .bind (hemit _) fun _ => ?_
  refine .ite (fun _ => ?_) fun _ => hemit _
  split
  · exact .bind (Method.composed_writeAttributeTable _) fun _ => hemit _
  · exact hemit _

lemma composed_writeTypeObject (id : ClassId) : Composed Touch (writeTypeObject id) := by
  have hoperator (cls suffix : String) (code : Option String) :
      Composed Touch (writeOperator cls suffix code) := by
    unfold writeOperator
    split
    · exact .bind (composed_emit _) fun _ => .pure _
    · exact .pure _
  have hnumbers : Composed Touch (writeNumbers id) := by
    refine .bind (composed_get id) fun c => .bind ?_ fun _ => .bind (hoperator _ _ _) fun _ => ?_
    · exact .bind (composed_get id) fun c => .ite (fun _ => .pure _) fun _ => .bind (.lift _) fun _ => .pure _
    · refine .bind ?_ fun _ => .bind (hoperator _ _ _) fun _ => .bind (.lift _) fun _ => ?_
      · exact .bind (composed_get id) fun c => .ite (fun _ => .pure _) fun _ => .bind (.lift _) fun _ => .pure _
      · exact .bind (composed_emit _) fun _ => .pure _
  refine .bind (composed_get id) fun c => .bind (.lift _) fun cls => .bind hnumbers fun _ => ?_
  exact .look (fun b => composed_emit _) fun _ _ _ _ => rfl

lemma composed_writeFunctions (id : ClassId) : Composed Define (writeFunctions id) := by
  refine .bind (composed_get id) fun c => ?_
  split
  · refine .bind (Method.composed_writeDestructor _).defines fun _ => .bind (Method.composed_define _) fun _ => ?_
    refine .ite (fun _ => .bind (Method.composed_define _) fun _ => ?_) fun _ => ?_
    all_goals
      refine .bind (.forIn fun ref _ => .bind (Method.composed_define ref) fun _ => ?_) fun _ => .pure _
      refine .bind (composed_method ref) fun m => ?_
      split
      · exact .bind (Proxy.composed_writeDefinition _) fun _ => .pure _
      · exact .pure _
  · exact .bind (.lift _) fun _ => .fail _

lemma composed_initialization (id : ClassId) : Composed U (initialization id) := by
  refine .bind (composed_get id) fun c => ?_
  split
  · exact .pure _
  · exact .pure _
  · exact .bind (.lift _) fun _ => .look (fun b => .pure _) fun _ _ _ _ => rfl

end Class

/-! ### What declarations change -/

/-- What a class is and what it is called, and what speaks for or against its code. -/
def ClassDef.label (c : ClassDef) :=
  (c.kind, c.name, c.active, c.modifiers)

namespace Binding

/-- What declaring methods and classes changes: something is added, or touched, or a class gets other methods. -/
inductive Enrich : (Binding → Binding) → Prop
  | touch {g : Binding → Binding} (h : Touch g) : Enrich g
  | signature (s : Signature) : Enrich fun b => { b with signatures := b.signatures.push s }
  | member (x : Member) : Enrich fun b => { b with members := b.members.push x }
  | classDef (c : ClassDef) : Enrich fun b => { b with classes := b.classes.push c }
  | methods (id : ClassId) {f : ClassDef → ClassDef} (h : ∀ c, (f c).label = c.label) :
    Enrich fun b => { b with classes := b.classes.modify id f }

lemma Enrich.declares {g : Binding → Binding} (h : Enrich g) : Declares g := by
  cases h with
  | touch h => exact h.declares
  | _ => exact ⟨fun _ _ => rfl, fun _ => rfl⟩

lemma Composed.enriches {act : Act Binding α} (h : Composed Touch act) : Composed Enrich act :=
  h.mono fun _ => .touch

lemma Composed.enriched {act : Act Binding α} (h : Composed Enrich act) : Composed Declares act :=
  h.mono fun _ => Enrich.declares

lemma enrich_modifyClass (id : ClassId) {f : ClassDef → ClassDef} (h : ∀ c, (f c).label = c.label) :
    Composed Enrich (modifyClass id f) :=
  .update (.methods id h)

end Binding

/-! ### Declaring methods -/

namespace Method

lemma composed_argumentType (className : Option String) (method type name : String) :
    Composed U (argumentType className method type name) := by
  refine .look (fun b => ?_) fun _ _ _ _ => rfl
  dsimp only
  split
  on_goal 1 => refine .bind (.report _) fun _ => ?_
  all_goals
    split
    · exact .bind (.lift _) fun _ => .pure _
    · exact .bind (.lift _) fun _ => .bind (.report _) fun _ => .pure _

lemma composed_addTo (className : Option String) (method : String) (args : List CType) (type name : String) :
    Composed U (addTo className method args type name) := by
  refine .bind (composed_argumentType className method type name) fun found => ?_
  split
  · exact .pure _
  · exact .lift _

lemma composed_addAllTo (className : Option String) (method : String) (args : List CType)
    (more : List (String × String)) : Composed U (addAllTo className method args more) := by
  induction more generalizing args with
  | nil => exact .pure _
  | cons arg rest ih => exact .bind (composed_addTo className method args arg.1 arg.2) fun args' => ih args'

lemma composed_addArgument (m : Method) (type name : String) : Composed Touch (m.addArgument type name) := by
  refine .bind (composed_signatureOf m) fun s => .bind (composed_addTo _ _ _ _ _) fun args => ?_
  exact composed_modifySignature _ _

lemma composed_resultType (className : Option String) (method returns : String) :
    Composed U (resultType className method returns) := by
  refine .look (fun b => ?_) fun _ _ _ _ => rfl
  dsimp only
  split
  · exact .pure _
  · refine .ite (fun _ => ?_) fun _ => .lift _
    exact .bind (.lift _) fun _ => .bind (.report _) fun _ => .lift _
  · exact .fail _

lemma enrich_make (kind : MethodKind) (className baseName : Option String) (name : String)
    (args : List (String × String)) (returns : String) (owner : Option ClassId) :
    Composed Enrich (make kind className baseName name args returns owner) := by
  have hsignature (s : Signature) : Composed Enrich (addSignature s) :=
    .look (fun _ => .bind (.update (.signature s)) fun _ => .pure _) fun _ _ _ _ => rfl
  unfold make
  split
  · refine .bind (composed_addAllTo _ _ _ _) fun args => .bind (composed_resultType _ _ _) fun result => ?_
    exact .bind (hsignature _) fun _ => .pure _
  · exact .fail _

lemma composed_make (kind : MethodKind) (className baseName : Option String) (name : String)
    (args : List (String × String)) (returns : String) (owner : Option ClassId) :
    Composed Declares (make kind className baseName name args returns owner) :=
  (enrich_make kind className baseName name args returns owner).enriched

lemma composed_rename (m : Method) (className : Option String) : Composed Touch (m.rename className) := by
  refine .bind (.forIn fun id _ => ?_) fun _ => .pure _
  exact .bind (.update (.member _ _)) fun _ => .pure _

lemma enrich_makeReader (className baseName : Option String) (owner : ClassId) :
    Composed Enrich (makeReader className baseName owner) :=
  .bind (enrich_make _ _ _ _ _ _ _) fun _ => (composed_rename _ _).enriches

lemma enrich_inherit (ref : MethodRef) (className : String) : Composed Enrich (inherit ref className) := by
  refine .bind (composed_method ref) fun m => .ite (fun _ => .bind (.fail _) fun _ => ?_) fun _ => ?_
  all_goals
    refine .bind (composed_readNotes ref).enriches fun _ => .bind (composed_method ref) fun m => ?_
    exact .bind (enrich_make _ _ _ _ _ _ _) fun _ => .pure _

lemma enrich_inheritReader (m : Method) (className : String) : Composed Enrich (m.inheritReader className) :=
  .bind (enrich_makeReader _ _ _) fun _ => .pure _

lemma composed_makeProxy (ref : MethodRef) : Composed Announce (makeProxy ref) :=
  .bind (composed_method ref) fun _ => .update (Announce.proxy ref _)

end Method

/-! ### Declaring classes -/

namespace Class

lemma enrich_make (name baseName : Option String) : Composed Enrich (make name baseName) := by
  have hadd (c : ClassDef) : Composed Enrich (addClassDef c) :=
    .look (fun _ => .bind (.update (.classDef c)) fun _ => .pure _) fun _ _ _ _ => rfl
  refine .bind (hadd _) fun id => .bind (Method.enrich_makeReader _ _ _) fun reader => ?_
  refine .bind (enrich_modifyClass _ fun _ => rfl) fun _ => .bind (Method.enrich_make _ _ _ _ _ _ _) fun _ => ?_
  exact .bind (enrich_modifyClass _ fun _ => rfl) fun _ => .pure _

lemma composed_make (name baseName : Option String) : Composed Declares (make name baseName) :=
  (enrich_make name baseName).enriched

lemma composed_makeStruct (name : Option String) : Composed Declares (makeStruct name) :=
  .bind (composed_make _ _) fun _ => .bind (composed_modifyClass _ _) fun _ => .pure _

lemma composed_makeEnum (name : Option String) : Composed Declares (makeEnum name) :=
  .bind (composed_makeStruct _) fun _ => .bind (composed_modifyClass _ _) fun _ => .pure _

lemma enrich_inheritMethods (id : ClassId) (className : String) (i count : Nat) :
    Composed Enrich (inheritMethods id className i count) := by
  induction count generalizing i with
  | zero => exact .pure _
  | succ count ih =>
    exact .bind (Method.enrich_inherit _ _) fun _ => .bind (ih (i + 1)) fun _ => .pure _

lemma enrich_inherit (id : ClassId) (className : String) : Composed Enrich (inherit id className) := by
  refine .look (fun b => ?_) fun _ _ _ _ => rfl
  refine .bind (enrich_make _ _) fun new => .bind (Method.enrich_inherit _ _) fun _ => ?_
  refine .bind (enrich_modifyClass _ fun _ => rfl) fun _ => .bind (enrich_inheritMethods _ _ _ _) fun _ => ?_
  refine .bind (enrich_modifyClass _ fun _ => rfl) fun _ => ?_
  split
  · exact .bind (Method.enrich_inheritReader _ _) fun _ => .bind (enrich_modifyClass _ fun _ => rfl) fun _ => .pure _
  · exact .fail _

lemma composed_inherit (id : ClassId) (className : String) : Composed Declares (inherit id className) :=
  (enrich_inherit id className).enriched

lemma composed_declare (id : ClassId) (kind : Kind) : Composed Declares (declare id kind) :=
  .update ⟨fun _ _ => rfl, fun _ => rfl⟩

lemma label_modifyMethod (c : ClassDef) (slot : MethodSlot) (f : Method → Method) :
    (c.modifyMethod slot f).label = c.label := by
  cases slot <;> rfl

lemma enrich_addAttribute (id : ClassId) (name type modifier : String) (named : List (String × Datum)) :
    Composed Enrich (addAttribute id name type modifier named) := by
  have hmember (x : Member) : Composed Enrich (addMember x) :=
    .look (fun _ => .bind (.update (.member x)) fun _ => .pure _) fun _ _ _ _ => rfl
  have hwanted : Composed Enrich (isWanted type) := by
    refine .look (fun b => ?_) fun _ _ _ _ => rfl
    split
    · exact composed_isActive _
    · exact .pure _
  have hadd : Composed Enrich (addWanted id name type modifier named) := by
    refine .look (fun b => ?_) fun _ _ _ _ => rfl
    dsimp only
    split
    · exact .report _
    · exact .fail _
    · split
      · refine .ite (fun _ => .bind (hmember _) fun _ => ?_) fun _ => .pure _
        exact enrich_modifyClass _ fun c => label_modifyMethod c _ _
      · exact .fail _
  have htry : Composed Enrich (do
      if ← isWanted type then
        addWanted id name type modifier named : Act Binding Unit) :=
    .bind hwanted fun _ => .ite (fun _ => hadd) fun _ => .pure _
  exact .ite (fun _ => .bind (.fail _) fun _ => htry) fun _ => htry

lemma composed_addAttribute (id : ClassId) (name type modifier : String) (named : List (String × Datum)) :
    Composed Declares (addAttribute id name type modifier named) :=
  (enrich_addAttribute id name type modifier named).enriched

lemma composed_prepareStruct (id : ClassId) : Composed Declares (prepareStruct id) := by
  refine .look (fun b => .ite (fun _ => ?_) fun _ => .pure _) fun _ _ _ _ => rfl
  refine .bind (Method.composed_make _ _ _ _ _ _ _) fun m => .bind (composed_modifyClass _ _) fun _ => ?_
  split
  · refine .bind (Method.composed_rename _ _).declares fun _ => .bind (composed_modifyClass _ _) fun _ => ?_
    refine .bind (.forIn fun _ _ => ?_) fun _ => .pure _
    exact .bind (.update ⟨fun _ _ => rfl, fun _ => rfl⟩) fun _ => .pure _
  · exact .fail _

lemma composed_prepare (id : ClassId) : Composed Declares (prepare id) := by
  refine .look (fun b => ?_) fun _ _ _ _ => rfl
  dsimp only
  split
  · exact .pure _
  · exact composed_prepareStruct id
  · refine .bind (Method.composed_make _ _ _ _ _ _ _) fun m => .bind (composed_modifyClass _ _) fun _ => ?_
    exact composed_prepareStruct id

lemma composed_writePrototypes (id : ClassId) : Composed Announce (writePrototypes id) := by
  have hemit (text : String) : Composed Announce (emit text) := (composed_emit text).announces
  have hannounce (ref : MethodRef) : Composed Announce (announceMethod ref) := by
    refine .bind (composed_method ref) fun m => .bind (Method.composed_announce m).announces fun _ => ?_
    refine .ite (fun _ => .bind (Method.composed_makeProxy ref) fun _ => ?_) fun _ => .pure _
    refine .bind (composed_method ref) fun m => ?_
    split
    · exact .bind (Proxy.composed_writeHead _).announces fun _ => hemit _
    · exact .pure _
  refine .bind (composed_get id) fun c => .bind (.lift _) fun cls => .bind (hemit _) fun _ => ?_
  refine .bind (composed_method _) fun m => .bind (Method.composed_announce m).announces fun _ => ?_
  refine .bind (hemit _) fun _ => ?_
  have hmethods : Composed Announce (do
      for ref in methodRefs id c do
        announceMethod ref : Act Binding Unit) :=
    .bind (.forIn fun ref _ => .bind (hannounce ref) fun _ => .pure _) fun _ => .pure _
  split
  · exact .bind (Method.composed_announce _).announces fun _ => hmethods
  · exact hmethods

end Class

/-! ### Writing a module -/

namespace Binding

lemma composed_overActive (ids : List ClassId) {act : ClassId → Act Binding String}
    (h : ∀ id, Composed U (act id)) : Composed U (overActive ids act) := by
  refine .bind (.mapM fun id _ => ?_) fun _ => .pure _
  exact .bind (composed_isActive id) fun _ => .ite (fun _ => h id) fun _ => .pure _

lemma composed_overview : Composed U overview := by
  refine .bind ?_ fun ids => .bind (composed_overActive ids fun id => ?_) fun _ => ?_
  · refine .look (fun b => ?_) fun _ _ _ _ => rfl
    dsimp only
    split
    · exact .pure _
    · refine .bind (.mapM fun id _ => .bind (.lift _) fun _ => .pure _) fun _ => .pure _
  · exact .bind (Class.composed_overview id) fun _ => .pure _
  · refine .look (fun b => .pure _) fun _ constants b h => ?_
    rw [sortedConstants_eq_of_perm h]
    rfl

lemma composed_initializeClass (fuel : Nat) (name : Option String) (done : List (Option String)) :
    Composed Touch (initializeClass fuel name done) := by
  induction fuel generalizing name done with
  | zero => exact .pure _
  | succ fuel ih =>
    have hbase (c : ClassDef) : Composed Touch (hasActiveBase c) := by
      refine .look (fun b => ?_) fun _ _ _ _ => rfl
      split
      · exact composed_isActive _
      · exact .pure _
    refine .ite (fun _ => .pure _) fun _ => .bind (composed_findClass _) fun id => ?_
    refine .bind (composed_isActive id) fun _ => .ite (fun _ => .pure _) fun _ => .look (fun b => ?_) fun _ _ _ _ => rfl
    refine .bind (hbase _) fun _ => .ite (fun _ => ?_) fun _ => ?_
    · exact .bind (.lift _) fun _ => .bind (composed_emit _) fun _ => .pure _
    · refine .bind (ih _ _) fun _ => .bind (.lift _) fun _ => .bind (.lift _) fun _ => ?_
      exact .bind (composed_emit _) fun _ => .bind (.lift _) fun _ => .bind (composed_emit _) fun _ => .pure _

lemma composed_forActive {act : ClassId → Act Binding Unit} (h : ∀ id, Composed U (act id)) :
    Composed U (forActive act) := by
  refine .bind (.look (fun _ => .pure _) fun _ _ _ _ => rfl) fun ids => .bind (.forIn fun id _ => ?_) fun _ => .pure _
  refine .bind (composed_isActive id) fun _ => .ite (fun _ => ?_) fun _ => .pure _
  exact .bind (h id) fun _ => .pure _

lemma composed_announceClass (id : ClassId) : Composed Announce (do
    let cls ← need ((← Act.state).classAt id).name
    emit s!"/******************** {cls} ***********************/"
    Class.writeLayout id
    Class.writePrototypes id) := by
  refine .look (fun b => .bind (.lift _) fun _ => .bind (composed_emit _).announces fun _ => ?_) fun _ _ _ _ => rfl
  exact .bind (Class.composed_writeLayout id).announces fun _ => Class.composed_writePrototypes id

lemma composed_writeTables (id : ClassId) : Composed Touch (do
    Class.writeMethodTable id
    Class.writeAttributeTable id
    Class.writeTypeObject id) :=
  .bind (Class.composed_writeMethodTable id) fun _ => .bind (Class.composed_writeAttributeTable id) fun _ =>
    Class.composed_writeTypeObject id

lemma composed_initializeClasses : Composed Touch initializeClasses := by
  refine .look (fun _ => .look (fun b => ?_) fun _ _ _ _ => rfl) fun _ _ _ _ => rfl
  exact .bind (.foldlM (fun done name _ => composed_initializeClass _ name done) []) fun _ => .pure _

lemma composed_initialization : Composed U initialization :=
  .look (fun _ => .bind (composed_overActive _ Class.composed_initialization) fun _ => .pure _) fun _ _ _ _ => rfl

lemma composed_writeLoading : Composed Touch writeLoading := by
  refine .look (fun _ => ?_) fun _ _ _ _ => rfl
  refine .bind (composed_emit _) fun _ => .bind composed_initializeClasses fun _ => ?_
  refine .look (fun _ => ?_) fun _ constants b h => ?_
  · refine .bind (.forIn fun _ _ => .bind (composed_emit _) fun _ => .pure _) fun _ => ?_
    exact .bind composed_initialization fun _ => .bind (composed_emit _) fun _ => composed_emit _
  · rw [sortedConstants_eq_of_perm h]

lemma composed_writeStart : Composed Declares writeStart := by
  have hemit (text : String) : Composed Declares (emit text) := (composed_emit text).declares
  refine .bind (.update ⟨fun _ _ => rfl, fun _ => rfl⟩) fun _ => ?_
  refine .bind (.look (fun _ => .pure _) fun _ _ _ _ => rfl) fun ids => ?_
  refine .bind (.forIn fun id _ => .bind (Class.composed_prepare id) fun _ => .pure _) fun _ => ?_
  refine .bind composed_overview fun text => .look (fun b => ?_) fun _ _ _ _ => rfl
  refine .bind (hemit _) fun _ => .bind (hemit _) fun _ => .bind (hemit _) fun _ => .bind (hemit _) fun _ => ?_
  refine .bind (composed_forActive fun id => ?_) fun _ => .bind (hemit _) fun _ => ?_
  · exact (composed_announceClass id).mono fun _ hg => hg.declares
  · exact composed_forActive fun id => (composed_writeTables id).declares

lemma composed_write : Composed Apart write := by
  refine .bind composed_writeStart.apart fun _ => .bind (composed_forActive fun id => ?_) fun _ => ?_
  · exact (Class.composed_writeFunctions id).mono fun _ => Define.apart
  · exact composed_writeLoading.declares.apart

/-- The code of a module is the same whether reports are wanted or not. -/
lemma blind_written_write (debug : Bool) : (written write).Blind (withDebug debug) := by
  have hwritten : Composed Steady (written write) := by
    refine .look (fun b => .bind (.update fun _ _ => rfl) fun _ =>
      .bind composed_write.steady.attempt fun _ => ?_) fun _ _ _ _ => rfl
    refine .look (fun b => .bind (.update fun _ _ => rfl) fun _ => .bind (.lift _) fun _ => .pure _) fun _ _ _ _ => rfl
  exact hwritten.blind fun g hg => hg debug

end Binding

end HeaderBind
