import HeaderBind.Proofs.Binding.Composed

/-!
# What writing a method is made of

Everything that is written for a method touches only code, types at their places of use, and what is found
out about the method on the way.
-/

namespace HeaderBind

open Binding

namespace Method

lemma composed_comment {U : (Binding → Binding) → Prop} (m : Method) : Composed U m.comment :=
  .bind (composed_signatureOf m) fun _ => .bind (.lift _) fun _ => .bind (.lift _) fun _ =>
    .bind (.lift _) fun _ => .pure _

lemma composed_overview {U : (Binding → Binding) → Prop} (m : Method) : Composed U m.overview :=
  .bind (composed_signatureOf m) fun _ => .ite (fun _ => .pure _) fun _ => .pure _

lemma composed_head {U : (Binding → Binding) → Prop} (m : Method) : Composed U m.head := by
  refine .bind (.lift _) fun cls => .ite (fun _ => .pure _) fun _ => ?_
  exact .ite (fun _ => .pure _) fun _ => .pure _

lemma composed_errorCondition {U : (Binding → Binding) → Prop} (m : Method) : Composed U m.errorCondition :=
  .ite (fun _ => .pure _) fun _ => .bind (composed_signatureOf m) fun _ => .pure _

lemma composed_writePrototype (m : Method) : Composed Touch m.writePrototype := by
  refine .bind (composed_head m) fun _ => .bind (composed_emit _) fun _ => .ite (fun _ => ?_) fun _ => ?_
  · exact .bind (.lift _) fun _ => composed_emit _
  · exact composed_emit _

/-! ### Arguments and calls -/

lemma composed_takeOver (ref : MethodRef) (m : Method) (a : Doc.Annotation) :
    Composed Touch (takeOver ref m a) := by
  cases a with
  | default name value => exact .bind (.report _) fun _ => composed_modifySignature _ _
  | raises r => exact composed_modifyMethod ref fun _ => rfl

lemma composed_readNotes (ref : MethodRef) : Composed Touch (readNotes ref) := by
  refine .bind (composed_method ref) fun m => .bind (.forIn fun a _ => ?_) fun _ => .pure _
  exact .bind (composed_takeOver ref m a) fun _ => .pure _

lemma composed_writeLocals (ref : MethodRef) : Composed Touch (writeLocals ref) := by
  have hemit := composed_emit
  refine .bind (composed_readNotes ref) fun _ => .bind (composed_method ref) fun m => ?_
  refine .bind (composed_signatureOf m) fun s => .bind (.forIn fun t _ => ?_) fun _ => ?_
  · exact .bind (hemit _) fun _ => .bind (.lift _) fun _ => .bind (hemit _) fun _ => .pure _
  · refine .ite (fun _ => ?_) fun _ => .pure _
    refine .bind (hemit _) fun _ => .bind (hemit _) fun _ => .bind (hemit _) fun _ => ?_
    refine .bind (.lift _) fun _ => .bind (hemit _) fun _ => ?_
    exact .bind (composed_modifyMethod ref fun _ => rfl) fun _ => hemit _

lemma composed_writeBeforeCall (ref : MethodRef) (count : Nat) (keeper : Nat → Datum) :
    Composed Touch (writeBeforeCall ref count keeper) := by
  refine .bind (.forIn fun i _ => ?_) fun _ => .pure _
  exact .bind (composed_atArgument ref i _) fun _ => .bind (composed_emit _) fun _ => .pure _

lemma composed_writeOpening (ref : MethodRef) (m : Method) : Composed Touch (writeOpening ref m) := by
  have hemit := composed_emit
  refine .bind (composed_head m) fun _ => .bind (hemit _) fun _ => .bind (composed_signatureOf m) fun s => ?_
  refine .bind (hemit _) fun _ => .bind (.lift _) fun _ => .bind (hemit _) fun _ => ?_
  refine .bind (composed_writeLocals ref) fun _ => .bind (.lift _) fun _ => .bind (hemit _) fun _ => ?_
  refine .bind (hemit _) fun _ => .bind (composed_atResult ref _) fun _ => .bind (hemit _) fun _ => ?_
  exact composed_writeBeforeCall ref _ _

lemma composed_writeMadeCall (ref : MethodRef) (m : Method) : Composed Touch (writeMadeCall ref m) := by
  have hemit := composed_emit
  refine .bind (.lift _) fun _ => .bind (.lift _) fun _ => .bind (hemit _) fun _ => ?_
  refine .bind (composed_signatureOf m) fun _ => .bind (.lift _) fun _ => .look (fun b => ?_) fun _ _ _ _ => rfl
  refine .bind (composed_atResult ref _) fun _ => .bind (hemit _) fun _ => .bind (composed_method ref) fun m => ?_
  have hend : Composed Touch (do
      Binding.modifyMethod ref fun m => { m with errorSet := true }
      emit "    \x7d;\n\n    // Postcall preparations\n" : Act Binding Unit) :=
    .bind (composed_modifyMethod ref fun _ => rfl) fun _ => hemit _
  split
  · exact .bind (hemit _) fun _ => hend
  · exact hend

lemma composed_writeOutcome (m : Method) : Composed Touch m.writeOutcome := by
  have hemit := composed_emit
  refine .bind (composed_signatureOf m) fun _ => .bind (.forIn fun _ _ => .bind (hemit _) fun _ => .pure _) fun _ => ?_
  exact .bind (.lift _) fun _ => .bind (hemit _) fun _ => hemit _

lemma composed_writeCallFunction (ref : MethodRef) : Composed Touch (writeCallFunction ref) := by
  have hemit := composed_emit
  refine .bind (composed_method ref) fun m => .bind (composed_writeOpening ref m) fun _ => ?_
  refine .bind (composed_writeMadeCall ref m) fun _ => .bind (composed_writeOutcome m) fun _ => ?_
  exact .bind (hemit _) fun _ => .bind (composed_errorCondition m) fun _ => .bind (hemit _) fun _ => hemit _

lemma composed_writeBanner (m : Method) (title : String) : Composed Touch (m.writeBanner title) :=
  .bind (composed_comment m) fun _ => composed_emit _

lemma composed_writeCall (ref : MethodRef) : Composed Touch (writeCall ref) :=
  .bind (composed_method ref) fun m => .bind (composed_writeBanner m _) fun _ => composed_writeCallFunction ref

lemma composed_writeIterFunction (m : Method) : Composed Touch m.writeIterFunction := by
  refine .bind (composed_head m) fun _ => .bind (composed_emit _) fun _ => ?_
  exact .bind (.lift _) fun _ => composed_emit _

lemma composed_writeSelfIterator (m : Method) : Composed Touch m.writeSelfIterator :=
  .bind (composed_writeBanner m _) fun _ => composed_writeIterFunction m

lemma composed_writeTableEntry (m : Method) : Composed Touch m.writeTableEntry := by
  refine .ite (fun _ => .pure _) fun _ => .bind (composed_comment m) fun _ => ?_
  exact .bind (.lift _) fun _ => composed_emit _

/-! ### Attributes -/

lemma composed_exposedMembers {U : (Binding → Binding) → Prop} (m : Method) : Composed U m.exposedMembers :=
  .look (fun _ => .pure _) fun _ _ _ _ => rfl

lemma composed_attributeOverview {U : (Binding → Binding) → Prop} (m : Method) : Composed U m.attributeOverview :=
  .bind (composed_exposedMembers m) fun _ => .pure _

lemma composed_writeReaderPrototypes (m : Method) : Composed Touch m.writeReaderPrototypes := by
  refine .ite (fun _ => .pure _) fun _ => .bind (.lift _) fun _ => .bind (composed_emit _) fun _ => ?_
  refine .bind (composed_exposedMembers m) fun _ => .bind (.forIn fun _ _ => ?_) fun _ => .pure _
  exact .bind (composed_emit _) fun _ => .pure _

lemma composed_writeAttributeTable (m : Method) : Composed Touch m.writeAttributeTable := by
  refine .bind (composed_exposedMembers m) fun _ => .bind (.forIn fun _ _ => ?_) fun _ => .pure _
  exact .bind (.lift _) fun _ => .bind (composed_emit _) fun _ => .pure _

lemma composed_writeBuiltIns (m : Method) : Composed Touch m.writeBuiltIns := by
  refine .bind (composed_emit _) fun _ => .bind (composed_exposedMembers m) fun _ => ?_
  refine .bind (.forIn fun _ _ => .bind (composed_emit _) fun _ => .pure _) fun _ => ?_
  exact .bind (.lift _) fun _ => composed_emit _

lemma composed_writeGetter (ref : MethodRef) (id : MemberId) : Composed Touch (writeGetter ref id) := by
  have hemit := composed_emit
  refine .bind (composed_method ref) fun m => .look (fun b => ?_) fun _ _ _ _ => rfl
  refine .bind (.lift _) fun _ => .bind (.lift _) fun _ => .bind (composed_atMember ref id _) fun _ => ?_
  refine .look (fun b => ?_) fun _ _ _ _ => rfl
  refine .bind (.lift _) fun _ => .bind (hemit _) fun _ => .ite (fun _ => ?_) fun _ => hemit _
  exact .bind (hemit _) fun _ => hemit _

lemma composed_writeLookup (ref : MethodRef) : Composed Touch (writeLookup ref) := by
  have hemit := composed_emit
  refine .bind (composed_method ref) fun m => .bind (.lift _) fun _ => .bind (hemit _) fun _ => ?_
  refine .bind (composed_writeBuiltIns m) fun _ => .bind (hemit _) fun _ => .ite (fun _ => ?_) fun _ => hemit _
  exact .bind (composed_errorCondition m) fun _ => .bind (hemit _) fun _ => hemit _

lemma composed_writeReader (ref : MethodRef) : Composed Touch (writeReader ref) := by
  refine .bind (composed_method ref) fun m => .ite (fun _ => .pure _) fun _ => ?_
  refine .bind (composed_writeLookup ref) fun _ => .bind (composed_method ref) fun m => ?_
  refine .bind (composed_exposedMembers m) fun _ => .bind (.forIn fun x _ => ?_) fun _ => .pure _
  exact .bind (composed_writeGetter ref x.1) fun _ => .pure _

end Method

/-! ### Proxies -/

namespace Proxy

lemma composed_signatureOf {U : (Binding → Binding) → Prop} (p : Proxy) : Composed U p.signatureOf :=
  .look (fun _ => .pure _) fun _ _ _ _ => rfl

lemma composed_functionName {U : (Binding → Binding) → Prop} (p : Proxy) : Composed U p.functionName :=
  .look (fun _ => .bind (.lift _) fun _ => .pure _) fun _ _ _ _ => rfl

lemma composed_writeHead (p : Proxy) : Composed Touch p.writeHead := by
  have hemit := composed_emit
  refine .bind (composed_signatureOf p) fun s => .bind (composed_functionName p) fun _ => ?_
  refine .bind (.lift _) fun _ => .bind (hemit _) fun _ => .bind (.forIn fun t _ => ?_) fun _ => hemit _
  refine .bind (.lift _) fun _ => .ite (fun _ => .bind (hemit _) fun _ => .pure _) fun _ => .pure _

lemma composed_writeStart (p : Proxy) (s : Signature) : Composed Touch (p.writeStart s) := by
  have hemit := composed_emit
  refine .bind (hemit _) fun _ => .bind (.lift _) fun _ => .bind (hemit _) fun _ => ?_
  refine .bind (.forIn fun t _ => ?_) fun _ => hemit _
  exact .bind (hemit _) fun _ => .bind (hemit _) fun _ => .pure _

lemma composed_writeCallback (p : Proxy) (s : Signature) : Composed Touch (p.writeCallback s) := by
  have hemit := composed_emit
  refine .bind (.forIn fun t _ => .bind (.lift _) fun _ => .bind (hemit _) fun _ => .pure _) fun _ => ?_
  refine .look (fun b => ?_) fun _ _ _ _ => rfl
  refine .bind (.lift _) fun _ => .bind (hemit _) fun _ => .bind (hemit _) fun _ => ?_
  refine .bind (.forIn fun t _ => .bind (hemit _) fun _ => .pure _) fun _ => ?_
  exact .bind (hemit _) fun _ => hemit _

lemma composed_writeReturn (s : Signature) : Composed Touch (writeReturn s) := by
  have hemit := composed_emit
  have hend {back : String} : Composed Touch (do
      emit "    Py_DecRef(method_name);\n\n"
      emitCode (releaseArguments s)
      emit s!"    PyGILState_Release(gil_state);\n\n    {back}\n" : Act Binding Unit) :=
    .bind (hemit _) fun _ => .bind (hemit _) fun _ => hemit _
  refine .bind (.forIn fun t _ => .bind (.lift _) fun _ => .bind (hemit _) fun _ => .pure _) fun _ => ?_
  refine .bind (.onValue _ _) fun r => .bind (.lift _) fun _ => .bind (hemit _) fun _ => ?_
  exact .ite (fun _ => .bind (hemit _) fun _ => hend) fun _ => .bind (hemit _) fun _ => hend

lemma composed_writeErrorExit (p : Proxy) (s : Signature) : Composed Touch (p.writeErrorExit s) := by
  have hemit := composed_emit
  refine .bind (hemit _) fun _ => .bind (hemit _) fun _ => .bind (hemit _) fun _ => .bind (hemit _) fun _ => ?_
  refine .bind (.bind (composed_signatureOf p) fun _ => .pure _) fun _ => ?_
  exact .bind (hemit _) fun _ => hemit _

lemma composed_writeBody (p : Proxy) : Composed Touch p.writeBody := by
  refine .bind (composed_signatureOf p) fun s => .bind (composed_writeStart p s) fun _ => ?_
  refine .bind (composed_writeCallback p s) fun _ => .bind (composed_writeReturn s) fun _ => ?_
  exact composed_writeErrorExit p s

lemma composed_writeDefinition (p : Proxy) : Composed Define p.writeDefinition := by
  refine .bind (composed_functionName p) fun name => .look (fun b => ?_) fun _ _ _ _ => rfl
  refine .ite (fun _ => .pure _) fun _ => .bind (.update (.define name)) fun _ => ?_
  exact .bind (composed_writeHead p).defines fun _ => (composed_writeBody p).defines

end Proxy

/-! ### Constructors -/

namespace Method

lemma composed_writeInitializeProxies (m : Method) : Composed Define m.writeInitializeProxies := by
  have hemit (text : String) : Composed Define (emit text) := (composed_emit text).defines
  refine .bind (.lift _) fun cls => .bind (.update (.define _)) fun _ => .bind (hemit _) fun _ => ?_
  refine .bind (hemit _) fun _ => .bind (composed_findClass _) fun id => .look (fun b => ?_) fun _ _ _ _ => rfl
  refine .bind (.forIn fun method _ => ?_) fun _ => hemit _
  refine .ite (fun _ => .bind (.fail _) fun _ => ?_) fun _ => ?_
  all_goals
    refine .ite (fun _ => .bind ?_ fun _ => ?_) fun _ => .pure _
    · unfold proxyName
      split
      · exact Proxy.composed_functionName _
      · exact .fail _
    · exact .bind (.lift _) fun _ => .bind (.lift _) fun _ => .bind (hemit _) fun _ => .pure _

lemma composed_writeInit (ref : MethodRef) : Composed Touch (writeInit ref) := by
  have hemit := composed_emit
  refine .bind (composed_method ref) fun m => .bind (composed_head m) fun _ => .bind (hemit _) fun _ => ?_
  refine .bind (.lift _) fun _ => .bind (hemit _) fun _ => .bind (composed_writeLocals ref) fun _ => ?_
  refine .bind (hemit _) fun _ => .bind (composed_signatureOf m) fun _ => ?_
  refine .bind (composed_writeBeforeCall ref _ _) fun _ => .bind (hemit _) fun _ => .bind (.lift _) fun _ => ?_
  refine .bind (hemit _) fun _ => .bind (composed_signatureOf m) fun _ => .bind (.lift _) fun _ => ?_
  refine .bind (composed_modifyMethod ref fun _ => rfl) fun _ => .bind (hemit _) fun _ => .bind (hemit _) fun _ => ?_
  exact .bind (composed_errorCondition m) fun _ => .bind (hemit _) fun _ => hemit _

lemma composed_writeEnumConstructor (m : Method) : Composed Touch m.writeEnumConstructor :=
  .bind (.update (.protocols m.owner)) fun _ => .bind (composed_head m) fun _ =>
    .bind (composed_emit _) fun _ => composed_emit _

lemma composed_writeDestructor (m : Method) : Composed Touch m.writeDestructor := by
  refine .bind (.lift _) fun cls => .look (fun b => ?_) fun _ _ _ _ => rfl
  dsimp only
  split
  · exact composed_emit _
  · exact composed_emit _
  · exact composed_emit _
  · exact composed_emit _
  · exact .fail _

end Method

end HeaderBind
