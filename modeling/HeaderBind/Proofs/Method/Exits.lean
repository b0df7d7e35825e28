import HeaderBind.Class.Write
import HeaderBind.Proofs.Binding.Written

/-!
# Functions with an error exit

Wrapper functions, constructors, the look-up of attributes and proxies jump to their error exit from many
places. Each of these functions defines the label, whatever is written before it; so all that is asked of
the parts before it is that they keep the binding tidy (`Growing`).
-/

namespace HeaderBind

open Binding Code

variable {s : Settings} {I : Binding → Prop} {o : String}

namespace Binding

lemma keeps_signatureOf (m : Method) : (signatureOf m).Keeps id :=
  .bind .state fun _ => .pure _

/-- Writing the label where it starts a line. -/
lemma brings_label (t : String) :
    (emit ("\n" ++ errorLabel ++ ":" ++ t)).Brings (Wrote s o fun _ => True) (Wrote s o Defines) :=
  brings_emit fun _ _ => Defines.right (Defines.left (List.infix_refl _))

end Binding

/-! ### Wrapper functions -/

namespace Method

lemma keeps_head (m : Method) : m.head.Keeps id := by
  refine .bind (.lift _) fun cls => ?_
  split
  · exact .pure _
  · split
    · exact .pure _
    · exact .pure _

lemma keeps_errorCondition (m : Method) : m.errorCondition.Keeps id := by
  unfold errorCondition
  split
  · exact .pure _
  · exact .bind (keeps_signatureOf m) fun _ => .pure _

/-- An error exit may always be added. -/
lemma Tidy.withErrorExit {m : Method} (h : m.Tidy) : ({ m with errorSet := true } : Method).Tidy :=
  ⟨h.name, h.className, h.definitionClass, h.proxy⟩

section

variable (hI : Growing s I)

include hI

lemma maintains_writeLocals (ref : MethodRef) : (writeLocals ref).Maintains I fun _ => True := by
  have hemit := hI.maintains_emit
  refine .andThen (maintains_readNotes hI.toLasting ref) fun _ => ?_
  refine .bind (maintains_method hI.tidy ref) fun m _ => ?_
  refine .andThen (keeps_signatureOf m).maintains fun t => ?_
  refine .andThen (.forIn fun x _ => ?_) fun _ => .ite (fun _ => ?_) fun _ => .pure trivial
  · refine .andThen (hemit _) fun _ => .andThen (.liftAny _) fun _ => ?_
    exact .andThen (hemit _) fun _ => .pure trivial
  · refine .andThen (hemit _) fun _ => .andThen (hemit _) fun _ => .andThen (hemit _) fun _ => ?_
    refine .andThen (.liftAny _) fun _ => .andThen (hemit _) fun _ => .andThen ?_ fun _ => hemit _
    exact maintains_modifyMethod hI.toLasting fun m hm => ⟨hm.withErrorExit, rfl, fun _ _ => rfl⟩

lemma maintains_writeBeforeCall (ref : MethodRef) (count : Nat) (keeper : Nat → Datum) :
    (writeBeforeCall ref count keeper).Maintains I fun _ => True := by
  refine .andThen (.forIn fun i _ => .andThen ?_ fun _ => ?_) fun _ => .pure trivial
  · exact maintains_atArgument hI.toLasting ref i fun t e => CType.maintains_beforeCall t e _
  · exact .andThen (hI.maintains_emit _) fun _ => .pure trivial

lemma maintains_writeOpening (ref : MethodRef) (m : Method) :
    (writeOpening ref m).Maintains I fun _ => True := by
  have hemit := hI.maintains_emit
  have hresult := maintains_atResult hI.toLasting ref fun t e => CType.maintains_beforeCall t e (.number 1)
  refine .andThen (keeps_head m).maintains fun _ => .andThen (hemit _) fun _ => ?_
  refine .andThen (keeps_signatureOf m).maintains fun t => .andThen (hemit _) fun _ => ?_
  refine .andThen (.liftAny _) fun _ => .andThen (hemit _) fun _ => ?_
  refine .andThen (maintains_writeLocals hI ref) fun _ => .andThen (.liftAny _) fun _ => ?_
  refine .andThen (hemit _) fun _ => .andThen (hemit _) fun _ => ?_
  exact .andThen hresult fun _ => .andThen (hemit _) fun _ => maintains_writeBeforeCall hI ref _ _

lemma maintains_writeMadeCall (ref : MethodRef) (m : Method) :
    (writeMadeCall ref m).Maintains I fun _ => True := by
  have hemit := hI.maintains_emit
  refine .andThen (.liftAny _) fun _ => .andThen (.liftAny _) fun _ => .andThen (hemit _) fun _ => ?_
  refine .andThen (keeps_signatureOf m).maintains fun _ => .andThen (.liftAny _) fun _ => ?_
  refine .bind .state fun b _ => .andThen ?_ fun _ => .andThen (hemit _) fun _ => ?_
  · exact maintains_atResult hI.toLasting ref fun t e => CType.maintains_assign t e _ _ _ _
  · refine .bind (maintains_method hI.tidy ref) fun m' _ => ?_
    have hrest : (do
        modifyMethod ref fun m => { m with errorSet := true }
        emit "    \x7d;\n\n    // Postcall preparations\n" : Act Binding Unit).Maintains I fun _ => True := by
      refine .andThen (maintains_modifyMethod hI.toLasting fun m hm => ?_) fun _ => hemit _
      exact ⟨hm.withErrorExit, rfl, fun _ _ => rfl⟩
    split
    · exact .andThen (hemit _) fun _ => hrest
    · exact hrest

lemma maintains_writeOutcome (m : Method) : m.writeOutcome.Maintains I fun _ => True := by
  have hemit := hI.maintains_emit
  refine .andThen (keeps_signatureOf m).maintains fun t => ?_
  refine .andThen (.forIn fun check _ => .andThen (hemit _) fun _ => .pure trivial) fun _ => ?_
  exact .andThen (.liftAny _) fun _ => .andThen (hemit _) fun _ => hemit _

end

lemma brings_writeCallFunction (ref : MethodRef) :
    (writeCallFunction ref).Brings (Wrote s o fun _ => True) (Wrote s o Defines) := by
  have hI := growing_wrote s o (P := fun _ => True) fun _ _ _ => trivial
  have hJ := growing_wrote s o (P := Defines) fun _ _ => Defines.left
  refine (maintains_method hI.tidy ref).bind_brings fun m _ => ?_
  refine (maintains_writeOpening hI ref m).bind_brings fun _ _ => ?_
  refine (maintains_writeMadeCall hI ref m).bind_brings fun _ _ => ?_
  refine (maintains_writeOutcome hI m).bind_brings fun _ _ => (brings_label "\n").bind fun _ => ?_
  refine (keeps_errorCondition m).maintains.bind_brings fun _ _ => ?_
  exact (hJ.maintains_emit _).bind_brings fun _ _ => (hJ.maintains_emit _).brings

/-! ### Constructors -/

lemma brings_writeInit (ref : MethodRef) :
    (writeInit ref).Brings (Wrote s o fun _ => True) (Wrote s o Defines) := by
  have hI := growing_wrote s o (P := fun _ => True) fun _ _ _ => trivial
  have hJ := growing_wrote s o (P := Defines) fun _ _ => Defines.left
  have hemit := hI.maintains_emit
  refine (maintains_method hI.tidy ref).bind_brings fun m _ => ?_
  refine (keeps_head m).maintains.bind_brings fun _ _ => (hemit _).bind_brings fun _ _ => ?_
  refine (Act.Maintains.liftAny _).bind_brings fun _ _ => (hemit _).bind_brings fun _ _ => ?_
  refine (maintains_writeLocals hI ref).bind_brings fun _ _ => (hemit _).bind_brings fun _ _ => ?_
  refine (keeps_signatureOf m).maintains.bind_brings fun _ _ => ?_
  refine (maintains_writeBeforeCall hI ref _ _).bind_brings fun _ _ => (hemit _).bind_brings fun _ _ => ?_
  refine (Act.Maintains.liftAny _).bind_brings fun _ _ => (hemit _).bind_brings fun _ _ => ?_
  refine (keeps_signatureOf m).maintains.bind_brings fun _ _ => ?_
  refine (Act.Maintains.liftAny _).bind_brings fun _ _ => ?_
  refine (maintains_modifyMethod hI.toLasting fun m hm => ?_).bind_brings fun _ _ => ?_
  · exact ⟨hm.withErrorExit, rfl, fun _ _ => rfl⟩
  · refine (hemit _).bind_brings fun _ _ => (hemit _).bind_brings fun _ _ => ?_
    refine (keeps_errorCondition m).maintains.bind_brings fun _ _ => ?_
    have hundo : Defines undoObject.render := defines_render "" [] _
    exact (brings_emit fun _ _ => hundo.left.left.right).bind fun _ => (hJ.maintains_emit _).brings

lemma brings_writeEnumConstructor (m : Method) :
    m.writeEnumConstructor.Brings (Wrote s o fun _ => True) (Wrote s o Defines) := by
  have hI := growing_wrote s o (P := fun _ => True) fun _ _ _ => trivial
  refine (maintains_modifyClass hI.toLasting fun c hc => ?_).bind_brings fun _ _ => ?_
  · exact ⟨hc.name, hc.entries, hc.reader⟩
  · refine (keeps_head m).maintains.bind_brings fun _ _ => (hI.maintains_emit _).bind_brings fun _ _ => ?_
    exact brings_emit fun _ _ => .right (defines_render _ _ _)

/-! ### The look-up of attributes -/

lemma maintains_writeBuiltIns (hI : Growing s I) (m : Method) :
    m.writeBuiltIns.Maintains I fun _ => True := by
  have hemit := hI.maintains_emit
  refine .andThen (hemit _) fun _ => .andThen (.bind .state fun _ _ => .pure trivial) fun _ => ?_
  refine .andThen (.forIn fun _ _ => .andThen (hemit _) fun _ => .pure trivial) fun _ => ?_
  exact .andThen (.liftAny _) fun _ => hemit _

/-- The reader of attributes has an error exit. -/
lemma brings_writeLookup {ref : MethodRef} (hr : ref.slot = .attributes) :
    (writeLookup ref).Brings (Wrote s o fun _ => True) (Wrote s o Defines) := by
  have hI := growing_wrote s o (P := fun _ => True) fun _ _ _ => trivial
  have hJ := growing_wrote s o (P := Defines) fun _ _ => Defines.left
  refine (maintains_method hI.tidy ref).bind_brings fun m hm => ?_
  refine (Act.Maintains.liftAny _).bind_brings fun _ _ => (hI.maintains_emit _).bind_brings fun _ _ => ?_
  refine (maintains_writeBuiltIns hI m).bind_brings fun _ _ => ?_
  have hline : ∀ code, (emitCode ("" :: code)).Brings (Wrote s o fun _ => True) (Wrote s o Ended) :=
    fun code => brings_emit fun _ _ => (ended_render _ _).right
  refine (hline _).bind fun _ => ?_
  rw [if_pos (hm.2.1 hr)]
  have hlabel : ∀ rest t, (emit (render ((errorLabel ++ ":") :: rest) ++ t)).Brings (Wrote s o Ended)
      (Wrote s o Defines) := by
    intro rest t
    refine brings_emit fun u hu => ?_
    rw [render_cons, String.append_assoc, String.append_assoc]
    exact hu.defines ⟨_, String.toList_append.symm⟩
  refine (keeps_errorCondition m).maintains.bind_brings fun _ _ => ?_
  exact (hlabel _ _).bind fun _ => (hJ.maintains_emit _).brings

end Method

/-! ### Proxies -/

namespace Proxy

lemma keeps_functionName (p : Proxy) : p.functionName.Keeps id :=
  .bind .state fun _ => .bind (.lift _) fun _ => .pure _

lemma keeps_signatureOf (p : Proxy) : p.signatureOf.Keeps id :=
  .bind .state fun _ => .pure _

lemma keeps_errorCondition (p : Proxy) : p.errorCondition.Keeps id :=
  .bind (keeps_signatureOf p) fun _ => .pure _

section

variable (hI : Growing s I) (p : Proxy) (t : Signature)

include hI

lemma maintains_writeHead : p.writeHead.Maintains I fun _ => True := by
  have hemit := hI.maintains_emit
  refine .andThen (keeps_signatureOf p).maintains fun _ => .andThen (keeps_functionName p).maintains fun _ => ?_
  refine .andThen (.liftAny _) fun _ => .andThen (hemit _) fun _ => ?_
  refine .andThen (.forIn fun _ _ => .andThen (.liftAny _) fun _ => ?_) fun _ => hemit _
  dsimp only
  split
  · exact .andThen (hemit _) fun _ => .pure trivial
  · exact .pure trivial

lemma maintains_writeStart : (p.writeStart t).Maintains I fun _ => True := by
  have hemit := hI.maintains_emit
  refine .andThen (hemit _) fun _ => .andThen (.liftAny _) fun _ => .andThen (hemit _) fun _ => ?_
  refine .andThen (.forIn fun _ _ => ?_) fun _ => hemit _
  exact .andThen (hemit _) fun _ => .andThen (hemit _) fun _ => .pure trivial

lemma maintains_writeCallback : (p.writeCallback t).Maintains I fun _ => True := by
  have hemit := hI.maintains_emit
  refine .andThen (.forIn fun _ _ => .andThen (.liftAny _) fun _ => ?_) fun _ => .bind .state fun _ _ => ?_
  · exact .andThen (hemit _) fun _ => .pure trivial
  · refine .andThen (.liftAny _) fun _ => .andThen (hemit _) fun _ => .andThen (hemit _) fun _ => ?_
    refine .andThen (.forIn fun _ _ => .andThen (hemit _) fun _ => .pure trivial) fun _ => ?_
    exact .andThen (hemit _) fun _ => hemit _

lemma maintains_writeReturn : (writeReturn t).Maintains I fun _ => True := by
  have hemit := hI.maintains_emit
  have hvalue := CType.maintains_fromObject t.returns true (.text "Py_result") (.text t.returns.name)
    (.text "self")
  refine .andThen (.forIn fun _ _ => .andThen (.liftAny _) fun _ => ?_) fun _ =>
    .bind (.onValue hvalue CType.Site.from_start) fun r _ => ?_
  · exact .andThen (hemit _) fun _ => .pure trivial
  · have hrest : (do
        emit "    Py_DecRef(method_name);\n\n"
        emitCode (releaseArguments t)
        let back := t.returns.returnValue "func_return"
        emit s!"    PyGILState_Release(gil_state);\n\n    {back}\n" : Act Binding Unit).Maintains I
        fun _ => True :=
      .andThen (hemit _) fun _ => .andThen (hemit _) fun _ => hemit _
    refine .andThen (.liftAny _) fun _ => .andThen (hemit _) fun _ => ?_
    dsimp only
    split
    · exact .andThen (hemit _) fun _ => hrest
    · exact .andThen (hemit _) fun _ => hrest

end

lemma brings_writeErrorExit (p : Proxy) (t : Signature) :
    (p.writeErrorExit t).Brings (Wrote s o fun _ => True) (Wrote s o Defines) := by
  have hemit := (growing_wrote s o (P := Defines) fun _ _ => Defines.left).maintains_emit
  refine (brings_label "\n").bind fun _ => (hemit _).bind_brings fun _ _ => ?_
  refine (hemit _).bind_brings fun _ _ => (hemit _).bind_brings fun _ _ => ?_
  refine (keeps_errorCondition p).maintains.bind_brings fun _ _ => ?_
  exact (hemit _).bind_brings fun _ _ => (hemit _).brings

lemma brings_writeBody (p : Proxy) :
    p.writeBody.Brings (Wrote s o fun _ => True) (Wrote s o Defines) := by
  have hI := growing_wrote s o (P := fun _ => True) fun _ _ _ => trivial
  refine (keeps_signatureOf p).maintains.bind_brings fun t _ => ?_
  refine (maintains_writeStart hI p t).bind_brings fun _ _ => ?_
  refine (maintains_writeCallback hI p t).bind_brings fun _ _ => ?_
  exact (maintains_writeReturn hI t).bind_brings fun _ _ => brings_writeErrorExit p t

/-- A proxy that was defined before is not written again. -/
lemma brings_writeDefinition (p : Proxy) :
    p.writeDefinition.Brings (Wrote s o (· = "")) (Wrote s o Labelled) := by
  have hI := growing_wrote s o (P := fun _ => True) fun _ _ _ => trivial
  refine (keeps_functionName p).maintains.bind_brings fun name _ => ?_
  refine Act.Maintains.state.bind_brings fun b _ => ?_
  split
  · intro b' hb'
    refine Act.Ends.pure (hb'.mono ?_)
    rintro _ rfl
    exact calm_empty.labelled
  · have hdefined : (Act.update fun b : Binding =>
        { b with defined := b.defined.insert name }).Maintains (Wrote s o fun _ => True) fun _ => True :=
      maintains_update hI.toLasting (fun _ hb => hb.congr rfl rfl rfl) fun _ => rfl
    have hwrite := hdefined.bind_brings fun _ _ => (maintains_writeHead hI p).bind_brings fun _ _ =>
      brings_writeBody p
    exact hwrite.mono (fun b hb => hb.mono fun _ _ => trivial) fun b hb => hb.mono fun _ h _ => h

end Proxy

end HeaderBind
