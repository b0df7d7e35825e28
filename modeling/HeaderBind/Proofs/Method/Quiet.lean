import HeaderBind.Proofs.Method.Exits

/-!
# Functions without a jump

Destructors, the functions that install proxies, the constructors of structs and of classes that declare
none, and the functions that make an object its own iterator never jump: all that they are pieced together
from is calm.
-/

namespace HeaderBind

open Binding Code

variable {s : Settings} {I : Binding → Prop} {o : String}

/-- The functions of the library that a run chooses have names. -/
structure Settings.Named (s : Settings) : Prop where
  free : IsName s.free
  incref : IsName s.incref

lemma IsName.calm {t : String} (h : IsName t) : Calm t :=
  calm_of_no_blank h.1

/-- Calm lines. -/
abbrev Code.CalmCode : Code → Prop :=
  PiecedCode calmChars Calm

namespace Binding

lemma maintains_emit_calm {t : String} (h : Calm t) : (emit t).Maintains (Wrote s o Calm) fun _ => True :=
  maintains_emit fun _ hu => joins_calm.append _ _ hu h

lemma maintains_emitCode_calm {code : Code} (h : CalmCode code) :
    (emitCode code).Maintains (Wrote s o Calm) fun _ => True :=
  maintains_emit_calm (h.render joins_calm)

/-- A name that is known, of those that are names. -/
lemma maintains_need_name {name : Option String} (h : ∀ t ∈ name, IsName t) :
    (need name : Act Binding String).Maintains I IsName :=
  maintains_need.mono h

end Binding

namespace Method

lemma maintains_head {m : Method} (hm : m.Tidy) : m.head.Maintains I Calm := by
  refine .bind (maintains_need_name hm.className) fun cls hcls => ?_
  replace hcls := hcls.calm
  have hname := hm.name.calm
  split
  · refine .pure (Pieced.holds joins_calm ?_)
    with_reducible repeat' first | assumption | constructor
    all_goals decide
  · split
    all_goals
      refine .pure (Pieced.holds joins_calm ?_)
      with_reducible repeat' first | assumption | constructor
      all_goals decide

lemma maintains_writeDestructor (hs : s.Named) {m : Method} (hm : m.Tidy) :
    m.writeDestructor.Maintains (Wrote s o Calm) fun _ => True := by
  refine .bind (maintains_need_name hm.className) fun cls hcls => .bind .state fun b hb => ?_
  replace hcls := hcls.calm
  have hfree : Calm b.settings.free := hb.1.settings ▸ hs.free.calm
  dsimp only
  unfold destructor freeObject dropField
  simp only [branches, branchesFrom]
  split
  all_goals first
    | exact .fail _
    | refine maintains_emitCode_calm ?_
      with_reducible repeat' first | assumption | constructor
      all_goals decide

lemma maintains_writeEmptyConstructor {cls : String} (hcls : IsName cls) :
    (writeEmptyConstructor cls).Maintains (Wrote s o Calm) fun _ => True := by
  replace hcls := hcls.calm
  refine maintains_emitCode_calm ?_
  unfold trackObject
  with_reducible repeat' first | assumption | constructor
  all_goals decide

lemma maintains_writeStructConstructor {cls : String} (hcls : IsName cls) :
    (writeStructConstructor cls).Maintains (Wrote s o Calm) fun _ => True := by
  replace hcls := hcls.calm
  refine maintains_emitCode_calm ?_
  unfold trackObject
  with_reducible repeat' first | assumption | constructor
  all_goals decide

lemma maintains_writeIterFunction {m : Method} (hm : m.Tidy) :
    m.writeIterFunction.Maintains (Wrote s o Calm) fun _ => True := by
  refine .bind (maintains_head hm) fun head hhead => ?_
  refine .andThen (maintains_emit_calm hhead) fun _ => ?_
  refine .bind (maintains_need_name hm.className) fun cls hcls => maintains_emitCode_calm ?_
  replace hcls := hcls.calm
  have hname := hm.name.calm
  with_reducible repeat' first | assumption | constructor
  all_goals decide

/-! ### Installing proxies -/

lemma maintains_proxyName (hI : ∀ b, I b → b.Tidy s) {m : Method} (hm : m.Tidy) :
    m.proxyName.Maintains I IsName := by
  unfold proxyName
  split
  next p hp =>
    refine .bind .state fun b hb => .bind (maintains_need_name ((hI b hb).classes _).name) fun cls hcls => ?_
    exact .pure (.append (.append (.append (.ofList (by decide)) hcls) (.ofList (by decide))) (hm.proxy p hp))
  next => exact .fail _

lemma maintains_writeInitializeProxies {m : Method} (hm : m.Tidy) :
    m.writeInitializeProxies.Maintains (Wrote s o Calm) fun _ => True := by
  refine .bind (maintains_need_name hm.className) fun cls hcls => ?_
  replace hcls := hcls.calm
  refine .andThen (maintains_update (lasting_wrote s o Calm) (fun _ hb => hb.congr rfl rfl rfl)
    fun _ => rfl) fun _ => .andThen (maintains_emit_calm ?_) fun _ => .andThen (maintains_emitCode_calm ?_)
      fun _ => .andThen (.bind .state fun b _ => ?_) fun id => .bind .state fun b hb => ?_
  · refine Pieced.holds joins_calm ?_
    with_reducible repeat' first | assumption | constructor
    all_goals decide
  · unfold keepObject
    with_reducible repeat' first | assumption | constructor
    all_goals decide
  · split
    · exact .pure trivial
    · exact .fail _
  · refine .andThen (.forIn fun x hx => ?_) fun _ => maintains_emit_calm ?_
    · have htidy := ((hb.1.classes id).entries x (List.mem_append_right _ hx)).1
      have hname := htidy.name.calm
      refine .ite (fun _ => .fail_bind _ _) fun _ => .ite (fun _ => ?_) fun _ => .pure trivial
      refine .bind (maintains_proxyName (fun _ hb => hb.1) htidy) fun proxy hproxy => ?_
      refine .bind (maintains_need_name htidy.className) fun c hc => ?_
      refine .bind (maintains_need_name htidy.definitionClass) fun d hd => ?_
      refine .andThen (maintains_emitCode_calm ?_) fun _ => .pure trivial
      replace hproxy := hproxy.calm
      replace hc := hc.calm
      replace hd := hd.calm
      unfold installProxy
      with_reducible repeat' first | assumption | constructor
      all_goals decide
    · exact joins_calm.spelled _ (by decide)

end Method

end HeaderBind
