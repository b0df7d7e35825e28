import HeaderBind.Proofs.Binding.Order
import HeaderBind.Proofs.Binding.Slashless
import HeaderBind.Proofs.Class.Trace
import HeaderBind.Proofs.Code.Labels

/-!
# The comment at the top of a module

The code of a module begins with a comment that names the module and its headers and gives an overview of its
classes, with their comments. A binding that is slashless adds no slash to it, so the comment is closed early
just if the name of the module, the name of a header or the comment of a class closes it
(`isOneComment_moduleBanner`, `Class.shows_overview`). What is written first is that comment (`ends_write`).
-/

namespace HeaderBind

/-! ### Closing comments -/

/-- The text has the end of a comment in it. -/
def ClosesComment (t : String) : Prop :=
  ['*', '/'] <:+: t.toList

instance (t : String) : Decidable (ClosesComment t) :=
  inferInstanceAs (Decidable (['*', '/'] <:+: t.toList))

lemma NoSlash.not_closesComment {t : String} (h : NoSlash t) : ¬ ClosesComment t :=
  fun hc => h (hc.subset (by decide))

/-- Between two texts no comment is closed if the first does not end with a star or the second does not begin
with a slash. -/
lemma closesComment_append {t u : String} (h : t.toList.getLast? ≠ some '*' ∨ u.toList.head? ≠ some '/') :
    ClosesComment (t ++ u) ↔ ClosesComment t ∨ ClosesComment u := by
  rw [ClosesComment, ClosesComment, ClosesComment, String.toList_append]
  constructor
  · rintro ⟨front, back, heq⟩
    rcases List.append_eq_append_iff.mp heq with ⟨rest, ht, -⟩ | ⟨rest, hsplit, hu⟩
    · exact .inl ⟨front, rest, ht.symm⟩
    -- The end of the comment reaches into the second text, wholly or in part.
    · rcases List.append_eq_append_iff.mp hsplit with ⟨first, ht, hmarks⟩ | ⟨first, -, hrest⟩
      · rcases first with _ | ⟨c, _ | ⟨d, _ | ⟨e, first⟩⟩⟩ <;>
          simp only [List.nil_append, List.cons_append, List.cons.injEq, List.nil_eq, reduceCtorEq,
            and_false] at hmarks
        · exact .inr ⟨[], back, by rw [hu, ← hmarks]; rfl⟩
        · obtain ⟨rfl, hrest⟩ := hmarks
          rw [ht, hu, ← hrest] at h
          simp at h
        · obtain ⟨rfl, rfl, -⟩ := hmarks
          exact .inl ⟨front, [], by rw [ht, List.append_nil]⟩
      · exact .inr ⟨first, back, by rw [hu, hrest]⟩
  · rintro (ht | hu)
    · exact ht.trans (List.prefix_append _ _).isInfix
    · exact hu.trans (List.suffix_append _ _).isInfix

/-- The text does not begin with a slash, and it closes a comment just if something holds. -/
structure Shows (P : Prop) (t : String) : Prop where
  start : t.toList.head? ≠ some '/'
  closes : ClosesComment t ↔ P

namespace Shows

variable {P Q : Prop} {t u : String}

lemma congr (h : Shows P t) (hpq : P ↔ Q) : Shows Q t :=
  ⟨h.start, h.closes.trans hpq⟩

lemma of_noSlash (h : NoSlash t) : Shows False t :=
  ⟨fun hs => h (List.mem_of_head? hs), iff_false_intro h.not_closesComment⟩

lemma append (ht : Shows P t) (hu : Shows Q u) : Shows (P ∨ Q) (t ++ u) := by
  refine ⟨?_, ?_⟩
  · rw [String.toList_append, List.head?_append, ne_eq, Option.or_eq_some_iff, not_or]
    exact ⟨ht.start, fun h => hu.start h.2⟩
  · rw [closesComment_append (.inr hu.start), ht.closes, hu.closes]

lemma append_noSlash (ht : Shows P t) (hu : NoSlash u) : Shows P (t ++ u) :=
  (ht.append (of_noSlash hu)).congr (by rw [or_false])

/-- A text between others that have no slash and do not lead up to one. -/
lemma framed {front back : String} (hf : NoSlash front) (hl : front.toList.getLast?.any (· ≠ '*'))
    (hb : NoSlash back) (t : String) : Shows (ClosesComment t) (front ++ t ++ back) := by
  obtain ⟨c, hc, hne⟩ := (Option.any_eq_true _ _).mp hl
  have hlast : front.toList.getLast? ≠ some '*' := by
    rw [hc]
    simpa using hne
  have hfront : front.toList ≠ [] := by
    intro h
    rw [h] at hc
    cases hc
  refine ⟨?_, ?_⟩
  · intro hs
    rw [String.append_assoc, String.toList_append, List.head?_append_of_ne_nil _ hfront] at hs
    exact hf (List.mem_of_head? hs)
  · rw [closesComment_append (.inr (of_noSlash hb).start), closesComment_append (.inl hlast)]
    simp [hf.not_closesComment, hb.not_closesComment]

lemma join {α : Type} {P : α → Prop} {xs : List α} {ts : List String}
    (h : List.Forall₂ (fun x t => Shows (P x) t) xs ts) : Shows (∃ x ∈ xs, P x) (String.join ts) := by
  induction h with
  | nil => exact (of_noSlash (by decide)).congr (by simp)
  | @cons x t xs ts ht _ ih =>
    rw [String.join_cons]
    exact (ht.append ih).congr (by simp)

end Shows

lemma NoSlash.render {code : Code} (h : ∀ line ∈ code, NoSlash line) : NoSlash code.render := by
  refine .join fun t ht => ?_
  obtain ⟨line, hline, rfl⟩ := List.mem_map.mp ht
  exact (h line hline).append (by decide)

lemma Shows.render_cons {P Q : Prop} {line : String} {code : Code} (h : Shows P (line ++ "\n"))
    (hc : Shows Q code.render) : Shows (P ∨ Q) (Code.render (line :: code)) := by
  rw [Code.render_cons]
  exact h.append hc

/-! ### Overviews -/

/-- The overview of a module closes a comment: its name does, or the comment of a class that it shows. The comment
of an enum is not shown. -/
def Binding.OverviewCloses (b : Binding) : Prop :=
  ClosesComment b.name ∨
    ∃ id ∈ b.index.values, b.active id ∧ (b.classAt id).kind ≠ .enum ∧ ClosesComment (b.classAt id).doc

section Overview

variable {b : Binding} (hb : b.Slashless)

lemma CType.Slashless.overview {t : CType} (h : t.Slashless) : NoSlash t.overview := by
  unfold CType.overview
  split
  · exact h.type
  · split
    · decide
    · exact (h.type.append (by decide)).append h.name

include hb

namespace Method

lemma noSlash_attributeOverview (m : Method) : m.attributeOverview.Maintains (· = b) NoSlash := by
  have hexposed : m.exposedMembers.Maintains (· = b) fun exposed => ∀ e ∈ exposed, e.2.ctype.Slashless := by
    refine .bind .state ?_
    rintro _ rfl
    refine .pure fun e he => ?_
    obtain ⟨id, -, rfl⟩ := List.mem_map.mp (List.mem_of_mem_filter he)
    exact hb.members id
  refine hexposed.bind fun exposed he => .pure (.join fun t ht => ?_)
  obtain ⟨e, hmem, rfl⟩ := List.mem_map.mp ht
  exact .append (.append (by decide) (he e hmem).overview) (by decide)

lemma noSlash_overview {m : Method} (hn : NoSlash m.name) : m.overview.Maintains (· = b) NoSlash := by
  refine .bind (.bind .state fun b' hb' => .pure (hb' ▸ hb.signatures m.signature)) fun s hs => ?_
  refine .ite (fun _ => .pure ?_) fun _ => .pure ?_
  · exact .append (.append (by decide) hs.returns.overview) (by decide)
  · have hargs : NoSlash (" , ".intercalate (s.args.map CType.overview)) := by
      refine .intercalate (by decide) fun t ht => ?_
      obtain ⟨a, ha, rfl⟩ := List.mem_map.mp ht
      exact (hs.args a ha).overview
    have hhead : NoSlash s!"def {s.returns.overview} {m.name}" :=
      .append (.append (.append (by decide) hs.returns.overview) (by decide)) hn
    exact .append (.append (.append hhead (by decide)) hargs) (by decide)

lemma noSlash_describe {m : Method} (hn : NoSlash m.name) : m.describe.Maintains (· = b) NoSlash :=
  .ite (fun _ => .fail _) fun _ => .ite (fun _ => noSlash_attributeOverview hb m) fun _ => noSlash_overview hb hn

end Method

namespace Class

lemma noSlash_attributesOverview (id : ClassId) : (attributesOverview id).Maintains (· = b) NoSlash := by
  refine .andThen (.bind .state fun _ _ => .pure trivial) fun c => ?_
  split
  next reader _ => exact Method.noSlash_attributeOverview hb reader
  next => exact .fail _

lemma shows_methodsOverview (id : ClassId) : (methodsOverview id).Maintains (· = b) (Shows False) := by
  refine .bind (.bind .state fun b' hb' => .pure (hb' ▸ hb.classes id)) fun c hc => ?_
  refine .bind (.mapM (R := fun _ => Shows False) fun m hm => ?_) fun lines hlines => .pure ?_
  · refine .bind (Method.noSlash_describe hb (hc.entries m (List.mem_append_right _ hm))) fun t ht => .pure ?_
    exact .of_noSlash (.append (.append (by decide) ht) (by decide))
  · exact (Shows.join hlines).congr (by simp)

/-- The overview of a class closes a comment just if it shows a comment of the class that does. -/
lemma shows_overview (id : ClassId) : (overview id).Maintains (· = b)
    (Shows ((b.classAt id).kind ≠ .enum ∧ ClosesComment (b.classAt id).doc)) := by
  have hclass := hb.classes id
  refine .bind (Q := fun c => c = b.classAt id) (.bind .state fun b' hb' => .pure (hb' ▸ rfl)) ?_
  rintro _ rfl
  split
  next hkind =>
    have hconstructor : (Binding.method ⟨id, .constructor⟩).Maintains (· = b) fun m => NoSlash m.name := by
      refine .bind .state ?_
      rintro b rfl
      split
      next m hm => exact .pure (hclass.method (show MethodSlot.constructor ≠ .attributes by decide) hm)
      next => exact .fail _
    refine hconstructor.bind fun m hm => .bind (Method.noSlash_describe hb hm) fun constructor hconstructor => ?_
    refine .bind (noSlash_attributesOverview hb id) fun attributes hattributes => ?_
    refine .bind (shows_methodsOverview hb id) fun methods hmethods => ?_
    refine .bind maintains_need fun name hname => .bind maintains_need fun base hbase => .pure ?_
    have htitle : NoSlash s!"Class {name}({base}):" :=
      .append (.append (.append (.append (by decide) (hclass.name name hname)) (by decide))
        (hclass.baseName base hbase)) (by decide)
    have hlines : NoSlash (Code.render [s!"Class {name}({base}):", s!"    Constructor:{constructor}",
        "    Attributes:", attributes, "    Methods:"]) := by
      refine .render ?_
      simp only [List.forall_mem_cons]
      exact ⟨htitle, .append (by decide) hconstructor, by decide, hattributes, by decide, List.forall_mem_nil _⟩
    have hdoc : Shows (ClosesComment (b.classAt id).doc) (s!"#{(b.classAt id).doc}" ++ "\n") :=
      .framed (by decide) (by decide) (by decide) _
    exact ((Shows.render_cons hdoc (.of_noSlash hlines)).append hmethods).congr (by simp [hkind])
  next hkind =>
    refine .bind (noSlash_attributesOverview hb id) fun attributes hattributes => ?_
    refine .bind maintains_need fun name hname => .pure ?_
    have hlines : NoSlash (Code.render [s!"Struct {name}:", attributes]) := by
      refine .render ?_
      simp only [List.forall_mem_cons]
      exact ⟨.append (.append (by decide) (hclass.name name hname)) (by decide), hattributes, List.forall_mem_nil _⟩
    have hdoc : Shows (ClosesComment (b.classAt id).doc) (s!"# {(b.classAt id).doc}" ++ "\n") :=
      .framed (by decide) (by decide) (by decide) _
    exact (Shows.render_cons hdoc (.of_noSlash hlines)).congr (by simp [hkind])
  next hkind =>
    refine .bind maintains_need fun name hname => .pure ?_
    have hlines : NoSlash (Code.render (s!"Enum {name}:" :: (b.classAt id).values.map fun v => s!"    {v}")) := by
      refine .render (List.forall_mem_cons.mpr ⟨?_, fun line hline => ?_⟩)
      · exact .append (.append (by decide) (hclass.name name hname)) (by decide)
      · obtain ⟨v, hv, rfl⟩ := List.mem_map.mp hline
        exact .append (by decide) (hclass.values v hv)
    exact (Shows.of_noSlash hlines).congr (by simp [hkind])

omit hb in
lemma maintains_isActive_eq (id : ClassId) : (isActive id).Maintains (· = b) fun a => a = b.active id := by
  refine .bind .state ?_
  rintro _ rfl
  dsimp only
  split
  next h => exact .pure (by rw [Binding.active, h, Bool.true_or])
  next h =>
    rw [Bool.not_eq_true] at h
    split
    next hagainst =>
      refine .andThen (.liftAny _) fun _ => .andThen (Consults.maintains (.report _)) fun _ => .pure ?_
      rw [Binding.active, h, hagainst]
      rfl
    next hagainst =>
      rw [Bool.not_eq_true] at hagainst
      exact .pure (by rw [Binding.active, h, hagainst]; rfl)

end Class

namespace Binding

omit hb in
lemma shows_overActive {P : ClassId → Prop} {act : ClassId → Act Binding String} (ids : List ClassId)
    (h : ∀ id, (act id).Maintains (· = b) (Shows (P id))) :
    (overActive ids act).Maintains (· = b) (Shows (∃ id ∈ ids, b.active id ∧ P id)) := by
  refine .bind (.mapM (R := fun id => Shows (b.active id ∧ P id)) fun id _ => ?_) fun texts htexts =>
    .pure (.join htexts)
  refine .bind (Class.maintains_isActive_eq id) ?_
  rintro _ rfl
  split
  next hactive => exact (h id).mono fun t ht => ht.congr (by simp [hactive])
  next hactive => exact .pure ((Shows.of_noSlash (by decide)).congr (by simp [hactive]))

omit hb in
/-- In order of their names come the numbers of all current classes. -/
lemma maintains_sortedClassIds :
    sortedClassIds.Maintains (· = b) fun ids => ∀ id, id ∈ ids ↔ id ∈ b.index.values := by
  refine .bind .state ?_
  rintro b rfl
  dsimp only
  split
  next id hid => exact .pure fun id => by rw [hid]
  next =>
    refine .bind (.mapM (R := fun id p => p.2 = id) fun id _ => ?_) fun named hnamed => .pure fun id => ?_
    · exact .andThen (.liftAny _) fun name => .pure rfl
    · have hsnd : named.map Prod.snd = b.index.values := by
        generalize b.index.values = ids at hnamed
        induction hnamed with
        | nil => rfl
        | cons h _ ih => rw [List.map_cons, h, ih]
      rw [sortedByName, ((List.mergeSort_perm named _).map Prod.snd).mem_iff, hsnd]

lemma shows_moduleOverview : overview.Maintains (· = b) (Shows b.OverviewCloses) := by
  have hclass (id : ClassId) : (do return s!"    {← Class.overview id}\n" : Act Binding String).Maintains (· = b)
      (Shows ((b.classAt id).kind ≠ .enum ∧ ClosesComment (b.classAt id).doc)) := by
    refine .bind (Class.shows_overview hb id) fun t ht => .pure ?_
    exact (((Shows.of_noSlash (by decide)).append ht).append_noSlash (by decide)).congr (by rw [false_or])
  refine .bind maintains_sortedClassIds fun ids hids => .bind (shows_overActive ids hclass) fun classes hclasses => ?_
  refine .bind .state ?_
  rintro b rfl
  have hconstants : NoSlash (String.join ((sortedConstants b.constants).map fun c => s!" {c.1}\n")) := by
    refine .join fun t ht => ?_
    obtain ⟨c, hc, rfl⟩ := List.mem_map.mp ht
    exact .append (.append (by decide) (hb.constants c (List.mem_mergeSort.mp hc))) (by decide)
  have hname : Shows (ClosesComment b.name) s!"Module {b.name}\n" := .framed (by decide) (by decide) (by decide) _
  refine .pure ((((hname.append hclasses).append_noSlash (by decide)).append_noSlash hconstants).congr ?_)
  simp only [hids, OverviewCloses]

end Binding

end Overview

/-! ### The banner -/

/-- The text is a comment with an empty line after it, and the comment is closed at its end only. -/
structure IsOneComment (t : String) : Prop where
  opens : ['/', '*'] <+: t.toList
  closes : ['*', '/', '\n', '\n'] <:+ t.toList
  once : ∀ front back, t.toList = front ++ '*' :: '/' :: back → back = ['\n', '\n']

lemma isOneComment_append {body fill : String} (ho : ['/', '*'] <+: body.toList) (hf : NoSlash fill)
    (hs : fill.toList.head?.any (· ≠ '*')) :
    IsOneComment (body ++ (fill ++ "*/\n\n")) ↔ ¬ ClosesComment body := by
  constructor
  · rintro h ⟨front, back, hbody⟩
    have hback := h.once front (back ++ (fill ++ "*/\n\n").toList) (by
      rw [String.toList_append, ← hbody]
      simp)
    have hlength := congrArg List.length hback
    simp at hlength
    omega
  · intro hnot
    refine ⟨?_, ?_, fun front back heq => ?_⟩
    · rw [String.toList_append]
      exact ho.trans (List.prefix_append _ _)
    · rw [String.toList_append, String.toList_append]
      exact (List.suffix_append _ _).trans (List.suffix_append _ _)
    · rw [String.toList_append] at heq
      rcases List.append_eq_append_iff.mp heq with ⟨rest, hfront, hrest⟩ | ⟨rest, hbody, hrest⟩
      -- Behind the body there is one slash, at the end.
      · have hlast : (fill.toList ++ ['*']) ++ '/' :: ['\n', '\n'] = (rest ++ ['*']) ++ '/' :: back := by
          rw [String.toList_append] at hrest
          simpa using hrest
        have hfill : '/' ∉ fill.toList ++ ['*'] := by
          simpa using show '/' ∉ fill.toList from hf
        exact ((List.append_cons_inj_of_notMem hfill (by decide)).mp hlast).2.2.symm
      · obtain ⟨c, hc, hne⟩ := (Option.any_eq_true _ _).mp hs
        obtain ⟨cs, hcs⟩ := List.head?_eq_some_iff.mp hc
        rw [String.toList_append, hcs] at hrest
        rcases rest with _ | ⟨d, _ | ⟨e, rest⟩⟩ <;>
          simp only [List.nil_append, List.cons_append, List.cons.injEq] at hrest
        · simp [← hrest.1] at hne
        · exact absurd (by rw [hcs, ← hrest.2.1]; exact List.mem_cons_self) hf
        · exact absurd ⟨front, rest, by rw [hbody, ← hrest.1, ← hrest.2.1]; simp⟩ hnot

lemma Shows.render_map {α : Type} {P : α → Prop} {f : α → String} (h : ∀ x, Shows (P x) (f x ++ "\n")) (xs : List α) :
    Shows (∃ x ∈ xs, P x) (Code.render (xs.map f)) := by
  refine .join ?_
  rw [List.map_map, List.forall₂_map_right_iff]
  exact List.forall₂_same.mpr fun x _ => h x

/-- Lines in the frame of a comment. -/
lemma isOneComment_frame {P Q : Prop} {code : Code} {text : String} (hc : Shows P code.render) (ht : Shows Q text) :
    IsOneComment (Code.render ("/*************************************************************" :: code) ++ text
      ++ " ************************************************************/\n\n") ↔ ¬ P ∧ ¬ Q := by
  have hfirst : ¬ ClosesComment ("/*************************************************************" ++ "\n") := by
    decide +kernel
  have hend : " ************************************************************/\n\n" =
      " ***********************************************************" ++ "*/\n\n" := by
    decide +kernel
  rw [Code.render_cons, hend, isOneComment_append ?_ (by decide) (by decide),
    String.append_assoc, closesComment_append (.inr (hc.append ht).start), (hc.append ht).closes, or_iff_right hfirst,
    not_or]
  rw [String.append_assoc, String.toList_append]
  exact List.IsPrefix.trans (by decide) (List.prefix_append _ _)

/-- The comment at the top is one comment unless something that it shows closes it. -/
lemma isOneComment_moduleBanner {P : Prop} {overview : String} (name : String) (files : List String)
    (ho : Shows P overview) : IsOneComment (Binding.moduleBanner name files overview) ↔
      ¬ ClosesComment name ∧ (∀ file ∈ files, ¬ ClosesComment file) ∧ ¬ P := by
  have hname : Shows (ClosesComment name) (s!" * Autogenerated module {name}" ++ "\n") :=
    .framed (by decide) (by decide) (by decide) _
  have hfiles := Shows.render_map (f := fun file => s!" * {file}") (P := ClosesComment)
    (fun file => .framed (by decide) (by decide) (by decide) file) files
  have hlines : Shows (ClosesComment name ∨ ∃ file ∈ files, ClosesComment file)
      (Code.render (s!" * Autogenerated module {name}" :: " *" ::
        " * This module was autogenerated from the following files:" ::
        (files.map (fun file => s!" * {file}") ++ [" *", " * This module implements the following classes:"]))) := by
    refine (Shows.render_cons hname (.render_cons (.of_noSlash (by decide)) (.render_cons (.of_noSlash (by decide))
      (Q := ∃ file ∈ files, ClosesComment file) ?_))).congr (by simp only [false_or])
    rw [Code.render_append]
    exact hfiles.append_noSlash (by decide)
  refine (isOneComment_frame hlines ho).trans ?_
  rw [not_or, and_assoc]
  simp only [not_exists, not_and]

/-! ### Preparing classes -/

/-- What the overview of a module depends on and preparing the class leaves alone. -/
def ClassDef.standing (c : ClassDef) : ClassKind × Option String × Bool × List (Option String) × String :=
  (c.kind, c.name, c.active, c.modifiers, c.doc)

/-- What the first code of a module depends on and preparing its classes leaves alone. -/
def Binding.standing (b : Binding) :=
  (b.name, b.files, b.includes, b.out, b.index, b.activeStructs, b.classes.map ClassDef.standing)

lemma Binding.keeps_standing_modifyClass (id : ClassId) {f : ClassDef → ClassDef}
    (h : ∀ c, (f c).standing = c.standing) : (modifyClass id f).Keeps standing := by
  refine .update fun b => ?_
  have hclasses := map_withClass h b id
  rw [standing, standing]
  exact congrArg (fun cs => (b.name, b.files, b.includes, b.out, b.index, b.activeStructs, cs)) hclasses

lemma Method.keeps_standing_make (kind : MethodKind) (className baseName : Option String) (name : String)
    (args : List (String × String)) (returns : String) (owner : Option ClassId) :
    (make kind className baseName name args returns owner).Keeps Binding.standing := by
  have hconsults {α : Type} {act : Act Binding α} (h : Consults act) : act.Keeps Binding.standing :=
    .of_id fun b => h.1 b
  cases owner with
  | none => exact .fail _
  | some owner =>
    refine .bind (hconsults (consults_addAllTo _ _ _ _)) fun args => ?_
    refine .bind (hconsults (consults_resultType _ _ _)) fun result => .bind ?_ fun _ => .pure _
    exact .bind .state fun _ => .bind (.update fun _ => rfl) fun _ => .pure _

namespace Class

lemma keeps_standing_prepareStruct (id : ClassId) : (prepareStruct id).Keeps Binding.standing := by
  refine .bind .state fun b => .ite (fun _ => ?_) fun _ => .pure _
  refine .bind (Method.keeps_standing_make _ _ _ _ _ _ _) fun m => ?_
  refine .bind (Binding.keeps_standing_modifyClass id fun _ => rfl) fun _ => ?_
  split
  next reader _ =>
    refine .bind (.bind (.forIn fun _ _ => .bind (.update fun _ => rfl) fun _ => .pure _) fun _ => .pure _) fun _ => ?_
    refine .bind (Binding.keeps_standing_modifyClass id fun _ => rfl) fun _ => ?_
    exact .bind (.forIn fun _ _ => .bind (.update fun _ => rfl) fun _ => .pure _) fun _ => .pure _
  next => exact .fail _

lemma keeps_standing_prepare (id : ClassId) : (prepare id).Keeps Binding.standing := by
  refine .bind .state fun b => ?_
  dsimp only
  split
  · exact .pure _
  · exact keeps_standing_prepareStruct id
  · refine .bind (Method.keeps_standing_make _ _ _ _ _ _ _) fun m => ?_
    exact .bind (Binding.keeps_standing_modifyClass id fun _ => rfl) fun _ => keeps_standing_prepareStruct id

end Class

/-! ### What is written first -/

namespace Binding

/-- Prepare the classes and look them over. -/
def preparedOverview : Act Binding String := do
  writePublic
  for id in ← classIds do
    Class.prepare id
  overview

/-- The comment at the top of a module. -/
def banner : Act Binding String := do
  let text ← preparedOverview
  let b ← Act.state
  return moduleBanner b.name b.files text

variable {b b' : Binding}

lemma overviewCloses_congr (h : b'.standing = b.standing) : b'.OverviewCloses ↔ b.OverviewCloses := by
  have hname : b'.name = b.name := congrArg (fun s => s.1) h
  have hindex : b'.index = b.index := congrArg (fun s => s.2.2.2.2.1) h
  have hstructs : b'.activeStructs = b.activeStructs := congrArg (fun s => s.2.2.2.2.2.1) h
  have hclass := classAt_of_map (congrArg (fun s => s.2.2.2.2.2.2) h)
  have hshown (id : ClassId) : (b'.active id ∧ (b'.classAt id).kind ≠ .enum ∧ ClosesComment (b'.classAt id).doc) ↔
      b.active id ∧ (b.classAt id).kind ≠ .enum ∧ ClosesComment (b.classAt id).doc := by
    obtain ⟨hkind, hcname, hactive, hmodifiers, hdoc⟩ : _ ∧ _ ∧ _ ∧ _ ∧ _ := by
      simpa only [ClassDef.standing, Prod.mk.injEq] using hclass id
    simp only [active, ClassDef.hasModifier, hstructs, hkind, hcname, hactive, hmodifiers, hdoc]
  rw [OverviewCloses, OverviewCloses, hname, hindex]
  simp only [hshown]

/-- The banner is one comment just if nothing that it shows closes it. -/
lemma maintains_banner (b : Binding) : banner.Maintains (fun b' => b'.Slashless ∧ b'.standing = b.standing)
    fun text => IsOneComment text ↔
      ¬ ClosesComment b.name ∧ (∀ file ∈ b.files, ¬ ClosesComment file) ∧ ¬ b.OverviewCloses := by
  have hoverview : preparedOverview.Maintains (fun b' => b'.Slashless ∧ b'.standing = b.standing)
      (Shows b.OverviewCloses) := by
    refine .andThen (.update fun b' hb' => ⟨hb'.1.congr rfl rfl rfl rfl, hb'.2⟩) fun _ => ?_
    refine .andThen (.bind .state fun _ _ => .pure trivial) fun ids => ?_
    refine .andThen (.forIn fun id _ => .andThen ?_ fun _ => .pure trivial) fun _ b' hb' => ?_
    · exact (Class.slashless_prepare id).and_keeps (Class.keeps_standing_prepare id)
    · refine (shows_moduleOverview hb'.1 b' rfl).mono ?_ fun _ b'' h => (show b'' = b' from h) ▸ hb'
      rintro text b'' ⟨rfl, hshows⟩
      exact ⟨hb', hshows.congr (overviewCloses_congr hb'.2)⟩
  refine hoverview.bind fun text htext => .bind .state fun b' hb' => .pure ?_
  have hname : b'.name = b.name := congrArg (fun s => s.1) hb'.2
  have hfiles : b'.files = b.files := congrArg (fun s => s.2.1) hb'.2
  rw [hname, hfiles]
  exact isOneComment_moduleBanner b.name b.files htext

lemma effect_preparedOverview_bind {α : Type} (next : String → Act Binding α) (b : Binding) :
    (do
      writePublic
      for id in ← classIds do
        Class.prepare id
      let text ← overview
      next text : Act Binding α).effect b = (preparedOverview >>= next).effect b := by
  have hpublic : writePublic.effect b = (.ok (), { b with publicText := b.publicText.map (· ++ publicStart.render) }) :=
    rfl
  have hids (b : Binding) : classIds.effect b = (.ok b.index.values, b) := rfl
  rw [preparedOverview, Act.effect_bind_assoc, Act.effect_bind_of_ok hpublic, Act.effect_bind_of_ok hpublic,
    Act.effect_bind_assoc, Act.effect_bind_of_ok (hids _), Act.effect_bind_of_ok (hids _), Act.effect_bind_assoc]

/-- The change only adds code. -/
def Appends (g : Binding → Binding) : Prop :=
  ∀ b, ∃ text, (g b).out = b.out ++ text

/-- What comes after the start of the code. -/
lemma composed_afterStart : Composed Appends (do
    forActive Class.writeFunctions
    writeLoading) := by
  refine .bind (composed_forActive fun id => ?_) fun _ => ?_
  · exact (Class.composed_writeFunctions id).mono fun _ => Define.grows
  · exact composed_writeLoading.mono fun _ => Touch.grows

/-- What is written first is the banner, and the lines that include the headers come right after it. Where there is
no banner nothing is written. -/
lemma ends_write (b : Binding) : banner.Ends b
    (fun text b' => ∃ rest, (write.effect b).2.out = b'.out ++ text ++ b'.includes ++ rest)
    fun f b' => write.effect b = (.error f, b') := by
  have hstart : writeStart.effect b = _ := effect_preparedOverview_bind _ b
  rcases he : preparedOverview.effect b with ⟨f | text, b₁⟩
  · refine .of_error (Act.effect_bind_of_error he) (Act.effect_bind_of_error ?_)
    exact hstart.trans (Act.effect_bind_of_error he)
  · have hbanner : banner.effect b = (.ok (moduleBanner b₁.name b₁.files text), b₁) := Act.effect_bind_of_ok he
    refine .of_ok hbanner ?_
    rw [Act.effect_bind_of_ok he, Act.effect_bind_of_ok (Act.effect_state b₁),
      Act.effect_bind_of_ok (effect_emit _ _), Act.effect_bind_of_ok (effect_emit _ _)] at hstart
    have hemit (text : String) : Composed Appends (emit text) := (composed_emit text).mono fun _ => Touch.grows
    obtain ⟨rest, hrest⟩ : ∃ rest, (writeStart.effect b).2.out =
        b₁.out ++ moduleBanner b₁.name b₁.files text ++ b₁.includes ++ rest := by
      rw [hstart]
      refine Composed.grows (U := Appends) ?_ (fun _ hg => hg) _
      refine .bind (hemit _) fun _ => .bind (hemit _) fun _ => ?_
      refine .bind (composed_forActive fun id => ?_) fun _ => .bind (hemit _) fun _ => composed_forActive fun id => ?_
      · exact (composed_announceClass id).mono fun _ => Announce.grows
      · exact (composed_writeTables id).mono fun _ => Touch.grows
    obtain ⟨rest', hrest'⟩ : ∃ rest', (write.effect b).2.out = (writeStart.effect b).2.out ++ rest' := by
      rw [write, Act.effect_bind]
      rcases writeStart.effect b with ⟨f | _, b₂⟩
      · exact ⟨"", String.append_empty.symm⟩
      · exact composed_afterStart.grows (fun _ hg => hg) b₂
    exact ⟨rest ++ rest', by rw [hrest', hrest, String.append_assoc]⟩

end Binding

end HeaderBind
