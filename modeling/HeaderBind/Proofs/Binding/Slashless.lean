import HeaderBind.Proofs.Binding.Tidy
import HeaderBind.Proofs.Pattern.Matching
import HeaderBind.Proofs.Text.Blank

/-!
# Bindings without slashes

No name and no type in a slashless binding has a slash: neither the names of classes and methods, of what they
take, return and read, of the values of enums and of constants, nor the types that go with them. Declaring more
keeps a binding slashless as long as what is declared has no slash. Comments may have any.
-/

namespace HeaderBind

/-- The text has no slash. -/
def NoSlash (t : String) : Prop :=
  '/' ∉ t.toList

instance (t : String) : Decidable (NoSlash t) :=
  inferInstanceAs (Decidable ('/' ∉ t.toList))

namespace NoSlash

variable {t u : String}

lemma of_subset (h : NoSlash t) (hu : u.toList ⊆ t.toList) : NoSlash u :=
  fun hc => h (hu hc)

lemma append (ht : NoSlash t) (hu : NoSlash u) : NoSlash (t ++ u) := by
  rw [NoSlash, String.toList_append, List.mem_append]
  exact not_or.mpr ⟨ht, hu⟩

lemma join {ts : List String} (h : ∀ t ∈ ts, NoSlash t) : NoSlash (String.join ts) := by
  rw [NoSlash, String.toList_join, List.mem_flatMap]
  rintro ⟨t, ht, hc⟩
  exact h t ht hc

lemma intercalate {ts : List String} (hu : NoSlash u) (h : ∀ t ∈ ts, NoSlash t) :
    NoSlash (u.intercalate ts) := by
  induction ts with
  | nil =>
    rw [String.intercalate_nil]
    decide
  | cons t ts ih =>
    rw [List.forall_mem_cons] at h
    cases ts with
    | nil =>
      rw [String.intercalate_singleton]
      exact h.1
    | cons t' ts =>
      rw [String.intercalate_cons_cons]
      exact (h.1.append hu).append (ih h.2)

lemma strip (h : NoSlash t) : NoSlash (Text.strip t) := by
  refine h.of_subset fun c hc => ?_
  rw [Text.strip, String.toList_ofList, Text.trimRight, List.mem_reverse] at hc
  have hdrop := (List.dropWhile_suffix _).subset hc
  exact (List.dropWhile_suffix _).subset (List.mem_reverse.mp hdrop)

lemma words (h : NoSlash t) : ∀ w ∈ Text.words t, NoSlash w :=
  fun _ hw => h.of_subset fun _ hc => (Text.mem_of_mem_words hw hc).1

end NoSlash

/-! ### What is slashless -/

/-- The name and the type have no slash. -/
structure CType.Slashless (t : CType) : Prop where
  name : NoSlash t.name
  type : NoSlash t.type

/-- What is taken and what is returned has no slash. -/
structure Signature.Slashless (s : Signature) : Prop where
  args : ∀ t ∈ s.args, t.Slashless
  returns : s.returns.Slashless

/-- The class, its base, its methods and its values have names without slashes. -/
structure ClassDef.Slashless (c : ClassDef) : Prop where
  name : ∀ t ∈ c.name, NoSlash t
  baseName : ∀ t ∈ c.baseName, NoSlash t
  entries : ∀ m ∈ c.entries, NoSlash m.name
  values : ∀ v ∈ c.values, NoSlash v

/-- Classes, signatures, members and constants have no slash. -/
structure Binding.Slashless (b : Binding) : Prop where
  classes : ∀ i, (b.classAt i).Slashless
  signatures : ∀ i, (b.signatureAt i).Slashless
  members : ∀ i, (b.memberAt i).ctype.Slashless
  constants : ∀ c ∈ b.constants, NoSlash c.1

/-! ### Types -/

lemma CType.slashless_default : (default : CType).Slashless :=
  ⟨by decide, by decide⟩

lemma CType.gives_slashless_make {name type : String} (kind : Kind) (hn : NoSlash name)
    (ht : NoSlash type) (args : List Datum) (named : List (String × Datum)) :
    Gives Slashless (make kind name type args named) := by
  have hbare : Gives NoSlash (bareType type) := by
    unfold bareType
    split
    · exact .error _
    next word rest hwords => exact .ok (ht.words word (hwords ▸ List.mem_cons_self))
  have hstorage : Gives NoSlash (storageType kind type) := by
    unfold storageType
    split
    next i => exact .ok (by cases i <;> decide)
    next i => exact .ok (by cases i <;> decide)
    · exact .ok (by decide)
    · exact hbare
    · exact .ok ht
  have hdone (length lengthType : Option Datum) (extra : List (String × Datum)) : Gives Slashless (do
      return {
        kind, name, length, lengthType, extra
        type := ← storageType kind type
        declared := ← declaredOf kind type
        sense := senseOf kind
        interface := interfaceOf kind
        errorValue := errorValueOf kind }) :=
    hstorage.bind fun _ hstored => .bind (P := fun _ => True) (fun _ _ => trivial) fun _ _ => .ok ⟨hn, hstored⟩
  unfold make
  dsimp only
  split
  · exact .error _
  · split
    · refine .bind (P := fun _ => True) (fun _ _ => trivial) fun l _ => ?_
      exact .bind (P := fun _ => True) (fun _ _ => trivial) fun lt _ => hdone _ _ _
    · exact hdone _ _ _

lemma CType.Slashless.mark {t : CType} (h : t.Slashless) (mark : String) : (t.mark mark).Slashless :=
  ⟨h.name, h.type⟩

lemma Registry.gives_slashless_select {type : String} (r : Registry) (ht : NoSlash type) :
    Gives (fun s => NoSlash s.type) (r.select type) := by
  have htag : NoSlash ((structTag? type).getD type) := by
    unfold structTag?
    split
    · exact ht
    · dsimp only
      split
      · rw [Option.getD_some]
        refine ht.of_subset fun c hc => ?_
        rw [String.toList_ofList] at hc
        exact List.mem_of_mem_drop ((List.takeWhile_prefix _).subset hc)
      · exact ht
  unfold select
  split
  · exact .error _
  next word rest hwords =>
    have hall : ∀ w ∈ word :: rest, NoSlash w := hwords ▸ htag.words
    have hwords : ∀ w ∈ (if marks.contains word then ([word], rest) else ([], word :: rest)).2,
        NoSlash w := by
      split
      · exact fun w hw => hall w (List.mem_cons_of_mem _ hw)
      · exact hall
    refine .bind (P := fun _ => True) (fun _ _ => trivial) fun kind _ => .ok ?_
    exact .intercalate (by decide) hwords

lemma Registry.gives_slashless_resolve {name type : String} (r : Registry) (hn : NoSlash name)
    (ht : NoSlash type) (args : List Datum) (named : List (String × Datum)) :
    Gives CType.Slashless (r.resolve name type args named) := by
  unfold resolve
  dsimp only
  split
  · exact .error _
  · split
    · exact CType.gives_slashless_make _ hn (by decide) _ _
    · refine (r.gives_slashless_select ht).bind fun s hs => ?_
      exact (CType.gives_slashless_make _ hn hs _ _).bind fun t ht => .ok ⟨ht.name, ht.type⟩

/-! ### Bindings -/

section Lookup

variable {α : Type} [Inhabited α] {P : α → Prop} {a : Array α}

lemma forall_getD_push (h : ∀ i : Nat, P (a[i]?.getD default)) {x : α} (hx : P x) (i : Nat) :
    P ((a.push x)[i]?.getD default) := by
  rw [Array.getElem?_push]
  split
  · exact hx
  · exact h i

lemma forall_getD_modify (h : ∀ i : Nat, P (a[i]?.getD default)) {f : α → α} (hf : ∀ x, P x → P (f x)) (j i : Nat) :
    P ((a.modify j f)[i]?.getD default) := by
  have hi := h i
  rw [Array.getElem?_modify]
  cases hx : a[i]? with
  | none =>
    rw [hx] at hi
    split
    · exact hi
    · exact hi
  | some x =>
    rw [hx] at hi
    split
    · exact hf x hi
    · exact hi

end Lookup

namespace ClassDef.Slashless

variable {c : ClassDef} {m : Method}

/-- A class without methods and values only needs names. -/
lemma of_bare (hn : ∀ t ∈ c.name, NoSlash t) (hb : ∀ t ∈ c.baseName, NoSlash t) (he : c.entries = [])
    (hv : c.values = []) : c.Slashless := by
  refine ⟨hn, hb, fun m hm => ?_, fun v hv' => ?_⟩
  · rw [he] at hm
    cases hm
  · rw [hv] at hv'
    cases hv'

lemma of_entries {c' : ClassDef} (h : c.Slashless) (hn : c'.name = c.name) (hb : c'.baseName = c.baseName)
    (hv : c'.values = c.values) (he : ∀ m ∈ c'.entries, NoSlash m.name) : c'.Slashless :=
  ⟨hn ▸ h.name, hb ▸ h.baseName, he, hv ▸ h.values⟩

lemma withConstructor (h : c.Slashless) (hm : NoSlash m.name) :
    ({ c with constructor := some m } : ClassDef).Slashless := by
  refine h.of_entries rfl rfl rfl fun m' hm' => ?_
  rcases List.mem_append.mp hm' with hm' | hm'
  · cases Option.mem_toList.mp hm'
    exact hm
  · exact h.entries m' (List.mem_append_right _ hm')

lemma withoutConstructor (h : c.Slashless) (kind : ClassKind) (active : Bool) :
    ({ c with kind, active, constructor := none } : ClassDef).Slashless :=
  h.of_entries rfl rfl rfl fun m hm => h.entries m (List.mem_append_right _ hm)

lemma withMethods (h : c.Slashless) {ms : List Method} (hms : ∀ m ∈ ms, NoSlash m.name) :
    ({ c with methods := ms } : ClassDef).Slashless := by
  refine h.of_entries rfl rfl rfl fun m' hm' => ?_
  rcases List.mem_append.mp hm' with hm' | hm'
  · exact h.entries m' (List.mem_append_left _ hm')
  · exact hms m' hm'

lemma modifyMethod {f : Method → Method} (h : c.Slashless) (hf : ∀ m, (f m).name = m.name) (slot : MethodSlot) :
    (c.modifyMethod slot f).Slashless := by
  have hnames : (c.modifyMethod slot f).entries.map Method.name = c.entries.map Method.name := by
    cases slot with
    | constructor => cases hc : c.constructor <;> simp [ClassDef.entries, ClassDef.modifyMethod, hc, hf]
    | attributes => rfl
    | method i => simp [ClassDef.entries, ClassDef.modifyMethod, map_modify_of_eq hf]
  have hentries : ∀ m ∈ (c.modifyMethod slot f).entries, NoSlash m.name := by
    intro m hm
    have hmem := List.mem_map_of_mem (f := Method.name) hm
    rw [hnames] at hmem
    obtain ⟨m', hm', heq⟩ := List.mem_map.mp hmem
    exact heq ▸ h.entries m' hm'
  cases slot <;> exact h.of_entries rfl rfl rfl hentries

lemma method (h : c.Slashless) {slot : MethodSlot} (hs : slot ≠ .attributes) (hm : c.method? slot = some m) :
    NoSlash m.name := by
  cases slot with
  | constructor => exact h.entries m (List.mem_append_left _ (Option.mem_toList.mpr hm))
  | attributes => exact absurd rfl hs
  | method i => exact h.entries m (List.mem_append_right _ (List.mem_of_getElem? hm))

end ClassDef.Slashless

namespace Binding

variable {b b' : Binding}

lemma Slashless.congr (h : b.Slashless) (hc : b'.classes = b.classes) (hs : b'.signatures = b.signatures)
    (hm : b'.members = b.members) (hk : b'.constants = b.constants) : b'.Slashless where
  classes i := by
    rw [classAt, hc]
    exact h.classes i
  signatures i := by
    rw [signatureAt, hs]
    exact h.signatures i
  members i := by
    rw [memberAt, hm]
    exact h.members i
  constants := hk ▸ h.constants

lemma Slashless.withClass (h : b.Slashless) {f : ClassDef → ClassDef}
    (hf : ∀ c : ClassDef, c.Slashless → (f c).Slashless) (id : ClassId) : (b.withClass id f).Slashless :=
  { h with classes := forall_getD_modify h.classes hf id }

lemma slashless_modifyClass {f : ClassDef → ClassDef} (id : ClassId)
    (hf : ∀ c : ClassDef, c.Slashless → (f c).Slashless) : (modifyClass id f).Maintains Slashless fun _ => True :=
  .update fun _ hb => hb.withClass hf id

lemma slashless_modifyMethod {f : Method → Method} (ref : MethodRef) (hf : ∀ m, (f m).name = m.name) :
    (modifyMethod ref f).Maintains Slashless fun _ => True :=
  slashless_modifyClass ref.cls fun _ hc => hc.modifyMethod hf ref.slot

lemma Slashless.withSignatures (h : b.Slashless) {f : Signature → Signature}
    (hf : ∀ s : Signature, s.Slashless → (f s).Slashless) (id : SignatureId) :
    ({ b with signatures := b.signatures.modify id f } : Binding).Slashless :=
  { h with signatures := forall_getD_modify h.signatures hf id }

lemma slashless_modifySignature {f : Signature → Signature} (id : SignatureId)
    (hf : ∀ s : Signature, s.Slashless → (f s).Slashless) :
    (modifySignature id f).Maintains Slashless fun _ => True :=
  .update fun _ hb => hb.withSignatures hf id

lemma slashless_modifyMember {f : Member → Member} (id : MemberId)
    (hf : ∀ x : Member, x.ctype.Slashless → (f x).ctype.Slashless) :
    (modifyMember id f).Maintains Slashless fun _ => True := by
  refine .update fun b hb => ?_
  exact { hb with members := forall_getD_modify (P := fun x : Member => x.ctype.Slashless) hb.members hf id }

lemma slashless_addMember {x : Member} (hx : x.ctype.Slashless) : (addMember x).Maintains Slashless fun _ => True := by
  refine .bind .state fun _ _ => .andThen (.update fun b hb => ?_) fun _ => .pure trivial
  exact { hb with members := forall_getD_push (P := fun x : Member => x.ctype.Slashless) hb.members hx }

lemma slashless_addClassDef {c : ClassDef} (hc : c.Slashless) : (addClassDef c).Maintains Slashless fun _ => True := by
  refine .bind .state fun _ _ => .andThen (.update fun b hb => ?_) fun _ => .pure trivial
  exact { hb with classes := forall_getD_push hb.classes hc }

lemma slashless_addSignature {s : Signature} (hs : s.Slashless) :
    (addSignature s).Maintains Slashless fun _ => True := by
  refine .bind .state fun _ _ => .andThen (.update fun b hb => ?_) fun _ => .pure trivial
  exact { hb with signatures := forall_getD_push hb.signatures hs }

lemma slashless_method {ref : MethodRef} (hr : ref.slot ≠ .attributes) :
    (method ref).Maintains Slashless fun m => NoSlash m.name := by
  refine .bind .state fun b hb => ?_
  split
  next m hm => exact .pure ((hb.classes ref.cls).method hr hm)
  next => exact .fail _

end Binding

/-! ### Declaring methods -/

namespace Method

variable {className baseName : Option String} {method type name returns : String}

/-- The tag of a struct that was announced is part of the type. -/
lemma noSlash_selectArgument {r : Registry} {selection : Registry.Selection} (ht : NoSlash type)
    (h : selectArgument r type = some selection) : NoSlash selection.type := by
  unfold selectArgument at h
  split at h
  · cases h
    exact ht
  · obtain ⟨m, hm, h⟩ := Option.bind_eq_some_iff.mp h
    obtain ⟨kind, -, h⟩ := Option.bind_eq_some_iff.mp h
    cases h
    exact ht.of_subset fun c hc => Pattern.mem_of_mem_group hm hc

lemma slashless_argumentType (className : Option String) (method : String) (ht : NoSlash type) (hn : NoSlash name) :
    (argumentType className method type name).Maintains Binding.Slashless fun found =>
      ∀ p ∈ found, p.1.Slashless := by
  refine .bind .state fun b _ => ?_
  dsimp only
  split
  on_goal 1 => refine .andThen (Consults.maintains (.report _)) fun _ => ?_
  all_goals
    split
    next s hs =>
      have hs := noSlash_selectArgument ht hs
      refine .bind (.lift (CType.gives_slashless_make _ hn hs _ _)) fun t ht => .pure ?_
      rintro p ⟨⟩
      exact ht
    next =>
      refine .andThen (.liftAny _) fun _ => .andThen (Consults.maintains (.report _)) fun _ => .pure ?_
      exact fun p hp => absurd hp (Option.not_mem_none p)

lemma gives_slashless_joinArgument {args : List CType} {t : CType} (ha : ∀ t ∈ args, t.Slashless)
    (ht : t.Slashless) (type name : String) :
    Gives (fun args => ∀ t ∈ args, CType.Slashless t) (joinArgument args t type name) := by
  unfold joinArgument
  split
  · exact .ok (List.forall_mem_singleton.mpr ht)
  next previous hlast =>
    have hprevious := ha previous (List.mem_of_getLast? hlast)
    split
    · refine .bind (CType.gives_slashless_make _ hprevious.name hprevious.type _ _) fun joined hjoined => .ok ?_
      exact List.forall_mem_append.mpr ⟨fun t ht => ha t (List.dropLast_subset _ ht),
        List.forall_mem_singleton.mpr hjoined⟩
    · exact .ok (List.forall_mem_append.mpr ⟨ha, List.forall_mem_singleton.mpr ht⟩)

lemma slashless_addTo {args : List CType} (className : Option String) (method : String)
    (ha : ∀ t ∈ args, t.Slashless) (ht : NoSlash type) (hn : NoSlash name) :
    (addTo className method args type name).Maintains Binding.Slashless fun args => ∀ t ∈ args, CType.Slashless t := by
  refine .bind (slashless_argumentType className method ht hn) fun r hr => ?_
  split
  · exact .pure ha
  next t type => exact .lift (gives_slashless_joinArgument ha (hr (t, type) rfl) type name)

lemma slashless_addArgument (m : Method) (ht : NoSlash type) (hn : NoSlash name) :
    (m.addArgument type name).Maintains Binding.Slashless fun _ => True := by
  refine .bind (.bind .state fun b hb => .pure (hb.signatures m.signature)) fun s hs => ?_
  refine .bind (slashless_addTo _ _ hs.args ht hn) fun args hargs => ?_
  exact Binding.slashless_modifySignature _ fun s hs => ⟨hargs, hs.returns⟩

lemma slashless_resultType (className : Option String) (method : String) (hr : NoSlash returns) :
    (resultType className method returns).Maintains Binding.Slashless CType.Slashless := by
  refine .bind .state fun b _ => ?_
  have hname : NoSlash "func_return" := by decide
  have hresolve := b.registry.gives_slashless_resolve hname hr [] []
  dsimp only
  split
  next t ht => exact .pure ⟨(hresolve t ht).name, (hresolve t ht).type⟩
  next =>
    have hpointer : (Act.lift (CType.make .voidPointer "func_return" "void *") : Act Binding CType).Maintains
        Binding.Slashless CType.Slashless :=
      .lift (CType.gives_slashless_make _ (by decide) (by decide) _ _)
    split
    · exact .andThen (.liftAny _) fun _ => .andThen (Consults.maintains (.report _)) fun _ => hpointer
    · exact hpointer
  next => exact .fail _

lemma slashless_make (kind : MethodKind) (className baseName : Option String) (name : String)
    (owner : Option ClassId) (hr : NoSlash returns) :
    (make kind className baseName name [] returns owner).Maintains Binding.Slashless fun m => m.name = name := by
  cases owner with
  | none => exact .fail _
  | some owner =>
    refine .bind (Q := fun args => ∀ t ∈ args, CType.Slashless t) (.pure (List.forall_mem_nil _)) fun args hargs => ?_
    refine .bind (slashless_resultType _ _ hr) fun result hresult => ?_
    have hreturns : CType.Slashless (if kind.isIterator then result.mark "NULL_OK" else result) := by
      split
      · exact hresult.mark _
      · exact hresult
    exact .andThen (Binding.slashless_addSignature ⟨hargs, hreturns⟩) fun signature => .pure rfl

lemma slashless_rename (m : Method) (className : Option String) :
    (m.rename className).Maintains Binding.Slashless fun _ => True := by
  refine .andThen (.forIn fun id _ => .andThen ?_ fun _ => .pure trivial) fun _ => .pure trivial
  exact Binding.slashless_modifyMember id fun x hx => hx

lemma slashless_makeReader (className baseName : Option String) (owner : ClassId) :
    (makeReader className baseName owner).Maintains Binding.Slashless fun _ => True := by
  refine .bind (slashless_make _ _ _ _ _ (by decide)) fun m _ => ?_
  exact slashless_rename _ _

lemma slashless_readNotes (ref : MethodRef) : (readNotes ref).Maintains Binding.Slashless fun _ => True := by
  refine .andThen (.bind .state fun b _ => ?_) fun m => ?_
  · split
    · exact .pure trivial
    · exact .fail _
  refine .andThen (.forIn fun a _ => .andThen ?_ fun _ => .pure trivial) fun _ => .pure trivial
  cases a with
  | default name value =>
    refine .andThen (Consults.maintains (.report _)) fun _ => ?_
    exact Binding.slashless_modifySignature _ fun s hs => ⟨hs.args, hs.returns⟩
  | raises r => exact Binding.slashless_modifyMethod ref fun _ => rfl

lemma slashless_inherit {ref : MethodRef} {className : String} (hr : ref.slot ≠ .attributes) :
    (Method.inherit ref className).Maintains Binding.Slashless fun m => NoSlash m.name := by
  have hrest : (do
      readNotes ref
      let m ← Binding.method ref
      let copy ← make m.kind (some className) m.baseName m.name [] "void *" (some m.owner)
      return { copy with
        signature := m.signature
        definitionClass := m.definitionClass
        exception := m.exception } : Act Binding Method).Maintains Binding.Slashless fun m => NoSlash m.name := by
    refine .andThen (slashless_readNotes ref) fun _ => ?_
    refine .bind (Binding.slashless_method hr) fun m hm => ?_
    refine .bind (slashless_make _ _ _ _ _ (by decide)) fun copy hcopy => .pure ?_
    rwa [hcopy]
  refine .bind (Binding.slashless_method hr) fun m _ => ?_
  split
  · exact .fail _
  · exact hrest

lemma slashless_inheritReader (m : Method) (className : String) :
    (m.inheritReader className).Maintains Binding.Slashless fun _ => True :=
  .andThen (slashless_makeReader _ _ _) fun _ => .pure trivial

end Method

/-! ### Declaring classes -/

namespace Class

lemma slashless_make {name baseName : Option String} (hn : ∀ t ∈ name, NoSlash t) (hb : ∀ t ∈ baseName, NoSlash t) :
    (Class.make name baseName).Maintains Binding.Slashless fun _ => True := by
  refine .andThen (Binding.slashless_addClassDef (.of_bare hn hb rfl rfl)) fun id => ?_
  refine .andThen (Method.slashless_makeReader _ _ _) fun reader => ?_
  refine .andThen (Binding.slashless_modifyClass id fun c hc => ?_) fun _ => ?_
  · exact hc.of_entries rfl rfl rfl hc.entries
  · refine .bind (Method.slashless_make _ _ _ _ _ (by decide)) fun m hm => ?_
    refine .andThen (Binding.slashless_modifyClass id fun c hc => ?_) fun _ => .pure trivial
    refine hc.withConstructor ?_
    rw [hm]
    decide

lemma slashless_makeStruct {name : Option String} (hn : ∀ t ∈ name, NoSlash t) :
    (makeStruct name).Maintains Binding.Slashless fun _ => True := by
  refine .andThen (slashless_make hn nofun) fun id => ?_
  exact .andThen (Binding.slashless_modifyClass id fun c hc => hc.withoutConstructor _ _) fun _ => .pure trivial

lemma slashless_makeEnum {name : Option String} (hn : ∀ t ∈ name, NoSlash t) :
    (makeEnum name).Maintains Binding.Slashless fun _ => True := by
  refine .andThen (slashless_makeStruct hn) fun id => ?_
  refine .andThen (Binding.slashless_modifyClass id fun c hc => ?_) fun _ => .pure trivial
  exact hc.of_entries rfl rfl rfl hc.entries

lemma slashless_inheritMethods (id : ClassId) (className : String) (count i : Nat) :
    (inheritMethods id className i count).Maintains Binding.Slashless fun ms => ∀ m ∈ ms, NoSlash m.name := by
  induction count generalizing i with
  | zero => exact .pure (List.forall_mem_nil _)
  | succ count ih =>
    refine .bind (Method.slashless_inherit nofun) fun m hm => ?_
    refine .bind (ih (i + 1)) fun ms hms => .pure ?_
    exact List.forall_mem_cons.mpr ⟨hm, hms⟩

lemma slashless_inherit {className : String} (id : ClassId) (hc : NoSlash className) :
    (Class.inherit id className).Maintains Binding.Slashless fun _ => True := by
  refine .bind .state fun b hb => ?_
  have hname : ∀ t ∈ some className, NoSlash t := by
    rintro t ⟨⟩
    exact hc
  refine .andThen (slashless_make hname (hb.classes id).name) fun new => ?_
  refine .bind (Method.slashless_inherit nofun) fun m hm => ?_
  refine .andThen (Binding.slashless_modifyClass new fun c hc => hc.withConstructor hm) fun _ => ?_
  refine .bind (slashless_inheritMethods id className _ _) fun ms hms => ?_
  refine .andThen (Binding.slashless_modifyClass new fun c hc => hc.withMethods hms) fun _ => ?_
  split
  next reader _ =>
    refine .andThen (Method.slashless_inheritReader reader className) fun m => ?_
    refine .andThen (Binding.slashless_modifyClass new fun c hc => ?_) fun _ => .pure trivial
    exact hc.of_entries rfl rfl rfl hc.entries
  next => exact .fail _

lemma slashless_declare (id : ClassId) (kind : Kind) :
    (declare id kind).Maintains Binding.Slashless fun _ => True :=
  .update fun _ hb => hb.congr rfl rfl rfl rfl

lemma slashless_addWanted {name type : String} (id : ClassId) (modifier : String) (named : List (String × Datum))
    (hn : NoSlash name) (ht : NoSlash type) :
    (addWanted id name type modifier named).Maintains Binding.Slashless fun _ => True := by
  refine .bind .state fun b hb => ?_
  have htype : NoSlash s!"BORROWED {type}" := .append (by decide) ht
  have hresolve := b.registry.gives_slashless_resolve hn htype [] named
  dsimp only
  split
  · exact Consults.maintains (.report _)
  · exact .fail _
  next t ht =>
    split
    next reader _ =>
      split
      · refine .andThen (Binding.slashless_addMember ((hresolve t ht).mark modifier)) fun member => ?_
        exact Binding.slashless_modifyMethod _ fun _ => rfl
      · exact .pure trivial
    next => exact .fail _

lemma slashless_addAttribute {name type : String} (id : ClassId) (modifier : String) (named : List (String × Datum))
    (hn : NoSlash name) (ht : NoSlash type) :
    (addAttribute id name type modifier named).Maintains Binding.Slashless fun _ => True := by
  have hwanted : (do
      if ← isWanted type then
        addWanted id name type modifier named : Act Binding Unit).Maintains Binding.Slashless fun _ => True := by
    refine .andThen (.bind .state fun b _ => ?_) fun wanted => ?_
    · split
      · exact maintains_isActive _
      · exact .pure trivial
    · split
      · exact slashless_addWanted id modifier named hn ht
      · exact .pure trivial
  unfold addAttribute
  split
  · exact .fail _
  · exact hwanted

lemma slashless_prepareStruct (id : ClassId) : (prepareStruct id).Maintains Binding.Slashless fun _ => True := by
  refine .bind .state fun b hb => ?_
  dsimp only
  split
  · refine .bind (Method.slashless_make _ _ _ _ _ (by decide)) fun m hm => ?_
    refine .andThen (Binding.slashless_modifyClass id fun c hc => ?_) fun _ => ?_
    · refine hc.withConstructor ?_
      rw [hm]
      decide
    · split
      next reader _ =>
        refine .andThen (Method.slashless_rename reader _) fun reader' => ?_
        refine .andThen (Binding.slashless_modifyClass id fun c hc => ?_) fun _ => ?_
        · exact hc.of_entries rfl rfl rfl hc.entries
        · refine .andThen (.forIn fun member _ => .andThen ?_ fun _ => .pure trivial) fun _ => .pure trivial
          exact Binding.slashless_modifyMember member fun x hx => hx.mark _
      next => exact .fail _
  · exact .pure trivial

lemma slashless_prepare (id : ClassId) : (prepare id).Maintains Binding.Slashless fun _ => True := by
  refine .bind .state fun b hb => ?_
  dsimp only
  split
  · exact .pure trivial
  · exact slashless_prepareStruct id
  · refine .bind (Method.slashless_make _ _ _ _ _ (by decide)) fun m hm => ?_
    refine .andThen (Binding.slashless_modifyClass id fun c hc => ?_) fun _ => slashless_prepareStruct id
    refine hc.withConstructor ?_
    rw [hm]
    decide

end Class

end HeaderBind
