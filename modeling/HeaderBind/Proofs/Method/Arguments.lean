import HeaderBind.Proofs.Class.Proxies
import HeaderBind.Proofs.Text.Blank

/-!
# Arguments and parameters

A method gets its arguments one by one. An argument of a type that is not known is left out, and a
string with an integer after it becomes one buffer. `Joins` says which arguments come of which uses of
types, and the run of calls follows it (`ends_addArguments`). What is written for the arguments then has one
parameter for each use, since a buffer is written as two.
-/

namespace HeaderBind.Method

open Binding Declaring

variable {uses args : List CType} {t u string integer : CType} {kind : Kind} {name type : String}
  {selection : Registry.Selection}

/-! ### Types in use -/

/-- What a type in use has of its kind and of the name of its type alone. -/
structure MadeFrom (type : String) (t : CType) : Prop where
  notBuffer : t.kind.isBuffer = false
  type_eq : CType.storageType t.kind type = .ok t.type
  declared_eq : CType.declaredOf t.kind type = .ok t.declared
  sense_eq : t.sense = CType.senseOf t.kind
  interface_eq : t.interface = CType.interfaceOf t.kind

lemma madeFrom_of_make (h : CType.make kind name type = .ok t) :
    t.kind = kind ∧ t.name = name ∧ MadeFrom type t := by
  unfold CType.make at h
  cases hbuffer : kind.isBuffer with
  | true =>
    rw [hbuffer] at h
    cases h
  | false =>
    rw [hbuffer] at h
    cases hstored : CType.storageType kind type with
    | error f =>
      rw [hstored] at h
      cases h
    | ok stored =>
      cases hdeclared : CType.declaredOf kind type with
      | error f =>
        rw [hstored, hdeclared] at h
        cases h
      | ok declared =>
        rw [hstored, hdeclared] at h
        cases h
        exact ⟨rfl, rfl, hbuffer, hstored, hdeclared, rfl, rfl⟩

namespace MadeFrom

/-- A string passes by its name. -/
lemma of_string (h : MadeFrom type t) (hs : t.interface = some "string") :
    t.callArgument = .ok t.name ∧ t.comment = .ok s!"{t.type} {t.name} " := by
  rw [h.interface_eq] at hs
  unfold CType.callArgument CType.comment
  cases hk : t.kind <;> simp_all [CType.interfaceOf]

/-- An integer passes by its name and keeps the name of its type. -/
lemma of_integer (h : MadeFrom type t) (hi : t.interface = some "integer") :
    t.declared = some (some type) ∧ t.callArgument = .ok t.name ∧
      t.comment = .ok s!"{type} {t.name} " := by
  have hdeclared : t.declared = some (some type) := by
    have hdeclared := h.declared_eq
    rw [h.interface_eq] at hi
    cases hk : t.kind <;> simp_all [CType.interfaceOf, CType.declaredOf]
  refine ⟨hdeclared, ?_⟩
  rw [h.interface_eq] at hi
  unfold CType.callArgument CType.comment CType.declaredText
  rw [hdeclared]
  cases hk : t.kind <;> simp_all [CType.interfaceOf]

end MadeFrom

/-! ### Joining a string with its length -/

/-- The buffer that a string becomes with its length. -/
def joined (string : CType) (length lengthType : String) : CType :=
  let kind := if string.sense = "OUT" then Kind.bufferOut else Kind.buffer
  { kind
    name := string.name
    type := string.type
    sense := CType.senseOf kind
    interface := some "char_and_length"
    errorValue := "return NULL;"
    length := some (.text length)
    lengthType := some (.text lengthType) }

lemma make_joined (string : CType) (length lengthType : String) :
    CType.make (if string.sense == "OUT" then .bufferOut else .buffer) string.name string.type
      [.text length, .text lengthType] = .ok (joined string length lengthType) := by
  unfold joined
  by_cases h : string.sense = "OUT"
  · simp only [h, beq_self_eq_true, if_true]
    rfl
  · simp only [h, beq_iff_eq, if_false]
    rfl

/-- The arguments that the uses of types become: a string with an integer after it may be joined, and every
other use is an argument on its own. -/
inductive Joins : List CType → List CType → Prop
  | nil : Joins [] []
  | keep {t : CType} {uses args : List CType} (hb : t.kind.isBuffer = false) :
      Joins uses args → Joins (t :: uses) (t :: args)
  | join {string integer : CType} {type : String} {uses args : List CType}
      (hs : string.interface = some "string") (hi : integer.interface = some "integer")
      (hd : integer.declared = some (some type)) :
      Joins uses args → Joins (string :: integer :: uses) (joined string integer.name type :: args)

lemma Joins.append {uses' args' : List CType} (h : Joins uses args) (h' : Joins uses' args') :
    Joins (uses ++ uses') (args ++ args') := by
  induction h with
  | nil => exact h'
  | keep hb _ ih => exact .keep hb ih
  | join hs hi hd _ ih => exact .join hs hi hd ih

/-- The last argument is the last use if it is a string. -/
lemma Joins.of_concat_string (h : Joins uses (args ++ [t])) (ht : t.interface = some "string") :
    ∃ uses', uses = uses' ++ [t] ∧ Joins uses' args := by
  induction args generalizing uses with
  | nil =>
    cases h with
    | keep hb h =>
      cases h
      exact ⟨[], rfl, .nil⟩
    | join =>
      have hne : some "char_and_length" ≠ some "string" := by decide
      exact absurd ht hne
  | cons u args ih =>
    cases h with
    | keep hb h =>
      obtain ⟨uses', rfl, h'⟩ := ih h
      exact ⟨u :: uses', rfl, .keep hb h'⟩
    | join hs hi hd h =>
      obtain ⟨uses', rfl, h'⟩ := ih h
      exact ⟨_ :: _ :: uses', rfl, .join hs hi hd h'⟩

/-- No string stands before an integer. -/
def Apart (args : List CType) : Prop :=
  args.IsChain fun t u => ¬ (t.interface = some "string" ∧ u.interface = some "integer")

lemma Apart.concat (h : Apart args)
    (ht : ∀ u ∈ args.getLast?, ¬ (u.interface = some "string" ∧ t.interface = some "integer")) :
    Apart (args ++ [t]) := by
  rw [Apart, List.isChain_append]
  exact ⟨h, .singleton t, fun u hu v hv => by
    cases hv
    exact ht u hu⟩

lemma joinArgument_concat (args : List CType) (last t : CType) (type name : String) :
    joinArgument (args ++ [last]) t type name =
      .ok (if t.interface = some "integer" ∧ last.interface = some "string"
        then args ++ [joined last name type] else args ++ [last] ++ [t]) := by
  rw [joinArgument, List.getLast?_concat]
  simp only [Bool.and_eq_true, beq_iff_eq (a := t.interface), beq_iff_eq (a := last.interface)]
  split
  · rw [make_joined, List.dropLast_concat]
    rfl
  · rfl

/-- One more use: it is joined with the string before it, or it comes last. -/
lemma joinArgument_joins (h : Joins uses args) (ha : Apart args) (ht : MadeFrom type t) :
    ∃ args', joinArgument args t type t.name = .ok args' ∧ Joins (uses ++ [t]) args' ∧ Apart args' := by
  have hlast : Joins [t] [t] := .keep ht.notBuffer .nil
  rcases List.eq_nil_or_concat' args with rfl | ⟨init, last, rfl⟩
  · exact ⟨[t], rfl, h.append hlast, .singleton t⟩
  · refine ⟨_, joinArgument_concat init last t type t.name, ?_⟩
    split
    next hjoin =>
      obtain ⟨uses', rfl, h'⟩ := h.of_concat_string hjoin.2
      constructor
      · rw [List.append_assoc]
        exact h'.append (.join hjoin.2 hjoin.1 (ht.of_integer hjoin.1).1 .nil)
      · have hinit : Apart init := List.IsChain.left_of_append ha
        apply hinit.concat
        rintro u - ⟨-, hinteger⟩
        have hne : some "char_and_length" ≠ some "integer" := by decide
        exact hne hinteger
    next hjoin =>
      refine ⟨h.append hlast, ha.concat ?_⟩
      intro u hu
      rw [List.getLast?_concat, Option.mem_some_iff] at hu
      subst hu
      exact fun hboth => hjoin hboth.symm

/-! ### Adding arguments -/

/-- The kinds that are found for declared arguments, with the names of the arguments. -/
def accepted (r : Registry) (declared : List (String × String)) : List (Registry.Selection × String) :=
  declared.filterMap fun d => (selectArgument r d.1).map fun selection => (selection, d.2)

/-- The types in use of the declared arguments of known types. -/
def usesOf (r : Registry) (declared : List (String × String)) : Except Fault (List CType) :=
  (accepted r declared).mapM fun a => CType.make a.1.kind a.2 a.1.type

lemma accepted_cons_of_some {d : String × String} {declared : List (String × String)} {r : Registry}
    (h : selectArgument r d.1 = some selection) :
    accepted r (d :: declared) = (selection, d.2) :: accepted r declared := by
  simp [accepted, h]

lemma accepted_cons_of_none {d : String × String} {declared : List (String × String)} {r : Registry}
    (h : selectArgument r d.1 = none) : accepted r (d :: declared) = accepted r declared := by
  simp [accepted, h]

variable {b : Binding} {m : Method} {className : Option String} {method cls : String}
  {declared : List (String × String)}

/-- An argument of a known type is joined with the others. -/
lemma effect_addTo_of_some (hs : selectArgument b.registry type = some selection) :
    (addTo className method args type name).effect b =
      (CType.make selection.kind name selection.type >>= fun t => joinArgument args t selection.type name,
        b) := by
  have hfound : (argumentType className method type name).effect b =
      (do return some (← CType.make selection.kind name selection.type, selection.type), b) := by
    rw [argumentType, Act.effect_bind_of_ok (Act.effect_state b)]
    simp only [hs]
    split
    · rw [Act.effect_bind_of_ok (effect_report _ b), Act.effect_bind, Act.effect_lift]
      rcases CType.make selection.kind name selection.type with f | t <;> rfl
    · rw [Act.effect_bind, Act.effect_lift]
      rcases CType.make selection.kind name selection.type with f | t <;> rfl
  rw [addTo, Act.effect_bind, hfound]
  rcases CType.make selection.kind name selection.type with f | t <;> rfl

/-- An argument of a type that is not known is left out. -/
lemma effect_addTo_of_none (hs : selectArgument b.registry type = none) :
    (addTo className method args type name).effect b = (known className >>= fun _ => .ok args, b) := by
  have hleft (message : String → String) :
      (do report (message (← need className)); return none : Act Binding (Option (CType × String))).effect b =
        (known className >>= fun _ => .ok none, b) := by
    rw [Act.effect_bind, need, Act.effect_lift]
    rcases known className with f | cls
    · rfl
    · exact Act.effect_bind_of_ok (effect_report _ b)
  have hfound : (argumentType className method type name).effect b =
      (known className >>= fun _ => .ok none, b) := by
    rw [argumentType, Act.effect_bind_of_ok (Act.effect_state b)]
    simp only [hs]
    split
    · exact (Act.effect_bind_of_ok (effect_report _ b)).trans (hleft fun cls => _)
    · exact hleft fun cls => _
  rw [addTo, Act.effect_bind, hfound]
  rcases known className with f | cls <;> rfl

lemma effect_addArgument
    (h : (addTo m.className m.name (b.signatureAt m.signature).args type name).effect b = (.ok args, b)) :
    (m.addArgument type name).effect b = (.ok (), withArgs b m args) := by
  rw [addArgument, Act.effect_bind_of_ok (Act.effect_bind_of_ok (Act.effect_state b))]
  exact Act.effect_bind_of_ok h

lemma withArgs_self (b : Binding) (m : Method) : withArgs b m (b.signatureAt m.signature).args = b := by
  have hsame : b.signatures.modify m.signature
      (fun s => { s with args := (b.signatureAt m.signature).args }) = b.signatures := by
    apply modify_eq_of_eq
    intro s hs
    simp [signatureAt, hs]
  rw [withArgs, hsame]

lemma withArgs_twice (b : Binding) (m : Method) (args args' : List CType) :
    withArgs (withArgs b m args) m args' = withArgs b m args' := by
  simp only [withArgs, modify_twice]

lemma signatureAt_withArgs (h : m.signature < b.signatures.size) (args : List CType) :
    (withArgs b m args).signatureAt m.signature = { b.signatureAt m.signature with args } :=
  (signatureAt_of_modify (f := fun s => { s with args }) rfl h).1

/-- Adding arguments joins their uses to those that came before. -/
lemma effect_addArguments {before : List CType} (hm : m.signature < b.signatures.size)
    (hnamed : ∀ d ∈ declared, selectArgument b.registry d.1 = none → m.className ≠ none)
    (huses : usesOf b.registry declared = .ok uses)
    (h : Joins before (b.signatureAt m.signature).args) (ha : Apart (b.signatureAt m.signature).args) :
    ∃ args, (declared.forM fun d => m.addArgument d.1 d.2).effect b = (.ok (), withArgs b m args) ∧
      Joins (before ++ uses) args ∧ Apart args := by
  induction declared generalizing b before uses with
  | nil =>
    cases huses
    refine ⟨(b.signatureAt m.signature).args, ?_, by simpa using h, ha⟩
    rw [withArgs_self]
    rfl
  | cons d declared ih =>
    have hrest : ∀ d' ∈ declared, selectArgument b.registry d'.1 = none → m.className ≠ none :=
      fun d' hd' => hnamed d' (List.mem_cons_of_mem d hd')
    rw [List.forM]
    cases hs : selectArgument b.registry d.1 with
    | none =>
      have hadd : (addTo m.className m.name (b.signatureAt m.signature).args d.1 d.2).effect b =
          (.ok (b.signatureAt m.signature).args, b) := by
        obtain ⟨cls, hcls⟩ := Option.ne_none_iff_exists'.mp (hnamed d List.mem_cons_self hs)
        rw [effect_addTo_of_none hs, hcls]
        rfl
      rw [usesOf, accepted_cons_of_none hs] at huses
      rw [Act.effect_bind_of_ok (effect_addArgument hadd), withArgs_self]
      exact ih hm hrest huses h ha
    | some selection =>
      rw [usesOf, accepted_cons_of_some hs, mapM_eq_ok_iff] at huses
      obtain ⟨t, uses, ht, hmade, rfl⟩ := List.forall₂_cons_left_iff.mp huses
      obtain ⟨-, hname, hfrom⟩ := madeFrom_of_make ht
      obtain ⟨args, hjoin, h', ha'⟩ := joinArgument_joins h ha hfrom
      have hadd : (addTo m.className m.name (b.signatureAt m.signature).args d.1 d.2).effect b =
          (.ok args, b) := by
        rw [effect_addTo_of_some hs, ht, ← hjoin, hname]
        rfl
      have hargs : ((withArgs b m args).signatureAt m.signature).args = args := by
        rw [signatureAt_withArgs hm]
      rw [Act.effect_bind_of_ok (effect_addArgument hadd)]
      have hm' : m.signature < (withArgs b m args).signatures.size := by rwa [withArgs, Array.size_modify]
      rw [← hargs] at h' ha'
      obtain ⟨args', heffect, h'', ha''⟩ := ih hm' hrest (mapM_eq_ok_iff.mpr hmade) h' ha'
      refine ⟨args', ?_, by simpa using h'', ha''⟩
      rw [heffect, withArgs_twice]

/-! ### Names of parameters -/

/-- The names of the parameters that an argument stands for. -/
def parameterNames (t : CType) : List String :=
  match t.kind, t.length with
  | .buffer, some (.text length) | .bufferOut, some (.text length) => [t.name, length]
  | _, _ => [t.name]

lemma parameterNames_joined (string : CType) (length lengthType : String) :
    parameterNames (joined string length lengthType) = [string.name, length] := by
  by_cases h : string.sense = "OUT" <;> simp [parameterNames, joined, h]

lemma parameterNames_of_not_buffer (h : t.kind.isBuffer = false) : parameterNames t = [t.name] := by
  unfold parameterNames
  split
  next hk _ => simp [hk, Kind.isBuffer] at h
  next hk _ => simp [hk, Kind.isBuffer] at h
  next => rfl

/-- No name is lost. -/
lemma Joins.names_eq (h : Joins uses args) : args.flatMap parameterNames = uses.map (·.name) := by
  induction h with
  | nil => rfl
  | keep hb _ ih => simp [parameterNames_of_not_buffer hb, ih]
  | join _ _ _ _ ih => simp [parameterNames_joined, ih]

/-! ### Calls -/

/-- A list of further parameters. -/
def further (parts : List String) : String :=
  String.join (parts.map (", " ++ ·))

@[simp] lemma further_nil : further [] = "" := rfl

@[simp] lemma further_cons (part : String) (parts : List String) :
    further (part :: parts) = ", " ++ part ++ further parts := by
  simp [further, String.append_assoc]

/-- An operand of a call passes the value on, with a cast in front or without. -/
def PassedAs (t : CType) (part : String) : Prop :=
  ∃ value, t.callArgument = .ok value ∧
    (part = value ∨ ∃ type : String, part = s!"({type}){value}" ∨ part = s!"({type}) {value}")

/-- The operand of a call for one argument. -/
def operand (t : CType) : Except Fault String := do
  let value ← t.callArgument
  return if t.kind == .enumeration then s!", ({t.type}) {value}" else s!", {value}"

lemma operands_eq (s : Signature) : operands s = do return String.join (← s.args.mapM operand) := rfl

/-- An argument that is no buffer is one operand. -/
lemma operand_of_not_buffer (h : t.kind.isBuffer = false) :
    ∃ part, PassedAs t part ∧ operand t = .ok (", " ++ part) := by
  have hvalue : ∃ value, t.callArgument = .ok value := by
    unfold CType.callArgument
    cases hk : t.kind <;> simp_all [Kind.isBuffer]
  obtain ⟨value, hvalue⟩ := hvalue
  rw [operand, hvalue]
  by_cases hk : t.kind = .enumeration
  · exact ⟨s!"({t.type}) {value}", ⟨value, hvalue, .inr ⟨t.type, .inr rfl⟩⟩, by simp [hk]; rfl⟩
  · exact ⟨value, ⟨value, hvalue, .inl rfl⟩, by simp [hk]; rfl⟩

lemma kind_joined (string : CType) (length lengthType : String) :
    (joined string length lengthType).kind = .bufferOut ∧ string.sense = "OUT" ∨
      (joined string length lengthType).kind = .buffer ∧ string.sense ≠ "OUT" := by
  by_cases h : string.sense = "OUT"
  · exact .inl ⟨if_pos h, h⟩
  · exact .inr ⟨if_neg h, h⟩

/-- A buffer is two operands. -/
lemma operand_joined (string : CType) (length lengthType : String) :
    operand (joined string length lengthType) =
      .ok (further [s!"({string.type}){string.name}", s!"({lengthType}){length}"]) := by
  have hcall : (joined string length lengthType).callArgument =
      .ok s!"({string.type}){string.name}, ({lengthType}){length}" := by
    rcases kind_joined string length lengthType with ⟨hk, -⟩ | ⟨hk, -⟩ <;> rw [CType.callArgument, hk] <;> rfl
  have hkind : ((joined string length lengthType).kind == .enumeration) = false := by
    rcases kind_joined string length lengthType with ⟨hk, -⟩ | ⟨hk, -⟩ <;> rw [hk] <;> rfl
  have hcomma : ", (" = ", " ++ "(" := by decide
  rw [operand, hcall, hkind, hcomma]
  show Except.ok _ = Except.ok _
  simp only [further_cons, further_nil, toString, String.append_assoc, String.append_empty]
  rfl

/-- There is an operand for each use. -/
lemma Joins.operands (h : Joins uses args) (hmade : ∀ t ∈ uses, ∃ type, MadeFrom type t) :
    ∃ parts texts, List.Forall₂ PassedAs uses parts ∧
      List.Forall₂ (fun t text => operand t = .ok text) args texts ∧ String.join texts = further parts := by
  induction h with
  | nil => exact ⟨[], [], .nil, .nil, rfl⟩
  | keep hb _ ih =>
    obtain ⟨part, hpart, hoperand⟩ := operand_of_not_buffer hb
    obtain ⟨parts, texts, hparts, htexts, hjoin⟩ := ih fun t ht => hmade t (List.mem_cons_of_mem _ ht)
    exact ⟨part :: parts, _ :: texts, .cons hpart hparts, .cons hoperand htexts, by simp [hjoin]⟩
  | @join string integer type uses args hs hi hd _ ih =>
    obtain ⟨_, hstring⟩ := hmade string (by simp)
    obtain ⟨_, hinteger⟩ := hmade integer (by simp)
    obtain ⟨parts, texts, hparts, htexts, hjoin⟩ := ih fun t ht => hmade t (by simp [ht])
    have hfirst : PassedAs string s!"({string.type}){string.name}" :=
      ⟨_, (hstring.of_string hs).1, .inr ⟨string.type, .inl rfl⟩⟩
    have hsecond : PassedAs integer s!"({type}){integer.name}" :=
      ⟨_, (hinteger.of_integer hi).2.1, .inr ⟨type, .inl rfl⟩⟩
    refine ⟨_ :: _ :: parts, _ :: texts, .cons hfirst (.cons hsecond hparts),
      .cons (operand_joined string integer.name type) htexts, ?_⟩
    simp only [String.join_cons, hjoin, further_cons, further_nil, String.append_empty, String.append_assoc]

/-! ### Prototypes -/

/-- A parameter of a prototype declares the value, up to blanks around it. -/
def DeclaredAs (t : CType) (part : String) : Prop :=
  ∃ text, t.comment = .ok text ∧ Text.strip part = Text.strip text

/-- What is written for an argument in a prototype. -/
def HeadedAs (t : CType) (text : String) : Prop :=
  ∃ comment, t.comment = .ok comment ∧ ¬ Text.IsBlank comment ∧ text = ", " ++ Text.strip comment

/-- The forms in which an argument is declared. -/
lemma MadeFrom.comment_cases (h : MadeFrom type t) :
    t.comment = .ok "void *ctx" ∨ t.comment = .ok s!"{t.type} *{t.name}" ∨
      t.comment = .ok s!"{type} {t.name} " := by
  have htype := h.type_eq.symm
  have hdeclared := h.declared_eq.symm
  have hbuffer := h.notBuffer
  unfold CType.comment CType.declaredText
  cases hk : t.kind <;> rw [hk] at htype hdeclared hbuffer <;>
    simp_all [CType.storageType, CType.declaredOf, Kind.isBuffer]

/-- An argument is declared by a text that is not blank, unless its type and its name are. -/
lemma MadeFrom.comment_eq (h : MadeFrom type t) (hblank : ¬ (Text.IsBlank type ∧ Text.IsBlank t.name)) :
    ∃ text, t.comment = .ok text ∧ ¬ Text.IsBlank text := by
  rcases h.comment_cases with hc | hc | hc
  · exact ⟨_, hc, by decide⟩
  · refine ⟨_, hc, ?_⟩
    intro hall
    obtain ⟨⟨-, hstar⟩, -⟩ := by simpa only [Text.isBlank_append] using hall
    have hblank : Text.isBlank '*' = true := hstar '*' (by decide)
    cases hblank
  · refine ⟨_, hc, ?_⟩
    intro hall
    obtain ⟨⟨⟨htype, -⟩, hname⟩, -⟩ := by simpa only [Text.isBlank_append] using hall
    exact hblank ⟨htype, hname⟩

lemma comment_joined (string : CType) (length lengthType : String) :
    (joined string length lengthType).comment =
      .ok (s!"{string.type} {string.name}" ++ ", " ++ s!"{lengthType} {length}") := by
  have hcomment : (joined string length lengthType).comment =
      .ok s!"{string.type} {string.name}, {lengthType} {length}" := by
    rcases kind_joined string length lengthType with ⟨hk, -⟩ | ⟨hk, -⟩ <;> rw [CType.comment, hk] <;> rfl
  rw [hcomment]
  simp only [toString, String.append_assoc]

/-- A buffer is declared as two parameters. -/
lemma headedAs_joined (string : CType) {length lengthType : String}
    (hblank : ¬ Text.IsBlank s!"{lengthType} {length}") :
    HeadedAs (joined string length lengthType) (further
      [Text.stripStart s!"{string.type} {string.name}", Text.stripEnd s!"{lengthType} {length}"]) := by
  refine ⟨_, comment_joined string length lengthType, ?_, ?_⟩
  · intro hall
    exact hblank (Text.isBlank_append.mp hall).2
  · rw [Text.strip_comma hblank]
    simp only [further_cons, further_nil, String.append_empty, String.append_assoc]

/-- There is a parameter for each use. -/
lemma Joins.heads (h : Joins uses args) (hmade : ∀ t ∈ uses, ∃ type, MadeFrom type t)
    (hshown : ∀ t ∈ uses, ∃ text, t.comment = .ok text ∧ ¬ Text.IsBlank text) :
    ∃ parts texts, List.Forall₂ DeclaredAs uses parts ∧ List.Forall₂ HeadedAs args texts ∧
      String.join texts = further parts := by
  induction h with
  | nil => exact ⟨[], [], .nil, .nil, rfl⟩
  | @keep t uses args hb _ ih =>
    obtain ⟨parts, texts, hparts, htexts, hjoin⟩ :=
      ih (fun t ht => hmade t (by simp [ht])) fun t ht => hshown t (by simp [ht])
    obtain ⟨text, hcomment, hblank⟩ := hshown t (by simp)
    have hpart : DeclaredAs t (Text.strip text) := ⟨text, hcomment, Text.strip_strip text⟩
    have htext : HeadedAs t (", " ++ Text.strip text) := ⟨text, hcomment, hblank, rfl⟩
    exact ⟨_ :: parts, _ :: texts, .cons hpart hparts, .cons htext htexts, by simp [hjoin]⟩
  | @join string integer type uses args hs hi hd _ ih =>
    obtain ⟨parts, texts, hparts, htexts, hjoin⟩ :=
      ih (fun t ht => hmade t (by simp [ht])) fun t ht => hshown t (by simp [ht])
    obtain ⟨_, hstring⟩ := hmade string (by simp)
    obtain ⟨found, hinteger⟩ := hmade integer (by simp)
    obtain ⟨hd', -, hcomment⟩ := hinteger.of_integer hi
    obtain rfl : found = type := by simpa [hd] using hd'.symm
    have hfirst : DeclaredAs string (Text.stripStart s!"{string.type} {string.name}") :=
      ⟨_, (hstring.of_string hs).2, (Text.strip_stripStart _).trans (Text.strip_append_blank _).symm⟩
    have hsecond : DeclaredAs integer (Text.stripEnd s!"{found} {integer.name}") :=
      ⟨_, hcomment, (Text.strip_stripEnd _).trans (Text.strip_append_blank _).symm⟩
    have hlength : ¬ Text.IsBlank s!"{found} {integer.name}" := by
      intro hall
      obtain ⟨text, htext, hblank⟩ := hshown integer (by simp)
      have hend : Text.IsBlank " " := by decide
      cases hcomment.symm.trans htext
      exact hblank (Text.isBlank_append.mpr ⟨hall, hend⟩)
    refine ⟨_ :: _ :: parts, _ :: texts, .cons hfirst (.cons hsecond hparts),
      .cons (headedAs_joined string hlength) htexts, ?_⟩
    simp only [String.join_cons, hjoin, further_cons, further_nil, String.append_empty, String.append_assoc]

/-- A loop that writes a text in each round. -/
lemma effect_forIn_wrote {β : Type} {xs : List β} {texts : List String}
    {step : β → Act Binding (ForInStep PUnit)}
    (h : List.Forall₂ (fun x text => ∀ b, (step x).effect b = (.ok (.yield ⟨⟩), wrote text b)) xs texts)
    (b : Binding) :
    (ForIn.forIn xs PUnit.unit fun x _ => step x).effect b = (.ok ⟨⟩, wrote (String.join texts) b) := by
  induction h generalizing b with
  | nil => simp [wrote]
  | cons hx _ ih =>
    rw [List.forIn_cons, Act.effect_bind_of_ok (hx b)]
    dsimp only
    rw [ih, wrote_wrote, String.join_cons]

/-- The round of the loop over the arguments in the head of a proxy function. -/
def headStep (t : CType) : Act Binding (ForInStep PUnit) := do
  let parameter := Text.strip (← Act.lift t.comment)
  if !parameter.isEmpty then do
    emit s!", {parameter}"
    return .yield ⟨⟩
  else
    return .yield ⟨⟩

lemma effect_headStep {text : String} (h : HeadedAs t text) (b : Binding) :
    (headStep t).effect b = (.ok (.yield ⟨⟩), wrote text b) := by
  obtain ⟨comment, hcomment, hblank, rfl⟩ := h
  have hgiven : (Text.strip comment).isEmpty = false := by
    simpa [Text.strip_eq_empty_iff] using hblank
  rw [headStep, hcomment, Act.effect_bind_of_ok (Act.effect_lift _ _)]
  simp only [hgiven, Bool.not_false, if_true]
  exact Act.effect_bind_of_ok (effect_emit _ b)

/-- The head of a proxy function holds what is written for the arguments. -/
lemma effect_writeHead {p : Proxy} {texts : List String} (hname : b.proxyName p = some name)
    (hcls : p.definitionClass = some cls)
    (htexts : List.Forall₂ HeadedAs (b.signatureAt p.signature).args texts) :
    p.writeHead.effect b = (.ok (), wrote (p.headText b name cls ++ String.join texts ++ ")") b) := by
  have hsignature : p.signatureOf.effect b = (.ok (b.signatureAt p.signature), b) := rfl
  have hneed : (need p.definitionClass : Act Binding String).effect b = (.ok cls, b) := by
    rw [hcls]
    rfl
  have hloop := effect_forIn_wrote (htexts.imp fun t text h => effect_headStep h)
    (wrote (p.headText b name cls) b)
  calc p.writeHead.effect b
    _ = _ := Act.effect_bind_of_ok hsignature
    _ = _ := Act.effect_bind_of_ok (Proxy.effect_functionName hname)
    _ = _ := Act.effect_bind_of_ok hneed
    _ = _ := Act.effect_bind_of_ok (effect_emit _ b)
    _ = _ := Act.effect_bind_of_ok hloop
    _ = _ := effect_emit ")" _
    _ = _ := by rw [wrote_wrote, wrote_wrote, String.append_assoc]

/-! ### Parameters of a method -/

/-- A buffer is to be filled if and only if it comes of a string that goes out. -/
lemma Joins.kind_of_buffer (h : Joins uses args) (ht : t ∈ args) (hb : t.kind.isBuffer) :
    ∃ string ∈ uses, string.interface = some "string" ∧ t.name = string.name ∧
      t.kind = if string.sense = "OUT" then .bufferOut else .buffer := by
  induction h with
  | nil => cases ht
  | keep hkeep _ ih =>
    rcases List.mem_cons.mp ht with rfl | ht
    · rw [hkeep] at hb
      cases hb
    · obtain ⟨string, hmem, hstring⟩ := ih ht
      exact ⟨string, List.mem_cons_of_mem _ hmem, hstring⟩
  | @join string _ _ _ _ hs _ _ _ ih =>
    rcases List.mem_cons.mp ht with rfl | ht
    · exact ⟨string, List.mem_cons_self, hs, rfl, rfl⟩
    · obtain ⟨string, hmem, hstring⟩ := ih ht
      exact ⟨string, by simp [hmem], hstring⟩

/-- What the uses have of the declared arguments. -/
lemma forall_madeFrom (h : usesOf b.registry declared = .ok uses) :
    List.Forall₂ (fun t a => t.name = a.2 ∧ MadeFrom a.1.type t) uses (accepted b.registry declared) :=
  ((mapM_eq_ok_iff.mp h).imp fun _ _ ht => (madeFrom_of_make ht).2).flip

lemma names_of_uses (h : usesOf b.registry declared = .ok uses) :
    uses.map (·.name) = (accepted b.registry declared).map Prod.snd := by
  have hsame : List.Forall₂ (· = ·) (uses.map (·.name)) ((accepted b.registry declared).map Prod.snd) := by
    rw [List.forall₂_map_left_iff, List.forall₂_map_right_iff]
    exact (forall_madeFrom h).imp fun _ _ ht => ht.1
  rwa [List.forall₂_eq_eq_eq] at hsame

lemma exists_accepted_of_mem (h : usesOf b.registry declared = .ok uses) (ht : t ∈ uses) :
    ∃ a ∈ accepted b.registry declared, t.name = a.2 ∧ MadeFrom a.1.type t := by
  have hmade := forall_madeFrom h
  obtain ⟨i, hi, rfl⟩ := List.getElem_of_mem ht
  have hi' : i < (accepted b.registry declared).length := hmade.length_eq ▸ hi
  exact ⟨_, List.getElem_mem hi', hmade.get hi hi'⟩

/-- Each argument of a known type that is added to a method is a parameter of the method: its name is kept,
in its order, the call that the wrapper makes has an operand for it, and the prototype of the proxy declares
it. In the prototype there has to be something that can be declared: a type or a name. -/
theorem parameters_addArguments (hm : m.signature < b.signatures.size)
    (hnone : (b.signatureAt m.signature).args = [])
    (hnamed : ∀ d ∈ declared, selectArgument b.registry d.1 = none → m.className ≠ none)
    (huses : usesOf b.registry declared = .ok uses) :
    ∃ args, (declared.forM fun d => m.addArgument d.1 d.2).effect b = (.ok (), withArgs b m args) ∧
      args.flatMap parameterNames = (accepted b.registry declared).map Prod.snd ∧
      Joins uses args ∧ Apart args ∧
      (∀ t ∈ args, t.kind.isBuffer → ∃ string ∈ uses, string.interface = some "string" ∧
        t.name = string.name ∧ t.kind = if string.sense = "OUT" then .bufferOut else .buffer) ∧
      (∃ parts, List.Forall₂ PassedAs uses parts ∧
        operands ((withArgs b m args).signatureAt m.signature) = .ok (further parts)) ∧
      ((∀ a ∈ accepted b.registry declared, ¬ (Text.IsBlank a.1.type ∧ Text.IsBlank a.2)) →
        ∀ p name cls, p.signature = m.signature → b.proxyName p = some name → p.definitionClass = some cls →
          ∃ parts, List.Forall₂ DeclaredAs uses parts ∧ p.writeHead.effect (withArgs b m args) =
            (.ok (), wrote (p.headText b name cls ++ further parts ++ ")") (withArgs b m args))) := by
  have hstart : Joins [] (b.signatureAt m.signature).args ∧ Apart (b.signatureAt m.signature).args := by
    rw [hnone]
    exact ⟨.nil, .nil⟩
  obtain ⟨args, heffect, hjoins, hapart⟩ := effect_addArguments hm hnamed huses hstart.1 hstart.2
  have hmade : ∀ t ∈ uses, ∃ type, MadeFrom type t := by
    intro t ht
    obtain ⟨a, -, -, hfrom⟩ := exists_accepted_of_mem huses ht
    exact ⟨a.1.type, hfrom⟩
  have hargs := signatureAt_withArgs hm args
  refine ⟨args, heffect, hjoins.names_eq.trans (names_of_uses huses), hjoins, hapart,
    fun t => hjoins.kind_of_buffer, ?_, ?_⟩
  · obtain ⟨parts, texts, hparts, htexts, hjoin⟩ := hjoins.operands hmade
    refine ⟨parts, hparts, ?_⟩
    rw [operands_eq, hargs, mapM_eq_ok_iff.mpr htexts, ← hjoin]
    rfl
  · intro hblank p name cls hp hname hcls
    have hshown : ∀ t ∈ uses, ∃ text, t.comment = .ok text ∧ ¬ Text.IsBlank text := by
      intro t ht
      obtain ⟨a, ha, hta, hfrom⟩ := exists_accepted_of_mem huses ht
      exact hfrom.comment_eq (hta ▸ hblank a ha)
    obtain ⟨parts, texts, hparts, htexts, hjoin⟩ := hjoins.heads hmade hshown
    refine ⟨parts, hparts, ?_⟩
    have hhead : p.headText (withArgs b m args) name cls = p.headText b name cls := by
      simp only [Proxy.headText, hp, hargs]
    rw [← hjoin, ← hhead]
    exact effect_writeHead (b := withArgs b m args) hname hcls (by rwa [hp, hargs])

/-- A binding in which a class has a method without arguments. -/
def fileBinding (r : Registry) : Binding :=
  { name := "files"
    registry := r
    classes := #[{ name := some "File" }]
    signatures := #[{ returns := { kind := .integer .int64, name := "func_return", type := "int64_t" } }] }

/-- The method of that class. -/
def readMethod : Method :=
  { kind := .ordinary
    name := "read"
    className := some "File"
    baseName := some "Object"
    definitionClass := some "File"
    owner := 0
    signature := 0 }

/-- The function through which the library calls the method. -/
def readProxy : Proxy :=
  { name := "read", definitionClass := some "File", owner := 0, signature := 0 }

/-- A method that reads into a buffer. An argument in between is of an unknown type. -/
theorem parameters_addArguments_read :
    let b := fileBinding .initial
    let declared := [("OUT char *", "buffer"), ("unknown", "x"), ("size_t", "size"), ("int", "flags")]
    ∃ uses args, usesOf b.registry declared = .ok uses ∧ uses.length = 3 ∧
      (declared.forM fun d => readMethod.addArgument d.1 d.2).effect b =
        (.ok (), withArgs b readMethod args) ∧
      args.flatMap parameterNames = ["buffer", "size", "flags"] ∧
      ∃ parts, List.Forall₂ DeclaredAs uses parts ∧
        readProxy.writeHead.effect (withArgs b readMethod args) =
          (.ok (), wrote (readProxy.headText b "ProxiedFile_read" "File" ++ further parts ++ ")")
            (withArgs b readMethod args)) := by
  intro b declared
  have huses : ∃ uses, usesOf b.registry declared = .ok uses ∧ uses.length = 3 := ⟨_, rfl, rfl⟩
  obtain ⟨uses, huses, hlength⟩ := huses
  obtain ⟨args, heffect, hnames, -, -, -, -, hhead⟩ :=
    parameters_addArguments (m := readMethod) (by decide) rfl (by simp [readMethod]) huses
  exact ⟨uses, args, huses, hlength, heffect, hnames, hhead (by decide) readProxy _ _ rfl rfl rfl⟩

lemma effect_addArgument_blank :
    let b := fileBinding (Registry.initial.registerAlias "int" "")
    ∃ t args, usesOf b.registry [("", "")] = .ok [t] ∧ args.flatMap parameterNames = [""] ∧
      ([("", "")].forM fun d => readMethod.addArgument d.1 d.2).effect b =
        (.ok (), withArgs b readMethod args) ∧
      readProxy.writeHead.effect (withArgs b readMethod args) =
        (.ok (), wrote (readProxy.headText b "ProxiedFile_read" "File" ++ ")") (withArgs b readMethod args)) :=
  ⟨_, _, rfl, rfl, rfl, rfl⟩

/-- An argument with a blank type and a blank name is not declared in the prototype. -/
theorem not_parameters_addArguments_blank :
    let b := fileBinding (Registry.initial.registerAlias "int" "")
    ∃ uses args, usesOf b.registry [("", "")] = .ok uses ∧ args.flatMap parameterNames = [""] ∧
      ([("", "")].forM fun d => readMethod.addArgument d.1 d.2).effect b =
        (.ok (), withArgs b readMethod args) ∧
      ∀ parts, List.Forall₂ DeclaredAs uses parts → readProxy.writeHead.effect (withArgs b readMethod args) ≠
        (.ok (), wrote (readProxy.headText b "ProxiedFile_read" "File" ++ further parts ++ ")")
          (withArgs b readMethod args)) := by
  intro b
  obtain ⟨t, args, huses, hnames, heffect, hhead⟩ := effect_addArgument_blank
  refine ⟨[t], args, huses, hnames, heffect, ?_⟩
  intro parts hparts hmore
  obtain ⟨part, rest, -, -, rfl⟩ := List.forall₂_cons_left_iff.mp hparts
  -- The two texts differ in length.
  have hlength := congrArg (fun r => r.2.out.length) (hhead.symm.trans hmore)
  simp [wrote, b] at hlength

end HeaderBind.Method
