import HeaderBind.Proofs.Header.Picking
import HeaderBind.Proofs.Header.Reading

/-!
# Reading the lines of a canonical header

Most lines of a canonical header are one token with a line end behind it (`Reads.line`). A block is a
line that opens it, the lines in it one after the other (`Reads.lines`), and a line that closes it.
Here constants, enums and structs are read, and each does what it declares.
-/

namespace HeaderBind

namespace Canonical

open Pattern

variable {most : Nat}

/-! ### Texts without blanks around them -/

lemma Identifier.not_blank (i : Identifier) : ∀ c ∈ i.chars, Text.isBlank c = false := by
  intro c hc
  have hlacks := i.lacks lacksWords_blank c hc
  simpa [CharSet.holds, CharSet.Item.holds] using hlacks

lemma Identifier.strip (i : Identifier) : Text.strip i.text = i.text :=
  Text.strip_ofList (fun c hc => i.not_blank c (List.mem_of_mem_head? hc))
    fun c hc => i.not_blank c (List.mem_of_mem_getLast? hc)

lemma TypeName.head_not_blank (t : TypeName most) (cs : List Char) :
    ∀ c ∈ (t.words ++ cs).head?, Text.isBlank c = false := by
  obtain ⟨d, ds, hds⟩ := List.exists_cons_of_ne_nil t.first.ne_nil
  have hd := t.first.not_blank d (by rw [hds]; exact List.mem_cons_self)
  rw [words, hds]
  rintro _ ⟨⟩
  exact hd

lemma TypeName.last_not_blank (t : TypeName most) :
    ∀ c ∈ t.words.getLast?, Text.isBlank c = false := by
  intro c hc
  rw [words] at hc
  rcases t.more.eq_nil_or_concat' with hmore | ⟨ws, w, hmore⟩ <;> rw [hmore] at hc
  · rw [List.flatMap_nil, List.append_nil] at hc
    exact t.first.not_blank c (List.mem_of_mem_getLast? hc)
  · obtain ⟨ds, d, hds⟩ := (List.eq_nil_or_concat' w.chars).resolve_left w.ne_nil
    have hd := w.not_blank d (by rw [hds]; exact List.mem_concat_self)
    have hlast : t.first.chars ++ (ws ++ [w]).flatMap (fun w => ' ' :: w.chars) =
        (t.first.chars ++ ws.flatMap (fun w => ' ' :: w.chars) ++ ' ' :: ds) ++ [d] := by
      simp [hds]
    rw [hlast, List.getLast?_concat] at hc
    cases hc
    exact hd

/-- A type is known by its text in front of a name, without the blanks. -/
lemma TypeName.strip_chars (t : TypeName most) : Text.strip (String.ofList t.chars) = t.text := by
  rw [text]
  split
  next hstars =>
    have happend : String.ofList t.chars = String.ofList t.words ++ " " := by
      rw [chars, hstars, ← String.ofList_toList (s := " "), ← String.ofList_append]
      rfl
    rw [happend, Text.strip_append_blank, List.append_nil]
    have hhead := t.head_not_blank []
    rw [List.append_nil] at hhead
    exact Text.strip_ofList hhead t.last_not_blank
  next hstars =>
    refine Text.strip_ofList (t.head_not_blank _) ?_
    obtain ⟨n, hn⟩ := Nat.exists_eq_succ_of_ne_zero hstars
    have hlast : t.chars = (t.words ++ ' ' :: List.replicate n '*') ++ ['*'] := by
      rw [chars, hn, List.replicate_succ', List.append_assoc, List.cons_append]
    rw [hlast, List.getLast?_concat]
    rintro _ ⟨⟩
    decide

end Canonical

namespace HeaderReader

open Lexer Header Header.Table Declaring Canonical Pattern

variable {atEnd : Bool} {doc : String} {stack stack' : List String} {state state' : String} {error : Int}
  {t rest : List Char} {x y : HeaderReader} {m : Match} {r : Rule} {mv : Move} {id : ClassId} {α : Type}
  {act : Act Binding α} {gs : List (Nat × List Char)}

/-- A text does not start with a blank. -/
abbrev Solid (cs : List Char) : Prop :=
  Stops ⟨false, [.blank]⟩ cs

/-- The text of a group, without blanks around it. -/
lemma trimmed_of_lookup {n : Nat} {cs : List Char} (h : Picks state r t rest gs m)
    (hg : gs.lookup n = some cs) : trimmed m n = Text.strip (String.ofList cs) := by
  rw [trimmed, Match.group, h.group?, hg]
  rfl

/-- A group that is a word. -/
lemma trimmed_of_word {n : Nat} (i : Identifier) (h : Picks state r t rest gs m)
    (hg : gs.lookup n = some i.chars) : trimmed m n = i.text :=
  (trimmed_of_lookup h hg).trans i.strip

/-- A group that is a type. -/
lemma trimmed_of_type {n most : Nat} (type : TypeName most) (h : Picks state r t rest gs m)
    (hg : gs.lookup n = some type.chars) : trimmed m n = type.text :=
  (trimmed_of_lookup h hg).trans type.strip_chars

/-! ### Lines -/

/-- A blank is passed over. -/
lemma Reads.blank (before : List Rule) {c : Char} (hc : Text.isBlank c)
    (hx : At doc stack state error (c :: rest) x) (hrest : Solid rest)
    (hstart : before ++ [blanks] <+: starting state c)
    (hbefore : ∀ r ∈ before, r.pattern.match? (c :: rest) = none) (hmove : isMove state) :
    Reads atEnd x (Pure.pure ()) fun _ y =>
      At doc stack state error rest y ∧ y.host = { x.host with binding := y.host.binding } := by
  obtain ⟨m, hm⟩ := exists_picks state before (finds_blanks hc hrest) rfl hstart hbefore
  have hmakes : Makes blanks (.stay "SPACE") := makes_of_mem (by simp [ruleMoves, rules])
  exact .step (t := [c]) hx hm.pick hm.length hmakes (performs_space m x.host) (fun _ => rfl) ⟨rfl, rfl⟩
    hmove

/-- The states in which lines of a header end. -/
def lineStates : List String := ["INITIAL", "CCLASS", "STRUCT", "ENUM"]

lemma starting_lineEnd : ∀ s ∈ lineStates, [emptyLine] ++ [blanks] <+: starting s '\n' := by
  simp only [lineStates, List.forall_mem_cons]
  exact ⟨prefix_starting ("INITIAL", initialRules) (by simp [stateRules]) ⟨_, rfl⟩,
    prefix_starting ("CCLASS", classRules) (by simp [stateRules]) ⟨_, rfl⟩,
    prefix_starting ("STRUCT", structRules) (by simp [stateRules]) ⟨_, rfl⟩,
    prefix_starting ("ENUM", enumRules) (by simp [stateRules]) ⟨_, rfl⟩, nofun⟩

lemma lineStates_subset : lineStates ⊆ states := by
  decide

/-- A line with one token on it. -/
lemma Reads.line {after : α → Header} (hx : At doc stack state error (t ++ '\n' :: rest) x)
    (hm : Picks state r t ('\n' :: rest) gs m) (hr : Makes r mv)
    (hp : Performs m mv.name?.toList x.host act after)
    (hdoc : ∀ a, (after a).comment = x.host.comment) (hmv : mv.Turns stack state stack' state')
    (hstate : state' ∈ lineStates) (hrest : Solid rest) :
    Reads atEnd x act fun a y =>
      At doc stack' state' error rest y ∧ y.host = { after a with binding := y.host.binding } := by
  have hmove := isMove_of_mem state' (lineStates_subset hstate)
  refine (Reads.step hx hm.pick hm.length hr hp hdoc hmv hmove).andThen ?_
  rintro a y ⟨hy, hhost⟩
  refine (Reads.blank [emptyLine] (by decide) hy hrest (starting_lineEnd state' hstate)
    (by simpa using match?_emptyLine hrest) hmove).skip ?_
  rintro z ⟨hz, hsame⟩
  refine .pure ⟨hz, ?_⟩
  rw [hsame, hhost]

section Lines

variable {β : Type} {R : List Char → Prop} {line : β → List Char} {declare : β → Act Binding Unit}

lemma forall_flatMap (hline : ∀ b rest, R rest → R (line b ++ rest)) (hrest : R rest) (bs : List β) :
    R (bs.flatMap line ++ rest) := by
  induction bs with
  | nil => exact hrest
  | cons b bs ih =>
    rw [List.flatMap_cons, List.append_assoc]
    exact hline b _ ih

/-- Lines one after the other. Behind each of them the text starts as it does behind the last one. -/
lemma Reads.lines {P : List Char → HeaderReader → Prop}
    (hline : ∀ b rest, R rest → R (line b ++ rest))
    (h : ∀ b rest x, R rest → P (line b ++ rest) x → Reads atEnd x (declare b) fun _ y => P rest y)
    (hrest : R rest) (bs : List β) (hx : P (bs.flatMap line ++ rest) x) :
    Reads atEnd x (bs.forM declare) fun _ y => P rest y := by
  induction bs generalizing x with
  | nil => exact .pure hx
  | cons b bs ih =>
    rw [List.flatMap_cons, List.append_assoc] at hx
    exact (h b _ x (forall_flatMap hline hrest bs) hx).bind fun _ y hy => ih hy

end Lines

/-! ### Constants -/

/-- A definition is read up to its name. -/
lemma Reads.enterDefine {name : Identifier}
    (hx : At doc stack "INITIAL" error (['#', 'd', 'e', 'f', 'i', 'n', 'e', ' '] ++ (name.chars ++ rest)) x) :
    Reads atEnd x (Pure.pure ()) fun _ y =>
      At doc (stack ++ ["INITIAL"]) "DEFINE" error (name.chars ++ rest) y ∧
        y.host = { x.host with binding := y.host.binding } := by
  obtain ⟨m, hm⟩ := exists_picks "INITIAL" [] (finds_startDefine name _) rfl
    (prefix_starting ("INITIAL", initialRules) (by simp [stateRules]) ⟨_, rfl⟩) (by simp)
  have hmakes : Makes startDefine (.enter "DEFINE" none) := makes_of_mem (by simp [ruleMoves, rules])
  exact Reads.step hx hm.pick hm.length hmakes (performs_nil m x.host) (fun _ => rfl) ⟨rfl, rfl⟩ (by decide)

lemma reading_constant {name : Identifier} {value : Value}
    (hx : At doc stack "INITIAL" error ((Declaration.constant name value).chars ++ rest) x)
    (hrest : Solid rest) :
    Reads atEnd x ((Declaration.constant name value).declare doc) fun _ y =>
      At doc stack "INITIAL" error rest y := by
  have htext : (Declaration.constant name value).chars ++ rest =
      ['#', 'd', 'e', 'f', 'i', 'n', 'e', ' '] ++
        (name.chars ++ ((' ' :: value.chars) ++ '\n' :: rest)) := by
    simp [Declaration.chars]
  rw [htext] at hx
  refine (Reads.enterDefine hx).skip ?_
  rintro y ⟨hy, -⟩
  rw [← List.append_assoc] at hy
  obtain ⟨m, hm⟩ := exists_picks_of_word [] name (finds_defineConstant name value rest) rfl onWords_define
    (by simp)
  have hmakes : Makes Table.defineConstant (.finish "DEFINE") := makes_of_mem (by simp [ruleMoves, rules])
  have hperforms : Performs m ["DEFINE"] y.host ((Declaration.constant name value).declare doc)
      fun _ => y.host := by
    refine performs_of_onBinding rfl fun z _ => ?_
    rw [effect_defineConstant, trimmed_of_word name hm rfl, hm.text]
    rfl
  exact (Reads.line hy hm hmakes hperforms (fun _ => rfl) rfl (by decide) hrest).mono
    fun _ z hz => hz.1

/-! ### Enums -/

lemma reading_value {v : Identifier × Value}
    (hx : At doc stack "ENUM" error (valueLine v ++ rest) x) (hid : x.host.currentEnum = some id)
    (hrest : Solid rest) :
    Reads atEnd x (declareValue id v) fun _ y =>
      At doc stack "ENUM" error rest y ∧ y.host.currentEnum = some id := by
  obtain ⟨i, value⟩ := v
  have htext : valueLine (i, value) ++ rest =
      i.chars ++ (' ' :: '=' :: (' ' :: value.chars ++ [','])) ++ '\n' :: rest := by
    simp [valueLine]
  rw [htext] at hx
  have hline : '\n' ∉ ' ' :: value.chars ++ [','] := by
    simp [value.in_line]
  obtain ⟨m, hm⟩ := exists_picks_of_word [] i (finds_enumValue i (List.cons_ne_nil _ _) hline rest) rfl
    onWords_enum (by simp)
  have hmakes : Makes enumValue (.stay "ENUM_VALUE") := makes_of_mem (by simp [ruleMoves, rules])
  have hperforms : Performs m ["ENUM_VALUE"] x.host (declareValue id (i, value)) fun _ => x.host := by
    refine performs_of_onBinding rfl fun y hy => ?_
    rw [effect_addEnumValue (hy ▸ hid), trimmed_of_word i hm rfl]
    rfl
  refine (Reads.line hx hm hmakes hperforms (fun _ => rfl) ⟨rfl, rfl⟩ (by decide)
    hrest).mono ?_
  rintro _ y ⟨hy, hhost⟩
  exact ⟨hy, hhost ▸ hid⟩

lemma reading_enumStart (hx : At doc stack "INITIAL" error (enumStart ++ '\n' :: rest) x)
    (hrest : Solid rest) :
    Reads atEnd x (Class.makeEnum none) fun id y =>
      At doc (stack ++ ["INITIAL"]) "ENUM" error rest y ∧ y.host.currentEnum = some id := by
  obtain ⟨m, hm⟩ := exists_picks "INITIAL" [Table.startStruct, Table.startNamelessStruct]
    (finds_startNamelessEnum ('\n' :: rest)) rfl
    (prefix_starting ("INITIAL", initialRules) (by simp [stateRules]) ⟨_, rfl⟩) (match?_enumStart _)
  have hmakes : Makes startNamelessEnum (.enter "ENUM" (some "TYPEDEF_ENUM_START")) :=
    makes_of_mem (by simp [ruleMoves, rules])
  have hperforms : Performs m ["TYPEDEF_ENUM_START"] x.host (Class.makeEnum none)
      fun id => { x.host with currentEnum := some id } :=
    performs_of_modify (f := fun id h => { h with currentEnum := some id }) (fun _ _ _ => rfl) rfl
      fun y _ => effect_startEnum none y
  refine (Reads.line hx hm hmakes hperforms (fun _ => rfl) ⟨rfl, rfl⟩ (by decide)
    hrest).mono ?_
  rintro id y ⟨hy, hhost⟩
  exact ⟨hy, hhost ▸ rfl⟩

lemma reading_enumEnd {name : Identifier}
    (hx : At doc (stack ++ ["INITIAL"]) "ENUM" error
      (('\x7d' :: ' ' :: (name.chars ++ [';'])) ++ '\n' :: rest) x)
    (hid : x.host.currentEnum = some id) (hrest : Solid rest) :
    Reads atEnd x (do nameClass id name.text; closeEnum id) fun _ y =>
      At doc stack "INITIAL" error rest y := by
  obtain ⟨m, hm⟩ := exists_picks "ENUM" [] (finds_endNamed (.inr rfl) name ('\n' :: rest)) rfl
    (prefix_starting ("ENUM", enumRules) (by simp [stateRules]) ⟨_, rfl⟩) (by simp)
  have hmakes : Makes Table.endNamedEnum (.leave (some "TYPEDEFED_ENUM_END")) :=
    makes_of_mem (by simp [ruleMoves, rules])
  have hname : m.group 1 = name.text := by
    rw [Match.group, hm.group?]
    rfl
  have hperforms : Performs m ["TYPEDEFED_ENUM_END"] x.host (do nameClass id name.text; closeEnum id)
      fun _ => { x.host with currentEnum := none } := by
    refine performs_of_modify (f := fun _ h => { h with currentEnum := none }) (fun _ _ _ => rfl) rfl
      fun y hy => ?_
    rw [effect_endNamedEnum (hy ▸ hid), hname]
  exact (Reads.line hx hm hmakes hperforms (fun _ => rfl) rfl (by decide) hrest).mono
    fun _ y hy => hy.1

lemma solid_valueLine (v : Identifier × Value) (rest : List Char) : Solid (valueLine v ++ rest) := by
  rw [valueLine, List.append_assoc, List.append_assoc, List.append_assoc]
  exact v.1.stops lacksWords_blank _

lemma reading_enumeration {values : List (Identifier × Value)} {name : Identifier}
    (hx : At doc stack "INITIAL" error ((Declaration.enumeration values name).chars ++ rest) x)
    (hrest : Solid rest) :
    Reads atEnd x ((Declaration.enumeration values name).declare doc) fun _ y =>
      At doc stack "INITIAL" error rest y := by
  have htext : (Declaration.enumeration values name).chars ++ rest =
      enumStart ++ '\n' :: (values.flatMap valueLine ++
        (('\x7d' :: ' ' :: (name.chars ++ [';'])) ++ '\n' :: rest)) := by
    simp [Declaration.chars, enumStart]
  rw [htext] at hx
  have hline : ∀ v rest, Solid rest → Solid (valueLine v ++ rest) :=
    fun v rest _ => solid_valueLine v rest
  have hend : Solid (('\x7d' :: ' ' :: (name.chars ++ [';'])) ++ '\n' :: rest) :=
    stops_cons (by decide)
  refine (reading_enumStart hx (forall_flatMap hline hend values)).bind fun id y hy => ?_
  refine (Reads.lines (P := fun rest y => At doc _ "ENUM" error rest y ∧ y.host.currentEnum = some id)
    hline (fun v rest x hrest hx => ?_) hend values hy).bind fun _ z hz => ?_
  · exact reading_value hx.1 hx.2 hrest
  · exact reading_enumEnd hz.1 hz.2 hrest

/-! ### Structs -/

lemma Field.exists_chars (f : Field) : ∃ u, f.chars = f.type.first.chars ++ u := by
  obtain ⟨cs, hcs⟩ := f.type.exists_chars
  exact ⟨_, by rw [Field.chars, hcs, List.append_assoc]⟩

lemma exists_picks_structStart (rest : List Char) :
    ∃ m, Picks "INITIAL" Table.startNamelessStruct structStart rest [] m :=
  exists_picks "INITIAL" [Table.startStruct] (finds_startNamelessStruct rest) rfl
    (prefix_starting ("INITIAL", initialRules) (by simp [stateRules]) ⟨_, rfl⟩)
    (by simpa using match?_startStruct_structStart _)

lemma exists_picks_field (f : Field) (size : Option Identifier) (rest : List Char) :
    ∃ m, Picks "STRUCT" structAttribute (f.chars ++ sizeChars size ++ [';']) rest
      ((size.map fun i => (3, i.chars)).toList ++ [(2, f.name.chars), (1, f.type.chars)]) m := by
  obtain ⟨u, hu⟩ := Field.exists_chars f
  exact exists_picks_of_word [] f.type.first (finds_structAttribute f size rest)
    (by rw [hu, List.append_assoc, List.append_assoc]) (onWords_struct.of_prefix ⟨_, rfl⟩) (by simp)

lemma exists_picks_structEnd (name : Identifier) (rest : List Char) :
    ∃ m, Picks "STRUCT" Table.endNamedStruct ('\x7d' :: ' ' :: (name.chars ++ [';'])) rest [(1, name.chars)] m :=
  exists_picks "STRUCT" [] (finds_endNamed (.inl rfl) name rest) rfl
    (prefix_starting ("STRUCT", structRules) (by simp [stateRules]) ⟨_, rfl⟩) (by simp)

lemma makes_startNamelessStruct :
    Makes Table.startNamelessStruct (.enter "STRUCT" (some "TYPEDEF_STRUCT_START")) :=
  makes_of_mem (by simp [ruleMoves, rules])

lemma performs_startNamelessStruct (m : Match) (h : Header) :
    Performs m ["TYPEDEF_STRUCT_START"] h (openStruct none fun c => { c with doc := h.comment })
      fun id => { h with currentStruct := some id } := by
  refine performs_of_modify (f := fun id h => { h with currentStruct := some id }) (fun _ _ _ => rfl) rfl
    fun y hy => ?_
  rw [effect_startNamelessStruct y, hy]

lemma makes_structAttribute : Makes structAttribute (.stay "STRUCT_ATTRIBUTE") :=
  makes_of_mem (by simp [ruleMoves, rules])

lemma performs_structAttribute {h : Header} (hid : h.currentStruct = some id) {name type : String}
    {size : Option String} (hname : trimmed m 2 = name) (htype : trimmed m 1 = type)
    (hsize : m.group? 3 = size) :
    Performs m ["STRUCT_ATTRIBUTE"] h (Class.addAttribute id name type "" (arraySize size)) fun _ => h := by
  refine performs_of_onBinding rfl fun y hy => ?_
  rw [effect_addStructAttribute (hy ▸ hid), hname, htype, hsize]

lemma makes_endNamedStruct : Makes Table.endNamedStruct (.leave (some "TYPEDEF_STRUCT_END")) :=
  makes_of_mem (by simp [ruleMoves, rules])

lemma performs_endNamedStruct {h : Header} (hid : h.currentStruct = some id) {name : Identifier}
    (hname : trimmed m 1 = name.text) :
    Performs m ["TYPEDEF_STRUCT_END"] h (do nameClass id name.text; closeStruct id)
      fun _ => { h with currentStruct := none } := by
  refine performs_of_modify (f := fun _ h => { h with currentStruct := none }) (fun _ _ _ => rfl) rfl
    fun y hy => ?_
  rw [effect_endNamedStruct (hy ▸ hid), hname]

lemma reading_structField {f : Field × Option Identifier}
    (hx : At doc stack "STRUCT" error (fieldLine f ++ rest) x) (hid : x.host.currentStruct = some id)
    (hrest : Solid rest) :
    Reads atEnd x (f.1.declare f.2 id) fun _ y =>
      At doc stack "STRUCT" error rest y ∧ y.host.currentStruct = some id := by
  obtain ⟨f, size⟩ := f
  have htext : fieldLine (f, size) ++ rest = (f.chars ++ sizeChars size ++ [';']) ++ '\n' :: rest := by
    simp [fieldLine]
  rw [htext] at hx
  obtain ⟨m, hm⟩ := exists_picks_field f size ('\n' :: rest)
  have hperforms : Performs m _ x.host (f.declare size id) _ := performs_structAttribute hid
    (trimmed_of_word f.name hm (by cases size <;> rfl))
    (trimmed_of_type f.type hm (by cases size <;> rfl)) (by rw [hm.group?]; cases size <;> rfl)
  refine (Reads.line hx hm makes_structAttribute hperforms (fun _ => rfl) ⟨rfl, rfl⟩ (by decide)
    hrest).mono ?_
  rintro _ y ⟨hy, hhost⟩
  exact ⟨hy, hhost ▸ hid⟩

lemma reading_structStart (hx : At doc stack "INITIAL" error (structStart ++ '\n' :: rest) x)
    (hrest : Solid rest) :
    Reads atEnd x (openStruct none fun c => { c with doc }) fun id y =>
      At doc (stack ++ ["INITIAL"]) "STRUCT" error rest y ∧ y.host.currentStruct = some id := by
  obtain ⟨m, hm⟩ := exists_picks_structStart ('\n' :: rest)
  obtain rfl := hx.comment
  refine (Reads.line hx hm makes_startNamelessStruct (performs_startNamelessStruct m x.host) (fun _ => rfl)
    ⟨rfl, rfl⟩ (by decide) hrest).mono ?_
  rintro id y ⟨hy, hhost⟩
  exact ⟨hy, hhost ▸ rfl⟩

lemma reading_structEnd {name : Identifier}
    (hx : At doc (stack ++ ["INITIAL"]) "STRUCT" error
      (('\x7d' :: ' ' :: (name.chars ++ [';'])) ++ '\n' :: rest) x)
    (hid : x.host.currentStruct = some id) (hrest : Solid rest) :
    Reads atEnd x (do nameClass id name.text; closeStruct id) fun _ y =>
      At doc stack "INITIAL" error rest y := by
  obtain ⟨m, hm⟩ := exists_picks_structEnd name ('\n' :: rest)
  have hperforms := performs_endNamedStruct hid (trimmed_of_word name hm rfl)
  exact (Reads.line hx hm makes_endNamedStruct hperforms (fun _ => rfl) rfl (by decide) hrest).mono
    fun _ y hy => hy.1

lemma solid_fieldLine (f : Field × Option Identifier) (rest : List Char) : Solid (fieldLine f ++ rest) := by
  rw [fieldLine, Field.chars, List.append_assoc, List.append_assoc, List.append_assoc]
  exact f.1.type.stops lacksWords_blank _

lemma reading_struct {fields : List (Field × Option Identifier)} {name : Identifier}
    (hx : At doc stack "INITIAL" error ((Declaration.struct fields name).chars ++ rest) x)
    (hrest : Solid rest) :
    Reads atEnd x ((Declaration.struct fields name).declare doc) fun _ y =>
      At doc stack "INITIAL" error rest y := by
  have htext : (Declaration.struct fields name).chars ++ rest =
      structStart ++ '\n' :: (fields.flatMap fieldLine ++
        (('\x7d' :: ' ' :: (name.chars ++ [';'])) ++ '\n' :: rest)) := by
    simp [Declaration.chars, structStart]
  rw [htext] at hx
  have hline : ∀ f rest, Solid rest → Solid (fieldLine f ++ rest) :=
    fun f rest _ => solid_fieldLine f rest
  have hend : Solid (('\x7d' :: ' ' :: (name.chars ++ [';'])) ++ '\n' :: rest) :=
    stops_cons (by decide)
  refine (reading_structStart hx (forall_flatMap hline hend fields)).bind fun id y hy => ?_
  refine (Reads.lines (P := fun rest y => At doc _ "STRUCT" error rest y ∧ y.host.currentStruct = some id)
    hline (fun f rest x hrest hx => ?_) hend fields hy).bind fun _ z hz => ?_
  · exact reading_structField hx.1 hx.2 hrest
  · exact reading_structEnd hz.1 hz.2 hrest

end HeaderReader

end HeaderBind
