import HeaderBind.Proofs.Header.Lines

/-!
# Reading a canonical header

A header in canonical form declares what stands in it. Classes have their methods and attributes line by
line, and their end is not taken for one of them.
-/

namespace HeaderBind

namespace HeaderReader

open Lexer Header Header.Table Declaring Canonical Pattern

variable {atEnd : Bool} {doc : String} {stack stack' : List String} {state state' : String} {error : Int}
  {t rest : List Char} {x y : HeaderReader} {m : Match} {r : Rule} {mv : Move} {id : ClassId} {α : Type}
  {act : Act Binding α}

/-! ### Methods -/

lemma reading_argument {method : Method} {a : Argument} {args : List Argument}
    (hx : At doc stack "METHOD" error (argumentsChars (a :: args) ++ rest) x)
    (hmethod : x.host.currentMethod = some method) (hf : method.unfinished = false)
    (hid : x.host.currentClass = some id) :
    Reads atEnd x (a.declare method) fun _ y =>
      At doc stack "METHOD" error (argumentsChars args ++ rest) y ∧
        y.host.currentMethod = some method ∧ y.host.currentClass = some id := by
  have htext : argumentsChars (a :: args) ++ rest =
      ' ' :: ((a.chars ++ comma args) ++ (argumentsChars args ++ rest)) := by
    simp [argumentsChars]
  rw [htext] at hx
  have hsolid : Solid ((a.chars ++ comma args) ++ (argumentsChars args ++ rest)) := by
    rw [Argument.chars, List.append_assoc, List.append_assoc]
    exact a.type.stops lacksWords_blank _
  refine (Reads.blank [] (by decide) hx hsolid
    (prefix_starting ("METHOD", methodRules) (by simp [stateRules]) ⟨_, rfl⟩) (by simp) (by decide)).skip ?_
  rintro y ⟨hy, hsame⟩
  obtain ⟨cs, hcs⟩ := a.type.exists_chars
  obtain ⟨m, hm⟩ := exists_picks_of_word [] a.type.first (finds_methodArgument a args rest)
    (by rw [Argument.chars, hcs, List.append_assoc, List.append_assoc]) onWords_method (by simp)
  have hmakes : Makes methodArgument (.stay "METHOD_ARG") := makes_of_mem (by simp [ruleMoves, rules])
  have hperforms : Performs m ["METHOD_ARG"] y.host (a.declare method) fun _ => y.host := by
    refine performs_of_onBinding rfl fun z hz => ?_
    rw [effect_addMethodArgument (by rw [hz, hsame]; exact hmethod) hf, trimmed_of_type a.type hm rfl,
      trimmed_of_word a.name hm rfl]
    rfl
  refine (Reads.step hy hm.pick hm.length hmakes hperforms (fun _ => rfl) ⟨rfl, rfl⟩ (by decide)).mono ?_
  rintro _ z ⟨hz, hhost⟩
  rw [hhost, hsame]
  exact ⟨hz, hmethod, hid⟩

lemma reading_arguments {method : Method} (hf : method.unfinished = false) (args : List Argument)
    (hx : At doc stack "METHOD" error (argumentsChars args ++ rest) x)
    (hmethod : x.host.currentMethod = some method) (hid : x.host.currentClass = some id) :
    Reads atEnd x (args.forM fun a => a.declare method) fun _ y =>
      At doc stack "METHOD" error (argumentsChars [] ++ rest) y ∧
        y.host.currentMethod = some method ∧ y.host.currentClass = some id := by
  induction args generalizing x with
  | nil => exact .pure ⟨hx, hmethod, hid⟩
  | cons a args ih =>
    exact (reading_argument hx hmethod hf hid).bind fun _ y hy => ih hy.1 hy.2.1 hy.2.2

lemma reading_endMethod {method : Method}
    (hx : At doc (stack ++ ["CCLASS"]) "METHOD" error (argumentsChars [] ++ rest) x)
    (hmethod : x.host.currentMethod = some method) (hf : method.unfinished = false)
    (hid : x.host.currentClass = some id) (hrest : Solid rest) :
    Reads atEnd x (closeMethod id method) fun _ y =>
      At doc stack "CCLASS" error rest y ∧ y.host.currentClass = some id := by
  obtain ⟨m, hm⟩ := exists_picks "METHOD" [] (finds_endMethod ('\n' :: rest)) rfl
    (prefix_starting ("METHOD", methodRules) (by simp [stateRules]) ⟨_, rfl⟩) (by simp)
  have hmakes : Makes Table.endMethod (.leave (some "METHOD_END")) := makes_of_mem (by simp [ruleMoves, rules])
  have hperforms : Performs m ["METHOD_END"] x.host (closeMethod id method)
      fun _ => { x.host with currentMethod := none } := by
    refine performs_of_modify (f := fun _ h => { h with currentMethod := none }) (fun _ _ _ => rfl) rfl
      fun y hy => ?_
    exact effect_endMethod (hy ▸ hmethod) hf (hy ▸ hid)
  refine (Reads.line hx hm hmakes hperforms (fun _ => rfl) rfl (by decide) hrest).mono ?_
  rintro _ y ⟨hy, hhost⟩
  exact ⟨hy, hhost ▸ hid⟩

lemma reading_method {cls name : Identifier} {returns : TypeName 1} {plain : returns.IsPlain}
    {args : List Argument}
    (hx : At doc stack "CCLASS" error ((Member.method returns plain name args).line cls ++ rest) x)
    (hid : x.host.currentClass = some id) (hrest : Solid rest) :
    Reads atEnd x ((Member.method returns plain name args).declare doc id) fun _ y =>
      At doc stack "CCLASS" error rest y ∧ y.host.currentClass = some id := by
  have htext : (Member.method returns plain name args).line cls ++ rest =
      (returns.chars ++ (['M', 'E', 'T', 'H', 'O', 'D', '('] ++ cls.chars ++ [',', ' '] ++ name.chars ++
        comma args)) ++ (argumentsChars args ++ rest) := by
    have hargs := comma_append_argumentsChars args
    simp only [Member.line, List.append_assoc] at hargs ⊢
    rw [← List.append_assoc (comma args), hargs, List.append_assoc]
  rw [htext] at hx
  obtain ⟨cs, hcs⟩ := returns.exists_chars
  obtain ⟨c, hfinds⟩ := finds_startMethod returns plain cls name args rest
  obtain ⟨m, hm⟩ := exists_picks_of_word [] returns.first hfinds (by rw [hcs, List.append_assoc])
    (onWords_class.of_prefix (List.prefix_append [Table.startMethod] _)) (by simp)
  have hmakes : Makes Table.startMethod (.enter "METHOD" (some "METHOD_START")) :=
    makes_of_mem (by simp [ruleMoves, rules])
  have hprivate : m.group 1 ≠ "PRIVATE" := by
    rw [Match.group, hm.group?]
    exact (by decide : "" ≠ "PRIVATE")
  have hperforms := performs_startMethod hprivate hid
  rw [trimmed_of_type returns hm rfl, trimmed_of_word name hm rfl, hx.comment] at hperforms
  refine ((Reads.step hx hm.pick hm.length hmakes hperforms (fun _ => hx.comment.symm) ⟨rfl, rfl⟩
    (by decide)).and_ends (R := fun method => method.unfinished = false) ?_).bind ?_
  · refine (ends_openMethod id doc returns.text name.text x.host.binding).mono ?_ fun _ _ h => h
    rintro method b ⟨rfl, -⟩
    rfl
  · rintro method y ⟨⟨hy, hhost⟩, hf⟩
    have hmethod : y.host.currentMethod = some method := hhost ▸ rfl
    have hclass : y.host.currentClass = some id := hhost ▸ hid
    exact (reading_arguments hf args hy hmethod hclass).bind fun _ z hz =>
      reading_endMethod hz.1 hz.2.1 hf hz.2.2 hrest

/-! ### Classes -/

lemma reading_classField {cls : Identifier} {f : Field} {plain : f.type.IsPlain}
    (hx : At doc stack "CCLASS" error ((Member.field f plain).line cls ++ rest) x)
    (hid : x.host.currentClass = some id) (hrest : Solid rest) :
    Reads atEnd x ((Member.field f plain).declare doc id) fun _ y =>
      At doc stack "CCLASS" error rest y ∧ y.host.currentClass = some id := by
  have htext : (Member.field f plain).line cls ++ rest = (f.chars ++ [';']) ++ '\n' :: rest := by
    simp [Member.line]
  rw [htext] at hx
  obtain ⟨u, hu⟩ := Field.exists_chars f
  have hmethod : Table.startMethod.pattern.match? ((f.chars ++ [';']) ++ '\n' :: rest) = none := by
    rw [List.append_assoc]
    exact match?_startMethod_field f _
  obtain ⟨m, hm⟩ := exists_picks_of_word [Table.startMethod] f.type.first
    (finds_classAttribute f plain ('\n' :: rest)) (by rw [hu, List.append_assoc]) onWords_class
    (by simpa using hmethod)
  have hmakes : Makes classAttribute (.stay "CCLASS_ATTRIBUTE") := makes_of_mem (by simp [ruleMoves, rules])
  have hmodifier : m.group 1 = "" := by
    rw [Match.group, hm.group?]
    rfl
  have hperforms : Performs m ["CCLASS_ATTRIBUTE"] x.host (f.declare none id) fun _ => x.host := by
    refine performs_of_onBinding rfl fun y hy => ?_
    rw [effect_addClassAttribute (hy ▸ hid), trimmed_of_word f.name hm rfl,
      trimmed_of_type f.type hm rfl, hmodifier]
    rfl
  refine (Reads.line hx hm hmakes hperforms (fun _ => rfl) ⟨rfl, rfl⟩ (by decide)
    hrest).mono ?_
  rintro _ y ⟨hy, hhost⟩
  exact ⟨hy, hhost ▸ hid⟩

lemma reading_classStart {name base : Identifier}
    (hx : At doc stack "INITIAL" error ((['C', 'C', 'L', 'A', 'S', 'S', '('] ++ name.chars ++ [',', ' '] ++
      base.chars ++ [')']) ++ '\n' :: rest) x) (hrest : Solid rest) :
    Reads atEnd x (openClass doc none name.text base.text) fun id y =>
      At doc (stack ++ ["INITIAL"]) "CCLASS" error rest y ∧ y.host.currentClass = some id := by
  obtain ⟨m, hm⟩ := exists_picks "INITIAL" [] (finds_startClass name base ('\n' :: rest)) rfl
    (prefix_starting ("INITIAL", initialRules) (by simp [stateRules]) ⟨_, rfl⟩) (by simp)
  have hmakes : Makes Table.startClass (.enter "CCLASS" (some "CCLASS_START")) :=
    makes_of_mem (by simp [ruleMoves, rules])
  have hmodifier : m.group? 1 = none := by
    rw [hm.group?]
    rfl
  have hperforms : Performs m ["CCLASS_START"] x.host (openClass doc none name.text base.text)
      fun id => { x.host with currentClass := some id } := by
    refine performs_of_modify (f := fun id h => { h with currentClass := some id }) (fun _ _ _ => rfl)
      rfl fun y hy => ?_
    rw [effect_startClass, hy, hx.comment, hmodifier, trimmed_of_word name hm rfl,
      trimmed_of_word base hm rfl]
  refine (Reads.line hx hm hmakes hperforms (fun _ => rfl) ⟨rfl, rfl⟩ (by decide)
    hrest).mono ?_
  rintro id y ⟨hy, hhost⟩
  exact ⟨hy, hhost ▸ rfl⟩

lemma reading_classEnd {ds : List Declaration}
    (hx : At doc (stack ++ ["INITIAL"]) "CCLASS" error
      (['E', 'N', 'D', '_', 'C', 'C', 'L', 'A', 'S', 'S'] ++ '\n' :: ds.flatMap Declaration.chars) x)
    (hrest : Solid (ds.flatMap Declaration.chars)) :
    Reads atEnd x (Pure.pure ()) fun _ y =>
      At doc stack "INITIAL" error (ds.flatMap Declaration.chars) y := by
  obtain ⟨m, hm⟩ := exists_picks "CCLASS" [Table.startMethod, classAttribute]
    (finds_endClass ('\n' :: ds.flatMap Declaration.chars)) rfl
    (prefix_starting ("CCLASS", classRules) (by simp [stateRules]) ⟨_, rfl⟩)
    (by simpa using match?_endClass ds)
  have hmakes : Makes Table.endClass (.finish "END_CCLASS") := makes_of_mem (by simp [ruleMoves, rules])
  have hperforms : Performs m ["END_CCLASS"] x.host (Pure.pure ())
      fun _ => { x.host with currentClass := none } :=
    performs_of_modify (f := fun _ h => { h with currentClass := none }) (fun _ _ _ => rfl) rfl
      fun y _ => effect_endClass y
  exact (Reads.line hx hm hmakes hperforms (fun _ => rfl) rfl (by decide) hrest).mono
    fun _ y hy => hy.1

lemma solid_memberLine (cls : Identifier) (m : Canonical.Member) (rest : List Char) :
    Solid (m.line cls ++ rest) := by
  cases m with
  | field f plain =>
    rw [Member.line, Field.chars, List.append_assoc, List.append_assoc]
    exact f.type.stops lacksWords_blank _
  | method returns plain name args =>
    simp only [Member.line, List.append_assoc]
    exact returns.stops lacksWords_blank _

lemma reading_class {name base : Identifier} {members : List Canonical.Member} {ds : List Declaration}
    (hx : At doc stack "INITIAL" error
      ((Declaration.class_ name base members).chars ++ ds.flatMap Declaration.chars) x)
    (hrest : Solid (ds.flatMap Declaration.chars)) :
    Reads atEnd x ((Declaration.class_ name base members).declare doc) fun _ y =>
      At doc stack "INITIAL" error (ds.flatMap Declaration.chars) y := by
  have htext : (Declaration.class_ name base members).chars ++ ds.flatMap Declaration.chars =
      (['C', 'C', 'L', 'A', 'S', 'S', '('] ++ name.chars ++ [',', ' '] ++ base.chars ++ [')']) ++ '\n' ::
        (members.flatMap (Member.line name) ++
          (['E', 'N', 'D', '_', 'C', 'C', 'L', 'A', 'S', 'S'] ++ '\n' :: ds.flatMap Declaration.chars)) := by
    simp [Declaration.chars]
  rw [htext] at hx
  have hline : ∀ m rest, Solid rest → Solid (Member.line name m ++ rest) :=
    fun m rest _ => solid_memberLine name m rest
  have hend : Solid (['E', 'N', 'D', '_', 'C', 'C', 'L', 'A', 'S', 'S'] ++ '\n' ::
      ds.flatMap Declaration.chars) := stops_cons (by decide)
  refine (reading_classStart hx (forall_flatMap hline hend members)).bind fun id y hy => ?_
  refine (Reads.lines (P := fun rest y => At doc _ "CCLASS" error rest y ∧ y.host.currentClass = some id)
    hline (fun m rest x hrest hx => ?_) hend members hy).andThen fun _ z hz => ?_
  · cases m with
    | field f plain => exact reading_classField hx.1 hx.2 hrest
    | method returns plain name args => exact reading_method hx.1 hx.2 hrest
  · exact reading_classEnd hz.1 hrest

/-! ### Headers -/

lemma solid_chars (d : Declaration) (rest : List Char) : Solid (d.chars ++ rest) := by
  cases d <;> exact stops_cons (by decide)

lemma solid_flatMap_chars (ds : List Declaration) : Solid (ds.flatMap Declaration.chars) := by
  cases ds with
  | nil =>
    rintro c ⟨⟩
  | cons d ds =>
    rw [List.flatMap_cons]
    exact solid_chars d _

/-- Reading a declaration declares it. -/
lemma reading_declaration {ds : List Declaration} (d : Declaration)
    (hx : At doc stack "INITIAL" error (d.chars ++ ds.flatMap Declaration.chars) x) :
    Reads atEnd x (d.declare doc) fun _ y =>
      At doc stack "INITIAL" error (ds.flatMap Declaration.chars) y := by
  have hrest := solid_flatMap_chars ds
  cases d with
  | constant => exact reading_constant hx hrest
  | enumeration => exact reading_enumeration hx hrest
  | struct => exact reading_struct hx hrest
  | class_ => exact reading_class hx hrest

/-- Reading a header declares what stands in it, one after the other. -/
lemma reading_header (ds : List Declaration)
    (hx : At doc stack "INITIAL" error (ds.flatMap Declaration.chars) x) :
    Reads atEnd x (declareAll doc ds) fun _ y => At doc stack "INITIAL" error [] y := by
  induction ds generalizing x with
  | nil => exact .pure hx
  | cons d ds ih =>
    rw [List.flatMap_cons] at hx
    exact (reading_declaration d hx).bind fun _ y hy => ih hy

/-- Feed a text to a reader, and ask for all tokens. -/
def read (atEnd : Bool) (text : String) : Act HeaderReader (List String × Option Fault) := do
  Lexer.feed text.toUTF8
  drain callbacks atEnd

lemma effect_read (atEnd : Bool) (text : String) (x : HeaderReader) :
    (read atEnd text).effect x = (drain callbacks atEnd).effect (fed text x) :=
  Act.effect_bind_of_ok (effect_feed text x)

/-- Reading a canonical header outside of all blocks declares what stands in it. -/
theorem read_printed (ds : List Declaration) (atEnd : Bool) (x : HeaderReader)
    (hrows : x.rows = rules.map .rule) (hstate : x.state = "INITIAL") (hahead : x.ahead = []) :
    (declareAll x.host.comment ds).Ends x.host.binding
      (fun _ b => ∃ tokens y, (read atEnd (printed ds)).effect x = (.ok (tokens, none), y) ∧
        y.host.binding = b ∧ y.state = "INITIAL" ∧ y.stack = x.stack ∧ y.ahead = [] ∧
          y.error = x.error)
      (fun f b => ∃ tokens y, (read atEnd (printed ds)).effect x = (.ok (tokens, some f), y) ∧
        y.host.binding = b) := by
  have htext : (fed (printed ds) x).ahead = ds.flatMap Declaration.chars := by
    simp [fed, hahead, printed]
  have hx : At x.host.comment x.stack "INITIAL" x.error (ds.flatMap Declaration.chars)
      (fed (printed ds) x) := ⟨hrows, rfl, rfl, hstate, rfl, htext⟩
  have hread : Reads atEnd _ (declareAll x.host.comment ds) _ := reading_header ds hx
  have hdrain := hread.effect_drain hrows fun _ y hy =>
    nextToken_of_nil hy.rows consuming_rules hy.ahead atEnd
  simp only [effect_read]
  refine hdrain.mono ?_ fun _ _ h => h
  rintro _ b ⟨tokens, y, hdrain, hb, hy⟩
  exact ⟨tokens, y, hdrain, hb, hy.state, hy.stack, hy.ahead, hy.error⟩

/-! ### A header that is read, and one that is not -/

/-- A word, where a text is one. -/
def word (s : String) (h : s.toList ≠ [] ∧ ∀ c ∈ s.toList, wordSet.holds c) : Identifier :=
  ⟨s.toList, h.1, h.2⟩

/-- A field whose type is a word. -/
def wordField (type name : Identifier) : Field :=
  ⟨{ first := type, stars_le := Nat.zero_le 1 }, name⟩

/-- A header with a constant, a struct with an array in it, and a class with a method. -/
def sampleHeader : List Declaration :=
  [.constant (word "LIMIT" (by decide)) ⟨['7'], by decide, by decide, by decide⟩,
    .struct [(wordField (word "int" (by decide)) (word "x" (by decide)), some (word "LIMIT" (by decide)))]
      (word "Point" (by decide)),
    .class_ (word "A" (by decide)) (word "Object" (by decide))
      [.method { first := word "int" (by decide), stars_le := Nat.zero_le 1 }
        (by unfold TypeName.IsPlain; decide) (word "get" (by decide))
        [⟨{ first := word "char" (by decide), stars := 1, stars_le := by decide },
          word "name" (by decide)⟩]]]

theorem read_sampleHeader :
    ∃ tokens y, (read true (printed sampleHeader)).effect unread = (.ok (tokens, none), y) ∧
      y.host.binding.index.keys = [some "Point", some "A"] ∧ y.state = "INITIAL" ∧ y.stack = [] ∧
      y.ahead = [] ∧ y.error = 0 := by
  obtain ⟨hok, hkeys⟩ : ((declareAll "" sampleHeader).effect unread.host.binding).1 = .ok () ∧
      ((declareAll "" sampleHeader).effect unread.host.binding).2.index.keys = [some "Point", some "A"] := by
    decide +kernel
  obtain ⟨b, hdeclared⟩ := Act.exists_effect_eq_ok hok
  rw [hdeclared] at hkeys
  obtain ⟨tokens, y, hread, rfl, hstate, hstack, hahead, herror⟩ :=
    (read_printed sampleHeader true unread rfl rfl rfl).ok hdeclared
  exact ⟨tokens, y, hread, hkeys, hstate, hstack, hahead, herror⟩

/-- A struct with a field of a type that is known but of which there is no field. -/
def tdbStruct : Declaration :=
  .struct [(wordField (word "TDB_DATA" (by decide)) (word "x" (by decide)), none)] (word "N" (by decide))

/-- Reading breaks off within the struct. -/
theorem not_read_tdbStruct :
    ∃ tokens y, (read true (printed [tdbStruct])).effect unread = (.ok (tokens, some .badArgument), y) ∧
      y.state = "STRUCT" ∧ y.stack ≠ unread.stack ∧ y.ahead ≠ [] := by
  have hfails : (((read true (printed [tdbStruct])).effect unread).1.toOption.map Prod.snd =
        some (some .badArgument)) ∧
      ((read true (printed [tdbStruct])).effect unread).2.state = "STRUCT" ∧
      ((read true (printed [tdbStruct])).effect unread).2.stack ≠ unread.stack ∧
      ((read true (printed [tdbStruct])).effect unread).2.ahead ≠ [] := by
    decide +kernel
  rcases he : (read true (printed [tdbStruct])).effect unread with ⟨_ | ⟨tokens, f⟩, y⟩ <;>
    rw [he] at hfails
  · cases hfails.1
  · obtain rfl : f = some .badArgument := Option.some.inj hfails.1
    exact ⟨tokens, y, rfl, hfails.2⟩

end HeaderReader

end HeaderBind
