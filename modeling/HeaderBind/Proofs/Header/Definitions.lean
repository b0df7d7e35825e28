import HeaderBind.Proofs.Header.Passing

/-!
# Definitions without a value

A definition wants a name, blanks and something else on a line. The blanks may be line ends, so a definition
without a value takes its value from the lines below it: it swallows the blanks behind its own line and what
stands on the next line that is not blank (`drained_define`). Only where nothing but line ends is below it,
the definition comes to an end with its line.
-/

namespace HeaderBind

namespace Header.Table

open Lexer Pattern Canonical

variable {r w line rest cs : List Char}

/-! ### What is swallowed -/

/-- What a definition without a value swallows of the text below its line: blanks, and then a line up to its
end. Where all of the text is blank, the line is its last character that does not end a line. -/
structure Swallows (r w line rest : List Char) : Prop where
  eq : r = w ++ (line ++ rest)
  isBlank : ∀ c ∈ w, Text.isBlank c
  ne_nil : line ≠ []
  in_line : '\n' ∉ line
  ends : ∀ c ∈ rest.head?, c = '\n'
  most : (∀ c ∈ line.head?, Text.isBlank c = false) ∨
    (∀ c ∈ r, Text.isBlank c) ∧ line.length = 1 ∧ ∀ c ∈ rest, c = '\n'

lemma exists_last_in_line (h : ∃ c ∈ r, c ≠ '\n') :
    ∃ u c v, r = u ++ c :: v ∧ c ≠ '\n' ∧ ∀ d ∈ v, d = '\n' := by
  induction r with
  | nil => simp at h
  | cons d r ih =>
    by_cases hr : ∃ c ∈ r, c ≠ '\n'
    · obtain ⟨u, c, v, rfl, hc, hv⟩ := ih hr
      exact ⟨d :: u, c, v, rfl, hc, hv⟩
    · push Not at hr
      obtain ⟨c, hc, hne⟩ := h
      rcases List.mem_cons.mp hc with rfl | hc
      · exact ⟨[], c, r, rfl, hne, hr⟩
      · exact absurd (hr c hc) hne

/-- Something is swallowed of every text but line ends. -/
lemma exists_swallows (h : ∃ c ∈ r, c ≠ '\n') : ∃ w line rest, Swallows r w line rest := by
  by_cases hblank : ∀ c ∈ r, Text.isBlank c
  · obtain ⟨u, c, v, rfl, hc, hv⟩ := exists_last_in_line h
    refine ⟨u, [c], v, rfl, fun d hd => hblank d (by simp [hd]), by simp, by simpa using hc.symm, ?_, ?_⟩
    · exact fun d hd => hv d (List.mem_of_mem_head? hd)
    · exact .inr ⟨hblank, rfl, hv⟩
  · push Not at hblank
    have hne : r.dropWhile Text.isBlank ≠ [] := by
      obtain ⟨c, hc, hnot⟩ := hblank
      exact fun hnil => hnot (List.dropWhile_eq_nil_iff.mp hnil c hc)
    obtain ⟨c, cs, hcs⟩ := List.exists_cons_of_ne_nil hne
    have hc : Text.isBlank c = false := by
      have hhead := List.head?_dropWhile_not Text.isBlank r
      rwa [hcs] at hhead
    have hline : (c != '\n') = true := by
      rw [bne_iff_ne]
      rintro rfl
      exact absurd hc (by decide)
    refine ⟨r.takeWhile Text.isBlank, (c :: cs).takeWhile (· != '\n'), (c :: cs).dropWhile (· != '\n'),
      ?_, fun d hd => List.mem_takeWhile_imp hd, ?_, ?_, ?_, .inl ?_⟩
    · rw [List.takeWhile_append_dropWhile, ← hcs, List.takeWhile_append_dropWhile]
    · simp [hline]
    · intro hmem
      simpa using List.mem_takeWhile_imp hmem
    · intro d hd
      have hhead := List.head?_dropWhile_not (· != '\n') (c :: cs)
      rw [Option.mem_def.mp hd] at hhead
      simpa using hhead
    · simp [hline, hc]

/-! ### Definitions in the table -/

/-- The blanks in front of what is swallowed are taken. Where all of the text is blank they are given back
up to the last character that does not end a line. -/
lemma Swallows.run_blanks {k e : Cursor} {onward : Onward} (h : Swallows r w line rest)
    (hk : k.rest = '\n' :: (w ++ (line ++ rest)))
    (hline : (plus inLine).run (k.past ('\n' :: w) (line ++ rest)) onward = some e) :
    (plus blank).run k (fun k' => (plus inLine).run k' onward) = some e := by
  have hw : ∀ c ∈ '\n' :: w, CharSet.holds ⟨false, [.blank]⟩ c := by
    rw [List.forall_mem_cons]
    exact ⟨by decide, fun c hc => by simpa [CharSet.holds, CharSet.Item.holds] using h.isBlank c hc⟩
  rcases h.most with hsolid | ⟨hall, hone, hends⟩
  · refine run_plus (t := '\n' :: w) hk (List.cons_ne_nil _ _) hw (fun c hc => ?_) hline
    obtain ⟨d, line, rfl⟩ := List.exists_cons_of_ne_nil h.ne_nil
    cases hc
    simpa [CharSet.holds, CharSet.Item.holds] using hsolid c rfl
  · obtain ⟨c, rfl⟩ := List.length_eq_one_iff.mp hone
    have hk : k.rest = '\n' :: w ++ (c :: rest ++ []) := by simpa using hk
    refine run_plus_back hk
      (List.cons_ne_nil _ _) (fun d hd => ?_) (fun d hd => absurd hd (Option.not_mem_none d))
      (fun v₁ v₂ hv hne => ?_) (by simpa using hline)
    · rcases List.mem_append.mp hd with hd | hd
      · exact hw d hd
      · have hblank := hall d (by rw [h.eq]; exact List.mem_append_right w hd)
        simpa [CharSet.holds, CharSet.Item.holds] using hblank
    · obtain ⟨d, v₁, rfl⟩ := List.exists_cons_of_ne_nil hne
      obtain ⟨rfl, rfl⟩ := List.cons.inj hv
      refine run_eq_none (by decide) fun d hd => ?_
      have hmem : d ∈ v₂ := by simpa [Cursor.past] using List.mem_of_mem_head? hd
      rw [hends d (List.mem_append_right v₁ hmem)]
      decide

/-- A definition without a value finds one in the lines below. -/
lemma Swallows.finds_defineConstant (h : Swallows r w line rest) (i : Identifier) :
    ∃ m, defineConstant.pattern.Finds (i.chars ++ '\n' :: (w ++ line)) rest [(1, i.chars)] m := by
  apply exists_finds
  simp only [List.append_assoc, List.cons_append, defineConstant, inState, run_inOrder_cons, run_inOrder_nil,
    run_group]
  refine .of (fun _ => run_identifier i rfl (hasWords_within (by simp)) (stops_cons (by decide))) ?_
  refine .of (fun _ => h.run_blanks rfl) ?_
  refine .of (fun _ => run_plus (t := line) rfl h.ne_nil (fun _ => holds_inLine h.in_line) fun c hc => ?_) ?_
  · rw [h.ends c hc]
    decide
  refine ⟨_, rfl, ?_, ?_⟩
  · simp [Cursor.past, Cursor.close]
    omega
  · simp [Cursor.past, Cursor.close, Span.chars]

/-- Above nothing but line ends, a definition does not find a value. -/
lemma match?_defineConstant_eq_none {n : List Char} (hn : ∀ c ∈ n, wordSet.holds c) (hr : ∀ c ∈ r, c = '\n') :
    defineConstant.pattern.match? (n ++ '\n' :: r) = none := by
  apply match?_eq_none
  rintro t rest hcs ha
  obtain ⟨t₁, t, rfl, -, ha⟩ := ha.exists_cons
  obtain ⟨t₂, t₃, rfl, h₂, h₃⟩ := ha.exists_cons
  obtain ⟨hne₂, hblank⟩ := holds_of_accepts_plus h₂
  obtain ⟨hne₃, hline⟩ := holds_of_accepts_plus h₃
  obtain ⟨b, t₂, rfl⟩ := List.exists_cons_of_ne_nil hne₂
  obtain ⟨c, t₃, rfl⟩ := List.exists_cons_of_ne_nil hne₃
  -- The line starts within the name, since there are only line ends below it.
  have hc : c ∉ '\n' :: r := by
    intro hmem
    have heq : c = '\n' := by
      rcases List.mem_cons.mp hmem with rfl | hmem
      · rfl
      · exact hr c hmem
    have hholds := hline c List.mem_cons_self
    rw [heq] at hholds
    exact absurd hholds (by decide)
  rw [List.append_assoc, List.append_eq_append_iff] at hcs
  rcases hcs with ⟨v, rfl, hv⟩ | ⟨v, rfl, hv⟩
  · exact hc (by rw [hv]; simp)
  · rcases v with _ | ⟨d, v⟩
    · rw [List.nil_append] at hv
      exact hc (by rw [← hv]; simp)
    · obtain ⟨rfl, -⟩ := List.cons.inj hv
      have hword := lacks_of_word lacksWords_blank (hn b (by simp))
      rw [hblank b List.mem_cons_self] at hword
      cases hword

/-- Above nothing but line ends, no rule is for the name of a definition. -/
lemma pick_define_eq_none {n : List Char} (hne : n ≠ []) (hn : ∀ c ∈ n, wordSet.holds c)
    (hr : ∀ c ∈ r, c = '\n') : pick rules "DEFINE" (n ++ '\n' :: r) = none := by
  have hmatch := match?_defineConstant_eq_none hn hr
  obtain ⟨c, n, rfl⟩ := List.exists_cons_of_ne_nil hne
  have hstarting : starting "DEFINE" c ⊆ [defineConstant] :=
    starting_subset_of_word (defineRules, [defineConstant], [defineConstant]) (by simp [stateRules])
      (by simp [wordRules]) (hn c List.mem_cons_self)
  exact pick_eq_none [defineConstant] hstarting (List.forall_mem_singleton.mpr hmatch)

end Header.Table

namespace HeaderReader

open Lexer Header.Table Canonical Pattern

variable {doc : String} {stack : List String} {error : Int} {r n w line rest : List Char} {x y : HeaderReader}

/-! ### Reading definitions -/

/-- A definition without a value, up to the end of its line. -/
def valueless (i : Identifier) : List Char :=
  ['#', 'd', 'e', 'f', 'i', 'n', 'e', ' '] ++ (i.chars ++ ['\n'])

/-- Above nothing but line ends, the name of a definition is given up character by character. -/
lemma Reads.giveUpName (hn : ∀ c ∈ n, wordSet.holds c) (hr : ∀ c ∈ r, c = '\n')
    (hx : At doc stack "DEFINE" error (n ++ '\n' :: r) x) :
    Reads true x (Pure.pure ()) fun _ y =>
      (∃ error, At doc stack "DEFINE" error ('\n' :: r) y) ∧ y.host = x.host := by
  induction n generalizing x error with
  | nil => exact .pure ⟨⟨error, hx⟩, rfl⟩
  | cons c n ih =>
    refine (Reads.giveUp hx (pick_define_eq_none (List.cons_ne_nil c n) hn hr)).skip ?_
    rintro y ⟨hy, hhost⟩
    rw [← hhost]
    exact ih (fun d hd => hn d (List.mem_cons_of_mem c hd)) hy

/-- Above nothing but line ends, a definition without a value is passed with its line. -/
lemma Reads.passValueless {i : Identifier} (hr : ∀ c ∈ r, c = '\n')
    (hx : At doc stack "INITIAL" error (valueless i ++ r) x) :
    Reads true x (Pure.pure ()) fun _ y =>
      (∃ error, At doc stack "INITIAL" error r y) ∧ y.host = { x.host with binding := y.host.binding } := by
  have htext : valueless i ++ r =
      ['#', 'd', 'e', 'f', 'i', 'n', 'e', ' '] ++ (i.chars ++ '\n' :: r) := by
    simp [valueless]
  rw [htext] at hx
  refine (Reads.enterDefine hx).skip ?_
  rintro y ⟨hy, hhost⟩
  refine (Reads.giveUpName i.isWord hr hy).skip ?_
  rintro z ⟨⟨error, hz⟩, hsame⟩
  obtain ⟨m, hm⟩ : ∃ m, Picks "DEFINE" defineLineEnd ['\n'] r [] m :=
    exists_picks "DEFINE" [] (exists_finds ⟨_, rfl, rfl, rfl⟩) rfl
      (prefix_starting ("DEFINE", defineRules) (by simp [stateRules]) ⟨_, rfl⟩) (by simp)
  have hmakes : Makes defineLineEnd (.leave none) := makes_of_mem (by simp [ruleMoves, rules])
  refine (Reads.step hz hm.pick hm.length hmakes (performs_nil m z.host) (fun _ => rfl) rfl (by decide)).mono ?_
  rintro _ u ⟨hu, hlast⟩
  refine ⟨⟨error, hu⟩, ?_⟩
  rw [hlast, hsame, hhost]

/-- Otherwise a definition without a value takes one from the lines below. -/
lemma Reads.swallow {i : Identifier} (h : Swallows r w line rest)
    (hx : At doc stack "INITIAL" error (valueless i ++ r) x) :
    Reads true x (Act.update (constantIn i.text (String.ofList (i.chars ++ '\n' :: (w ++ line)))))
      fun _ y => At doc stack "INITIAL" error rest y ∧ y.host = { x.host with binding := y.host.binding } := by
  have htext : valueless i ++ r = ['#', 'd', 'e', 'f', 'i', 'n', 'e', ' '] ++
      (i.chars ++ ('\n' :: (w ++ line) ++ rest)) := by
    simp [valueless, h.eq]
  rw [htext] at hx
  refine (Reads.enterDefine hx).skip ?_
  rintro y ⟨hy, hhost⟩
  rw [← List.append_assoc] at hy
  obtain ⟨m, hm⟩ := exists_picks_of_word [] i (h.finds_defineConstant i) rfl onWords_define (by simp)
  have hmakes : Makes Header.Table.defineConstant (.finish "DEFINE") := makes_of_mem (by simp [ruleMoves, rules])
  have hperforms : Performs m ["DEFINE"] y.host
      (Act.update (constantIn i.text (String.ofList (i.chars ++ '\n' :: (w ++ line))))) fun _ => y.host := by
    refine performs_of_onBinding rfl fun z _ => ?_
    rw [effect_defineConstant, trimmed_of_word i hm rfl, hm.text]
    rfl
  refine (Reads.step hy hm.pick hm.length hmakes hperforms (fun _ => rfl) rfl (by decide)).mono ?_
  rintro _ z ⟨hz, hsame⟩
  refine ⟨hz, ?_⟩
  rw [hsame, hhost]

/-! ### What draining leads to -/

/-- What asking for all tokens leads to: the fault that ended it, if one did, what was read, and the
states. -/
def drained (x : HeaderReader) : Option (Option Fault) × Header × String × List String :=
  let ended := (drain callbacks true).effect x
  (ended.1.toOption.map Prod.snd, ended.2.host, ended.2.state, ended.2.stack)

lemma drained_of_calls {n : Nat} {f : Option Fault} (hx : x.rows = rules.map .rule)
    (h : Calls callbacks true x n f y) : drained x = (some f, y.host, y.state, y.stack) := by
  obtain ⟨tokens, hdrain⟩ := h.effect_drain (h.le_length hx consuming_rules keepText_callbacks)
  rw [drained, hdrain]
  rfl

lemma drained_of_nil (hx : x.rows = rules.map .rule) (hnil : x.ahead = []) :
    drained x = (some none, x.host, x.state, x.stack) :=
  drained_of_calls hx (.done (nextToken_of_nil hx consuming_rules hnil true) rfl)

/-- Reading on does not change what draining leads to. -/
lemma drained_of_runs (hx : x.rows = rules.map .rule) (h : Runs callbacks true x none y) :
    drained x = drained y := by
  have hy : y.rows = rules.map .rule := by
    refine h.invariant (I := fun z => z.rows = rules.map .rule) (fun z z' token hz hstep => ?_) hx
    rw [← hz, ← rows_nextToken hz true, hstep]
  obtain ⟨n, f, z, hcalls, -⟩ := exists_calls hy consuming_rules keepText_callbacks
  obtain ⟨n', hcalls'⟩ := h.exists_calls_of_calls hcalls
  rw [drained_of_calls hx hcalls', drained_of_calls hy hcalls]

/-- Draining nothing but blanks. -/
lemma drained_blanks (hw : ∀ c ∈ w, Text.isBlank c) (hx : At doc stack "INITIAL" error w x) :
    drained x = (some none, { x.host with comment := commentAfter w doc }, "INITIAL", stack) := by
  rw [← List.append_nil w] at hx
  have hread : Reads true x _ _ := Reads.passBlanks (by decide) hw (by rintro _ ⟨⟩) hx
  obtain ⟨y, hruns, hb, hy, hhost⟩ := Act.Ends.ok hread rfl
  rw [drained_of_runs hx.rows hruns, drained_of_nil hy.rows hy.ahead, hhost, hb, hy.state, hy.stack]
  rfl

/-- A line end more makes a difference to the comment only before exactly one. -/
lemma commentAfter_cons_iff (hr : ∀ c ∈ r, c = '\n') (doc : String) :
    commentAfter r doc = commentAfter ('\n' :: r) doc ↔ (r = ['\n'] → doc = "") := by
  have hempty : ∀ cs, commentAfter ('\n' :: '\n' :: cs) doc = "" := fun cs =>
    if_pos ⟨['\n', '\n'], by decide, ⟨cs, rfl⟩⟩
  have hnone : commentAfter [] doc = doc := if_neg (by decide)
  have hone : commentAfter ['\n'] doc = doc := if_neg (by decide)
  rcases r with _ | ⟨c, _ | ⟨d, r⟩⟩
  · simp [hnone, hone]
  · obtain rfl := hr c List.mem_cons_self
    simp [hone, hempty]
  · obtain rfl := hr c List.mem_cons_self
    obtain rfl := hr d (by simp)
    simp [hempty]

/-- A definition without a value. Above nothing but line ends, draining it leads to what draining the line end
behind it and the rest does, unless exactly one line end follows and there is a comment. Above anything else,
the definition swallows a part of the text below its line, which is not read then: the name is defined to be
what was swallowed, and reading goes on behind it. -/
theorem drained_define (hrows : x.rows = rules.map .rule) (hstate : x.state = "INITIAL") (i : Identifier)
    (r : List Char) :
    ((∀ c ∈ r, c = '\n') →
      (drained { x with ahead := valueless i ++ r } = drained { x with ahead := '\n' :: r } ↔
        (r = ['\n'] → x.host.comment = ""))) ∧
    ((∃ c ∈ r, c ≠ '\n') → ∃ w line rest y, Swallows r w line rest ∧
      Runs callbacks true { x with ahead := valueless i ++ r } none y ∧
      At x.host.comment x.stack "INITIAL" x.error rest y ∧
      y.host = { x.host with
        binding := constantIn i.text (String.ofList (i.chars ++ '\n' :: (w ++ line))) x.host.binding } ∧
      drained { x with ahead := valueless i ++ r } = drained y) := by
  have hat : ∀ cs, At x.host.comment x.stack "INITIAL" x.error cs { x with ahead := cs } :=
    fun cs => ⟨hrows, rfl, rfl, hstate, rfl, rfl⟩
  constructor
  · intro hr
    have hblank : ∀ c ∈ r, Text.isBlank c := by
      intro c hc
      rw [hr c hc]
      decide
    obtain ⟨y, hruns, hb, ⟨error, hy⟩, hhost⟩ := Act.Ends.ok (Reads.passValueless (i := i) hr (hat _)) rfl
    have hhost : y.host = x.host := by
      rw [hhost, hb]
      rfl
    have hbelow : ∀ c ∈ '\n' :: r, Text.isBlank c := List.forall_mem_cons.mpr ⟨by decide, hblank⟩
    rw [drained_of_runs (hat _).rows hruns, drained_blanks hblank hy, drained_blanks hbelow (hat _), hhost,
      ← commentAfter_cons_iff hr x.host.comment]
    simp
  · intro hr
    obtain ⟨w, line, rest, hswallows⟩ := exists_swallows hr
    obtain ⟨y, hruns, hb, hy, hhost⟩ := Act.Ends.ok (Reads.swallow hswallows (hat _)) rfl
    refine ⟨w, line, rest, y, hswallows, hruns, hy, ?_, drained_of_runs (hat _).rows hruns⟩
    rw [hhost, hb]
    rfl

/-! ### An include guard -/

/-- The name of a guard. -/
def guardName : Identifier :=
  ⟨['F', 'O', 'O', 'B', 'A', 'R', '_', 'H'], by decide, by decide⟩

/-- The line below a guard is swallowed, and the guard becomes a constant. -/
theorem drained_define_guard :
    ∃ w line rest y, Swallows "CCLASS(A, Object)\nEND_CCLASS\n".toList w line rest ∧
      Runs callbacks true { unread with
        ahead := valueless guardName ++ "CCLASS(A, Object)\nEND_CCLASS\n".toList } none y ∧
      y.ahead = rest ∧ y.host.binding.constants.map Prod.fst = ["FOOBAR_H"] := by
  have hmem : ∃ c ∈ "CCLASS(A, Object)\nEND_CCLASS\n".toList, c ≠ '\n' := by decide +kernel
  obtain ⟨w, line, rest, y, hswallows, hruns, hy, hhost, -⟩ :=
    (drained_define (x := unread) rfl rfl guardName _).2 hmem
  refine ⟨w, line, rest, y, hswallows, hruns, hy.ahead, ?_⟩
  have hname : isConstantName unread.host.binding.denylist guardName.text = true := by decide +kernel
  rw [hhost]
  simp only [constantIn, hname, if_true]
  rfl

/-- Without the guard the line is read, and declares a class. -/
theorem not_drained_define_guard :
    drained { unread with ahead := valueless guardName ++ "CCLASS(A, Object)\nEND_CCLASS\n".toList } ≠
      drained { unread with ahead := '\n' :: "CCLASS(A, Object)\nEND_CCLASS\n".toList } := by
  intro heq
  have hkeys := congrArg (fun ended => ended.2.1.binding.index.keys) heq
  revert hkeys
  decide +kernel

end HeaderReader

end HeaderBind
