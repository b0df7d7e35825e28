import HeaderBind.Proofs.Header.Comments
import HeaderBind.Proofs.Header.Flattening

/-!
# Docstrings

A class or a method is given the comment that was read so far as its docstring. Blanks between a comment
and the declaration detach the comment only if it ends with its line and the next line is empty. The mark
that closes a block comment is taken with all blanks behind it, so no empty line is seen there
(`docstring_free_iff`).
-/

namespace HeaderBind

namespace Header.Table

open Pattern

/-- A comment up to the end of its line. -/
lemma finds_lineComment {t : List Char} (hne : t ≠ []) (ht : '\n' ∉ t) (rest : List Char) :
    ∃ m, lineComment.pattern.Finds ('/' :: '/' :: t) ('\n' :: rest) [(1, t)] m := by
  apply exists_finds
  simp only [lineComment, everywhere, run_inOrder_cons, run_inOrder_nil, run_group, List.cons_append]
  refine .of (fun _ => run_char rfl) ?_
  refine .of (fun _ => run_char rfl) ?_
  refine .of (fun _ => run_plus (t := t) rfl hne (fun _ => holds_inLine ht) (stops_cons (by decide))) ?_
  refine ⟨_, rfl, ?_, ?_⟩
  · simp [Cursor.past, Cursor.close]
    omega
  · simp [Cursor.past, Cursor.close, Span.chars]

end Header.Table

namespace Declaring

/-- A class is given a docstring when it is opened. -/
lemma ends_openClass_doc {b : Binding} (h : b.Sound) (doc : String) (modifier : Option String)
    (name base : String) :
    (openClass doc modifier name base).Ends b (fun id b' => (b'.classAt id).doc = doc) fun _ _ => True := by
  refine (ends_baseClass h name base).bind ?_
  rintro id b' hopens
  refine .bind_of_ok (effect_announceClass id doc modifier name b') (.pure ?_)
  have hclass : (announced b' id doc modifier name).classAt id =
      { b'.classAt id with doc }.addModifier modifier :=
    Binding.classAt_withClass hopens.known
  rw [hclass]
  rfl

end Declaring

namespace HeaderReader

open Lexer Header.Table Pattern Declaring

variable {atEnd : Bool} {doc : String} {stack : List String} {state : String} {error : Int}
  {d w : List Char} {x y z : HeaderReader} {token : Option String} {r : Rule} {m : Match}

/-! ### Comments -/

/-- A comment with its text: up to the end of the line, or between two marks. -/
inductive Comment where
  | line (text : List Char) (ne_nil : text ≠ []) (in_line : '\n' ∉ text)
  | block (text : List Char) (open_ : ¬ ['*', '/'] <:+: text)

namespace Comment

/-- How the comment is written. -/
def chars : Comment → List Char
  | line text _ _ => '/' :: '/' :: text
  | block text _ => '/' :: '*' :: (text ++ ['*', '/'])

/-- What is kept of the comment. -/
def kept : Comment → List Char
  | line text _ _ => text ++ ['\n']
  | block text _ => text.drop 1

/-- Blanks can follow the comment: it ends with its line, or at a mark with a blank behind it. -/
def EndsBefore : Comment → List Char → Prop
  | line _ _ _, w => w.head? = some '\n'
  | block _ _, w => w ≠ []

/-- Reading gets past the comment. -/
def IsPassed : Comment → Prop
  | line _ _ _ => True
  | block text _ => Closable text

/-- Blanks behind the comment detach it from what comes then. -/
def DetachedBy : Comment → List Char → Prop
  | line _ _ _, w => StartsEmpty w
  | block _ _, _ => False

instance (k : Comment) (w : List Char) : Decidable (k.DetachedBy w) :=
  match k with
  | line _ _ _ => inferInstanceAs (Decidable (StartsEmpty w))
  | block _ _ => inferInstanceAs (Decidable False)

/-- The comment that has been read behind a comment and blanks. -/
def docstring (k : Comment) (w : List Char) (doc : String) : String :=
  if k.DetachedBy w then "" else doc ++ String.ofList k.kept

lemma kept_ne_nil {k : Comment} (hk : k.IsPassed) : k.kept ≠ [] := by
  cases k with
  | line => simp [kept]
  | block text =>
    have hlength : 2 ≤ text.length := hk.1
    rw [kept, Ne, List.drop_eq_nil_iff]
    omega

/-- There is nothing of a comment in the docstring exactly if blanks detach it. -/
lemma free_docstring_iff {k : Comment} (hk : k.IsPassed) (w : List Char) (doc : String) :
    (∀ c ∈ k.kept, c ∉ (k.docstring w doc).toList) ↔ k.DetachedBy w := by
  rw [docstring]
  split
  next h => simp [h]
  next h =>
    obtain ⟨c, cs, hkept⟩ := List.exists_cons_of_ne_nil (kept_ne_nil hk)
    refine iff_of_false (fun hfree => hfree c ?_ ?_) h <;> simp [hkept]

end Comment

/-! ### Reading on to a declaration -/

lemma mem_states_of_openState : ∀ s ∈ openStates, s ∈ states ∧ s ≠ "COMMENT" := by
  decide

/-- A comment and the blanks behind it are passed. -/
lemma Reads.passComment (k : Comment) (hk : k.IsPassed) (hstate : state ∈ openStates)
    (hw : ∀ c ∈ w, Text.isBlank c) (hends : k.EndsBefore w) (hd : Solid d)
    (hx : At doc stack state error (k.chars ++ (w ++ d)) x) :
    Reads atEnd x (Pure.pure ()) fun _ y => At (k.docstring w doc) stack state error d y := by
  obtain ⟨hmem, hne⟩ := mem_states_of_openState state hstate
  cases k with
  | line t hnil ht =>
    obtain ⟨w, rfl⟩ : ∃ w', w = '\n' :: w' := by
      cases w with
      | nil => cases hends
      | cons c w =>
        cases hends
        exact ⟨w, rfl⟩
    have hstart : Header.Table.startComment.pattern.match? ('/' :: '/' :: t ++ ('\n' :: w ++ d)) = none :=
      match?_startComment_eq_none (by simp [OpensComment])
    obtain ⟨m, hm⟩ := exists_picks state [Header.Table.startComment] (finds_lineComment hnil ht (w ++ d))
      rfl (by rw [starting_slash state hmem hne]; exact ⟨[], rfl⟩) (by simpa using hstart)
    have hmakes : Makes lineComment (.stay "COMMENT") := makes_of_mem (by simp [ruleMoves, rules])
    have hgroup : m.group 1 = String.ofList t := by
      rw [Match.group, hm.group?]
      rfl
    have hcomment : x.host.comment ++ m.group 1 ++ "\n" = doc ++ String.ofList (t ++ ['\n']) := by
      rw [hgroup, hx.comment, String.ofList_append, String.append_assoc]
    refine (Reads.turn hx hm.pick hm.length hmakes (performs_addComment m x.host) (fun _ => hcomment) ⟨rfl, rfl⟩
      (isMove_of_mem state hmem)).skip ?_
    rintro y ⟨hy, -⟩
    exact (Reads.passBlanks hstate hw hd hy).mono fun _ z hz => hz.1
  | block b hb =>
    have htext : Comment.chars (.block b hb) ++ (w ++ d) = '/' :: '*' :: (b ++ '*' :: '/' :: (w ++ d)) := by
      simp [Comment.chars]
    rw [htext] at hx
    exact (Reads.passBlock hmem hne hb hk hends hw hd hx).mono fun _ z hz => hz.1

/-- The class or method that a rule starts has a docstring. A method that is private is skipped. -/
def Documents (r : Rule) (m : Match) (doc : String) (h h' : Header) : Prop :=
  (r = Header.Table.startClass ∧ ∃ id, h'.currentClass = some id ∧ (h'.binding.classAt id).doc = doc) ∨
    (r = Header.Table.startMethod ∧ m.group 1 = "PRIVATE" ∧ h' = h) ∨
    (r = Header.Table.startMethod ∧ m.group 1 ≠ "PRIVATE" ∧
      ∃ method, h'.currentMethod = some method ∧ method.doc = doc)

/-- The docstring of a class or a method is the comment that was read so far. -/
lemma documents_nextToken (hy : Reached y) (hpick : pick rules y.state y.ahead = some (r, m))
    (hr : r = Header.Table.startClass ∨ r = Header.Table.startMethod)
    (h : (nextToken callbacks atEnd).effect y = (.ok token, z)) :
    Documents r m y.host.comment y.host z.host := by
  have hacts := (agrees_nextToken hy.rows hy.agrees h).2
  rw [nextAction, hpick] at hacts
  rcases hr with rfl | rfl
  · obtain ⟨u, v, he, hu, hv⟩ : Acts "CCLASS_START" m y.host z.host := hacts
    obtain ⟨id, b, hopen, rfl⟩ := startClass_eq_ok he
    rw [hu] at hopen hv
    rw [← hv]
    exact .inl ⟨rfl, id, rfl, (ends_openClass_doc hy.sound.binding _ _ _ _).ok hopen⟩
  · obtain ⟨u, v, he, hu, hv⟩ : Acts "METHOD_START" m y.host z.host := hacts
    rcases startMethod_eq_ok he with ⟨hprivate, rfl⟩ | ⟨hprivate, id, method, b, -, hopen, rfl⟩
    · exact .inr (.inl ⟨rfl, hprivate, hv.symm.trans hu⟩)
    · rw [hu] at hopen hv
      rw [← hv]
      obtain ⟨rfl, -⟩ := (ends_openMethod _ _ _ _ _).ok hopen
      exact .inr (.inr ⟨rfl, hprivate, _, rfl, rfl⟩)

/-- Classes and methods start where blanks are passed over. -/
lemma openState_of_applies : ∀ s ∈ states, ∀ r ∈ [Header.Table.startClass, Header.Table.startMethod],
    r.appliesIn s → s ∈ openStates := by
  decide +kernel

lemma dropWhile_append_of_solid (hw : ∀ c ∈ w, Text.isBlank c) (hd : Solid d) :
    (w ++ d).dropWhile Text.isBlank = d := by
  rw [List.dropWhile_append_of_pos hw]
  cases d with
  | nil => rfl
  | cons c d =>
    have hc := hd c rfl
    exact List.dropWhile_cons_of_neg (by simpa [CharSet.holds, CharSet.Item.holds] using hc)

/-- A class or a method behind a comment and blanks: where reading gets past the comment, it comes to the
declaration, and gives it a docstring in which there is nothing of the comment if and only if the blanks
detach it. Where reading does not get past the comment, it does not come to the declaration. -/
theorem docstring_free_iff (hx : Reached x) (k : Comment) (hw : ∀ c ∈ w, Text.isBlank c)
    (hends : k.EndsBefore w) (hd : Solid d) (hpick : pick rules x.state d = some (r, m))
    (hr : r = Header.Table.startClass ∨ r = Header.Table.startMethod)
    (hahead : x.ahead = k.chars ++ (w ++ d)) :
    (k.IsPassed →
      (∃ y, Runs callbacks atEnd x none y ∧ y.state = x.state ∧ y.stack = x.stack ∧ y.ahead = d ∧
        ∀ token z, (nextToken callbacks atEnd).effect y = (.ok token, z) →
          Documents r m (k.docstring w x.host.comment) y.host z.host) ∧
      ((∀ c ∈ k.kept, c ∉ (k.docstring w x.host.comment).toList) ↔ k.DetachedBy w) ∧
      (k.DetachedBy w → Doc.annotations (k.docstring w x.host.comment) = [])) ∧
    (¬ k.IsPassed → ∀ y, Runs callbacks atEnd x none y → y.state = x.state → y.ahead ≠ d) := by
  have hmem : x.state ∈ states := hx.agrees.nested.mem_states
  have hopen : x.state ∈ openStates :=
    openState_of_applies x.state hmem r (by simpa using hr) (pick_eq_some hpick).2.1
  have hat : At x.host.comment x.stack x.state x.error (k.chars ++ (w ++ d)) x :=
    ⟨hx.rows, rfl, rfl, rfl, rfl, hahead⟩
  refine ⟨fun hk => ⟨?_, k.free_docstring_iff hk w _, fun hdetached => ?_⟩, fun hk y hruns hy hbehind => ?_⟩
  · have hread : Reads atEnd x _ _ := Reads.passComment k hk hopen hw hends hd hat
    obtain ⟨y, hruns, -, hy⟩ := Act.Ends.ok hread rfl
    have hreached : Reached y := hruns.invariant (fun _ _ _ hx h => hx.next h) hx
    refine ⟨y, hruns, hy.state, hy.stack, hy.ahead, fun token z hz => ?_⟩
    rw [← hy.comment]
    refine documents_nextToken hreached ?_ hr hz
    rw [hy.state, hy.ahead, hpick]
  · rw [Comment.docstring, if_pos hdetached]
    decide
  · cases k with
    | line => exact hk trivial
    | block b hb =>
      have htext : Comment.chars (.block b hb) ++ (w ++ d) = '/' :: '*' :: (b ++ '*' :: '/' :: (w ++ d)) := by
        simp [Comment.chars]
      rw [htext] at hat
      refine hk (closable_of_runs hat hmem (mem_states_of_openState _ hopen).2 hb hruns hy (.inr ?_)).1
      rw [hbehind, dropWhile_append_of_solid hw hd]

/-! ### A method with a default value -/

/-- A reader within a class, before a comment and a method with an empty line between them. -/
def beforeMethod (comment : String) : HeaderReader :=
  after 1 (fed ("CCLASS(A, Object)" ++ comment ++ "\n\nint METHOD(A, run, int n);") unread)

/-- A comment that ends with its line is detached by the empty line. -/
theorem docstring_free_line :
    ∃ y, Runs callbacks true (beforeMethod "// DEFAULT(n) = 3;") none y ∧
      y.ahead = "int METHOD(A, run, int n);".toList ∧
      ∀ token z, (nextToken callbacks true).effect y = (.ok token, z) →
        ∃ method, z.host.currentMethod = some method ∧ method.doc = "" ∧ Doc.annotations method.doc = [] := by
  have hgoes : goesOn 1 (fed ("CCLASS(A, Object)" ++ "// DEFAULT(n) = 3;" ++ "\n\nint METHOD(A, run, int n);")
      unread) = true := by
    decide +kernel
  have hx : Reached (beforeMethod "// DEFAULT(n) = 3;") :=
    (run_after hgoes).reached ((Reached.start started_unread).feed (effect_feed _ _))
  have hline : " DEFAULT(n) = 3;".toList ≠ [] ∧ '\n' ∉ " DEFAULT(n) = 3;".toList := by decide +kernel
  have hahead : (beforeMethod "// DEFAULT(n) = 3;").ahead = '/' :: '/' :: " DEFAULT(n) = 3;".toList ++
      (['\n', '\n'] ++ "int METHOD(A, run, int n);".toList) := by
    decide +kernel
  have hhead : "int METHOD(A, run, int n);".toList.head? = some 'i' := by decide +kernel
  have hsolid : Solid "int METHOD(A, run, int n);".toList := by
    intro c hc
    rw [hhead] at hc
    cases hc
    decide
  have hempty : StartsEmpty ['\n', '\n'] := by decide
  have hdetached : Comment.DetachedBy (.line _ hline.1 hline.2) ['\n', '\n'] := hempty
  have hfirst : (pick rules (beforeMethod "// DEFAULT(n) = 3;").state "int METHOD(A, run, int n);".toList).map
      (fun p => (p.1, p.2.group 1)) = some (Header.Table.startMethod, "") := by
    decide +kernel
  obtain ⟨⟨r, m⟩, hpick, hm⟩ := Option.map_eq_some_iff.mp hfirst
  obtain ⟨rfl, hgroup⟩ := Prod.mk.inj hm
  have hends : Comment.EndsBefore (.line _ hline.1 hline.2) ['\n', '\n'] := rfl
  obtain ⟨⟨y, (hruns : Runs callbacks true _ _ _), -, -, hy, hdocuments⟩, -, hnotes⟩ :=
    (docstring_free_iff hx (.line _ hline.1 hline.2) (by decide) hends hsolid hpick
      (.inr rfl) hahead).1 trivial
  have hnotes := hnotes hdetached
  rw [Comment.docstring, if_pos hdetached] at hdocuments hnotes
  refine ⟨y, hruns, hy, fun token z hz => ?_⟩
  rcases hdocuments token z hz with ⟨hclass, -⟩ | ⟨-, hprivate, -⟩ | ⟨-, -, method, hmethod, hdoc⟩
  · exact absurd hclass (by decide +kernel)
  · rw [hgroup] at hprivate
    exact absurd hprivate (by decide)
  · exact ⟨method, hmethod, hdoc, by rw [hdoc]; exact hnotes⟩

/-- A block comment is not, and gives the argument of the method a default value. -/
theorem not_docstring_free_block :
    ∃ method, (after 3 (beforeMethod "/* DEFAULT(n) = 3; */")).host.currentMethod = some method ∧
      method.doc = "DEFAULT(n) = 3; " ∧ Doc.annotations method.doc = [.default "n" " 3"] := by
  have hmethod : (after 3 (beforeMethod "/* DEFAULT(n) = 3; */")).host.currentMethod.map
      (fun method => (method.doc, Doc.annotations method.doc)) =
        some ("DEFAULT(n) = 3; ", [.default "n" " 3"]) := by
    decide +kernel
  obtain ⟨method, hsome, hdoc⟩ := Option.map_eq_some_iff.mp hmethod
  obtain ⟨hdoc, hnotes⟩ := Prod.mk.inj hdoc
  exact ⟨method, hsome, hdoc, hnotes⟩

end HeaderReader

end HeaderBind
