import HeaderBind.Proofs.Binding.Settled
import HeaderBind.Proofs.Release.Failure
import HeaderBind.Proofs.Release.Rules

/-!
# Stamping files twice

Stamping replaces every version and every time in the files that carry them, and keeps all else. What it leads to
carries the new version and the new time wherever there is one, so that stamping once more changes nothing
(`stampFiles_twice`).
-/

namespace HeaderBind.Release

open Pattern Workshop

variable {S : Swap} {r : Rule} {rules : List Rule} {clock : Clock} {text text' : String} {c : Char}
  {cs ds : List Char} {w w' : Workshop}

/-! ### What rules replace -/

/-- What the pattern of a rule matches gives way to what its replacement makes of the match. -/
def Rule.Replaces (r : Rule) : Swap := fun old new rest =>
  ∃ t, Template.read r.groups r.replacement = .ok t ∧ Replaced r.pattern t.expand old new rest

/-- A text after rules, one after the other: what their patterns match is replaced wherever they match, and all
else is kept. -/
inductive Rewritten : List Rule → List Char → List Char → Prop where
  | nil (cs : List Char) : Rewritten [] cs cs
  | cons {r : Rule} {rules : List Rule} {cs ds es : List Char} (h : Edits r.Replaces (Untouched r.Replaces) cs ds)
      (hs : Rewritten rules ds es) : Rewritten (r :: rules) cs es

/-- The replacement of a rule can be read, and its pattern tells what gives way. -/
def Rule.Does (r : Rule) (S : Swap) : Prop :=
  ∃ t, Template.read r.groups r.replacement = .ok t ∧ Tells r.pattern t.expand S

lemma Rule.Does.replaces_eq (h : r.Does S) : r.Replaces = S := by
  obtain ⟨t, ht, htells⟩ := h
  rw [← htells.replaced_eq]
  ext old new rest
  simp [Replaces, ht]

lemma Rule.Does.exists_apply (h : r.Does S) (text : String) :
    ∃ text', r.apply text = .ok text' ∧ Edits S (Untouched S) text.toList text'.toList := by
  obtain ⟨t, ht, htells⟩ := h
  refine ⟨r.pattern.replaceAll t.expand text, ?_, ?_⟩
  · rw [Rule.apply, substitute, ht]
    rfl
  · rw [replaceAll, String.toList_ofList]
    exact htells.edits _ _

lemma exists_rewritten (h : ∀ r ∈ rules, ∃ S, r.Does S) (text : String) :
    ∃ text', rules.foldlM Rule.apply text = .ok text' ∧ Rewritten rules text.toList text'.toList := by
  induction rules generalizing text with
  | nil => exact ⟨text, rfl, .nil _⟩
  | cons r rules ih =>
    rw [List.forall_mem_cons] at h
    obtain ⟨⟨S, hr⟩, hrules⟩ := h
    obtain ⟨text₁, happly, hedits⟩ := hr.exists_apply text
    obtain ⟨text', hfold, hrewritten⟩ := ih hrules text₁
    refine ⟨text', ?_, .cons (hr.replaces_eq ▸ hedits) hrewritten⟩
    rw [List.foldlM_cons, happly]
    exact hfold

/-- Rules change nothing in a text that carries what they put in. -/
lemma foldlM_apply_of_carries (h : ∀ r ∈ rules, ∃ S, r.Does S) (hc : ∀ r ∈ rules, Carries r.Replaces text.toList) :
    rules.foldlM Rule.apply text = .ok text := by
  induction rules with
  | nil => rfl
  | cons r rules ih =>
    rw [List.forall_mem_cons] at h hc
    obtain ⟨⟨S, hr⟩, hrules⟩ := h
    obtain ⟨text', happly, hedits⟩ := hr.exists_apply text
    rw [hr.replaces_eq] at hc
    have hsame : text' = text := String.toList_injective (hedits.eq_of_carries hc.1)
    rw [List.foldlM_cons, happly, hsame]
    exact ih hrules hc.2

lemma Rewritten.mem_of_mem (h : Rewritten rules cs ds)
    (hs : ∀ r ∈ rules, ∀ old new rest, r.Replaces old new rest → c ∈ new → c ∈ old) (hc : c ∈ ds) : c ∈ cs := by
  induction h with
  | nil => exact hc
  | cons h _ ih =>
    rw [List.forall_mem_cons] at hs
    exact h.mem_of_mem hs.1 (ih hs.2 hc)

/-! ### Line ends -/

lemma not_mem_plainLineEnds (cs : List Char) : '\r' ∉ Text.plainLineEnds cs := by
  fun_induction Text.plainLineEnds cs with
  | case1 => simp
  | case2 rest ih => simp [ih]
  | case3 c rest _ ih =>
    rw [List.mem_cons, not_or]
    refine ⟨?_, ih⟩
    split
    · decide
    next h => exact fun heq => h (by simp [← heq])

lemma plainLineEnds_eq_self (h : '\r' ∉ cs) : Text.plainLineEnds cs = cs := by
  fun_induction Text.plainLineEnds cs with
  | case1 => rfl
  | case2 rest ih => simp at h
  | case3 c rest _ ih =>
    rw [List.mem_cons, not_or] at h
    rw [ih h.2, if_neg (by simpa using Ne.symm h.1)]

/-! ### Texts -/

/-- A text is stamped, and is so for good. -/
structure Stamps (rules : List Rule) (text text' : String) : Prop where
  once : stampText rules text = .ok text'
  twice : stampText rules text' = .ok text'
  rewritten : Rewritten rules (Text.plainLineEnds text.toList) text'.toList
  carries : ∀ r ∈ rules, Carries r.Replaces text'.toList

lemma exists_stamps (hdoes : ∀ r ∈ rules, ∃ S, r.Does S)
    (hreturn : ∀ r ∈ rules, ∀ old new rest, r.Replaces old new rest → '\r' ∈ new → '\r' ∈ old)
    (hcarries : ∀ cs ds, Rewritten rules cs ds → ∀ r ∈ rules, Carries r.Replaces ds) (text : String) :
    ∃ text', Stamps rules text text' := by
  obtain ⟨text', hfold, hrewritten⟩ := exists_rewritten hdoes (Text.withPlainLineEnds text)
  rw [Text.withPlainLineEnds, String.toList_ofList] at hrewritten
  have hc := hcarries _ _ hrewritten
  have hplain : Text.withPlainLineEnds text' = text' := by
    rw [Text.withPlainLineEnds, plainLineEnds_eq_self, String.ofList_toList]
    exact fun hmem => not_mem_plainLineEnds _ (hrewritten.mem_of_mem hreturn hmem)
  refine ⟨text', hfold, ?_, hrewritten, hc⟩
  rw [stampText, hplain]
  exact foldlM_apply_of_carries hdoes hc

/-! ### The rules of a release -/

lemma does_assignedVersion {name version : String} (hname : '\\' ∉ name.toList) (hversion : '\\' ∉ version.toList) :
    (assignedVersion name version).Does (Enclosed s!"{name} = \"".toList '"' version.toList) := by
  refine ⟨_, Template.readFrom_plain 0 ?_, tells_enclosed fun m => ?_⟩
  · simp [assignedVersion, toString, hname, hversion]
  · simp [Template.expand_plain, assignedVersion, toString]

lemma does_packageVersion {version : String} (hversion : '\\' ∉ version.toList) :
    (packageVersion version).Does (Enclosed "pytsk3 (".toList ')' (version.toList ++ "-1".toList)) := by
  refine ⟨_, Template.readFrom_plain 0 ?_, tells_enclosed fun m => ?_⟩
  · simp [packageVersion, toString, hversion]
  · simp [Template.expand_plain, packageVersion, toString]

lemma does_signedTime {time : String} (htime : '\\' ∉ time.toList) :
    (signedTime time).Does (Signed (' ' :: ' ' :: time.toList)) := by
  refine ⟨.group 1 :: Template.plain (' ' :: ' ' :: time.toList), ?_, tells_signed time fun m => ?_⟩
  · have htext : (signedTime time).replacement.toList = '\\' :: '1' :: ' ' :: ' ' :: time.toList := by
      simp [signedTime, toString]
    have hrest : Template.readFrom 1 0 (' ' :: ' ' :: time.toList) = .ok (Template.plain (' ' :: ' ' :: time.toList)) :=
      Template.readFrom_plain 1 (by simp [htime])
    have hescape : Template.escape 1 ('1' :: ' ' :: ' ' :: time.toList) = .ok (.group 1, 1) := rfl
    rw [Template.read, htext]
    exact (Template.readFrom_escape hescape).trans (congrArg (Except.map (Template.Piece.group 1 :: ·)) hrest)
  · rw [Template.expand, List.flatMap_cons, ← Template.expand, Template.expand_plain]
    rfl

/-! ### Plain clocks -/

/-- The version is made of digits, and the stamp has none of the characters that the rules of a release look for
and no backslash. Letters, digits, spaces, commas and colons are fine. -/
structure Clock.Plain (clock : Clock) : Prop where
  version : ∀ c ∈ clock.version.toList, c.isDigit
  stamp : ∀ c ∈ clock.stamp.toList, c ∉ ['\\', '\n', '\r', '<', '>', '(', ')']

/-- What stands behind an address. -/
def Clock.time (clock : Clock) : List Char :=
  ' ' :: ' ' :: s!"{clock.stamp} {zoneText clock.timezone}".toList

lemma isDigit_of_mem_twoDigits {n : Nat} (h : c ∈ (twoDigits n).toList) : c.isDigit := by
  have hdigits : c ∈ (toString n).toList → c.isDigit := by
    rw [Nat.toString_eq_repr, Nat.toList_repr]
    exact Nat.isDigit_of_mem_toDigits (by decide) (by decide)
  rw [twoDigits] at h
  split at h
  · rw [String.toList_append, List.mem_append] at h
    rcases h with h | h
    · obtain rfl : c = '0' := by simpa [toString] using h
      rfl
    · exact hdigits h
  · exact hdigits h

lemma zone_of_mem_zoneText {timezone : Int} (h : c ∈ (zoneText timezone).toList) : c.isDigit ∨ c = '+' ∨ c = '-' := by
  rw [zoneText, String.toList_append, String.toList_append, List.mem_append, List.mem_append] at h
  rcases h with (h | h) | h
  · right
    split at h <;> simp_all
  · exact .inl (isDigit_of_mem_twoDigits h)
  · exact .inl (isDigit_of_mem_twoDigits h)

lemma Clock.Plain.not_mem_version (h : clock.Plain) (hc : c.isDigit = false) : c ∉ clock.version.toList := by
  intro hmem
  rw [h.version c hmem] at hc
  cases hc

lemma Clock.Plain.not_mem_time (h : clock.Plain) (hc : c ∈ ['\\', '\n', '\r', '<', '>', '(', ')']) :
    c ∉ clock.time := by
  have hothers : ∀ c ∈ ['\\', '\n', '\r', '<', '>', '(', ')'],
      c ≠ ' ' ∧ ¬ (c.isDigit ∨ c = '+' ∨ c = '-') := by decide
  obtain ⟨hspace, hzone⟩ := hothers c hc
  have hstamp : c ∉ clock.stamp.toList := fun hmem => h.stamp c hmem hc
  have hzone : c ∉ (zoneText clock.timezone).toList := fun hmem => hzone (zone_of_mem_zoneText hmem)
  simp [Clock.time, toString, hspace, hstamp, hzone]

lemma Clock.Plain.does_signedTime (h : clock.Plain) :
    (signedTime s!"{clock.stamp} {zoneText clock.timezone}").Does (Signed clock.time) := by
  have htime := h.not_mem_time (c := '\\') (by decide)
  rw [Clock.time, List.mem_cons, List.mem_cons, not_or, not_or] at htime
  exact Release.does_signedTime htime.2.2

/-! ### The texts of the files -/

lemma exists_stamps_assignedVersion {name : String} {o : Char} {t : List Char} (hclock : clock.Plain)
    (hname : s!"{name} = \"".toList = o :: t) (ho : o ∉ t ++ ['"'] ∧ o.isDigit = false)
    (hplain : '\\' ∉ name.toList ∧ '\r' ∉ name.toList) (text : String) :
    ∃ text', Stamps [assignedVersion name clock.version] text text' := by
  have hdoes := does_assignedVersion hplain.1 (hclock.not_mem_version (c := '\\') rfl)
  have hreplaces := hdoes.replaces_eq
  refine exists_stamps (List.forall_mem_singleton.mpr ⟨_, hdoes⟩) (List.forall_mem_singleton.mpr ?_) ?_ text
  · rw [hreplaces]
    rintro _ _ _ ⟨b, -, -, rfl, rfl⟩ hmem
    simp [toString, hplain.2, hclock.not_mem_version (c := '\r') rfl] at hmem
  · rintro cs ds hrewritten
    rw [List.forall_mem_singleton]
    rcases hrewritten with _ | ⟨hedits, _ | _⟩
    rw [hreplaces, hname] at hedits ⊢
    refine carries_of_edits_enclosed ?_ (hclock.not_mem_version rfl) hedits
    rw [List.mem_append, not_or] at ho
    simp only [List.mem_append, not_or]
    exact ⟨ho.1.1, hclock.not_mem_version ho.2, ho.1.2⟩

lemma exists_stamps_changelog (hclock : clock.Plain) (text : String) :
    ∃ text', Stamps [packageVersion clock.version, signedTime s!"{clock.stamp} {zoneText clock.timezone}"] text text' := by
  have hlead : "pytsk3 (".toList = 'p' :: "ytsk3 (".toList := by decide
  have hversion := does_packageVersion (hclock.not_mem_version (c := '\\') rfl)
  rw [hlead] at hversion
  have hsigned := hclock.does_signedTime
  have hvalue : ')' ∉ clock.version.toList ++ "-1".toList := by
    simp [hclock.not_mem_version (c := ')') rfl]
  refine exists_stamps ?_ ?_ ?_ text
  · rw [List.forall_mem_cons, List.forall_mem_singleton]
    exact ⟨⟨_, hversion⟩, ⟨_, hsigned⟩⟩
  · rw [List.forall_mem_cons, List.forall_mem_singleton, hversion.replaces_eq, hsigned.replaces_eq]
    constructor
    · rintro _ _ _ ⟨b, -, -, rfl, rfl⟩ hmem
      simp [hclock.not_mem_version (c := '\r') rfl] at hmem
    · rintro _ _ _ ⟨a, _, _, -, -, ⟨u, -, -, -, rfl, rfl⟩, rfl, rfl⟩ hmem
      rw [List.mem_cons, List.mem_append, List.mem_cons] at hmem
      rcases hmem with hmem | hmem | hmem | hmem
      · cases hmem
      · exact List.mem_cons_of_mem _ (List.mem_append_left _ hmem)
      · cases hmem
      · exact absurd hmem (hclock.not_mem_time (by decide))
  · rintro cs ds hrewritten
    rcases hrewritten with _ | ⟨hfirst, _ | ⟨hsecond, _ | _⟩⟩
    rw [List.forall_mem_cons, List.forall_mem_singleton, hversion.replaces_eq, hsigned.replaces_eq]
    rw [hversion.replaces_eq] at hfirst
    rw [hsigned.replaces_eq] at hsecond
    have hbefore := carries_of_edits_enclosed ?_ hvalue hfirst
    refine ⟨carries_enclosed_of_edits_ended (edits_ended hsecond) ?_ (by decide) ⟨'(', by decide, ?_⟩ ?_ hvalue hbefore,
      carries_of_edits_signed ⟨?_, ?_⟩ hsecond⟩
    · simp [hclock.not_mem_version (c := '>') rfl]
    · exact hclock.not_mem_time (by decide)
    · exact hclock.not_mem_time (by decide)
    · exact hclock.not_mem_time (by decide)
    · exact hclock.not_mem_time (by decide)
    · simp [hclock.not_mem_version (c := 'p') rfl]

lemma exists_stamps_of_mem {e : String × List Rule} (hclock : clock.Plain) (he : e ∈ stampedFiles clock)
    (text : String) : ∃ text', Stamps e.2 text text' := by
  simp only [stampedFiles, List.mem_cons, List.not_mem_nil, or_false] at he
  rcases he with rfl | rfl | rfl
  · exact exists_stamps_assignedVersion (o := 'V') (t := "ERSION = \"".toList) hclock (by decide) (by decide) (by decide) text
  · exact exists_stamps_changelog hclock text
  · exact exists_stamps_assignedVersion (o := 'v') (t := "ersion = \"".toList) hclock (by decide) (by decide) (by decide) text

/-! ### The files -/

lemma write_of_read {files : Files} {name : String} (h : files.read name = .ok text) :
    files.write name text = files := by
  rw [Files.read] at h
  split at h
  next text' hget =>
    cases h
    exact Dict.insert_eq_self hget
  next => cases h

lemma effect_readFile {name : String} (h : w.files.read name = .ok text) :
    (readFile name).effect w = (.ok text, w) := by
  rw [readFile, Act.effect_bind_of_ok (Act.effect_state w), Act.effect_lift, h]

/-- Stamping changes nothing if the texts of the files stay the same. -/
lemma effect_stampAll_of_stamped {es : List (String × List Rule)}
    (h : ∀ e ∈ es, ∃ text, w.files.read e.1 = .ok text ∧ stampText e.2 text = .ok text) :
    (es.forM stampFile).effect w = (.ok (), w) := by
  induction es with
  | nil => rfl
  | cons e es ih =>
    rw [List.forall_mem_cons] at h
    obtain ⟨⟨text, hread, hstamp⟩, hes⟩ := h
    have hone : (stampFile e).effect w = (.ok (), w) := by
      rw [stampFile, Act.effect_bind_of_ok (effect_readFile hread), hstamp,
        Act.effect_bind_of_ok (Act.effect_lift (.ok text) w), writeFile, Act.effect_update, write_of_read hread]
    rw [List.forM, Act.effect_bind_of_ok hone]
    exact ih hes

/-- Stamping the files that carry the version succeeds if they are there, and each of them is stamped for good. -/
lemma exists_stampFiles (hclock : clock.Plain)
    (hfiles : ∀ e ∈ stampedFiles clock, ∃ text, w.files.read e.1 = .ok text) :
    ∃ w', (stampFiles clock).effect w = (.ok (), w') ∧ ∀ e ∈ stampedFiles clock, ∃ text text',
      w.files.read e.1 = .ok text ∧ w'.files.read e.1 = .ok text' ∧ Stamps e.2 text text' := by
  rw [effect_stampFiles]
  have hends := ends_stampAll (nodup_stampedFiles clock) w
  rcases hrun : ((stampedFiles clock).forM stampFile).effect w with ⟨f | ⟨⟩, w'⟩
  · obtain ⟨done, next, rest, hes, hf, -⟩ := hends.error hrun
    have hnext : next ∈ stampedFiles clock := by simp [hes]
    obtain ⟨text, hread⟩ := hfiles next hnext
    obtain ⟨text', hstamps⟩ := exists_stamps_of_mem hclock hnext text
    rw [hread] at hf
    cases hf.symm.trans hstamps.once
  · refine ⟨w', rfl, fun e he => ?_⟩
    obtain ⟨text, stamped, hread, hstamp, hwritten⟩ := (hends.ok hrun).1 e he
    obtain ⟨text', hstamps⟩ := exists_stamps_of_mem hclock he text
    obtain rfl : text' = stamped := Except.ok.inj (hstamps.once.symm.trans hstamp)
    exact ⟨text, text', hread, hwritten, hstamps⟩

/-- Stamping the files that carry the version succeeds, and doing so again changes nothing. Each file holds what
the rules make of its text: what they match is replaced, and all else is kept. Wherever a pattern matches then, it
matches what is put in its place. -/
theorem stampFiles_twice (hclock : clock.Plain)
    (hfiles : ∀ e ∈ stampedFiles clock, ∃ text, w.files.read e.1 = .ok text) :
    ∃ w', (stampFiles clock).effect w = (.ok (), w') ∧ (stampFiles clock).effect w' = (.ok (), w') ∧
      ∀ e ∈ stampedFiles clock, ∃ text text', w.files.read e.1 = .ok text ∧ w'.files.read e.1 = .ok text' ∧
        Rewritten e.2 (Text.plainLineEnds text.toList) text'.toList ∧
        ∀ r ∈ e.2, Carries r.Replaces text'.toList := by
  obtain ⟨w', hrun, hall⟩ := exists_stampFiles hclock hfiles
  refine ⟨w', hrun, ?_, fun e he => ?_⟩
  · rw [effect_stampFiles]
    refine effect_stampAll_of_stamped fun e he => ?_
    obtain ⟨_, text', -, hread, hstamps⟩ := hall e he
    exact ⟨text', hread, hstamps.twice⟩
  · obtain ⟨text, text', hread, hwritten, hstamps⟩ := hall e he
    exact ⟨text, text', hread, hwritten, hstamps.rewritten, hstamps.carries⟩

/-- Files in which quotes and brackets stay open or stand within others, and lines end in different ways. -/
def untidyTree : Workshop :=
  { files := ⟨[("class_parser.py", "VERSION = \"VERSION = \"1\"\n"),
      ("dpkg/changelog", "pytsk3 (1 (2-1)\r\n -- A <a <b@c> d> x\r\npytsk3 (<e> f)\n"),
      ("pyproject.toml", "version = \"\"version = \"\n\"\nversion = \"0")]⟩ }

/-- What stamping makes of untidy files, once and twice. -/
theorem stampFiles_untidyTree : ∃ w', (stampFiles winterUpdate.clock).effect untidyTree = (.ok (), w') ∧
    (stampFiles winterUpdate.clock).effect w' = (.ok (), w') ∧
    w'.files = ⟨[("class_parser.py", "VERSION = \"20200102\"1\"\n"),
      ("dpkg/changelog",
        "pytsk3 (20200102-1)\n -- A <a <b@c>  Thu, 02 Jan 2020 03:04:05 +0000\npytsk3 (20200102-1)\n"),
      ("pyproject.toml", "version = \"\"version = \"20200102\"\nversion = \"0")]⟩ := by
  have hplain : winterUpdate.clock.Plain := ⟨by decide, by decide⟩
  have hfiles : ∀ e ∈ stampedFiles winterUpdate.clock, ∃ text, untidyTree.files.read e.1 = .ok text := by
    simp only [stampedFiles, List.forall_mem_cons]
    exact ⟨⟨_, rfl⟩, ⟨_, rfl⟩, ⟨_, rfl⟩, nofun⟩
  obtain ⟨w', hrun, hagain, -⟩ := stampFiles_twice hplain hfiles
  refine ⟨w', hrun, hagain, ?_⟩
  rw [show w' = ((stampFiles winterUpdate.clock).effect untidyTree).2 by rw [hrun]]
  decide +kernel

end HeaderBind.Release
