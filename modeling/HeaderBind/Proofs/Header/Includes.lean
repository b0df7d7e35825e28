import HeaderBind.Proofs.Header.Invariants
import Mathlib.Data.Finset.Max

/-!
# Each header is included once

Headers are listed as they are read, and all of them are read twice. Whether a header is listed already is looked
up by the name under which it is asked for, but it is listed by the name under which it is included, without the
base. So headers whose names lose the base are listed again when they are read again, and each header is included
once just if no name starts with a base that is not empty (`includedOnce_iff`).
-/

namespace HeaderBind.HeaderReader

open Declaring Lexer Header.Table

variable {base name : String} {files names : List String} {x y : HeaderReader}

/-! ### Lists of headers -/

/-- The headers that are listed when one more was read. -/
def listed (base : String) (files : List String) (name : String) : List String :=
  if files.contains name then files else files ++ [includedName base name]

/-- The lines that include headers, one for each. -/
def includeLines (files : List String) : String :=
  String.join (files.map fun file => s!"#include \"{file}\"\n")

lemma includeLines_append (files : List String) (file : String) :
    includeLines (files ++ [file]) = includeLines files ++ s!"#include \"{file}\"\n" := by
  simp [includeLines, String.join_append]

lemma includedName_of_not_startsWith (h : ¬ name.startsWith base) : includedName base name = name :=
  if_neg h

lemma toList_of_startsWith (h : name.startsWith base) :
    name.toList = base.toList ++ (includedName base name).toList := by
  obtain ⟨rest, hrest⟩ := String.startsWith_string_iff.mp h
  have hdrop : (name.drop base.length).toString.toList = name.toList.drop base.toList.length := by
    rw [String.length_toList]
    simp
  rw [includedName, if_pos h, hdrop, ← hrest, List.drop_left]

lemma eraseDups_concat (names : List String) (name : String) :
    (names ++ [name]).eraseDups = if name ∈ names then names.eraseDups else names.eraseDups ++ [name] := by
  rw [List.eraseDups_append]
  by_cases hmem : name ∈ names <;> simp [List.removeAll, hmem, List.eraseDups_cons]

/-- Without names that lose the base, headers are listed when they are read first. -/
lemma foldl_listed_eq_eraseDups (h : ∀ name ∈ names, includedName base name = name) :
    names.foldl (listed base) [] = names.eraseDups := by
  induction names using List.reverseRecOn with
  | nil => rfl
  | append_singleton names name ih =>
    rw [List.forall_mem_append, List.forall_mem_singleton] at h
    rw [List.foldl_append, ih h.1, List.foldl_cons, List.foldl_nil, listed, h.2, eraseDups_concat]
    simp

lemma nodup_eraseDups (names : List String) : names.eraseDups.Nodup := by
  induction names using List.reverseRecOn with
  | nil => exact List.nodup_nil
  | append_singleton names name ih =>
    rw [eraseDups_concat]
    split
    · exact ih
    next hnew =>
      refine List.nodup_append.mpr ⟨ih, List.nodup_singleton name, ?_⟩
      rintro other hother _ hname rfl
      rw [List.mem_singleton.mp hname, List.mem_eraseDups] at hother
      exact hnew hother

/-- A name that no header is included by is listed each time it is asked for. -/
lemma count_le_foldl_listed (hfiles : name ∉ files) (hnames : ∀ other ∈ names, includedName base other ≠ name) :
    files.count (includedName base name) + names.count name ≤
      (names.foldl (listed base) files).count (includedName base name) := by
  induction names generalizing files with
  | nil => simp
  | cons other names ih =>
    rw [List.forall_mem_cons] at hnames
    have hnext : name ∉ listed base files other := by
      rw [listed]
      split
      · exact hfiles
      · simp [hfiles, Ne.symm hnames.1]
    have hone : files.count (includedName base name) + [other].count name ≤
        (listed base files other).count (includedName base name) := by
      by_cases heq : other = name
      · subst heq
        simp [listed, hfiles]
      · rw [List.count_singleton, if_neg (by simpa using heq), listed]
        split <;> simp
    have hrest := ih hnext hnames.2
    rw [List.foldl_cons, List.count_cons]
    rw [List.count_singleton] at hone
    omega

/-- Among the names that lose the base the longest is not one that a header is included by. -/
lemma exists_unlisted (hbase : base ≠ "") (h : ∃ name ∈ names, name.startsWith base) :
    ∃ name ∈ names, ∀ other ∈ names, includedName base other ≠ name := by
  obtain ⟨first, hfirst, hstarts⟩ := h
  let losing := names.toFinset.filter (·.startsWith base)
  have hlosing : losing.Nonempty := ⟨first, by
    rw [Finset.mem_filter, List.mem_toFinset]
    exact ⟨hfirst, hstarts⟩⟩
  obtain ⟨name, hname, hlongest⟩ := losing.exists_max_image String.length hlosing
  simp only [losing, Finset.mem_filter, List.mem_toFinset] at hname hlongest
  refine ⟨name, hname.1, fun other hother heq => ?_⟩
  by_cases hloses : other.startsWith base
  · have hlength := congrArg List.length (toList_of_startsWith hloses)
    have hpos : base.length ≠ 0 := by simpa using hbase
    have hle := hlongest other ⟨hother, hloses⟩
    rw [heq, List.length_append, String.length_toList, String.length_toList, String.length_toList] at hlength
    omega
  · rw [includedName_of_not_startsWith hloses] at heq
    exact hloses (heq ▸ hname.2)

/-- Reading headers twice lists each of them once just if no name loses a base. -/
lemma foldl_listed_twice (base : String) (names : List String) :
    if base = "" ∨ ∀ name ∈ names, ¬ name.startsWith base
    then (names ++ names).foldl (listed base) [] = (names.map (includedName base)).eraseDups
    else ¬ ((names ++ names).foldl (listed base) []).Nodup := by
  split
  next h =>
    have hsame : ∀ name ∈ names, includedName base name = name := by
      intro name hname
      rcases h with rfl | h
      · have hstarts : name.startsWith "" := String.startsWith_string_iff.mpr List.nil_prefix
        exact String.toList_injective (toList_of_startsWith hstarts).symm
      · exact includedName_of_not_startsWith (h name hname)
    have hagain : names.removeAll names = [] := by simp [List.removeAll, List.filter_eq_nil_iff]
    rw [foldl_listed_eq_eraseDups (List.forall_mem_append.mpr ⟨hsame, hsame⟩), List.map_congr_left hsame, List.map_id',
      List.eraseDups_append, hagain, List.eraseDups_nil, List.append_nil]
  next h =>
    simp only [not_or, not_forall, not_not] at h
    obtain ⟨hbase, first, hfirst, hstarts⟩ := h
    obtain ⟨name, hname, hnames⟩ := exists_unlisted hbase ⟨first, hfirst, hstarts⟩
    have hcount := count_le_foldl_listed List.not_mem_nil (List.forall_mem_append.mpr ⟨hnames, hnames⟩)
    have hpos := List.count_pos_iff.mpr hname
    rw [List.count_append] at hcount
    rw [List.nodup_iff_count_le_one, not_forall]
    exact ⟨includedName base name, by omega⟩

/-! ### Readers that list headers -/

/-- Headers are listed while a reader is built up, in its binding and by the lines that include them. -/
structure Lists (base : String) (files : List String) (x : HeaderReader) : Prop where
  built : Built x
  base : x.host.base = base
  includes : x.host.binding.includes = includeLines files
  files : x.host.binding.files = files

lemma base_withBinding (x : HeaderReader) (b : Binding) : (x.withBinding b).host.base = x.host.base := rfl

lemma base_of_action {act : Match → Act HeaderReader Unit} {m : Match} (h : action name = some act)
    (hs : x.host.Sound) (he : (act m).effect x = (.ok (), y)) : y.host.base = x.host.base := by
  have hbinding {act : Act Binding Unit} : (onBinding act).Keeps (·.host.base) :=
    keeps_onBinding base_withBinding act
  have hcomment {f : Header → String} : (modifyHeader fun h => { h with comment := f h }).Keeps (·.host.base) :=
    fun _ => rfl
  cases h using action_cases with
  | bindStruct => exact hbinding.of_effect he
  | addClassAttribute => exact (keeps_opened_bind fun _ => hbinding).of_effect he
  | startClass =>
    obtain ⟨id, b, -, rfl⟩ := startClass_eq_ok he
    rfl
  | clearComment => exact hcomment.of_effect he
  | addComment => exact hcomment.of_effect he
  | endComment => exact hcomment.of_effect he
  | defineConstant =>
    rw [effect_defineConstant, Prod.mk.injEq] at he
    rw [← he.2, base_withBinding]
  | endClass => cases he; rfl
  | endEnum =>
    obtain ⟨id, b, -, -, rfl⟩ := endEnum_eq_ok he
    rfl
  | startEnum =>
    obtain ⟨id, b, -, rfl⟩ := startEnum_eq_ok he
    rfl
  | addEnumValue => exact (keeps_opened_bind fun _ => hbinding).of_effect he
  | addMethodArgument =>
    cases hm : x.host.currentMethod with
    | none =>
      rw [effect_addMethodArgument_of_none hm] at he
      cases he
      rfl
    | some method =>
      rw [effect_addMethodArgument hm (hs.inMethod method hm).1] at he
      exact hbinding.of_effect he
  | endMethod =>
    rcases endMethod_eq_put hs he with ⟨-, rfl⟩ | ⟨method, id, -, -, rfl⟩ <;> rfl
  | startMethod =>
    rcases startMethod_eq_ok he with ⟨-, rfl⟩ | ⟨-, id, method, b, -, -, rfl⟩ <;> rfl
  | aliasType => exact hbinding.of_effect he
  | addStructAttribute => exact (keeps_opened_bind fun _ => hbinding).of_effect he
  | addStructPointer => exact (keeps_opened_bind fun _ => hbinding).of_effect he
  | endStruct =>
    obtain ⟨id, b, -, -, rfl⟩ := endStruct_eq_ok he
    rfl
  | startStruct =>
    obtain ⟨id, b, -, rfl⟩ := startStruct_eq_ok he
    rfl
  | endNamedEnum =>
    obtain ⟨id, b, -, -, rfl⟩ := endNamedEnum_eq_ok he
    rfl
  | startNamelessEnum =>
    obtain ⟨id, b, -, rfl⟩ := startEnum_eq_ok he
    rfl
  | endNamedStruct =>
    obtain ⟨id, b, -, -, rfl⟩ := endNamedStruct_eq_ok he
    rfl
  | startNamelessStruct =>
    obtain ⟨id, b, -, rfl⟩ := startNamelessStruct_eq_ok he
    rfl

lemma Lists.next {atEnd : Bool} {token : Option String} (h : x.Lists base files)
    (he : (nextToken callbacks atEnd).effect x = (.ok token, y)) : y.Lists base files := by
  have hwell := h.built.wellRead
  have hacts := (agrees_nextToken hwell.rows hwell.agrees he).2
  obtain ⟨heq, -⟩ | ⟨name, m, act, -, hact, x', y', he', hx', hy'⟩ := hacts.cases
  · exact ⟨h.built.next he, heq ▸ h.base, heq ▸ h.includes, heq ▸ h.files⟩
  · have hs : x'.host.Sound := hx' ▸ hwell.sound
    have hstays : Stays (fun b => b.files = files ∧ b.includes = includeLines files) (fun _ => True) (act m) := by
      refine stays_action (fun g hg b hb => ?_) (fun b name type hb => hb) hact m
      have hmargin := hg.apart.margin b
      exact ⟨(congrArg Binding.Margin.files hmargin).trans hb.1, (congrArg Binding.Margin.includes hmargin).trans hb.2⟩
    have hbinding := (hstays x' y' he' hs ⟨hx' ▸ ⟨h.files, h.includes⟩, fun _ _ => trivial⟩).binding
    have hbase := base_of_action hact hs he'
    rw [hx', h.base] at hbase
    exact ⟨h.built.next he, hy' ▸ hbase, hy' ▸ hbinding.2, hy' ▸ hbinding.1⟩

lemma brings_parse (text : String) : (parse text.toUTF8).Brings (Lists base files) (Lists base files) :=
  brings_parse_of (fun _ hx => hx.built.wellRead.rows)
    (fun x text hx => ⟨hx.built.feed (effect_feed text x), hx.base, hx.includes, hx.files⟩)
    (fun _ _ _ hx he => hx.next he) text

lemma brings_noteFile (name : String) :
    (noteFile name).Brings (Lists base files) (Lists base (listed base files name)) := by
  intro x hx
  refine .of_ok (effect_noteFile name x) ?_
  have hbuilt := hx.built.note (effect_noteFile name x)
  rw [hx.files, hx.base] at hbuilt ⊢
  rw [listed]
  split
  next h =>
    rw [if_pos h] at hbuilt
    exact ⟨hbuilt, hx.base, hx.includes, hx.files⟩
  next h =>
    rw [if_neg h] at hbuilt
    refine ⟨hbuilt, hx.base, ?_, rfl⟩
    rw [includeLines_append, ← hx.includes]
    rfl

lemma brings_parseFile (store : Files) (name : String) :
    (parseFile store name).Brings (Lists base files) (Lists base (listed base files name)) := by
  intro x hx
  cases hread : store.read name with
  | error f => exact .of_error (Act.effect_bind_of_error (by rw [hread]; rfl)) trivial
  | ok text => exact .bind_of_ok (by rw [hread]; rfl) (((brings_parse text).bind fun _ => brings_noteFile name) x hx)

/-- Headers that are read one after another are listed one after another. -/
lemma brings_forIn_parseFile (store : Files) (names files : List String) :
    (ForIn.forIn names PUnit.unit fun name _ => do
      parseFile store name
      return .yield ⟨⟩ : Act HeaderReader PUnit).Brings (Lists base files) (Lists base (names.foldl (listed base) files)) := by
  induction names generalizing files with
  | nil => exact .pure _
  | cons name names ih =>
    intro x hx
    rw [List.forIn_cons]
    have hround : (do
        parseFile store name
        return .yield ⟨⟩ : Act HeaderReader (ForInStep PUnit)).Ends x
          (fun r y => r = .yield ⟨⟩ ∧ y.Lists base (listed base files name)) fun _ _ => True :=
      (brings_parseFile store name x hx).bind fun _ _ hy => .pure ⟨rfl, hy⟩
    refine hround.bind ?_
    rintro _ y ⟨rfl, hy⟩
    exact ih _ y hy

/-- A reader that has read the declaration that every module starts with, and then headers, all of them twice. -/
def readAll (store : Files) (names : List String) : Act HeaderReader Unit := do
  readPrelude
  parseFiles store names

lemma brings_readAll (store : Files) (names : List String) :
    (readAll store names).Brings (Lists base []) (Lists base ((names ++ names).foldl (listed base) [])) := by
  rw [List.foldl_append]
  refine (brings_parse prelude).bind fun _ => ?_
  exact (brings_forIn_parseFile store names []).bind fun _ => (brings_forIn_parseFile store names _).bind fun _ => .pure _

/-! ### Each header once -/

/-- Headers are listed and included, each once and in the order in which they are asked for first, without the
base, just if no name starts with a base that is not empty. Else some header is listed and included more than
once. -/
theorem includedOnce_iff {settings : Settings} {registry : Registry} {moduleName : String} {verbose : Int}
    {store : Files} (hx : fresh settings registry moduleName base verbose = .ok x)
    (he : (readAll store names).effect x = (.ok (), y)) :
    y.host.binding.includes = includeLines y.host.binding.files ∧
      (y.host.binding.files = (names.map (includedName base)).eraseDups ↔
        base = "" ∨ ∀ name ∈ names, ¬ name.startsWith base) ∧
      (y.host.binding.files.Nodup ↔ base = "" ∨ ∀ name ∈ names, ¬ name.startsWith base) := by
  have hstart : x.Lists base [] := by
    have hbuilt : Built x := .start ⟨settings, registry, moduleName, base, verbose, hx⟩
    rw [fresh, readTable_table] at hx
    cases hx
    exact ⟨hbuilt, rfl, rfl, rfl⟩
  have hlists := (brings_readAll store names x hstart).ok he
  have htwice := foldl_listed_twice base names
  rw [← hlists.files] at htwice
  refine ⟨hlists.files ▸ hlists.includes, ?_⟩
  split at htwice
  next h => exact ⟨iff_of_true htwice h, iff_of_true (htwice ▸ nodup_eraseDups _) h⟩
  next h => exact ⟨iff_of_false (fun heq => htwice (heq ▸ nodup_eraseDups _)) h, iff_of_false htwice h⟩

/-- A reader for a module of one letter, with a base. -/
def basedReader (base : String) : HeaderReader :=
  { rows := rules.map .rule, host := { binding := { name := "m" }, base } }

lemma fresh_eq_basedReader (base : String) : fresh {} Registry.initial "m" base 0 = .ok (basedReader base) := by
  rw [fresh, readTable_table]
  rfl

/-- Two headers, one of them in a folder. -/
def twoHeaders : Files :=
  ⟨[("b.h", "#define BBBB 1\n"), ("src/a.h", "")]⟩

/-- Headers that do not lie in the base are included once, though all are read twice and one is asked for
again. -/
theorem includedOnce_outside : ∃ y, (readAll twoHeaders ["src/a.h", "b.h", "src/a.h"]).effect (basedReader "lib/") =
      (.ok (), y) ∧ y.host.binding.files = ["src/a.h", "b.h"] ∧
    y.host.binding.includes = "#include \"src/a.h\"\n#include \"b.h\"\n" := by
  have hok : ((readAll twoHeaders ["src/a.h", "b.h", "src/a.h"]).effect (basedReader "lib/")).1.toBool = true := by
    decide +kernel
  rcases he : (readAll twoHeaders ["src/a.h", "b.h", "src/a.h"]).effect (basedReader "lib/") with ⟨f | ⟨⟩, y⟩
  · rw [he] at hok
    cases hok
  · obtain ⟨hincludes, hfiles, -⟩ := includedOnce_iff (fresh_eq_basedReader "lib/") he
    have hfiles : y.host.binding.files = ["src/a.h", "b.h"] :=
      (hfiles.mpr (.inr (by decide +kernel))).trans (by decide +kernel)
    exact ⟨y, rfl, hfiles, by rw [hincludes, hfiles]; decide +kernel⟩

/-- A header in the base is included twice. -/
theorem not_includedOnce_inside :
    ((readAll twoHeaders ["src/a.h"]).effect (basedReader "src/")).1.toBool = true ∧
    ((readAll twoHeaders ["src/a.h"]).effect (basedReader "src/")).2.host.binding.files = ["a.h", "a.h"] := by
  decide +kernel

end HeaderBind.HeaderReader
