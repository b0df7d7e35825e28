import HeaderBind.Proofs.Binding.Order
import HeaderBind.Proofs.Code.Labels

/-!
# Registering classes

When a module is loaded its code enters classes into a table, each at the place that a counter gives, and
counts on. The table has room for one class more than are known, and only the plain classes that code is
written for are entered, so every place that is written to is there (`registers_entries`). The code comes about
if and only if a class without a name is one that code is written for and that need not be entered
(`effect_initialization`).
-/

namespace HeaderBind

namespace Act

variable {σ α β : Type} {f : α → Act σ β} {g : α → β} {s : σ}

/-- Actions that leave the state alone give their results, one after the other. -/
lemma effect_mapM_of_ok {xs : List α} (h : ∀ x ∈ xs, (f x).effect s = (.ok (g x), s)) :
    (xs.mapM f).effect s = (.ok (xs.map g), s) := by
  suffices hloop : ∀ done, (List.mapM.loop f xs done).effect s = (.ok (done.reverse ++ xs.map g), s) from hloop []
  induction xs with
  | nil =>
    intro done
    rw [List.map_nil, List.append_nil]
    rfl
  | cons x xs ih =>
    intro done
    rw [List.mapM.loop, effect_bind_of_ok (h x List.mem_cons_self),
      ih fun y hy => h y (List.mem_cons_of_mem x hy)]
    simp

/-- The first of them that fails is the last one. -/
lemma effect_mapM_of_error {xs : List α} {P : α → Prop} {e : Fault}
    (hok : ∀ x, P x → (f x).effect s = (.ok (g x), s)) (herror : ∀ x, ¬ P x → (f x).effect s = (.error e, s))
    (h : ¬ ∀ x ∈ xs, P x) : (xs.mapM f).effect s = (.error e, s) := by
  suffices hloop : ∀ done, (List.mapM.loop f xs done).effect s = (.error e, s) from hloop []
  induction xs with
  | nil => exact absurd (List.forall_mem_nil P) h
  | cons x xs ih =>
    intro done
    rw [List.mapM.loop]
    by_cases hx : P x
    · rw [List.forall_mem_cons, not_and] at h
      rw [effect_bind_of_ok (hok x hx), ih (h hx)]
    · rw [effect_bind_of_error (herror x hx)]

end Act

/-! ### The code of one class -/

/-- The code that enters a class at the next place of the table. -/
def registration (cls : String) (proxies : Bool) : String :=
  Code.render (
    ["\x7b",
     "    int idx = TOTAL_CCLASSES.load(std::memory_order_relaxed);",
     s!"    python_wrappers[idx].class_ref = (Object)&__{cls};",
     s!"    python_wrappers[idx].python_type = &{cls}_Type;"]
    ++ (if proxies then
      [s!"    python_wrappers[idx].initialize_proxies = (void (*)(Gen_wrapper, void *)) &py{cls}_initialize_proxies;"]
      else [])
    ++ ["    (void) TOTAL_CCLASSES.fetch_add(1, std::memory_order_release);", "\x7d"])

/-- Nothing speaks against code for the class. -/
def ClassDef.isOpen (c : ClassDef) : Bool :=
  !(!c.active || c.hasModifier "PRIVATE" || c.hasModifier "ABSTRACT")

/-- The name of the class is known wherever it is asked for when code is written. -/
def ClassDef.Presentable (c : ClassDef) : Prop :=
  c.name = none → c.isOpen ∧ c.kind ≠ .class_

instance (c : ClassDef) : Decidable c.Presentable :=
  inferInstanceAs (Decidable (c.name = none → c.isOpen ∧ c.kind ≠ .class_))

namespace Binding

variable {b : Binding} {id : ClassId}

/-- All classes that are known are presentable. -/
def Presentable (b : Binding) : Prop :=
  ∀ id ∈ b.index.values, (b.classAt id).Presentable

instance (b : Binding) : Decidable b.Presentable :=
  inferInstanceAs (Decidable (∀ id ∈ b.index.values, (b.classAt id).Presentable))

/-- Whether the class is one that is entered into the table. -/
def isRegistered (b : Binding) (id : ClassId) : Bool :=
  b.active id && (b.classAt id).kind == .class_

/-- The active plain classes, in the order in which they became known. -/
def registered (b : Binding) : List ClassId :=
  b.index.values.filter b.isRegistered

/-- The functions that install proxies for a class are defined. -/
def installsProxies (b : Binding) (cls : String) : Bool :=
  b.defined.contains s!"py{cls}_initialize_proxies"

/-- The code for one class when the module is loaded. -/
def entry (b : Binding) (id : ClassId) : String :=
  if b.active id then
    match (b.classAt id).kind, (b.classAt id).name with
    | .struct, _ => ""
    | .enum, _ => "\n"
    | .class_, some cls => registration cls (b.installsProxies cls)
    | .class_, none => ""
  else ""

lemma active_of_none (h : (b.classAt id).name = none) : b.active id = (b.classAt id).isOpen := by
  rw [active, h]
  rfl

lemma effect_isActive_of_none (h : (b.classAt id).name = none) :
    (Class.isActive id).effect b = (if b.active id then .ok true else .error .badArgument, b) := by
  have hasked : (b.classAt id).name.any b.activeStructs.contains = false := by rw [h, Option.any_none]
  rw [Class.isActive, Act.effect_bind_of_ok (Act.effect_state b), active_of_none h, ClassDef.isOpen]
  simp only [hasked, Bool.false_eq_true, if_false]
  by_cases hagainst : (!(b.classAt id).active || (b.classAt id).hasModifier "PRIVATE" ||
    (b.classAt id).hasModifier "ABSTRACT")
  · simp only [hagainst, if_true, Bool.not_true, Bool.false_eq_true, if_false, h]
    rfl
  · simp only [hagainst, Bool.false_eq_true, if_false, Bool.not_false, if_true]
    rfl

lemma shiftLine_append (n : Nat) {line : String} (h : line.isEmpty = false) (rest : String) :
    Code.shiftLine n (line ++ rest) = Code.shiftLine n line ++ rest := by
  have happend : (line ++ rest).isEmpty = false := by simp_all
  simp only [Code.shiftLine, h, happend, Bool.false_eq_true, if_false, String.append_assoc]

lemma render_registration (cls : String) {install : String} (h : install = "py" ++ cls ++ "_initialize_proxies")
    (proxies : Bool) :
    (Code.scope (
      ["int idx = TOTAL_CCLASSES.load(std::memory_order_relaxed);",
       s!"python_wrappers[idx].class_ref = (Object)&__{cls};",
       s!"python_wrappers[idx].python_type = &{cls}_Type;"]
      ++ (if proxies then
        [s!"python_wrappers[idx].initialize_proxies = (void (*)(Gen_wrapper, void *)) &{install};"]
        else [])
      ++ ["(void) TOTAL_CCLASSES.fetch_add(1, std::memory_order_release);"])).render = registration cls proxies := by
  have hline {line line' : String} (h : line.isEmpty = false) (h' : Code.shiftLine 4 line = line')
      (rest : String) : Code.shiftLine 4 (line ++ cls ++ rest) = line' ++ cls ++ rest := by
    rw [String.append_assoc, shiftLine_append 4 h, h', String.append_assoc]
  have hload : Code.shiftLine 4 "int idx = TOTAL_CCLASSES.load(std::memory_order_relaxed);" =
      "    int idx = TOTAL_CCLASSES.load(std::memory_order_relaxed);" := by decide
  have hclass : Code.shiftLine 4 s!"python_wrappers[idx].class_ref = (Object)&__{cls};" =
      s!"    python_wrappers[idx].class_ref = (Object)&__{cls};" := hline (by decide) (by decide) _
  have htype : Code.shiftLine 4 s!"python_wrappers[idx].python_type = &{cls}_Type;" =
      s!"    python_wrappers[idx].python_type = &{cls}_Type;" := hline (by decide) (by decide) _
  have hcount : Code.shiftLine 4 "(void) TOTAL_CCLASSES.fetch_add(1, std::memory_order_release);" =
      "    (void) TOTAL_CCLASSES.fetch_add(1, std::memory_order_release);" := by decide
  have hinstall : Code.shiftLine 4
      s!"python_wrappers[idx].initialize_proxies = (void (*)(Gen_wrapper, void *)) &{install};" =
      s!"    python_wrappers[idx].initialize_proxies = (void (*)(Gen_wrapper, void *)) &py{cls}_initialize_proxies;" := by
    have hname (line : String) : line ++ install ++ ";" = line ++ "py" ++ cls ++ "_initialize_proxies;" := by
      rw [h]
      simp only [String.append_assoc]
      rfl
    exact (congrArg (Code.shiftLine 4) (hname _)).trans (hline (by decide) (by decide) _)
  rw [registration, Code.scope, Code.indent, Code.shift]
  cases proxies with
  | false =>
    simp only [List.map_append, List.map_cons, List.map_nil, hload, hclass, htype, hcount, Bool.false_eq_true, if_false]
    rfl
  | true =>
    simp only [List.map_append, List.map_cons, List.map_nil, hload, hclass, htype, hcount, hinstall, if_true]
    rfl

lemma effect_classInitialization (b : Binding) (id : ClassId) :
    (Class.initialization id).effect b = (match (b.classAt id).kind with
      | .struct => .ok ""
      | .enum => .ok "\n"
      | .class_ => (known (b.classAt id).name).map fun cls => registration cls (b.installsProxies cls), b) := by
  rw [Class.initialization, Act.effect_bind_of_ok (show (Class.get id).effect b = (.ok (b.classAt id), b) from rfl)]
  cases hkind : (b.classAt id).kind with
  | struct => rfl
  | enum => rfl
  | class_ =>
    cases hname : (b.classAt id).name with
    | none => rfl
    | some cls =>
      rw [Act.effect_bind_of_ok (show (need (some cls)).effect b = (.ok cls, b) from rfl),
        Act.effect_bind_of_ok (Act.effect_state b)]
      exact congrArg (fun t => (Except.ok t, b)) (render_registration cls rfl (b.installsProxies cls))

/-- What is done for one class when the module is loaded. -/
lemma effect_entry (h : (b.classAt id).Presentable) :
    (do if ← Class.isActive id then Class.initialization id else return "" : Act Binding String).effect b =
      (.ok (b.entry id), b) := by
  cases hname : (b.classAt id).name with
  | none =>
    obtain ⟨hopen, hkind⟩ := h hname
    have hactive : b.active id := active_of_none hname ▸ hopen
    rw [Act.effect_bind_of_ok (by rw [effect_isActive_of_none hname, if_pos hactive]), if_pos rfl,
      effect_classInitialization, entry, if_pos hactive]
    cases hk : (b.classAt id).kind with
    | struct => rfl
    | enum => rfl
    | class_ => exact absurd hk hkind
  | some cls =>
    rw [Act.effect_bind_of_ok (effect_isActive (hname ▸ Option.some_ne_none cls)), entry]
    by_cases hactive : b.active id
    · rw [if_pos hactive, if_pos hactive, effect_classInitialization, hname]
      cases (b.classAt id).kind <;> rfl
    · rw [if_neg hactive, if_neg hactive]
      rfl

lemma effect_entry_of_not (h : ¬ (b.classAt id).Presentable) :
    (do if ← Class.isActive id then Class.initialization id else return "" : Act Binding String).effect b =
      (.error .badArgument, b) := by
  rw [ClassDef.Presentable, Classical.not_imp, not_and, not_not] at h
  obtain ⟨hname, hkind⟩ := h
  by_cases hactive : b.active id
  · rw [Act.effect_bind_of_ok (by rw [effect_isActive_of_none hname, if_pos hactive]), if_pos rfl,
      effect_classInitialization, hkind (active_of_none hname ▸ hactive), hname]
    rfl
  · rw [Act.effect_bind_of_error (by rw [effect_isActive_of_none hname, if_neg hactive])]

/-! ### The code of all classes -/

/-- The code before that of the classes. -/
def greeting : String :=
  Code.render
    ["",
     "talloc_set_log_fn((void (*)(const char *)) printf);",
     "// DEBUG: talloc_enable_leak_report();",
     "// DEBUG: talloc_enable_leak_report_full();"]

lemma effect_initialization (h : b.Presentable) :
    initialization.effect b = (.ok (b.initText ++ greeting ++ String.join (b.index.values.map b.entry)), b) := by
  have hmap := Act.effect_mapM_of_ok fun id hid => effect_entry (h id hid)
  rw [initialization, Act.effect_bind_of_ok (Act.effect_state b)]
  exact Act.effect_bind_of_ok (Act.effect_bind_of_ok hmap)

/-- Where a class is not presentable there is no code. -/
lemma effect_initialization_of_not (h : ¬ b.Presentable) : initialization.effect b = (.error .badArgument, b) := by
  have hmap := Act.effect_mapM_of_error (fun id => effect_entry) (fun id => effect_entry_of_not) h
  rw [initialization, Act.effect_bind_of_ok (Act.effect_state b)]
  exact Act.effect_bind_of_error (Act.effect_bind_of_error hmap)

/-! ### Places in the table -/

/-- The code enters classes into a table of a size, at the places from a number on: every block takes the next
place, which the table has, and between the blocks there is nothing but empty lines. -/
inductive Registers (b : Binding) (size : Nat) : Nat → List ClassId → String → Prop where
  | done {n : Nat} : Registers b size n [] ""
  | line {n : Nat} {ids : List ClassId} {text : String} (h : Registers b size n ids text) :
      Registers b size n ids ("\n" ++ text)
  | block {n : Nat} {id : ClassId} {ids : List ClassId} {cls text : String} (hn : n < size)
      (hname : (b.classAt id).name = some cls) (h : Registers b size (n + 1) ids text) :
      Registers b size n (id :: ids) (registration cls (b.installsProxies cls) ++ text)

lemma entry_of_isRegistered {cls : String} (h : b.isRegistered id) (hname : (b.classAt id).name = some cls) :
    b.entry id = registration cls (b.installsProxies cls) := by
  rw [isRegistered, Bool.and_eq_true, beq_iff_eq] at h
  simp only [entry, h, hname, if_true]

lemma entry_of_not_isRegistered (h : ¬ b.isRegistered id) : b.entry id = "" ∨ b.entry id = "\n" := by
  by_cases hactive : b.active id
  · cases hkind : (b.classAt id).kind with
    | struct => simp [entry, hactive, hkind]
    | enum => simp [entry, hactive, hkind]
    | class_ => exact absurd (by simp [isRegistered, hactive, hkind]) h
  · simp [entry, hactive]

lemma registers_entries {size : Nat} {ids : List ClassId} (h : ∀ id ∈ ids, (b.classAt id).Presentable) (n : Nat)
    (hsize : n + ids.length ≤ size) :
    Registers b size n (ids.filter b.isRegistered) (String.join (ids.map b.entry)) := by
  induction ids generalizing n with
  | nil => exact .done
  | cons id ids ih =>
    rw [List.forall_mem_cons] at h
    rw [List.length_cons] at hsize
    rw [List.map_cons, String.join_cons]
    by_cases hid : b.isRegistered id
    · have hkind : (b.classAt id).kind = .class_ := by
        rw [isRegistered, Bool.and_eq_true, beq_iff_eq] at hid
        exact hid.2
      obtain ⟨cls, hname⟩ : ∃ cls, (b.classAt id).name = some cls :=
        Option.ne_none_iff_exists'.mp fun hnone => (h.1 hnone).2 hkind
      rw [List.filter_cons_of_pos hid, entry_of_isRegistered hid hname]
      exact .block (by omega) hname (ih h.2 (n + 1) (by omega))
    · have hrest := ih h.2 n (by omega)
      rw [List.filter_cons_of_neg hid]
      rcases entry_of_not_isRegistered hid with hentry | hentry <;> rw [hentry]
      · rwa [String.empty_append]
      · exact .line hrest

/-- The code declares the table with room for so many classes. -/
def Reserves (size : Nat) (code : String) : Prop :=
  ∃ front back, code = front ++ ("\x7d python_wrappers[" ++ toString size ++ "];\n") ++ back

lemma length_registered_lt (b : Binding) : b.registered.length < b.index.entries.length + 1 := by
  have hle := List.length_filter_le b.isRegistered b.index.values
  rw [Dict.values, List.length_map] at hle
  exact Nat.lt_succ_of_le hle

lemma reserves_supportCode (b : Binding) : Reserves (b.index.entries.length + 1) b.supportCode := by
  have hsplit {head front middle tail rest : String} (size : Nat) (hhead : head = front ++ middle)
      (htail : tail = rest ++ "\n") :
      head ++ toString size ++ tail = front ++ (middle ++ toString size ++ rest) ++ "\n" := by
    rw [hhead, htail]
    simp only [String.append_assoc]
  have htable (size : Nat) : Reserves size (Support.wrapperTable size) := by
    refine ⟨"static struct python_wrapper_map_t \x7b\n    Object class_ref;\n    PyTypeObject *python_type;\n" ++
      "    void (*initialize_proxies)(Gen_wrapper self, void *item);\n", "\n", ?_⟩
    unfold Support.wrapperTable
    exact hsplit size (by decide +kernel) (by decide)
  obtain ⟨front, back, h⟩ := htable (b.index.entries.length + 1)
  rw [supportCode, Support.code, h]
  exact ⟨Support.wrapperObject ++ front, _, by simp only [String.append_assoc]; rfl⟩

end Binding

end HeaderBind
