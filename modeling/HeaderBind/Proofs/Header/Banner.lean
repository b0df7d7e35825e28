import HeaderBind.Proofs.Binding.Banner
import HeaderBind.Proofs.Header.Flattening
import HeaderBind.Proofs.Header.Slashless

/-!
# Comments of headers in the comment at the top

The code of a module begins with a comment that shows the comments of its classes as they stand in the headers.
Nothing that is declared can close that comment early, but the comments themselves can: it is one comment just if
neither the name of the module, nor the name of a header, nor the comment of a class or struct for which code is
written has the end of a comment in it (`Built.isOneComment_banner`).
-/

namespace HeaderBind.HeaderReader

open Lexer

variable {x : HeaderReader}

/-- The banner is written first, before the lines that include the headers, and it is one comment just if nothing
that it shows closes it. Without a banner nothing is written. -/
theorem Built.isOneComment_banner (h : Built x) :
    (∃ f b', Binding.banner.effect x.host.binding = (.error f, b') ∧
      Binding.write.effect x.host.binding = (.error f, b') ∧ b'.out = x.host.binding.out) ∨
    ∃ text b' rest, Binding.banner.effect x.host.binding = (.ok text, b') ∧
      (Binding.write.effect x.host.binding).2.out =
        x.host.binding.out ++ text ++ x.host.binding.includes ++ rest ∧
      (IsOneComment text ↔
        ¬ ClosesComment x.host.binding.name ∧ (∀ file ∈ x.host.binding.files, ¬ ClosesComment file) ∧
          ∀ id ∈ x.host.binding.index.values, x.host.binding.active id →
            (x.host.binding.classAt id).kind ≠ .enum → ¬ ClosesComment (x.host.binding.classAt id).doc) := by
  have hbanner := Binding.maintains_banner x.host.binding x.host.binding ⟨h.slashless, rfl⟩
  have hwrite := Binding.ends_write x.host.binding
  generalize x.host.binding = b at *
  rcases he : Binding.banner.effect b with ⟨f | text, b'⟩
  · have hout : b'.out = b.out := congrArg (fun s => s.2.2.2.1) (hbanner.error he).2
    exact .inl ⟨f, b', rfl, hwrite.error he, hout⟩
  · obtain ⟨⟨-, hstanding⟩, hone⟩ := hbanner.ok he
    obtain ⟨rest, hrest⟩ := hwrite.ok he
    have hincludes : b'.includes = b.includes := congrArg (fun s => s.2.2.1) hstanding
    have hout : b'.out = b.out := congrArg (fun s => s.2.2.2.1) hstanding
    rw [hout, hincludes] at hrest
    refine .inr ⟨text, b', rest, rfl, hrest, hone.trans ?_⟩
    simp only [Binding.OverviewCloses, not_or, not_exists, not_and]
    tauto

/-! ### A comment that breaks out -/

/-- A class with a comment before it. -/
def commented (comment : String) : HeaderReader :=
  fed ("\n\n//" ++ comment ++ "\nCCLASS(A, Object)\nEND_CCLASS\n") unread

/-- The reader after the class. -/
def afterCommented (comment : String) : HeaderReader :=
  after 6 (commented comment)

lemma built_afterCommented {comment : String} (h : goesOn 6 (commented comment) = true) :
    Built (afterCommented comment) :=
  ((run_after h).reached ((Reached.start started_unread).feed (effect_feed _ _))).built

/-- In this comment a star and a slash do not meet. -/
theorem isOneComment_banner_afterCommented : Built (afterCommented " a * / b") ∧ ∃ text b' rest,
    Binding.banner.effect (afterCommented " a * / b").host.binding = (.ok text, b') ∧
    (Binding.write.effect (afterCommented " a * / b").host.binding).2.out = text ++ rest ∧ IsOneComment text := by
  obtain ⟨hgoes, hids, hdoc, hname, hfiles, hout, hok⟩ : goesOn 6 (commented " a * / b") = true ∧
      (afterCommented " a * / b").host.binding.index.values = [0] ∧
      ((afterCommented " a * / b").host.binding.classAt 0).doc = " a * / b\n" ∧
      (afterCommented " a * / b").host.binding.name = "m" ∧ (afterCommented " a * / b").host.binding.files = [] ∧
      (afterCommented " a * / b").host.binding.out = "" ∧
      (Binding.banner.effect (afterCommented " a * / b").host.binding).1.toBool = true := by
    decide +kernel
  have hbuilt := built_afterCommented hgoes
  generalize afterCommented " a * / b" = x at *
  refine ⟨hbuilt, ?_⟩
  rcases hbuilt.isOneComment_banner with ⟨f, b', he, -⟩ | ⟨text, b', rest, he, hwrite, hone⟩
  · rw [he] at hok
    cases hok
  · refine ⟨text, b', x.host.binding.includes ++ rest, he, ?_, hone.mpr ⟨?_, ?_, ?_⟩⟩
    · rw [hwrite, hout, String.empty_append, String.append_assoc]
    · rw [hname]
      decide +kernel
    · rw [hfiles]
      exact List.forall_mem_nil _
    · rw [hids]
      rintro id hid - -
      rw [List.mem_singleton.mp hid, hdoc]
      decide +kernel

/-- Where they do the comment breaks out, and the banner is closed before its end. -/
theorem comment_breaks_out : Built (afterCommented " a */ b") ∧ ∃ text b' rest,
    Binding.banner.effect (afterCommented " a */ b").host.binding = (.ok text, b') ∧
    (Binding.write.effect (afterCommented " a */ b").host.binding).2.out = text ++ rest ∧ ¬ IsOneComment text := by
  obtain ⟨hgoes, hids, hkind, hdoc, hactive, hout, hok⟩ : goesOn 6 (commented " a */ b") = true ∧
      (afterCommented " a */ b").host.binding.index.values = [0] ∧
      ((afterCommented " a */ b").host.binding.classAt 0).kind = .class_ ∧
      ((afterCommented " a */ b").host.binding.classAt 0).doc = " a */ b\n" ∧
      (afterCommented " a */ b").host.binding.active 0 = true ∧
      (afterCommented " a */ b").host.binding.out = "" ∧
      (Binding.banner.effect (afterCommented " a */ b").host.binding).1.toBool = true := by
    decide +kernel
  have hbuilt := built_afterCommented hgoes
  generalize afterCommented " a */ b" = x at *
  refine ⟨hbuilt, ?_⟩
  have hbanner := Binding.maintains_banner x.host.binding x.host.binding ⟨hbuilt.slashless, rfl⟩
  rcases he : Binding.banner.effect x.host.binding with ⟨f | text, b'⟩
  · rw [he] at hok
    cases hok
  · obtain ⟨⟨-, hstanding⟩, hone⟩ := hbanner.ok he
    obtain ⟨rest, hrest⟩ := (Binding.ends_write x.host.binding).ok he
    have hout' : b'.out = x.host.binding.out := congrArg (fun s => s.2.2.2.1) hstanding
    refine ⟨text, b', b'.includes ++ rest, rfl, ?_, fun h => (hone.mp h).2.2 (.inr ⟨0, ?_, hactive, ?_, ?_⟩)⟩
    · rw [hrest, hout', hout, String.empty_append, String.append_assoc]
    · rw [hids]
      exact List.mem_singleton.mpr rfl
    · rw [hkind]
      decide
    · rw [hdoc]
      decide +kernel

end HeaderBind.HeaderReader
