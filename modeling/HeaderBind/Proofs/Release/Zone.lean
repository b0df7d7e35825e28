import HeaderBind.Proofs.Release.Stamping

/-!
# Time zones

A time zone is written as a sign, hours and minutes, from a distance that is positive to the west. As a distance
from universal time that is positive to the east, what is written has the opposite sign. East of universal time the
minutes count in the wrong direction as well, since hours are rounded down and minutes are not turned around. So the
zone of a changelog denotes the right distance for universal time alone (`zoneOffset?_changelog`).
-/

namespace HeaderBind.Release

open Pattern

variable {clock : Clock} {w : Workshop}

/-! ### Reading zones -/

/-- The distance from universal time in minutes, positive to the east, that is written as a sign, two digits for the
hours and two for the minutes, of which there are less than sixty. -/
def zoneOffset? : List Char → Option Int
  | [sign, h, h', m, m'] =>
    if [h, h', m, m'].all Char.isDigit ∧ Template.value 10 [m, m'] < 60 then
      let minutes : Int := 60 * Template.value 10 [h, h'] + Template.value 10 [m, m']
      if sign = '+' then some minutes else if sign = '-' then some (-minutes) else none
    else none
  | _ => none

lemma twoDigits_of_lt {n : Nat} (h : n < 100) : ∃ d d', (twoDigits n).toList = [d, d'] ∧ d.isDigit ∧ d'.isDigit ∧
    Template.value 10 [d, d'] = n := by
  have hall : ∀ n < 100, (twoDigits n).toList = [Nat.digitChar (n / 10), Nat.digitChar (n % 10)] ∧
      (Nat.digitChar (n / 10)).isDigit ∧ (Nat.digitChar (n % 10)).isDigit ∧
      Template.value 10 [Nat.digitChar (n / 10), Nat.digitChar (n % 10)] = n := by decide +kernel
  exact ⟨_, _, hall n h⟩

lemma zoneOffset?_of_parts {hours minutes : Nat} (hh : hours < 100) (hm : minutes < 60) :
    zoneOffset? ("+" ++ twoDigits hours ++ twoDigits minutes).toList = some (60 * hours + minutes : Int) ∧
      zoneOffset? ("-" ++ twoDigits hours ++ twoDigits minutes).toList = some (-(60 * hours + minutes) : Int) := by
  obtain ⟨h, h', hhours, hdigit, hdigit', hvalue⟩ := twoDigits_of_lt hh
  obtain ⟨m, m', hminutes, mdigit, mdigit', mvalue⟩ := twoDigits_of_lt (hm.trans (by decide))
  have hform : [h, h', m, m'].all Char.isDigit ∧ Template.value 10 [m, m'] < 60 :=
    ⟨by simp [hdigit, hdigit', mdigit, mdigit'], mvalue ▸ hm⟩
  simp only [String.toList_append, hhours, hminutes]
  constructor
  · exact (if_pos hform).trans (by rw [hvalue, mvalue]; rfl)
  · exact (if_pos hform).trans (by rw [hvalue, mvalue]; rfl)

/-- What is written for a zone denotes the distance itself, which is positive to the west. To the east, minutes
are taken away where they had to be added. -/
lemma zoneOffset?_zoneText {timezone : Int} (hday : timezone.natAbs < 86400) :
    zoneOffset? (zoneText timezone).toList =
      some (if 0 ≤ timezone then timezone / 60 else timezone / 60 - 2 * (timezone / 60 % 60)) := by
  have hminutes : timezone.fdiv 60 = timezone / 60 := Int.fdiv_eq_ediv_of_nonneg _ (by decide)
  have hhours : (timezone / 60).fdiv 60 = timezone / 60 / 60 := Int.fdiv_eq_ediv_of_nonneg _ (by decide)
  have hrest : (timezone / 60).fmod 60 = timezone / 60 % 60 := Int.fmod_eq_emod_of_nonneg _ (by decide)
  obtain ⟨hplus, hminus⟩ := zoneOffset?_of_parts (show (timezone / 60 / 60).natAbs < 100 by omega)
    (show (timezone / 60 % 60).toNat < 60 by omega)
  rw [zoneText, hminutes, hhours, hrest]
  split
  · rw [hminus, if_neg (by omega)]
    congr 1
    omega
  · rw [hplus, if_pos (by omega)]
    congr 1
    omega

/-! ### Zones in changelogs -/

/-- In the changelog that stamping leads to, behind every address that is followed by something on its line, stand
the stamp and a zone of a sign, hours and minutes. It denotes the distance to the west as one to the east; what is
more, the minutes of a distance that is negative count in the wrong direction. It is the distance to the east at
universal time only. -/
theorem zoneOffset?_changelog (hclock : clock.Plain) (hwhole : 60 ∣ clock.timezone)
    (hday : clock.timezone.natAbs < 86400)
    (hfiles : ∀ e ∈ stampedFiles clock, ∃ text, w.files.read e.1 = .ok text) :
    ∃ w' text, (stampFiles clock).effect w = (.ok (), w') ∧ w'.files.read "dpkg/changelog" = .ok text ∧
      ∀ a u rest, '<' :: (a ++ '>' :: u) ++ rest <:+ text.toList → a ≠ [] → '>' ∉ a → u ≠ [] → '\n' ∉ u →
        AtLineEnd rest → ∃ zone, u = ' ' :: ' ' :: (clock.stamp.toList ++ ' ' :: zone) ∧
          zoneOffset? zone = some (if 0 ≤ clock.timezone then clock.timezone / 60
            else clock.timezone / 60 - 2 * (clock.timezone / 60 % 60)) ∧
          (zoneOffset? zone = some (-(clock.timezone / 60)) ↔ clock.timezone = 0) := by
  obtain ⟨w', hrun, hall⟩ := exists_stampFiles hclock hfiles
  obtain ⟨_, text, -, hread, hstamps⟩ := hall _ (List.mem_cons_of_mem _ List.mem_cons_self)
  refine ⟨w', text, hrun, hread, fun a u rest hsuffix ha hangle hu hline hrest => ?_⟩
  have hcarries := hstamps.carries _ (List.mem_cons_of_mem _ List.mem_cons_self)
  rw [hclock.does_signedTime.replaces_eq] at hcarries
  have hsame := hcarries _ hsuffix _ _ rest rfl ⟨a, _, _, ha, hangle, ⟨u, hu, hline, hrest, rfl, rfl⟩, rfl, rfl⟩
  obtain rfl : clock.time = u := by simpa using hsame
  have hoffset := zoneOffset?_zoneText hday
  refine ⟨(zoneText clock.timezone).toList, by simp [Clock.time, toString], hoffset, ?_⟩
  rw [hoffset, Option.some.injEq]
  split <;> omega

/-- A clock five and a half hours east of universal time. -/
def eastClock : Clock :=
  { winterUpdate.clock with timezone := -19800 }

/-- A clock five hours west of universal time. -/
def westClock : Clock :=
  { winterUpdate.clock with timezone := 18000 }

/-- A changelog with one address. -/
def signedTree : Workshop :=
  { files := ⟨[("class_parser.py", ""), ("dpkg/changelog", " -- A <a@b>  x\n"), ("pyproject.toml", "")]⟩ }

/-- The zone east of universal time is six and a half hours to the west. -/
theorem zoneOffset?_eastClock : ∃ w', (stampFiles eastClock).effect signedTree = (.ok (), w') ∧
    w'.files.read "dpkg/changelog" = .ok " -- A <a@b>  Thu, 02 Jan 2020 03:04:05 -0630\n" ∧
    zoneOffset? "-0630".toList = some (-390) := by
  have hfiles : ∀ e ∈ stampedFiles eastClock, ∃ text, signedTree.files.read e.1 = .ok text := by
    simp only [stampedFiles, List.forall_mem_cons]
    exact ⟨⟨_, rfl⟩, ⟨_, rfl⟩, ⟨_, rfl⟩, List.forall_mem_nil _⟩
  obtain ⟨w', text, hrun, hread, hzone⟩ :=
    zoneOffset?_changelog ⟨by decide, by decide⟩ (show 60 ∣ eastClock.timezone by decide) (by decide) hfiles
  have htext : ((stampFiles eastClock).effect signedTree).2.files.read "dpkg/changelog" =
      .ok " -- A <a@b>  Thu, 02 Jan 2020 03:04:05 -0630\n" := by decide +kernel
  rw [hrun, hread, Except.ok.injEq] at htext
  refine ⟨w', hrun, htext ▸ hread, ?_⟩
  obtain ⟨zone, hu, hoffset, -⟩ := hzone "a@b".toList "  Thu, 02 Jan 2020 03:04:05 -0630".toList ['\n']
    (by rw [htext]; decide +kernel) (by decide) (by decide) (by decide) (by decide +kernel) (by simp [AtLineEnd])
  have hsplit : "  Thu, 02 Jan 2020 03:04:05 -0630".toList =
      ' ' :: ' ' :: (eastClock.stamp.toList ++ ' ' :: "-0630".toList) := by decide +kernel
  rw [hsplit, List.cons.injEq, List.cons.injEq, List.append_cancel_left_eq, List.cons.injEq] at hu
  rw [hu.2.2.2, hoffset]
  decide

/-- The zone west of universal time is to the east. -/
theorem not_zoneOffset?_westClock :
    ((stampFiles westClock).effect signedTree).2.files.read "dpkg/changelog" =
        .ok " -- A <a@b>  Thu, 02 Jan 2020 03:04:05 +0500\n" ∧
      zoneOffset? "+0500".toList = some 300 ∧ zoneOffset? "+0500".toList ≠ some (-(westClock.timezone / 60)) := by
  decide +kernel

end HeaderBind.Release
