import HeaderBind.Proofs.Pattern.Replacing
import HeaderBind.Release.Stamp
import Mathlib.Data.List.TakeWhile

/-!
# What the rules of a release replace

A version stands behind a fixed lead and before a mark (`Enclosed`), and a time behind an address at the end of a
line (`Signed`). Where such a value is replaced everywhere, no other value of its kind comes into view
(`carries_of_edits_enclosed`, `carries_of_edits_signed`), and versions stay in place when times are replaced
(`carries_enclosed_of_edits_ended`).
-/

namespace HeaderBind.Release

open Pattern

variable {mark o c : Char} {lead tail value time cs ds old new rest u x y : List Char} {K : List Char → Prop}

/-- Two texts agree up to where a character stands first, or up to their ends without it. -/
lemma eq_of_append_eq {r : List Char} (h : u ++ x = y ++ r) (hu : mark ∉ u) (hx : ∀ c ∈ x.head?, c = mark)
    (hy : mark ∉ y) (hr : ∀ c ∈ r.head?, c = mark) : u = y := by
  induction u generalizing y with
  | nil =>
    cases y with
    | nil => rfl
    | cons c y =>
      rw [List.nil_append] at h
      rw [h] at hx
      exact absurd (hx c rfl) (fun heq => hy (heq ▸ List.mem_cons_self))
  | cons c u ih =>
    rw [List.mem_cons, not_or] at hu
    cases y with
    | nil =>
      rw [List.nil_append] at h
      rw [← h] at hr
      exact absurd (hr c rfl) (Ne.symm hu.1)
    | cons c' y =>
      rw [List.mem_cons, not_or] at hy
      obtain ⟨rfl, htails⟩ := List.cons.inj h
      rw [ih htails hu.2 hy.2]

/-- What has something without a character at its start does not start with the character. -/
lemma exists_head_ne (hu : u ≠ []) (hmark : mark ∉ u) (rest : List Char) : ∃ c ∈ (u ++ rest).head?, c ≠ mark := by
  obtain ⟨c, u, rfl⟩ := List.exists_cons_of_ne_nil hu
  exact ⟨c, rfl, fun heq => hmark (heq ▸ List.mem_cons_self)⟩

/-! ### Versions -/

/-- Behind a lead, what stands before the next mark gives way to a value. -/
def Enclosed (lead : List Char) (mark : Char) (value : List Char) : Swap := fun old new _ =>
  ∃ b, b ≠ [] ∧ mark ∉ b ∧ old = lead ++ (b ++ [mark]) ∧ new = lead ++ (value ++ [mark])

lemma opens_enclosed : Opens o (Enclosed (o :: tail) mark value) := by
  rintro _ _ _ ⟨b, -, -, rfl, rfl⟩
  exact ⟨rfl, rfl⟩

/-- Before a mark that is not the first character stands something without it. -/
lemma exists_before_mark (h : mark ∈ x) (hx : ∃ c ∈ x.head?, c ≠ mark) :
    ∃ b r, b ≠ [] ∧ mark ∉ b ∧ x = b ++ mark :: r := by
  obtain ⟨b, r, rfl, hb⟩ := List.eq_append_cons_of_mem h
  refine ⟨b, r, ?_, hb, rfl⟩
  rintro rfl
  obtain ⟨c, hc, hne⟩ := hx
  exact hne (Option.some.inj hc).symm

/-- A value that shows up behind a character that is kept has been there before. -/
lemma untouched_enclosed_cons (hlead : o ∉ tail) (hc : Untouched (Enclosed (o :: tail) mark value) (c :: cs))
    (h : Edits (Enclosed (o :: tail) mark value) K cs ds) :
    Untouched (Enclosed (o :: tail) mark value) (c :: ds) := by
  rintro _ _ rest hds ⟨b, hb, hmark, rfl, rfl⟩
  obtain ⟨rfl, rfl⟩ : c = o ∧ ds = tail ++ (b ++ mark :: rest) := by simpa using hds
  obtain ⟨x, rfl, hx⟩ := h.exists_source opens_enclosed hlead
  have hmem : mark ∈ x := by
    refine hx.mem_of_mem ?_ (by simp)
    rintro _ _ _ ⟨b, -, -, rfl, rfl⟩ -
    simp
  have hhead : ∃ c ∈ x.head?, c ≠ mark := by
    rw [← hx.head?_eq opens_enclosed]
    exact exists_head_ne hb hmark _
  obtain ⟨b', r, hb', hmark', rfl⟩ := exists_before_mark hmem hhead
  exact hc _ _ r (by simp) ⟨b', hb', hmark', rfl, rfl⟩

lemma carriesAt_enclosed (hvalue : mark ∉ value) :
    CarriesAt (Enclosed lead mark value) (lead ++ (value ++ [mark]) ++ ds) := by
  rintro _ _ rest hds ⟨b, -, hmark, rfl, rfl⟩
  have hsame : value ++ mark :: ds = b ++ mark :: rest := by simpa using hds
  rw [eq_of_append_eq hsame hvalue (by simp) hmark (by simp)]

/-- Versions that are replaced everywhere are the only ones then. -/
lemma carries_of_edits_enclosed (hlead : o ∉ tail ++ (value ++ [mark])) (hvalue : mark ∉ value)
    (h : Edits (Enclosed (o :: tail) mark value) (Untouched (Enclosed (o :: tail) mark value)) cs ds) :
    Carries (Enclosed (o :: tail) mark value) ds := by
  refine h.carries opens_enclosed (fun c cs ds hc h => ?_) ?_
  · exact untouched_enclosed_cons (fun ho => hlead (List.mem_append_left _ ho)) hc h
  · rintro _ _ rest ds ⟨b, -, -, rfl, rfl⟩ - x ⟨pre, hpre⟩ hx
    -- The lead occurs in what is put in at its start only.
    cases pre with
    | nil =>
      rw [List.nil_append] at hpre
      exact hpre ▸ carriesAt_enclosed hvalue
    | cons c pre =>
      have htail : pre ++ x = tail ++ (value ++ [mark]) := (List.cons.inj hpre).2
      refine (untouched_of_head? opens_enclosed fun hhead => hlead ?_).carriesAt
      rw [← htail]
      obtain ⟨c', x, rfl⟩ := List.exists_cons_of_ne_nil hx
      exact List.mem_append_right pre (List.mem_of_mem_head? hhead)

/-! ### Times -/

/-- The end of a line, or of the text. -/
def AtLineEnd (cs : List Char) : Prop :=
  ∀ c ∈ cs.head?, c = '\n'

/-- Behind an angle bracket, the rest of the line gives way to a time. -/
def Ended (time : List Char) : Swap := fun old new rest =>
  ∃ u, u ≠ [] ∧ '\n' ∉ u ∧ AtLineEnd rest ∧ old = '>' :: u ∧ new = '>' :: time

/-- Behind an address in angle brackets, the rest of the line gives way to a time. -/
def Signed (time : List Char) : Swap := fun old new rest =>
  ∃ a old' new', a ≠ [] ∧ '>' ∉ a ∧ Ended time old' new' rest ∧ old = '<' :: (a ++ old') ∧ new = '<' :: (a ++ new')

lemma opens_ended : Opens '>' (Ended time) := by
  rintro _ _ _ ⟨u, -, -, -, rfl, rfl⟩
  exact ⟨rfl, rfl⟩

lemma opens_signed : Opens '<' (Signed time) := by
  rintro _ _ _ ⟨a, old, new, -, -, -, rfl, rfl⟩
  exact ⟨rfl, rfl⟩

lemma exists_line (h : ∃ c ∈ x.head?, c ≠ '\n') : ∃ u r, x = u ++ r ∧ u ≠ [] ∧ '\n' ∉ u ∧ AtLineEnd r := by
  obtain ⟨c, hc, hne⟩ := h
  refine ⟨x.takeWhile (· != '\n'), x.dropWhile (· != '\n'), List.takeWhile_append_dropWhile.symm, ?_, ?_, ?_⟩
  · cases x with
    | nil => cases hc
    | cons d x =>
      obtain rfl : d = c := Option.some.inj hc
      simp [hne]
  · intro hmem
    simpa using List.mem_takeWhile_imp hmem
  · intro d hd
    have hend := List.head?_dropWhile_not (· != '\n') x
    rw [Option.mem_def.mp hd] at hend
    simpa using hend

/-- Of an address only its end matters for what follows it. -/
lemma edits_ended (h : Edits (Signed time) K cs ds) : Edits (Ended time) (fun _ => True) cs ds := by
  induction h with
  | nil => exact .nil
  | keep _ _ ih => exact .keep trivial ih
  | swap hs _ ih =>
    obtain ⟨a, old, new, -, -, hended, rfl, rfl⟩ := hs
    have hswap := (Edits.swap hended ih).append ('<' :: a)
    simpa using hswap

/-- Behind an angle bracket that is there after an edit, a line goes on only if it did before. -/
lemma exists_ended (h : Edits (Ended time) K x ('>' :: y)) (hy : ∃ c ∈ y.head?, c ≠ '\n') :
    ∃ old new rest, x = old ++ rest ∧ Ended time old new rest := by
  generalize hz : '>' :: y = z at h
  cases h with
  | nil => cases hz
  | @keep c cs ds _ h =>
    obtain ⟨rfl, rfl⟩ := List.cons.inj hz
    rw [h.head?_eq opens_ended] at hy
    obtain ⟨u, r, rfl, hu, hline, hr⟩ := exists_line hy
    exact ⟨_, _, r, rfl, u, hu, hline, hr, rfl, rfl⟩
  | swap hs _ => exact ⟨_, _, _, rfl, hs⟩

/-- A time that shows up behind a character that is kept has been there before. -/
lemma untouched_signed_cons (hc : Untouched (Signed time) (c :: cs)) (h : Edits (Signed time) K cs ds) :
    Untouched (Signed time) (c :: ds) := by
  rintro _ _ rest hds ⟨a, _, _, ha, hangle, ⟨u, hu, hline, hrest, rfl, rfl⟩, rfl, rfl⟩
  obtain ⟨rfl, rfl⟩ : c = '<' ∧ ds = a ++ '>' :: (u ++ rest) := by simpa using hds
  obtain ⟨x, rfl, hx⟩ := (edits_ended h).exists_source opens_ended hangle
  obtain ⟨old, new, r, rfl, hended⟩ := exists_ended hx (exists_head_ne hu hline rest)
  exact hc ('<' :: (a ++ old)) _ r (by simp) ⟨a, old, new, ha, hangle, hended, rfl, rfl⟩

lemma atLineEnd_of_edits (h : Edits (Signed time) K cs ds) (hcs : AtLineEnd cs) : AtLineEnd ds := by
  rw [AtLineEnd, h.head?_eq opens_signed]
  exact hcs

/-- Behind an address in which another one may start, there is no other time than the one that is put in. -/
lemma carriesAt_signed {a : List Char} (hangle : '>' ∉ a) (htime : '\n' ∉ time) (hds : AtLineEnd ds) :
    CarriesAt (Signed time) (a ++ '>' :: time ++ ds) := by
  rintro _ _ rest hcs ⟨b, _, _, -, hb, ⟨u, -, hline, hrest, rfl, rfl⟩, rfl, rfl⟩
  have hsame : a ++ '>' :: (time ++ ds) = ('<' :: b) ++ '>' :: (u ++ rest) := by simpa using hcs
  have ha := eq_of_append_eq hsame hangle (by simp) (by simpa using hb) (by simp)
  rw [ha, List.append_cancel_left_eq, List.cons.injEq] at hsame
  rw [eq_of_append_eq hsame.2 htime hds hline hrest]

/-- Times that are replaced everywhere are the only ones then. -/
lemma carries_of_edits_signed (htime : '<' ∉ time ∧ '\n' ∉ time)
    (h : Edits (Signed time) (Untouched (Signed time)) cs ds) : Carries (Signed time) ds := by
  refine h.carries opens_signed (fun c cs ds hc h => untouched_signed_cons hc h) ?_
  rintro _ _ rest ds ⟨a, _, _, -, hangle, ⟨u, -, -, hrest, rfl, rfl⟩, rfl, rfl⟩ h x ⟨pre, hpre⟩ hx
  have hpre : pre ++ x = ('<' :: a) ++ '>' :: time := hpre
  rcases List.append_eq_append_iff.mp hpre with ⟨b, hb, rfl⟩ | ⟨b, -, hb⟩
  · -- The piece starts within the brackets.
    refine carriesAt_signed (fun hmem => hangle ?_) htime.2 (atLineEnd_of_edits h hrest)
    have hmem : '>' ∈ '<' :: a := hb ▸ List.mem_append_right pre hmem
    simpa using hmem
  · -- The piece starts behind the address, where no address starts.
    refine (untouched_of_head? opens_signed fun hhead => ?_).carriesAt
    obtain ⟨e, x, rfl⟩ := List.exists_cons_of_ne_nil hx
    obtain rfl : e = '<' := Option.some.inj hhead
    have hmem : '<' ∈ '>' :: time := hb ▸ List.mem_append_right b List.mem_cons_self
    exact htime.1 (by simpa using hmem)

/-! ### Versions next to times -/

/-- A stretch that cannot come from a time stands in the text before, and what follows it comes from what followed
it there. -/
lemma exists_aligned (h : Edits (Ended time) K cs ds) (hds : u ++ y <:+ ds) (hangle : '>' ∉ u) (hline : '\n' ∉ u)
    (hu : ∃ c ∈ u, c ∉ time) : ∃ x, u ++ x <:+ cs ∧ Edits (Ended time) K x y := by
  obtain ⟨c, hc, htime⟩ := hu
  induction h with
  | nil =>
    have hnil := (List.append_eq_nil_iff.mp (List.suffix_nil.mp hds)).1
    rw [hnil] at hc
    cases hc
  | @keep e cs ds hk h ih =>
    rcases List.suffix_cons_iff.mp hds with heq | hds
    · have hkeep := Edits.keep hk h
      rw [← heq] at hkeep
      obtain ⟨x, hx, hxy⟩ := hkeep.exists_source opens_ended hangle
      exact ⟨x, hx ▸ List.suffix_rfl, hxy⟩
    · obtain ⟨x, hx, hxy⟩ := ih hds
      exact ⟨x, hx.trans (List.suffix_cons e cs), hxy⟩
  | @swap old new rest ds hs h ih =>
    obtain ⟨_, -, -, hrest, rfl, rfl⟩ := hs
    have hnot : ¬ c ∈ '>' :: time := by
      rw [List.mem_cons, not_or]
      exact ⟨fun heq => hangle (heq ▸ hc), htime⟩
    obtain ⟨pre, hpre⟩ := hds
    rcases List.append_eq_append_iff.mp hpre with ⟨s, hs, huy⟩ | ⟨s, -, hds⟩
    · -- The stretch would start in the time, and go on behind it with the end of the line.
      rcases List.append_eq_append_iff.mp huy with ⟨z, rfl, -⟩ | ⟨z, rfl, hz⟩
      · exact absurd (hs ▸ List.mem_append_right pre (List.mem_append_left z hc)) hnot
      · cases z with
        | nil =>
          rw [List.append_nil] at hc
          exact absurd (hs ▸ List.mem_append_right pre hc) hnot
        | cons e z =>
          have hhead : e ∈ rest.head? := by
            rw [← h.head?_eq opens_ended, hz]
            rfl
          rw [hrest e hhead] at hline
          simp at hline
    · obtain ⟨x, hx, hxy⟩ := ih ⟨s, hds.symm⟩
      exact ⟨x, hx.trans (List.suffix_append _ rest), hxy⟩

/-- Versions stay in place when times are replaced. -/
lemma carries_enclosed_of_edits_ended (h : Edits (Ended time) K cs ds)
    (hangle : '>' ∉ lead ++ (value ++ [mark])) (hline : '\n' ∉ lead) (hlead : ∃ c ∈ lead, c ∉ time)
    (hmark : mark ∉ time) (hvalue : mark ∉ value) (hc : Carries (Enclosed lead mark value) cs) :
    Carries (Enclosed lead mark value) ds := by
  rintro _ hds _ _ rest rfl ⟨b, hb, hmarkb, rfl, rfl⟩
  rw [List.mem_append, not_or] at hangle
  have hds : lead ++ (b ++ mark :: rest) <:+ ds := by simpa using hds
  obtain ⟨x, hx, hxy⟩ := exists_aligned h hds hangle.1 hline hlead
  have hmem : mark ∈ x := by
    refine hxy.mem_of_mem ?_ (by simp)
    rintro _ _ _ ⟨u, -, -, -, rfl, rfl⟩ hmem
    simp [hmark] at hmem
    simp [hmem]
  have hhead : ∃ c ∈ x.head?, c ≠ mark := by
    rw [← hxy.head?_eq opens_ended]
    exact exists_head_ne hb hmarkb _
  obtain ⟨b', r, hb', hmark', rfl⟩ := exists_before_mark hmem hhead
  -- Before the times were replaced the version stood there.
  have hbefore := hc _ hx (lead ++ (b' ++ [mark])) _ r (by simp) ⟨b', hb', hmark', rfl, rfl⟩
  obtain rfl : value = b' := by simpa using hbefore
  have hxy : Edits (Ended time) K ((value ++ [mark]) ++ r) (b ++ mark :: rest) := by simpa using hxy
  obtain ⟨y, hy, -⟩ := hxy.exists_target opens_ended hangle.2
  have hy : value ++ mark :: y = b ++ mark :: rest := by simpa using hy.symm
  rw [eq_of_append_eq hy hvalue (by simp) hmarkb (by simp)]

/-! ### Patterns -/

lemma tells_enclosed {lead : String} {f : Match → List Char}
    (hf : ∀ m, f m = lead.toList ++ (value ++ [mark])) :
    Tells (inOrder [literal lead, plus (noneOf [mark]), char mark]) f (Enclosed lead.toList mark value) where
  ne_nil := by
    rintro _ _ _ ⟨b, -, -, rfl, -⟩ hnil
    simp at hnil
  matched := by
    rintro k _ _ rest hk ⟨b, hb, hmark, rfl, rfl⟩
    have hk : k.rest = lead.toList ++ (b ++ mark :: rest) := by simpa using hk
    have hrun : (inOrder [literal lead, plus (noneOf [mark]), char mark]).run { k with groups := [] } some =
        some (({ k with groups := [] } : Cursor).past (lead.toList ++ (b ++ [mark])) rest) := by
      rw [run_inOrder_cons]
      refine run_spelled hk ?_
      rw [run_inOrder_cons]
      refine run_plus rfl hb (forall_holds_noneOf hmark) (stops_noneOf (by simp)) ?_
      refine run_char rfl ?_
      rw [Cursor.past_past, Cursor.past_past]
    exact ⟨_, matchFrom_of_run hrun, by simp [Match.length, Cursor.past], hf _⟩
  found := by
    intro k m hm
    obtain ⟨t, rest, hk, -, -, ha⟩ := accepts_of_matchFrom hm
    obtain ⟨t₁, t₂, rfl, h₁, h₂⟩ := ha.exists_cons
    obtain ⟨b, t₃, rfl, hb, h₃⟩ := h₂.exists_cons
    obtain rfl := eq_of_accepts_spelled h₁
    obtain rfl := eq_of_accepts_char h₃
    obtain ⟨hne, hmark⟩ := accepts_noneOf hb
    exact ⟨_, _, rest, hk, b, hne, hmark, rfl, rfl⟩

lemma tells_signed (written : String) {f : Match → List Char} (hf : ∀ m, f m = (m.group 1).toList ++ time) :
    Tells (signedTime written).pattern f (Signed time) where
  ne_nil := by
    rintro _ _ _ ⟨a, _, _, -, -, -, rfl, -⟩ hnil
    cases hnil
  matched := by
    rintro k _ _ rest hk ⟨a, _, _, ha, hangle, ⟨u, hu, hline, hrest, rfl, rfl⟩, rfl, rfl⟩
    have hk : k.rest = '<' :: (a ++ '>' :: (u ++ rest)) := by simpa using hk
    let start : Cursor := { k with groups := [] }
    let address := start.past (['<'] ++ a ++ ['>']) (u ++ rest)
    have hrun : (signedTime written).pattern.run start some = some ((start.close 1 address).past u rest) := by
      rw [signedTime, run_seq, run_group, run_inOrder_cons]
      refine run_char hk ?_
      rw [run_inOrder_cons]
      refine run_plus rfl ha (forall_holds_noneOf hangle) (stops_noneOf (by simp)) ?_
      refine run_char rfl ?_
      rw [Cursor.past_past, Cursor.past_past]
      exact run_plus rfl hu (forall_holds_noneOf hline) (stops_noneOf hrest) rfl
    refine ⟨_, matchFrom_of_run hrun, ?_, ?_⟩
    · simp [Match.length, Cursor.past, Cursor.close, start, address]
      omega
    · rw [hf]
      simp [Match.group, Match.group?, Cursor.past, Cursor.close, start, address, Span.chars, hk,
        List.take_length_add_append]
  found := by
    intro k m hm
    obtain ⟨t, rest, hk, -, -, ha⟩ := accepts_of_matchFrom hm
    cases ha with
    | @seq _ _ _ u₀ hgroup hmore =>
      cases hgroup with
      | group hgroup =>
        obtain ⟨t₁, t₂, rfl, h₁, h₂⟩ := hgroup.exists_cons
        obtain ⟨a, t₃, rfl, hname, h₃⟩ := h₂.exists_cons
        obtain rfl := eq_of_accepts_char h₁
        obtain rfl := eq_of_accepts_char h₃
        obtain ⟨ha, hangle⟩ := accepts_noneOf hname
        obtain ⟨hu₀, hline₀⟩ := accepts_noneOf hmore
        obtain ⟨u, r, hur, hu, hline, hr⟩ := exists_line (exists_head_ne hu₀ hline₀ rest)
        refine ⟨'<' :: (a ++ '>' :: u), _, r, ?_, a, _, _, ha, hangle, ⟨u, hu, hline, hr, rfl, rfl⟩, rfl, rfl⟩
        simpa [hur] using hk

end HeaderBind.Release
