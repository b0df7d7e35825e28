import HeaderBind.Text.Escape
import Mathlib.Algebra.Order.Group.Nat
import Mathlib.Tactic.IntervalCases
import Mathlib.Tactic.Lemma

/-!
# Reading escaped text

The inside of a string literal is read from left to right: a backslash starts an escape, a double quote
would end the literal, and every other character stands for itself. What is written there is plain
(`isPlain_of_mem_escape`), and is read back as the text that it was written for (`unescape_escape`).
-/

namespace HeaderBind.Text

variable {c d : Char} {cs rest after : List Char} {n width : Nat}

/-! ### Reading -/

/-- The value of a hexadecimal digit. -/
def hexValue? (c : Char) : Option Nat :=
  if '0' ≤ c ∧ c ≤ '9' then some (c.toNat - '0'.toNat)
  else if 'a' ≤ c ∧ c ≤ 'f' then some (c.toNat - 'a'.toNat + 10)
  else if 'A' ≤ c ∧ c ≤ 'F' then some (c.toNat - 'A'.toNat + 10)
  else none

/-- The number that hexadecimal digits stand for. -/
def hexNumber? (digits : List Char) : Option Nat :=
  digits.foldlM (fun n d => (hexValue? d).map (16 * n + ·)) 0

/-- The character of a number, if there is one. -/
def charOf? (n : Nat) : Option Char :=
  if n.isValidChar then some (Char.ofNat n) else none

/-- A character by its number, which has a given number of digits, and what follows. -/
def readNumber (width : Nat) (cs : List Char) : Option (Char × List Char) := do
  guard (width ≤ cs.length)
  let n ← hexNumber? (cs.take width)
  let c ← charOf? n
  return (c, cs.drop width)

/-- The character of an escape whose backslash was read, and what follows. -/
def readEscape : List Char → Option (Char × List Char)
  | '\\' :: rest => some ('\\', rest)
  | '"' :: rest => some ('"', rest)
  | 'n' :: rest => some ('\n', rest)
  | 'r' :: rest => some ('\r', rest)
  | 't' :: rest => some ('\t', rest)
  | 'x' :: rest => readNumber 2 rest
  | 'u' :: rest => readNumber 4 rest
  | 'U' :: rest => readNumber 8 rest
  | _ => none

/-- The character at the start of the inside of a literal, and what follows. A double quote that no
backslash stands before is refused: it would end the literal. -/
def readChar (c : Char) (rest : List Char) : Option (Char × List Char) :=
  if c = '\\' then readEscape rest
  else if c = '"' then none
  else some (c, rest)

lemma length_of_readNumber (h : readNumber width cs = some (c, after)) : after.length ≤ cs.length := by
  simp only [readNumber, Option.bind_eq_bind, Option.bind_eq_some_iff] at h
  obtain ⟨-, -, n, -, d, -, heq⟩ := h
  cases heq
  rw [List.length_drop]
  exact Nat.sub_le _ _

lemma length_of_readEscape (h : readEscape cs = some (c, after)) : after.length ≤ cs.length := by
  unfold readEscape at h
  split at h
  case h_9 => cases h
  case h_6 | h_7 | h_8 => exact Nat.le_succ_of_le (length_of_readNumber h)
  all_goals
    cases h
    exact Nat.le_succ _

lemma length_of_readChar (h : readChar c rest = some (d, after)) : after.length ≤ rest.length := by
  unfold readChar at h
  split at h
  · exact length_of_readEscape h
  · split at h
    · cases h
    · cases h
      exact Nat.le_refl _

/-- The text that the inside of a literal stands for. There is none where a double quote stands by itself
or an escape is not complete. -/
def unescape : List Char → Option (List Char)
  | [] => some []
  | c :: rest =>
    match _h : readChar c rest with
    | none => none
    | some (d, after) => (unescape after).map (d :: ·)
termination_by cs => cs.length
decreasing_by exact Nat.lt_succ_of_le (length_of_readChar ‹_›)

lemma unescape_cons (h : readChar c rest = some (d, after)) :
    unescape (c :: rest) = (unescape after).map (d :: ·) := by
  rw [unescape]
  split
  next hnone =>
    rw [h] at hnone
    cases hnone
  next hsome =>
    rw [h] at hsome
    cases hsome
    rfl

/-! ### Numbers -/

lemma hexValue?_digitChar (h : n < 16) : hexValue? n.digitChar = some n := by
  interval_cases n <;> rfl

lemma isPlain_digitChar (h : n < 16) : isPlain n.digitChar = true := by
  interval_cases n <;> rfl

lemma hexNumber?_concat (digits : List Char) (d : Char) :
    hexNumber? (digits ++ [d]) =
      (hexNumber? digits).bind fun n => (hexValue? d).map (16 * n + ·) := by
  rw [hexNumber?, List.foldlM_append]
  simp only [List.foldlM_cons, List.foldlM_nil, bind_pure]
  rfl

lemma hexNumber?_toDigits (n : Nat) : hexNumber? (Nat.toDigits 16 n) = some n := by
  induction n using Nat.strong_induction_on with
  | h n ih =>
    rw [Nat.toDigits_eq_if (by decide)]
    split
    next h => simp [hexNumber?, hexValue?_digitChar h]
    next h =>
      rw [hexNumber?_concat, ih (n / 16) (by omega), hexValue?_digitChar (Nat.mod_lt n (by decide))]
      simp only [Option.bind_some, Option.map_some, Option.some.injEq]
      omega

lemma hexNumber?_replicate (k : Nat) (digits : List Char) :
    hexNumber? (List.replicate k '0' ++ digits) = hexNumber? digits := by
  induction k with
  | zero => rfl
  | succ k ih =>
    rw [← ih, List.replicate_succ, List.cons_append, hexNumber?, List.foldlM_cons]
    rfl

lemma length_hexPadded (hwidth : 0 < width) (hn : n < 16 ^ width) : (hexPadded width n).length = width := by
  have hlen := (Nat.length_toDigits_le_iff (b := 16) (by decide) hwidth).mpr hn
  rw [hexPadded, List.length_append, List.length_replicate]
  omega

lemma isPlain_of_mem_toDigits (n : Nat) : ∀ d ∈ Nat.toDigits 16 n, isPlain d = true := by
  induction n using Nat.strong_induction_on with
  | h n ih =>
    rw [Nat.toDigits_eq_if (by decide)]
    split
    next h => simpa using isPlain_digitChar h
    next h =>
      intro d hd
      rcases List.mem_append.mp hd with hd | hd
      · exact ih (n / 16) (by omega) d hd
      · rw [List.mem_singleton.mp hd]
        exact isPlain_digitChar (Nat.mod_lt n (by decide))

lemma isPlain_of_mem_hexPadded : ∀ d ∈ hexPadded width n, isPlain d = true := by
  intro d hd
  rcases List.mem_append.mp hd with hd | hd
  · rw [List.eq_of_mem_replicate hd]
    rfl
  · exact isPlain_of_mem_toDigits n d hd

lemma charOf?_toNat (c : Char) : charOf? c.toNat = some c := by
  have hvalid : c.toNat.isValidChar := c.valid
  rw [charOf?, if_pos hvalid, Char.ofNat_toNat]

/-- A number that was written with enough digits is read back. -/
lemma readNumber_hexPadded (hwidth : 0 < width) (hc : c.toNat < 16 ^ width) (rest : List Char) :
    readNumber width (hexPadded width c.toNat ++ rest) = some (c, rest) := by
  have hlen := length_hexPadded hwidth hc
  have hnumber : hexNumber? (hexPadded width c.toNat) = some c.toNat := by
    rw [hexPadded, hexNumber?_replicate, hexNumber?_toDigits]
  have htake : (hexPadded width c.toNat ++ rest).take width = hexPadded width c.toNat :=
    List.take_left' hlen
  have hdrop : (hexPadded width c.toNat ++ rest).drop width = rest := List.drop_left' hlen
  rw [readNumber, htake, hdrop, hnumber]
  simp [hlen, charOf?_toNat]

/-! ### Characters -/

lemma toNat_lt (c : Char) : c.toNat < 16 ^ 8 := by
  rcases c.valid with h | ⟨-, h⟩
  · exact Nat.lt_trans h (by decide)
  · exact Nat.lt_trans h (by decide)

/-- An escape by number is read back. -/
lemma readEscape_numericEscape (c : Char) (rest : List Char) :
    ∃ escape, numericEscape c = '\\' :: escape ∧ readEscape (escape ++ rest) = some (c, rest) := by
  unfold numericEscape
  split
  next h => exact ⟨_, rfl, readNumber_hexPadded (show 0 < 2 by decide) h rest⟩
  next =>
    split
    next h => exact ⟨_, rfl, readNumber_hexPadded (show 0 < 4 by decide) h rest⟩
    next => exact ⟨_, rfl, readNumber_hexPadded (show 0 < 8 by decide) (toNat_lt c) rest⟩

/-- The form of a character inside a literal is read back, whatever follows it. -/
lemma unescape_escapeChar (c : Char) (rest : List Char) :
    unescape (escapeChar c ++ rest) = (unescape rest).map (c :: ·) := by
  unfold escapeChar
  split_ifs with hslash hquote hline hreturn htab hplain
  · subst hslash
    exact unescape_cons rfl
  · subst hquote
    exact unescape_cons rfl
  · subst hline
    exact unescape_cons rfl
  · subst hreturn
    exact unescape_cons rfl
  · subst htab
    exact unescape_cons rfl
  · refine unescape_cons ?_
    rw [readChar, if_neg hslash, if_neg hquote]
    rfl
  · obtain ⟨escape, heq, hread⟩ := readEscape_numericEscape c rest
    rw [heq]
    exact unescape_cons hread

lemma isPlain_of_mem_numericEscape : ∀ d ∈ numericEscape c, isPlain d = true := by
  unfold numericEscape
  split
  · simpa [isPlain] using @isPlain_of_mem_hexPadded c.toNat 2
  · split
    · simpa [isPlain] using @isPlain_of_mem_hexPadded c.toNat 4
    · simpa [isPlain] using @isPlain_of_mem_hexPadded c.toNat 8

lemma isPlain_of_mem_escapeChar (c : Char) : ∀ d ∈ escapeChar c, isPlain d = true := by
  unfold escapeChar
  split_ifs with _ _ _ _ _ hplain
  · exact List.all_eq_true.mp (by decide)
  · exact List.all_eq_true.mp (by decide)
  · exact List.all_eq_true.mp (by decide)
  · exact List.all_eq_true.mp (by decide)
  · exact List.all_eq_true.mp (by decide)
  · simpa using hplain
  · exact isPlain_of_mem_numericEscape

/-! ### Texts -/

/-- What is written inside a literal is printable ASCII. -/
lemma isPlain_of_mem_escape (h : d ∈ escape cs) : isPlain d = true := by
  obtain ⟨c, -, hd⟩ := List.mem_flatMap.mp h
  exact isPlain_of_mem_escapeChar c d hd

/-- What is written inside a literal is read back. -/
lemma unescape_escape (cs : List Char) : unescape (escape cs) = some cs := by
  induction cs with
  | nil => rw [escape, List.flatMap_nil, unescape]
  | cons c cs ih =>
    change unescape (cs.flatMap escapeChar) = some cs at ih
    rw [escape, List.flatMap_cons, unescape_escapeChar, ih, Option.map_some]

end HeaderBind.Text
