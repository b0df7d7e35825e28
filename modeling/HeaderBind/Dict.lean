/-!
# Dictionaries in order of insertion

A dictionary keeps its entries in the order in which their keys first came in. Assigning to a key
that is already there keeps its place.
-/

namespace HeaderBind

/-- Entries by key, in order of first insertion. -/
structure Dict (κ ν : Type) where
  entries : List (κ × ν) := []
deriving Repr, Inhabited, DecidableEq

namespace Dict

variable {κ ν : Type} [BEq κ]

/-- The dictionary without entries. -/
def empty : Dict κ ν := ⟨[]⟩

/-- The value under a key. -/
def get? (d : Dict κ ν) (k : κ) : Option ν :=
  d.entries.lookup k

/-- Whether there is an entry under the key. -/
def contains (d : Dict κ ν) (k : κ) : Bool :=
  (d.get? k).isSome

/-- Assign to a key in a list of entries. -/
def insertList (k : κ) (v : ν) : List (κ × ν) → List (κ × ν)
  | [] => [(k, v)]
  | (k', v') :: rest => if k == k' then (k', v) :: rest else (k', v') :: insertList k v rest

/-- Assign to a key: in place when the key is there, else at the end. -/
def insert (d : Dict κ ν) (k : κ) (v : ν) : Dict κ ν :=
  ⟨insertList k v d.entries⟩

theorem lookup_insertList [LawfulBEq κ] (k k' : κ) (v : ν) (es : List (κ × ν)) :
    (insertList k v es).lookup k' = if k' == k then some v else es.lookup k' := by
  induction es with
  | nil => cases h : k' == k <;> simp [insertList, List.lookup_cons, h]
  | cons e rest ih =>
    obtain ⟨k₀, v₀⟩ := e
    by_cases h₀ : k = k₀
    · subst h₀
      cases h : k' == k <;> simp [insertList, List.lookup_cons, h]
    · have h₁ : (k == k₀) = false := by simp [h₀]
      simp only [insertList, h₁, Bool.false_eq_true, if_false]
      cases h : k' == k₀
      · simp [List.lookup_cons, h, ih]
      · have : k' = k₀ := by simpa using h
        have h₂ : (k' == k) = false := by simp [this, Ne.symm h₀]
        simp [List.lookup_cons, h, h₂]

/-- After an assignment the key has the new value, and all other keys have the values that they
had. -/
@[simp]
theorem get?_insert [LawfulBEq κ] (d : Dict κ ν) (k k' : κ) (v : ν) :
    (d.insert k v).get? k' = if k' == k then some v else d.get? k' :=
  lookup_insertList k k' v d.entries

/-- Leave out the entry under a key. -/
def erase (d : Dict κ ν) (k : κ) : Dict κ ν :=
  ⟨d.entries.filter fun e => !(e.1 == k)⟩

/-- The keys, in order of first insertion. -/
def keys (d : Dict κ ν) : List κ :=
  d.entries.map Prod.fst

theorem keys_insertList [LawfulBEq κ] (k : κ) (v : ν) (es : List (κ × ν)) :
    (insertList k v es).map Prod.fst =
      if k ∈ es.map Prod.fst then es.map Prod.fst else es.map Prod.fst ++ [k] := by
  induction es with
  | nil => simp [insertList]
  | cons e rest ih =>
    by_cases h : k = e.1
    · simp [insertList, h]
    · have h' : (k == e.1) = false := by simp [h]
      simp only [insertList, h', Bool.false_eq_true, if_false, List.map_cons, ih, List.mem_cons, h,
        false_or]
      split <;> simp

/-- A key that is there keeps its place; a new key comes last. -/
theorem keys_insert [LawfulBEq κ] (d : Dict κ ν) (k : κ) (v : ν) :
    (d.insert k v).keys = if k ∈ d.keys then d.keys else d.keys ++ [k] :=
  keys_insertList k v d.entries

/-- The values, in the order of their keys. -/
def values (d : Dict κ ν) : List ν :=
  d.entries.map Prod.snd

end Dict

end HeaderBind
