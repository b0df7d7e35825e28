/-!
# Settings

What a run may choose: the names of the memory functions that generated code calls, and whether the
generator reports what it skips.
-/

namespace HeaderBind

/-- The choices of a run. -/
structure Settings where
  /-- The function that releases an object of the wrapped library. -/
  free : String := "aff4_free"
  /-- The function that takes another reference to such an object. -/
  incref : String := "aff4_incref"
  /-- The function that reads the pending error of the wrapped library. -/
  errorFunction : String := "aff4_get_current_error"
  /-- Whether skipped declarations are logged. -/
  debug : Bool := false
deriving Repr, Inhabited

end HeaderBind
