/-!
# Occurrences

Whether one sequence of characters occurs within another one.
-/

namespace WireLayout.Text

/-- Whether a sequence of characters occurs somewhere in another one. -/
def occursIn (wanted : List Char) : List Char → Bool
  | [] => wanted.isEmpty
  | character :: rest =>
      wanted.isPrefixOf (character :: rest) || occursIn wanted rest

/-- A sequence occurs in another one exactly when it is an infix of it. -/
theorem occursIn_iff (wanted text : List Char) :
    occursIn wanted text = true ↔ wanted <:+: text := by
  induction text with
  | nil =>
      simp only [occursIn, List.isEmpty_iff]
      exact List.infix_nil.symm
  | cons character rest ih =>
      rw [occursIn, Bool.or_eq_true, List.isPrefixOf_iff_prefix, ih]
      exact List.infix_cons_iff.symm

end WireLayout.Text
