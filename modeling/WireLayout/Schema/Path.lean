import WireLayout.Schema.Lemmas

/-!
# Paths through inlined composites

Following inlined attributes leads from one composite to the next.  A path
lists the composites that are being followed, outermost first.  As long as it
repeats no name it can only grow to the number of names that the schema
declares, which is why every such descent ends.
-/

namespace WireLayout.Schema

/-- The number of declared names that a path has not come to yet. -/
def unvisited (schema : Schema) (path : List String) : Nat :=
  (schema.names.filter fun name => !path.contains name).length

/--
Coming to a declared name for the first time leaves fewer names unvisited.
-/
theorem unvisited_append_lt {schema : Schema} {path : List String}
    {name : String} (declared : name ∈ schema.names) (fresh : name ∉ path) :
    schema.unvisited (path ++ [name]) < schema.unvisited path := by
  unfold unvisited
  have later :
      (schema.names.filter fun other => !(path ++ [name]).contains other) =
        (schema.names.filter fun other =>
          !path.contains other).filter fun other =>
        other != name := by
    rw [List.filter_filter]
    apply List.filter_congr
    intro other _
    by_cases equality : other = name <;> simp [equality]
  rw [later]
  refine List.length_filter_lt_length_iff_exists.2 ⟨name, ?_, by simp⟩
  simpa [List.mem_filter] using ⟨declared, fresh⟩

end WireLayout.Schema
