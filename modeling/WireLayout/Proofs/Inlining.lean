import Mathlib.Data.List.Chain
import Mathlib.Order.Preorder.Finite
import WireLayout.Proofs.Outcome
import WireLayout.Schema.Validation

/-!
# Composites that inline one another

An inlined attribute leads from the composite that declares it to the composite
of its type.  The schema is acyclic when no composite is led back to itself.

The search for circuits follows inlined attributes below a path.  Its two
outcomes are described independently of the order of the search: where it
succeeds, nothing that can be reached lies on the path; where it fails, it has
found a path of inlined attributes that closes.  Both descriptions rest on one
step of the search only.
-/

namespace WireLayout.Schema

/-- A composite has an inlined attribute of a type. -/
def Inlines (schema : Schema) (outer inner : String) : Prop :=
  ∃ layout, schema.layout? outer = some layout ∧
    ∃ attr ∈ layout, attr.isInlined = true ∧ attr.typeName = inner

/-- No composite comes back to itself through inlined attributes. -/
def Acyclic (schema : Schema) : Prop :=
  ∀ name, ¬ Relation.TransGen schema.Inlines name name

/--
A path along inlined attributes that closes: its last name, and no
other, repeats one.
-/
structure IsCircuit (schema : Schema) (path : List String) : Prop where
  chain : path.IsChain schema.Inlines
  closes : ∃ opened last, path = opened ++ [last] ∧ opened.Nodup ∧ last ∈ opened

theorem Inlines.mem_names
    {schema : Schema} {outer inner : String}
    (inlines : schema.Inlines outer inner) : outer ∈ schema.names := by
  rcases inlines with ⟨layout, found, _⟩
  exact mem_names_of_layout? found

/-- Following inlined attributes in an acyclic schema never comes back. -/
theorem Acyclic.nodup_of_isChain
    {schema : Schema} {path : List String}
    (acyclic : schema.Acyclic)
    (chain : path.IsChain schema.Inlines) : path.Nodup := by
  have reaching : path.Pairwise (Relation.TransGen schema.Inlines) :=
    List.isChain_iff_pairwise.mp (chain.imp fun _ _ inlines => .single inlines)
  refine reaching.imp ?_
  rintro name _ reaches rfl
  exact acyclic name reaches

/-- Following inlined attributes in an acyclic schema comes to an end. -/
theorem Acyclic.wellFounded
    {schema : Schema}
    (acyclic : schema.Acyclic) :
    WellFounded fun inner outer => schema.Inlines outer inner := by
  rw [wellFounded_iff_isEmpty_descending_chain]
  refine ⟨?_⟩
  rintro ⟨path, inlines⟩
  -- All names on an endless path are declared, so one of them comes twice.
  have declared (place : Nat) : path place ∈ {name | name ∈ schema.names} :=
    (inlines place).mem_names
  rcases Set.Finite.exists_lt_map_eq_of_forall_mem declared
      schema.names.finite_toSet with
    ⟨first, second, before, same⟩
  have reaches : Relation.TransGen schema.Inlines (path first) (path second) :=
    Nat.rel_of_forall_rel_succ_of_lt _
      (fun place => .single (inlines place)) before
  exact acyclic _ (same ▸ reaches)

/-- A path that closes leads a composite back to itself. -/
theorem IsCircuit.not_acyclic
    {schema : Schema} {path : List String}
    (circuit : schema.IsCircuit path) : ¬ schema.Acyclic := by
  intro acyclic
  rcases circuit.closes with ⟨opened, last, rfl, _, member⟩
  rcases List.append_of_mem member with ⟨before, between, rfl⟩
  have chain : (last :: (between ++ [last])).IsChain schema.Inlines := by
    have whole := circuit.chain
    rw [List.append_assoc, List.cons_append] at whole
    exact whole.right_of_append
  cases between with
  | nil =>
      exact acyclic last
        (Relation.TransGen.single (List.isChain_cons_cons.mp chain).1)
  | cons next rest =>
      rcases List.isChain_cons_cons.mp chain with ⟨first, remaining⟩
      have reaches : Relation.ReflTransGen schema.Inlines next last :=
        List.relationReflTransGen_of_exists_isChain_cons (rest ++ [last])
          remaining (by simp)
      exact acyclic last (Relation.TransGen.head' first reaches)

/-! ## One step of the search -/

/--
Following a layout succeeds exactly when following each of its inlined
attributes does.
-/
theorem followLayout_eq_ok_iff
    {schema : Schema} {path : List String} {layout : List Attribute} :
    schema.followLayout path layout = .ok () ↔
      ∀ attr ∈ layout, attr.isInlined = true →
        schema.followInlined path attr.typeName = .ok () := by
  induction layout with
  | nil => simp [followLayout]
  | cons attr rest ih =>
      rw [followLayout, List.forall_mem_cons, ← ih]
      split
      · next inlined =>
          rw [Outcome.bind_eq_ok_iff, forall_prop_of_true inlined]
          constructor
          · rintro ⟨_, followed, remaining⟩
            exact ⟨followed, remaining⟩
          · rintro ⟨followed, remaining⟩
            exact ⟨(), followed, remaining⟩
      · next plain => simp [plain]

/--
Following a layout fails only where following one of its inlined
attributes does.
-/
theorem exists_of_followLayout_eq_error
    {schema : Schema} {path circuit : List String} {layout : List Attribute}
    (failed : schema.followLayout path layout = .error circuit) :
    ∃ attr ∈ layout, attr.isInlined = true ∧
      schema.followInlined path attr.typeName = .error circuit := by
  induction layout with
  | nil => simp [followLayout] at failed
  | cons attr rest ih =>
      have later (failed : schema.followLayout path rest = .error circuit) :
          ∃ other ∈ attr :: rest, other.isInlined = true ∧
            schema.followInlined path other.typeName = .error circuit := by
        rcases ih failed with ⟨other, member, inlined, failed⟩
        exact ⟨other, List.mem_cons_of_mem _ member, inlined, failed⟩
      rw [followLayout] at failed
      split at failed
      · next inlined =>
          rcases Outcome.bind_eq_error_iff.mp failed with
            failed | ⟨_, _, failed⟩
          · exact ⟨attr, by simp, inlined, failed⟩
          · exact later failed
      · exact later failed

/--
Following a name succeeds exactly when it is new and all that it inlines
can be followed.
-/
theorem followInlined_eq_ok_iff
    {schema : Schema} {path : List String} {name : String} :
    schema.followInlined path name = .ok () ↔
      name ∉ path ∧ ∀ inner, schema.Inlines name inner →
        schema.followInlined (path ++ [name]) inner = .ok () := by
  rw [followInlined]
  split
  · next repeated => simp [repeated]
  · next fresh =>
      split
      · next missing => simp [fresh, Inlines, missing]
      · next layout found =>
          rw [followLayout_eq_ok_iff]
          constructor
          · intro followed
            refine ⟨fresh, ?_⟩
            rintro inner ⟨other, same, attr, member, inlined, rfl⟩
            rcases Option.some.inj (found.symm.trans same) with rfl
            exact followed attr member inlined
          · rintro ⟨_, followed⟩ attr member inlined
            exact followed _ ⟨layout, found, attr, member, inlined, rfl⟩

/--
Following a name fails because the name is repeated, or because something
it inlines fails.
-/
theorem followInlined_eq_error
    {schema : Schema} {path circuit : List String} {name : String}
    (failed : schema.followInlined path name = .error circuit) :
    (name ∈ path ∧ circuit = path ++ [name]) ∨
      (name ∉ path ∧ ∃ inner, schema.Inlines name inner ∧
        schema.followInlined (path ++ [name]) inner = .error circuit) := by
  rw [followInlined] at failed
  split at failed
  · next repeated => exact Or.inl ⟨repeated, (Except.error.inj failed).symm⟩
  · next fresh =>
      split at failed
      · cases failed
      · next layout found =>
          rcases exists_of_followLayout_eq_error failed with
            ⟨attr, member, inlined, failed⟩
          exact Or.inr
            ⟨fresh, attr.typeName,
              ⟨layout, found, attr, member, inlined, rfl⟩, failed⟩

/-! ## The whole search -/

/--
Where the search succeeds, nothing that a name leads to lies on
the path above it.
-/
theorem not_mem_of_followInlined_eq_ok
    {schema : Schema} {path : List String} {name other : String}
    (reaches : Relation.ReflTransGen schema.Inlines name other)
    (followed : schema.followInlined path name = .ok ()) : other ∉ path := by
  induction reaches using Relation.ReflTransGen.head_induction_on
      generalizing path with
  | refl => exact (followInlined_eq_ok_iff.mp followed).1
  | head inlines _ ih =>
      have below := ih ((followInlined_eq_ok_iff.mp followed).2 _ inlines)
      exact fun member => below (List.mem_append_left _ member)

/-- Where the search fails, it reports an extension of its path that closes. -/
theorem isCircuit_of_followInlined_eq_error
    {schema : Schema} {path circuit : List String} {name : String}
    (chain : (path ++ [name]).IsChain schema.Inlines)
    (distinct : path.Nodup)
    (failed : schema.followInlined path name = .error circuit) :
    schema.IsCircuit circuit ∧ path ++ [name] <+: circuit := by
  -- The names that are not on the path yet become fewer with each step.
  induction measure :
      schema.unvisited path using Nat.strongRecOn generalizing path name with
  | ind count ih =>
      rcases followInlined_eq_error failed with
        ⟨repeated, rfl⟩ | ⟨fresh, inner, inlines, failed⟩
      · exact ⟨⟨chain, path, name, rfl, distinct, repeated⟩, List.prefix_rfl⟩
      · have fewer : schema.unvisited (path ++ [name]) < count :=
          measure ▸ unvisited_append_lt inlines.mem_names fresh
        have longer : (path ++ [name] ++ [inner]).IsChain schema.Inlines :=
          chain.append (List.isChain_singleton inner) (by simpa using inlines)
        have stillDistinct : (path ++ [name]).Nodup := by
          simpa [List.nodup_append, distinct] using fun other member =>
            ne_of_mem_of_not_mem member fresh
        have found := ih _ fewer longer stillDistinct failed rfl
        exact ⟨found.1, (List.prefix_append _ _).trans found.2⟩

/--
A check that no composite of the schema inlines itself succeeds exactly on
an acyclic schema.
-/
theorem forall_followInlined_eq_ok_iff
    {schema : Schema} :
    (∀ name layout, schema.layout? name = some layout →
        schema.followInlined [] name = .ok ()) ↔ schema.Acyclic := by
  constructor
  · intro followed name reaches
    rcases Relation.TransGen.head'_iff.mp reaches with ⟨inner, inlines, back⟩
    have ⟨layout, found, _⟩ := inlines
    have step :=
      (followInlined_eq_ok_iff.mp (followed name layout found)).2 inner inlines
    exact not_mem_of_followInlined_eq_ok back step (by simp)
  · intro acyclic name layout _
    cases outcome : schema.followInlined [] name with
    | ok value => rfl
    | error circuit =>
        have closed := isCircuit_of_followInlined_eq_error
          (List.isChain_singleton name) List.nodup_nil outcome
        exact absurd acyclic closed.1.not_acyclic

end WireLayout.Schema
