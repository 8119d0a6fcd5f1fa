import Mathlib
import WireLayout.Proofs.Inlining

/-!
# What validation accepts

A schema is well formed when the values of its enumerations have distinct names
and numbers, when its attributes refer to types, composites and fields that
there are, and when it is acyclic.  Validation decides this: it succeeds
exactly on well-formed schemas, and what it reports otherwise is a violation
that the schema really contains.

Each check of the validation is described by two lemmas: when it succeeds, and
what its fault says.
-/

namespace WireLayout

/-- A schema whose entries fit together. -/
structure Schema.WellFormed (schema : Schema) (byteType : String) : Prop where
  distinctNames : ∀ name enumeration,
    schema.enumeration? name = some enumeration →
      (enumeration.values.map EnumerationValue.name).Nodup
  distinctNumbers : ∀ name enumeration,
    schema.enumeration? name = some enumeration →
      (enumeration.values.map EnumerationValue.number).Nodup
  typesDeclared : ∀ owner layout, schema.layout? owner = some layout →
    ∀ attr ∈ layout, attr.typeName = byteType ∨ attr.typeName ∈ schema.names
  inlinedComposites : ∀ owner layout, schema.layout? owner = some layout →
    ∀ attr ∈ layout, attr.isInlined = true →
      ∃ inner, schema.layout? attr.typeName = some inner
  sizesNamed : ∀ owner layout, schema.layout? owner = some layout →
    ∀ attr ∈ layout, ∀ reference, attr.sizeReference = some reference →
      ∃ sibling ∈ layout, sibling.displayName = reference
  acyclic : schema.Acyclic

/-- What a fault of validation says is true of the schema. -/
inductive SchemaFault.IsViolation (schema : Schema)
    (byteType : String) : SchemaFault → Prop where
  | missingType {owner layout attr}
      (found : schema.layout? owner = some layout)
      (member : attr ∈ layout)
      (notBytes : attr.typeName ≠ byteType)
      (undeclared : attr.typeName ∉ schema.names) :
      IsViolation schema byteType
        (.missingType owner attr.displayName attr.typeName)
  | danglingType {owner layout attr}
      (found : schema.layout? owner = some layout)
      (member : attr ∈ layout)
      (inlined : attr.isInlined = true)
      (noComposite : schema.layout? attr.typeName = none) :
      IsViolation schema byteType
        (.dangling ⟨owner, attr.displayName, attr.typeName, .type⟩)
  | danglingSize {owner layout attr reference}
      (found : schema.layout? owner = some layout)
      (member : attr ∈ layout)
      (referred : attr.sizeReference = some reference)
      (unnamed : ∀ sibling ∈ layout, sibling.displayName ≠ reference) :
      IsViolation schema byteType
        (.dangling ⟨owner, attr.displayName, reference, .size⟩)
  | circular {path}
      (circuit : schema.IsCircuit path) :
      IsViolation schema byteType (.circular path)
  | repeatedValueName {owner enumeration name}
      (found : schema.enumeration? owner = some enumeration)
      (twice : 2 ≤ (enumeration.values.map EnumerationValue.name).count name) :
      IsViolation schema byteType (.repeatedValueName owner name)
  | repeatedNumber {owner enumeration number}
      (found : schema.enumeration? owner = some enumeration)
      (twice :
        2 ≤ (enumeration.values.map EnumerationValue.number).count number) :
      IsViolation schema byteType (.repeatedNumber owner number)

/-! ## Enumerations -/

namespace Enumeration

/--
Values pass exactly when no name and no number occurs twice, those
before them included.
-/
theorem checkValues_eq_ok_iff
    {owner : String} {earlier values : List EnumerationValue} :
    checkValues owner earlier values = .ok () ↔
      (∀ value ∈ values, ∀ other ∈ earlier,
          other.name ≠ value.name ∧ other.number ≠ value.number) ∧
        (values.map EnumerationValue.name).Nodup ∧
        (values.map EnumerationValue.number).Nodup := by
  induction values generalizing earlier with
  | nil => simp [checkValues]
  | cons value rest ih =>
      rw [checkValues]
      split
      · next repeated =>
          rcases List.any_eq_true.mp repeated with ⟨other, member, same⟩
          have same : other.name = value.name := by simpa using same
          refine iff_of_false (by simp) fun passed => ?_
          exact (passed.1 value (by simp) other member).1 same
      · next newName =>
          split
          · next repeated =>
              rcases List.any_eq_true.mp repeated with ⟨other, member, same⟩
              have same : other.number = value.number := by simpa using same
              refine iff_of_false (by simp) fun passed => ?_
              exact (passed.1 value (by simp) other member).2 same
          · next newNumber =>
              simp only [List.any_eq_true, beq_iff_eq, not_exists,
                not_and] at newName newNumber
              rw [ih]
              simp only [List.mem_cons, forall_eq_or_imp, List.map_cons,
                List.nodup_cons, List.mem_map, not_exists, not_and]
              constructor
              · rintro ⟨apart, names, numbers⟩
                refine
                  ⟨⟨fun other member =>
                    ⟨newName other member, newNumber other member⟩,
                    fun later member => (apart later member).2⟩, ⟨?_, names⟩,
                    ⟨?_, numbers⟩⟩
                · exact fun later member same =>
                    (apart later member).1.1 same.symm
                · exact fun later member same =>
                    (apart later member).1.2 same.symm
              · rintro ⟨⟨_, apart⟩, ⟨freshName, names⟩, ⟨freshNumber, numbers⟩⟩
                refine ⟨fun later member => ⟨⟨?_, ?_⟩, apart later member⟩,
                  names, numbers⟩
                · exact fun same => freshName later member same.symm
                · exact fun same => freshNumber later member same.symm

/--
The fault of values is a name or a number that occurs twice among them
and those before.
-/
theorem repeated_of_checkValues_eq_error
    {owner : String} {earlier values : List EnumerationValue}
    {fault : SchemaFault}
    (failed : checkValues owner earlier values = .error fault) :
    (∃ name, fault = .repeatedValueName owner name ∧
        2 ≤ ((earlier ++ values).map EnumerationValue.name).count name) ∨
      ∃ number, fault = .repeatedNumber owner number ∧
        2 ≤ ((earlier ++ values).map EnumerationValue.number).count number := by
  induction values generalizing earlier with
  | nil => simp [checkValues] at failed
  | cons value rest ih =>
      rw [checkValues] at failed
      split at failed
      · next repeated =>
          rcases List.any_eq_true.mp repeated with ⟨other, member, same⟩
          have occurs : value.name ∈ earlier.map EnumerationValue.name :=
            List.mem_map.mpr ⟨other, member, by simpa using same⟩
          have positive := List.count_pos_iff.mpr occurs
          refine Or.inl ⟨value.name, (Except.error.inj failed).symm, ?_⟩
          rw [List.map_append, List.count_append, List.map_cons,
            List.count_cons_self]
          omega
      · split at failed
        · next repeated =>
            rcases List.any_eq_true.mp repeated with ⟨other, member, same⟩
            have occurs : value.number ∈ earlier.map EnumerationValue.number :=
              List.mem_map.mpr ⟨other, member, by simpa using same⟩
            have positive := List.count_pos_iff.mpr occurs
            refine Or.inr ⟨value.number, (Except.error.inj failed).symm, ?_⟩
            rw [List.map_append, List.count_append, List.map_cons,
              List.count_cons_self]
            omega
        · -- The values before are kept in reverse, which leaves the
          -- counts as they are.
          have reordered :
              (value :: earlier ++ rest).Perm (earlier ++ value :: rest) :=
            List.perm_middle.symm
          have names (name : String) :=
            (reordered.map EnumerationValue.name).count_eq name
          have numbers (number : Nat) :=
            (reordered.map EnumerationValue.number).count_eq number
          rcases ih failed with
            ⟨name, equality, twice⟩ | ⟨number, equality, twice⟩
          · exact Or.inl ⟨name, equality, names name ▸ twice⟩
          · exact Or.inr ⟨number, equality, numbers number ▸ twice⟩

end Enumeration

/-! ## Attributes and composites -/

namespace Schema

/-- An attribute passes exactly when all that it refers to is there. -/
theorem checkAttribute_eq_ok_iff
    {schema : Schema} {byteType owner : String} {layout : List Attribute}
    {attr : Attribute} :
    schema.checkAttribute byteType owner layout attr = .ok () ↔
      (attr.typeName = byteType ∨ attr.typeName ∈ schema.names) ∧
        (attr.isInlined = true →
          ∃ inner, schema.layout? attr.typeName = some inner) ∧
        ∀ reference, attr.sizeReference = some reference →
          ∃ sibling ∈ layout, sibling.displayName = reference := by
  rw [checkAttribute]
  split
  · next missing =>
      simp only [bne_iff_ne, Bool.and_eq_true, Bool.not_eq_true',
        ← Bool.not_eq_true, declares_iff] at missing
      exact iff_of_false (by simp) fun passed =>
        passed.1.elim missing.1 missing.2
  · next declared =>
      simp only [bne_iff_ne, Bool.and_eq_true, Bool.not_eq_true',
        ← Bool.not_eq_true, declares_iff, not_and_or, not_not] at declared
      split
      · next noComposite =>
          simp only [Bool.and_eq_true, Option.isNone_iff_eq_none] at noComposite
          refine iff_of_false (by simp) fun passed => ?_
          rcases passed.2.1 noComposite.1 with ⟨inner, found⟩
          simp [noComposite.2] at found
      · next composite =>
          simp only [Bool.and_eq_true, Option.isNone_iff_eq_none,
            not_and] at composite
          have inlinedComposite : attr.isInlined = true →
              ∃ inner, schema.layout? attr.typeName = some inner :=
            fun inlined => Option.ne_none_iff_exists'.mp (composite inlined)
          split
          · next reference referred =>
              split
              · next named =>
                  refine iff_of_true rfl ⟨declared, inlinedComposite, ?_⟩
                  intro other same
                  rcases Option.some.inj (referred.symm.trans same) with rfl
                  simpa using named
              · next unnamed =>
                  refine iff_of_false (by simp) fun passed => unnamed ?_
                  simpa using passed.2.2 reference referred
          · next unsized =>
              exact iff_of_true rfl
                ⟨declared, inlinedComposite, by simp [unsized]⟩

/-- The fault of an attribute is a reference of it to nothing. -/
theorem isViolation_of_checkAttribute_eq_error
    {schema : Schema} {byteType owner : String} {layout : List Attribute}
    {attr : Attribute} {fault : SchemaFault}
    (found : schema.layout? owner = some layout)
    (member : attr ∈ layout)
    (failed : schema.checkAttribute byteType owner layout attr = .error fault) :
    fault.IsViolation schema byteType := by
  rw [checkAttribute] at failed
  split at failed
  · next missing =>
      simp only [bne_iff_ne, Bool.and_eq_true, Bool.not_eq_true',
        ← Bool.not_eq_true, declares_iff] at missing
      rcases Except.error.inj failed with rfl
      exact .missingType found member missing.1 missing.2
  · split at failed
    · next noComposite =>
        simp only [Bool.and_eq_true, Option.isNone_iff_eq_none] at noComposite
        rcases Except.error.inj failed with rfl
        exact .danglingType found member noComposite.1 noComposite.2
    · split at failed
      · next reference referred =>
          split at failed
          · cases failed
          · next unnamed =>
              rcases Except.error.inj failed with rfl
              simp only [List.any_eq_true, beq_iff_eq, not_exists,
                not_and] at unnamed
              exact .danglingSize found member referred unnamed
      · cases failed

theorem checkAcyclic_eq_ok_iff
    {schema : Schema} {name : String} :
    schema.checkAcyclic name = .ok () ↔ schema.followInlined [] name = .ok () :=
  Outcome.mapError_eq_ok_iff

/-- The fault of the search is a path that closes. -/
theorem isViolation_of_checkAcyclic_eq_error
    {schema : Schema} {byteType name : String} {fault : SchemaFault}
    (failed : schema.checkAcyclic name = .error fault) :
    fault.IsViolation schema byteType := by
  rcases Outcome.mapError_eq_error_iff.mp failed with ⟨path, closed, rfl⟩
  have circuit := isCircuit_of_followInlined_eq_error
    (List.isChain_singleton name) List.nodup_nil closed
  exact .circular circuit.1

/-! ## The whole schema -/

theorem layout?_of_mem_entries
    {schema : Schema} {name : String} {type : Composite}
    (member : (name, Descriptor.composite type) ∈ schema.entries) :
    schema.layout? name = some type.layout :=
  layout?_eq_some_iff.mpr ⟨type, find?_eq_some_iff.mpr member, rfl⟩

theorem enumeration?_of_mem_entries
    {schema : Schema} {name : String} {type : Enumeration}
    (member : (name, Descriptor.enumeration type) ∈ schema.entries) :
    schema.enumeration? name = some type :=
  enumeration?_eq_some_iff.mpr (find?_eq_some_iff.mpr member)

theorem isViolation_of_checkEntry_eq_error
    {schema : Schema} {byteType : String} {entry : Entry} {fault : SchemaFault}
    (member : entry ∈ schema.entries)
    (failed : schema.checkEntry byteType entry = .error fault) :
    fault.IsViolation schema byteType := by
  rcases entry with ⟨name, descriptor⟩
  cases descriptor with
  | atomic type => cases failed
  | enumeration type =>
      have found := enumeration?_of_mem_entries member
      rcases Enumeration.repeated_of_checkValues_eq_error failed with
        ⟨repeated, rfl, twice⟩ | ⟨repeated, rfl, twice⟩
      · exact .repeatedValueName found (by simpa using twice)
      · exact .repeatedNumber found (by simpa using twice)
  | composite type =>
      have found := layout?_of_mem_entries member
      rcases Outcome.bind_eq_error_iff.mp failed with failed | ⟨_, _, failed⟩
      · rcases Outcome.forM_eq_error_iff.mp failed with
          ⟨before, attr, after, split, _, failed⟩
        have declared : attr ∈ type.layout := by simp [split]
        exact isViolation_of_checkAttribute_eq_error found declared failed
      · exact isViolation_of_checkAcyclic_eq_error failed

/-- All entries pass exactly when the schema is well formed. -/
theorem forall_checkEntry_eq_ok_iff
    {schema : Schema} {byteType : String} :
    (∀ entry ∈ schema.entries, schema.checkEntry byteType entry = .ok ()) ↔
      schema.WellFormed byteType := by
  constructor
  · intro passed
    have values (name : String) (enumeration : Enumeration)
        (found : schema.enumeration? name = some enumeration) :
        Enumeration.checkValues name [] enumeration.values = .ok () :=
      passed (name, .enumeration enumeration)
        (find?_eq_some_iff.mp (enumeration?_eq_some_iff.mp found))
    have composites (owner : String) (layout : List Attribute)
        (found : schema.layout? owner = some layout) :
        (∀ attr ∈ layout,
          schema.checkAttribute byteType owner layout attr = .ok ()) ∧
          schema.followInlined [] owner = .ok () := by
      rcases layout?_eq_some_iff.mp found with ⟨type, located, rfl⟩
      have entry :=
        passed (owner, .composite type) (find?_eq_some_iff.mp located)
      rcases Outcome.bind_eq_ok_iff.mp entry with ⟨_, attributes, acyclic⟩
      exact ⟨Outcome.forM_eq_ok_iff.mp attributes,
        checkAcyclic_eq_ok_iff.mp acyclic⟩
    have each (owner : String) (layout : List Attribute)
        (found : schema.layout? owner = some layout) (attr : Attribute)
        (member : attr ∈ layout) :=
      checkAttribute_eq_ok_iff.mp
        ((composites owner layout found).1 attr member)
    constructor
    · intro name enumeration found
      exact (Enumeration.checkValues_eq_ok_iff.mp
        (values name enumeration found)).2.1
    · intro name enumeration found
      exact (Enumeration.checkValues_eq_ok_iff.mp
        (values name enumeration found)).2.2
    · intro owner layout found attr member
      exact (each owner layout found attr member).1
    · intro owner layout found attr member
      exact (each owner layout found attr member).2.1
    · intro owner layout found attr member
      exact (each owner layout found attr member).2.2
    · exact forall_followInlined_eq_ok_iff.mp fun name layout found =>
        (composites name layout found).2
  · rintro wellFormed ⟨name, descriptor⟩ member
    cases descriptor with
    | atomic type => rfl
    | enumeration type =>
        have found := enumeration?_of_mem_entries member
        exact Enumeration.checkValues_eq_ok_iff.mpr
          ⟨by simp, wellFormed.distinctNames name type found,
            wellFormed.distinctNumbers name type found⟩
    | composite type =>
        have found := layout?_of_mem_entries member
        refine Outcome.bind_eq_ok_iff.mpr
          ⟨(), Outcome.forM_eq_ok_iff.mpr ?_, ?_⟩
        · intro attr declared
          exact checkAttribute_eq_ok_iff.mpr
            ⟨wellFormed.typesDeclared name _ found attr declared,
              wellFormed.inlinedComposites name _ found attr declared,
              wellFormed.sizesNamed name _ found attr declared⟩
        · exact checkAcyclic_eq_ok_iff.mpr
            (forall_followInlined_eq_ok_iff.mpr wellFormed.acyclic name _ found)

theorem validate_eq_ok_iff
    {schema : Schema} {byteType : String} :
    schema.validate byteType = .ok () ↔ schema.WellFormed byteType := by
  rw [validate, Outcome.forM_eq_ok_iff, forall_checkEntry_eq_ok_iff]

theorem isViolation_of_validate_eq_error
    {schema : Schema} {byteType : String} {fault : SchemaFault}
    (failed : schema.validate byteType = .error fault) :
    fault.IsViolation schema byteType := by
  rcases Outcome.forM_eq_error_iff.mp failed with
    ⟨before, entry, after, split, _, failed⟩
  exact isViolation_of_checkEntry_eq_error (by simp [split]) failed

/--
Validation decides well-formedness: it accepts exactly the well-formed schemas,
and whatever it reports of another one is a violation that is there.
-/
theorem validate_decides_wellFormed (schema : Schema) (byteType : String) :
    (schema.validate byteType = .ok () ↔ schema.WellFormed byteType) ∧
      ∀ fault, schema.validate byteType = .error fault →
        fault.IsViolation schema byteType :=
  ⟨validate_eq_ok_iff, fun _ failed => isViolation_of_validate_eq_error failed⟩

/-- Two composites that inline each other. -/
def entangled : Schema where
  entries := [("Outer", .composite { layout := [.inlining "Inner"] }),
    ("Inner", .composite { layout := [.inlining "Outer"] })]
  distinct := by decide

/--
Of two composites that inline each other a violation is reported,
and it is there.
-/
theorem isViolation_entangled :
    entangled.validate "byte" = .error (.circular ["Outer", "Inner", "Outer"]) ∧
      (SchemaFault.circular ["Outer", "Inner", "Outer"]).IsViolation entangled
        "byte" := by
  have failed :
      entangled.validate "byte" =
        .error (.circular ["Outer", "Inner", "Outer"]) := by cbv
  exact ⟨failed, (validate_decides_wellFormed entangled "byte").2 _ failed⟩

end Schema

end WireLayout
