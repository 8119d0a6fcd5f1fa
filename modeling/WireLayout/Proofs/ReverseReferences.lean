import WireLayout.Proofs.Obstacles

/-!
# Values for tagged composites

A generated composite tags itself with an enumeration by declaring a
constant of its type.  The model of the enumeration has a value for each
such constant after its declared values, named after the composite, in the
order of the schema.

A composite adds as many values as it has tags, so its name is repeated if it
has several.  If none has, every tagged composite adds one value, and the
names are distinct.
-/

namespace WireLayout

/-! ## Constants by their composites -/

/--
The constants of a type that a composite declares, none if it is not generated.
-/
def Schema.tags (schema : Schema) (settings : Settings)
    (typeName owner : String) : List Attribute :=
  if settings.generates owner then
    ((schema.layout? owner).getD []).filter fun attr =>
      attr.isConstant && attr.typeName == typeName
  else []

/-- The constants of a type are the tags of one name after the other. -/
theorem constantReferences_eq_flatMap
    (schema : Schema) (settings : Settings) (typeName : String) :
    constantReferences schema settings typeName =
      schema.names.flatMap fun owner =>
        (schema.tags settings typeName owner).map
          (ConstantReference.mk owner) := by
  -- The induction is on the entries met so far, whose layouts are those of the
  -- whole schema.
  obtain ⟨entries, same⟩ : ∃ entries, entries = schema.entries := ⟨_, rfl⟩
  have declared : entries ⊆ schema.entries := same ▸ List.Subset.refl _
  rw [constantReferences, Schema.composites, Schema.names, ← same]
  clear same
  induction entries with
  | nil => rfl
  | cons entry rest ih =>
      rcases entry with ⟨owner, descriptor⟩
      have among : (owner, descriptor) ∈ schema.entries :=
        declared List.mem_cons_self
      have found := Schema.find?_eq_some_iff.mpr among
      rw [List.map_cons, List.flatMap_cons,
        ← ih (List.subset_of_cons_subset declared)]
      cases descriptor with
      | atomic type => simp [Schema.tags, Schema.layout?, found]
      | enumeration type => simp [Schema.tags, Schema.layout?, found]
      | composite type =>
          cases generated : settings.generates owner with
          | false => simp [Schema.tags, generated]
          | true => simp [Schema.tags, Schema.layout?, found, generated]

theorem map_owner_constantReferences
    (schema : Schema) (settings : Settings) (typeName : String) :
    (constantReferences schema settings typeName).map ConstantReference.owner =
      schema.names.flatMap fun owner =>
        List.replicate (schema.tags settings typeName owner).length owner := by
  rw [constantReferences_eq_flatMap, List.map_flatMap]
  refine List.flatMap_congr fun owner _ => ?_
  rw [List.map_map]
  exact List.map_const' ..

/-- Only names of a schema have tags. -/
theorem Schema.tags_eq_nil_of_not_mem
    {schema : Schema} {settings : Settings} {typeName owner : String}
    (undeclared : owner ∉ schema.names) :
    schema.tags settings typeName owner = [] := by
  have missing : schema.layout? owner = none := by
    rw [layout?, find?_eq_none_iff.mpr undeclared]
  simp [tags, missing]

/-! ## Repeated names -/

section Repetition

variable {keys : List String} {amount : String → Nat}

/-- Distinct names that are repeated occur as often as they are. -/
theorem count_flatMap_replicate
    {key : String}
    (distinct : keys.Nodup)
    (silent : key ∉ keys → amount key = 0) :
    (keys.flatMap fun key => List.replicate (amount key) key).count key =
      amount key := by
  induction keys with
  | nil => simp [silent]
  | cons head rest ih =>
      rcases List.nodup_cons.mp distinct with ⟨absent, distinct⟩
      rw [List.flatMap_cons, List.count_append, List.count_replicate]
      by_cases same : head = key
      · subst same
        have later :
            head ∉ rest.flatMap fun key => List.replicate (amount key) key := by
          simp only [List.mem_flatMap, List.mem_replicate, not_exists, not_and]
          rintro other among _ rfl
          exact absent among
        simp [List.count_eq_zero.mpr later]
      · rw [ih distinct fun missing => silent (by simp [missing, Ne.symm same])]
        simp [same]

/-- Names that occur once at most are those that occur. -/
theorem flatMap_replicate_eq_filter
    (single : ∀ key ∈ keys, amount key ≤ 1) :
    (keys.flatMap fun key => List.replicate (amount key) key) =
      keys.filter fun key => amount key != 0 := by
  induction keys with
  | nil => rfl
  | cons head rest ih =>
      rcases List.forall_mem_cons.mp single with ⟨first, later⟩
      rw [List.flatMap_cons, List.filter_cons, ih later]
      rcases Nat.le_one_iff_eq_zero_or_eq_one.mp first with none | one
      · simp [none]
      · simp [one]

end Repetition

/-! ## Values of models -/

/-- The value for a constant is named after the composite that declares it. -/
theorem ConstantReference.name_and_source_of_model_eq_ok
    {language : Language} {enumeration : Enumeration}
    {reference : ConstantReference} {value : EnumValueModel}
    (models : reference.model language enumeration = .ok value) :
    value.name = reference.owner ∧ value.source = .reverseReference := by
  rcases Outcome.bind_eq_ok_iff.mp models with ⟨number, _, result⟩
  rcases Except.ok.inj result with rfl
  exact ⟨rfl, rfl⟩

namespace EnumModel

variable {schema : Schema} {settings : Settings} {language : Language}
  {name : String} {model : EnumModel}

/--
The values for constants are named after the composites that declare them.
-/
theorem values_eq_of_build_eq_ok
    (built : EnumModel.build schema settings language name = .ok model) :
    (∃ enumeration, schema.enumeration? name = some enumeration ∧
      model.values =
        enumeration.values.map EnumerationValue.model ++
          model.reverseReferences) ∧
      model.reverseReferences.map EnumValueModel.name =
        (constantReferences schema settings name).map
          ConstantReference.owner := by
  rw [build] at built
  split at built
  · cases built
  · next enumeration found =>
      rcases Outcome.bind_eq_ok_iff.mp built with ⟨referenced, modelled, result⟩
      have values : model.values =
          enumeration.values.map EnumerationValue.model ++ referenced := by
        rcases Except.ok.inj result with rfl
        rfl
      have sides := (Outcome.mapM_eq_ok_iff.mp modelled).imp
        fun _ _ models =>
          ConstantReference.name_and_source_of_model_eq_ok models
      have dropped : (enumeration.values.map EnumerationValue.model).filter
          (fun value => value.source == .reverseReference) = [] := by
        simp [EnumerationValue.model]
      have kept :
          referenced.filter (fun value => value.source == .reverseReference) =
          referenced := by
        rw [List.filter_eq_self]
        intro value among
        rcases exists_left_of_forall₂ sides among with ⟨_, _, _, source⟩
        rw [source]
        rfl
      have references : model.reverseReferences = referenced := by
        rw [reverseReferences, values, List.filter_append, dropped, kept,
          List.nil_append]
      rw [references]
      refine ⟨⟨enumeration, found, values⟩, Eq.symm ?_⟩
      rw [← List.forall₂_eq_eq_eq, List.forall₂_map_left_iff,
        List.forall₂_map_right_iff]
      exact sides.imp fun _ _ pair => pair.1.symm

/--
The model of an enumeration has the declared values, and then values that are
named after the composites with tags of the enumeration, one for each tag.  The
names are distinct exactly when no composite has two tags; then each tagged
composite, in the order of the schema, adds one value.
-/
theorem reverseReferences_of_build_eq_ok
    (built : EnumModel.build schema settings language name = .ok model) :
    (∃ enumeration, schema.enumeration? name = some enumeration ∧
      model.values =
        enumeration.values.map EnumerationValue.model ++
          model.reverseReferences) ∧
      (∀ owner, (model.reverseReferences.map EnumValueModel.name).count owner =
        (schema.tags settings name owner).length) ∧
      ((model.reverseReferences.map EnumValueModel.name).Nodup ↔
        ∀ owner, (schema.tags settings name owner).length ≤ 1) ∧
      ((∀ owner, (schema.tags settings name owner).length ≤ 1) →
        model.reverseReferences.map EnumValueModel.name =
          schema.names.filter fun owner =>
            (schema.tags settings name owner).length != 0) := by
  rcases values_eq_of_build_eq_ok built with ⟨values, names⟩
  rw [map_owner_constantReferences] at names
  have counts (owner : String) :
      (model.reverseReferences.map EnumValueModel.name).count owner =
        (schema.tags settings name owner).length := by
    rw [names]
    refine count_flatMap_replicate (Schema.nodup_names schema) fun undeclared =>
      ?_
    rw [Schema.tags_eq_nil_of_not_mem undeclared, List.length_nil]
  refine ⟨values, counts, ?_, ?_⟩
  · simp only [List.nodup_iff_count_le_one, counts]
  · intro single
    rw [names]
    exact flatMap_replicate_eq_filter fun owner _ => single owner

end EnumModel

/-- A composite with two constants of one enumeration. -/
def Schema.tagged : Schema where
  entries := [
    ("Code",
      .enumeration { size := 1, values := [{ name := "NONE", number := 0 }] }),
    ("Tagged", .composite { layout := [
      { Attribute.named "CODE" "Code" with
        disposition := some .constant, value := some (.number 1) },
      { Attribute.named "OTHER_CODE" "Code" with
        disposition := some .constant, value := some (.number 2) }] })]
  distinct := by decide

/-- The composite adds two values to the model of the enumeration. -/
theorem exists_build_tagged :
    ∃ model, EnumModel.build .tagged .standard .java "Code" = .ok model ∧
      model.reverseReferences.map EnumValueModel.name =
        ["Tagged", "Tagged"] := by
  apply Outcome.map_eq_ok_iff.mp
  cbv

/-- The values are named after the composite, one for each of its constants. -/
theorem reverseReferences_tagged :
    ∃ model, EnumModel.build .tagged .standard .java "Code" = .ok model ∧
      (∃ enumeration, Schema.tagged.enumeration? "Code" = some enumeration ∧
        model.values =
          enumeration.values.map EnumerationValue.model ++
            model.reverseReferences) ∧
      (∀ owner, (model.reverseReferences.map EnumValueModel.name).count owner =
        (Schema.tagged.tags .standard "Code" owner).length) ∧
      ((model.reverseReferences.map EnumValueModel.name).Nodup ↔
        ∀ owner, (Schema.tagged.tags .standard "Code" owner).length ≤ 1) ∧
      ((∀ owner, (Schema.tagged.tags .standard "Code" owner).length ≤ 1) →
        model.reverseReferences.map EnumValueModel.name =
          Schema.tagged.names.filter fun owner =>
            (Schema.tagged.tags .standard "Code" owner).length != 0) := by
  rcases exists_build_tagged with ⟨model, built, _⟩
  exact ⟨model, built, EnumModel.reverseReferences_of_build_eq_ok built⟩

/-- A tagged composite can add more than one value, under one name. -/
theorem reverseReferences_tagged_not_nodup :
    ∃ model, EnumModel.build .tagged .standard .java "Code" = .ok model ∧
      (¬ ∀ owner, Schema.tagged.tags .standard "Code" owner ≠ [] →
        (model.reverseReferences.map EnumValueModel.name).count owner = 1) ∧
      ¬ (model.reverseReferences.map EnumValueModel.name).Nodup := by
  rcases exists_build_tagged with ⟨model, built, names⟩
  refine ⟨model, built, ?_, ?_⟩
  · intro once
    have two :
        (Schema.tagged.tags .standard "Code" "Tagged").length = 2 := by cbv
    have tagged : Schema.tagged.tags .standard "Code" "Tagged" ≠ [] := by
      intro empty
      rw [empty] at two
      cases two
    have one := once "Tagged" tagged
    rw [names] at one
    exact absurd one (by decide)
  · rw [names]
    decide

end WireLayout
