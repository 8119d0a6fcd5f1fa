import WireLayout.Proofs.Dependence
import WireLayout.Proofs.Entries
import WireLayout.Proofs.ReverseReferences

/-!
# The order of declarations

It does not matter in which order a schema declares its types.  If the entries
are permuted, every name keeps its descriptor.  So both schemas are valid or
neither is, and atomic types and composites have the same models.

The model of an enumeration is the only one for which a whole schema is gone
through: the constants of its type are found in the order of the composites,
and the values for them are permuted as these are.  A schema compiles if each
of its entries does, so it is of no account either which of several faults
would be met first.
-/

namespace WireLayout

/-! ## Permuted entries -/

section Entries

variable {schema other : Schema} {settings : Settings} {language : Language}

/-- Permuted entries are found under the same names. -/
theorem Schema.agreesAt_of_perm
    (permuted : schema.entries.Perm other.entries) (name : String) :
    schema.AgreesAt other name := by
  refine Option.ext fun descriptor => ?_
  rw [find?_eq_some_iff, find?_eq_some_iff]
  exact permuted.mem_iff

theorem Schema.WellFormed.of_agreesAt
    {byteType : String}
    (wellFormed : schema.WellFormed byteType)
    (agrees : ∀ name, schema.AgreesAt other name) :
    other.WellFormed byteType := by
  have layouts : schema.layout? = other.layout? :=
    funext fun name => (agrees name).layout?_eq
  have enumerations : schema.enumeration? = other.enumeration? :=
    funext fun name => (agrees name).enumeration?_eq
  have inlines : schema.Inlines = other.Inlines := by
    funext outer inner
    rw [Schema.Inlines, Schema.Inlines, layouts]
  have declared (name : String) : name ∈ schema.names ↔ name ∈ other.names := by
    rw [← Schema.declares_iff, ← Schema.declares_iff, Schema.declares,
      Schema.declares, agrees name]
  exact {
    distinctNames := enumerations ▸ wellFormed.distinctNames
    distinctNumbers := enumerations ▸ wellFormed.distinctNumbers
    typesDeclared := by
      simpa only [layouts, declared] using wellFormed.typesDeclared
    inlinedComposites := by
      simpa only [layouts] using wellFormed.inlinedComposites
    sizesNamed := layouts ▸ wellFormed.sizesNamed
    acyclic := by
      simpa only [Schema.Acyclic, inlines] using wellFormed.acyclic }

/-- Schemas that hold the same descriptors are valid alike. -/
theorem Schema.validate_eq_ok_iff_of_agreesAt
    {byteType : String}
    (agrees : ∀ name, schema.AgreesAt other name) :
    schema.validate byteType = .ok () ↔ other.validate byteType = .ok () := by
  rw [validate_eq_ok_iff, validate_eq_ok_iff]
  constructor
  · intro wellFormed
    exact wellFormed.of_agreesAt agrees
  · intro wellFormed
    exact wellFormed.of_agreesAt fun name => (agrees name).symm

/-! ## Permuted models -/

theorem TypeModel.build_eq_of_agreesAt
    {name : String}
    (agrees : ∀ name, schema.AgreesAt other name) :
    TypeModel.build schema settings language name =
      TypeModel.build other settings language name := by
  have found : schema.find? name = other.find? name := agrees name
  rw [build, build, ← found]
  split
  · simp only [(agrees _).attributeType_eq, (agrees _).className_eq]
  · rfl

theorem constantReferences_perm
    {typeName : String}
    (permuted : schema.entries.Perm other.entries) :
    (constantReferences schema settings typeName).Perm
      (constantReferences other settings typeName) :=
  ((permuted.filterMap _).filter _).flatMap_right _

/--
Models of an enumeration that differ in the order of the values for
constants alone.
-/
structure EnumModel.Rearranges (model otherModel : EnumModel) : Prop where
  alike : { model with values := otherModel.values } = otherModel
  declared : ∃ declared, model.values = declared ++ model.reverseReferences ∧
    otherModel.values = declared ++ otherModel.reverseReferences
  references : model.reverseReferences.Perm otherModel.reverseReferences

theorem EnumModel.exists_rearranges_of_build_eq_ok
    {name : String} {model : EnumModel}
    (permuted : schema.entries.Perm other.entries)
    (built : EnumModel.build schema settings language name = .ok model) :
    ∃ otherModel,
      EnumModel.build other settings language name = .ok otherModel ∧
      model.Rearranges otherModel := by
  have agrees := Schema.agreesAt_of_perm permuted name
  rcases values_eq_of_build_eq_ok built with ⟨⟨enumeration, found, values⟩, _⟩
  have otherFound : other.enumeration? name = some enumeration :=
    agrees.enumeration?_eq.symm.trans found
  simp only [build, found] at built
  rcases Outcome.bind_eq_ok_iff.mp built with ⟨referenced, modelled, result⟩
  rcases Outcome.exists_perm_of_mapM_eq_ok (constantReferences_perm permuted)
      modelled with
    ⟨otherReferenced, otherModelled, reordered⟩
  obtain ⟨otherModel, otherBuilt, alike⟩ :
      ∃ otherModel,
        EnumModel.build other settings language name = .ok otherModel ∧
        { model with
          values :=
            enumeration.values.map EnumerationValue.model ++ otherReferenced } =
          otherModel := by
    refine ⟨_, ?_, rfl⟩
    rw [build, otherFound]
    refine Outcome.bind_eq_ok_iff.mpr ⟨otherReferenced, otherModelled, ?_⟩
    rcases Except.ok.inj result with rfl
    rw [← agrees.className_eq]
    rfl
  rcases values_eq_of_build_eq_ok otherBuilt with
    ⟨⟨_, otherLocated, otherValues⟩, _⟩
  rcases Option.some.inj (otherFound.symm.trans otherLocated) with rfl
  have references : model.reverseReferences = referenced := by
    rcases Except.ok.inj result with rfl
    exact (List.append_cancel_left values).symm
  have otherReferences : otherModel.reverseReferences = otherReferenced := by
    rcases alike with rfl
    exact (List.append_cancel_left otherValues).symm
  refine ⟨otherModel, otherBuilt, ?_, ⟨_, values, otherValues⟩, ?_⟩
  · rcases alike with rfl
    rfl
  · rw [references, otherReferences]
    exact reordered

/--
Artifacts of a name that are the same, up to the order of an
enumeration's values.
-/
inductive Artifact.Rearranges : Artifact → Artifact → Prop where
  | type (model) : Rearranges (.type model) (.type model)
  | enumeration {model otherModel}
      (rearranges : model.Rearranges otherModel) :
      Rearranges (.enumeration model) (.enumeration otherModel)
  | composite (model) : Rearranges (.composite model) (.composite model)

/--
An entry compiles in permuted entries as it did before, up to the
order of values.
-/
theorem exists_rel_of_compileEntry_eq_ok
    {name : String} {category : Category} {result : Option Artifact}
    (permuted : schema.entries.Perm other.entries)
    (compiles :
      compileEntry schema settings language name category = .ok result) :
    ∃ otherResult,
      compileEntry other settings language name category = .ok otherResult ∧
      Option.Rel Artifact.Rearranges result otherResult := by
  have agrees := Schema.agreesAt_of_perm permuted
  cases compileEntry_eq_ok_iff.mp compiles with
  | type built =>
      rw [TypeModel.build_eq_of_agreesAt agrees] at built
      exact ⟨_, compileEntry_eq_ok_iff.mpr (.type built), .some (.type _)⟩
  | enumeration built =>
      rcases EnumModel.exists_rearranges_of_build_eq_ok permuted built with
        ⟨otherModel, otherBuilt, rearranges⟩
      exact ⟨_, compileEntry_eq_ok_iff.mpr (.enumeration otherBuilt),
        .some (.enumeration rearranges)⟩
  | composite generated built =>
      rw [ClassModel.build_eq_of_agreesAt fun name _ => agrees name] at built
      exact ⟨_, compileEntry_eq_ok_iff.mpr (.composite generated built),
        .some (.composite _)⟩
  | skipped excluded =>
      exact ⟨none, compileEntry_eq_ok_iff.mpr (.skipped excluded), .none⟩

end Entries

/-! ## Permuted schemas -/

section Compile

variable {schema other : Schema} {settings : Settings} {language : Language}
  {compiled otherCompiled : CompiledSchema}

/--
Compiled schemas with the same artifacts by name, up to the order of an
enumeration's values.
-/
structure CompiledSchema.Rearranges (compiled otherCompiled : CompiledSchema) :
    Prop where
  artifacts : ∀ name,
    Option.Rel Artifact.Rearranges (compiled.find? name)
      (otherCompiled.find? name)
  names :
    (compiled.artifacts.map Artifact.name).Perm
      (otherCompiled.artifacts.map Artifact.name)
  skipped : compiled.skipped.Perm otherCompiled.skipped

/-- Permuted entries compile if the entries do. -/
theorem exists_compile_eq_ok_of_perm
    (permuted : schema.entries.Perm other.entries)
    (succeeded : compile schema settings language = .ok compiled) :
    ∃ otherCompiled, compile other settings language = .ok otherCompiled := by
  rcases Outcome.bind_eq_ok_iff.mp succeeded with ⟨_, valid, succeeded⟩
  have otherValid : other.validate settings.byteType = .ok () :=
    (Schema.validate_eq_ok_iff_of_agreesAt
      (Schema.agreesAt_of_perm permuted)).mp
      (Outcome.mapError_eq_ok_iff.mp valid)
  rw [compile_eq_compileEntries otherValid]
  apply exists_compileEntries_eq_ok
  intro entry among
  rcases exists_compileEntry_eq_ok succeeded (permuted.mem_iff.mpr among) with
    ⟨result, compiles⟩
  rcases exists_rel_of_compileEntry_eq_ok permuted compiles with
    ⟨otherResult, otherCompiles, _⟩
  exact ⟨otherResult, otherCompiles⟩

theorem CompiledSchema.exists_find?_eq_some_of_perm
    {name : String} {artifact : Artifact}
    (permuted : schema.entries.Perm other.entries)
    (succeeded :
      compileEntries schema settings language schema.entries = .ok compiled)
    (otherSucceeded :
      compileEntries other settings language other.entries = .ok otherCompiled)
    (located : compiled.find? name = some artifact) :
    ∃ otherArtifact, otherCompiled.find? name = some otherArtifact ∧
      artifact.Rearranges otherArtifact := by
  rcases (find?_eq_some_iff_of_compileEntries_eq_ok succeeded).mp located with
    ⟨descriptor, found, compiles⟩
  rcases exists_rel_of_compileEntry_eq_ok permuted compiles with
    ⟨otherResult, otherCompiles, sides⟩
  rcases exists_right_of_rel sides with ⟨otherArtifact, rfl, rearranges⟩
  have otherFound := (Schema.agreesAt_of_perm permuted name).symm.trans found
  exact ⟨otherArtifact,
    (find?_eq_some_iff_of_compileEntries_eq_ok otherSucceeded).mpr
      ⟨descriptor, otherFound, otherCompiles⟩, rearranges⟩

theorem CompiledSchema.rearranges_of_perm
    (permuted : schema.entries.Perm other.entries)
    (succeeded :
      compileEntries schema settings language schema.entries = .ok compiled)
    (otherSucceeded :
      compileEntries other settings language other.entries =
        .ok otherCompiled) :
    compiled.Rearranges otherCompiled := by
  have names := names_of_compileEntries_eq_ok succeeded
  have otherNames := names_of_compileEntries_eq_ok otherSucceeded
  refine ⟨fun name => ?_, ?_, ?_⟩
  · cases located : compiled.find? name with
    | some artifact =>
        rcases exists_find?_eq_some_of_perm permuted succeeded otherSucceeded
            located with
          ⟨otherArtifact, otherLocated, rearranges⟩
        rw [otherLocated]
        exact .some rearranges
    | none =>
        cases otherLocated : otherCompiled.find? name with
        | none => exact .none
        | some otherArtifact =>
            rcases exists_find?_eq_some_of_perm permuted.symm otherSucceeded
                succeeded otherLocated with ⟨artifact, impossible, _⟩
            cases located.symm.trans impossible
  · rw [names.1, otherNames.1]
    exact (permuted.filter _).map _
  · rw [names.2, otherNames.2]
    exact (permuted.filter _).map _

/--
Schemas with the same entries in different orders are valid alike and compile
alike.  What they compile to has the same artifact for every name, except that
the values that constants add to an enumeration are permuted, and skips the
same composites.
-/
theorem compile_rearranges
    (schema other : Schema) (settings : Settings) (language : Language)
    (permuted : schema.entries.Perm other.entries) :
    (∀ byteType, schema.validate byteType = .ok () ↔
      other.validate byteType = .ok ()) ∧
      ((∃ compiled, compile schema settings language = .ok compiled) ↔
        ∃ otherCompiled, compile other settings language = .ok otherCompiled) ∧
      ∀ compiled otherCompiled,
        compile schema settings language = .ok compiled →
        compile other settings language = .ok otherCompiled →
          compiled.Rearranges otherCompiled := by
  refine ⟨fun byteType => ?_, ⟨?_, ?_⟩, ?_⟩
  · exact Schema.validate_eq_ok_iff_of_agreesAt
      (Schema.agreesAt_of_perm permuted)
  · rintro ⟨compiled, succeeded⟩
    exact exists_compile_eq_ok_of_perm permuted succeeded
  · rintro ⟨otherCompiled, otherSucceeded⟩
    exact exists_compile_eq_ok_of_perm permuted.symm otherSucceeded
  · intro compiled otherCompiled succeeded otherSucceeded
    rcases Outcome.bind_eq_ok_iff.mp succeeded with ⟨_, _, succeeded⟩
    rcases Outcome.bind_eq_ok_iff.mp otherSucceeded with ⟨_, _, otherSucceeded⟩
    exact CompiledSchema.rearranges_of_perm permuted succeeded otherSucceeded

end Compile

/-- A composite with a constant of an enumeration. -/
def Composite.coded (number : Nat) : Composite where
  layout := [{ Attribute.named "CODE" "Code" with
    disposition := some .constant, value := some (.number number) }]

/--
Three composites with a constant each, in two orders, before and after
their enumeration.
-/
def Schema.coded : Schema where
  entries := [
    ("Code",
      .enumeration { size := 1, values := [{ name := "NONE", number := 0 }] }),
    ("Base", .composite (.coded 1)),
    ("Lock", .composite (.coded 2)),
    ("Move", .composite (.coded 3))]
  distinct := by decide

/-- The same schema with its entries in another order. -/
def Schema.recoded : Schema where
  entries := [
    ("Move", .composite (.coded 3)),
    ("Lock", .composite (.coded 2)),
    ("Code",
      .enumeration { size := 1, values := [{ name := "NONE", number := 0 }] }),
    ("Base", .composite (.coded 1))]
  distinct := by decide

/--
The values for the constants follow the composites, and all else is as it was.
-/
theorem compile_rearranges_coded :
    Schema.coded.entries.Perm Schema.recoded.entries ∧
      ∃ compiled otherCompiled,
        compile .coded (.dissolving "Base") .java = .ok compiled ∧
        compile .recoded (.dissolving "Base") .java = .ok otherCompiled ∧
        compiled.Rearranges otherCompiled ∧
        compiled.skipped = ["Base"] ∧
        compiled.enumerations.map
            (fun model => model.values.map EnumValueModel.name) =
          [["NONE", "Lock", "Move"]] ∧
        otherCompiled.enumerations.map
            (fun model => model.values.map EnumValueModel.name) =
          [["NONE", "Move", "Lock"]] := by
  have permuted : Schema.coded.entries.Perm Schema.recoded.entries := by decide
  have computed :
      (compile .coded (.dissolving "Base") .java).map (fun compiled =>
      (compiled.skipped, compiled.enumerations.map fun model =>
        model.values.map EnumValueModel.name)) =
      .ok (["Base"], [["NONE", "Lock", "Move"]]) := by cbv
  have otherComputed :
      (compile .recoded (.dissolving "Base") .java).map (fun compiled =>
      compiled.enumerations.map fun model =>
        model.values.map EnumValueModel.name) =
      .ok [["NONE", "Move", "Lock"]] := by cbv
  rcases Outcome.map_eq_ok_iff.mp computed with ⟨compiled, succeeded, fields⟩
  rcases Outcome.map_eq_ok_iff.mp otherComputed with
    ⟨otherCompiled, otherSucceeded, otherValues⟩
  rcases Prod.mk.inj fields with ⟨skipped, values⟩
  have rearranges :=
    (compile_rearranges .coded .recoded (.dissolving "Base") .java permuted).2.2
      compiled otherCompiled succeeded otherSucceeded
  exact ⟨permuted, compiled, otherCompiled, succeeded, otherSucceeded,
    rearranges, skipped, values, otherValues⟩

end WireLayout
