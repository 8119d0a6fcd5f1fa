import WireLayout.Compilation
import WireLayout.Proofs.Cosmetics

/-!
# What target languages decide

A target language decides how generated classes, fields and integer types are
called, and what a class imports.  It decides nothing else: compiling one
schema for two languages fails with the same fault, or skips the same
composites and yields artifacts that are the same in all other respects.

What a language decides is taken out of members and models here.  It is shown
for each stage of a compilation that what is left does not depend on the
language.  Since the names that a language chooses are not read by any later
stage, it does not matter that they are chosen on the way.
-/

namespace WireLayout

/-! ## Models without what a language decides -/

/-- A member without the names that a target language chooses. -/
def Member.neutral (member : Member) : Member :=
  { member with fieldName := "", generatedType := "", generatedClassName := "" }

/--
A composition without the names and imports that a target language chooses.
-/
def Composition.neutral (composition : Composition) : Composition :=
  { composition with
    members := composition.members.map Member.neutral, imports := .empty }

/-- A super-class without the name that a target language chooses. -/
def SuperClass.neutral (base : SuperClass) : SuperClass :=
  { base with generatedName := "" }

/--
The model of an atomic type without the names that a target language chooses.
-/
def TypeModel.neutral (model : TypeModel) : TypeModel :=
  { model with generatedName := "", generatedType := "" }

/--
The model of an enumeration without the names that a target language chooses.
-/
def EnumModel.neutral (model : EnumModel) : EnumModel :=
  { model with generatedName := "", generatedType := "" }

/--
The model of a composite without the names and imports that a target
language chooses.
-/
def ClassModel.neutral (model : ClassModel) : ClassModel :=
  { model with
    generatedName := ""
    superClass := model.superClass.map SuperClass.neutral
    members := model.members.map Member.neutral
    requiredImports := .empty }

/-- An artifact without what a target language decides. -/
def Artifact.neutral : Artifact → Artifact
  | .type model => .type model.neutral
  | .enumeration model => .enumeration model.neutral
  | .composite model => .composite model.neutral

/-- A compiled schema without what a target language decides. -/
def CompiledSchema.neutral (compiled : CompiledSchema) : CompiledSchema :=
  { compiled with artifacts := compiled.artifacts.map Artifact.neutral }

/-- The names that a language chooses are cosmetic. -/
theorem Member.isCosmetic_neutral : IsCosmetic neutral := by
  constructor <;> intros <;> rfl

/-! ## Compositions -/

section Stages

variable (schema : Schema) (settings : Settings) (language other : Language)

theorem Occurrence.map_neutral_resolve
    (root : String) (layout : List Attribute) (earlier : List String)
    (occurrence : Occurrence) :
    (occurrence.resolve (.of schema settings language root layout) earlier).map
        (fun typed => typed.member.neutral) =
      (occurrence.resolve (.of schema settings other root layout) earlier).map
        fun typed => typed.member.neutral := by
  rw [resolve, resolve]
  simp only [WalkContext.of]
  cases occurrence.step.attr.kind? settings occurrence.layout with
  | none => rfl
  | some kind =>
      simp only [Outcome.map_bind]
      rfl

/-- A composite is flattened alike for all languages. -/
theorem map_neutral_compose (root : String) :
    (compose schema settings language root).map Composition.neutral =
      (compose schema settings other root).map Composition.neutral := by
  rw [compose, compose]
  cases schema.layout? root with
  | none => rfl
  | some layout =>
      simp only [Outcome.map_bind]
      refine Outcome.bind_eq_of_map_eq
        (map_resolveOccurrences_eq (fun occurrence _ earlier =>
          occurrence.map_neutral_resolve schema settings language other root
            layout earlier) []) ?_
      intro resolved otherResolved same
      cases (traverse schema settings (.root root layout) 0
          (stepsOf layout)).fault with
      | some fault => rfl
      | none =>
          have bare : (resolved.map TypedMember.member).map Member.neutral =
              (otherResolved.map TypedMember.member).map Member.neutral := by
            rw [List.map_map, List.map_map]
            exact same
          simp only [Outcome.map_bind]
          refine Outcome.bind_eq_of_map_eq
            (Member.isCosmetic_neutral.map_linkSizes_eq bare) ?_
          intro members otherMembers alike
          refine congrArg Except.ok ?_
          simp only [Composition.neutral, alike]
          rfl

/-! ## Models -/

theorem TypeModel.map_neutral_build (name : String) :
    (TypeModel.build schema settings language name).map neutral =
      (TypeModel.build schema settings other name).map neutral := by
  rw [build, build]
  split
  · next type _ =>
      cases (type.valueField settings name).kind? settings [] with
      | none => rfl
      | some kind => rfl
  · rfl

theorem EnumModel.map_neutral_build (name : String) :
    (EnumModel.build schema settings language name).map neutral =
      (EnumModel.build schema settings other name).map neutral := by
  rw [build, build]
  split
  · rfl
  · simp only [Outcome.map_bind]
    -- The names of constants are the same in all languages.
    rfl

/-- A class is built alike for all languages. -/
theorem ClassModel.map_neutral_build (name : String) :
    (ClassModel.build schema settings language name).map neutral =
      (ClassModel.build schema settings other name).map neutral := by
  rw [build, build]
  split
  · simp only [Outcome.map_bind]
    refine Outcome.bind_eq_of_map_eq
      (map_neutral_compose schema settings language other name) ?_
    intro composition otherComposition same
    rcases Composition.mk.inj same with ⟨members, superClass, _⟩
    refine Outcome.bind_eq_of_map_eq
      (Member.isCosmetic_neutral.map_linkDiscriminants_eq members) ?_
    intro linked otherLinked alike
    have variants : WireLayout.constructorVariants schema settings linked =
        WireLayout.constructorVariants schema settings otherLinked :=
      Member.isCosmetic_neutral.constructorVariants_eq alike
    refine congrArg Except.ok ?_
    simp only [ClassModel.neutral, alike, variants, superClass, Option.map_map]
    rfl
  · rfl

/-! ## Compilations -/

theorem map_neutral_compileEntry (name : String) (category : Category) :
    (compileEntry schema settings language name category).map
        (Option.map Artifact.neutral) =
      (compileEntry schema settings other name category).map
        (Option.map Artifact.neutral) := by
  cases category with
  | atomic =>
      simp only [compileEntry, Outcome.map_bind]
      refine Outcome.bind_eq_of_map_eq
        (TypeModel.map_neutral_build schema settings language other name) ?_
      intro model otherModel same
      exact congrArg (fun model => Except.ok (some (Artifact.type model))) same
  | enumeration =>
      simp only [compileEntry, Outcome.map_bind]
      refine Outcome.bind_eq_of_map_eq
        (EnumModel.map_neutral_build schema settings language other name) ?_
      intro model otherModel same
      exact congrArg
        (fun model => Except.ok (some (Artifact.enumeration model))) same
  | composite =>
      rw [compileEntry, compileEntry]
      split
      · simp only [Outcome.map_bind]
        refine Outcome.bind_eq_of_map_eq
          (ClassModel.map_neutral_build schema settings language other name) ?_
        intro model otherModel same
        exact congrArg
          (fun model => Except.ok (some (Artifact.composite model))) same
      · rfl

theorem map_neutral_compileEntries (entries : List Entry) :
    (compileEntries schema settings language entries).map
        CompiledSchema.neutral =
      (compileEntries schema settings other entries).map
        CompiledSchema.neutral := by
  induction entries with
  | nil => rfl
  | cons entry rest ih =>
      simp only [compileEntries, Outcome.map_bind]
      refine Outcome.bind_eq_of_map_eq
        (map_neutral_compileEntry schema settings language other _ _) ?_
      intro artifact otherArtifact first
      refine Outcome.bind_eq_of_map_eq ih fun compiled otherCompiled later => ?_
      rcases CompiledSchema.mk.inj later with ⟨artifacts, skipped⟩
      cases artifact with
      | none =>
          rcases Option.map_eq_none_iff.mp first.symm with rfl
          refine congrArg Except.ok ?_
          simp only [CompiledSchema.neutral, artifacts, skipped]
      | some artifact =>
          rcases Option.map_eq_some_iff.mp first.symm with
            ⟨otherArtifact, rfl, same⟩
          refine congrArg Except.ok ?_
          simp only [CompiledSchema.neutral, List.map_cons, artifacts,
            skipped, same]

/-- A schema compiles alike for all languages. -/
theorem map_neutral_compile :
    (compile schema settings language).map CompiledSchema.neutral =
      (compile schema settings other).map CompiledSchema.neutral := by
  rw [compile, compile, Outcome.map_bind, Outcome.map_bind,
    map_neutral_compileEntries schema settings language other]

/--
Compiling a schema for two languages fails with the same fault, or skips the
same composites and yields artifacts, in the same order, that differ in nothing
but what the languages decide.
-/
theorem compile_neutral :
    (∃ fault, compile schema settings language = .error fault ∧
        compile schema settings other = .error fault) ∨
      ∃ compiled otherCompiled,
        compile schema settings language = .ok compiled ∧
          compile schema settings other = .ok otherCompiled ∧
          compiled.skipped = otherCompiled.skipped ∧
          List.Forall₂ (fun artifact otherArtifact =>
              Artifact.neutral artifact = Artifact.neutral otherArtifact)
            compiled.artifacts otherCompiled.artifacts := by
  have same := map_neutral_compile schema settings language other
  cases outcome : compile schema settings language with
  | error fault =>
      cases otherOutcome : compile schema settings other with
      | error otherFault =>
          rw [outcome, otherOutcome] at same
          rcases Except.error.inj same with rfl
          exact Or.inl ⟨fault, rfl, rfl⟩
      | ok otherCompiled =>
          rw [outcome, otherOutcome] at same
          cases same
  | ok compiled =>
      rw [outcome] at same
      rcases Outcome.map_eq_ok_iff.mp same.symm with
        ⟨otherCompiled, otherOutcome, alike⟩
      rcases CompiledSchema.mk.inj alike.symm with ⟨artifacts, skipped⟩
      refine Or.inr ⟨compiled, otherCompiled, rfl, otherOutcome, skipped, ?_⟩
      rw [← List.forall₂_eq_eq_eq, List.forall₂_map_left_iff,
        List.forall₂_map_right_iff] at artifacts
      exact artifacts

end Stages

end WireLayout
