import WireLayout.Proofs.Closure

/-!
# Entries of a compiled schema

A valid schema compiles as its entries do, each for itself.  It compiles if all
of them do, and otherwise fails with the fault of the first one that does not.

What it compiles to accounts for every entry once and in order: a composite
that is not generated is listed as skipped, and any other entry has an artifact
of its category, which is what the entry compiles to alone.  No two artifacts
describe classes of one name.
-/

namespace WireLayout

/-! ## Artifacts by name -/

section Artifacts

variable {schema : Schema} {settings : Settings} {language : Language}
  {entries : List Entry} {compiled : CompiledSchema}

/-- Whether an entry is a composite that is not generated. -/
def Settings.skips (settings : Settings) (entry : Entry) : Bool :=
  entry.2.category == .composite && !settings.generates entry.1

/--
Of the entries the skipped ones are listed and the others have an
artifact, in their order.
-/
theorem names_of_compileEntries_eq_ok
    (succeeded :
      compileEntries schema settings language entries = .ok compiled) :
    compiled.artifacts.map Artifact.name =
        (entries.filter fun entry => !settings.skips entry).map Prod.fst ∧
      compiled.skipped = (entries.filter settings.skips).map Prod.fst := by
  induction entries generalizing compiled with
  | nil =>
      rcases Except.ok.inj succeeded with rfl
      exact ⟨rfl, rfl⟩
  | cons entry rest ih =>
      rcases Outcome.bind_eq_ok_iff.mp succeeded with
        ⟨first, compiles, remaining⟩
      rcases Outcome.bind_eq_ok_iff.mp remaining with ⟨others, later, result⟩
      have kept := eq_none_iff_of_compileEntry_eq_ok compiles
      rcases ih later with ⟨artifacts, skipped⟩
      cases first with
      | none =>
          rcases Except.ok.inj result with rfl
          have skips : settings.skips entry = true := by
            simpa [Settings.skips] using kept.mp rfl
          simp [skips, artifacts, skipped]
      | some artifact =>
          rcases Except.ok.inj result with rfl
          have skips : settings.skips entry = false := by
            simpa [Settings.skips] using kept
          simp [skips, artifacts, skipped,
            (names_of_compileEntry_eq_ok compiles).1]

/-- Artifacts have different names, as their entries have. -/
theorem nodup_name_of_compileEntries_eq_ok
    (succeeded :
      compileEntries schema settings language schema.entries = .ok compiled) :
    (compiled.artifacts.map Artifact.name).Nodup := by
  rw [(names_of_compileEntries_eq_ok succeeded).1]
  exact schema.nodup_names.sublist (List.filter_sublist.map _)

/-- The artifact of a name is what the descriptor of the name compiles to. -/
theorem find?_eq_some_iff_of_compileEntries_eq_ok
    {name : String} {artifact : Artifact}
    (succeeded :
      compileEntries schema settings language schema.entries = .ok compiled) :
    compiled.find? name = some artifact ↔
      ∃ descriptor, schema.find? name = some descriptor ∧
        compileEntry schema settings language name descriptor.category =
          .ok (some artifact) := by
  have apart :=
    List.inj_on_of_nodup_map (nodup_name_of_compileEntries_eq_ok succeeded)
  rw [CompiledSchema.find?, find?_eq_some_iff_of_names apart,
    mem_artifacts_iff_of_compileEntries_eq_ok succeeded]
  constructor
  · rintro ⟨⟨⟨owner, descriptor⟩, inSchema, compiles⟩, rfl⟩
    rw [(names_of_compileEntry_eq_ok compiles).1]
    exact ⟨descriptor, Schema.find?_eq_some_iff.mpr inSchema, compiles⟩
  · rintro ⟨descriptor, found, compiles⟩
    exact ⟨⟨_, Schema.find?_eq_some_iff.mp found, compiles⟩,
      (names_of_compileEntry_eq_ok compiles).1⟩

end Artifacts

/-! ## What is compiled of an entry -/

/-- The category of the entries that an artifact is compiled from. -/
def Artifact.category : Artifact → Category
  | .type _ => .atomic
  | .enumeration _ => .enumeration
  | .composite _ => .composite

/--
A compiled schema accounts for every entry: it has what the entry compiles
to, or skips it.
-/
structure CompiledSchema.Accounts (compiled : CompiledSchema) (schema : Schema)
    (settings : Settings) (language : Language) : Prop where
  /--
  The names are those of the schema, which are distinct, and each of
  them is there once.
  -/
  once :
    (compiled.artifacts.map Artifact.name ++ compiled.skipped).Perm schema.names
  names : compiled.artifacts.map Artifact.name =
    (schema.entries.filter fun entry => !settings.skips entry).map Prod.fst
  skipped :
    compiled.skipped = (schema.entries.filter settings.skips).map Prod.fst
  dissolves : ∀ name, name ∈ compiled.skipped ↔ schema.Dissolves settings name
  skips : ∀ name ∈ compiled.skipped,
    compileType schema settings language name = .ok none
  compiles : ∀ artifact ∈ compiled.artifacts,
    compileType schema settings language artifact.name = .ok (some artifact)
  category : ∀ artifact ∈ compiled.artifacts,
    schema.category? artifact.name = some artifact.category
  distinct : (compiled.artifacts.map Artifact.generatedName).Nodup

section Compile

variable {schema : Schema} {settings : Settings} {language : Language}
  {name : String} {compiled : CompiledSchema} {fault : CompileFault}

theorem category?_of_mem_entries
    {entry : Entry}
    (among : entry ∈ schema.entries) :
    schema.category? entry.1 = some entry.2.category := by
  rw [Schema.category?, Schema.find?_eq_some_iff.mpr among, Option.map_some]

/-- An entry alone compiles as it does among the others. -/
theorem compileType_of_mem_entries
    {entry : Entry}
    (among : entry ∈ schema.entries) :
    compileType schema settings language entry.1 =
      compileEntry schema settings language entry.1 entry.2.category := by
  rw [compileType, category?_of_mem_entries among]

theorem category_of_compileEntry_eq_ok
    {category : Category} {artifact : Artifact}
    (compiles :
      compileEntry schema settings language name category =
        .ok (some artifact)) :
    artifact.category = category := by
  cases compileEntry_eq_ok_iff.mp compiles with
  | type => rfl
  | enumeration => rfl
  | composite => rfl

/--
Compiling a schema fails as its validation does, or with the first
fault of an entry.
-/
theorem compile_eq_error_iff :
    compile schema settings language = .error fault ↔
      (∃ violation, schema.validate settings.byteType = .error violation ∧
        .schema violation = fault) ∨
      schema.validate settings.byteType = .ok () ∧
        ∃ before entry after, schema.entries = before ++ entry :: after ∧
          (∀ earlier ∈ before, ∃ result,
            compileType schema settings language earlier.1 = .ok result) ∧
          compileType schema settings language entry.1 = .error fault := by
  cases valid : schema.validate settings.byteType with
  | error violation =>
      simp [compile, valid, Outcome.bind_eq_error_iff, Except.mapError]
  | ok =>
      rw [compile_eq_compileEntries valid, compileEntries_eq_error_iff]
      simp only [reduceCtorEq, false_and, exists_false, false_or, true_and]
      refine exists_congr fun before => exists_congr fun entry =>
        exists_congr fun after => ?_
      refine and_congr_right fun split => ?_
      have alone (other : Entry) (among : other ∈ before ++ entry :: after) :
          compileType schema settings language other.1 =
            compileEntry schema settings language other.1 other.2.category :=
        compileType_of_mem_entries (split ▸ among)
      rw [alone entry (by simp)]
      refine and_congr_left' (forall₂_congr fun earlier before => ?_)
      rw [alone earlier (List.mem_append_left _ before)]

/-- A schema compiles if it is valid and each of its entries compiles. -/
theorem exists_compile_eq_ok_iff :
    (∃ compiled, compile schema settings language = .ok compiled) ↔
      schema.validate settings.byteType = .ok () ∧
        ∀ name ∈ schema.names, ∃ result,
          compileType schema settings language name = .ok result := by
  constructor
  · rintro ⟨compiled, succeeded⟩
    rcases Outcome.bind_eq_ok_iff.mp succeeded with ⟨_, valid, succeeded⟩
    refine ⟨Outcome.mapError_eq_ok_iff.mp valid, ?_⟩
    intro name declared
    rcases List.mem_map.mp declared with ⟨entry, among, rfl⟩
    rw [compileType_of_mem_entries among]
    exact exists_compileEntry_eq_ok succeeded among
  · rintro ⟨valid, compiles⟩
    cases outcome : compile schema settings language with
    | ok compiled => exact ⟨compiled, rfl⟩
    | error fault =>
        rcases compile_eq_error_iff.mp outcome with
          ⟨_, invalid, _⟩ | ⟨_, before, entry, after, split, _, failed⟩
        · cases valid.symm.trans invalid
        · have declared : entry.1 ∈ schema.names := by
            rw [Schema.names, split]
            simp
          rcases compiles _ declared with ⟨result, succeeded⟩
          cases succeeded.symm.trans failed

/-- The skipped names are those of composites that dissolve. -/
theorem mem_skipped_iff
    (succeeded :
      compileEntries schema settings language schema.entries = .ok compiled) :
    name ∈ compiled.skipped ↔ schema.Dissolves settings name := by
  have among : name ∈ compiled.skipped ↔
      ∃ descriptor, (name, descriptor) ∈ schema.entries ∧
        descriptor.category = .composite ∧ settings.generates name = false := by
    simp [(names_of_compileEntries_eq_ok succeeded).2, Settings.skips]
  rw [among]
  constructor
  · rintro ⟨descriptor, inSchema, skips⟩
    exact (Schema.dissolves_iff_of_mem_entries inSchema).mpr skips
  · intro dissolves
    have ⟨_, layout, found⟩ := dissolves
    rcases List.mem_map.mp (Schema.mem_names_of_layout? found) with
      ⟨⟨_, descriptor⟩, inSchema, rfl⟩
    exact ⟨descriptor, inSchema,
      (Schema.dissolves_iff_of_mem_entries inSchema).mp dissolves⟩

theorem compileType_eq_none_of_dissolves
    (dissolves : schema.Dissolves settings name) :
    compileType schema settings language name = .ok none := by
  have ⟨excluded, layout, found⟩ := dissolves
  rcases List.mem_map.mp (Schema.mem_names_of_layout? found) with
    ⟨entry, among, rfl⟩
  have isComposite :=
    ((Schema.dissolves_iff_of_mem_entries among).mp dissolves).1
  rw [compileType_of_mem_entries among, isComposite]
  exact compileEntry_eq_ok_iff.mpr (.skipped excluded)

/-- Artifacts describe classes of different names. -/
theorem nodup_generatedName_of_compileEntries_eq_ok
    (succeeded :
      compileEntries schema settings language schema.entries = .ok compiled) :
    (compiled.artifacts.map Artifact.generatedName).Nodup := by
  have classes :
      compiled.artifacts.map Artifact.generatedName =
        (compiled.artifacts.map Artifact.name).map
          (language.className schema) := by
    rw [List.map_map]
    refine List.map_congr_left fun artifact among => ?_
    rcases (mem_artifacts_iff_of_compileEntries_eq_ok succeeded).mp among with
      ⟨entry, _, compiles⟩
    have ⟨name, generatedName⟩ := names_of_compileEntry_eq_ok compiles
    rw [Function.comp_apply, generatedName, name]
  rw [classes]
  exact (nodup_name_of_compileEntries_eq_ok succeeded).map
    (language.className_injective schema)

/-- What a schema compiles to accounts for its entries. -/
theorem accounts_of_compileEntries_eq_ok
    (succeeded :
      compileEntries schema settings language schema.entries = .ok compiled) :
    compiled.Accounts schema settings language := by
  have ⟨names, skipped⟩ := names_of_compileEntries_eq_ok succeeded
  have alone (artifact : Artifact) (among : artifact ∈ compiled.artifacts) :
      compileType schema settings language artifact.name = .ok (some artifact) ∧
        schema.category? artifact.name = some artifact.category := by
    rcases (mem_artifacts_iff_of_compileEntries_eq_ok succeeded).mp among with
      ⟨entry, inSchema, compiles⟩
    rw [(names_of_compileEntry_eq_ok compiles).1,
      compileType_of_mem_entries inSchema, category?_of_mem_entries inSchema,
      category_of_compileEntry_eq_ok compiles]
    exact ⟨compiles, rfl⟩
  exact {
    once := by
      rw [names, skipped, ← List.map_append]
      exact (List.perm_append_comm.trans (List.filter_append_perm _ _)).map _
    names := names
    skipped := skipped
    dissolves := fun name => mem_skipped_iff succeeded
    skips := fun name among =>
      compileType_eq_none_of_dissolves ((mem_skipped_iff succeeded).mp among)
    compiles := fun artifact among => (alone artifact among).1
    category := fun artifact among => (alone artifact among).2
    distinct := nodup_generatedName_of_compileEntries_eq_ok succeeded }

end Compile

/--
A schema compiles if it is valid and each of its entries compiles alone.
Otherwise it fails as its validation does, or with the fault of the first entry
that does not compile.  What it compiles to accounts for its entries: for each
of them it has what the entry compiles to, or skips it.
-/
theorem compile_entrywise (schema : Schema) (settings : Settings)
    (language : Language) :
    ((∃ compiled, compile schema settings language = .ok compiled) ↔
        schema.validate settings.byteType = .ok () ∧
          ∀ name ∈ schema.names, ∃ result,
            compileType schema settings language name = .ok result) ∧
      (∀ fault, compile schema settings language = .error fault ↔
        (∃ violation, schema.validate settings.byteType = .error violation ∧
          .schema violation = fault) ∨
        schema.validate settings.byteType = .ok () ∧
          ∃ before entry after, schema.entries = before ++ entry :: after ∧
            (∀ earlier ∈ before, ∃ result,
              compileType schema settings language earlier.1 = .ok result) ∧
            compileType schema settings language entry.1 = .error fault) ∧
      ∀ compiled, compile schema settings language = .ok compiled →
        compiled.Accounts schema settings language := by
  refine ⟨exists_compile_eq_ok_iff, fun fault => compile_eq_error_iff, ?_⟩
  intro compiled succeeded
  rcases Outcome.bind_eq_ok_iff.mp succeeded with ⟨_, _, succeeded⟩
  exact accounts_of_compileEntries_eq_ok succeeded

/--
The class of the holder is the one artifact, and the composite that it
holds is skipped.
-/
theorem compile_entrywise_holding :
    ∃ compiled, compile .holding (.dissolving "Body") .java = .ok compiled ∧
      compiled.Accounts .holding (.dissolving "Body") .java ∧
      compiled.artifacts.map Artifact.generatedName = ["BlockBuilder"] ∧
      compiled.skipped = ["Body"] := by
  rcases exists_compile_holding with ⟨compiled, _, succeeded, _, artifacts, _⟩
  have accounts :=
    (compile_entrywise .holding (.dissolving "Body") .java).2.2 compiled
      succeeded
  refine ⟨compiled, succeeded, accounts, artifacts, ?_⟩
  rw [accounts.skipped]
  decide

end WireLayout
