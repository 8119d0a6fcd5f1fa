import WireLayout.Model.ClassModel
import WireLayout.Model.EnumModel
import WireLayout.Model.TypeModel
import WireLayout.Schema.Decode
import WireLayout.Schema.Validation

/-!
# Compilation

Every entry of a valid schema is turned into the model of its category, in the
order of the schema.  Composites that are not generated have no model and are
listed as skipped.
-/

namespace WireLayout

/-- The model of an entry. -/
inductive Artifact where
  | type (model : TypeModel)
  | enumeration (model : EnumModel)
  | composite (model : ClassModel)
  deriving DecidableEq, Repr

namespace Artifact

/-- The name of the entry behind an artifact. -/
def name : Artifact → String
  | .type model => model.name
  | .enumeration model => model.name
  | .composite model => model.name

/-- The name of the class that an artifact describes. -/
def generatedName : Artifact → String
  | .type model => model.generatedName
  | .enumeration model => model.generatedName
  | .composite model => model.generatedName

end Artifact

/-- The models of a schema, and the composites that have none. -/
structure CompiledSchema where
  artifacts : List Artifact
  skipped : List String
  deriving DecidableEq, Repr

namespace CompiledSchema

/-- The models of composites. -/
def classes (compiled : CompiledSchema) : List ClassModel :=
  compiled.artifacts.filterMap fun artifact =>
    match artifact with
    | .composite model => some model
    | _ => none

/-- The models of enumerations. -/
def enumerations (compiled : CompiledSchema) : List EnumModel :=
  compiled.artifacts.filterMap fun artifact =>
    match artifact with
    | .enumeration model => some model
    | _ => none

/-- The models of atomic types. -/
def types (compiled : CompiledSchema) : List TypeModel :=
  compiled.artifacts.filterMap fun artifact =>
    match artifact with
    | .type model => some model
    | _ => none

/-- The artifact of a name. -/
def find? (compiled : CompiledSchema) (name : String) : Option Artifact :=
  compiled.artifacts.find? fun artifact => artifact.name == name

/-- The model of a composite. -/
def class? (compiled : CompiledSchema) (name : String) : Option ClassModel :=
  compiled.classes.find? fun model => model.name == name

/-- The model of an enumeration. -/
def enumeration? (compiled : CompiledSchema) (name : String) :
    Option EnumModel :=
  compiled.enumerations.find? fun model => model.name == name

end CompiledSchema

/--
The artifact of an entry of a category, none for a composite that
is not generated.
-/
def compileEntry (schema : Schema) (settings : Settings) (language : Language)
    (name : String) (category : Category) :
    Except CompileFault (Option Artifact) :=
  match category with
  | .atomic => do
      return some (.type (← TypeModel.build schema settings language name))
  | .enumeration => do
      return some
        (.enumeration (← EnumModel.build schema settings language name))
  | .composite =>
      if settings.generates name then do
        return some
          (.composite (← ClassModel.build schema settings language name))
      else .ok none

/-- The artifact of a name. -/
def compileType (schema : Schema) (settings : Settings) (language : Language)
    (name : String) : Except CompileFault (Option Artifact) :=
  match schema.category? name with
  | none => .error (.dangling ⟨name, name, name, .type⟩)
  | some category => compileEntry schema settings language name category

/-- The artifacts of entries, and the names of those that have none. -/
def compileEntries (schema : Schema) (settings : Settings)
    (language : Language) : List Entry → Except CompileFault CompiledSchema
  | [] => .ok ⟨[], []⟩
  | (name, descriptor) :: rest => do
      let artifact ← compileEntry schema settings language name
        descriptor.category
      let others ← compileEntries schema settings language rest
      return match artifact with
        | some artifact =>
            { others with artifacts := artifact :: others.artifacts }
        | none => { others with skipped := name :: others.skipped }

/-- Compiles a schema, which has to be valid. -/
def compile (schema : Schema) (settings : Settings) (language : Language) :
    Except CompileFault CompiledSchema := do
  (schema.validate settings.byteType).mapError CompileFault.schema
  compileEntries schema settings language schema.entries

/-- Compiles the schema of a text. -/
def compileText (settings : Settings) (language : Language) (text : String) :
    Except CompileFault CompiledSchema := do
  let schema ← (Schema.ofText text).mapError CompileFault.loading
  compile schema settings language

/--
Compiles the schema of the content of a file, absent when there is no such
file.
-/
def compileFile (settings : Settings) (language : Language)
    (content : Option ByteArray) : Except CompileFault CompiledSchema :=
  match content.bind fun bytes => String.fromUTF8? bytes with
  | some text => compileText settings language text
  | none => .error .unreadable

end WireLayout
