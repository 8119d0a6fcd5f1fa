import WireLayout.Target.Language

/-!
# Models of atomic types

An atomic type becomes a class around a field of raw bytes of its size.
-/

namespace WireLayout

/-- The model of an atomic type. -/
structure TypeModel where
  name : String
  generatedName : String
  size : Nat
  kind : Kind
  generatedType : String
  signedness : Signedness
  comment : String
  deriving DecidableEq, Repr

/-- The field of raw bytes inside an atomic type. -/
def AtomicType.valueField (type : AtomicType) (settings : Settings)
    (name : String) : Attribute :=
  { Attribute.named (decapitalize name) settings.byteType with
    size := some (.literal type.size)
    signedness := some type.signedness }

/-- Builds the model of an atomic type. -/
def TypeModel.build (schema : Schema) (settings : Settings)
    (language : Language) (name : String) : Except CompileFault TypeModel :=
  match schema.find? name with
  | some (.atomic type) => do
      let field := type.valueField settings name
      let kind ← match field.kind? settings [] with
        | some kind => .ok kind
        | none => .error (.unclassified name field.displayName)
      let generated :=
        language.attributeType schema settings field kind (.literal type.size)
      return {
        name := name
        generatedName := language.className schema name
        size := type.size
        kind := kind
        generatedType := generated.name
        signedness := type.signedness
        comment := typeComment type.comments name }
  | _ => .error (.dangling ⟨name, name, name, .type⟩)

end WireLayout
