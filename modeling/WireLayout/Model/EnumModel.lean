import WireLayout.Target.Language

/-!
# Models of enumerations

The model of an enumeration has the declared values, and after them a value for
each constant of the enumeration's type that a generated composite declares.
Such a value is named after the composite: it is how an enumeration of type
codes lists the types that have one.
-/

namespace WireLayout

/-- Where a value of an enumeration comes from. -/
inductive ValueSource where
  | declared
  | reverseReference
  deriving DecidableEq, Repr

/-- The name of a source. -/
def ValueSource.name : ValueSource → String
  | .declared => "declared"
  | .reverseReference => "reverse_reference"

/-- A value in the model of an enumeration. -/
structure EnumValueModel where
  name : String
  constantName : String
  number : Nat
  comment : String
  source : ValueSource
  deriving DecidableEq, Repr

/-- The model of an enumeration. -/
structure EnumModel where
  name : String
  generatedName : String
  size : Nat
  generatedType : String
  signedness : Signedness
  isFlags : Bool
  comment : String
  values : List EnumValueModel
  deriving DecidableEq, Repr

/-- The model of a declared value. -/
def EnumerationValue.model (value : EnumerationValue) : EnumValueModel :=
  ⟨value.name, value.name, value.number, Text.trim value.comments, .declared⟩

/-- The number of a constant of an enumeration's type. -/
def Enumeration.constantNumber (enumeration : Enumeration) (owner : String)
    (attr : Attribute) : Except CompileFault Nat :=
  match attr.value with
  | some (.number number) => .ok number
  | some (.name name) =>
      match enumeration.named? name with
      | some value => .ok value.number
      | none => .error (.dangling ⟨owner, attr.displayName, name, .constant⟩)
  | none => .error (.schema (.constantWithoutValue owner attr.displayName))

/-- A constant, with the composite that declares it. -/
structure ConstantReference where
  owner : String
  attr : Attribute
  deriving DecidableEq, Repr

/--
The constants of a type that generated composites declare, in the
order of the schema.
-/
def constantReferences (schema : Schema) (settings : Settings)
    (typeName : String) : List ConstantReference :=
  (schema.composites.filter fun entry =>
    settings.generates entry.1).flatMap fun entry =>
    (entry.2.layout.filter fun attr => attr.isConstant &&
      attr.typeName == typeName).map fun attr => ⟨entry.1, attr⟩

/-- The value that a constant adds to the model of its enumeration. -/
def ConstantReference.model (language : Language) (enumeration : Enumeration)
    (reference : ConstantReference) : Except CompileFault EnumValueModel := do
  let number ← enumeration.constantNumber reference.owner reference.attr
  return ⟨reference.owner, language.constantName reference.owner, number,
    phrase reference.owner, .reverseReference⟩

namespace EnumModel

/-- Builds the model of an enumeration. -/
def build (schema : Schema) (settings : Settings) (language : Language)
    (name : String) : Except CompileFault EnumModel :=
  match schema.enumeration? name with
  | none => .error (.dangling ⟨name, name, name, .type⟩)
  | some enumeration => do
      let referenced ← (constantReferences schema settings name).mapM
        (ConstantReference.model language enumeration)
      return {
        name := name
        generatedName := language.className schema name
        size := enumeration.size
        generatedType :=
          (language.builtinType enumeration.size enumeration.signedness).name
        signedness := enumeration.signedness
        isFlags := enumeration.isFlags || settings.isFlagsType name
        comment := typeComment enumeration.comments name
        values := enumeration.values.map EnumerationValue.model ++ referenced }

/-- The values that constants of composites add. -/
def reverseReferences (model : EnumModel) : List EnumValueModel :=
  model.values.filter fun value => value.source == .reverseReference

end EnumModel

end WireLayout
