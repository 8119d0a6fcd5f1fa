import WireLayout.Compilation
import WireLayout.Output.Json

/-!
# Models as JSON

The JSON form of what a compilation produces.  The entries of each model stand
in a fixed order, and an artifact says first which kind of model it is.
-/

namespace WireLayout

open Json (optional)

/-- The JSON form of a size. -/
def Size.json : Size → Json
  | .literal count => .object [("literal", .number count)]
  | .field name => .object [("field", .text name)]

/-- The JSON form of a signedness. -/
def Signedness.json (signedness : Signedness) : Json :=
  .text signedness.keyword

/-- The JSON form of a comparison. -/
def ConditionOperation.json : ConditionOperation → Json
  | .equals => .text "equals"
  | .has => .text "has"

/-- The JSON form of a condition. -/
def MemberCondition.json (condition : MemberCondition) : Json :=
  .object [
    ("discriminant", .text condition.discriminant),
    ("operation", condition.operation.json),
    ("value", optional .text condition.value)]

/-- The JSON form of a member. -/
def Member.json (member : Member) : Json :=
  .object [
    ("kind", .text member.kind.name),
    ("name", .text member.name),
    ("field_name", .text member.fieldName),
    ("comment", .text member.comment),
    ("type_name", .text member.typeName),
    ("base_type",
      optional (fun category => .text category.keyword) member.baseType),
    ("generated_type", .text member.generatedType),
    ("generated_class_name", .text member.generatedClassName),
    ("size", member.size.json),
    ("signedness", member.signedness.json),
    ("is_final", .boolean member.isFinal),
    ("is_conditional", .boolean member.isConditional),
    ("condition", optional MemberCondition.json member.condition),
    ("discriminant", optional .number member.discriminant),
    ("read_before", .boolean member.readBefore),
    ("aggregate_name", optional .text member.aggregateName),
    ("aggregate_class", optional .text member.aggregateClass),
    ("is_super", .boolean member.isSuper),
    ("is_inherited", .boolean member.isInherited),
    ("is_inline", .boolean member.isInline),
    ("is_aggregate", .boolean member.isAggregate),
    ("is_reserved", .boolean member.isReserved),
    ("sort_key", optional .text member.sortKey),
    ("size_field", optional .number member.sizeField),
    ("sized_attribute", optional .number member.sizedMember)]

/-- The JSON form of an argument. -/
def ConstructorArgument.json (argument : ConstructorArgument) : Json :=
  .object [
    ("attribute", .number argument.place),
    ("name", .text argument.name),
    ("condition_provide", .boolean argument.conditionProvide),
    ("forced_value", optional .text argument.forcedValue)]

/-- The JSON form of a variant. -/
def ConstructorVariant.json (variant : ConstructorVariant) : Json :=
  .object [
    ("discriminant", optional .text variant.discriminant),
    ("value", optional .text variant.value),
    ("arguments", .list (variant.arguments.map ConstructorArgument.json))]

/-- The JSON form of a super-class. -/
def SuperClass.json (base : SuperClass) : Json :=
  .object [("type_name", .text base.typeName),
    ("generated_name", .text base.generatedName)]

/-- The JSON form of a set of names. -/
def NameSet.json (set : NameSet) : Json :=
  .list (set.names.map Json.text)

/-- The entries of the JSON form of a model of a composite. -/
def ClassModel.jsonEntries (model : ClassModel) : List (String × Json) :=
  [
    ("name", .text model.name),
    ("generated_name", .text model.generatedName),
    ("comment", .text model.comment),
    ("super_class", optional SuperClass.json model.superClass),
    ("attributes", .list (model.members.map Member.json)),
    ("constructor_variants",
      .list (model.constructorVariants.map ConstructorVariant.json)),
    ("required_imports", model.requiredImports.json),
    ("body_class_name", .text model.bodyClassName)]

/-- The JSON form of a value of an enumeration. -/
def EnumValueModel.json (value : EnumValueModel) : Json :=
  .object [
    ("name", .text value.name),
    ("constant_name", .text value.constantName),
    ("value", .number value.number),
    ("comment", .text value.comment),
    ("source", .text value.source.name)]

/-- The entries of the JSON form of a model of an enumeration. -/
def EnumModel.jsonEntries (model : EnumModel) : List (String × Json) :=
  [
    ("name", .text model.name),
    ("generated_name", .text model.generatedName),
    ("size", .number model.size),
    ("generated_type", .text model.generatedType),
    ("signedness", model.signedness.json),
    ("is_flags", .boolean model.isFlags),
    ("comment", .text model.comment),
    ("values", .list (model.values.map EnumValueModel.json))]

/-- The entries of the JSON form of a model of an atomic type. -/
def TypeModel.jsonEntries (model : TypeModel) : List (String × Json) :=
  [
    ("name", .text model.name),
    ("generated_name", .text model.generatedName),
    ("size", .number model.size),
    ("kind", .text model.kind.name),
    ("generated_type", .text model.generatedType),
    ("signedness", model.signedness.json),
    ("comment", .text model.comment)]

/-- The JSON form of an artifact. -/
def Artifact.json : Artifact → Json
  | .type model => .object (("artifact", .text "type") :: model.jsonEntries)
  | .enumeration model =>
      .object (("artifact", .text "enum") :: model.jsonEntries)
  | .composite model =>
      .object (("artifact", .text "class") :: model.jsonEntries)

/-- The JSON form of a compiled schema. -/
def CompiledSchema.json (compiled : CompiledSchema) : Json :=
  .object [
    ("artifacts", .list (compiled.artifacts.map Artifact.json)),
    ("skipped", .list (compiled.skipped.map Json.text))]

end WireLayout
