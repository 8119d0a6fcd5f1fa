import WireLayout.Compilation

/-!
# Listings

What a compilation produces, for a reader at a terminal: a line for each model,
and indented below it the values of an enumeration, or the members and
constructors of a class in columns.
-/

namespace WireLayout

/-- A text followed by blanks up to a number of characters. -/
def padded (width : Nat) (text : String) : String :=
  text ++ String.ofList (List.replicate (width - text.length) ' ')

/-- The word for how a member belongs to its class. -/
def Member.marker (member : Member) : String :=
  if member.isSuper then "super"
  else if member.isInherited then "inherited"
  else if member.isInline then "inline"
  else ""

/-- The line of a member. -/
def Member.line (member : Member) : String :=
  "    " ++ padded 28 member.name ++ " " ++
    padded 12 member.kind.title ++ " " ++
    padded 28 member.generatedType ++ " " ++ member.marker

/-- The line of a constructor. -/
def ConstructorVariant.line (variant : ConstructorVariant) : String :=
  let arguments := "(" ++ ", ".intercalate variant.provided ++ ")"
  match variant.discriminant, variant.value with
  | some discriminant, some value =>
      "    new[" ++ discriminant ++ " = " ++ value ++ "]" ++ arguments
  | _, _ => "    new" ++ arguments

/-- The lines of a class. -/
def ClassModel.lines (model : ClassModel) : List String :=
  let heading := match model.superClass with
    | some base =>
        "class " ++ model.generatedName ++ " extends " ++ base.generatedName
    | none => "class " ++ model.generatedName
  heading :: (model.members.map Member.line ++
    model.constructorVariants.map ConstructorVariant.line)

/-- The lines of an enumeration. -/
def EnumModel.lines (model : EnumModel) : List String :=
  ("enum " ++ model.generatedName ++ " : " ++ model.generatedType) ::
    model.values.map fun value =>
      "    " ++ value.constantName ++ " = " ++ toString value.number

/-- The lines of an artifact. -/
def Artifact.lines : Artifact → List String
  | .type model =>
      ["type " ++ model.generatedName ++ " = " ++ model.generatedType ++ " (" ++
        toString model.size ++ " bytes)"]
  | .enumeration model => model.lines
  | .composite model => model.lines

/-- The lines of a compiled schema. -/
def CompiledSchema.lines (compiled : CompiledSchema) : List String :=
  compiled.artifacts.flatMap Artifact.lines ++
    (if compiled.skipped.isEmpty then []
    else ["skipped: " ++ ", ".intercalate compiled.skipped])

/-- The listing of a compiled schema. -/
def CompiledSchema.listing (compiled : CompiledSchema) : String :=
  String.join (compiled.lines.map fun line => line ++ "\n")

end WireLayout
