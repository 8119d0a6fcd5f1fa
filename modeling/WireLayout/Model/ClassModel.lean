import WireLayout.Composition
import WireLayout.Variant

/-!
# Models of composites

A composite becomes a class with the members of its flattened layout, all links
between them, and the variants of its constructor.
-/

namespace WireLayout

/-- The super-class of a class. -/
structure SuperClass where
  typeName : String
  generatedName : String
  deriving DecidableEq, Repr

/-- The model of a composite. -/
structure ClassModel where
  name : String
  generatedName : String
  comment : String
  superClass : Option SuperClass
  members : List Member
  constructorVariants : List ConstructorVariant
  requiredImports : NameSet
  bodyClassName : String
  deriving DecidableEq, Repr

namespace ClassModel

/-- Builds the model of a composite. -/
def build (schema : Schema) (settings : Settings) (language : Language)
    (name : String) : Except CompileFault ClassModel :=
  match schema.find? name with
  | some (.composite type) => do
      let generatedName := language.className schema name
      let composition ← compose schema settings language name
      let members ← (linkDiscriminants schema name composition.members).toExcept
      let superClass := composition.superClass.map fun typeName =>
        (⟨typeName, language.className schema typeName⟩ : SuperClass)
      let requiredImports := match superClass with
        | some base =>
            if base.generatedName == generatedName then composition.imports
            else
              composition.imports.insert
                (language.classImport base.generatedName)
        | none => composition.imports
      return {
        name := name
        generatedName := generatedName
        comment := typeComment type.comments name
        superClass := superClass
        members := members
        constructorVariants :=
          WireLayout.constructorVariants schema settings members
        requiredImports := requiredImports
        bodyClassName := name ++ "Body" }
  | _ => .error (.dangling ⟨name, name, name, .type⟩)

/-- The first member of a name. -/
def member? (model : ClassModel) (name : String) : Option Member :=
  model.members.find? fun member => member.name == name

/-- The member at a place, if there is a place. -/
def memberAt? (model : ClassModel) (place : Option Nat) : Option Member :=
  place.bind fun place => model.members[place]?

/-- Whether some member is present only under a condition. -/
def hasConditionals (model : ClassModel) : Bool :=
  model.members.any Member.isConditional

/-- The members that do not belong to the super-class. -/
def ownMembers (model : ClassModel) : List Member :=
  model.members.filter fun member => !member.isSuper && !member.isInherited

end ClassModel

end WireLayout
