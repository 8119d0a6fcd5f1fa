import WireLayout.Discriminant

/-!
# Constructor variants

A class with conditional members can be constructed in several ways.  For each
discriminant with which members are compared for equality there is a variant
for every value that some member requires, in the order of the enumeration, and
one without a value if there are values that no member requires.  A class
without such members has a single variant.

A variant forces the value of its discriminant and leaves out the members that
require another one.
-/

namespace WireLayout

/-- A parameter of a constructor in a variant. -/
structure ConstructorArgument where
  place : Nat
  name : String
  conditionProvide : Bool
  forcedValue : Option String
  deriving DecidableEq, Repr

/-- One way to construct a class. -/
structure ConstructorVariant where
  discriminant : Option String
  value : Option String
  arguments : List ConstructorArgument
  deriving DecidableEq, Repr

namespace ConstructorVariant

/-- The argument of a name. -/
def argument? (variant : ConstructorVariant) (name : String) :
    Option ConstructorArgument :=
  variant.arguments.find? fun argument => argument.name == name

/-- The names of the arguments that have to be given. -/
def provided (variant : ConstructorVariant) : List String :=
  (variant.arguments.filter fun argument =>
    argument.conditionProvide && argument.forcedValue.isNone).map
      ConstructorArgument.name

end ConstructorVariant

/-- The members that are parameters, with their places. -/
def parameters (settings : Settings) (members : List Member) :
    List (Member × Nat) :=
  members.zipIdx.filter fun entry => entry.1.isParameter settings

/--
The places of the discriminants with which members are compared for equality.
-/
def gatingPlaces (members : List Member) : List Nat :=
  members.filterMap fun member =>
    match member.discriminant with
    | some place => if member.isGatedBy place then some place else none
    | none => none

/--
The discriminants with which members are compared for equality, in the
order of first use.
-/
def gatingDiscriminants (members : List Member) : List Nat :=
  (gatingPlaces members).foldl
    (fun seen place => if seen.contains place then seen else seen ++ [place]) []

/-- The values of a discriminant that members require. -/
def requiredValues (members : List Member) (discriminant : Nat) : List String :=
  (members.filter fun member =>
    member.isGatedBy discriminant).filterMap fun member =>
    member.condition.bind MemberCondition.value

/-- Whether a variant of a discriminant and a value leaves out a member. -/
def isExcluded (discriminant : Option Nat) (value : Option String)
    (member : Member) : Bool :=
  discriminant.any fun place =>
    member.isGatedBy place &&
      member.condition.bind MemberCondition.value != value

/-- The argument for a member in a variant of a discriminant and a value. -/
def constructorArgument (discriminant : Option Nat) (value : Option String)
    (entry : Member × Nat) : ConstructorArgument where
  place := entry.2
  name := entry.1.name
  conditionProvide := !isExcluded discriminant value entry.1
  forcedValue := if discriminant == some entry.2 then value else none

/-- The variant of a discriminant and a value. -/
def constructorVariant (settings : Settings) (members : List Member)
    (discriminant : Option Nat) (value : Option String) :
    ConstructorVariant where
  discriminant :=
    discriminant.map fun place => (members[place]?.map Member.name).getD ""
  value := value
  arguments :=
    (parameters settings members).map (constructorArgument discriminant value)

/-- The variants of a discriminant. -/
def variantsOf (schema : Schema) (settings : Settings) (members : List Member)
    (discriminant : Nat) : List ConstructorVariant :=
  let typeName := (members[discriminant]?.map Member.typeName).getD ""
  match schema.enumeration? typeName with
  | none => []
  | some enumeration =>
      let required := requiredValues members discriminant
      let names := enumeration.values.map EnumerationValue.name
      let keyed := (names.filter required.contains).map fun name =>
        constructorVariant settings members (some discriminant) (some name)
      if names.all required.contains then keyed
      else
        keyed ++ [constructorVariant settings members (some discriminant) none]

/-- The variants of a class with linked members. -/
def constructorVariants (schema : Schema) (settings : Settings)
    (members : List Member) : List ConstructorVariant :=
  match gatingDiscriminants members with
  | [] => [constructorVariant settings members none none]
  | discriminants => discriminants.flatMap (variantsOf schema settings members)

end WireLayout
