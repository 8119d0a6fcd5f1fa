import WireLayout.Member

/-!
# Discriminants

A member that is present under a condition is linked with its discriminant: the
first member of that name which the composite itself declares, otherwise the
first member of that name at all.  The value that the condition requires
becomes the name of a value of the discriminant's enumeration.

Each link depends on the names, visits and types of the members alone, and so
not on other links.  Where a member cannot be linked, the members before it are
linked and the others are left.
-/

namespace WireLayout

/-- The place of the discriminant of a name. -/
def findDiscriminant (members : List Member) (name : String) : Option Nat :=
  match members.findIdx? fun member =>
    member.visit == 0 && member.name == name with
  | some place => some place
  | none => members.findIdx? fun member => member.name == name

/--
The selector that a text writes: a number in 64 bits, possibly after a plus
sign, or a name.
-/
def Selector.ofText (text : String) : Selector :=
  let digits := match text.toList with
    | '+' :: rest => rest
    | characters => characters
  match Text.digitsNumber 10 digits with
  | some value =>
      if value < Decimal.binaryPower 64 then .number value else .name text
  | none => .name text

namespace Enumeration

/-- The name of the value that a condition requires. -/
def conditionValue (enumeration : Enumeration) (owner attr text : String) :
    Except CompileFault String :=
  match enumeration.find? (.ofText text) with
  | some value => .ok value.name
  | none => .error (.dangling ⟨owner, attr, text, .conditionValue⟩)

end Enumeration

namespace Member

/-- The value that a condition requires of a discriminant of a type. -/
def requiredValue (schema : Schema) (owner : String) (member : Member)
    (condition : MemberCondition) (typeName : String) :
    Except CompileFault (Option String) :=
  match schema.enumeration? typeName, condition.operation with
  | some enumeration, _ =>
      match condition.value with
      | some text =>
          (enumeration.conditionValue owner member.name text).map some
      | none => .ok none
  | none, .equals =>
      .error (.notEnumeration owner member.name condition.discriminant typeName)
  | none, .has => .ok condition.value

/-- A member linked with its discriminant among all members. -/
def linkDiscriminant (schema : Schema) (owner : String) (members : List Member)
    (member : Member) : Except CompileFault Member :=
  match member.condition with
  | none => .ok member
  | some condition =>
      match findDiscriminant members condition.discriminant with
      | none =>
          .error (.dangling
            ⟨owner, member.name, condition.discriminant, .condition⟩)
      | some place => do
          let typeName := (members[place]?.map Member.typeName).getD ""
          let value ← member.requiredValue schema owner condition typeName
          return { member with
            discriminant := some place
            condition := some { condition with value := value } }

end Member

/--
Members after linking, and what kept one of them from being linked, if so.
-/
structure Linking where
  members : List Member
  fault : Option CompileFault
  deriving Repr

/-- Links members one after the other up to the first that cannot be linked. -/
def linkDiscriminantsFrom (schema : Schema) (owner : String)
    (members : List Member) : List Member → Linking
  | [] => ⟨[], none⟩
  | member :: rest =>
      match member.linkDiscriminant schema owner members with
      | .error fault => ⟨member :: rest, some fault⟩
      | .ok linked =>
          let others := linkDiscriminantsFrom schema owner members rest
          ⟨linked :: others.members, others.fault⟩

/-- Links the members of a composite with their discriminants. -/
def linkDiscriminants (schema : Schema) (owner : String)
    (members : List Member) : Linking :=
  linkDiscriminantsFrom schema owner members members

/-- The linked members, if all of them can be linked. -/
def Linking.toExcept (linking : Linking) : Except CompileFault (List Member) :=
  match linking.fault with
  | some fault => .error fault
  | none => .ok linking.members

end WireLayout
