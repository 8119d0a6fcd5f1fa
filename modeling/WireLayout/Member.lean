import WireLayout.Target.Language

/-!
# Members of a flattened composite

A member is an attribute of a composite after its inlined composites have been
spliced in: its kind, size and type are known, and so are the composites
through which it was reached.  Members refer to one another by their places in
the flattened layout.
-/

namespace WireLayout

/-- The condition under which a member is present. -/
structure MemberCondition where
  discriminant : String
  operation : ConditionOperation
  value : Option String
  deriving DecidableEq, Repr

/-- Whether a condition compares for equality. -/
def MemberCondition.isEquality (condition : MemberCondition) : Bool :=
  condition.operation == .equals

/-- An attribute of a flattened composite. -/
structure Member where
  kind : Kind
  name : String
  fieldName : String
  comment : String
  typeName : String
  baseType : Option Category
  generatedType : String
  generatedClassName : String
  size : Size
  signedness : Signedness
  isFinal : Bool
  isConditional : Bool
  condition : Option MemberCondition
  discriminant : Option Nat
  readBefore : Bool
  aggregateName : Option String
  aggregateClass : Option String
  isSuper : Bool
  isInherited : Bool
  isInline : Bool
  isAggregate : Bool
  isReserved : Bool
  sortKey : Option String
  sizeField : Option Nat
  sizedMember : Option Nat
  visit : Nat
  deriving DecidableEq, Repr

namespace Member

/-- Whether a member holds the size of another one. -/
def isSizeField (member : Member) : Bool :=
  member.kind == .sizeField

/-- Whether a member is a collection that is kept in order. -/
def isSorted (member : Member) : Bool :=
  member.sortKey.isSome

/--
Whether a member is present only if the discriminant at a place equals a value.
-/
def isGatedBy (member : Member) (discriminant : Nat) : Bool :=
  member.discriminant == some discriminant &&
    member.condition.any MemberCondition.isEquality

/--
Whether a value for a member has to be given, because it does not follow
from the others.
-/
def isParameter (member : Member) (settings : Settings) : Bool :=
  member.kind != .sizeField && !settings.isEntitySizeField member.name

end Member

end WireLayout
