import WireLayout.Casing
import WireLayout.Text.Search

/-!
# Schemas

A schema describes binary layouts.  Each of its entries is a name with a
descriptor: an atomic type of some bytes, an enumeration over such a type, or a
composite, which has a layout of attributes.  Entries keep the order in which
they were declared, and no two have the same name.

An attribute of a layout is a field of its own, or, when it is inlined, stands
for the whole layout of another composite.  It may take its size from a field
of the same layout, and it may be present only under a condition on
another attribute, the discriminant.
-/

namespace WireLayout

/-- Whether an integer type has negative members. -/
inductive Signedness where
  | unsigned
  | signed
  deriving DecidableEq, Repr

/-- The keyword of a signedness. -/
def Signedness.keyword : Signedness → String
  | .unsigned => "unsigned"
  | .signed => "signed"

/-- What kind of type a descriptor declares. -/
inductive Category where
  | atomic
  | enumeration
  | composite
  deriving DecidableEq, Repr

/-- The keyword by which a schema names a category. -/
def Category.keyword : Category → String
  | .atomic => "byte"
  | .enumeration => "enum"
  | .composite => "struct"

/-- The category that a keyword names. -/
def Category.ofKeyword? (keyword : String) : Option Category :=
  match keyword with
  | "byte" => some .atomic
  | "enum" => some .enumeration
  | "struct" => some .composite
  | _ => none

/-- A category is found again under its keyword. -/
@[simp]
theorem Category.ofKeyword?_keyword (category : Category) :
    Category.ofKeyword? category.keyword = some category := by
  cases category <;> rfl

/-- A type of a fixed number of bytes. -/
structure AtomicType where
  size : Nat
  signedness : Signedness := .unsigned
  comments : String := ""
  deriving DecidableEq, Repr

/-- A named number of an enumeration. -/
structure EnumerationValue where
  name : String
  number : Nat
  comments : String := ""
  deriving DecidableEq, Repr

/-- A type whose members are named numbers. -/
structure Enumeration where
  size : Nat
  signedness : Signedness := .unsigned
  values : List EnumerationValue := []
  isFlags : Bool := false
  comments : String := ""
  deriving DecidableEq, Repr

/-- The structural role of an attribute, where it has one. -/
inductive Disposition where
  | inlined
  | constant
  | filling
  | variadic
  | unknown
  deriving DecidableEq, Repr

/-- How the value of a discriminant is compared. -/
inductive ConditionOperation where
  | equals
  | has
  deriving DecidableEq, Repr

/-- A size in bytes or elements: a number, or the field that holds it. -/
inductive Size where
  | literal (count : Nat)
  | field (name : String)
  deriving DecidableEq, Repr

/-- The text of a size. -/
def Size.text : Size → String
  | .literal count => toString count
  | .field name => name

/-- What a schema writes for a value: a number, or a name. -/
inductive Selector where
  | number (value : Nat)
  | name (text : String)
  deriving DecidableEq, Repr

/-- The text of a selector. -/
def Selector.text : Selector → String
  | .number value => toString value
  | .name text => text

/-- Whether a selector means a value, by its number or by its name. -/
def EnumerationValue.answersTo (value : EnumerationValue)
    (selector : Selector) : Bool :=
  match selector with
  | .number number => number == value.number
  | .name name => name == value.name

namespace Enumeration

/-- The first value that a selector means. -/
def find? (enumeration : Enumeration) (selector : Selector) :
    Option EnumerationValue :=
  enumeration.values.find? fun value => value.answersTo selector

/-- The first value of a name. -/
def named? (enumeration : Enumeration) (name : String) :
    Option EnumerationValue :=
  enumeration.values.find? fun value => value.name == name

end Enumeration

/-- An attribute as a layout declares it. -/
structure Attribute where
  name : Option String := none
  typeName : String := ""
  disposition : Option Disposition := none
  size : Option Size := none
  signedness : Option Signedness := none
  condition : Option String := none
  conditionOperation : Option ConditionOperation := none
  conditionValue : Option Selector := none
  sortKey : Option String := none
  value : Option Selector := none
  comments : String := ""
  deriving DecidableEq, Repr

namespace Attribute

/-- A plain attribute of a name and a type. -/
def named (name typeName : String) : Attribute :=
  { name := some name, typeName := typeName }

/-- An inlined composite. -/
def inlining (typeName : String) : Attribute :=
  { typeName := typeName, disposition := some .inlined }

/-- An attribute with an equality condition. -/
def withCondition (attr : Attribute) (discriminant : String)
    (value : Selector) : Attribute :=
  { attr with
    condition := some discriminant
    conditionOperation := some .equals
    conditionValue := some value }

/-- The name of an attribute; one without a name goes by its type. -/
def displayName (attr : Attribute) : String :=
  attr.name.getD (decapitalize attr.typeName)

/-- Whether an attribute stands for the layout of its type. -/
def isInlined (attr : Attribute) : Bool :=
  attr.disposition == some .inlined

/--
Whether an attribute is a constant of its composite and no part of the data.
-/
def isConstant (attr : Attribute) : Bool :=
  attr.disposition == some .constant

/-- Whether an attribute takes up all remaining data. -/
def isFilling (attr : Attribute) : Bool :=
  attr.disposition == some .filling

/-- Whether an attribute is a collection that shows its own end. -/
def isVariadic (attr : Attribute) : Bool :=
  attr.disposition == some .variadic

/-- Whether an attribute is present only under a condition. -/
def isConditional (attr : Attribute) : Bool :=
  attr.condition.isSome

/-- Whether an attribute is a collection that is kept in order. -/
def isSorted (attr : Attribute) : Bool :=
  attr.sortKey.isSome

/--
Whether an attribute is padding: it has a size, and its name says
that it is reserved.
-/
def isReserved (attr : Attribute) : Bool :=
  attr.size.isSome &&
    attr.name.any fun name => Text.occursIn "_Reserved".toList name.toList

/--
The comparison with the discriminant, equality unless another one is declared.
-/
def operation (attr : Attribute) : ConditionOperation :=
  attr.conditionOperation.getD .equals

/-- The field that holds the size of an attribute. -/
def sizeReference (attr : Attribute) : Option String :=
  match attr.size with
  | some (.field name) => some name
  | _ => none

/-- The size of an attribute, where it is declared as a number. -/
def literalSize (attr : Attribute) : Option Nat :=
  match attr.size with
  | some (.literal count) => some count
  | _ => none

end Attribute

/-- A type with a layout of attributes. -/
structure Composite where
  layout : List Attribute := []
  comments : String := ""
  deriving DecidableEq, Repr

/-- What a schema declares for a name. -/
inductive Descriptor where
  | atomic (type : AtomicType)
  | enumeration (type : Enumeration)
  | composite (type : Composite)
  deriving DecidableEq, Repr

namespace Descriptor

/-- The category of a descriptor. -/
def category : Descriptor → Category
  | .atomic _ => .atomic
  | .enumeration _ => .enumeration
  | .composite _ => .composite

/-- The size of a descriptor in bytes; a composite has none of its own. -/
def size : Descriptor → Option Nat
  | .atomic type => some type.size
  | .enumeration type => some type.size
  | .composite _ => none

/-- The signedness of a descriptor; a composite has none. -/
def signedness : Descriptor → Option Signedness
  | .atomic type => some type.signedness
  | .enumeration type => some type.signedness
  | .composite _ => none

/-- The comments of a descriptor. -/
def comments : Descriptor → String
  | .atomic type => type.comments
  | .enumeration type => type.comments
  | .composite type => type.comments

end Descriptor

/-- A named descriptor. -/
abbrev Entry := String × Descriptor

/--
The entries of a schema in the order of their declaration, with distinct names.
-/
structure Schema where
  entries : List Entry := []
  distinct : (entries.map Prod.fst).Nodup := by simp
  deriving Repr

namespace Schema

/-- The schema without entries. -/
def empty : Schema := {}

/-- The names of a schema in the order of their declaration. -/
def names (schema : Schema) : List String :=
  schema.entries.map Prod.fst

/-- The descriptor of a name. -/
def find? (schema : Schema) (name : String) : Option Descriptor :=
  (schema.entries.find? fun entry => entry.1 == name).map Prod.snd

/-- Whether a schema declares a name. -/
def declares (schema : Schema) (name : String) : Bool :=
  (schema.find? name).isSome

/-- The category of a name. -/
def category? (schema : Schema) (name : String) : Option Category :=
  (schema.find? name).map Descriptor.category

/-- The layout of a composite. -/
def layout? (schema : Schema) (name : String) : Option (List Attribute) :=
  match schema.find? name with
  | some (.composite type) => some type.layout
  | _ => none

/-- The enumeration of a name. -/
def enumeration? (schema : Schema) (name : String) : Option Enumeration :=
  match schema.find? name with
  | some (.enumeration type) => some type
  | _ => none

/-- The composites of a schema in the order of their declaration. -/
def composites (schema : Schema) : List (String × Composite) :=
  schema.entries.filterMap fun entry =>
    match entry.2 with
    | .composite type => some (entry.1, type)
    | _ => none

/-- Replaces the descriptor of each entry of a name. -/
def replaceEntries (name : String) (descriptor : Descriptor)
    (entries : List Entry) : List Entry :=
  entries.map fun entry => if entry.1 = name then (name, descriptor) else entry

/-- Replacing descriptors leaves the names as they are. -/
@[simp]
theorem map_fst_replaceEntries (name : String) (descriptor : Descriptor)
    (entries : List Entry) :
    (replaceEntries name descriptor entries).map Prod.fst =
      entries.map Prod.fst := by
  induction entries with
  | nil => rfl
  | cons entry rest ih =>
      simp only [replaceEntries, List.map_cons] at ih ⊢
      rw [ih]
      split
      · next equality => simp [equality]
      · rfl

/-- Declares a name; a name that is declared already keeps its place. -/
def insert (schema : Schema) (name : String)
    (descriptor : Descriptor) : Schema :=
  if present : name ∈ schema.names then
    ⟨replaceEntries name descriptor schema.entries, by
      rw [map_fst_replaceEntries]
      exact schema.distinct⟩
  else
    ⟨schema.entries ++ [(name, descriptor)], by
      rw [List.map_append, List.nodup_append]
      refine ⟨schema.distinct, by simp, ?_⟩
      intro first firstMember second secondMember equality
      simp only [List.map_cons, List.map_nil,
        List.mem_singleton] at secondMember
      subst secondMember
      subst equality
      exact present firstMember⟩

/-- Declares the entries of a list one after the other. -/
def ofList (entries : List Entry) : Schema :=
  entries.foldl (fun schema entry => schema.insert entry.1 entry.2) empty

end Schema

end WireLayout
