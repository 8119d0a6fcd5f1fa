import WireLayout.Member
import WireLayout.Schema.Path

/-!
# Flattening

A composite is flattened by walking its layout in order.  A constant
contributes nothing.  An inlined composite that is generated contributes a slot
of its own, and every inlined composite contributes its flattened layout in
place.  Any other attribute contributes itself.

The walk is done in two steps.  The first one finds the occurrences:
which attribute of which layout is met, on which visit, and through which
inlined attributes.  Visits are numbered in the order in which they begin, the
visit of the root being visit 0.  The second step turns occurrences into
members, one after the other, for a target language.

Of several faults the first one on the way is reported: those of the
occurrences in their order, and then what stopped the walk.
-/

namespace WireLayout

/-- An attribute of a layout together with its place there. -/
structure Step where
  position : Nat
  attr : Attribute
  deriving DecidableEq, Repr

/-- The attributes of a layout with their places. -/
def stepsOf (layout : List Attribute) : List Step :=
  layout.zipIdx.map fun entry => ⟨entry.2, entry.1⟩

/-- An attribute that is met on the walk. -/
structure Occurrence where
  owner : String
  layout : List Attribute
  step : Step
  visit : Nat
  via : List Step
  deriving DecidableEq, Repr

/--
What a part of the walk met, the number of the last visit so far, and what
stopped it, if so.
-/
structure Traversal where
  occurrences : List Occurrence
  lastVisit : Nat
  fault : Option CompileFault
  deriving Repr

namespace Traversal

/-- A walk that meets one attribute before going on. -/
def meeting (occurrences : List Occurrence) (later : Traversal) : Traversal :=
  { later with occurrences := occurrences ++ later.occurrences }

/-- A walk that is stopped by a fault. -/
def stopped (lastVisit : Nat) (fault : CompileFault) : Traversal :=
  ⟨[], lastVisit, some fault⟩

end Traversal

/-- The visit of a layout: whose it is, its number, and how it was reached. -/
structure Frame where
  owner : String
  layout : List Attribute
  visit : Nat
  path : List String
  via : List Step
  deriving DecidableEq, Repr

namespace Frame

/-- The visit of the root. -/
def root (name : String) (layout : List Attribute) : Frame :=
  ⟨name, layout, 0, [name], []⟩

/-- The visit of a composite that is inlined in the layout of a visit. -/
def descend (frame : Frame) (step : Step) (layout : List Attribute)
    (visit : Nat) : Frame :=
  ⟨step.attr.typeName, layout, visit, frame.path ++ [step.attr.typeName],
    frame.via ++ [step]⟩

/-- The occurrence of an attribute on a visit. -/
def occurrence (frame : Frame) (step : Step) : Occurrence :=
  ⟨frame.owner, frame.layout, step, frame.visit, frame.via⟩

end Frame

/-- Walks the remaining steps of a visit, after the visits up to a number. -/
def traverse (schema : Schema) (settings : Settings) (frame : Frame)
    (lastVisit : Nat) : List Step → Traversal
  | [] => ⟨[], lastVisit, none⟩
  | step :: rest =>
      match step.attr.disposition with
      | some .constant => traverse schema settings frame lastVisit rest
      | some .inlined =>
          let typeName := step.attr.typeName
          let slot :=
            if settings.generates typeName then [frame.occurrence step] else []
          match _ : schema.layout? typeName with
          | none =>
              Traversal.meeting slot
                (.stopped lastVisit
                  (.dangling ⟨frame.owner, step.attr.displayName, typeName,
                    .type⟩))
          | some layout =>
              if _ : typeName ∈ frame.path then
                Traversal.meeting slot (.stopped lastVisit
                  (.schema (.circular (frame.path ++ [typeName]))))
              else
                let inner := traverse schema settings
                  (frame.descend step layout (lastVisit + 1)) (lastVisit + 1)
                  (stepsOf layout)
                Traversal.meeting slot
                  (match inner.fault with
                  | some _ => inner
                  | none =>
                      Traversal.meeting inner.occurrences
                        (traverse schema settings frame inner.lastVisit rest))
      | _ =>
          Traversal.meeting [frame.occurrence step]
            (traverse schema settings frame lastVisit rest)
termination_by steps => (schema.unvisited frame.path, steps.length)
decreasing_by
  · exact Prod.Lex.right _ (by simp)
  · exact Prod.Lex.left _ _
      (Schema.unvisited_append_lt (Schema.mem_names_of_layout? ‹_›) ‹_›)
  · exact Prod.Lex.right _ (by simp)
  · exact Prod.Lex.right _ (by simp)

/-- What stays the same for all occurrences of a walk. -/
structure WalkContext where
  schema : Schema
  settings : Settings
  language : Language
  root : String
  superPosition : Option Nat
  deriving Repr

namespace WalkContext

/-- The context of walking a composite. -/
def of (schema : Schema) (settings : Settings) (language : Language)
    (root : String) (layout : List Attribute) : WalkContext :=
  ⟨schema, settings, language, root, superClassPosition? settings layout⟩

/-- Whether a step in the layout of the root is the super-class. -/
def isSuperStep (context : WalkContext) (step : Step) : Bool :=
  context.superPosition == some step.position

/--
The first composite on the way to an occurrence that is generated, by the
name of its slot.
-/
def aggregateName (context : WalkContext) (via : List Step) : Option String :=
  (via.find? fun step =>
    context.settings.generates step.attr.typeName).map fun step =>
    step.attr.displayName

/--
The composite that declares an occurrence, if it was inlined and is generated.
-/
def aggregateClass (context : WalkContext) (via : List Step) : Option String :=
  match via.getLast? with
  | some step =>
      if context.settings.generates step.attr.typeName then
        some step.attr.typeName
      else none
  | none => none

/-- Whether an occurrence was reached through the super-class. -/
def isInherited (context : WalkContext) (via : List Step) : Bool :=
  via.head?.any context.isSuperStep

/-- Whether an occurrence is the super-class itself. -/
def isSuper (context : WalkContext) (occurrence : Occurrence) : Bool :=
  occurrence.visit == 0 && context.isSuperStep occurrence.step

end WalkContext

/-- The condition of an attribute, its value still as it is declared. -/
def Attribute.memberCondition (attr : Attribute) : Option MemberCondition :=
  attr.condition.map fun discriminant =>
    ⟨discriminant, attr.operation, attr.conditionValue.map Selector.text⟩

/-- A member with what a class has to import for its type. -/
structure TypedMember where
  member : Member
  type : TargetType
  deriving DecidableEq, Repr

namespace Occurrence

/-- The type of an occurrence of a kind and a size in the target language. -/
def targetType (context : WalkContext) (occurrence : Occurrence) (kind : Kind)
    (size : Size) : TargetType :=
  context.language.attributeType context.schema context.settings
    occurrence.step.attr kind size

/--
The member of an occurrence of a kind and a size, after the
occurrences of some names.
-/
def member (context : WalkContext) (earlier : List String)
    (occurrence : Occurrence) (kind : Kind) (size : Size) : Member :=
  let attr := occurrence.step.attr
  let name := attr.displayName
  let isSuper := context.isSuper occurrence
  let isInherited := context.isInherited occurrence.via
  let aggregateName := context.aggregateName occurrence.via
  { kind := kind
    name := name
    fieldName := context.language.fieldName name
    comment := attr.comment
    typeName := attr.typeName
    baseType := context.schema.category? attr.typeName
    generatedType := (occurrence.targetType context kind size).name
    generatedClassName :=
      context.language.className context.schema attr.typeName
    size := size
    signedness := attr.resolvedSignedness context.schema
    isFinal := !attr.isConditional && kind != .sizeField &&
      !context.settings.isEntitySizeField name
    isConditional := attr.isConditional
    condition := attr.memberCondition
    discriminant := none
    readBefore :=
      attr.condition.any fun discriminant => !earlier.contains discriminant
    aggregateName := aggregateName
    aggregateClass := context.aggregateClass occurrence.via
    isSuper := isSuper
    isInherited := isInherited
    isInline := !isSuper && !isInherited && aggregateName.isSome
    isAggregate := attr.isInlined
    isReserved := attr.isReserved
    sortKey := attr.sortKey
    sizeField := none
    sizedMember := none
    visit := occurrence.visit }

/--
The member and the type of an occurrence, after the occurrences of some names.
-/
def resolve (context : WalkContext) (earlier : List String)
    (occurrence : Occurrence) : Except CompileFault TypedMember := do
  let attr := occurrence.step.attr
  let kind ← match attr.kind? context.settings occurrence.layout with
    | some kind => .ok kind
    | none => .error (.unclassified occurrence.owner attr.displayName)
  attr.checkSizeReference occurrence.owner occurrence.layout
  let size ← attr.resolvedSize context.schema context.settings occurrence.owner
  return ⟨occurrence.member context earlier kind size,
    occurrence.targetType context kind size⟩

end Occurrence

/-- The members of occurrences, after the occurrences of some names. -/
def resolveOccurrences (context : WalkContext) :
    List String → List Occurrence → Except CompileFault (List TypedMember)
  | _, [] => .ok []
  | earlier, occurrence :: rest => do
      let resolved ← occurrence.resolve context earlier
      let others ← resolveOccurrences context
        (earlier ++ [occurrence.step.attr.displayName]) rest
      return resolved :: others

/--
The place of the field that holds the size of a member, among the
members of its visit.
-/
def Member.sizeTarget (owner : String) (members : List Member)
    (member : Member) : Except CompileFault (Option Nat) :=
  match member.size with
  | .literal _ => .ok none
  | .field reference =>
      let holder (other : Member) : Bool :=
        other.visit == member.visit && other.name == reference
      match members.findIdx? holder with
      | some place => .ok (some place)
      | none => .error (.dangling ⟨owner, member.name, reference, .size⟩)

/--
The members with their size links, given for each the place of its size field.
-/
def withSizeLinks (targets : List (Option Nat))
    (members : List Member) : List Member :=
  members.zipIdx.map fun entry =>
    { entry.1 with
      sizeField := (targets[entry.2]?).join
      sizedMember := targets.findIdx? fun target => target == some entry.2 }

/--
Links each member with the field that holds its size, and that field
with the first such.
-/
def linkSizes (owner : String) (members : List Member) :
    Except CompileFault (List Member) := do
  let targets ← members.mapM (Member.sizeTarget owner members)
  return withSizeLinks targets members

/--
A flattened composite: its members in order, its super-class, and what
its types import.
-/
structure Composition where
  members : List Member
  superClass : Option String
  imports : NameSet
  deriving DecidableEq, Repr

/-- Flattens a composite for a language. -/
def compose (schema : Schema) (settings : Settings) (language : Language)
    (root : String) : Except CompileFault Composition :=
  match schema.layout? root with
  | none => .error (.dangling ⟨root, root, root, .type⟩)
  | some layout => do
      let context := WalkContext.of schema settings language root layout
      let traversal :=
        traverse schema settings (.root root layout) 0 (stepsOf layout)
      let resolved ← resolveOccurrences context [] traversal.occurrences
      if let some fault := traversal.fault then throw fault
      let members ← linkSizes root (resolved.map TypedMember.member)
      let ownClass := language.className schema root
      let imports := resolved.foldl
        (fun set entry =>
          set.union (language.requiredImports entry.type ownClass))
        NameSet.empty
      let superClass :=
        (context.superPosition.bind fun position => layout[position]?).map
          Attribute.typeName
      return ⟨members, superClass, imports⟩

end WireLayout
