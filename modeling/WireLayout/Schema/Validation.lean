import WireLayout.Schema.Fault
import WireLayout.Schema.Path

/-!
# Validation of a schema

A schema is valid when the values of its enumerations have distinct names and
numbers, when every attribute refers to types and fields that exist, and when
no composite inlines itself, directly or through others.  Entries are checked
in their order, and of a composite first its attributes and then the
composites it inlines.
-/

namespace WireLayout

namespace Enumeration

/--
Checks values against those before them, of each value first the name and
then the number.
-/
def checkValues (owner : String) :
    List EnumerationValue → List EnumerationValue → Except SchemaFault Unit
  | _, [] => .ok ()
  | earlier, value :: rest =>
      if earlier.any fun other => other.name == value.name then
        .error (.repeatedValueName owner value.name)
      else if earlier.any fun other => other.number == value.number then
        .error (.repeatedNumber owner value.number)
      else checkValues owner (value :: earlier) rest

end Enumeration

namespace Schema

/--
Checks what an attribute of a layout refers to: its type, what it
inlines, and its size.
-/
def checkAttribute (schema : Schema) (byteType owner : String)
    (layout : List Attribute) (attr : Attribute) : Except SchemaFault Unit :=
  if attr.typeName != byteType && !schema.declares attr.typeName then
    .error (.missingType owner attr.displayName attr.typeName)
  else if attr.isInlined && (schema.layout? attr.typeName).isNone then
    .error (.dangling ⟨owner, attr.displayName, attr.typeName, .type⟩)
  else
    match attr.sizeReference with
    | some reference =>
        if layout.any fun sibling => sibling.displayName == reference then
          .ok ()
        else .error (.dangling ⟨owner, attr.displayName, reference, .size⟩)
    | none => .ok ()

mutual

/--
Follows what a composite inlines, below a path; a repeated name ends the
path in the error.
-/
def followInlined (schema : Schema) (path : List String) (name : String) :
    Except (List String) Unit :=
  if _ : name ∈ path then .error (path ++ [name])
  else
    match _ : schema.layout? name with
    | none => .ok ()
    | some layout => schema.followLayout (path ++ [name]) layout
termination_by (schema.unvisited path, 0)
decreasing_by
  exact Prod.Lex.left _ _ (unvisited_append_lt (mem_names_of_layout? ‹_›) ‹_›)

/-- Follows the inlined attributes of a layout in their order. -/
def followLayout (schema : Schema) (path : List String) :
    List Attribute → Except (List String) Unit
  | [] => .ok ()
  | attr :: rest => do
      if attr.isInlined then schema.followInlined path attr.typeName
      schema.followLayout path rest
termination_by layout => (schema.unvisited path, layout.length + 1)
decreasing_by
  all_goals
    apply Prod.Lex.right
    simp only [List.length_cons]
    omega

end

/-- Checks that a composite does not inline itself. -/
def checkAcyclic (schema : Schema) (name : String) : Except SchemaFault Unit :=
  (schema.followInlined [] name).mapError SchemaFault.circular

/-- Checks an entry of a schema. -/
def checkEntry (schema : Schema) (byteType : String) (entry : Entry) :
    Except SchemaFault Unit :=
  match entry.2 with
  | .atomic _ => .ok ()
  | .enumeration type => Enumeration.checkValues entry.1 [] type.values
  | .composite type => do
      type.layout.forM (schema.checkAttribute byteType entry.1 type.layout)
      schema.checkAcyclic entry.1

/-- Checks a schema, in which a name of its own stands for raw bytes. -/
def validate (schema : Schema) (byteType : String) : Except SchemaFault Unit :=
  schema.entries.forM (schema.checkEntry byteType)

end Schema

end WireLayout
