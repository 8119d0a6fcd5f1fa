import WireLayout.Decimal.Shortest
import WireLayout.Text.Quoted

/-!
# Values of a document

What a document means once its notation is left behind: scalars of five kinds,
sequences, mappings that keep the order in which their entries were written,
and values under a tag of their own.

Two values agree when they are the same up to the order of mapping entries.  No
mapping of a document has two keys that agree.
-/

namespace WireLayout.Document

open WireLayout.Decimal

/-- A value of a document. -/
inductive Value where
  | null
  | boolean (value : Bool)
  | integer (value : Int)
  | real (value : Binary64)
  | text (value : String)
  | sequence (items : List Value)
  | mapping (entries : List (Value × Value))
  | tagged (tag : String) (content : Value)
  deriving Repr, Inhabited

mutual

/-- Whether two values are the same up to the order of mapping entries. -/
def Value.agrees : Value → Value → Bool
  | .null, .null => true
  | .boolean left, .boolean right => left == right
  | .integer left, .integer right => left == right
  | .real left, .real right => left.agrees right
  | .text left, .text right => left == right
  | .sequence left, .sequence right => itemsAgree left right
  | .mapping left, .mapping right =>
      left.length == right.length && entriesWithin left right
  | .tagged leftTag left, .tagged rightTag right =>
      leftTag == rightTag && left.agrees right
  | _, _ => false

/-- Whether two sequences have agreeing items at each position. -/
def itemsAgree : List Value → List Value → Bool
  | [], [] => true
  | left :: lefts, right :: rights =>
      left.agrees right && itemsAgree lefts rights
  | _, _ => false

/--
Whether each entry of the first list agrees with some entry of the second.
-/
def entriesWithin : List (Value × Value) → List (Value × Value) → Bool
  | [], _ => true
  | (key, value) :: rest, others =>
      (others.any fun other => key.agrees other.1 && value.agrees other.2) &&
        entriesWithin rest others

end

/-- The words with which a message names a value that has the wrong type. -/
def Value.description : Value → String
  | .null => "unit value"
  | .boolean value => "boolean `" ++ (if value then "true" else "false") ++ "`"
  | .integer value => "integer `" ++ toString value ++ "`"
  | .real value => "floating point `" ++ value.text ++ "`"
  | .text value => "string " ++ Text.quoted value
  | .sequence _ => "sequence"
  | .mapping _ => "map"
  | .tagged _ _ => "enum"

end WireLayout.Document
