import WireLayout.Document.Loading

/-!
# What can be wrong with a schema

A schema is refused while it is loaded, because its text is no document, a
value in it has the wrong form, a name is declared twice, or the document as a
whole is neither a list nor a mapping; or it is refused by its validation,
because the entries do not fit together.

Each kind of fault records what it is about; its words are in one function.
-/

namespace WireLayout

open WireLayout.Document

/--
Why a value of a document does not have the form that is expected at its place.
-/
inductive DecodeFault where
  | wrongType (found : Value) (expected : String)
  | wrongValue (found : Value) (expected : String)
  | wrongLength (length : Nat) (expected : String)
  | missingField (name : String)
  | duplicateField (name : String)
  | unknownVariant (name : String) (expected : List String)
  | noAlternative (union : String)
  | nestedTag
  deriving Repr

/-- Names in a sentence, each between backquotes. -/
def quotedChoices (choices : List String) : String :=
  let marked := choices.map fun choice => "`" ++ choice ++ "`"
  match marked with
  | [] => "nothing"
  | [only] => only
  | [first, second] => first ++ " or " ++ second
  | several => "one of " ++ ", ".intercalate several

/-- The words for a decoding fault. -/
def DecodeFault.message : DecodeFault → String
  | .wrongType found expected =>
      "invalid type: " ++ found.description ++ ", expected " ++ expected
  | .wrongValue found expected =>
      "invalid value: " ++ found.description ++ ", expected " ++ expected
  | .wrongLength length expected =>
      "invalid length " ++ toString length ++ ", expected " ++ expected
  | .missingField name => "missing field `" ++ name ++ "`"
  | .duplicateField name => "duplicate field `" ++ name ++ "`"
  | .unknownVariant name expected =>
      "unknown variant `" ++ name ++ "`, expected " ++ quotedChoices expected
  | .noAlternative union =>
      "data did not match any variant of untagged enum " ++ union
  | .nestedTag =>
      "untagged and internally tagged enums do not support enum input"

/-- Why a schema cannot be loaded. -/
inductive LoadFault where
  | document (fault : Fault)
  | decoding (fault : DecodeFault)
  | duplicate (kind name : String)
  | structural (reason : String)
  | unreadable
  deriving Repr

/--
The words for a loading fault; a fault at a place of the text or of its
medium has none.
-/
def LoadFault.message? : LoadFault → Option String
  | .document fault => fault.message?.map fun words => "YAML error: " ++ words
  | .decoding fault => some ("YAML error: " ++ fault.message)
  | .duplicate kind name =>
      some ("duplicate " ++ kind ++ " definition: '" ++ name ++ "'")
  | .structural reason => some ("invalid schema structure: " ++ reason)
  | .unreadable => none

/-- What a name inside a layout refers to. -/
inductive ReferenceKind where
  | size
  | condition
  | conditionValue
  | type
  | constant
  deriving DecidableEq, Repr

/-- The words for a kind of reference. -/
def ReferenceKind.words : ReferenceKind → String
  | .size => "size"
  | .condition => "condition"
  | .conditionValue => "condition value"
  | .type => "type"
  | .constant => "constant"

/-- A name in an attribute of a composite that refers to nothing. -/
structure DanglingReference where
  owner : String
  attr : String
  reference : String
  kind : ReferenceKind
  deriving DecidableEq, Repr

/-- The words for a reference to nothing. -/
def DanglingReference.message (dangling : DanglingReference) : String :=
  "unresolved " ++ dangling.kind.words ++ " reference '" ++
    dangling.reference ++ "' in '" ++
    dangling.owner ++ "." ++ dangling.attr ++ "'"

/-- Why a schema is not valid. -/
inductive SchemaFault where
  | loading (fault : LoadFault)
  | missingType (owner attr typeName : String)
  | dangling (reference : DanglingReference)
  | circular (path : List String)
  | repeatedValueName (enumeration value : String)
  | repeatedNumber (enumeration : String) (number : Nat)
  | constantWithoutValue (owner attr : String)
  deriving Repr

/-- The words for the fault of a schema that is not valid. -/
def SchemaFault.message? : SchemaFault → Option String
  | .loading fault => fault.message?.map fun words => "parse error: " ++ words
  | .missingType owner attr typeName =>
      some ("type '" ++ typeName ++ "' referenced by '" ++ owner ++ "." ++
        attr ++ "' not found")
  | .dangling reference => some reference.message
  | .circular path =>
      some ("circular inline composition detected: " ++ " -> ".intercalate path)
  | .repeatedValueName enumeration value =>
      some ("validation error: Duplicate enum value name '" ++ value ++
        "' in enum '" ++ enumeration ++ "'")
  | .repeatedNumber enumeration number =>
      some ("validation error: Duplicate enum value '" ++ toString number ++
        "' in enum '" ++ enumeration ++ "'")
  | .constantWithoutValue owner attr =>
      some ("validation error: const attribute '" ++ owner ++ "." ++ attr ++
        "' has no value")

end WireLayout
