import WireLayout.Schema.Fault
import WireLayout.Settings

/-!
# What can go wrong in a compilation

A compilation fails because its schema or its settings cannot be read, because
the schema is not valid, because the target language is unknown, or because
an attribute cannot be resolved.
-/

namespace WireLayout

/-- Why a compilation fails. -/
inductive CompileFault where
  | loading (fault : LoadFault)
  | schema (fault : SchemaFault)
  | settings (fault : SettingsFault)
  | unreadable
  | dangling (reference : DanglingReference)
  | notEnumeration (owner attr discriminant typeName : String)
  | unknownLanguage (name : String)
  | unclassified (owner attr : String)
  deriving Repr

namespace CompileFault

/--
The words for the failure of a compilation; a fault at a place of
a text has none.
-/
def message? : CompileFault → Option String
  | .loading fault =>
      fault.message?.map fun words => "schema parse error: " ++ words
  | .schema fault => fault.message?.map fun words => "schema error: " ++ words
  | .settings fault =>
      fault.message?.map fun words => "invalid generator config: " ++ words
  | .unreadable => none
  | .dangling reference => some reference.message
  | .notEnumeration owner attr discriminant typeName =>
      some ("discriminant '" ++ discriminant ++ "' of '" ++ owner ++ "." ++
        attr ++ "' has type '" ++ typeName ++ "', expected an enumeration")
  | .unknownLanguage name => some ("unknown target language '" ++ name ++ "'")
  | .unclassified owner attr =>
      some ("attribute '" ++ owner ++ "." ++ attr ++ "' cannot be classified")

/-- Whether a compilation fails because a name refers to nothing. -/
def isReference : CompileFault → Bool
  | .dangling _ => true
  | .schema (.dangling _) => true
  | .schema (.missingType ..) => true
  | _ => false

end CompileFault

end WireLayout
