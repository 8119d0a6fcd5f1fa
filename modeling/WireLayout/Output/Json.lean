/-!
# JSON text

Values with the notation of JSON, and their text over several lines: two
blanks for each level, one item or entry on a line, and empty
collections closed at once.
-/

namespace WireLayout

/-- A value that JSON can write; entries keep their order. -/
inductive Json where
  | null
  | boolean (value : Bool)
  | number (value : Nat)
  | text (value : String)
  | list (items : List Json)
  | object (entries : List (String × Json))
  deriving Repr, Inhabited

namespace Json

/-- The text of a value that may be absent. -/
def optional {α : Type} (encode : α → Json) (value : Option α) : Json :=
  match value with
  | some value => encode value
  | none => .null

/-- Four hexadecimal digits of a number. -/
def fourDigits (number : Nat) : List Char :=
  let digits := Nat.toDigits 16 number
  List.replicate (4 - digits.length) '0' ++ digits

/-- The form of a character inside quotes. -/
def escapedChar (character : Char) : List Char :=
  match character with
  | '"' => ['\\', '"']
  | '\\' => ['\\', '\\']
  | '\x08' => ['\\', 'b']
  | '\x0c' => ['\\', 'f']
  | '\n' => ['\\', 'n']
  | '\r' => ['\\', 'r']
  | '\t' => ['\\', 't']
  | _ =>
      if character.toNat < 32 then ['\\', 'u'] ++ fourDigits character.toNat
      else [character]

/-- A text between quotes. -/
def quote (text : String) : String :=
  String.ofList (['"'] ++ text.toList.flatMap escapedChar ++ ['"'])

/-- The beginning of a line at a level. -/
def lineStart (level : Nat) : String :=
  "\n" ++ String.ofList (List.replicate (2 * level) ' ')

/-- Lines at a level between two brackets, which stand one level further out. -/
def bracketed (opening closing : String) (level : Nat)
    (lines : List String) : String :=
  match lines with
  | [] => opening ++ closing
  | lines =>
      opening ++
        ",".intercalate (lines.map fun line => lineStart (level + 1) ++ line) ++
        lineStart level ++ closing

mutual

/-- The text of a value at a level. -/
def prettyAt (level : Nat) : Json → String
  | .null => "null"
  | .boolean value => if value then "true" else "false"
  | .number value => toString value
  | .text value => quote value
  | .list items => bracketed "[" "]" level (prettyItems (level + 1) items)
  | .object entries =>
      bracketed "\x7b" "\x7d" level (prettyEntries (level + 1) entries)

/-- The texts of items at a level. -/
def prettyItems (level : Nat) : List Json → List String
  | [] => []
  | item :: rest => prettyAt level item :: prettyItems level rest

/-- The texts of entries at a level. -/
def prettyEntries (level : Nat) : List (String × Json) → List String
  | [] => []
  | (name, value) :: rest =>
      (quote name ++ ": " ++ prettyAt level value) :: prettyEntries level rest

end

/-- The text of a value. -/
def pretty (value : Json) : String :=
  prettyAt 0 value

end Json

end WireLayout
