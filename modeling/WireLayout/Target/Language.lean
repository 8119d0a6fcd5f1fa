import WireLayout.Schema.Basic
import WireLayout.Kind

/-!
# Target languages

What differs from one target language to the next: the names of integer types
of a width, of blocks of bytes, of collections and of sets of flags, the
runtime names these need, the suffixes of generated classes, and the forms of
imports and fields.

A target type remembers the generated class that it refers to, if any.  A
container refers to the class of its elements and needs what they need.
-/

namespace WireLayout

/-- A type of a target language, with what has to be in scope for it. -/
structure TargetType where
  name : String
  className : Option String := none
  imports : List String := []
  deriving DecidableEq, Repr

namespace TargetType

/-- A type of the language itself. -/
def builtin (name : String) : TargetType :=
  { name := name }

/-- A generated class. -/
def generated (name : String) : TargetType :=
  { name := name, className := some name }

/-- A container named anew around a type. -/
def wrap (type : TargetType) (name : String) : TargetType :=
  { type with name := name }

/-- A type that needs one more import. -/
def needing (type : TargetType) (imported : String) : TargetType :=
  { type with imports := type.imports ++ [imported] }

end TargetType

/-- A target language. -/
inductive Language where
  | java
  | typeScript
  | python
  | cpp
  deriving DecidableEq, Repr

namespace Language

/-- All target languages. -/
def all : List Language :=
  [.java, .typeScript, .python, .cpp]

/-- The name of a language. -/
def name : Language → String
  | .java => "java"
  | .typeScript => "typescript"
  | .python => "python"
  | .cpp => "cpp"

/-- The language of a name, in letters of either case. -/
def ofName (name : String) : Except CompileFault Language :=
  match String.ofList (name.toList.map Char.toLower) with
  | "java" => .ok .java
  | "typescript" => .ok .typeScript
  | "ts" => .ok .typeScript
  | "python" => .ok .python
  | "py" => .ok .python
  | "cpp" => .ok .cpp
  | "c++" => .ok .cpp
  | _ => .error (.unknownLanguage name)

/--
The bits of the narrowest integer type for a number of bytes, as far
as there is one.
-/
def integerBits (width : Nat) : Nat :=
  match width with
  | 1 => 8
  | 2 => 16
  | 3 => 32
  | 4 => 32
  | _ => 64

/-- The integer type for a number of bytes. -/
def builtinType (language : Language) (width : Nat)
    (signedness : Signedness) : TargetType :=
  match language with
  | .java =>
      .builtin (match integerBits width with
        | 8 => "byte"
        | 16 => "short"
        | 32 => "int"
        | _ => "long")
  | .typeScript => .builtin (if 4 < width then "bigint" else "number")
  | .python => .builtin "int"
  | .cpp =>
      let stem := match signedness with
        | .signed => "int"
        | .unsigned => "uint"
      (TargetType.builtin
        (stem ++ toString (integerBits width) ++ "_t")).needing "<cstdint>"

/--
The collection of a type of elements, with a size where its length does
not show by itself.
-/
def listType (language : Language) (element : TargetType)
    (size : Option Size) : TargetType :=
  match language with
  | .java =>
      (element.wrap ("List<" ++ element.name ++ ">")).needing "java.util.List"
  | .typeScript => element.wrap (element.name ++ "[]")
  | .python =>
      (element.wrap ("List[" ++ element.name ++ "]")).needing "typing.List"
  | .cpp =>
      match size with
      | some (.literal count) =>
          (element.wrap
            ("std::array<" ++ element.name ++ ", " ++ toString count ++
              ">")).needing "<array>"
      | _ =>
          (element.wrap ("std::vector<" ++ element.name ++ ">")).needing
            "<vector>"

/-- The type of a block of bytes. -/
def bufferType (language : Language) (size : Size) : TargetType :=
  match language with
  | .java => (TargetType.builtin "ByteBuffer").needing "java.nio.ByteBuffer"
  | .typeScript => .builtin "Uint8Array"
  | .python => .builtin "bytes"
  | .cpp => language.listType (language.builtinType 1 .unsigned) (some size)

/-- The type of a set of flags. -/
def flagsType (language : Language) (element : TargetType) : TargetType :=
  match language with
  | .java =>
      (element.wrap ("EnumSet<" ++ element.name ++ ">")).needing
        "java.util.EnumSet"
  | .typeScript => element.wrap (element.name ++ "[]")
  | .python => language.listType element none
  | .cpp => element

/-- What the classes of composites end with. -/
def compositeSuffix : Language → String
  | .cpp => ""
  | _ => "Builder"

/-- What the classes of other types end with. -/
def valueSuffix : Language → String
  | .cpp => ""
  | _ => "Dto"

/-- The import of a generated class. -/
def classImport (language : Language) (className : String) : String :=
  match language with
  | .typeScript => "./" ++ className
  | .cpp => "\"" ++ className ++ ".h\""
  | _ => className

/-- The name of a field for an attribute. -/
def fieldName (language : Language) (name : String) : String :=
  match language with
  | .python => snakeCase name
  | _ => name

/-- The name of a constant of an enumeration. -/
def constantName (_language : Language) (name : String) : String :=
  constantCase name

/-- The class of a type. -/
def className (language : Language) (schema : Schema)
    (typeName : String) : String :=
  match schema.category? typeName with
  | some .composite => typeName ++ language.compositeSuffix
  | _ => typeName ++ language.valueSuffix

/-- The type of an attribute of a kind and a size. -/
def attributeType (language : Language) (schema : Schema) (settings : Settings)
    (attr : Attribute) (kind : Kind) (size : Size) : TargetType :=
  let element := TargetType.generated (language.className schema attr.typeName)
  match kind with
  | .simple | .sizeField =>
      language.builtinType ((attr.fixedWidth schema).getD 1)
        (attr.resolvedSignedness schema)
  | .buffer => language.bufferType size
  | .array =>
      if settings.isByteType attr.typeName then language.bufferType size
      else language.listType element (some size)
  | .fillArray | .varArray =>
      if settings.isByteType attr.typeName then language.bufferType size
      else language.listType element none
  | .custom => element
  | .flags => language.flagsType element

/--
What a class has to import for a type, which is nothing for the class itself.
-/
def requiredImports (language : Language) (type : TargetType)
    (ownerClass : String) : NameSet :=
  let runtime := NameSet.ofList type.imports
  match type.className with
  | some className =>
      if className == ownerClass then runtime
      else runtime.insert (language.classImport className)
  | none => runtime

end Language

end WireLayout
