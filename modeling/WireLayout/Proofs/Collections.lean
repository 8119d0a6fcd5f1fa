import WireLayout.Proofs.Members

/-!
# Collections whose length only the data tell

A collection that takes up what is left, or that shows its own end, has no
length before the data are there, unless it declares one as a number.  The
target type of such a collection is one without a length of its own: a list or
a vector of its elements, or a block of bytes.

There is one exception.  An attribute without a size resolves to the size of
its type, which for raw bytes is one; and the type of a block of raw bytes is
formed from that size.  So in the language that has arrays of a length, raw
bytes up to the end of the data become an array of one byte.
-/

namespace WireLayout

/--
The collection of a language without a length of its own, over values of
a class or bytes.
-/
def Language.openCollection : Language → Option String → TargetType
  | .java, none => ⟨"ByteBuffer", none, ["java.nio.ByteBuffer"]⟩
  | .java, some className =>
      ⟨"List<" ++ className ++ ">", some className, ["java.util.List"]⟩
  | .typeScript, none => ⟨"Uint8Array", none, []⟩
  | .typeScript, some className => ⟨className ++ "[]", some className, []⟩
  | .python, none => ⟨"bytes", none, []⟩
  | .python, some className =>
      ⟨"List[" ++ className ++ "]", some className, ["typing.List"]⟩
  | .cpp, none => ⟨"std::vector<uint8_t>", none, ["<cstdint>", "<vector>"]⟩
  | .cpp, some className =>
      ⟨"std::vector<" ++ className ++ ">", some className, ["<vector>"]⟩

/--
The array of a number of bytes, in the language that has arrays of a length.
-/
def TargetType.byteArray (count : Nat) : TargetType :=
  ⟨"std::array<uint8_t, " ++ toString count ++ ">", none,
    ["<cstdint>", "<array>"]⟩

/-- The class of the elements of a collection; raw bytes have none. -/
def Attribute.elementClass (attr : Attribute) (schema : Schema)
    (settings : Settings) (language : Language) : Option String :=
  if attr.typeName = settings.byteType then none
  else some (language.className schema attr.typeName)

/-! ## Types of collections -/

namespace Language

variable {language : Language}

theorem listType_none (language : Language) (className : String) :
    language.listType (.generated className) none =
      language.openCollection (some className) := by
  cases language <;> rfl

theorem bufferType_field (language : Language) (reference : String) :
    language.bufferType (.field reference) = language.openCollection none := by
  cases language <;> rfl

theorem bufferType_of_ne_cpp
    {size : Size}
    (other : language ≠ .cpp) :
    language.bufferType size = language.openCollection none := by
  cases language with
  | cpp => exact absurd rfl other
  | _ => rfl

theorem bufferType_cpp_literal (count : Nat) :
    cpp.bufferType (.literal count) = .byteArray count := by
  have opening : "std::array<" ++ (cpp.builtinType 1 .unsigned).name ++ ", " =
      "std::array<uint8_t, " := by decide
  simp only [bufferType, listType, TargetType.wrap, TargetType.needing, opening]
  rfl

/-- An array of a length is no collection without one. -/
theorem byteArray_ne_openCollection (count : Nat) (elements : Option String) :
    TargetType.byteArray count ≠ cpp.openCollection elements := by
  have array : "<array>" ∈ (TargetType.byteArray count).imports :=
    List.mem_cons_of_mem _ List.mem_cons_self
  have noArray : "<array>" ∉ (cpp.openCollection elements).imports := by
    cases elements with
    | none => show "<array>" ∉ ["<cstdint>", "<vector>"]; decide
    | some className => show "<array>" ∉ ["<vector>"]; decide
  intro same
  exact noArray (same ▸ array)

/--
Among blocks of bytes only those of a literal size, in one language, are
of a fixed length.
-/
theorem bufferType_eq_openCollection_iff
    {size : Size} :
    language.bufferType size = language.openCollection none ↔
      ¬ (language = .cpp ∧ ∃ count, size = .literal count) := by
  cases size with
  | field reference => simp [bufferType_field]
  | literal count =>
      by_cases arrays : language = .cpp
      · subst arrays
        rw [bufferType_cpp_literal]
        simp [byteArray_ne_openCollection]
      · simp [bufferType_of_ne_cpp arrays, arrays]

end Language

/-! ## Types of attributes -/

namespace Attribute

variable {attr : Attribute} {schema : Schema} {settings : Settings}
  {language : Language} {kind : Kind} {size : Size} {owner : String}

/--
A size that is not declared as a number is a literal one only if
none is declared.
-/
theorem exists_literal_iff_of_literalSize_eq_none
    (unsized : attr.literalSize = none)
    (sized : attr.resolvedSize schema settings owner = .ok size) :
    (∃ count, size = .literal count) ↔ attr.size = none := by
  rw [literalSize] at unsized
  rw [resolvedSize] at sized
  cases declared : attr.size with
  | some other =>
      rw [declared] at sized unsized
      cases other with
      | literal count => cases unsized
      | field reference =>
          cases sized
          simp
  | none =>
      rw [declared] at sized
      simp only at sized
      split at sized
      · cases sized
        simp
      · split at sized
        · cases sized
          simp
        · cases sized

/-- Raw bytes without a size are taken to be one. -/
theorem resolvedSize_of_bytes
    (bytes : attr.typeName = settings.byteType)
    (undeclared : attr.size = none) :
    attr.resolvedSize schema settings owner = .ok (.literal 1) := by
  rw [resolvedSize, undeclared]
  simp [Settings.isByteType, bytes]

/--
The type of a collection that has no length of its own, unless it is
a block of bytes.
-/
theorem attributeType_of_collects
    (collects : kind = .fillArray ∨ kind = .varArray) :
    language.attributeType schema settings attr kind size =
      if attr.typeName = settings.byteType then language.bufferType size
      else
        language.openCollection
          (some (language.className schema attr.typeName)) := by
  rw [← Language.listType_none]
  rcases collects with rfl | rfl
  · simp only [Language.attributeType, Settings.isByteType, beq_iff_eq]
  · simp only [Language.attributeType, Settings.isByteType, beq_iff_eq]

end Attribute

/--
A collection that takes up what is left or shows its own end, and declares no
literal size, has a target type without a length of its own, except where it is
of raw bytes, no size is declared and the language has arrays of a length: then
it has the type of an array of one byte.
-/
theorem Occurrence.type_eq_openCollection_iff
    {context : WalkContext} {earlier : List String} {occurrence : Occurrence}
    {typed : TypedMember}
    (resolves : occurrence.resolve context earlier = .ok typed)
    (collects : typed.member.kind = .fillArray ∨ typed.member.kind = .varArray)
    (unsized : occurrence.step.attr.literalSize = none) :
    (typed.type =
      context.language.openCollection
        (occurrence.step.attr.elementClass context.schema context.settings
          context.language) ↔
      ¬ (context.language = .cpp ∧
        occurrence.step.attr.typeName = context.settings.byteType ∧
        occurrence.step.attr.size = none)) ∧
      (context.language = .cpp →
        occurrence.step.attr.typeName = context.settings.byteType →
        occurrence.step.attr.size = none → typed.type = .byteArray 1) ∧
      typed.member.generatedType = typed.type.name := by
  rcases Occurrence.resolve_eq_ok_iff.mp resolves with
    ⟨kind, size, _, _, sized, rfl⟩
  have type : occurrence.targetType context kind size = _ :=
    Attribute.attributeType_of_collects collects
  have literal :=
    Attribute.exists_literal_iff_of_literalSize_eq_none unsized sized
  rw [Attribute.elementClass]
  by_cases bytes : occurrence.step.attr.typeName = context.settings.byteType
  · rw [if_pos bytes] at type ⊢
    refine ⟨?_, ?_, rfl⟩
    · simp only [type, Language.bufferType_eq_openCollection_iff, literal,
        bytes, true_and]
    · intro arrays _ undeclared
      rw [Attribute.resolvedSize_of_bytes bytes undeclared] at sized
      cases sized
      simp only [type, arrays, Language.bufferType_cpp_literal]
  · rw [if_neg bytes] at type ⊢
    refine ⟨?_, ?_, rfl⟩
    · simp only [type, bytes, false_and, and_false, not_false_eq_true]
    · intro _ same
      exact absurd same bytes

/-- Raw bytes up to the end of the data. -/
def Attribute.trailing : Attribute :=
  { Attribute.named "message" "byte" with disposition := some .filling }

/-- A composite that ends with raw bytes. -/
def Schema.trailing : Schema where
  entries := [("Letter", .composite { layout := [.trailing] })]
  distinct := by decide

/-- Where the raw bytes are met on the walk of the composite. -/
def Occurrence.trailing : Occurrence :=
  ⟨"Letter", [.trailing], ⟨0, .trailing⟩, 0, []⟩

/-- The walk of the composite for a language. -/
def WalkContext.trailing (language : Language) : WalkContext :=
  .of .trailing .standard language "Letter" [.trailing]

/--
The bytes are a block in one language, and an array of one byte in another.
-/
theorem type_eq_openCollection_iff_trailing :
    (∃ typed, Occurrence.trailing.resolve (.trailing .java) [] = .ok typed ∧
      typed.member.kind = .fillArray ∧
      typed.type = Language.java.openCollection none) ∧
      ∃ typed, Occurrence.trailing.resolve (.trailing .cpp) [] = .ok typed ∧
        typed.member.kind = .fillArray ∧ typed.type = .byteArray 1 := by
  constructor
  · have computed : (Occurrence.trailing.resolve (.trailing .java) []).map
        (fun typed => typed.member.kind) = .ok .fillArray := by cbv
    rcases Outcome.map_eq_ok_iff.mp computed with ⟨typed, resolves, kind⟩
    have open_ :=
      Occurrence.type_eq_openCollection_iff resolves (Or.inl kind) rfl
    exact ⟨typed, resolves, kind, open_.1.mpr fun arrays => by cases arrays.1⟩
  · have computed : (Occurrence.trailing.resolve (.trailing .cpp) []).map
        (fun typed => typed.member.kind) = .ok .fillArray := by cbv
    rcases Outcome.map_eq_ok_iff.mp computed with ⟨typed, resolves, kind⟩
    have fixed :=
      Occurrence.type_eq_openCollection_iff resolves (Or.inl kind) rfl
    exact ⟨typed, resolves, kind, fixed.2.1 rfl rfl rfl⟩

/--
An array of one byte is a fixed length,
which no size of the attribute asks for.
-/
theorem type_trailing_fixed :
    ∃ typed, Occurrence.trailing.step.attr ∈ Occurrence.trailing.layout ∧
      Occurrence.trailing.resolve (.trailing .cpp) [] = .ok typed ∧
      typed.member.kind = .fillArray ∧
      Occurrence.trailing.step.attr.literalSize = none ∧
      typed.type.name = "std::array<uint8_t, 1>" := by
  have computed : (Occurrence.trailing.resolve (.trailing .cpp) []).map
      (fun typed => (typed.member.kind, typed.type.name)) =
      .ok (.fillArray, "std::array<uint8_t, 1>") := by cbv
  rcases Outcome.map_eq_ok_iff.mp computed with ⟨typed, resolves, fields⟩
  rcases Prod.mk.inj fields with ⟨kind, name⟩
  exact ⟨typed, List.mem_cons_self, resolves, kind, rfl, name⟩

end WireLayout
