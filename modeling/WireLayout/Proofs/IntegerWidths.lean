import WireLayout.Proofs.KindRules
import WireLayout.Proofs.RequiredImports

/-!
# Widths of integers

Two target languages have integer types of a number of bytes, of at most eight.
A field that holds a number gets the narrowest of these that has its width, and
a wider field gets the widest one.

So the value of a field fits its type exactly as long as the field is no wider
than eight bytes.  Raw bytes count as a number only up to the width limit of
the settings, which by default is eight as well.  A field that holds a size
counts as a number whatever its width.
-/

namespace WireLayout

namespace Language

/--
The bytes that an integer type of a name holds, in a language where types
of a width exist.
-/
def integerBytes? : Language → String → Option Nat
  | .java, "byte" => some 1
  | .java, "short" => some 2
  | .java, "int" => some 4
  | .java, "long" => some 8
  | .cpp, "int8_t" => some 1
  | .cpp, "int16_t" => some 2
  | .cpp, "int32_t" => some 4
  | .cpp, "int64_t" => some 8
  | .cpp, "uint8_t" => some 1
  | .cpp, "uint16_t" => some 2
  | .cpp, "uint32_t" => some 4
  | .cpp, "uint64_t" => some 8
  | _, _ => none

/-- A language that has integer types of a width. -/
def HasWidths (language : Language) : Prop :=
  language = .java ∨ language = .cpp

/-! ## Integer types of a width -/

variable {language : Language}

theorem integerBits_mem (width : Nat) :
    integerBits width ∈ [8, 16, 32, 64] := by
  unfold integerBits
  split <;> decide

/-- The integer type for a number of bytes has the bits that it should have. -/
theorem integerBytes?_builtinType
    (hasWidths : language.HasWidths) (width : Nat) (signedness : Signedness) :
    language.integerBytes? (language.builtinType width signedness).name =
      some (integerBits width / 8) := by
  have bits := integerBits_mem width
  simp only [builtinType]
  generalize integerBits width = count at bits
  simp only [List.mem_cons, List.not_mem_nil, or_false] at bits
  rcases hasWidths with rfl | rfl
  · rcases bits with rfl | rfl | rfl | rfl <;> rfl
  · cases signedness <;> rcases bits with rfl | rfl | rfl | rfl <;> rfl

theorem le_integerBits_of_le_eight
    {width : Nat}
    (narrow : width ≤ 8) :
    width ≤ integerBits width / 8 := by
  unfold integerBits
  split <;> omega

theorem integerBits_of_eight_lt
    {width : Nat}
    (wide : 8 < width) :
    integerBits width = 64 := by
  unfold integerBits
  split <;> omega

end Language

/-! ## Widths of fields -/

namespace Attribute

variable {attr : Attribute} {schema : Schema} {settings : Settings}
  {siblings : List Attribute} {owner : String} {count : Nat}

/-- A number has the width of its size, unless it is taken for a single byte. -/
theorem fixedWidth_eq_or_of_resolvedSize_eq_literal
    (sized : attr.resolvedSize schema settings owner = .ok (.literal count)) :
    (attr.fixedWidth schema).getD 1 = count ∨ count = 1 := by
  rw [resolvedSize] at sized
  rw [fixedWidth]
  cases declared : attr.size with
  | some size =>
      rw [declared] at sized
      cases sized
      exact Or.inl rfl
  | none =>
      rw [declared] at sized
      simp only at sized ⊢
      split at sized
      · cases sized
        exact Or.inr rfl
      · cases found : schema.find? attr.typeName with
        | none =>
            rw [found] at sized
            cases sized
        | some descriptor =>
            rw [found] at sized
            cases sized
            exact Or.inl rfl

/--
Only raw bytes up to the width limit count as a number without being asked for.
-/
theorem exists_size_of_kind?_eq_simple
    (classified : attr.kind? settings siblings = some .simple) :
    ∃ count, attr.size = some (.literal count) ∧
      count ≤ settings.builtinWidthLimit := by
  rcases kind?_eq_some_iff.mp classified with ⟨_, rule, isFirst, made⟩
  cases rule with
  | narrow => exact isFirst.1.1
  | measured =>
      rw [Rule.kind] at made
      split at made <;> cases made
  | _ => cases made

end Attribute

namespace Language

variable {language : Language} {schema : Schema} {settings : Settings}
  {attr : Attribute} {kind : Kind} {size : Size} {owner : String} {count : Nat}

/--
The type of a number holds its width if that is at most eight bytes, and
else eight bytes.
-/
theorem exists_integerBytes?_attributeType
    (hasWidths : language.HasWidths)
    (integral : kind = .simple ∨ kind = .sizeField)
    (sized : attr.resolvedSize schema settings owner = .ok (.literal count)) :
    ∃ bytes,
      language.integerBytes?
          (language.attributeType schema settings attr kind size).name =
            some bytes ∧
        (count ≤ 8 → count ≤ bytes) ∧ (8 < count → bytes = 8) := by
  have type : language.attributeType schema settings attr kind size =
      language.builtinType ((attr.fixedWidth schema).getD 1)
        (attr.resolvedSignedness schema) := by
    rcases integral with rfl | rfl <;> rfl
  rw [type, integerBytes?_builtinType hasWidths]
  refine ⟨_, rfl, ?_, ?_⟩
  · intro narrow
    rcases Attribute.fixedWidth_eq_or_of_resolvedSize_eq_literal sized with
      same | rfl
    · rw [same]
      exact le_integerBits_of_le_eight narrow
    · have bits := integerBits_mem ((attr.fixedWidth schema).getD 1)
      simp only [List.mem_cons, List.not_mem_nil, or_false] at bits
      omega
  · intro wide
    rcases Attribute.fixedWidth_eq_or_of_resolvedSize_eq_literal sized with
      same | rfl
    · rw [same, integerBits_of_eight_lt wide]
    · omega

end Language

/-! ## Widths of members -/

section Members

variable {schema : Schema} {settings : Settings} {language : Language}
  {root : String} {composition : Composition} {member : Member}

/--
A member of a composition has the target type of an attribute that appears in
it.
-/
theorem exists_isTypedBy_of_compose_eq_ok
    (composed : compose schema settings language root = .ok composition)
    (among : member ∈ composition.members) :
    ∃ entry : Appearance, entry.IsTypedBy schema settings language member := by
  rcases compose_eq_ok composed with
    ⟨layout, occurrences, last, resolved, found, walk, yielded, links⟩
  rcases exists_left_of_forall₂ (forall₂_yields yielded links) among with
    ⟨occurrence, met, yields⟩
  exact ⟨occurrence.appearance, yields.isTypedBy (walk.layout?_owner found met)⟩

/--
A member that is a number, or holds a size, has an integer type that holds its
width as long as the width is at most eight bytes; a wider one has a type of
eight bytes.  A number that holds no size is no wider than the width limit.
-/
theorem exists_integerBytes?_of_compose_eq_ok
    {count : Nat}
    (composed : compose schema settings language root = .ok composition)
    (among : member ∈ composition.members)
    (hasWidths : language.HasWidths)
    (integral : member.kind = .simple ∨ member.kind = .sizeField)
    (sized : member.size = .literal count) :
    ∃ bytes, language.integerBytes? member.generatedType = some bytes ∧
      (count ≤ 8 → count ≤ bytes) ∧ (8 < count → bytes = 8) ∧
      (member.kind = .simple → count ≤ settings.builtinWidthLimit) := by
  rcases exists_isTypedBy_of_compose_eq_ok composed among with ⟨entry, typed⟩
  have resolved := typed.size
  rw [sized] at resolved
  rcases @Language.exists_integerBytes?_attributeType _ _ _ _ _ member.size _ _
      hasWidths integral resolved with ⟨bytes, held, narrow, wide⟩
  refine ⟨bytes, ?_, narrow, wide, ?_⟩
  · rw [typed.generatedType]
    exact held
  · intro simple
    rcases typed.kind with ⟨layout, _, classified⟩
    rw [simple] at classified
    rcases Attribute.exists_size_of_kind?_eq_simple classified with
      ⟨other, declared, limited⟩
    rw [Attribute.resolvedSize, declared] at resolved
    cases resolved
    exact limited

end Members

/--
A composite with a count of sixteen bytes, the items it counts, and an
amount of three bytes.
-/
def Schema.tallying : Schema where
  entries := [("Batch", .composite { layout := [
    { Attribute.named "count" "byte" with size := some (.literal 16) },
    { Attribute.named "items" "byte" with size := some (.field "count") },
    { Attribute.named "amount" "byte" with size := some (.literal 3) }] })]
  distinct := by decide

theorem exists_compose_tallying :
    ∃ composition, compose .tallying .standard .cpp "Batch" = .ok composition ∧
      ∃ count ∈ composition.members, ∃ amount ∈ composition.members,
        count.kind = .sizeField ∧ count.size = .literal 16 ∧
        count.generatedType = "uint64_t" ∧
        amount.kind = .simple ∧ amount.size = .literal 3 ∧
        amount.generatedType = "uint32_t" := by
  have computed :
      (compose .tallying .standard .cpp "Batch").map (fun composition =>
      composition.members.map fun member =>
        (member.kind, member.size, member.generatedType)) =
      .ok [(.sizeField, .literal 16, "uint64_t"),
        (.buffer, .field "count", "std::vector<uint8_t>"),
        (.simple, .literal 3, "uint32_t")] := by cbv
  rcases Outcome.map_eq_ok_iff.mp computed with ⟨composition, composed, fields⟩
  have located (place : Nat) := congrArg (fun list => list[place]?) fields
  simp only [List.getElem?_map] at located
  rcases Option.map_eq_some_iff.mp (located 0) with
    ⟨count, countLocated, countFields⟩
  rcases Option.map_eq_some_iff.mp (located 2) with
    ⟨amount, amountLocated, amountFields⟩
  simp only [Prod.mk.injEq] at countFields amountFields
  exact ⟨composition, composed, count, List.mem_of_getElem? countLocated,
    amount, List.mem_of_getElem? amountLocated, countFields.1, countFields.2.1,
    countFields.2.2, amountFields⟩

/-- The amount has a type of four bytes, and the count one of eight. -/
theorem exists_integerBytes?_tallying :
    ∃ composition count amount,
      compose .tallying .standard .cpp "Batch" = .ok composition ∧
      count ∈ composition.members ∧ amount ∈ composition.members ∧
      count.size = .literal 16 ∧
      Language.cpp.integerBytes? count.generatedType = some 8 ∧
      amount.size = .literal 3 ∧
      ∃ bytes, Language.cpp.integerBytes? amount.generatedType = some bytes ∧
      3 ≤ bytes := by
  rcases exists_compose_tallying with
    ⟨composition, composed, count, countAmong, amount, amountAmong, asked, wide,
      _, simple, narrow, _⟩
  rcases exists_integerBytes?_of_compose_eq_ok composed countAmong (Or.inr rfl)
      (Or.inr asked) wide with ⟨eight, countBytes, _, widest, _⟩
  rcases exists_integerBytes?_of_compose_eq_ok composed amountAmong (Or.inr rfl)
      (Or.inl simple) narrow with ⟨bytes, amountBytes, holds, _, _⟩
  rw [widest (by decide)] at countBytes
  exact ⟨composition, count, amount, composed, countAmong, amountAmong, wide,
    countBytes, narrow, bytes, amountBytes, holds (by decide)⟩

/-- A count of sixteen bytes does not fit the type that it gets. -/
theorem integerBytes?_tallying_lt :
    ∃ composition count bytes,
      compose .tallying .standard .cpp "Batch" = .ok composition ∧
      count ∈ composition.members ∧ count.kind = .sizeField ∧
      count.size = .literal 16 ∧
      Language.cpp.integerBytes? count.generatedType = some bytes ∧
      bytes < 16 := by
  rcases exists_compose_tallying with
    ⟨composition, composed, count, among, _, _, asked, wide, type, _⟩
  refine ⟨composition, count, 8, composed, among, asked, wide, ?_, by decide⟩
  rw [type]
  rfl

end WireLayout
