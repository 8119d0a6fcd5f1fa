import WireLayout.Model.EnumModel
import WireLayout.Proofs.SizeFields

/-!
# Bitmasks

An attribute holds a set of flags if the name of its type ends with the flags
suffix, unless its disposition makes something else of it or a sibling takes
its size from it.  The model of an enumeration is that of a bitmask if its name
ends so, or if it is declared as one.

So a set of flags is always over a bitmask.  The converse fails for an
enumeration that is declared a bitmask under another name: an attribute of its
type holds just one of its values.
-/

namespace WireLayout

/-! ## Sets of flags -/

theorem Settings.isFlagsType_iff
    {settings : Settings} {typeName : String} :
    settings.isFlagsType typeName = true ↔
      settings.flagsSuffix.toList <:+ typeName.toList := by
  rw [isFlagsType]
  exact List.isSuffixOf_iff_suffix

namespace Attribute

variable {attr : Attribute} {settings : Settings} {siblings : List Attribute}

/--
What the type and the size decide is a set of flags exactly under a name
with the suffix.
-/
theorem kindBySize_eq_flags_iff :
    attr.kindBySize settings = .flags ↔
      settings.isFlagsType attr.typeName = true := by
  cases marked : settings.isFlagsType attr.typeName with
  | true => simp [kindBySize, marked]
  | false =>
      apply iff_of_false _ Bool.false_ne_true
      intro same
      have among := kindBySize_mem_of_isFlagsType_eq_false marked
      simp [same] at among

/--
An attribute is a set of flags for its type, unless its disposition or a
sibling decides.
-/
theorem kind?_eq_flags_iff
    (known : attr.disposition ≠ some .unknown) :
    attr.kind? settings siblings = some .flags ↔
      attr.isPredisposed settings = false ∧ attr.isSizeField siblings = false ∧
        settings.isFlagsType attr.typeName = true := by
  cases decided : attr.isPredisposed settings with
  | true =>
      rcases @kind?_of_isPredisposed_eq_true attr settings siblings decided with
        ⟨kind, among, classified⟩
      have other : kind ≠ .flags := by
        rintro rfl
        simp at among
      simp [classified, other]
  | false =>
      rw [kind?_of_isPredisposed_eq_false known decided]
      cases attr.isSizeField siblings with
      | true => simp
      | false => simp [kindBySize_eq_flags_iff]

/--
Without a disposition, a size and a sibling that asks for it, only
the suffix decides.
-/
theorem kind?_of_plain
    (plain : attr.disposition = none)
    (unsized : attr.size = none)
    (unasked :
      ∀ sibling ∈ siblings, sibling.sizeReference ≠ some attr.displayName) :
    attr.kind? settings siblings =
      some (if settings.isFlagsType attr.typeName then .flags
        else .custom) := by
  have known : attr.disposition ≠ some .unknown := by simp [plain]
  have undecided : attr.isPredisposed settings = false := by
    simp [isPredisposed, isVariadic, isFilling, isInlined, plain]
  have noSizeField : attr.isSizeField siblings = false := by
    rw [← Bool.not_eq_true, isSizeField_iff]
    rintro ⟨sibling, among, asks⟩
    exact unasked sibling among asks
  rw [kind?_of_isPredisposed_eq_false known undecided, noSizeField, kindBySize,
    unsized]
  simp

end Attribute

/-! ## Models of bitmasks -/

namespace EnumModel

variable {schema : Schema} {settings : Settings} {language : Language}
  {name : String} {model : EnumModel}

theorem exists_isFlags_eq_of_build_eq_ok
    (built : EnumModel.build schema settings language name = .ok model) :
    ∃ enumeration, schema.enumeration? name = some enumeration ∧
      model.isFlags = (enumeration.isFlags || settings.isFlagsType name) := by
  rw [build] at built
  split at built
  · cases built
  · next enumeration found =>
      rcases Outcome.bind_eq_ok_iff.mp built with ⟨referenced, _, result⟩
      rcases Except.ok.inj result with rfl
      exact ⟨enumeration, found, rfl⟩

/-- A set of flags is over a bitmask, whatever else its attribute declares. -/
theorem isFlags_of_kind?_eq_flags
    {attr : Attribute} {siblings : List Attribute}
    (built : EnumModel.build schema settings language attr.typeName = .ok model)
    (classified : attr.kind? settings siblings = some .flags) :
    model.isFlags = true := by
  have known : attr.disposition ≠ some .unknown := by
    intro unknown
    cases (Attribute.kind?_eq_none_iff.mpr unknown).symm.trans classified
  rcases exists_isFlags_eq_of_build_eq_ok built with ⟨enumeration, _, isFlags⟩
  rcases (Attribute.kind?_eq_flags_iff known).mp classified with ⟨_, _, marked⟩
  rw [isFlags, marked, Bool.or_true]

/--
A member of a flattened composite that is a set of flags has a
bitmask for its type.
-/
theorem isFlags_of_mem_of_kind_eq_flags
    {root : String} {composition : Composition} {member : Member}
    (composed : compose schema settings language root = .ok composition)
    (among : member ∈ composition.members)
    (flags : member.kind = .flags)
    (built :
      EnumModel.build schema settings language member.typeName = .ok model) :
    model.isFlags = true := by
  rcases compose_eq_ok composed with
    ⟨layout, occurrences, last, resolved, found, walk, yielded, links⟩
  have shown := walk.forall₂_isShownBy found (forall₂_yields yielded links)
  rcases exists_left_of_forall₂ shown among with ⟨entry, _, shows⟩
  rcases shows.kind with ⟨siblings, _, _, classified⟩
  rw [flags] at classified
  rw [shows.typeName] at built
  exact isFlags_of_kind?_eq_flags built classified

/--
An attribute without a disposition and a size, which no sibling asks for, is a
set of flags if the name of its type has the flags suffix, and otherwise a
value of its type.  The model of its enumeration is that of a bitmask exactly
if it is a set of flags or the enumeration is declared a bitmask.  Hence the
two agree unless a declared bitmask lacks the suffix.
-/
theorem isFlags_iff_kind?_eq_flags
    {attr : Attribute} {siblings : List Attribute}
    (built : EnumModel.build schema settings language name = .ok model)
    (typed : attr.typeName = name)
    (plain : attr.disposition = none)
    (unsized : attr.size = none)
    (unasked :
      ∀ sibling ∈ siblings, sibling.sizeReference ≠ some attr.displayName) :
    ∃ enumeration, schema.enumeration? name = some enumeration ∧
      (attr.kind? settings siblings = some .flags ↔
        settings.flagsSuffix.toList <:+ name.toList) ∧
      (¬ settings.flagsSuffix.toList <:+ name.toList →
        attr.kind? settings siblings = some .custom) ∧
      (model.isFlags = true ↔
        enumeration.isFlags = true ∨
          attr.kind? settings siblings = some .flags) ∧
      ((attr.kind? settings siblings = some .flags ↔ model.isFlags = true) ↔
        (enumeration.isFlags = true →
          settings.flagsSuffix.toList <:+ name.toList)) := by
  rcases exists_isFlags_eq_of_build_eq_ok built with
    ⟨enumeration, found, isFlags⟩
  have classified : attr.kind? settings siblings = _ :=
    Attribute.kind?_of_plain plain unsized unasked
  rw [typed] at classified
  have marked : attr.kind? settings siblings = some .flags ↔
      settings.isFlagsType name = true := by
    rw [classified]
    cases settings.isFlagsType name <;> simp
  have bitmask : model.isFlags = true ↔
      enumeration.isFlags = true ∨
        attr.kind? settings siblings = some .flags := by
    rw [isFlags, Bool.or_eq_true, marked]
  rw [← Settings.isFlagsType_iff]
  refine ⟨enumeration, found, marked, ?_, bitmask, ?_⟩
  · intro unmarked
    rw [classified, if_neg unmarked]
  · rw [bitmask, marked]
    tauto

end EnumModel

/-- A layout with an attribute of each of two bitmasks. -/
def Schema.grantingLayout : List Attribute :=
  [.named "rights" "Rights", .named "grants" "GrantFlags"]

/--
A composite with this layout: one bitmask is only declared one, the
other only named so.
-/
def Schema.granting : Schema where
  entries := [
    ("Rights", .enumeration {
      size := 1
      values := [{ name := "READ", number := 1 }]
      isFlags := true }),
    ("GrantFlags",
      .enumeration { size := 1, values := [{ name := "ONCE", number := 1 }] }),
    ("Holder", .composite { layout := grantingLayout })]
  distinct := by decide

namespace EnumModel

/-- An attribute of the bitmask that is named so is a set of flags. -/
theorem isFlags_iff_kind?_eq_flags_granting :
    ∃ model, EnumModel.build .granting .standard .java "GrantFlags" =
        .ok model ∧
      (Attribute.named "grants" "GrantFlags").kind? .standard
          Schema.grantingLayout =
        some .flags ∧
      model.isFlags = true := by
  have names :
      (EnumModel.build .granting .standard .java "GrantFlags").map
        EnumModel.name = .ok "GrantFlags" := by cbv
  rcases Outcome.map_eq_ok_iff.mp names with ⟨model, built, _⟩
  have unasked : ∀ sibling ∈ Schema.grantingLayout,
      sibling.sizeReference ≠
        some (Attribute.named "grants" "GrantFlags").displayName := by
    decide
  rcases @isFlags_iff_kind?_eq_flags _ _ _ _ _ (.named "grants" "GrantFlags") _
      built rfl rfl rfl unasked with ⟨enumeration, found, flags, _, bitmask, _⟩
  have classified := flags.mpr (by decide)
  exact ⟨model, built, classified, bitmask.mpr (Or.inr classified)⟩

/--
An attribute of the bitmask that is only declared one is a value of its type.
-/
theorem kind?_ne_flags_granting :
    ∃ model attr,
      EnumModel.build .granting .standard .java "Rights" = .ok model ∧
      attr ∈ Schema.grantingLayout ∧ attr.typeName = "Rights" ∧
      attr.disposition = none ∧
      attr.size = none ∧
      (∀ sibling ∈ Schema.grantingLayout,
        sibling.sizeReference ≠ some attr.displayName) ∧
      model.isFlags = true ∧
      attr.kind? .standard Schema.grantingLayout = some .custom := by
  have flags :
      (EnumModel.build .granting .standard .java "Rights").map
        EnumModel.isFlags =
      .ok true := by cbv
  rcases Outcome.map_eq_ok_iff.mp flags with ⟨model, built, isFlags⟩
  exact ⟨model, .named "rights" "Rights", built, List.mem_cons_self, rfl, rfl,
    rfl, by decide, isFlags, by decide⟩

end EnumModel

end WireLayout
