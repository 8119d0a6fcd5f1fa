import WireLayout.Schema.Basic

/-!
# Looking up and declaring entries

A schema is seen through two views: the order of its names, and the
descriptor of each name.  The lemmas here say what the operations on schemas
do to either view.  Since names are distinct, finding a descriptor and being
an entry are the same.
-/

namespace WireLayout.Schema

@[ext]
theorem ext {left right : Schema} (equality : left.entries = right.entries) :
    left = right := by
  cases left
  cases right
  cases equality
  rfl

@[simp]
theorem entries_empty : empty.entries = [] := rfl

@[simp]
theorem names_empty : empty.names = [] := rfl

@[simp]
theorem find?_empty (name : String) : empty.find? name = none := rfl

theorem nodup_names (schema : Schema) : schema.names.Nodup :=
  schema.distinct

theorem mem_entries_of_find? {schema : Schema} {name : String}
    {descriptor : Descriptor} (found : schema.find? name = some descriptor) :
    (name, descriptor) ∈ schema.entries := by
  simp only [find?, Option.map_eq_some_iff] at found
  obtain ⟨entry, located, content⟩ := found
  have named := List.find?_some located
  have member := List.mem_of_find?_eq_some located
  simp only [beq_iff_eq] at named
  rw [← named, ← content]
  exact member

/-- Of entries with distinct names each is found under its name. -/
theorem find?_entry_of_mem {entries : List Entry}
    (distinct : (entries.map Prod.fst).Nodup) {entry : Entry}
    (member : entry ∈ entries) :
    entries.find? (fun other => other.1 == entry.1) = some entry := by
  obtain ⟨before, after, rfl⟩ := List.append_of_mem member
  rw [List.map_append, List.nodup_append] at distinct
  have absent : before.find? (fun other => other.1 == entry.1) = none := by
    rw [List.find?_eq_none]
    intro other earlier named
    exact distinct.2.2 other.1 (List.mem_map_of_mem earlier) entry.1 (by simp)
      (by simpa using named)
  rw [List.find?_append, absent]
  simp

/-- A descriptor is found under a name exactly when the two are an entry. -/
theorem find?_eq_some_iff {schema : Schema} {name : String}
    {descriptor : Descriptor} :
    schema.find? name = some descriptor ↔
      (name, descriptor) ∈ schema.entries := by
  constructor
  · exact mem_entries_of_find?
  · intro member
    rw [find?, find?_entry_of_mem schema.distinct member]
    rfl

theorem find?_eq_none_iff {schema : Schema} {name : String} :
    schema.find? name = none ↔ name ∉ schema.names := by
  rw [find?, Option.map_eq_none_iff, List.find?_eq_none, names, List.mem_map]
  constructor
  · rintro absent ⟨entry, member, named⟩
    exact absent entry member (by simpa using named)
  · intro absent entry member named
    exact absent ⟨entry, member, by simpa using named⟩

@[simp]
theorem declares_iff {schema : Schema} {name : String} :
    schema.declares name = true ↔ name ∈ schema.names := by
  rw [declares, Option.isSome_iff_ne_none, ne_eq, find?_eq_none_iff,
    Decidable.not_not]

theorem mem_names_of_find? {schema : Schema} {name : String}
    {descriptor : Descriptor} (found : schema.find? name = some descriptor) :
    name ∈ schema.names :=
  List.mem_map.2 ⟨_, mem_entries_of_find? found, rfl⟩

/-- A layout belongs to a composite of the schema. -/
theorem layout?_eq_some_iff {schema : Schema} {name : String}
    {layout : List Attribute} :
    schema.layout? name = some layout ↔
      ∃ type, schema.find? name = some (.composite type) ∧
        type.layout = layout := by
  unfold layout?
  split <;> simp_all

theorem enumeration?_eq_some_iff {schema : Schema} {name : String}
    {enumeration : Enumeration} :
    schema.enumeration? name = some enumeration ↔
      schema.find? name = some (.enumeration enumeration) := by
  unfold enumeration?
  split <;> simp_all

theorem mem_names_of_layout? {schema : Schema} {name : String}
    {layout : List Attribute} (found : schema.layout? name = some layout) :
    name ∈ schema.names := by
  obtain ⟨type, located, _⟩ := layout?_eq_some_iff.1 found
  exact mem_names_of_find? located

theorem entries_insert_of_not_mem {schema : Schema} {name : String}
    (descriptor : Descriptor) (fresh : name ∉ schema.names) :
    (schema.insert name descriptor).entries =
      schema.entries ++ [(name, descriptor)] := by
  simp [insert, fresh]

theorem entries_insert_of_mem {schema : Schema} {name : String}
    (descriptor : Descriptor) (present : name ∈ schema.names) :
    (schema.insert name descriptor).entries =
      replaceEntries name descriptor schema.entries := by
  simp [insert, present]

/-- A new name comes last, and a known one keeps its place. -/
theorem names_insert (schema : Schema) (name : String)
    (descriptor : Descriptor) :
    (schema.insert name descriptor).names =
      if name ∈ schema.names then schema.names else schema.names ++ [name] := by
  split
  · next present => simp [names, entries_insert_of_mem descriptor present]
  · next fresh => simp [names, entries_insert_of_not_mem descriptor fresh]

/--
Replaced entries have the new descriptor under the name and the
old ones elsewhere.
-/
theorem find?_replaceEntries (name other : String) (descriptor : Descriptor)
    (entries : List Entry) :
    ((replaceEntries name descriptor entries).find? fun entry =>
      entry.1 == other).map Prod.snd =
      if other = name then
        (entries.find? fun entry => entry.1 == other).map fun _ => descriptor
      else (entries.find? fun entry => entry.1 == other).map Prod.snd := by
  induction entries with
  | nil => simp [replaceEntries]
  | cons entry rest ih =>
      rw [replaceEntries] at ih ⊢
      by_cases named : entry.1 = name <;> by_cases wanted : entry.1 = other <;>
        by_cases equality : other = name <;> simp_all

/--
After a declaration its name has the new descriptor, and every other
name what it had.
-/
theorem find?_insert (schema : Schema) (name other : String)
    (descriptor : Descriptor) :
    (schema.insert name descriptor).find? other =
      if other = name then some descriptor else schema.find? other := by
  by_cases present : name ∈ schema.names
  · rw [find?, entries_insert_of_mem descriptor present, find?_replaceEntries]
    split
    · next equality =>
        subst equality
        obtain ⟨entry, member, named⟩ := List.mem_map.1 present
        rw [← named, find?_entry_of_mem schema.distinct member]
        rfl
    · rfl
  · rw [find?, entries_insert_of_not_mem descriptor present, List.find?_append,
      Option.map_or]
    by_cases equality : other = name
    · subst equality
      have missing :
          (schema.entries.find? fun entry => entry.1 == other).map Prod.snd =
            none :=
        find?_eq_none_iff.2 present
      rw [missing]
      simp
    · have different : name ≠ other := Ne.symm equality
      simp [find?, equality, different]

/--
Entries with distinct new names are declared as they are, after
those there are.
-/
theorem entries_foldl_insert {schema : Schema} {entries : List Entry}
    (distinct : ((schema.entries ++ entries).map Prod.fst).Nodup) :
    (entries.foldl (fun schema entry => schema.insert entry.1 entry.2)
      schema).entries =
      schema.entries ++ entries := by
  induction entries generalizing schema with
  | nil => simp
  | cons entry rest ih =>
      have fresh : entry.1 ∉ schema.names := by
        intro present
        rw [List.map_append, List.nodup_append] at distinct
        exact distinct.2.2 _ present _ (by simp) rfl
      have step := entries_insert_of_not_mem entry.2 fresh
      rw [List.foldl_cons, ih, step]
      · simp
      · rw [step]
        simpa using distinct

/-- Entries with distinct names are declared as they are. -/
theorem entries_ofList {entries : List Entry}
    (distinct : (entries.map Prod.fst).Nodup) :
    (ofList entries).entries = entries := by
  rw [ofList, entries_foldl_insert (by simpa using distinct), entries_empty,
    List.nil_append]

end WireLayout.Schema
