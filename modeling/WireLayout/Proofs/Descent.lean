import WireLayout.Proofs.Obstacles

/-!
# How deep a descent goes

The search for circuits and the walk of a composite both follow inlined
attributes from one composite to the next, whether or not the schema has been
found valid.  Neither of them goes deeper than there are composites: the path
on which it is consists of distinct composites at every moment.

To say so, both are defined a second time, without any reason why they
should end.  They have room for so many composites inside one another, give up
where they would need more, and record every path on which they were.  With
room for the composites of the schema they come to what the search and the walk
come to.

The two agree on circuits.  The walk may be stopped earlier, by something other
than a circuit; but where a circuit stops it, the search reports the same one,
and where the search reports a circuit, the walk does not come to its end.
-/

namespace WireLayout

namespace Schema

/-! ## Paths of distinct composites -/

/--
A path of distinct composites from a root, on which each inlines the next.
-/
structure IsDescent (schema : Schema) (root : String)
    (path : List String) : Prop where
  begins : path.head? = some root
  inlines : path.IsChain schema.Inlines
  distinct : path.Nodup
  composites : ∀ name ∈ path, ∃ layout, schema.layout? name = some layout

/--
A path of distinct composites from a root, the last of which inlines a
type of any sort.
-/
structure LeadsTo (schema : Schema) (root : String) (path : List String)
    (name : String) : Prop where
  begins : (path ++ [name]).head? = some root
  inlines : (path ++ [name]).IsChain schema.Inlines
  distinct : path.Nodup
  composites : ∀ other ∈ path, ∃ layout, schema.layout? other = some layout

variable {schema : Schema} {root name inner : String}
  {path circuit : List String} {layout : List Attribute}

/-- Distinct composites are no more than the schema has. -/
theorem length_le_of_nodup_composites
    (distinct : path.Nodup)
    (composites : ∀ name ∈ path, ∃ layout, schema.layout? name = some layout) :
    path.length ≤ schema.composites.length := by
  have among : path ⊆ schema.composites.map Prod.fst := by
    intro name member
    rcases composites name member with ⟨layout, found⟩
    rcases layout?_eq_some_iff.mp found with ⟨type, located, _⟩
    exact List.mem_map.mpr ⟨(name, type), mem_composites_iff.mpr located, rfl⟩
  simpa using (distinct.subperm among).length_le

theorem IsDescent.length_le
    (descent : schema.IsDescent root path) :
    path.length ≤ schema.composites.length :=
  length_le_of_nodup_composites descent.distinct descent.composites

theorem LeadsTo.length_le
    (leads : schema.LeadsTo root path name) :
    path.length ≤ schema.composites.length :=
  length_le_of_nodup_composites leads.distinct leads.composites

/-- Nothing leads to the root but the empty path. -/
theorem leadsTo_root (schema : Schema) (root : String) :
    schema.LeadsTo root [] root where
  begins := rfl
  inlines := List.isChain_singleton root
  distinct := List.nodup_nil
  composites := by simp

/-- A composite that is new on the path to it makes the path longer. -/
theorem LeadsTo.isDescent
    (leads : schema.LeadsTo root path name)
    (fresh : name ∉ path)
    (found : schema.layout? name = some layout) :
    schema.IsDescent root (path ++ [name]) where
  begins := leads.begins
  inlines := leads.inlines
  distinct :=
    List.Nodup.append leads.distinct (List.nodup_singleton name)
      (by simpa using fresh)
  composites := by
    intro other member
    rcases List.mem_append.mp member with above | last
    · exact leads.composites other above
    · rcases List.mem_singleton.mp last with rfl
      exact ⟨layout, found⟩

/-- From the last composite of a path its inlined attributes lead on. -/
theorem IsDescent.leadsTo
    (descent : schema.IsDescent root (path ++ [name]))
    (inlines : schema.Inlines name inner) :
    schema.LeadsTo root (path ++ [name]) inner where
  begins := by
    rw [List.head?_append, descent.begins]
    rfl
  inlines :=
    descent.inlines.append (List.isChain_singleton inner)
      (by simpa using inlines)
  distinct := descent.distinct
  composites := descent.composites

end Schema

/-! ## The search for circuits with bounded room -/

/-- What something comes to, and the paths on which it was on the way. -/
structure Traced (Result : Type) where
  result : Result
  paths : List (List String)

namespace Schema

/--
Follows a layout, given what its inlined types come to, where there
is room for them.
-/
def followLayoutBy (below : String →
    Option (Traced (Except (List String) Unit))) :
    List Attribute → Option (Traced (Except (List String) Unit))
  | [] => some ⟨.ok (), []⟩
  | attr :: rest =>
      if attr.isInlined then
        match below attr.typeName with
        | none => none
        | some ⟨.error circuit, paths⟩ => some ⟨.error circuit, paths⟩
        | some ⟨.ok (), paths⟩ =>
            (followLayoutBy below rest).map fun later =>
              ⟨later.result, paths ++ later.paths⟩
      else followLayoutBy below rest

/--
Follows what a composite inlines, with room for so many names
inside one another.
-/
def followWithin (schema : Schema) :
    Nat → List String → String → Option (Traced (Except (List String) Unit))
  | 0, _, _ => none
  | room + 1, path, name =>
      if name ∈ path then some ⟨.error (path ++ [name]), []⟩
      else
        match schema.layout? name with
        | none => some ⟨.ok (), []⟩
        | some layout =>
            (followLayoutBy (followWithin schema room (path ++ [name]))
              layout).map fun search =>
              ⟨search.result, (path ++ [name]) :: search.paths⟩

variable {schema : Schema} {root name : String} {path : List String}

theorem followInlined_of_mem
    (repeated : name ∈ path) :
    schema.followInlined path name = .error (path ++ [name]) := by
  rw [followInlined, dif_pos repeated]

theorem followInlined_of_layout?_eq_none
    (fresh : name ∉ path)
    (missing : schema.layout? name = none) :
    schema.followInlined path name = .ok () := by
  rw [followInlined, dif_neg fresh]
  split
  · rfl
  · next found => cases missing.symm.trans found

theorem followInlined_of_layout?_eq_some
    {layout : List Attribute}
    (fresh : name ∉ path)
    (found : schema.layout? name = some layout) :
    schema.followInlined path name =
      schema.followLayout (path ++ [name]) layout := by
  rw [followInlined, dif_neg fresh]
  split
  · next missing => cases missing.symm.trans found
  · next other same =>
      cases found.symm.trans same
      rfl

/--
A layout comes to what it comes to without bounds if each of its
inlined types does.
-/
theorem exists_followLayoutBy_eq_some
    {below : String → Option (Traced (Except (List String) Unit))}
    {onPath : List String → Prop} {layout : List Attribute}
    (inner : ∀ attr ∈ layout, attr.isInlined = true →
      ∃ paths, below attr.typeName =
          some ⟨schema.followInlined path attr.typeName, paths⟩ ∧
        ∀ other ∈ paths, onPath other) :
    ∃ paths, followLayoutBy below layout =
        some ⟨schema.followLayout path layout, paths⟩ ∧
      ∀ other ∈ paths, onPath other := by
  induction layout with
  | nil => exact ⟨[], by rw [followLayoutBy, followLayout], by simp⟩
  | cons attr rest ih =>
      rw [List.forall_mem_cons] at inner
      rcases ih inner.2 with ⟨later, followed, laterOn⟩
      rw [followLayoutBy, followLayout]
      split
      · next inlined =>
          rcases inner.1 inlined with ⟨paths, traced, on⟩
          rw [traced]
          cases schema.followInlined path attr.typeName with
          | error circuit => exact ⟨paths, rfl, on⟩
          | ok value =>
              refine ⟨paths ++ later, ?_, ?_⟩
              · simp only [followed]
                rfl
              · intro other member
                exact (List.mem_append.mp member).elim (on other)
                  (laterOn other)
      · exact ⟨later, followed, laterOn⟩

/--
With more room than there are composites left, the search comes to
what it comes to.
-/
theorem exists_followWithin_eq_some
    {room : Nat}
    (leads : schema.LeadsTo root path name)
    (enough : schema.composites.length < room + path.length) :
    ∃ paths, schema.followWithin room path name =
        some ⟨schema.followInlined path name, paths⟩ ∧
      ∀ other ∈ paths, schema.IsDescent root other := by
  induction room generalizing path name with
  | zero =>
      have bound := leads.length_le
      omega
  | succ room ih =>
      rw [followWithin]
      by_cases repeated : name ∈ path
      · rw [if_pos repeated, followInlined_of_mem repeated]
        exact ⟨[], rfl, by simp⟩
      · rw [if_neg repeated]
        cases found : schema.layout? name with
        | none =>
            rw [followInlined_of_layout?_eq_none repeated found]
            exact ⟨[], rfl, by simp⟩
        | some layout =>
            have descent := leads.isDescent repeated found
            have inner (attr : Attribute) (member : attr ∈ layout)
                (inlined : attr.isInlined = true) :=
              ih (descent.leadsTo ⟨layout, found, attr, member, inlined, rfl⟩)
                (by
                  simp only [List.length_append, List.length_singleton]; omega)
            rcases exists_followLayoutBy_eq_some inner with
              ⟨paths, followed, on⟩
            rw [followInlined_of_layout?_eq_some repeated found]
            refine ⟨(path ++ [name]) :: paths, ?_,
              List.forall_mem_cons.mpr ⟨descent, on⟩⟩
            simp only [followed, Option.map_some]

end Schema

/-! ## The walk of a composite with bounded room -/

/--
Walks the steps of a visit, given what the visits below it come to,
where there is room.
-/
def walkBy (schema : Schema) (settings : Settings) (frame : Frame)
    (below : Frame → Option (Traced Traversal)) :
    Nat → List Step → Option (Traced Traversal)
  | lastVisit, [] => some ⟨⟨[], lastVisit, none⟩, []⟩
  | lastVisit, step :: rest =>
      match step.attr.disposition with
      | some .constant => walkBy schema settings frame below lastVisit rest
      | some .inlined =>
          let typeName := step.attr.typeName
          let slot := frame.slot settings step
          match schema.layout? typeName with
          | none =>
              some
                ⟨.meeting slot
                  (.stopped lastVisit
                    (.dangling ⟨frame.owner, step.attr.displayName, typeName,
                      .type⟩)), []⟩
          | some layout =>
              if typeName ∈ frame.path then
                some ⟨.meeting slot (.stopped lastVisit
                  (.schema (.circular (frame.path ++ [typeName])))), []⟩
              else
                match below (frame.descend step layout (lastVisit + 1)) with
                | none => none
                | some ⟨inner, paths⟩ =>
                    match inner.fault with
                    | some _ => some ⟨.meeting slot inner, paths⟩
                    | none =>
                        (walkBy schema settings frame below inner.lastVisit
                          rest).map fun later =>
                          ⟨.meeting slot
                            (.meeting inner.occurrences later.result),
                            paths ++ later.paths⟩
      | _ =>
          (walkBy schema settings frame below lastVisit rest).map fun later =>
            ⟨.meeting [frame.occurrence step] later.result, later.paths⟩

/-- Makes a visit, with room for so many visits inside one another. -/
def visitWithin (schema : Schema) (settings : Settings) :
    Nat → Frame → Option (Traced Traversal)
  | 0, _ => none
  | room + 1, frame =>
      (walkBy schema settings frame (visitWithin schema settings room)
        frame.visit (stepsOf frame.layout)).map fun walk =>
        ⟨walk.result, frame.path :: walk.paths⟩

/--
Steps come to what they come to without bounds if the visits below
each of them do.
-/
theorem exists_walkBy_eq_some
    {schema : Schema} {settings : Settings} {frame : Frame}
    {below : Frame → Option (Traced Traversal)} {onPath : List String → Prop}
    {lastVisit : Nat} {steps : List Step}
    (inner :
      ∀ step ∈ steps, ∀ layout visit, step.attr.disposition = some .inlined →
        schema.layout? step.attr.typeName = some layout →
        step.attr.typeName ∉ frame.path →
        ∃ paths, below (frame.descend step layout visit) =
          some ⟨traverse schema settings (frame.descend step layout visit) visit
            (stepsOf layout), paths⟩ ∧ ∀ other ∈ paths, onPath other) :
    ∃ paths, walkBy schema settings frame below lastVisit steps =
        some ⟨traverse schema settings frame lastVisit steps, paths⟩ ∧
      ∀ other ∈ paths, onPath other := by
  induction steps generalizing lastVisit with
  | nil => exact ⟨[], by rw [walkBy, traverse_nil], by simp⟩
  | cons step rest ih =>
      rw [List.forall_mem_cons] at inner
      rw [walkBy]
      split
      · next constant =>
          rw [traverse_constant constant]
          exact ih inner.2
      · next inlined =>
          simp only
          split
          · next missing =>
              rw [traverse_missing inlined missing]
              exact ⟨[], rfl, by simp⟩
          · next layout found =>
              split
              · next repeated =>
                  rw [traverse_circular inlined found repeated]
                  exact ⟨[], rfl, by simp⟩
              · next fresh =>
                  rcases inner.1 layout (lastVisit + 1) inlined found fresh with
                    ⟨paths, visited, on⟩
                  rw [visited, traverse_inlined inlined found fresh]
                  simp only
                  cases stopped :
                      (traverse schema settings
                        (frame.descend step layout (lastVisit + 1))
                        (lastVisit + 1) (stepsOf layout)).fault with
                  | some fault => exact ⟨paths, rfl, on⟩
                  | none =>
                      rcases @ih
                          (traverse schema settings
                            (frame.descend step layout (lastVisit + 1))
                            (lastVisit + 1) (stepsOf layout)).lastVisit
                          inner.2 with
                        ⟨later, walked, laterOn⟩
                      simp only [walked, Option.map_some]
                      refine ⟨paths ++ later, rfl, ?_⟩
                      intro other member
                      exact (List.mem_append.mp member).elim (on other)
                        (laterOn other)
      · next notConstant notInlined =>
          rcases @ih lastVisit inner.2 with ⟨paths, walked, on⟩
          rw [traverse_plain notConstant notInlined, walked]
          exact ⟨paths, rfl, on⟩

/--
With more room than there are composites left, a visit comes to
what it comes to.
-/
theorem exists_visitWithin_eq_some
    {schema : Schema} {settings : Settings} {root : String} {room : Nat}
    {frame : Frame} {above : List String}
    (descent : schema.IsDescent root frame.path)
    (ends : frame.path = above ++ [frame.owner])
    (found : schema.layout? frame.owner = some frame.layout)
    (enough : schema.composites.length < room + frame.path.length) :
    ∃ paths, visitWithin schema settings room frame =
        some ⟨traverse schema settings frame frame.visit (stepsOf frame.layout),
          paths⟩ ∧
      ∀ other ∈ paths, schema.IsDescent root other := by
  induction room generalizing frame above with
  | zero =>
      have bound := descent.length_le
      omega
  | succ room ih =>
      have inner (step : Step) (declared : step ∈ stepsOf frame.layout)
          (layout : List Attribute) (visit : Nat)
          (inlined : step.attr.disposition = some .inlined)
          (located : schema.layout? step.attr.typeName = some layout)
          (fresh : step.attr.typeName ∉ frame.path) :=
        have inlines := inlines_of_mem_stepsOf found declared inlined
        have longer :
            schema.IsDescent root (frame.path ++ [step.attr.typeName]) := by
          rw [ends] at descent fresh ⊢
          exact (descent.leadsTo inlines).isDescent fresh located
        @ih (frame.descend step layout visit) frame.path longer rfl located
          (by
            simp only [Frame.descend, List.length_append,
              List.length_singleton]; omega)
      rcases exists_walkBy_eq_some inner with ⟨paths, walked, on⟩
      rw [visitWithin, walked]
      exact ⟨frame.path :: paths, rfl, List.forall_mem_cons.mpr ⟨descent, on⟩⟩

/-! ## Circuits that stop a walk -/

theorem map_attr_stepsOf (layout : List Attribute) :
    (stepsOf layout).map Step.attr = layout := by
  rw [stepsOf, List.map_map]
  exact List.zipIdx_map_fst 0 layout

namespace Schema

variable {schema : Schema} {path : List String} {attr : Attribute}
  {rest : List Attribute}

theorem followLayout_plain
    (plain : attr.disposition ≠ some .inlined) :
    schema.followLayout path (attr :: rest) =
      schema.followLayout path rest := by
  rw [followLayout, if_neg (mt Attribute.isInlined_iff.mp plain)]

theorem followLayout_inlined
    (inlined : attr.disposition = some .inlined) :
    schema.followLayout path (attr :: rest) =
      schema.followInlined path attr.typeName >>= fun _ =>
        schema.followLayout path rest := by
  rw [followLayout, if_pos (Attribute.isInlined_iff.mpr inlined)]

end Schema

/--
What the search for circuits comes to where a walk is stopped by a
fault, or by none.
-/
inductive SearchesAlike : Option CompileFault → Except (List String) Unit →
    Prop where
  | free : SearchesAlike none (.ok ())
  | circular {circuit} :
      SearchesAlike (some (.schema (.circular circuit))) (.error circuit)
  | dangling {reference outcome} :
      SearchesAlike (some (.dangling reference)) outcome

/--
Where a visit is stopped, so are the search and all that surrounds the visit.
-/
theorem SearchesAlike.bind
    {inner later : Traversal} {slot : List Occurrence}
    {outcome next : Except (List String) Unit}
    (first : SearchesAlike inner.fault outcome)
    (second : SearchesAlike later.fault next) :
    SearchesAlike
      (Traversal.meeting slot
        (match inner.fault with
        | some _ => inner
        | none => .meeting inner.occurrences later)).fault
      (outcome >>= fun _ => next) := by
  rcases inner with ⟨occurrences, lastVisit, fault⟩
  cases first with
  | free => exact second
  | circular => exact .circular
  | dangling => exact .dangling

/-- A walk goes the way of the search, up to where it is stopped. -/
theorem searchesAlike_traverse
    {schema : Schema} {settings : Settings} {frame : Frame} {lastVisit : Nat}
    {steps : List Step} :
    SearchesAlike (traverse schema settings frame lastVisit steps).fault
      (schema.followLayout frame.path (steps.map Step.attr)) := by
  induction frame, lastVisit, steps using traverse.induct schema settings with
  | case1 frame lastVisit =>
      rw [traverse_nil, List.map_nil, Schema.followLayout]
      exact .free
  | case2 frame lastVisit step steps constant ih =>
      rw [traverse_constant constant, List.map_cons,
        Schema.followLayout_plain (by simp [constant])]
      exact ih
  | case3 frame lastVisit step steps inlined typeName missing =>
      rw [traverse_missing inlined missing]
      exact .dangling
  | case4 frame lastVisit step steps inlined typeName layout found repeated =>
      rw [traverse_circular inlined found repeated, List.map_cons,
        Schema.followLayout_inlined inlined,
        Schema.followInlined_of_mem repeated]
      exact .circular
  | case5 frame lastVisit step steps inlined typeName layout found fresh inner
      innerIH laterIH =>
      rw [map_attr_stepsOf] at innerIH
      rw [traverse_inlined inlined found fresh, List.map_cons,
        Schema.followLayout_inlined inlined,
        Schema.followInlined_of_layout?_eq_some fresh found]
      exact innerIH.bind laterIH
  | case6 frame lastVisit step steps notConstant notInlined ih =>
      rw [traverse_plain notConstant notInlined, List.map_cons,
        Schema.followLayout_plain notInlined]
      exact ih

/-- What is wrong with the schema is no fault of a single attribute. -/
theorem Occurrence.resolve_ne_error_schema
    {context : WalkContext} {earlier : List String} {occurrence : Occurrence}
    {fault : SchemaFault} :
    occurrence.resolve context earlier ≠ .error (.schema fault) := by
  intro failed
  rcases Occurrence.resolve_eq_error failed with ⟨_, same⟩ | unchecked | unsized
  · cases same
  · rw [Attribute.checkSizeReference] at unchecked
    split at unchecked
    · cases unchecked
    · split at unchecked <;> cases unchecked
  · rw [Attribute.resolvedSize] at unsized
    split at unsized
    · cases unsized
    · split at unsized
      · cases unsized
      · split at unsized <;> cases unsized

/-- A composition fails over the schema only where the walk is stopped. -/
theorem fault_traverse_of_compose_eq_error
    {schema : Schema} {settings : Settings} {language : Language}
    {root : String} {fault : SchemaFault}
    (failed : compose schema settings language root = .error (.schema fault)) :
    ∃ layout, schema.layout? root = some layout ∧
      (traverse schema settings (.root root layout) 0 (stepsOf layout)).fault =
        some (.schema fault) := by
  rw [compose] at failed
  split at failed
  · cases failed
  · next layout found =>
      refine ⟨layout, found, ?_⟩
      rcases Outcome.bind_eq_error_iff.mp failed with
        unresolved | ⟨resolved, _, failed⟩
      · rcases exists_of_resolveOccurrences_eq_error unresolved with
          ⟨_, _, _, unresolved⟩
        exact absurd unresolved Occurrence.resolve_ne_error_schema
      · cases outcome :
            (traverse schema settings (.root root layout) 0
              (stepsOf layout)).fault with
        | some other =>
            simp only [outcome] at failed
            cases failed
            rfl
        | none =>
            simp only [outcome] at failed
            rcases Outcome.bind_eq_error_iff.mp failed with
              unlinked | ⟨_, _, impossible⟩
            · rcases exists_of_linkSizes_eq_error unlinked with
                ⟨_, _, _, _, _, same⟩
              cases same
            · cases impossible

/-- A search that fails does so on the layout of its root. -/
theorem exists_followLayout_of_checkAcyclic_eq_error
    {schema : Schema} {root : String} {fault : SchemaFault}
    (failed : schema.checkAcyclic root = .error fault) :
    ∃ layout circuit,
      schema.layout? root = some layout ∧ fault = .circular circuit ∧
      schema.followInlined [] root = .error circuit ∧
      schema.followLayout [root] layout = .error circuit := by
  rcases Outcome.mapError_eq_error_iff.mp failed with ⟨circuit, followed, rfl⟩
  have fresh : root ∉ ([] : List String) := List.not_mem_nil
  cases found : schema.layout? root with
  | none =>
      cases (Schema.followInlined_of_layout?_eq_none fresh found).symm.trans
        followed
  | some layout =>
      exact ⟨layout, circuit, rfl, rfl, followed,
        (Schema.followInlined_of_layout?_eq_some fresh found).symm.trans
          followed⟩

/-- A walk of a composite goes the way of the search of its layout. -/
theorem searchesAlike_root
    {schema : Schema} {settings : Settings} {root : String}
    {layout : List Attribute} :
    SearchesAlike
      (traverse schema settings (.root root layout) 0 (stepsOf layout)).fault
      (schema.followLayout [root] layout) := by
  have alike :=
    @searchesAlike_traverse schema settings (.root root layout) 0
      (stepsOf layout)
  rwa [map_attr_stepsOf] at alike

/-- A circuit that a composition reports is the one that the search reports. -/
theorem checkAcyclic_eq_error_of_compose_eq_error
    {schema : Schema} {settings : Settings} {language : Language}
    {root : String} {circuit : List String}
    (failed :
      compose schema settings language root =
        .error (.schema (.circular circuit))) :
    schema.checkAcyclic root = .error (.circular circuit) := by
  rcases fault_traverse_of_compose_eq_error failed with ⟨layout, found, stopped⟩
  have alike := @searchesAlike_root schema settings root layout
  rw [stopped] at alike
  rw [Schema.checkAcyclic,
    Schema.followInlined_of_layout?_eq_some List.not_mem_nil found,
    List.nil_append]
  generalize schema.followLayout [root] layout = outcome at alike
  cases alike
  rfl

/-- Where the search reports a circuit, no composition succeeds. -/
theorem exists_compose_eq_error_of_checkAcyclic_eq_error
    {schema : Schema} {settings : Settings} {language : Language}
    {root : String} {fault : SchemaFault}
    (failed : schema.checkAcyclic root = .error fault) :
    ∃ other, compose schema settings language root = .error other := by
  cases composed : compose schema settings language root with
  | error other => exact ⟨other, rfl⟩
  | ok composition =>
      rcases compose_eq_ok composed with ⟨layout, _, _, _, found, walk, _, _⟩
      rcases exists_followLayout_of_checkAcyclic_eq_error failed with
        ⟨other, circuit, same, _, _, followed⟩
      rcases Option.some.inj (found.symm.trans same) with rfl
      have alike := @searchesAlike_root schema settings root layout
      rw [walk.traverse_eq, followed] at alike
      cases alike

/-- What the search reports is a circuit that begins at its root. -/
theorem exists_isCircuit_of_checkAcyclic_eq_error
    {schema : Schema} {root : String} {fault : SchemaFault}
    (failed : schema.checkAcyclic root = .error fault) :
    ∃ circuit, fault = .circular circuit ∧ schema.IsCircuit circuit ∧
      circuit.head? = some root := by
  rcases exists_followLayout_of_checkAcyclic_eq_error failed with
    ⟨_, circuit, _, same, followed, _⟩
  have found := Schema.isCircuit_of_followInlined_eq_error
    (List.isChain_singleton root) List.nodup_nil followed
  rcases found.2 with ⟨rest, rfl⟩
  exact ⟨_, same, found.1, rfl⟩

/--
In any schema, following inlined attributes from a root comes to an end, and on
the way to it every path is a descent through distinct composites, of which
there are no more than the schema has.  This holds of the search for circuits
and of the walk, which therefore need room for no more.  What the search
reports is a circuit that begins at the root.  A circuit that a composition
reports is the same one, and where the search fails, so does the composition.
-/
theorem descents_are_bounded
    (schema : Schema) (settings : Settings) (language : Language)
    (root : String) :
    (∃ paths, schema.followWithin (schema.composites.length + 1) [] root =
          some ⟨schema.followInlined [] root, paths⟩ ∧
        ∀ path ∈ paths,
          schema.IsDescent root path ∧ path.length ≤ schema.composites.length) ∧
      (∀ layout, schema.layout? root = some layout →
        ∃ paths, visitWithin schema settings schema.composites.length
          (.root root layout) =
            some
              ⟨traverse schema settings (.root root layout) 0 (stepsOf layout),
                paths⟩ ∧
          ∀ path ∈ paths, schema.IsDescent root path ∧
          path.length ≤ schema.composites.length) ∧
      (∀ fault, schema.checkAcyclic root = .error fault →
        ∃ circuit, fault = .circular circuit ∧ schema.IsCircuit circuit ∧
          circuit.head? = some root) ∧
      (∀ circuit, compose schema settings language root =
        .error (.schema (.circular circuit)) →
        schema.checkAcyclic root = .error (.circular circuit)) ∧
      ∀ fault, schema.checkAcyclic root = .error fault →
        ∃ other, compose schema settings language root = .error other := by
  have short {paths : List (List String)}
      (descents : ∀ path ∈ paths, schema.IsDescent root path)
      (path : List String)
      (member : path ∈ paths) :
      schema.IsDescent root path ∧ path.length ≤ schema.composites.length :=
    ⟨descents path member, (descents path member).length_le⟩
  refine ⟨?_, ?_, ?_, ?_, ?_⟩
  · rcases Schema.exists_followWithin_eq_some (schema.leadsTo_root root)
      (Nat.lt_succ_self _) with ⟨paths, followed, descents⟩
    exact ⟨paths, followed, short descents⟩
  · intro layout found
    have start := (schema.leadsTo_root root).isDescent List.not_mem_nil found
    rcases @exists_visitWithin_eq_some schema settings root _
        (.root root layout) [] start rfl found (Nat.lt_succ_self _) with
      ⟨paths, visited, descents⟩
    exact ⟨paths, visited, short descents⟩
  · exact fun _ failed => exists_isCircuit_of_checkAcyclic_eq_error failed
  · exact fun _ failed => checkAcyclic_eq_error_of_compose_eq_error failed
  · exact fun _ failed =>
      exists_compose_eq_error_of_checkAcyclic_eq_error failed

/--
Two composites that inline each other are two deep, and both report the
circuit of them.
-/
theorem descents_are_bounded_entangled :
    compose .entangled .standard .java "Outer" =
        .error (.schema (.circular ["Outer", "Inner", "Outer"])) ∧
      Schema.entangled.checkAcyclic "Outer" =
        .error (.circular ["Outer", "Inner", "Outer"]) ∧
      Schema.entangled.IsCircuit ["Outer", "Inner", "Outer"] ∧
      (Schema.entangled.followWithin 3 [] "Outer").map Traced.paths =
        some [["Outer"], ["Outer", "Inner"]] := by
  have composed : compose .entangled .standard .java "Outer" =
      .error (.schema (.circular ["Outer", "Inner", "Outer"])) := by cbv
  rcases descents_are_bounded .entangled .standard .java "Outer" with
    ⟨_, _, reported, same, _⟩
  have failed := same _ composed
  rcases reported _ failed with ⟨circuit, equality, closed, _⟩
  cases equality
  exact ⟨composed, failed, closed, by decide⟩

end WireLayout
