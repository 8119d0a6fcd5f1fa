import WireLayout.Proofs.Descent
import WireLayout.Proofs.VisitNumbers

/-!
# The walk in place

The walk of a composite hands the path to a visit and the number of the last
visit from one step to the next.  Here it is done in place: all visits share
one state, with a stack of the composites that are being visited, a counter of
visits, and the members so far.  A visit pushes its composite and pops it at
the end, and each inlined attribute increments the counter.

A visit that comes to its end leaves the stack as it found it, whatever that
was.  Therefore the walk in place comes to what the walk comes to: the stack is
the path to the visit, and what the counter shows after a successful walk is
the number of the visit that began last.
-/

namespace WireLayout

/-- What all visits of a walk in place share. -/
structure WalkState where
  stack : List String
  lastVisit : Nat
  typed : List TypedMember

/--
What ends a walk in place early: a fault, or that there is no room
for so many visits.
-/
inductive Halt where
  | fault (fault : CompileFault)
  | noRoom

namespace WalkState

/-- Before the first visit. -/
def start : WalkState := ⟨[], 0, []⟩

/-- With a composite on the stack. -/
def push (state : WalkState) (name : String) : WalkState :=
  { state with stack := state.stack ++ [name] }

/-- Without the composite on top of the stack. -/
def pop (state : WalkState) : WalkState :=
  { state with stack := state.stack.dropLast }

/-- With the number of another visit. -/
def count (state : WalkState) : WalkState :=
  { state with lastVisit := state.lastVisit + 1 }

/-- The names of the members so far. -/
def names (state : WalkState) : List String :=
  state.typed.map fun entry => entry.member.name

/-- Adds the member of an occurrence. -/
def emit (context : WalkContext) (occurrence : Occurrence) (state : WalkState) :
    Except Halt WalkState :=
  ((occurrence.resolve context state.names).mapError .fault).map fun typed =>
    { state with typed := state.typed ++ [typed] }

/--
Adds the member of an inlined attribute, where its composite is generated.
-/
def emitSlot (context : WalkContext) (frame : Frame) (step : Step)
    (state : WalkState) : Except Halt WalkState :=
  if context.settings.generates step.attr.typeName then
    state.emit context (frame.occurrence step)
  else .ok state

end WalkState

/--
Walks the remaining steps of a visit in place, given how a visit
below it is made.
-/
def visitSteps (context : WalkContext) (frame : Frame)
    (below : Frame → WalkState → Except Halt WalkState) :
    List Step → WalkState → Except Halt WalkState
  | [], state => .ok state
  | step :: rest, state =>
      match step.attr.disposition with
      | some .constant => visitSteps context frame below rest state
      | some .inlined => do
          let state ← state.emitSlot context frame step
          match context.schema.layout? step.attr.typeName with
          | none =>
              .error
                (.fault
                  (.dangling ⟨frame.owner, step.attr.displayName,
                    step.attr.typeName, .type⟩))
          | some layout =>
              let state ← below
                (frame.descend step layout state.count.lastVisit) state.count
              visitSteps context frame below rest state
      | _ => do
          let state ← state.emit context (frame.occurrence step)
          visitSteps context frame below rest state

/-- Makes a visit in place, with room for so many visits inside one another. -/
def visitInPlace (context : WalkContext) :
    Nat → Frame → WalkState → Except Halt WalkState
  | 0, _, _ => .error .noRoom
  | room + 1, frame, state =>
      if frame.owner ∈ state.stack then
        .error (.fault (.schema (.circular (state.stack ++ [frame.owner]))))
      else do
        let state ← visitSteps context frame (visitInPlace context room)
          (stepsOf frame.layout) (state.push frame.owner)
        return state.pop

/-! ## The stack -/

section Stack

variable {context : WalkContext} {frame : Frame} {state later : WalkState}

/-- Adding a member changes neither the stack nor the counter. -/
theorem WalkState.emit_eq_ok
    {occurrence : Occurrence}
    (emitted : state.emit context occurrence = .ok later) :
    later.stack = state.stack ∧ later.lastVisit = state.lastVisit := by
  rcases Outcome.map_eq_ok_iff.mp emitted with ⟨typed, _, rfl⟩
  exact ⟨rfl, rfl⟩

theorem WalkState.emitSlot_eq_ok
    {step : Step}
    (emitted : state.emitSlot context frame step = .ok later) :
    later.stack = state.stack ∧ later.lastVisit = state.lastVisit := by
  rw [emitSlot] at emitted
  split at emitted
  · exact emit_eq_ok emitted
  · rcases Except.ok.inj emitted with rfl
    exact ⟨rfl, rfl⟩

/-- Steps leave the stack as they found it if the visits below them do. -/
theorem visitSteps_stack
    {below : Frame → WalkState → Except Halt WalkState} {steps : List Step}
    (inner : ∀ frame state later, below frame state = .ok later →
      later.stack = state.stack)
    (visited : visitSteps context frame below steps state = .ok later) :
    later.stack = state.stack := by
  induction steps generalizing state with
  | nil =>
      rcases Except.ok.inj visited with rfl
      rfl
  | cons step rest ih =>
      rw [visitSteps] at visited
      split at visited
      · exact ih visited
      · rcases Outcome.bind_eq_ok_iff.mp visited with
          ⟨slotted, emitted, visited⟩
        split at visited
        · cases visited
        · next layout found =>
            rcases Outcome.bind_eq_ok_iff.mp visited with
              ⟨returned, entered, visited⟩
            calc
              later.stack = returned.stack := ih visited
              _ = slotted.count.stack := inner _ _ _ entered
              _ = state.stack := (WalkState.emitSlot_eq_ok emitted).1
      · rcases Outcome.bind_eq_ok_iff.mp visited with ⟨met, emitted, visited⟩
        rw [ih visited]
        exact (WalkState.emit_eq_ok emitted).1

/-- A visit that comes to its end leaves the stack as it found it. -/
theorem visitInPlace_stack
    {room : Nat}
    (visited : visitInPlace context room frame state = .ok later) :
    later.stack = state.stack := by
  induction room generalizing frame state later with
  | zero => cases visited
  | succ room ih =>
      rw [visitInPlace] at visited
      split at visited
      · cases visited
      · rcases Outcome.bind_eq_ok_iff.mp visited with ⟨walked, steps, result⟩
        rcases Except.ok.inj result with rfl
        have pushed : walked.stack = state.stack ++ [frame.owner] :=
          visitSteps_stack (fun _ _ _ => ih) steps
        rw [WalkState.pop, pushed, List.dropLast_concat]

end Stack

/-! ## Traversals in place -/

namespace Traversal

/--
What a traversal makes of a state: the members of what it met, and its
fault if it has one.
-/
def applyTo (context : WalkContext) (traversal : Traversal)
    (state : WalkState) : Except Halt WalkState := do
  let typed ←
    (resolveOccurrences context state.names traversal.occurrences).mapError
      .fault
  match traversal.fault with
  | some fault => .error (.fault fault)
  | none => .ok ⟨state.stack, traversal.lastVisit, state.typed ++ typed⟩

variable {context : WalkContext} {traversal later : Traversal}
  {state : WalkState}

theorem applyTo_eq_ok
    {reached : WalkState}
    (applied : traversal.applyTo context state = .ok reached) :
    reached.stack = state.stack ∧ reached.lastVisit = traversal.lastVisit := by
  rcases Outcome.bind_eq_ok_iff.mp applied with ⟨typed, _, result⟩
  split at result
  · cases result
  · rcases Except.ok.inj result with rfl
    exact ⟨rfl, rfl⟩

/-- A traversal that meets nothing and is not stopped only sets the counter. -/
theorem applyTo_nil (lastVisit : Nat) :
    applyTo context ⟨[], lastVisit, none⟩ state =
      .ok { state with lastVisit := lastVisit } := by
  simp [applyTo, resolveOccurrences, Except.mapError, bind, Except.bind]

/--
Before the first visit, a traversal adds the members of what it met, if
nothing stops it.
-/
theorem applyTo_start_eq_ok_iff
    {reached : WalkState} :
    traversal.applyTo context .start = .ok reached ↔
      traversal.fault = none ∧ ∃ typed,
        resolveOccurrences context [] traversal.occurrences = .ok typed ∧
          reached = ⟨[], traversal.lastVisit, typed⟩ := by
  rcases traversal with ⟨occurrences, lastVisit, fault⟩
  simp only [applyTo, Outcome.bind_eq_ok_iff, Outcome.mapError_eq_ok_iff]
  cases fault with
  | some fault => simp
  | none => simp [WalkState.start, WalkState.names, eq_comm]

/--
The members of a traversal do not depend on how many visits there were before.
-/
theorem applyTo_count :
    traversal.applyTo context state.count = traversal.applyTo context state :=
      rfl

/-- A traversal that meets an occurrence adds its member before all others. -/
theorem applyTo_meeting_singleton (occurrence : Occurrence) :
    (meeting [occurrence] later).applyTo context state =
      state.emit context occurrence >>= fun met =>
        later.applyTo context met := by
  cases resolved : occurrence.resolve context state.names with
  | error fault =>
      simp [applyTo, meeting, resolveOccurrences, WalkState.emit, resolved,
        Except.mapError, Except.map, bind, Except.bind]
  | ok typed =>
      rcases Occurrence.resolve_eq_ok_iff.mp resolved with
        ⟨kind, size, _, _, _, same⟩
      have names : state.names ++ [occurrence.step.attr.displayName] =
          WalkState.names { state with typed := state.typed ++ [typed] } := by
        rw [WalkState.names, WalkState.names, List.map_append, same]
        rfl
      simp only [applyTo, meeting, List.singleton_append, resolveOccurrences,
        WalkState.emit, resolved, names, Except.mapError, Except.map, bind,
        Except.bind]
      cases resolveOccurrences context
        (WalkState.names { state with typed := state.typed ++ [typed] })
        later.occurrences with
      | error fault => rfl
      | ok others => simp [pure, Except.pure]

theorem applyTo_meeting_slot (frame : Frame) (step : Step) :
    (meeting (frame.slot context.settings step) later).applyTo context state =
      state.emitSlot context frame step >>= fun met =>
        later.applyTo context met := by
  rw [Frame.slot, WalkState.emitSlot]
  split
  · exact applyTo_meeting_singleton _
  · rfl

/-- What a traversal meets before another one is applied first. -/
theorem applyTo_meeting (occurrences : List Occurrence) (lastVisit : Nat) :
    (meeting occurrences later).applyTo context state =
      applyTo context ⟨occurrences, lastVisit, none⟩ state >>= fun met =>
        later.applyTo context met := by
  induction occurrences generalizing state with
  | nil =>
      rw [applyTo_nil]
      rfl
  | cons occurrence rest ih =>
      calc
        (meeting (occurrence :: rest) later).applyTo context state =
            state.emit context occurrence >>= fun met =>
              (meeting rest later).applyTo context met :=
          @applyTo_meeting_singleton context (meeting rest later) state
            occurrence
        _ = state.emit context occurrence >>= fun met =>
              applyTo context ⟨rest, lastVisit, none⟩ met >>= fun met =>
                later.applyTo context met :=
          Outcome.bind_congr fun met _ => ih
        _ = (state.emit context occurrence >>= fun met =>
              applyTo context ⟨rest, lastVisit, none⟩ met) >>= fun met =>
                later.applyTo context met := (bind_assoc _ _ _).symm
        _ = applyTo context ⟨occurrence :: rest, lastVisit, none⟩ state >>=
          fun met =>
              later.applyTo context met := by
          rw [← applyTo_meeting_singleton]
          rfl

/-- What surrounds a visit is applied after it, unless the visit is stopped. -/
theorem applyTo_bind (inner : Traversal) :
    applyTo context
        (match inner.fault with
        | some _ => inner
        | none => meeting inner.occurrences later) state =
      inner.applyTo context state >>= fun met => later.applyTo context met := by
  rcases inner with ⟨occurrences, lastVisit, fault⟩
  cases fault with
  | none => exact applyTo_meeting occurrences lastVisit
  | some fault =>
      simp only [applyTo]
      cases (resolveOccurrences context state.names occurrences).mapError
          Halt.fault with
      | error halt => rfl
      | ok typed => rfl

/--
A traversal makes the same of a state with a composite on the stack, but
for that composite.
-/
theorem map_pop_applyTo_push (name : String) :
    (traversal.applyTo context (state.push name)).map WalkState.pop =
      traversal.applyTo context state := by
  rw [applyTo, applyTo, Outcome.map_bind]
  apply Outcome.bind_congr
  intro typed _
  split
  · rfl
  · simp [WalkState.push, WalkState.pop, Except.map]

/--
An inlined attribute is met, its visit is made, and then the later
attributes are walked.
-/
theorem applyTo_traverse_inlined
    {frame : Frame} {step : Step} {steps : List Step} {layout : List Attribute}
    {lastVisit : Nat}
    (inlined : step.attr.disposition = some .inlined)
    (found : context.schema.layout? step.attr.typeName = some layout)
    (fresh : step.attr.typeName ∉ frame.path) :
    (traverse context.schema context.settings frame lastVisit
      (step :: steps)).applyTo context state =
      state.emitSlot context frame step >>= fun slotted =>
        (traverse context.schema context.settings
          (frame.descend step layout (lastVisit + 1)) (lastVisit + 1)
          (stepsOf layout)).applyTo context slotted.count >>= fun returned =>
          (traverse context.schema context.settings frame returned.lastVisit
            steps).applyTo context
            returned := by
  rw [traverse_inlined inlined found fresh]
  simp only
  rw [applyTo_meeting_slot]
  apply Outcome.bind_congr
  intro slotted _
  apply (applyTo_bind _).trans
  rw [applyTo_count]
  apply Outcome.bind_congr
  intro returned entered
  rw [(applyTo_eq_ok entered).2]

end Traversal

/--
What a visit is to make of a state: it is refused where its composite
is on the stack.
-/
def Frame.applyTo (context : WalkContext) (frame : Frame) (state : WalkState) :
    Except Halt WalkState :=
  if frame.owner ∈ state.stack then
    .error (.fault (.schema (.circular (state.stack ++ [frame.owner]))))
  else
    (traverse context.schema context.settings frame frame.visit
      (stepsOf frame.layout)).applyTo context state

section Visit

variable {context : WalkContext} {frame : Frame} {state : WalkState}

theorem Frame.applyTo_of_mem (repeated : frame.owner ∈ state.stack) :
    frame.applyTo context state =
      .error (.fault (.schema (.circular (state.stack ++ [frame.owner])))) :=
  if_pos repeated

theorem Frame.applyTo_of_not_mem (fresh : frame.owner ∉ state.stack) :
    frame.applyTo context state =
      (traverse context.schema context.settings frame frame.visit
        (stepsOf frame.layout)).applyTo
        context state :=
  if_neg fresh

end Visit

section Steps

variable {context : WalkContext} {frame : Frame}
  {below : Frame → WalkState → Except Halt WalkState} {step : Step}
  {steps : List Step} {state : WalkState} {layout : List Attribute}

theorem visitSteps_inlined
    (inlined : step.attr.disposition = some .inlined)
    (found : context.schema.layout? step.attr.typeName = some layout) :
    visitSteps context frame below (step :: steps) state =
      state.emitSlot context frame step >>= fun slotted =>
        below (frame.descend step layout slotted.count.lastVisit)
            slotted.count >>=
          visitSteps context frame below steps := by
  rw [visitSteps, inlined]
  simp only [found]

theorem visitSteps_plain
    (notConstant : step.attr.disposition ≠ some .constant)
    (notInlined : step.attr.disposition ≠ some .inlined) :
    visitSteps context frame below (step :: steps) state =
      state.emit context (frame.occurrence step) >>=
        visitSteps context frame below steps := by
  rw [visitSteps]
  split
  · contradiction
  · contradiction
  · rfl

/--
An inlined attribute is walked in place as in its traversal, if its visit
and the rest are.
-/
theorem visitSteps_inlined_eq_applyTo
    (inlined : step.attr.disposition = some .inlined)
    (found : context.schema.layout? step.attr.typeName = some layout)
    (inner : ∀ entered, entered.stack = frame.path →
      below (frame.descend step layout entered.lastVisit) entered =
        (frame.descend step layout entered.lastVisit).applyTo context entered)
    (later : ∀ returned, returned.stack = frame.path →
      visitSteps context frame below steps returned =
        (traverse context.schema context.settings frame returned.lastVisit
          steps).applyTo context returned)
    (onPath : state.stack = frame.path) :
    visitSteps context frame below (step :: steps) state =
      (traverse context.schema context.settings frame state.lastVisit
        (step :: steps)).applyTo
        context state := by
  rw [visitSteps_inlined inlined found]
  -- The visit is made in the state after the slot, which is on the
  -- path as well.
  have entered (slotted : WalkState)
      (emitted : state.emitSlot context frame step = .ok slotted) :
      slotted.count.stack = frame.path ∧
        slotted.count.lastVisit = state.lastVisit + 1 := by
    rcases WalkState.emitSlot_eq_ok emitted with ⟨stack, lastVisit⟩
    exact ⟨stack.trans onPath, congrArg (· + 1) lastVisit⟩
  by_cases repeated : step.attr.typeName ∈ frame.path
  · rw [traverse_circular inlined found repeated,
      Traversal.applyTo_meeting_slot]
    apply Outcome.bind_congr
    intro slotted emitted
    rcases entered slotted emitted with ⟨stack, _⟩
    rw [inner slotted.count stack, Frame.applyTo_of_mem (by rwa [stack]), stack]
    rfl
  · rw [Traversal.applyTo_traverse_inlined inlined found repeated]
    apply Outcome.bind_congr
    intro slotted emitted
    rcases entered slotted emitted with ⟨stack, counted⟩
    rw [inner slotted.count stack, Frame.applyTo_of_not_mem (by rwa [stack]),
      counted]
    apply Outcome.bind_congr
    intro returned made
    exact later returned ((Traversal.applyTo_eq_ok made).1.trans stack)

/--
Steps in place make of a state what their traversal makes of it, if the
visits below them do.
-/
theorem visitSteps_eq_applyTo
    (inner :
      ∀ step ∈ steps, ∀ layout entered, step.attr.disposition = some .inlined →
      context.schema.layout? step.attr.typeName = some layout →
      entered.stack = frame.path →
        below (frame.descend step layout entered.lastVisit) entered =
          (frame.descend step layout entered.lastVisit).applyTo context entered)
    (onPath : state.stack = frame.path) :
    visitSteps context frame below steps state =
      (traverse context.schema context.settings frame state.lastVisit
        steps).applyTo context
        state := by
  induction steps generalizing state with
  | nil =>
      rw [visitSteps, traverse_nil, Traversal.applyTo_nil]
  | cons step rest ih =>
      rw [List.forall_mem_cons] at inner
      by_cases constant : step.attr.disposition = some .constant
      · rw [visitSteps, constant, traverse_constant constant]
        exact ih inner.2 onPath
      · by_cases inlined : step.attr.disposition = some .inlined
        · cases found : context.schema.layout? step.attr.typeName with
          | none =>
              rw [visitSteps, inlined, traverse_missing inlined found,
                Traversal.applyTo_meeting_slot]
              simp only [found]
              rfl
          | some layout =>
              apply visitSteps_inlined_eq_applyTo inlined found _ _ onPath
              · intro entered stack
                exact inner.1 layout entered inlined found stack
              · intro returned stack
                exact ih inner.2 stack
        · rw [traverse_plain constant inlined,
            Traversal.applyTo_meeting_singleton,
            visitSteps_plain constant inlined]
          apply Outcome.bind_congr
          intro met emitted
          rcases WalkState.emit_eq_ok emitted with ⟨stack, lastVisit⟩
          rw [ih inner.2 (stack.trans onPath), lastVisit]

end Steps

/--
With more room than there are composites left, a visit in place makes of a
state what it is to.
-/
theorem visitInPlace_eq_applyTo
    {context : WalkContext} {root : String} {room : Nat} {frame : Frame}
    {state : WalkState}
    (leads : context.schema.LeadsTo root state.stack frame.owner)
    (found : context.schema.layout? frame.owner = some frame.layout)
    (onPath : frame.path = state.stack ++ [frame.owner])
    (begun : frame.visit = state.lastVisit)
    (enough : context.schema.composites.length < room + state.stack.length) :
    visitInPlace context room frame state = frame.applyTo context state := by
  induction room generalizing frame state with
  | zero =>
      have bound := leads.length_le
      omega
  | succ room ih =>
      rw [visitInPlace]
      split
      · next repeated => exact (Frame.applyTo_of_mem repeated).symm
      · next fresh =>
          have descent := leads.isDescent fresh found
          have inner (step : Step) (declared : step ∈ stepsOf frame.layout)
              (layout : List Attribute) (entered : WalkState)
              (inlined : step.attr.disposition = some .inlined)
              (located :
                context.schema.layout? step.attr.typeName = some layout)
              (stack : entered.stack = frame.path) :
              visitInPlace context room
                  (frame.descend step layout entered.lastVisit) entered =
                (frame.descend step layout entered.lastVisit).applyTo context
                  entered := by
            have longer : entered.stack = state.stack ++ [frame.owner] :=
              stack.trans onPath
            apply ih
            · rw [longer]
              exact descent.leadsTo
                (inlines_of_mem_stepsOf found declared inlined)
            · exact located
            · rw [stack]
              rfl
            · rfl
            · rw [longer, List.length_append, List.length_singleton]
              omega
          calc
            (do
              let walked ← visitSteps context frame (visitInPlace context room)
                (stepsOf frame.layout) (state.push frame.owner)
              return walked.pop) =
                (visitSteps context frame (visitInPlace context room)
                  (stepsOf frame.layout) (state.push frame.owner)).map
                  WalkState.pop := rfl
            _ =
              ((traverse context.schema context.settings frame state.lastVisit
                (stepsOf frame.layout)).applyTo context
                (state.push frame.owner)).map WalkState.pop := by
              rw [visitSteps_eq_applyTo inner onPath.symm]
              rfl
            _ = frame.applyTo context state := by
              rw [Traversal.map_pop_applyTo_push,
                Frame.applyTo_of_not_mem fresh, begun]

/-- A walk in place of a composite comes to what its traversal comes to. -/
theorem visitInPlace_root
    {context : WalkContext} {root : String} {layout : List Attribute}
    (found : context.schema.layout? root = some layout) :
    visitInPlace context (context.schema.composites.length + 1)
        (.root root layout) .start =
      (traverse context.schema context.settings (.root root layout) 0
        (stepsOf layout)).applyTo
        context .start :=
  visitInPlace_eq_applyTo (context.schema.leadsTo_root root) found rfl rfl
    (Nat.lt_succ_self _)

/-! ## Composites that are flattened -/

section Compose

variable {schema : Schema} {settings : Settings} {language : Language}
  {root : String} {layout : List Attribute}

/--
A walk that comes to its end comes to the same in place, where each
occurrence has a member.
-/
theorem Walks.visitInPlace_eq_ok
    {occurrences : List Occurrence} {last : Nat} {typed : List TypedMember}
    (walk :
      Walks schema settings (.root root layout) 0 (stepsOf layout)
        occurrences last)
    (found : schema.layout? root = some layout)
    (yielded :
      resolveOccurrences (.of schema settings language root layout) []
        occurrences =
      .ok typed) :
    visitInPlace (.of schema settings language root layout)
      (schema.composites.length + 1) (.root root layout) .start =
      .ok ⟨[], last, typed⟩ := by
  calc
    visitInPlace (.of schema settings language root layout)
      (schema.composites.length + 1) (.root root layout) .start =
        (traverse schema settings (.root root layout) 0
          (stepsOf layout)).applyTo (.of schema settings language root layout)
          .start := visitInPlace_root found
    _ =
      Traversal.applyTo (.of schema settings language root layout)
        ⟨occurrences, last, none⟩
          .start := by rw [walk.traverse_eq]
    _ = .ok ⟨[], last, typed⟩ :=
      Traversal.applyTo_start_eq_ok_iff.mpr ⟨rfl, typed, yielded, rfl⟩

/--
A composite is flattened to some members exactly if the walk in
place leads to them.
-/
theorem exists_compose_eq_ok_iff_visitInPlace
    {members : List Member}
    (found : schema.layout? root = some layout) :
    (∃ composition, compose schema settings language root = .ok composition ∧
        composition.members = members) ↔
      ∃ reached,
        visitInPlace (.of schema settings language root layout)
          (schema.composites.length + 1) (.root root layout) .start =
          .ok reached ∧
        linkSizes root (reached.typed.map TypedMember.member) =
          .ok members := by
  constructor
  · rintro ⟨composition, composed, rfl⟩
    rcases compose_eq_ok composed with
      ⟨other, occurrences, last, typed, same, walk, yielded, links⟩
    cases found.symm.trans same
    exact ⟨⟨[], last, typed⟩, walk.visitInPlace_eq_ok found yielded, links⟩
  · rintro ⟨reached, walked, links⟩
    have applied := (visitInPlace_root found).symm.trans walked
    rcases Traversal.applyTo_start_eq_ok_iff.mp applied with
      ⟨free, typed, yielded, rfl⟩
    rcases (exists_compose_eq_ok_iff found (walks_of_fault_eq_none free)).mpr
      ⟨typed, members, yielded, links⟩ with ⟨composition, composed⟩
    refine ⟨composition, composed, ?_⟩
    rcases compose_eq_ok composed with
      ⟨other, _, last, again, same, walk, yieldedAgain, linked⟩
    cases found.symm.trans same
    cases walked.symm.trans (walk.visitInPlace_eq_ok found yieldedAgain)
    exact Except.ok.inj (linked.symm.trans links)

/-- How a composite is flattened in place, with some number of visits. -/
structure IsFlattenedInPlace (schema : Schema) (settings : Settings)
    (language : Language) (root : String) (visits : Nat)
    (members : List Member) : Prop where
  /--
  The walk ends with an empty stack, all visits counted and the members as
  yet without links.
  -/
  walked : ∃ layout last typed, schema.layout? root = some layout ∧
    visitInPlace (.of schema settings language root layout)
      (schema.composites.length + 1) (.root root layout) .start =
      .ok ⟨[], last, typed⟩ ∧
    last + 1 = visits ∧
    linkSizes root (typed.map TypedMember.member) = .ok members
  /-- Every visit that comes to its end leaves the stack as it was on entry. -/
  stack : ∀ layout room frame state later,
    visitInPlace (.of schema settings language root layout) room frame state =
        .ok later →
      later.stack = state.stack

/--
When a composite is flattened, its members tell the visits.  Their numbers go
up in pre-order, each way down has its own, number 0 is that of the composite
itself, and the members of one number are the contributing attributes of one
layout in their order.  The walk in place, with one stack and one counter for
all visits, comes to the same members, and each of its visits leaves the stack
as it was on entry.
-/
theorem compose_numbers_visits
    {composition : Composition}
    (composed : compose schema settings language root = .ok composition) :
    ∃ ways entries, NumbersVisits schema root ways ∧
      IsFlattening schema settings root entries ∧
      TellsVisits schema settings root ways entries composition.members ∧
      IsFlattenedInPlace schema settings language root ways.length
        composition.members := by
  rcases compose_eq_ok composed with
    ⟨layout, occurrences, last, typed, found, walk, yielded, links⟩
  rcases walk.exists_numbersVisits found with ⟨ways, numbers, counted, numbered⟩
  have yields := forall₂_yields yielded links
  have shown := walk.forall₂_isShownBy found yields
  have told :
      TellsVisits schema settings root ways
        (occurrences.map Occurrence.appearance)
      composition.members := by
    apply numbers.tellsVisits found walk.flattens
    rw [List.forall₂_map_left_iff] at shown ⊢
    apply List.forall₂_iff_zip.mpr
    refine ⟨shown.length_eq, ?_⟩
    intro occurrence member paired
    have visit := (List.forall₂_zip yields paired).visit_eq
    refine ⟨List.forall₂_zip shown paired, ?_⟩
    rw [visit]
    exact numbered occurrence (List.of_mem_zip paired).1
  have inPlace : IsFlattenedInPlace schema settings language root ways.length
      composition.members := by
    constructor
    · exact ⟨layout, last, typed, found, walk.visitInPlace_eq_ok found yielded,
        counted, links⟩
    · intro layout room frame state later visited
      exact visitInPlace_stack visited
  exact ⟨ways, occurrences.map Occurrence.appearance, numbers,
    walk.flattens.isFlattening found, told, inPlace⟩

end Compose

/-- A composite that inlines another one twice, first below a third one. -/
def Schema.revisiting : Schema where
  entries := [
    ("Mosaic", .composite { layout := [.named "amount" "byte"] }),
    ("Body",
      .composite { layout := [.inlining "Mosaic", .named "version" "byte"] }),
    ("Transfer",
      .composite { layout := [.inlining "Body", .inlining "Mosaic"] })]
  distinct := by decide

/--
The visit of the body goes on after the one below it, and a repeated visit
has a new number.
-/
theorem compose_numbers_visits_revisiting :
    ∃ composition,
      compose .revisiting .standard .java "Transfer" = .ok composition ∧
      composition.members.map (fun member => (member.name, member.visit)) =
        [("body", 0), ("mosaic", 1), ("amount", 2), ("version", 1),
          ("mosaic", 0), ("amount", 3)] ∧
      ∃ ways entries, NumbersVisits .revisiting "Transfer" ways ∧
        IsFlattening .revisiting .standard "Transfer" entries ∧
        TellsVisits .revisiting .standard "Transfer" ways entries
          composition.members ∧
        IsFlattenedInPlace .revisiting .standard .java "Transfer" ways.length
          composition.members := by
  have found : Schema.revisiting.layout? "Transfer" =
      some [.inlining "Body", .inlining "Mosaic"] := rfl
  have computed : (visitInPlace
      (.of .revisiting .standard .java "Transfer"
        [.inlining "Body", .inlining "Mosaic"]) 4
      (.root "Transfer" [.inlining "Body", .inlining "Mosaic"]) .start).map
        (fun reached =>
        (linkSizes "Transfer" (reached.typed.map TypedMember.member)).map
          (List.map fun member => (member.name, member.visit))) =
      .ok
        (.ok [("body", 0), ("mosaic", 1), ("amount", 2), ("version", 1),
          ("mosaic", 0), ("amount", 3)]) := rfl
  rcases Outcome.map_eq_ok_iff.mp computed with ⟨reached, walked, linked⟩
  rcases Outcome.map_eq_ok_iff.mp linked with ⟨members, links, visits⟩
  rcases (exists_compose_eq_ok_iff_visitInPlace found).mpr
      ⟨reached, walked, links⟩ with
    ⟨composition, composed, rfl⟩
  exact ⟨composition, composed, visits, compose_numbers_visits composed⟩

end WireLayout
