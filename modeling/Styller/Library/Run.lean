/-! Transition systems and what holds along all their runs. -/

namespace Styller.Library

open List

universe u v

/-- Where runs start and what one labelled step does. -/
structure System (State : Type u) (Label : Type v) where
  init : State → Prop
  step : State → Label → State → Prop

namespace System

variable {State : Type u} {Label : Type v} (system : System State Label)

/-- The states of the runs all of whose steps are allowed. -/
inductive Reachable (allow : State → Label → Prop) : State → Prop where
  | init {state : State} (initial : system.init state) : Reachable allow state
  | step {state : State} {label : Label} {next : State} (before : Reachable allow state)
      (allowed : allow state label) (taken : system.step state label next) : Reachable allow next

/-- A property that holds where runs start and survives every allowed step. -/
structure Invariant (allow : State → Label → Prop) (property : State → Prop) : Prop where
  init : ∀ state, system.init state → property state
  step : ∀ state label next, property state → allow state label →
    system.step state label next → property next

variable {system}

/-- Induction over runs. -/
theorem Invariant.reachable {allow : State → Label → Prop} {property : State → Prop}
    (invariant : system.Invariant allow property) (reached : system.Reachable allow state) :
    property state := by
  induction reached with
  | init initial => exact invariant.init _ initial
  | step _ allowed taken ih => exact invariant.step _ _ _ ih allowed taken

end System

section

variable {State : Type u} {Label : Type v} (step : State → Label → State)

/-- A property of every state that a run goes through. -/
def Always (property : State → Prop) : State → List Label → Prop
  | state, [] => property state
  | state, label :: labels => property state ∧ Always property (step state label) labels

/-- A condition on every step of a run, where it is taken. -/
def Throughout (allow : State → Label → Prop) : State → List Label → Prop
  | _, [] => True
  | state, label :: labels => allow state label ∧ Throughout allow (step state label) labels

variable {step} {property : State → Prop} {allow : State → Label → Prop}

theorem Always.head {state : State} {labels : List Label} (always : Always step property state labels) : property state := by
  cases labels with
  | nil => exact always
  | cons label labels => exact always.1

/-- Where a run ends. -/
theorem Always.last {state : State} {labels : List Label} (always : Always step property state labels) :
    property (labels.foldl step state) := by
  induction labels generalizing state with
  | nil => exact always
  | cons label labels ih => exact ih always.2

theorem Always.mono {other : State → Prop} (weaker : ∀ state, property state → other state) {state : State} {labels : List Label}
    (always : Always step property state labels) : Always step other state labels := by
  induction labels generalizing state with
  | nil => exact weaker state always
  | cons label labels ih => exact ⟨weaker state always.1, ih always.2⟩

theorem always_of_throughout (keeps : ∀ state label, property state → allow state label → property (step state label))
    {state : State} (holds : property state) {labels : List Label} (throughout : Throughout step allow state labels) :
    Always step property state labels := by
  induction labels generalizing state with
  | nil => exact holds
  | cons label labels ih => exact ⟨holds, ih (keeps state label holds throughout.1) throughout.2⟩

theorem always_of_kept (keeps : ∀ state label, property state → property (step state label)) {state : State}
    (holds : property state) (labels : List Label) : Always step property state labels := by
  induction labels generalizing state with
  | nil => exact holds
  | cons label labels ih => exact ⟨holds, ih (keeps state label holds)⟩

/-- A property that the allowed steps keep and the others break, where an invariant of the run with the property is at hand. -/
theorem always_iff_throughout_of_good (good : State → Prop) (holds : ∀ state, good state → property state)
    (stays : ∀ state label, good state → property (step state label) → good (step state label))
    (correct : ∀ state label, good state → (property (step state label) ↔ allow state label)) {state : State}
    (start : good state) (labels : List Label) : Always step property state labels ↔ Throughout step allow state labels := by
  induction labels generalizing state with
  | nil => exact iff_of_true (holds state start) trivial
  | cons label labels ih =>
    have one := correct state label start
    constructor
    · intro always
      have after := always.2.head
      exact ⟨one.mp after, (ih (stays state label start after)).mp always.2⟩
    · intro throughout
      have after := one.mpr throughout.1
      exact ⟨holds state start, (ih (stays state label start after)).mpr throughout.2⟩

theorem always_iff_throughout (base : State → Prop) (stays : ∀ state label, base state → base (step state label))
    (keeps : ∀ state label, base state → property state → (property (step state label) ↔ allow state label))
    {state : State} (based : base state) (holds : property state) (labels : List Label) :
    Always step property state labels ↔ Throughout step allow state labels := by
  apply always_iff_throughout_of_good (fun state => base state ∧ property state)
  · exact fun state good => good.2
  · exact fun state label good kept => ⟨stays state label good.1, kept⟩
  · exact fun state label good => keeps state label good.1 good.2
  · exact ⟨based, holds⟩

/-- Where the steps that are right are just the allowed ones, the runs whose steps are all right are just the runs that are
allowed throughout. -/
theorem throughout_iff {right : State → Label → Prop} (kept : ∀ state label, property state → right state label →
      property (step state label))
    (correct : ∀ state label, property state → (right state label ↔ allow state label)) {state : State} (holds : property state)
    (labels : List Label) : Throughout step right state labels ↔ Throughout step allow state labels := by
  induction labels generalizing state with
  | nil => exact Iff.rfl
  | cons label labels ih =>
    have one := correct state label holds
    constructor
    · intro throughout
      exact ⟨one.mp throughout.1, (ih (kept state label holds throughout.1)).mp throughout.2⟩
    · intro throughout
      have taken := one.mpr throughout.1
      exact ⟨taken, (ih (kept state label holds taken)).mpr throughout.2⟩

theorem throughout_of_throughout {right : State → Label → Prop}
    (keeps : ∀ state label, property state → allow state label → property (step state label))
    (correct : ∀ state label, property state → allow state label → right state label) {state : State} (holds : property state)
    {labels : List Label} (throughout : Throughout step allow state labels) : Throughout step right state labels := by
  induction labels generalizing state with
  | nil => trivial
  | cons label labels ih =>
    constructor
    · exact correct state label holds throughout.1
    · exact ih (keeps state label holds throughout.1) throughout.2

/-- A run that goes on after some steps. -/
theorem throughout_append {state : State} {first second : List Label} (throughout : Throughout step allow state (first ++ second)) :
    Throughout step allow (first.foldl step state) second := by
  induction first generalizing state with
  | nil => exact throughout
  | cons label first ih => exact ih throughout.2

end

section

variable {State : Type u} {Label : Type v} {run : State → Label → Option State}

/-- What the steps of a partial run keep, with the steps that are done. -/
theorem foldlM_done (property : List Label → State → Prop) {labels : List Label} {state result : State}
    (keeps : ∀ done label state next, label ∈ labels → property done state → run state label = some next →
      property (done ++ [label]) next)
    (start : property [] state) (ran : labels.foldlM run state = some result) : property labels result := by
  have along : ∀ (rest done : List Label) (state : State), (∀ label ∈ rest, label ∈ labels) → property done state →
      rest.foldlM run state = some result → property (done ++ rest) result := by
    intro rest
    induction rest with
    | nil =>
      intro done state _ holds ran
      rw [foldlM_nil, Option.pure_def, Option.some.injEq] at ran
      rwa [← ran, append_nil]
    | cons label rest ih =>
      intro done state listed holds ran
      rw [foldlM_cons, Option.bind_eq_bind, Option.bind_eq_some_iff] at ran
      obtain ⟨next, taken, ran⟩ := ran
      have after := ih (done ++ [label]) next (fun other member => listed other (mem_cons_of_mem _ member))
        (keeps done label state next (listed label mem_cons_self) holds taken) ran
      rwa [append_assoc] at after
  exact along labels [] state (fun _ member => member) start ran

/-- Two partial runs whose steps agree where the run comes by. -/
theorem foldlM_agree {other : State → Label → Option State} (property : State → Prop) {labels : List Label} {state : State}
    (agree : ∀ state label, label ∈ labels → property state → run state label = other state label)
    (keeps : ∀ state label next, label ∈ labels → property state → run state label = some next → property next)
    (start : property state) : labels.foldlM run state = labels.foldlM other state := by
  induction labels generalizing state with
  | nil => rfl
  | cons label labels ih =>
    rw [foldlM_cons, foldlM_cons, ← agree state label mem_cons_self start]
    cases taken : run state label with
    | none => rfl
    | some next =>
      apply ih
      · intro state label listed
        exact agree state label (mem_cons_of_mem _ listed)
      · intro state label next listed
        exact keeps state label next (mem_cons_of_mem _ listed)
      · exact keeps state label next mem_cons_self start taken

end

end Styller.Library
