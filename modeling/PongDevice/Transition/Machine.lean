import Mathlib.Data.Option.Basic
import Mathlib.Logic.Basic

/-! Partial labelled machines and properties of their runs. A run performs labels in
order and ends at the first one that is not enabled, so a property of every run is a
property of every list of labels.
-/

namespace PongDevice.Transition

/-- A machine takes deterministic labelled steps; `none` means that a label is disabled. -/
structure Machine (σ ι : Type*) where
  step : σ → ι → Option σ

namespace Machine

variable {σ ι τ : Type*} {machine : Machine σ ι}

-----------------------------------------------------------------------------------------
-- Runs, properties of their steps, and properties of the states they reach
-----------------------------------------------------------------------------------------

/-- The state after performing every label in order, if each one was enabled. -/
def run (machine : Machine σ ι) : σ → List ι → Option σ
  | state, [] => some state
  | state, label :: rest => (machine.step state label).bind (machine.run · rest)

/-- Each step taken from `state` over `labels` satisfies `holds`, which reads the state
before the step, its label and the state after it.
-/
def Along (machine : Machine σ ι) (holds : σ → ι → σ → Prop) : σ → List ι → Prop
  | _, [] => True
  | state, label :: rest =>
      ∀ next ∈ machine.step state label,
        holds state label next ∧ machine.Along holds next rest

/-- The starting state and each state reached over `labels` satisfy `holds`. -/
def Always (machine : Machine σ ι) (holds : σ → Prop) (state : σ) (labels : List ι)
    : Prop :=
  holds state ∧ machine.Along (fun _ _ next => holds next) state labels

instance Along.decidable (machine : Machine σ ι) (holds : σ → ι → σ → Prop)
    [∀ state label next, Decidable (holds state label next)]
    : ∀ state labels, Decidable (machine.Along holds state labels)
  | _, [] => .isTrue trivial
  | state, label :: rest =>
      match enabled : machine.step state label with
      | none => .isTrue (fun next member => by simp [enabled] at member)
      | some next =>
          have := Along.decidable machine holds next rest
          decidable_of_iff (holds state label next ∧ machine.Along holds next rest)
            (by simp [Along, enabled])

instance Always.decidable (machine : Machine σ ι) (holds : σ → Prop) [DecidablePred holds]
    (state : σ) (labels : List ι)
    : Decidable (machine.Always holds state labels) :=
  inferInstanceAs (Decidable (_ ∧ _))

/-- A property that each step satisfies in any state holds along every run. -/
theorem Along.of_forall {holds : σ → ι → σ → Prop}
    (each : ∀ state label next, machine.step state label = some next → holds state label next)
    (state : σ) (labels : List ι)
    : machine.Along holds state labels := by
  induction labels generalizing state with
  | nil => trivial
  | cons label rest ih => exact fun next taken => ⟨each state label next taken, ih next⟩

/-- What each label satisfies by itself holds along a run over the labels. -/
theorem Along.of_labels {holds : ι → Prop} (state : σ) {labels : List ι}
    (each : ∀ label ∈ labels, holds label)
    : machine.Along (fun _ label _ => holds label) state labels := by
  induction labels generalizing state with
  | nil => trivial
  | cons label rest ih =>
      intro next taken
      have later : ∀ other ∈ rest, holds other := fun other member => each other (.tail _ member)
      exact ⟨each label (.head _), ih next later⟩

/-- A state that a run reaches satisfies whatever holds always along that run, by
induction over the labels.
-/
theorem Always.of_run {holds : σ → Prop} {state last : σ} {labels : List ι}
    (always : machine.Always holds state labels) (reached : machine.run state labels = some last)
    : holds last := by
  induction labels generalizing state with
  | nil => exact Option.some.inj reached ▸ always.1
  | cons label rest ih =>
      obtain ⟨next, taken, later⟩ := Option.bind_eq_some_iff.mp reached
      exact ih (always.2 next taken) later

/-- A run over two lists is a run over the second one from where the first one ends, by
induction over the first.
-/
theorem run_append (state : σ) (first second : List ι)
    : machine.run state (first ++ second)
      = (machine.run state first).bind (machine.run · second) := by
  induction first generalizing state with
  | nil => rfl
  | cons label rest ih =>
      simp only [List.cons_append, run, Option.bind_assoc, ih]

/-- What holds along a whole run holds along its end, from the state that its beginning
reaches, by induction over the beginning.
-/
theorem Along.of_append {holds : σ → ι → σ → Prop} {state middle : σ} {first second : List ι}
    (along : machine.Along holds state (first ++ second))
    (reached : machine.run state first = some middle)
    : machine.Along holds middle second := by
  induction first generalizing state with
  | nil => exact Option.some.inj reached ▸ along
  | cons label rest ih =>
      obtain ⟨next, taken, later⟩ := Option.bind_eq_some_iff.mp reached
      exact ih (along next taken).2 later

-----------------------------------------------------------------------------------------
-- Invariants carry a step property to every run
-----------------------------------------------------------------------------------------

/-- An invariant that each step keeps, under the environment's obligation `env`, makes a
step property that follows from it hold along every run that meets the obligation.
Witness: induction over the labels with the invariant at the current state.
-/
theorem Along.of_invariant {env holds : σ → ι → σ → Prop} (inv : σ → Prop)
    (each
      : ∀ state label next,
          inv state
          → machine.step state label = some next
          → env state label next
          → holds state label next ∧ inv next)
    {state : σ} {labels : List ι} (here : inv state)
    (assumed : machine.Along env state labels)
    : machine.Along holds state labels := by
  induction labels generalizing state with
  | nil => trivial
  | cons label rest ih =>
      intro next taken
      obtain ⟨met, later⟩ := assumed next taken
      obtain ⟨now, kept⟩ := each state label next here taken met
      exact ⟨now, ih kept later⟩

/-- Two step properties agree along a run when they agree at each step that starts in the
invariant, and the second one keeps the invariant.
Witness: induction over the labels; either property restores the invariant after a step.
-/
theorem Along.congr {env first second : σ → ι → σ → Prop} (inv : σ → Prop)
    (agree
      : ∀ state label next,
          inv state
          → machine.step state label = some next
          → env state label next
          → (first state label next ↔ second state label next))
    (kept
      : ∀ state label next,
          inv state
          → machine.step state label = some next
          → env state label next
          → second state label next
          → inv next)
    {state : σ} {labels : List ι} (here : inv state)
    (assumed : machine.Along env state labels)
    : machine.Along first state labels ↔ machine.Along second state labels := by
  induction labels generalizing state with
  | nil => exact Iff.rfl
  | cons label rest ih =>
      refine forall₂_congr (fun next taken => ?_)
      obtain ⟨met, later⟩ := assumed next taken
      have same := agree state label next here taken met
      constructor
      · intro both
        obtain ⟨now, tail⟩ := both
        have rule := same.mp now
        exact ⟨rule, (ih (kept state label next here taken met rule) later).mp tail⟩
      · intro both
        obtain ⟨rule, tail⟩ := both
        exact ⟨same.mpr rule,
          (ih (kept state label next here taken met rule) later).mpr tail⟩

/-- A state property that follows from an invariant kept by each allowed step holds in
every state of a run whose steps are all allowed.
-/
theorem Always.of_invariant {env : σ → ι → σ → Prop} {holds : σ → Prop} (inv : σ → Prop)
    (enough : ∀ state, inv state → holds state)
    (kept
      : ∀ state label next,
          inv state
          → machine.step state label = some next
          → env state label next
          → inv next)
    {state : σ} {labels : List ι} (here : inv state)
    (assumed : machine.Along env state labels)
    : machine.Always holds state labels := by
  refine ⟨enough state here, Along.of_invariant inv ?_ here assumed⟩
  intro current label next sound taken met
  have after := kept current label next sound taken met
  exact ⟨enough next after, after⟩

/-- A state property holds always exactly along the runs that obey a step rule, when the
rule keeps an invariant that implies the property and breaking the rule breaks the
property at once.
-/
theorem always_iff_along {env rule : σ → ι → σ → Prop} {holds : σ → Prop}
    (inv : σ → Prop) (enough : ∀ state, inv state → holds state)
    (kept
      : ∀ state label next,
          inv state
          → machine.step state label = some next
          → env state label next
          → rule state label next
          → inv next)
    (needed
      : ∀ state label next,
          inv state
          → machine.step state label = some next
          → env state label next
          → holds next
          → rule state label next)
    {state : σ} {labels : List ι} (here : inv state)
    (assumed : machine.Along env state labels)
    : machine.Always holds state labels ↔ machine.Along rule state labels := by
  have same :
      machine.Along (fun _ _ next => holds next) state labels
        ↔ machine.Along rule state labels := by
    refine Along.congr inv ?_ kept here assumed
    intro current label next sound taken met
    exact ⟨needed current label next sound taken met,
      fun obeyed => enough next (kept current label next sound taken met obeyed)⟩
  exact ⟨fun always => same.mp always.2, fun obeyed => ⟨enough state here, same.mpr obeyed⟩⟩

/-- Every run meets the empty obligation. -/
theorem along_true (state : σ) (labels : List ι)
    : machine.Along (fun _ _ _ => True) state labels :=
  Along.of_forall (fun _ _ _ _ => trivial) state labels

-----------------------------------------------------------------------------------------
-- History variables
-----------------------------------------------------------------------------------------

/-- The machine that also keeps a history, updated from each step but never read by it. -/
def observe (machine : Machine σ ι) (note : τ → σ → ι → σ → τ) : Machine (σ × τ) ι where
  step state label :=
    (machine.step state.1 label).map (fun next => (next, note state.2 state.1 label next))

/-- An observed step is a step of the machine with its history updated. -/
@[simp]
theorem observe_step_eq_some {note : τ → σ → ι → σ → τ} {state next : σ} {seen later : τ}
    {label : ι}
    : (machine.observe note).step (state, seen) label = some (next, later)
      ↔ machine.step state label = some next ∧ note seen state label next = later := by
  simp only [observe, Option.map_eq_some_iff, Prod.mk.injEq]
  constructor
  · intro observed
    obtain ⟨same, taken, rfl, rfl⟩ := observed
    exact ⟨taken, rfl⟩
  · intro both
    obtain ⟨taken, rfl⟩ := both
    exact ⟨next, taken, rfl, rfl⟩

/-- Keeping a history changes no behaviour: a property of the machine's own steps holds
along an observed run exactly when it holds along the run itself.
-/
theorem observe_along {note : τ → σ → ι → σ → τ} {holds : σ → ι → σ → Prop}
    {state : σ} {seen : τ} {labels : List ι}
    : (machine.observe note).Along (fun before label after => holds before.1 label after.1)
        (state, seen) labels
      ↔ machine.Along holds state labels := by
  induction labels generalizing state seen with
  | nil => exact Iff.rfl
  | cons label rest ih =>
      constructor
      · intro observed next taken
        obtain ⟨now, later⟩ :=
          observed (next, note seen state label next) (observe_step_eq_some.mpr ⟨taken, rfl⟩)
        exact ⟨now, ih.mp later⟩
      · intro plain after observed
        obtain ⟨next, history⟩ := after
        obtain ⟨now, later⟩ := plain next (observe_step_eq_some.mp observed).1
        exact ⟨now, ih.mpr later⟩

-- In the rules below a step is the machine's own, and the history after it is `note` of the
-- history before it, so that a proof never takes an observed state apart.

variable {note : τ → σ → ι → σ → τ}

/-- `Along.of_invariant` for an invariant of states and their histories. -/
theorem observe_along_of_invariant {env holds : σ × τ → ι → σ × τ → Prop}
    (inv : σ × τ → Prop)
    (each
      : ∀ state seen label next,
          inv (state, seen)
          → machine.step state label = some next
          → env (state, seen) label (next, note seen state label next)
          → holds (state, seen) label (next, note seen state label next)
            ∧ inv (next, note seen state label next))
    {start : σ × τ} {labels : List ι} (here : inv start)
    (assumed : (machine.observe note).Along env start labels)
    : (machine.observe note).Along holds start labels := by
  refine Along.of_invariant inv ?_ here assumed
  intro (state, seen) label (next, later) sound observed met
  obtain ⟨taken, rfl⟩ := observe_step_eq_some.mp observed
  exact each state seen label next sound taken met

/-- `Along.congr` for an invariant of states and their histories. -/
theorem observe_along_congr {env first second : σ × τ → ι → σ × τ → Prop}
    (inv : σ × τ → Prop)
    (agree
      : ∀ state seen label next,
          inv (state, seen)
          → machine.step state label = some next
          → env (state, seen) label (next, note seen state label next)
          → (first (state, seen) label (next, note seen state label next)
            ↔ second (state, seen) label (next, note seen state label next)))
    (kept
      : ∀ state seen label next,
          inv (state, seen)
          → machine.step state label = some next
          → env (state, seen) label (next, note seen state label next)
          → second (state, seen) label (next, note seen state label next)
          → inv (next, note seen state label next))
    {start : σ × τ} {labels : List ι} (here : inv start)
    (assumed : (machine.observe note).Along env start labels)
    : (machine.observe note).Along first start labels
      ↔ (machine.observe note).Along second start labels := by
  refine Along.congr inv ?_ ?_ here assumed
  · intro (state, seen) label (next, later) sound observed met
    obtain ⟨taken, rfl⟩ := observe_step_eq_some.mp observed
    exact agree state seen label next sound taken met
  · intro (state, seen) label (next, later) sound observed met rule
    obtain ⟨taken, rfl⟩ := observe_step_eq_some.mp observed
    exact kept state seen label next sound taken met rule

/-- `Always.of_invariant` for an invariant of states and their histories. -/
theorem observe_always_of_invariant {env : σ × τ → ι → σ × τ → Prop} {holds : σ × τ → Prop}
    (inv : σ × τ → Prop) (enough : ∀ state seen, inv (state, seen) → holds (state, seen))
    (kept
      : ∀ state seen label next,
          inv (state, seen)
          → machine.step state label = some next
          → env (state, seen) label (next, note seen state label next)
          → inv (next, note seen state label next))
    {start : σ × τ} {labels : List ι} (here : inv start)
    (assumed : (machine.observe note).Along env start labels)
    : (machine.observe note).Always holds start labels := by
  refine Always.of_invariant inv (fun state => enough state.1 state.2) ?_ here assumed
  intro (state, seen) label (next, later) sound observed met
  obtain ⟨taken, rfl⟩ := observe_step_eq_some.mp observed
  exact kept state seen label next sound taken met

/-- `always_iff_along` for an invariant of states and their histories. -/
theorem observe_always_iff_along {env rule : σ × τ → ι → σ × τ → Prop}
    {holds : σ × τ → Prop}
    (inv : σ × τ → Prop) (enough : ∀ state seen, inv (state, seen) → holds (state, seen))
    (kept
      : ∀ state seen label next,
          inv (state, seen)
          → machine.step state label = some next
          → env (state, seen) label (next, note seen state label next)
          → rule (state, seen) label (next, note seen state label next)
          → inv (next, note seen state label next))
    (needed
      : ∀ state seen label next,
          inv (state, seen)
          → machine.step state label = some next
          → env (state, seen) label (next, note seen state label next)
          → holds (next, note seen state label next)
          → rule (state, seen) label (next, note seen state label next))
    {start : σ × τ} {labels : List ι} (here : inv start)
    (assumed : (machine.observe note).Along env start labels)
    : (machine.observe note).Always holds start labels
      ↔ (machine.observe note).Along rule start labels := by
  refine always_iff_along inv (fun state => enough state.1 state.2) ?_ ?_ here assumed
  · intro (state, seen) label (next, later) sound observed met obeyed
    obtain ⟨taken, rfl⟩ := observe_step_eq_some.mp observed
    exact kept state seen label next sound taken met obeyed
  · intro (state, seen) label (next, later) sound observed met after
    obtain ⟨taken, rfl⟩ := observe_step_eq_some.mp observed
    exact needed state seen label next sound taken met after

end Machine

end PongDevice.Transition
