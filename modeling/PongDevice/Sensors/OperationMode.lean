import Mathlib.Data.List.Basic
import PongDevice.Sensors.Routing

/-! The operation mode of all sub-HALs at once. The proxy asks one sub-HAL after another, and
puts those back that it asked before one refused.
-/

namespace PongDevice.Sensors

/-- A sub-HAL with its own mode: `mode` is the one it is in, and `setOperationMode` its
answer to a request and what it is afterwards.
-/
structure ModalSubHal (σ : Type*) where
  mode : σ → OperationMode
  setOperationMode : σ → OperationMode → Result × σ

/-- What the proxy relies on: a sub-HAL changes its mode exactly if it answers that it does,
and it does not refuse to go back.
-/
structure ModalSubHal.Reliable {σ : Type*} (subHal : ModalSubHal σ) : Prop where
  accepts
    : ∀ state mode,
        (subHal.setOperationMode state mode).1 = .ok
        → subHal.mode (subHal.setOperationMode state mode).2 = mode
  refuses
    : ∀ state mode,
        (subHal.setOperationMode state mode).1 ≠ .ok
        → subHal.mode (subHal.setOperationMode state mode).2 = subHal.mode state
  returns
    : ∀ state mode,
        (subHal.setOperationMode state mode).1 = .ok
        → (subHal.setOperationMode (subHal.setOperationMode state mode).2 (subHal.mode state)).1
          = .ok

/-- The members of the proxy that the request reads. -/
structure ModeProxy (σ : Type*) where
  mSubHalList : List σ
  mCurrentOperationMode : OperationMode
deriving DecidableEq, Repr

section Requests

variable {σ : Type*} (subHal : ModalSubHal σ)

/-- The first loop of `HalProxy::setOperationMode`: its result, the `subHalIndex` that it ends
at, and the sub-HALs after it.
-/
def requestMode (mode : OperationMode) : List σ → Result × Nat × List σ
  | [] => (.ok, 0, [])
  | state :: rest =>
      let (result, asked) := subHal.setOperationMode state mode
      if result ≠ .ok then
        (result, 0, asked :: rest)
      else
        let (result, subHalIndex, later) := requestMode mode rest
        (result, subHalIndex + 1, asked :: later)

/-- The second loop resets the operation modes of the first `subHalIndex` sub-HALs, whatever
they answer.
-/
def resetModes (mode : OperationMode) (subHalIndex : Nat) (subHals : List σ) : List σ :=
  (subHals.take subHalIndex).map (fun state => (subHal.setOperationMode state mode).2)
    ++ subHals.drop subHalIndex

def ModeProxy.setOperationMode (proxy : ModeProxy σ) (mode : OperationMode)
    : Result × ModeProxy σ :=
  let (result, subHalIndex, asked) := requestMode subHal mode proxy.mSubHalList
  if result ≠ .ok then
    let reset := resetModes subHal proxy.mCurrentOperationMode subHalIndex asked
    (result, { proxy with mSubHalList := reset })
  else
    (result, { mSubHalList := asked, mCurrentOperationMode := mode })

/-- What each sub-HAL answers to the mode, asked as it is. -/
def answers (mode : OperationMode) (subHals : List σ) : List Result :=
  subHals.map (fun state => (subHal.setOperationMode state mode).1)

-----------------------------------------------------------------------------------------
-- Where the first loop ends
-----------------------------------------------------------------------------------------

variable {subHal}

/-- If nobody refuses, the loop asks them all, by induction over the sub-HALs. -/
theorem requestMode_of_accepted {mode : OperationMode} {subHals : List σ}
    (accepted : ∀ answer ∈ answers subHal mode subHals, answer = .ok)
    : requestMode subHal mode subHals
      = (.ok, subHals.length,
        subHals.map (fun state => (subHal.setOperationMode state mode).2)) := by
  induction subHals with
  | nil => rfl
  | cons state rest ih =>
      simp only [answers, List.map_cons, List.forall_mem_cons] at accepted
      simp [requestMode, accepted.1, ih accepted.2]

/-- The loop ends at the first sub-HAL that refuses, by induction over those before it. -/
theorem requestMode_of_refused {mode : OperationMode} {earlier later : List σ} {state : σ}
    (accepted : ∀ answer ∈ answers subHal mode earlier, answer = .ok)
    (refused : (subHal.setOperationMode state mode).1 ≠ .ok)
    : requestMode subHal mode (earlier ++ state :: later)
      = ((subHal.setOperationMode state mode).1, earlier.length,
        earlier.map (fun state => (subHal.setOperationMode state mode).2)
          ++ (subHal.setOperationMode state mode).2 :: later) := by
  induction earlier with
  | nil => simp [requestMode, refused]
  | cons first rest ih =>
      simp only [answers, List.map_cons, List.forall_mem_cons] at accepted
      simp [requestMode, accepted.1, ih accepted.2]

/-- Either everybody accepts the mode, or somebody is the first to refuse it. -/
theorem accepted_or_refused (subHal : ModalSubHal σ) (mode : OperationMode) (subHals : List σ)
    : (∀ answer ∈ answers subHal mode subHals, answer = .ok)
      ∨ ∃ earlier state later,
          subHals = earlier ++ state :: later
          ∧ (∀ answer ∈ answers subHal mode earlier, answer = .ok)
          ∧ (subHal.setOperationMode state mode).1 ≠ .ok := by
  induction subHals with
  | nil => exact .inl (by simp [answers])
  | cons first rest ih =>
      by_cases accepted : (subHal.setOperationMode first mode).1 = .ok
      · rcases ih with all | some
        · exact .inl (by simpa [answers, accepted] using all)
        · obtain ⟨earlier, state, later, rfl, before, refused⟩ := some
          refine .inr ⟨first :: earlier, state, later, rfl, ?_, refused⟩
          simpa [answers, accepted] using before
      · exact .inr ⟨[], first, rest, rfl, by simp [answers], accepted⟩

/-- The answer of whoever refuses first is the first error. -/
theorem find?_answers {mode : OperationMode} {earlier later : List σ} {state : σ}
    (accepted : ∀ answer ∈ answers subHal mode earlier, answer = .ok)
    (refused : (subHal.setOperationMode state mode).1 ≠ .ok)
    : (answers subHal mode (earlier ++ state :: later)).find? (· ≠ .ok)
      = some (subHal.setOperationMode state mode).1 := by
  have none : (answers subHal mode earlier).find? (· ≠ .ok) = none :=
    List.find?_eq_none.mpr (fun answer member => by simp [accepted answer member])
  simp only [answers] at none ⊢
  rw [List.map_append, List.find?_append, none, List.map_cons]
  simp [refused]

-----------------------------------------------------------------------------------------
-- All or nothing
-----------------------------------------------------------------------------------------

/-- The modes after everybody accepted one. -/
theorem ModalSubHal.Reliable.modes_of_accepted (reliable : subHal.Reliable)
    {mode : OperationMode} {subHals : List σ}
    (accepted : ∀ answer ∈ answers subHal mode subHals, answer = .ok)
    : ∀ state ∈ subHals.map (fun state => (subHal.setOperationMode state mode).2),
        subHal.mode state = mode := by
  intro state asked
  obtain ⟨before, member, rfl⟩ := List.mem_map.mp asked
  exact reliable.accepts before mode (accepted _ (List.mem_map.mpr ⟨before, member, rfl⟩))

/-- Who accepted a mode and is asked back is in the mode that it was in. -/
theorem ModalSubHal.Reliable.reset (reliable : subHal.Reliable) {mode current : OperationMode}
    {state : σ} (accepted : (subHal.setOperationMode state mode).1 = .ok)
    (was : subHal.mode state = current)
    : subHal.mode (subHal.setOperationMode (subHal.setOperationMode state mode).2 current).2
      = current := by
  refine reliable.accepts _ current ?_
  rw [← was]
  exact reliable.returns state mode accepted

/-- The rollback puts everybody before the refusal back, and the one that refused and those
after it have not moved.
-/
theorem ModalSubHal.Reliable.modes_resetModes (reliable : subHal.Reliable)
    {mode current : OperationMode} {earlier later : List σ} {state : σ}
    (accepted : ∀ answer ∈ answers subHal mode earlier, answer = .ok)
    (refused : (subHal.setOperationMode state mode).1 ≠ .ok)
    (agree : ∀ state ∈ earlier, subHal.mode state = current)
    : (resetModes subHal current earlier.length
          (earlier.map (fun state => (subHal.setOperationMode state mode).2)
            ++ (subHal.setOperationMode state mode).2 :: later)).map subHal.mode
      = (earlier ++ state :: later).map subHal.mode := by
  have asked : earlier.length
      = (earlier.map (fun state => (subHal.setOperationMode state mode).2)).length := by simp
  rw [resetModes, asked, List.take_left, List.drop_left]
  simp only [List.map_append, List.map_map, List.map_cons, reliable.refuses state mode refused]
  congr 1
  refine List.map_congr_left (fun before member => ?_)
  have here := accepted _ (List.mem_map.mpr ⟨before, member, rfl⟩)
  exact (reliable.reset here (agree before member)).trans (agree before member).symm

/-- A request for a mode is all or nothing. It succeeds exactly if every sub-HAL accepts, and
then all are in the new mode; otherwise it returns the first refusal, and every sub-HAL and
the proxy are in the mode that they were in.
-/
theorem setOperationMode_allOrNothing (reliable : subHal.Reliable) (proxy : ModeProxy σ)
    (mode : OperationMode)
    (agree : ∀ state ∈ proxy.mSubHalList, subHal.mode state = proxy.mCurrentOperationMode)
    : let answers := answers subHal mode proxy.mSubHalList
      let result := (proxy.setOperationMode subHal mode).1
      let after := (proxy.setOperationMode subHal mode).2
      (result = .ok ↔ ∀ answer ∈ answers, answer = .ok)
        ∧ (result = .ok
          → after.mSubHalList.map subHal.mode = proxy.mSubHalList.map (fun _ => mode)
            ∧ after.mCurrentOperationMode = mode)
        ∧ (result ≠ .ok
          → answers.find? (· ≠ .ok) = some result
            ∧ after.mSubHalList.map subHal.mode = proxy.mSubHalList.map subHal.mode
            ∧ after.mCurrentOperationMode = proxy.mCurrentOperationMode) := by
  rcases accepted_or_refused subHal mode proxy.mSubHalList with accepted | stopped
  · have moved := reliable.modes_of_accepted accepted
    have request
        : proxy.setOperationMode subHal mode
          = (.ok, ⟨proxy.mSubHalList.map (fun state => (subHal.setOperationMode state mode).2),
            mode⟩) := by
      simp [ModeProxy.setOperationMode, requestMode_of_accepted accepted]
    rw [request]
    refine ⟨iff_of_true rfl accepted, fun _ => ⟨?_, rfl⟩, fun failed => absurd rfl failed⟩
    rw [List.map_map]
    refine List.map_congr_left (fun state member => ?_)
    exact moved _ (List.mem_map.mpr ⟨state, member, rfl⟩)
  · obtain ⟨earlier, state, later, subHals, accepted, refused⟩ := stopped
    have before : ∀ state ∈ earlier, subHal.mode state = proxy.mCurrentOperationMode :=
      fun state member => agree state (by simp [subHals, member])
    have request
        : proxy.setOperationMode subHal mode
          = ((subHal.setOperationMode state mode).1,
            ⟨resetModes subHal proxy.mCurrentOperationMode earlier.length
              (earlier.map (fun state => (subHal.setOperationMode state mode).2)
                ++ (subHal.setOperationMode state mode).2 :: later),
            proxy.mCurrentOperationMode⟩) := by
      simp [ModeProxy.setOperationMode, subHals, requestMode_of_refused accepted refused, refused]
    rw [request]
    refine ⟨iff_of_false refused ?_, fun succeeded => absurd succeeded refused, fun _ => ?_⟩
    · intro all
      exact refused (all _ (by simp [subHals, answers]))
    · rw [subHals]
      refine ⟨find?_answers accepted refused, ?_, rfl⟩
      exact reliable.modes_resetModes accepted refused before

end Requests

/-- A sub-HAL with or without a mode for injected data. -/
inductive InjectableSubHal
  | withoutInjection
  | withInjection (mMode : OperationMode)
deriving DecidableEq, Repr

def injectableSubHal : ModalSubHal InjectableSubHal where
  mode
    | .withoutInjection => .normal
    | .withInjection mMode => mMode
  setOperationMode
    | .withoutInjection, .normal => (.ok, .withoutInjection)
    | .withoutInjection, .dataInjection => (.invalidOperation, .withoutInjection)
    | .withInjection _, mode => (.ok, .withInjection mode)

theorem injectableSubHal_reliable : injectableSubHal.Reliable := by
  constructor
  · intro state mode
    cases state <;> cases mode <;> simp [injectableSubHal]
  · intro state mode
    cases state <;> cases mode <;> simp [injectableSubHal]
  · intro state mode
    cases state <;> cases mode <;> simp [injectableSubHal]

/-- The request for injected data over three sub-HALs of which the second one refuses. -/
theorem setOperationMode_allOrNothing_secondRefuses
    : let proxy : ModeProxy InjectableSubHal :=
        {
          mSubHalList := [.withInjection .normal, .withoutInjection, .withInjection .normal]
          mCurrentOperationMode := .normal
        }
      let answers := answers injectableSubHal .dataInjection proxy.mSubHalList
      let result := (proxy.setOperationMode injectableSubHal .dataInjection).1
      let after := (proxy.setOperationMode injectableSubHal .dataInjection).2
      (result = .ok ↔ ∀ answer ∈ answers, answer = .ok)
        ∧ (result = .ok
          → after.mSubHalList.map injectableSubHal.mode
              = proxy.mSubHalList.map (fun _ => .dataInjection)
            ∧ after.mCurrentOperationMode = .dataInjection)
        ∧ (result ≠ .ok
          → answers.find? (· ≠ .ok) = some result
            ∧ after.mSubHalList.map injectableSubHal.mode
              = proxy.mSubHalList.map injectableSubHal.mode
            ∧ after.mCurrentOperationMode = proxy.mCurrentOperationMode) :=
  setOperationMode_allOrNothing injectableSubHal_reliable _ .dataInjection (by decide)

end PongDevice.Sensors
