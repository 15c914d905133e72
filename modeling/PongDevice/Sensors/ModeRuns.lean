import PongDevice.Sensors.OperationMode
import PongDevice.Sensors.SubHalModes

/-! The operation mode over whole runs of the proxy. A request for a mode puts back whoever it has
changed when somebody refuses, but `initializeCommon` stops at the first sub-HAL that fails and
takes the normal mode all the same.
-/

namespace PongDevice.Sensors

open Transition

/-- A sub-HAL that is initialized and has a mode of its own. -/
structure InitializedSubHal (σ : Type*) extends ModalSubHal σ where
  initializeSubHal : σ → Result × σ

/-- What the proxy relies on: a sub-HAL that is initialized is in the normal mode, and one that
fails to be has not changed its mode.
-/
structure InitializedSubHal.Reliable {σ : Type*} (subHal : InitializedSubHal σ) : Prop
    extends subHal.toModalSubHal.Reliable where
  resets
    : ∀ state,
        (subHal.initializeSubHal state).1 = .ok
        → subHal.mode (subHal.initializeSubHal state).2 = .normal
  fails
    : ∀ state,
        (subHal.initializeSubHal state).1 ≠ .ok
        → subHal.mode (subHal.initializeSubHal state).2 = subHal.mode state

section Runs

variable {σ : Type*} (subHal : InitializedSubHal σ)

/-- The loop over the sub-HALs in `initializeCommon`: whether it has broken off, and the sub-HALs
after it.
-/
def initializeSubHals : List σ → Bool × List σ
  | [] => (false, [])
  | state :: rest =>
      let (result, after) := subHal.initializeSubHal state
      if result ≠ .ok then
        (true, after :: rest)
      else
        let (failed, later) := initializeSubHals rest
        (failed, after :: later)

/-- `initializeCommon`, of which only the sub-HALs and the mode are kept. -/
def ModeProxy.initializeCommon (proxy : ModeProxy σ) : ModeProxy σ where
  mSubHalList := (initializeSubHals subHal proxy.mSubHalList).2
  mCurrentOperationMode := .normal

/-- A request of the framework, or the sub-HALs go on by themselves. -/
inductive ModeAction (σ : Type*) where
  | setOperationMode (mode : OperationMode)
  | initializeCommon
  | advance (mSubHalList : List σ)

/-- A sub-HAL does not change its mode by itself. -/
def ModeProxy.step (proxy : ModeProxy σ)
    : ModeAction σ → Option (ModeProxy σ)
  | .setOperationMode mode => some (proxy.setOperationMode subHal.toModalSubHal mode).2
  | .initializeCommon => some (proxy.initializeCommon subHal)
  | .advance mSubHalList =>
      if mSubHalList.map subHal.mode = proxy.mSubHalList.map subHal.mode then
        some { proxy with mSubHalList }
      else
        none

def modeMachine : Machine (ModeProxy σ) (ModeAction σ) where
  step := ModeProxy.step subHal

/-- Every sub-HAL is in the mode that the proxy keeps. -/
def ModeProxy.ModesAgree (proxy : ModeProxy σ) : Prop :=
  ∀ state ∈ proxy.mSubHalList, subHal.mode state = proxy.mCurrentOperationMode

/-- No initialization breaks off in the mode for injected data. -/
def ModeProxy.failsInNormal (before : ModeProxy σ) (action : ModeAction σ) (_ : ModeProxy σ)
    : Prop :=
  match action with
  | .initializeCommon =>
      (initializeSubHals subHal before.mSubHalList).1 = true
      → before.mCurrentOperationMode = .normal
  | .setOperationMode _ | .advance _ => True

variable {subHal}

/-- Agreement is about the list of modes. -/
theorem ModeProxy.modesAgree_iff {proxy : ModeProxy σ}
    : proxy.ModesAgree subHal
      ↔ ∀ mode ∈ proxy.mSubHalList.map subHal.mode, mode = proxy.mCurrentOperationMode := by
  rw [List.forall_mem_map]
  exact Iff.rfl

/-- A request for a mode keeps the sub-HALs agreed, whether it is met or undone. -/
theorem ModeProxy.ModesAgree.setOperationMode {proxy : ModeProxy σ}
    (agree : proxy.ModesAgree subHal) (reliable : subHal.Reliable) (mode : OperationMode)
    : (proxy.setOperationMode subHal.toModalSubHal mode).2.ModesAgree subHal := by
  rcases accepted_or_refused subHal.toModalSubHal mode proxy.mSubHalList with
    accepted | ⟨earlier, state, later, subHals, accepted, refused⟩
  · have moved := reliable.toReliable.modes_of_accepted accepted
    simpa [ModesAgree, ModeProxy.setOperationMode, requestMode_of_accepted accepted] using moved
  · have before : ∀ state ∈ earlier, subHal.mode state = proxy.mCurrentOperationMode :=
      fun state member => agree state (by simp [subHals, member])
    have reset :=
      @ModalSubHal.Reliable.modes_resetModes _ _ reliable.toReliable _ _ _ later _ accepted refused
        before
    rw [modesAgree_iff] at agree ⊢
    rw [subHals, ← reset] at agree
    simpa [ModeProxy.setOperationMode, subHals, requestMode_of_refused accepted refused, refused]
      using agree

/-- After the loop every sub-HAL is in the normal mode, or it has broken off and each one is in
the normal mode or in the one that they all were in; the one that failed is in the latter. By
induction over the sub-HALs.
-/
theorem initializeSubHals_modes (reliable : subHal.Reliable) {current : OperationMode}
    {subHals : List σ} (agree : ∀ state ∈ subHals, subHal.mode state = current)
    : ((initializeSubHals subHal subHals).1 = false
        → ∀ state ∈ (initializeSubHals subHal subHals).2, subHal.mode state = .normal)
      ∧ ((initializeSubHals subHal subHals).1 = true
        → (∀ state ∈ (initializeSubHals subHal subHals).2,
            subHal.mode state = .normal ∨ subHal.mode state = current)
          ∧ ∃ state ∈ (initializeSubHals subHal subHals).2, subHal.mode state = current) := by
  induction subHals with
  | nil => simp [initializeSubHals]
  | cons state rest ih =>
      obtain ⟨here, later⟩ := List.forall_mem_cons.mp agree
      by_cases ok : (subHal.initializeSubHal state).1 = .ok
      · have reset := reliable.resets state ok
        obtain ⟨all, broken⟩ := ih later
        simp only [initializeSubHals, ok, ne_eq, not_true_eq_false, if_false]
        refine ⟨fun whole => List.forall_mem_cons.mpr ⟨reset, all whole⟩, fun failed => ?_⟩
        obtain ⟨each, found, member, mode⟩ := broken failed
        exact ⟨List.forall_mem_cons.mpr ⟨.inl reset, each⟩, found, .tail _ member, mode⟩
      · have kept := (reliable.fails state ok).trans here
        simp only [initializeSubHals, ok, ne_eq, not_false_eq_true, if_true]
        refine ⟨nofun, fun _ => ⟨?_, _, .head _, kept⟩⟩
        exact List.forall_mem_cons.mpr ⟨.inr kept, fun other member => .inr (later other member)⟩

/-- An initialization keeps the sub-HALs agreed exactly when it does not break off in the mode for
injected data.
-/
theorem ModeProxy.ModesAgree.initializeCommon_iff {proxy : ModeProxy σ}
    (agree : proxy.ModesAgree subHal) (reliable : subHal.Reliable)
    : (proxy.initializeCommon subHal).ModesAgree subHal
      ↔ ((initializeSubHals subHal proxy.mSubHalList).1 = true
        → proxy.mCurrentOperationMode = .normal) := by
  obtain ⟨all, broken⟩ := initializeSubHals_modes reliable agree
  constructor
  · intro after failed
    obtain ⟨-, state, member, mode⟩ := broken failed
    exact mode.symm.trans (after state member)
  · intro normal
    cases failed : (initializeSubHals subHal proxy.mSubHalList).1 with
    | false => exact all failed
    | true =>
        intro state member
        rcases (broken failed).1 state member with reset | kept
        · exact reset
        · exact kept.trans (normal failed)

/-- A step keeps the sub-HALs agreed exactly when it is no such initialization. -/
theorem ModeProxy.ModesAgree.step_iff (reliable : subHal.Reliable) {before after : ModeProxy σ}
    {action : ModeAction σ} (agree : before.ModesAgree subHal)
    (taken : (modeMachine subHal).step before action = some after)
    : after.ModesAgree subHal ↔ before.failsInNormal subHal action after := by
  cases action with
  | setOperationMode mode =>
      obtain rfl := Option.some.inj taken
      exact iff_of_true (agree.setOperationMode reliable mode) trivial
  | initializeCommon =>
      obtain rfl := Option.some.inj taken
      exact agree.initializeCommon_iff reliable
  | advance mSubHalList =>
      refine iff_of_true ?_ trivial
      simp only [modeMachine, ModeProxy.step] at taken
      split at taken
      · rename_i same
        obtain rfl := Option.some.inj taken
        rw [modesAgree_iff] at agree ⊢
        rwa [same]
      · cases taken

variable (subHal) in
/-- In every run of requests and initializations, all sub-HALs are always in the mode that the
proxy keeps, exactly when no initialization breaks off in the mode for injected data. So the
rollback of a request that is refused is exact in every run whose initializations succeed.
-/
theorem subHals_agree_iff (reliable : subHal.Reliable) (proxy : ModeProxy σ)
    (agree : proxy.ModesAgree subHal) (actions : List (ModeAction σ))
    : (modeMachine subHal).Always (ModeProxy.ModesAgree subHal) proxy actions
      ↔ (modeMachine subHal).Along (ModeProxy.failsInNormal subHal) proxy actions := by
  refine Machine.always_iff_along (ModeProxy.ModesAgree subHal) (fun _ agree => agree) ?_ ?_ agree
    (Machine.along_true _ _)
  · intro before action after agree taken _ rule
    exact (agree.step_iff reliable taken).mpr rule
  · intro before action after agree taken _ holds
    exact (agree.step_iff reliable taken).mp holds

end Runs

/-- This device's sub-HAL as the proxy calls it, by the whole calls of `run_setOperationMode`. -/
def sensorsSubHal : InitializedSubHal SensorsSubHal where
  mode subHal := subHal.mCurrentOperationMode
  setOperationMode subHal mode := (.ok, subHal.changeMode mode)
  initializeSubHal subHal := (.ok, { subHal with mCallback := true }.changeMode .normal)

theorem sensorsSubHal_reliable : sensorsSubHal.Reliable where
  accepts _ _ _ := rfl
  refuses _ _ refused := absurd rfl refused
  returns _ _ _ := rfl
  resets _ _ := rfl
  fails _ failed := absurd rfl failed

/-- The characterisation for two sub-HALs like this device's, which are put into the mode for
injected data and initialized again.
-/
theorem subHals_agree_iff_sensorsSubHal
    : let screen : Screen := { mScreenX := 0, mScreenY := 0 }
      let subHal := SensorsSubHal.constructed screen false false
      let proxy : ModeProxy SensorsSubHal :=
        { mSubHalList := [subHal, subHal], mCurrentOperationMode := .normal }
      let actions : List (ModeAction SensorsSubHal) :=
        [.setOperationMode .dataInjection, .initializeCommon]
      (modeMachine sensorsSubHal).Always (ModeProxy.ModesAgree sensorsSubHal) proxy actions
        ↔ (modeMachine sensorsSubHal).Along (ModeProxy.failsInNormal sensorsSubHal) proxy actions :=
  subHals_agree_iff sensorsSubHal sensorsSubHal_reliable _
    (by
      intro state member
      simp only [List.mem_cons, List.not_mem_nil, or_false, or_self] at member
      subst member
      rfl)
    _

end PongDevice.Sensors
