import PongDevice.Sensors.HalProxy

/-! The kernel wake lock and the reference count. The lock is taken when the count is found
at 0 and released when the count comes down to 0, so the two part only when a lock is taken
for no reference.
-/

namespace PongDevice.Sensors

open Transition

namespace HalProxy

/-- The kernel wake lock is held exactly while references are counted. -/
def HoldsExactly (proxy : HalProxy) : Prop :=
  proxy.wakeLockHeld = true ↔ 0 < proxy.mWakelockRefCount

instance : DecidablePred HoldsExactly :=
  fun _ => inferInstanceAs (Decidable (_ ↔ _))

/-- A batch that is posted with a locked wakelock and keeps no wake-up event finds references
counted already.
-/
def PostsOverReferences (before : HalProxy) (action : Action) (_ : HalProxy) : Prop :=
  match action with
  | .postEvents index subHalIndex events _ =>
      (before.scopedWakelocks[index]?).any (·.mLocked) = true
      → events ≠ []
      → (processEvents before.mSensors subHalIndex events).2 = 0
      → 0 < before.mWakelockRefCount
  | _ => True

/-- Taking references keeps the lock exact unless none is taken over a count of 0. -/
theorem HoldsExactly.increment_iff {proxy : HalProxy} (exact : proxy.HoldsExactly)
    (running : proxy.mThreadsRun = true) (delta : Nat)
    : (proxy.incrementRefCountAndMaybeAcquireWakelock delta).1.HoldsExactly
      ↔ (delta = 0 → 0 < proxy.mWakelockRefCount) := by
  unfold HoldsExactly at exact
  simp only [incrementRefCount_eq running, HoldsExactly]
  by_cases zero : proxy.mWakelockRefCount = 0
  · simp only [zero, if_true, true_iff]
    omega
  · simp only [zero, if_false, exact]
    omega

/-- Giving references back releases the lock with the last one. -/
theorem HoldsExactly.decrement {proxy : HalProxy} (exact : proxy.HoldsExactly)
    (delta : Nat) (timeoutStart : Int)
    : (proxy.decrementRefCountAndMaybeReleaseWakelock delta timeoutStart).HoldsExactly := by
  unfold decrementRefCountAndMaybeReleaseWakelock
  dsimp only
  split
  · by_cases stale : proxy.mWakelockRefCount = 0
        ∨ (if timeoutStart = -1 then proxy.mWakelockTimeoutResetTime else timeoutStart)
          < proxy.mWakelockTimeoutResetTime
    · rw [if_pos stale]
      exact exact
    · rw [if_neg stale]
      unfold HoldsExactly at exact ⊢
      have counted : 0 < proxy.mWakelockRefCount := by omega
      by_cases last : proxy.mWakelockRefCount - min proxy.mWakelockRefCount delta = 0
      · simp [last]
      · simp only [last, if_false, exact]
        omega
  · exact exact

/-- A reset drops the lock together with every reference. -/
theorem HoldsExactly.reset {proxy : HalProxy} (exact : proxy.HoldsExactly)
    : proxy.resetSharedWakelock.HoldsExactly :=
  exact.decrement proxy.mWakelockRefCount (-1)

/-- Creating a locked wakelock takes a reference. -/
theorem HoldsExactly.createScopedWakelock {proxy : HalProxy} (exact : proxy.HoldsExactly)
    (running : proxy.mThreadsRun = true) (lock : Bool)
    : (proxy.createScopedWakelock lock).HoldsExactly := by
  cases lock with
  | true => exact (exact.increment_iff running 1).mpr (by simp)
  | false => exact exact

/-- Giving a chunk up gives its references back. -/
theorem HoldsExactly.dropPendingWrites {setup : Setup} {proxy : HalProxy}
    (exact : proxy.HoldsExactly) (pendingWriteEvents : List Event) (numWakeupEvents : Nat)
    : (proxy.dropPendingWrites setup pendingWriteEvents numWakeupEvents).HoldsExactly := by
  have counted : { proxy with
        mSensors := (countNumWakeupEvents proxy.mSensors pendingWriteEvents
          setup.quantumCount).2
      }.HoldsExactly :=
    exact
  unfold HalProxy.dropPendingWrites
  split
  · split
    · exact counted.decrement _ _
    · exact exact.decrement _ _
  · exact exact

/-- Queueing a batch without a locked wakelock touches neither the count nor the lock. -/
theorem HoldsExactly.post_iff {setup : Setup} {proxy : HalProxy} {events : List Event}
    {numWakeupEvents : Nat} {written : Bool}
    : (proxy.postEventsToMessageQueue setup events numWakeupEvents false
          written).HoldsExactly
      ↔ proxy.HoldsExactly := by
  rw [postEventsToMessageQueue_unlocked]
  exact Iff.rfl

/-- A step keeps the lock exact exactly when it does not post over a count of 0. -/
theorem HoldsExactly.step_iff {setup : Setup} {before after : HalProxy} {action : Action}
    (exact : before.HoldsExactly) (running : before.mThreadsRun = true)
    (taken : (halProxyMachine setup).step before action = some after)
    : after.HoldsExactly ↔ before.PostsOverReferences action after := by
  cases action with
  | createScopedWakelock lock =>
      obtain rfl := Option.some.inj taken
      exact iff_of_true (exact.createScopedWakelock running lock) trivial
  | postEvents index subHalIndex events written =>
      rcases postEvents_eq_some taken with ⟨wakelock, found, _, ⟨idle, rfl⟩ | ⟨busy, _, rfl⟩⟩
      · refine iff_of_true exact (fun _ busy => ?_)
        simp [busy, running] at idle
      · have moved : (before.moveWakelock index wakelock).HoldsExactly := exact
        cases locked : wakelock.mLocked with
        | false =>
            exact iff_of_true (HoldsExactly.post_iff.mpr moved)
              (by simp [PostsOverReferences, found, locked])
        | true =>
            rw [postEventsToMessageQueue_locked, HoldsExactly.post_iff,
              moved.increment_iff running]
            simp [PostsOverReferences, found, locked, busy]
  | destroyScopedWakelock index =>
      have erased : { before with
            scopedWakelocks := before.scopedWakelocks.eraseIdx index
          }.HoldsExactly :=
        exact
      rcases destroyScopedWakelock_eq_some taken with ⟨wakelock, _, ⟨_, rfl⟩ | ⟨_, rfl⟩⟩
      · exact iff_of_true (erased.decrement 1 wakelock.mCreatedAtTimeNs) trivial
      · exact iff_of_true erased trivial
  | takePendingWrites =>
      obtain ⟨_, _, _, _, _, rfl⟩ := takePendingWrites_eq_some taken
      exact iff_of_true exact trivial
  | writeBlocking written =>
      rcases writeBlocking_eq_some taken with
        ⟨numWakeupEvents, _, pendingWriteEvents, _, _, _, _, ⟨_, _, rfl⟩ | ⟨_, rfl⟩⟩
      · exact iff_of_true exact trivial
      · exact iff_of_true (exact.dropPendingWrites pendingWriteEvents numWakeupEvents) trivial
  | popPendingWrites =>
      obtain ⟨_, _, _, _, _, _, rfl⟩ := popPendingWrites_eq_some taken
      exact iff_of_true exact trivial
  | checkWakelock =>
      rcases checkWakelock_eq_some taken with ⟨_, rfl⟩ | ⟨_, rfl⟩
      · exact iff_of_true exact.reset trivial
      · exact iff_of_true exact trivial
  | readWakeLock success =>
      rcases readWakeLock_eq_some taken with ⟨numWakeLocksProcessed, queue, _, rfl⟩ | rfl
      · have taken : { before with
              mWakeLockQueue := queue
              wakelockThread := .waiting
            }.HoldsExactly :=
          exact
        exact iff_of_true (taken.decrement numWakeLocksProcessed (-1)) trivial
      · exact iff_of_true exact trivial
  | readEvents count =>
      obtain ⟨_, rfl⟩ := readEvents_eq_some taken
      exact iff_of_true exact trivial
  | acknowledge index =>
      obtain ⟨_, _, rfl⟩ := Option.map_eq_some_iff.mp taken
      exact iff_of_true exact trivial
  | writeWakeLock _ | elapse _ =>
      obtain rfl := Option.some.inj taken
      exact iff_of_true exact trivial

end HalProxy

/-- In a run of the proxy the kernel wake lock is always held exactly while references are
counted, exactly when no batch without wake-up events is posted with a locked wakelock while
none are.
-/
theorem holdsExactly_iff (setup : Setup) (mSensors : SensorTable) (now : Int)
    (actions : List HalProxy.Action)
    : (halProxyMachine setup).Always HalProxy.HoldsExactly (.initialized mSensors now) actions
      ↔ (halProxyMachine setup).Along HalProxy.PostsOverReferences
          (.initialized mSensors now) actions := by
  have assumed
      : (halProxyMachine setup).Along (fun _ _ _ => True) (.initialized mSensors now) actions :=
    Machine.along_true _ _
  refine Machine.always_iff_along
    (fun proxy : HalProxy => proxy.HoldsExactly ∧ proxy.mThreadsRun = true)
    (fun _ sound => sound.1) ?_ ?_
    ⟨by simp [HalProxy.HoldsExactly, HalProxy.initialized], rfl⟩ assumed
  · intro before action after sound taken _ rule
    obtain ⟨exact, running⟩ := sound
    exact ⟨(exact.step_iff running taken).mpr rule,
      (HalProxy.mThreadsRun_step taken).trans running⟩
  · intro before action after sound taken _ holds
    obtain ⟨exact, running⟩ := sound
    exact (exact.step_iff running taken).mp holds

/-- A sample of the pick-up sensor, which the filter drops. -/
def idleSample : Event :=
  { timestamp := 0, sensorHandle := 5, sensorType := .pickUpGesture, u := 0 }

/-- A locked wakelock whose reference a timeout resets before it is posted with a batch that
the filter empties: the kernel wake lock is taken for no reference.
-/
theorem holdsExactly_fails_filtered
    : ¬(halProxyMachine
          {
            quantumCount := 1
            kMaxSizePendingWriteEventsQueue := 100000
            kWakelockTimeoutNs := 5000000000
          }).Always HalProxy.HoldsExactly
        (.initialized (SensorList.initializeSensorList [[wristTiltSensor]]).mSensors 0)
        [.createScopedWakelock true, .elapse 5000000001, .checkWakelock,
          .postEvents 0 0 [idleSample] true] := by
  decide +kernel

end PongDevice.Sensors
