import Mathlib.Data.Int.Order.Basic
import PongDevice.Sensors.Initialize
import PongDevice.Sensors.WakelockHold

/-! How long the shared wake lock is held without an acknowledgement. The wakelock thread waits for
one as long as the timeout leaves it, and then gives all references back. It may be late by a
latency whenever it could go on, and the lock is held for the timeout and two latencies at most.
-/

namespace PongDevice.Sensors

open Transition

namespace HalProxy

variable {setup : Setup} {before after : HalProxy}

-----------------------------------------------------------------------------------------
-- The times that a step changes
-----------------------------------------------------------------------------------------

/-- The nanoseconds that pass in a step. -/
def Action.nanos : Action → Nat
  | .elapse nanos => nanos
  | _ => 0

/-- A step of the wakelock thread. -/
def Action.ofWakelockThread : Action → Bool
  | .checkWakelock | .readWakeLock _ => true
  | _ => false

/-- Without the wakelock thread a step leaves it where it is, and references are only taken
together with a new start of the timeout.
-/
structure Clocks (before : HalProxy) (action : Action) (after : HalProxy) : Prop where
  now : after.now = before.now + action.nanos
  wakelockThread : after.wakelockThread = before.wakelockThread
  start
    : after.mWakelockTimeoutStartTime = before.now
      ∨ after.mWakelockTimeoutStartTime = before.mWakelockTimeoutStartTime
        ∧ after.mWakelockRefCount ≤ before.mWakelockRefCount

/-- Giving references back takes none. -/
theorem mWakelockRefCount_decrement_le (proxy : HalProxy) (delta : Nat) (timeoutStart : Int)
    : (proxy.decrementRefCountAndMaybeReleaseWakelock delta timeoutStart).mWakelockRefCount
      ≤ proxy.mWakelockRefCount := by
  unfold decrementRefCountAndMaybeReleaseWakelock
  by_cases running : proxy.mThreadsRun = true
  · rw [if_pos running]
    by_cases stale : proxy.mWakelockRefCount = 0
        ∨ (if timeoutStart = -1 then proxy.mWakelockTimeoutResetTime else timeoutStart)
          < proxy.mWakelockTimeoutResetTime
    · simp only [if_pos stale, Nat.le_refl]
    · simp only [if_neg stale, Nat.sub_le]
  · simp only [if_neg running, Nat.le_refl]

/-- Neither does the drop of a chunk that could not be written. -/
theorem mWakelockRefCount_drop_le (setup : Setup) (proxy : HalProxy)
    (pendingWriteEvents : List Event) (numWakeupEvents : Nat)
    : (proxy.dropPendingWrites setup pendingWriteEvents numWakeupEvents).mWakelockRefCount
      ≤ proxy.mWakelockRefCount := by
  unfold dropPendingWrites
  split
  · split
    · exact mWakelockRefCount_decrement_le _ _ _
    · exact proxy.mWakelockRefCount_decrement_le _ _
  · exact Nat.le_refl _

/-- A step that leaves the times and takes no reference. -/
theorem Clocks.steady {action : Action} (instant : action.nanos = 0)
    (now : after.now = before.now) (thread : after.wakelockThread = before.wakelockThread)
    (start : after.mWakelockTimeoutStartTime = before.mWakelockTimeoutStartTime)
    (count : after.mWakelockRefCount ≤ before.mWakelockRefCount)
    : Clocks before action after where
  now := by simp [now, instant]
  wakelockThread := thread
  start := .inr ⟨start, count⟩

/-- The times after a step of anything but the wakelock thread, by its kinds. -/
theorem clocks_step {action : Action} (running : before.mThreadsRun = true)
    (other : action.ofWakelockThread = false)
    (taken : (halProxyMachine setup).step before action = some after)
    : Clocks before action after := by
  cases action with
  | checkWakelock | readWakeLock => cases other
  | createScopedWakelock lock =>
      obtain rfl := Option.some.inj taken
      cases lock with
      | true =>
          rw [createScopedWakelock, if_pos rfl, incrementRefCount_eq running]
          exact { now := by simp [Action.nanos], wakelockThread := rfl, start := .inl rfl }
      | false => exact .steady rfl rfl rfl rfl (Nat.le_refl _)
  | postEvents index subHalIndex events written =>
      rcases postEvents_eq_some taken with ⟨wakelock, _, _, ⟨_, rfl⟩ | ⟨_, _, rfl⟩⟩
      · exact .steady rfl rfl rfl rfl (Nat.le_refl _)
      · cases locked : wakelock.mLocked with
        | false =>
            rw [postEventsToMessageQueue_unlocked]
            exact .steady rfl rfl rfl rfl (Nat.le_refl _)
        | true =>
            rw [postEventsToMessageQueue_locked, postEventsToMessageQueue_unlocked,
              incrementRefCount_eq (by exact running)]
            exact { now := by simp [Action.nanos], wakelockThread := rfl, start := .inl rfl }
  | destroyScopedWakelock index =>
      rcases destroyScopedWakelock_eq_some taken with ⟨wakelock, _, ⟨_, rfl⟩ | ⟨_, rfl⟩⟩
      · have less :=
          { before with
            scopedWakelocks := before.scopedWakelocks.eraseIdx index
          }.mWakelockRefCount_decrement_le 1 wakelock.mCreatedAtTimeNs
        obtain ⟨_, _, same⟩ :=
          { before with
            scopedWakelocks := before.scopedWakelocks.eraseIdx index
          }.decrementRefCount_frame 1 wakelock.mCreatedAtTimeNs
        rw [same] at less ⊢
        exact .steady rfl rfl rfl rfl less
      · exact .steady rfl rfl rfl rfl (Nat.le_refl _)
  | takePendingWrites =>
      obtain ⟨_, _, _, _, _, rfl⟩ := takePendingWrites_eq_some taken
      exact .steady rfl rfl rfl rfl (Nat.le_refl _)
  | writeBlocking written =>
      rcases writeBlocking_eq_some taken with
        ⟨numWakeupEvents, _, pendingWriteEvents, _, _, _, _, ⟨_, _, rfl⟩ | ⟨_, rfl⟩⟩
      · exact .steady rfl rfl rfl rfl (Nat.le_refl _)
      · have less := mWakelockRefCount_drop_le setup before pendingWriteEvents numWakeupEvents
        obtain ⟨_, _, same⟩ :=
          before.dropPendingWrites_frame setup pendingWriteEvents numWakeupEvents
        rw [same] at less ⊢
        exact .steady rfl rfl rfl rfl less
  | popPendingWrites =>
      obtain ⟨_, _, _, _, _, _, rfl⟩ := popPendingWrites_eq_some taken
      exact .steady rfl rfl rfl rfl (Nat.le_refl _)
  | readEvents count =>
      obtain ⟨_, rfl⟩ := readEvents_eq_some taken
      exact .steady rfl rfl rfl rfl (Nat.le_refl _)
  | acknowledge index =>
      obtain ⟨_, _, rfl⟩ := Option.map_eq_some_iff.mp taken
      exact .steady rfl rfl rfl rfl (Nat.le_refl _)
  | writeWakeLock _ =>
      obtain rfl := Option.some.inj taken
      exact .steady rfl rfl rfl rfl (Nat.le_refl _)
  | elapse nanos =>
      obtain rfl := Option.some.inj taken
      exact { now := rfl, wakelockThread := rfl, start := .inr ⟨rfl, Nat.le_refl _⟩ }

/-- A look at the wake lock gives back all references, or leaves the thread in its read before the
time is up.
-/
theorem clocks_checkWakelock (taken : before.checkWakelock setup = some after)
    : (after.wakelockThread = .waiting ∧ after.mWakelockRefCount = 0
          ∨ after.wakelockThread = .reading
            ∧ before.now ≤ before.mWakelockTimeoutStartTime + setup.kWakelockTimeoutNs)
      ∧ after.now = before.now
      ∧ after.mWakelockTimeoutStartTime = before.mWakelockTimeoutStartTime := by
  have outcome := checkWakelock_eq_some taken
  unfold checkWakelock at taken
  split at taken
  · rename_i guard
    obtain ⟨waiting, -, running⟩ := guard
    rcases outcome with ⟨_, rfl⟩ | ⟨live, rfl⟩
    · have none : before.resetSharedWakelock.mWakelockRefCount = 0 := by
        rw [resetSharedWakelock]
        exact (mWakelockRefCount_decrement running (.inl rfl) _).trans (Nat.sub_self _)
      obtain ⟨_, _, same⟩ := before.resetSharedWakelock_frame
      rw [same] at none ⊢
      exact ⟨.inl ⟨waiting, none⟩, rfl, rfl⟩
    · refine ⟨.inr ⟨rfl, ?_⟩, rfl, rfl⟩
      simp only [sharedWakelockDidTimeout, decide_eq_false_iff_not] at live
      omega
  · cases taken

/-- The read returns in the time that it does, and the thread waits again. -/
theorem clocks_readWakeLock {success : Bool} (taken : before.readWakeLock success = some after)
    : before.wakelockThread = .reading
      ∧ after.wakelockThread = .waiting
      ∧ after.now = before.now
      ∧ after.mWakelockTimeoutStartTime = before.mWakelockTimeoutStartTime := by
  have outcome := readWakeLock_eq_some taken
  unfold readWakeLock at taken
  have reading : before.wakelockThread = .reading := by
    split at taken
    · assumption
    · assumption
    · cases taken
  rcases outcome with ⟨processed, queue, _, rfl⟩ | rfl
  · obtain ⟨_, _, same⟩ :=
      { before with
        mWakeLockQueue := queue
        wakelockThread := .waiting
      }.decrementRefCount_frame processed (-1)
    rw [same]
    exact ⟨reading, rfl, rfl, rfl⟩
  · exact ⟨reading, rfl, rfl, rfl⟩

-----------------------------------------------------------------------------------------
-- The thread in time
-----------------------------------------------------------------------------------------

/-- The wakelock thread is in its read, or there is something for it to look at. -/
def hasWork (proxy : HalProxy) : Bool :=
  proxy.wakelockThread = .reading ∨ 0 < proxy.mWakelockRefCount

/-- The time at which the thread can go on: at once while it waits, and in its read when the time
that was left is over. A time of 0 has the read wait for ever.
-/
def noteDue (setup : Setup) (due : Option Int) (before : HalProxy) (action : Action) (_ : HalProxy)
    : Option Int :=
  match action with
  | .checkWakelock =>
      if before.now = before.mWakelockTimeoutStartTime + setup.kWakelockTimeoutNs then none
      else some (before.mWakelockTimeoutStartTime + setup.kWakelockTimeoutNs)
  | .readWakeLock _ => some before.now
  | _ => if before.hasWork then due else some before.now

/-- The thread is late by the latency at most, and does not look at the very moment that leaves it
a time of 0.
-/
def Punctual (setup : Setup) (latency : Nat) (before : HalProxy × Option Int) (action : Action)
    (_ : HalProxy × Option Int)
    : Prop :=
  match action with
  | .checkWakelock =>
      before.1.now ≠ before.1.mWakelockTimeoutStartTime + setup.kWakelockTimeoutNs
  | .elapse nanos =>
      before.1.hasWork = true → ∀ due ∈ before.2, before.1.now + nanos ≤ due + latency
  | _ => True

instance (latency : Nat) (before after : HalProxy × Option Int) (action : Action)
    : Decidable (Punctual setup latency before action after) := by
  unfold Punctual
  split <;> infer_instance

instance (before after : HalProxy) (action : Action)
    : Decidable (before.PostsOverReferences action after) := by
  unfold PostsOverReferences
  split <;> infer_instance

/-- While it has work, the thread is not much later than due, which is not much later than the end
of the timeout.
-/
structure Timed (setup : Setup) (latency : Nat) (proxy : HalProxy) (due : Option Int) : Prop where
  running : proxy.mThreadsRun = true
  exact : proxy.HoldsExactly
  started : proxy.mWakelockTimeoutStartTime ≤ proxy.now
  due
    : proxy.hasWork = true
      → ∃ time,
          due = some time
          ∧ proxy.now ≤ time + latency
          ∧ (proxy.wakelockThread = .reading
            → time ≤ proxy.mWakelockTimeoutStartTime + setup.kWakelockTimeoutNs)
          ∧ time ≤ proxy.mWakelockTimeoutStartTime + setup.kWakelockTimeoutNs + latency

variable {latency : Nat} {due : Option Int}

/-- A thread that waits without references has nothing to do. -/
theorem hasWork_eq_false {proxy : HalProxy} (waiting : proxy.wakelockThread = .waiting)
    (none : proxy.mWakelockRefCount = 0)
    : proxy.hasWork = false := by
  simp [hasWork, waiting, none]

/-- Without work the thread waits, and no reference is counted. -/
theorem of_hasWork_eq_false {proxy : HalProxy} (idle : proxy.hasWork = false)
    : proxy.wakelockThread = .waiting ∧ proxy.mWakelockRefCount = 0 := by
  simp only [hasWork, decide_eq_false_iff_not, not_or, Nat.not_lt, Nat.le_zero] at idle
  refine ⟨?_, idle.2⟩
  cases thread : proxy.wakelockThread with
  | waiting => rfl
  | reading => exact absurd thread idle.1

/-- The time that passes is within the latency. -/
theorem Timed.elapse (timed : before.Timed setup latency due) (nanos : Nat)
    (punctual
      : before.hasWork = true → ∀ time ∈ due, before.now + nanos ≤ time + latency)
    : Timed setup latency { before with now := before.now + nanos }
        (if before.hasWork then due else some before.now) where
  running := timed.running
  exact := timed.exact
  started := by
    have started := timed.started
    dsimp only
    omega
  due working := by
    have work : before.hasWork = true := working
    obtain ⟨time, found, -, reading, late⟩ := timed.due work
    exact ⟨time, by rw [if_pos work, found], punctual work time found, reading, late⟩

/-- A step in no time keeps the thread in time: where it brings work, the timeout starts with it. -/
theorem Timed.instant {action : Action} (timed : before.Timed setup latency due)
    (positive : 0 ≤ setup.kWakelockTimeoutNs) (clocks : Clocks before action after)
    (instant : action.nanos = 0) (running : after.mThreadsRun = true) (exact : after.HoldsExactly)
    : Timed setup latency after (if before.hasWork then due else some before.now) where
  running := running
  exact := exact
  started := by
    have now := clocks.now
    have started := timed.started
    rw [instant] at now
    rcases clocks.start with same | ⟨same, -⟩ <;> omega
  due working := by
    have now := clocks.now
    have started := timed.started
    rw [instant] at now
    cases work : before.hasWork with
    | true =>
        obtain ⟨time, found, late, reading, bound⟩ := timed.due work
        refine ⟨time, by rw [if_pos rfl, found], by omega, ?_, ?_⟩
        · intro still
          have earlier := reading (clocks.wakelockThread ▸ still)
          rcases clocks.start with same | ⟨same, -⟩ <;> omega
        · rcases clocks.start with same | ⟨same, -⟩ <;> omega
    | false =>
        obtain ⟨waiting, none⟩ := of_hasWork_eq_false work
        have still : after.wakelockThread = .waiting := clocks.wakelockThread.trans waiting
        rcases clocks.start with same | ⟨-, fewer⟩
        · refine ⟨before.now, by rw [if_neg Bool.false_ne_true], by omega, ?_, by omega⟩
          intro reading
          rw [still] at reading
          cases reading
        · have idle := hasWork_eq_false still (by omega)
          rw [idle] at working
          cases working

/-- Every step keeps the thread in time, by the steps of the thread, of time and of all others. -/
theorem Timed.step {action : Action} (timed : before.Timed setup latency due)
    (positive : 0 ≤ setup.kWakelockTimeoutNs)
    (taken : (halProxyMachine setup).step before action = some after)
    (punctual
      : Punctual setup latency (before, due) action
          (after, noteDue setup due before action after))
    (posts : before.PostsOverReferences action after)
    : after.Timed setup latency (noteDue setup due before action after) := by
  have running : after.mThreadsRun = true := (mThreadsRun_step taken).trans timed.running
  have exact : after.HoldsExactly := (timed.exact.step_iff timed.running taken).mpr posts
  have started := timed.started
  cases action with
  | checkWakelock =>
      obtain ⟨outcome, now, start⟩ := clocks_checkWakelock taken
      refine { running, exact, started := by omega, due := fun working => ?_ }
      rcases outcome with ⟨waiting, none⟩ | ⟨reading, left⟩
      · rw [hasWork_eq_false waiting none] at working
        cases working
      · exact ⟨_, if_neg punctual, by omega, fun _ => by omega, by omega⟩
  | readWakeLock success =>
      obtain ⟨reading, waiting, now, start⟩ := clocks_readWakeLock taken
      obtain ⟨time, -, late, bound, -⟩ := timed.due (by simp [hasWork, reading])
      have inTime := bound reading
      refine { running, exact, started := by omega, due := fun _ => ?_ }
      refine ⟨before.now, rfl, by omega, ?_, by omega⟩
      intro still
      rw [waiting] at still
      cases still
  | elapse nanos =>
      obtain rfl := Option.some.inj taken
      exact timed.elapse nanos punctual
  | createScopedWakelock | postEvents | destroyScopedWakelock | takePendingWrites | writeBlocking
  | popPendingWrites | readEvents | acknowledge | writeWakeLock =>
      exact timed.instant positive (clocks_step timed.running rfl taken) rfl running exact

end HalProxy

end PongDevice.Sensors
