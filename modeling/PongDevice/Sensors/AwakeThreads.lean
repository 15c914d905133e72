import PongDevice.Sensors.JoinedThreads
import PongDevice.Sensors.WakelockTimeout

/-! What wakes the proxy's threads while they run. A batch is queued and a reference is taken under
the lock of the thread that waits for it, and the thread is notified before the lock is given back.
-/

namespace PongDevice.Sensors

open Transition

-----------------------------------------------------------------------------------------
-- What the other steps make of a thread's work
-----------------------------------------------------------------------------------------

namespace HalProxy

/-- References are taken only while the threads run. -/
theorem count_increment (proxy : HalProxy) (delta : Nat)
    : (proxy.incrementRefCountAndMaybeAcquireWakelock delta).1.mWakelockRefCount
        = proxy.mWakelockRefCount
      ∨ proxy.mThreadsRun = true := by
  cases running : proxy.mThreadsRun with
  | true => exact .inr rfl
  | false => exact .inl (by simp [incrementRefCountAndMaybeAcquireWakelock, running])

/-- References are given back only while the threads run and there are some. -/
theorem count_decrement (proxy : HalProxy) (delta : Nat) (timeoutStart : Int)
    : (proxy.decrementRefCountAndMaybeReleaseWakelock delta timeoutStart).mWakelockRefCount
        = proxy.mWakelockRefCount
      ∨ proxy.mThreadsRun = true ∧ 0 < proxy.mWakelockRefCount := by
  cases running : proxy.mThreadsRun with
  | true =>
      rcases Nat.eq_zero_or_pos proxy.mWakelockRefCount with none | some
      · have fewer := proxy.mWakelockRefCount_decrement_le delta timeoutStart
        exact .inl (by omega)
      · exact .inr ⟨rfl, some⟩
  | false => exact .inl (by simp [decrementRefCountAndMaybeReleaseWakelock, running])

/-- The drop of a chunk gives references back only if it has wake-up events. -/
theorem count_drop (setup : Setup) (proxy : HalProxy) (pendingWriteEvents : List Event)
    (numWakeupEvents : Nat)
    : (proxy.dropPendingWrites setup pendingWriteEvents numWakeupEvents).mWakelockRefCount
        = proxy.mWakelockRefCount
      ∨ 0 < numWakeupEvents ∧ proxy.mThreadsRun = true ∧ 0 < proxy.mWakelockRefCount := by
  unfold dropPendingWrites
  split
  · rename_i some
    split
    · exact (count_decrement _ _ _).imp_right (fun counted => ⟨some, counted⟩)
    · exact (count_decrement _ _ _).imp_right (fun counted => ⟨some, counted⟩)
  · exact .inl rfl

end HalProxy

namespace System

variable {lookup : Lookup} {before after : System}

/-- The pending queue is changed only by the body of its thread, and by a batch that is queued. -/
theorem queue_step {action : Action} (call : action.initializes = false)
    (other : action.isOfThread ≠ some .pendingWrites)
    (taken : before.step lookup action = some after)
    : after.mPendingWriteEventsQueue = before.mPendingWriteEventsQueue
      ∨ ∃ poster written, action = .postEventsToMessageQueue poster written := by
  cases action with
  | postEventsToMessageQueue poster written => exact .inr ⟨poster, written, rfl⟩
  | stopThreads | joinThreads | disableAllSensors | clearPending | installQueues | startThreads
  | initializeSubHals => cases call
  | enterPostEvents index subHalIndex events =>
      simp only [System.step, enterPostEvents] at taken
      split at taken
      · obtain ⟨_, _, rfl⟩ := Option.map_eq_some_iff.mp taken
        exact .inl rfl
      · cases taken
  | checkThreads poster =>
      obtain ⟨_, _, rfl⟩ := Option.map_eq_some_iff.mp taken
      exact .inl rfl
  | returnPostEvents poster =>
      obtain ⟨call, _, rfl⟩ := Option.map_eq_some_iff.mp taken
      dsimp only
      split
      · obtain ⟨_, _, same⟩ :=
          before.toHalProxy.decrementRefCount_frame 1 call.wakelock.mCreatedAtTimeNs
        exact .inl (by rw [same])
      · exact .inl rfl
  | dynamicSensorsConnected | dynamicSensorsDisconnected =>
      simp only [System.step] at taken
      split at taken
      · obtain rfl := Option.some.inj taken
        exact .inl rfl
      · cases taken
  | proxy action =>
      obtain ⟨proxy, moved, rfl⟩ := stepProxy_eq_some taken
      cases action with
      | postEvents => cases taken
      | takePendingWrites | writeBlocking | popPendingWrites => exact absurd rfl other
      | createScopedWakelock lock =>
          obtain rfl := Option.some.inj moved
          cases lock with
          | false => exact .inl rfl
          | true =>
              obtain ⟨_, _, _, same⟩ := before.toHalProxy.incrementRefCount_frame 1
              exact .inl (by simp only [HalProxy.createScopedWakelock, if_true, same])
      | destroyScopedWakelock index =>
          rcases HalProxy.destroyScopedWakelock_eq_some moved
            with ⟨wakelock, _, ⟨_, rfl⟩ | ⟨_, rfl⟩⟩
          · obtain ⟨_, _, same⟩ :=
              { before.toHalProxy with
                scopedWakelocks := before.scopedWakelocks.eraseIdx index
              }.decrementRefCount_frame 1 wakelock.mCreatedAtTimeNs
            exact .inl (by rw [same])
          · exact .inl rfl
      | checkWakelock => exact .inl (HalProxy.threads_checkWakelock moved).2
      | readWakeLock success => exact .inl (HalProxy.threads_readWakeLock moved).2.2.2
      | readEvents count =>
          obtain ⟨_, rfl⟩ := HalProxy.readEvents_eq_some moved
          exact .inl rfl
      | acknowledge index =>
          obtain ⟨_, _, rfl⟩ := Option.map_eq_some_iff.mp moved
          exact .inl rfl
      | writeWakeLock _ | elapse _ =>
          obtain rfl := Option.some.inj moved
          exact .inl rfl

/-- References are changed only by the body of the wakelock thread, and while the threads run by
those who take or give back references under its lock.
-/
theorem count_step {action : Action} (call : action.initializes = false)
    (other : action.isOfThread ≠ some .wakelock) (taken : before.step lookup action = some after)
    : after.mWakelockRefCount = before.mWakelockRefCount
      ∨ before.mThreadsRun = true
        ∧ (before.increments action = true
          ∨ before.decrements action = true ∧ 0 < before.mWakelockRefCount) := by
  cases action with
  | stopThreads | joinThreads | disableAllSensors | clearPending | installQueues | startThreads
  | initializeSubHals => cases call
  | enterPostEvents index subHalIndex events =>
      simp only [System.step, enterPostEvents] at taken
      split at taken
      · obtain ⟨_, _, rfl⟩ := Option.map_eq_some_iff.mp taken
        exact .inl rfl
      · cases taken
  | checkThreads poster =>
      obtain ⟨_, _, rfl⟩ := Option.map_eq_some_iff.mp taken
      exact .inl rfl
  | postEventsToMessageQueue poster written =>
      obtain ⟨call, here, rfl⟩ := Option.map_eq_some_iff.mp taken
      cases locked : call.wakelock.mLocked with
      | false =>
          refine .inl ?_
          simp only [HalProxy.postEventsToMessageQueue_unlocked]
      | true =>
          simp only [HalProxy.postEventsToMessageQueue_locked,
            HalProxy.postEventsToMessageQueue_unlocked]
          exact (HalProxy.count_increment _ _).imp_right
            (fun running => ⟨running, .inl (by simp [increments, here, locked])⟩)
  | returnPostEvents poster =>
      obtain ⟨call, here, rfl⟩ := Option.map_eq_some_iff.mp taken
      cases locked : call.wakelock.mLocked with
      | false => exact .inl rfl
      | true =>
          exact (before.toHalProxy.count_decrement 1 call.wakelock.mCreatedAtTimeNs).imp_right
            (fun counted => ⟨counted.1, .inr ⟨by simp [decrements, here, locked], counted.2⟩⟩)
  | dynamicSensorsConnected | dynamicSensorsDisconnected =>
      simp only [System.step] at taken
      split at taken
      · obtain rfl := Option.some.inj taken
        exact .inl rfl
      · cases taken
  | proxy action =>
      obtain ⟨proxy, moved, rfl⟩ := stepProxy_eq_some taken
      cases action with
      | postEvents => cases taken
      | checkWakelock | readWakeLock => exact absurd rfl other
      | createScopedWakelock lock =>
          obtain rfl := Option.some.inj moved
          cases lock with
          | false => exact .inl rfl
          | true =>
              exact (before.toHalProxy.count_increment 1).imp_right
                (fun running => ⟨running, .inl rfl⟩)
      | destroyScopedWakelock index =>
          rcases HalProxy.destroyScopedWakelock_eq_some moved
            with ⟨wakelock, found, ⟨locked, rfl⟩ | ⟨_, rfl⟩⟩
          · exact (HalProxy.count_decrement _ 1 wakelock.mCreatedAtTimeNs).imp_right
              (fun counted => ⟨counted.1, .inr ⟨by simp [decrements, found, locked], counted.2⟩⟩)
          · exact .inl rfl
      | takePendingWrites =>
          obtain ⟨_, _, _, _, _, rfl⟩ := HalProxy.takePendingWrites_eq_some moved
          exact .inl rfl
      | writeBlocking written =>
          obtain ⟨numWakeupEvents, _, pendingWriteEvents, _, _, writing, _, outcome⟩ :=
            HalProxy.writeBlocking_eq_some moved
          rcases outcome with ⟨_, _, rfl⟩ | ⟨rfl, rfl⟩
          · exact .inl rfl
          · refine (before.toHalProxy.count_drop before.setup pendingWriteEvents
              numWakeupEvents).imp_right ?_
            rintro ⟨wakeUp, running, counted⟩
            exact ⟨running, .inr ⟨by simp [decrements, writing, wakeUp], counted⟩⟩
      | popPendingWrites =>
          obtain ⟨_, _, _, _, _, _, rfl⟩ := HalProxy.popPendingWrites_eq_some moved
          exact .inl rfl
      | readEvents count =>
          obtain ⟨_, rfl⟩ := HalProxy.readEvents_eq_some moved
          exact .inl rfl
      | acknowledge index =>
          obtain ⟨_, _, rfl⟩ := Option.map_eq_some_iff.mp moved
          exact .inl rfl
      | writeWakeLock _ | elapse _ =>
          obtain rfl := Option.some.inj moved
          exact .inl rfl

/-- Whoever changes the work of a thread has its lock, and notifies it of new work. -/
theorem work_step {action : Action} {thread : ProxyThread} (call : action.initializes = false)
    (other : action.isOfThread ≠ some thread) (taken : before.step lookup action = some after)
    : after.work thread = before.work thread
      ∨ before.takesLock action thread = true
        ∧ (before.work thread = true ∨ before.notifies action after thread = true) := by
  cases thread with
  | pendingWrites =>
      rcases queue_step call other taken with same | ⟨poster, written, rfl⟩
      · exact .inl (by simp only [work, same])
      · cases queue : before.mPendingWriteEventsQueue with
        | cons batch rest => exact .inr ⟨rfl, .inl (by simp [work, queue])⟩
        | nil =>
            cases grown : after.mPendingWriteEventsQueue with
            | nil => exact .inl (by simp [work, queue, grown])
            | cons batch rest => exact .inr ⟨rfl, .inr (by simp [notifies, queue, grown])⟩
  | wakelock =>
      rcases count_step call other taken with same | ⟨running, taken | ⟨givenBack, some⟩⟩
      · exact .inl (by simp only [work, same])
      · refine .inr ⟨by simp [takesLock, running, taken], ?_⟩
        rcases Nat.eq_zero_or_pos before.mWakelockRefCount with none | some
        · exact .inr (by simp [notifies, running, taken, none])
        · exact .inl (by simp [work, some])
      · exact .inr ⟨by simp [takesLock, running, givenBack], .inl (by simp [work, some])⟩

/-- A call of `initialize` queues nothing and takes no references. -/
theorem fewer_initializes {action : Action} (call : action.initializes = true)
    (taken : before.step lookup action = some after)
    : after.mPendingWriteEventsQueue.length ≤ before.mPendingWriteEventsQueue.length
      ∧ after.mWakelockRefCount ≤ before.mWakelockRefCount := by
  cases action with
  | enterPostEvents | checkThreads | postEventsToMessageQueue | returnPostEvents
  | dynamicSensorsConnected | dynamicSensorsDisconnected | proxy => cases call
  | joinThreads =>
      simp only [System.step, joinThreads] at taken
      split at taken
      · obtain rfl := Option.some.inj taken
        have fewer := before.toHalProxy.mWakelockRefCount_decrement_le before.mWakelockRefCount (-1)
        obtain ⟨_, _, same⟩ := before.toHalProxy.resetSharedWakelock_frame
        exact ⟨by simp only [same, Nat.le_refl], fewer⟩
      · cases taken
  | clearPending =>
      simp only [System.step, clearPending] at taken
      split at taken
      · obtain rfl := Option.some.inj taken
        exact ⟨Nat.zero_le _, Nat.le_refl _⟩
      · cases taken
  | stopThreads | disableAllSensors | installQueues | startThreads | initializeSubHals =>
      simp only [System.step, stopThreads, disableAllSensors, installQueues, startThreads,
        initializeSubHals] at taken
      split at taken
      · obtain rfl := Option.some.inj taken
        exact ⟨Nat.le_refl _, Nat.le_refl _⟩
      · cases taken

/-- So it brings no work, and notifies nobody of any. -/
theorem work_initializes {action : Action} (call : action.initializes = true)
    (taken : before.step lookup action = some after) (thread : ProxyThread)
    : (before.work thread = false → after.work thread = false)
      ∧ before.notifies action after thread = false := by
  obtain ⟨queued, counted⟩ := fewer_initializes call taken
  cases thread with
  | pendingWrites =>
      refine ⟨fun idle => ?_, by simpa [notifies] using queued⟩
      simp only [work, Bool.not_eq_false', List.isEmpty_iff] at idle ⊢
      exact List.eq_nil_of_length_eq_zero (by simpa [idle] using queued)
  | wakelock =>
      refine ⟨fun idle => ?_, ?_⟩
      · simp only [work, decide_eq_false_iff_not] at idle ⊢
        omega
      · have none : before.increments action = false := by
          cases action <;> first | rfl | cases call
        simp [notifies, none]

/-- The sub-HALs are handed the proxy in the last step of `initialize`, once and for all. -/
theorem callbacks_step {action : Action} (last : action ≠ .initializeSubHals)
    (taken : before.step lookup action = some after)
    : after.callbacks = before.callbacks := by
  cases call : action.initializes with
  | true =>
      cases action with
      | initializeSubHals => exact absurd rfl last
      | stopThreads | joinThreads | disableAllSensors | clearPending | installQueues
      | startThreads =>
          simp only [System.step, stopThreads, joinThreads, disableAllSensors, clearPending,
            installQueues, startThreads] at taken
          split at taken
          · obtain rfl := Option.some.inj taken
            rfl
          · cases taken
      | enterPostEvents | checkThreads | postEventsToMessageQueue | returnPostEvents
      | dynamicSensorsConnected | dynamicSensorsDisconnected | proxy => cases call
  | false =>
      cases ofThread : action.isOfThread with
      | none => exact (undisturbed call ofThread taken).callbacks
      | some thread =>
          cases action with
          | proxy action =>
              obtain ⟨_, _, rfl⟩ := stepProxy_eq_some taken
              rfl
          | _ => cases ofThread

/-- The threads run for the sub-HALs from their start on, until they are stopped. -/
theorem handed_step {action : Action} (started : action ≠ .startThreads)
    (taken : before.step lookup action = some after)
    (handed : after.callbacks = true ∨ after.initializer = .started)
    : before.callbacks = true ∨ before.initializer = .started := by
  by_cases last : action = .initializeSubHals
  · subst last
    exact .inr (phases_step rfl taken).1
  · rw [callbacks_step last taken] at handed
    refine handed.imp_right (fun isStarted => ?_)
    cases phases : action.phases with
    | none => rw [← (same_phase phases taken).1, isStarted]
    | some phase =>
        obtain ⟨was, is, -⟩ := phases_step phases taken
        rw [isStarted] at is
        cases action with
        | startThreads => exact absurd rfl started
        | initializeSubHals => exact absurd rfl last
        | stopThreads | joinThreads | disableAllSensors | clearPending | installQueues =>
            obtain rfl := Option.some.inj phases
            cases is
        | enterPostEvents | checkThreads | postEventsToMessageQueue | returnPostEvents
        | dynamicSensorsConnected | dynamicSensorsDisconnected | proxy => cases phases

/-- While the threads run on, a call of `initialize` leaves their work. -/
theorem work_of_running {action : Action} (call : action.initializes = true)
    (started : action ≠ .startThreads)
    (off : before.initializer.stopped = true → before.mThreadsRun = false)
    (taken : before.step lookup action = some after) (running : before.mThreadsRun = true)
    (still : after.mThreadsRun = true) (thread : ProxyThread)
    : after.work thread = before.work thread := by
  have runs : before.initializer.stopped = false :=
    Bool.eq_false_iff.mpr (fun stopped => by simp [off stopped] at running)
  cases phases : action.phases with
  | none =>
      cases action with
      | stopThreads | joinThreads | disableAllSensors | clearPending | installQueues | startThreads
      | initializeSubHals => cases phases
      | enterPostEvents | checkThreads | postEventsToMessageQueue | returnPostEvents
      | dynamicSensorsConnected | dynamicSensorsDisconnected | proxy => cases call
  | some phase =>
      obtain ⟨first, last⟩ := phase
      obtain ⟨was, -, becomes⟩ := phases_step phases taken
      rw [was] at runs
      cases action with
      | startThreads => exact absurd rfl started
      | stopThreads =>
          rw [still] at becomes
          cases becomes
      | initializeSubHals =>
          simp only [System.step, initializeSubHals] at taken
          split at taken
          · obtain rfl := Option.some.inj taken
            cases thread <;> rfl
          · cases taken
      | joinThreads | disableAllSensors | clearPending | installQueues =>
          obtain ⟨rfl, rfl⟩ := Prod.mk.inj (Option.some.inj phases)
          cases runs
      | enterPostEvents | checkThreads | postEventsToMessageQueue | returnPostEvents
      | dynamicSensorsConnected | dynamicSensorsDisconnected | proxy => cases phases

end System

-----------------------------------------------------------------------------------------
-- The threads and their work
-----------------------------------------------------------------------------------------

namespace ThreadedSystem

variable {lookup : Lookup} {before after : ThreadedSystem}

/-- No thread sleeps, or is about to, while it has work; a thread that has left its wait has some,
unless it is stopped; and none is at its end once the threads run for the sub-HALs.
-/
structure Attends (state : ThreadedSystem) : Prop where
  off : state.system.initializer.stopped = true → state.system.mThreadsRun = false
  awake : ∀ thread, (state.points thread).sleeps = true → state.system.work thread = false
  woken
    : state.system.mThreadsRun = true
      → ∀ thread, state.points thread = .woken → state.system.work thread = true
  live
    : state.system.mThreadsRun = true
      → state.system.callbacks = true ∨ state.system.initializer = .started
      → ∀ thread, state.points thread ≠ .exited

theorem attends_constructed (subHals : List (List SensorInfo)) (setup : Setup) (now : Int)
    : (constructed subHals setup now).Attends where
  off := by simp [constructed, System.constructed, Initializer.stopped]
  awake thread sleeps := by cases sleeps
  woken _ thread woken := by cases woken
  live _ handed := by simp [constructed, System.constructed] at handed

/-- A step that takes a thread's lock finds it free. -/
theorem free_of_admits {action : System.Action} {thread : ProxyThread}
    (admitted : before.admits action = true)
    (takes : before.system.takesLock action thread = true)
    : (before.points thread).holdsLock = false := by
  unfold admits at admitted
  split at admitted
  · cases thread <;> simp [System.takesLock, System.increments, System.decrements] at takes
  · cases thread <;> simp [System.takesLock, System.increments, System.decrements] at takes
  · cases thread <;> simp [System.takesLock, System.increments, System.decrements] at takes
  · have each := List.all_eq_true.mp admitted thread (by cases thread <;> simp [ProxyThread.all])
    simpa [takes] using each

/-- A step that is not in a thread's body, and does not start it, only notifies it. -/
theorem pointsAfter_other {action : System.Action} {system : System} {thread : ProxyThread}
    (other : action.isOfThread ≠ some thread) (started : action ≠ .startThreads)
    : before.pointsAfter action system thread
      = if before.system.notifies action system thread then (before.points thread).notify
        else before.points thread := by
  unfold pointsAfter
  split
  · exact absurd rfl other
  · exact absurd rfl other
  · exact absurd rfl other
  · exact absurd rfl other
  · exact absurd rfl started
  · rfl

/-- A step in a thread's body leaves it there or takes it back to the test of its loop. -/
theorem pointsAfter_body {action : System.Action} {system : System} {thread : ProxyThread}
    (loops : before.Loops) (ofThread : action.isOfThread = some thread)
    (admitted : before.admits action = true)
    (taken : before.system.step lookup action = some system)
    : before.pointsAfter action system thread = .busy
      ∨ before.pointsAfter action system thread = .looping := by
  have runs := loops.runsBody ofThread admitted taken
  cases action with
  | proxy action =>
      obtain ⟨proxy, moved, rfl⟩ := System.stepProxy_eq_some taken
      cases action with
      | createScopedWakelock | postEvents | destroyScopedWakelock | readEvents | acknowledge
      | writeWakeLock | elapse => cases ofThread
      | takePendingWrites =>
          obtain rfl := Option.some.inj ofThread
          exact .inl rfl
      | writeBlocking written =>
          obtain rfl := Option.some.inj ofThread
          obtain ⟨-, -, ⟨_, done⟩, -⟩ := HalProxy.threads_writeBlocking moved
          exact .inl (runs.busy.mpr (by simp [System.rest, done]))
      | popPendingWrites =>
          obtain rfl := Option.some.inj ofThread
          exact .inr rfl
      | checkWakelock =>
          obtain rfl := Option.some.inj ofThread
          simp only [pointsAfter]
          split
          · exact .inl rfl
          · exact .inr rfl
      | readWakeLock success =>
          obtain rfl := Option.some.inj ofThread
          exact .inr rfl
  | stopThreads | joinThreads | disableAllSensors | clearPending | installQueues | startThreads
  | initializeSubHals | enterPostEvents | checkThreads | postEventsToMessageQueue
  | returnPostEvents | dynamicSensorsConnected | dynamicSensorsDisconnected => cases ofThread

/-- A step that lets a thread sleep leaves it without work: whoever brings work finds it awake, or
asleep, and notifies it.
-/
theorem Attends.sleeps_other {action : System.Action} {system : System} {thread : ProxyThread}
    (attends : before.Attends) (other : action.isOfThread ≠ some thread)
    (started : action ≠ .startThreads) (admitted : before.admits action = true)
    (taken : before.system.step lookup action = some system)
    (sleeps : (before.pointsAfter action system thread).sleeps = true)
    : system.work thread = false := by
  have slept : (before.points thread).sleeps = true := by
    by_contra awake
    rw [sleeps_pointsAfter (Bool.eq_false_iff.mpr awake)] at sleeps
    cases sleeps
  have idle := attends.awake thread slept
  cases call : action.initializes with
  | true => exact (System.work_initializes call taken thread).1 idle
  | false =>
      rcases System.work_step call other taken with same | ⟨takes, busy | notifies⟩
      · exact same.trans idle
      · rw [idle] at busy
        cases busy
      · have free := free_of_admits admitted takes
        rw [pointsAfter_other other started, if_pos notifies, WaitPoint.sleeps_notify] at sleeps
        rw [sleeps] at free
        cases free

/-- A thread that has left its wait keeps its work, for it has the lock. -/
theorem Attends.woken_other {action : System.Action} {system : System} {thread : ProxyThread}
    (attends : before.Attends) (other : action.isOfThread ≠ some thread)
    (started : action ≠ .startThreads) (admitted : before.admits action = true)
    (taken : before.system.step lookup action = some system)
    (running : before.system.mThreadsRun = true) (still : system.mThreadsRun = true)
    (woken : before.points thread = .woken)
    : system.work thread = true := by
  have busy := attends.woken running thread woken
  cases call : action.initializes with
  | true =>
      exact (System.work_of_running call started attends.off taken running still thread).trans busy
  | false =>
      rcases System.work_step call other taken with same | ⟨takes, -⟩
      · exact same.trans busy
      · have free := free_of_admits admitted takes
        rw [woken] at free
        cases free

/-- A step of the proxy keeps the threads at their work, by whose step it is. -/
theorem Attends.system {action : System.Action} {system : System} (attends : before.Attends)
    (loops : before.Loops) (admitted : before.admits action = true)
    (taken : before.system.step lookup action = some system)
    : Attends
        {
          system
          points := before.pointsAfter action system
          notified := before.notifiedAfter action
        } := by
  obtain ⟨off, stays⟩ := System.stopped_step attends.off taken
  have ran (started : action ≠ .startThreads) (running : system.mThreadsRun = true)
      : before.system.mThreadsRun = true := by
    by_contra stopped
    rw [stays started (Bool.eq_false_iff.mpr stopped)] at running
    cases running
  -- A thread is in its body or at the start of its loop, or the step is another one's.
  have outcome (thread : ProxyThread)
      : ((before.pointsAfter action system thread).sleeps = false
          ∧ before.pointsAfter action system thread ≠ .woken
          ∧ before.pointsAfter action system thread ≠ .exited)
        ∨ action.isOfThread ≠ some thread ∧ action ≠ .startThreads := by
    by_cases own : action.isOfThread = some thread
    · left
      rcases pointsAfter_body loops own admitted taken with here | here
      · rw [here]
        decide
      · rw [here]
        decide
    · by_cases started : action = .startThreads
      · subst started
        exact .inl ⟨rfl, by simp [pointsAfter], by simp [pointsAfter]⟩
      · exact .inr ⟨own, started⟩
  exact {
    off
    awake := by
      intro thread (sleeps : (before.pointsAfter action system thread).sleeps = true)
      rcases outcome thread with ⟨awake, -⟩ | ⟨other, started⟩
      · rw [awake] at sleeps
        cases sleeps
      · exact attends.sleeps_other other started admitted taken sleeps
    woken := by
      intro running thread (woken : before.pointsAfter action system thread = .woken)
      rcases outcome thread with ⟨-, elsewhere, -⟩ | ⟨other, started⟩
      · exact absurd woken elsewhere
      · refine attends.woken_other other started admitted taken (ran started running) running ?_
        rcases pointsAfter_of_other other started with same | same
        · exact WaitPoint.notify_eq_woken.mp (same.symm.trans woken)
        · exact same.symm.trans woken
    live := by
      intro running handed thread (exited : before.pointsAfter action system thread = .exited)
      rcases outcome thread with ⟨-, -, elsewhere⟩ | ⟨other, started⟩
      · exact absurd exited elsewhere
      · exact attends.live (ran started running) (System.handed_step started taken handed) thread
          ((pointsAfter_eq_exited other started).mp exited)
  }

/-- A thread that goes elsewhere by itself sleeps only without work, wakes to some and ends only if
it is stopped.
-/
theorem Attends.moved {thread : ProxyThread} {point : WaitPoint} {notified : ProxyThread → Bool}
    (attends : before.Attends)
    (sleeps : point.sleeps = true → before.system.work thread = false)
    (woken : before.system.mThreadsRun = true → point = .woken → before.system.work thread = true)
    (exited
      : before.system.mThreadsRun = true → point = .exited → before.points thread = .exited)
    : Attends { before.move thread point with notified } where
  off := attends.off
  awake := by
    intro other here
    simp only [move] at here
    split at here
    · rename_i same
      exact same ▸ sleeps here
    · exact attends.awake other here
  woken := by
    intro running other here
    simp only [move] at here
    split at here
    · rename_i same
      exact same ▸ woken running here
    · exact attends.woken running other here
  live := by
    intro running handed other here
    simp only [move] at here
    split at here
    · exact attends.live running handed thread (exited running here)
    · exact attends.live running handed other here

/-- Every step keeps the threads at their work, by its kinds. -/
theorem Attends.step {action : Action} (attends : before.Attends) (loops : before.Loops)
    (taken : (threadedMachine lookup).step before action = some after)
    : after.Attends := by
  cases action with
  | system action =>
      simp only [threadedMachine, ThreadedSystem.step] at taken
      split at taken
      · rename_i admitted
        obtain ⟨system, moved, rfl⟩ := Option.map_eq_some_iff.mp taken
        exact attends.system loops admitted moved
      · cases taken
  | advance thread =>
      obtain ⟨point, advanced, rfl⟩ := Option.map_eq_some_iff.mp taken
      obtain ⟨sleeping, leaving, ending⟩ := WaitPoint.advance_outcome advanced
      refine attends.moved ?_ ?_ ?_
      · exact fun sleeps => (sleeping sleeps).elim id (attends.awake thread)
      · intro running woken
        exact (leaving woken).resolve_right (by simp [running])
      · intro running exited
        rw [ending exited] at running
        cases running
  | wake thread =>
      simp only [threadedMachine, ThreadedSystem.step] at taken
      split at taken
      · obtain rfl := Option.some.inj taken
        exact attends.moved (fun sleeps => by cases sleeps) (fun _ woken => by cases woken)
          (fun _ exited => by cases exited)
      · cases taken
  | notify thread =>
      simp only [threadedMachine, ThreadedSystem.step, notify] at taken
      split at taken
      · obtain rfl := Option.some.inj taken
        refine attends.moved ?_ ?_ ?_
        · intro sleeps
          refine attends.awake thread ?_
          rw [(WaitPoint.sleeps_notify _).mp sleeps]
          rfl
        · exact fun running woken =>
            attends.woken running thread (WaitPoint.notify_eq_woken.mp woken)
        · exact fun _ exited => WaitPoint.notify_eq_exited.mp exited
      · cases taken

-----------------------------------------------------------------------------------------
-- That work is taken up
-----------------------------------------------------------------------------------------

/-- A step of the thread, in its body or outside it. -/
def Action.isOf (thread : ProxyThread) : Action → Bool
  | .advance other => other = thread
  | .system action => action.isOfThread = some thread
  | .wake _ | .notify _ => false

/-- The thread can take a step. -/
def CanStep (lookup : Lookup) (state : ThreadedSystem) (thread : ProxyThread) : Prop :=
  ∃ action : Action,
    action.isOf thread = true ∧ ((threadedMachine lookup).step state action).isSome = true

/-- A thread with work does not sleep. While the threads run for the sub-HALs it can go on, or else
the wakelock thread can, which has the lock that it waits for.
-/
def Served (lookup : Lookup) (state : ThreadedSystem) : Prop :=
  ∀ thread, state.system.work thread = true
    → (state.points thread).sleeps = false
      ∧ (state.system.mThreadsRun = true → state.system.callbacks = true
        → state.CanStep lookup thread
          ∨ (state.points .wakelock).holdsLock = true ∧ state.CanStep lookup .wakelock)

/-- A thread that has its lock lets go of it: behind the wait, by its body. -/
theorem Attends.canStep {thread : ProxyThread} (attends : before.Attends) (loops : before.Loops)
    (running : before.system.mThreadsRun = true) (handed : before.system.callbacks = true)
    (holds : (before.points thread).holdsLock = true)
    : before.CanStep lookup thread := by
  cases here : before.points thread with
  | starting | asleep | busy | exited =>
      rw [here] at holds
      cases holds
  | looping | testing | falling =>
      refine ⟨.advance thread, by simp [Action.isOf], ?_⟩
      simp [threadedMachine, ThreadedSystem.step, here, WaitPoint.advance]
  | woken =>
      have work := attends.woken running thread here
      have outside : before.system.rest thread = 0 :=
        Nat.eq_zero_of_not_pos (mt (loops.busy thread).mpr (by simp [here]))
      cases thread with
      | pendingWrites =>
          have waiting := System.rest_pendingWrites.mp outside
          cases queue : before.system.mPendingWriteEventsQueue with
          | nil => simp [System.work, queue] at work
          | cons batch rest =>
              refine ⟨.system (.proxy .takePendingWrites), rfl, ?_⟩
              simp [threadedMachine, ThreadedSystem.step, admits, here, System.step,
                System.stepProxy, handed, HalProxy.step, HalProxy.takePendingWrites, waiting, queue,
                running]
      | wakelock =>
          have waiting := System.rest_wakelock.mp outside
          have counted : 0 < before.system.mWakelockRefCount := by simpa [System.work] using work
          refine ⟨.system (.proxy .checkWakelock), rfl, ?_⟩
          simp only [threadedMachine, ThreadedSystem.step, admits, here, decide_true, if_true,
            System.step, System.stepProxy, handed, HalProxy.step, HalProxy.checkWakelock, waiting,
            counted, running, and_self]
          split <;> rfl

/-- Wherever a thread with work stands, it or the holder of the wakelock thread's lock goes on. -/
theorem Attends.served (attends : before.Attends) (loops : before.Loops)
    : before.Served lookup := by
  intro thread work
  have awake : (before.points thread).sleeps = false := by
    by_contra sleeps
    rw [attends.awake thread (Bool.not_eq_false _ ▸ sleeps)] at work
    cases work
  refine ⟨awake, fun running handed => ?_⟩
  have held {thread : ProxyThread} (holds : (before.points thread).holdsLock = true)
      : before.CanStep lookup thread :=
    attends.canStep loops running handed holds
  cases here : before.points thread with
  | starting =>
      refine .inl ⟨.advance thread, by simp [Action.isOf], ?_⟩
      simp [threadedMachine, ThreadedSystem.step, here, WaitPoint.advance]
  | looping | testing | woken => exact .inl (held (by rw [here]; rfl))
  | falling | asleep =>
      rw [here] at awake
      cases awake
  | exited => exact absurd here (attends.live running (.inl handed) thread)
  | busy =>
      cases lock : (before.points .wakelock).holdsLock with
      | true => exact .inr ⟨rfl, held lock⟩
      | false =>
          obtain ⟨action, ofThread, taken⟩ := loops.goesOn here (.inr lock)
          exact .inl ⟨.system action, by simp [Action.isOf, ofThread], taken⟩

end ThreadedSystem

/-- In every run of the proxy with its threads, over any number of calls of `initialize`, a thread
that a batch or a reference waits for neither sleeps nor is about to, and is not stuck while the
threads run for the sub-HALs.
-/
theorem queued_work_served (lookup : Lookup) (subHals : List (List SensorInfo)) (setup : Setup)
    (now : Int) (actions : List ThreadedSystem.Action)
    : (threadedMachine lookup).Always (ThreadedSystem.Served lookup)
        (.constructed subHals setup now) actions :=
  Machine.Always.of_invariant
    (fun state : ThreadedSystem => state.Attends ∧ state.Loops)
    (fun _ kept => kept.1.served kept.2)
    (fun _ _ _ kept taken _ => ⟨kept.1.step kept.2 taken, kept.2.step taken⟩)
    ⟨ThreadedSystem.attends_constructed subHals setup now,
      ThreadedSystem.loops_constructed subHals setup now⟩
    (Machine.along_true _ _)

-- A batch that does not fit is queued while the pending writes thread sleeps.
example
    : let setup : Setup :=
        {
          quantumCount := 1
          kMaxSizePendingWriteEventsQueue := 100000
          kWakelockTimeoutNs := 5000000000
        }
      let event : Event :=
        { timestamp := 0, sensorHandle := 1, sensorType := .other 1, u := 0 }
      ((threadedMachine SensorTable.touch).run (.constructed [] setup 0)
        [.system .stopThreads, .notify .wakelock, .notify .pendingWrites, .system .joinThreads,
          .system .disableAllSensors, .system .clearPending, .system (.installQueues 1),
          .system .startThreads, .system .initializeSubHals, .advance .pendingWrites,
          .advance .pendingWrites, .advance .pendingWrites, .advance .pendingWrites,
          .system (.proxy (.createScopedWakelock false)),
          .system (.enterPostEvents 0 0 [event, event]), .system (.checkThreads 0),
          .system (.postEventsToMessageQueue 0 true)]).map (fun state =>
            (state.points .pendingWrites, state.system.work .pendingWrites))
        = some (.testing, true) := by
  decide

end PongDevice.Sensors
