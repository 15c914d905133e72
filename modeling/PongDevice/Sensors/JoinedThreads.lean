import PongDevice.Sensors.StopThreads

/-! The joins of `stopThreads`. Once both threads have been notified and do not sleep, each has a
few steps left to its end, and it can take them whatever else is going on.
-/

namespace PongDevice.Sensors

open Transition

-----------------------------------------------------------------------------------------
-- The bodies of the loops
-----------------------------------------------------------------------------------------

theorem ProxyThread.exists_other (thread : ProxyThread) : ∃ other, other ≠ thread := by
  cases thread with
  | pendingWrites => exact ⟨.wakelock, nofun⟩
  | wakelock => exact ⟨.pendingWrites, nofun⟩

/-- How many steps of its body a thread has left. -/
def System.rest (system : System) : ProxyThread → Nat
  | .pendingWrites =>
      match system.pendingWritesThread with
      | .waiting => 0
      | .writing _ _ => 2
      | .written _ => 1
  | .wakelock =>
      match system.wakelockThread with
      | .waiting => 0
      | .reading => 1

theorem System.rest_pendingWrites {system : System}
    : system.rest .pendingWrites = 0 ↔ system.pendingWritesThread = .waiting := by
  simp only [rest]
  cases system.pendingWritesThread <;> simp

theorem System.rest_wakelock {system : System}
    : system.rest .wakelock = 0 ↔ system.wakelockThread = .waiting := by
  simp only [rest]
  cases system.wakelockThread <;> simp

/-- A blocking read ends the body of the wakelock thread. -/
theorem HalProxy.threads_readWakeLock {before after : HalProxy} {success : Bool}
    (taken : before.readWakeLock success = some after)
    : before.wakelockThread = .reading
      ∧ after.wakelockThread = .waiting
      ∧ after.pendingWritesThread = before.pendingWritesThread
      ∧ after.mPendingWriteEventsQueue = before.mPendingWriteEventsQueue := by
  unfold readWakeLock at taken
  split at taken
  · rename_i processed queue reading _
    obtain rfl := Option.some.inj taken
    obtain ⟨_, _, same⟩ :=
      { before with
        mWakeLockQueue := queue
        wakelockThread := .waiting
      }.decrementRefCount_frame processed (-1)
    rw [same]
    exact ⟨reading, rfl, rfl, rfl⟩
  · rename_i reading
    obtain rfl := Option.some.inj taken
    exact ⟨reading, rfl, rfl, rfl⟩
  · cases taken

/-- A blocking write leaves the batch in front and the other thread where it is. -/
theorem HalProxy.threads_writeBlocking {setup : Setup} {before after : HalProxy} {written : Bool}
    (taken : before.writeBlocking setup written = some after)
    : (∃ numWakeupEvents numToWrite,
        before.pendingWritesThread = .writing numWakeupEvents numToWrite)
      ∧ before.mPendingWriteEventsQueue ≠ []
      ∧ (∃ numToWrite, after.pendingWritesThread = .written numToWrite)
      ∧ after.wakelockThread = before.wakelockThread
      ∧ after.mPendingWriteEventsQueue = before.mPendingWriteEventsQueue := by
  obtain ⟨numWakeupEvents, numToWrite, pendingWriteEvents, _, _, writing, queue, outcome⟩ :=
    HalProxy.writeBlocking_eq_some taken
  refine ⟨⟨_, _, writing⟩, by simp [queue], ?_⟩
  rcases outcome with ⟨_, _, rfl⟩ | ⟨_, rfl⟩
  · exact ⟨⟨_, rfl⟩, rfl, rfl⟩
  · obtain ⟨_, _, same⟩ := before.dropPendingWrites_frame setup pendingWriteEvents numWakeupEvents
    rw [same]
    exact ⟨⟨_, rfl⟩, rfl, rfl⟩

/-- A look at the wake lock leaves the other thread and its queue. -/
theorem HalProxy.threads_checkWakelock {setup : Setup} {before after : HalProxy}
    (taken : before.checkWakelock setup = some after)
    : after.pendingWritesThread = before.pendingWritesThread
      ∧ after.mPendingWriteEventsQueue = before.mPendingWriteEventsQueue := by
  rcases HalProxy.checkWakelock_eq_some taken with ⟨_, rfl⟩ | ⟨_, rfl⟩
  · obtain ⟨_, _, same⟩ := before.resetSharedWakelock_frame
    rw [same]
    exact ⟨rfl, rfl⟩
  · exact ⟨rfl, rfl⟩

/-- The bodies run once the sub-HALs have been handed the proxy. -/
theorem System.callbacks_of_body {before after : System} {action : HalProxy.Action}
    {thread : ProxyThread} (ofThread : action.isOfThread = some thread)
    (taken : before.stepProxy action = some after)
    : before.callbacks = true := by
  by_contra fresh
  cases action with
  | createScopedWakelock | postEvents | destroyScopedWakelock | readEvents | acknowledge
  | writeWakeLock | elapse => cases ofThread
  | takePendingWrites | writeBlocking | popPendingWrites | checkWakelock | readWakeLock =>
      simp only [stepProxy, if_neg fresh] at taken
      cases taken

namespace ThreadedSystem

/-- A thread is in its body exactly when the proxy has it there, which it does only between the
calls of `initialize`, with a batch in front if it writes.
-/
structure Loops (state : ThreadedSystem) : Prop where
  busy : ∀ thread, state.points thread = .busy ↔ 0 < state.system.rest thread
  handed : ∀ thread, state.points thread = .busy → state.system.callbacks = true
  queued : state.points .pendingWrites = .busy → state.system.mPendingWriteEventsQueue ≠ []
  ended
    : state.system.initializer.stopped = true → state.system.initializer ≠ .stopping
      → ∀ thread, state.points thread = .exited

theorem loops_constructed (subHals : List (List SensorInfo)) (setup : Setup) (now : Int)
    : (constructed subHals setup now).Loops where
  busy thread := by cases thread <;> exact ⟨nofun, nofun⟩
  handed _ := nofun
  queued := nofun
  ended := nofun

variable {lookup : Lookup} {before after : ThreadedSystem}

/-- A thread that moves outside its body changes nothing. -/
theorem Loops.congr {points : ProxyThread → WaitPoint} {notified : ProxyThread → Bool}
    (loops : before.Loops)
    (busy : ∀ thread, points thread = .busy ↔ before.points thread = .busy)
    (exited : ∀ thread, before.points thread = .exited → points thread = .exited)
    : Loops { system := before.system, points, notified } where
  busy thread := (busy thread).trans (loops.busy thread)
  handed thread here := loops.handed thread ((busy thread).mp here)
  queued here := loops.queued ((busy .pendingWrites).mp here)
  ended stopped joined thread := exited thread (loops.ended stopped joined thread)

/-- The thread of a step in a body was not at its end; the step is taken once the sub-HALs have been
handed the proxy, and leaves the phase and the other thread.
-/
structure RunsBody (before : ThreadedSystem) (action : System.Action) (thread : ProxyThread)
    (after : System)
    : Prop where
  callbacks : before.system.callbacks = true
  callbacksAfter : after.callbacks = true
  initializer : after.initializer = before.system.initializer
  other : ∀ other ≠ thread, after.rest other = before.system.rest other
  here : before.points thread ≠ .exited
  busy : before.pointsAfter action after thread = .busy ↔ 0 < after.rest thread
  queued
    : before.pointsAfter action after .pendingWrites = .busy → after.mPendingWriteEventsQueue ≠ []

/-- Wherever a step is not its own, a thread stays or is notified. -/
theorem pointsAfter_of_other {action : System.Action} {system : System} {thread : ProxyThread}
    (other : action.isOfThread ≠ some thread) (started : action ≠ .startThreads)
    : before.pointsAfter action system thread = (before.points thread).notify
      ∨ before.pointsAfter action system thread = before.points thread := by
  unfold pointsAfter
  split
  · exact absurd rfl other
  · exact absurd rfl other
  · exact absurd rfl other
  · exact absurd rfl other
  · exact absurd rfl started
  · split
    · exact .inl rfl
    · exact .inr rfl

theorem pointsAfter_eq_busy {action : System.Action} {system : System} {thread : ProxyThread}
    (other : action.isOfThread ≠ some thread) (started : action ≠ .startThreads)
    : before.pointsAfter action system thread = .busy ↔ before.points thread = .busy := by
  rcases pointsAfter_of_other other started with same | same
  · rw [same, WaitPoint.notify_eq_busy]
  · rw [same]

theorem pointsAfter_eq_exited {action : System.Action} {system : System} {thread : ProxyThread}
    (other : action.isOfThread ≠ some thread) (started : action ≠ .startThreads)
    : before.pointsAfter action system thread = .exited ↔ before.points thread = .exited := by
  rcases pointsAfter_of_other other started with same | same
  · rw [same, WaitPoint.notify_eq_exited]
  · rw [same]

/-- A step in the body of the pending writes thread, which leaves the other one. -/
theorem RunsBody.pendingWrites {action : HalProxy.Action} {proxy : HalProxy}
    (handed : before.system.callbacks = true) (here : before.points .pendingWrites ≠ .exited)
    (wakelockThread : proxy.wakelockThread = before.system.wakelockThread)
    (busy
      : before.pointsAfter (.proxy action) { before.system with toHalProxy := proxy } .pendingWrites
          = .busy
        ↔ proxy.pendingWritesThread ≠ .waiting)
    (queued : proxy.pendingWritesThread ≠ .waiting → proxy.mPendingWriteEventsQueue ≠ [])
    : before.RunsBody (.proxy action) .pendingWrites
        { before.system with toHalProxy := proxy } where
  callbacks := handed
  callbacksAfter := handed
  initializer := rfl
  other := fun
    | .wakelock, _ => by simp only [System.rest, wakelockThread]
    | .pendingWrites, different => absurd rfl different
  here := here
  busy := by rw [busy, Nat.pos_iff_ne_zero, ne_eq, ne_eq, System.rest_pendingWrites]
  queued := fun stays => queued (busy.mp stays)

/-- A step in the body of the wakelock thread, which leaves the other one and its queue. -/
theorem RunsBody.wakelock {action : HalProxy.Action} {proxy : HalProxy} (loops : before.Loops)
    (ofThread : System.Action.isOfThread (.proxy action) = some .wakelock)
    (handed : before.system.callbacks = true) (here : before.points .wakelock ≠ .exited)
    (others
      : proxy.pendingWritesThread = before.system.pendingWritesThread
        ∧ proxy.mPendingWriteEventsQueue = before.system.mPendingWriteEventsQueue)
    (busy
      : before.pointsAfter (.proxy action) { before.system with toHalProxy := proxy } .wakelock
          = .busy
        ↔ proxy.wakelockThread ≠ .waiting)
    : before.RunsBody (.proxy action) .wakelock { before.system with toHalProxy := proxy } where
  callbacks := handed
  callbacksAfter := handed
  initializer := rfl
  other := fun
    | .pendingWrites, _ => by simp only [System.rest, others.1]
    | .wakelock, different => absurd rfl different
  here := here
  busy := by rw [busy, Nat.pos_iff_ne_zero, ne_eq, ne_eq, System.rest_wakelock]
  queued := by
    intro stays
    have elsewhere : System.Action.isOfThread (.proxy action) ≠ some .pendingWrites := by
      rw [ofThread]
      nofun
    have busyBefore := (pointsAfter_eq_busy elsewhere (by nofun)).mp stays
    exact others.2 ▸ loops.queued busyBefore

/-- The body of either thread, step by step. -/
theorem Loops.runsBody {action : System.Action} {system : System} {thread : ProxyThread}
    (loops : before.Loops) (ofThread : action.isOfThread = some thread)
    (admitted : before.admits action = true)
    (taken : before.system.step lookup action = some system)
    : before.RunsBody action thread system := by
  have inBody {thread : ProxyThread} (positive : 0 < before.system.rest thread)
      : before.points thread ≠ .exited := by
    rw [(loops.busy thread).mpr positive]
    nofun
  cases action with
  | proxy action =>
      have handed : before.system.callbacks = true := System.callbacks_of_body ofThread taken
      obtain ⟨proxy, moved, rfl⟩ := System.stepProxy_eq_some taken
      cases action with
      | createScopedWakelock | postEvents | destroyScopedWakelock | readEvents | acknowledge
      | writeWakeLock | elapse => cases ofThread
      | takePendingWrites =>
          obtain rfl := Option.some.inj ofThread
          obtain ⟨_, _, _, _, queue, rfl⟩ := HalProxy.takePendingWrites_eq_some moved
          refine .pendingWrites handed ?_ rfl (by simp [pointsAfter]) (fun _ => by simp [queue])
          exact fun exited => by simp [admits, exited] at admitted
      | writeBlocking written =>
          obtain rfl := Option.some.inj ofThread
          obtain ⟨⟨_, _, writing⟩, queued, ⟨_, done⟩, wakelockThread, queue⟩ :=
            HalProxy.threads_writeBlocking moved
          have positive : 0 < before.system.rest .pendingWrites := by
            simp [System.rest, writing]
          refine .pendingWrites handed (inBody positive) wakelockThread ?_
            (fun _ => queue ▸ queued)
          have here := (loops.busy _).mpr positive
          refine iff_of_true ?_ (by simp [done])
          simp only [pointsAfter, here]
          split <;> rfl
      | popPendingWrites =>
          obtain rfl := Option.some.inj ofThread
          obtain ⟨_, _, _, _, written, _, rfl⟩ := HalProxy.popPendingWrites_eq_some moved
          refine .pendingWrites handed (inBody ?_) rfl (by simp [pointsAfter]) (by simp)
          simp [System.rest, written]
      | checkWakelock =>
          obtain rfl := Option.some.inj ofThread
          have woken : before.points .wakelock = .woken := by
            simpa [admits] using admitted
          refine .wakelock loops rfl handed ?_ (HalProxy.threads_checkWakelock moved) ?_
          · rw [woken]
            nofun
          · simp only [pointsAfter]
            cases proxy.wakelockThread <;> decide
      | readWakeLock success =>
          obtain rfl := Option.some.inj ofThread
          obtain ⟨reading, waiting, others⟩ := HalProxy.threads_readWakeLock moved
          refine .wakelock loops rfl handed (inBody ?_) others (by simp [pointsAfter, waiting])
          simp [System.rest, reading]
  | stopThreads | joinThreads | disableAllSensors | clearPending | installQueues | startThreads
  | initializeSubHals | enterPostEvents | checkThreads | postEventsToMessageQueue
  | returnPostEvents | dynamicSensorsConnected | dynamicSensorsDisconnected => cases ofThread

/-- A step in a body keeps the bodies. -/
theorem Loops.step_body {action : System.Action} {system : System} {thread : ProxyThread}
    (loops : before.Loops) (ofThread : action.isOfThread = some thread)
    (runs : before.RunsBody action thread system)
    : Loops
        {
          system
          points := before.pointsAfter action system
          notified := before.notifiedAfter action
        } := by
  have started : action ≠ .startThreads := by
    rintro rfl
    cases ofThread
  have different {other : ProxyThread} (apart : other ≠ thread)
      : action.isOfThread ≠ some other := by
    rw [ofThread]
    exact fun same => apart (Option.some.inj same).symm
  exact {
    busy := by
      intro other
      by_cases same : other = thread
      · subst same
        exact runs.busy
      · rw [pointsAfter_eq_busy (different same) started, runs.other other same]
        exact loops.busy other
    handed := fun _ _ => runs.callbacksAfter
    queued := runs.queued
    ended := by
      intro stopped joined
      rw [runs.initializer] at stopped joined
      exact absurd (loops.ended stopped joined thread) runs.here
  }

/-- A step of another one that leaves the bodies, and starts no threads, keeps the bodies. -/
theorem Loops.steady {action : System.Action} {system : System} (loops : before.Loops)
    (ofThread : action.isOfThread = none) (started : action ≠ .startThreads)
    (rest : ∀ thread, system.rest thread = before.system.rest thread)
    (callbacks : before.system.callbacks = true → system.callbacks = true)
    (queued
      : before.points .pendingWrites = .busy → before.system.mPendingWriteEventsQueue ≠ []
        → system.mPendingWriteEventsQueue ≠ [])
    (ended
      : system.initializer.stopped = true → system.initializer ≠ .stopping
        → ∀ thread, before.points thread = .exited)
    : Loops
        {
          system
          points := before.pointsAfter action system
          notified := before.notifiedAfter action
        } := by
  have elsewhere (thread : ProxyThread) : action.isOfThread ≠ some thread := by
    rw [ofThread]
    nofun
  have busy (thread : ProxyThread)
      : before.pointsAfter action system thread = .busy ↔ before.points thread = .busy :=
    pointsAfter_eq_busy (elsewhere thread) started
  exact {
    busy := fun thread => by rw [busy thread, rest thread]; exact loops.busy thread
    handed := fun thread here => callbacks (loops.handed thread ((busy thread).mp here))
    queued := fun here =>
      queued ((busy .pendingWrites).mp here) (loops.queued ((busy .pendingWrites).mp here))
    ended := fun stopped joined thread =>
      (pointsAfter_eq_exited (elsewhere thread) started).mpr (ended stopped joined thread)
  }

/-- A step of another one keeps the bodies, by whether it is one of `initializeCommon`. -/
theorem Loops.step_other {action : System.Action} {system : System} (loops : before.Loops)
    (ofThread : action.isOfThread = none) (admitted : before.admits action = true)
    (taken : before.system.step lookup action = some system)
    : Loops
        {
          system
          points := before.pointsAfter action system
          notified := before.notifiedAfter action
        } := by
  cases call : action.initializes with
  | false =>
      have same := System.undisturbed call ofThread taken
      refine loops.steady ofThread (by rintro rfl; cases call) ?_ ?_ ?_ ?_
      · intro thread
        cases thread with
        | pendingWrites => simp only [System.rest, same.pendingWritesThread]
        | wakelock => simp only [System.rest, same.wakelockThread]
      · exact fun handed => same.callbacks.trans handed
      · intro _ queued empty
        exact queued (List.prefix_nil.mp (empty ▸ same.mPendingWriteEventsQueue))
      · rw [same.initializer]
        exact loops.ended
  | true =>
      cases action with
      | enterPostEvents | checkThreads | postEventsToMessageQueue | returnPostEvents
      | dynamicSensorsConnected | dynamicSensorsDisconnected | proxy => cases call
      | startThreads =>
          simp only [System.step, System.startThreads] at taken
          split at taken
          · obtain rfl := Option.some.inj taken
            exact {
              busy := fun thread => by cases thread <;> simp [pointsAfter, System.rest]
              handed := fun _ here => by cases here
              queued := fun here => by cases here
              ended := fun stopped => by cases stopped
            }
          · cases taken
      | joinThreads =>
          have exited (thread : ProxyThread) : before.points thread = .exited := by
            simp only [admits, ProxyThread.all, List.all_cons, List.all_nil, Bool.and_true,
              Bool.and_eq_true, decide_eq_true_eq] at admitted
            cases thread with
            | pendingWrites => exact admitted.1.2
            | wakelock => exact admitted.2.2
          simp only [System.step, System.joinThreads] at taken
          split at taken
          · obtain rfl := Option.some.inj taken
            obtain ⟨_, _, same⟩ := before.system.toHalProxy.resetSharedWakelock_frame
            refine loops.steady rfl (by simp) ?_ id ?_ (fun _ _ => exited)
            · intro thread
              cases thread <;> simp only [System.rest, same]
            · exact fun _ queued => by simpa only [same] using queued
          · cases taken
      | clearPending =>
          simp only [System.step, System.clearPending] at taken
          split at taken
          · rename_i phase
            obtain rfl := Option.some.inj taken
            have exited : ∀ thread, before.points thread = .exited :=
              loops.ended (by rw [phase]; rfl) (by simp [phase])
            refine loops.steady rfl (by simp) (fun thread => by cases thread <;> rfl) id ?_
              (fun _ _ => exited)
            intro busy
            rw [exited] at busy
            cases busy
          · cases taken
      | stopThreads =>
          simp only [System.step, System.stopThreads] at taken
          split at taken
          · obtain rfl := Option.some.inj taken
            exact loops.steady rfl (by simp) (fun thread => by cases thread <;> rfl) id
              (fun _ queued => queued) (fun _ stopping => absurd rfl stopping)
          · cases taken
      | initializeSubHals =>
          simp only [System.step, System.initializeSubHals] at taken
          split at taken
          · obtain rfl := Option.some.inj taken
            exact loops.steady rfl (by simp) (fun thread => by cases thread <;> rfl) (fun _ => rfl)
              (fun _ queued => queued) (fun stopped => by cases stopped)
          · cases taken
      | disableAllSensors | installQueues =>
          simp only [System.step, System.disableAllSensors, System.installQueues] at taken
          split at taken
          · rename_i phase
            obtain rfl := Option.some.inj taken
            refine loops.steady rfl (by simp) (fun thread => by cases thread <;> rfl) id
              (fun _ queued => queued)
              (fun _ _ => loops.ended (by rw [phase]; rfl) (by simp [phase]))
          · cases taken

/-- Every step keeps the bodies, by the kinds of steps. -/
theorem Loops.step {action : Action} (loops : before.Loops)
    (taken : (threadedMachine lookup).step before action = some after)
    : after.Loops := by
  cases action with
  | system action =>
      simp only [threadedMachine, ThreadedSystem.step] at taken
      split at taken
      · rename_i admitted
        obtain ⟨system, moved, rfl⟩ := Option.map_eq_some_iff.mp taken
        cases ofThread : action.isOfThread with
        | some thread => exact loops.step_body ofThread (loops.runsBody ofThread admitted moved)
        | none => exact loops.step_other ofThread admitted moved
      · cases taken
  | advance thread =>
      obtain ⟨point, advanced, rfl⟩ := Option.map_eq_some_iff.mp taken
      obtain ⟨notBusy, notExited, outside⟩ := WaitPoint.advance_eq_some advanced
      refine loops.congr (fun other => ?_) (fun other exited => ?_)
      · split
        · rename_i same
          subst same
          exact ⟨fun busy => absurd busy outside, fun busy => absurd busy notBusy⟩
        · exact Iff.rfl
      · split
        · rename_i same
          subst same
          exact absurd exited notExited
        · exact exited
  | wake thread =>
      simp only [threadedMachine, ThreadedSystem.step] at taken
      split at taken
      · rename_i asleep
        obtain rfl := Option.some.inj taken
        refine loops.congr (fun other => ?_) (fun other exited => ?_)
        · split
          · rename_i same
            subst same
            simp [asleep]
          · exact Iff.rfl
        · split
          · rename_i same
            subst same
            rw [asleep] at exited
            cases exited
          · exact exited
      · cases taken
  | notify thread =>
      simp only [threadedMachine, ThreadedSystem.step, notify] at taken
      split at taken
      · obtain rfl := Option.some.inj taken
        refine loops.congr (fun other => ?_) (fun other exited => ?_) <;> simp only [move]
        · split
          · rename_i same
            subst same
            exact WaitPoint.notify_eq_busy
          · exact Iff.rfl
        · split
          · rename_i same
            subst same
            exact WaitPoint.notify_eq_exited.mpr exited
          · exact exited
      · cases taken

-----------------------------------------------------------------------------------------
-- The way to the end of both threads
-----------------------------------------------------------------------------------------

/-- A step of one of the two threads. -/
def Action.isOfThread : Action → Bool
  | .advance _ => true
  | .system action => action.isOfThread.isSome
  | .wake _ | .notify _ => false

/-- `stopThreads` has nothing left to do but to join. -/
def joining (state : ThreadedSystem) : Bool :=
  state.system.initializer = .stopping && ProxyThread.all.all state.notified

/-- How many steps the two threads are from their ends. -/
def remaining (state : ThreadedSystem) : Nat :=
  (state.points .pendingWrites).remaining (state.system.rest .pendingWrites)
  + (state.points .wakelock).remaining (state.system.rest .wakelock)

theorem remaining_le (state : ThreadedSystem) : state.remaining ≤ 6 := by
  have rest (thread : ProxyThread) : state.system.rest thread ≤ 2 := by
    cases thread with
    | pendingWrites => simp only [System.rest]; split <;> omega
    | wakelock => simp only [System.rest]; split <;> omega
  have pendingWrites :=
    (state.points .pendingWrites).remaining_le (state.system.rest .pendingWrites)
  have wakelock := (state.points .wakelock).remaining_le (state.system.rest .wakelock)
  have first := rest .pendingWrites
  have second := rest .wakelock
  simp only [remaining]
  omega

/-- What joining says of the phase and of the notifications. -/
theorem joining_iff {state : ThreadedSystem}
    : state.joining = true
      ↔ state.system.initializer = .stopping ∧ ∀ thread, state.notified thread = true := by
  simp only [joining, ProxyThread.all, List.all_cons, List.all_nil, Bool.and_true,
    Bool.and_eq_true, decide_eq_true_eq]
  refine and_congr_right (fun _ => ⟨fun both thread => ?_, fun each => ⟨each _, each _⟩⟩)
  cases thread with
  | pendingWrites => exact both.1
  | wakelock => exact both.2

/-- A thread that is awake stays where it is in a step of another one. -/
theorem pointsAfter_of_awake {action : System.Action} {system : System} {thread : ProxyThread}
    (other : action.isOfThread ≠ some thread) (started : action ≠ .startThreads)
    (awake : (before.points thread).sleeps = false)
    : before.pointsAfter action system thread = before.points thread := by
  rcases pointsAfter_of_other other started with same | same
  · rw [same, WaitPoint.sleeps_notify_of_awake awake]
  · exact same

/-- A body that goes on though the threads are stopped is one step nearer to its end, and so is its
thread.
-/
theorem Loops.remaining_body {action : System.Action} {system : System} {thread : ProxyThread}
    (loops : before.Loops) (stopped : before.system.mThreadsRun = false)
    (ofThread : action.isOfThread = some thread)
    (taken : before.system.step lookup action = some system)
    : (before.pointsAfter action system thread).remaining (system.rest thread) + 1
      = (before.points thread).remaining (before.system.rest thread) := by
  have ends (rest : Nat) (positive : before.system.rest thread = rest + 1)
      (point
        : before.pointsAfter action system thread
          = if rest = 0 then .looping else .busy)
      (left : system.rest thread = rest)
      : (before.pointsAfter action system thread).remaining (system.rest thread) + 1
        = (before.points thread).remaining (before.system.rest thread) := by
    have here := (loops.busy thread).mpr (by omega)
    rw [here, point, left, positive]
    cases rest <;> rfl
  cases action with
  | proxy action =>
      obtain ⟨proxy, moved, rfl⟩ := System.stepProxy_eq_some taken
      cases action with
      | createScopedWakelock | postEvents | destroyScopedWakelock | readEvents | acknowledge
      | writeWakeLock | elapse => cases ofThread
      | takePendingWrites =>
          simp only [HalProxy.step, HalProxy.takePendingWrites, stopped] at moved
          split at moved <;> cases moved
      | checkWakelock =>
          simp only [HalProxy.step, HalProxy.checkWakelock, stopped] at moved
          simp at moved
      | writeBlocking written =>
          obtain rfl := Option.some.inj ofThread
          obtain ⟨⟨_, _, writing⟩, _, ⟨_, done⟩, _⟩ := HalProxy.threads_writeBlocking moved
          have positive : before.system.rest .pendingWrites = 2 := by
            rw [System.rest, writing]
          refine ends 1 positive ?_ (by simp only [System.rest, done])
          have here := (loops.busy .pendingWrites).mpr (by omega)
          simp only [pointsAfter, here]
          split <;> rfl
      | popPendingWrites =>
          obtain rfl := Option.some.inj ofThread
          obtain ⟨_, _, _, _, written, _, rfl⟩ := HalProxy.popPendingWrites_eq_some moved
          exact ends 0 (by rw [System.rest, written]) rfl rfl
      | readWakeLock success =>
          obtain rfl := Option.some.inj ofThread
          obtain ⟨reading, waiting, -, -⟩ := HalProxy.threads_readWakeLock moved
          exact ends 0 (by rw [System.rest, reading]) rfl (by simp only [System.rest, waiting])
  | stopThreads | joinThreads | disableAllSensors | clearPending | installQueues | startThreads
  | initializeSubHals | enterPostEvents | checkThreads | postEventsToMessageQueue
  | returnPostEvents | dynamicSensorsConnected | dynamicSensorsDisconnected => cases ofThread

/-- A sum over the two threads, with one of them first. -/
theorem remaining_eq (state : ThreadedSystem) {thread other : ProxyThread}
    (different : other ≠ thread)
    : state.remaining
      = (state.points thread).remaining (state.system.rest thread)
        + (state.points other).remaining (state.system.rest other) := by
  cases thread <;> cases other <;>
    first | exact absurd rfl different | rfl | exact Nat.add_comm _ _

/-- While they are joined, each step of a thread brings the two nearer to their ends, and no other
step takes them away from there.
-/
theorem remaining_step {action : Action} (heard : before.Heard) (loops : before.Loops)
    (taken : (threadedMachine lookup).step before action = some after)
    (joining : before.joining = true) (still : after.joining = true)
    : after.remaining + action.isOfThread.toNat ≤ before.remaining := by
  obtain ⟨phase, notified⟩ := joining_iff.mp joining
  have stopped : before.system.mThreadsRun = false := heard.stopped .wakelock (notified _)
  have awake (thread : ProxyThread) : (before.points thread).sleeps = false :=
    heard.awake thread (notified thread)
  cases action with
  | notify thread =>
      simp only [threadedMachine, ThreadedSystem.step, notify, notified] at taken
      simp at taken
  | wake thread =>
      simp only [threadedMachine, ThreadedSystem.step] at taken
      split at taken
      · rename_i asleep
        have sleeps := awake thread
        rw [asleep] at sleeps
        cases sleeps
      · cases taken
  | advance thread =>
      obtain ⟨point, advanced, rfl⟩ := Option.map_eq_some_iff.mp taken
      obtain ⟨other, different⟩ := thread.exists_other
      rw [stopped] at advanced
      have nearer :=
        (WaitPoint.advance_stopped (awake thread) advanced (before.system.rest thread)).2
      rw [(before.move thread point).remaining_eq different, before.remaining_eq different]
      simp only [move, if_true, if_neg different, Action.isOfThread, Bool.toNat_true]
      omega
  | system action =>
      simp only [threadedMachine, ThreadedSystem.step] at taken
      split at taken
      · rename_i admitted
        obtain ⟨system, moved, rfl⟩ := Option.map_eq_some_iff.mp taken
        have phases : action.phases = none := by
          rw [← Option.not_isSome_iff_eq_none, Option.isSome_iff_exists]
          rintro ⟨⟨first, last⟩, phases⟩
          obtain ⟨was, is, -⟩ := System.phases_step phases moved
          have stays := (joining_iff.mp still).1
          rw [was] at phase
          rw [is] at stays
          subst phase stays
          cases action <;> cases phases
        have started : action ≠ .startThreads := by
          rintro rfl
          cases phases
        cases ofThread : action.isOfThread with
        | some thread =>
            obtain ⟨other, different⟩ := thread.exists_other
            have nearer := loops.remaining_body stopped ofThread moved
            have elsewhere : action.isOfThread ≠ some other := by
              rw [ofThread]
              exact fun here => different (Option.some.inj here).symm
            rw [remaining_eq _ different, before.remaining_eq different]
            simp only [Action.isOfThread, ofThread, Option.isSome_some, Bool.toNat_true,
              pointsAfter_of_awake elsewhere started (awake other),
              (loops.runsBody ofThread admitted moved).other other different]
            omega
        | none =>
            have call : action.initializes = false := by
              cases action <;> first | rfl | cases phases
            have same := System.undisturbed call ofThread moved
            have elsewhere (thread : ProxyThread) : action.isOfThread ≠ some thread := by
              simp [ofThread]
            simp only [remaining, pointsAfter_of_awake (elsewhere _) started (awake _), System.rest,
              same.pendingWritesThread, same.wakelockThread, Action.isOfThread, ofThread,
              Option.isSome_none, Bool.toNat_false]
            omega
      · cases taken

/-- A thread in its body can go on there, once the lock for a failed write is free. -/
theorem Loops.goesOn {thread : ProxyThread} (loops : before.Loops)
    (busy : before.points thread = .busy)
    (free : before.system.mThreadsRun = false ∨ (before.points .wakelock).holdsLock = false)
    : ∃ action : System.Action,
        action.isOfThread = some thread
        ∧ ((threadedMachine lookup).step before (.system action)).isSome = true := by
  have handed := loops.handed thread busy
  have positive := (loops.busy thread).mp busy
  cases thread with
  | pendingWrites =>
      obtain ⟨batch, rest, queue⟩ := List.exists_cons_of_ne_nil (loops.queued busy)
      cases stands : before.system.pendingWritesThread with
      | waiting =>
          rw [System.rest_pendingWrites.mpr stands] at positive
          cases positive
      | writing numWakeupEvents numToWrite =>
          refine ⟨.proxy (.writeBlocking false), rfl, ?_⟩
          rcases free with stopped | unlocked
          · simp [threadedMachine, ThreadedSystem.step, admits, ProxyThread.all,
              System.takesLock, System.step, System.stepProxy, HalProxy.step,
              HalProxy.writeBlocking, stopped, handed, stands, queue]
          · simp [threadedMachine, ThreadedSystem.step, admits, ProxyThread.all,
              System.takesLock, System.step, System.stepProxy, HalProxy.step,
              HalProxy.writeBlocking, unlocked, handed, stands, queue]
      | written numToWrite =>
          refine ⟨.proxy .popPendingWrites, rfl, ?_⟩
          simp [threadedMachine, ThreadedSystem.step, admits, ProxyThread.all,
            System.takesLock, System.increments, System.decrements, System.step, System.stepProxy,
            HalProxy.step, HalProxy.popPendingWrites, handed, stands, queue]
  | wakelock =>
      cases stands : before.system.wakelockThread with
      | waiting =>
          rw [System.rest_wakelock.mpr stands] at positive
          cases positive
      | reading =>
          refine ⟨.proxy (.readWakeLock false), rfl, ?_⟩
          simp [threadedMachine, ThreadedSystem.step, admits, ProxyThread.all,
            System.takesLock, System.increments, System.decrements, System.step, System.stepProxy,
            HalProxy.step, HalProxy.readWakeLock, handed, stands]

/-- While they are joined, a thread can go on until both are at their ends; then the joins return.
-/
theorem Heard.progress (heard : before.Heard) (loops : before.Loops)
    (joining : before.joining = true)
    : (∃ action : Action,
        action.isOfThread = true ∧ ((threadedMachine lookup).step before action).isSome = true)
      ∨ ((threadedMachine lookup).step before (.system .joinThreads)).isSome = true := by
  obtain ⟨phase, notified⟩ := joining_iff.mp joining
  have stopped : before.system.mThreadsRun = false := heard.stopped .wakelock (notified _)
  have idle {thread : ProxyThread} (outside : before.points thread ≠ .busy)
      : before.system.rest thread = 0 :=
    Nat.eq_zero_of_not_pos (mt (loops.busy thread).mpr outside)
  by_cases exited : ∀ thread, before.points thread = .exited
  · refine .inr ?_
    have outside (thread : ProxyThread) : before.points thread ≠ .busy := by
      rw [exited thread]
      nofun
    have pendingWrites : before.system.pendingWritesThread = .waiting :=
      System.rest_pendingWrites.mp (idle (outside _))
    have wakelock : before.system.wakelockThread = .waiting :=
      System.rest_wakelock.mp (idle (outside _))
    simp [threadedMachine, ThreadedSystem.step, admits, ProxyThread.all, notified, exited,
      System.step, System.joinThreads, phase, pendingWrites, wakelock]
  · obtain ⟨thread, left⟩ := not_forall.mp exited
    refine .inl ?_
    rcases WaitPoint.advance_isSome (heard.awake thread (notified thread))
        (before.system.work thread) with busy | ended | goesOn
    · obtain ⟨action, ofThread, taken⟩ := loops.goesOn busy (.inl stopped)
      exact ⟨.system action, by simp [Action.isOfThread, ofThread], taken⟩
    · exact absurd ended left
    · refine ⟨.advance thread, rfl, ?_⟩
      simpa [threadedMachine, ThreadedSystem.step, stopped] using goesOn

/-- The steps that the threads have taken while they are joined. -/
def noteSteps (steps : Nat) (before : ThreadedSystem) (action : Action) (_ : ThreadedSystem)
    : Nat :=
  if before.joining then steps + action.isOfThread.toNat else 0

/-- The joins are a few steps away, and not stuck before them. -/
def Returns (lookup : Lookup) (state : ThreadedSystem × Nat) : Prop :=
  state.1.joining = true
  → state.2 ≤ 6
    ∧ ((∃ action : Action,
          action.isOfThread = true
          ∧ ((threadedMachine lookup).step state.1 action).isSome = true)
        ∨ ((threadedMachine lookup).step state.1 (.system .joinThreads)).isSome = true)

end ThreadedSystem

/-- The proxy with its threads and with the steps that these have taken since they were joined. -/
def joiningMachine (lookup : Lookup) : Machine (ThreadedSystem × Nat) ThreadedSystem.Action :=
  (threadedMachine lookup).observe ThreadedSystem.noteSteps

/-- `stopThreads` returns: in a run in which its notifications are heard, the two threads take at
most six more steps after them, however other steps come in between, and one of them can take a
step until the joins can return.
Witness: the steps that are left to both threads, of which each one takes one away.
-/
theorem stopThreads_returns (lookup : Lookup) (subHals : List (List SensorInfo)) (setup : Setup)
    (now : Int) (actions : List ThreadedSystem.Action)
    (hears
      : (threadedMachine lookup).Along ThreadedSystem.hearsStop
          (.constructed subHals setup now) actions)
    : (joiningMachine lookup).Always (ThreadedSystem.Returns lookup)
        (.constructed subHals setup now, 0) actions := by
  refine Machine.observe_always_of_invariant
    (fun state : ThreadedSystem × Nat =>
      state.1.Heard ∧ state.1.Loops ∧ (state.1.joining = true → state.2 + state.1.remaining ≤ 6))
    ?_ ?_ ?_ (Machine.observe_along.mpr hears)
  · rintro state steps ⟨heard, loops, bounded⟩ joining
    exact ⟨Nat.le_trans (Nat.le_add_right _ _) (bounded joining), heard.progress loops joining⟩
  · rintro before steps action after ⟨heard, loops, bounded⟩ taken hears
    refine ⟨heard.step taken hears, loops.step taken, fun still => ?_⟩
    simp only [ThreadedSystem.noteSteps]
    split
    · rename_i joining
      have nearer := ThreadedSystem.remaining_step heard loops taken joining still
      have within := bounded joining
      omega
    · have few := after.remaining_le
      omega
  · exact ⟨ThreadedSystem.heard_constructed _ _ _, ThreadedSystem.loops_constructed _ _ _, nofun⟩

/-- A second call of `initialize`, which finds the pending writes thread asleep and the other one at
the test of its loop.
-/
theorem stopThreads_returns_twice
    : let setup : Setup :=
        {
          quantumCount := 4
          kMaxSizePendingWriteEventsQueue := 100000
          kWakelockTimeoutNs := 5000000000
        }
      (joiningMachine SensorTable.touch).Always (ThreadedSystem.Returns SensorTable.touch)
        (.constructed [] setup 0, 0)
        [.system .stopThreads, .notify .wakelock, .notify .pendingWrites, .system .joinThreads,
          .system .disableAllSensors, .system .clearPending, .system (.installQueues 4),
          .system .startThreads, .system .initializeSubHals, .advance .pendingWrites,
          .advance .pendingWrites, .advance .pendingWrites, .advance .pendingWrites,
          .advance .wakelock, .system .stopThreads, .notify .wakelock, .notify .pendingWrites,
          .advance .pendingWrites] :=
  stopThreads_returns _ _ _ _ _ (by decide)

end PongDevice.Sensors
