import PongDevice.Sensors.Initialize
import PongDevice.Transition.WaitLoop

/-! The loops of the proxy's two threads and how `stopThreads` ends them. It changes what they wait
for without their locks, so that its notification may fall between a thread's look at it and its
sleep.
-/

namespace PongDevice.Sensors

open Transition

-----------------------------------------------------------------------------------------
-- The threads in their loops
-----------------------------------------------------------------------------------------

/-- The thread of `handlePendingWrites` and the one of `handleWakelocks`. -/
inductive ProxyThread where
  | pendingWrites
  | wakelock
deriving DecidableEq, Repr

def ProxyThread.all : List ProxyThread := [.pendingWrites, .wakelock]

/-- The proxy, where its threads stand in their loops, and which of them `stopThreads` has notified
since they were started. A thread that has never been started has nothing to join.
-/
structure ThreadedSystem where
  system : System
  points : ProxyThread → WaitPoint := fun _ => .exited
  notified : ProxyThread → Bool := fun _ => false

namespace System

/-- What a thread waits for, beside the end of `mThreadsRun`. -/
def work (system : System) : ProxyThread → Bool
  | .pendingWrites => !system.mPendingWriteEventsQueue.isEmpty
  | .wakelock => 0 < system.mWakelockRefCount

/-- Whether the step calls `incrementRefCountAndMaybeAcquireWakelock`. -/
def increments (system : System) : Action → Bool
  | .postEventsToMessageQueue poster _ => (system.posterAt poster .checked).any (·.wakelock.mLocked)
  | .proxy (.createScopedWakelock lock) => lock
  | _ => false

/-- Whether the step, which is not the wakelock thread's, calls
`decrementRefCountAndMaybeReleaseWakelock`.
-/
def decrements (system : System) : Action → Bool
  | .returnPostEvents poster => (system.posterAt poster .returning).any (·.wakelock.mLocked)
  | .proxy (.destroyScopedWakelock index) => system.scopedWakelocks[index]?.any (·.mLocked)
  | .proxy (.writeBlocking written) =>
      match system.pendingWritesThread with
      | .writing numWakeupEvents _ => !written && 0 < numWakeupEvents
      | .waiting | .written _ => false
  | _ => false

/-- Whether the step takes the lock of a thread other than its own: `mEventQueueWriteMutex`, or
`mWakelockMutex`, which is left alone once `mThreadsRun` is false.
-/
def takesLock (system : System) (action : Action) : ProxyThread → Bool
  | .pendingWrites =>
      match action with
      | .postEventsToMessageQueue _ _ => true
      | _ => false
  | .wakelock => system.mThreadsRun && (system.increments action || system.decrements action)

/-- Whether the step notifies a thread: of a new batch, or of a first reference. -/
def notifies (before : System) (action : Action) (after : System) : ProxyThread → Bool
  | .pendingWrites =>
      before.mPendingWriteEventsQueue.length < after.mPendingWriteEventsQueue.length
  | .wakelock =>
      before.mThreadsRun && before.increments action && before.mWakelockRefCount = 0

end System

namespace ThreadedSystem

def constructed (subHals : List (List SensorInfo)) (setup : Setup) (now : Int) : ThreadedSystem where
  system := .constructed subHals setup now

/-- A step of the proxy, a thread's step outside its body, the end of a sleep for no reason, or a
notification by `stopThreads`.
-/
inductive Action where
  | system (action : System.Action)
  | advance (thread : ProxyThread)
  | wake (thread : ProxyThread)
  | notify (thread : ProxyThread)

/-- Whether a step of the proxy can be taken: a body starts behind its thread's wait, the joins wait
for both threads, and a lock for whoever has it.
-/
def admits (state : ThreadedSystem) : System.Action → Bool
  | .proxy .takePendingWrites => state.points .pendingWrites = .woken
  | .proxy .checkWakelock => state.points .wakelock = .woken
  | .joinThreads =>
      ProxyThread.all.all (fun thread => state.notified thread && state.points thread = .exited)
  | action =>
      ProxyThread.all.all (fun thread =>
        !(state.system.takesLock action thread && (state.points thread).holdsLock))

/-- Where the threads stand after a step of the proxy. -/
def pointsAfter (before : ThreadedSystem) (action : System.Action) (after : System)
    (thread : ProxyThread)
    : WaitPoint :=
  match action, thread with
  | .proxy .takePendingWrites, .pendingWrites => .busy
  | .proxy .popPendingWrites, .pendingWrites => .looping
  | .proxy .checkWakelock, .wakelock =>
      if after.wakelockThread = .reading then .busy else .looping
  | .proxy (.readWakeLock _), .wakelock => .looping
  | .startThreads, _ => .starting
  | _, _ =>
      if before.system.notifies action after thread then (before.points thread).notify
      else before.points thread

/-- Started threads have not been notified. -/
def notifiedAfter (before : ThreadedSystem) (action : System.Action) (thread : ProxyThread) : Bool :=
  match action with
  | .startThreads => false
  | _ => before.notified thread

/-- The state with one thread elsewhere. -/
def move (state : ThreadedSystem) (thread : ProxyThread) (point : WaitPoint) : ThreadedSystem :=
  { state with points := fun other => if other = thread then point else state.points other }

/-- The notifications of `stopThreads`, the one of the wakelock thread first. -/
def notify (state : ThreadedSystem) (thread : ProxyThread) : Option ThreadedSystem :=
  if state.system.initializer = .stopping ∧ state.notified thread = false
      ∧ (thread = .pendingWrites → state.notified .wakelock = true) then
    some
      { state.move thread (state.points thread).notify with
        notified := fun other => if other = thread then true else state.notified other }
  else
    none

def step (lookup : Lookup) (state : ThreadedSystem) : Action → Option ThreadedSystem
  | .system action =>
      if state.admits action then
        (state.system.step lookup action).map (fun system =>
          {
            system
            points := state.pointsAfter action system
            notified := state.notifiedAfter action
          })
      else
        none
  | .advance thread =>
      ((state.points thread).advance state.system.mThreadsRun (state.system.work thread)).map
        (state.move thread)
  | .wake thread =>
      if state.points thread = .asleep then some (state.move thread .testing) else none
  | .notify thread => state.notify thread

end ThreadedSystem

def threadedMachine (lookup : Lookup) : Machine ThreadedSystem ThreadedSystem.Action where
  step := ThreadedSystem.step lookup

-----------------------------------------------------------------------------------------
-- What a step of the proxy leaves to the threads
-----------------------------------------------------------------------------------------

/-- A step in the body of one of the two threads. -/
def HalProxy.Action.isOfThread : HalProxy.Action → Option ProxyThread
  | .takePendingWrites | .writeBlocking _ | .popPendingWrites => some .pendingWrites
  | .checkWakelock | .readWakeLock _ => some .wakelock
  | _ => none

/-- Queueing a batch neither stops the threads nor moves them. -/
theorem HalProxy.threads_postEventsToMessageQueue (setup : Setup) (proxy : HalProxy)
    (events : List Event) (numWakeupEvents : Nat) (isLocked written : Bool)
    : let after := proxy.postEventsToMessageQueue setup events numWakeupEvents isLocked written
      after.mThreadsRun = proxy.mThreadsRun
      ∧ after.pendingWritesThread = proxy.pendingWritesThread
      ∧ after.wakelockThread = proxy.wakelockThread := by
  cases isLocked with
  | false =>
      rw [postEventsToMessageQueue_unlocked]
      exact ⟨rfl, rfl, rfl⟩
  | true =>
      obtain ⟨_, _, _, same⟩ := proxy.incrementRefCount_frame numWakeupEvents
      rw [postEventsToMessageQueue_locked, same, postEventsToMessageQueue_unlocked]
      exact ⟨rfl, rfl, rfl⟩

namespace System

/-- A step in the body of one of the two threads. -/
def Action.isOfThread : Action → Option ProxyThread
  | .proxy action => action.isOfThread
  | _ => none

/-- A step of `initializeCommon`. -/
def Action.initializes : Action → Bool
  | .stopThreads | .joinThreads | .disableAllSensors | .clearPending | .installQueues _
  | .startThreads | .initializeSubHals => true
  | _ => false

/-- What the two threads and `initializeCommon` have to themselves; the others add to the pending
queue at most.
-/
structure Undisturbed (before after : System) : Prop where
  mThreadsRun : after.mThreadsRun = before.mThreadsRun
  initializer : after.initializer = before.initializer
  callbacks : after.callbacks = before.callbacks
  pendingWritesThread : after.pendingWritesThread = before.pendingWritesThread
  wakelockThread : after.wakelockThread = before.wakelockThread
  mPendingWriteEventsQueue : before.mPendingWriteEventsQueue <+: after.mPendingWriteEventsQueue

/-- The threads stand where they stood in the proxy. -/
theorem Undisturbed.of_frame {before : System} {mWakelockRefCount : Nat} {wakeLockHeld : Bool}
    {mWakelockTimeoutStartTime : Int} {scopedWakelocks : List ScopedWakelock}
    : before.Undisturbed
        { before with
          mWakelockRefCount
          wakeLockHeld
          mWakelockTimeoutStartTime
          scopedWakelocks
        } where
  mThreadsRun := rfl
  initializer := rfl
  callbacks := rfl
  pendingWritesThread := rfl
  wakelockThread := rfl
  mPendingWriteEventsQueue := List.prefix_rfl

variable {lookup : Lookup} {before after : System}

/-- The steps of the proxy that are not in a body, by their frames. -/
theorem undisturbed_proxy {action : HalProxy.Action} (other : action.isOfThread = none)
    (taken : before.stepProxy action = some after)
    : before.Undisturbed after := by
  obtain ⟨proxy, moved, rfl⟩ := stepProxy_eq_some taken
  cases action with
  | createScopedWakelock lock =>
      obtain rfl := Option.some.inj moved
      cases lock with
      | false => exact .of_frame
      | true =>
          obtain ⟨_, _, _, same⟩ := before.toHalProxy.incrementRefCount_frame 1
          simp only [HalProxy.createScopedWakelock, if_true, same]
          exact .of_frame
  | postEvents => cases taken
  | destroyScopedWakelock index =>
      rcases HalProxy.destroyScopedWakelock_eq_some moved with ⟨wakelock, _, ⟨_, rfl⟩ | ⟨_, rfl⟩⟩
      · obtain ⟨_, _, same⟩ :=
          { before.toHalProxy with
            scopedWakelocks := before.scopedWakelocks.eraseIdx index
          }.decrementRefCount_frame 1 wakelock.mCreatedAtTimeNs
        rw [same]
        exact .of_frame
      · exact .of_frame
  | takePendingWrites | writeBlocking | popPendingWrites | checkWakelock | readWakeLock =>
      cases other
  | readEvents count =>
      obtain ⟨_, rfl⟩ := HalProxy.readEvents_eq_some moved
      exact ⟨rfl, rfl, rfl, rfl, rfl, List.prefix_rfl⟩
  | acknowledge index =>
      obtain ⟨_, _, rfl⟩ := Option.map_eq_some_iff.mp moved
      exact ⟨rfl, rfl, rfl, rfl, rfl, List.prefix_rfl⟩
  | writeWakeLock _ | elapse _ =>
      obtain rfl := Option.some.inj moved
      exact ⟨rfl, rfl, rfl, rfl, rfl, List.prefix_rfl⟩

/-- Queueing a batch leaves the threads where they are. -/
theorem undisturbed_post {poster : Nat} {written : Bool}
    (taken : before.postEventsToMessageQueue lookup poster written = some after)
    : before.Undisturbed after := by
  obtain ⟨call, _, rfl⟩ := Option.map_eq_some_iff.mp taken
  let proxy : HalProxy :=
    { before.toHalProxy with
      mSensors := lookUp lookup before.mSensors call.subHalIndex call.events }
  let processed := processEvents before.mSensors call.subHalIndex call.events
  obtain ⟨running, pendingWrites, wakelock⟩ :=
    proxy.threads_postEventsToMessageQueue before.setup processed.1 processed.2
      call.wakelock.mLocked written
  obtain ⟨queue, -⟩ :=
    proxy.postEventsToMessageQueue_frame before.setup processed.1 processed.2
      call.wakelock.mLocked written
  refine ⟨running, rfl, rfl, pendingWrites, wakelock, ?_⟩
  rcases queue with same | ⟨batch, added⟩
  · exact same ▸ List.prefix_rfl
  · exact added ▸ List.prefix_append _ _

/-- Any step of another one leaves the threads alone, by the kinds of steps. -/
theorem undisturbed {action : Action} (call : action.initializes = false)
    (other : action.isOfThread = none) (taken : before.step lookup action = some after)
    : before.Undisturbed after := by
  cases action with
  | stopThreads | joinThreads | disableAllSensors | clearPending | installQueues | startThreads
  | initializeSubHals => cases call
  | enterPostEvents index subHalIndex events =>
      simp only [System.step, enterPostEvents] at taken
      split at taken
      · obtain ⟨_, _, rfl⟩ := Option.map_eq_some_iff.mp taken
        exact ⟨rfl, rfl, rfl, rfl, rfl, List.prefix_rfl⟩
      · cases taken
  | checkThreads poster =>
      obtain ⟨_, _, rfl⟩ := Option.map_eq_some_iff.mp taken
      exact ⟨rfl, rfl, rfl, rfl, rfl, List.prefix_rfl⟩
  | postEventsToMessageQueue poster written => exact undisturbed_post taken
  | returnPostEvents poster =>
      obtain ⟨call, _, rfl⟩ := Option.map_eq_some_iff.mp taken
      split
      · obtain ⟨_, _, same⟩ :=
          before.toHalProxy.decrementRefCount_frame 1 call.wakelock.mCreatedAtTimeNs
        simp only [same]
        exact ⟨rfl, rfl, rfl, rfl, rfl, List.prefix_rfl⟩
      · exact ⟨rfl, rfl, rfl, rfl, rfl, List.prefix_rfl⟩
  | dynamicSensorsConnected | dynamicSensorsDisconnected =>
      simp only [System.step] at taken
      split at taken
      · obtain rfl := Option.some.inj taken
        exact ⟨rfl, rfl, rfl, rfl, rfl, List.prefix_rfl⟩
      · cases taken
  | proxy action => exact undisturbed_proxy other taken

/-- The phases between which a step of `initializeCommon` leads. -/
def Action.phases : Action → Option (Initializer × Initializer)
  | .stopThreads => some (.idle, .stopping)
  | .joinThreads => some (.stopping, .joined)
  | .disableAllSensors => some (.joined, .disabled)
  | .clearPending => some (.disabled, .cleared)
  | .installQueues _ => some (.cleared, .installed)
  | .startThreads => some (.installed, .started)
  | .initializeSubHals => some (.started, .idle)
  | _ => none

/-- A step of `initializeCommon` is taken in its phase, and turns `mThreadsRun` off or on if it
stops or starts the threads.
-/
theorem phases_step {action : Action} {first last : Initializer}
    (phases : action.phases = some (first, last)) (taken : before.step lookup action = some after)
    : before.initializer = first
      ∧ after.initializer = last
      ∧ after.mThreadsRun
        = (match action with
          | .stopThreads => false
          | .startThreads => true
          | _ => before.mThreadsRun) := by
  cases action with
  | enterPostEvents | checkThreads | postEventsToMessageQueue | returnPostEvents
  | dynamicSensorsConnected | dynamicSensorsDisconnected | proxy => cases phases
  | joinThreads =>
      obtain ⟨rfl, rfl⟩ := Prod.mk.inj (Option.some.inj phases)
      simp only [System.step, joinThreads] at taken
      split at taken
      · rename_i guard
        obtain rfl := Option.some.inj taken
        exact ⟨guard.1, rfl, by simp [HalProxy.resetSharedWakelock]⟩
      · cases taken
  | stopThreads | disableAllSensors | clearPending | installQueues | startThreads
  | initializeSubHals =>
      obtain ⟨rfl, rfl⟩ := Prod.mk.inj (Option.some.inj phases)
      simp only [System.step, stopThreads, disableAllSensors, clearPending, installQueues,
        startThreads, initializeSubHals] at taken
      split at taken
      · rename_i guard
        obtain rfl := Option.some.inj taken
        exact ⟨guard, rfl, rfl⟩
      · cases taken

/-- Any other step leaves the phase and `mThreadsRun`. -/
theorem same_phase {action : Action} (phases : action.phases = none)
    (taken : before.step lookup action = some after)
    : after.initializer = before.initializer ∧ after.mThreadsRun = before.mThreadsRun := by
  have call : action.initializes = false := by
    cases action <;> first | rfl | cases phases
  cases thread : action.isOfThread with
  | none =>
      have same := undisturbed call thread taken
      exact ⟨same.initializer, same.mThreadsRun⟩
  | some _ =>
      cases action with
      | proxy action =>
          obtain ⟨proxy, moved, rfl⟩ := stepProxy_eq_some taken
          exact ⟨rfl, HalProxy.mThreadsRun_step moved⟩
      | _ => cases thread

end System

/-- The phases in which the threads are to end, or have. -/
def Initializer.stopped : Initializer → Bool
  | idle | started => false
  | stopping | joined | disabled | cleared | installed => true

/-- `mThreadsRun` is off from `stopThreads` until the threads are started, by the step's phases. -/
theorem System.stopped_step {lookup : Lookup} {before after : System} {action : Action}
    (off : before.initializer.stopped = true → before.mThreadsRun = false)
    (taken : before.step lookup action = some after)
    : (after.initializer.stopped = true → after.mThreadsRun = false)
      ∧ (action ≠ .startThreads → before.mThreadsRun = false → after.mThreadsRun = false) := by
  cases phases : action.phases with
  | none =>
      obtain ⟨initializer, mThreadsRun⟩ := same_phase phases taken
      rw [initializer, mThreadsRun]
      exact ⟨off, fun _ stopped => stopped⟩
  | some phase =>
      obtain ⟨first, last⟩ := phase
      obtain ⟨was, is, running⟩ := phases_step phases taken
      rw [running, is]
      rw [was] at off
      cases action with
      | stopThreads => exact ⟨fun _ => rfl, fun _ _ => rfl⟩
      | startThreads =>
          obtain ⟨rfl, rfl⟩ := Prod.mk.inj (Option.some.inj phases)
          exact ⟨nofun, fun other => absurd rfl other⟩
      | joinThreads | disableAllSensors | clearPending | installQueues | initializeSubHals =>
          obtain ⟨rfl, rfl⟩ := Prod.mk.inj (Option.some.inj phases)
          exact ⟨by first | exact fun _ => off rfl | nofun, fun _ stopped => stopped⟩
      | enterPostEvents | checkThreads | postEventsToMessageQueue | returnPostEvents
      | dynamicSensorsConnected | dynamicSensorsDisconnected | proxy => cases phases

-----------------------------------------------------------------------------------------
-- Whether a notification is heard
-----------------------------------------------------------------------------------------

namespace ThreadedSystem

variable {lookup : Lookup} {before after : ThreadedSystem}

/-- `stopThreads` joins a thread that sleeps, or is about to, and that it does not notify again. -/
def Missed (state : ThreadedSystem) : Prop :=
  ∃ thread, state.notified thread = true ∧ (state.points thread).sleeps = true

/-- The condition on a step: a thread is not notified by `stopThreads` between the look at what it
waits for and its sleep.
-/
def hearsStop (before : ThreadedSystem) (action : Action) (_ : ThreadedSystem) : Prop :=
  match action with
  | .notify thread => before.points thread ≠ .falling
  | .system _ | .advance _ | .wake _ => True

instance (before : ThreadedSystem) (action : Action) (after : ThreadedSystem)
    : Decidable (before.hearsStop action after) :=
  match action with
  | .notify thread => inferInstanceAs (Decidable (before.points thread ≠ .falling))
  | .system _ | .advance _ | .wake _ => .isTrue trivial

/-- Notified threads have been stopped and do not sleep. -/
structure Heard (state : ThreadedSystem) : Prop where
  off : state.system.initializer.stopped = true → state.system.mThreadsRun = false
  stopped : ∀ thread, state.notified thread = true → state.system.mThreadsRun = false
  awake : ∀ thread, state.notified thread = true → (state.points thread).sleeps = false

theorem Heard.not_missed {state : ThreadedSystem} (heard : state.Heard) : ¬state.Missed := by
  intro missed
  obtain ⟨thread, notified, sleeps⟩ := missed
  rw [heard.awake thread notified] at sleeps
  cases sleeps

/-- No step of the proxy puts a thread to sleep, by what it makes of the thread's point. -/
theorem sleeps_pointsAfter {action : System.Action} {system : System} {thread : ProxyThread}
    (awake : (before.points thread).sleeps = false)
    : (before.pointsAfter action system thread).sleeps = false := by
  unfold pointsAfter
  split
  · rfl
  · rfl
  · split <;> rfl
  · rfl
  · rfl
  · split
    · rw [WaitPoint.sleeps_notify_of_awake awake]
      exact awake
    · exact awake

/-- A step that keeps to the condition keeps what has been heard, by the kinds of steps. -/
theorem Heard.step {action : Action} (heard : before.Heard)
    (taken : (threadedMachine lookup).step before action = some after)
    (hears : before.hearsStop action after)
    : after.Heard := by
  cases action with
  | system action =>
      simp only [threadedMachine, ThreadedSystem.step] at taken
      split at taken
      · obtain ⟨system, moved, rfl⟩ := Option.map_eq_some_iff.mp taken
        obtain ⟨off, stays⟩ := System.stopped_step heard.off moved
        have kept (thread : ProxyThread) (notified : before.notifiedAfter action thread = true)
            : action ≠ .startThreads ∧ before.notified thread = true := by
          unfold notifiedAfter at notified
          split at notified
          · cases notified
          · rename_i other
            exact ⟨other, notified⟩
        exact {
          off
          stopped := fun thread notified =>
            stays (kept thread notified).1 (heard.stopped thread (kept thread notified).2)
          awake := fun thread notified =>
            sleeps_pointsAfter (heard.awake thread (kept thread notified).2)
        }
      · cases taken
  | advance thread =>
      obtain ⟨point, advanced, rfl⟩ := Option.map_eq_some_iff.mp taken
      refine ⟨heard.off, heard.stopped, fun other notified => ?_⟩
      simp only [move]
      split
      · rename_i same
        subst same
        rw [heard.stopped other notified] at advanced
        exact (WaitPoint.advance_stopped (heard.awake other notified) advanced 0).1
      · exact heard.awake other notified
  | wake thread =>
      simp only [threadedMachine, ThreadedSystem.step] at taken
      split at taken
      · obtain rfl := Option.some.inj taken
        refine ⟨heard.off, heard.stopped, fun other notified => ?_⟩
        simp only [move]
        split
        · rfl
        · exact heard.awake other notified
      · cases taken
  | notify thread =>
      simp only [threadedMachine, ThreadedSystem.step, notify] at taken
      split at taken
      · rename_i guard
        obtain rfl := Option.some.inj taken
        have stopped : before.system.mThreadsRun = false :=
          heard.off (by rw [guard.1]; rfl)
        refine ⟨heard.off, fun _ _ => stopped, fun other notified => ?_⟩
        simp only [move]
        split
        · rename_i same
          subst same
          have heardHere := mt (WaitPoint.sleeps_notify _).mp hears
          simpa using heardHere
        · rename_i different
          simp only [if_neg different] at notified
          exact heard.awake other notified
      · cases taken

/-- A notification that comes too early is missed. -/
theorem hearsStop_of_not_missed {action : Action}
    (taken : (threadedMachine lookup).step before action = some after) (missed : ¬after.Missed)
    : before.hearsStop action after := by
  cases action with
  | system | advance | wake => trivial
  | notify thread =>
      intro early
      simp only [threadedMachine, ThreadedSystem.step, notify] at taken
      split at taken
      · obtain rfl := Option.some.inj taken
        exact missed ⟨thread, by simp, by simp [move, early, WaitPoint.notify, WaitPoint.sleeps]⟩
      · cases taken

theorem heard_constructed (subHals : List (List SensorInfo)) (setup : Setup) (now : Int)
    : (constructed subHals setup now).Heard where
  off := nofun
  stopped := nofun
  awake := nofun

end ThreadedSystem

/-- In every run of the proxy with its threads, over any number of calls of `initialize`, no thread
is ever joined in its sleep, exactly when no notification of `stopThreads` falls between a thread's
look at what it waits for and its sleep.
-/
theorem stopThreads_heard_iff (lookup : Lookup) (subHals : List (List SensorInfo)) (setup : Setup)
    (now : Int) (actions : List ThreadedSystem.Action)
    : (threadedMachine lookup).Always (fun state => ¬state.Missed)
        (.constructed subHals setup now) actions
      ↔ (threadedMachine lookup).Along ThreadedSystem.hearsStop
          (.constructed subHals setup now) actions :=
  Machine.always_iff_along ThreadedSystem.Heard (fun _ heard => heard.not_missed)
    (fun _ _ _ heard taken _ hears => heard.step taken hears)
    (fun _ _ _ _ taken _ missed => ThreadedSystem.hearsStop_of_not_missed taken missed)
    (ThreadedSystem.heard_constructed subHals setup now) (Machine.along_true _ _)

-- The pending writes thread has found nothing to write when the second call of `initialize`
-- notifies it.
example
    : let setup : Setup :=
        {
          quantumCount := 4
          kMaxSizePendingWriteEventsQueue := 100000
          kWakelockTimeoutNs := 5000000000
        }
      ¬(threadedMachine SensorTable.touch).Along ThreadedSystem.hearsStop
        (.constructed [] setup 0)
        [.system .stopThreads, .notify .wakelock, .notify .pendingWrites, .system .joinThreads,
          .system .disableAllSensors, .system .clearPending, .system (.installQueues 4),
          .system .startThreads, .system .initializeSubHals, .advance .pendingWrites,
          .advance .pendingWrites, .advance .pendingWrites, .system .stopThreads,
          .notify .wakelock, .notify .pendingWrites] := by
  decide

end PongDevice.Sensors
