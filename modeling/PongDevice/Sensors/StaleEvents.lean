import PongDevice.Sensors.Initialize
import PongDevice.Sensors.WakelockCount

/-! Events that were posted before an `initialize` and are written to the queue that it installs.
A call of `postEvents` that has passed its test of the threads may go on at any later time.
-/

namespace PongDevice.Sensors

open Transition

/-- Whether an `initialize` that is under way has cleared the pending queue. -/
def Initializer.hasCleared : Initializer → Bool
  | .stopping | .joined | .disabled => false
  | .cleared | .installed | .started | .idle => true

/-- Whether an `initialize` that is under way has installed its queues. -/
def Initializer.hasInstalled : Initializer → Bool
  | .stopping | .joined | .disabled | .cleared => false
  | .installed | .started | .idle => true

/-- The history: how many calls of `initialize` have begun; how many had begun when each poster,
and the poster of each pending batch, began; and for each write to an event queue the number of
the call that installed the queue with how many had begun when the poster of the events did.
-/
structure Calls where
  begun : Nat := 0
  posters : List Nat := []
  pending : List Nat := []
  written : List (Nat × Nat) := []

namespace Calls

/-- How many calls have cleared the pending queue. -/
def cleared (calls : Calls) (initializer : Initializer) : Nat :=
  if initializer.hasCleared then calls.begun else calls.begun - 1

/-- How many calls have installed their queues. -/
def installed (calls : Calls) (initializer : Initializer) : Nat :=
  if initializer.hasInstalled then calls.begun else calls.begun - 1

/-- When a poster began; one that is not recorded is the oldest. -/
def posterBegan (calls : Calls) (poster : Nat) : Nat := (calls.posters[poster]?).getD 0

/-- When the poster of the front batch began. -/
def frontBegan (calls : Calls) : Nat := calls.pending.head?.getD 0

end Calls

/-- Keeps the history of a step. Only `postEventsToMessageQueue` and a blocking write put events
into the event queue, and only the former puts a batch into the pending queue.
-/
def noteCalls (calls : Calls) (before : System) (action : System.Action) (after : System)
    : Calls :=
  let wrote := before.mEventQueue.length < after.mEventQueue.length
  let record (began : Nat) :=
    if wrote then calls.written ++ [(calls.installed before.initializer, began)]
    else calls.written
  let pendingBefore := before.mPendingWriteEventsQueue.length
  let pendingAfter := after.mPendingWriteEventsQueue.length
  match action with
  | .stopThreads => { calls with begun := calls.begun + 1 }
  | .clearPending => { calls with pending := [] }
  | .enterPostEvents .. => { calls with posters := calls.posters ++ [calls.begun] }
  | .postEventsToMessageQueue poster _ =>
      { calls with
        pending :=
          if pendingBefore < pendingAfter then calls.pending ++ [calls.posterBegan poster]
          else calls.pending
        written := record (calls.posterBegan poster) }
  | .proxy (.writeBlocking _) => { calls with written := record calls.frontBegan }
  | .proxy .popPendingWrites =>
      if pendingAfter < pendingBefore then { calls with pending := calls.pending.tail }
      else calls
  | _ => calls

/-- No event is written to a queue that was installed by a call after its poster began. -/
def Calls.NoneStale (calls : Calls) : Prop := ∀ write ∈ calls.written, write.1 ≤ write.2

instance (calls : Calls) : Decidable calls.NoneStale :=
  inferInstanceAs (Decidable (∀ _ ∈ _, _))

/-- The poster that a step takes to the queues. -/
def System.Action.posts : System.Action → Option Nat
  | .postEventsToMessageQueue poster _ => some poster
  | _ => none

/-- The condition on a step: a call of `postEvents` reaches the queues only while no `initialize`
that began after it has cleared the pending queue.
-/
def postsInTime (system : System) (calls : Calls) (action : System.Action) : Prop :=
  ∀ poster ∈ action.posts, calls.cleared system.initializer ≤ calls.posterBegan poster

instance (system : System) (calls : Calls) (action : System.Action)
    : Decidable (postsInTime system calls action) :=
  inferInstanceAs (Decidable (∀ _ ∈ _, _))

-----------------------------------------------------------------------------------------
-- The pending queue holds no stale batch
-----------------------------------------------------------------------------------------

/-- Queues are installed after the pending queue is cleared. -/
theorem Calls.installed_le_cleared (calls : Calls) (initializer : Initializer)
    : calls.installed initializer ≤ calls.cleared initializer := by
  unfold Calls.installed Calls.cleared
  cases initializer <;> simp [Initializer.hasInstalled, Initializer.hasCleared]

/-- Nothing stale was written, and no pending batch is older than the last clearing. -/
structure InTime (system : System) (calls : Calls) : Prop where
  length : calls.pending.length = system.mPendingWriteEventsQueue.length
  pending : ∀ began ∈ calls.pending, calls.cleared system.initializer ≤ began
  written : calls.NoneStale

variable {lookup : Lookup} {before after : System} {calls : Calls}

/-- Nothing stale is written when the events are not older than the last clearing. -/
theorem Calls.NoneStale.record (fresh : calls.NoneStale) {initializer : Initializer}
    {began : Nat} (inTime : calls.cleared initializer ≤ began) (wrote : Prop) [Decidable wrote]
    : ∀ write
        ∈ if wrote then calls.written ++ [(calls.installed initializer, began)]
          else calls.written,
        write.1 ≤ write.2 := by
  intro write member
  split at member
  · rcases List.mem_append.mp member with earlier | last
    · exact fresh write earlier
    · obtain rfl := List.mem_singleton.mp last
      exact Nat.le_trans (calls.installed_le_cleared initializer) inTime
  · exact fresh write member

/-- A step that leaves the pending queue and the clearing keeps what is in time. -/
theorem InTime.congr (inTime : InTime before calls)
    (queue : after.mPendingWriteEventsQueue = before.mPendingWriteEventsQueue)
    (cleared : after.initializer.hasCleared = before.initializer.hasCleared)
    : InTime after calls where
  length := by rw [queue, inTime.length]
  pending began member := by
    have before := inTime.pending began member
    rw [Calls.cleared] at before ⊢
    rwa [cleared]
  written := inTime.written

/-- A post in time puts a batch of its own age at the end. -/
theorem InTime.postEventsToMessageQueue {poster : Nat} {written : Bool}
    (inTime : InTime before calls)
    (taken : before.postEventsToMessageQueue lookup poster written = some after)
    (fresh : calls.cleared before.initializer ≤ calls.posterBegan poster)
    : InTime after
        (noteCalls calls before (.postEventsToMessageQueue poster written) after) := by
  obtain ⟨call, -, rfl⟩ := Option.map_eq_some_iff.mp taken
  have queued :=
    (HalProxy.postEventsToMessageQueue_frame before.setup
      { before.toHalProxy with
        mSensors := System.lookUp lookup before.mSensors call.subHalIndex call.events }
      (processEvents before.mSensors call.subHalIndex call.events).1
      (processEvents before.mSensors call.subHalIndex call.events).2
      call.wakelock.mLocked written).1
  rcases queued with same | ⟨batch, grown⟩
  · exact {
      length := by
        simp only [noteCalls, same, Nat.lt_irrefl, if_false]
        exact inTime.length
      pending := by
        simp only [noteCalls, same, Nat.lt_irrefl, if_false]
        exact inTime.pending
      written := inTime.written.record fresh _
    }
  · exact {
      length := by
        simp only [noteCalls, grown, List.length_append, List.length_singleton,
          Nat.lt_add_one, if_true, inTime.length]
      pending := by
        simp only [noteCalls, grown, List.length_append, List.length_singleton,
          Nat.lt_add_one, if_true]
        intro began member
        rcases List.mem_append.mp member with earlier | last
        · exact inTime.pending began earlier
        · rw [List.mem_singleton.mp last]
          exact fresh
      written := inTime.written.record fresh _
    }

/-- A blocking write takes events of the front batch, which is not stale. -/
theorem InTime.writeBlocking {written : Bool} {proxy : HalProxy} (inTime : InTime before calls)
    (taken : before.toHalProxy.writeBlocking before.setup written = some proxy)
    : InTime { before with toHalProxy := proxy }
        (noteCalls calls before (.proxy (.writeBlocking written))
          { before with toHalProxy := proxy }) := by
  obtain ⟨numWakeupEvents, _, events, _, rest, _, queue, outcome⟩ :=
    HalProxy.writeBlocking_eq_some taken
  have fresh : calls.cleared before.initializer ≤ calls.frontBegan := by
    have length := inTime.length
    rw [queue] at length
    cases front : calls.pending with
    | nil => simp [front] at length
    | cons began later =>
        rw [Calls.frontBegan, front]
        exact inTime.pending began (by simp [front])
  have same : proxy.mPendingWriteEventsQueue = before.mPendingWriteEventsQueue := by
    rcases outcome with ⟨_, _, rfl⟩ | ⟨_, rfl⟩
    · rfl
    · obtain ⟨_, _, dropped⟩ :=
        HalProxy.dropPendingWrites_frame before.setup before.toHalProxy events numWakeupEvents
      rw [dropped]
  exact {
    length := by
      rw [same]
      exact inTime.length
    pending := inTime.pending
    written := inTime.written.record fresh _
  }

/-- The end of an iteration takes a batch with its age. -/
theorem InTime.popPendingWrites {proxy : HalProxy} (inTime : InTime before calls)
    (taken : before.toHalProxy.popPendingWrites before.setup = some proxy)
    : InTime { before with toHalProxy := proxy }
        (noteCalls calls before (.proxy .popPendingWrites)
          { before with toHalProxy := proxy }) := by
  obtain ⟨_, events, _, rest, _, queue, rfl⟩ := HalProxy.popPendingWrites_eq_some taken
  have length := inTime.length
  rw [queue, List.length_cons] at length
  simp only [noteCalls, queue, List.length_cons]
  by_cases oversize : before.setup.quantumCount < events.length
  · simp only [oversize, if_true, List.length_cons, Nat.lt_irrefl, if_false]
    exact {
      length := by simp [length]
      pending := inTime.pending
      written := inTime.written
    }
  · simp only [oversize, if_false, Nat.lt_add_one, if_true]
    exact {
      length := by simp [length]
      pending := fun began member => inTime.pending began (List.mem_of_mem_tail member)
      written := inTime.written
    }

/-- So does every other step of the proxy's own. -/
theorem InTime.stepProxy {action : HalProxy.Action} (inTime : InTime before calls)
    (taken : before.stepProxy action = some after)
    : InTime after (noteCalls calls before (.proxy action) after) := by
  obtain ⟨proxy, moved, rfl⟩ := System.stepProxy_eq_some taken
  cases action with
  | postEvents index subHalIndex events written => cases taken
  | writeBlocking written => exact inTime.writeBlocking moved
  | popPendingWrites => exact inTime.popPendingWrites moved
  | createScopedWakelock | destroyScopedWakelock | takePendingWrites | checkWakelock
  | readWakeLock | readEvents | acknowledge | writeWakeLock | elapse =>
      exact inTime.congr (HalProxy.step_frame moved rfl).1 rfl

/-- Every step whose post is in time keeps what is in time. Clearing forgets the pending batches
with their ages, and counts from then on.
-/
theorem InTime.step {action : System.Action} (inTime : InTime before calls)
    (taken : before.step lookup action = some after) (fresh : postsInTime before calls action)
    : InTime after (noteCalls calls before action after) := by
  cases action with
  | stopThreads =>
      obtain ⟨idle, rfl⟩ := Option.ite_some_none_eq_some.mp taken
      exact {
        length := inTime.length
        pending := by
          intro began member
          have kept := inTime.pending began member
          rw [Calls.cleared, idle] at kept
          exact kept
        written := inTime.written
      }
  | joinThreads =>
      obtain ⟨⟨stopping, _⟩, rfl⟩ := Option.ite_some_none_eq_some.mp taken
      obtain ⟨_, _, same⟩ := before.toHalProxy.resetSharedWakelock_frame
      exact inTime.congr (by rw [same]) (by rw [stopping]; rfl)
  | disableAllSensors =>
      obtain ⟨joined, rfl⟩ := Option.ite_some_none_eq_some.mp taken
      exact inTime.congr rfl (by rw [joined]; rfl)
  | clearPending =>
      obtain ⟨disabled, rfl⟩ := Option.ite_some_none_eq_some.mp taken
      exact {
        length := rfl
        pending := fun began member => absurd member List.not_mem_nil
        written := inTime.written
      }
  | installQueues quantumCount =>
      obtain ⟨cleared, rfl⟩ := Option.ite_some_none_eq_some.mp taken
      exact inTime.congr rfl (by rw [cleared]; rfl)
  | startThreads =>
      obtain ⟨installed, rfl⟩ := Option.ite_some_none_eq_some.mp taken
      exact inTime.congr rfl (by rw [installed]; rfl)
  | initializeSubHals =>
      obtain ⟨started, rfl⟩ := Option.ite_some_none_eq_some.mp taken
      exact inTime.congr rfl (by rw [started]; rfl)
  | enterPostEvents index subHalIndex events =>
      obtain ⟨_, entered⟩ := Option.ite_none_right_eq_some.mp taken
      obtain ⟨wakelock, -, rfl⟩ := Option.map_eq_some_iff.mp entered
      exact { length := inTime.length, pending := inTime.pending, written := inTime.written }
  | checkThreads poster =>
      obtain ⟨call, -, rfl⟩ := Option.map_eq_some_iff.mp taken
      exact inTime.congr rfl rfl
  | postEventsToMessageQueue poster written =>
      exact inTime.postEventsToMessageQueue taken (fresh poster rfl)
  | returnPostEvents poster =>
      obtain ⟨call, -, rfl⟩ := Option.map_eq_some_iff.mp taken
      refine inTime.congr ?_ rfl
      dsimp only
      split
      · obtain ⟨_, _, same⟩ :=
          before.toHalProxy.decrementRefCount_frame 1 call.wakelock.mCreatedAtTimeNs
        rw [same]
      · rfl
  | dynamicSensorsConnected subHalIndex sensors =>
      obtain ⟨_, rfl⟩ := Option.ite_some_none_eq_some.mp taken
      exact inTime.congr rfl rfl
  | dynamicSensorsDisconnected subHalIndex handles =>
      obtain ⟨_, rfl⟩ := Option.ite_some_none_eq_some.mp taken
      exact inTime.congr rfl rfl
  | proxy action => exact inTime.stepProxy taken

/-- The proxy with the history of its calls. -/
def callsMachine (lookup : Lookup) : Machine (System × Calls) System.Action :=
  (systemMachine lookup).observe noteCalls

/-- In every run in which each call of `postEvents` reaches the queues before an `initialize`
that began after it clears the pending queue, no event is written to a queue that was installed
after its poster began.
-/
theorem noneStale_of_postsInTime (lookup : Lookup) (subHals : List (List SensorInfo))
    (setup : Setup) (now : Int) (actions : List System.Action)
    (inTime
      : (callsMachine lookup).Along (fun state action _ => postsInTime state.1 state.2 action)
          (System.constructed subHals setup now, {}) actions)
    : (callsMachine lookup).Always (fun state => state.2.NoneStale)
        (System.constructed subHals setup now, {}) actions := by
  refine Machine.observe_always_of_invariant (fun state => InTime state.1 state.2) ?_ ?_ ?_ inTime
  · exact fun system calls sound => sound.written
  · intro system calls action next sound taken fresh
    exact sound.step taken fresh
  · exact {
      length := rfl
      pending := fun began member => absurd member List.not_mem_nil
      written := fun write member => absurd member List.not_mem_nil
    }

/-- Three events are posted between two calls. The pending one is cleared. -/
theorem noneStale_of_postsInTime_between
    : (callsMachine SensorTable.touch).Always (fun state => state.2.NoneStale)
        (.constructed [[]] singleEventSetup 0, {})
        (initializeCommon 1
          ++ [.proxy (.createScopedWakelock false), .enterPostEvents 0 0 [sample 1, sample 2],
            .checkThreads 0, .postEventsToMessageQueue 0 true, .returnPostEvents 0]
          ++ initializeCommon 1
          ++ [.proxy (.createScopedWakelock false), .enterPostEvents 0 0 [sample 3],
            .checkThreads 1, .postEventsToMessageQueue 1 true]) :=
  noneStale_of_postsInTime _ _ _ _ _ (by decide +kernel)

/-- A sub-HAL has found the threads running when the second call begins, and posts when it is
over: the event goes to the queue of the second call.
-/
theorem noneStale_fails_second_call
    : ¬(callsMachine SensorTable.touch).Always (fun state => state.2.NoneStale)
        (.constructed [[]] singleEventSetup 0, {})
        (initializeCommon 1
          ++ [.proxy (.createScopedWakelock false), .enterPostEvents 0 0 [sample 1],
            .checkThreads 0]
          ++ initializeCommon 1
          ++ [.postEventsToMessageQueue 0 true]) := by
  decide +kernel

end PongDevice.Sensors
