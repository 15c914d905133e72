import Mathlib.Algebra.Ring.Nat
import PongDevice.Sensors.PendingWrites

/-! What the shared reference count counts. References are taken for a whole batch, and given
back by the framework event by event or in bulk for a chunk that is lost; the overflow test
drops events but none of their references.
-/

namespace PongDevice.Sensors

open Transition

namespace SensorTable

@[simp]
theorem numWakeUp_nil (mSensors : SensorTable) : mSensors.numWakeUp [] = 0 := rfl

@[simp]
theorem numWakeUp_append (mSensors : SensorTable) (first second : List Event)
    : mSensors.numWakeUp (first ++ second)
      = mSensors.numWakeUp first + mSensors.numWakeUp second :=
  List.countP_append

/-- The wake-up events in front and those behind are all of them. -/
theorem numWakeUp_take_add_drop (mSensors : SensorTable) (count : Nat) (events : List Event)
    : mSensors.numWakeUp (events.take count) + mSensors.numWakeUp (events.drop count)
      = mSensors.numWakeUp events := by
  rw [← numWakeUp_append, List.take_append_drop]

/-- Tables that read alike count alike. -/
theorem numWakeUp_congr {mSensors other : SensorTable}
    (same : other.getSensorInfo = mSensors.getSensorInfo)
    : other.numWakeUp = mSensors.numWakeUp := by
  funext events
  simp only [numWakeUp, isWakeUp, same]

end SensorTable

/-- The iterations count the wake-up events, and leave a table that reads alike, by induction
over the events.
-/
theorem foldl_countWakeupEvent (events : List Event) (numWakeupEvents : Nat)
    (mSensors : SensorTable)
    : (events.foldl HalProxy.countWakeupEvent (numWakeupEvents, mSensors)).1
        = numWakeupEvents + mSensors.numWakeUp events
      ∧ (events.foldl HalProxy.countWakeupEvent (numWakeupEvents, mSensors)).2.getSensorInfo
        = mSensors.getSensorInfo := by
  induction events generalizing numWakeupEvents mSensors with
  | nil => exact ⟨rfl, rfl⟩
  | cons event rest ih =>
      have same := mSensors.getSensorInfo_touch event.sensorHandle
      obtain ⟨count, reads⟩ :=
        ih (if mSensors.isWakeUp event.sensorHandle then numWakeupEvents + 1
          else numWakeupEvents) (mSensors.touch event.sensorHandle)
      refine ⟨count.trans ?_, reads.trans same⟩
      rw [SensorTable.numWakeUp_congr same]
      simp only [SensorTable.numWakeUp, List.countP_cons]
      split <;> omega

/-- The lookups count the wake-up events among the first `n`, and leave a table that reads
alike.
-/
theorem countNumWakeupEvents_spec (mSensors : SensorTable) (events : List Event) (n : Nat)
    : (HalProxy.countNumWakeupEvents mSensors events n).1 = mSensors.numWakeUp (events.take n)
      ∧ (HalProxy.countNumWakeupEvents mSensors events n).2.getSensorInfo
        = mSensors.getSensorInfo := by
  simpa [HalProxy.countNumWakeupEvents] using
    foldl_countWakeupEvent (events.take n) 0 mSensors

-----------------------------------------------------------------------------------------
-- The references that should be counted
-----------------------------------------------------------------------------------------

namespace HalProxy

/-- The live scoped wakelocks that hold a reference. -/
def liveWakelocks (proxy : HalProxy) : Nat :=
  proxy.scopedWakelocks.countP (·.mLocked)

/-- One reference for each locked wakelock and for each wake-up event that is pending, in the
event queue, or read and not acknowledged; an acknowledgement counts from the moment when the
wakelock thread takes it.
-/
def references (proxy : HalProxy) : Nat :=
  proxy.liveWakelocks
    + (proxy.mSensors.numWakeUp proxy.eventQueues.pending
      + proxy.mSensors.numWakeUp proxy.mEventQueue)
    + (proxy.unacknowledged.sum + proxy.mWakeLockQueue.sum)

/-- The count is the number of references that should be counted. -/
def CountsReferences (proxy : HalProxy) : Prop :=
  proxy.mWakelockRefCount = proxy.references

instance : DecidablePred CountsReferences :=
  fun _ => inferInstanceAs (Decidable (_ = _))

/-- No timeout resets the count, and the framework acknowledges exactly what it has read. -/
def NoReset (setup : Setup) (before : HalProxy) (action : Action) (_ : HalProxy) : Prop :=
  match action with
  | .checkWakelock => before.sharedWakelockDidTimeout setup = false
  | .writeWakeLock _ => False
  | _ => True

/-- A batch posted with a locked wakelock loses no wake-up event to the overflow test, and
one posted without it brings none into the queues.
-/
def CountsBatch (setup : Setup) (proxy : HalProxy) (events : List Event) (written : Bool)
    (isLocked : Bool)
    : Prop :=
  let numToWrite := proxy.numToWrite setup events written
  match isLocked with
  | true =>
      proxy.fitsPending setup events written = false
      → proxy.mSensors.numWakeUp (events.drop numToWrite) = 0
  | false =>
      proxy.mSensors.numWakeUp (events.take numToWrite) = 0
      ∧ (proxy.fitsPending setup events written = true
        → proxy.mSensors.numWakeUp (events.drop numToWrite) = 0)

/-- Batches bring in what is counted for them. A failed write of the last chunk of a batch
finds no wake-up event of the batch gone before, or no reference counted but those of the
chunk.
-/
def KeepsReferences (setup : Setup) (before : HalProxy) (action : Action) (_ : HalProxy)
    : Prop :=
  match action with
  | .postEvents index _ _ written =>
      before.CountsBatch setup (before.postedBy action) written
        ((before.scopedWakelocks[index]?).any (·.mLocked))
  | .writeBlocking false =>
      ∀ pending ∈ before.mPendingWriteEventsQueue.head?,
        pending.1.length ≤ setup.quantumCount
        → pending.2 = before.mSensors.numWakeUp pending.1
          ∨ before.mWakelockRefCount = before.mSensors.numWakeUp pending.1
  | _ => True

instance (setup : Setup) (proxy : HalProxy) (events : List Event) (written : Bool)
    : ∀ isLocked, Decidable (proxy.CountsBatch setup events written isLocked)
  | true => inferInstanceAs (Decidable (_ = _ → _ = _))
  | false => inferInstanceAs (Decidable (_ = _ ∧ (_ = _ → _ = _)))

instance (setup : Setup) : ∀ before action after, Decidable (NoReset setup before action after)
  | before, .checkWakelock, _ =>
      inferInstanceAs (Decidable (before.sharedWakelockDidTimeout setup = false))
  | _, .writeWakeLock _, _ => inferInstanceAs (Decidable False)
  | _, .createScopedWakelock _, _ | _, .postEvents _ _ _ _, _
  | _, .destroyScopedWakelock _, _ | _, .takePendingWrites, _ | _, .writeBlocking _, _
  | _, .popPendingWrites, _ | _, .readWakeLock _, _ | _, .readEvents _, _
  | _, .acknowledge _, _ | _, .elapse _, _ => inferInstanceAs (Decidable True)

instance (setup : Setup)
    : ∀ before action after, Decidable (KeepsReferences setup before action after)
  | before, .postEvents _ _ _ written, _ =>
      inferInstanceAs (Decidable (before.CountsBatch setup _ written _))
  | before, .writeBlocking false, _ =>
      inferInstanceAs
        (Decidable (∀ pending ∈ before.mPendingWriteEventsQueue.head?, _ ≤ _ → _ = _ ∨ _ = _))
  | _, .writeBlocking true, _ | _, .createScopedWakelock _, _ | _, .checkWakelock, _
  | _, .destroyScopedWakelock _, _ | _, .takePendingWrites, _ | _, .popPendingWrites, _
  | _, .readWakeLock _, _ | _, .readEvents _, _ | _, .acknowledge _, _
  | _, .writeWakeLock _, _ | _, .elapse _, _ => inferInstanceAs (Decidable True)

/-- The threads run, a chunk under way is in front, no batch has more wake-up events left
than were stored for it, and no live wakelock is older than the last reset.
-/
structure Counting (setup : Setup) (proxy : HalProxy) : Prop where
  running : proxy.mThreadsRun = true
  front : proxy.eventQueues.ChunkInFront setup
  stored
    : ∀ pending ∈ proxy.mPendingWriteEventsQueue,
        proxy.mSensors.numWakeUp pending.1 ≤ pending.2
  current
    : ∀ wakelock ∈ proxy.scopedWakelocks,
        proxy.mWakelockTimeoutResetTime ≤ wakelock.mCreatedAtTimeNs
  clock : proxy.mWakelockTimeoutResetTime ≤ proxy.now

-----------------------------------------------------------------------------------------
-- Wakelocks
-----------------------------------------------------------------------------------------

/-- Taking references adds them to the count and to nothing that holds any. -/
theorem references_increment {proxy : HalProxy} (running : proxy.mThreadsRun = true)
    (delta : Nat)
    : (proxy.incrementRefCountAndMaybeAcquireWakelock delta).1.references = proxy.references
      ∧ (proxy.incrementRefCountAndMaybeAcquireWakelock delta).1.mWakelockRefCount
        = proxy.mWakelockRefCount + delta := by
  rw [incrementRefCount_eq running]
  exact ⟨rfl, rfl⟩

/-- Giving references back changes nothing that holds any. -/
@[simp]
theorem references_decrement (proxy : HalProxy) (delta : Nat) (timeoutStart : Int)
    : (proxy.decrementRefCountAndMaybeReleaseWakelock delta timeoutStart).references
      = proxy.references := by
  obtain ⟨_, _, same⟩ := proxy.decrementRefCount_frame delta timeoutStart
  rw [same]
  rfl

/-- Giving references back leaves the count exact when it was that much too high. -/
theorem countsReferences_decrement {proxy : HalProxy} (running : proxy.mThreadsRun = true)
    {timeoutStart : Int}
    (current : timeoutStart = -1 ∨ proxy.mWakelockTimeoutResetTime ≤ timeoutStart)
    (delta : Nat)
    : (proxy.decrementRefCountAndMaybeReleaseWakelock delta timeoutStart).CountsReferences
      ↔ proxy.mWakelockRefCount - delta = proxy.references := by
  rw [CountsReferences, references_decrement, mWakelockRefCount_decrement running current]

/-- Creating a wakelock takes the reference that it holds. -/
theorem CountsReferences.createScopedWakelock {proxy : HalProxy}
    (exact : proxy.CountsReferences) (running : proxy.mThreadsRun = true) (lock : Bool)
    : (proxy.createScopedWakelock lock).CountsReferences := by
  unfold CountsReferences references liveWakelocks at exact ⊢
  cases lock with
  | true =>
      simp only [HalProxy.createScopedWakelock, if_true, incrementRefCount_eq running,
        List.countP_append, List.countP_singleton]
      simp only [eventQueues] at exact ⊢
      omega
  | false => simpa [HalProxy.createScopedWakelock, eventQueues] using exact

/-- The element that is erased and those that stay are the list. -/
theorem perm_cons_eraseIdx {α : Type*} {values : List α} {index : Nat} {value : α}
    (found : values[index]? = some value)
    : (value :: values.eraseIdx index).Perm values := by
  obtain ⟨inside, rfl⟩ := List.getElem?_eq_some_iff.mp found
  exact List.getElem_cons_eraseIdx_perm inside

/-- Destroying a wakelock gives its reference back, which no reset has made stale. -/
theorem CountsReferences.destroyScopedWakelock {setup : Setup} {before after : HalProxy}
    (exact : before.CountsReferences) (counting : before.Counting setup) {index : Nat}
    (taken : before.destroyScopedWakelock index = some after)
    : after.CountsReferences := by
  obtain ⟨wakelock, found, released⟩ := destroyScopedWakelock_eq_some taken
  have live := (perm_cons_eraseIdx found).countP_eq (·.mLocked)
  have current := counting.current wakelock (List.mem_of_getElem? found)
  simp only [CountsReferences, references, liveWakelocks, eventQueues] at exact
  rw [List.countP_cons] at live
  rcases released with ⟨locked, rfl⟩ | ⟨unlocked, rfl⟩
  · refine (countsReferences_decrement ?_ (.inr ?_) 1).mpr ?_
    · exact counting.running
    · exact current
    · simp only [locked, if_true] at live
      simp only [references, liveWakelocks, eventQueues]
      omega
  · simp only [unlocked, Bool.false_eq_true, if_false, Nat.add_zero] at live
    simpa only [CountsReferences, references, liveWakelocks, eventQueues, live] using exact

-----------------------------------------------------------------------------------------
-- Batches
-----------------------------------------------------------------------------------------

/-- A wakelock keeps its reference when it is moved. -/
theorem references_moveWakelock {proxy : HalProxy} {index : Nat} {wakelock : ScopedWakelock}
    (found : proxy.scopedWakelocks[index]? = some wakelock)
    : (proxy.moveWakelock index wakelock).references = proxy.references := by
  have locks : (proxy.scopedWakelocks.set index { wakelock with moved := true }).map
        (·.mLocked)
      = proxy.scopedWakelocks.map (·.mLocked) := by
    obtain ⟨inside, rfl⟩ := List.getElem?_eq_some_iff.mp found
    rw [List.map_set]
    refine List.ext_getElem? (fun other => ?_)
    by_cases same : index = other
    · subst same
      simp [inside]
    · simp [same]
  have live : (proxy.moveWakelock index wakelock).liveWakelocks = proxy.liveWakelocks := by
    have counted := congrArg (List.countP id) locks
    rw [List.countP_map, List.countP_map] at counted
    exact counted
  simp only [references, live]
  rfl

/-- A moved wakelock is as old as it was. -/
theorem Counting.moveWakelock {setup : Setup} {proxy : HalProxy}
    (counting : proxy.Counting setup) {index : Nat} {wakelock : ScopedWakelock}
    (found : proxy.scopedWakelocks[index]? = some wakelock)
    : (proxy.moveWakelock index wakelock).Counting setup :=
  { counting with
    current := by
      intro other member
      rcases List.mem_or_eq_of_mem_set member with kept | rfl
      · exact counting.current other kept
      · exact counting.current wakelock (List.mem_of_getElem? found)
  }

/-- The wake-up events that a batch brings into the queues. -/
def accepted (setup : Setup) (proxy : HalProxy) (events : List Event) (written : Bool) : Nat :=
  proxy.mSensors.numWakeUp (events.take (proxy.numToWrite setup events written))
  + if proxy.fitsPending setup events written then
      proxy.mSensors.numWakeUp (events.drop (proxy.numToWrite setup events written))
    else 0

/-- Queueing a batch adds a reference for each wake-up event that it brings in. -/
theorem references_post {setup : Setup} {proxy : HalProxy}
    (front : proxy.eventQueues.ChunkInFront setup) (events : List Event)
    (numWakeupEvents : Nat) (written : Bool)
    : (proxy.postEventsToMessageQueue setup events numWakeupEvents false written).references
        = proxy.references + proxy.accepted setup events written
      ∧ (proxy.postEventsToMessageQueue setup events numWakeupEvents false
          written).mWakelockRefCount
        = proxy.mWakelockRefCount := by
  have thread : (proxy.postEventsToMessageQueue setup events numWakeupEvents false
        written).eventQueues.pendingWritesThread = proxy.eventQueues.pendingWritesThread := by
    rw [postEventsToMessageQueue_unlocked]
    rfl
  have queued : (proxy.postEventsToMessageQueue setup events numWakeupEvents false
        written).eventQueues.queued
      = proxy.eventQueues.queued
        ++ if proxy.fitsPending setup events written then
            events.drop (proxy.numToWrite setup events written)
          else [] := by
    rw [postEventsToMessageQueue_unlocked]
    cases proxy.fitsPending setup events written <;>
      simp [eventQueues, EventQueues.queued]
  have pending := front.pending_append thread _ queued
  refine ⟨?_, by rw [postEventsToMessageQueue_unlocked]⟩
  rw [references, pending, postEventsToMessageQueue_unlocked]
  simp only [references, liveWakelocks, accepted, SensorTable.numWakeUp_append]
  cases fits : proxy.fitsPending setup events written <;> simp <;> omega

/-- A batch accounts for itself exactly when its references are those of the events that it
brings in.
-/
theorem CountsReferences.post_iff {setup : Setup} {proxy : HalProxy}
    (exact : proxy.CountsReferences) (counting : proxy.Counting setup) (events : List Event)
    (isLocked written : Bool)
    : (proxy.postEventsToMessageQueue setup events (proxy.mSensors.numWakeUp events) isLocked
          written).CountsReferences
      ↔ (if isLocked then proxy.mSensors.numWakeUp events else 0)
        = proxy.accepted setup events written := by
  unfold CountsReferences at exact ⊢
  cases isLocked with
  | true =>
      obtain ⟨same, count⟩ :=
        references_increment counting.running (proxy.mSensors.numWakeUp events)
      have front : (proxy.incrementRefCountAndMaybeAcquireWakelock
          (proxy.mSensors.numWakeUp events)).1.eventQueues.ChunkInFront setup := by
        rw [eventQueues_increment]
        exact counting.front
      obtain ⟨held, kept⟩ :=
        references_post front events (proxy.mSensors.numWakeUp events) written
      have accepts : (proxy.incrementRefCountAndMaybeAcquireWakelock
            (proxy.mSensors.numWakeUp events)).1.accepted setup events written
          = proxy.accepted setup events written := by
        rw [incrementRefCount_eq counting.running]
        rfl
      rw [postEventsToMessageQueue_locked, held, kept, same, count, accepts]
      simp only [if_true]
      omega
  | false =>
      obtain ⟨held, kept⟩ :=
        references_post counting.front events (proxy.mSensors.numWakeUp events) written
      rw [held, kept]
      simp only [Bool.false_eq_true, if_false]
      omega

/-- The rule for a batch says that it brings in what its wakelock counts references for. -/
theorem keepsReferences_post_iff {setup : Setup} {proxy after : HalProxy} {index : Nat}
    {wakelock : ScopedWakelock} (found : proxy.scopedWakelocks[index]? = some wakelock)
    (running : proxy.mThreadsRun = true) {subHalIndex : Nat} {events : List Event}
    {written : Bool}
    : proxy.KeepsReferences setup (.postEvents index subHalIndex events written) after
      ↔ (if wakelock.mLocked then
            proxy.mSensors.numWakeUp (processEvents proxy.mSensors subHalIndex events).1
          else 0)
        = proxy.accepted setup (processEvents proxy.mSensors subHalIndex events).1
            written := by
  simp only [KeepsReferences, CountsBatch, postedBy, running, found, if_true, Option.any_some,
    accepted]
  generalize (processEvents proxy.mSensors subHalIndex events).1 = kept
  have split :=
    proxy.mSensors.numWakeUp_take_add_drop (proxy.numToWrite setup kept written) kept
  cases wakelock.mLocked <;> cases proxy.fitsPending setup kept written <;>
    simp <;> omega

/-- Giving references back for a chunk changes nothing that holds any. -/
theorem references_drop (setup : Setup) (proxy : HalProxy) (pendingWriteEvents : List Event)
    (numWakeupEvents : Nat) (thread : PendingWritesThread)
    : { proxy.dropPendingWrites setup pendingWriteEvents numWakeupEvents with
        pendingWritesThread := thread
      }.references
      = { proxy with pendingWritesThread := thread }.references := by
  have reads :=
    (countNumWakeupEvents_spec proxy.mSensors pendingWriteEvents setup.quantumCount).2
  unfold dropPendingWrites
  split
  · split
    · dsimp only
      generalize countNumWakeupEvents proxy.mSensors pendingWriteEvents setup.quantumCount
        = counted at reads ⊢
      obtain ⟨_, _, same⟩ :=
        { proxy with mSensors := counted.2 }.decrementRefCount_frame counted.1 (-1)
      rw [same]
      simp only [references, SensorTable.numWakeUp_congr reads]
      rfl
    · obtain ⟨_, _, same⟩ := proxy.decrementRefCount_frame numWakeupEvents (-1)
      rw [same]
      rfl
  · rfl

/-- How many references a lost chunk gives back. -/
theorem mWakelockRefCount_drop {setup : Setup} {proxy : HalProxy}
    (running : proxy.mThreadsRun = true) (pendingWriteEvents : List Event)
    (numWakeupEvents : Nat)
    : (proxy.dropPendingWrites setup pendingWriteEvents numWakeupEvents).mWakelockRefCount
      = proxy.mWakelockRefCount
        - if numWakeupEvents = 0 then 0
          else if setup.quantumCount < pendingWriteEvents.length then
            proxy.mSensors.numWakeUp (pendingWriteEvents.take setup.quantumCount)
          else numWakeupEvents := by
  have delta :=
    (countNumWakeupEvents_spec proxy.mSensors pendingWriteEvents setup.quantumCount).1
  unfold dropPendingWrites
  rcases Nat.eq_zero_or_pos numWakeupEvents with rfl | some
  · rfl
  · simp only [some, if_true, Nat.ne_of_gt some, if_false]
    split
    · rw [← delta]
      refine mWakelockRefCount_decrement ?_ (.inl rfl) _
      exact running
    · exact mWakelockRefCount_decrement running (.inl rfl) _

/-- Finishing a chunk takes the references of its events out of the pending ones. -/
theorem references_finish {setup : Setup} {proxy : HalProxy}
    (counting : proxy.Counting setup) {numWakeupEvents numToWrite stored : Nat}
    {pendingWriteEvents : List Event} {rest : List (List Event × Nat)}
    (writing : proxy.pendingWritesThread = .writing numWakeupEvents numToWrite)
    (queue : proxy.mPendingWriteEventsQueue = (pendingWriteEvents, stored) :: rest)
    : { proxy with pendingWritesThread := .written numToWrite }.references
        + proxy.mSensors.numWakeUp (pendingWriteEvents.take numToWrite)
      = proxy.references := by
  have chunk := counting.front.take_pending writing queue
  have split :=
    proxy.mSensors.numWakeUp_take_add_drop numToWrite proxy.eventQueues.pending
  have finished :
      ({ proxy with pendingWritesThread := .written numToWrite } : HalProxy).eventQueues.pending
      = proxy.eventQueues.pending.drop numToWrite := by
    simp [eventQueues, EventQueues.pending, EventQueues.queued, writing]
  rw [chunk] at split
  simp only [references, finished, liveWakelocks]
  omega

/-- A chunk whose write failed gives back its own references unless it is the last one of a
batch, which gives back what was stored for the whole batch.
-/
theorem CountsReferences.drop_iff {setup : Setup} {proxy : HalProxy}
    (exact : proxy.CountsReferences) (counting : proxy.Counting setup)
    {numWakeupEvents numToWrite : Nat} {pendingWriteEvents : List Event}
    {rest : List (List Event × Nat)}
    (writing : proxy.pendingWritesThread = .writing numWakeupEvents numToWrite)
    (queue : proxy.mPendingWriteEventsQueue = (pendingWriteEvents, numWakeupEvents) :: rest)
    : { proxy.dropPendingWrites setup pendingWriteEvents numWakeupEvents with
        pendingWritesThread := .written numToWrite
      }.CountsReferences
      ↔ (pendingWriteEvents.length ≤ setup.quantumCount
        → numWakeupEvents = proxy.mSensors.numWakeUp pendingWriteEvents
          ∨ proxy.mWakelockRefCount = proxy.mSensors.numWakeUp pendingWriteEvents) := by
  have finish := references_finish counting writing queue
  have count := (counting.front.of_writing writing queue).1
  have stored : proxy.mSensors.numWakeUp pendingWriteEvents ≤ numWakeupEvents :=
    counting.stored (pendingWriteEvents, numWakeupEvents) (by simp [queue])
  rw [← exact] at finish
  rw [CountsReferences, references_drop]
  change (proxy.dropPendingWrites setup pendingWriteEvents numWakeupEvents).mWakelockRefCount
    = _ ↔ _
  rw [mWakelockRefCount_drop counting.running]
  rcases Nat.eq_zero_or_pos numWakeupEvents with rfl | some
  · -- nothing was stored, so the chunk holds no wake-up event
    have split := proxy.mSensors.numWakeUp_take_add_drop numToWrite pendingWriteEvents
    simp only [if_true]
    refine iff_of_true (by omega) (fun _ => .inl ?_)
    exact (Nat.le_zero.mp stored).symm
  · rw [if_neg (Nat.ne_of_gt some)]
    split
    · rename_i long
      rw [count, Nat.min_eq_right (Nat.le_of_lt long)] at finish
      refine iff_of_true ?_ (fun last => absurd last (Nat.not_le.mpr long))
      rw [count, Nat.min_eq_right (Nat.le_of_lt long)]
      omega
    · rename_i last
      have all : pendingWriteEvents.take numToWrite = pendingWriteEvents :=
        List.take_of_length_le (by omega)
      rw [all] at finish
      simp only [Nat.not_lt.mp last, true_imp_iff]
      omega

/-- An acknowledgement gives back the references of what was read. -/
theorem CountsReferences.readWakeLock {setup : Setup} {before after : HalProxy}
    (exact : before.CountsReferences) (counting : before.Counting setup) {success : Bool}
    (taken : before.readWakeLock success = some after)
    : after.CountsReferences := by
  rcases readWakeLock_eq_some taken with ⟨numWakeLocksProcessed, queue, found, rfl⟩ | rfl
  · refine (countsReferences_decrement ?_ (.inl rfl) _).mpr ?_
    · exact counting.running
    · simp only [CountsReferences, references, liveWakelocks, eventQueues, found,
        List.sum_cons] at exact ⊢
      omega
  · exact exact

/-- Reading moves the references of events to the acknowledgement that is owed for them. -/
theorem CountsReferences.readEvents {before after : HalProxy}
    (exact : before.CountsReferences) {count : Nat}
    (taken : before.readEvents count = some after)
    : after.CountsReferences := by
  obtain ⟨_, rfl⟩ := readEvents_eq_some taken
  have split := before.mSensors.numWakeUp_take_add_drop count before.mEventQueue
  have pending : ({ before with mEventQueue := before.mEventQueue.drop count } :
      HalProxy).eventQueues.pending = before.eventQueues.pending := rfl
  simp only [CountsReferences, references, liveWakelocks, eventQueues, EventQueues.pending,
    EventQueues.queued, List.sum_append, List.sum_singleton] at exact ⊢
  omega

/-- Sending an acknowledgement keeps what it stands for. -/
theorem CountsReferences.acknowledge {before after : HalProxy}
    (exact : before.CountsReferences) {index : Nat}
    (taken : before.acknowledge index = some after)
    : after.CountsReferences := by
  obtain ⟨numWakeLocksProcessed, found, rfl⟩ := Option.map_eq_some_iff.mp taken
  have owed := (perm_cons_eraseIdx found).sum_nat
  simp only [CountsReferences, references, liveWakelocks, eventQueues, List.sum_append,
    List.sum_cons, List.sum_nil] at exact owed ⊢
  omega

/-- A step counts every reference exactly when it meets the rule. -/
theorem CountsReferences.step_iff {setup : Setup} {before after : HalProxy}
    {action : Action} (exact : before.CountsReferences) (counting : before.Counting setup)
    (taken : (halProxyMachine setup).step before action = some after)
    (kept : before.NoReset setup action after)
    : after.CountsReferences ↔ before.KeepsReferences setup action after := by
  cases action with
  | createScopedWakelock lock =>
      obtain rfl := Option.some.inj taken
      exact iff_of_true (exact.createScopedWakelock counting.running lock) trivial
  | postEvents index subHalIndex events written =>
      rcases postEvents_eq_some taken with
        ⟨wakelock, found, _, ⟨idle, rfl⟩ | ⟨busy, running, rfl⟩⟩
      · have none : events = [] := idle.resolve_right (by simp [counting.running])
        refine iff_of_true (exact.trans (references_moveWakelock found).symm) ?_
        cases locked : wakelock.mLocked <;>
          simp [none, KeepsReferences, CountsBatch, postedBy, processEvents, found, locked]
      · have moved : (before.moveWakelock index wakelock).CountsReferences :=
          exact.trans (references_moveWakelock found).symm
        have posted := moved.post_iff (counting.moveWakelock found)
          (processEvents before.mSensors subHalIndex events).1 wakelock.mLocked written
        rw [processEvents_numWakeupEvents, keepsReferences_post_iff found running]
        exact posted
  | destroyScopedWakelock index =>
      exact iff_of_true (exact.destroyScopedWakelock counting taken) trivial
  | takePendingWrites =>
      obtain ⟨_, _, _, waiting, _, rfl⟩ := takePendingWrites_eq_some taken
      refine iff_of_true ?_ trivial
      simp only [CountsReferences, references, liveWakelocks, eventQueues,
        EventQueues.pending, EventQueues.queued, waiting] at exact ⊢
      exact exact
  | writeBlocking written =>
      rcases writeBlocking_eq_some taken with
        ⟨numWakeupEvents, numToWrite, pendingWriteEvents, stored, rest, writing, queue,
        ⟨rfl, room, rfl⟩ | ⟨rfl, rfl⟩⟩
      · refine iff_of_true ?_ trivial
        have finish := references_finish counting writing queue
        simp only [CountsReferences, references, liveWakelocks, eventQueues,
          EventQueues.pending, EventQueues.queued, SensorTable.numWakeUp_append] at exact finish ⊢
        omega
      · obtain rfl := (counting.front.of_writing writing queue).2
        rw [exact.drop_iff counting writing queue]
        simp [KeepsReferences, queue]
  | popPendingWrites =>
      obtain ⟨_, _, _, _, written, queue, rfl⟩ := popPendingWrites_eq_some taken
      refine iff_of_true ?_ trivial
      have same := counting.front.pending_pop written queue
      simp only [CountsReferences, references, liveWakelocks] at exact ⊢
      rw [exact, ← same]
      rfl
  | checkWakelock =>
      rcases checkWakelock_eq_some taken with ⟨timeout, _⟩ | ⟨_, rfl⟩
      · simp [NoReset, timeout] at kept
      · exact iff_of_true exact trivial
  | readWakeLock success => exact iff_of_true (exact.readWakeLock counting taken) trivial
  | readEvents count => exact iff_of_true (exact.readEvents taken) trivial
  | acknowledge index => exact iff_of_true (exact.acknowledge taken) trivial
  | writeWakeLock numWakeLocksProcessed => exact kept.elim
  | elapse nanos =>
      obtain rfl := Option.some.inj taken
      exact iff_of_true exact trivial

/-- Taking references makes no live wakelock stale. -/
theorem Counting.increment {setup : Setup} {proxy : HalProxy}
    (counting : proxy.Counting setup) (delta : Nat)
    : (proxy.incrementRefCountAndMaybeAcquireWakelock delta).1.Counting setup := by
  rw [incrementRefCount_eq counting.running]
  exact { counting with }

/-- Giving references back makes no live wakelock stale. -/
theorem Counting.decrement {setup : Setup} {proxy : HalProxy}
    (counting : proxy.Counting setup) (delta : Nat) (timeoutStart : Int)
    : (proxy.decrementRefCountAndMaybeReleaseWakelock delta timeoutStart).Counting setup := by
  obtain ⟨_, _, same⟩ := proxy.decrementRefCount_frame delta timeoutStart
  rw [same]
  exact { counting with }

/-- A wakelock that is created now is no older than the last reset. -/
theorem Counting.createScopedWakelock {setup : Setup} {proxy : HalProxy}
    (counting : proxy.Counting setup) (lock : Bool)
    : (proxy.createScopedWakelock lock).Counting setup := by
  have current : ∀ mLocked, ∀ wakelock ∈
        proxy.scopedWakelocks
          ++ [({ mLocked, mCreatedAtTimeNs := proxy.now } : ScopedWakelock)],
      proxy.mWakelockTimeoutResetTime ≤ wakelock.mCreatedAtTimeNs := by
    intro mLocked wakelock member
    rcases List.mem_append.mp member with earlier | last
    · exact counting.current wakelock earlier
    · obtain rfl := List.mem_singleton.mp last
      exact counting.clock
  cases lock with
  | true =>
      simp only [HalProxy.createScopedWakelock, if_true,
        incrementRefCount_eq counting.running]
      exact { counting with current := current true }
  | false => exact { counting with current := current false }

/-- A batch is stored with all of its wake-up events, of which a part may be left. -/
theorem Counting.post {setup : Setup} {proxy : HalProxy} (counting : proxy.Counting setup)
    (events : List Event) (isLocked written : Bool)
    : (proxy.postEventsToMessageQueue setup events (proxy.mSensors.numWakeUp events) isLocked
        written).Counting setup := by
  have unlocked : ∀ counted : HalProxy,
      counted.Counting setup
      → counted.mSensors = proxy.mSensors
      → (counted.postEventsToMessageQueue setup events (proxy.mSensors.numWakeUp events) false
          written).Counting setup := by
    intro counted sound table
    have front :=
      (queueStep_post setup counted events (proxy.mSensors.numWakeUp events) false
        written).chunkInFront sound.front
    rw [postEventsToMessageQueue_unlocked] at front ⊢
    refine { sound with front, stored := ?_ }
    dsimp only
    split
    · intro pending member
      rcases List.mem_append.mp member with earlier | last
      · exact sound.stored pending earlier
      · obtain rfl := List.mem_singleton.mp last
        have split := proxy.mSensors.numWakeUp_take_add_drop
          (counted.numToWrite setup events written) events
        rw [table]
        dsimp only
        omega
    · exact sound.stored
  cases isLocked with
  | true =>
      rw [postEventsToMessageQueue_locked]
      refine unlocked _ (counting.increment _) ?_
      rw [incrementRefCount_eq counting.running]
  | false => exact unlocked proxy counting rfl

/-- A chunk that was lost leaves the batches behind it as they were stored. -/
theorem Counting.drop {setup : Setup} {proxy : HalProxy} (counting : proxy.Counting setup)
    (pendingWriteEvents : List Event) (numWakeupEvents : Nat)
    : (proxy.dropPendingWrites setup pendingWriteEvents numWakeupEvents).Counting setup := by
  have reads :=
    (countNumWakeupEvents_spec proxy.mSensors pendingWriteEvents setup.quantumCount).2
  have looked : { proxy with
        mSensors :=
          (countNumWakeupEvents proxy.mSensors pendingWriteEvents setup.quantumCount).2
      }.Counting setup :=
    { counting with
      stored := by
        rw [SensorTable.numWakeUp_congr reads]
        exact counting.stored
    }
  unfold dropPendingWrites
  split
  · split
    · exact looked.decrement _ _
    · exact counting.decrement _ _
  · exact counting

/-- Every step but a reset keeps what the count rests on. -/
theorem Counting.step {setup : Setup} {before after : HalProxy} {action : Action}
    (counting : before.Counting setup)
    (taken : (halProxyMachine setup).step before action = some after)
    (kept : before.NoReset setup action after)
    : after.Counting setup := by
  have front := (queueStep taken).chunkInFront counting.front
  cases action with
  | createScopedWakelock lock =>
      obtain rfl := Option.some.inj taken
      exact counting.createScopedWakelock lock
  | postEvents index subHalIndex events written =>
      rcases postEvents_eq_some taken with ⟨wakelock, found, _, ⟨_, rfl⟩ | ⟨_, _, rfl⟩⟩
      · exact counting.moveWakelock found
      · rw [processEvents_numWakeupEvents]
        exact (counting.moveWakelock found).post _ _ _
  | destroyScopedWakelock index =>
      have erased : { before with
            scopedWakelocks := before.scopedWakelocks.eraseIdx index
          }.Counting setup :=
        { counting with
          current := fun wakelock member =>
            counting.current wakelock (List.mem_of_mem_eraseIdx member)
        }
      rcases destroyScopedWakelock_eq_some taken with ⟨wakelock, _, ⟨_, rfl⟩ | ⟨_, rfl⟩⟩
      · exact erased.decrement 1 wakelock.mCreatedAtTimeNs
      · exact erased
  | takePendingWrites =>
      obtain ⟨_, _, _, _, _, rfl⟩ := takePendingWrites_eq_some taken
      exact { counting with front }
  | writeBlocking written =>
      rcases writeBlocking_eq_some taken with
        ⟨numWakeupEvents, _, pendingWriteEvents, _, _, _, _, ⟨_, _, rfl⟩ | ⟨_, rfl⟩⟩
      · exact { counting with front }
      · exact { counting.drop pendingWriteEvents numWakeupEvents with front }
  | popPendingWrites =>
      obtain ⟨_, pendingWriteEvents, numWakeupEvents, rest, _, queue, rfl⟩ :=
        popPendingWrites_eq_some taken
      refine { counting with front, stored := ?_ }
      have batch : before.mSensors.numWakeUp pendingWriteEvents ≤ numWakeupEvents :=
        counting.stored (pendingWriteEvents, numWakeupEvents) (by simp [queue])
      have later : ∀ pending ∈ rest, before.mSensors.numWakeUp pending.1 ≤ pending.2 :=
        fun pending member => counting.stored pending (by simp [queue, member])
      have split := before.mSensors.numWakeUp_take_add_drop setup.quantumCount
        pendingWriteEvents
      dsimp only
      split
      · intro pending member
        rcases List.mem_cons.mp member with rfl | member
        · dsimp only
          omega
        · exact later pending member
      · exact later
  | checkWakelock =>
      rcases checkWakelock_eq_some taken with ⟨timeout, _⟩ | ⟨_, rfl⟩
      · simp [NoReset, timeout] at kept
      · exact { counting with }
  | readWakeLock success =>
      rcases readWakeLock_eq_some taken with ⟨numWakeLocksProcessed, queue, _, rfl⟩ | rfl
      · have read : { before with
              mWakeLockQueue := queue
              wakelockThread := .waiting
            }.Counting setup :=
          { counting with }
        exact read.decrement numWakeLocksProcessed (-1)
      · exact { counting with }
  | readEvents count =>
      obtain ⟨_, rfl⟩ := readEvents_eq_some taken
      exact { counting with front }
  | acknowledge index =>
      obtain ⟨_, _, rfl⟩ := Option.map_eq_some_iff.mp taken
      exact { counting with }
  | writeWakeLock numWakeLocksProcessed => exact kept.elim
  | elapse nanos =>
      obtain rfl := Option.some.inj taken
      have earlier := counting.clock
      exact { counting with clock := by dsimp only; omega }

end HalProxy

/-- In a run without a timeout reset in which the framework acknowledges what it reads, every
reference is always counted exactly when no batch brings in other wake-up events than it is
counted for and no last chunk of a batch gives back more than it holds.
-/
theorem countsReferences_iff (setup : Setup) (mSensors : SensorTable) (now : Int)
    (actions : List HalProxy.Action)
    (kept
      : (halProxyMachine setup).Along (HalProxy.NoReset setup) (.initialized mSensors now)
          actions)
    : (halProxyMachine setup).Always HalProxy.CountsReferences (.initialized mSensors now)
        actions
      ↔ (halProxyMachine setup).Along (HalProxy.KeepsReferences setup)
          (.initialized mSensors now) actions := by
  refine Machine.always_iff_along
    (fun proxy : HalProxy => proxy.CountsReferences ∧ proxy.Counting setup)
    (fun _ sound => sound.1) ?_ ?_ ⟨rfl, ⟨rfl, trivial, nofun, nofun, Int.le_refl _⟩⟩ kept
  · intro before action after sound taken noReset rule
    obtain ⟨exact, counting⟩ := sound
    exact ⟨(exact.step_iff counting taken noReset).mpr rule, counting.step taken noReset⟩
  · intro before action after sound taken noReset holds
    obtain ⟨exact, counting⟩ := sound
    exact (exact.step_iff counting taken noReset).mp holds

/-- A sample of a sensor with the given handle. -/
def sample (sensorHandle : BitVec 32) : Event :=
  { timestamp := 0, sensorHandle, sensorType := .other 1, u := 0 }

/-- A table with one sensor, which wakes the device up. -/
def wakeUpTable : SensorTable :=
  SensorTable.insert (fun _ => none) 1 { type := .other 1, flags := wakeUpFlag }

/-- An event queue for one event. -/
def singleEventSetup : Setup :=
  {
    quantumCount := 1
    kMaxSizePendingWriteEventsQueue := 100000
    kWakelockTimeoutNs := 5000000000
  }

/-- Two wake-up events, of which one has to wait and both are acknowledged. -/
theorem countsReferences_two_events
    : (halProxyMachine singleEventSetup).Always HalProxy.CountsReferences
        (.initialized wakeUpTable 0)
        [.createScopedWakelock true, .postEvents 0 0 [sample 1, sample 1] true,
          .destroyScopedWakelock 0, .takePendingWrites, .readEvents 1, .writeBlocking true,
          .popPendingWrites, .readEvents 1, .acknowledge 0, .checkWakelock,
          .readWakeLock true] :=
  (countsReferences_iff _ _ _ _ (by decide +kernel)).mpr (by decide +kernel)

/-- Two wake-up events, of which the second one waits until its write fails: the references
of both are given back, and the first one is still in the event queue.
-/
theorem countsReferences_fails_lost_chunk
    : ¬(halProxyMachine singleEventSetup).Always HalProxy.CountsReferences
        (.initialized wakeUpTable 0)
        [.createScopedWakelock true, .postEvents 0 0 [sample 1, sample 1] true,
          .destroyScopedWakelock 0, .takePendingWrites, .writeBlocking false] := by
  decide +kernel

end PongDevice.Sensors
