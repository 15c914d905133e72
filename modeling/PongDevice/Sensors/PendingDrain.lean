import Mathlib.Algebra.Ring.Nat
import PongDevice.Sensors.Initialize
import PongDevice.Sensors.PendingWrites

/-! How long the pending writes thread takes. Each batch that has to wait costs it an iteration for
every chunk that the event queue can hold at once, whether the chunk is written or dropped.
-/

namespace PongDevice.Sensors

open Transition

/-- The iterations that a batch of a length takes. -/
def chunks (quantumCount length : Nat) : Nat := (length - 1) / quantumCount + 1

theorem chunks_pos (quantumCount length : Nat) : 0 < chunks quantumCount length := Nat.succ_pos _

/-- A chunk that leaves the batch takes one of them. -/
theorem chunks_sub {quantumCount length : Nat} (positive : 0 < quantumCount)
    (longer : quantumCount < length)
    : chunks quantumCount (length - quantumCount) + 1 = chunks quantumCount length := by
  have same : length - 1 = length - quantumCount - 1 + quantumCount := by omega
  rw [chunks, chunks, same, Nat.add_div_right _ positive]

/-- A batch that fits takes one. -/
theorem chunks_of_le {quantumCount length : Nat} (positive : 0 < quantumCount)
    (fits : length ≤ quantumCount)
    : chunks quantumCount length = 1 := by
  have small : (length - 1) / quantumCount = 0 := Nat.div_eq_of_lt (by omega)
  rw [chunks, small]

namespace HalProxy

variable {setup : Setup} {before after : HalProxy}

/-- The iterations that pending batches take. -/
def iterations (setup : Setup) (batches : List (List Event × Nat)) : Nat :=
  (batches.map (fun batch => chunks setup.quantumCount batch.1.length)).sum

/-- The steps that an iteration under way has made, of its three. -/
def madeSteps : PendingWritesThread → Nat
  | .waiting => 0
  | .writing .. => 1
  | .written _ => 2

/-- The steps that are left to the thread until nothing is pending. -/
def stepsLeft (setup : Setup) (proxy : HalProxy) : Nat :=
  3 * iterations setup proxy.mPendingWriteEventsQueue - madeSteps proxy.pendingWritesThread

/-- An iteration under way is about a pending batch. -/
def WorksOnBatch (proxy : HalProxy) : Prop :=
  proxy.pendingWritesThread ≠ .waiting → proxy.mPendingWriteEventsQueue ≠ []

/-- Whether an action is a step of the pending writes thread. -/
def Action.isPendingWrites : Action → Bool
  | .takePendingWrites | .writeBlocking _ | .popPendingWrites => true
  | _ => false

/-- The batches that an action adds to the pending queue. -/
def queuedBy (before : HalProxy) (action : Action) (after : HalProxy) : List (List Event × Nat) :=
  match action with
  | .postEvents .. =>
      after.mPendingWriteEventsQueue.drop before.mPendingWriteEventsQueue.length
  | _ => []

/-- A step of the thread takes one of the steps that are left. -/
theorem stepsLeft_pendingWrites {action : Action} (positive : 0 < setup.quantumCount)
    (taken : before.step setup action = some after) (own : action.isPendingWrites = true)
    : after.stepsLeft setup + 1 = before.stepsLeft setup := by
  cases action with
  | takePendingWrites =>
      obtain ⟨batch, wakeups, rest, waiting, queue, rfl⟩ := takePendingWrites_eq_some taken
      have busy := chunks_pos setup.quantumCount batch.length
      simp only [stepsLeft, madeSteps, waiting, queue, iterations, List.map_cons, List.sum_cons]
      omega
  | writeBlocking written =>
      obtain ⟨wakeups, count, batch, stored, rest, writing, queue, moved⟩ :=
        writeBlocking_eq_some taken
      have same : after.mPendingWriteEventsQueue = before.mPendingWriteEventsQueue
          ∧ after.pendingWritesThread = .written count := by
        rcases moved with ⟨-, -, rfl⟩ | ⟨-, rfl⟩
        · exact ⟨rfl, rfl⟩
        · obtain ⟨_, _, frame⟩ := before.dropPendingWrites_frame setup batch wakeups
          simp [frame]
      have busy := chunks_pos setup.quantumCount batch.length
      simp only [stepsLeft, madeSteps, writing, same, queue, iterations, List.map_cons,
        List.sum_cons]
      omega
  | popPendingWrites =>
      obtain ⟨count, batch, wakeups, rest, written, queue, rfl⟩ := popPendingWrites_eq_some taken
      simp only [stepsLeft, madeSteps, written, queue, iterations]
      split
      · rename_i longer
        have fewer := chunks_sub positive longer
        simp only [List.map_cons, List.sum_cons, List.length_drop]
        omega
      · rename_i fits
        have last := chunks_of_le positive (Nat.le_of_not_lt fits)
        simp only [List.map_cons, List.sum_cons]
        omega
  | createScopedWakelock | postEvents | destroyScopedWakelock | checkWakelock | readWakeLock
  | readEvents | acknowledge | writeWakeLock | elapse => cases own

/-- The other steps leave the thread where it is. -/
theorem pendingWritesThread_step {action : Action} (taken : before.step setup action = some after)
    (other : action.isPendingWrites = false)
    : after.pendingWritesThread = before.pendingWritesThread := by
  cases action with
  | createScopedWakelock lock =>
      obtain rfl := Option.some.inj taken
      cases lock with
      | true =>
          obtain ⟨_, _, _, same⟩ := before.incrementRefCount_frame 1
          simp [createScopedWakelock, same]
      | false => rfl
  | postEvents index subHalIndex events written =>
      rcases postEvents_eq_some taken with ⟨wakelock, _, _, ⟨_, rfl⟩ | ⟨_, _, rfl⟩⟩
      · rfl
      · cases wakelock.mLocked with
        | true =>
            obtain ⟨_, _, _, same⟩ := (before.moveWakelock index wakelock).incrementRefCount_frame
              (processEvents before.mSensors subHalIndex events).2
            rw [postEventsToMessageQueue_locked, postEventsToMessageQueue_unlocked, same]
        | false => rw [postEventsToMessageQueue_unlocked]
  | destroyScopedWakelock index =>
      rcases destroyScopedWakelock_eq_some taken with ⟨wakelock, _, ⟨_, rfl⟩ | ⟨_, rfl⟩⟩
      · obtain ⟨_, _, same⟩ :=
          { before with
            scopedWakelocks := before.scopedWakelocks.eraseIdx index
          }.decrementRefCount_frame 1 wakelock.mCreatedAtTimeNs
        simp [same]
      · rfl
  | takePendingWrites | writeBlocking | popPendingWrites => cases other
  | checkWakelock =>
      rcases checkWakelock_eq_some taken with ⟨_, rfl⟩ | ⟨_, rfl⟩
      · obtain ⟨_, _, same⟩ := before.resetSharedWakelock_frame
        simp [same]
      · rfl
  | readWakeLock success =>
      rcases readWakeLock_eq_some taken with ⟨processed, queue, _, rfl⟩ | rfl
      · obtain ⟨_, _, same⟩ :=
          { before with
            mWakeLockQueue := queue
            wakelockThread := .waiting
          }.decrementRefCount_frame processed (-1)
        simp [same]
      · rfl
  | readEvents count =>
      obtain ⟨_, rfl⟩ := readEvents_eq_some taken
      rfl
  | acknowledge index =>
      obtain ⟨_, _, rfl⟩ := Option.map_eq_some_iff.mp taken
      rfl
  | writeWakeLock _ | elapse _ =>
      obtain rfl := Option.some.inj taken
      rfl

/-- They leave the pending queue as well, up to what is added to its end. -/
theorem pendingQueue_step {action : Action} (taken : before.step setup action = some after)
    (other : action.isPendingWrites = false)
    : after.mPendingWriteEventsQueue
      = before.mPendingWriteEventsQueue ++ before.queuedBy action after := by
  cases action with
  | postEvents index subHalIndex events written =>
      have added : after.mPendingWriteEventsQueue = before.mPendingWriteEventsQueue
          ∨ ∃ batch,
              after.mPendingWriteEventsQueue = before.mPendingWriteEventsQueue ++ [batch] := by
        rcases postEvents_eq_some taken with ⟨wakelock, _, _, ⟨_, rfl⟩ | ⟨_, _, rfl⟩⟩
        · exact .inl rfl
        · exact (postEventsToMessageQueue_frame setup (before.moveWakelock index wakelock) _ _ _
            _).1
      rcases added with same | ⟨batch, same⟩ <;> simp [queuedBy, same]
  | takePendingWrites | writeBlocking | popPendingWrites => cases other
  | createScopedWakelock | destroyScopedWakelock | checkWakelock | readWakeLock | readEvents
  | acknowledge | writeWakeLock | elapse =>
      simp [(step_frame taken rfl).1, queuedBy]

/-- An iteration under way is never longer than what is left. -/
theorem madeSteps_le (setup : Setup) (works : before.WorksOnBatch)
    : madeSteps before.pendingWritesThread
      ≤ 3 * iterations setup before.mPendingWriteEventsQueue := by
  cases thread : before.pendingWritesThread with
  | waiting => exact Nat.zero_le _
  | writing | written =>
      obtain ⟨batch, rest, queue⟩ :=
        List.exists_cons_of_ne_nil (works (by rw [thread]; exact fun same => by cases same))
      have busy := chunks_pos setup.quantumCount batch.1.length
      simp only [madeSteps, queue, iterations, List.map_cons, List.sum_cons]
      omega

/-- Each other step adds what its batches cost. -/
theorem stepsLeft_other {action : Action} (taken : before.step setup action = some after)
    (other : action.isPendingWrites = false) (works : before.WorksOnBatch)
    : after.stepsLeft setup
      = before.stepsLeft setup + 3 * iterations setup (before.queuedBy action after) := by
  have thread := pendingWritesThread_step taken other
  have queue := pendingQueue_step taken other
  have enough := madeSteps_le setup works
  rw [stepsLeft, stepsLeft, thread, queue, iterations, List.map_append, List.sum_append]
  simp only [iterations] at enough ⊢
  omega

/-- The thread is done exactly when nothing is pending. -/
theorem stepsLeft_eq_zero (proxy : HalProxy)
    : proxy.stepsLeft setup = 0 ↔ proxy.mPendingWriteEventsQueue = [] := by
  cases queue : proxy.mPendingWriteEventsQueue with
  | nil => simp [stepsLeft, queue, iterations]
  | cons batch rest =>
      have busy := chunks_pos setup.quantumCount batch.1.length
      have made : madeSteps proxy.pendingWritesThread ≤ 2 := by
        cases proxy.pendingWritesThread <;> simp [madeSteps]
      simp only [stepsLeft, queue, iterations, List.map_cons, List.sum_cons, reduceCtorEq,
        iff_false]
      omega

/-- As long as something is pending, the thread can take a step. -/
theorem pendingWrites_goesOn (running : before.mThreadsRun = true)
    (busy : before.mPendingWriteEventsQueue ≠ [])
    : ∃ action : Action,
        action.isPendingWrites = true ∧ (before.step setup action).isSome = true := by
  obtain ⟨batch, rest, queue⟩ := List.exists_cons_of_ne_nil busy
  cases thread : before.pendingWritesThread with
  | waiting => exact ⟨.takePendingWrites, rfl, by simp [step, takePendingWrites, *]⟩
  | writing => exact ⟨.writeBlocking false, rfl, by simp [step, writeBlocking, *]⟩
  | written => exact ⟨.popPendingWrites, rfl, by simp [step, popPendingWrites, *]⟩

/-- Once the framework has read all events, there is room for the chunk. -/
theorem writeBlocking_fits (front : before.eventQueues.ChunkInFront setup)
    (read : before.mEventQueue = []) {numWakeupEvents numToWrite : Nat}
    (writing : before.pendingWritesThread = .writing numWakeupEvents numToWrite)
    : (before.step setup (.writeBlocking true)).isSome = true := by
  simp only [EventQueues.ChunkInFront, eventQueues, writing] at front
  obtain ⟨batch, rest, queue, count⟩ := front
  have room : numToWrite ≤ before.availableToWrite setup := by
    rw [availableToWrite, read, count]
    exact Nat.min_le_right _ _
  simp [step, writeBlocking, writing, queue, room]

theorem worksOnBatch_of_chunkInFront (front : before.eventQueues.ChunkInFront setup)
    : before.WorksOnBatch := by
  intro busy
  unfold EventQueues.ChunkInFront at front
  cases thread : before.pendingWritesThread with
  | waiting => exact absurd thread busy
  | writing =>
      simp only [eventQueues, thread] at front
      obtain ⟨batch, rest, queue, -⟩ := front
      simp [queue]
  | written =>
      simp only [eventQueues, thread] at front
      obtain ⟨batch, wakeups, rest, queue, -⟩ := front
      simp [queue]

end HalProxy

-----------------------------------------------------------------------------------------
-- A whole run
-----------------------------------------------------------------------------------------

/-- The steps that the thread has made, and those that the batches that had to wait cost. -/
structure Work where
  made : Nat := 0
  due : Nat := 0

def noteWork (setup : Setup) (work : Work) (before : HalProxy) (action : HalProxy.Action)
    (after : HalProxy)
    : Work where
  made := if action.isPendingWrites then work.made + 1 else work.made
  due := work.due + 3 * HalProxy.iterations setup (before.queuedBy action after)

/-- The proxy with the work of its pending writes thread. -/
def workingMachine (setup : Setup) : Machine (HalProxy × Work) HalProxy.Action :=
  (halProxyMachine setup).observe (noteWork setup)

/-- The thread makes the steps that are due and no others: it is done exactly when nothing is
pending, can go on until then, and does not have to drop a chunk once the framework has read what
is in the event queue.
-/
structure Drains (setup : Setup) (proxy : HalProxy) (work : Work) : Prop where
  bounded : work.made ≤ work.due
  done : work.made = work.due ↔ proxy.mPendingWriteEventsQueue = []
  goesOn
    : proxy.mPendingWriteEventsQueue ≠ []
      → ∃ action : HalProxy.Action,
          action.isPendingWrites = true ∧ (proxy.step setup action).isSome = true
  fits
    : proxy.mEventQueue = []
      → ∀ numWakeupEvents numToWrite,
          proxy.pendingWritesThread = .writing numWakeupEvents numToWrite
          → (proxy.step setup (.writeBlocking true)).isSome = true

/-- In every run, whatever is posted and read in between, the pending writes thread drains its
queue in three steps for each chunk of each batch that had to wait, however many writes fail.
Witness: the steps that are made and those that are left are the ones that are due.
-/
theorem pending_writes_drain (setup : Setup) (positive : 0 < setup.quantumCount)
    (mSensors : SensorTable) (now : Int) (actions : List HalProxy.Action)
    : (workingMachine setup).Always (fun state => Drains setup state.1 state.2)
        (.initialized mSensors now, {}) actions := by
  refine Machine.observe_always_of_invariant
    (fun state : HalProxy × Work =>
      state.1.mThreadsRun = true ∧ state.1.eventQueues.ChunkInFront setup
        ∧ state.2.made + state.1.stepsLeft setup = state.2.due)
    ?_ ?_ ⟨rfl, trivial, rfl⟩ (Machine.along_true _ _)
  · rintro proxy work ⟨running, front, accounted⟩
    dsimp only at accounted
    exact {
      bounded := Nat.le.intro accounted
      done := by
        refine Iff.trans ?_ (@HalProxy.stepsLeft_eq_zero setup proxy)
        dsimp only
        omega
      goesOn := HalProxy.pendingWrites_goesOn running
      fits := fun read _ _ writing => HalProxy.writeBlocking_fits front read writing
    }
  · rintro proxy work action after ⟨running, front, accounted⟩ taken -
    dsimp only at accounted
    refine ⟨(HalProxy.mThreadsRun_step taken).trans running,
      (HalProxy.queueStep taken).chunkInFront front, ?_⟩
    cases own : action.isPendingWrites with
    | true =>
        have fewer := HalProxy.stepsLeft_pendingWrites positive taken own
        have none : proxy.queuedBy action after = [] := by
          cases action <;> first | rfl | cases own
        simp only [noteWork, own, none, HalProxy.iterations, List.map_nil, List.sum_nil, if_true]
        omega
    | false =>
        have more := HalProxy.stepsLeft_other taken own
          (HalProxy.worksOnBatch_of_chunkInFront front)
        simp only [noteWork, own, Bool.false_eq_true, if_false, more]
        omega

/-- A batch of three events goes through a queue of one. -/
theorem pending_writes_drain_one
    : let setup : Setup :=
        {
          quantumCount := 1
          kMaxSizePendingWriteEventsQueue := 100000
          kWakelockTimeoutNs := 5000000000
        }
      let event : Event :=
        { timestamp := 0, sensorHandle := 1, sensorType := .other 1, u := 0 }
      (workingMachine setup).Always (fun state => Drains setup state.1 state.2)
        (.initialized (fun _ => none) 0, {})
        [.createScopedWakelock false, .postEvents 0 0 [event, event, event] true,
          .takePendingWrites, .writeBlocking false, .popPendingWrites, .takePendingWrites] :=
  pending_writes_drain _ (by decide) _ _ _

end PongDevice.Sensors
