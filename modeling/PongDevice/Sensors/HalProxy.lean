import PongDevice.Transition.Machine
import PongDevice.Sensors.ProcessEvents

/-! The sensors proxy between two calls of `initialize`: sub-HALs post batches of events, one
thread writes what did not fit, another one takes the framework's acknowledgements, and all
of them count references on a shared wake lock. A section under a lock is one step.
-/

namespace PongDevice.Sensors

open Transition

/-- The capacities and times that a run is given. -/
structure Setup where
  quantumCount : Nat
  kMaxSizePendingWriteEventsQueue : Nat
  kWakelockTimeoutNs : Int

/-- A `ScopedWakelock` that was created and not destroyed. `postEvents` takes it by value, so
that one call at most can have it, and destroys it when it returns.
-/
structure ScopedWakelock where
  mLocked : Bool
  mCreatedAtTimeNs : Int
  moved : Bool := false
deriving DecidableEq, Repr

/-- Where an iteration of `handlePendingWrites` stands, with its locals. -/
inductive PendingWritesThread where
  | waiting
  | writing (numWakeupEvents numToWrite : Nat)
  | written (numToWrite : Nat)
deriving DecidableEq, Repr

/-- Where an iteration of `handleWakelocks` stands. -/
inductive WakelockThread where
  | waiting
  | reading
deriving DecidableEq, Repr

/-- The proxy's members, its two threads, the clock, and the framework's side: the wake-up
events of each read that are still to be acknowledged.
-/
structure HalProxy where
  mSensors : SensorTable
  mThreadsRun : Bool := true
  mEventQueue : List Event := []
  mPendingWriteEventsQueue : List (List Event × Nat) := []
  mSizePendingWriteEventsQueue : Nat := 0
  mMostEventsObservedPendingWriteEventsQueue : Nat := 0
  pendingWritesThread : PendingWritesThread := .waiting
  mWakelockRefCount : Nat := 0
  mWakelockTimeoutStartTime : Int
  mWakelockTimeoutResetTime : Int
  wakeLockHeld : Bool := false
  scopedWakelocks : List ScopedWakelock := []
  mWakeLockQueue : List Nat := []
  wakelockThread : WakelockThread := .waiting
  unacknowledged : List Nat := []
  now : Int

namespace HalProxy

/-- The proxy as `initialize` leaves it at `now`. -/
def initialized (mSensors : SensorTable) (now : Int) : HalProxy :=
  {
    mSensors
    mWakelockTimeoutStartTime := now
    mWakelockTimeoutResetTime := now
    now
  }

-----------------------------------------------------------------------------------------
-- The shared wake lock
-----------------------------------------------------------------------------------------

/-- The proxy and whether the reference was taken, in which case `*timeoutStart` is now. -/
def incrementRefCountAndMaybeAcquireWakelock (proxy : HalProxy) (delta : Nat)
    : HalProxy × Bool :=
  if proxy.mThreadsRun then
    ({ proxy with
        wakeLockHeld := if proxy.mWakelockRefCount = 0 then true else proxy.wakeLockHeld
        mWakelockTimeoutStartTime := proxy.now
        mWakelockRefCount := proxy.mWakelockRefCount + delta
      },
      true)
  else
    (proxy, false)

/-- A `timeoutStart` of -1, the default, stands for the last reset. -/
def decrementRefCountAndMaybeReleaseWakelock (proxy : HalProxy) (delta : Nat)
    (timeoutStart : Int)
    : HalProxy :=
  if proxy.mThreadsRun then
    let timeoutStart :=
      if timeoutStart = -1 then proxy.mWakelockTimeoutResetTime else timeoutStart
    if proxy.mWakelockRefCount = 0 ∨ timeoutStart < proxy.mWakelockTimeoutResetTime then
      proxy
    else
      let mWakelockRefCount := proxy.mWakelockRefCount - min proxy.mWakelockRefCount delta
      { proxy with
        mWakelockRefCount
        wakeLockHeld := if mWakelockRefCount = 0 then false else proxy.wakeLockHeld
      }
  else
    proxy

def sharedWakelockDidTimeout (setup : Setup) (proxy : HalProxy) : Bool :=
  setup.kWakelockTimeoutNs < proxy.now - proxy.mWakelockTimeoutStartTime

def resetSharedWakelock (proxy : HalProxy) : HalProxy :=
  let proxy := proxy.decrementRefCountAndMaybeReleaseWakelock proxy.mWakelockRefCount (-1)
  { proxy with mWakelockTimeoutResetTime := proxy.now }

/-- A locked wakelock takes one reference and remembers when. -/
def createScopedWakelock (proxy : HalProxy) (lock : Bool) : HalProxy :=
  if lock then
    let (proxy, mLocked) := proxy.incrementRefCountAndMaybeAcquireWakelock 1
    { proxy with
      scopedWakelocks := proxy.scopedWakelocks ++ [{ mLocked, mCreatedAtTimeNs := proxy.now }]
    }
  else
    { proxy with
      scopedWakelocks :=
        proxy.scopedWakelocks ++ [{ mLocked := false, mCreatedAtTimeNs := proxy.now }]
    }

/-- Gives the reference of a locked wakelock back. -/
def destroyScopedWakelock (proxy : HalProxy) (index : Nat) : Option HalProxy :=
  (proxy.scopedWakelocks[index]?).map (fun wakelock =>
    let proxy := { proxy with scopedWakelocks := proxy.scopedWakelocks.eraseIdx index }
    if wakelock.mLocked then
      proxy.decrementRefCountAndMaybeReleaseWakelock 1 wakelock.mCreatedAtTimeNs
    else
      proxy)

-----------------------------------------------------------------------------------------
-- Posting
-----------------------------------------------------------------------------------------

def availableToWrite (setup : Setup) (proxy : HalProxy) : Nat :=
  setup.quantumCount - proxy.mEventQueue.length

/-- How many events of a batch go to the event queue at once; `written` is the answer of
`mEventQueue->write`.
-/
def numToWrite (setup : Setup) (proxy : HalProxy) (events : List Event) (written : Bool)
    : Nat :=
  if proxy.mPendingWriteEventsQueue.isEmpty then
    let numToWrite := min events.length (proxy.availableToWrite setup)
    if 0 < numToWrite ∧ written = false then 0 else numToWrite
  else
    0

/-- Whether the rest of a batch has to wait and has room to. -/
def fitsPending (setup : Setup) (proxy : HalProxy) (events : List Event) (written : Bool)
    : Bool :=
  proxy.numToWrite setup events written < events.length
  ∧ proxy.mSizePendingWriteEventsQueue
      + (events.length - proxy.numToWrite setup events written)
    ≤ setup.kMaxSizePendingWriteEventsQueue

def postEventsToMessageQueue (setup : Setup) (proxy : HalProxy) (events : List Event)
    (numWakeupEvents : Nat) (isLocked written : Bool)
    : HalProxy :=
  let proxy :=
    if isLocked then (proxy.incrementRefCountAndMaybeAcquireWakelock numWakeupEvents).1
    else proxy
  let numToWrite := proxy.numToWrite setup events written
  let numLeft := events.length - numToWrite
  let mSizePendingWriteEventsQueue := proxy.mSizePendingWriteEventsQueue + numLeft
  if proxy.fitsPending setup events written then
    { proxy with
      mEventQueue := proxy.mEventQueue ++ events.take numToWrite
      mPendingWriteEventsQueue :=
        proxy.mPendingWriteEventsQueue ++ [(events.drop numToWrite, numWakeupEvents)]
      mSizePendingWriteEventsQueue
      mMostEventsObservedPendingWriteEventsQueue :=
        max proxy.mMostEventsObservedPendingWriteEventsQueue mSizePendingWriteEventsQueue
    }
  else
    { proxy with mEventQueue := proxy.mEventQueue ++ events.take numToWrite }

/-- `HalProxyCallbackBase::postEvents` up to its return, which destroys the wakelock. -/
def postEvents (setup : Setup) (proxy : HalProxy) (index subHalIndex : Nat)
    (events : List Event) (written : Bool)
    : Option HalProxy :=
  match proxy.scopedWakelocks[index]? with
  | some wakelock =>
      if wakelock.moved then
        none
      else
        let proxy :=
          { proxy with
            scopedWakelocks :=
              proxy.scopedWakelocks.set index { wakelock with moved := true }
          }
        if events.isEmpty ∨ proxy.mThreadsRun = false then
          some proxy
        else
          let (processedEvents, numWakeupEvents) :=
            processEvents proxy.mSensors subHalIndex events
          some
            (proxy.postEventsToMessageQueue setup processedEvents numWakeupEvents
              wakelock.mLocked written)
  | none => none

-----------------------------------------------------------------------------------------
-- The pending writes thread
-----------------------------------------------------------------------------------------

/-- One iteration of `countNumWakeupEvents`, with the table that its lookup leaves behind. -/
def countWakeupEvent : Nat × SensorTable → Event → Nat × SensorTable
  | (numWakeupEvents, mSensors), event =>
      (if mSensors.isWakeUp event.sensorHandle then numWakeupEvents + 1 else numWakeupEvents,
        mSensors.touch event.sensorHandle)

/-- The count, and the sensor table that the lookups leave behind. -/
def countNumWakeupEvents (mSensors : SensorTable) (events : List Event) (n : Nat)
    : Nat × SensorTable :=
  (events.take n).foldl countWakeupEvent (0, mSensors)

/-- The iteration up to `lock.unlock()`. -/
def takePendingWrites (setup : Setup) (proxy : HalProxy) : Option HalProxy :=
  match proxy.pendingWritesThread, proxy.mPendingWriteEventsQueue with
  | .waiting, (pendingWriteEvents, numWakeupEvents) :: _ =>
      if proxy.mThreadsRun then
        let numToWrite := min pendingWriteEvents.length setup.quantumCount
        some
          { proxy with pendingWritesThread := .writing numWakeupEvents numToWrite }
      else
        none
  | _, _ => none

/-- The drop of the references of a chunk that could not be written. -/
def dropPendingWrites (setup : Setup) (proxy : HalProxy) (pendingWriteEvents : List Event)
    (numWakeupEvents : Nat)
    : HalProxy :=
  if 0 < numWakeupEvents then
    if setup.quantumCount < pendingWriteEvents.length then
      let (delta, mSensors) :=
        countNumWakeupEvents proxy.mSensors pendingWriteEvents setup.quantumCount
      { proxy with mSensors }.decrementRefCountAndMaybeReleaseWakelock delta (-1)
    else
      proxy.decrementRefCountAndMaybeReleaseWakelock numWakeupEvents (-1)
  else
    proxy

/-- The blocking write, which returns when there is room for the chunk or fails. -/
def writeBlocking (setup : Setup) (proxy : HalProxy) (written : Bool) : Option HalProxy :=
  match proxy.pendingWritesThread, proxy.mPendingWriteEventsQueue with
  | .writing numWakeupEvents numToWrite, (pendingWriteEvents, _) :: _ =>
      if written then
        if numToWrite ≤ proxy.availableToWrite setup then
          some
            { proxy with
              mEventQueue := proxy.mEventQueue ++ pendingWriteEvents.take numToWrite
              pendingWritesThread := .written numToWrite
            }
        else
          none
      else
        some
          { proxy.dropPendingWrites setup pendingWriteEvents numWakeupEvents with
            pendingWritesThread := .written numToWrite
          }
  | _, _ => none

/-- The iteration from `lock.lock()` on. -/
def popPendingWrites (setup : Setup) (proxy : HalProxy) : Option HalProxy :=
  match proxy.pendingWritesThread, proxy.mPendingWriteEventsQueue with
  | .written numToWrite, (pendingWriteEvents, numWakeupEvents) :: rest =>
      some
        { proxy with
          mSizePendingWriteEventsQueue := proxy.mSizePendingWriteEventsQueue - numToWrite
          mPendingWriteEventsQueue :=
            if setup.quantumCount < pendingWriteEvents.length then
              (pendingWriteEvents.drop setup.quantumCount, numWakeupEvents) :: rest
            else
              rest
          pendingWritesThread := .waiting
        }
  | _, _ => none

-----------------------------------------------------------------------------------------
-- The wakelock thread and the framework
-----------------------------------------------------------------------------------------

/-- The iteration of `handleWakelocks` up to its `lock.unlock()` or its end. -/
def checkWakelock (setup : Setup) (proxy : HalProxy) : Option HalProxy :=
  if proxy.wakelockThread = .waiting ∧ 0 < proxy.mWakelockRefCount
      ∧ proxy.mThreadsRun = true then
    if proxy.sharedWakelockDidTimeout setup then
      some proxy.resetSharedWakelock
    else
      some { proxy with wakelockThread := .reading }
  else
    none

/-- The blocking read, which returns an acknowledgement or times out, and what follows. -/
def readWakeLock (proxy : HalProxy) (success : Bool) : Option HalProxy :=
  match proxy.wakelockThread, success, proxy.mWakeLockQueue with
  | .reading, true, numWakeLocksProcessed :: mWakeLockQueue =>
      let proxy := { proxy with mWakeLockQueue, wakelockThread := .waiting }
      some (proxy.decrementRefCountAndMaybeReleaseWakelock numWakeLocksProcessed (-1))
  | .reading, false, _ => some { proxy with wakelockThread := .waiting }
  | _, _, _ => none

/-- The framework reads events and owes an acknowledgement for the wake-up ones. -/
def readEvents (proxy : HalProxy) (count : Nat) : Option HalProxy :=
  if count ≤ proxy.mEventQueue.length then
    some
      { proxy with
        mEventQueue := proxy.mEventQueue.drop count
        unacknowledged :=
          proxy.unacknowledged ++ [proxy.mSensors.numWakeUp (proxy.mEventQueue.take count)]
      }
  else
    none

/-- The framework acknowledges the wake-up events of one of its reads. -/
def acknowledge (proxy : HalProxy) (index : Nat) : Option HalProxy :=
  (proxy.unacknowledged[index]?).map (fun numWakeLocksProcessed =>
    { proxy with
      unacknowledged := proxy.unacknowledged.eraseIdx index
      mWakeLockQueue := proxy.mWakeLockQueue ++ [numWakeLocksProcessed]
    })

/-- `writeWakeLock` is an acknowledgement of any number, whatever was read. -/
inductive Action where
  | createScopedWakelock (lock : Bool)
  | postEvents (index subHalIndex : Nat) (events : List Event) (written : Bool)
  | destroyScopedWakelock (index : Nat)
  | takePendingWrites
  | writeBlocking (written : Bool)
  | popPendingWrites
  | checkWakelock
  | readWakeLock (success : Bool)
  | readEvents (count : Nat)
  | acknowledge (index : Nat)
  | writeWakeLock (numWakeLocksProcessed : Nat)
  | elapse (nanos : Nat)

def step (setup : Setup) (proxy : HalProxy) : Action → Option HalProxy
  | .createScopedWakelock lock => some (proxy.createScopedWakelock lock)
  | .postEvents index subHalIndex events written =>
      proxy.postEvents setup index subHalIndex events written
  | .destroyScopedWakelock index => proxy.destroyScopedWakelock index
  | .takePendingWrites => proxy.takePendingWrites setup
  | .writeBlocking written => proxy.writeBlocking setup written
  | .popPendingWrites => proxy.popPendingWrites setup
  | .checkWakelock => proxy.checkWakelock setup
  | .readWakeLock success => proxy.readWakeLock success
  | .readEvents count => proxy.readEvents count
  | .acknowledge index => proxy.acknowledge index
  | .writeWakeLock numWakeLocksProcessed =>
      some
        { proxy with mWakeLockQueue := proxy.mWakeLockQueue ++ [numWakeLocksProcessed] }
  | .elapse nanos => some { proxy with now := proxy.now + nanos }

end HalProxy

def halProxyMachine (setup : Setup) : Machine HalProxy HalProxy.Action where
  step := HalProxy.step setup

namespace HalProxy

variable {setup : Setup} {before after : HalProxy}

/-- While the threads run, a reference is always taken. -/
theorem incrementRefCount_eq {proxy : HalProxy} (running : proxy.mThreadsRun = true)
    (delta : Nat)
    : proxy.incrementRefCountAndMaybeAcquireWakelock delta
      = ({ proxy with
            wakeLockHeld := if proxy.mWakelockRefCount = 0 then true else proxy.wakeLockHeld
            mWakelockTimeoutStartTime := proxy.now
            mWakelockRefCount := proxy.mWakelockRefCount + delta
          },
          true) := by
  simp [incrementRefCountAndMaybeAcquireWakelock, running]

/-- Giving references back touches only the count and the wake lock. -/
theorem decrementRefCount_frame (proxy : HalProxy) (delta : Nat) (timeoutStart : Int)
    : ∃ mWakelockRefCount wakeLockHeld,
        proxy.decrementRefCountAndMaybeReleaseWakelock delta timeoutStart
        = { proxy with mWakelockRefCount, wakeLockHeld } := by
  unfold decrementRefCountAndMaybeReleaseWakelock
  by_cases running : proxy.mThreadsRun = true
  · rw [if_pos running]
    by_cases stale : proxy.mWakelockRefCount = 0
        ∨ (if timeoutStart = -1 then proxy.mWakelockTimeoutResetTime else timeoutStart)
          < proxy.mWakelockTimeoutResetTime
    · exact ⟨proxy.mWakelockRefCount, proxy.wakeLockHeld, if_pos stale⟩
    · exact ⟨_, _, if_neg stale⟩
  · exact ⟨proxy.mWakelockRefCount, proxy.wakeLockHeld, if_neg running⟩

/-- References taken after the last reset are given back from the count. -/
theorem mWakelockRefCount_decrement {proxy : HalProxy} (running : proxy.mThreadsRun = true)
    {timeoutStart : Int}
    (current : timeoutStart = -1 ∨ proxy.mWakelockTimeoutResetTime ≤ timeoutStart)
    (delta : Nat)
    : (proxy.decrementRefCountAndMaybeReleaseWakelock delta timeoutStart).mWakelockRefCount
      = proxy.mWakelockRefCount - delta := by
  have live :
      ¬(if timeoutStart = -1 then proxy.mWakelockTimeoutResetTime else timeoutStart)
        < proxy.mWakelockTimeoutResetTime := by
    split <;> omega
  simp only [decrementRefCountAndMaybeReleaseWakelock, running, live, if_true, or_false]
  split
  · omega
  · dsimp only
    omega

/-- A destroyed wakelock was live, and gives back the reference that it holds, if any. -/
theorem destroyScopedWakelock_eq_some {index : Nat}
    (taken : before.destroyScopedWakelock index = some after)
    : ∃ wakelock,
        before.scopedWakelocks[index]? = some wakelock
        ∧ let proxy :=
            { before with scopedWakelocks := before.scopedWakelocks.eraseIdx index }
          (wakelock.mLocked = true
              ∧ after
                = proxy.decrementRefCountAndMaybeReleaseWakelock 1 wakelock.mCreatedAtTimeNs
            ∨ wakelock.mLocked = false ∧ after = proxy) := by
  obtain ⟨wakelock, found, rfl⟩ := Option.map_eq_some_iff.mp taken
  refine ⟨wakelock, found, ?_⟩
  cases locked : wakelock.mLocked with
  | true => exact .inl ⟨rfl, rfl⟩
  | false => exact .inr ⟨rfl, rfl⟩

/-- An iteration starts with the front batch, of which it takes what the event queue can hold. -/
theorem takePendingWrites_eq_some (taken : before.takePendingWrites setup = some after)
    : ∃ pendingWriteEvents numWakeupEvents rest,
        before.pendingWritesThread = .waiting
        ∧ before.mPendingWriteEventsQueue = (pendingWriteEvents, numWakeupEvents) :: rest
        ∧ after
          = { before with
              pendingWritesThread :=
                .writing numWakeupEvents (min pendingWriteEvents.length setup.quantumCount)
            } := by
  unfold takePendingWrites at taken
  split at taken
  · rename_i pendingWriteEvents numWakeupEvents rest waiting queue
    split at taken
    · obtain rfl := Option.some.inj taken
      exact ⟨pendingWriteEvents, numWakeupEvents, rest, waiting, queue, rfl⟩
    · cases taken
  · cases taken

/-- A blocking write moves its chunk to the event queue or gives its references back. -/
theorem writeBlocking_eq_some {written : Bool}
    (taken : before.writeBlocking setup written = some after)
    : ∃ numWakeupEvents numToWrite pendingWriteEvents stored rest,
        before.pendingWritesThread = .writing numWakeupEvents numToWrite
        ∧ before.mPendingWriteEventsQueue = (pendingWriteEvents, stored) :: rest
        ∧ (written = true
            ∧ numToWrite ≤ before.availableToWrite setup
            ∧ after
              = { before with
                  mEventQueue := before.mEventQueue ++ pendingWriteEvents.take numToWrite
                  pendingWritesThread := .written numToWrite
                }
          ∨ written = false
            ∧ after
              = { before.dropPendingWrites setup pendingWriteEvents numWakeupEvents with
                  pendingWritesThread := .written numToWrite
                }) := by
  unfold writeBlocking at taken
  split at taken
  · rename_i numWakeupEvents numToWrite pendingWriteEvents stored rest writing queue
    refine ⟨numWakeupEvents, numToWrite, pendingWriteEvents, stored, rest, writing, queue, ?_⟩
    cases written with
    | true =>
        simp only [if_true] at taken
        split at taken
        · rename_i room
          exact .inl ⟨rfl, room, (Option.some.inj taken).symm⟩
        · cases taken
    | false => exact .inr ⟨rfl, (Option.some.inj taken).symm⟩
  · cases taken

/-- An iteration ends by removing its chunk, and the batch with its last one. -/
theorem popPendingWrites_eq_some (taken : before.popPendingWrites setup = some after)
    : ∃ numToWrite pendingWriteEvents numWakeupEvents rest,
        before.pendingWritesThread = .written numToWrite
        ∧ before.mPendingWriteEventsQueue = (pendingWriteEvents, numWakeupEvents) :: rest
        ∧ after
          = { before with
              mSizePendingWriteEventsQueue := before.mSizePendingWriteEventsQueue - numToWrite
              mPendingWriteEventsQueue :=
                if setup.quantumCount < pendingWriteEvents.length then
                  (pendingWriteEvents.drop setup.quantumCount, numWakeupEvents) :: rest
                else
                  rest
              pendingWritesThread := .waiting
            } := by
  unfold popPendingWrites at taken
  split at taken
  · rename_i numToWrite pendingWriteEvents numWakeupEvents rest written queue
    exact ⟨numToWrite, pendingWriteEvents, numWakeupEvents, rest, written, queue,
      (Option.some.inj taken).symm⟩
  · cases taken

/-- The proxy once a wakelock has been moved into `postEvents`. -/
abbrev moveWakelock (proxy : HalProxy) (index : Nat) (wakelock : ScopedWakelock) : HalProxy :=
  { proxy with
    scopedWakelocks := proxy.scopedWakelocks.set index { wakelock with moved := true }
  }

/-- A batch that is posted while the threads run is filtered and queued with its wakelock. -/
theorem postEvents_eq_some {index subHalIndex : Nat} {events : List Event} {written : Bool}
    (taken : before.postEvents setup index subHalIndex events written = some after)
    : ∃ wakelock,
        before.scopedWakelocks[index]? = some wakelock
        ∧ wakelock.moved = false
        ∧ let proxy := before.moveWakelock index wakelock
          ((events = [] ∨ before.mThreadsRun = false) ∧ after = proxy
            ∨ events ≠ []
              ∧ before.mThreadsRun = true
              ∧ after
                = proxy.postEventsToMessageQueue setup
                    (processEvents before.mSensors subHalIndex events).1
                    (processEvents before.mSensors subHalIndex events).2
                    wakelock.mLocked written) := by
  unfold postEvents at taken
  split at taken
  · rename_i wakelock found
    split at taken
    · cases taken
    · rename_i kept
      refine ⟨wakelock, found, by simpa using kept, ?_⟩
      dsimp only at taken ⊢
      split at taken
      · rename_i idle
        exact .inl ⟨by simpa using idle, (Option.some.inj taken).symm⟩
      · rename_i busy
        simp only [List.isEmpty_iff, not_or, Bool.not_eq_false] at busy
        exact .inr ⟨busy.1, busy.2, (Option.some.inj taken).symm⟩
  · cases taken

/-- The wakelock thread resets a timed-out wake lock and waits for an acknowledgement else. -/
theorem checkWakelock_eq_some (taken : before.checkWakelock setup = some after)
    : before.sharedWakelockDidTimeout setup = true ∧ after = before.resetSharedWakelock
      ∨ before.sharedWakelockDidTimeout setup = false
        ∧ after = { before with wakelockThread := .reading } := by
  unfold checkWakelock at taken
  split at taken
  · split at taken
    · rename_i timeout
      exact .inl ⟨timeout, (Option.some.inj taken).symm⟩
    · rename_i live
      exact .inr ⟨by simpa using live, (Option.some.inj taken).symm⟩
  · cases taken

/-- The framework reads from the front, and owes an acknowledgement for the wake-up events. -/
theorem readEvents_eq_some {count : Nat} (taken : before.readEvents count = some after)
    : count ≤ before.mEventQueue.length
      ∧ after
        = { before with
            mEventQueue := before.mEventQueue.drop count
            unacknowledged :=
              before.unacknowledged
              ++ [before.mSensors.numWakeUp (before.mEventQueue.take count)]
          } := by
  unfold readEvents at taken
  split at taken
  · rename_i enough
    exact ⟨enough, (Option.some.inj taken).symm⟩
  · cases taken

/-- An acknowledgement is taken from the front, and a read that times out takes none. -/
theorem readWakeLock_eq_some {success : Bool}
    (taken : before.readWakeLock success = some after)
    : (∃ numWakeLocksProcessed mWakeLockQueue,
        before.mWakeLockQueue = numWakeLocksProcessed :: mWakeLockQueue
        ∧ after
          = { before with
              mWakeLockQueue
              wakelockThread := .waiting
            }.decrementRefCountAndMaybeReleaseWakelock numWakeLocksProcessed (-1))
      ∨ after = { before with wakelockThread := .waiting } := by
  unfold readWakeLock at taken
  split at taken
  · rename_i numWakeLocksProcessed mWakeLockQueue _ queue
    exact .inl ⟨numWakeLocksProcessed, mWakeLockQueue, queue, (Option.some.inj taken).symm⟩
  · exact .inr (Option.some.inj taken).symm
  · cases taken

/-- With a locked wakelock, a batch is queued once its references are taken. -/
theorem postEventsToMessageQueue_locked {proxy : HalProxy} {events : List Event}
    {numWakeupEvents : Nat} {written : Bool}
    : proxy.postEventsToMessageQueue setup events numWakeupEvents true written
      = (proxy.incrementRefCountAndMaybeAcquireWakelock
          numWakeupEvents).1.postEventsToMessageQueue setup events numWakeupEvents false
          written :=
  rfl

/-- Without one, queueing touches only the two queues and the size of the pending one. -/
theorem postEventsToMessageQueue_unlocked {proxy : HalProxy} {events : List Event}
    {numWakeupEvents : Nat} {written : Bool}
    : proxy.postEventsToMessageQueue setup events numWakeupEvents false written
      = { proxy with
          mEventQueue :=
            proxy.mEventQueue ++ events.take (proxy.numToWrite setup events written)
          mPendingWriteEventsQueue :=
            if proxy.fitsPending setup events written then
              proxy.mPendingWriteEventsQueue
                ++ [(events.drop (proxy.numToWrite setup events written), numWakeupEvents)]
            else
              proxy.mPendingWriteEventsQueue
          mSizePendingWriteEventsQueue :=
            if proxy.fitsPending setup events written then
              proxy.mSizePendingWriteEventsQueue
                + (events.length - proxy.numToWrite setup events written)
            else
              proxy.mSizePendingWriteEventsQueue
          mMostEventsObservedPendingWriteEventsQueue :=
            if proxy.fitsPending setup events written then
              max proxy.mMostEventsObservedPendingWriteEventsQueue
                (proxy.mSizePendingWriteEventsQueue
                  + (events.length - proxy.numToWrite setup events written))
            else
              proxy.mMostEventsObservedPendingWriteEventsQueue
        } := by
  cases fits : proxy.fitsPending setup events written <;>
    simp [postEventsToMessageQueue, fits]

@[simp]
theorem mThreadsRun_increment (proxy : HalProxy) (delta : Nat)
    : (proxy.incrementRefCountAndMaybeAcquireWakelock delta).1.mThreadsRun
      = proxy.mThreadsRun := by
  unfold incrementRefCountAndMaybeAcquireWakelock
  split <;> rfl

@[simp]
theorem mThreadsRun_decrement (proxy : HalProxy) (delta : Nat) (timeoutStart : Int)
    : (proxy.decrementRefCountAndMaybeReleaseWakelock delta timeoutStart).mThreadsRun
      = proxy.mThreadsRun := by
  obtain ⟨_, _, same⟩ := proxy.decrementRefCount_frame delta timeoutStart
  rw [same]

/-- No step starts or stops the threads. -/
theorem mThreadsRun_step {action : Action}
    (taken : (halProxyMachine setup).step before action = some after)
    : after.mThreadsRun = before.mThreadsRun := by
  cases action with
  | createScopedWakelock lock =>
      obtain rfl := Option.some.inj taken
      cases lock <;> simp [createScopedWakelock]
  | postEvents index subHalIndex events written =>
      rcases postEvents_eq_some taken with ⟨wakelock, _, _, ⟨_, rfl⟩ | ⟨_, _, rfl⟩⟩
      · rfl
      · cases wakelock.mLocked with
        | true => simp [postEventsToMessageQueue_locked, postEventsToMessageQueue_unlocked]
        | false => simp [postEventsToMessageQueue_unlocked]
  | destroyScopedWakelock index =>
      rcases destroyScopedWakelock_eq_some taken with ⟨_, _, ⟨_, rfl⟩ | ⟨_, rfl⟩⟩
      · simp
      · rfl
  | takePendingWrites =>
      obtain ⟨_, _, _, _, _, rfl⟩ := takePendingWrites_eq_some taken
      rfl
  | writeBlocking written =>
      rcases writeBlocking_eq_some taken with ⟨_, _, _, _, _, _, _, ⟨_, _, rfl⟩ | ⟨_, rfl⟩⟩
      · rfl
      · unfold dropPendingWrites
        dsimp only
        split
        · split <;> simp
        · rfl
  | popPendingWrites =>
      obtain ⟨_, _, _, _, _, _, rfl⟩ := popPendingWrites_eq_some taken
      rfl
  | checkWakelock =>
      rcases checkWakelock_eq_some taken with ⟨_, rfl⟩ | ⟨_, rfl⟩
      · simp [resetSharedWakelock]
      · rfl
  | readWakeLock success =>
      rcases readWakeLock_eq_some taken with ⟨_, _, _, rfl⟩ | rfl
      · simp
      · rfl
  | readEvents count =>
      obtain ⟨_, rfl⟩ := readEvents_eq_some taken
      rfl
  | acknowledge index =>
      obtain ⟨_, _, rfl⟩ := Option.map_eq_some_iff.mp taken
      rfl
  | writeWakeLock _ | elapse _ =>
      obtain rfl := Option.some.inj taken
      rfl

end HalProxy

end PongDevice.Sensors
