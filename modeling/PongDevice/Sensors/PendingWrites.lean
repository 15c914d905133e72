import PongDevice.Delivery.Channel
import PongDevice.Sensors.HalProxy

/-! The two event queues as a channel. A batch goes to the event queue while nothing is
pending, the pending writes thread moves the rest there chunk by chunk, and an overflow or a
failed write loses events.
-/

namespace PongDevice.Sensors

open Transition Delivery

-----------------------------------------------------------------------------------------
-- The queues and what the pending writes thread is doing with them
-----------------------------------------------------------------------------------------

/-- The part of the proxy that delivers events. -/
structure EventQueues where
  mEventQueue : List Event
  mPendingWriteEventsQueue : List (List Event × Nat)
  mSizePendingWriteEventsQueue : Nat
  pendingWritesThread : PendingWritesThread

/-- The queues of a proxy, with the thread that moves events between them. -/
def HalProxy.eventQueues (proxy : HalProxy) : EventQueues :=
  {
    mEventQueue := proxy.mEventQueue
    mPendingWriteEventsQueue := proxy.mPendingWriteEventsQueue
    mSizePendingWriteEventsQueue := proxy.mSizePendingWriteEventsQueue
    pendingWritesThread := proxy.pendingWritesThread
  }

namespace EventQueues

/-- Every event in the pending queue. -/
def queued (queues : EventQueues) : List Event :=
  queues.mPendingWriteEventsQueue.flatMap Prod.fst

/-- `numToWrite` of the iteration that is under way. -/
def inFlight (queues : EventQueues) : Nat :=
  match queues.pendingWritesThread with
  | .waiting => 0
  | .writing _ numToWrite | .written numToWrite => numToWrite

/-- The pending events: those in the queue, except for a chunk that has been written or lost
and is still to be removed.
-/
def pending (queues : EventQueues) : List Event :=
  match queues.pendingWritesThread with
  | .written numToWrite => queues.queued.drop numToWrite
  | _ => queues.queued

/-- An iteration under way is about the front of the pending queue and writes as much of it
as the event queue can hold at all.
-/
def ChunkInFront (setup : Setup) (queues : EventQueues) : Prop :=
  match queues.pendingWritesThread with
  | .waiting => True
  | .writing numWakeupEvents numToWrite =>
      ∃ pendingWriteEvents rest,
        queues.mPendingWriteEventsQueue = (pendingWriteEvents, numWakeupEvents) :: rest
        ∧ numToWrite = min pendingWriteEvents.length setup.quantumCount
  | .written numToWrite =>
      ∃ pendingWriteEvents numWakeupEvents rest,
        queues.mPendingWriteEventsQueue = (pendingWriteEvents, numWakeupEvents) :: rest
        ∧ numToWrite = min pendingWriteEvents.length setup.quantumCount

/-- Everything a step of the proxy can do to the queues, with the batch that it posts and the
chunk that it loses.
-/
inductive Step (setup : Setup) : List Event → List Event → EventQueues → EventQueues → Prop
    where
  | other {queues} : Step setup [] [] queues queues
  | read {queues : EventQueues} (count)
    : Step setup [] [] queues { queues with mEventQueue := queues.mEventQueue.drop count }
  | queue {queues : EventQueues} {events numToWrite numWakeupEvents}
    (order : numToWrite = 0 ∨ queues.mPendingWriteEventsQueue = [])
    (room : numToWrite ≤ setup.quantumCount - queues.mEventQueue.length)
    (left : numToWrite < events.length)
    (fits
      : queues.mSizePendingWriteEventsQueue + (events.length - numToWrite)
        ≤ setup.kMaxSizePendingWriteEventsQueue)
    : Step setup events [] queues
        { queues with
          mEventQueue := queues.mEventQueue ++ events.take numToWrite
          mPendingWriteEventsQueue :=
            queues.mPendingWriteEventsQueue ++ [(events.drop numToWrite, numWakeupEvents)]
          mSizePendingWriteEventsQueue :=
            queues.mSizePendingWriteEventsQueue + (events.length - numToWrite)
        }
  | overflow {queues : EventQueues} {events numToWrite}
    (order : numToWrite = 0 ∨ queues.mPendingWriteEventsQueue = [])
    (room : numToWrite ≤ setup.quantumCount - queues.mEventQueue.length)
    (full
      : ¬(numToWrite < events.length
          ∧ queues.mSizePendingWriteEventsQueue + (events.length - numToWrite)
            ≤ setup.kMaxSizePendingWriteEventsQueue))
    : Step setup events [] queues
        { queues with mEventQueue := queues.mEventQueue ++ events.take numToWrite }
  | take {queues : EventQueues} {pendingWriteEvents numWakeupEvents rest}
    (waiting : queues.pendingWritesThread = .waiting)
    (front
      : queues.mPendingWriteEventsQueue = (pendingWriteEvents, numWakeupEvents) :: rest)
    : Step setup [] [] queues
        { queues with
          pendingWritesThread :=
            .writing numWakeupEvents (min pendingWriteEvents.length setup.quantumCount)
        }
  | write {queues : EventQueues} {numWakeupEvents numToWrite pendingWriteEvents stored rest}
    (writing : queues.pendingWritesThread = .writing numWakeupEvents numToWrite)
    (front : queues.mPendingWriteEventsQueue = (pendingWriteEvents, stored) :: rest)
    (room : numToWrite ≤ setup.quantumCount - queues.mEventQueue.length)
    : Step setup [] [] queues
        { queues with
          mEventQueue := queues.mEventQueue ++ pendingWriteEvents.take numToWrite
          pendingWritesThread := .written numToWrite
        }
  | fail {queues : EventQueues} {numWakeupEvents numToWrite pendingWriteEvents stored rest}
    (writing : queues.pendingWritesThread = .writing numWakeupEvents numToWrite)
    (front : queues.mPendingWriteEventsQueue = (pendingWriteEvents, stored) :: rest)
    : Step setup [] (queues.pending.take numToWrite) queues
        { queues with pendingWritesThread := .written numToWrite }
  | pop {queues : EventQueues} {numToWrite pendingWriteEvents numWakeupEvents rest}
    (written : queues.pendingWritesThread = .written numToWrite)
    (front
      : queues.mPendingWriteEventsQueue = (pendingWriteEvents, numWakeupEvents) :: rest)
    : Step setup [] [] queues
        { queues with
          mSizePendingWriteEventsQueue := queues.mSizePendingWriteEventsQueue - numToWrite
          mPendingWriteEventsQueue :=
            if setup.quantumCount < pendingWriteEvents.length then
              (pendingWriteEvents.drop setup.quantumCount, numWakeupEvents) :: rest
            else
              rest
          pendingWritesThread := .waiting
        }

end EventQueues

namespace HalProxy

/-- The batch that an action passes to `postEventsToMessageQueue`. -/
def postedBy (proxy : HalProxy) : Action → List Event
  | .postEvents _ subHalIndex events _ =>
      if proxy.mThreadsRun then (processEvents proxy.mSensors subHalIndex events).1 else []
  | _ => []

/-- The chunk that an action fails to write. -/
def failedBy (proxy : HalProxy) : Action → List Event
  | .writeBlocking false => proxy.eventQueues.pending.take proxy.eventQueues.inFlight
  | _ => []

@[simp]
theorem eventQueues_increment (proxy : HalProxy) (delta : Nat)
    : (proxy.incrementRefCountAndMaybeAcquireWakelock delta).1.eventQueues
      = proxy.eventQueues := by
  unfold incrementRefCountAndMaybeAcquireWakelock
  split <;> rfl

@[simp]
theorem eventQueues_decrement (proxy : HalProxy) (delta : Nat) (timeoutStart : Int)
    : (proxy.decrementRefCountAndMaybeReleaseWakelock delta timeoutStart).eventQueues
      = proxy.eventQueues := by
  obtain ⟨_, _, same⟩ := proxy.decrementRefCount_frame delta timeoutStart
  rw [same]
  rfl

@[simp]
theorem eventQueues_dropPendingWrites (setup : Setup) (proxy : HalProxy)
    (pendingWriteEvents : List Event) (numWakeupEvents : Nat)
    : (proxy.dropPendingWrites setup pendingWriteEvents numWakeupEvents).eventQueues
      = proxy.eventQueues := by
  unfold dropPendingWrites
  dsimp only
  split
  · split
    · exact eventQueues_decrement _ _ _
    · exact eventQueues_decrement _ _ _
  · rfl

@[simp]
theorem eventQueues_resetSharedWakelock (proxy : HalProxy)
    : proxy.resetSharedWakelock.eventQueues = proxy.eventQueues :=
  proxy.eventQueues_decrement proxy.mWakelockRefCount (-1)

/-- A batch is written at once only past an empty pending queue. -/
theorem numToWrite_order (setup : Setup) (proxy : HalProxy) (events : List Event)
    (written : Bool)
    : proxy.numToWrite setup events written = 0 ∨ proxy.mPendingWriteEventsQueue = [] := by
  unfold numToWrite
  split
  · rename_i empty
    exact .inr (List.isEmpty_iff.mp empty)
  · exact .inl rfl

/-- A batch is written at once only as far as there is room. -/
theorem numToWrite_le (setup : Setup) (proxy : HalProxy) (events : List Event)
    (written : Bool)
    : proxy.numToWrite setup events written ≤ proxy.availableToWrite setup := by
  unfold numToWrite
  dsimp only
  split
  · split
    · exact Nat.zero_le _
    · exact Nat.min_le_right _ _
  · exact Nat.zero_le _

/-- Queueing a batch is one of the two posting steps. -/
theorem queueStep_post (setup : Setup) (proxy : HalProxy) (events : List Event)
    (numWakeupEvents : Nat) (isLocked written : Bool)
    : EventQueues.Step setup events [] proxy.eventQueues
        (proxy.postEventsToMessageQueue setup events numWakeupEvents isLocked
          written).eventQueues := by
  have unlocked : ∀ counted : HalProxy,
      EventQueues.Step setup events [] counted.eventQueues
        (counted.postEventsToMessageQueue setup events numWakeupEvents false
          written).eventQueues := by
    intro counted
    have order := counted.numToWrite_order setup events written
    have room := counted.numToWrite_le setup events written
    rw [postEventsToMessageQueue_unlocked]
    cases fits : counted.fitsPending setup events written with
    | true =>
        simp only [if_true]
        simp only [fitsPending, decide_eq_true_eq] at fits
        exact .queue order room fits.1 fits.2
    | false =>
        simp only [Bool.false_eq_true, if_false]
        simp only [fitsPending, decide_eq_false_iff_not] at fits
        exact .overflow order room fits
  cases isLocked with
  | true =>
      have counted :=
        unlocked (proxy.incrementRefCountAndMaybeAcquireWakelock numWakeupEvents).1
      rwa [eventQueues_increment] at counted
  | false => exact unlocked proxy

/-- Every action makes one step of the queues. -/
theorem queueStep {setup : Setup} {before after : HalProxy} {action : Action}
    (taken : (halProxyMachine setup).step before action = some after)
    : EventQueues.Step setup (before.postedBy action) (before.failedBy action)
        before.eventQueues after.eventQueues := by
  cases action with
  | createScopedWakelock lock =>
      obtain rfl := Option.some.inj taken
      have same : (before.createScopedWakelock lock).eventQueues = before.eventQueues := by
        cases lock with
        | true => exact eventQueues_increment before 1
        | false => rfl
      rw [same]
      exact .other
  | postEvents index subHalIndex events written =>
      rcases postEvents_eq_some taken with ⟨wakelock, _, _, ⟨idle, rfl⟩ | ⟨busy, running, rfl⟩⟩
      · have none : before.postedBy (.postEvents index subHalIndex events written) = [] := by
          rcases idle with rfl | stopped
          · simp [postedBy, processEvents]
          · simp [postedBy, stopped]
        rw [none]
        exact .other
      · have posted : before.postedBy (.postEvents index subHalIndex events written)
            = (processEvents before.mSensors subHalIndex events).1 := by
          simp [postedBy, running]
        rw [posted]
        exact queueStep_post setup (before.moveWakelock index wakelock) _ _ _ _
  | destroyScopedWakelock index =>
      rcases destroyScopedWakelock_eq_some taken with ⟨_, _, ⟨_, rfl⟩ | ⟨_, rfl⟩⟩
      · rw [eventQueues_decrement]
        exact .other
      · exact .other
  | takePendingWrites =>
      obtain ⟨_, _, _, waiting, front, rfl⟩ := takePendingWrites_eq_some taken
      exact .take waiting front
  | writeBlocking written =>
      rcases writeBlocking_eq_some taken with
        ⟨numWakeupEvents, numToWrite, pendingWriteEvents, _, _, writing, front,
        ⟨rfl, room, rfl⟩ | ⟨rfl, rfl⟩⟩
      · exact .write writing front room
      · have lost : before.failedBy (.writeBlocking false)
            = before.eventQueues.pending.take numToWrite := by
          simp [failedBy, EventQueues.inFlight, eventQueues, writing]
        have same :
            { before.dropPendingWrites setup pendingWriteEvents numWakeupEvents with
              pendingWritesThread := .written numToWrite
            }.eventQueues
            = { before.eventQueues with pendingWritesThread := .written numToWrite } :=
          congrArg
            (fun queues : EventQueues =>
              { queues with pendingWritesThread := .written numToWrite })
            (before.eventQueues_dropPendingWrites setup pendingWriteEvents numWakeupEvents)
        rw [lost, same]
        exact .fail writing front
  | popPendingWrites =>
      obtain ⟨_, _, _, _, written, front, rfl⟩ := popPendingWrites_eq_some taken
      exact .pop written front
  | checkWakelock =>
      rcases checkWakelock_eq_some taken with ⟨_, rfl⟩ | ⟨_, rfl⟩
      · rw [eventQueues_resetSharedWakelock]
        exact .other
      · exact .other
  | readWakeLock success =>
      rcases readWakeLock_eq_some taken with ⟨_, _, _, rfl⟩ | rfl
      · rw [eventQueues_decrement]
        exact .other
      · exact .other
  | readEvents count =>
      obtain ⟨_, rfl⟩ := readEvents_eq_some taken
      exact .read count
  | acknowledge index =>
      obtain ⟨_, _, rfl⟩ := Option.map_eq_some_iff.mp taken
      exact .other
  | writeWakeLock _ | elapse _ =>
      obtain rfl := Option.some.inj taken
      exact .other

end HalProxy

-----------------------------------------------------------------------------------------
-- The queues refine a lossy channel
-----------------------------------------------------------------------------------------

/-- What became of the posted events, those that are pending apart. -/
structure Ledger where
  posted : List Event := []
  written : List Event := []
  overflowed : List Event := []
  failed : List Event := []

/-- The events that the queues hold. -/
def EventQueues.held (queues : EventQueues) : Nat :=
  queues.mEventQueue.length + queues.queued.length

/-- The ledger after a step. What the event queue gained was written, and the part of a batch
by which the queues did not grow was dropped by the overflow test.
-/
def Ledger.note (ledger : Ledger) (posted failed : List Event) (before after : EventQueues)
    : Ledger :=
  {
    posted := ledger.posted ++ posted
    written := ledger.written ++ after.mEventQueue.drop before.mEventQueue.length
    overflowed := ledger.overflowed ++ posted.drop (after.held - before.held)
    failed := ledger.failed ++ failed
  }

/-- The channel that a ledger and the pending events make up. -/
def Ledger.channel (ledger : Ledger) (queues : EventQueues) : Channel Event :=
  {
    posted := ledger.posted
    written := ledger.written
    pending := queues.pending
    overflowed := ledger.overflowed
    failed := ledger.failed
  }

namespace EventQueues

variable {setup : Setup} {posted failed : List Event} {before after : EventQueues}

/-- The chunk under way is still in the pending queue. -/
theorem ChunkInFront.inFlight_le {queues : EventQueues} (front : queues.ChunkInFront setup)
    : queues.inFlight ≤ queues.queued.length := by
  unfold ChunkInFront at front
  unfold inFlight queued
  split
  · exact Nat.zero_le _
  · rename_i thread
    simp only [thread] at front
    obtain ⟨pendingWriteEvents, rest, queue, rfl⟩ := front
    simp only [queue, List.flatMap_cons, List.length_append]
    omega
  · rename_i thread
    simp only [thread] at front
    obtain ⟨pendingWriteEvents, numWakeupEvents, rest, queue, rfl⟩ := front
    simp only [queue, List.flatMap_cons, List.length_append]
    omega

/-- What an iteration is about to write. -/
theorem ChunkInFront.of_writing {queues : EventQueues} (front : queues.ChunkInFront setup)
    {numWakeupEvents numToWrite stored : Nat} {pendingWriteEvents : List Event}
    {rest : List (List Event × Nat)}
    (writing : queues.pendingWritesThread = .writing numWakeupEvents numToWrite)
    (queue : queues.mPendingWriteEventsQueue = (pendingWriteEvents, stored) :: rest)
    : numToWrite = min pendingWriteEvents.length setup.quantumCount
      ∧ numWakeupEvents = stored := by
  simp only [ChunkInFront, writing, queue, List.cons.injEq, Prod.mk.injEq] at front
  obtain ⟨_, _, ⟨⟨rfl, rfl⟩, _⟩, count⟩ := front
  exact ⟨count, rfl⟩

/-- What an iteration has written, or has given up. -/
theorem ChunkInFront.of_written {queues : EventQueues} (front : queues.ChunkInFront setup)
    {numToWrite numWakeupEvents : Nat} {pendingWriteEvents : List Event}
    {rest : List (List Event × Nat)}
    (written : queues.pendingWritesThread = .written numToWrite)
    (queue : queues.mPendingWriteEventsQueue = (pendingWriteEvents, numWakeupEvents) :: rest)
    : numToWrite = min pendingWriteEvents.length setup.quantumCount := by
  simp only [ChunkInFront, written, queue, List.cons.injEq, Prod.mk.injEq] at front
  obtain ⟨_, _, _, ⟨⟨rfl, rfl⟩, _⟩, count⟩ := front
  exact count

/-- The chunk that is about to be written is the oldest pending events. -/
theorem ChunkInFront.take_pending {queues : EventQueues}
    (front : queues.ChunkInFront setup) {numWakeupEvents numToWrite stored : Nat}
    {pendingWriteEvents : List Event} {rest : List (List Event × Nat)}
    (writing : queues.pendingWritesThread = .writing numWakeupEvents numToWrite)
    (queue : queues.mPendingWriteEventsQueue = (pendingWriteEvents, stored) :: rest)
    : queues.pending.take numToWrite = pendingWriteEvents.take numToWrite := by
  have inside : numToWrite ≤ pendingWriteEvents.length :=
    (front.of_writing writing queue).1 ▸ Nat.min_le_left _ _
  simp [pending, queued, writing, queue, List.take_append_of_le_length inside]

/-- Removing a finished chunk from the queue leaves the pending events as they are. -/
theorem ChunkInFront.pending_pop {queues : EventQueues} (front : queues.ChunkInFront setup)
    {numToWrite numWakeupEvents : Nat} {pendingWriteEvents : List Event}
    {rest : List (List Event × Nat)}
    (written : queues.pendingWritesThread = .written numToWrite)
    (queue : queues.mPendingWriteEventsQueue = (pendingWriteEvents, numWakeupEvents) :: rest)
    : (if setup.quantumCount < pendingWriteEvents.length then
          (pendingWriteEvents.drop setup.quantumCount, numWakeupEvents) :: rest
        else
          rest).flatMap Prod.fst
      = queues.pending := by
  simp only [pending, queued, written, queue, List.flatMap_cons,
    front.of_written written queue]
  split
  · rename_i long
    rw [Nat.min_eq_right (Nat.le_of_lt long),
      List.drop_append_of_le_length (Nat.le_of_lt long), List.flatMap_cons]
  · rename_i short
    rw [Nat.min_eq_left (Nat.not_lt.mp short), List.drop_left]

/-- A batch that is queued becomes pending behind everything else. -/
theorem ChunkInFront.pending_append (front : before.ChunkInFront setup)
    (thread : after.pendingWritesThread = before.pendingWritesThread)
    (events : List Event) (queued : after.queued = before.queued ++ events)
    : after.pending = before.pending ++ events := by
  have inside := front.inFlight_le
  unfold pending
  unfold inFlight at inside
  rw [thread, queued]
  cases stage : before.pendingWritesThread with
  | waiting | writing _ _ => rfl
  | written numToWrite =>
      simp only [stage] at inside
      exact List.drop_append_of_le_length inside

/-- Every step keeps the chunk under way in front. -/
theorem Step.chunkInFront (step : Step setup posted failed before after)
    (front : before.ChunkInFront setup)
    : after.ChunkInFront setup := by
  cases step with
  | other | read count | overflow => exact front
  | @queue _ _ numToWrite numWakeupEvents =>
      unfold ChunkInFront at front ⊢
      dsimp only
      split at front
      · trivial
      · obtain ⟨pendingWriteEvents, rest, queue, count⟩ := front
        exact ⟨pendingWriteEvents, rest ++ [(posted.drop numToWrite, numWakeupEvents)],
          by simp [queue], count⟩
      · obtain ⟨pendingWriteEvents, stored, rest, queue, count⟩ := front
        exact ⟨pendingWriteEvents, stored,
          rest ++ [(posted.drop numToWrite, numWakeupEvents)], by simp [queue], count⟩
  | take waiting queue => exact ⟨_, _, queue, rfl⟩
  | write writing queue room | fail writing queue =>
      simp only [ChunkInFront, writing] at front
      obtain ⟨pendingWriteEvents, rest, same, count⟩ := front
      exact ⟨pendingWriteEvents, _, rest, same, count⟩
  | pop => trivial

/-- A step that posts nothing and leaves the pending events alone does nothing. -/
theorem refines_idle (ledger : Ledger)
    (written : after.mEventQueue.drop before.mEventQueue.length = [])
    (pending : after.pending = before.pending)
    : Channel.Step (ledger.channel before) ((ledger.note [] [] before after).channel after) := by
  have same : (ledger.note [] [] before after).channel after = ledger.channel before := by
    simp [Ledger.note, Ledger.channel, written, pending]
  rw [same]
  exact .idle

/-- A step that posts a batch splits it in what is written, pending and dropped. -/
theorem refines_post (ledger : Ledger) (direct queued lost : List Event)
    (split : posted = direct ++ (queued ++ lost))
    (order : direct = [] ∨ before.pending = [])
    (written : after.mEventQueue = before.mEventQueue ++ direct)
    (pending : after.pending = before.pending ++ queued)
    (waits : after.queued = before.queued ++ queued)
    : Channel.Step (ledger.channel before)
        ((ledger.note posted [] before after).channel after) := by
  have grown : after.held - before.held = (direct ++ queued).length := by
    simp only [held, written, waits, List.length_append]
    omega
  have dropped : posted.drop (after.held - before.held) = lost := by
    rw [grown, split, ← List.append_assoc, List.drop_left]
  have same : (ledger.note posted [] before after).channel after
      = (ledger.channel before).post direct queued lost := by
    simp [Ledger.note, Ledger.channel, Channel.post, written, pending, dropped, ← split]
  rw [same]
  exact .post order

/-- A step that moves the oldest pending events to the event queue delivers them. -/
theorem refines_deliver (ledger : Ledger) (count : Nat)
    (written : after.mEventQueue.drop before.mEventQueue.length = before.pending.take count)
    (pending : after.pending = before.pending.drop count)
    : Channel.Step (ledger.channel before) ((ledger.note [] [] before after).channel after) := by
  have same : (ledger.note [] [] before after).channel after
      = (ledger.channel before).deliver count := by
    simp [Ledger.note, Ledger.channel, Channel.deliver, written, pending]
  rw [same]
  exact .deliver count

/-- A step that gives the oldest pending events up fails them. -/
theorem refines_fail (ledger : Ledger) (count : Nat)
    (written : after.mEventQueue.drop before.mEventQueue.length = [])
    (pending : after.pending = before.pending.drop count)
    : Channel.Step (ledger.channel before)
        ((ledger.note [] (before.pending.take count) before after).channel after) := by
  have same : (ledger.note [] (before.pending.take count) before after).channel after
      = (ledger.channel before).fail count := by
    simp [Ledger.note, Ledger.channel, Channel.fail, written, pending]
  rw [same]
  exact .fail count

/-- Without a pending batch there is no pending event. -/
theorem pending_eq_nil {queues : EventQueues} (none : queues.mPendingWriteEventsQueue = [])
    : queues.pending = [] := by
  unfold pending queued
  split <;> simp [none]

/-- Every step of the queues is a step of the channel.
Witness: a written chunk leaves the pending events at once, while it is still in the queue,
and removing it from there changes nothing more.
-/
theorem Step.refines (step : Step setup posted failed before after)
    (front : before.ChunkInFront setup) (ledger : Ledger)
    : Channel.Step (ledger.channel before)
        ((ledger.note posted failed before after).channel after) := by
  cases step with
  | other => exact refines_idle ledger List.drop_length rfl
  | read count => exact refines_idle ledger (by simp) rfl
  | @queue _ _ numToWrite numWakeupEvents order room left fits =>
      refine refines_post ledger (posted.take numToWrite) (posted.drop numToWrite) []
        (by simp) (order.imp (fun none => by simp [none]) pending_eq_nil) rfl
        (front.pending_append ?_ _ ?_) ?_
      · rfl
      · simp [queued]
      · simp [queued]
  | @overflow _ _ numToWrite order room full =>
      exact refines_post ledger (posted.take numToWrite) [] (posted.drop numToWrite)
        (by simp) (order.imp (fun none => by simp [none]) pending_eq_nil) rfl
        (List.append_nil _).symm (List.append_nil _).symm
  | take waiting queue =>
      exact refines_idle ledger List.drop_length (by simp [pending, queued, waiting])
  | write writing queue room =>
      exact refines_deliver ledger _
        (List.drop_left.trans (front.take_pending writing queue).symm)
        (by simp [pending, queued, writing])
  | fail writing queue =>
      exact refines_fail ledger _ List.drop_length (by simp [pending, queued, writing])
  | pop written queue =>
      exact refines_idle ledger List.drop_length (front.pending_pop written queue)

/-- The size counter counts the pending queue, which is never longer than it may be, and the
event queue never holds more than it can.
-/
structure Sized (setup : Setup) (queues : EventQueues) : Prop where
  size : queues.mSizePendingWriteEventsQueue = queues.queued.length
  bounded : queues.mSizePendingWriteEventsQueue ≤ setup.kMaxSizePendingWriteEventsQueue
  capacity : queues.mEventQueue.length ≤ setup.quantumCount

/-- Every step keeps the sizes.
Witness: the overflow test admits what fits, and a removed chunk is `numToWrite` events long.
-/
theorem Step.sized (step : Step setup posted failed before after)
    (front : before.ChunkInFront setup) (sized : before.Sized setup)
    : after.Sized setup := by
  obtain ⟨size, bounded, capacity⟩ := sized
  cases step with
  | other | take | fail => exact ⟨size, bounded, capacity⟩
  | read count =>
      refine ⟨size, bounded, ?_⟩
      simp only [List.length_drop]
      omega
  | queue order room left fits =>
      refine ⟨?_, fits, ?_⟩
      · simp [queued, size]
      · simp only [List.length_append, List.length_take]
        omega
  | overflow order room full =>
      refine ⟨size, bounded, ?_⟩
      simp only [List.length_append, List.length_take]
      omega
  | write writing queue room =>
      refine ⟨size, bounded, ?_⟩
      simp only [List.length_append, List.length_take]
      omega
  | @pop _ numToWrite pendingWriteEvents numWakeupEvents rest written queue =>
      have count := front.of_written written queue
      have total : before.queued.length
          = pendingWriteEvents.length + (rest.flatMap Prod.fst).length := by
        simp [queued, queue]
      refine ⟨?_, by dsimp only; omega, capacity⟩
      have counted := size.trans total
      simp only [queued, counted]
      split
      · simp only [List.flatMap_cons, List.length_append, List.length_drop]
        omega
      · omega

end EventQueues

def noteDelivery (ledger : Ledger) (before : HalProxy) (action : HalProxy.Action)
    (after : HalProxy)
    : Ledger :=
  ledger.note (before.postedBy action) (before.failedBy action) before.eventQueues
    after.eventQueues

/-- The proxy with the ledger of the events that were posted to it. -/
def deliveringMachine (setup : Setup) : Machine (HalProxy × Ledger) HalProxy.Action :=
  (halProxyMachine setup).observe noteDelivery

/-- Events are written in the order in which they were posted, each posted event is exactly
one of written, pending, overflowed and failed, and the size of the pending queue is counted
without overrun or underflow.
-/
structure DeliversInOrder (setup : Setup) (queues : EventQueues) (ledger : Ledger) : Prop where
  ordered : (ledger.written ++ queues.pending).Sublist ledger.posted
  conserved
    : ledger.posted.Perm
        (ledger.written ++ queues.pending ++ ledger.overflowed ++ ledger.failed)
  size : queues.mSizePendingWriteEventsQueue = queues.queued.length
  noUnderflow : queues.inFlight ≤ queues.mSizePendingWriteEventsQueue
  bounded : queues.mSizePendingWriteEventsQueue ≤ setup.kMaxSizePendingWriteEventsQueue

end PongDevice.Sensors
