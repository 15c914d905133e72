import PongDevice.Sensors.DynamicSensors
import PongDevice.Sensors.HalProxy

/-! The sensors proxy across calls of `initialize`. The framework calls it again and again, while
the threads of the sub-HALs are anywhere in `postEvents`.
-/

namespace PongDevice.Sensors

open Transition

/-- Where `initializeCommon` stands: what it has done last. -/
inductive Initializer where
  | idle
  | stopping
  | joined
  | disabled
  | cleared
  | installed
  | started
deriving DecidableEq, Repr

/-- Where a thread of a sub-HAL stands in `HalProxyCallbackBase::postEvents`. -/
inductive PosterPoint where
  | entered
  | checked
  | returning
  | returned
deriving DecidableEq, Repr

/-- A call of `postEvents` with its arguments. -/
structure Poster where
  subHalIndex : Nat
  events : List Event
  wakelock : ScopedWakelock
  point : PosterPoint
deriving DecidableEq, Repr

/-- The proxy, with the capacities of its present queues, the calls that are under way, and the
dynamic sensors. Sub-HALs call it once one `initialize` has handed it to them.
-/
structure System extends HalProxy where
  setup : Setup
  initializer : Initializer := .idle
  callbacks : Bool := false
  mDynamicSensors : SensorTable := fun _ => none
  posters : List Poster := []

/-- What happens: a step of `initializeCommon`, a step of a call of `postEvents`, or another one
of the proxy's own. A queue that is installed has a capacity of its own.
-/
inductive System.Action where
  | stopThreads
  | joinThreads
  | disableAllSensors
  | clearPending
  | installQueues (quantumCount : Nat)
  | startThreads
  | initializeSubHals
  | enterPostEvents (index subHalIndex : Nat) (events : List Event)
  | checkThreads (poster : Nat)
  | postEventsToMessageQueue (poster : Nat) (written : Bool)
  | returnPostEvents (poster : Nat)
  | dynamicSensorsConnected (subHalIndex : Nat) (dynamicSensorsAdded : List SensorInfo)
  | dynamicSensorsDisconnected (subHalIndex : Nat)
      (dynamicSensorHandlesRemoved : List (BitVec 32))
  | proxy (action : HalProxy.Action)

/-- `getSensorInfo` is declared in a header of its own; the parameter is the table that it
leaves of the one that it looks up in.
-/
abbrev Lookup := SensorTable → BitVec 32 → SensorTable

namespace System

/-- The proxy as it is constructed over its sub-HALs. -/
def constructed (subHals : List (List SensorInfo)) (setup : Setup) (now : Int) : System where
  toHalProxy := .initialized (SensorList.initializeSensorList subHals).mSensors now
  setup := setup

-----------------------------------------------------------------------------------------
-- `initializeCommon`
-----------------------------------------------------------------------------------------

/-- `stopThreads` up to its joins. -/
def stopThreads (system : System) : Option System :=
  if system.initializer = .idle then
    some
      { system with
        initializer := .stopping
        mThreadsRun := false
        mEventQueue := []
        -- The queues are null before the first call.
        mWakeLockQueue :=
          if system.callbacks then system.mWakeLockQueue ++ [0] else system.mWakeLockQueue
      }
  else
    none

/-- The joins, which wait for both threads, and `resetSharedWakelock`. -/
def joinThreads (system : System) : Option System :=
  if system.initializer = .stopping ∧ system.pendingWritesThread = .waiting
      ∧ system.wakelockThread = .waiting then
    some { system with toHalProxy := system.resetSharedWakelock, initializer := .joined }
  else
    none

/-- `disableAllSensors` calls the sub-HALs only. -/
def disableAllSensors (system : System) : Option System :=
  if system.initializer = .joined then some { system with initializer := .disabled } else none

/-- The pending writes and the dynamic sensors are cleared. -/
def clearPending (system : System) : Option System :=
  if system.initializer = .disabled then
    some
      { system with
        initializer := .cleared
        mPendingWriteEventsQueue := []
        mSizePendingWriteEventsQueue := 0
        mDynamicSensors := fun _ => none
      }
  else
    none

/-- New queues, of which the framework has not read anything. -/
def installQueues (system : System) (quantumCount : Nat) : Option System :=
  if system.initializer = .cleared then
    some
      { system with
        initializer := .installed
        mEventQueue := []
        mWakeLockQueue := []
        unacknowledged := []
        setup := { system.setup with quantumCount }
      }
  else
    none

/-- Both threads are started. -/
def startThreads (system : System) : Option System :=
  if system.initializer = .installed then
    some
      { system with
        initializer := .started
        mThreadsRun := true
        pendingWritesThread := .waiting
        wakelockThread := .waiting
      }
  else
    none

/-- The sub-HALs are initialized with the proxy as their callback. -/
def initializeSubHals (system : System) : Option System :=
  if system.initializer = .started then
    some { system with initializer := .idle, callbacks := true }
  else
    none

-----------------------------------------------------------------------------------------
-- `postEvents`
-----------------------------------------------------------------------------------------

/-- A sub-HAL calls `postEvents` and moves a wakelock into it. -/
def enterPostEvents (system : System) (index subHalIndex : Nat) (events : List Event)
    : Option System :=
  if system.callbacks then
    system.scopedWakelocks[index]?.map (fun wakelock =>
      { system with
        scopedWakelocks := system.scopedWakelocks.eraseIdx index
        posters := system.posters ++ [{ subHalIndex, events, wakelock, point := .entered }]
      })
  else
    none

/-- The poster at an index, if it stands at a point. -/
def posterAt (system : System) (poster : Nat) (point : PosterPoint) : Option Poster :=
  system.posters[poster]?.filter (·.point = point)

/-- The posters with one of them moved on. -/
def movePoster (system : System) (poster : Nat) (call : Poster) (point : PosterPoint)
    : List Poster :=
  system.posters.set poster { call with point }

/-- The test of `areThreadsRunning`. -/
def checkThreads (system : System) (poster : Nat) : Option System :=
  (system.posterAt poster .entered).map (fun call =>
    { system with
      posters :=
        system.movePoster poster call
          (if call.events.isEmpty ∨ system.mThreadsRun = false then .returning else .checked)
    })

/-- The table that the lookups of `processEvents` leave. -/
def lookUp (lookup : Lookup) (mSensors : SensorTable) (subHalIndex : Nat) (events : List Event)
    : SensorTable :=
  events.foldl
    (fun table event => lookup table (Sensors.setSubHalIndex event.sensorHandle subHalIndex))
    mSensors

/-- `processEvents` and `postEventsToMessageQueue`. -/
def postEventsToMessageQueue (lookup : Lookup) (system : System) (poster : Nat) (written : Bool)
    : Option System :=
  (system.posterAt poster .checked).map (fun call =>
    let (processedEvents, numWakeupEvents) :=
      processEvents system.mSensors call.subHalIndex call.events
    let proxy :=
      { system.toHalProxy with
        mSensors := lookUp lookup system.mSensors call.subHalIndex call.events }
    { system with
      toHalProxy :=
        proxy.postEventsToMessageQueue system.setup processedEvents numWakeupEvents
          call.wakelock.mLocked written
      posters := system.movePoster poster call .returning
    })

/-- The return, which destroys the wakelock. -/
def returnPostEvents (system : System) (poster : Nat) : Option System :=
  (system.posterAt poster .returning).map (fun call =>
    { system with
      toHalProxy :=
        if call.wakelock.mLocked then
          system.decrementRefCountAndMaybeReleaseWakelock 1 call.wakelock.mCreatedAtTimeNs
        else
          system.toHalProxy
      posters := system.movePoster poster call .returned
    })

/-- A step of the proxy itself, of which only time passes before the sub-HALs know it. Posting
is not among them.
-/
def stepProxy (system : System) (action : HalProxy.Action) : Option System :=
  match action with
  | .postEvents .. => none
  | .elapse _ =>
      (system.toHalProxy.step system.setup action).map (fun proxy =>
        { system with toHalProxy := proxy })
  | _ =>
      if system.callbacks then
        (system.toHalProxy.step system.setup action).map (fun proxy =>
          { system with toHalProxy := proxy })
      else
        none

def step (lookup : Lookup) (system : System) : Action → Option System
  | .stopThreads => system.stopThreads
  | .joinThreads => system.joinThreads
  | .disableAllSensors => system.disableAllSensors
  | .clearPending => system.clearPending
  | .installQueues quantumCount => system.installQueues quantumCount
  | .startThreads => system.startThreads
  | .initializeSubHals => system.initializeSubHals
  | .enterPostEvents index subHalIndex events => system.enterPostEvents index subHalIndex events
  | .checkThreads poster => system.checkThreads poster
  | .postEventsToMessageQueue poster written =>
      system.postEventsToMessageQueue lookup poster written
  | .returnPostEvents poster => system.returnPostEvents poster
  | .dynamicSensorsConnected subHalIndex sensors =>
      if system.callbacks then
        some
          { system with
            mDynamicSensors :=
              (onDynamicSensorsConnected subHalIndex system.mDynamicSensors sensors).1 }
      else
        none
  | .dynamicSensorsDisconnected subHalIndex handles =>
      if system.callbacks then
        some
          { system with
            mDynamicSensors :=
              (onDynamicSensorsDisconnected subHalIndex system.mDynamicSensors handles).1 }
      else
        none
  | .proxy action => system.stepProxy action

end System

def systemMachine (lookup : Lookup) : Machine System System.Action where
  step := System.step lookup

/-- A call of `initialize` from its beginning to its end. -/
def initializeCommon (quantumCount : Nat) : List System.Action :=
  [.stopThreads, .joinThreads, .disableAllSensors, .clearPending, .installQueues quantumCount,
    .startThreads, .initializeSubHals]

namespace HalProxy

variable {setup : Setup} {before after : HalProxy}

/-- A reset touches the count, the wake lock and the time of the reset only. -/
theorem resetSharedWakelock_frame (proxy : HalProxy)
    : ∃ mWakelockRefCount wakeLockHeld,
        proxy.resetSharedWakelock
        = { proxy with
            mWakelockRefCount
            wakeLockHeld
            mWakelockTimeoutResetTime := proxy.now
          } := by
  obtain ⟨count, held, same⟩ :=
    proxy.decrementRefCount_frame proxy.mWakelockRefCount (-1)
  exact ⟨count, held, by rw [resetSharedWakelock, same]⟩

/-- Taking references touches the count, the wake lock and the time of its timeout only. -/
theorem incrementRefCount_frame (proxy : HalProxy) (delta : Nat)
    : ∃ mWakelockRefCount wakeLockHeld mWakelockTimeoutStartTime,
        (proxy.incrementRefCountAndMaybeAcquireWakelock delta).1
        = { proxy with mWakelockRefCount, wakeLockHeld, mWakelockTimeoutStartTime } := by
  unfold incrementRefCountAndMaybeAcquireWakelock
  split
  · exact ⟨_, _, _, rfl⟩
  · exact ⟨_, _, _, rfl⟩

/-- Queueing a batch adds one pending batch at most, and leaves the sensor table. -/
theorem postEventsToMessageQueue_frame (setup : Setup) (proxy : HalProxy) (events : List Event)
    (numWakeupEvents : Nat) (isLocked written : Bool)
    : let after :=
        proxy.postEventsToMessageQueue setup events numWakeupEvents isLocked written
      (after.mPendingWriteEventsQueue = proxy.mPendingWriteEventsQueue
        ∨ ∃ batch, after.mPendingWriteEventsQueue = proxy.mPendingWriteEventsQueue ++ [batch])
      ∧ after.mSensors = proxy.mSensors := by
  have unlocked (proxy : HalProxy) :
      let after := proxy.postEventsToMessageQueue setup events numWakeupEvents false written
      (after.mPendingWriteEventsQueue = proxy.mPendingWriteEventsQueue
        ∨ ∃ batch, after.mPendingWriteEventsQueue = proxy.mPendingWriteEventsQueue ++ [batch])
      ∧ after.mSensors = proxy.mSensors := by
    rw [postEventsToMessageQueue_unlocked]
    refine ⟨?_, rfl⟩
    dsimp only
    split
    · exact .inr ⟨_, rfl⟩
    · exact .inl rfl
  cases isLocked with
  | false => exact unlocked proxy
  | true =>
      obtain ⟨_, _, _, same⟩ := proxy.incrementRefCount_frame numWakeupEvents
      rw [postEventsToMessageQueue_locked, same]
      exact unlocked _

/-- A failed write touches the sensor table, by its lookups, and the references. -/
theorem dropPendingWrites_frame (setup : Setup) (proxy : HalProxy)
    (pendingWriteEvents : List Event) (numWakeupEvents : Nat)
    : ∃ mWakelockRefCount wakeLockHeld,
        proxy.dropPendingWrites setup pendingWriteEvents numWakeupEvents
        = { proxy with
            mSensors :=
              if 0 < numWakeupEvents ∧ setup.quantumCount < pendingWriteEvents.length then
                (countNumWakeupEvents proxy.mSensors pendingWriteEvents setup.quantumCount).2
              else
                proxy.mSensors
            mWakelockRefCount
            wakeLockHeld
          } := by
  unfold dropPendingWrites
  split
  · rename_i counted
    split
    · rename_i oversize
      obtain ⟨count, held, same⟩ :=
        { proxy with
          mSensors :=
            (countNumWakeupEvents proxy.mSensors pendingWriteEvents setup.quantumCount).2
        }.decrementRefCount_frame
          (countNumWakeupEvents proxy.mSensors pendingWriteEvents setup.quantumCount).1 (-1)
      exact ⟨count, held, by rw [if_pos ⟨counted, oversize⟩]; exact same⟩
    · rename_i fits
      obtain ⟨count, held, same⟩ := proxy.decrementRefCount_frame numWakeupEvents (-1)
      exact ⟨count, held, by rw [if_neg (fun both => fits both.2)]; exact same⟩
  · rename_i uncounted
    exact ⟨proxy.mWakelockRefCount, proxy.wakeLockHeld, by
      rw [if_neg (fun both => uncounted both.1)]⟩

/-- Whether a step posts or works on the front of the pending queue. -/
def Action.goesThroughPending : Action → Bool
  | .postEvents .. => true
  | .writeBlocking _ => true
  | .popPendingWrites => true
  | _ => false

/-- A step that neither posts nor goes through the pending queue changes neither that queue nor
the sensor table.
-/
theorem step_frame {action : Action} (taken : before.step setup action = some after)
    (other : action.goesThroughPending = false)
    : after.mPendingWriteEventsQueue = before.mPendingWriteEventsQueue
      ∧ after.mSensors = before.mSensors := by
  cases action with
  | createScopedWakelock lock =>
      obtain rfl := Option.some.inj taken
      cases lock with
      | true =>
          obtain ⟨_, _, _, same⟩ := before.incrementRefCount_frame 1
          simp [createScopedWakelock, same]
      | false => exact ⟨rfl, rfl⟩
  | postEvents | writeBlocking | popPendingWrites => cases other
  | destroyScopedWakelock index =>
      rcases destroyScopedWakelock_eq_some taken with ⟨wakelock, _, ⟨_, rfl⟩ | ⟨_, rfl⟩⟩
      · obtain ⟨_, _, same⟩ :=
          { before with
            scopedWakelocks := before.scopedWakelocks.eraseIdx index
          }.decrementRefCount_frame 1 wakelock.mCreatedAtTimeNs
        simp [same]
      · exact ⟨rfl, rfl⟩
  | takePendingWrites =>
      obtain ⟨_, _, _, _, _, rfl⟩ := takePendingWrites_eq_some taken
      exact ⟨rfl, rfl⟩
  | checkWakelock =>
      rcases checkWakelock_eq_some taken with ⟨_, rfl⟩ | ⟨_, rfl⟩
      · obtain ⟨_, _, same⟩ := before.resetSharedWakelock_frame
        simp [same]
      · exact ⟨rfl, rfl⟩
  | readWakeLock success =>
      rcases readWakeLock_eq_some taken with ⟨processed, queue, _, rfl⟩ | rfl
      · obtain ⟨_, _, same⟩ :=
          { before with
            mWakeLockQueue := queue
            wakelockThread := .waiting
          }.decrementRefCount_frame processed (-1)
        simp [same]
      · exact ⟨rfl, rfl⟩
  | readEvents count =>
      obtain ⟨_, rfl⟩ := readEvents_eq_some taken
      exact ⟨rfl, rfl⟩
  | acknowledge index =>
      obtain ⟨_, _, rfl⟩ := Option.map_eq_some_iff.mp taken
      exact ⟨rfl, rfl⟩
  | writeWakeLock _ | elapse _ =>
      obtain rfl := Option.some.inj taken
      exact ⟨rfl, rfl⟩

end HalProxy

namespace System

variable {lookup : Lookup} {before after : System}

/-- A step of the proxy's own leaves everything beside the proxy. -/
theorem stepProxy_eq_some {action : HalProxy.Action}
    (taken : before.stepProxy action = some after)
    : ∃ proxy,
        before.toHalProxy.step before.setup action = some proxy
          ∧ after = { before with toHalProxy := proxy } := by
  unfold stepProxy at taken
  split at taken
  · cases taken
  · obtain ⟨proxy, moved, rfl⟩ := Option.map_eq_some_iff.mp taken
    exact ⟨proxy, moved, rfl⟩
  · split at taken
    · obtain ⟨proxy, moved, rfl⟩ := Option.map_eq_some_iff.mp taken
      exact ⟨proxy, moved, rfl⟩
    · cases taken

end System

end PongDevice.Sensors
