import PongDevice.Sensors.Initialize
import PongDevice.Sensors.WakelockCount

/-! The sensors that the proxy advertises, over any run. They are the entries of a map, which
grows when a handle is looked up that it does not hold.
-/

namespace PongDevice.Sensors

open Transition

-----------------------------------------------------------------------------------------
-- Lookups only add entries
-----------------------------------------------------------------------------------------

namespace SensorTable

variable {first second third : SensorTable}

/-- Every entry of the first table is an entry of the second one. -/
def Extends (first second : SensorTable) : Prop :=
  ∀ sensorHandle, ∀ sensor ∈ first sensorHandle, sensor ∈ second sensorHandle

theorem Extends.refl (table : SensorTable) : table.Extends table :=
  fun _ _ member => member

theorem Extends.trans (earlier : first.Extends second) (later : second.Extends third)
    : first.Extends third :=
  fun sensorHandle sensor member =>
    later sensorHandle sensor (earlier sensorHandle sensor member)

/-- Tables that extend each other are equal. -/
theorem Extends.antisymm (there : first.Extends second) (back : second.Extends first)
    : first = second := by
  funext sensorHandle
  apply Option.ext
  intro sensor
  exact ⟨there sensorHandle sensor, back sensorHandle sensor⟩

/-- A lookup by `operator[]` keeps every entry. -/
theorem extends_touch (table : SensorTable) (sensorHandle : BitVec 32)
    : table.Extends (table.touch sensorHandle) := by
  intro other sensor member
  by_cases same : other = sensorHandle
  · subst same
    simp [touch, insert, getSensorInfo, Option.mem_def.mp member]
  · simpa [touch, insert, same] using member

/-- Such a lookup leaves a table exactly when the handle has an entry. -/
theorem touch_eq_self_iff {table : SensorTable} {sensorHandle : BitVec 32}
    : table.touch sensorHandle = table ↔ (table sensorHandle).isSome := by
  constructor
  · intro same
    rw [← same]
    simp [touch, insert]
  · intro held
    obtain ⟨sensor, found⟩ := Option.isSome_iff_exists.mp held
    funext other
    by_cases same : other = sensorHandle
    · simp [touch, insert, getSensorInfo, same, found]
    · simp [touch, insert, same]

end SensorTable

/-- A lookup in a map leaves it as it is or adds the absent entry. -/
def Lookup.OfMap (lookup : Lookup) : Prop :=
  ∀ table sensorHandle,
    lookup table sensorHandle = table
      ∨ lookup table sensorHandle = table.touch sensorHandle

theorem Lookup.ofMap_touch : Lookup.OfMap SensorTable.touch := fun _ _ => .inr rfl

variable {lookup : Lookup}

/-- Lookups only add entries, by induction over the handles. -/
theorem Lookup.OfMap.extends_foldl (ofMap : lookup.OfMap) (sensorHandles : List (BitVec 32))
    (table : SensorTable)
    : table.Extends (sensorHandles.foldl lookup table) := by
  induction sensorHandles generalizing table with
  | nil => exact .refl table
  | cons sensorHandle rest ih =>
      refine .trans ?_ (ih (lookup table sensorHandle))
      rcases ofMap table sensorHandle with same | touched
      · rw [same]
        exact .refl table
      · rw [touched]
        exact table.extends_touch sensorHandle

/-- Lookups leave a table exactly when each of them does, by induction over the handles: what
the first one adds is never taken away again.
-/
theorem Lookup.OfMap.foldl_eq_self_iff (ofMap : lookup.OfMap)
    (sensorHandles : List (BitVec 32)) (table : SensorTable)
    : sensorHandles.foldl lookup table = table
      ↔ ∀ sensorHandle ∈ sensorHandles, lookup table sensorHandle = table := by
  induction sensorHandles with
  | nil => simp
  | cons sensorHandle rest ih =>
      rw [List.foldl_cons, List.forall_mem_cons]
      constructor
      · intro same
        have first : lookup table sensorHandle = table := by
          apply SensorTable.Extends.antisymm
          · have later := ofMap.extends_foldl rest (lookup table sensorHandle)
            rwa [same] at later
          · exact ofMap.extends_foldl [sensorHandle] table
        rw [first] at same
        exact ⟨first, ih.mp same⟩
      · rintro ⟨first, later⟩
        rw [first]
        exact ih.mpr later

-----------------------------------------------------------------------------------------
-- The handles that a step looks up
-----------------------------------------------------------------------------------------

/-- The handles that a blocking write looks up by `operator[]`: those of the first part of a
batch with wake-up events that did not fit into the event queue and could not be written.
-/
def HalProxy.countedHandles (setup : Setup) (proxy : HalProxy) (written : Bool)
    : List (BitVec 32) :=
  match proxy.pendingWritesThread, proxy.mPendingWriteEventsQueue with
  | .writing numWakeupEvents _, (pendingWriteEvents, _) :: _ =>
      if written = false ∧ 0 < numWakeupEvents
          ∧ setup.quantumCount < pendingWriteEvents.length then
        (pendingWriteEvents.take setup.quantumCount).map (·.sensorHandle)
      else
        []
  | _, _ => []

def System.countedHandles (system : System) : System.Action → List (BitVec 32)
  | .proxy (.writeBlocking written) => system.toHalProxy.countedHandles system.setup written
  | _ => []

/-- The handles that `processEvents` looks up. -/
def Poster.sensorHandles (call : Poster) : List (BitVec 32) :=
  call.events.map (fun event => setSubHalIndex event.sensorHandle call.subHalIndex)

def System.postedHandles (system : System) : System.Action → List (BitVec 32)
  | .postEventsToMessageQueue poster _ =>
      ((system.posterAt poster .checked).map Poster.sensorHandles).getD []
  | _ => []

/-- Counting looks every handle up. -/
theorem countNumWakeupEvents_mSensors (mSensors : SensorTable) (events : List Event) (n : Nat)
    : (HalProxy.countNumWakeupEvents mSensors events n).2
      = ((events.take n).map (·.sensorHandle)).foldl SensorTable.touch mSensors := by
  rw [List.foldl_map]
  exact (List.foldl_hom Prod.snd fun _ _ => rfl).symm

/-- A blocking write changes the advertised sensors by its lookups only. -/
theorem HalProxy.writeBlocking_mSensors {setup : Setup} {before after : HalProxy}
    {written : Bool} (taken : before.writeBlocking setup written = some after)
    : after.mSensors
      = (before.countedHandles setup written).foldl SensorTable.touch before.mSensors := by
  obtain ⟨numWakeupEvents, _, events, _, _, writing, queue, outcome⟩ :=
    writeBlocking_eq_some taken
  simp only [countedHandles, writing, queue]
  rcases outcome with ⟨rfl, _, rfl⟩ | ⟨rfl, rfl⟩
  · simp
  · obtain ⟨_, _, dropped⟩ := before.dropPendingWrites_frame setup events numWakeupEvents
    rw [dropped]
    simp only [true_and]
    split
    · exact countNumWakeupEvents_mSensors before.mSensors events setup.quantumCount
    · rfl

namespace System

variable {before after : System} {action : Action}

/-- A step of the proxy's own changes the advertised sensors by its lookups only. -/
theorem mSensors_stepProxy {action : HalProxy.Action}
    (taken : before.stepProxy action = some after)
    : after.mSensors
      = (before.countedHandles (.proxy action)).foldl SensorTable.touch before.mSensors := by
  obtain ⟨proxy, moved, rfl⟩ := stepProxy_eq_some taken
  cases action with
  | postEvents index subHalIndex events written => cases taken
  | writeBlocking written => exact HalProxy.writeBlocking_mSensors moved
  | popPendingWrites =>
      obtain ⟨_, _, _, _, _, _, rfl⟩ := HalProxy.popPendingWrites_eq_some moved
      rfl
  | createScopedWakelock | destroyScopedWakelock | takePendingWrites | checkWakelock
  | readWakeLock | readEvents | acknowledge | writeWakeLock | elapse =>
      exact (HalProxy.step_frame moved rfl).2

/-- Every step changes the advertised sensors by its lookups only. -/
theorem mSensors_step (taken : before.step lookup action = some after)
    : after.mSensors
      = (before.countedHandles action).foldl SensorTable.touch
          ((before.postedHandles action).foldl lookup before.mSensors) := by
  cases action with
  | stopThreads | disableAllSensors | clearPending | installQueues | startThreads
  | initializeSubHals | dynamicSensorsConnected | dynamicSensorsDisconnected =>
      obtain ⟨_, rfl⟩ := Option.ite_some_none_eq_some.mp taken
      rfl
  | joinThreads =>
      obtain ⟨_, rfl⟩ := Option.ite_some_none_eq_some.mp taken
      obtain ⟨_, _, same⟩ := before.toHalProxy.resetSharedWakelock_frame
      simp only [same]
      rfl
  | enterPostEvents index subHalIndex events =>
      obtain ⟨_, entered⟩ := Option.ite_none_right_eq_some.mp taken
      obtain ⟨_, _, rfl⟩ := Option.map_eq_some_iff.mp entered
      rfl
  | checkThreads poster =>
      obtain ⟨_, _, rfl⟩ := Option.map_eq_some_iff.mp taken
      rfl
  | postEventsToMessageQueue poster written =>
      obtain ⟨call, checked, rfl⟩ := Option.map_eq_some_iff.mp taken
      simp only [postedHandles, checked, Option.map_some, Option.getD_some,
        Poster.sensorHandles, List.foldl_map]
      exact (HalProxy.postEventsToMessageQueue_frame before.setup _ _ _ _ written).2
  | returnPostEvents poster =>
      obtain ⟨call, _, rfl⟩ := Option.map_eq_some_iff.mp taken
      dsimp only
      split
      · obtain ⟨_, _, same⟩ :=
          before.toHalProxy.decrementRefCount_frame 1 call.wakelock.mCreatedAtTimeNs
        rw [same]
        rfl
      · rfl
  | proxy action => exact mSensors_stepProxy taken

end System

/-- The condition on a step: `getSensorInfo` adds no entry for the events that are posted, and
the sensors of the events that are counted on the drop path have entries.
-/
def looksUpHeld (lookup : Lookup) (system : System) (action : System.Action) : Prop :=
  (∀ sensorHandle ∈ system.postedHandles action,
    lookup system.mSensors sensorHandle = system.mSensors)
  ∧ ∀ sensorHandle ∈ system.countedHandles action, (system.mSensors sensorHandle).isSome

/-- A step leaves the advertised sensors exactly when it looks up nothing that they lack. -/
theorem System.mSensors_step_iff (ofMap : lookup.OfMap) {before after : System}
    {action : System.Action} (taken : before.step lookup action = some after)
    : after.mSensors = before.mSensors ↔ looksUpHeld lookup before action := by
  have counted := Lookup.ofMap_touch.foldl_eq_self_iff (before.countedHandles action)
    before.mSensors
  simp only [SensorTable.touch_eq_self_iff] at counted
  rw [mSensors_step taken, looksUpHeld, ← ofMap.foldl_eq_self_iff, ← counted]
  constructor
  · intro same
    have posted :
        (before.postedHandles action).foldl lookup before.mSensors = before.mSensors := by
      apply SensorTable.Extends.antisymm
      · have later := Lookup.ofMap_touch.extends_foldl (before.countedHandles action)
          ((before.postedHandles action).foldl lookup before.mSensors)
        rwa [same] at later
      · exact ofMap.extends_foldl (before.postedHandles action) before.mSensors
    rw [posted] at same
    exact ⟨posted, same⟩
  · rintro ⟨posted, same⟩
    rw [posted, same]

/-- The proxy advertises the sensors that its sub-HALs listed when it was constructed:
`getSensorsList` and `getSensorsList_2_1` answer the entries of `mSensors`.
-/
def System.AdvertisesListed (subHals : List (List SensorInfo)) (system : System) : Prop :=
  system.mSensors = (SensorList.initializeSensorList subHals).mSensors

/-- The advertised sensors never change exactly along the runs in which no lookup adds one. -/
theorem advertisesListed_iff (lookup : Lookup) (ofMap : lookup.OfMap)
    (subHals : List (List SensorInfo)) (setup : Setup) (now : Int)
    (actions : List System.Action)
    : (systemMachine lookup).Always (System.AdvertisesListed subHals)
        (.constructed subHals setup now) actions
      ↔ (systemMachine lookup).Along (fun system action _ => looksUpHeld lookup system action)
          (.constructed subHals setup now) actions := by
  refine Machine.always_iff_along (System.AdvertisesListed subHals) (fun _ listed => listed)
    ?_ ?_ rfl (Machine.along_true _ _)
  · intro before action after listed taken _ held
    exact ((System.mSensors_step_iff ofMap taken).mpr held).trans listed
  · intro before action after listed taken _ same
    exact (System.mSensors_step_iff ofMap taken).mp (same.trans listed.symm)

/-- By `operator[]`, a step adds nothing exactly when it looks only advertised sensors up. -/
theorem looksUpHeld_touch_iff {system : System} {action : System.Action}
    : looksUpHeld SensorTable.touch system action
      ↔ (system.postedHandles action ++ system.countedHandles action).all
          (fun sensorHandle => (system.mSensors sensorHandle).isSome) = true := by
  simp only [looksUpHeld, SensorTable.touch_eq_self_iff, List.all_eq_true,
    List.forall_mem_append]

instance (system : System) (action : System.Action)
    : Decidable (looksUpHeld SensorTable.touch system action) :=
  decidable_of_iff _ looksUpHeld_touch_iff.symm

/-- A sub-HAL with one sensor, which wakes the device up. -/
def wakeUpSubHal : List (List SensorInfo) :=
  [[{ sensorHandle := 1, type := .other 1, flags := wakeUpFlag }]]

/-- The framework has initialized the proxy, with a queue for one event, and the sub-HAL has
posted a batch with a dynamic sensor beside its own. The rest of the batch is being written.
-/
def postedBatch (events : List Event) : List System.Action :=
  initializeCommon 1
  ++ [.dynamicSensorsConnected 0 [{ sensorHandle := 7, type := .other 7 }],
    .proxy (.createScopedWakelock true), .enterPostEvents 0 0 events, .checkThreads 0,
    .postEventsToMessageQueue 0 true, .returnPostEvents 0, .proxy .takePendingWrites]

/-- A failed write counts a sensor that is advertised. -/
theorem advertisesListed_iff_own_events
    : (systemMachine SensorTable.touch).Always (System.AdvertisesListed wakeUpSubHal)
        (.constructed wakeUpSubHal singleEventSetup 0)
        (postedBatch [sample 1, sample 1, sample 1] ++ [.proxy (.writeBlocking false)]) :=
  (advertisesListed_iff _ Lookup.ofMap_touch _ _ _ _).mpr (by decide +kernel)

/-- The rest of a batch whose write fails holds two events of a dynamic sensor: counting them
adds an empty sensor, also if `getSensorInfo` adds none.
-/
theorem advertisesListed_fails_dynamic
    : ¬(systemMachine fun table _ => table).Always (System.AdvertisesListed wakeUpSubHal)
        (.constructed wakeUpSubHal singleEventSetup 0)
        (postedBatch [sample 1, sample 7, sample 7] ++ [.proxy (.writeBlocking false)]) := by
  intro always
  have reached :
      ((systemMachine fun table _ => table).run
          (.constructed wakeUpSubHal singleEventSetup 0)
          (postedBatch [sample 1, sample 7, sample 7] ++ [.proxy (.writeBlocking false)])).map
        (fun system => system.mSensors 7)
      = some (some {}) := by
    decide +kernel
  obtain ⟨system, last, added⟩ := Option.map_eq_some_iff.mp reached
  have listed := always.of_run last
  rw [System.AdvertisesListed] at listed
  rw [listed] at added
  exact absurd added (by decide +kernel)

end PongDevice.Sensors
