import Mathlib.Data.List.Dedup
import Mathlib.Data.List.Nodup
import PongDevice.Sensors.SubHalContract

/-! `disableAllSensors`, which `initialize` calls before the queues are replaced. It goes over both
tables of sensors and tells the sub-HAL of each one. The sub-HAL of the touch sensors keeps them
disabled from then on, however their threads come in between.
-/

namespace PongDevice.Sensors

open Transition

-----------------------------------------------------------------------------------------
-- The calls
-----------------------------------------------------------------------------------------

/-- One loop of `disableAllSensors`, over the handles of a table. -/
def disableSensors (mSubHalList : List SubHal) : List (BitVec 32) → Option (List (Nat × SubHalCall))
  | [] => some []
  | sensorHandle :: rest => do
      let (_, calls) ← activate mSubHalList sensorHandle false
      let later ← disableSensors mSubHalList rest
      return calls ++ later

/-- The loop over `mSensors` and the one over `mDynamicSensors`. -/
def disableAllSensors (mSubHalList : List SubHal) (sensors dynamicSensors : List (BitVec 32))
    : Option (List (Nat × SubHalCall)) := do
  let calls ← disableSensors mSubHalList sensors
  let later ← disableSensors mSubHalList dynamicSensors
  return calls ++ later

/-- The iterator of a map gives each of its keys once. -/
structure Iterates (table : SensorTable) (sensorHandles : List (BitVec 32)) : Prop where
  nodup : sensorHandles.Nodup
  keys : ∀ sensorHandle, sensorHandle ∈ sensorHandles ↔ (table sensorHandle).isSome = true

/-- The keys of the table that `initializeSensorList` makes, each of them once. -/
def SensorList.keys (subHals : List (List SensorInfo)) : List (BitVec 32) :=
  (((entries subHals).filter (·.accepted)).map (·.sensorHandle)).dedup

theorem SensorList.iterates_keys (subHals : List (List SensorInfo))
    : Iterates (initializeSensorList subHals).mSensors (keys subHals) where
  nodup := List.nodup_dedup _
  keys := by
    intro sensorHandle
    rw [(lists_initializeSensorList subHals).table, Option.isSome_map, List.find?_isSome]
    simp only [SensorList.keys, List.mem_dedup, List.mem_map, List.mem_filter, List.mem_reverse,
      Bool.and_eq_true, beq_iff_eq, and_assoc]

/-- The call for a handle, if its sub-HAL is one of so many. -/
def disabling (count : Nat) (sensorHandle : BitVec 32) : Option (Nat × SubHalCall) :=
  if extractSubHalIndex sensorHandle < count then
    some (extractSubHalIndex sensorHandle, .activate (clearSubHalIndex sensorHandle) false)
  else
    none

/-- A loop makes the calls of its handles, by induction over them. -/
theorem disableSensors_eq (mSubHalList : List SubHal) (sensorHandles : List (BitVec 32))
    : disableSensors mSubHalList sensorHandles
      = some (sensorHandles.filterMap (disabling mSubHalList.length)) := by
  induction sensorHandles with
  | nil => rfl
  | cons sensorHandle rest ih =>
      rw [disableSensors, ih]
      by_cases inside : extractSubHalIndex sensorHandle < mSubHalList.length
      · simp [activate, request, isSubHalIndexValid, callSubHal, disabling, inside]
      · simp [activate, request, isSubHalIndexValid, disabling, inside]

/-- The local handles that a loop calls one sub-HAL for. -/
def localHandles (sensorHandles : List (BitVec 32)) (index : Nat) : List (BitVec 32) :=
  (sensorHandles.filter (extractSubHalIndex · = index)).map clearSubHalIndex

/-- The calls to one sub-HAL are those for its local handles, by induction over the loop. -/
theorem filter_disabling {count index : Nat} (inside : index < count)
    (sensorHandles : List (BitVec 32))
    : ((sensorHandles.filterMap (disabling count)).filter (·.1 = index)).map Prod.snd
      = (localHandles sensorHandles index).map (.activate · false) := by
  induction sensorHandles with
  | nil => rfl
  | cons sensorHandle rest ih =>
      by_cases here : extractSubHalIndex sensorHandle = index
      · have called : disabling count sensorHandle
            = some (index, .activate (clearSubHalIndex sensorHandle) false) := by
          rw [disabling, if_pos (here ▸ inside), here]
        rw [List.filterMap_cons_some called, List.filter_cons_of_pos (by simp), List.map_cons, ih]
        simp [localHandles, here]
      · have other : localHandles (sensorHandle :: rest) index = localHandles rest index := by
          simp [localHandles, here]
        rw [other, ← ih]
        by_cases valid : extractSubHalIndex sensorHandle < count
        · rw [List.filterMap_cons_some (by rw [disabling, if_pos valid]),
            List.filter_cons_of_neg (by simpa using here)]
        · rw [List.filterMap_cons_none (by rw [disabling, if_neg valid])]

/-- The local handles of a sub-HAL are its keys in the table, each of them once. -/
theorem Iterates.localHandles {table : SensorTable} {sensorHandles : List (BitVec 32)}
    (iterates : Iterates table sensorHandles) {index : Nat} (small : index < 128)
    : (Sensors.localHandles sensorHandles index).Nodup
      ∧ ∀ localHandle,
          localHandle ∈ Sensors.localHandles sensorHandles index
          ↔ subHalIndexIsClear localHandle = true
            ∧ (table (setSubHalIndex localHandle index)).isSome = true := by
  constructor
  · refine List.Nodup.map_on ?_ (iterates.nodup.filter _)
    intro first inFirst second inSecond same
    have firstIndex := of_decide_eq_true (List.mem_filter.mp inFirst).2
    have secondIndex := of_decide_eq_true (List.mem_filter.mp inSecond).2
    rw [← setSubHalIndex_clearSubHalIndex first, ← setSubHalIndex_clearSubHalIndex second, same,
      firstIndex, secondIndex]
  · intro localHandle
    simp only [Sensors.localHandles, List.mem_map, List.mem_filter, decide_eq_true_eq]
    constructor
    · rintro ⟨sensorHandle, ⟨member, rfl⟩, rfl⟩
      rw [setSubHalIndex_clearSubHalIndex]
      exact ⟨subHalIndexIsClear_clearSubHalIndex sensorHandle,
        (iterates.keys sensorHandle).mp member⟩
    · rintro ⟨clear, listed⟩
      exact ⟨setSubHalIndex localHandle index,
        ⟨(iterates.keys _).mpr listed, extractSubHalIndex_setSubHalIndex clear small⟩,
        clearSubHalIndex_setSubHalIndex index clear⟩

/-- What `disableAllSensors` does to the sub-HALs: each one is called for its sensors in either
table, once for each and with the handle that it knows, and for nothing else.
-/
structure DisablesEach (count : Nat) (mSensors mDynamicSensors : SensorTable)
    (calls : List (Nat × SubHalCall))
    : Prop where
  inside : ∀ call ∈ calls, call.1 < count
  each
    : ∀ index < count,
        ∃ sensors dynamicSensors : List (BitVec 32),
          (calls.filter (·.1 = index)).map Prod.snd
            = (sensors ++ dynamicSensors).map (.activate · false)
          ∧ sensors.Nodup
          ∧ dynamicSensors.Nodup
          ∧ (∀ localHandle,
              localHandle ∈ sensors
              ↔ subHalIndexIsClear localHandle = true
                ∧ (mSensors (setSubHalIndex localHandle index)).isSome = true)
          ∧ ∀ localHandle,
              localHandle ∈ dynamicSensors
              ↔ subHalIndexIsClear localHandle = true
                ∧ (mDynamicSensors (setSubHalIndex localHandle index)).isSome = true

/-- For every list of up to 128 sub-HALs and every two tables, whatever their handles are and
whatever the sub-HALs answer, each sub-HAL is told to disable each of its sensors.
-/
theorem disables_each_sensor (mSubHalList : List SubHal) (few : mSubHalList.length ≤ 128)
    (mSensors mDynamicSensors : SensorTable) (sensors dynamicSensors : List (BitVec 32))
    (iterates : Iterates mSensors sensors)
    (iteratesDynamic : Iterates mDynamicSensors dynamicSensors)
    : ∃ calls,
        disableAllSensors mSubHalList sensors dynamicSensors = some calls
        ∧ DisablesEach mSubHalList.length mSensors mDynamicSensors calls := by
  refine ⟨_, by rw [disableAllSensors, disableSensors_eq, disableSensors_eq]; rfl, ?_⟩
  exact {
    inside := by
      intro call member
      obtain ⟨sensorHandle, -, called⟩ : ∃ sensorHandle,
          (sensorHandle ∈ sensors ∨ sensorHandle ∈ dynamicSensors)
            ∧ disabling mSubHalList.length sensorHandle = some call := by
        rcases List.mem_append.mp member with first | second
        · obtain ⟨sensorHandle, listed, called⟩ := List.mem_filterMap.mp first
          exact ⟨sensorHandle, .inl listed, called⟩
        · obtain ⟨sensorHandle, listed, called⟩ := List.mem_filterMap.mp second
          exact ⟨sensorHandle, .inr listed, called⟩
      unfold disabling at called
      split at called
      · rename_i valid
        obtain rfl := Option.some.inj called
        exact valid
      · cases called
    each := by
      intro index inside
      obtain ⟨nodup, mem⟩ := iterates.localHandles (Nat.lt_of_lt_of_le inside few)
      obtain ⟨nodupDynamic, memDynamic⟩ :=
        iteratesDynamic.localHandles (Nat.lt_of_lt_of_le inside few)
      refine ⟨localHandles sensors index, localHandles dynamicSensors index, ?_, nodup,
        nodupDynamic, mem, memDynamic⟩
      rw [List.filter_append, List.map_append, filter_disabling inside, filter_disabling inside,
        List.map_append]
  }

/-- A wrist tilt sensor and the touch sensors are disabled, and there is no dynamic sensor. -/
theorem disables_each_sensor_second
    : let subHals := [[wristTiltSensor], SensorsSubHal.touchSensors]
      ∃ calls,
        disableAllSensors [fun _ => .ok, fun _ => .ok] (SensorList.keys subHals) [] = some calls
        ∧ DisablesEach 2 (SensorList.initializeSensorList subHals).mSensors (fun _ => none) calls :=
  disables_each_sensor [fun _ => .ok, fun _ => .ok] (by decide) _ _ _ []
    (SensorList.iterates_keys _) { nodup := List.nodup_nil, keys := by simp }

-----------------------------------------------------------------------------------------
-- The touch sensors
-----------------------------------------------------------------------------------------

/-- The call as a sub-HAL takes it. -/
def SubHalCall.action : SubHalCall → SensorsSubHal.Action
  | .activate sensorHandle enabled => .activate sensorHandle enabled
  | .batch sensorHandle samplingPeriodNs _ => .batch sensorHandle samplingPeriodNs
  | .flush sensorHandle => .flush sensorHandle
  | .injectSensorData event => .injectSensorData event

/-- An action that is a call for one sensor. -/
def SensorsSubHal.Action.isRequest : SensorsSubHal.Action → Bool
  | .activate .. | .batch .. | .flush _ | .injectSensorData _ => true
  | .initializeSubHal | .setOperationMode _ | .nextSensor | .run .. => false

namespace OneShotSensor

variable {ρ μ : Type} {touch : TouchTest ρ μ} {before after : OneShotSensor μ}

/-- The thread enables nothing. -/
theorem mIsEnabled_lock (taken : before.lock = some after)
    : after.mIsEnabled = before.mIsEnabled := by
  obtain ⟨-, rfl⟩ := lock_eq_some taken
  rfl

theorem mIsEnabled_poll {answer : Polled} (taken : before.poll answer = some after)
    : after.mIsEnabled = before.mIsEnabled := by
  obtain ⟨-, rfl⟩ := poll_eq_some taken
  rfl

theorem mIsEnabled_dispatch {reading : ρ} (taken : before.dispatch touch reading = some after)
    (disabled : before.mIsEnabled = false)
    : after.mIsEnabled = false := by
  obtain ⟨-, _, _, _, ⟨-, rfl⟩ | ⟨-, rfl⟩⟩ := dispatch_eq_some taken
  · rfl
  · exact disabled

end OneShotSensor

namespace SubHalSensor

variable {sensor after : SubHalSensor} {outcome : ThreadOutcome}

theorem mIsEnabled_advance
    {move : ∀ {μ : Type}, OneShotSensor μ → Option (OneShotSensor μ)}
    (keeps
      : ∀ {μ : Type} {before after : OneShotSensor μ},
          move before = some after → after.mIsEnabled = before.mIsEnabled)
    (taken : sensor.advance move = some (after, outcome))
    (disabled : sensor.object.mIsEnabled = false)
    : after.object.mIsEnabled = false := by
  unfold advance at taken
  split at taken <;>
  · rename_i object class_
    obtain ⟨moved, step, same⟩ := Option.map_eq_some_iff.mp taken
    obtain ⟨rfl, rfl⟩ := Prod.mk.inj same
    rw [class_] at disabled
    exact (keeps step).trans disabled

theorem mIsEnabled_dispatch {reading : TouchReading}
    (taken : sensor.dispatch reading = some (after, outcome))
    (disabled : sensor.object.mIsEnabled = false)
    : after.object.mIsEnabled = false := by
  unfold dispatch at taken
  split at taken
  · rename_i object node class_ _
    obtain ⟨moved, step, same⟩ := Option.map_eq_some_iff.mp taken
    obtain ⟨rfl, rfl⟩ := Prod.mk.inj same
    rw [class_] at disabled
    exact OneShotSensor.mIsEnabled_dispatch step disabled
  · rename_i object node class_ _
    obtain ⟨moved, step, same⟩ := Option.map_eq_some_iff.mp taken
    obtain ⟨rfl, rfl⟩ := Prod.mk.inj same
    rw [class_] at disabled
    exact OneShotSensor.mIsEnabled_dispatch step disabled
  · cases taken

/-- The thread of a disabled sensor does not enable it. -/
theorem mIsEnabled_run {step : ThreadStep} (taken : sensor.run step = some (after, outcome))
    (disabled : sensor.object.mIsEnabled = false)
    : after.object.mIsEnabled = false := by
  cases step with
  | lock => exact mIsEnabled_advance OneShotSensor.mIsEnabled_lock taken disabled
  | poll answer => exact mIsEnabled_advance OneShotSensor.mIsEnabled_poll taken disabled
  | dispatch reading => exact mIsEnabled_dispatch taken disabled

end SubHalSensor

namespace TouchSensor

@[simp]
theorem mIsEnabled_setOperationMode (sensor : TouchSensor) (mode : OperationMode)
    : (sensor.setOperationMode mode).mIsEnabled = sensor.mIsEnabled := by
  cases sensor with
  | udfps sensor | singleTap sensor =>
      obtain ⟨waitPipe, same⟩ := sensor.setOperationMode_frame mode
      simp [setOperationMode, call, mIsEnabled, same]

@[simp]
theorem mIsEnabled_activate (sensor : TouchSensor) (enable : Bool)
    : (sensor.activate enable).mIsEnabled = enable := by
  cases sensor with
  | udfps sensor | singleTap sensor =>
      obtain ⟨waitPipe, same⟩ := sensor.activate_frame enable
      simp [activate, call, mIsEnabled, same]

end TouchSensor

namespace SensorsSubHal

variable {before after : SensorsSubHal}

/-- The sensors of a handle are disabled. -/
def Disabled (subHal : SensorsSubHal) (sensorHandle : BitVec 32) : Prop :=
  ∀ sensor ∈ subHal.mSensors,
    sensor.mSensorInfo.sensorHandle = sensorHandle → sensor.object.mIsEnabled = false

theorem Disabled.congr {sensorHandle : BitVec 32} (disabled : before.Disabled sensorHandle)
    (same : after.mSensors = before.mSensors)
    : after.Disabled sensorHandle := by
  rw [Disabled, same]
  exact disabled

/-- A thread's step keeps a handle disabled, whoever's thread it is. -/
theorem Disabled.run {sensorHandle : BitVec 32} {index : Nat} {step : ThreadStep}
    (disabled : before.Disabled sensorHandle) (taken : before.run index step = some after)
    : after.Disabled sensorHandle := by
  obtain ⟨sensor, found, ran⟩ := Option.bind_eq_some_iff.mp taken
  obtain ⟨⟨moved, outcome⟩, runs, rfl⟩ := Option.map_eq_some_iff.mp ran
  obtain ⟨posts, died, same⟩ :=
    { before with mSensors := before.mSensors.set index moved }.take_frame sensor.isWakeUpSensor
      outcome
  simp only [same]
  intro other member here
  rcases List.mem_or_eq_of_mem_set member with earlier | rfl
  · exact disabled other earlier here
  · have info := (SubHalSensor.run_runs runs).mSensorInfo
    exact SubHalSensor.mIsEnabled_run runs
      (disabled sensor (List.mem_of_getElem? found) (by rw [← info]; exact here))

/-- So does every other step but an activation of the sensor. -/
theorem Disabled.step {sensorHandle : BitVec 32} {action : Action}
    (disabled : before.Disabled sensorHandle) (taken : before.step action = some after)
    (other : action ≠ .activate sensorHandle true)
    : after.Disabled sensorHandle := by
  cases steps taken with
  | begins | ends => exact disabled.congr rfl
  | keeps => exact disabled
  | injects event sensor =>
      obtain ⟨posts, died, same⟩ := before.postEvents_frame [event] sensor.isWakeUpSensor
      rw [same]
      exact disabled.congr rfl
  | calls mode called =>
      intro sensor member here
      obtain ⟨index, found⟩ := List.getElem?_of_mem member
      rw [List.getElem?_modify] at found
      obtain ⟨earlier, listed, rfl⟩ := Option.map_eq_some_iff.mp found
      have was := disabled earlier (List.mem_of_getElem? listed)
      split at here <;> rename_i place
      · simp only [if_pos place, TouchSensor.mIsEnabled_setOperationMode]
        exact was here
      · simp only [if_neg place]
        exact was here
  | activates activated enabled =>
      intro sensor member here
      obtain ⟨earlier, listed, rfl⟩ := List.mem_map.mp member
      have was := disabled earlier listed
      split at here <;> rename_i place
      · have off : enabled = false := by
          cases enabled with
          | false => rfl
          | true =>
              have same : earlier.mSensorInfo.sensorHandle = sensorHandle := here
              exact absurd (by rw [← place, same]) other
        simp only [if_pos place, TouchSensor.mIsEnabled_activate, off]
      · simp only [if_neg place]
        exact was here
  | runs index step =>
      simp only [SensorsSubHal.step] at taken
      split at taken
      · cases taken
      · exact disabled.run taken

/-- A sensor that is deactivated is disabled. -/
theorem disabled_of_activate {sensorHandle : BitVec 32}
    (taken : before.step (.activate sensorHandle false) = some after)
    : after.Disabled sensorHandle := by
  simp only [step] at taken
  split at taken
  · cases taken
  · obtain ⟨-, rfl⟩ := call_eq_some taken
    intro sensor member here
    unfold activate at member
    split at member
    · obtain ⟨earlier, listed, rfl⟩ := List.mem_map.mp member
      split at here <;> rename_i place
      · simp only [if_pos place, TouchSensor.mIsEnabled_activate]
      · exact absurd here place
    · rename_i absent
      have none := List.find?_eq_none.mp absent sensor member
      simp [here] at none

/-- A run keeps a handle disabled unless it activates it, by induction over the run. -/
theorem Disabled.along {sensorHandle : BitVec 32} {actions : List Action}
    (disabled : before.Disabled sensorHandle)
    (ran : subHalMachine.run before actions = some after)
    (other : ∀ action ∈ actions, action ≠ .activate sensorHandle true)
    : after.Disabled sensorHandle := by
  induction actions generalizing before with
  | nil =>
      obtain rfl := Option.some.inj ran
      exact disabled
  | cons action rest ih =>
      obtain ⟨next, taken, later⟩ := Option.bind_eq_some_iff.mp ran
      exact ih (disabled.step taken (other action (.head _))) later
        (fun action member => other action (.tail _ member))

/-- A run that deactivates a sensor, and does not activate it, leaves it disabled. -/
theorem disabled_of_run {sensorHandle : BitVec 32} {actions : List Action}
    (ran : subHalMachine.run before actions = some after)
    (deactivates : .activate sensorHandle false ∈ actions)
    (other : ∀ action ∈ actions, action ≠ .activate sensorHandle true)
    : after.Disabled sensorHandle := by
  obtain ⟨first, rest, rfl⟩ := List.append_of_mem deactivates
  rw [Machine.run_append] at ran
  obtain ⟨middle, -, remaining⟩ := Option.bind_eq_some_iff.mp ran
  obtain ⟨next, taken, later⟩ := Option.bind_eq_some_iff.mp remaining
  exact (disabled_of_activate taken).along later
    (fun action member => other action (List.mem_append_right _ (.tail _ member)))

/-- A run keeps the list of the sensors. -/
theorem getSensorsList_run {actions : List Action}
    (ran : subHalMachine.run before actions = some after)
    : after.getSensorsList = before.getSensorsList := by
  induction actions generalizing before with
  | nil =>
      obtain rfl := Option.some.inj ran
      rfl
  | cons action rest ih =>
      obtain ⟨next, taken, later⟩ := Option.bind_eq_some_iff.mp ran
      exact (ih later).trans (getSensorsList_step (steps taken))

end SensorsSubHal

end PongDevice.Sensors
