import PongDevice.Delivery.Filter
import PongDevice.Sensors.Events

/-! The filter that a batch of events passes before it is queued. -/

namespace PongDevice.Sensors

open Delivery

def Event.setSubHalIndex (event : Event) (subHalIndex : Nat) : Event :=
  { event with sensorHandle := Sensors.setSubHalIndex event.sensorHandle subHalIndex }

/-- The event looks like a pick-up sensor that has seen nothing. -/
def Event.isIdlePickup (event : Event) (mSensors : SensorTable) : Bool :=
  (mSensors.getSensorInfo event.sensorHandle).type = .pickUpGesture && event.scalar ≠ scalarOne

/-- `eventsOut` and `numWakeupEvents` after one event. -/
def processEvent (mSensors : SensorTable) (subHalIndex : Nat) (processed : List Event × Nat)
    (event : Event)
    : List Event × Nat :=
  let event := event.setSubHalIndex subHalIndex
  if event.isIdlePickup mSensors then
    processed
  else if mSensors.isWakeUp event.sensorHandle then
    (processed.1 ++ [event], processed.2 + 1)
  else
    (processed.1 ++ [event], processed.2)

/-- `eventsOut` and `numWakeupEvents` of a batch. -/
def processEvents (mSensors : SensorTable) (subHalIndex : Nat) (events : List Event)
    : List Event × Nat :=
  events.foldl (processEvent mSensors subHalIndex) ([], 0)

/-- How many of the events belong to wake-up sensors. -/
def SensorTable.numWakeUp (mSensors : SensorTable) (events : List Event) : Nat :=
  events.countP (fun event => mSensors.isWakeUp event.sensorHandle)

/-- The loop filters the batch with its handles set, and counts what it keeps, by induction
over the batch with any accumulators.
-/
theorem processEvents_eq (mSensors : SensorTable) (subHalIndex : Nat) (events : List Event)
    : processEvents mSensors subHalIndex events
      = let kept :=
          (events.map (·.setSubHalIndex subHalIndex)).filter
            (fun event => !event.isIdlePickup mSensors)
        (kept, mSensors.numWakeUp kept) := by
  have loop : ∀ eventsOut numWakeupEvents,
      events.foldl (processEvent mSensors subHalIndex) (eventsOut, numWakeupEvents)
      = let kept :=
          (events.map (·.setSubHalIndex subHalIndex)).filter
            (fun event => !event.isIdlePickup mSensors)
        (eventsOut ++ kept, numWakeupEvents + mSensors.numWakeUp kept) := by
    induction events with
    | nil => simp [SensorTable.numWakeUp]
    | cons event rest ih =>
        intro eventsOut numWakeupEvents
        cases idle : (event.setSubHalIndex subHalIndex).isIdlePickup mSensors with
        | true => simpa [processEvent, idle] using ih eventsOut numWakeupEvents
        | false =>
            cases wakeUp : mSensors.isWakeUp (event.setSubHalIndex subHalIndex).sensorHandle with
            | true =>
                simp [processEvent, idle, wakeUp, ih, SensorTable.numWakeUp, Nat.add_assoc,
                  Nat.add_comm 1]
            | false => simp [processEvent, idle, wakeUp, ih, SensorTable.numWakeUp]
  simpa [processEvents] using loop [] 0

/-- The wake-up events of what is kept are counted. -/
theorem processEvents_numWakeupEvents (mSensors : SensorTable) (subHalIndex : Nat)
    (events : List Event)
    : (processEvents mSensors subHalIndex events).2
      = mSensors.numWakeUp (processEvents mSensors subHalIndex events).1 := by
  rw [processEvents_eq]

/-- The event carries control information instead of a data sample. -/
def Event.isControl (event : Event) : Bool :=
  event.sensorType = .metaData || event.sensorType = .additionalInfo

/-- A data sample of a pick-up sensor that is not 1. -/
def Event.IdleSample (mSensors : SensorTable) (event : Event) : Prop :=
  event.isControl = false
  ∧ (mSensors.getSensorInfo event.sensorHandle).type = .pickUpGesture
  ∧ event.scalar ≠ scalarOne

/-- A batch loses only data samples of pick-up sensors that are not 1, the rest is kept once
and in order, and the wake-up events of what is kept are counted.
-/
def LosesOnlyIdleSamples (mSensors : SensorTable) (subHalIndex : Nat) (events : List Event)
    : Prop :=
  KeepsExcept (Event.IdleSample mSensors) (events.map (·.setSubHalIndex subHalIndex))
      (processEvents mSensors subHalIndex events).1
  ∧ (processEvents mSensors subHalIndex events).2
    = mSensors.numWakeUp (processEvents mSensors subHalIndex events).1

/-- A batch loses only idle samples exactly when each control event of a pick-up sensor in
it has a payload that starts with the bits of 1.
-/
theorem losesOnlyIdleSamples_iff (mSensors : SensorTable) (subHalIndex : Nat)
    (events : List Event)
    : LosesOnlyIdleSamples mSensors subHalIndex events
      ↔ ∀ event ∈ events,
        event.isControl = true
        → (mSensors.getSensorInfo (setSubHalIndex event.sensorHandle subHalIndex)).type
          = .pickUpGesture
        → event.scalar = scalarOne := by
  simp only [LosesOnlyIdleSamples, processEvents_eq, and_true, KeepsExcept.filter_iff,
    List.forall_mem_map]
  refine forall₂_congr (fun event _ => ?_)
  have control : (event.setSubHalIndex subHalIndex).isControl = event.isControl := rfl
  have scalar : (event.setSubHalIndex subHalIndex).scalar = event.scalar := rfl
  have handle : (event.setSubHalIndex subHalIndex).sensorHandle
      = setSubHalIndex event.sensorHandle subHalIndex := rfl
  simp only [Event.isIdlePickup, Event.IdleSample, control, scalar, handle]
  cases event.isControl <;>
    by_cases pickUp :
      (mSensors.getSensorInfo (setSubHalIndex event.sensorHandle subHalIndex)).type
        = .pickUpGesture <;>
    simp [pickUp]

/-- A wrist tilt sensor that wakes the device up, as its sub-HAL lists it. -/
def wristTiltSensor : SensorInfo :=
  {
    sensorHandle := 5
    type := .other 26
    typeAsString := "android.sensor.wrist_tilt_gesture"
    flags := wakeUpFlag
  }

/-- `META_DATA_FLUSH_COMPLETE` of a sensor: the first word of its payload is 1. -/
def flushComplete (sensorHandle : BitVec 32) : Event :=
  { timestamp := 0, sensorHandle, sensorType := .metaData, u := 1 }

/-- The flush of a standardized pick-up sensor never completes. -/
theorem losesOnlyIdleSamples_fails_flush
    : ¬LosesOnlyIdleSamples
        (SensorList.initializeSensorList [[wristTiltSensor]]).mSensors 0 [flushComplete 5] := by
  intro loses
  have member : (flushComplete 5).setSubHalIndex 0
      ∈ [flushComplete 5].map (·.setSubHalIndex 0) :=
    List.mem_singleton_self _
  have dropped :
      (processEvents (SensorList.initializeSensorList [[wristTiltSensor]]).mSensors 0
        [flushComplete 5]).1 = [] := by
    decide +kernel
  rcases loses.1.mem_or member with kept | ⟨sample, _⟩
  · rw [dropped] at kept
    cases kept
  · cases sample

end PongDevice.Sensors
