import PongDevice.Bits.Binary32
import PongDevice.Sensors.OneShotSensor
import PongDevice.Sensors.TouchData

/-! The sub-HAL with its two one-shot sensors. One binder thread makes its calls, each sensor has
a thread of its own, and a thread may run between two sensors of the loop in `setOperationMode`.
-/

namespace PongDevice.Sensors

open Bits Transition

-----------------------------------------------------------------------------------------
-- What the constructors of the sensors set
-----------------------------------------------------------------------------------------

/-- `SensorFlagBits::ONE_SHOT_MODE`. -/
def oneShotModeFlag : BitVec 32 := 0x4

/-- `SensorFlagBits::DATA_INJECTION`. -/
def dataInjectionFlag : BitVec 32 := 0x10

/-- `SensorType::DEVICE_PRIVATE_BASE`. -/
def devicePrivateBase : BitVec 32 := 0x10000

/-- The constructor of `Sensor`. -/
def sensorInfo (sensorHandle : BitVec 32) : SensorInfo where
  sensorHandle := sensorHandle
  flags := 0

/-- The constructor of `OneShotSensor`. -/
def oneShotSensorInfo (sensorHandle : BitVec 32) : SensorInfo :=
  let mSensorInfo := sensorInfo sensorHandle
  { mSensorInfo with flags := mSensorInfo.flags ||| oneShotModeFlag }

/-- The constructor of `UdfpsSensor`. -/
def udfpsSensorInfo (sensorHandle : BitVec 32) : SensorInfo :=
  let mSensorInfo := oneShotSensorInfo sensorHandle
  { mSensorInfo with
    type := .other (devicePrivateBase + 1)
    typeAsString := "org.lineageos.sensor.udfps"
    flags := mSensorInfo.flags ||| wakeUpFlag
  }

/-- The constructor of `SingleTapSensor`. -/
def singleTapSensorInfo (sensorHandle : BitVec 32) : SensorInfo :=
  let mSensorInfo := oneShotSensorInfo sensorHandle
  { mSensorInfo with
    type := .other (devicePrivateBase + 2)
    typeAsString := "org.lineageos.sensor.single_touch"
    flags := mSensorInfo.flags ||| wakeUpFlag
  }

-----------------------------------------------------------------------------------------
-- A sensor as the sub-HAL owns it
-----------------------------------------------------------------------------------------

/-- A sensor by its class. -/
inductive TouchSensor where
  | udfps (sensor : OneShotSensor Screen)
  | singleTap (sensor : OneShotSensor Unit)

namespace TouchSensor

/-- A virtual call that both classes make alike. -/
def call (change : ∀ {μ : Type}, OneShotSensor μ → OneShotSensor μ) : TouchSensor → TouchSensor
  | udfps sensor => udfps (change sensor)
  | singleTap sensor => singleTap (change sensor)

def mIsEnabled : TouchSensor → Bool
  | udfps sensor => sensor.mIsEnabled
  | singleTap sensor => sensor.mIsEnabled

def mMode : TouchSensor → OperationMode
  | udfps sensor => sensor.mMode
  | singleTap sensor => sensor.mMode

/-- Whether the thread is between the test of the loop and the dispatch. -/
def inGap : TouchSensor → Bool
  | udfps sensor => sensor.inGap
  | singleTap sensor => sensor.inGap

def activate (enable : Bool) : TouchSensor → TouchSensor := call (·.activate enable)

def setOperationMode (mode : OperationMode) : TouchSensor → TouchSensor :=
  call (·.setOperationMode mode)

end TouchSensor

structure SubHalSensor where
  mSensorInfo : SensorInfo
  object : TouchSensor

namespace SubHalSensor

def isWakeUpSensor (sensor : SubHalSensor) : Bool :=
  sensor.mSensorInfo.flags &&& wakeUpFlag ≠ 0

def supportsDataInjection (sensor : SubHalSensor) : Bool :=
  sensor.mSensorInfo.flags &&& dataInjectionFlag ≠ 0

/-- `readEvents`: the time, and the memory that the event is built in, of which the first two
floats are set.
-/
def readEvents (sensor : SubHalSensor) (timestamp : Int) (memory : BitVec 512) (x y : Int)
    : List Event :=
  [{
    timestamp
    sensorHandle := sensor.mSensorInfo.sensorHandle
    sensorType := sensor.mSensorInfo.type
    u := memory.extractLsb' 64 448 ++ Binary32.ofInt y ++ Binary32.ofInt x
  }]

end SubHalSensor

/-- What the dispatch of a thread reads: its node, the time, the memory of the event, and
`touch_data` if it opens.
-/
structure TouchReading where
  node : FpReading ⊕ BoolReading
  timestamp : Int
  memory : BitVec 512
  touchData : Option (List Char)

/-- What a step of a thread leads to beside its sensor: nothing, events for `postEvents`, or an
exception that leaves the thread.
-/
inductive ThreadOutcome where
  | silent
  | posts (events : List Event)
  | throws

/-- A step of a sensor's thread. -/
inductive ThreadStep where
  | lock
  | poll (answer : Polled)
  | dispatch (reading : TouchReading)

namespace SubHalSensor

/-- The coordinates for the event, which a thread that posts a touch reads. -/
def touchEvents (sensor : SubHalSensor) (reading : TouchReading)
    (coordinates : Except Text.StoulException (Int × Int))
    : ThreadOutcome :=
  match coordinates with
  | .error _ => .throws
  | .ok (x, y) => .posts (sensor.readEvents reading.timestamp reading.memory x y)

/-- The dispatch of the sensor's own class. The event is read after the sensor is disabled. -/
def dispatch (sensor : SubHalSensor) (reading : TouchReading)
    : Option (SubHalSensor × ThreadOutcome) :=
  match sensor.object, reading.node with
  | .udfps object, .inl node =>
      (object.dispatch udfpsSensor node).map (fun after =>
        ({ sensor with object := .udfps after },
          if object.touched udfpsSensor node then
            let screen := (udfpsSensor.test object.members node).2
            sensor.touchEvents reading (.ok (screen.mScreenX, screen.mScreenY))
          else
            .silent))
  | .singleTap object, .inr node =>
      (object.dispatch singleTapSensor node).map (fun after =>
        ({ sensor with object := .singleTap after },
          if object.touched singleTapSensor node then
            sensor.touchEvents reading
              ((TouchData.readCoordinates reading.touchData).map (fun coordinates =>
                ((coordinates.x : Int), (coordinates.y : Int))))
          else
            .silent))
  | _, _ => none

/-- A step without a dispatch, of either class. -/
def advance (sensor : SubHalSensor)
    (move : ∀ {μ : Type}, OneShotSensor μ → Option (OneShotSensor μ))
    : Option (SubHalSensor × ThreadOutcome) :=
  match sensor.object with
  | .udfps object =>
      (move object).map (fun after => ({ sensor with object := .udfps after }, .silent))
  | .singleTap object =>
      (move object).map (fun after => ({ sensor with object := .singleTap after }, .silent))

def run (sensor : SubHalSensor) : ThreadStep → Option (SubHalSensor × ThreadOutcome)
  | .lock => sensor.advance (·.lock)
  | .poll answer => sensor.advance (·.poll answer)
  | .dispatch reading => sensor.dispatch reading

end SubHalSensor

-----------------------------------------------------------------------------------------
-- The sub-HAL
-----------------------------------------------------------------------------------------

/-- The members of the sub-HAL, its sensors in the order of their handles; a loop of
`setOperationMode` that is under way, with its mode and the number of sensors that it has called;
and the calls of the callback's `postEvents`, with the lock that their wakelocks were asked for.
-/
structure SensorsSubHal where
  mSensors : List SubHalSensor := []
  mNextHandle : BitVec 32 := 1
  mCallback : Bool := false
  mCurrentOperationMode : OperationMode := .normal
  changing : Option (OperationMode × Nat) := none
  posts : List (List Event × Bool) := []
  died : Bool := false

namespace SensorsSubHal

/-- `AddSensor`. The handles count up, so that a new sensor stands last in the map. -/
def addSensor (subHal : SensorsSubHal) (sensor : BitVec 32 → SubHalSensor) : SensorsSubHal :=
  { subHal with
    mSensors := subHal.mSensors ++ [sensor subHal.mNextHandle]
    mNextHandle := subHal.mNextHandle + 1
  }

/-- The constructor; either thread stops at once if its files do not open, and the screen's
coordinates are not initialized.
-/
def constructed (screen : Screen) (udfpsStops singleTapStops : Bool) : SensorsSubHal :=
  let udfps (sensorHandle : BitVec 32) : SubHalSensor :=
    {
      mSensorInfo := udfpsSensorInfo sensorHandle
      object := .udfps (.constructed screen udfpsStops)
    }
  let singleTap (sensorHandle : BitVec 32) : SubHalSensor :=
    {
      mSensorInfo := singleTapSensorInfo sensorHandle
      object := .singleTap (.constructed () singleTapStops)
    }
  (({} : SensorsSubHal).addSensor udfps).addSensor singleTap

def getSensorsList (subHal : SensorsSubHal) : List SensorInfo :=
  subHal.mSensors.map (·.mSensorInfo)

/-- `mSensors.find`. -/
def find (subHal : SensorsSubHal) (sensorHandle : BitVec 32) : Option SubHalSensor :=
  subHal.mSensors.find? (·.mSensorInfo.sensorHandle = sensorHandle)

/-- The sub-HAL with the sensor of a handle in another state. -/
def update (subHal : SensorsSubHal) (sensorHandle : BitVec 32)
    (change : SubHalSensor → SubHalSensor)
    : SensorsSubHal :=
  { subHal with
    mSensors :=
      subHal.mSensors.map (fun sensor =>
        if sensor.mSensorInfo.sensorHandle = sensorHandle then change sensor else sensor)
  }

/-- `postEvents`. Before `initialize` the callback is null, and the process dies. -/
def postEvents (subHal : SensorsSubHal) (events : List Event) (wakeup : Bool) : SensorsSubHal :=
  if subHal.mCallback then { subHal with posts := subHal.posts ++ [(events, wakeup)] }
  else { subHal with died := true }

/-- `setOperationMode` up to its loop. -/
def setOperationMode (subHal : SensorsSubHal) (mode : OperationMode) : SensorsSubHal :=
  { subHal with changing := some (mode, 0) }

/-- `initialize` up to the loop of `setOperationMode`. -/
def initializeSubHal (subHal : SensorsSubHal) : SensorsSubHal :=
  { subHal with mCallback := true }.setOperationMode .normal

/-- The loop of `setOperationMode` calls one more sensor, or ends. -/
def nextSensor (subHal : SensorsSubHal) : Option SensorsSubHal :=
  subHal.changing.map (fun (mode, called) =>
    if called < subHal.mSensors.length then
      { subHal with
        mSensors :=
          subHal.mSensors.modify called (fun sensor =>
            { sensor with object := sensor.object.setOperationMode mode })
        changing := some (mode, called + 1)
      }
    else
      { subHal with mCurrentOperationMode := mode, changing := none })

def activate (subHal : SensorsSubHal) (sensorHandle : BitVec 32) (enabled : Bool)
    : Result × SensorsSubHal :=
  match subHal.find sensorHandle with
  | some _ =>
      (.ok,
        subHal.update sensorHandle (fun sensor =>
          { sensor with object := sensor.object.activate enabled }))
  | none => (.badValue, subHal)

/-- `batch`, which a one-shot sensor overrides to do nothing. -/
def batch (subHal : SensorsSubHal) (sensorHandle : BitVec 32) (_samplingPeriodNs : Int)
    : Result × SensorsSubHal :=
  match subHal.find sensorHandle with
  | some _ => (.ok, subHal)
  | none => (.badValue, subHal)

/-- `flush`, which a one-shot sensor overrides to refuse. -/
def flush (subHal : SensorsSubHal) (sensorHandle : BitVec 32) : Result × SensorsSubHal :=
  match subHal.find sensorHandle with
  | some _ => (.badValue, subHal)
  | none => (.badValue, subHal)

def injectSensorData (subHal : SensorsSubHal) (event : Event) : Result × SensorsSubHal :=
  match subHal.find event.sensorHandle with
  | some sensor =>
      if event.sensorType = .additionalInfo then
        (.ok, subHal)
      else if !sensor.supportsDataInjection then
        (.invalidOperation, subHal)
      else if sensor.object.mMode = .dataInjection then
        (.ok, subHal.postEvents [event] sensor.isWakeUpSensor)
      else
        (.badValue, subHal)
  | none => (.badValue, subHal)

/-- Posts what a thread has read; an exception that leaves the thread ends the process. -/
def take (subHal : SensorsSubHal) (wakeup : Bool) : ThreadOutcome → SensorsSubHal
  | .silent => subHal
  | .posts events => subHal.postEvents events wakeup
  | .throws => { subHal with died := true }

/-- A step of the thread of the numbered sensor. -/
def run (subHal : SensorsSubHal) (index : Nat) (step : ThreadStep) : Option SensorsSubHal :=
  subHal.mSensors[index]?.bind (fun sensor =>
    (sensor.run step).map (fun (after, outcome) =>
      { subHal with mSensors := subHal.mSensors.set index after }.take sensor.isWakeUpSensor
        outcome))

/-- A call of the binder thread, an iteration of the call that it is in, or a step of a sensor's
thread.
-/
inductive Action where
  | initializeSubHal
  | setOperationMode (mode : OperationMode)
  | nextSensor
  | activate (sensorHandle : BitVec 32) (enabled : Bool)
  | batch (sensorHandle : BitVec 32) (samplingPeriodNs : Int)
  | flush (sensorHandle : BitVec 32)
  | injectSensorData (event : Event)
  | run (index : Nat) (step : ThreadStep)

/-- The binder thread makes a call when it is in none. -/
def call (subHal : SensorsSubHal) (after : SensorsSubHal) : Option SensorsSubHal :=
  if subHal.changing = none then some after else none

def step (subHal : SensorsSubHal) (action : Action) : Option SensorsSubHal :=
  if subHal.died then none
  else
    match action with
    | .initializeSubHal => subHal.call subHal.initializeSubHal
    | .setOperationMode mode => subHal.call (subHal.setOperationMode mode)
    | .nextSensor => subHal.nextSensor
    | .activate sensorHandle enabled => subHal.call (subHal.activate sensorHandle enabled).2
    | .batch sensorHandle samplingPeriodNs =>
        subHal.call (subHal.batch sensorHandle samplingPeriodNs).2
    | .flush sensorHandle => subHal.call (subHal.flush sensorHandle).2
    | .injectSensorData event => subHal.call (subHal.injectSensorData event).2
    | .run index step => subHal.run index step

end SensorsSubHal

def subHalMachine : Machine SensorsSubHal SensorsSubHal.Action where
  step := SensorsSubHal.step

-----------------------------------------------------------------------------------------
-- What a step of a thread does
-----------------------------------------------------------------------------------------

namespace OneShotSensor

variable {ρ μ : Type} {touch : TouchTest ρ μ} {before after : OneShotSensor μ}

/-- The sensor may still post: it is enabled, or its thread has found it enabled. -/
def live (sensor : OneShotSensor μ) : Bool := sensor.mIsEnabled || sensor.inGap

@[simp]
theorem mIsEnabled_loop (sensor : OneShotSensor μ) : sensor.loop.mIsEnabled = sensor.mIsEnabled :=
  rfl

/-- The loop finds a sensor enabled or it does not. -/
@[simp]
theorem live_loop (sensor : OneShotSensor μ) : sensor.loop.live = sensor.mIsEnabled := by
  cases enabled : sensor.mIsEnabled with
  | true => simp [live, enabled]
  | false =>
      have waits : sensor.loop.inGap ≠ true := by
        intro polls
        rw [(loop_inGap polls).1] at enabled
        cases enabled
      simp [live, enabled, Bool.eq_false_iff.mpr waits]

@[simp]
theorem mMode_activate (sensor : OneShotSensor μ) (enable : Bool)
    : (sensor.activate enable).mMode = sensor.mMode := by
  obtain ⟨waitPipe, same⟩ := sensor.activate_frame enable
  rw [same]

/-- Activation makes a sensor live, and deactivation leaves it so in the gap only. -/
theorem live_activate (sensor : OneShotSensor μ) (enable : Bool)
    : (sensor.activate enable).live = (enable || sensor.inGap) := by
  obtain ⟨waitPipe, same⟩ := sensor.activate_frame enable
  rw [same]
  rfl

@[simp]
theorem mMode_setOperationMode (sensor : OneShotSensor μ) (mode : OperationMode)
    : (sensor.setOperationMode mode).mMode = mode := by
  obtain ⟨waitPipe, same⟩ := sensor.setOperationMode_frame mode
  rw [same]

@[simp]
theorem live_setOperationMode (sensor : OneShotSensor μ) (mode : OperationMode)
    : (sensor.setOperationMode mode).live = sensor.live := by
  obtain ⟨waitPipe, same⟩ := sensor.setOperationMode_frame mode
  rw [same]
  rfl

/-- Taking the lock makes no sensor live and changes no mode. -/
theorem lock_keeps (taken : before.lock = some after)
    : after.mMode = before.mMode ∧ (after.live = true → before.live = true) := by
  obtain ⟨-, rfl⟩ := lock_eq_some taken
  refine ⟨rfl, fun live => ?_⟩
  rw [live_loop] at live
  simp [OneShotSensor.live, live]

/-- So does a poll. -/
theorem poll_keeps {answer : Polled} (taken : before.poll answer = some after)
    : after.mMode = before.mMode ∧ (after.live = true → before.live = true) := by
  obtain ⟨gap, rfl⟩ := poll_eq_some taken
  exact ⟨rfl, fun _ => by simp [live, gap]⟩

/-- A dispatch is made by a live sensor. After a touch it is not live any more. -/
theorem dispatch_keeps {reading : ρ} (taken : before.dispatch touch reading = some after)
    : after.mMode = before.mMode ∧ before.live = true
      ∧ (before.touched touch reading = true → after.live = false) := by
  obtain ⟨gap, _, _, _, ⟨_, rfl⟩ | ⟨untouched, rfl⟩⟩ := dispatch_eq_some taken
  · exact ⟨rfl, by simp [live, gap], fun _ => by simp⟩
  · exact ⟨rfl, by simp [live, gap], fun touched => by simp [touched] at untouched⟩

end OneShotSensor

namespace TouchSensor

/-- The sensor may still post. -/
def live : TouchSensor → Bool
  | udfps sensor => sensor.live
  | singleTap sensor => sensor.live

@[simp]
theorem mMode_activate (sensor : TouchSensor) (enable : Bool)
    : (sensor.activate enable).mMode = sensor.mMode := by
  cases sensor <;> simp [activate, call, mMode]

@[simp]
theorem mMode_setOperationMode (sensor : TouchSensor) (mode : OperationMode)
    : (sensor.setOperationMode mode).mMode = mode := by
  cases sensor <;> simp [setOperationMode, call, mMode]

@[simp]
theorem live_setOperationMode (sensor : TouchSensor) (mode : OperationMode)
    : (sensor.setOperationMode mode).live = sensor.live := by
  cases sensor <;> simp [setOperationMode, call, live]

/-- A sensor that a call has made live was live, or is activated. -/
theorem live_of_activate {sensor : TouchSensor} {enable : Bool}
    (live : (sensor.activate enable).live = true)
    : sensor.live = true ∨ enable = true := by
  cases sensor with
  | udfps sensor | singleTap sensor =>
      simp only [activate, call, TouchSensor.live, OneShotSensor.live_activate,
        Bool.or_eq_true] at live
      simp only [TouchSensor.live, OneShotSensor.live, Bool.or_eq_true]
      exact live.symm.imp .inr id

end TouchSensor

namespace SubHalSensor

/-- What a step of a thread keeps and leads to: nothing is posted, and the sensor is live only if
it was; or a live sensor reads a touch, and is not live any more.
-/
structure Runs (sensor after : SubHalSensor) (outcome : ThreadOutcome) : Prop where
  mSensorInfo : after.mSensorInfo = sensor.mSensorInfo
  mMode : after.object.mMode = sensor.object.mMode
  outcome
    : outcome = .silent ∧ (after.object.live = true → sensor.object.live = true)
      ∨ (outcome = .throws
          ∨ ∃ timestamp memory x y,
              outcome = .posts (sensor.readEvents timestamp memory x y))
        ∧ sensor.object.live = true
        ∧ after.object.live = false

variable {sensor after : SubHalSensor} {outcome : ThreadOutcome}

/-- What is read for a touch makes an event of the sensor, or throws. -/
theorem touchEvents_cases (sensor : SubHalSensor) (reading : TouchReading)
    (coordinates : Except Text.StoulException (Int × Int))
    : sensor.touchEvents reading coordinates = .throws
      ∨ ∃ timestamp memory x y,
          sensor.touchEvents reading coordinates
          = .posts (sensor.readEvents timestamp memory x y) := by
  cases coordinates with
  | error _ => exact .inl rfl
  | ok coordinates => exact .inr ⟨_, _, _, _, rfl⟩

/-- A step without a dispatch is silent, in either class. -/
theorem advance_runs
    {move : ∀ {μ : Type}, OneShotSensor μ → Option (OneShotSensor μ)}
    (keeps
      : ∀ {μ : Type} {before after : OneShotSensor μ},
          move before = some after
          → after.mMode = before.mMode ∧ (after.live = true → before.live = true))
    (taken : sensor.advance move = some (after, outcome))
    : sensor.Runs after outcome := by
  unfold advance at taken
  split at taken
  · rename_i object class_
    obtain ⟨moved, step, same⟩ := Option.map_eq_some_iff.mp taken
    obtain ⟨rfl, rfl⟩ := Prod.mk.inj same
    obtain ⟨mode, live⟩ := keeps step
    exact {
      mSensorInfo := rfl
      mMode := by rw [class_]; exact mode
      outcome := .inl ⟨rfl, by rw [class_]; exact live⟩
    }
  · rename_i object class_
    obtain ⟨moved, step, same⟩ := Option.map_eq_some_iff.mp taken
    obtain ⟨rfl, rfl⟩ := Prod.mk.inj same
    obtain ⟨mode, live⟩ := keeps step
    exact {
      mSensorInfo := rfl
      mMode := by rw [class_]; exact mode
      outcome := .inl ⟨rfl, by rw [class_]; exact live⟩
    }

/-- A dispatch of a live sensor reads its event only for a touch, after which it is not live. -/
theorem runs_of_dispatch (moved : TouchSensor) (mode : moved.mMode = sensor.object.mMode)
    (live : sensor.object.live = true) {touched : Bool}
    (spent : touched = true → moved.live = false) (reading : TouchReading)
    (coordinates : Except Text.StoulException (Int × Int))
    : sensor.Runs { sensor with object := moved }
        (if touched then sensor.touchEvents reading coordinates else .silent) where
  mSensorInfo := rfl
  mMode := mode
  outcome := by
    cases touched with
    | false => exact .inl ⟨rfl, fun _ => live⟩
    | true => exact .inr ⟨sensor.touchEvents_cases reading coordinates, live, spent rfl⟩

theorem dispatch_runs {reading : TouchReading}
    (taken : sensor.dispatch reading = some (after, outcome))
    : sensor.Runs after outcome := by
  unfold dispatch at taken
  split at taken
  · rename_i object node class_ _
    obtain ⟨moved, step, same⟩ := Option.map_eq_some_iff.mp taken
    obtain ⟨rfl, rfl⟩ := Prod.mk.inj same
    obtain ⟨mode, live, spent⟩ := OneShotSensor.dispatch_keeps step
    exact runs_of_dispatch (.udfps moved) (by rw [class_]; exact mode)
      (by rw [class_]; exact live) spent reading _
  · rename_i object node class_ _
    obtain ⟨moved, step, same⟩ := Option.map_eq_some_iff.mp taken
    obtain ⟨rfl, rfl⟩ := Prod.mk.inj same
    obtain ⟨mode, live, spent⟩ := OneShotSensor.dispatch_keeps step
    exact runs_of_dispatch (.singleTap moved) (by rw [class_]; exact mode)
      (by rw [class_]; exact live) spent reading _
  · cases taken

/-- Whatever its thread does, a sensor posts a touch of its own or nothing. -/
theorem run_runs {step : ThreadStep} (taken : sensor.run step = some (after, outcome))
    : sensor.Runs after outcome := by
  cases step with
  | lock => exact advance_runs OneShotSensor.lock_keeps taken
  | poll answer => exact advance_runs OneShotSensor.poll_keeps taken
  | dispatch reading => exact dispatch_runs taken

end SubHalSensor

-----------------------------------------------------------------------------------------
-- What a step of the sub-HAL does
-----------------------------------------------------------------------------------------

namespace SensorsSubHal

/-- The steps of the sub-HAL: a call begins its loop, the loop calls a sensor or ends, a sensor is
activated, a call changes nothing, injected data is posted, or a thread runs.
-/
inductive Steps (before : SensorsSubHal) : Action → SensorsSubHal → Prop where
  | begins {action} (mCallback : Bool) (mode : OperationMode) (idle : before.changing = none)
      (called : before.mCallback = true → mCallback = true)
      (told : ∀ sensorHandle, action ≠ .activate sensorHandle true)
    : Steps before action { before with mCallback, changing := some (mode, 0) }
  | calls (mode : OperationMode) (called : Nat) (changing : before.changing = some (mode, called))
      (inside : called < before.mSensors.length)
    : Steps before .nextSensor
        { before with
          mSensors :=
            before.mSensors.modify called (fun sensor =>
              { sensor with object := sensor.object.setOperationMode mode })
          changing := some (mode, called + 1)
        }
  | ends (mode : OperationMode) (called : Nat) (changing : before.changing = some (mode, called))
      (outside : before.mSensors.length ≤ called)
    : Steps before .nextSensor { before with mCurrentOperationMode := mode, changing := none }
  | activates (sensorHandle : BitVec 32) (enabled : Bool)
    : Steps before (.activate sensorHandle enabled)
        (before.update sensorHandle (fun sensor =>
          { sensor with object := sensor.object.activate enabled }))
  | keeps {action} : Steps before action before
  | injects (event : Event) (sensor : SubHalSensor) (listed : sensor ∈ before.mSensors)
      (supports : sensor.supportsDataInjection = true)
    : Steps before (.injectSensorData event) (before.postEvents [event] sensor.isWakeUpSensor)
  | runs (index : Nat) (step : ThreadStep) (sensor after : SubHalSensor)
      (outcome : ThreadOutcome) (found : before.mSensors[index]? = some sensor)
      (ran : sensor.Runs after outcome)
    : Steps before (.run index step)
        ({ before with mSensors := before.mSensors.set index after }.take sensor.isWakeUpSensor
          outcome)

variable {before after : SensorsSubHal} {action : Action}

/-- A call is made by an idle binder thread. -/
theorem call_eq_some {result : SensorsSubHal} (taken : before.call result = some after)
    : before.changing = none ∧ after = result := by
  unfold call at taken
  split at taken
  · rename_i idle
    exact ⟨idle, (Option.some.inj taken).symm⟩
  · cases taken

theorem steps_nextSensor (taken : before.nextSensor = some after)
    : Steps before .nextSensor after := by
  obtain ⟨⟨mode, called⟩, changing, rfl⟩ := Option.map_eq_some_iff.mp taken
  by_cases inside : called < before.mSensors.length
  · simp only [if_pos inside]
    exact .calls mode called changing inside
  · simp only [if_neg inside]
    exact .ends mode called changing (Nat.not_lt.mp inside)

theorem steps_activate (before : SensorsSubHal) (sensorHandle : BitVec 32) (enabled : Bool)
    : Steps before (.activate sensorHandle enabled)
        (before.activate sensorHandle enabled).2 := by
  unfold activate
  split
  · exact .activates sensorHandle enabled
  · exact .keeps

theorem steps_injectSensorData (before : SensorsSubHal) (event : Event)
    : Steps before (.injectSensorData event) (before.injectSensorData event).2 := by
  unfold injectSensorData
  split
  · rename_i sensor found
    have listed := List.mem_of_find?_eq_some found
    split
    · exact .keeps
    · split
      · exact .keeps
      · rename_i supports
        split
        · exact .injects event sensor listed (by simpa using supports)
        · exact .keeps
  · exact .keeps

theorem steps_run {index : Nat} {step : ThreadStep} (taken : before.run index step = some after)
    : Steps before (.run index step) after := by
  obtain ⟨sensor, found, ran⟩ := Option.bind_eq_some_iff.mp taken
  obtain ⟨⟨moved, outcome⟩, runs, rfl⟩ := Option.map_eq_some_iff.mp ran
  exact .runs index step sensor moved outcome found (SubHalSensor.run_runs runs)

/-- Every step is one of these, by the action. -/
theorem steps (taken : before.step action = some after) : Steps before action after := by
  unfold step at taken
  split at taken
  · cases taken
  · cases action with
    | initializeSubHal =>
        obtain ⟨idle, rfl⟩ := call_eq_some taken
        exact .begins true .normal idle (fun _ => rfl) nofun
    | setOperationMode mode =>
        obtain ⟨idle, rfl⟩ := call_eq_some taken
        exact .begins before.mCallback mode idle id nofun
    | nextSensor => exact steps_nextSensor taken
    | activate sensorHandle enabled =>
        obtain ⟨-, rfl⟩ := call_eq_some taken
        exact steps_activate before sensorHandle enabled
    | batch sensorHandle samplingPeriodNs =>
        obtain ⟨-, rfl⟩ := call_eq_some taken
        unfold batch
        split <;> exact .keeps
    | flush sensorHandle =>
        obtain ⟨-, rfl⟩ := call_eq_some taken
        unfold flush
        split <;> exact .keeps
    | injectSensorData event =>
        obtain ⟨-, rfl⟩ := call_eq_some taken
        exact steps_injectSensorData before event
    | run index step => exact steps_run taken

end SensorsSubHal

end PongDevice.Sensors
