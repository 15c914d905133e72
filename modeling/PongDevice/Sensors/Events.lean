import Mathlib.Logic.Basic

/-! Sensors and their events, and the table of the sensors that the sub-HALs list. A handle
carries the index of its sub-HAL in its first byte.
-/

namespace PongDevice.Sensors

/-- `SensorType`, with the types that the proxy itself looks at by name. -/
inductive SensorType where
  | metaData
  | pickUpGesture
  | additionalInfo
  | other (code : BitVec 32)
deriving DecidableEq, Repr

/-- `SensorFlagBits::WAKE_UP`. -/
def wakeUpFlag : BitVec 32 := 1

/-- `SensorFlagBits::MASK_DIRECT_REPORT | SensorFlagBits::MASK_DIRECT_CHANNEL`. -/
def directMask : BitVec 32 := 0x380 ||| 0xC00

structure SensorInfo where
  sensorHandle : BitVec 32 := 0
  type : SensorType := .metaData
  typeAsString : String := ""
  flags : BitVec 32 := 0
deriving DecidableEq, Repr

/-- An event, with its payload union as the bits that all of its members overlap. -/
structure Event where
  timestamp : Int
  sensorHandle : BitVec 32
  sensorType : SensorType
  u : BitVec 512
deriving DecidableEq, Repr

/-- `u.scalar`, the float in the first four bytes of the payload, as its bits. -/
def Event.scalar (event : Event) : BitVec 32 := event.u.extractLsb' 0 32

/-- The only bits of a float that compare equal to 1. -/
def scalarOne : BitVec 32 := 0x3F800000

/-- Sets the sub-HAL index as first byte of a sensor handle. -/
def setSubHalIndex (sensorHandle : BitVec 32) (subHalIndex : Nat) : BitVec 32 :=
  sensorHandle ||| (BitVec.ofNat 32 subHalIndex <<< 24)

def subHalIndexIsClear (sensorHandle : BitVec 32) : Bool :=
  sensorHandle &&& 0xFF000000 = 0

/-- `mSensors`, a map from handles to sensors. -/
abbrev SensorTable := BitVec 32 → Option SensorInfo

namespace SensorTable

/-- The entry of a handle; an absent one reads as a value-initialised sensor. -/
def getSensorInfo (mSensors : SensorTable) (sensorHandle : BitVec 32) : SensorInfo :=
  (mSensors sensorHandle).getD {}

/-- `mSensors[sensorHandle] = sensor`. -/
def insert (mSensors : SensorTable) (sensorHandle : BitVec 32) (sensor : SensorInfo)
    : SensorTable :=
  fun other => if other = sensorHandle then some sensor else mSensors other

/-- The table after a look at `mSensors[sensorHandle]`, which adds an absent entry. -/
def touch (mSensors : SensorTable) (sensorHandle : BitVec 32) : SensorTable :=
  mSensors.insert sensorHandle (mSensors.getSensorInfo sensorHandle)

/-- `sensor.flags & SensorFlagBits::WAKE_UP` of the sensor behind a handle. -/
def isWakeUp (mSensors : SensorTable) (sensorHandle : BitVec 32) : Bool :=
  (mSensors.getSensorInfo sensorHandle).flags &&& wakeUpFlag ≠ 0

/-- Looking an entry up changes no entry that can be read. -/
@[simp]
theorem getSensorInfo_touch (mSensors : SensorTable) (sensorHandle : BitVec 32)
    : (mSensors.touch sensorHandle).getSensorInfo = mSensors.getSensorInfo := by
  funext other
  by_cases same : other = sensorHandle
  · simp [getSensorInfo, touch, insert, same]
  · simp [getSensorInfo, touch, insert, same]

end SensorTable

/-- The table, and the sub-HAL that direct channels are left to, while sensors are listed. -/
structure SensorList where
  mSensors : SensorTable := fun _ => none
  mDirectChannelSubHal : Option Nat := none

namespace SensorList

/-- The sensor with its flags as they are listed, and the sub-HAL of direct channels. -/
def setDirectChannelFlags (mDirectChannelSubHal : Option Nat) (sensorInfo : SensorInfo)
    (subHal : Nat)
    : SensorInfo × Option Nat :=
  let sensorSupportsDirectChannel := sensorInfo.flags &&& directMask ≠ 0
  if mDirectChannelSubHal = none ∧ sensorSupportsDirectChannel then
    (sensorInfo, some subHal)
  else if mDirectChannelSubHal ≠ none ∧ some subHal ≠ mDirectChannelSubHal then
    ({ sensorInfo with flags := sensorInfo.flags &&& ~~~directMask }, mDirectChannelSubHal)
  else
    (sensorInfo, mDirectChannelSubHal)

def wristTiltGesture : String := "android.sensor.wrist_tilt_gesture"

/-- Standardize pickup sensor. -/
def standardizePickup (sensor : SensorInfo) : SensorInfo :=
  if sensor.typeAsString = wristTiltGesture then
    { sensor with
      type := .pickUpGesture
      typeAsString := "android.sensor.pick_up_gesture"
    }
  else
    sensor

/-- One sensor of the list that a sub-HAL gives. -/
def addSensor (subHalIndex : Nat) (list : SensorList) (sensor : SensorInfo) : SensorList :=
  if subHalIndexIsClear sensor.sensorHandle then
    let sensor :=
      { sensor with sensorHandle := setSubHalIndex sensor.sensorHandle subHalIndex }
    let (sensor, mDirectChannelSubHal) :=
      setDirectChannelFlags list.mDirectChannelSubHal sensor subHalIndex
    let sensor := standardizePickup sensor
    {
      mSensors := list.mSensors.insert sensor.sensorHandle sensor
      mDirectChannelSubHal
    }
  else
    list

/-- `subHals` holds what each sub-HAL lists, which is nothing when its call failed. -/
def initializeSensorList (subHals : List (List SensorInfo)) : SensorList :=
  subHals.zipIdx.foldl (fun list subHal => subHal.1.foldl (addSensor subHal.2) list) {}

/-- Standardizing leaves no sensor that calls itself a wrist tilt gesture. -/
theorem standardizePickup_typeAsString (sensor : SensorInfo)
    : (standardizePickup sensor).typeAsString ≠ wristTiltGesture := by
  unfold standardizePickup
  split
  · simp [wristTiltGesture]
  · assumption

/-- No entry of the table is a wrist tilt gesture. -/
def Standardized (list : SensorList) : Prop :=
  ∀ sensorHandle, ∀ sensor ∈ list.mSensors sensorHandle,
    sensor.typeAsString ≠ wristTiltGesture

/-- Adding a sensor keeps the table standardized. -/
theorem Standardized.addSensor {list : SensorList} (standard : list.Standardized)
    (subHalIndex : Nat) (sensor : SensorInfo)
    : (list.addSensor subHalIndex sensor).Standardized := by
  intro sensorHandle entry listed
  unfold SensorList.addSensor at listed
  split at listed
  · simp only [SensorTable.insert] at listed
    split at listed
    · obtain rfl := Option.some.inj listed
      exact standardizePickup_typeAsString _
    · exact standard sensorHandle entry listed
  · exact standard sensorHandle entry listed

/-- What one sub-HAL lists keeps the table standardized, by induction over its sensors. -/
theorem Standardized.addSensors {list : SensorList} (standard : list.Standardized)
    (subHalIndex : Nat) (sensors : List SensorInfo)
    : (sensors.foldl (SensorList.addSensor subHalIndex) list).Standardized := by
  induction sensors generalizing list with
  | nil => exact standard
  | cons sensor rest ih => exact ih (standard.addSensor subHalIndex sensor)

/-- Whatever the sub-HALs list, the table has no wrist tilt gesture, by induction over them. -/
theorem standardized_initializeSensorList (subHals : List (List SensorInfo))
    : (initializeSensorList subHals).Standardized := by
  have fold : ∀ (indexed : List (List SensorInfo × Nat)) (list : SensorList),
      list.Standardized
      → (indexed.foldl
          (fun list subHal => subHal.1.foldl (SensorList.addSensor subHal.2) list)
          list).Standardized := by
    intro indexed
    induction indexed with
    | nil => exact fun _ standard => standard
    | cons subHal rest ih =>
        exact fun list standard => ih _ (standard.addSensors subHal.2 subHal.1)
  exact fold subHals.zipIdx {} (fun _ _ => nofun)

end SensorList

end PongDevice.Sensors
