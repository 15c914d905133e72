import PongDevice.Sensors.DirectChannel
import PongDevice.Text.Words

/-! The sub-HALs that the proxy loads as it is constructed. It reads the names of their libraries
from a config file, and the index of a sub-HAL is its place among those that could be loaded.
-/

namespace PongDevice.Sensors

open Text

/-- What a library answers to one of its two functions: a sub-HAL, and the version it stores. -/
structure GetSubHal (Interface : Type) where
  subHal : Interface
  version : BitVec 32

/-- A shared object by what `dlsym` finds in it. -/
structure SharedObject (Interface : Type) where
  sensorsHalGetSubHal : Option (GetSubHal Interface) := none
  sensorsHalGetSubHal_2_1 : Option (GetSubHal Interface) := none

/-- `SubHalWrapperV2_0` and `SubHalWrapperV2_1`. -/
inductive SubHalWrapper (Interface : Type) where
  | v2_0 (subHal : Interface)
  | v2_1 (subHal : Interface)

/-- What the proxy does not have in its own file: the linker, the two versions, and the wrappers,
of which a sub-HAL lists its sensors and answers calls.
-/
structure Platform (Interface : Type) where
  lp64 : Bool
  dlopen : List Char → Option (SharedObject Interface)
  subHalVersion2_0 : BitVec 32
  subHalVersion2_1 : BitVec 32
  getSensorsList : SubHalWrapper Interface → List SensorInfo
  call : SubHalWrapper Interface → SubHal

/-- `kSubHalShareObjectLocations`. -/
def subHalShareObjectLocations (lp64 : Bool) : List (List Char) :=
  if lp64 then
    -- Default locations will be searched
    ["".toList, "/vendor/lib64/hw/".toList, "/odm/lib64/hw/".toList]
  else
    ["".toList, "/vendor/lib/hw/".toList, "/odm/lib/hw/".toList]

namespace Platform

variable {Interface : Type} (platform : Platform Interface)

def getHandleForSubHalSharedObject (filename : List Char) : Option (SharedObject Interface) :=
  (subHalShareObjectLocations platform.lp64).findSome? (fun dir =>
    platform.dlopen (dir ++ filename))

/-- The sub-HAL of a library that was opened. One that has the first function is never asked for
the second.
-/
def getSubHal (handle : SharedObject Interface) : Option (SubHalWrapper Interface) :=
  match handle.sensorsHalGetSubHal with
  | some found =>
      if found.version ≠ platform.subHalVersion2_0 then none else some (.v2_0 found.subHal)
  | none =>
      match handle.sensorsHalGetSubHal_2_1 with
      | none => none
      | some found =>
          if found.version ≠ platform.subHalVersion2_1 then none else some (.v2_1 found.subHal)

/-- One iteration of `initializeSubHalListFromConfigFile`. -/
def pushSubHal (mSubHalList : List (SubHalWrapper Interface)) (subHalLibraryFile : List Char)
    : List (SubHalWrapper Interface) :=
  match platform.getHandleForSubHalSharedObject subHalLibraryFile with
  | none => mSubHalList
  | some handle =>
      match platform.getSubHal handle with
      | none => mSubHalList
      | some subHal => mSubHalList ++ [subHal]

/-- A config file that cannot be opened loads nothing. -/
def initializeSubHalListFromConfigFile (config : Option (List Char))
    : List (SubHalWrapper Interface) :=
  match config with
  | none => []
  | some config => (words config).foldl platform.pushSubHal []

/-- The sensors that the proxy lists as it is constructed over a config file. -/
def sensorList (config : Option (List Char)) : SensorList :=
  SensorList.initializeSensorList
    ((platform.initializeSubHalListFromConfigFile config).map platform.getSensorsList)

/-- The sub-HALs as requests reach them. -/
def subHals (config : Option (List Char)) : List SubHal :=
  (platform.initializeSubHalListFromConfigFile config).map platform.call

-----------------------------------------------------------------------------------------
-- The places of the sub-HALs
-----------------------------------------------------------------------------------------

/-- The sub-HAL behind a line of the config file, if there is one. -/
def loaded (subHalLibraryFile : List Char) : Option (SubHalWrapper Interface) :=
  (platform.getHandleForSubHalSharedObject subHalLibraryFile).bind platform.getSubHal

theorem pushSubHal_eq (mSubHalList : List (SubHalWrapper Interface))
    (subHalLibraryFile : List Char)
    : platform.pushSubHal mSubHalList subHalLibraryFile
      = mSubHalList ++ (platform.loaded subHalLibraryFile).toList := by
  unfold pushSubHal loaded
  cases platform.getHandleForSubHalSharedObject subHalLibraryFile with
  | none => simp
  | some handle =>
      cases loads : platform.getSubHal handle <;> simp [loads]

/-- The sub-HALs are those of the lines that could be loaded, in their order. -/
theorem initializeSubHalListFromConfigFile_eq (config : List Char)
    : platform.initializeSubHalListFromConfigFile (some config)
      = (words config).filterMap platform.loaded := by
  have pushed (files : List (List Char)) (mSubHalList : List (SubHalWrapper Interface))
      : files.foldl platform.pushSubHal mSubHalList
        = mSubHalList ++ files.filterMap platform.loaded := by
    induction files generalizing mSubHalList with
    | nil => simp
    | cons file rest ih =>
        rw [List.foldl_cons, ih, pushSubHal_eq]
        cases loads : platform.loaded file <;> simp [loads]
  exact pushed _ []

/-- A file that goes on after a space loads what it did, and what comes after. -/
theorem initializeSubHalListFromConfigFile_append (config : List Char) {space : Char}
    (blank : isSpace space = true) (later : List Char)
    : platform.initializeSubHalListFromConfigFile (some (config ++ space :: later))
      = platform.initializeSubHalListFromConfigFile (some config)
        ++ platform.initializeSubHalListFromConfigFile (some later) := by
  simp only [initializeSubHalListFromConfigFile_eq, words_append config blank,
    List.filterMap_append]

/-- A file loads no more sub-HALs than it has characters. -/
theorem length_initializeSubHalListFromConfigFile_le (config : List Char)
    : (platform.initializeSubHalListFromConfigFile (some config)).length ≤ config.length := by
  rw [initializeSubHalListFromConfigFile_eq]
  exact (List.length_filterMap_le _ _).trans (length_words_le config)

end Platform

-----------------------------------------------------------------------------------------
-- The sensors of more sub-HALs
-----------------------------------------------------------------------------------------

namespace SensorList

/-- A list still has the sensors of the first sub-HALs, and the owner of direct channels. -/
structure Keeps (count : Nat) (before after : SensorList) : Prop where
  mSensors
    : ∀ sensorHandle,
        extractSubHalIndex sensorHandle < count
        → after.mSensors sensorHandle = before.mSensors sensorHandle
  mDirectChannelSubHal : ∀ owner ∈ before.mDirectChannelSubHal, owner ∈ after.mDirectChannelSubHal

/-- A sensor of a later sub-HAL has a handle of its own, and takes no direct channels away. -/
theorem Keeps.addSensor {count : Nat} {before after : SensorList} (keeps : Keeps count before after)
    {subHalIndex : Nat} (later : count ≤ subHalIndex) (small : subHalIndex < 128)
    (sensor : SensorInfo)
    : Keeps count before (after.addSensor subHalIndex sensor) := by
  cases clear : subHalIndexIsClear sensor.sensorHandle with
  | false => simpa [SensorList.addSensor, clear] using keeps
  | true =>
      let entry : Entry := { subHalIndex, sensor }
      have accepted : entry.accepted = true := clear
      have added := @addSensor_eq after entry accepted
      dsimp only [entry] at added
      rw [added]
      exact {
        mSensors := by
          intro sensorHandle first
          have other : sensorHandle ≠ setSubHalIndex sensor.sensorHandle subHalIndex := by
            rintro rfl
            rw [extractSubHalIndex_setSubHalIndex clear small] at first
            omega
          simpa [SensorTable.insert, Entry.sensorHandle, other]
            using keeps.mSensors sensorHandle first
        mDirectChannelSubHal := by
          intro owner found
          have still := Option.mem_def.mp (keeps.mDirectChannelSubHal owner found)
          simp [Entry.ownerAfter, still]
      }

/-- The sensors of more sub-HALs leave those of the first ones, by the two loops. -/
theorem keeps_append (subHals later : List (List SensorInfo))
    (few : (subHals ++ later).length < 128)
    : Keeps subHals.length (initializeSensorList subHals)
        (initializeSensorList (subHals ++ later)) := by
  rw [initializeSensorList, initializeSensorList, List.zipIdx_append, List.foldl_append]
  refine List.foldlRecOn _ _ ⟨fun _ _ => rfl, fun _ found => found⟩ ?_
  rintro list keeps ⟨sensors, subHalIndex⟩ member
  have above := List.le_snd_of_mem_zipIdx member
  have below := List.snd_lt_add_of_mem_zipIdx member
  rw [List.length_append] at few
  refine List.foldlRecOn _ _ keeps (fun list keeps sensor _ => ?_)
  exact keeps.addSensor (by simpa using above) (by simp only at below; omega) sensor

/-- A sensor is listed under a handle of one of the sub-HALs. -/
theorem extractSubHalIndex_lt {subHals : List (List SensorInfo)} (few : subHals.length < 128)
    {sensorHandle : BitVec 32} {sensor : SensorInfo}
    (listed : sensor ∈ (initializeSensorList subHals).mSensors sensorHandle)
    : extractSubHalIndex sensorHandle < subHals.length := by
  rw [Option.mem_def, (lists_initializeSensorList subHals).table] at listed
  obtain ⟨entry, found, -⟩ := Option.map_eq_some_iff.mp listed
  have inside := subHalIndex_lt (List.mem_reverse.mp (List.mem_of_find?_eq_some found))
  have matched := List.find?_some found
  obtain ⟨accepted, same⟩ := Bool.and_eq_true_iff.mp matched
  rw [← beq_iff_eq.mp same, Entry.sensorHandle,
    extractSubHalIndex_setSubHalIndex accepted (inside.trans few)]
  exact inside

end SensorList

/-- A request for a handle of one of the first sub-HALs goes the same way with more of them. -/
theorem request_append {mSubHalList : List SubHal} {sensorHandle : BitVec 32}
    (first : extractSubHalIndex sensorHandle < mSubHalList.length) (later : List SubHal)
    (call : BitVec 32 → SubHalCall)
    : request (mSubHalList ++ later) sensorHandle call = request mSubHalList sensorHandle call := by
  have still : extractSubHalIndex sensorHandle < (mSubHalList ++ later).length := by
    rw [List.length_append]
    omega
  simp only [request, isSubHalIndexValid, first, still, callSubHal, List.getElem?_append_left first]

-----------------------------------------------------------------------------------------
-- A config file that goes on
-----------------------------------------------------------------------------------------

namespace Platform

variable {Interface : Type} (platform : Platform Interface)

/-- What a config file loads is left as it is by another one that begins with it: the sub-HALs
keep their indices, their sensors are published with the same handles and in the same way, and
nothing else is under their handles; a direct channel stays where it was; and every request for
one of the handles calls the same sub-HAL. The next sub-HAL has the next index.
-/
structure Extends (config later whole : List Char) : Prop where
  subHals
    : platform.initializeSubHalListFromConfigFile (some config)
        <+: platform.initializeSubHalListFromConfigFile (some whole)
  published
    : ∀ sensorHandle,
        ∀ sensor ∈ (platform.sensorList (some config)).mSensors sensorHandle,
          (platform.sensorList (some whole)).mSensors sensorHandle = some sensor
  mSensors
    : ∀ sensorHandle,
        extractSubHalIndex sensorHandle
          < (platform.initializeSubHalListFromConfigFile (some config)).length
        → (platform.sensorList (some whole)).mSensors sensorHandle
          = (platform.sensorList (some config)).mSensors sensorHandle
  directChannel
    : ∀ owner ∈ (platform.sensorList (some config)).mDirectChannelSubHal,
        (platform.sensorList (some whole)).mDirectChannelSubHal = some owner
  requests
    : ∀ sensorHandle call,
        extractSubHalIndex sensorHandle
          < (platform.initializeSubHalListFromConfigFile (some config)).length
        → request (platform.subHals (some whole)) sensorHandle call
          = request (platform.subHals (some config)) sensorHandle call
  next
    : ∀ place,
        (platform.initializeSubHalListFromConfigFile (some whole))[
            (platform.initializeSubHalListFromConfigFile (some config)).length + place]?
          = (platform.initializeSubHalListFromConfigFile (some later))[place]?

/-- A linker that finds one library in the vendor's directory, with a pickup sensor. -/
def vendorOnly : Platform Unit where
  lp64 := true
  dlopen path :=
    if path = "/vendor/lib64/hw/sensors.nothing.so".toList then
      some { sensorsHalGetSubHal_2_1 := some { subHal := (), version := 2 } }
    else
      none
  subHalVersion2_0 := 1
  subHalVersion2_1 := 2
  getSensorsList _ := [{ sensorHandle := 1, typeAsString := SensorList.wristTiltGesture }]
  call _ _ := .ok

end Platform

end PongDevice.Sensors
