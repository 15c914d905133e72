import PongDevice.Thermal.FileUtils

/-! The thermal states, the thresholds between them and the frequencies of each. -/

namespace PongDevice.Thermal

/-- `STATE_NORMAL` to `STATE_CRITICAL`. -/
inductive ThermalState where
  | normal
  | warm
  | high
  | critical
deriving DecidableEq, Repr

/-- `stateName`. -/
def ThermalState.name : ThermalState → String
  | .normal => "NORMAL"
  | .warm => "WARM"
  | .high => "HIGH"
  | .critical => "CRITICAL"

/-- The clusters of cores that share a frequency. -/
inductive Cluster where
  | little
  | mid
  | prime
deriving DecidableEq, Repr

namespace Cluster

/-- `CPU_LITTLE_CORES`, `CPU_MID_CORES` and `CPU_PRIME_CORES`. -/
def cores : Cluster → List Core
  | .little => [.cpu0, .cpu1, .cpu2, .cpu3]
  | .mid => [.cpu4, .cpu5, .cpu6]
  | .prime => [.cpu7]

/-- The core whose files are read for its cluster: the first entry of each array, and the one
in `CPU_LITTLE_MAX_FREQ`, `CPU_MID_MAX_FREQ` and `CPU_PRIME_MAX_FREQ`.
-/
def firstCore : Cluster → Core
  | .little => .cpu0
  | .mid => .cpu4
  | .prime => .cpu7

/-- `CPU_LITTLE_FREQ_NORMAL` to `CPU_PRIME_FREQ_CRITICAL`. -/
def frequency : Cluster → ThermalState → String
  | .little, .normal => "1804800"
  | .little, .warm => "1555200"
  | .little, .high => "1324800"
  | .little, .critical => "1132800"
  | .mid, .normal => "2496000"
  | .mid, .warm => "2092800"
  | .mid, .high => "1881600"
  | .mid, .critical => "1555200"
  | .prime, .normal => "2995200"
  | .prime, .warm => "2649600"
  | .prime, .high => "2361600"
  | .prime, .critical => "1996800"

end Cluster

/-- `GPU_FREQ_NORMAL` to `GPU_FREQ_CRITICAL`. -/
def gpuFrequency : ThermalState → String
  | .normal => "900000000"
  | .warm => "710000000"
  | .high => "515000000"
  | .critical => "364000000"

/-- `ThermalLimiter.isSupported`. -/
def isSupported (files : Files) : Bool :=
  isFileReadable files .batteryTemp
    && fileWritable files (.scalingMaxFreq Cluster.little.firstCore)
    && fileWritable files (.scalingMaxFreq Cluster.mid.firstCore)
    && fileWritable files (.scalingMaxFreq Cluster.prime.firstCore)

/-- `readClusterCeiling`. -/
def readClusterCeiling (files : Files) (core : Core) (fallback : String) : String :=
  if isFileReadable files (.cpuinfoMaxFreq core) then
    match (readOneLine files (.cpuinfoMaxFreq core)).bind parseInt with
    | some freq => if 0 < freq then toString freq else fallback
    | none => fallback
  else
    fallback

/-- `setClusterFrequency`; `none` is the null pointer exception of a null frequency. -/
def setClusterFrequency (files : Files) (cores : List Core) (frequency : Option String)
    : Option Files :=
  cores.foldlM
    (fun files core =>
      if fileWritable files (.scalingMaxFreq core) then
        (writeValue files (.scalingMaxFreq core) frequency).map Prod.fst
      else
        some files)
    files

/-- The write of the GPU frequency in `adjustFrequencies` and `resetFrequencies`. -/
def setGpuFrequency (files : Files) (frequency : String) : Option Files :=
  if fileWritable files .gpuMaxFreq then
    (writeValue files .gpuMaxFreq (some frequency)).map Prod.fst
  else
    some files

/-- Whether `enforceFrequencyCeiling` leaves what it reads: a number up to the ceiling. -/
def withinCeiling (current : Option String) (frequency : String) : Bool :=
  match current.bind parseLong, parseLong frequency with
  | some current, some frequency => current ≤ frequency
  | _, _ => false

/-- `enforceFrequencyCeiling`. -/
def enforceFrequencyCeiling (files : Files) (path : Path) (frequency : String)
    : Option Files :=
  if !fileWritable files path || withinCeiling (readOneLine files path) frequency then
    some files
  else
    (writeValue files path (some frequency)).map Prod.fst

/-- `enforceClusterCeiling`. -/
def enforceClusterCeiling (files : Files) (cores : List Core) (frequency : String)
    : Option Files :=
  cores.foldlM (fun files core => enforceFrequencyCeiling files (.scalingMaxFreq core) frequency)
    files

/-- The result of an `int` operation, wrapped to 32 bits. -/
def int32 (value : Int) : Int := value.bmod 0x100000000

/-- The preferences that the limiter reads; `none` is a preference that was never stored. -/
structure Prefs where
  apps : List String
  tempWarm : Option Int
  tempHigh : Option Int
  tempCritical : Option Int
deriving DecidableEq, Repr

/-- The result of `getThresholds`, in tenths of a degree. -/
structure Thresholds where
  warm : Int
  high : Int
  critical : Int
deriving DecidableEq, Repr

/-- `TEMP_MIN`. -/
def tempMin : Int := 35

/-- `TEMP_MAX`. -/
def tempMax : Int := 60

/-- `getThresholds`; `none` is the null `mPrefs`. -/
def getThresholds (prefs : Option Prefs) : Thresholds :=
  let warm := ((prefs.bind Prefs.tempWarm).getD 40)
  let high := ((prefs.bind Prefs.tempHigh).getD 43)
  let critical := ((prefs.bind Prefs.tempCritical).getD 45)
  let warm := max tempMin (min tempMax warm)
  let high := max (int32 (warm + 1)) (min tempMax high)
  let critical := max (int32 (high + 1)) (min (int32 (tempMax + 2)) critical)
  {
    warm := int32 (warm * 10)
    high := int32 (high * 10)
    critical := int32 (critical * 10)
  }

/-- `getBatteryTemperature`, in tenths of a degree; 0 for what it rejects. -/
def getBatteryTemperature (files : Files) : Int :=
  match (readOneLine files .batteryTemp).bind parseInt with
  | none => 0
  | some reading =>
      let temperature := if 1000 < reading then reading.tdiv 10 else reading
      if temperature < 0 ∨ 800 < temperature then 0 else temperature

/-- `getPollingInterval`, in milliseconds. -/
def getPollingInterval (thresholds : Thresholds) (temperature : Int) : Nat :=
  if thresholds.critical ≤ temperature then 1000
  else if thresholds.high ≤ temperature then 1500
  else if thresholds.warm ≤ temperature then 2000
  else 3000

/-- The `newState` of `adjustFrequencies`. -/
def ThermalState.ofTemperature (thresholds : Thresholds) (temperature : Int) : ThermalState :=
  if thresholds.critical ≤ temperature then .critical
  else if thresholds.high ≤ temperature then .high
  else if thresholds.warm ≤ temperature then .warm
  else .normal

example : getThresholds none = { warm := 400, high := 430, critical := 450 } := by decide

end PongDevice.Thermal
