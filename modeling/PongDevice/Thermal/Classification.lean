import Mathlib.Data.Int.Order.Basic
import Mathlib.Tactic.SplitIfs
import PongDevice.Thermal.LimiterSteps

/-! How the limiter classifies a temperature. Whatever thresholds are stored, those that it
compares with are in order, so that a hotter battery is never given a milder state.
-/

namespace PongDevice.Thermal

/-- The numbers of `STATE_NORMAL` to `STATE_CRITICAL`. -/
def ThermalState.level : ThermalState → Nat
  | .normal => 0
  | .warm => 1
  | .high => 2
  | .critical => 3

/-- The polling interval of a state, in milliseconds. -/
def ThermalState.interval : ThermalState → Nat
  | .normal => 3000
  | .warm => 2000
  | .high => 1500
  | .critical => 1000

/-- The number that a cluster's frequency in a state is. -/
def Cluster.limit : Cluster → ThermalState → Int
  | .little, .normal => 1804800
  | .little, .warm => 1555200
  | .little, .high => 1324800
  | .little, .critical => 1132800
  | .mid, .normal => 2496000
  | .mid, .warm => 2092800
  | .mid, .high => 1881600
  | .mid, .critical => 1555200
  | .prime, .normal => 2995200
  | .prime, .warm => 2649600
  | .prime, .high => 2361600
  | .prime, .critical => 1996800

/-- The number that the GPU's frequency in a state is. -/
def gpuLimit : ThermalState → Int
  | .normal => 900000000
  | .warm => 710000000
  | .high => 515000000
  | .critical => 364000000

/-- A cluster's frequency is read as its number. -/
@[simp]
theorem parseLong_frequency (cluster : Cluster) (state : ThermalState)
    : parseLong (cluster.frequency state) = some (cluster.limit state) := by
  cases cluster <;> cases state <;> decide +kernel

/-- So is the GPU's. -/
@[simp]
theorem parseLong_gpuFrequency (state : ThermalState)
    : parseLong (gpuFrequency state) = some (gpuLimit state) := by
  cases state <;> decide +kernel

/-- A throttled cluster gets less in a higher state. -/
theorem Cluster.limit_antitone (cluster : Cluster) {milder harder : ThermalState}
    (throttled : milder ≠ .normal) (le : milder.level ≤ harder.level)
    : cluster.limit harder ≤ cluster.limit milder := by
  cases milder <;> cases harder <;> simp_all [ThermalState.level] <;>
    cases cluster <;> decide

/-- The GPU gets less in a higher state, also than in the normal one. -/
theorem gpuLimit_antitone {milder harder : ThermalState} (le : milder.level ≤ harder.level)
    : gpuLimit harder ≤ gpuLimit milder := by
  cases milder <;> cases harder <;> simp_all [ThermalState.level, gpuLimit]

/-- A higher state is polled more often. -/
theorem ThermalState.interval_antitone {milder harder : ThermalState}
    (le : milder.level ≤ harder.level)
    : harder.interval ≤ milder.interval := by
  cases milder <;> cases harder <;> simp_all [ThermalState.level, ThermalState.interval]

-----------------------------------------------------------------------------------------
-- The thresholds
-----------------------------------------------------------------------------------------

/-- `getThresholds` on numbers that do not wrap. -/
def exactThresholds (prefs : Option Prefs) : Thresholds :=
  let warm := max tempMin (min tempMax ((prefs.bind Prefs.tempWarm).getD 40))
  let high := max (warm + 1) (min tempMax ((prefs.bind Prefs.tempHigh).getD 43))
  let critical := max (high + 1) (min (tempMax + 2) ((prefs.bind Prefs.tempCritical).getD 45))
  { warm := warm * 10, high := high * 10, critical := critical * 10 }

/-- The thresholds rise strictly between `TEMP_MIN` and two degrees above `TEMP_MAX`. -/
structure Thresholds.Ordered (thresholds : Thresholds) : Prop where
  lower : 350 ≤ thresholds.warm
  warm : thresholds.warm < thresholds.high
  high : thresholds.high < thresholds.critical
  upper : thresholds.critical ≤ 620

/-- A number of 32 bits does not wrap. -/
theorem int32_eq {value : Int} (low : -0x80000000 ≤ value) (high : value < 0x80000000)
    : int32 value = value := by
  rw [int32, Int.bmod_eq_of_le] <;> omega

/-- Each clamp keeps its number small, and above the one before. -/
theorem exactThresholds_ordered (prefs : Option Prefs) : (exactThresholds prefs).Ordered := by
  constructor <;> simp only [exactThresholds, tempMin, tempMax] <;> omega

/-- No sum and no product of `getThresholds` overflows. -/
theorem getThresholds_eq_exact (prefs : Option Prefs)
    : getThresholds prefs = exactThresholds prefs := by
  obtain ⟨warm, warmIs⟩ : ∃ warm, warm = (prefs.bind Prefs.tempWarm).getD 40 := ⟨_, rfl⟩
  obtain ⟨high, highIs⟩ : ∃ high, high = (prefs.bind Prefs.tempHigh).getD 43 := ⟨_, rfl⟩
  obtain ⟨critical, criticalIs⟩ : ∃ critical, critical = (prefs.bind Prefs.tempCritical).getD 45 :=
    ⟨_, rfl⟩
  simp only [getThresholds, exactThresholds, tempMin, tempMax, ← warmIs, ← highIs, ← criticalIs]
  have first : int32 (max 35 (min 60 warm) + 1) = max 35 (min 60 warm) + 1 :=
    int32_eq (by omega) (by omega)
  have second : int32 (max (max 35 (min 60 warm) + 1) (min 60 high) + 1)
      = max (max 35 (min 60 warm) + 1) (min 60 high) + 1 :=
    int32_eq (by omega) (by omega)
  have top : int32 (60 + 2) = 60 + 2 := int32_eq (by omega) (by omega)
  rw [first, second, top]
  rw [int32_eq (by omega) (by omega), int32_eq (by omega) (by omega),
    int32_eq (by omega) (by omega)]

/-- The thresholds are in order, whatever is stored. -/
theorem getThresholds_ordered (prefs : Option Prefs) : (getThresholds prefs).Ordered := by
  rw [getThresholds_eq_exact]
  exact exactThresholds_ordered prefs

/-- The polling interval is that of the state that is chosen. -/
theorem getPollingInterval_eq (thresholds : Thresholds) (temperature : Int)
    : getPollingInterval thresholds temperature
      = (ThermalState.ofTemperature thresholds temperature).interval := by
  simp only [getPollingInterval, ThermalState.ofTemperature]
  split
  · rfl
  · split
    · rfl
    · split <;> rfl

/-- A hotter battery gets no lower state, as the tests go from the highest threshold down. -/
theorem ThermalState.ofTemperature_mono {thresholds : Thresholds} (ordered : thresholds.Ordered)
    {cooler hotter : Int} (le : cooler ≤ hotter)
    : (ofTemperature thresholds cooler).level ≤ (ofTemperature thresholds hotter).level := by
  have warm := ordered.warm
  have high := ordered.high
  simp only [ofTemperature]
  split_ifs <;> simp only [level] <;> omega

-----------------------------------------------------------------------------------------
-- What the limiter chooses
-----------------------------------------------------------------------------------------

/-- Both texts are numbers, and the first is at most the second. -/
def AtMost (first second : Option String) : Prop :=
  ∃ low high, first.bind parseLong = some low ∧ second.bind parseLong = some high ∧ low ≤ high

/-- What the limiter chooses at the hotter of two temperatures compared with the cooler one. -/
structure ClassifiesInOrder (app : App) (cooler hotter : Int) : Prop where
  ordered : app.thresholds.Ordered
  exact : app.thresholds = exactThresholds (if app.mPrefs then some app.prefs else none)
  state
    : (ThermalState.ofTemperature app.thresholds cooler).level
      ≤ (ThermalState.ofTemperature app.thresholds hotter).level
  interval
    : getPollingInterval app.thresholds hotter ≤ getPollingInterval app.thresholds cooler
  /-- The two if-chains classify alike. -/
  adjusts
    : ∀ temperature next,
        app.adjustFrequencies temperature = some next
        → next.mCurrentThermalState = ThermalState.ofTemperature app.thresholds temperature
  polls
    : ∀ temperature,
        getPollingInterval app.thresholds temperature
        = (ThermalState.ofTemperature app.thresholds temperature).interval
  cluster
    : ∀ cluster ceiling value,
        app.ceiling cluster = some ceiling
        → parseLong ceiling = some value
        → cluster.limit .warm ≤ value
        → AtMost
            (app.frequency (ThermalState.ofTemperature app.thresholds hotter) cluster)
            (app.frequency (ThermalState.ofTemperature app.thresholds cooler) cluster)
  gpu
    : AtMost (some (gpuFrequency (ThermalState.ofTemperature app.thresholds hotter)))
        (some (gpuFrequency (ThermalState.ofTemperature app.thresholds cooler)))

namespace App

variable {app next : App}

/-- A cluster whose ceiling is at least its `WARM` frequency gets less in a higher state. -/
theorem frequency_atMost {cluster : Cluster} {ceiling : String} {value : Int}
    (cached : app.ceiling cluster = some ceiling) (number : parseLong ceiling = some value)
    (least : cluster.limit .warm ≤ value) {milder harder : ThermalState}
    (le : milder.level ≤ harder.level)
    : AtMost (app.frequency harder cluster) (app.frequency milder cluster) := by
  by_cases normal : harder = .normal
  · obtain rfl : milder = .normal := by
      rw [normal] at le
      cases milder <;> simp_all [ThermalState.level]
    exact ⟨value, value, by simp [frequency, normal, cached, number],
      by simp [frequency, cached, number], le_refl value⟩
  · have chosen : (app.frequency harder cluster).bind parseLong
        = some (cluster.limit harder) := by
      simp [frequency, normal]
    by_cases unthrottled : milder = .normal
    · refine ⟨cluster.limit harder, value, chosen, ?_, ?_⟩
      · simp [frequency, unthrottled, cached, number]
      · have warmer : ThermalState.warm.level ≤ harder.level := by
          cases harder <;> simp_all [ThermalState.level]
        exact le_trans (cluster.limit_antitone (by simp) warmer) least
    · refine ⟨cluster.limit harder, cluster.limit milder, chosen, ?_, ?_⟩
      · simp [frequency, unthrottled]
      · exact cluster.limit_antitone unthrottled le

/-- An adjustment leaves the limiter in the state of its temperature. -/
theorem adjustFrequencies_state {temperature : Int}
    (adjusted : app.adjustFrequencies temperature = some next)
    : next.mCurrentThermalState = ThermalState.ofTemperature app.thresholds temperature := by
  simp only [adjustFrequencies, Option.bind_eq_bind, Option.pure_def] at adjusted
  split at adjusted
  · simp only [Option.bind_eq_some_iff] at adjusted
    obtain ⟨-, -, -, -, -, -, files, -, shown⟩ := adjusted
    split at shown
    · obtain ⟨toasts, rfl, -⟩ := showToast_eq shown
      rfl
    · exact congrArg (fun app => app.mCurrentThermalState) (Option.some.inj shown).symm
  · rename_i same
    rw [not_not] at same
    split at adjusted
    · simp only [Option.bind_eq_some_iff] at adjusted
      obtain ⟨-, -, -, -, -, -, files, -, unchanged⟩ := adjusted
      obtain rfl := Option.some.inj unchanged
      exact same.symm
    · obtain rfl := Option.some.inj adjusted
      exact same.symm

end App

/-- A limiter whose stored thresholds are extreme and in the wrong order. -/
def extremeThresholds : App :=
  {
    App.booted
        (fun _ =>
          { canRead := true, canWrite := true, reads := true, opensForWriting := true,
            takes := true, line := some "3000000" })
        {
          apps := []
          tempWarm := some 0x7FFFFFFF
          tempHigh := some (-0x80000000)
          tempCritical := some 0
        }
    with
    mPrefs := true
    mLittleCeiling := some "1804800"
  }

end PongDevice.Thermal
