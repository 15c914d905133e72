import PongDevice.Thermal.Classification
import PongDevice.Thermal.NullSafety

/-! Ticks that get no temperature. `getBatteryTemperature` answers 0 for what it cannot read and
for what it rejects, and 0 is a temperature that releases the throttle.
-/

namespace PongDevice.Thermal

open PongDevice.Transition

/-- Whether `getBatteryTemperature` cannot read the file, cannot parse its line, or finds the
temperature out of range.
-/
def SysFile.rejected (file : SysFile) : Bool :=
  !file.reads
    || match file.line.bind parseInt with
      | none => true
      | some reading =>
          let temperature := if 1000 < reading then reading.tdiv 10 else reading
          temperature < 0 || 800 < temperature

/-- A file that is read and in range has its own temperature, any other one has 0. -/
theorem getBatteryTemperature_of_rejected {files : Files}
    (rejected : (files .batteryTemp).rejected = true)
    : getBatteryTemperature files = 0 := by
  simp only [SysFile.rejected, Bool.or_eq_true, Bool.not_eq_true'] at rejected
  rw [getBatteryTemperature, readOneLine]
  rcases rejected with unreadable | invalid
  · have zero : parseInt "0" = some 0 := by decide +kernel
    simp [unreadable, zero]
  · split
    · rfl
    · rename_i reading parsed
      by_cases readable : (files .batteryTemp).reads = true
      · rw [if_pos readable] at parsed
        simp only [parsed, Bool.or_eq_true, decide_eq_true_eq] at invalid
        exact if_pos invalid
      · have zero : parseInt "0" = some 0 := by decide +kernel
        rw [if_neg readable, Option.bind_some, zero] at parsed
        obtain rfl := Option.some.inj parsed
        rfl

/-- The temperature 0 is below every threshold. -/
theorem ofTemperature_zero {thresholds : Thresholds} (ordered : thresholds.Ordered)
    : ThermalState.ofTemperature thresholds 0 = .normal := by
  have lower := ordered.lower
  have warm := ordered.warm
  have high := ordered.high
  rw [ThermalState.ofTemperature, if_neg (by omega), if_neg (by omega), if_neg (by omega)]

namespace App

variable {app : App} {tasks : Tasks}

/-- Whether a tick evaluates the temperature: the device is interactive with a selected package
in front.
-/
def evaluates (app : App) (tasks : Tasks) : Prop :=
  app.isInteractive = true
    ∧ ∃ foreground, app.getForegroundPackage tasks = some foreground
        ∧ foreground ∈ app.getSelectedApps

/-- The tick completes and leaves the thermal state and every file as they were. -/
def keepsThrottle (app : App) (tasks : Tasks) : Prop :=
  ∃ delay next,
    app.tick tasks = some (delay, next)
      ∧ next.mCurrentThermalState = app.mCurrentThermalState
      ∧ next.files = app.files

/-- A tick that evaluates a rejected content adjusts for the temperature 0. -/
theorem tick_of_rejected (evaluates : app.evaluates tasks)
    (rejected : (app.files .batteryTemp).rejected = true)
    : ∃ foreground,
        app.tick tasks
          = ({ app with mThrottledPackage := some foreground }.adjustFrequencies 0).map
              (getPollingInterval app.thresholds 0, ·) := by
  obtain ⟨interactive, foreground, inFront, selected⟩ := evaluates
  refine ⟨foreground, ?_⟩
  rw [tick, if_neg (by simp [interactive]), inFront]
  simp only [if_pos selected, getBatteryTemperature_of_rejected rejected]

/-- A limiter in its normal state is not changed by the temperature 0. -/
theorem adjustFrequencies_zero (normal : app.mCurrentThermalState = .normal)
    : app.adjustFrequencies 0 = some app := by
  have chosen : ThermalState.ofTemperature app.thresholds 0 = .normal :=
    ofTemperature_zero (getThresholds_ordered _)
  simp [adjustFrequencies, chosen, normal]

/-- A rejected content changes nothing exactly in the normal state: the temperature 0 takes the
limiter there from any other state.
-/
theorem keepsThrottle_iff (evaluates : app.evaluates tasks)
    (rejected : (app.files .batteryTemp).rejected = true)
    : app.keepsThrottle tasks ↔ app.mCurrentThermalState = .normal := by
  obtain ⟨foreground, ticks⟩ := tick_of_rejected evaluates rejected
  constructor
  · intro keeps
    obtain ⟨delay, next, ticked, kept, -⟩ := keeps
    rw [ticks] at ticked
    obtain ⟨after, adjusted, same⟩ := Option.map_eq_some_iff.mp ticked
    obtain rfl := (Prod.mk.inj same).2
    rw [← kept, adjustFrequencies_state adjusted]
    exact ofTemperature_zero (getThresholds_ordered _)
  · intro normal
    have unchanged :=
      @adjustFrequencies_zero { app with mThrottledPackage := some foreground } normal
    rw [unchanged] at ticks
    exact ⟨_, _, ticks, rfl, rfl⟩

end App

/-- In every state of every run, a tick that evaluates a content that the limiter cannot read or
rejects leaves the thermal state and the nodes as they were exactly while nothing is throttled.
-/
theorem keepsThrottle_always_iff (files : Files) (prefs : Prefs) (events : List Event)
    : appMachine.Always
        (fun app =>
          ∀ tasks,
            app.evaluates tasks
            → (app.files .batteryTemp).rejected = true
            → (app.keepsThrottle tasks ↔ app.mCurrentThermalState = .normal))
        (App.booted files prefs) events := by
  refine Machine.Always.of_invariant (fun _ => True) ?_ (fun _ _ _ _ _ _ => trivial) trivial
    (Machine.along_true _ events)
  exact fun app _ tasks evaluates rejected => App.keepsThrottle_iff evaluates rejected

/-- The limiter throttles for 46 degrees, and the battery then reports 90: the next tick releases
the throttle.
-/
theorem keepsThrottle_fails_hot
    : ¬appMachine.Always
        (fun app =>
          ∀ tasks,
            app.evaluates tasks
            → (app.files .batteryTemp).rejected = true
            → app.keepsThrottle tasks)
        (App.booted hotDevice gamePrefs)
        [.startMonitoring (some true), .dispatch 0 gameInFront,
          .changeFile .batteryTemp (workingFile "900")] := by
  intro always
  have selected : "game" ∈ gamePrefs.apps := by decide
  have keeps := always.of_run rfl gameInFront ⟨rfl, "game", rfl, selected⟩ (by decide +kernel)
  obtain ⟨delay, next, ticked, kept, -⟩ := keeps
  have released := congrArg (Option.map (fun result => result.2.mCurrentThermalState)) ticked
  have normal : next.mCurrentThermalState = .normal :=
    Option.some.inj (released.symm.trans (by decide +kernel))
  rw [normal] at kept
  exact absurd kept (by decide +kernel)

end PongDevice.Thermal
