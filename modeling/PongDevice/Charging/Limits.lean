import Mathlib.Data.List.Basic

/-! The tables of the charge limiter and how it selects a limit from them. -/

namespace PongDevice.Charging

/-- `CHG_VOLT_TBL`, currents in mA. -/
def chgVoltTbl : List Int :=
  [9000, 8500, 8000, 7500, 7000, 6500, 6000, 5500, 5000, 4500, 4000, 3500, 3000, 2500, 2400,
    2000, 1600, 1500, 1200, 1000, 500, 0]

/-- The chargers that the limiter tells apart. -/
inductive Charger where
  | pps
  | qc
  | wls
  | none
deriving DecidableEq, Repr

namespace Charger

/-- The charger that the listener's flags stand for. -/
def ofFlags (usbChgActive usingPps wlsChgActive : Bool) : Charger :=
  if usbChgActive then
    if usingPps then .pps else .qc
  else if wlsChgActive then .wls
  else .none

/-- `get_charge_tempThresholds`, in thousandths of a degree. -/
def tempThresholds : Charger → List Int
  | .pps => [35000, 37000, 39000, 41000, 43000, 48000]
  | .qc => [35000, 37000, 39000, 41000, 48000]
  | .wls => [35000, 41000, 48000]
  | .none => []

/-- `get_charge_voltLimits`, indices of `chgVoltTbl`. -/
def voltLimits : Charger → List Nat
  | .pps => [4, 6, 10, 12, 15, 21]
  | .qc => [8, 12, 15, 16, 21]
  | .wls => [15, 19, 21]
  | .none => []

end Charger

/-- What the thermal zones read; `get_tzn` may not find the shell zones. -/
structure Zones where
  shellFront : Option Int
  battery : Int
  shellBack : Option Int
  wlsTherm : Int
deriving DecidableEq, Repr

/-- A shell zone's temperature if there is one and it is positive, else the fallback's. -/
def shellTemp (shell : Option Int) (fallback : Int) : Int :=
  match shell with
  | some temp => if 0 < temp then temp else fallback
  | none => fallback

/-- `get_charge_temp`. -/
def Zones.chargeTemp (zones : Zones) (usbChgActive wlsChgActive : Bool) : Int :=
  if usbChgActive then shellTemp zones.shellFront zones.battery
  else if wlsChgActive then shellTemp zones.shellBack zones.wlsTherm
  else 0

/-- The loop of `limitCharge` over the thresholds and the limits that are left; `none` is a
read past the end of the limits.
-/
def voltLimitIndex (currentTemp : Int) : List Int → List Nat → Nat → Option Nat
  | [], _, index => some index
  | threshold :: thresholds, limits, index =>
      if threshold ≤ currentTemp then
        match limits with
        | limit :: limits => voltLimitIndex currentTemp thresholds limits limit
        | [] => none
      else
        some index

/-- Without limits left the index stays. -/
theorem voltLimitIndex_nil {currentTemp : Int} {thresholds : List Int} {index result : Nat}
    (selected : voltLimitIndex currentTemp thresholds [] index = some result)
    : result = index := by
  cases thresholds with
  | nil => exact (Option.some.inj selected).symm
  | cons threshold rest =>
      simp only [voltLimitIndex] at selected
      split at selected
      · cases selected
      · exact (Option.some.inj selected).symm

/-- Sorted thresholds select the last limit exactly when the temperature reaches the
threshold at its place, by induction over the thresholds.
-/
theorem voltLimitIndex_eq_last {currentTemp : Int} {thresholds : List Int}
    {earlier : List Nat} {last index result : Nat} (sorted : thresholds.Pairwise (· ≤ ·))
    (fresh : last ∉ earlier) (different : index ≠ last)
    (selected : voltLimitIndex currentTemp thresholds (earlier ++ [last]) index = some result)
    : result = last
      ↔ ∃ threshold ∈ thresholds[earlier.length]?, threshold ≤ currentTemp := by
  induction thresholds generalizing earlier index with
  | nil =>
      obtain rfl := Option.some.inj selected
      simp [different]
  | cons threshold rest ih =>
      rw [List.pairwise_cons] at sorted
      simp only [voltLimitIndex] at selected
      split at selected
      · rename_i reached
        cases earlier with
        | nil =>
            obtain rfl := voltLimitIndex_nil selected
            simp [reached]
        | cons limit earlier =>
            rw [List.mem_cons, not_or] at fresh
            simpa using ih sorted.2 fresh.2 (Ne.symm fresh.1) selected
      · rename_i below
        obtain rfl := Option.some.inj selected
        refine iff_of_false different ?_
        intro some
        obtain ⟨later, found, reached⟩ := some
        rcases List.mem_cons.mp (List.mem_of_getElem? found) with rfl | member
        · exact below reached
        · exact below (Int.le_trans (sorted.1 later member) reached)

/-- What an iteration selects its limit from. The thresholds and the limits are read one
after the other, and the flags may change in between.
-/
structure Selection where
  currentTemp : Int
  thresholds : Charger
  limits : Charger
deriving DecidableEq, Repr

/-- Every table of thresholds is sorted. -/
theorem Charger.pairwise_tempThresholds (charger : Charger)
    : charger.tempThresholds.Pairwise (· ≤ ·) := by
  cases charger <;> decide

/-- Every table of limits ends in the index of 0 mA and has it nowhere else. -/
theorem Charger.voltLimits_eq {charger : Charger} (some : charger ≠ .none)
    : ∃ earlier, charger.voltLimits = earlier ++ [21] ∧ 21 ∉ earlier := by
  cases charger with
  | pps => exact ⟨[4, 6, 10, 12, 15], rfl, by decide⟩
  | qc => exact ⟨[8, 12, 15, 16], rfl, by decide⟩
  | wls => exact ⟨[15, 19], rfl, by decide⟩
  | none => exact absurd rfl some

/-- Only the last entry of `chgVoltTbl` is 0 mA. -/
theorem chgVoltTbl_eq_zero_iff {index : Nat} {limit : Int}
    (found : chgVoltTbl[index]? = some limit)
    : limit = 0 ↔ index = 21 := by
  obtain ⟨inside, rfl⟩ := List.getElem?_eq_some_iff.mp found
  revert index
  decide

namespace Selection

/-- `current_volt_limit`, unless a table is read out of bounds. -/
def voltLimit (selection : Selection) : Option Int :=
  (voltLimitIndex selection.currentTemp selection.thresholds.tempThresholds
    selection.limits.voltLimits 0).bind (fun index => chgVoltTbl[index]?)

/-- The temperature reaches the threshold that goes with the last entry of the limits. -/
def ReachesLastLimit (selection : Selection) : Prop :=
  selection.limits ≠ .none
  ∧ ∃ threshold ∈
      selection.thresholds.tempThresholds[selection.limits.voltLimits.length - 1]?,
    threshold ≤ selection.currentTemp

instance : DecidablePred ReachesLastLimit :=
  fun _ => inferInstanceAs (Decidable (_ ∧ ∃ _ ∈ _, _ ≤ _))

/-- A selected limit blocks charging exactly when it is the last one. -/
theorem voltLimit_eq_zero_iff {selection : Selection} {limit : Int}
    (selected : selection.voltLimit = some limit)
    : limit = 0 ↔ selection.ReachesLastLimit := by
  obtain ⟨index, looked, found⟩ := Option.bind_eq_some_iff.mp selected
  rw [chgVoltTbl_eq_zero_iff found]
  by_cases charger : selection.limits = .none
  · simp only [charger, Charger.voltLimits] at looked
    obtain rfl := voltLimitIndex_nil looked
    simp [ReachesLastLimit, charger]
  · obtain ⟨earlier, limits, fresh⟩ := Charger.voltLimits_eq charger
    rw [limits] at looked
    have last := voltLimitIndex_eq_last selection.thresholds.pairwise_tempThresholds fresh
      (by decide) looked
    simpa [ReachesLastLimit, charger, limits] using last

/-- With thresholds and limits of one charger, charging is blocked from 48000 on. -/
theorem reachesLastLimit_iff {selection : Selection}
    (same : selection.limits = selection.thresholds)
    : selection.ReachesLastLimit
      ↔ selection.thresholds ≠ .none ∧ 48000 ≤ selection.currentTemp := by
  cases charger : selection.thresholds <;>
    simp [ReachesLastLimit, same, charger, Charger.tempThresholds, Charger.voltLimits]

end Selection

end PongDevice.Charging
