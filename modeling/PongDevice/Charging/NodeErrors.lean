import PongDevice.Charging.Sysfs

/-! Which nodes the listener survives. A line that holds no number is an exception, and nothing
catches it.
-/

namespace PongDevice.Charging

open PongDevice.Text

/-- The first line of the node starts with an `int`. -/
def HoldsInt (node : Node) : Prop := (stoi (readLine node)).isSome = true

instance : DecidablePred HoldsInt := fun _ => inferInstanceAs (Decidable (_ = _))

namespace Sysfs

/-- A shell zone that is found holds a number, and so does the fallback zone if the shell zone
is not found or its number is not positive.
-/
def TempReadable (sysfs : Sysfs) (shell fallback : String) : Prop :=
  let tzn := getTzn sysfs.thermal shell
  (0 ≤ tzn → HoldsInt (sysfs.temp tzn))
  ∧ ((tzn < 0 ∨ ∃ temp ∈ sysfs.tempOf tzn, temp ≤ 0)
    → HoldsInt (sysfs.temp (getTzn sysfs.thermal fallback)))

/-- The zones of the charger that the flags stand for can be read. -/
def ChargeTempReadable (sysfs : Sysfs) (listener : Listener) : Prop :=
  match connected listener with
  | .pps | .qc => sysfs.TempReadable "shell_front" "battery"
  | .wls => sysfs.TempReadable "shell_back" "wls-therm"
  | .none => True

/-- The functions end without an exception: an iteration of the limiter, and a callback. -/
def Completes (sysfs : Sysfs) (listener : Listener) (batteryStatus : BatteryStatus)
    (written : Bool)
    : Prop :=
  (sysfs.limitCharge listener written).isSome = true
  ∧ (sysfs.healthInfoChanged listener batteryStatus).isSome = true

instance (sysfs : Sysfs) (listener : Listener) (batteryStatus : BatteryStatus)
    (written : Bool)
    : Decidable (sysfs.Completes listener batteryStatus written) :=
  inferInstanceAs (Decidable (_ ∧ _))

/-- A zone's node holds a number exactly if its temperature can be read. -/
theorem holdsInt_temp_iff (sysfs : Sysfs) (tzn : Int)
    : HoldsInt (sysfs.temp tzn) ↔ (sysfs.tempOf tzn).isSome = true :=
  Iff.rfl

/-- A temperature is read exactly if the zones that are looked at hold numbers. -/
theorem zoneTemp_isSome_iff (sysfs : Sysfs) (shell fallback : String)
    : (sysfs.zoneTemp shell fallback).isSome = true ↔ sysfs.TempReadable shell fallback := by
  simp only [zoneTemp, TempReadable, holdsInt_temp_iff]
  by_cases found : 0 ≤ getTzn sysfs.thermal shell
  · have notMissing : ¬getTzn sysfs.thermal shell < 0 := by omega
    cases sysfs.tempOf (getTzn sysfs.thermal shell) with
    | none => simp [found]
    | some temp =>
        by_cases positive : 0 < temp
        · simp [found, notMissing, positive]
        · simp [found, notMissing, positive, Int.not_lt.mp positive]
  · simp [found, Int.not_le.mp found]

/-- The temperature is read exactly if the zones of the charger can be read. -/
theorem getChargeTemp_isSome_iff (sysfs : Sysfs) (listener : Listener)
    : (sysfs.getChargeTemp listener.usbChgActive listener.wlsChgActive).isSome = true
      ↔ sysfs.ChargeTempReadable listener := by
  simp only [getChargeTemp, ChargeTempReadable, connected, Charger.ofFlags]
  split_ifs <;> simp [zoneTemp_isSome_iff]

/-- An iteration ends exactly if the last limit and the temperature can be read; a limit is
always selected.
-/
theorem limitCharge_isSome_iff (sysfs : Sysfs) (listener : Listener) (written : Bool)
    : (sysfs.limitCharge listener written).isSome = true
      ↔ HoldsInt sysfs.scenarioFcc ∧ sysfs.ChargeTempReadable listener := by
  rw [← getChargeTemp_isSome_iff, HoldsInt, limitCharge]
  cases stoi (readLine sysfs.scenarioFcc) with
  | none => simp
  | some lastVoltLimit =>
      cases sysfs.getChargeTemp listener.usbChgActive listener.wlsChgActive with
      | none => simp
      | some currentTemp =>
          obtain ⟨limit, selected⟩ := (connected listener).exists_limitAt currentTemp
          simp [selected]

/-- A callback ends exactly if it changes no status or both chargers' nodes can be read; the
type of the charger may be anything.
-/
theorem healthInfoChanged_isSome_iff (sysfs : Sysfs) (listener : Listener)
    (batteryStatus : BatteryStatus)
    : (sysfs.healthInfoChanged listener batteryStatus).isSome = true
      ↔ listener.mStatus = some batteryStatus
        ∨ HoldsInt sysfs.usbOnline ∧ HoldsInt sysfs.wlsOnline := by
  rw [healthInfoChanged, HoldsInt, HoldsInt]
  by_cases same : listener.mStatus = some batteryStatus
  · simp [same]
  · cases stoi (readLine sysfs.usbOnline) with
    | none => simp [same]
    | some usbOnline =>
        cases stoi (readLine sysfs.wlsOnline) with
        | none => simp [same]
        | some wlsOnline => simp [same]

/-- An iteration and a callback complete exactly when the last limit holds a number, the zones
of the charger can be read, and both chargers' nodes hold numbers if the status changes.
-/
theorem completes_iff (sysfs : Sysfs) (listener : Listener) (batteryStatus : BatteryStatus)
    (written : Bool)
    : sysfs.Completes listener batteryStatus written
      ↔ HoldsInt sysfs.scenarioFcc
        ∧ sysfs.ChargeTempReadable listener
        ∧ (listener.mStatus = some batteryStatus
          ∨ HoldsInt sysfs.usbOnline ∧ HoldsInt sysfs.wlsOnline) := by
  rw [Completes, limitCharge_isSome_iff, healthInfoChanged_isSome_iff, and_assoc]

/-- With no thermal zone for the battery the limiter builds a path for the zone -1, where there
is no file, and its exception ends the service.
-/
theorem completes_fails_noBatteryZone
    : ¬Sysfs.Completes
        {
          thermal := some [{ dName := "thermal_zone0", type := some "cpu-0-0\n" }]
          temp := fun tzn => if tzn = 0 then some "41000\n" else none
          usbOnline := some "1\n"
          usbType := some "Unknown [PD] PD_PPS\n"
          wlsOnline := some "0\n"
          scenarioFcc := some "9000\n"
        }
        {
          mStatus := some .charging
          usbChgActive := true
          enableChgLimit := true
          scenarioFcc := 9000
        }
        .charging true := by
  decide +kernel

end Sysfs

end PongDevice.Charging
