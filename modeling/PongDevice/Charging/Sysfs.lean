import PongDevice.Charging.LimitSelection
import PongDevice.Charging.Listener
import PongDevice.Text.CString

/-! The nodes that the charge limiter reads and writes, and its functions over them: a node
may be missing or hold any text, and a text that is no number is an exception.
-/

namespace PongDevice.Charging

open PongDevice.Text
open Transition

/-- What a file holds; `none` cannot be opened. -/
abbrev Node := Option String

/-- `read_line`; a file that cannot be opened reads as the empty line. -/
def readLine (file : Node) : String :=
  String.ofList ((file.getD "").toList.takeWhile (· ≠ '\n'))

/-- An entry of the thermal directory, and what is found under the path for its type. -/
structure ThermalEntry where
  dName : String
  type : Node
deriving DecidableEq, Repr

/-- `TZ_DIR_NAME`. -/
def tzDirName : String := "thermal_zone"

namespace ThermalEntry

/-- The entry is a match for the sensor: it starts as a thermal zone does, and its type can
be read and starts as the sensor's name does.
-/
def accepts (entry : ThermalEntry) (sensorName : String) : Bool :=
  let buf := readLine entry.type
  strncmpEq entry.dName.toList tzDirName.toList tzDirName.toList.length
    && buf ≠ ""
    && strncmpEq buf.toList sensorName.toList sensorName.toList.length

/-- `sscanf` with `TZ_DIR_FMT` into an `int` that is 0 before. -/
def tzn (entry : ThermalEntry) : Int :=
  match scanInt (entry.dName.toList.drop tzDirName.toList.length) with
  | some value => (max (-0x8000000000000000) (min value 0x7FFFFFFFFFFFFFFF)).bmod 0x100000000
  | none => 0

end ThermalEntry

/-- `get_tzn` over the entries as `readdir` returns them; `none` is a directory that cannot be
opened.
-/
def getTzn (thermal : Option (List ThermalEntry)) (sensorName : String) : Int :=
  match thermal with
  | none => -1
  | some entries =>
      match entries.find? (·.accepts sensorName) with
      | some entry => entry.tzn
      | none => -1

/-- The nodes: those of the thermal directory, with the temperature by the number in its path,
and those of the power supplies and the battery.
-/
structure Sysfs where
  thermal : Option (List ThermalEntry)
  temp : Int → Node
  usbOnline : Node
  usbType : Node
  wlsOnline : Node
  scenarioFcc : Node

namespace Sysfs

-----------------------------------------------------------------------------------------
-- The functions of the listener, without interruption
-----------------------------------------------------------------------------------------

/-- The temperature of a zone; `none` is an exception, here and below. -/
def tempOf (sysfs : Sysfs) (tzn : Int) : Option Int := stoi (readLine (sysfs.temp tzn))

/-- The branch of `get_charge_temp` for one charger. The number of the fallback zone is used
without a look at whether it was found.
-/
def zoneTemp (sysfs : Sysfs) (shell fallback : String) : Option Int :=
  let fallbackTemp := sysfs.tempOf (getTzn sysfs.thermal fallback)
  let tzn := getTzn sysfs.thermal shell
  if 0 ≤ tzn then
    (sysfs.tempOf tzn).bind (fun temp => if 0 < temp then some temp else fallbackTemp)
  else
    fallbackTemp

/-- `get_charge_temp`. -/
def getChargeTemp (sysfs : Sysfs) (usbChgActive wlsChgActive : Bool) : Option Int :=
  if usbChgActive then sysfs.zoneTemp "shell_front" "battery"
  else if wlsChgActive then sysfs.zoneTemp "shell_back" "wls-therm"
  else some 0

/-- A number that is written to a node is the line that is read from it. -/
theorem readLine_toString (value : Int) : readLine (some (toString value)) = toString value := by
  have oneLine : ∀ char ∈ (toString value).toList, char ≠ '\n' := by
    intro char member
    rcases isDigit_or_eq_of_mem_toString member with digit | rfl
    · rintro rfl
      exact absurd digit (by decide)
    · decide
  have whole : (toString value).toList.takeWhile (· ≠ '\n') = (toString value).toList :=
    List.takeWhile_eq_self_iff.mpr (by simpa using oneLine)
  rw [readLine, Option.getD_some, whole, String.ofList_toList]

/-- What the iteration selects its limit by, with the listener's flags as they are. -/
def connected (listener : Listener) : Charger :=
  .ofFlags listener.usbChgActive listener.usingPps listener.wlsChgActive

/-- One iteration of `limitCharge`; `written` tells whether `write_value` would succeed, whose
result is ignored.
-/
def limitCharge (sysfs : Sysfs) (listener : Listener) (written : Bool) : Option Sysfs := do
  let lastVoltLimit ← stoi (readLine sysfs.scenarioFcc)
  let currentTemp ← sysfs.getChargeTemp listener.usbChgActive listener.wlsChgActive
  let currentVoltLimit ← (connected listener).limitAt currentTemp
  some
    (if currentVoltLimit ≠ lastVoltLimit ∧ written = true then
      { sysfs with scenarioFcc := some (toString currentVoltLimit) }
    else
      sysfs)

/-- `healthInfoChanged` from its first statement to its last one. -/
def healthInfoChanged (sysfs : Sysfs) (listener : Listener) (batteryStatus : BatteryStatus)
    : Option Listener :=
  if listener.mStatus = some batteryStatus then
    some listener
  else do
    let usbOnline ← stoi (readLine sysfs.usbOnline)
    let wlsOnline ← stoi (readLine sysfs.wlsOnline)
    let refreshed :=
      { listener with
        mStatus := some batteryStatus
        usbChgActive := usbOnline ≠ 0
        wlsChgActive := wlsOnline ≠ 0
      }
    some
      (if batteryStatus = .charging then
        { refreshed with
          usingPps := usbOnline ≠ 0 && findsPps (readLine sysfs.usbType)
          enableChgLimit := true
          limiters := listener.limiters ++ [.loopTest]
        }
      else
        { refreshed with enableChgLimit := false, usingPps := false })

/-- All that an iteration that ends has read, and what it leaves. -/
theorem limitCharge_eq_some {sysfs after : Sysfs} {listener : Listener} {written : Bool}
    (iterated : sysfs.limitCharge listener written = some after)
    : ∃ lastVoltLimit currentTemp currentVoltLimit,
        stoi (readLine sysfs.scenarioFcc) = some lastVoltLimit
        ∧ sysfs.getChargeTemp listener.usbChgActive listener.wlsChgActive = some currentTemp
        ∧ (connected listener).limitAt currentTemp = some currentVoltLimit
        ∧ after
          = if currentVoltLimit ≠ lastVoltLimit ∧ written = true then
              { sysfs with scenarioFcc := some (toString currentVoltLimit) }
            else
              sysfs := by
  obtain ⟨lastVoltLimit, last, iterated⟩ := Option.bind_eq_some_iff.mp iterated
  obtain ⟨currentTemp, temp, iterated⟩ := Option.bind_eq_some_iff.mp iterated
  obtain ⟨currentVoltLimit, limit, iterated⟩ := Option.bind_eq_some_iff.mp iterated
  exact ⟨lastVoltLimit, currentTemp, currentVoltLimit, last, temp, limit,
    (Option.some.inj iterated).symm⟩

/-- A limit that is written to the node is read from it again. -/
theorem stoi_written {charger : Charger} {currentTemp limit : Int}
    (selected : charger.limitAt currentTemp = some limit)
    : stoi (readLine (some (toString limit))) = some limit := by
  obtain ⟨index, -, found⟩ := Option.bind_eq_some_iff.mp selected
  have range : ∀ current ∈ chgVoltTbl, 0 ≤ current ∧ current ≤ 9000 := by decide
  obtain ⟨low, high⟩ := range limit (List.mem_of_getElem? found)
  rw [readLine_toString]
  exact stoi_toString (by omega) (by omega)

/-- After an iteration whose write succeeds the node holds the limit, written now or before. -/
theorem scenarioFcc_of_limitCharge {sysfs after : Sysfs} {listener : Listener}
    (iterated : sysfs.limitCharge listener true = some after)
    : ∃ currentTemp limit,
        sysfs.getChargeTemp listener.usbChgActive listener.wlsChgActive = some currentTemp
        ∧ (connected listener).limitAt currentTemp = some limit
        ∧ stoi (readLine after.scenarioFcc) = some limit := by
  obtain ⟨last, currentTemp, limit, node, read, selected, rfl⟩ := limitCharge_eq_some iterated
  refine ⟨currentTemp, limit, read, selected, ?_⟩
  by_cases same : limit = last
  · rw [if_neg (fun both => both.1 same), node, same]
  · rw [if_pos ⟨same, rfl⟩]
    exact stoi_written selected

-----------------------------------------------------------------------------------------
-- The functions are runs of the listener
-----------------------------------------------------------------------------------------

/-- A call that ends is its statements, one after the other. -/
theorem run_healthInfoChanged {sysfs : Sysfs} {listener after : Listener}
    {batteryStatus : BatteryStatus} (idle : listener.callback = .idle)
    (served : sysfs.healthInfoChanged listener batteryStatus = some after)
    : ∃ info count,
        listenerMachine.run listener
            (.healthInfoChanged info :: List.replicate count .callback)
          = some after := by
  unfold healthInfoChanged at served
  split at served
  · rename_i same
    obtain rfl := Option.some.inj served
    refine ⟨⟨batteryStatus, 0, 0, ""⟩, 0, ?_⟩
    simp [Machine.run, listenerMachine, Listener.healthInfoChanged, idle, same]
  · rename_i changed
    obtain ⟨usbOnline, -, served⟩ := Option.bind_eq_some_iff.mp served
    obtain ⟨wlsOnline, -, served⟩ := Option.bind_eq_some_iff.mp served
    by_cases charging : batteryStatus = .charging
    · subst charging
      refine ⟨⟨.charging, usbOnline, wlsOnline, readLine sysfs.usbType⟩, 5, ?_⟩
      rw [← served]
      simp [Machine.run, listenerMachine, Listener.healthInfoChanged, idle, changed,
        List.replicate, Listener.stepCallback]
    · refine ⟨⟨batteryStatus, usbOnline, wlsOnline, readLine sysfs.usbType⟩, 4, ?_⟩
      rw [← served]
      simp [Machine.run, listenerMachine, Listener.healthInfoChanged, idle, changed, charging,
        List.replicate, Listener.stepCallback]

/-- What a shell zone reads, if it is found. -/
def shellOf (sysfs : Sysfs) (shell : String) : Option Int :=
  let tzn := getTzn sysfs.thermal shell
  if 0 ≤ tzn then sysfs.tempOf tzn else none

/-- What the zones read, with 0 where it is no number. -/
def zones (sysfs : Sysfs) : Zones where
  shellFront := sysfs.shellOf "shell_front"
  battery := (sysfs.tempOf (getTzn sysfs.thermal "battery")).getD 0
  shellBack := sysfs.shellOf "shell_back"
  wlsTherm := (sysfs.tempOf (getTzn sysfs.thermal "wls-therm")).getD 0

/-- A temperature that is read is that of the shell, or that of the fallback. -/
theorem shellTemp_of_zoneTemp {sysfs : Sysfs} {shell fallback : String} {temp : Int}
    (read : sysfs.zoneTemp shell fallback = some temp)
    : shellTemp (sysfs.shellOf shell)
        ((sysfs.tempOf (getTzn sysfs.thermal fallback)).getD 0)
      = temp := by
  simp only [zoneTemp] at read
  simp only [shellOf]
  split at read
  · rename_i found
    obtain ⟨shellTemp, present, rest⟩ := Option.bind_eq_some_iff.mp read
    rw [if_pos found, present]
    split at rest
    · rename_i positive
      obtain rfl := Option.some.inj rest
      simp [PongDevice.Charging.shellTemp, positive]
    · rename_i cold
      simp [PongDevice.Charging.shellTemp, cold, rest]
  · rename_i missing
    simp [PongDevice.Charging.shellTemp, missing, read]

/-- A temperature that is read is the one that the zones make. -/
theorem chargeTemp_zones {sysfs : Sysfs} {usbChgActive wlsChgActive : Bool} {temp : Int}
    (read : sysfs.getChargeTemp usbChgActive wlsChgActive = some temp)
    : sysfs.zones.chargeTemp usbChgActive wlsChgActive = temp := by
  unfold getChargeTemp at read
  simp only [Zones.chargeTemp, zones]
  split at read
  · rename_i usb
    rw [if_pos usb]
    exact shellTemp_of_zoneTemp read
  · rename_i noUsb
    rw [if_neg noUsb]
    split at read
    · rename_i wls
      rw [if_pos wls]
      exact shellTemp_of_zoneTemp read
    · rename_i noWls
      rw [if_neg noWls]
      exact Option.some.inj read

/-- An iteration that ends is the nine parts of a limiter that nothing interrupts. -/
theorem run_limitCharge {sysfs after : Sysfs} {listener : Listener} {index : Nat}
    (live : listener.limiters[index]? = some .loopTest)
    (enabled : listener.enableChgLimit = true)
    (iterated : sysfs.limitCharge listener true = some after)
    : ∃ limit,
        stoi (readLine after.scenarioFcc) = some limit
        ∧ listenerMachine.run listener (List.replicate 9 (.limiter index sysfs.zones))
          = some
            { listener with
              limiters := listener.limiters.set index .retest
              scenarioFcc := limit
            } := by
  obtain ⟨currentTemp, limit, read, selected, holds⟩ := scenarioFcc_of_limitCharge iterated
  obtain ⟨inside, here⟩ := List.getElem?_eq_some_iff.mp live
  have temp := chargeTemp_zones read
  have voltLimit
      : Selection.voltLimit
          { currentTemp, thresholds := connected listener, limits := connected listener }
        = some limit :=
    selected
  unfold connected at voltLimit
  refine ⟨limit, holds, ?_⟩
  simp only [List.replicate, Machine.run, listenerMachine, Listener.stepLimiter, inside, here,
    enabled, Listener.charger, temp, voltLimit, List.getElem?_eq_getElem, List.length_set,
    List.getElem_set_self, List.set_set, if_true, Option.bind_some, Option.map_some]
  split_ifs with same
  · rw [same]
  · rfl

end Sysfs

end PongDevice.Charging
