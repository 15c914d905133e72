import PongDevice.Charging.Sysfs

/-! The limit that an iteration leaves in the node: selected by the greatest threshold that
the temperature reaches, and never greater for a hotter device.
-/

namespace PongDevice.Charging

open PongDevice.Text

/-- A phone on a PPS charger. -/
def ppsSysfs : Sysfs where
  thermal := some [{ dName := "thermal_zone12", type := some "shell_front\n" }]
  temp zone := if zone = 12 then some "42500\n" else none
  usbOnline := some "1\n"
  usbType := some "Unknown PD [PD_PPS]\n"
  wlsOnline := some "0\n"
  scenarioFcc := some "9000\n"

/-- Its listener after a first callback. -/
def ppsListener : Listener :=
  {
    mStatus := some .charging
    usbChgActive := true
    usingPps := true
    enableChgLimit := true
    scenarioFcc := 9000
  }

example : (ppsSysfs.limitCharge ppsListener true).map (·.scenarioFcc) = some (some "3000") := by
  decide +kernel

end PongDevice.Charging
