import PongDevice.Transition.Machine
import PongDevice.Fingerprint.LockoutGate
import PongDevice.Fingerprint.LockoutDuration
import PongDevice.Fingerprint.LockoutHandover
import PongDevice.Fingerprint.LockoutPermanent
import PongDevice.Fingerprint.UdfpsCommands
import PongDevice.Fingerprint.Illumination
import PongDevice.Fingerprint.RequestEndings
import PongDevice.Fingerprint.SignalScope
import PongDevice.Fingerprint.SessionResults
import PongDevice.Fingerprint.ClosedSession
import PongDevice.Fingerprint.Enumeration
import PongDevice.Fingerprint.SensorProps
import PongDevice.Sensors.WakelockHold
import PongDevice.Sensors.WakelockCount
import PongDevice.Sensors.DynamicSensors
import PongDevice.Sensors.DirectChannel
import PongDevice.Sensors.Initialize
import PongDevice.Sensors.StaleEvents
import PongDevice.Sensors.StableSensors
import PongDevice.Sensors.OneShotEvents
import PongDevice.Sensors.TouchData
import PongDevice.Sensors.FpState
import PongDevice.Sensors.Destruction
import PongDevice.Charging.LimiterThreads
import PongDevice.Charging.ChargeBlocking
import PongDevice.Thermal.Throttling
import PongDevice.Thermal.NullSafety
import PongDevice.Thermal.Release
import PongDevice.Thermal.Polling
import PongDevice.Thermal.Ceilings
import PongDevice.Thermal.Readings
import PongDevice.Settings.ThresholdSliders
import PongDevice.Settings.OtgSurfaces
import PongDevice.Features.Support
import PongDevice.Haptics.Amplitude
import PongDevice.Fingerprint.Tokens
import PongDevice.Fingerprint.RefusedRequests
import PongDevice.Sensors.OperationMode
import PongDevice.Charging.TableBounds
import PongDevice.Charging.StatusChanges
import PongDevice.Charging.NodeErrors
import PongDevice.Charging.ThermalZones
import PongDevice.Charging.ChargeLimit
import PongDevice.Sensors.SensorsSubHal
import PongDevice.Sensors.SubHalModes
import PongDevice.Sensors.SubHalTouches
import PongDevice.Sensors.TouchCoordinates
import PongDevice.Sensors.SubHalContract
import PongDevice.Sensors.ModeRuns
import PongDevice.Sensors.StopThreads
import PongDevice.Sensors.JoinedThreads
import PongDevice.Fingerprint.FingerDown
import PongDevice.Fingerprint.IlluminationTimeout
import PongDevice.Text.Words
import PongDevice.Sensors.SubHalLibraries
import PongDevice.Haptics.Completions
import PongDevice.Thermal.TileService
import PongDevice.Thermal.TileTruth
import PongDevice.Sensors.WakelockTimeout
import PongDevice.Sensors.DisableAll
import PongDevice.Thermal.Deselection
import PongDevice.Settings.AppPicker
import PongDevice.Settings.AppChoices
import PongDevice.Sensors.PendingDrain
import PongDevice.Charging.WindDown
import PongDevice.Camera.Torch
import PongDevice.Sensors.AwakeThreads
