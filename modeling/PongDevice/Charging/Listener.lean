import PongDevice.Transition.Machine
import PongDevice.Charging.Limits

/-! The listener of the health service and the limiter threads that it starts. Each read or
write of a shared member is one step, so that a callback and any number of threads
interleave in every order; callbacks are served one at a time.
-/

namespace PongDevice.Charging

open Transition

inductive BatteryStatus where
  | unknown
  | charging
  | discharging
  | notCharging
  | full
deriving DecidableEq, Repr

/-- The status that a callback reports, and what the nodes read while it is served. -/
structure HealthInfo where
  batteryStatus : BatteryStatus
  usbOnline : Int
  wlsOnline : Int
  usbChgType : String
deriving DecidableEq, Repr

/-- The statement of `healthInfoChanged` that is next. -/
inductive Callback where
  | idle
  | readUsbOnline (info : HealthInfo)
  | readWlsOnline (info : HealthInfo)
  | checkStatus (info : HealthInfo)
  | enable
  | startLimiter
  | clearPps
deriving DecidableEq, Repr

/-- The part of `limitCharge` that is next, with the locals of the iteration. The getters
read `usbChgActive` first and only then the flag that it makes them look at.
-/
inductive Limiter where
  | loopTest
  | readLimit
  | tempUsb (lastVoltLimit : Int)
  | temp (lastVoltLimit : Int) (usbChgActive : Bool)
  | thresholdsUsb (lastVoltLimit currentTemp : Int)
  | thresholds (lastVoltLimit currentTemp : Int) (usbChgActive : Bool)
  | limitsUsb (lastVoltLimit currentTemp : Int) (thresholds : Charger)
  | limits (lastVoltLimit currentTemp : Int) (thresholds : Charger) (usbChgActive : Bool)
  | apply (lastVoltLimit : Int) (selection : Selection)
  | retest
deriving DecidableEq, Repr

/-- The listener's members, the callback that is being served, the live limiter threads and
the node that they write. A new listener's members are zero, and 0 is no `BatteryStatus`.
-/
structure Listener where
  mStatus : Option BatteryStatus := none
  usbChgActive : Bool := false
  usingPps : Bool := false
  wlsChgActive : Bool := false
  enableChgLimit : Bool := false
  callback : Callback := .idle
  limiters : List Limiter := []
  scenarioFcc : Int
deriving DecidableEq, Repr

/-- `usbChgType.find("[PD_PPS]") != string::npos`. -/
def findsPps (usbChgType : String) : Bool :=
  usbChgType.toList.tails.any ("[PD_PPS]".toList.isPrefixOf ·)

namespace Listener

/-- A callback changes nothing unless the status does. -/
def healthInfoChanged (listener : Listener) (info : HealthInfo) : Option Listener :=
  match listener.callback with
  | .idle =>
      if listener.mStatus = some info.batteryStatus then
        some listener
      else
        some
          { listener with
            mStatus := some info.batteryStatus
            callback := .readUsbOnline info
          }
  | _ => none

/-- The next statement of the callback that is being served. -/
def stepCallback (listener : Listener) : Option Listener :=
  match listener.callback with
  | .idle => none
  | .readUsbOnline info =>
      some
        { listener with
          usbChgActive := info.usbOnline ≠ 0
          callback := .readWlsOnline info
        }
  | .readWlsOnline info =>
      some
        { listener with
          wlsChgActive := info.wlsOnline ≠ 0
          callback := .checkStatus info
        }
  | .checkStatus info =>
      if listener.mStatus = some .charging then
        some
          { listener with
            usingPps := listener.usbChgActive && findsPps info.usbChgType
            callback := .enable
          }
      else
        some { listener with enableChgLimit := false, callback := .clearPps }
  | .enable => some { listener with enableChgLimit := true, callback := .startLimiter }
  | .startLimiter =>
      some
        { listener with
          limiters := listener.limiters ++ [.loopTest]
          callback := .idle
        }
  | .clearPps => some { listener with usingPps := false, callback := .idle }

/-- The charger that a getter settles on which has read `usbChgActive` before. -/
def charger (listener : Listener) (usbChgActive : Bool) : Charger :=
  .ofFlags usbChgActive listener.usingPps listener.wlsChgActive

/-- The next part of one limiter, whose sleep may last any time. -/
def stepLimiter (listener : Listener) (index : Nat) (zones : Zones) : Option Listener :=
  match listener.limiters[index]? with
  | none => none
  | some limiter =>
      let next (limiter : Limiter) : Listener :=
        { listener with limiters := listener.limiters.set index limiter }
      let exit : Listener := { listener with limiters := listener.limiters.eraseIdx index }
      match limiter with
      | .loopTest => some (if listener.enableChgLimit then next .readLimit else exit)
      | .readLimit => some (next (.tempUsb listener.scenarioFcc))
      | .tempUsb lastVoltLimit => some (next (.temp lastVoltLimit listener.usbChgActive))
      | .temp lastVoltLimit usbChgActive =>
          let currentTemp := zones.chargeTemp usbChgActive listener.wlsChgActive
          some (next (.thresholdsUsb lastVoltLimit currentTemp))
      | .thresholdsUsb lastVoltLimit currentTemp =>
          some (next (.thresholds lastVoltLimit currentTemp listener.usbChgActive))
      | .thresholds lastVoltLimit currentTemp usbChgActive =>
          some (next (.limitsUsb lastVoltLimit currentTemp (listener.charger usbChgActive)))
      | .limitsUsb lastVoltLimit currentTemp thresholds =>
          some (next (.limits lastVoltLimit currentTemp thresholds listener.usbChgActive))
      | .limits lastVoltLimit currentTemp thresholds usbChgActive =>
          let limits := listener.charger usbChgActive
          some (next (.apply lastVoltLimit { currentTemp, thresholds, limits }))
      | .apply lastVoltLimit selection =>
          selection.voltLimit.map (fun currentVoltLimit =>
            if currentVoltLimit = lastVoltLimit then next .retest
            else { next .retest with scenarioFcc := currentVoltLimit })
      | .retest => some (if listener.enableChgLimit then next .loopTest else exit)

end Listener

/-- A callback arrives, or the one that is served or a limiter takes its next step. -/
inductive ListenerEvent where
  | healthInfoChanged (info : HealthInfo)
  | callback
  | limiter (index : Nat) (zones : Zones)
deriving Repr

def listenerMachine : Machine Listener ListenerEvent where
  step listener
    | .healthInfoChanged info => listener.healthInfoChanged info
    | .callback => listener.stepCallback
    | .limiter index zones => listener.stepLimiter index zones

/-- The limiter is about to look at `enableChgLimit`. -/
def Limiter.tests : Limiter → Bool
  | .loopTest | .retest => true
  | _ => false

namespace Listener

/-- The event starts a limiter thread. -/
def starts (listener : Listener) : ListenerEvent → Bool
  | .callback => listener.callback = .startLimiter
  | _ => false

/-- The event ends a limiter thread, which finds `enableChgLimit` false. -/
def exits (listener : Listener) : ListenerEvent → Bool
  | .limiter index _ =>
      (listener.limiters[index]?).any Limiter.tests && !listener.enableChgLimit
  | _ => false

/-- What the limit was selected from that the event writes to the node, if it writes one. -/
def writes (listener : Listener) : ListenerEvent → Option Selection
  | .limiter index _ =>
      match listener.limiters[index]? with
      | some (.apply lastVoltLimit selection) =>
          if selection.voltLimit = some lastVoltLimit then none else some selection
      | _ => none
  | _ => none

end Listener

/-- Everything that a step can do to the flag, the threads and the node. -/
inductive ListenerStep : Listener → ListenerEvent → Listener → Prop where
  | served {before after event} (enable : after.enableChgLimit = before.enableChgLimit)
    (limiters : after.limiters = before.limiters)
    (node : after.scenarioFcc = before.scenarioFcc)
    (waiting : before.callback ≠ .startLimiter) (later : after.callback ≠ .startLimiter)
    (exits : before.exits event = false) (writes : before.writes event = none)
    : ListenerStep before event after
  | disabled {before after} (disabled : after.enableChgLimit = false)
    (limiters : after.limiters = before.limiters)
    (node : after.scenarioFcc = before.scenarioFcc)
    (waiting : before.callback ≠ .startLimiter) (later : after.callback ≠ .startLimiter)
    : ListenerStep before .callback after
  | enabled {before after} (enabled : after.enableChgLimit = true)
    (limiters : after.limiters = before.limiters)
    (node : after.scenarioFcc = before.scenarioFcc)
    (waiting : before.callback ≠ .startLimiter) (later : after.callback = .startLimiter)
    : ListenerStep before .callback after
  | started {before : Listener} (waiting : before.callback = .startLimiter)
    : ListenerStep before .callback
        { before with limiters := before.limiters ++ [.loopTest], callback := .idle }
  | ran {before : Listener} {index zones} (limiter next)
    (live : before.limiters[index]? = some limiter)
    (exits : before.exits (.limiter index zones) = false)
    (writes : before.writes (.limiter index zones) = none)
    : ListenerStep before (.limiter index zones)
        { before with limiters := before.limiters.set index next }
  | wrote {before : Listener} {index zones} (limiter next selection limit)
    (live : before.limiters[index]? = some limiter)
    (exits : before.exits (.limiter index zones) = false)
    (writes : before.writes (.limiter index zones) = some selection)
    (selected : selection.voltLimit = some limit)
    : ListenerStep before (.limiter index zones)
        { before with limiters := before.limiters.set index next, scenarioFcc := limit }
  | exited {before : Listener} {index zones} (limiter)
    (live : before.limiters[index]? = some limiter)
    (disabled : before.enableChgLimit = false)
    (exits : before.exits (.limiter index zones) = true)
    (writes : before.writes (.limiter index zones) = none)
    : ListenerStep before (.limiter index zones)
        { before with limiters := before.limiters.eraseIdx index }

namespace Listener

/-- A callback's statements only serve it, set or clear the flag, or start a limiter. -/
theorem listenerStep_callback {before after : Listener}
    (taken : before.stepCallback = some after)
    : ListenerStep before .callback after := by
  unfold stepCallback at taken
  split at taken
  · cases taken
  · rename_i info waiting
    obtain rfl := Option.some.inj taken
    exact .served rfl rfl rfl (by simp [waiting]) (by simp) rfl rfl
  · rename_i info waiting
    obtain rfl := Option.some.inj taken
    exact .served rfl rfl rfl (by simp [waiting]) (by simp) rfl rfl
  · rename_i info waiting
    split at taken
    · obtain rfl := Option.some.inj taken
      exact .served rfl rfl rfl (by simp [waiting]) (by simp) rfl rfl
    · obtain rfl := Option.some.inj taken
      exact .disabled rfl rfl rfl (by simp [waiting]) (by simp)
  · rename_i waiting
    obtain rfl := Option.some.inj taken
    exact .enabled rfl rfl rfl (by simp [waiting]) rfl
  · rename_i waiting
    obtain rfl := Option.some.inj taken
    exact .started waiting
  · rename_i waiting
    obtain rfl := Option.some.inj taken
    exact .served rfl rfl rfl (by simp [waiting]) (by simp) rfl rfl

/-- A limiter's statements only advance it, write the node, or end it. -/
theorem listenerStep_limiter {before after : Listener} {index : Nat} {zones : Zones}
    (taken : before.stepLimiter index zones = some after)
    : ListenerStep before (.limiter index zones) after := by
  unfold stepLimiter at taken
  split at taken
  · cases taken
  · rename_i limiter live
    cases limiter with
    | loopTest =>
        obtain rfl := Option.some.inj taken
        by_cases enabled : before.enableChgLimit = true
        · rw [if_pos enabled]
          exact .ran _ _ live (by simp [exits, enabled]) (by simp [writes, live])
        · rw [if_neg enabled]
          exact .exited _ live (Bool.eq_false_iff.mpr enabled)
            (by simp [exits, live, enabled, Limiter.tests]) (by simp [writes, live])
    | readLimit | tempUsb _ | temp _ _ | thresholdsUsb _ _ | thresholds _ _ _ | limitsUsb _ _ _
    | limits _ _ _ _ =>
        obtain rfl := Option.some.inj taken
        exact .ran _ _ live (by simp [exits, live, Limiter.tests]) (by simp [writes, live])
    | apply lastVoltLimit selection =>
        obtain ⟨limit, selected, rfl⟩ := Option.map_eq_some_iff.mp taken
        by_cases same : limit = lastVoltLimit
        · simp only [same, if_true]
          exact .ran _ _ live (by simp [exits, live, Limiter.tests])
            (by simp [writes, live, selected, same])
        · simp only [same, if_false]
          exact .wrote _ _ selection limit live (by simp [exits, live, Limiter.tests])
            (by simp [writes, live, selected, same]) selected
    | retest =>
        obtain rfl := Option.some.inj taken
        by_cases enabled : before.enableChgLimit = true
        · rw [if_pos enabled]
          exact .ran _ _ live (by simp [exits, enabled]) (by simp [writes, live])
        · rw [if_neg enabled]
          exact .exited _ live (Bool.eq_false_iff.mpr enabled)
            (by simp [exits, live, enabled, Limiter.tests]) (by simp [writes, live])

end Listener

/-- Every event makes one of the steps. -/
theorem listenerStep {before after : Listener} {event : ListenerEvent}
    (taken : listenerMachine.step before event = some after)
    : ListenerStep before event after := by
  cases event with
  | healthInfoChanged info =>
      simp only [listenerMachine, Listener.healthInfoChanged] at taken
      split at taken
      · rename_i waiting
        split at taken
        · obtain rfl := Option.some.inj taken
          exact .served rfl rfl rfl (by simp [waiting]) (by simp [waiting]) rfl rfl
        · obtain rfl := Option.some.inj taken
          exact .served rfl rfl rfl (by simp [waiting]) (by simp) rfl rfl
      · cases taken
  | callback => exact Listener.listenerStep_callback taken
  | limiter index zones => exact Listener.listenerStep_limiter taken

end PongDevice.Charging
