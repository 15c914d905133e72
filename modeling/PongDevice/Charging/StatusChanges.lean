import PongDevice.Charging.Sysfs

/-! Whether the listener's flags follow the power supplies. A callback looks at their nodes
only if it brings another battery status than the last one.
-/

namespace PongDevice.Charging

open PongDevice.Text
open Transition

/-- A node of the power supplies takes another content, or a callback is delivered. -/
inductive PowerEvent
  | usbOnline (node : Node)
  | usbType (node : Node)
  | wlsOnline (node : Node)
  | healthInfoChanged (batteryStatus : BatteryStatus)
deriving DecidableEq, Repr

/-- The listener beside the nodes that it reads. A callback with an escaping exception is not
enabled.
-/
def powerMachine : Machine (Listener × Sysfs) PowerEvent where
  step state event :=
    let (listener, sysfs) := state
    match event with
    | .usbOnline node => some (listener, { sysfs with usbOnline := node })
    | .usbType node => some (listener, { sysfs with usbType := node })
    | .wlsOnline node => some (listener, { sysfs with wlsOnline := node })
    | .healthInfoChanged batteryStatus =>
        (sysfs.healthInfoChanged listener batteryStatus).map (·, sysfs)

/-- The flags that the nodes stand for, `usbChgActive`, `usingPps` and `wlsChgActive`. -/
def Sysfs.flags (sysfs : Sysfs) : Option (Bool × Bool × Bool) := do
  let usbOnline ← stoi (readLine sysfs.usbOnline)
  let wlsOnline ← stoi (readLine sysfs.wlsOnline)
  some
    (decide (usbOnline ≠ 0), usbOnline ≠ 0 && findsPps (readLine sysfs.usbType),
      decide (wlsOnline ≠ 0))

/-- The charger that is connected. -/
def Sysfs.charger (sysfs : Sysfs) : Option Charger :=
  sysfs.flags.map (fun flags => .ofFlags flags.1 flags.2.1 flags.2.2)

/-- The listener's flags are those of the nodes. -/
def FlagsAgree (listener : Listener) (sysfs : Sysfs) : Prop :=
  sysfs.flags = some (listener.usbChgActive, listener.usingPps, listener.wlsChgActive)

instance (listener : Listener) (sysfs : Sysfs) : Decidable (FlagsAgree listener sysfs) :=
  inferInstanceAs (Decidable (_ = _))

/-- The limiter uses the tables of the charger that flags agree about. -/
theorem FlagsAgree.charger {listener : Listener} {sysfs : Sysfs}
    (agree : FlagsAgree listener sysfs)
    : sysfs.charger = some (Sysfs.connected listener) := by
  rw [Sysfs.charger, agree]
  rfl

/-- After a callback with the status `CHARGING`, the flags are those of the nodes. -/
def AgreeAfterCharging (_ : Listener × Sysfs) (event : PowerEvent) (after : Listener × Sysfs)
    : Prop :=
  event = .healthInfoChanged .charging → FlagsAgree after.1 after.2

instance (before : Listener × Sysfs) (event : PowerEvent) (after : Listener × Sysfs)
    : Decidable (AgreeAfterCharging before event after) :=
  inferInstanceAs (Decidable (_ → _))

/-- The event is a callback that brings another status. -/
def changesStatus (listener : Listener) : PowerEvent → Bool
  | .healthInfoChanged batteryStatus => listener.mStatus ≠ some batteryStatus
  | _ => false

/-- The nodes as the last callback found them that brought another status. -/
def noteStatusChange (lastRead : Option Sysfs) (before : Listener × Sysfs)
    (event : PowerEvent) (_ : Listener × Sysfs)
    : Option Sysfs :=
  if changesStatus before.1 event = true then some before.2 else lastRead

/-- The machine together with these nodes. -/
def statusMachine : Machine ((Listener × Sysfs) × Option Sysfs) PowerEvent :=
  powerMachine.observe noteStatusChange

/-- After a callback with the status `CHARGING`, the flags are those of the nodes at the last
change of the status, which is now if this callback changed it.
-/
def AgreeSinceStatusChange (before : (Listener × Sysfs) × Option Sysfs) (event : PowerEvent)
    (after : (Listener × Sysfs) × Option Sysfs)
    : Prop :=
  event = .healthInfoChanged .charging
  → ∃ nodes ∈ after.2,
      FlagsAgree after.1.1 nodes
      ∧ nodes.charger = some (Sysfs.connected after.1.1)
      ∧ (changesStatus before.1.1 event = true → nodes = after.1.2)

/-- While the status is `CHARGING`, the flags are those of the nodes at its last change. -/
def FlagsRead (state : (Listener × Sysfs) × Option Sysfs) : Prop :=
  state.1.1.mStatus = some .charging → ∃ nodes ∈ state.2, FlagsAgree state.1.1 nodes

/-- A callback with another status reads all flags if that status is `CHARGING`. -/
theorem flagsAgree_of_changed {sysfs : Sysfs} {listener after : Listener}
    (changed : listener.mStatus ≠ some .charging)
    (served : sysfs.healthInfoChanged listener .charging = some after)
    : FlagsAgree after sysfs := by
  rw [Sysfs.healthInfoChanged, if_neg changed] at served
  obtain ⟨usbOnline, usb, served⟩ := Option.bind_eq_some_iff.mp served
  obtain ⟨wlsOnline, wls, served⟩ := Option.bind_eq_some_iff.mp served
  obtain rfl := Option.some.inj served
  simp [FlagsAgree, Sysfs.flags, usb, wls]

/-- A callback that ends leaves its status. -/
theorem mStatus_of_healthInfoChanged {sysfs : Sysfs} {listener after : Listener}
    {batteryStatus : BatteryStatus}
    (served : sysfs.healthInfoChanged listener batteryStatus = some after)
    : after.mStatus = some batteryStatus := by
  unfold Sysfs.healthInfoChanged at served
  split at served
  · rename_i same
    exact Option.some.inj served ▸ same
  · obtain ⟨usbOnline, usb, served⟩ := Option.bind_eq_some_iff.mp served
    obtain ⟨wlsOnline, wls, served⟩ := Option.bind_eq_some_iff.mp served
    obtain rfl := Option.some.inj served
    split <;> rfl

/-- A callback that brings no other status leaves everything as it is. -/
theorem healthInfoChanged_of_same {sysfs : Sysfs} {listener : Listener}
    {batteryStatus : BatteryStatus} (same : listener.mStatus = some batteryStatus)
    : sysfs.healthInfoChanged listener batteryStatus = some listener := by
  rw [Sysfs.healthInfoChanged, if_pos same]

/-- A change of a node leaves the listener and the noted nodes as they are, and a callback
either changes the status and is noted or changes nothing.
-/
theorem FlagsRead.step {before after : Listener × Sysfs} {lastRead : Option Sysfs}
    {event : PowerEvent} (read : FlagsRead (before, lastRead))
    (taken : powerMachine.step before event = some after)
    : AgreeSinceStatusChange (before, lastRead) event
          (after, noteStatusChange lastRead before event after)
      ∧ FlagsRead (after, noteStatusChange lastRead before event after) := by
  obtain ⟨listener, sysfs⟩ := before
  obtain ⟨next, nodes⟩ := after
  cases event with
  | usbOnline node | usbType node | wlsOnline node =>
      obtain ⟨rfl, rfl⟩ := Prod.mk.inj (Option.some.inj taken)
      exact ⟨nofun, read⟩
  | healthInfoChanged batteryStatus =>
      obtain ⟨after, served, both⟩ := Option.map_eq_some_iff.mp taken
      obtain ⟨rfl, rfl⟩ := Prod.mk.inj both
      have status := mStatus_of_healthInfoChanged served
      have agrees
          : batteryStatus = .charging
            → ∃ nodes ∈ noteStatusChange lastRead (listener, sysfs)
                  (.healthInfoChanged batteryStatus) (after, sysfs),
                FlagsAgree after nodes
                ∧ (changesStatus listener (.healthInfoChanged batteryStatus) = true
                  → nodes = sysfs) := by
        rintro rfl
        by_cases same : listener.mStatus = some .charging
        · obtain rfl : listener = after :=
            Option.some.inj ((healthInfoChanged_of_same same).symm.trans served)
          obtain ⟨nodes, noted, agree⟩ := read same
          refine ⟨nodes, ?_, agree, ?_⟩
          · simpa [noteStatusChange, changesStatus, same] using noted
          · intro changed
            simp [changesStatus, same] at changed
        · refine ⟨sysfs, ?_, flagsAgree_of_changed same served, fun _ => rfl⟩
          simp [noteStatusChange, changesStatus, same]
      constructor
      · intro charging
        obtain ⟨nodes, noted, agree, now⟩ := agrees (PowerEvent.healthInfoChanged.inj charging)
        exact ⟨nodes, noted, agree, agree.charger, now⟩
      · intro charging
        obtain ⟨nodes, noted, agree, -⟩ := agrees (Option.some.inj (status.symm.trans charging))
        exact ⟨nodes, noted, agree⟩

/-- In every history of a new listener, the flags after a callback with the status `CHARGING`
are those of the nodes at the last change of the status, and the limiter uses the tables of
the charger that was connected then. Witness: `FlagsRead`, which each event keeps.
-/
theorem agreeSinceStatusChange (fcc : Int) (sysfs : Sysfs) (events : List PowerEvent)
    : statusMachine.Along AgreeSinceStatusChange (({ scenarioFcc := fcc }, sysfs), none)
        events := by
  refine Machine.observe_along_of_invariant FlagsRead ?_ ?_ (Machine.along_true _ _)
  · exact fun before lastRead event after read taken _ => read.step taken
  · intro charging
    cases charging

/-- A charger that finishes its negotiation after the status became `CHARGING` is still taken
for one without PPS by the next callback.
-/
theorem agreeAfterCharging_fails_ppsNegotiated
    : ¬powerMachine.Along AgreeAfterCharging
        ({ scenarioFcc := 9000 },
          {
            thermal := none
            temp := fun _ => none
            usbOnline := some "1\n"
            usbType := some "Unknown [PD] PD_PPS\n"
            wlsOnline := some "0\n"
            scenarioFcc := some "9000\n"
          })
        [.healthInfoChanged .charging, .usbType (some "Unknown PD [PD_PPS]\n"),
          .healthInfoChanged .charging] := by
  decide +kernel

end PongDevice.Charging
