import PongDevice.Charging.LimitSelection
import PongDevice.Charging.Listener

/-! Whether the limiter reads its tables in bounds while callbacks change the flags that the
tables are chosen by. The thresholds and the limits are fetched one after the other.
-/

namespace PongDevice.Charging

open Transition

/-- The limiter does not index its tables out of bounds in its next part. -/
def Limiter.inBounds : Limiter → Bool
  | .apply _ selection => selection.voltLimit.isSome
  | _ => true

/-- No limiter is about to read a table out of bounds. -/
def TablesInBounds (listener : Listener) : Prop :=
  ∀ limiter ∈ listener.limiters, limiter.inBounds = true

instance : DecidablePred TablesInBounds :=
  fun listener =>
    inferInstanceAs (Decidable (∀ limiter ∈ listener.limiters, limiter.inBounds = true))

/-- A limiter that fetches its limits is cooler than the first threshold without a limit, of
the thresholds that it has and the charger that the flags stand for now.
-/
def FetchesFittingLimits (before : Listener) (event : ListenerEvent) (_ : Listener) : Prop :=
  ∀ index zones lastVoltLimit currentTemp thresholds usbChgActive,
    event = .limiter index zones
    → before.limiters[index]? = some (.limits lastVoltLimit currentTemp thresholds usbChgActive)
    → Selection.Fits { currentTemp, thresholds, limits := before.charger usbChgActive }

/-- An entry of a list with a new one in it is an old one if it is not the new one. -/
theorem mem_of_mem_set {limiters : List Limiter} {index : Nat} {limiter next : Limiter}
    (other : limiter ≠ next) (member : limiter ∈ limiters.set index next)
    : limiter ∈ limiters :=
  (List.mem_or_eq_of_mem_set member).resolve_right other

/-- A limiter that has its limits had them before the step, or fetched them in it. -/
theorem apply_mem_of_step {before after : Listener} {event : ListenerEvent}
    {lastVoltLimit : Int} {selection : Selection}
    (taken : listenerMachine.step before event = some after)
    (member : .apply lastVoltLimit selection ∈ after.limiters)
    : .apply lastVoltLimit selection ∈ before.limiters
      ∨ ∃ index zones currentTemp thresholds usbChgActive,
          event = .limiter index zones
          ∧ before.limiters[index]?
            = some (.limits lastVoltLimit currentTemp thresholds usbChgActive)
          ∧ selection
            = { currentTemp, thresholds, limits := before.charger usbChgActive } := by
  cases event with
  | healthInfoChanged info =>
      left
      cases listenerStep taken with
      | served _ limiters => exact limiters ▸ member
  | callback =>
      left
      cases listenerStep taken with
      | served _ limiters | disabled _ limiters | enabled _ limiters => exact limiters ▸ member
      | started waiting => simpa using member
  | limiter index zones =>
      simp only [listenerMachine, Listener.stepLimiter] at taken
      split at taken
      · cases taken
      · rename_i limiter live
        cases limiter with
        | loopTest | retest =>
            obtain rfl := Option.some.inj taken
            left
            split at member
            · exact mem_of_mem_set (by simp) member
            · exact List.mem_of_mem_eraseIdx member
        | readLimit | tempUsb _ | temp _ _ | thresholdsUsb _ _ | thresholds _ _ _
        | limitsUsb _ _ _ =>
            obtain rfl := Option.some.inj taken
            exact .inl (mem_of_mem_set (by simp) member)
        | limits last currentTemp thresholds usbChgActive =>
            obtain rfl := Option.some.inj taken
            rcases List.mem_or_eq_of_mem_set member with old | fetched
            · exact .inl old
            · obtain ⟨rfl, rfl⟩ := Limiter.apply.inj fetched
              exact .inr ⟨index, zones, currentTemp, thresholds, usbChgActive, rfl, live, rfl⟩
        | apply last applied =>
            obtain ⟨limit, selected, rfl⟩ := Option.map_eq_some_iff.mp taken
            left
            split at member
            · exact mem_of_mem_set (by simp) member
            · exact mem_of_mem_set (by simp) member

/-- A step that fetches only fitting limits leaves every limiter in bounds. -/
theorem TablesInBounds.step {before after : Listener} {event : ListenerEvent}
    (inBounds : TablesInBounds before)
    (taken : listenerMachine.step before event = some after)
    (rule : FetchesFittingLimits before event after)
    : TablesInBounds after := by
  intro limiter member
  cases limiter with
  | apply lastVoltLimit selection =>
      rcases apply_mem_of_step taken member with old | fetched
      · exact inBounds _ old
      · obtain ⟨index, zones, currentTemp, thresholds, usbChgActive, fetch, live, rfl⟩ := fetched
        have fits := rule index zones lastVoltLimit currentTemp thresholds usbChgActive fetch live
        exact Option.isSome_iff_ne_none.mpr ((Selection.voltLimit_ne_none_iff _).mpr fits)
  | loopTest | readLimit | tempUsb _ | temp _ _ | thresholdsUsb _ _ | thresholds _ _ _
  | limitsUsb _ _ _ | limits _ _ _ _ | retest => rfl

/-- A fetch that leaves every limiter in bounds has fetched fitting limits. -/
theorem TablesInBounds.needed {before after : Listener} {event : ListenerEvent}
    (taken : listenerMachine.step before event = some after)
    (inBounds : TablesInBounds after)
    : FetchesFittingLimits before event after := by
  intro index zones lastVoltLimit currentTemp thresholds usbChgActive fetch live
  subst fetch
  simp only [listenerMachine, Listener.stepLimiter, live, Option.some.injEq] at taken
  obtain ⟨inside, -⟩ := List.getElem?_eq_some_iff.mp live
  rw [← Selection.voltLimit_ne_none_iff, ← Option.isSome_iff_ne_none]
  refine inBounds (.apply lastVoltLimit _) ?_
  rw [← taken]
  exact List.mem_set inside _

/-- In every interleaving of callbacks and limiters, the tables are read in bounds exactly
when each limiter fetches only fitting limits. Witness: nothing else makes a limiter index its
tables, and `Selection.Fits` is when a selection stays inside of them.
-/
theorem tablesInBounds_iff (fcc : Int) (events : List ListenerEvent)
    : listenerMachine.Always TablesInBounds { scenarioFcc := fcc } events
      ↔ listenerMachine.Along FetchesFittingLimits { scenarioFcc := fcc } events := by
  refine Machine.always_iff_along TablesInBounds ?_ ?_ ?_ ?_ (Machine.along_true _ _)
  · exact fun listener inBounds => inBounds
  · exact fun before event after inBounds taken _ rule => inBounds.step taken rule
  · exact fun before event after _ taken _ inBounds => inBounds.needed taken
  · intro limiter member
    cases member

/-- The thresholds are fetched while PPS is in use, the charger stops being one of its kind
before the limits are fetched, and at 48000 the loop reads a sixth limit of five.
-/
theorem tablesInBounds_fails_ppsLost
    : ¬listenerMachine.Always TablesInBounds { scenarioFcc := 9000 }
        (.healthInfoChanged
            { batteryStatus := .charging, usbOnline := 1, wlsOnline := 0,
              usbChgType := "[PD_PPS]" }
          :: List.replicate 5 .callback
          ++ List.replicate 7
            (.limiter 0
              { shellFront := some 48000, battery := 48000, shellBack := none, wlsTherm := 0 })
          ++ .healthInfoChanged
            { batteryStatus := .notCharging, usbOnline := 1, wlsOnline := 0,
              usbChgType := "[PD_PPS]" }
          :: List.replicate 4 .callback
          ++ [.limiter 0
            { shellFront := some 48000, battery := 48000, shellBack := none,
              wlsTherm := 0 }]) := by
  decide

end PongDevice.Charging
