import PongDevice.Charging.Listener

/-! How many limiter threads are live. Starting one does not wait for the previous one, which
looks at `enableChgLimit` only between its iterations.
-/

namespace PongDevice.Charging

open Transition

/-- The step leaves at most one limiter live while the flag is set, and leaves none live
when a limiter has found the flag false.
-/
def OneLimiter (before : Listener) (event : ListenerEvent) (after : Listener) : Prop :=
  (after.enableChgLimit = true → after.limiters.length ≤ 1)
  ∧ (before.exits event = true → after.limiters = [])

instance (before : Listener) (event : ListenerEvent) (after : Listener)
    : Decidable (OneLimiter before event after) :=
  inferInstanceAs (Decidable (_ ∧ _))

/-- A limiter is started only when none is live. -/
def StartsAlone (before : Listener) (event : ListenerEvent) (_ : Listener) : Prop :=
  before.starts event = true → before.limiters = []

/-- At most one limiter is live, and the flag is set when one is about to be started. -/
structure Limited (listener : Listener) : Prop where
  alone : listener.limiters.length ≤ 1
  ready : listener.callback = .startLimiter → listener.enableChgLimit = true

/-- A live limiter that is alone is the first one. -/
theorem Limited.eq_singleton {listener : Listener} {index : Nat} {limiter : Limiter}
    (limited : Limited listener) (live : listener.limiters[index]? = some limiter)
    : listener.limiters = [limiter] ∧ index = 0 := by
  obtain ⟨inside, rfl⟩ := List.getElem?_eq_some_iff.mp live
  have first : index = 0 := by have := limited.alone; omega
  subst first
  have single : listener.limiters.length = 1 := Nat.le_antisymm limited.alone inside
  obtain ⟨only, list⟩ := List.length_eq_one_iff.mp single
  simp [list]

/-- A step that starts limiters only alone keeps at most one live. -/
theorem Limited.step {before after : Listener} {event : ListenerEvent}
    (limited : Limited before) (taken : listenerMachine.step before event = some after)
    (rule : StartsAlone before event after)
    : Limited after := by
  cases listenerStep taken with
  | served enable limiters node waiting later exits writes =>
      exact ⟨limiters ▸ limited.alone, fun started => absurd started later⟩
  | disabled disabled limiters node waiting later =>
      exact ⟨limiters ▸ limited.alone, fun started => absurd started later⟩
  | enabled enabled limiters node waiting later =>
      exact ⟨limiters ▸ limited.alone, fun _ => enabled⟩
  | started waiting =>
      have none : before.limiters = [] := rule (by simp [Listener.starts, waiting])
      exact ⟨by simp [none], fun started => absurd started (by simp)⟩
  | ran limiter next live exits writes =>
      exact ⟨by simpa using limited.alone, limited.ready⟩
  | wrote limiter next selection limit live exits writes selected =>
      exact ⟨by simpa using limited.alone, limited.ready⟩
  | exited limiter live disabled exits writes =>
      obtain ⟨single, rfl⟩ := limited.eq_singleton live
      exact ⟨by simp [single], limited.ready⟩

/-- A limiter that is alone leaves none live when it exits. -/
theorem Limited.exit {before after : Listener} {event : ListenerEvent}
    (limited : Limited before) (taken : listenerMachine.step before event = some after)
    (exits : before.exits event = true)
    : after.limiters = [] := by
  cases listenerStep taken with
  | served _ _ _ _ _ runs _ => simp [runs] at exits
  | disabled | enabled | started => simp [Listener.exits] at exits
  | ran _ _ _ runs _ => simp [runs] at exits
  | wrote _ _ _ _ _ runs _ _ => simp [runs] at exits
  | exited limiter live disabled _ _ =>
      obtain ⟨single, rfl⟩ := limited.eq_singleton live
      simp [single]

/-- Starting a second limiter leaves two live while the flag is set. -/
theorem Limited.startsAlone {before after : Listener} {event : ListenerEvent}
    (limited : Limited before) (taken : listenerMachine.step before event = some after)
    (one : OneLimiter before event after)
    : StartsAlone before event after := by
  intro starts
  cases event with
  | callback =>
      have waiting : before.callback = .startLimiter := by
        simpa [Listener.starts] using starts
      simp only [listenerMachine, Listener.stepCallback, waiting, Option.some.injEq] at taken
      subst taken
      have few := one.1 (limited.ready waiting)
      simpa using few
  | healthInfoChanged info => cases starts
  | limiter index zones => cases starts

/-- Limiters that are started only when none is live stay alone, whether or not the flag is
set.
-/
theorem limiters_length_le_one (fcc : Int) (events : List ListenerEvent) {last : Listener}
    (alone : listenerMachine.Along StartsAlone { scenarioFcc := fcc } events)
    (reached : listenerMachine.run { scenarioFcc := fcc } events = some last)
    : last.limiters.length ≤ 1 := by
  have always
      : listenerMachine.Always (fun listener => listener.limiters.length ≤ 1)
          { scenarioFcc := fcc } events := by
    refine Machine.Always.of_invariant Limited (fun _ limited => limited.alone) ?_
      ⟨by simp, by simp⟩ alone
    intro before event after limited taken rule
    exact limited.step taken rule
  exact always.of_run reached

/-- In every run from a new listener, the limiters never race exactly when each one is
started only when none is live. Witness: `Limited`, which such steps keep.
-/
theorem oneLimiter_iff (fcc : Int) (events : List ListenerEvent)
    : listenerMachine.Along OneLimiter { scenarioFcc := fcc } events
      ↔ listenerMachine.Along StartsAlone { scenarioFcc := fcc } events := by
  have assumed
      : listenerMachine.Along (fun _ _ _ => True) { scenarioFcc := fcc } events :=
    Machine.along_true _ _
  refine Machine.Along.congr Limited ?_ ?_ ⟨by simp, by simp⟩ assumed
  · intro before event after limited taken _
    constructor
    · exact limited.startsAlone taken
    · intro rule
      exact ⟨fun _ => (limited.step taken rule).alone, limited.exit taken⟩
  · intro before event after limited taken _ rule
    exact limited.step taken rule

/-- A status that leaves CHARGING and comes back while the first limiter sleeps starts a
second one.
-/
theorem oneLimiter_fails_restarted
    : ¬listenerMachine.Along OneLimiter { scenarioFcc := 9000 }
        (.healthInfoChanged
            { batteryStatus := .charging, usbOnline := 1, wlsOnline := 0, usbChgType := "" }
          :: List.replicate 5 .callback
          ++ List.replicate 9
            (.limiter 0
              { shellFront := some 30000, battery := 30000, shellBack := none, wlsTherm := 0 })
          ++ .healthInfoChanged
            { batteryStatus := .notCharging, usbOnline := 1, wlsOnline := 0, usbChgType := "" }
          :: List.replicate 4 .callback
          ++ .healthInfoChanged
            { batteryStatus := .charging, usbOnline := 1, wlsOnline := 0, usbChgType := "" }
          :: List.replicate 5 .callback) := by
  decide

end PongDevice.Charging
