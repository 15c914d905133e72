import PongDevice.Charging.Listener

/-! Whether the limiter leaves charging blocked. The last limiter stops without another look
at the temperature, and the limit that it wrote stays in the node.
-/

namespace PongDevice.Charging

open Transition

/-- What the limit was selected from that the service wrote last. -/
def noteWrite (lastWrite : Option Selection) (before : Listener) (event : ListenerEvent)
    (_ : Listener)
    : Option Selection :=
  (before.writes event).or lastWrite

/-- The listener together with its last write. -/
def writeMachine : Machine (Listener × Option Selection) ListenerEvent :=
  listenerMachine.observe noteWrite

/-- While no limiter runs, the service has not left a limit of 0 mA in the node. -/
def NotLeftBlocked (state : Listener × Option Selection) : Prop :=
  ¬(state.1.enableChgLimit = false
    ∧ state.1.limiters = []
    ∧ state.1.scenarioFcc = 0
    ∧ state.2 ≠ none)

instance : DecidablePred NotLeftBlocked :=
  fun _ => inferInstanceAs (Decidable ¬(_ ∧ _ ∧ _ ∧ _))

/-- The last limiter exits only after a write, if any, for a temperature that does not call
for the last limit.
-/
def ExitsBelowLastLimit (before : Listener × Option Selection) (event : ListenerEvent)
    (_ : Listener × Option Selection)
    : Prop :=
  before.1.exits event = true
  → before.1.limiters.length = 1
  → ∀ selection ∈ before.2, ¬selection.ReachesLastLimit

/-- A set flag has a limiter that will find it cleared, the node holds what was written
last, and charging is not left blocked.
-/
structure Unblocked (state : Listener × Option Selection) : Prop where
  limited
    : state.1.enableChgLimit = true
      → state.1.limiters ≠ [] ∨ state.1.callback = .startLimiter
  written : ∀ selection ∈ state.2, selection.voltLimit = some state.1.scenarioFcc
  free : NotLeftBlocked state

/-- A limiter that is live keeps the list from being empty. -/
theorem limiters_ne_nil {limiters : List Limiter} {index : Nat} {limiter : Limiter}
    (live : limiters[index]? = some limiter)
    : limiters ≠ [] := by
  intro none
  simp [none] at live

/-- An exit needs a live limiter that finds the flag false. -/
theorem Listener.exited_of_exits {before after : Listener} {event : ListenerEvent}
    (taken : listenerMachine.step before event = some after)
    (exits : before.exits event = true)
    : before.enableChgLimit = false
      ∧ before.writes event = none
      ∧ ∃ index, index < before.limiters.length
        ∧ after = { before with limiters := before.limiters.eraseIdx index } := by
  cases listenerStep taken with
  | served _ _ _ _ _ runs _ => simp [runs] at exits
  | disabled | enabled | started => simp [Listener.exits] at exits
  | ran _ _ _ runs _ => simp [runs] at exits
  | wrote _ _ _ _ _ runs _ _ => simp [runs] at exits
  | @exited index zones limiter live disabled _ writes =>
      obtain ⟨inside, -⟩ := List.getElem?_eq_some_iff.mp live
      exact ⟨disabled, writes, index, inside, rfl⟩

/-- Charging stays unblocked while the node keeps its limit and no limiter is lost. -/
theorem Unblocked.keep {before after : Listener} {lastWrite : Option Selection}
    (unblocked : Unblocked (before, lastWrite))
    (node : after.scenarioFcc = before.scenarioFcc)
    (limited
      : after.enableChgLimit = true → after.limiters ≠ [] ∨ after.callback = .startLimiter)
    (lost
      : after.enableChgLimit = false
        → after.limiters = []
        → before.enableChgLimit = false ∧ before.limiters = [])
    : Unblocked (after, lastWrite) := by
  refine ⟨limited, ?_, ?_⟩
  · simpa only [node] using unblocked.written
  · intro left
    obtain ⟨disabled, stopped, blocked, wrote⟩ := left
    obtain ⟨wasDisabled, wasStopped⟩ := lost disabled stopped
    exact unblocked.free ⟨wasDisabled, wasStopped, node ▸ blocked, wrote⟩

/-- The exit of the last limiter leaves charging unblocked when the last write was for a
temperature that does not call for the last limit.
-/
theorem Unblocked.lastExit {before after : Listener} {lastWrite : Option Selection}
    (unblocked : Unblocked (before, lastWrite))
    (node : after.scenarioFcc = before.scenarioFcc) (disabled : after.enableChgLimit = false)
    (below : ∀ selection ∈ lastWrite, ¬selection.ReachesLastLimit)
    : Unblocked (after, lastWrite) := by
  have written : ∀ selection ∈ lastWrite, selection.voltLimit = some after.scenarioFcc := by
    simpa only [node] using unblocked.written
  refine ⟨fun enabled => by simp [disabled] at enabled, written, ?_⟩
  intro left
  obtain ⟨-, -, blocked, wrote⟩ := left
  obtain ⟨selection, rfl⟩ := Option.ne_none_iff_exists'.mp wrote
  have reaches := (Selection.voltLimit_eq_zero_iff (written selection rfl)).mp blocked
  exact below selection rfl reaches

/-- A last limiter that exits below the last limit leaves charging unblocked, and no other
step can block it.
-/
theorem Unblocked.step {before after : Listener} {lastWrite : Option Selection}
    {event : ListenerEvent} (unblocked : Unblocked (before, lastWrite))
    (taken : listenerMachine.step before event = some after)
    (rule
      : before.exits event = true
        → before.limiters.length = 1
        → ∀ selection ∈ lastWrite, ¬selection.ReachesLastLimit)
    : Unblocked (after, noteWrite lastWrite before event after) := by
  unfold noteWrite
  cases listenerStep taken with
  | served enable limiters node waiting later exits writes =>
      rw [writes, Option.none_or]
      refine unblocked.keep node ?_ ?_
      · intro enabled
        have live := (unblocked.limited (enable ▸ enabled)).resolve_right waiting
        exact .inl (limiters ▸ live)
      · exact fun disabled stopped => ⟨enable ▸ disabled, limiters ▸ stopped⟩
  | disabled disabled limiters node waiting later =>
      refine unblocked.keep node (by simp [disabled]) ?_
      intro _ stopped
      have wasStopped : before.limiters = [] := limiters ▸ stopped
      refine ⟨Bool.eq_false_iff.mpr ?_, wasStopped⟩
      intro enabled
      exact (unblocked.limited enabled).elim (· wasStopped) waiting
  | enabled enabled limiters node waiting later =>
      exact unblocked.keep node (fun _ => .inr later) (by simp [enabled])
  | started waiting =>
      exact unblocked.keep rfl (fun _ => .inl (by simp)) (by simp)
  | ran limiter next live exits writes =>
      rw [writes, Option.none_or]
      have live := limiters_ne_nil live
      exact unblocked.keep rfl (fun _ => .inl (by simpa using live)) (by simp [live])
  | wrote limiter next selection limit live exits writes selected =>
      rw [writes, Option.some_or]
      have live := limiters_ne_nil live
      refine ⟨fun _ => .inl (by simpa using live), ?_, ?_⟩
      · intro other same
        obtain rfl := Option.some.inj same
        exact selected
      · intro left
        exact live (by simpa using left.2.1)
  | exited limiter live disabled exits writes =>
      rw [writes, Option.none_or]
      by_cases last : before.limiters.length = 1
      · exact unblocked.lastExit rfl disabled (rule exits last)
      · refine unblocked.keep rfl (by simp [disabled]) ?_
        intro _ stopped
        obtain ⟨inside, -⟩ := List.getElem?_eq_some_iff.mp live
        have none := congrArg List.length stopped
        rw [List.length_eraseIdx_of_lt inside, List.length_nil] at none
        omega

/-- When the last limiter exits after a write for a temperature that calls for the last
limit, charging is left blocked.
-/
theorem Unblocked.below {before after : Listener} {lastWrite : Option Selection}
    {event : ListenerEvent} (unblocked : Unblocked (before, lastWrite))
    (taken : listenerMachine.step before event = some after)
    (free : NotLeftBlocked (after, noteWrite lastWrite before event after))
    (exits : before.exits event = true) (last : before.limiters.length = 1)
    : ∀ selection ∈ lastWrite, ¬selection.ReachesLastLimit := by
  intro selection same reaches
  obtain rfl := Option.mem_def.mp same
  obtain ⟨disabled, writes, index, inside, rfl⟩ := Listener.exited_of_exits taken exits
  have blocked : before.scenarioFcc = 0 :=
    (Selection.voltLimit_eq_zero_iff (unblocked.written selection rfl)).mpr reaches
  have stopped : before.limiters.eraseIdx index = [] := by
    rw [← List.length_eq_zero_iff, List.length_eraseIdx_of_lt inside]
    omega
  exact free ⟨disabled, stopped, blocked, by simp [noteWrite, writes]⟩

/-- In every run from a new listener, charging is never left blocked exactly when the last
limiter exits only after a write, if any, below the last limit. Witness: `Unblocked`, which
every other step keeps.
-/
theorem notLeftBlocked_iff (fcc : Int) (events : List ListenerEvent)
    : writeMachine.Always NotLeftBlocked ({ scenarioFcc := fcc }, none) events
      ↔ writeMachine.Along ExitsBelowLastLimit ({ scenarioFcc := fcc }, none) events := by
  refine Machine.observe_always_iff_along Unblocked ?_ ?_ ?_ ?_ (Machine.along_true _ _)
  · exact fun listener lastWrite unblocked => unblocked.free
  · intro before lastWrite event after unblocked taken _ rule
    exact unblocked.step taken rule
  · intro before lastWrite event after unblocked taken _ free
    exact unblocked.below taken free
  · exact ⟨by simp, by simp, by simp [NotLeftBlocked]⟩

/-- A hot battery makes the limiter write 0 mA, the battery stops charging because of it,
and the limiter stops.
-/
theorem notLeftBlocked_fails_hot
    : ¬writeMachine.Always NotLeftBlocked ({ scenarioFcc := 9000 }, none)
        (.healthInfoChanged
            { batteryStatus := .charging, usbOnline := 1, wlsOnline := 0,
              usbChgType := "[PD_PPS]" }
          :: List.replicate 5 .callback
          ++ List.replicate 9
            (.limiter 0
              { shellFront := some 48000, battery := 48000, shellBack := none, wlsTherm := 0 })
          ++ .healthInfoChanged
            { batteryStatus := .notCharging, usbOnline := 1, wlsOnline := 0,
              usbChgType := "[PD_PPS]" }
          :: List.replicate 4 .callback
          ++ [.limiter 0
            { shellFront := some 40000, battery := 40000, shellBack := none,
              wlsTherm := 0 }]) := by
  decide

end PongDevice.Charging
