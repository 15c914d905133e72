import Mathlib.Algebra.Order.BigOperators.Group.List
import Mathlib.Algebra.Order.Ring.Nat
import PongDevice.Charging.LimiterThreads

/-! What the limiter threads still do once they are told to stop. They look at `enableChgLimit`
twice in an iteration, so that each of them goes on to the second look, and no thread is started
before the flag is set again.
-/

namespace PongDevice.Charging

open Transition

/-- A weight over a list after one of its values has been taken out. -/
theorem sum_map_eraseIdx {α : Type*} (weight : α → Nat) {list : List α} {index : Nat} {value : α}
    (found : list[index]? = some value)
    : ((list.eraseIdx index).map weight).sum + weight value = (list.map weight).sum := by
  obtain ⟨inside, rfl⟩ := List.getElem?_eq_some_iff.mp found
  have whole := ((List.getElem_cons_eraseIdx_perm inside).map weight).sum_nat
  rw [List.map_cons, List.sum_cons] at whole
  omega

/-- And after it has been replaced. -/
theorem sum_map_set {α : Type*} (weight : α → Nat) {list : List α} {index : Nat} {value : α}
    (found : list[index]? = some value) (next : α)
    : ((list.set index next).map weight).sum + weight value
      = (list.map weight).sum + weight next := by
  have others := sum_map_eraseIdx weight found
  have inside := (List.getElem?_eq_some_iff.mp found).1
  have whole := ((List.set_perm_cons_eraseIdx inside next).map weight).sum_nat
  rw [List.map_cons, List.sum_cons] at whole
  omega

-----------------------------------------------------------------------------------------
-- What is left to a thread
-----------------------------------------------------------------------------------------

namespace Limiter

/-- The steps up to and with the next look at the flag. -/
def stepsLeft : Limiter → Nat
  | .loopTest | .retest => 1
  | .apply .. => 2
  | .limits .. => 3
  | .limitsUsb .. => 4
  | .thresholds .. => 5
  | .thresholdsUsb .. => 6
  | .temp .. => 7
  | .tempUsb _ => 8
  | .readLimit => 9

/-- The writes before it. -/
def writesLeft : Limiter → Nat
  | .loopTest | .retest => 0
  | _ => 1

theorem stepsLeft_le (limiter : Limiter) : limiter.stepsLeft ≤ 9 := by
  cases limiter <;> simp [stepsLeft]

theorem writesLeft_le (limiter : Limiter) : limiter.writesLeft ≤ 1 := by
  cases limiter <;> simp [writesLeft]

end Limiter

namespace Listener

variable {before after : Listener}

/-- The steps that are left to all threads. -/
def stepsLeft (listener : Listener) : Nat := (listener.limiters.map Limiter.stepsLeft).sum

def writesLeft (listener : Listener) : Nat := (listener.limiters.map Limiter.writesLeft).sum

/-- A thread that has not ended has a step left. -/
theorem stepsLeft_eq_zero {listener : Listener}
    : listener.stepsLeft = 0 ↔ listener.limiters = [] := by
  rw [stepsLeft]
  cases listener.limiters with
  | nil => simp
  | cons limiter rest =>
      have busy : 0 < limiter.stepsLeft := by cases limiter <;> simp [Limiter.stepsLeft]
      simp only [List.map_cons, List.sum_cons, reduceCtorEq, iff_false]
      omega

/-- Each thread has nine steps left at most, and one write. -/
theorem left_le (listener : Listener)
    : listener.stepsLeft ≤ 9 * listener.limiters.length
      ∧ listener.writesLeft ≤ listener.limiters.length := by
  have steps := List.sum_le_card_nsmul (listener.limiters.map Limiter.stepsLeft) 9
    (List.forall_mem_map.mpr (fun limiter _ => limiter.stepsLeft_le))
  have writes := List.sum_le_card_nsmul (listener.limiters.map Limiter.writesLeft) 1
    (List.forall_mem_map.mpr (fun limiter _ => limiter.writesLeft_le))
  simp only [List.length_map, Nat.nsmul_eq_mul] at steps writes
  simp only [stepsLeft, writesLeft]
  omega

/-- Whether the event is a write of the node. -/
def writeCount (listener : Listener) (event : ListenerEvent) : Nat :=
  if (listener.writes event).isSome then 1 else 0

/-- A thread that goes on leaves the other ones as they are. -/
theorem left_set {index count : Nat} {limiter next : Limiter}
    (live : before.limiters[index]? = some limiter)
    (fewer : next.stepsLeft + 1 = limiter.stepsLeft)
    (written : next.writesLeft + count ≤ limiter.writesLeft)
    : let after := { before with limiters := before.limiters.set index next }
      after.stepsLeft + 1 = before.stepsLeft
      ∧ after.writesLeft + count ≤ before.writesLeft := by
  have steps := sum_map_set Limiter.stepsLeft live next
  have writes := sum_map_set Limiter.writesLeft live next
  simp only [stepsLeft, writesLeft]
  omega

/-- What a thread does while the flag is false: it ends at its look at the flag, or goes on to it
with one step less, and with its write behind it if it makes one.
-/
theorem stepLimiter_left {index : Nat} {zones : Zones} (disabled : before.enableChgLimit = false)
    (taken : before.stepLimiter index zones = some after)
    : after.enableChgLimit = false
      ∧ after.callback = before.callback
      ∧ after.stepsLeft + 1 = before.stepsLeft
      ∧ after.writesLeft + before.writeCount (.limiter index zones) ≤ before.writesLeft := by
  unfold stepLimiter at taken
  split at taken
  · cases taken
  · rename_i limiter live
    cases limiter with
    | loopTest | retest =>
        simp only [disabled, Bool.false_eq_true, if_false, Option.some.injEq] at taken
        subst taken
        have quiet : before.writeCount (.limiter index zones) = 0 := by
          simp [writeCount, writes, live]
        rw [quiet]
        exact ⟨rfl, rfl, sum_map_eraseIdx Limiter.stepsLeft live,
          Nat.le_of_eq (sum_map_eraseIdx Limiter.writesLeft live)⟩
    | apply lastVoltLimit selection =>
        obtain ⟨limit, selected, rfl⟩ := Option.map_eq_some_iff.mp taken
        have most : before.writeCount (.limiter index zones) ≤ 1 := by
          unfold writeCount
          split <;> simp
        have left := @left_set before index (before.writeCount (.limiter index zones)) _ .retest
          live rfl (by simpa [Limiter.writesLeft] using most)
        split <;> exact ⟨disabled, rfl, left⟩
    | readLimit | tempUsb | temp | thresholdsUsb | thresholds | limitsUsb | limits =>
        obtain rfl := Option.some.inj taken
        have quiet : before.writeCount (.limiter index zones) = 0 := by
          simp [writeCount, writes, live]
        rw [quiet]
        exact ⟨disabled, rfl, left_set live rfl (Nat.le_refl _)⟩

/-- The flag is set when a thread is about to be started. -/
def StartsEnabled (listener : Listener) : Prop :=
  listener.callback = .startLimiter → listener.enableChgLimit = true

theorem StartsEnabled.step {event : ListenerEvent} (ready : before.StartsEnabled)
    (taken : listenerMachine.step before event = some after)
    : after.StartsEnabled := by
  cases listenerStep taken with
  | served _ _ _ _ later => exact fun starts => absurd starts later
  | disabled _ _ _ _ later => exact fun starts => absurd starts later
  | enabled enabled => exact fun _ => enabled
  | started waiting => exact fun starts => by cases starts
  | ran | wrote | exited => exact ready

/-- Without the flag, a step that is not a thread's leaves the threads as they are. -/
theorem limiters_step {event : ListenerEvent} (ready : before.StartsEnabled)
    (disabled : before.enableChgLimit = false)
    (taken : listenerMachine.step before event = some after)
    (other : ∀ index zones, event ≠ .limiter index zones)
    : after.limiters = before.limiters := by
  cases listenerStep taken with
  | served _ limiters | disabled _ limiters | enabled _ limiters => exact limiters
  | started waiting =>
      have enabled := ready waiting
      rw [disabled] at enabled
      cases enabled
  | ran | wrote | exited => exact absurd rfl (other _ _)

/-- A live thread can take its next step, unless it is about to look up a limit that the table does
not have.
-/
theorem goesOn {listener : Listener} {index : Nat} {limiter : Limiter}
    (live : listener.limiters[index]? = some limiter)
    (inTable
      : ∀ lastVoltLimit selection,
          limiter = .apply lastVoltLimit selection → selection.voltLimit.isSome = true)
    (zones : Zones)
    : (listenerMachine.step listener (.limiter index zones)).isSome = true := by
  simp only [listenerMachine, stepLimiter, live]
  cases limiter with
  | apply lastVoltLimit selection => simpa using inTable lastVoltLimit selection rfl
  | loopTest | readLimit | tempUsb | temp | thresholdsUsb | thresholds | limitsUsb | limits
  | retest => rfl

end Listener

-----------------------------------------------------------------------------------------
-- A whole run
-----------------------------------------------------------------------------------------

/-- The threads that were live when `enableChgLimit` was cleared, and what they have done since. -/
structure WindDown where
  threads : Nat := 0
  steps : Nat := 0
  writes : Nat := 0

def noteWindDown (seen : WindDown) (before : Listener) (event : ListenerEvent) (after : Listener)
    : WindDown :=
  if before.enableChgLimit then
    { threads := after.limiters.length }
  else
    match event with
    | .limiter .. =>
        { seen with steps := seen.steps + 1, writes := seen.writes + before.writeCount event }
    | .healthInfoChanged _ | .callback => seen

def windDownMachine : Machine (Listener × WindDown) ListenerEvent :=
  listenerMachine.observe noteWindDown

/-- While the flag is false: the steps that are left to the threads bring all of them to their end,
with one write at most for each of them, and each of them can take its next step, unless it is about
to look up a limit that the table does not have.
-/
structure WindsDown (listener : Listener) (seen : WindDown) : Prop where
  steps : seen.steps + listener.stepsLeft ≤ 9 * seen.threads
  writes : seen.writes ≤ seen.threads
  ended : listener.stepsLeft = 0 ↔ listener.limiters = []
  goesOn
    : ∀ index, ∀ limiter ∈ listener.limiters[index]?,
        (∀ lastVoltLimit selection,
          limiter = .apply lastVoltLimit selection → selection.voltLimit.isSome = true)
        → ∀ zones, (listenerMachine.step listener (.limiter index zones)).isSome = true

/-- What a run keeps: while the flag is false, what the threads have done and what they have left
are what they had left as it was cleared.
-/
structure Winds (listener : Listener) (seen : WindDown) : Prop where
  ready : listener.StartsEnabled
  left
    : listener.enableChgLimit = false
      → seen.steps + listener.stepsLeft ≤ 9 * seen.threads
        ∧ seen.writes + listener.writesLeft ≤ seen.threads

theorem Winds.windsDown {listener : Listener} {seen : WindDown} (winds : Winds listener seen)
    (disabled : listener.enableChgLimit = false)
    : WindsDown listener seen := by
  obtain ⟨steps, writes⟩ := winds.left disabled
  exact {
    steps
    writes := Nat.le_trans (Nat.le_add_right _ _) writes
    ended := Listener.stepsLeft_eq_zero
    goesOn := fun _ _ live inTable => Listener.goesOn live inTable
  }

/-- Every step keeps the account, which begins anew with the step that clears the flag. -/
theorem Winds.step {before after : Listener} {seen : WindDown} {event : ListenerEvent}
    (winds : Winds before seen) (taken : listenerMachine.step before event = some after)
    : Winds after (noteWindDown seen before event after) := by
  refine { ready := winds.ready.step taken, left := fun disabled => ?_ }
  cases flag : before.enableChgLimit with
  | true =>
      obtain ⟨steps, writes⟩ := after.left_le
      simp only [noteWindDown, flag, if_true]
      omega
  | false =>
      obtain ⟨steps, writes⟩ := winds.left flag
      cases event with
      | limiter index zones =>
          obtain ⟨-, -, fewer, written⟩ := Listener.stepLimiter_left flag taken
          simp only [noteWindDown, flag, Bool.false_eq_true, if_false]
          omega
      | healthInfoChanged | callback =>
          have same := Listener.limiters_step winds.ready flag taken (by simp)
          simp only [noteWindDown, flag, Bool.false_eq_true, if_false, Listener.stepsLeft,
            Listener.writesLeft, same]
          exact ⟨steps, writes⟩

end PongDevice.Charging
