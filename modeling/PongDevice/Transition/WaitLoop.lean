/-! A thread that waits on a condition variable until it has work or is stopped:
`while (run) { condition.wait(lock, work || !run); if (run) body; }`. Whoever stops it does not
take the lock, so that a notification may come after the thread has found nothing to do and before
it sleeps.
-/

namespace PongDevice.Transition

/-- Where the thread stands: before it has its lock, at the test of its loop, at the predicate of
its wait, still in the wait though the predicate was false, asleep without the lock, behind the
wait, in its body, or at its end.
-/
inductive WaitPoint where
  | starting
  | looping
  | testing
  | falling
  | asleep
  | woken
  | busy
  | exited
deriving DecidableEq, Repr

namespace WaitPoint

/-- The thread keeps its lock. A body lets go of it. -/
def holdsLock : WaitPoint → Bool
  | looping | testing | falling | woken => true
  | starting | asleep | busy | exited => false

/-- A step of the thread outside its body, which starts behind the wait while the thread is to run.
-/
def advance (run work : Bool) : WaitPoint → Option WaitPoint
  | starting => some looping
  | looping => some (if run then testing else exited)
  | testing => some (if work || !run then woken else falling)
  | falling => some asleep
  | woken => if run then none else some looping
  | asleep | busy | exited => none

/-- A notification, which only a sleeping thread gets. -/
def notify : WaitPoint → WaitPoint
  | asleep => testing
  | point => point

/-- The thread sleeps, or will, unless it is notified once it does. -/
def sleeps : WaitPoint → Bool
  | falling | asleep => true
  | starting | looping | testing | woken | busy | exited => false

/-- How many steps a stopped thread that does not sleep is from its end; a body of `rest` steps
counts with them.
-/
def remaining (rest : Nat) : WaitPoint → Nat
  | starting | woken => 2
  | looping => 1
  | testing => 3
  | busy => rest + 1
  | falling | asleep | exited => 0

variable {point next : WaitPoint} {work : Bool}

/-- A notification puts no thread to sleep. -/
theorem sleeps_notify_of_awake (awake : point.sleeps = false) : point.notify = point := by
  cases point <;> first | rfl | cases awake

/-- A notification is missed only between the predicate and the sleep. -/
theorem sleeps_notify (point : WaitPoint) : point.notify.sleeps = true ↔ point = falling := by
  cases point <;> decide

/-- A stopped thread never falls asleep again, and is one step nearer to its end. -/
theorem advance_stopped (awake : point.sleeps = false) (taken : point.advance false work = some next)
    (rest : Nat)
    : next.sleeps = false ∧ next.remaining rest + 1 = point.remaining rest := by
  cases point with
  | starting | looping | woken =>
      obtain rfl := Option.some.inj taken
      exact ⟨rfl, rfl⟩
  | testing =>
      rw [advance, Bool.not_false, Bool.or_true, if_pos rfl] at taken
      obtain rfl := Option.some.inj taken
      exact ⟨rfl, rfl⟩
  | falling | asleep => cases awake
  | busy | exited => cases taken

theorem remaining_le (rest : Nat) (point : WaitPoint) : point.remaining rest ≤ max 3 (rest + 1) := by
  cases point <;> simp only [remaining] <;> omega

@[simp]
theorem notify_eq_busy : point.notify = busy ↔ point = busy := by
  cases point <;> decide

@[simp]
theorem notify_eq_exited : point.notify = exited ↔ point = exited := by
  cases point <;> decide

/-- A step outside the body does not start in it, lead into it, or start at the end. -/
theorem advance_eq_some {run : Bool} (taken : point.advance run work = some next)
    : point ≠ busy ∧ point ≠ exited ∧ next ≠ busy := by
  cases point with
  | starting | falling =>
      obtain rfl := Option.some.inj taken
      decide
  | looping | testing =>
      obtain rfl := Option.some.inj taken
      refine ⟨nofun, nofun, ?_⟩
      split <;> decide
  | woken =>
      simp only [advance] at taken
      split at taken
      · cases taken
      · obtain rfl := Option.some.inj taken
        decide
  | asleep | busy | exited => cases taken

/-- A thread goes to sleep, or leaves its wait, by what it sees of its work, and ends if it is
stopped.
-/
theorem advance_outcome {run : Bool} (taken : point.advance run work = some next)
    : (next.sleeps = true → work = false ∨ point.sleeps = true)
      ∧ (next = woken → work = true ∨ run = false)
      ∧ (next = exited → run = false) := by
  cases point with
  | starting | looping | testing | falling =>
      obtain rfl := Option.some.inj taken
      cases run <;> cases work <;> decide
  | woken =>
      cases run with
      | true => cases taken
      | false =>
          obtain rfl := Option.some.inj taken
          cases work <;> decide
  | asleep | busy | exited => cases taken

/-- A notification takes no thread out of its wait. -/
@[simp]
theorem notify_eq_woken : point.notify = woken ↔ point = woken := by
  cases point <;> decide

/-- A stopped thread that does not sleep is in its body, at its end, or can go on. -/
theorem advance_isSome (awake : point.sleeps = false) (work : Bool)
    : point = busy ∨ point = exited ∨ (point.advance false work).isSome = true := by
  cases point with
  | starting | looping | testing | woken => exact .inr (.inr rfl)
  | falling | asleep => cases awake
  | busy => exact .inl rfl
  | exited => exact .inr (.inl rfl)

end WaitPoint

end PongDevice.Transition
