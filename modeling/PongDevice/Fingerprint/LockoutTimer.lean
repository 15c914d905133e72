import PongDevice.Fingerprint.SessionRuns

/-! The timer of a timed lockout. One detached thread at a time sleeps until the lockout it
was started for ends; a later lockout reuses it with the deadline and the abort flag that
the earlier one left behind.
-/

namespace PongDevice.Fingerprint

open Transition

/-- The started flag counts the sleeping timer threads. -/
def Lockout.OneTimer (lockout : Lockout) : Prop :=
  lockout.timers.length = if lockout.started then 1 else 0

/-- Without a started timer no thread sleeps. -/
theorem Lockout.OneTimer.idle {lockout : Lockout} (one : lockout.OneTimer)
    (idle : lockout.started = false)
    : lockout.timers = [] := by
  simpa [OneTimer, idle] using one

/-- With a started timer some thread sleeps. -/
theorem Lockout.OneTimer.pending {lockout : Lockout} (one : lockout.OneTimer)
    (pending : lockout.started = true)
    : lockout.timers ≠ [] := by
  intro none
  simp [OneTimer, pending, none] at one

/-- The thread that wakes up was the only one. -/
theorem Lockout.OneTimer.eraseIdx {lockout : Lockout} (one : lockout.OneTimer)
    {index : Nat} {deadline : Int} (pending : lockout.timers[index]? = some deadline)
    : lockout.timers.eraseIdx index = [] := by
  obtain ⟨inside, _⟩ := List.getElem?_eq_some_iff.mp pending
  have count : lockout.timers.length ≤ 1 := by
    unfold Lockout.OneTimer at one
    split at one <;> omega
  apply List.eq_nil_of_length_eq_zero
  rw [List.length_eraseIdx_of_lt inside]
  omega

/-- Every lockout step keeps the flag and the threads together: a timer starts only when no
thread sleeps, and an expiry consumes the thread and clears the flag.
-/
theorem LockoutStep.oneTimer {now : Int} {input : LockoutInput} {before after : Lockout}
    (step : LockoutStep now input before after) (one : before.OneTimer)
    : after.OneTimer := by
  cases step with
  | quiet | permanent | running | matched | reset | other => exact one
  | starting mode idle => simp [Lockout.OneTimer, one.idle idle]
  | expired pending _ _ | expiredAborted pending _ _ =>
      simp [Lockout.OneTimer, one.eraseIdx pending]

def LockoutNotice.isTimed : LockoutNotice → Bool
  | .timed _ => true
  | _ => false

/-- When the last lockout callback was `onLockoutTimed`, a timer is pending and not aborted,
and its expiry sends `onLockoutCleared`.
-/
def World.TimedLockoutClears (world : World) : Prop :=
  (lockoutNotices world.session.sent).head?.any (fun notice => notice.2.isTimed) = true
  → world.session.lockoutTimers ≠ []
    ∧ world.session.mIsLockoutTimerAborted = false
    ∧ (lockoutNotices (world.session.lockoutTimerExpired world.now).sent).head?
      = some (world.now, .cleared)

instance : DecidablePred World.TimedLockoutClears :=
  fun _ => inferInstanceAs (Decidable (_ → _))

/-- The tracker's answer when the event is a failed match: its mode after counting it. -/
def World.failedMode (world : World) : LockoutMode :=
  ((world.session.mLockoutTracker.addFailedAttempt world.now).getMode world.now).1

/-- The event is a failed match that puts the tracker into a timed lockout. -/
def World.ReportsTimed (world : World) (event : SessionEvent) : Prop :=
  world.lockoutInput event = .failed ∧ world.failedMode = .timed

/-- No timed lockout is reported while an aborted timer is still pending. -/
def World.NoAbortedTimer (before : World) (event : SessionEvent) (_ : World) : Prop :=
  before.ReportsTimed event
  → ¬(before.session.mIsLockoutTimerStarted = true
      ∧ before.session.mIsLockoutTimerAborted = true)

/-- The lockout behind a last `onLockoutTimed` has its timer, and nothing has aborted it. -/
structure Lockout.TimerArmed (lockout : Lockout) : Prop where
  one : lockout.OneTimer
  armed
    : lockout.notices.head?.any (fun notice => notice.2.isTimed) = true
      → lockout.started = true ∧ lockout.aborted = false

/-- An armed timer is all that clearing takes: its expiry runs `clearLockout`. -/
theorem Lockout.TimerArmed.clears {world : World}
    (armed : world.session.lockout.TimerArmed)
    : world.TimedLockoutClears := by
  intro timed
  obtain ⟨started, aborted⟩ := armed.armed timed
  have live : world.session.mIsLockoutTimerAborted = false := aborted
  refine ⟨armed.one.pending started, live, ?_⟩
  simp [Session.lockoutTimerExpired, live, Session.clearLockout, Session.callback,
    Session.send, lockoutNotices, Output.lockoutNotice?]

/-- Unless a timed lockout is reported over an aborted timer, the timer stays armed.
Witness: each callback that is not `onLockoutTimed` releases the obligation, and a reported
timed lockout finds a live timer or starts one.
-/
theorem LockoutStep.timerArmed {now : Int} {input : LockoutInput} {before after : Lockout}
    (step : LockoutStep now input before after) (armed : before.TimerArmed)
    (rule
      : input = .failed
        → ((before.tracker.addFailedAttempt now).getMode now).1 = .timed
        → ¬(before.started = true ∧ before.aborted = true))
    : after.TimerArmed := by
  refine ⟨step.oneTimer armed.one, ?_⟩
  cases step with
  | quiet | matched | other => exact armed.armed
  | permanent | reset | expired => simp [LockoutNotice.isTimed]
  | running mode pending =>
      intro _
      have live := rule rfl (by rw [mode])
      simp only [pending, true_and, Bool.not_eq_true] at live
      exact ⟨pending, live⟩
  | starting => simp
  | expiredAborted _ _ aborted =>
      intro timed
      -- an aborted timer never stands behind a last `onLockoutTimed`
      have live := (armed.armed timed).2
      simp [aborted] at live

/-- Reporting a timed lockout over an aborted timer leaves it with nothing to clear it. -/
theorem World.TimedLockoutClears.noAbortedTimer {before after : World}
    {event : SessionEvent} (taken : sessionMachine.step before event = some after)
    (clears : after.TimedLockoutClears)
    : before.NoAbortedTimer event after := by
  intro reports live
  obtain ⟨failed, timed⟩ := reports
  obtain ⟨started, aborted⟩ := live
  have step := (World.lockoutStep taken).1
  rw [failed] at step
  have stuck : after.session.lockout.aborted = true
      ∧ after.session.lockout.notices.head?.any (fun notice => notice.2.isTimed) = true := by
    generalize lockout : after.session.lockout = result at step
    have given : ((before.session.lockout.tracker.addFailedAttempt before.now).getMode
        before.now).1 = .timed := timed
    cases step with
    | quiet mode | permanent mode => simp [mode] at given
    | running => exact ⟨aborted, by simp [LockoutNotice.isTimed]⟩
    | starting mode idle =>
        have idle : before.session.mIsLockoutTimerStarted = false := idle
        simp [started] at idle
  have live := (clears stuck.2).2.1
  exact absurd (live.symm.trans stuck.1) (by simp)

/-- In a run of a session, the last `onLockoutTimed` always has a live timer behind it
exactly when no timed lockout is ever reported while an aborted timer is pending.
-/
theorem timedLockoutClears_iff (now userId : Int) (tracker : LockoutTracker)
    (events : List SessionEvent)
    : sessionMachine.Always World.TimedLockoutClears (.opened now userId tracker) events
      ↔ sessionMachine.Along World.NoAbortedTimer (.opened now userId tracker) events := by
  have assumed
      : sessionMachine.Along (fun _ _ _ => True) (.opened now userId tracker) events :=
    Machine.along_true _ _
  refine Machine.always_iff_along (fun world => world.session.lockout.TimerArmed)
    (fun _ armed => armed.clears) ?_ ?_ ?_ assumed
  · intro before event after armed taken _ rule
    exact (World.lockoutStep taken).1.timerArmed armed
      (fun failed timed => rule ⟨failed, timed⟩)
  · intro before event after _ taken _ clears
    exact clears.noAbortedTimer taken
  · rw [World.opened_lockout]
    exact ⟨rfl, by simp⟩

/-- A message that the finger matched no template. -/
def SessionEvent.failedMatch : SessionEvent :=
  .notify (.authenticated { gid := 0, fid := 0 } default)

/-- Five failures, a reset and five more failures within 30 s: the second `onLockoutTimed`
has only the aborted timer of the first one.
-/
theorem timedLockoutClears_fails_after_reset
    : ¬sessionMachine.Always World.TimedLockoutClears (.opened 1 0 {})
        (.replicate 5 .failedMatch ++ .call .resetLockout :: .replicate 5 .failedMatch) := by
  decide

end PongDevice.Fingerprint
