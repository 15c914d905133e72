import PongDevice.Fingerprint.LockoutTimer

/-! A permanent lockout lasts until a match or `resetLockout`. A timer that an earlier timed
lockout left behind could lift it; it cannot, because going permanent aborts that timer.
-/

namespace PongDevice.Fingerprint

open Transition

/-- The failed attempts delivered to a session since its last match or `resetLockout`. -/
def noteAttempts (failures : Nat) (before : World) (event : SessionEvent) (_ : World) : Nat :=
  (before.lockoutInput event).count failures

/-- A session together with the failed attempts delivered to it. -/
def attemptsMachine : Machine (World × Nat) SessionEvent :=
  sessionMachine.observe noteAttempts

/-- The mode is `PERMANENT`, in the tracker and to whoever asks at any instant, exactly from
the twentieth failed attempt on, and the started flag counts the sleeping timer threads.
-/
structure PermanentByAttempts (state : World × Nat) : Prop where
  mode
    : state.1.session.mLockoutTracker.mCurrentMode = .permanent
      ↔ lockoutPermanentThreshold ≤ state.2
  reported
    : ∀ instant,
      (state.1.session.mLockoutTracker.getMode instant).1 = .permanent
        ↔ lockoutPermanentThreshold ≤ state.2
  oneTimer
    : state.1.session.lockoutTimers.length
      = if state.1.session.mIsLockoutTimerStarted then 1 else 0

/-- Only a match or `resetLockout` lifts a permanent lockout. -/
def KeepsPermanent (before : World) (event : SessionEvent) (after : World) : Prop :=
  before.session.mLockoutTracker.mCurrentMode = .permanent
  → before.lockoutInput event ≠ .matched
  → before.lockoutInput event ≠ .resetLockout
  → after.session.mLockoutTracker.mCurrentMode = .permanent

/-- The counter holds the failed attempts, a full counter means a permanent mode, and a timer
that sleeps through a permanent lockout is aborted.
-/
structure Lockout.PermanentAt (lockout : Lockout) (failures : Nat) : Prop where
  one : lockout.OneTimer
  counted : lockout.tracker.Counted
  counts : lockout.tracker.mFailedCount = failures
  full
    : lockoutPermanentThreshold ≤ failures → lockout.tracker.mCurrentMode = .permanent
  aborted
    : lockout.tracker.mCurrentMode = .permanent
      → lockout.started = true
      → lockout.aborted = true

/-- The counter and the mode reach the permanent threshold together. -/
theorem Lockout.PermanentAt.mode_iff {lockout : Lockout} {failures : Nat}
    (sound : lockout.PermanentAt failures)
    : lockout.tracker.mCurrentMode = .permanent ↔ lockoutPermanentThreshold ≤ failures :=
  ⟨fun permanent => sound.counts ▸ sound.counted.permanent permanent, sound.full⟩

/-- No instant is late enough for a permanent mode to time out, nor does asking make one. -/
theorem LockoutTracker.getMode_permanent (tracker : LockoutTracker) (instant : Int)
    : (tracker.getMode instant).1 = .permanent ↔ tracker.mCurrentMode = .permanent := by
  simp only [getMode]
  split
  · rename_i elapsed
    simp [elapsed.1]
  · exact Iff.rfl

/-- The timer that wakes up unaborted belongs to no permanent lockout. -/
theorem Lockout.PermanentAt.not_full {lockout : Lockout} {failures index : Nat}
    {deadline : Int} (sound : lockout.PermanentAt failures)
    (pending : lockout.timers[index]? = some deadline) (armed : lockout.aborted = false)
    : ¬lockoutPermanentThreshold ≤ failures := by
  intro enough
  have started : lockout.started = true := by
    by_contra idle
    rw [sound.one.idle (Bool.eq_false_iff.mpr idle)] at pending
    simp at pending
  have aborted := sound.aborted (sound.full enough) started
  rw [armed] at aborted
  exact Bool.false_ne_true aborted

/-- Below the permanent threshold the mode that a failure gives is the tracker's new one and
is not permanent.
-/
theorem Lockout.PermanentAt.failed {lockout : Lockout} {failures : Nat} {now : Int}
    {mode : LockoutMode} {tracker : LockoutTracker} (sound : lockout.PermanentAt failures)
    (given : (lockout.tracker.addFailedAttempt now).getMode now = (mode, tracker))
    : tracker.mCurrentMode = mode
      ∧ (mode = .permanent ↔ lockoutPermanentThreshold ≤ failures + 1) := by
  rw [sound.counted.getMode_addFailedAttempt now, sound.counts] at given
  by_cases permanent : lockoutPermanentThreshold ≤ failures + 1
  · rw [if_pos permanent] at given
    obtain ⟨rfl, rfl⟩ := Prod.mk.inj given
    simp [permanent]
  · rw [if_neg permanent] at given
    split at given
    · obtain ⟨rfl, rfl⟩ := Prod.mk.inj given
      simp [permanent]
    · obtain ⟨rfl, rfl⟩ := Prod.mk.inj given
      simp [permanent]

/-- Every lockout step keeps the counter, the mode, the timer and its abort flag together.
Witness: a failure either aborts the timer as it goes permanent or stays below the
threshold, and an expiry that clears finds the counter below it.
-/
theorem LockoutStep.permanentAt {now : Int} {input : LockoutInput} {before after : Lockout}
    {failures : Nat} (step : LockoutStep now input before after)
    (sound : before.PermanentAt failures)
    : after.PermanentAt (input.count failures) := by
  have counts := step.mFailedCount
  rw [sound.counts] at counts
  refine ⟨step.oneTimer sound.one, step.counted sound.counted, counts, ?_, ?_⟩
  · intro enough
    cases step with
    | quiet mode | permanent mode | running mode | starting mode =>
        obtain ⟨same, full⟩ := sound.failed mode
        exact same.trans (full.mpr enough)
    | matched | reset => simp [LockoutInput.count, lockoutPermanentThreshold] at enough
    | expired pending _ armed => exact absurd enough (sound.not_full pending armed)
    | expiredAborted | other => exact sound.full enough
  · intro permanent started
    cases step with
    | permanent | reset => rfl
    | quiet mode | running mode | starting mode =>
        rw [(sound.failed mode).1] at permanent
        cases permanent
    | matched | expired => cases permanent
    | expiredAborted => cases started
    | other => exact sound.aborted permanent started

end PongDevice.Fingerprint
