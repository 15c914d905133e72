import Mathlib.Data.Int.Basic

/-! The failed-attempt counter of a fingerprint session and its lockout mode. -/

namespace PongDevice.Fingerprint

/-- `Util::hasElapsed`, with the monotonic clock read as `now` nanoseconds. -/
def hasElapsed (now start durationMillis : Int) : Bool :=
  durationMillis < (now - start).tdiv 1000000

/-- `LOCKOUT_TIMED_THRESHOLD`. -/
def lockoutTimedThreshold : Nat := 5

/-- `LOCKOUT_TIMED_DURATION`, in milliseconds. -/
def lockoutTimedDuration : Int := 30 * 1000

/-- `LOCKOUT_PERMANENT_THRESHOLD`. -/
def lockoutPermanentThreshold : Nat := 20

inductive LockoutMode where
  | none
  | timed
  | permanent
deriving DecidableEq, Repr

/-- The tracker's members. The class initialises only `mFailedCount`; the start and the mode
of a new tracker read as zeroed memory leaves them, which is `NONE`.
-/
structure LockoutTracker where
  mFailedCount : Nat := 0
  mLockoutTimedStart : Int := 0
  mCurrentMode : LockoutMode := .none
deriving DecidableEq, Repr

namespace LockoutTracker

def reset (tracker : LockoutTracker) (clearAttemptCounter : Bool) : LockoutTracker :=
  {
    mFailedCount := if clearAttemptCounter then 0 else tracker.mFailedCount
    mLockoutTimedStart := 0
    mCurrentMode := .none
  }

def addFailedAttempt (tracker : LockoutTracker) (now : Int) : LockoutTracker :=
  let tracker := { tracker with mFailedCount := tracker.mFailedCount + 1 }
  if lockoutPermanentThreshold ≤ tracker.mFailedCount then
    { tracker with mCurrentMode := .permanent }
  else if lockoutTimedThreshold ≤ tracker.mFailedCount then
    { tracker with mCurrentMode := .timed, mLockoutTimedStart := now }
  else
    tracker

/-- The mode, and the tracker after a timed lockout that has run out was dropped. -/
def getMode (tracker : LockoutTracker) (now : Int) : LockoutMode × LockoutTracker :=
  let tracker :=
    if tracker.mCurrentMode = .timed
        ∧ hasElapsed now tracker.mLockoutTimedStart lockoutTimedDuration then
      { tracker with mCurrentMode := .none, mLockoutTimedStart := 0 }
    else
      tracker
  (tracker.mCurrentMode, tracker)

def getLockoutTimeLeft (tracker : LockoutTracker) (now : Int) : Int :=
  if 0 < tracker.mLockoutTimedStart then
    lockoutTimedDuration - (now - tracker.mLockoutTimedStart).tdiv 1000000
  else
    0

/-- The lockout in force at `now`: permanent, or timed with fewer than 30 s elapsed since the
failure that (re)started it.
-/
def LockedOut (tracker : LockoutTracker) (now : Int) : Prop :=
  tracker.mCurrentMode = .permanent
  ∨ tracker.mCurrentMode = .timed
    ∧ now - tracker.mLockoutTimedStart < lockoutTimedDuration * 1000000

instance (tracker : LockoutTracker) (now : Int) : Decidable (tracker.LockedOut now) :=
  inferInstanceAs (Decidable (_ ∨ _ ∧ _))

/-- The mode never runs ahead of the counter that produced it. -/
structure Counted (tracker : LockoutTracker) : Prop where
  timed : tracker.mCurrentMode = .timed → lockoutTimedThreshold ≤ tracker.mFailedCount
  permanent
    : tracker.mCurrentMode = .permanent → lockoutPermanentThreshold ≤ tracker.mFailedCount

/-- A new tracker counts nothing and locks nothing. -/
theorem counted_new : Counted {} :=
  ⟨nofun, nofun⟩

/-- Resetting leaves the mode `NONE`, so the counter owes it nothing. -/
theorem counted_reset (tracker : LockoutTracker) (clearAttemptCounter : Bool)
    : (tracker.reset clearAttemptCounter).Counted :=
  ⟨nofun, nofun⟩

/-- Below both thresholds the mode is `NONE`. -/
theorem Counted.mode_of_lt {tracker : LockoutTracker} (counted : tracker.Counted)
    (few : tracker.mFailedCount < lockoutTimedThreshold)
    : tracker.mCurrentMode = .none := by
  cases mode : tracker.mCurrentMode with
  | none => rfl
  | timed => exact absurd (counted.timed mode) (Nat.not_le.mpr few)
  | permanent =>
      have enough := counted.permanent mode
      simp only [lockoutPermanentThreshold, lockoutTimedThreshold] at enough few
      omega

/-- No time has elapsed at the start of a duration. -/
theorem hasElapsed_self (now : Int)
    : hasElapsed now now lockoutTimedDuration = false := by
  simp [hasElapsed, lockoutTimedDuration]

/-- What counting one failure and then asking for the mode at the same instant gives: the
three ranges of the new count decide the mode, and a timed one restarts now.
-/
theorem Counted.getMode_addFailedAttempt {tracker : LockoutTracker}
    (counted : tracker.Counted) (now : Int)
    : (tracker.addFailedAttempt now).getMode now
      = if lockoutPermanentThreshold ≤ tracker.mFailedCount + 1 then
          (.permanent,
            { tracker with
              mFailedCount := tracker.mFailedCount + 1
              mCurrentMode := .permanent })
        else if lockoutTimedThreshold ≤ tracker.mFailedCount + 1 then
          (.timed,
            {
              mFailedCount := tracker.mFailedCount + 1
              mLockoutTimedStart := now
              mCurrentMode := .timed
            })
        else
          (.none,
            { tracker with
              mFailedCount := tracker.mFailedCount + 1
              mCurrentMode := .none }) := by
  by_cases permanent : lockoutPermanentThreshold ≤ tracker.mFailedCount + 1
  · simp [addFailedAttempt, getMode, permanent]
  by_cases timed : lockoutTimedThreshold ≤ tracker.mFailedCount + 1
  · simp [addFailedAttempt, getMode, permanent, timed, hasElapsed_self]
  have quiet := counted.mode_of_lt (by omega)
  simp [addFailedAttempt, getMode, permanent, timed, quiet]

/-- Counting a failure and asking for the mode keep the mode behind the counter. -/
theorem Counted.failed {tracker : LockoutTracker} (counted : tracker.Counted) (now : Int)
    : ((tracker.addFailedAttempt now).getMode now).2.Counted := by
  rw [counted.getMode_addFailedAttempt now]
  split
  · exact ⟨nofun, fun _ => by assumption⟩
  · split
    · exact ⟨fun _ => by assumption, nofun⟩
    · exact ⟨nofun, nofun⟩

/-- A failure is counted once, whichever branch it takes. -/
@[simp]
theorem addFailedAttempt_mFailedCount (tracker : LockoutTracker) (now : Int)
    : (tracker.addFailedAttempt now).mFailedCount = tracker.mFailedCount + 1 := by
  simp only [addFailedAttempt]
  split
  · rfl
  · split <;> rfl

/-- Asking for the mode never changes the counter. -/
@[simp]
theorem getMode_mFailedCount (tracker : LockoutTracker) (now : Int)
    : (tracker.getMode now).2.mFailedCount = tracker.mFailedCount := by
  simp only [getMode]
  split <;> rfl

end LockoutTracker

end PongDevice.Fingerprint
