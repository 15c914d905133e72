import PongDevice.Fingerprint.LockoutTimer

/-! How long a reported timed lockout lasts. Each failure reports a full duration anew, but
the timer keeps the deadline of the failure that started it.
-/

namespace PongDevice.Fingerprint

open Transition

/-- Reported timed lockouts, each with its time in nanoseconds and its duration in
milliseconds, that no success and no `resetLockout` has ended since.
-/
abbrev Reports := List (Int × Int)

def timedReport? : Int × LockoutNotice → Option (Int × Int)
  | (time, .timed durationMillis) => some (time, durationMillis)
  | _ => none

/-- The lockout callbacks in front of those that `before` already held. -/
def newNotices (before after : List (Int × LockoutNotice)) : List (Int × LockoutNotice) :=
  after.take (after.length - before.length)

/-- The reports owed after an event; a match and a `resetLockout` end them all. -/
def owedReports (input : LockoutInput) (before after : List (Int × LockoutNotice))
    (reports : Reports)
    : Reports :=
  if input = .matched ∨ input = .resetLockout then []
  else (newNotices before after).filterMap timedReport? ++ reports

def noteReports (reports : Reports) (before : World) (event : SessionEvent) (after : World)
    : Reports :=
  owedReports (before.lockoutInput event) (lockoutNotices before.session.sent)
    (lockoutNotices after.session.sent) reports

/-- A session together with the reports that are still owed their duration. -/
def reportingMachine : Machine (World × Reports) SessionEvent :=
  sessionMachine.observe noteReports

/-- A timer's expiry clears the tracker or sends `onLockoutCleared` only when every timed
lockout still owed its duration has lasted that long.
-/
def LastsAsReported (before : World × Reports) (event : SessionEvent)
    (after : World × Reports)
    : Prop :=
  before.1.lockoutInput event = .expired
  → (after.1.session.mLockoutTracker ≠ before.1.session.mLockoutTracker
      ∨ newNotices (lockoutNotices before.1.session.sent)
          (lockoutNotices after.1.session.sent) ≠ [])
  → ∀ report ∈ before.2, report.1 + report.2 * 1000000 ≤ before.1.now

instance : ∀ before event after, Decidable (LastsAsReported before event after) :=
  fun _ _ _ => inferInstanceAs (Decidable (_ → _ → _))

/-- The duration that a failure at `time` reports; the tracker takes a start at 0 for none. -/
def reportedDuration (time : Int) : Int := if 0 < time then lockoutTimedDuration else 0

/-- A failure that brings the counter to a timed lockout comes only while no live timer is
pending that wakes up before the duration it reports is over.
-/
def World.TimerOutlasts (before : World) (event : SessionEvent) (_ : World) : Prop :=
  before.lockoutInput event = .failed
  → lockoutTimedThreshold ≤ before.session.mLockoutTracker.mFailedCount + 1
  → before.session.mLockoutTracker.mFailedCount + 1 < lockoutPermanentThreshold
  → before.session.mIsLockoutTimerAborted = false
  → ∀ deadline ∈ before.session.lockoutTimers,
      before.now + reportedDuration before.now * 1000000 ≤ deadline

instance : ∀ before event after, Decidable (World.TimerOutlasts before event after) :=
  fun _ _ _ => inferInstanceAs (Decidable (_ → _ → _ → _ → _))

/-- The end of a reported lockout moves forward with the time of the report. -/
theorem reportedDuration_mono {earlier later : Int} (le : earlier ≤ later)
    : earlier + reportedDuration earlier * 1000000
      ≤ later + reportedDuration later * 1000000 := by
  simp only [reportedDuration, lockoutTimedDuration]
  split <;> split <;> omega

/-- A failure that enters timed lockout reports the full duration. -/
theorem LockoutTracker.Counted.timeLeft_failed {tracker result : LockoutTracker}
    (counted : tracker.Counted) {now : Int}
    (mode : (tracker.addFailedAttempt now).getMode now = (.timed, result))
    : result.getLockoutTimeLeft now = reportedDuration now := by
  rw [counted.getMode_addFailedAttempt now] at mode
  split at mode
  · simp at mode
  · split at mode
    · obtain rfl := (Prod.mk.inj mode).2
      simp [LockoutTracker.getLockoutTimeLeft, reportedDuration]
    · simp at mode

/-- A failure enters timed lockout exactly when the new count lies between the thresholds. -/
theorem LockoutTracker.Counted.timed_iff {tracker : LockoutTracker}
    (counted : tracker.Counted) {now : Int}
    : ((tracker.addFailedAttempt now).getMode now).1 = .timed
      ↔ lockoutTimedThreshold ≤ tracker.mFailedCount + 1
        ∧ tracker.mFailedCount + 1 < lockoutPermanentThreshold := by
  rw [counted.getMode_addFailedAttempt now]
  split
  · simp only [reduceCtorEq, false_iff, not_and, not_lt]
    exact fun _ => by assumption
  · split
    · simp only [true_iff]
      omega
    · simp only [reduceCtorEq, false_iff, not_and]
      omega

/-- Every report still owed was made by now with its full duration, and a live timer wakes up
only after all of them are over.
-/
structure Outlasting (lockout : Lockout) (now : Int) (reports : Reports) : Prop where
  one : lockout.OneTimer
  counted : lockout.tracker.Counted
  reported : ∀ report ∈ reports, report.1 ≤ now ∧ report.2 = reportedDuration report.1
  outlasts
    : lockout.aborted = false
      → ∀ deadline ∈ lockout.timers,
        ∀ report ∈ reports, report.1 + report.2 * 1000000 ≤ deadline

/-- A report that is made now joins the reports that are owed. -/
theorem Outlasting.report {lockout : Lockout} {now : Int} {reports : Reports}
    (sound : Outlasting lockout now reports)
    : ∀ report ∈ (now, reportedDuration now) :: reports,
        report.1 ≤ now ∧ report.2 = reportedDuration report.1 := by
  intro report member
  rcases List.mem_cons.mp member with rfl | earlier
  · exact ⟨le_refl _, rfl⟩
  · exact sound.reported report earlier

/-- A failure that sends `onLockoutTimed` adds its report. -/
theorem owedReports_timed (now durationMillis : Int) (before : List (Int × LockoutNotice))
    (reports : Reports)
    : owedReports .failed before ((now, .timed durationMillis) :: before) reports
      = (now, durationMillis) :: reports := by
  simp [owedReports, newNotices, timedReport?]

/-- A lockout step keeps live timers behind the reports when a newly reported timed lockout
meets no live timer that wakes up too early.
Witness: a timer that starts now outlasts every report made up to now, because the end of a
report moves forward with its time; a reset or a match ends the reports.
-/
theorem LockoutStep.outlasting {now : Int} {input : LockoutInput} {before after : Lockout}
    {reports : Reports} (step : LockoutStep now input before after)
    (sound : Outlasting before now reports)
    (rule
      : input = .failed
        → ((before.tracker.addFailedAttempt now).getMode now).1 = .timed
        → before.aborted = false
        → ∀ deadline ∈ before.timers, now + reportedDuration now * 1000000 ≤ deadline)
    : Outlasting after now (owedReports input before.notices after.notices reports) := by
  have one := step.oneTimer sound.one
  have counted := step.counted sound.counted
  cases step with
  | quiet | other =>
      refine ⟨one, counted, ?_, ?_⟩
      · simpa [owedReports, newNotices] using sound.reported
      · simpa [owedReports, newNotices] using sound.outlasts
  | permanent =>
      refine ⟨one, counted, ?_, by simp⟩
      simpa [owedReports, newNotices, timedReport?] using sound.reported
  | running mode pending =>
      have left := sound.counted.timeLeft_failed mode
      simp only [owedReports_timed, left]
      refine ⟨one, counted, sound.report, ?_⟩
      intro live deadline member report reported
      rcases List.mem_cons.mp reported with rfl | earlier
      · exact rule rfl (by rw [mode]) live deadline member
      · exact sound.outlasts live deadline member report earlier
  | starting mode idle =>
      have left := sound.counted.timeLeft_failed mode
      simp only [left] at one counted
      simp only [owedReports_timed, left]
      refine ⟨one, counted, sound.report, ?_⟩
      intro _ deadline member report reported
      simp only [sound.one.idle idle, List.nil_append, List.mem_singleton] at member
      obtain ⟨made, duration⟩ := sound.report report reported
      rw [member, duration]
      exact reportedDuration_mono made
  | matched | reset => exact ⟨one, counted, by simp [owedReports], by simp [owedReports]⟩
  | expired pending | expiredAborted pending =>
      refine ⟨one, counted, ?_, ?_⟩
      · simpa [owedReports, newNotices, timedReport?] using sound.reported
      · simp [sound.one.eraseIdx pending]

/-- The passage of time lets reports and deadlines age together. -/
theorem Outlasting.elapse {lockout : Lockout} {now later : Int} {reports : Reports}
    (sound : Outlasting lockout now reports) (le : now ≤ later)
    : Outlasting lockout later reports :=
  { sound with
    reported := fun report member =>
      ⟨(sound.reported report member).1.trans le, (sound.reported report member).2⟩
  }

/-- An event that meets the rule keeps live timers behind the owed reports. -/
theorem Outlasting.step {before after : World} {reports : Reports} {event : SessionEvent}
    (sound : Outlasting before.session.lockout before.now reports)
    (taken : sessionMachine.step before event = some after)
    (rule : before.TimerOutlasts event after)
    : Outlasting after.session.lockout after.now
        (noteReports reports before event after) := by
  obtain ⟨step, later⟩ := World.lockoutStep taken
  refine (step.outlasting sound ?_).elapse later
  intro failed timed live deadline member
  obtain ⟨enough, below⟩ := sound.counted.timed_iff.mp timed
  exact rule failed enough below live deadline member

/-- When live timers outlast the owed reports, an expiry that clears anything comes after
every one of them; an aborted expiry clears nothing.
-/
theorem Outlasting.lastsAsReported {before after : World} {reports : Reports}
    {event : SessionEvent} (sound : Outlasting before.session.lockout before.now reports)
    (taken : sessionMachine.step before event = some after)
    : LastsAsReported (before, reports) event
        (after, noteReports reports before event after) := by
  intro expired clears report member
  have step := (World.lockoutStep taken).1
  rw [expired] at step
  have kept : after.session.lockout.tracker ≠ before.session.lockout.tracker
      ∨ newNotices before.session.lockout.notices after.session.lockout.notices ≠ [] :=
    clears
  generalize after.session.lockout = result at step kept
  cases step with
  | expired pending due armed =>
      exact (sound.outlasts armed _ (List.mem_of_getElem? pending) report member).trans due
  | expiredAborted => simp [newNotices] at kept

/-- In a run that never reports a timed lockout over a live timer with an earlier deadline,
no expiry cuts a reported timed lockout short.
-/
theorem lastsAsReported_of_timerOutlasts (now userId : Int) (events : List SessionEvent)
    (rule : sessionMachine.Along World.TimerOutlasts (.opened now userId {}) events)
    : reportingMachine.Along LastsAsReported (.opened now userId {}, []) events := by
  have assumed :
      reportingMachine.Along (fun before event after => before.1.TimerOutlasts event after.1)
        (.opened now userId {}, []) events :=
    Machine.observe_along.mpr rule
  refine Machine.observe_along_of_invariant
    (fun state => Outlasting state.1.session.lockout state.1.now state.2) ?_ ?_ assumed
  · intro world reports event next sound taken met
    exact ⟨sound.lastsAsReported taken, sound.step taken met⟩
  · exact ⟨rfl, LockoutTracker.counted_new, by simp, by simp⟩

/-- One lockout that runs its full 30 s. -/
theorem lastsAsReported_one_lockout
    : reportingMachine.Along LastsAsReported (.opened 1 0 {}, [])
        (.replicate 5 .failedMatch ++ [.elapse 30000000000, .lockoutTimerExpired 0]) :=
  lastsAsReported_of_timerOutlasts 1 0 _ (by decide)

/-- The sixth failure, 10 s after the fifth, reports another 30 s, and the timer of the fifth
clears the lockout 20 s later.
-/
theorem lastsAsReported_fails_after_sixth
    : ¬reportingMachine.Along LastsAsReported (.opened 1 0 {}, [])
        (.replicate 5 .failedMatch
          ++ [.elapse 10000000000, .failedMatch, .elapse 20000000000, .lockoutTimerExpired 0])
    := by
  decide

end PongDevice.Fingerprint
