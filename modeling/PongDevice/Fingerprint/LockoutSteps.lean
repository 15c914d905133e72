import PongDevice.Fingerprint.Session

/-! What each handler of a session can do to its lockout: the tracker, the two timer flags,
the pending timer threads and the lockout callbacks. Every later lockout result reads
these steps and never a handler's body.
-/

namespace PongDevice.Fingerprint

-----------------------------------------------------------------------------------------
-- The part of a session that lockout is about
-----------------------------------------------------------------------------------------

/-- The three lockout callbacks. -/
inductive LockoutNotice where
  | timed (durationMillis : Int)
  | permanent
  | cleared
deriving DecidableEq, Repr

def Output.lockoutNotice? : Output → Option LockoutNotice
  | .callback (.onLockoutTimed durationMillis) => some (.timed durationMillis)
  | .callback .onLockoutPermanent => some .permanent
  | .callback .onLockoutCleared => some .cleared
  | _ => none

/-- The lockout callbacks in a record of what was sent, with their times and in its order,
newest first.
-/
def lockoutNotices (sent : List (Int × Output)) : List (Int × LockoutNotice) :=
  sent.filterMap (fun entry => entry.2.lockoutNotice?.map (entry.1, ·))

/-- The members and the sent callbacks that lockout is about. -/
structure Lockout where
  tracker : LockoutTracker
  started : Bool
  aborted : Bool
  timers : List Int
  notices : List (Int × LockoutNotice)

def Session.lockout (session : Session) : Lockout :=
  {
    tracker := session.mLockoutTracker
    started := session.mIsLockoutTimerStarted
    aborted := session.mIsLockoutTimerAborted
    timers := session.lockoutTimers
    notices := lockoutNotices session.sent
  }

/-- What a message, a call or a timer means to the lockout. -/
inductive LockoutInput where
  | failed
  | matched
  | resetLockout
  | expired
  | other
deriving DecidableEq, Repr

def FingerprintMsg.lockoutInput : FingerprintMsg → LockoutInput
  | .authenticated finger _ => if finger.fid ≠ 0 then .matched else .failed
  | _ => .other

def Session.Call.lockoutInput : Session.Call → LockoutInput
  | .resetLockout => .resetLockout
  | _ => .other

/-- Every change a handler can make to the lockout at time `now`, with its guards. A failed
match is counted first; the mode the tracker then gives decides among its four outcomes.
-/
inductive LockoutStep (now : Int) : LockoutInput → Lockout → Lockout → Prop where
  | quiet {before tracker}
    (mode : (before.tracker.addFailedAttempt now).getMode now = (.none, tracker))
    : LockoutStep now .failed before { before with tracker }
  | permanent {before tracker}
    (mode : (before.tracker.addFailedAttempt now).getMode now = (.permanent, tracker))
    : LockoutStep now .failed before
        { before with tracker, aborted := true, notices := (now, .permanent) :: before.notices }
  | running {before tracker}
    (mode : (before.tracker.addFailedAttempt now).getMode now = (.timed, tracker))
    (pending : before.started = true)
    : LockoutStep now .failed before
        { before with
          tracker
          notices := (now, .timed (tracker.getLockoutTimeLeft now)) :: before.notices
        }
  | starting {before tracker}
    (mode : (before.tracker.addFailedAttempt now).getMode now = (.timed, tracker))
    (idle : before.started = false)
    : LockoutStep now .failed before
        {
          tracker
          started := true
          aborted := false
          timers := before.timers ++ [now + tracker.getLockoutTimeLeft now * 1000000]
          notices := (now, .timed (tracker.getLockoutTimeLeft now)) :: before.notices
        }
  | matched {before}
    : LockoutStep now .matched before { before with tracker := before.tracker.reset true }
  | reset {before}
    : LockoutStep now .resetLockout before
        { before with
          tracker := before.tracker.reset true
          aborted := true
          notices := (now, .cleared) :: before.notices
        }
  | expired {before : Lockout} {index deadline}
    (pending : before.timers[index]? = some deadline) (due : deadline ≤ now)
    (armed : before.aborted = false)
    : LockoutStep now .expired before
        {
          tracker := before.tracker.reset false
          started := false
          aborted := false
          timers := before.timers.eraseIdx index
          notices := (now, .cleared) :: before.notices
        }
  | expiredAborted {before : Lockout} {index deadline}
    (pending : before.timers[index]? = some deadline) (due : deadline ≤ now)
    (aborted : before.aborted = true)
    : LockoutStep now .expired before
        { before with
          started := false
          aborted := false
          timers := before.timers.eraseIdx index
        }
  | other {before} : LockoutStep now .other before before

/-- How many failures are counted after an input that finds `failures` of them counted. -/
def LockoutInput.count (input : LockoutInput) (failures : Nat) : Nat :=
  match input with
  | .failed => failures + 1
  | .matched | .resetLockout => 0
  | .expired | .other => failures

/-- The tracker's counter follows the inputs: no expiry and no mode touches it. -/
theorem LockoutStep.mFailedCount {now : Int} {input : LockoutInput} {before after : Lockout}
    (step : LockoutStep now input before after)
    : after.tracker.mFailedCount = input.count before.tracker.mFailedCount := by
  have counted :
      ((before.tracker.addFailedAttempt now).getMode now).2.mFailedCount
        = LockoutInput.failed.count before.tracker.mFailedCount := by
    simp [LockoutInput.count]
  cases step with
  | quiet mode | permanent mode | running mode | starting mode => simpa [mode] using counted
  | matched | reset | expired | expiredAborted | other => rfl

/-- Every lockout step keeps the mode behind the counter. -/
theorem LockoutStep.counted {now : Int} {input : LockoutInput} {before after : Lockout}
    (step : LockoutStep now input before after) (counted : before.tracker.Counted)
    : after.tracker.Counted := by
  have failed := counted.failed now
  cases step with
  | quiet mode | permanent mode | running mode | starting mode =>
      rw [mode] at failed
      exact failed
  | matched | reset => exact LockoutTracker.counted_reset _ true
  | expired => exact LockoutTracker.counted_reset _ false
  | expiredAborted | other => exact counted

-----------------------------------------------------------------------------------------
-- The handlers make only these steps
-----------------------------------------------------------------------------------------

namespace Session

/-- Sending something that is no lockout callback leaves the lockout alone. -/
theorem lockout_send {output : Output} (plain : output.lockoutNotice? = none)
    (session : Session) (now : Int)
    : (session.send now output).lockout = session.lockout := by
  simp [lockout, send, lockoutNotices, plain]

@[simp]
theorem lockout_device (session : Session) (now : Int) (call : DeviceCall)
    : (session.device now call).lockout = session.lockout :=
  session.lockout_send rfl now

@[simp]
theorem lockout_fingerUp (session : Session) (now : Int)
    : (session.fingerUp now).lockout = session.lockout :=
  session.lockout_send rfl now

@[simp]
theorem lockout_setFodHbm (session : Session) (now : Int) (status : Bool)
    : (session.setFodHbm now status).lockout = session.lockout :=
  session.lockout_send rfl now

/-- Checking the sensor after a failure was counted makes one of the four failure steps,
chosen by the mode that the tracker gives.
-/
theorem lockoutStep_checkSensorLockout (session : Session) (now : Int)
    : LockoutStep now .failed session.lockout
        (({ session with
            mLockoutTracker := session.mLockoutTracker.addFailedAttempt now
          } : Session).checkSensorLockout now).1.lockout := by
  rcases given : (session.mLockoutTracker.addFailedAttempt now).getMode now
    with ⟨mode, tracker⟩
  cases mode with
  | none =>
      simp only [checkSensorLockout, given]
      exact .quiet given
  | permanent =>
      have result : LockoutStep now .failed session.lockout _ := .permanent given
      simpa [checkSensorLockout, given, lockout, Session.callback, fingerUp, setFodHbm, send,
        lockoutNotices, Output.lockoutNotice?] using result
  | timed =>
      cases pending : session.mIsLockoutTimerStarted with
      | true =>
          have result : LockoutStep now .failed session.lockout _ := .running given pending
          simpa [checkSensorLockout, given, lockout, Session.callback, fingerUp, setFodHbm,
            send, lockoutNotices, Output.lockoutNotice?, pending] using result
      | false =>
          have result : LockoutStep now .failed session.lockout _ := .starting given pending
          simpa [checkSensorLockout, given, lockout, Session.callback, fingerUp, setFodHbm,
            send, lockoutNotices, Output.lockoutNotice?, pending, startLockoutTimer]
            using result

/-- The steps of a match: the tracker is reset and no lockout callback is sent. -/
theorem lockoutStep_notifyAuthenticated (session : Session) (now : Int) (finger : FingerId)
    (hat : HwAuthToken)
    : LockoutStep now (FingerprintMsg.authenticated finger hat).lockoutInput session.lockout
        (session.notifyAuthenticated now finger hat).lockout := by
  by_cases found : finger.fid = 0
  · simp only [FingerprintMsg.lockoutInput, notifyAuthenticated, found, ne_eq,
      not_true_eq_false, ↓reduceIte]
    exact (session.callback now .onAuthenticationFailed).lockoutStep_checkSensorLockout now
  · simp only [FingerprintMsg.lockoutInput, notifyAuthenticated, found, ne_eq,
      not_false_eq_true, ↓reduceIte, lockout_setFodHbm, lockout_fingerUp]
    exact .matched

/-- A relayed message is a counted failure, a match that resets the tracker, or nothing to
the lockout.
-/
theorem lockoutStep_notify (session : Session) (now : Int) (enrollments : List (BitVec 32))
    (msg : FingerprintMsg)
    : LockoutStep now msg.lockoutInput session.lockout
        (session.notify now enrollments msg).1.lockout := by
  cases msg with
  | error code => exact .other
  | acquired acquiredInfo =>
      simp only [notify]
      split <;> exact .other
  | templateEnrolling finger samplesRemaining =>
      simp only [notify]
      split <;> exact .other
  | templateRemoved finger remainingTemplates => exact .other
  | authenticated finger hat => exact session.lockoutStep_notifyAuthenticated now finger hat
  | templateEnumerating finger remainingTemplates =>
      simp only [notify]
      split <;> exact .other
  | unknown => exact .other

/-- Removing enrollments only calls the device, by induction over the ids. -/
@[simp]
theorem lockout_removeEnrollments (session : Session) (now : Int)
    (enrollmentIds : List (BitVec 32 × Int))
    : (session.removeEnrollments now enrollmentIds).lockout = session.lockout := by
  induction enrollmentIds generalizing session with
  | nil => rfl
  | cons entry rest ih =>
      simpa only [removeEnrollments, List.foldl_cons, lockout_device] using
        ih (session.device now (.remove session.mUserId entry.1 entry.2))

/-- `resetLockout` is the only call that touches the lockout. -/
theorem lockoutStep_call {session : Session} {now : Int} {call : Call}
    {result : Session × BinderStatus} (returned : session.call now call = some result)
    : LockoutStep now call.lockoutInput session.lockout result.1.lockout := by
  cases call with
  | enroll hat stack error =>
      simp only [Session.call, enroll, Option.map_eq_some_iff] at returned
      obtain ⟨_, ⟨authToken, _, rfl⟩, rfl⟩ := returned
      dsimp only
      split <;> exact .other
  | authenticate operationId error =>
      obtain rfl := Option.some.inj returned
      simp only [authenticate]
      split <;> exact .other
  | removeEnrollments enrollmentIds =>
      obtain rfl := Option.some.inj returned
      simp only [lockout_removeEnrollments]
      exact .other
  | resetLockout =>
      obtain rfl := Option.some.inj returned
      exact .reset
  | cancel error =>
      obtain rfl := Option.some.inj returned
      simp only [cancel]
      split <;> exact .other
  | generateChallenge _ | revokeChallenge _ | detectInteraction | enumerateEnrollments _
  | getAuthenticatorId _ | invalidateAuthenticatorId _ | onPointerDown
  | onPointerDownWithContext _ | onPointerUp | onUiReady | close =>
      obtain rfl := Option.some.inj returned
      exact .other

/-- An expiry clears the lockout unless the timer was aborted. -/
theorem lockoutStep_wakeTimer {session next : Session} {now : Int} {index : Nat}
    (woken : session.wakeTimer now index = some next)
    : LockoutStep now .expired session.lockout next.lockout := by
  unfold wakeTimer at woken
  split at woken
  · rename_i deadline pending
    split at woken
    · rename_i due
      obtain rfl := Option.some.inj woken
      cases aborted : session.mIsLockoutTimerAborted with
      | false =>
          have result : LockoutStep now .expired session.lockout _ :=
            .expired pending due aborted
          simpa [lockoutTimerExpired, aborted, clearLockout, lockout, Session.callback, send,
            lockoutNotices, Output.lockoutNotice?] using result
      | true =>
          have result : LockoutStep now .expired session.lockout _ :=
            .expiredAborted pending due aborted
          simpa [lockoutTimerExpired, aborted, lockout] using result
    · cases woken
  · cases woken

end Session

end PongDevice.Fingerprint
