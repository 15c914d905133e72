import PongDevice.Fingerprint.LockoutDuration

/-! What a lockout keeps out. Nothing in the session consults the tracker before it starts a
device authentication or relays a match, so the lockout holds only as long as the client
and the device respect the lockout callbacks.
-/

namespace PongDevice.Fingerprint

open Transition

-----------------------------------------------------------------------------------------
-- Authentications started and matches relayed
-----------------------------------------------------------------------------------------

/-- A device authentication that was accepted, so that it runs. -/
@[simp]
def DeviceCall.startsAuthentication : DeviceCall → Bool
  | .authenticate _ _ error => error = 0
  | _ => false

/-- A call of `onAuthenticationSucceeded`. -/
@[simp]
def SessionCallback.reportsSuccess : SessionCallback → Bool
  | .onAuthenticationSucceeded _ _ => true
  | _ => false

/-- The outputs that a lockout has to keep out. -/
def Output.exposes : Output → Bool
  | .callback sentCallback => sentCallback.reportsSuccess
  | .device deviceCall => deviceCall.startsAuthentication
  | _ => false

/-- How many device authentications and reported successes a record of what was sent holds. -/
def exposures (sent : List (Int × Output)) : Nat :=
  sent.countP (fun entry => entry.2.exposes)

def SessionEvent.isNotify : SessionEvent → Bool
  | .notify _ => true
  | _ => false

/-- While the tracker is in lockout, no event starts a device authentication or sends
`onAuthenticationSucceeded`, and no device message takes back the counted failures.
-/
def World.GatesLockout (before : World) (event : SessionEvent) (after : World) : Prop :=
  before.session.mLockoutTracker.LockedOut before.now
  → exposures after.session.sent = exposures before.session.sent
    ∧ (event.isNotify = true
      → before.session.mLockoutTracker.mFailedCount
        ≤ after.session.mLockoutTracker.mFailedCount)

instance : ∀ before event after, Decidable (World.GatesLockout before event after) :=
  fun _ _ _ => inferInstanceAs (Decidable (_ → _ ∧ (_ → _)))

/-- An authenticate call that the device accepts. -/
def Session.Call.startsAuthentication : Session.Call → Bool
  | .authenticate _ error => error = 0
  | _ => false

/-- The event is an authenticate call that the device accepts, or a match. -/
def World.exposes (world : World) : SessionEvent → Bool
  | .call call => call.startsAuthentication
  | .notify msg => world.lockoutInput (.notify msg) = .matched
  | _ => false

/-- What the client was last told of a lockout still binds it: `onLockoutPermanent`, or
`onLockoutTimed` less than 30 s ago.
-/
def Lockout.ToldLocked (lockout : Lockout) (now : Int) : Prop :=
  match lockout.notices.head? with
  | some (_, .permanent) => True
  | some (time, .timed _) => now - time < lockoutTimedDuration * 1000000
  | _ => False

/-- An accepted authenticate call or a match never comes while the client is told that the
session is locked out.
-/
def World.RespectsLockout (before : World) (event : SessionEvent) (_ : World) : Prop :=
  before.exposes event = true → ¬before.session.lockout.ToldLocked before.now

-----------------------------------------------------------------------------------------
-- Only an accepted authenticate call and a match expose anything
-----------------------------------------------------------------------------------------

@[simp]
theorem exposures_callback (now : Int) (callback : SessionCallback)
    (sent : List (Int × Output))
    : exposures ((now, .callback callback) :: sent)
      = exposures sent + if callback.reportsSuccess then 1 else 0 := by
  simp only [exposures, List.countP_cons, Output.exposes]

@[simp]
theorem exposures_device (now : Int) (call : DeviceCall) (sent : List (Int × Output))
    : exposures ((now, .device call) :: sent)
      = exposures sent + if call.startsAuthentication then 1 else 0 := by
  simp only [exposures, List.countP_cons, Output.exposes]

@[simp]
theorem exposures_udfps (now : Int) (call : UdfpsCall) (sent : List (Int × Output))
    : exposures ((now, .udfps call) :: sent) = exposures sent := by
  simp [exposures, Output.exposes]

@[simp]
theorem exposures_setFodHbm (now : Int) (status : Bool) (sent : List (Int × Output))
    : exposures ((now, .setFodHbm status) :: sent) = exposures sent := by
  simp [exposures, Output.exposes]

namespace Session

/-- Checking the sensor sends only lockout callbacks and turns the illumination off. -/
@[simp]
theorem exposures_checkSensorLockout (session : Session) (now : Int)
    : exposures (session.checkSensorLockout now).1.sent = exposures session.sent := by
  rcases given : session.mLockoutTracker.getMode now with ⟨mode, tracker⟩
  cases mode with
  | none => simp [checkSensorLockout, given]
  | permanent =>
      simp [checkSensorLockout, given, Session.callback, setFodHbm, fingerUp, send]
  | timed =>
      cases pending : session.mIsLockoutTimerStarted <;>
        simp [checkSensorLockout, given, pending, Session.callback, setFodHbm, fingerUp, send,
          startLockoutTimer]

/-- A message exposes something exactly when it is a match. -/
theorem exposures_notify (session : Session) (now : Int) (enrollments : List (BitVec 32))
    (msg : FingerprintMsg)
    : exposures (session.notify now enrollments msg).1.sent
      = exposures session.sent + if msg.lockoutInput = .matched then 1 else 0 := by
  cases msg with
  | error code => simp [notify, FingerprintMsg.lockoutInput]
  | acquired acquiredInfo =>
      simp only [notify]
      split <;> simp [FingerprintMsg.lockoutInput]
  | templateEnrolling finger samplesRemaining =>
      simp only [notify]
      split <;> simp [FingerprintMsg.lockoutInput]
  | templateRemoved finger remainingTemplates => simp [notify, FingerprintMsg.lockoutInput]
  | authenticated finger hat =>
      simp only [notify, notifyAuthenticated, FingerprintMsg.lockoutInput]
      split <;> simp
  | templateEnumerating finger remainingTemplates =>
      simp only [notify]
      split <;> simp [FingerprintMsg.lockoutInput]
  | unknown => simp [notify, FingerprintMsg.lockoutInput]

/-- Removing enrollments exposes nothing, by induction over the ids. -/
theorem exposures_removeEnrollments (session : Session) (now : Int)
    (enrollmentIds : List (BitVec 32 × Int))
    : exposures (session.removeEnrollments now enrollmentIds).sent
      = exposures session.sent := by
  induction enrollmentIds generalizing session with
  | nil => rfl
  | cons entry rest ih =>
      have later := ih (session.device now (.remove session.mUserId entry.1 entry.2))
      simpa [removeEnrollments] using later

/-- A binder call exposes something exactly when it is an accepted authenticate. -/
theorem exposures_call {session : Session} {now : Int} {call : Call}
    {result : Session × BinderStatus} (returned : session.call now call = some result)
    : exposures result.1.sent
      = exposures session.sent + if call.startsAuthentication then 1 else 0 := by
  cases call with
  | enroll hat stack error =>
      simp only [Session.call, enroll, Option.map_eq_some_iff] at returned
      obtain ⟨_, ⟨authToken, _, rfl⟩, rfl⟩ := returned
      dsimp only
      split <;> simp [Call.startsAuthentication]
  | authenticate operationId error =>
      obtain rfl := Option.some.inj returned
      by_cases accepted : error = 0 <;>
        simp [authenticate, accepted, Call.startsAuthentication]
  | removeEnrollments enrollmentIds =>
      obtain rfl := Option.some.inj returned
      simp [exposures_removeEnrollments, Call.startsAuthentication]
  | cancel error =>
      obtain rfl := Option.some.inj returned
      simp only [cancel]
      split <;> simp [Call.startsAuthentication]
  | resetLockout =>
      obtain rfl := Option.some.inj returned
      simp [resetLockout, clearLockout, Call.startsAuthentication]
  | revokeChallenge challenge =>
      obtain rfl := Option.some.inj returned
      simp [revokeChallenge, Call.startsAuthentication]
  | close =>
      obtain rfl := Option.some.inj returned
      simp [close, Call.startsAuthentication]
  | onUiReady =>
      obtain rfl := Option.some.inj returned
      simp [send, Call.startsAuthentication]
  | generateChallenge _ | detectInteraction | enumerateEnrollments _ | getAuthenticatorId _
  | invalidateAuthenticatorId _ | onPointerDown | onPointerDownWithContext _ | onPointerUp =>
      obtain rfl := Option.some.inj returned
      simp [Call.startsAuthentication]

/-- A timer's expiry exposes nothing. -/
theorem exposures_wakeTimer {session next : Session} {now : Int} {index : Nat}
    (woken : session.wakeTimer now index = some next)
    : exposures next.sent = exposures session.sent := by
  unfold wakeTimer at woken
  split at woken
  · split at woken
    · obtain rfl := Option.some.inj woken
      simp only [lockoutTimerExpired, clearLockout]
      split <;> simp
    · cases woken
  · cases woken

end Session

/-- An event exposes exactly one thing if it is an accepted authenticate or a match, and
nothing otherwise.
-/
theorem World.exposures_step {before after : World} {event : SessionEvent}
    (taken : sessionMachine.step before event = some after)
    : exposures after.session.sent
      = exposures before.session.sent + if before.exposes event then 1 else 0 := by
  cases event with
  | call call =>
      obtain ⟨result, returned, rfl⟩ := Option.map_eq_some_iff.mp taken
      exact Session.exposures_call returned
  | notify msg =>
      simp only [sessionMachine, World.step] at taken
      by_cases closed : before.session.mClosed = true
      · simp only [closed, if_true, Option.some.injEq] at taken
        subst taken
        simp [exposes, World.lockoutInput, closed]
      · simp only [closed, Bool.false_eq_true, if_false, Option.some.injEq] at taken
        subst taken
        simpa [exposes, World.lockoutInput, closed] using
          before.session.exposures_notify before.now before.enrollments msg
  | lockoutTimerExpired index =>
      obtain ⟨session, woken, rfl⟩ := Option.map_eq_some_iff.mp taken
      simp [Session.exposures_wakeTimer woken, exposes]
  | elapse nanos =>
      obtain rfl := Option.some.inj taken
      simp [exposes]

-----------------------------------------------------------------------------------------
-- The tracker's lockout is what the client was last told
-----------------------------------------------------------------------------------------

/-- While the client keeps to what it is told, the last lockout callback and the tracker's
mode agree; a timed lockout that the tracker has dropped is over for the client as well.
-/
structure Lockout.Told (lockout : Lockout) (now : Int) : Prop where
  counted : lockout.tracker.Counted
  permanent
    : lockout.tracker.mCurrentMode = .permanent
      ↔ ∃ time, lockout.notices.head? = some (time, .permanent)
  timed
    : lockout.tracker.mCurrentMode = .timed
      → ∃ durationMillis,
          lockout.notices.head?
          = some (lockout.tracker.mLockoutTimedStart, .timed durationMillis)
  ended
    : ∀ time durationMillis,
        lockout.notices.head? = some (time, .timed durationMillis)
        → lockout.tracker.mCurrentMode = .timed
          ∨ lockoutTimedDuration * 1000000 ≤ now - time

/-- The tracker is in lockout exactly while the client is told so. -/
theorem Lockout.Told.lockedOut_iff {lockout : Lockout} {now : Int} (told : lockout.Told now)
    : lockout.tracker.LockedOut now ↔ lockout.ToldLocked now := by
  constructor
  · intro locked
    rcases locked with permanent | ⟨timed, recent⟩
    · obtain ⟨time, last⟩ := told.permanent.mp permanent
      simp [ToldLocked, last]
    · obtain ⟨durationMillis, last⟩ := told.timed timed
      simpa [ToldLocked, last] using recent
  · intro locked
    unfold ToldLocked at locked
    split at locked
    · rename_i time last
      exact .inl (told.permanent.mpr ⟨time, last⟩)
    · rename_i time durationMillis last
      rcases told.ended time durationMillis last with timed | ended
      · obtain ⟨_, same⟩ := told.timed timed
        rw [last] at same
        obtain ⟨rfl, _⟩ := Prod.mk.inj (Option.some.inj same)
        exact .inr ⟨timed, locked⟩
      · omega
    · exact locked.elim

/-- A timed lockout that is over stays over. -/
theorem Lockout.Told.elapse {lockout : Lockout} {now later : Int} (told : lockout.Told now)
    (le : now ≤ later)
    : lockout.Told later :=
  { told with
    ended := fun time durationMillis last =>
      (told.ended time durationMillis last).imp_right (fun ended => by omega)
  }

/-- A failure that the tracker leaves unlocked came below both thresholds. -/
theorem LockoutTracker.Counted.quiet {tracker result : LockoutTracker}
    (counted : tracker.Counted) {now : Int}
    (mode : (tracker.addFailedAttempt now).getMode now = (.none, result))
    : tracker.mCurrentMode = .none ∧ result.mCurrentMode = .none := by
  rw [counted.getMode_addFailedAttempt now] at mode
  split at mode
  · simp at mode
  · split at mode
    · simp at mode
    · rename_i notPermanent notTimed
      obtain rfl := (Prod.mk.inj mode).2
      exact ⟨counted.mode_of_lt (by omega), rfl⟩

/-- What a failure that locks the tracker leaves in it. -/
theorem LockoutTracker.Counted.locked {tracker result : LockoutTracker}
    (counted : tracker.Counted) {now : Int} {lockoutMode : LockoutMode}
    (mode : (tracker.addFailedAttempt now).getMode now = (lockoutMode, result))
    : result.mCurrentMode = lockoutMode
      ∧ (lockoutMode = .timed → result.mLockoutTimedStart = now) := by
  rw [counted.getMode_addFailedAttempt now] at mode
  split at mode
  · obtain ⟨rfl, rfl⟩ := Prod.mk.inj mode
    simp
  · split at mode <;>
      obtain ⟨rfl, rfl⟩ := Prod.mk.inj mode <;>
      simp

/-- A lockout step keeps the tracker and the last callback together, unless it is a match
that comes while the client is told that the session is locked out.
Witness: each failure that locks the tracker reports it at once, and each step that unlocks
the tracker sends `onLockoutCleared`, a permitted match apart, which finds no lockout left.
-/
theorem LockoutStep.told {now : Int} {input : LockoutInput} {before after : Lockout}
    (step : LockoutStep now input before after) (told : before.Told now)
    (rule : input = .matched → ¬before.ToldLocked now)
    : after.Told now := by
  have counted := step.counted told.counted
  cases step with
  | quiet mode =>
      obtain ⟨unlocked, still⟩ := told.counted.quiet mode
      refine ⟨counted, ?_, by simp [still], ?_⟩
      · simpa [unlocked, still] using told.permanent
      · simpa [unlocked, still] using told.ended
  | permanent mode =>
      exact ⟨counted, by simp [(told.counted.locked mode).1],
        by simp [(told.counted.locked mode).1], by simp⟩
  | running mode pending | starting mode idle =>
      obtain ⟨timed, start⟩ := told.counted.locked mode
      exact ⟨counted, by simp [timed], by simp [start rfl], by simp [timed]⟩
  | matched =>
      have unlocked := rule rfl
      refine ⟨counted, ?_, by simp [LockoutTracker.reset], ?_⟩
      · simp only [LockoutTracker.reset, reduceCtorEq, false_iff, not_exists]
        intro time last
        exact unlocked (by simp [Lockout.ToldLocked, last])
      · intro time durationMillis last
        refine .inr (not_lt.mp (fun recent => unlocked ?_))
        simpa [Lockout.ToldLocked, last] using recent
  | reset | expired => exact ⟨counted, by simp [LockoutTracker.reset],
      by simp [LockoutTracker.reset], by simp⟩
  | expiredAborted | other => exact { told with }

/-- A message is nothing to the lockout, a failure or a match. -/
theorem World.lockoutInput_notify (world : World) (msg : FingerprintMsg)
    : world.lockoutInput (.notify msg) = .other
      ∨ world.lockoutInput (.notify msg) = .failed
      ∨ world.lockoutInput (.notify msg) = .matched := by
  simp only [World.lockoutInput, FingerprintMsg.lockoutInput]
  split
  · exact .inl rfl
  · split
    · split
      · exact .inr (.inr rfl)
      · exact .inr (.inl rfl)
    · exact .inl rfl

/-- While the last callback and the tracker agree, an event keeps the lockout closed exactly
when it exposes nothing that the client is told is locked.
-/
theorem Lockout.Told.gates_iff_respects {before after : World} {event : SessionEvent}
    (told : before.session.lockout.Told before.now)
    (taken : sessionMachine.step before event = some after)
    : before.GatesLockout event after ↔ before.RespectsLockout event after := by
  have exposed := World.exposures_step taken
  have same : before.session.mLockoutTracker.LockedOut before.now
      ↔ before.session.lockout.ToldLocked before.now :=
    told.lockedOut_iff
  constructor
  · intro gates exposes locked
    have closed := (gates (same.mpr locked)).1
    simp [exposed, exposes] at closed
  · intro respects locked
    have hidden : before.exposes event = false := by
      by_contra exposes
      exact respects (by simpa using exposes) (same.mp locked)
    refine ⟨by simp [exposed, hidden], fun isNotify => ?_⟩
    have step := (World.lockoutStep taken).1
    cases event with
    | notify msg =>
        have counted := step.mFailedCount
        rcases World.lockoutInput_notify before msg with other | failed | matched
        · simp only [other, LockoutInput.count] at counted
          exact counted.ge
        · simp only [failed, LockoutInput.count] at counted
          exact counted.ge.trans' (Nat.le_succ _)
        · simp [World.exposes, matched] at hidden
    | call _ | lockoutTimerExpired _ | elapse _ => simp [SessionEvent.isNotify] at isNotify

/-- A session's lockout keeps out authentications and matches along a run exactly when no
authenticate call is accepted and no match arrives while the last lockout callback still
says that the session is locked. A session is opened with a new tracker, the only one that
the service ever passes on.
-/
theorem gatesLockout_iff (now userId : Int) (events : List SessionEvent)
    : sessionMachine.Along World.GatesLockout (.opened now userId {}) events
      ↔ sessionMachine.Along World.RespectsLockout (.opened now userId {}) events := by
  have assumed
      : sessionMachine.Along (fun _ _ _ => True) (.opened now userId {}) events :=
    Machine.along_true _ _
  refine Machine.Along.congr (fun world => world.session.lockout.Told world.now) ?_ ?_ ?_
    assumed
  · intro before event after told taken _
    exact told.gates_iff_respects taken
  · intro before event after told taken _ respects
    obtain ⟨step, later⟩ := World.lockoutStep taken
    refine (step.told told (fun matched => respects ?_)).elapse later
    cases event with
    | notify msg => simp [World.exposes, matched]
    | call call => cases call <;> simp [World.lockoutInput, Session.Call.lockoutInput] at matched
    | lockoutTimerExpired _ | elapse _ => simp [World.lockoutInput] at matched
  · rw [World.opened_lockout]
    exact ⟨LockoutTracker.counted_new, by simp, by simp, by simp⟩

/-- Five failures, and then an authenticate call that the device accepts. -/
theorem gatesLockout_fails_authenticate
    : ¬sessionMachine.Along World.GatesLockout (.opened 1 0 {})
        (.replicate 5 .failedMatch ++ [.call (.authenticate 0 0)]) := by
  decide

end PongDevice.Fingerprint
