import PongDevice.Fingerprint.SessionRuns

/-! What each handler of a session sends, newest first, as a list of its own. Results about
callbacks, illumination and finger commands read these lists and never a handler's body.
-/

namespace PongDevice.Fingerprint

open Transition

def Output.closesSession : Output → Bool
  | .callback .onSessionClosed => true
  | _ => false

def Output.isError : Output → Bool
  | .callback (.onError _ _) => true
  | _ => false

/-- Callbacks that relay a message of the device about a template or a finger. -/
def Output.isRelayed : Output → Bool
  | .callback (.onEnrollmentProgress _ _)
  | .callback (.onAuthenticationSucceeded _ _)
  | .callback .onAuthenticationFailed
  | .callback (.onEnrollmentsEnumerated _)
  | .callback (.onEnrollmentsRemoved _) => true
  | _ => false

namespace Session

/-- What a session has sent between two of its states. -/
def newOutputs (before after : Session) : List Output :=
  (after.sent.take (after.sent.length - before.sent.length)).map Prod.snd

/-- What was put in front of the record is what is new in it. -/
theorem newOutputs_eq {before after : Session} {now : Int} {outputs : List Output}
    (sent : after.sent = outputs.map (now, ·) ++ before.sent)
    : before.newOutputs after = outputs := by
  have length : after.sent.length - before.sent.length = (outputs.map (now, ·)).length := by
    rw [sent, List.length_append, Nat.add_sub_cancel]
  rw [newOutputs, length, sent, List.take_left, List.map_map]
  exact List.map_id outputs

-----------------------------------------------------------------------------------------
-- What the handlers send
-----------------------------------------------------------------------------------------

/-- An operation that the device accepts lights the panel; a refused one is an error. -/
def startOutputs (call : DeviceCall) (error : Int) : List Output :=
  if error ≠ 0 then [.callback (.onError .unableToProcess error), .device call]
  else [.setFodHbm true, .device call]

def callOutputs (session : Session) : Call → List Output
  | .generateChallenge challenge =>
      [.callback (.onChallengeGenerated challenge), .device .preEnroll]
  | .revokeChallenge challenge =>
      [.callback (.onChallengeRevoked challenge), .device .postEnroll, .setFodHbm false,
        .udfps .onFingerUp]
  | .enroll hat stack error =>
      match translate hat stack with
      | some authToken => startOutputs (.enroll authToken session.mUserId 60 error) error
      | none => []
  | .authenticate operationId error =>
      startOutputs (.authenticate operationId session.mUserId error) error
  | .detectInteraction => [.callback (.onError .unableToProcess 0)]
  | .enumerateEnrollments error => [.device (.enumerate error)]
  | .removeEnrollments enrollmentIds =>
      (enrollmentIds.map (fun entry =>
        .device (.remove session.mUserId entry.1 entry.2))).reverse
  | .getAuthenticatorId authenticatorId =>
      [.callback (.onAuthenticatorIdRetrieved authenticatorId), .device .getAuthenticatorId]
  | .invalidateAuthenticatorId authenticatorId =>
      [.callback (.onAuthenticatorIdInvalidated authenticatorId), .device .getAuthenticatorId]
  | .resetLockout => [.callback .onLockoutCleared]
  | .onPointerDown | .onPointerDownWithContext _ => []
  | .onPointerUp => [.udfps .onFingerUp]
  | .onUiReady => [.udfps (.onUiReady session.mIsAod)]
  | .cancel error =>
      (if error = 0 then [.callback (.onError .canceled 0)] else [])
        ++ [.device (.cancel error), .setFodHbm false, .udfps .onFingerUp]
  | .close => [.callback .onSessionClosed, .setFodHbm false, .udfps .onFingerUp]

/-- The lockout callback of a check that finds the sensor locked out comes after the light
and the finger are off.
-/
def lockoutOutputs (session : Session) (now : Int) : List Output :=
  match session.mLockoutTracker.getMode now with
  | (.permanent, _) =>
      [.callback .onLockoutPermanent, .setFodHbm false, .udfps .onFingerUp]
  | (.timed, tracker) =>
      [.callback (.onLockoutTimed (tracker.getLockoutTimeLeft now)), .setFodHbm false,
        .udfps .onFingerUp]
  | (.none, _) => []

def notifyOutputs (session : Session) (now : Int) (enrollments : List (BitVec 32))
    : FingerprintMsg → List Output
  | .error code =>
      [.callback (.onError (vendorErrorFilter code).1 (vendorErrorFilter code).2)]
  | .acquired acquiredInfo =>
      if (vendorAcquiredFilter acquiredInfo).1 = .vendor then
        []
      else
        [.callback (.onAcquired (vendorAcquiredFilter acquiredInfo).1
          (vendorAcquiredFilter acquiredInfo).2)]
  | .templateEnrolling finger samplesRemaining =>
      (if samplesRemaining = 0 then [.setFodHbm false, .udfps .onFingerUp] else [])
        ++ [.callback (.onEnrollmentProgress finger.fid samplesRemaining)]
  | .templateRemoved finger _ => [.callback (.onEnrollmentsRemoved [finger.fid])]
  | .authenticated finger hat =>
      if finger.fid ≠ 0 then
        [.setFodHbm false, .udfps .onFingerUp,
          .callback (.onAuthenticationSucceeded finger.fid (translateBack hat .empty))]
      else
        { session with
          mLockoutTracker := session.mLockoutTracker.addFailedAttempt now
        }.lockoutOutputs now
          ++ [.callback .onAuthenticationFailed]
  | .templateEnumerating finger remainingTemplates =>
      if remainingTemplates = 0 then
        [.callback (.onEnrollmentsEnumerated (enrollments ++ [finger.fid]))]
      else
        []
  | .unknown => []

/-- An expiry tells the client that the lockout is over, unless the timer was aborted. -/
def expiryOutputs (session : Session) : List Output :=
  if session.mIsLockoutTimerAborted then [] else [.callback .onLockoutCleared]

/-- No binder call makes a session relay a message. -/
theorem relays_nothing_call (session : Session) (call : Call)
    : (session.callOutputs call).any Output.isRelayed = false := by
  have started : ∀ call error, (startOutputs call error).any Output.isRelayed = false := by
    intro call error
    simp only [startOutputs]
    split <;> rfl
  cases call with
  | enroll hat stack error =>
      simp only [callOutputs]
      split
      · exact started _ error
      · rfl
  | authenticate operationId error =>
      rw [callOutputs]
      exact started _ error
  | removeEnrollments enrollmentIds =>
      rw [callOutputs, List.any_reverse, List.any_map]
      exact List.any_eq_false.mpr (fun _ _ => Bool.false_ne_true)
  | cancel error =>
      simp only [callOutputs]
      split <;> rfl
  | generateChallenge _ | revokeChallenge _ | detectInteraction | enumerateEnrollments _
  | getAuthenticatorId _ | invalidateAuthenticatorId _ | resetLockout | onPointerDown
  | onPointerDownWithContext _ | onPointerUp | onUiReady | close => rfl

-----------------------------------------------------------------------------------------
-- The handlers send just that
-----------------------------------------------------------------------------------------

/-- Each id is one call of the device, by induction over the ids. -/
theorem sent_removeEnrollments (session : Session) (now : Int)
    (enrollmentIds : List (BitVec 32 × Int))
    : (session.removeEnrollments now enrollmentIds).sent
      = (session.callOutputs (.removeEnrollments enrollmentIds)).map (now, ·)
        ++ session.sent := by
  induction enrollmentIds generalizing session with
  | nil => rfl
  | cons entry rest ih =>
      have tail := ih (session.device now (.remove session.mUserId entry.1 entry.2))
      simp only [removeEnrollments, List.foldl_cons] at tail ⊢
      rw [tail]
      simp [callOutputs, device, send]

theorem sent_call {session : Session} {now : Int} {call : Call}
    {result : Session × BinderStatus} (returned : session.call now call = some result)
    : result.1.sent = (session.callOutputs call).map (now, ·) ++ session.sent := by
  cases call with
  | enroll hat stack error =>
      simp only [Session.call, enroll, Option.map_eq_some_iff] at returned
      obtain ⟨_, ⟨authToken, translated, rfl⟩, rfl⟩ := returned
      simp only [callOutputs, translated, startOutputs]
      split <;> rfl
  | authenticate operationId error =>
      obtain rfl := Option.some.inj returned
      simp only [authenticate, callOutputs, startOutputs]
      split <;> rfl
  | removeEnrollments enrollmentIds =>
      obtain rfl := Option.some.inj returned
      exact session.sent_removeEnrollments now enrollmentIds
  | cancel error =>
      obtain rfl := Option.some.inj returned
      simp only [cancel, callOutputs]
      split <;> rfl
  | generateChallenge _ | revokeChallenge _ | detectInteraction | enumerateEnrollments _
  | getAuthenticatorId _ | invalidateAuthenticatorId _ | resetLockout | onPointerDown
  | onPointerDownWithContext _ | onPointerUp | onUiReady | close =>
      obtain rfl := Option.some.inj returned
      rfl

theorem sent_checkSensorLockout (session : Session) (now : Int)
    : (session.checkSensorLockout now).1.sent
      = (session.lockoutOutputs now).map (now, ·) ++ session.sent := by
  rcases given : session.mLockoutTracker.getMode now with ⟨mode, tracker⟩
  cases mode with
  | none => simp [checkSensorLockout, lockoutOutputs, given]
  | permanent => simp [checkSensorLockout, lockoutOutputs, given]
  | timed =>
      -- the timer that may start sends nothing
      by_cases pending : session.mIsLockoutTimerStarted = true
      · simp [checkSensorLockout, lockoutOutputs, given, Session.callback, send, pending,
          fingerUp, setFodHbm]
      · simp [checkSensorLockout, lockoutOutputs, given, Session.callback, send, pending,
          fingerUp, setFodHbm, startLockoutTimer]

theorem sent_notify (session : Session) (now : Int) (enrollments : List (BitVec 32))
    (msg : FingerprintMsg)
    : (session.notify now enrollments msg).1.sent
      = (session.notifyOutputs now enrollments msg).map (now, ·) ++ session.sent := by
  cases msg with
  | error code => rfl
  | acquired acquiredInfo =>
      simp only [notify, notifyOutputs]
      split <;> rfl
  | templateEnrolling finger samplesRemaining =>
      simp only [notify, notifyOutputs]
      split <;> rfl
  | templateRemoved finger remainingTemplates => rfl
  | authenticated finger hat =>
      simp only [notify, notifyAuthenticated, notifyOutputs]
      split
      · rfl
      · rw [sent_checkSensorLockout, List.map_append, List.append_assoc]
        rfl
  | templateEnumerating finger remainingTemplates =>
      simp only [notify, notifyOutputs]
      split <;> rfl
  | unknown => rfl

theorem sent_wakeTimer {session next : Session} {now : Int} {index : Nat}
    (woken : session.wakeTimer now index = some next)
    : next.sent = session.expiryOutputs.map (now, ·) ++ session.sent := by
  unfold wakeTimer at woken
  split at woken
  · split at woken
    · obtain rfl := Option.some.inj woken
      simp only [lockoutTimerExpired, expiryOutputs]
      split <;> rfl
    · cases woken
  · cases woken

-----------------------------------------------------------------------------------------
-- All that later results read of a handler
-----------------------------------------------------------------------------------------

/-- A handler sent `outputs` at `now`, took the lockout step of its input, and closed the
session if it said so.
-/
structure Moves (now : Int) (input : LockoutInput) (outputs : List Output)
    (before after : Session)
    : Prop where
  sent : after.sent = outputs.map (now, ·) ++ before.sent
  lockout : LockoutStep now input before.lockout after.lockout
  closed : after.mClosed = (before.mClosed || outputs.any Output.closesSession)

/-- A session that stays as it is has moved by nothing. -/
theorem Moves.stay (session : Session) (now : Int) : session.Moves now .other [] session :=
  ⟨rfl, .other, (Bool.or_false _).symm⟩

/-- Removing enrollments closes no session, by induction over the ids. -/
@[simp]
theorem mClosed_removeEnrollments (session : Session) (now : Int)
    (enrollmentIds : List (BitVec 32 × Int))
    : (session.removeEnrollments now enrollmentIds).mClosed = session.mClosed := by
  induction enrollmentIds generalizing session with
  | nil => rfl
  | cons entry rest ih =>
      exact ih (session.device now (.remove session.mUserId entry.1 entry.2))

theorem moves_call {session : Session} {now : Int} {call : Call}
    {result : Session × BinderStatus} (returned : session.call now call = some result)
    : Moves now call.lockoutInput (session.callOutputs call) session result.1 := by
  refine ⟨sent_call returned, lockoutStep_call returned, ?_⟩
  cases call with
  | enroll hat stack error =>
      simp only [Session.call, enroll, Option.map_eq_some_iff] at returned
      obtain ⟨_, ⟨authToken, translated, rfl⟩, rfl⟩ := returned
      simp only [callOutputs, translated, startOutputs]
      split <;> exact (Bool.or_false _).symm
  | authenticate operationId error =>
      obtain rfl := Option.some.inj returned
      simp only [authenticate, callOutputs, startOutputs]
      split <;> exact (Bool.or_false _).symm
  | removeEnrollments enrollmentIds =>
      obtain rfl := Option.some.inj returned
      simp [callOutputs, Output.closesSession]
  | cancel error =>
      obtain rfl := Option.some.inj returned
      simp only [cancel, callOutputs]
      split <;> exact (Bool.or_false _).symm
  | close =>
      obtain rfl := Option.some.inj returned
      exact (Bool.or_true _).symm
  | generateChallenge _ | revokeChallenge _ | detectInteraction | enumerateEnrollments _
  | getAuthenticatorId _ | invalidateAuthenticatorId _ | resetLockout | onPointerDown
  | onPointerDownWithContext _ | onPointerUp | onUiReady =>
      obtain rfl := Option.some.inj returned
      exact (Bool.or_false _).symm

/-- Checking the sensor neither closes the session nor says so. -/
theorem mClosed_checkSensorLockout (session : Session) (now : Int)
    : (session.checkSensorLockout now).1.mClosed
      = (session.mClosed || (session.lockoutOutputs now).any Output.closesSession) := by
  rcases given : session.mLockoutTracker.getMode now with ⟨mode, tracker⟩
  cases mode with
  | none | permanent =>
      simp only [checkSensorLockout, lockoutOutputs, given]
      exact (Bool.or_false _).symm
  | timed =>
      by_cases pending : session.mIsLockoutTimerStarted = true
      · simp [checkSensorLockout, lockoutOutputs, given, Session.callback, send, pending,
          fingerUp, setFodHbm, Output.closesSession]
      · simp [checkSensorLockout, lockoutOutputs, given, Session.callback, send, pending,
          fingerUp, setFodHbm, startLockoutTimer, Output.closesSession]

theorem moves_notify (session : Session) (now : Int) (enrollments : List (BitVec 32))
    (msg : FingerprintMsg)
    : Moves now msg.lockoutInput (session.notifyOutputs now enrollments msg) session
        (session.notify now enrollments msg).1 := by
  refine ⟨session.sent_notify now enrollments msg,
    session.lockoutStep_notify now enrollments msg, ?_⟩
  cases msg with
  | authenticated finger hat =>
      simp only [notify, notifyAuthenticated, notifyOutputs]
      split
      · exact (Bool.or_false _).symm
      · rw [List.any_append]
        exact (mClosed_checkSensorLockout _ now).trans
          (congrArg _ (Bool.or_false _).symm)
  | acquired _ | templateEnrolling _ _ | templateEnumerating _ _ =>
      simp only [notify, notifyOutputs]
      split <;> exact (Bool.or_false _).symm
  | error _ | templateRemoved _ _ | unknown => exact (Bool.or_false _).symm

theorem moves_wakeTimer {session next : Session} {now : Int} {index : Nat}
    (woken : session.wakeTimer now index = some next)
    : Moves now .expired session.expiryOutputs session next := by
  refine ⟨sent_wakeTimer woken, lockoutStep_wakeTimer woken, ?_⟩
  unfold wakeTimer at woken
  split at woken
  · split at woken
    · obtain rfl := Option.some.inj woken
      simp only [lockoutTimerExpired, expiryOutputs]
      split <;> exact (Bool.or_false _).symm
    · cases woken
  · cases woken

end Session

/-- What an event makes the session send. -/
def World.outputs (world : World) : SessionEvent → List Output
  | .call call => world.session.callOutputs call
  | .notify msg =>
      if world.session.mClosed then []
      else world.session.notifyOutputs world.now world.enrollments msg
  | .lockoutTimerExpired _ => world.session.expiryOutputs
  | .elapse _ => []

/-- Every event puts its outputs, with the time, in front of what was sent before. -/
theorem World.sent_step {before after : World} {event : SessionEvent}
    (taken : sessionMachine.step before event = some after)
    : after.session.sent
      = (before.outputs event).map (before.now, ·) ++ before.session.sent := by
  cases event with
  | call call =>
      obtain ⟨result, returned, rfl⟩ := Option.map_eq_some_iff.mp taken
      exact Session.sent_call returned
  | notify msg =>
      simp only [sessionMachine, World.step] at taken
      simp only [World.outputs]
      split at taken
      · obtain rfl := Option.some.inj taken
        simp [*]
      · obtain rfl := Option.some.inj taken
        simp only [*, Bool.false_eq_true, if_false]
        exact before.session.sent_notify before.now before.enrollments msg
  | lockoutTimerExpired index =>
      obtain ⟨session, woken, rfl⟩ := Option.map_eq_some_iff.mp taken
      exact Session.sent_wakeTimer woken
  | elapse nanos =>
      obtain rfl := Option.some.inj taken
      rfl

end PongDevice.Fingerprint
