import PongDevice.Fingerprint.Device
import PongDevice.Fingerprint.LockoutTracker

/-! A fingerprint session: its binder calls, the device messages relayed to it, and the
detached thread that ends a timed lockout. Handlers take the clock reading `now` and the
device's answers as arguments, and what they send is kept in the session, newest first.
-/

namespace PongDevice.Fingerprint

-----------------------------------------------------------------------------------------
-- What a session sends
-----------------------------------------------------------------------------------------

/-- Calls on `ISessionCallback`. -/
inductive SessionCallback where
  | onChallengeGenerated (challenge : BitVec 64)
  | onChallengeRevoked (challenge : BitVec 64)
  | onError (error : SessionError) (vendorCode : Int)
  | onAcquired (info : AcquiredInfo) (vendorCode : Int)
  | onEnrollmentProgress (enrollmentId remaining : BitVec 32)
  | onAuthenticationSucceeded (enrollmentId : BitVec 32) (hat : HardwareAuthToken)
  | onAuthenticationFailed
  | onLockoutTimed (durationMillis : Int)
  | onLockoutPermanent
  | onLockoutCleared
  | onEnrollmentsEnumerated (enrollmentIds : List (BitVec 32))
  | onEnrollmentsRemoved (enrollmentIds : List (BitVec 32))
  | onAuthenticatorIdRetrieved (authenticatorId : BitVec 64)
  | onAuthenticatorIdInvalidated (newAuthenticatorId : BitVec 64)
  | onSessionClosed
deriving DecidableEq, Repr

/-- Calls on `fingerprint_device_t`; `error` is the device's answer where it has one. -/
inductive DeviceCall where
  | setActiveGroup (gid : Int) (storePath : String)
  | preEnroll
  | postEnroll
  | enroll (hat : HwAuthToken) (gid : Int) (timeoutSec : Nat) (error : Int)
  | authenticate (operationId : BitVec 64) (gid : Int) (error : Int)
  | enumerate (error : Int)
  | remove (gid : Int) (fid : BitVec 32) (error : Int)
  | getAuthenticatorId
  | cancel (error : Int)
deriving DecidableEq, Repr

/-- Calls on the session's `UdfpsHandler`. -/
inductive UdfpsCall where
  | onFingerUp
  | onUiReady (waitForIllumination : Bool)
deriving DecidableEq, Repr

/-- Everything a session does outside itself. -/
inductive Output where
  | callback (callback : SessionCallback)
  | device (call : DeviceCall)
  | udfps (call : UdfpsCall)
  | setFodHbm (status : Bool)
deriving DecidableEq, Repr

/-- The status that a binder call returns to its client. -/
inductive BinderStatus where
  | ok
  | serviceSpecific (error : Int)
deriving DecidableEq, Repr

/-- A session object. `lockoutTimers` are the wake-up times of the detached threads that
sleep in `startLockoutTimer`, and `sent` is what the session has sent, each with its time.
-/
structure Session where
  mUserId : Int
  mLockoutTracker : LockoutTracker
  mClosed : Bool := false
  mIsLockoutTimerStarted : Bool := false
  mIsLockoutTimerAborted : Bool := false
  mIsAod : Bool := false
  lockoutTimers : List Int := []
  sent : List (Int × Output) := []
deriving DecidableEq, Repr

namespace Session

def send (session : Session) (now : Int) (output : Output) : Session :=
  { session with sent := (now, output) :: session.sent }

/-- `mCb->...`. -/
def callback (session : Session) (now : Int) (callback : SessionCallback) : Session :=
  session.send now (.callback callback)

/-- `mDevice->...`. -/
def device (session : Session) (now : Int) (call : DeviceCall) : Session :=
  session.send now (.device call)

/-- `mUdfpsHandler.onFingerUp()`. -/
def fingerUp (session : Session) (now : Int) : Session :=
  session.send now (.udfps .onFingerUp)

def setFodHbm (session : Session) (now : Int) (status : Bool) : Session :=
  session.send now (.setFodHbm status)

@[simp]
theorem sent_callback (session : Session) (now : Int) (callback : SessionCallback)
    : (session.callback now callback).sent = (now, .callback callback) :: session.sent :=
  rfl

@[simp]
theorem sent_device (session : Session) (now : Int) (call : DeviceCall)
    : (session.device now call).sent = (now, .device call) :: session.sent :=
  rfl

@[simp]
theorem sent_fingerUp (session : Session) (now : Int)
    : (session.fingerUp now).sent = (now, .udfps .onFingerUp) :: session.sent :=
  rfl

@[simp]
theorem sent_setFodHbm (session : Session) (now : Int) (status : Bool)
    : (session.setFodHbm now status).sent = (now, .setFodHbm status) :: session.sent :=
  rfl

/-- The constructor. Each session holds its own copy of the tracker it is given. -/
def make (now userId : Int) (lockoutTracker : LockoutTracker) : Session :=
  let session : Session := { mUserId := userId, mLockoutTracker := lockoutTracker }
  session.device now (.setActiveGroup userId s!"/data/vendor_de/{userId}/fpdata/")

-----------------------------------------------------------------------------------------
-- Lockout
-----------------------------------------------------------------------------------------

def clearLockout (session : Session) (now : Int) (clearAttemptCounter : Bool) : Session :=
  let session :=
    { session with mLockoutTracker := session.mLockoutTracker.reset clearAttemptCounter }
  session.callback now .onLockoutCleared

/-- The new thread sleeps for `timeout` milliseconds and then runs `lockoutTimerExpired`. -/
def startLockoutTimer (session : Session) (now timeout : Int) : Session :=
  { session with
    mIsLockoutTimerAborted := false
    lockoutTimers := session.lockoutTimers ++ [now + timeout * 1000000]
    mIsLockoutTimerStarted := true
  }

def lockoutTimerExpired (session : Session) (now : Int) : Session :=
  let session :=
    if session.mIsLockoutTimerAborted then session else session.clearLockout now false
  { session with mIsLockoutTimerStarted := false, mIsLockoutTimerAborted := false }

/-- A timer thread that wakes up at or after its deadline runs `lockoutTimerExpired`. -/
def wakeTimer (session : Session) (now : Int) (index : Nat) : Option Session :=
  match session.lockoutTimers[index]? with
  | some deadline =>
      if deadline ≤ now then
        let session :=
          { session with lockoutTimers := session.lockoutTimers.eraseIdx index }
        some (session.lockoutTimerExpired now)
      else
        none
  | none => none

def checkSensorLockout (session : Session) (now : Int) : Session × Bool :=
  let (lockoutMode, tracker) := session.mLockoutTracker.getMode now
  let session := { session with mLockoutTracker := tracker }
  let session :=
    if lockoutMode = .none then session else (session.fingerUp now).setFodHbm now false
  match lockoutMode with
  | .permanent =>
      let session := session.callback now .onLockoutPermanent
      ({ session with mIsLockoutTimerAborted := true }, true)
  | .timed =>
      let timeLeft := session.mLockoutTracker.getLockoutTimeLeft now
      let session := session.callback now (.onLockoutTimed timeLeft)
      (if session.mIsLockoutTimerStarted then session
        else session.startLockoutTimer now timeLeft,
        true)
  | .none => (session, false)

-----------------------------------------------------------------------------------------
-- Messages from the device
-----------------------------------------------------------------------------------------

/-- The `FINGERPRINT_AUTHENTICATED` case of `notify`. -/
def notifyAuthenticated (session : Session) (now : Int) (finger : FingerId)
    (hat : HwAuthToken)
    : Session :=
  if finger.fid ≠ 0 then
    let authToken := translateBack hat .empty
    let session := session.callback now (.onAuthenticationSucceeded finger.fid authToken)
    let session := { session with mLockoutTracker := session.mLockoutTracker.reset true }
    (session.fingerUp now).setFodHbm now false
  else
    let session := session.callback now .onAuthenticationFailed
    let session :=
      { session with mLockoutTracker := session.mLockoutTracker.addFailedAttempt now }
    (session.checkSensorLockout now).1

/-- `enrollments` is the function's static vector, which all sessions share. -/
def notify (session : Session) (now : Int) (enrollments : List (BitVec 32))
    : FingerprintMsg → Session × List (BitVec 32)
  | .error code =>
      let (result, vendorCode) := vendorErrorFilter code
      (session.callback now (.onError result vendorCode), enrollments)
  | .acquired acquiredInfo =>
      let (result, vendorCode) := vendorAcquiredFilter acquiredInfo
      -- a vendor code is not sent, or illumination would be turned off prematurely
      (if result = .vendor then session
        else session.callback now (.onAcquired result vendorCode),
        enrollments)
  | .templateEnrolling finger samplesRemaining =>
      let session := session.callback now (.onEnrollmentProgress finger.fid samplesRemaining)
      (if samplesRemaining = 0 then (session.fingerUp now).setFodHbm now false else session,
        enrollments)
  | .templateRemoved finger _ =>
      (session.callback now (.onEnrollmentsRemoved [finger.fid]), enrollments)
  | .authenticated finger hat => (session.notifyAuthenticated now finger hat, enrollments)
  | .templateEnumerating finger remainingTemplates =>
      let enrollments := enrollments ++ [finger.fid]
      if remainingTemplates = 0 then
        (session.callback now (.onEnrollmentsEnumerated enrollments), [])
      else
        (session, enrollments)
  | .unknown => (session, enrollments)

-----------------------------------------------------------------------------------------
-- Binder calls
-----------------------------------------------------------------------------------------

/-- A binder call on a session, or `cancel` through its cancellation signal, together with
the answers that the device gives while it runs.
-/
inductive Call where
  | generateChallenge (challenge : BitVec 64)
  | revokeChallenge (challenge : BitVec 64)
  | enroll (hat : HardwareAuthToken) (stack : HwAuthToken) (error : Int)
  | authenticate (operationId : BitVec 64) (error : Int)
  | detectInteraction
  | enumerateEnrollments (error : Int)
  | removeEnrollments (enrollmentIds : List (BitVec 32 × Int))
  | getAuthenticatorId (authenticatorId : BitVec 64)
  | invalidateAuthenticatorId (authenticatorId : BitVec 64)
  | resetLockout
  | onPointerDown
  | onPointerDownWithContext (isAod : Bool)
  | onPointerUp
  | onUiReady
  | cancel (error : Int)
  | close
deriving Repr

def revokeChallenge (session : Session) (now : Int) (challenge : BitVec 64) : Session :=
  let session := (session.fingerUp now).setFodHbm now false
  (session.device now .postEnroll).callback now (.onChallengeRevoked challenge)

/-- `stack` is what the uninitialised local `authToken` held. -/
def enroll (session : Session) (now : Int) (hat : HardwareAuthToken) (stack : HwAuthToken)
    (error : Int)
    : Option Session :=
  (translate hat stack).map (fun authToken =>
    let session := session.device now (.enroll authToken session.mUserId 60 error)
    if error ≠ 0 then session.callback now (.onError .unableToProcess error)
    else session.setFodHbm now true)

def authenticate (session : Session) (now : Int) (operationId : BitVec 64) (error : Int)
    : Session :=
  let session := session.device now (.authenticate operationId session.mUserId error)
  if error ≠ 0 then session.callback now (.onError .unableToProcess error)
  else session.setFodHbm now true

/-- Each id comes with the device's answer for it, which is only logged. -/
def removeEnrollments (session : Session) (now : Int)
    (enrollmentIds : List (BitVec 32 × Int))
    : Session :=
  enrollmentIds.foldl
    (fun session entry => session.device now (.remove session.mUserId entry.1 entry.2))
    session

def resetLockout (session : Session) (now : Int) : Session :=
  { session.clearLockout now true with mIsLockoutTimerAborted := true }

def cancel (session : Session) (now : Int) (error : Int) : Session × BinderStatus :=
  let session := (session.fingerUp now).setFodHbm now false
  let session := session.device now (.cancel error)
  if error = 0 then (session.callback now (.onError .canceled 0), .ok)
  else (session, .serviceSpecific error)

def close (session : Session) (now : Int) : Session :=
  let session := (session.fingerUp now).setFodHbm now false
  { session with mClosed := true }.callback now .onSessionClosed

/-- The session and the status after a binder call; `none` is the write past the end of a
local buffer that a token with too long a `mac` provokes.
-/
def call (session : Session) (now : Int) : Call → Option (Session × BinderStatus)
  | .generateChallenge challenge =>
      let session := session.device now .preEnroll
      some (session.callback now (.onChallengeGenerated challenge), .ok)
  | .revokeChallenge challenge => some (session.revokeChallenge now challenge, .ok)
  | .enroll hat stack error => (session.enroll now hat stack error).map (·, .ok)
  | .authenticate operationId error => some (session.authenticate now operationId error, .ok)
  | .detectInteraction => some (session.callback now (.onError .unableToProcess 0), .ok)
  | .enumerateEnrollments error => some (session.device now (.enumerate error), .ok)
  | .removeEnrollments enrollmentIds =>
      some (session.removeEnrollments now enrollmentIds, .ok)
  | .getAuthenticatorId authenticatorId =>
      let session := session.device now .getAuthenticatorId
      some (session.callback now (.onAuthenticatorIdRetrieved authenticatorId), .ok)
  | .invalidateAuthenticatorId authenticatorId =>
      let session := session.device now .getAuthenticatorId
      some (session.callback now (.onAuthenticatorIdInvalidated authenticatorId), .ok)
  | .resetLockout => some (session.resetLockout now, .ok)
  | .onPointerDown => some ({ session with mIsAod := false }, .ok)
  | .onPointerDownWithContext isAod => some ({ session with mIsAod := isAod }, .ok)
  | .onPointerUp => some (session.fingerUp now, .ok)
  | .onUiReady => some (session.send now (.udfps (.onUiReady session.mIsAod)), .ok)
  | .cancel error => some (session.cancel now error)
  | .close => some (session.close now, .ok)

end Session

end PongDevice.Fingerprint
