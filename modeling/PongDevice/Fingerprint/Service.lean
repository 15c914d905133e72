import PongDevice.Fingerprint.SessionRuns

/-! The fingerprint service: the sessions it has made, of which the last is the current one,
and the events that reach it. Clients may hold a session after the service has dropped it.
-/

namespace PongDevice.Fingerprint

open Transition

/-- Every session that was made, newest first, with the service's own tracker, the clock and
the static vector of `notify`.
-/
structure Service where
  sessions : List Session := []
  mLockoutTracker : LockoutTracker := {}
  now : Int
  enrollments : List (BitVec 32) := []
deriving DecidableEq, Repr

namespace Service

/-- `mSession`, the session that the service made last. -/
def mSession (service : Service) : Option Session := service.sessions.head?

/-- Binder calls, deaths and timers name a session by its place in `sessions`. -/
inductive Event where
  | createSession (userId : Int)
  | call (index : Nat) (call : Session.Call)
  | clientDeath (index : Nat)
  | notify (msg : FingerprintMsg)
  | lockoutTimerExpired (index timer : Nat)
  | elapse (nanos : Nat)
deriving Repr

def Event.isCreation : Event → Bool
  | .createSession _ => true
  | _ => false

/-- An open session fails the `CHECK`. The new session gets a copy of the tracker. -/
def createSession (service : Service) (userId : Int) : Option Service :=
  if service.mSession.all (·.mClosed) then
    some
      { service with
        sessions := .make service.now userId service.mLockoutTracker :: service.sessions
      }
  else
    none

def onClientDeath (session : Session) (now : Int) : Session :=
  if session.mClosed then session else session.close now

/-- Runs a step of the session at `index`, if there is one. -/
def modify (service : Service) (index : Nat) (step : Session → Option Session)
    : Option Service :=
  (service.sessions[index]?.bind step).map (fun session =>
    { service with sessions := service.sessions.set index session })

/-- A message without an open session is dropped. -/
def notify (service : Service) (msg : FingerprintMsg) : Service :=
  match service.sessions with
  | [] => service
  | session :: earlier =>
      if session.mClosed then
        service
      else
        let (session, enrollments) := session.notify service.now service.enrollments msg
        { service with sessions := session :: earlier, enrollments }

def step (service : Service) : Event → Option Service
  | .createSession userId => service.createSession userId
  | .call index call =>
      service.modify index (fun session => (session.call service.now call).map Prod.fst)
  | .clientDeath index =>
      service.modify index (fun session => some (onClientDeath session service.now))
  | .notify msg => some (service.notify msg)
  | .lockoutTimerExpired index timer =>
      service.modify index (fun session => session.wakeTimer service.now timer)
  | .elapse nanos => some { service with now := service.now + nanos }

end Service

def serviceMachine : Machine Service Service.Event where
  step := Service.step

namespace Service

/-- What an event means to the lockout of the session that it reaches. -/
def lockoutInput (service : Service) : Event → LockoutInput
  | .call _ call => call.lockoutInput
  | .notify msg => if service.mSession.all (·.mClosed) then .other else msg.lockoutInput
  | .lockoutTimerExpired _ _ => .expired
  | .createSession _ | .clientDeath _ | .elapse _ => .other

/-- What an event means to the lockout of the current session: nothing, when it reaches a
session that is no longer the current one.
-/
def currentInput (service : Service) : Event → LockoutInput
  | .call (_ + 1) _ | .lockoutTimerExpired (_ + 1) _ => .other
  | event => service.lockoutInput event

/-- An event that is something else to the current session than to the one it reaches is a
binder call or a timer of an earlier session.
-/
theorem currentInput_cases (service : Service) (event : Event)
    : service.currentInput event = service.lockoutInput event
      ∨ service.currentInput event = .other
        ∧ (service.lockoutInput event = .expired
          ∨ service.lockoutInput event = .resetLockout) := by
  cases event with
  | call index call =>
      cases index with
      | zero => exact .inl rfl
      | succ index => cases call <;> simp [currentInput, lockoutInput, Session.Call.lockoutInput]
  | lockoutTimerExpired index timer => cases index <;> simp [currentInput, lockoutInput]
  | createSession _ | clientDeath _ | notify _ | elapse _ => exact .inl rfl

/-- A step on one session leaves the service's tracker alone, and the current session has
taken the step if it was the one.
-/
theorem modify_eq_some {before after : Service} {index : Nat}
    {step : Session → Option Session} (taken : before.modify index step = some after)
    : after.mLockoutTracker = before.mLockoutTracker
      ∧ ∀ later ∈ after.mSession,
        ∃ session ∈ before.mSession,
          if index = 0 then step session = some later else later = session := by
  obtain ⟨changed, found, rfl⟩ := Option.map_eq_some_iff.mp taken
  obtain ⟨session, present, stepped⟩ := Option.bind_eq_some_iff.mp found
  refine ⟨rfl, ?_⟩
  intro later current
  simp only [mSession] at current ⊢
  cases sessions : before.sessions with
  | nil => simp [sessions] at present
  | cons first earlier =>
      cases index with
      | zero => simp_all
      | succ index => simp_all

/-- Only a service with a current session can run a step of a session. -/
theorem modify_current {before after : Service} {index : Nat}
    {step : Session → Option Session} (taken : before.modify index step = some after)
    : ∃ later, later ∈ after.mSession := by
  obtain ⟨changed, found, rfl⟩ := Option.map_eq_some_iff.mp taken
  obtain ⟨session, present, _⟩ := Option.bind_eq_some_iff.mp found
  cases sessions : before.sessions with
  | nil => simp [sessions] at present
  | cons first earlier => cases index <;> simp [mSession]

/-- Dying does nothing to the lockout. -/
theorem lockout_onClientDeath (session : Session) (now : Int)
    : (onClientDeath session now).lockout = session.lockout := by
  simp only [onClientDeath]
  split <;> rfl

/-- Every event but a new session makes one lockout step of the current session and leaves
the service's tracker alone.
-/
theorem lockoutStep {before after : Service} {event : Event}
    (taken : serviceMachine.step before event = some after)
    (kept : event.isCreation = false)
    : after.mLockoutTracker = before.mLockoutTracker
      ∧ ∀ later ∈ after.mSession,
        ∃ session ∈ before.mSession,
          LockoutStep before.now (before.currentInput event) session.lockout
            later.lockout := by
  cases event with
  | createSession userId => simp [Event.isCreation] at kept
  | call index call =>
      obtain ⟨same, current⟩ := modify_eq_some taken
      refine ⟨same, fun later member => ?_⟩
      obtain ⟨session, present, stepped⟩ := current later member
      refine ⟨session, present, ?_⟩
      cases index with
      | zero =>
          obtain ⟨result, returned, rfl⟩ := Option.map_eq_some_iff.mp stepped
          exact Session.lockoutStep_call returned
      | succ index =>
          obtain rfl := stepped
          exact .other
  | clientDeath index =>
      obtain ⟨same, current⟩ := modify_eq_some taken
      refine ⟨same, fun later member => ?_⟩
      obtain ⟨session, present, stepped⟩ := current later member
      refine ⟨session, present, ?_⟩
      cases index with
      | zero =>
          obtain rfl := Option.some.inj stepped
          rw [lockout_onClientDeath]
          exact .other
      | succ index =>
          obtain rfl := stepped
          exact .other
  | notify msg =>
      obtain rfl := Option.some.inj taken
      cases sessions : before.sessions with
      | nil => simp [notify, mSession, sessions]
      | cons session earlier =>
          by_cases closed : session.mClosed = true
          · simp only [notify, mSession, sessions, closed, if_true, List.head?_cons,
              Option.mem_def, Option.some.injEq, exists_eq_left', currentInput, lockoutInput,
              Option.all_some, true_and]
            intro later same
            subst same
            exact .other
          · simp only [notify, mSession, sessions, closed, Bool.false_eq_true, if_false,
              List.head?_cons, Option.mem_def, Option.some.injEq, exists_eq_left',
              currentInput, lockoutInput, Option.all_some, true_and]
            intro later same
            subst same
            exact session.lockoutStep_notify before.now before.enrollments msg
  | lockoutTimerExpired index timer =>
      obtain ⟨same, current⟩ := modify_eq_some taken
      refine ⟨same, fun later member => ?_⟩
      obtain ⟨session, present, stepped⟩ := current later member
      refine ⟨session, present, ?_⟩
      cases index with
      | zero => exact Session.lockoutStep_wakeTimer stepped
      | succ index =>
          obtain rfl := stepped
          exact .other
  | elapse nanos =>
      obtain rfl := Option.some.inj taken
      exact ⟨rfl, fun later member => ⟨later, member, .other⟩⟩

/-- `resetLockout` reaches a session, so the service has a current one. -/
theorem current_of_resetLockout {before after : Service} {event : Event}
    (taken : serviceMachine.step before event = some after)
    (reset : before.lockoutInput event = .resetLockout)
    : ∃ later, later ∈ after.mSession := by
  cases event with
  | call index call => exact modify_current taken
  | notify msg =>
      simp only [lockoutInput, FingerprintMsg.lockoutInput] at reset
      split at reset
      · cases reset
      · split at reset
        · split at reset <;> cases reset
        · cases reset
  | createSession _ | clientDeath _ | lockoutTimerExpired _ _ | elapse _ =>
      simp [lockoutInput] at reset

/-- A new session comes after a closed one and starts from the service's tracker. -/
theorem createSession_eq_some {before after : Service} {userId : Int}
    (taken : serviceMachine.step before (.createSession userId) = some after)
    : after.mLockoutTracker = before.mLockoutTracker
      ∧ after.mSession = some (.make before.now userId before.mLockoutTracker) := by
  simp only [serviceMachine, step, createSession] at taken
  split at taken
  · obtain rfl := Option.some.inj taken
    exact ⟨rfl, rfl⟩
  · cases taken

end Service

end PongDevice.Fingerprint
