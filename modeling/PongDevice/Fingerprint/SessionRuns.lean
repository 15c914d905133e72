import PongDevice.Transition.Machine
import PongDevice.Fingerprint.LockoutSteps

/-! Runs of one session: binder calls, relayed device messages, timer threads that wake up,
and the passage of time, in any order. Each handler is one step.
-/

namespace PongDevice.Fingerprint

open Transition

/-- A session with the clock and the static vector of `notify` that it runs against. -/
structure World where
  session : Session
  now : Int
  enrollments : List (BitVec 32)
deriving DecidableEq, Repr

/-- A session opened at `now` for `userId` with a copy of `lockoutTracker`. -/
def World.opened (now userId : Int) (lockoutTracker : LockoutTracker) : World :=
  { session := .make now userId lockoutTracker, now, enrollments := [] }

/-- A new session has sent no lockout callback and started no timer. -/
theorem World.opened_lockout (now userId : Int) (lockoutTracker : LockoutTracker)
    : (World.opened now userId lockoutTracker).session.lockout
      = {
          tracker := lockoutTracker
          started := false
          aborted := false
          timers := []
          notices := []
        } :=
  rfl

inductive SessionEvent where
  | call (call : Session.Call)
  | notify (msg : FingerprintMsg)
  | lockoutTimerExpired (index : Nat)
  | elapse (nanos : Nat)
deriving Repr

/-- One event. `Fingerprint::notify` drops what the device sends to a closed session. -/
def World.step (world : World) : SessionEvent → Option World
  | .call call =>
      (world.session.call world.now call).map (fun result =>
        { world with session := result.1 })
  | .notify msg =>
      if world.session.mClosed then
        some world
      else
        let (session, enrollments) := world.session.notify world.now world.enrollments msg
        some { world with session, enrollments }
  | .lockoutTimerExpired index =>
      (world.session.wakeTimer world.now index).map (fun session => { world with session })
  | .elapse nanos => some { world with now := world.now + nanos }

def sessionMachine : Machine World SessionEvent where
  step := World.step

/-- What an event means to the lockout of the world it reaches. -/
def World.lockoutInput (world : World) : SessionEvent → LockoutInput
  | .call call => call.lockoutInput
  | .notify msg => if world.session.mClosed then .other else msg.lockoutInput
  | .lockoutTimerExpired _ => .expired
  | .elapse _ => .other

/-- Every event makes one lockout step, and the clock never goes back. -/
theorem World.lockoutStep {before after : World} {event : SessionEvent}
    (taken : sessionMachine.step before event = some after)
    : LockoutStep before.now (before.lockoutInput event) before.session.lockout
        after.session.lockout
      ∧ before.now ≤ after.now := by
  cases event with
  | call call =>
      obtain ⟨result, returned, rfl⟩ := Option.map_eq_some_iff.mp taken
      exact ⟨Session.lockoutStep_call returned, le_refl _⟩
  | notify msg =>
      simp only [sessionMachine, World.step] at taken
      by_cases closed : before.session.mClosed = true
      · simp only [closed, if_true, Option.some.injEq] at taken
        subst taken
        simp only [World.lockoutInput, closed, if_true]
        exact ⟨.other, le_refl _⟩
      · simp only [closed, Bool.false_eq_true, if_false, Option.some.injEq] at taken
        subst taken
        simp only [World.lockoutInput, closed, Bool.false_eq_true, if_false]
        exact ⟨before.session.lockoutStep_notify before.now before.enrollments msg, le_refl _⟩
  | lockoutTimerExpired index =>
      obtain ⟨session, woken, rfl⟩ := Option.map_eq_some_iff.mp taken
      exact ⟨Session.lockoutStep_wakeTimer woken, le_refl _⟩
  | elapse nanos =>
      obtain rfl := Option.some.inj taken
      exact ⟨.other, by dsimp only; omega⟩

end PongDevice.Fingerprint
