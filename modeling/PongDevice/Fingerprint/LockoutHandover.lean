import PongDevice.Fingerprint.Service

/-! What a new session knows of the failures before it. The service passes its tracker by
value and never updates it, so each session counts from nothing.
-/

namespace PongDevice.Fingerprint

open Transition

/-- The failed attempts delivered since the last match or `resetLockout` in any session. -/
def noteFailures (failures : Nat) (before : Service) (event : Service.Event) (_ : Service)
    : Nat :=
  (before.lockoutInput event).count failures

/-- The service together with the failures delivered in all of its sessions. -/
def countingMachine : Machine (Service × Nat) Service.Event :=
  serviceMachine.observe noteFailures

/-- The current session counts the failures of all sessions, and a new session is in the
lockout that its predecessor was in.
-/
def HandsOver (before : Service × Nat) (event : Service.Event) (after : Service × Nat)
    : Prop :=
  (∀ session ∈ after.1.mSession, session.mLockoutTracker.mFailedCount = after.2)
  ∧ (event.isCreation = true
    → ∀ previous ∈ before.1.mSession,
      previous.mLockoutTracker.LockedOut before.1.now
      → ∀ session ∈ after.1.mSession,
        session.mLockoutTracker.LockedOut before.1.now
        ∧ session.mLockoutTracker.mCurrentMode = previous.mLockoutTracker.mCurrentMode)

/-- A session is created, and `resetLockout` is called on one that is no longer current, only
when no failure has been delivered since the last match or `resetLockout`.
-/
def FreshHandover (before : Service × Nat) (event : Service.Event) (_ : Service × Nat)
    : Prop :=
  event.isCreation = true
    ∨ before.1.lockoutInput event = .resetLockout ∧ before.1.currentInput event = .other
  → before.2 = 0

instance : ∀ before event after, Decidable (HandsOver before event after) :=
  fun _ _ _ => inferInstanceAs (Decidable (_ ∧ _))

/-- The service's tracker is as new, and the current session counts every failure. -/
structure CountsAll (service : Service) (failures : Nat) : Prop where
  fresh : service.mLockoutTracker = {}
  counted : ∀ session ∈ service.mSession, session.mLockoutTracker.Counted
  counts : ∀ session ∈ service.mSession, session.mLockoutTracker.mFailedCount = failures

namespace CountsAll

/-- A new session counts nothing and is locked out by nothing, so it hands over exactly when
there is nothing to hand over.
-/
theorem createSession {before after : Service} {failures : Nat} {userId : Int}
    (sound : CountsAll before failures)
    (taken : serviceMachine.step before (.createSession userId) = some after)
    : (HandsOver (before, failures) (.createSession userId)
          (after, noteFailures failures before (.createSession userId) after)
        ↔ failures = 0)
      ∧ (failures = 0 → CountsAll after failures) := by
  obtain ⟨same, made⟩ := Service.createSession_eq_some taken
  have tracker : ∀ session ∈ after.mSession, session.mLockoutTracker = {} := by
    intro session current
    obtain rfl := Option.some.inj (made.symm.trans current)
    exact sound.fresh
  refine ⟨⟨?_, ?_⟩, ?_⟩
  · intro handed
    have zero := handed.1 _ made
    simpa [tracker _ made, noteFailures, Service.lockoutInput, LockoutInput.count] using
      zero.symm
  · intro none
    subst none
    refine ⟨fun session current => by simp [tracker session current, noteFailures,
      Service.lockoutInput, LockoutInput.count], fun _ previous member locked => ?_⟩
    have few : previous.mLockoutTracker.mFailedCount < lockoutTimedThreshold := by
      simp [sound.counts previous member, lockoutTimedThreshold]
    have unlocked := (sound.counted previous member).mode_of_lt few
    simp [LockoutTracker.LockedOut, unlocked] at locked
  · intro none
    subst none
    exact ⟨same.trans sound.fresh,
      fun session current => tracker session current ▸ LockoutTracker.counted_new,
      fun session current => by simp [tracker session current]⟩

/-- Any other event counts alike in the current session and in all of them, unless it resets
an earlier session over failures that the current one goes on counting.
-/
theorem step {before after : Service} {failures : Nat} {event : Service.Event}
    (sound : CountsAll before failures)
    (taken : serviceMachine.step before event = some after)
    (kept : event.isCreation = false)
    : (HandsOver (before, failures) event
          (after, noteFailures failures before event after)
        ↔ FreshHandover (before, failures) event
          (after, noteFailures failures before event after))
      ∧ (FreshHandover (before, failures) event
          (after, noteFailures failures before event after)
        → CountsAll after (noteFailures failures before event after)) := by
  obtain ⟨same, moved⟩ := Service.lockoutStep taken kept
  have counts : ∀ later ∈ after.mSession,
      later.mLockoutTracker.mFailedCount = (before.currentInput event).count failures := by
    intro later current
    obtain ⟨session, member, step⟩ := moved later current
    have counted := step.mFailedCount
    exact counted.trans (congrArg _ (sound.counts session member))
  have counted : ∀ later ∈ after.mSession, later.mLockoutTracker.Counted := by
    intro later current
    obtain ⟨session, member, step⟩ := moved later current
    exact step.counted (sound.counted session member)
  have agree : FreshHandover (before, failures) event
        (after, noteFailures failures before event after)
      → (before.currentInput event).count failures
        = noteFailures failures before event after := by
    intro fresh
    rcases before.currentInput_cases event with equal | ⟨other, expired | reset⟩
    · rw [equal, noteFailures]
    · simp [noteFailures, other, expired, LockoutInput.count]
    · simpa [noteFailures, other, reset, LockoutInput.count] using
        fresh (.inr ⟨reset, other⟩)
  refine ⟨⟨?_, ?_⟩, ?_⟩
  · intro handed stale
    rcases stale with creation | ⟨reset, other⟩
    · simp [kept] at creation
    · obtain ⟨later, current⟩ := Service.current_of_resetLockout taken reset
      have zero := (counts later current).symm.trans (handed.1 later current)
      simpa [noteFailures, other, reset, LockoutInput.count] using zero
  · intro fresh
    exact ⟨fun later current => (counts later current).trans (agree fresh),
      fun creation => by simp [kept] at creation⟩
  · intro fresh
    exact ⟨same.trans sound.fresh, counted,
      fun later current => (counts later current).trans (agree fresh)⟩

/-- An event hands over everything exactly when it meets the rule, which keeps the count. -/
theorem handsOver {before after : Service} {failures : Nat} {event : Service.Event}
    (sound : CountsAll before failures)
    (taken : serviceMachine.step before event = some after)
    : (HandsOver (before, failures) event
          (after, noteFailures failures before event after)
        ↔ FreshHandover (before, failures) event
          (after, noteFailures failures before event after))
      ∧ (FreshHandover (before, failures) event
          (after, noteFailures failures before event after)
        → CountsAll after (noteFailures failures before event after)) := by
  cases event with
  | createSession userId =>
      obtain ⟨exact, kept⟩ := sound.createSession taken
      refine ⟨exact.trans ?_, fun fresh => kept (fresh (.inl rfl))⟩
      simp [FreshHandover, Service.Event.isCreation]
  | call _ _ | clientDeath _ | notify _ | lockoutTimerExpired _ _ | elapse _ =>
      exact sound.step taken rfl

end CountsAll

end PongDevice.Fingerprint
