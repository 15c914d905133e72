import PongDevice.Fingerprint.ServiceOutputs

/-! What a closed session still does on its own. Messages and deaths are turned away once it
is closed; a lockout timer that it left sleeping is not.
-/

namespace PongDevice.Fingerprint

open Transition

/-- Device messages, deaths of clients and expiries of lockout timers. -/
def Service.Event.isAsynchronous : Service.Event → Bool
  | .notify _ | .clientDeath _ | .lockoutTimerExpired _ _ => true
  | .createSession _ | .call _ _ | .elapse _ => false

/-- The session has sent `onSessionClosed`. -/
def Session.toldClosed (session : Session) : Bool :=
  session.sent.any (fun entry => entry.2.closesSession)

/-- After `onSessionClosed` an asynchronous event makes a session send nothing, neither to its
client nor to the illumination node, and leaves its lockout tracker alone; before it, the
event sends `onSessionClosed` at most once. Sessions are numbered from the first one made.
-/
def ClosedIsQuiet (before : Service) (event : Service.Event) (after : Service) : Prop :=
  event.isAsynchronous = true
  → ∀ (number : Nat) (session later : Session),
    before.sessions.reverse[number]? = some session
    → after.sessions.reverse[number]? = some later
    → (session.toldClosed = true
        → session.newOutputs later = []
          ∧ later.mLockoutTracker = session.mLockoutTracker)
      ∧ (session.newOutputs later).countP Output.closesSession ≤ 1

/-- The timers that a closed session left sleeping are aborted when they expire. -/
def ExpiresAborted (before : Service) (event : Service.Event) (_ : Service) : Prop :=
  ∀ (index timer : Nat) (session : Session),
    event = .lockoutTimerExpired index timer
    → before.sessions[index]? = some session
    → session.mClosed = true
    → session.mIsLockoutTimerAborted = true

/-- A session is closed when it has said so. -/
def Service.TellsClosed (service : Service) : Prop :=
  ∀ session ∈ service.sessions, session.toldClosed = session.mClosed

/-- A session that moves is closed when it has said so, if it was before. -/
theorem Session.Moves.toldClosed {before after : Session} {now : Int} {input : LockoutInput}
    {outputs : List Output} (moved : before.Moves now input outputs after)
    (told : before.toldClosed = before.mClosed)
    : after.toldClosed = after.mClosed := by
  rw [moved.closed, ← told, Session.toldClosed, moved.sent, List.any_append, List.any_map,
    Bool.or_comm]
  rfl

/-- Every event keeps the sessions that are closed to those that have said so. -/
theorem Service.TellsClosed.step {before after : Service} {event : Service.Event}
    (tells : before.TellsClosed) (taken : serviceMachine.step before event = some after)
    : after.TellsClosed := by
  cases creation : event.isCreation with
  | true =>
      cases event with
      | createSession userId =>
          rw [Service.TellsClosed, Service.sessions_createSession taken]
          intro session member
          rcases List.mem_cons.mp member with rfl | earlier
          · rfl
          · exact tells session earlier
      | _ => cases creation
  | false =>
      rcases Service.sessions_step taken creation with ⟨same, _⟩ | ⟨index, own, moved, _,
        present, moves, changed⟩
      · rw [Service.TellsClosed, same]
        exact tells
      · rw [Service.TellsClosed, changed]
        intro session member
        rcases List.mem_or_eq_of_mem_set member with earlier | rfl
        · exact tells session earlier
        · exact moves.toldClosed (tells own (List.mem_of_getElem? present))

/-- No message makes a session say that it is closed. -/
theorem no_close_notify (session : Session) (now : Int) (enrollments : List (BitVec 32))
    (msg : FingerprintMsg)
    : (session.notifyOutputs now enrollments msg).countP Output.closesSession = 0 := by
  cases msg with
  | authenticated finger hat =>
      simp only [Session.notifyOutputs]
      split
      · rfl
      · simp only [Session.lockoutOutputs]
        split <;> rfl
  | acquired _ | templateEnrolling _ _ | templateEnumerating _ _ =>
      simp only [Session.notifyOutputs]
      split <;> rfl
  | error _ | templateRemoved _ _ | unknown => rfl

/-- An event that reaches a session sends `onSessionClosed` at most once. -/
theorem close_once {service : Service} {event : Service.Event} (session : Session)
    (asynchronous : event.isAsynchronous = true)
    : (service.outputs event session).countP Output.closesSession ≤ 1 := by
  cases event with
  | notify msg =>
      simp only [Service.outputs]
      split
      · exact Nat.zero_le 1
      · exact (no_close_notify session _ _ msg).trans_le (Nat.zero_le 1)
  | clientDeath index =>
      simp only [Service.outputs]
      split
      · exact Nat.zero_le 1
      · exact le_refl 1
  | lockoutTimerExpired index timer =>
      simp only [Service.outputs, Session.expiryOutputs]
      split <;> exact Nat.zero_le 1
  | createSession _ | call _ _ | elapse _ => cases asynchronous

/-- A closed session that an asynchronous event reaches stays quiet, unless the event is the
expiry of a timer that was not aborted.
Witness: messages and deaths test for a closed session; an aborted expiry only clears the
timer's flags.
-/
theorem quiet_of_closed {before : Service} {event : Service.Event} {session later : Session}
    (asynchronous : event.isAsynchronous = true) (closed : session.mClosed = true)
    (current : event.reaches = some 0 → before.mSession = some session)
    (aborted
      : ∀ index timer,
        event = .lockoutTimerExpired index timer → session.mIsLockoutTimerAborted = true)
    (moved
      : session.Moves before.now (before.lockoutInput event) (before.outputs event session)
          later)
    : before.outputs event session = []
      ∧ later.mLockoutTracker = session.mLockoutTracker := by
  have still : ∀ {before after : Lockout} {now : Int},
      LockoutStep now .other before after → after.tracker = before.tracker := by
    intro before after now step
    cases step with
    | other => rfl
  cases event with
  | notify msg =>
      have lockout := moved.lockout
      simp only [Service.lockoutInput, current rfl, Option.all_some, closed, if_true]
        at lockout
      exact ⟨by simp [Service.outputs, closed], still lockout⟩
  | clientDeath index => exact ⟨by simp [Service.outputs, closed], still moved.lockout⟩
  | lockoutTimerExpired index timer =>
      have off := aborted index timer rfl
      refine ⟨by simp [Service.outputs, Session.expiryOutputs, off], ?_⟩
      have lockout := moved.lockout
      have gone : session.lockout.aborted = true := off
      generalize result : later.lockout = after at lockout
      have tracker : later.mLockoutTracker = after.tracker := congrArg Lockout.tracker result
      rw [tracker]
      cases lockout with
      | expired _ _ armed => exact absurd (armed.symm.trans gone) Bool.false_ne_true
      | expiredAborted => rfl
  | createSession _ | call _ _ | elapse _ => cases asynchronous

/-- An event leaves closed sessions quiet exactly when it is no expiry of a timer that a
closed session left unaborted.
-/
theorem closedIsQuiet_iff {before after : Service} {event : Service.Event}
    (tells : before.TellsClosed) (taken : serviceMachine.step before event = some after)
    : ClosedIsQuiet before event after ↔ ExpiresAborted before event after := by
  constructor
  · intro quiet index timer session same present closed
    subst same
    obtain ⟨own, later, found, woken, rfl⟩ := Service.modify_eq_set taken
    obtain rfl := Option.some.inj (found.symm.trans present)
    obtain ⟨inside, _⟩ := List.getElem?_eq_some_iff.mp present
    have place : before.sessions.length - 1 - (before.sessions.length - 1 - index) = index := by
      omega
    have silent := (quiet rfl (before.sessions.length - 1 - index) own later
      (by rw [List.getElem?_reverse (by omega), place, present])
      (by
        rw [List.getElem?_reverse (by rw [List.length_set]; omega), List.length_set, place,
          List.getElem?_set_self inside])).1
      ((tells own (List.mem_of_getElem? present)).trans closed)
    have sent := silent.1
    rw [Session.newOutputs_eq (Session.sent_wakeTimer woken), Session.expiryOutputs] at sent
    by_contra armed
    rw [if_neg armed] at sent
    cases sent
  · intro aborted asynchronous number session later present there
    rcases Service.numbered_step taken present there with rfl | ⟨index, reaches, placed, moved⟩
    · simp
    have found : before.sessions[index]? = some session := by
      obtain ⟨inside, _⟩ := List.getElem?_eq_some_iff.mp present
      rw [List.length_reverse] at inside
      rw [List.getElem?_reverse inside] at present
      rw [← present]
      congr 1
      omega
    rw [Session.newOutputs_eq moved.sent]
    refine ⟨?_, close_once session asynchronous⟩
    intro told
    have closed := (tells session (List.mem_of_getElem? found)).symm.trans told
    refine quiet_of_closed asynchronous closed ?_ ?_ moved
    · intro first
      obtain rfl := Option.some.inj (reaches.symm.trans first)
      rw [Service.mSession, List.head?_eq_getElem?]
      exact found
    · intro place timer same
      subst same
      obtain rfl := Option.some.inj reaches
      exact aborted place timer session rfl found closed

/-- In a run of the service, asynchronous events leave every session quiet that has sent
`onSessionClosed`, and send it at most once, exactly when each timer of a closed session is
aborted by the time it expires.
-/
theorem closedSessionsQuiet_iff (now : Int) (events : List Service.Event)
    : serviceMachine.Along ClosedIsQuiet { now } events
      ↔ serviceMachine.Along ExpiresAborted { now } events := by
  have assumed : serviceMachine.Along (fun _ _ _ => True) { now } events :=
    Machine.along_true _ _
  refine Machine.Along.congr Service.TellsClosed ?_ ?_ nofun assumed
  · intro before event after tells taken _
    exact closedIsQuiet_iff tells taken
  · intro before event after tells taken _ _
    exact tells.step taken

/-- Five failures start a lockout timer, the session is closed, and the timer expires: the
closed session tells its client that the lockout is over.
-/
theorem closedSessionsQuiet_fails_timer
    : ¬serviceMachine.Along ClosedIsQuiet { now := 1 }
        ((.createSession 0
            :: .replicate 5 (.notify (.authenticated { gid := 0, fid := 0 } default))
            ++ [.call 0 .close, .elapse 30000000000])
          ++ [.lockoutTimerExpired 0 0]) := by
  intro along
  have last := (along.of_append rfl _ rfl).1
  obtain ⟨silent, _⟩ := (last rfl 0 _ _ rfl rfl).1 rfl
  exact absurd silent (by decide)

end PongDevice.Fingerprint
