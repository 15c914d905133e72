import PongDevice.Fingerprint.Outputs
import PongDevice.Fingerprint.Service

/-! What the sessions of the service send in one event: those of the session that it reaches,
and nothing from any other.
-/

namespace PongDevice.Fingerprint

open Transition

namespace Service

/-- The place of the session that an event is about. -/
def Event.reaches : Event → Option Nat
  | .call index _ | .clientDeath index | .lockoutTimerExpired index _ => some index
  | .notify _ => some 0
  | .createSession _ | .elapse _ => none

/-- What an event makes the session send that it reaches. -/
def outputs (service : Service) (event : Event) (session : Session) : List Output :=
  match event with
  | .call _ call => session.callOutputs call
  | .clientDeath _ => if session.mClosed then [] else session.callOutputs .close
  | .notify msg =>
      if session.mClosed then []
      else session.notifyOutputs service.now service.enrollments msg
  | .lockoutTimerExpired _ _ => session.expiryOutputs
  | .createSession _ | .elapse _ => []

/-- A session sends a callback that relays a message only as the open session that a message
reaches, whatever kind of such callback it is.
-/
theorem notify_of_isRelayed {service : Service} {event : Event} {session : Session}
    {kind : Output → Bool} (relayed : ∀ output, kind output = true → output.isRelayed = true)
    (sends : (service.outputs event session).any kind = true)
    : ∃ msg,
        event = .notify msg
        ∧ (session.notifyOutputs service.now service.enrollments msg).any kind = true := by
  have weaker
      : ∀ outputs : List Output, outputs.any kind = true → outputs.any Output.isRelayed := by
    intro outputs some
    obtain ⟨output, member, isKind⟩ := List.any_eq_true.mp some
    exact List.any_eq_true.mpr ⟨output, member, relayed output isKind⟩
  have silent : ∀ call, ¬(session.callOutputs call).any kind = true := by
    intro call some
    have none := session.relays_nothing_call call
    rw [weaker _ some] at none
    cases none
  cases event with
  | call index call => exact absurd sends (silent call)
  | clientDeath index =>
      simp only [outputs] at sends
      split at sends
      · cases sends
      · exact absurd sends (silent .close)
  | notify msg =>
      refine ⟨msg, rfl, ?_⟩
      simp only [outputs] at sends
      split at sends
      · cases sends
      · exact sends
  | lockoutTimerExpired index timer =>
      have some := weaker _ sends
      simp only [outputs, Session.expiryOutputs] at some
      split at some <;> cases some
  | createSession _ | elapse _ => cases sends

/-- What all sessions have sent between two states of the service, in which only the newest
ones of the second are new.
-/
def newOutputs (before after : Service) : List Output :=
  let made := after.sessions.length - before.sessions.length
  (after.sessions.take made).flatMap (fun session => session.sent.map Prod.snd)
    ++ (List.zipWith Session.newOutputs before.sessions (after.sessions.drop made)).flatten

/-- A step of a session changes that session and nothing else of the service. -/
theorem modify_eq_set {before after : Service} {index : Nat}
    {step : Session → Option Session} (taken : before.modify index step = some after)
    : ∃ session later,
        before.sessions[index]? = some session
        ∧ step session = some later
        ∧ after = { before with sessions := before.sessions.set index later } := by
  obtain ⟨later, found, rfl⟩ := Option.map_eq_some_iff.mp taken
  obtain ⟨session, present, stepped⟩ := Option.bind_eq_some_iff.mp found
  exact ⟨session, later, present, stepped, rfl⟩

/-- Every event but a new session moves at most the session that it reaches, by the event's
outputs and its lockout input.
-/
theorem sessions_step {before after : Service} {event : Event}
    (taken : serviceMachine.step before event = some after)
    (kept : event.isCreation = false)
    : after.sessions = before.sessions
        ∧ (∀ index, event.reaches = some index → before.sessions[index]? = none)
      ∨ ∃ index session later,
          event.reaches = some index
          ∧ before.sessions[index]? = some session
          ∧ session.Moves before.now (before.lockoutInput event) (before.outputs event session)
            later
          ∧ after.sessions = before.sessions.set index later := by
  cases event with
  | createSession userId => simp [Event.isCreation] at kept
  | call index call =>
      obtain ⟨session, later, present, stepped, rfl⟩ := modify_eq_set taken
      obtain ⟨result, returned, rfl⟩ := Option.map_eq_some_iff.mp stepped
      exact .inr ⟨index, session, _, rfl, present, Session.moves_call returned, rfl⟩
  | clientDeath index =>
      obtain ⟨session, later, present, stepped, rfl⟩ := modify_eq_set taken
      obtain rfl := Option.some.inj stepped
      refine .inr ⟨index, session, _, rfl, present, ?_, rfl⟩
      simp only [onClientDeath, outputs, lockoutInput]
      split
      · exact .stay session before.now
      · have closes : session.call before.now .close = some (session.close before.now, .ok) :=
          rfl
        exact Session.moves_call closes
  | notify msg =>
      obtain rfl := Option.some.inj taken
      cases sessions : before.sessions with
      | nil => exact .inl ⟨by simp [notify, sessions], by simp⟩
      | cons session earlier =>
          by_cases closed : session.mClosed = true
          · refine .inr ⟨0, session, session, rfl, by simp, ?_,
              by simp [notify, sessions, closed]⟩
            simp only [outputs, lockoutInput, mSession, sessions, closed, if_true,
              List.head?_cons, Option.all_some]
            exact .stay session before.now
          · refine .inr ⟨0, session,
              (session.notify before.now before.enrollments msg).1, rfl, by simp, ?_,
              by simp [notify, sessions, closed]⟩
            simp only [outputs, lockoutInput, mSession, sessions, closed, Bool.false_eq_true,
              if_false, List.head?_cons, Option.all_some]
            exact session.moves_notify before.now before.enrollments msg
  | lockoutTimerExpired index timer =>
      obtain ⟨session, later, present, stepped, rfl⟩ := modify_eq_set taken
      exact .inr ⟨index, session, later, rfl, present, Session.moves_wakeTimer stepped, rfl⟩
  | elapse nanos =>
      obtain rfl := Option.some.inj taken
      exact .inl ⟨rfl, by simp [Event.reaches]⟩

/-- Every event but a new session leaves a session as it is or moves it. -/
theorem session_step {before after : Service} {event : Event} {index : Nat}
    {session later : Session} (taken : serviceMachine.step before event = some after)
    (kept : event.isCreation = false) (present : before.sessions[index]? = some session)
    (there : after.sessions[index]? = some later)
    : later = session
      ∨ event.reaches = some index
        ∧ session.Moves before.now (before.lockoutInput event) (before.outputs event session)
          later := by
  rcases sessions_step taken kept with ⟨same, _⟩ | ⟨reached, own, moved, reaches, found,
    moves, changed⟩
  · rw [same] at there
    exact .inl (Option.some.inj (there.symm.trans present))
  · rw [changed] at there
    by_cases here : reached = index
    · subst here
      rw [List.getElem?_set_self (List.getElem?_eq_some_iff.mp found).1] at there
      obtain rfl := Option.some.inj there
      obtain rfl := Option.some.inj (found.symm.trans present)
      exact .inr ⟨reaches, moves⟩
    · rw [List.getElem?_set_ne here] at there
      exact .inl (Option.some.inj (there.symm.trans present))

/-- A new session comes in front of the others, which it leaves as they are. -/
theorem sessions_createSession {before after : Service} {userId : Int}
    (taken : serviceMachine.step before (.createSession userId) = some after)
    : after.sessions
      = Session.make before.now userId before.mLockoutTracker :: before.sessions := by
  simp only [serviceMachine, step, createSession] at taken
  split at taken
  · obtain rfl := Option.some.inj taken
    rfl
  · cases taken

/-- No event but a new session makes or drops a session. -/
theorem length_step {before after : Service} {event : Event}
    (taken : serviceMachine.step before event = some after)
    (kept : event.isCreation = false)
    : after.sessions.length = before.sessions.length := by
  rcases sessions_step taken kept with ⟨same, _⟩ | ⟨_, _, _, _, _, _, changed⟩
  · rw [same]
  · rw [changed, List.length_set]

/-- Counted from the first one made, a session keeps its number; every event leaves it as it is
or moves it.
-/
theorem numbered_step {before after : Service} {event : Event} {number : Nat}
    {session later : Session} (taken : serviceMachine.step before event = some after)
    (present : before.sessions.reverse[number]? = some session)
    (there : after.sessions.reverse[number]? = some later)
    : later = session
      ∨ ∃ index,
          event.reaches = some index
          ∧ index + number + 1 = before.sessions.length
          ∧ session.Moves before.now (before.lockoutInput event)
            (before.outputs event session) later := by
  obtain ⟨inside, _⟩ := List.getElem?_eq_some_iff.mp present
  rw [List.length_reverse] at inside
  cases creation : event.isCreation with
  | true =>
      cases event with
      | createSession userId =>
          rw [sessions_createSession taken, List.reverse_cons,
            List.getElem?_append_left (by rw [List.length_reverse]; exact inside)] at there
          exact .inl (Option.some.inj (there.symm.trans present))
      | _ => cases creation
  | false =>
      have length := length_step taken creation
      rw [List.getElem?_reverse inside] at present
      rw [List.getElem?_reverse (by omega), length] at there
      rcases session_step taken creation present there with same | ⟨reaches, moved⟩
      · exact .inl same
      · exact .inr ⟨_, reaches, by omega, moved⟩

/-- A session that stays as it is sends nothing. -/
@[simp]
theorem newOutputs_self (session : Session) : session.newOutputs session = [] := by
  simp [Session.newOutputs]

/-- When one session changes, the new outputs are its own, by induction to its place. -/
theorem zipWith_newOutputs_set {sessions : List Session} {index : Nat}
    {session : Session} (later : Session) (present : sessions[index]? = some session)
    : (List.zipWith Session.newOutputs sessions (sessions.set index later)).flatten
      = session.newOutputs later := by
  induction sessions generalizing index with
  | nil => simp at present
  | cons first earlier ih =>
      cases index with
      | zero =>
          obtain rfl := Option.some.inj present
          simp
      | succ index =>
          simp only [List.getElem?_cons_succ] at present
          simp [ih present]

/-- Every event but a new session sends the outputs of the session that it reaches. -/
theorem newOutputs_step {before after : Service} {event : Event}
    (taken : serviceMachine.step before event = some after)
    (kept : event.isCreation = false)
    : before.newOutputs after
      = match event.reaches.bind (before.sessions[·]?) with
        | some session => before.outputs event session
        | none => [] := by
  rcases sessions_step taken kept with ⟨same, absent⟩ | ⟨index, session, later, reaches,
    present, moved, changed⟩
  · cases reaches : event.reaches with
    | none => simp [newOutputs, same]
    | some index => simp [newOutputs, same, absent index reaches]
  · simp [newOutputs, changed, zipWith_newOutputs_set later present,
      Session.newOutputs_eq moved.sent, reaches, present]

/-- A binder call runs on the session at its place, which sends the call's outputs. -/
theorem newOutputs_call {before after : Service} {index : Nat} {call : Session.Call}
    (taken : serviceMachine.step before (.call index call) = some after)
    : ∃ session result,
        before.sessions[index]? = some session
        ∧ session.call before.now call = some result
        ∧ after.sessions = before.sessions.set index result.1
        ∧ before.newOutputs after = session.callOutputs call := by
  have sent := newOutputs_step taken rfl
  obtain ⟨session, later, present, stepped, rfl⟩ := modify_eq_set taken
  obtain ⟨result, returned, rfl⟩ := Option.map_eq_some_iff.mp stepped
  refine ⟨session, result, present, returned, rfl, ?_⟩
  simpa [Event.reaches, present, outputs] using sent

/-- The current session is open: messages of the device are relayed to it. -/
def isOpen (service : Service) : Bool := service.mSession.any (!·.mClosed)

/-- A message is relayed to the current session if that is open, and dropped otherwise. -/
theorem newOutputs_notify {before after : Service} {msg : FingerprintMsg}
    (taken : serviceMachine.step before (.notify msg) = some after)
    : before.isOpen = false ∧ after = before ∧ before.newOutputs after = []
      ∨ ∃ session earlier,
          before.isOpen = true
          ∧ before.sessions = session :: earlier
          ∧ after.sessions
            = (session.notify before.now before.enrollments msg).1 :: earlier
          ∧ after.enrollments = (session.notify before.now before.enrollments msg).2
          ∧ before.newOutputs after
            = session.notifyOutputs before.now before.enrollments msg := by
  have sent := newOutputs_step taken rfl
  obtain rfl := Option.some.inj taken
  cases sessions : before.sessions with
  | nil =>
      refine .inl ⟨by simp [isOpen, mSession, sessions], by simp [notify, sessions], ?_⟩
      simpa [Event.reaches, sessions] using sent
  | cons session earlier =>
      by_cases closed : session.mClosed = true
      · refine .inl ⟨by simp [isOpen, mSession, sessions, closed],
          by simp [notify, sessions, closed], ?_⟩
        simpa [Event.reaches, sessions, outputs, closed] using sent
      · refine .inr ⟨session, earlier, by simp [isOpen, mSession, sessions, closed], rfl,
          by simp [notify, sessions, closed], by simp [notify, sessions, closed], ?_⟩
        simpa [Event.reaches, sessions, outputs, closed] using sent

end Service

end PongDevice.Fingerprint
