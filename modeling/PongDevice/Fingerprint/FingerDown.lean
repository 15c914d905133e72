import PongDevice.Fingerprint.Illumination
import PongDevice.Fingerprint.ServiceOutputs
import PongDevice.Fingerprint.UdfpsCommands

/-! The finger that the device believes in. Every session has a handler with a worker thread of its
own, and the handlers of all sessions command the one device.
-/

namespace PongDevice.Fingerprint

open Transition

-----------------------------------------------------------------------------------------
-- The sessions with their handlers
-----------------------------------------------------------------------------------------

/-- A handler after the calls among a session's outputs, which are listed newest first. -/
def UdfpsHandler.serve (handler : UdfpsHandler) (outputs : List Output) : UdfpsHandler :=
  outputs.foldr
    (fun output handler =>
      match output with
      | .udfps (.onUiReady waitForIllumination) => handler.onUiReady waitForIllumination
      | .udfps .onFingerUp => handler.onFingerUp
      | .callback _ | .device _ | .setFodHbm _ => handler)
    handler

/-- The service, the handlers of its sessions in their order, and the finger commands that the
device has been given by any of them, newest first.
-/
structure HandledService where
  service : Service
  handlers : List UdfpsHandler := []
  goodixExtCmd : List Bool := []

namespace HandledService

/-- An event of the service, or a stretch of the worker of a session's handler. -/
inductive Event where
  | service (event : Service.Event)
  | run (index : Nat) (reading : UdfpsHandler.Reading)

/-- A handler that moves gives its new commands to the device. -/
def drive (state : HandledService) (index : Nat) (handler later : UdfpsHandler)
    : HandledService :=
  { state with
    handlers := state.handlers.set index later
    goodixExtCmd :=
      later.commands.take (later.commands.length - handler.commands.length) ++ state.goodixExtCmd
  }

/-- A session that is made has a handler made for it; the handler of a session that an event reaches
serves what the session asks of it.
-/
def follow (before : HandledService) (event : Service.Event) (service : Service)
    : HandledService :=
  let after := { before with service }
  match event.reaches with
  | some index =>
      match before.service.sessions[index]?, service.sessions[index]?, before.handlers[index]? with
      | some session, some later, some handler =>
          after.drive index handler (handler.serve (session.newOutputs later))
      | _, _, _ => after
  | none => if event.isCreation then { after with handlers := {} :: before.handlers } else after

def step (state : HandledService) : Event → Option HandledService
  | .service event => (state.service.step event).map (state.follow event)
  | .run index reading =>
      state.handlers[index]?.bind (fun handler =>
        (handler.run reading).map (state.drive index handler))

end HandledService

def handledMachine : Machine HandledService HandledService.Event where
  step := HandledService.step

-----------------------------------------------------------------------------------------
-- What a handler tells the device
-----------------------------------------------------------------------------------------

namespace UdfpsHandler

/-- A handler knows of the finger what its session has asked for, and waits for nothing else. -/
structure Follows (handler : UdfpsHandler) (fingerDown : Bool) : Prop where
  mFingerDown : handler.mFingerDown = fingerDown
  mPending : handler.mPending = true → handler.mFingerDown = true

/-- What a handler tells the device as it moves: the last command is down only if the finger is, and
it says nothing only if the finger is not lifted.
-/
structure Tells (before after : UdfpsHandler) (commands : List Bool) : Prop where
  told : after.commands = commands ++ before.commands
  down : commands.head? = some true → after.mFingerDown = true
  silent : commands = [] → before.mFingerDown = true → after.mFingerDown = true

theorem Tells.refl (handler : UdfpsHandler) : handler.Tells handler [] where
  told := rfl
  down := nofun
  silent _ down := down

/-- One move after another. -/
theorem Tells.trans {first second third : UdfpsHandler} {earlier later : List Bool}
    (before : first.Tells second earlier) (after : second.Tells third later)
    : first.Tells third (later ++ earlier) where
  told := by rw [after.told, before.told, List.append_assoc]
  down := by
    cases later with
    | nil => exact fun down => after.silent rfl (before.down down)
    | cons last rest => exact after.down
  silent none down := by
    obtain ⟨rfl, rfl⟩ := List.append_eq_nil_iff.mp none
    exact after.silent rfl (before.silent rfl down)

variable {handler : UdfpsHandler}

theorem tells_onFingerUp (handler : UdfpsHandler) : handler.Tells handler.onFingerUp [false] where
  told := rfl
  down := nofun
  silent := nofun

theorem exists_tells_onUiReady (handler : UdfpsHandler) (waitForIllumination : Bool)
    : ∃ commands, handler.Tells (handler.onUiReady waitForIllumination) commands := by
  unfold onUiReady
  split
  · exact ⟨[], .refl handler⟩
  · cases waitForIllumination with
    | true => exact ⟨[], rfl, nofun, fun _ _ => rfl⟩
    | false => exact ⟨[true], rfl, fun _ => rfl, nofun⟩

/-- A stretch of the worker tells the device at most of a finger that is down. -/
theorem exists_tells_run {next : UdfpsHandler} {reading : Reading} {fingerDown : Bool}
    (follows : handler.Follows fingerDown) (taken : handler.run reading = some next)
    : next.Follows fingerDown ∧ ∃ commands, handler.Tells next commands := by
  cases stretch_run taken with
  | rests => exact ⟨⟨follows.mFingerDown, follows.mPending⟩, [], rfl, nofun, fun _ down => down⟩
  | drops => exact ⟨⟨follows.mFingerDown, nofun⟩, [], rfl, nofun, fun _ down => down⟩
  | fires pending =>
      exact ⟨⟨follows.mFingerDown, nofun⟩, [true], rfl, fun _ => follows.mPending pending, nofun⟩
  | polls => exact ⟨⟨follows.mFingerDown, follows.mPending⟩, [], rfl, nofun, fun _ down => down⟩

theorem Follows.onUiReady {fingerDown : Bool} (follows : handler.Follows fingerDown)
    (waitForIllumination : Bool)
    : (handler.onUiReady waitForIllumination).Follows true := by
  unfold UdfpsHandler.onUiReady
  split
  · rename_i down
    exact ⟨down, follows.mPending⟩
  · cases waitForIllumination with
    | true => exact ⟨rfl, fun _ => rfl⟩
    | false => exact ⟨rfl, fun _ => rfl⟩

/-- A handler that serves what its session asks for keeps up with it, by induction over the outputs.
-/
theorem Follows.serve {panel : Panel} (follows : handler.Follows panel.fingerDown)
    (outputs : List Output)
    : (handler.serve outputs).Follows (panel.afterAll outputs).fingerDown
      ∧ ∃ commands, handler.Tells (handler.serve outputs) commands := by
  induction outputs with
  | nil => exact ⟨follows, [], .refl handler⟩
  | cons output rest ih =>
      obtain ⟨kept, earlier, told⟩ := ih
      cases output with
      | callback _ | device _ | setFodHbm _ => exact ⟨kept, earlier, told⟩
      | udfps call =>
          cases call with
          | onFingerUp =>
              exact ⟨⟨rfl, nofun⟩, _, told.trans (tells_onFingerUp _)⟩
          | onUiReady waitForIllumination =>
              obtain ⟨commands, later⟩ :=
                (handler.serve rest).exists_tells_onUiReady waitForIllumination
              exact ⟨kept.onUiReady waitForIllumination, _, told.trans later⟩

end UdfpsHandler

-----------------------------------------------------------------------------------------
-- The sessions and the device
-----------------------------------------------------------------------------------------

namespace HandledService

variable {before after : HandledService}

/-- Every handler follows its session, and a device that was last told of a finger down is told so
by a session that has one.
-/
structure Pressed (state : HandledService) : Prop where
  length : state.handlers.length = state.service.sessions.length
  follows
    : ∀ (index : Nat) (session : Session) (handler : UdfpsHandler),
      state.service.sessions[index]? = some session
      → state.handlers[index]? = some handler
      → handler.Follows session.panel.fingerDown
  pressed
    : state.goodixExtCmd.head? = some true
      → ∃ session ∈ state.service.sessions, session.panel.fingerDown = true

/-- The commands that a handler gives to the device are those that it tells. -/
theorem goodixExtCmd_drive {handler later : UdfpsHandler} {commands : List Bool}
    (told : handler.Tells later commands) (state : HandledService) (index : Nat)
    : (state.drive index handler later).goodixExtCmd = commands ++ state.goodixExtCmd := by
  simp [drive, told.told]

/-- A session that moves together with its handler, while the others stay as they are. -/
theorem Pressed.drive {sessions : List Session} {index : Nat} {session later : Session}
    {handler next : UdfpsHandler} {commands : List Bool} (pressed : before.Pressed)
    (present : before.service.sessions[index]? = some session)
    (here : before.handlers[index]? = some handler)
    (changed : sessions = before.service.sessions.set index later)
    (follows : next.Follows later.panel.fingerDown) (told : handler.Tells next commands)
    {service : Service} (same : service.sessions = sessions)
    : ({ before with service }.drive index handler next).Pressed := by
  have was := pressed.follows index session handler present here
  obtain ⟨inside, -⟩ := List.getElem?_eq_some_iff.mp present
  obtain ⟨insideHandlers, -⟩ := List.getElem?_eq_some_iff.mp here
  subst changed
  refine ⟨?_, ?_, ?_⟩
  · simp [HandledService.drive, same, pressed.length]
  · intro other own its presentOther hereOther
    simp only [HandledService.drive, same] at presentOther hereOther
    by_cases equal : index = other
    · subst equal
      rw [List.getElem?_set_self inside] at presentOther
      rw [List.getElem?_set_self insideHandlers] at hereOther
      obtain rfl := Option.some.inj presentOther
      obtain rfl := Option.some.inj hereOther
      exact follows
    · rw [List.getElem?_set_ne equal] at presentOther hereOther
      exact pressed.follows other own its presentOther hereOther
  · intro down
    rw [goodixExtCmd_drive told] at down
    have member : later ∈ service.sessions := by
      rw [same]
      exact List.mem_set inside later
    cases commands with
    | cons last rest =>
        exact ⟨later, member, follows.mFingerDown.symm.trans (told.down down)⟩
    | nil =>
        obtain ⟨own, ownMember, ownDown⟩ := pressed.pressed down
        obtain ⟨place, found⟩ := List.mem_iff_getElem?.mp ownMember
        by_cases equal : index = place
        · subst equal
          obtain rfl := Option.some.inj (found.symm.trans present)
          have stays := told.silent rfl (was.mFingerDown.trans ownDown)
          exact ⟨later, member, follows.mFingerDown.symm.trans stays⟩
        · refine ⟨own, ?_, ownDown⟩
          simp only [HandledService.drive, same, List.mem_iff_getElem?]
          exact ⟨place, by rw [List.getElem?_set_ne equal]; exact found⟩

/-- An event that reaches no session leaves the handlers. -/
theorem Pressed.unreached (pressed : before.Pressed) {service : Service}
    (same : service.sessions = before.service.sessions)
    : ({ before with service } : HandledService).Pressed where
  length := pressed.length.trans (congrArg List.length same.symm)
  follows index session handler present :=
    pressed.follows index session handler (same ▸ present)
  pressed down := by
    simp only [same]
    exact pressed.pressed down

/-- A new session has no finger down, and its handler knows of none. -/
theorem Pressed.created (pressed : before.Pressed) {service : Service} {userId : Int}
    (taken : serviceMachine.step before.service (.createSession userId) = some service)
    : ({ before with service, handlers := {} :: before.handlers } : HandledService).Pressed := by
  have sessions := Service.sessions_createSession taken
  refine ⟨?_, ?_, ?_⟩
  · simp [sessions, pressed.length]
  · intro index session handler present here
    simp only [sessions] at present
    cases index with
    | zero =>
        obtain rfl := Option.some.inj present
        obtain rfl := Option.some.inj here
        exact ⟨rfl, nofun⟩
    | succ index => exact pressed.follows index session handler present here
  · intro down
    obtain ⟨session, member, fingerDown⟩ := pressed.pressed down
    exact ⟨session, by rw [sessions]; exact .tail _ member, fingerDown⟩

/-- Every event keeps the device in step with the sessions, by the session that it reaches. -/
theorem Pressed.step {event : Event} (pressed : before.Pressed)
    (taken : handledMachine.step before event = some after)
    : after.Pressed := by
  cases event with
  | run index reading =>
      obtain ⟨handler, here, ran⟩ := Option.bind_eq_some_iff.mp taken
      obtain ⟨next, stretched, rfl⟩ := Option.map_eq_some_iff.mp ran
      have inside : index < before.service.sessions.length := by
        rw [← pressed.length]
        exact (List.getElem?_eq_some_iff.mp here).1
      have present := List.getElem?_eq_getElem inside
      obtain ⟨follows, commands, told⟩ :=
        UdfpsHandler.exists_tells_run (pressed.follows index _ handler present here) stretched
      exact pressed.drive present here (List.set_getElem_self inside).symm follows told rfl
  | service event =>
      obtain ⟨service, moved, rfl⟩ := Option.map_eq_some_iff.mp taken
      cases creation : event.isCreation with
      | true =>
          cases event with
          | createSession userId => exact pressed.created moved
          | _ => cases creation
      | false =>
          rcases Service.sessions_step moved creation with ⟨same, absent⟩ | ⟨index, session, later,
            reaches, present, moves, changed⟩
          · have unreached : before.follow event service = { before with service } := by
              simp only [follow, creation]
              split
              · rename_i index reaches
                simp [absent index reaches]
              · rfl
            rw [unreached]
            exact pressed.unreached same
          · obtain ⟨inside, -⟩ := List.getElem?_eq_some_iff.mp present
            obtain ⟨handler, here⟩ : ∃ handler, before.handlers[index]? = some handler :=
              ⟨_, List.getElem?_eq_getElem (by rw [pressed.length]; exact inside)⟩
            have there : service.sessions[index]? = some later := by
              rw [changed, List.getElem?_set_self inside]
            have driven
                : before.follow event service
                  = { before with service }.drive index handler
                      (handler.serve (session.newOutputs later)) := by
              simp [follow, reaches, present, there, here]
            have panel := session.panel_of_sent moves.sent
            obtain ⟨follows, commands, told⟩ :=
              (pressed.follows index session handler present here).serve
                (before.service.outputs event session)
            rw [driven, Session.newOutputs_eq moves.sent]
            exact pressed.drive present here changed (panel ▸ follows) told rfl

theorem pressed_started (now : Int) : Pressed { service := { now } } where
  length := rfl
  follows _ _ _ present := by simp at present
  pressed down := by simp at down

end HandledService

/-- Over any number of sessions, whatever their clients call, the device reports and the workers of
their handlers do in between: the device was last told of a finger down only while some session has
been told that the panel is ready for one, and has not lifted it since.
-/
theorem finger_down_only_pressed (now : Int) (events : List HandledService.Event)
    : handledMachine.Always
        (fun state =>
          state.goodixExtCmd.head? = some true
          → ∃ session ∈ state.service.sessions, session.panel.fingerDown = true)
        { service := { now } } events :=
  Machine.Always.of_invariant HandledService.Pressed (fun _ pressed => pressed.pressed)
    (fun _ _ _ pressed taken _ => pressed.step taken) (HandledService.pressed_started now)
    (Machine.along_true _ _)

-----------------------------------------------------------------------------------------
-- Closed sessions
-----------------------------------------------------------------------------------------

/-- The output presses a finger down. -/
def Output.presses : Output → Bool
  | .udfps (.onUiReady _) => true
  | _ => false

/-- Outputs that press no finger leave none down that was not, by induction. -/
theorem Panel.fingerDown_afterAll {outputs : List Output} (panel : Panel)
    (none : outputs.any Output.presses = false)
    : (panel.afterAll outputs).fingerDown = true → panel.fingerDown = true := by
  induction outputs with
  | nil => exact id
  | cons output rest ih =>
      simp only [List.any_cons, Bool.or_eq_false_iff] at none
      cases output with
      | callback _ | device _ | setFodHbm _ => exact ih none.2
      | udfps call =>
          cases call with
          | onFingerUp => nofun
          | onUiReady _ => cases none.1

/-- A session presses a finger down for a client that says that the panel is ready, and says that it
is closed as it closes.
-/
theorem Service.event_of_outputs {service : Service} {event : Service.Event} {session : Session}
    (sends
      : (service.outputs event session).any
          (fun output => output.presses || output.closesSession) = true)
    : (∃ index, event = .call index .onUiReady)
      ∨ service.outputs event session = session.callOutputs .close := by
  have started (call : DeviceCall) (error : Int)
      : (Session.startOutputs call error).any
          (fun output => output.presses || output.closesSession) = false := by
    simp only [Session.startOutputs]
    split <;> rfl
  cases event with
  | call index call =>
      cases call with
      | onUiReady => exact .inl ⟨index, rfl⟩
      | close => exact .inr rfl
      | enroll hat stack error =>
          simp only [outputs, Session.callOutputs] at sends
          split at sends
          · rw [started] at sends
            cases sends
          · cases sends
      | authenticate operationId error =>
          simp only [outputs, Session.callOutputs, started] at sends
          cases sends
      | removeEnrollments enrollmentIds =>
          simp [outputs, Session.callOutputs, Output.presses, Output.closesSession] at sends
      | cancel error =>
          simp only [outputs, Session.callOutputs] at sends
          split at sends <;> cases sends
      | generateChallenge | revokeChallenge | detectInteraction | enumerateEnrollments
      | getAuthenticatorId | invalidateAuthenticatorId | resetLockout | onPointerDown
      | onPointerDownWithContext | onPointerUp => cases sends
  | clientDeath index =>
      simp only [outputs] at sends ⊢
      split at sends
      · cases sends
      · rename_i opened
        exact .inr (if_neg opened)
  | notify msg =>
      simp only [outputs] at sends
      split at sends
      · cases sends
      · cases msg with
        | authenticated finger hat =>
            simp only [Session.notifyOutputs] at sends
            split at sends
            · cases sends
            · simp only [Session.lockoutOutputs] at sends
              split at sends <;> cases sends
        | acquired | templateEnrolling | templateEnumerating =>
            simp only [Session.notifyOutputs] at sends
            split at sends <;> cases sends
        | error | templateRemoved | unknown => cases sends
  | lockoutTimerExpired index timer =>
      simp only [outputs, Session.expiryOutputs] at sends
      split at sends <;> cases sends
  | createSession | elapse => cases sends

/-- What an event does to a session's finger: it is down only if it was, or if the client says that
the panel is ready, and never as the session closes.
-/
theorem Service.fingerDown_outputs {service : Service} {event : Service.Event} {session : Session}
    {panel : Panel} (down : (panel.afterAll (service.outputs event session)).fingerDown = true)
    : (panel.fingerDown = true ∨ ∃ index, event = .call index .onUiReady)
      ∧ (service.outputs event session).any Output.closesSession = false := by
  have weaker {kind : Output → Bool}
      (part : ∀ output, kind output = true → (output.presses || output.closesSession) = true)
      (sends : (service.outputs event session).any kind = true)
      : (∃ index, event = .call index .onUiReady)
        ∨ service.outputs event session = session.callOutputs .close := by
    obtain ⟨output, member, isKind⟩ := List.any_eq_true.mp sends
    exact event_of_outputs (List.any_eq_true.mpr ⟨output, member, part output isKind⟩)
  constructor
  · cases presses : (service.outputs event session).any Output.presses with
    | false => exact .inl (panel.fingerDown_afterAll presses down)
    | true =>
        rcases weaker (fun _ isKind => by rw [isKind, Bool.true_or]) presses with ready | closes
        · exact .inr ready
        · rw [closes] at presses
          cases presses
  · by_contra some
    rw [Bool.not_eq_false] at some
    rcases weaker (fun _ isKind => by rw [isKind, Bool.or_true]) some with ⟨_, rfl⟩ | closes
    · cases some
    · rw [closes] at down
      cases down

namespace HandledService

variable {before after : HandledService}

/-- The condition on an event: no client says to a closed session that the panel is ready. -/
def readiesOpen (before : HandledService) (event : Event) (_ : HandledService) : Prop :=
  match event with
  | .service (.call index .onUiReady) =>
      ∀ session ∈ before.service.sessions[index]?, session.mClosed = false
  | _ => True

instance (before : HandledService) (event : Event) (after : HandledService)
    : Decidable (before.readiesOpen event after) := by
  unfold readiesOpen
  split <;> infer_instance

/-- Every session but the current one is closed, and a closed one has no finger down. -/
structure Lifted (state : HandledService) : Prop where
  earlier
    : ∀ (index : Nat) (session : Session),
      state.service.sessions[index + 1]? = some session → session.mClosed = true
  closed
    : ∀ session ∈ state.service.sessions,
      session.mClosed = true → session.panel.fingerDown = false

@[simp]
theorem service_follow (before : HandledService) (event : Service.Event) (service : Service)
    : (before.follow event service).service = service := by
  unfold follow
  split
  · split <;> rfl
  · split <;> rfl

/-- A session that an event moves has no finger down once it is closed. -/
theorem lifted_moves {event : Service.Event} {index : Nat} {session later : Session}
    (present : before.service.sessions[index]? = some session)
    (reaches : event.reaches = some index)
    (moves
      : session.Moves before.service.now (before.service.lockoutInput event)
          (before.service.outputs event session) later)
    (readies : before.readiesOpen (.service event) after)
    (lifted : session.mClosed = true → session.panel.fingerDown = false)
    (closed : later.mClosed = true)
    : later.panel.fingerDown = false := by
  by_contra down
  rw [Bool.not_eq_false, session.panel_of_sent moves.sent] at down
  obtain ⟨pressed, stays⟩ := Service.fingerDown_outputs down
  have was : session.mClosed = true := by
    rwa [moves.closed, stays, Bool.or_false] at closed
  rcases pressed with already | ⟨place, rfl⟩
  · rw [lifted was] at already
    cases already
  · obtain rfl := Option.some.inj reaches
    have isOpen := readies session present
    rw [was] at isOpen
    cases isOpen

/-- Every event keeps closed sessions lifted, by the session that it reaches. -/
theorem Lifted.step {event : Event} (lifted : before.Lifted)
    (taken : handledMachine.step before event = some after)
    (readies : before.readiesOpen event after)
    : after.Lifted := by
  cases event with
  | run index reading =>
      obtain ⟨handler, _, ran⟩ := Option.bind_eq_some_iff.mp taken
      obtain ⟨next, _, rfl⟩ := Option.map_eq_some_iff.mp ran
      exact ⟨lifted.earlier, lifted.closed⟩
  | service event =>
      obtain ⟨service, moved, rfl⟩ := Option.map_eq_some_iff.mp taken
      cases creation : event.isCreation with
      | true =>
          cases event with
          | createSession userId =>
              have sessions := Service.sessions_createSession moved
              have allowed : before.service.mSession.all (·.mClosed) = true := by
                simp only [Service.step, Service.createSession] at moved
                split at moved
                · assumption
                · cases moved
              refine ⟨?_, ?_⟩
              · intro index session present
                rw [service_follow, sessions] at present
                cases index with
                | zero =>
                    have current : before.service.mSession = some session := by
                      rw [Service.mSession, List.head?_eq_getElem?]
                      exact present
                    simpa [current] using allowed
                | succ index => exact lifted.earlier index session present
              · intro session member
                rw [service_follow, sessions] at member
                rcases List.mem_cons.mp member with rfl | earlier
                · intro closed
                  cases closed
                · exact lifted.closed session earlier
          | _ => cases creation
      | false =>
          rcases Service.sessions_step moved creation with ⟨same, _⟩ | ⟨index, session, later,
            reaches, present, moves, changed⟩
          · refine ⟨?_, ?_⟩ <;> rw [service_follow, same]
            · exact lifted.earlier
            · exact lifted.closed
          · obtain ⟨inside, -⟩ := List.getElem?_eq_some_iff.mp present
            refine ⟨?_, ?_⟩ <;> rw [service_follow, changed]
            · intro place own there
              by_cases equal : index = place + 1
              · subst equal
                rw [List.getElem?_set_self inside] at there
                obtain rfl := Option.some.inj there
                rw [moves.closed, lifted.earlier place session present, Bool.true_or]
              · rw [List.getElem?_set_ne equal] at there
                exact lifted.earlier place own there
            · intro own member
              rcases List.mem_or_eq_of_mem_set member with earlier | rfl
              · exact lifted.closed own earlier
              · exact lifted_moves present reaches moves readies
                  (lifted.closed session (List.mem_of_getElem? present))

end HandledService

/-- As long as no client says to a closed session that the panel is ready, the device was last told
of a finger down only by the current session, which is open. So a session that closes lifts the
finger, and no worker puts it down again before the next session does.
-/
theorem finger_down_only_open (now : Int) (events : List HandledService.Event)
    (readies
      : handledMachine.Along HandledService.readiesOpen { service := { now } } events)
    : handledMachine.Always
        (fun state =>
          state.goodixExtCmd.head? = some true
          → ∃ session ∈ state.service.mSession,
            session.mClosed = false ∧ session.panel.fingerDown = true)
        { service := { now } } events := by
  refine Machine.Always.of_invariant
    (fun state : HandledService => state.Pressed ∧ state.Lifted) ?_ ?_
    ⟨HandledService.pressed_started now, ?_⟩ readies
  · rintro state ⟨pressed, lifted⟩ down
    obtain ⟨session, member, fingerDown⟩ := pressed.pressed down
    have opened : session.mClosed = false := by
      by_contra closed
      rw [Bool.not_eq_false] at closed
      rw [lifted.closed session member closed] at fingerDown
      cases fingerDown
    obtain ⟨index, present⟩ := List.mem_iff_getElem?.mp member
    cases index with
    | zero =>
        refine ⟨session, ?_, opened, fingerDown⟩
        rw [Service.mSession, List.head?_eq_getElem?]
        exact present
    | succ index =>
        rw [lifted.earlier index session present] at opened
        cases opened
  · rintro before event after ⟨pressed, lifted⟩ taken readies
    exact ⟨pressed.step taken, lifted.step taken readies⟩
  · exact ⟨fun _ _ present => by simp at present, fun _ member => by simp at member⟩

/-- A session that is closed while its worker waits for the panel to light up. -/
theorem finger_down_only_open_closed
    : let dark : UdfpsHandler.Reading := { started := 0, ready := some 0, checked := 0 }
      let lit : UdfpsHandler.Reading := { started := 0, ready := some 1, checked := 0 }
      handledMachine.Always
        (fun state =>
          state.goodixExtCmd.head? = some true
          → ∃ session ∈ state.service.mSession,
            session.mClosed = false ∧ session.panel.fingerDown = true)
        { service := { now := 0 } }
        [.service (.createSession 0), .service (.call 0 (.onPointerDownWithContext true)),
          .service (.call 0 .onUiReady), .run 0 dark, .service (.call 0 .close), .run 0 lit] :=
  finger_down_only_open 0 _ (by decide)

end PongDevice.Fingerprint
