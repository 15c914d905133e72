import PongDevice.Fingerprint.Outputs

/-! The panel under the finger. The session lights it and presses the finger down for an
operation, and has to undo both on every path that ends one.
-/

namespace PongDevice.Fingerprint

open Transition

/-- The last value written to the high-brightness node, and whether the last finger command
asked for a finger down. The node starts at 0 and the finger up.
-/
structure Panel where
  lit : Bool := false
  fingerDown : Bool := false
deriving DecidableEq

def Panel.after (panel : Panel) : Output → Panel
  | .setFodHbm status => { panel with lit := status }
  | .udfps .onFingerUp => { panel with fingerDown := false }
  | .udfps (.onUiReady _) => { panel with fingerDown := true }
  | .callback _ | .device _ => panel

/-- The panel after outputs that are listed newest first. -/
def Panel.afterAll (panel : Panel) (outputs : List Output) : Panel :=
  outputs.foldr (fun output panel => panel.after output) panel

/-- The panel that a session leaves behind. -/
def Session.panel (session : Session) : Panel :=
  ({} : Panel).afterAll (session.sent.map Prod.snd)

/-- The panel changes by what was put in front of the record. -/
theorem Session.panel_of_sent {before after : Session} {now : Int} {outputs : List Output}
    (sent : after.sent = outputs.map (now, ·) ++ before.sent)
    : after.panel = before.panel.afterAll outputs := by
  have labels : (outputs.map (now, ·)).map Prod.snd = outputs := by
    rw [List.map_map]
    exact List.map_id outputs
  rw [panel, sent, List.map_append, labels, Panel.afterAll, List.foldr_append]
  rfl

-----------------------------------------------------------------------------------------
-- Operations and the callbacks that end them
-----------------------------------------------------------------------------------------

/-- Errors, the last enrollment progress, a match, a lockout and the end of the session. -/
def SessionCallback.endsOperation : SessionCallback → Bool
  | .onError _ _ | .onAuthenticationSucceeded _ _ | .onLockoutTimed _ | .onLockoutPermanent
  | .onSessionClosed => true
  | .onEnrollmentProgress _ remaining => remaining == 0
  | _ => false

def Output.endsOperation : Output → Bool
  | .callback reply => reply.endsOperation
  | _ => false

/-- The device accepts an operation. -/
def SessionEvent.startsOperation : SessionEvent → Bool
  | .call (.enroll _ _ error) | .call (.authenticate _ error) => error == 0
  | _ => false

/-- Interaction detection is refused at once: its error ends no operation. -/
def SessionEvent.isDetectInteraction : SessionEvent → Bool
  | .call .detectInteraction => true
  | _ => false

/-- The step sends a callback that ends the operation. -/
def EndsOperation (before : World) (event : SessionEvent) (after : World) : Prop :=
  event.isDetectInteraction = false
  ∧ (before.session.newOutputs after.session).any Output.endsOperation = true

instance : ∀ before event after, Decidable (EndsOperation before event after) :=
  fun _ _ _ => inferInstanceAs (Decidable (_ ∧ _))

/-- Whether an operation is in progress: the device accepted one and no callback ended it. -/
def noteOperation (inProgress : Bool) (before : World) (event : SessionEvent) (after : World)
    : Bool :=
  if EndsOperation before event after then false else event.startsOperation || inProgress

/-- A session together with whether an operation is in progress. -/
def operationMachine : Machine (World × Bool) SessionEvent :=
  sessionMachine.observe noteOperation

/-- The panel is lit only for an operation in progress, and after a callback that ends one
it is dark with the finger up.
-/
def LitForOperation (before : World × Bool) (event : SessionEvent) (after : World × Bool)
    : Prop :=
  (after.1.session.panel.lit = true → after.2 = true)
  ∧ (EndsOperation before.1 event after.1 → after.1.session.panel = {})

instance : ∀ before event after, Decidable (LitForOperation before event after) :=
  fun _ _ _ => inferInstanceAs (Decidable ((_ → _) ∧ (_ → _)))

/-- A device error that reaches the session, and a refused operation. -/
def World.leavesPanel (world : World) : SessionEvent → Bool
  | .notify (.error _) => !world.session.mClosed
  | .call (.enroll _ _ error) | .call (.authenticate _ error) => error != 0
  | _ => false

/-- A device error is delivered, and an operation refused, only when the panel is dark and
the finger up.
-/
def EndsInTheDark (before : World × Bool) (event : SessionEvent) (_ : World × Bool) : Prop :=
  before.1.leavesPanel event = true → before.1.session.panel = {}

/-- What an event can do to the panel. It leaves it as it is and ends the operation, ends the
operation in the dark, starts one, or lights nothing.
-/
inductive PanelStep : (leaves ends starts : Bool) → Panel → Panel → Prop where
  | left {starts panel} : PanelStep true true starts panel panel
  | darkened {starts panel} : PanelStep false true starts panel {}
  | started {panel after} : PanelStep false false true panel after
  | quiet {starts panel after} (dark : after.lit = true → panel.lit = true)
    : PanelStep false false starts panel after

/-- An operation is refused and leaves the panel, or is accepted and starts. -/
theorem panelStep_start (panel : Panel) (call : DeviceCall) (error : Int)
    : PanelStep (error != 0) ((Session.startOutputs call error).any Output.endsOperation)
        (error == 0) panel (panel.afterAll (Session.startOutputs call error)) := by
  by_cases accepted : error = 0
  · subst accepted
    exact .started
  · simp only [Session.startOutputs, ne_eq, accepted, not_false_eq_true, if_true,
      bne_iff_ne.mpr accepted]
    exact .left

/-- Outputs without a callback that ends the operation and without a write to the node. -/
theorem panelStep_quiet {starts : Bool} (panel : Panel) {outputs : List Output}
    (plain : ∀ output ∈ outputs, output.endsOperation = false)
    (unlit : ∀ output ∈ outputs, output ≠ .setFodHbm true)
    : PanelStep false (outputs.any Output.endsOperation) starts panel
        (panel.afterAll outputs) := by
  have none : outputs.any Output.endsOperation = false := by
    simpa using plain
  rw [none]
  refine .quiet ?_
  clear none plain
  induction outputs with
  | nil => exact id
  | cons output rest ih =>
      intro lit
      have tail := ih (fun output member => unlit output (List.mem_cons_of_mem _ member))
      cases output with
      | setFodHbm status =>
          have on : status = true := lit
          exact absurd (congrArg Output.setFodHbm on) (unlit _ List.mem_cons_self)
      | udfps call => cases call <;> exact tail lit
      | callback _ | device _ => exact tail lit

/-- A binder call makes one of these steps: an operation that is refused leaves the panel, and
a cancel or a close switches it off.
-/
theorem World.panelStep_call {before after : World} {call : Session.Call}
    (taken : sessionMachine.step before (.call call) = some after) (panel : Panel)
    : PanelStep (before.leavesPanel (.call call))
        (!(SessionEvent.call call).isDetectInteraction
          && (before.session.callOutputs call).any Output.endsOperation)
        (SessionEvent.call call).startsOperation panel
        (panel.afterAll (before.session.callOutputs call)) := by
  cases call with
  | enroll hat stack error =>
      obtain ⟨result, returned, rfl⟩ := Option.map_eq_some_iff.mp taken
      simp only [Session.call, Session.enroll, Option.map_eq_some_iff] at returned
      obtain ⟨_, ⟨authToken, translated, rfl⟩, rfl⟩ := returned
      simp only [Session.callOutputs, translated]
      exact panelStep_start panel _ error
  | authenticate operationId error => exact panelStep_start panel _ error
  | cancel error =>
      simp only [Session.callOutputs]
      split
      · exact .darkened
      · exact .quiet (fun lit => absurd lit Bool.false_ne_true)
  | close => exact .darkened
  | removeEnrollments enrollmentIds =>
      refine panelStep_quiet panel ?_ ?_
      · intro output member
        simp only [Session.callOutputs, List.mem_reverse, List.mem_map] at member
        obtain ⟨entry, _, rfl⟩ := member
        rfl
      · intro output member
        simp only [Session.callOutputs, List.mem_reverse, List.mem_map] at member
        obtain ⟨entry, _, rfl⟩ := member
        exact Output.noConfusion
  | detectInteraction => exact .quiet id
  | revokeChallenge challenge => exact .quiet (fun lit => absurd lit Bool.false_ne_true)
  | generateChallenge _ | enumerateEnrollments _ | getAuthenticatorId _
  | invalidateAuthenticatorId _ | resetLockout | onPointerDown
  | onPointerDownWithContext _ | onPointerUp | onUiReady => exact .quiet id

/-- A message that reaches the session makes one of these steps: a device error leaves the
panel, and every other ending switches it off.
-/
theorem World.panelStep_notify {before : World} (msg : FingerprintMsg) (panel : Panel)
    (opened : before.session.mClosed = false)
    : PanelStep (before.leavesPanel (.notify msg))
        ((before.session.notifyOutputs before.now before.enrollments msg).any
          Output.endsOperation)
        false panel
        (panel.afterAll (before.session.notifyOutputs before.now before.enrollments msg)) := by
  cases msg with
  | error code =>
      simp only [leavesPanel, opened]
      exact .left
  | acquired acquiredInfo =>
      simp only [Session.notifyOutputs]
      split <;> exact .quiet id
  | templateEnrolling finger samplesRemaining =>
      simp only [Session.notifyOutputs]
      split
      · rename_i final
        subst final
        exact .darkened
      · rename_i more
        refine panelStep_quiet panel ?_ (by simp)
        simpa [Output.endsOperation, SessionCallback.endsOperation] using more
  | templateRemoved finger remainingTemplates => exact .quiet id
  | authenticated finger hat =>
      simp only [Session.notifyOutputs]
      split
      · exact .darkened
      · simp only [Session.lockoutOutputs]
        split
        · exact .darkened
        · exact .darkened
        · exact .quiet id
  | templateEnumerating finger remainingTemplates =>
      simp only [Session.notifyOutputs]
      split <;> exact .quiet id
  | unknown => exact .quiet id

/-- Every event makes one of these steps.
Witness: a device error and a refusal leave the panel, every other ending switches it off,
and an accepted operation is the only one to light it.
-/
theorem World.panelStep {before after : World} {event : SessionEvent}
    (taken : sessionMachine.step before event = some after) (panel : Panel)
    : PanelStep (before.leavesPanel event)
        (!event.isDetectInteraction && (before.outputs event).any Output.endsOperation)
        event.startsOperation panel (panel.afterAll (before.outputs event)) := by
  cases event with
  | call call => exact World.panelStep_call taken panel
  | notify msg =>
      cases closed : before.session.mClosed with
      | true =>
          simp only [outputs, closed, if_true]
          cases msg <;> simp only [leavesPanel, closed] <;> exact .quiet id
      | false =>
          simp only [outputs, closed, Bool.false_eq_true, if_false]
          exact World.panelStep_notify msg panel closed
  | lockoutTimerExpired index =>
      simp only [outputs, Session.expiryOutputs]
      split <;> exact .quiet id
  | elapse nanos => exact .quiet id

/-- An event lights and darkens the panel as its operation asks exactly when it does not end
one over a lit panel; the panel then stays lit for operations only.
-/
theorem litForOperation_iff {before after : World} {inProgress : Bool} {event : SessionEvent}
    (taken : sessionMachine.step before event = some after)
    (lit : before.session.panel.lit = true → inProgress = true)
    : LitForOperation (before, inProgress) event
        (after, noteOperation inProgress before event after)
      ↔ EndsInTheDark (before, inProgress) event
        (after, noteOperation inProgress before event after) := by
  have sent := World.sent_step taken
  have panel := Session.panel_of_sent sent
  have ends : EndsOperation before event after
      ↔ (!event.isDetectInteraction && (before.outputs event).any Output.endsOperation) = true
      := by
    simp [EndsOperation, Session.newOutputs_eq sent]
  have step := World.panelStep taken before.session.panel
  simp only [LitForOperation, EndsInTheDark, noteOperation, ends, panel]
  generalize before.leavesPanel event = leaves at step ⊢
  generalize (!event.isDetectInteraction
    && (before.outputs event).any Output.endsOperation) = ending at step ⊢
  generalize event.startsOperation = starts at step ⊢
  generalize before.session.panel.afterAll (before.outputs event) = next at step ⊢
  generalize before.session.panel = current at lit step ⊢
  cases step with
  | left =>
      constructor
      · intro both _
        exact both.2 rfl
      · intro dark
        refine ⟨fun on => ?_, dark⟩
        rw [dark rfl] at on
        exact absurd on Bool.false_ne_true
  | darkened =>
      exact ⟨fun _ => nofun, fun _ => ⟨fun on => absurd on Bool.false_ne_true, fun _ => rfl⟩⟩
  | started => exact ⟨fun _ => nofun, fun _ => ⟨fun _ => rfl, nofun⟩⟩
  | quiet dark =>
      refine ⟨fun _ => nofun, fun _ => ⟨fun on => ?_, nofun⟩⟩
      simp [lit (dark on)]

/-- In a run of a session, the panel is lit only for an operation in progress and is dark
with the finger up after every callback that ends one, exactly when device errors are
delivered and operations refused only over a panel that is dark with the finger up.
-/
theorem illuminatesOperations_iff (now userId : Int) (tracker : LockoutTracker)
    (events : List SessionEvent)
    : operationMachine.Along LitForOperation (.opened now userId tracker, false) events
      ↔ operationMachine.Along EndsInTheDark (.opened now userId tracker, false) events := by
  refine Machine.observe_along_congr
    (fun state => state.1.session.panel.lit = true → state.2 = true) ?_ ?_ nofun
    (Machine.along_true _ _)
  · intro before inProgress event after lit taken _
    exact litForOperation_iff taken lit
  · intro before inProgress event after lit taken _ dark
    exact ((litForOperation_iff taken lit).mpr dark).1

/-- The device accepts an authentication and reports a timeout: the client is told that it
ended, and the panel stays lit.
-/
theorem illuminatesOperations_fails_device_error
    : ¬operationMachine.Along LitForOperation (.opened 1 0 {}, false)
        [.call (.authenticate 0 0), .notify (.error 3)] := by
  decide

end PongDevice.Fingerprint
