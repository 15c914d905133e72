import PongDevice.Fingerprint.Operations

/-! Whose results a session reports. Messages go to whatever session is current, and closing
one leaves its operation on the device, so a result can outlive its session.
-/

namespace PongDevice.Fingerprint

open Transition

/-- A match, a mismatch or enrollment progress. -/
def Output.isResult : Output → Bool
  | .callback (.onAuthenticationSucceeded _ _) | .callback .onAuthenticationFailed
  | .callback (.onEnrollmentProgress _ _) => true
  | _ => false

/-- A result that is sent to a session, and a failure that is counted against it, come from a
message about an operation that was started in that session. Sessions are numbered from the
first one made.
-/
def ReportsOwn (before : Hal) (event : Hal.Event) (after : Hal) : Prop :=
  ∀ number session later,
    before.service.sessions.reverse[number]? = some session
    → after.service.sessions.reverse[number]? = some later
    → (session.newOutputs later).any Output.isResult = true
      ∨ session.mLockoutTracker.mFailedCount < later.mLockoutTracker.mFailedCount
    → event = .deliver
      ∧ ∃ entry ∈ before.inFlight.head?,
        ∃ operation ∈ before.operations[entry.1]?, operation.session = number

def Hal.Event.makesSession : Hal.Event → Bool
  | .other (.createSession _) => true
  | _ => false

/-- An operation is started on a session that another one came after. -/
def Hal.Event.startsEarlier : Hal.Event → Bool
  | .request index asked => asked.error == 0 && index != 0
  | _ => false

/-- A session is made only when no operation is left running and no result is in flight, and
operations are started only on the session made last.
-/
def StartsIdle (before : Hal) (event : Hal.Event) (_ : Hal) : Prop :=
  (event.makesSession = true
    → before.running = [] ∧ ∀ entry ∈ before.inFlight, entry.2.isResult = false)
  ∧ event.startsEarlier = false

instance : ∀ before event after, Decidable (StartsIdle before event after) :=
  fun _ _ _ => inferInstanceAs (Decidable ((_ → _ ∧ _) ∧ _))

-----------------------------------------------------------------------------------------
-- Where results come from
-----------------------------------------------------------------------------------------

/-- Results are relayed. -/
theorem Output.isRelayed_of_isResult (output : Output) (result : output.isResult = true)
    : output.isRelayed = true := by
  unfold Output.isResult at result
  split at result
  all_goals first | rfl | cases result

/-- Only a result of the device makes a session send one. -/
theorem isResult_outputs {service : Service} {event : Service.Event} {session : Session}
    (sends : (service.outputs event session).any Output.isResult = true)
    : ∃ msg, event = .notify msg ∧ msg.isResult = true := by
  obtain ⟨msg, rfl, relays⟩ := Service.notify_of_isRelayed Output.isRelayed_of_isResult sends
  refine ⟨msg, rfl, ?_⟩
  cases msg with
  | templateEnrolling _ _ | authenticated _ _ => rfl
  | acquired _ | templateEnumerating _ _ =>
      simp only [Session.notifyOutputs] at relays
      split at relays <;> cases relays
  | error _ | templateRemoved _ _ | unknown => cases relays

/-- Only a result of the device is counted as a failure. -/
theorem isResult_lockoutInput {service : Service} {event : Service.Event}
    (failed : service.lockoutInput event = .failed)
    : ∃ msg, event = .notify msg ∧ msg.isResult = true := by
  cases event with
  | call index call => cases call <;> cases failed
  | notify msg =>
      refine ⟨msg, rfl, ?_⟩
      simp only [Service.lockoutInput] at failed
      split at failed
      · cases failed
      · cases msg with
        | authenticated _ _ => rfl
        | _ => cases failed
  | createSession _ | clientDeath _ | lockoutTimerExpired _ _ | elapse _ => cases failed

/-- Any other input leaves the counter as it is or sets it to 0. -/
theorem LockoutInput.failed_of_count {input : LockoutInput} {failures : Nat}
    (more : failures < input.count failures)
    : input = .failed := by
  cases input with
  | failed => rfl
  | matched | resetLockout | expired | other => simp [LockoutInput.count] at more

/-- A session that reports a result, or counts a failure, is the current one and does so for
a result of the device.
-/
theorem result_of_session {before after : Service} {event : Service.Event} {number : Nat}
    {session later : Session} (taken : serviceMachine.step before event = some after)
    (present : before.sessions.reverse[number]? = some session)
    (there : after.sessions.reverse[number]? = some later)
    (gains
      : (session.newOutputs later).any Output.isResult = true
        ∨ session.mLockoutTracker.mFailedCount < later.mLockoutTracker.mFailedCount)
    : number + 1 = before.sessions.length
      ∧ ∃ msg, event = .notify msg ∧ msg.isResult = true := by
  rcases Service.numbered_step taken present there with rfl | ⟨index, reaches, placed, moved⟩
  · rcases gains with sends | counts
    · simp at sends
    · exact absurd counts (lt_irrefl _)
  have result : ∃ msg, event = .notify msg ∧ msg.isResult = true := by
    rcases gains with sends | counts
    · rw [Session.newOutputs_eq moved.sent] at sends
      exact isResult_outputs sends
    · have counted : later.mLockoutTracker.mFailedCount
          = (before.lockoutInput event).count session.mLockoutTracker.mFailedCount :=
        moved.lockout.mFailedCount
      rw [counted] at counts
      exact isResult_lockoutInput (LockoutInput.failed_of_count counts)
  refine ⟨?_, result⟩
  obtain ⟨msg, rfl, _⟩ := result
  obtain rfl := Option.some.inj reaches
  omega

/-- Whatever runs or has a result in flight was started in the session made last. -/
def Hal.RunsCurrent (hal : Hal) : Prop :=
  ∀ number,
    number ∈ hal.running ∨ (∃ msg, (number, msg) ∈ hal.inFlight ∧ msg.isResult = true)
    → ∃ operation ∈ hal.operations[number]?,
      operation.session + 1 = hal.service.sessions.length

/-- What was owed before and was known then still comes from the session made last, as long
as no other session is made.
-/
theorem Hal.RunsCurrent.of_owed {before : Hal} {operations : List Operation}
    {service : Service} (current : before.RunsCurrent)
    (length : service.sessions.length = before.service.sessions.length)
    (known
      : ∀ (number : Nat) (operation : Operation),
          before.operations[number]? = some operation
          → operations[number]? = some operation)
    {number : Nat}
    (owed
      : number ∈ before.running
        ∨ ∃ msg, (number, msg) ∈ before.inFlight ∧ msg.isResult = true)
    : ∃ operation ∈ operations[number]?, operation.session + 1 = service.sessions.length := by
  obtain ⟨operation, there, last⟩ := current number owed
  exact ⟨operation, known number operation there, length ▸ last⟩

/-- A report is about an operation that runs. -/
theorem Hal.RunsCurrent.report {before after : Hal} {number : Nat} {msg : FingerprintMsg}
    (current : before.RunsCurrent) (reported : before.report number msg = some after)
    : after.RunsCurrent := by
  obtain ⟨runs, _, rfl⟩ := Hal.report_eq_some reported
  intro other owed
  rcases owed with still | ⟨reply, sent, result⟩
  · refine current other (.inl ?_)
    dsimp only at still
    split at still
    · exact List.mem_of_mem_erase still
    · exact still
  · rcases List.mem_append.mp sent with earlier | new
    · exact current other (.inr ⟨reply, earlier, result⟩)
    · obtain ⟨rfl, rfl⟩ := Prod.mk.inj (List.mem_singleton.mp new)
      exact current other (.inl runs)

/-- An operation that the device accepts was started on the session made last. -/
theorem Hal.RunsCurrent.request {before : Hal} {index : Nat} {request : Request}
    {service : Service} (current : before.RunsCurrent)
    (served : serviceMachine.step before.service (.call index request.call) = some service)
    (newest : request.error = 0 → index = 0)
    : Hal.RunsCurrent { before.deviceAfter (.request index request) with service } := by
  have length := Service.length_step served rfl
  obtain ⟨session, _, placed, _⟩ := Service.newOutputs_call served
  obtain ⟨inside, _⟩ := List.getElem?_eq_some_iff.mp placed
  have known : ∀ (number : Nat) (operation : Operation),
      before.operations[number]? = some operation
      → (before.deviceAfter (.request index request)).operations[number]?
        = some operation := by
    intro number operation there
    obtain ⟨inside, _⟩ := List.getElem?_eq_some_iff.mp there
    exact (List.getElem?_append_left inside).trans there
  intro number owed
  rcases owed with runs | inFlight
  · by_cases accepted : request.error = 0
    · simp only [Hal.deviceAfter, if_pos accepted] at runs
      rcases List.mem_append.mp runs with earlier | new
      · exact current.of_owed length known (.inl earlier)
      · obtain rfl := List.mem_singleton.mp new
        refine ⟨_, List.getElem?_concat_length, ?_⟩
        have first := newest accepted
        dsimp only [Hal.place]
        omega
    · simp only [Hal.deviceAfter, if_neg accepted] at runs
      exact current.of_owed length known (.inl runs)
  · exact current.of_owed length known (.inr inFlight)

/-- A cancel that the device accepts leaves nothing running, and what it sends is no result. -/
theorem Hal.RunsCurrent.cancel {before : Hal} {number : Nat} {error : Int} {service : Service}
    (current : before.RunsCurrent)
    (length : service.sessions.length = before.service.sessions.length)
    : Hal.RunsCurrent { before.deviceAfter (.cancel number error) with service } := by
  intro other owed
  by_cases accepted : error = 0
  · simp only [Hal.deviceAfter, if_pos accepted, length] at owed ⊢
    rcases owed with runs | ⟨msg, sent, result⟩
    · cases runs
    · rcases List.mem_append.mp sent with earlier | stopped
      · exact current other (.inr ⟨msg, earlier, result⟩)
      · obtain ⟨_, _, same⟩ := List.mem_map.mp stopped
        obtain ⟨_, rfl⟩ := Prod.mk.inj same
        cases result
  · simp only [Hal.deviceAfter, if_neg accepted, length] at owed ⊢
    exact current other owed

/-- Under the rule, every event keeps what runs and what is in flight to the session made
last.
Witness: only a new session makes another one the last, and it finds nothing left.
-/
theorem Hal.RunsCurrent.step {before after : Hal} {event : Hal.Event}
    (current : before.RunsCurrent) (taken : halMachine.step before event = some after)
    (rule : StartsIdle before event after)
    : after.RunsCurrent := by
  rcases Hal.step_cases taken with ⟨number, msg, rfl, reported⟩ | ⟨seen, service, sees,
    served, rfl⟩
  · exact current.report reported
  cases event with
  | request index request =>
      obtain rfl := Option.some.inj sees
      refine current.request served (fun accepted => ?_)
      simpa [Hal.Event.startsEarlier, accepted] using rule.2
  | report number msg => cases sees
  | deliver =>
      obtain ⟨entry, _, rfl⟩ := Option.map_eq_some_iff.mp sees
      intro number owed
      refine current.of_owed (Service.length_step served rfl) (fun _ _ there => there)
        (owed.imp_right ?_)
      intro inFlight
      obtain ⟨msg, sent, result⟩ := inFlight
      exact ⟨msg, List.mem_of_mem_tail sent, result⟩
  | cancel number error =>
      obtain ⟨operation, _, rfl⟩ := Option.map_eq_some_iff.mp sees
      exact current.cancel (Service.length_step served rfl)
  | other event =>
      cases creation : event.isCreation with
      | false =>
          simp only [Hal.serviceEvent] at sees
          split at sees
          · obtain rfl := Option.some.inj sees
            intro number owed
            exact current.of_owed (Service.length_step served creation)
              (fun _ _ there => there) owed
          · cases sees
      | true =>
          cases event with
          | createSession userId =>
              obtain ⟨idle, silent⟩ := rule.1 rfl
              intro number owed
              rcases owed with runs | ⟨msg, sent, result⟩
              · simp only [Hal.deviceAfter, idle] at runs
                cases runs
              · exact absurd result (by simp [silent _ sent])
          | _ => cases creation

/-- Under the rule, results reach only the session that their operation was started in. -/
theorem Hal.RunsCurrent.reportsOwn {before after : Hal} {event : Hal.Event}
    (current : before.RunsCurrent) (taken : halMachine.step before event = some after)
    : ReportsOwn before event after := by
  intro number session later present there gains
  rcases Hal.step_cases taken with ⟨_, msg, rfl, reported⟩ | ⟨seen, service, sees,
    served, rfl⟩
  · obtain ⟨_, _, rfl⟩ := Hal.report_eq_some reported
    obtain rfl := Option.some.inj (present.symm.trans there)
    rcases gains with sends | counts
    · simp at sends
    · exact absurd counts (lt_irrefl _)
  obtain ⟨last, msg, rfl, result⟩ := result_of_session served present there gains
  cases event with
  | request index request => cases sees
  | report number msg => cases sees
  | cancel number error =>
      obtain ⟨_, _, same⟩ := Option.map_eq_some_iff.mp sees
      cases same
  | other event =>
      simp only [Hal.serviceEvent] at sees
      split at sees
      · rename_i other
        obtain rfl := Option.some.inj sees
        cases msg <;> simp_all [Service.Event.isOther, FingerprintMsg.isResult]
      · cases sees
  | deliver =>
      obtain ⟨entry, front, same⟩ := Option.map_eq_some_iff.mp sees
      obtain rfl := Service.Event.notify.inj same
      obtain ⟨rest, inFlight⟩ := List.head?_eq_some_iff.mp front
      obtain ⟨operation, known, own⟩ :=
        current entry.1 (.inr ⟨entry.2, inFlight ▸ List.mem_cons_self, result⟩)
      exact ⟨rfl, entry, front, operation, known, by omega⟩

/-- In a run of the service with its device in which sessions are made only when nothing is
left running or in flight, and operations are started only on the session made last, every
result that is sent to a session or counted against it is one of its own operations'.
-/
theorem reports_own_results (now : Int) (events : List Hal.Event)
    (idle : halMachine.Along StartsIdle { service := { now } } events)
    : halMachine.Along ReportsOwn { service := { now } } events := by
  refine Machine.Along.of_invariant Hal.RunsCurrent ?_ ?_ idle
  · intro before event after current taken rule
    exact ⟨current.reportsOwn taken, current.step taken rule⟩
  · intro number owed
    simp at owed

/-- Two sessions, each with an authentication that ends before the next one is made. -/
theorem reports_own_results_in_turn
    : halMachine.Along ReportsOwn { service := { now := 1 } }
        [.other (.createSession 0), .request 0 (.authenticate 0 0),
          .report 0 (.authenticated { gid := 0, fid := 1 } default), .deliver,
          .other (.call 0 .close), .other (.createSession 10),
          .request 0 (.authenticate 0 0),
          .report 1 (.authenticated { gid := 10, fid := 0 } default), .deliver] :=
  reports_own_results 1 _ (by decide)

/-- An authentication of the first session is left running by its close, and its match is
reported to the second one, of another user.
-/
theorem reports_own_results_fails_after_close
    : ¬halMachine.Along ReportsOwn { service := { now := 1 } }
        [.other (.createSession 0), .request 0 (.authenticate 0 0), .other (.call 0 .close),
          .other (.createSession 10),
          .report 0 (.authenticated { gid := 0, fid := 1 } default), .deliver] := by
  intro along
  have last := ((((((along _ rfl).2 _ rfl).2 _ rfl).2 _ rfl).2 _ rfl).2 _ rfl).1
  obtain ⟨_, entry, front, operation, known, own⟩ :=
    last 1 _ _ rfl rfl (.inl (by decide))
  obtain rfl := Option.some.inj front
  obtain rfl := Option.some.inj known
  exact absurd own (by decide)

end PongDevice.Fingerprint
