import PongDevice.Fingerprint.Operations

/-! How often a request is told to end. A refusal, an accepted cancel of its signal and its
last message each send one terminating callback; the device sends a last message for every
operation that it stops, so a cancel of a running one is told twice.
-/

namespace PongDevice.Fingerprint

open Transition

-----------------------------------------------------------------------------------------
-- Terminating callbacks and the requests they end
-----------------------------------------------------------------------------------------

/-- An error, a match, or the last enrollment progress. -/
def SessionCallback.terminates : SessionCallback → Bool
  | .onError _ _ | .onAuthenticationSucceeded _ _ => true
  | .onEnrollmentProgress _ remaining => remaining == 0
  | _ => false

def Output.terminates : Output → Bool
  | .callback reply => reply.terminates
  | _ => false

/-- The requests that the device refused, those whose signal was cancelled with the device's
consent, those whose last message reached an open session, and those that a terminating
callback was sent for, each as often as it happened.
-/
structure Endings where
  refused : List Nat := []
  cancelled : List Nat := []
  delivered : List Nat := []
  callbacks : List Nat := []

/-- A callback that a request, a signal or a message makes the session send is sent for the
request, for the request of the signal, and for the request of the message.
-/
def Endings.note (endings : Endings) (before : Hal) (event : Hal.Event) (after : Hal)
    : Endings :=
  let sent := (before.newOutputs after).countP Output.terminates
  match event with
  | .request _ request =>
      { endings with
        refused :=
          if request.error = 0 then endings.refused
          else before.operations.length :: endings.refused
        callbacks := List.replicate sent before.operations.length ++ endings.callbacks
      }
  | .cancel number error =>
      { endings with
        cancelled := if error = 0 then number :: endings.cancelled else endings.cancelled
        callbacks := List.replicate sent number ++ endings.callbacks
      }
  | .deliver =>
      match before.inFlight.head? with
      | some (number, msg) =>
          { endings with
            delivered :=
              if before.service.isOpen ∧ msg.endsOperation then number :: endings.delivered
              else endings.delivered
            callbacks := List.replicate sent number ++ endings.callbacks
          }
      | none => endings
  | .report _ _ | .other _ => endings

/-- The service and its device with the endings of all requests. -/
def endingMachine : Machine (Hal × Endings) Hal.Event :=
  halMachine.observe Endings.note

/-- No request has had two terminating callbacks. -/
def EndsOnce (state : Hal × Endings) : Prop := state.2.callbacks.Nodup

instance : DecidablePred EndsOnce :=
  fun state => inferInstanceAs (Decidable state.2.callbacks.Nodup)

/-- A cancel is accepted only through the signal of a request that was not refused, has not
been cancelled and has not been told to end by a message, and the last message of a
cancelled request does not reach an open session.
-/
def CancelsUnended (before : Hal × Endings) (event : Hal.Event) (_ : Hal × Endings) : Prop :=
  match event with
  | .cancel number error =>
      error = 0
      → number ∉ before.2.refused ∧ number ∉ before.2.cancelled ∧ number ∉ before.2.delivered
  | .deliver =>
      ∀ entry ∈ before.1.inFlight.head?,
        before.1.service.isOpen = true
        → entry.2.endsOperation = true
        → entry.1 ∉ before.2.cancelled
  | _ => True

/-- A request sends a terminating callback exactly when the device refuses it. -/
theorem countP_request {session : Session} {now : Int} {request : Request}
    {result : Session × BinderStatus}
    (returned : session.call now request.call = some result)
    : (session.callOutputs request.call).countP Output.terminates
      = if request.error = 0 then 0 else 1 := by
  have started : ∀ call error,
      (Session.startOutputs call error).countP Output.terminates
        = if error = 0 then 0 else 1 := by
    intro call error
    simp only [Session.startOutputs, ne_eq, ite_not]
    split <;> rfl
  cases request with
  | enroll hat stack error =>
      simp only [Request.call, Session.call, Session.enroll, Option.map_eq_some_iff]
        at returned
      obtain ⟨_, ⟨authToken, translated, rfl⟩, rfl⟩ := returned
      simp only [Request.call, Session.callOutputs, translated]
      exact started _ error
  | authenticate operationId error => exact started _ error

/-- A cancel sends one exactly when the device accepts it. -/
theorem countP_cancel (session : Session) (error : Int)
    : (session.callOutputs (.cancel error)).countP Output.terminates
      = if error = 0 then 1 else 0 := by
  simp only [Session.callOutputs]
  split <;> rfl

/-- A relayed message sends one exactly when it is the last of its operation. -/
theorem countP_notify (session : Session) (now : Int) (enrollments : List (BitVec 32))
    (msg : FingerprintMsg)
    : (session.notifyOutputs now enrollments msg).countP Output.terminates
      = if msg.endsOperation then 1 else 0 := by
  cases msg with
  | error code => rfl
  | acquired acquiredInfo =>
      simp only [Session.notifyOutputs]
      split <;> rfl
  | templateEnrolling finger samplesRemaining =>
      by_cases final : samplesRemaining = 0
      · subst final
        rfl
      · simp only [Session.notifyOutputs, if_neg final, List.nil_append]
        exact List.countP_singleton
  | authenticated finger hat =>
      by_cases found : finger.fid ≠ 0
      · have last : (FingerprintMsg.authenticated finger hat).endsOperation = true :=
          bne_iff_ne.mpr found
        rw [Session.notifyOutputs, if_pos found, if_pos last]
        rfl
      · have more : ¬(FingerprintMsg.authenticated finger hat).endsOperation = true :=
          fun last => found (bne_iff_ne.mp last)
        rw [Session.notifyOutputs, if_neg found, if_neg more, Session.lockoutOutputs]
        split <;> rfl
  | templateEnumerating finger remainingTemplates =>
      simp only [Session.notifyOutputs]
      split <;> rfl
  | templateRemoved _ _ | unknown => rfl

-----------------------------------------------------------------------------------------
-- Every terminating callback is accounted for
-----------------------------------------------------------------------------------------

/-- The last messages of a request that are on their way. -/
def Hal.lastInFlight (hal : Hal) (number : Nat) : Nat :=
  hal.inFlight.countP (fun entry => entry.1 == number && entry.2.endsOperation)

/-- A request that was made is refused, runs, or has one last message that is on its way, has
arrived or was dropped; and each of its terminating callbacks is its refusal, a cancel of
its signal or its last message.
-/
structure Accounts (hal : Hal) (endings : Endings) : Prop where
  device
    : ∀ number,
      hal.running.count number + hal.lastInFlight number + endings.refused.count number
          + endings.delivered.count number
        ≤ if number < hal.operations.length then 1 else 0
  signals : ∀ number ∈ endings.cancelled, number < hal.operations.length
  callbacks
    : ∀ number,
      endings.callbacks.count number
        = endings.refused.count number + endings.cancelled.count number
          + endings.delivered.count number

namespace Accounts

variable {before after : Hal} {endings : Endings}

/-- A report moves what is owed about a running operation into flight. -/
theorem report {number : Nat} {msg : FingerprintMsg} (sound : Accounts before endings)
    (taken : before.report number msg = some after)
    : Accounts after endings := by
  obtain ⟨runs, _, rfl⟩ := Hal.report_eq_some taken
  refine ⟨?_, sound.signals, sound.callbacks⟩
  intro other
  refine le_trans ?_ (sound.device other)
  by_cases last : msg.endsOperation = true
  · have erased : (before.running.erase number).count other = _ := List.count_erase
    have counted := List.count_pos_iff.mpr runs
    by_cases same : number = other
    · subst same
      simp only [Hal.lastInFlight, last, if_true, List.countP_append, List.countP_singleton,
        erased, beq_self_eq_true, Bool.and_self]
      omega
    · simp [Hal.lastInFlight, last, List.countP_append, erased, same]
  · simp [Hal.lastInFlight, last, List.countP_append]

/-- A request that was not made yet owes nothing. -/
theorem fresh (sound : Accounts before endings)
    : before.running.count before.operations.length = 0
      ∧ before.lastInFlight before.operations.length = 0
      ∧ endings.refused.count before.operations.length = 0
      ∧ endings.delivered.count before.operations.length = 0 := by
  have owed := sound.device before.operations.length
  rw [if_neg (lt_irrefl _)] at owed
  omega

/-- A request is refused or runs from now on; it has had nothing else before. -/
theorem request {index : Nat} {request : Request} {service : Service}
    (sound : Accounts before endings)
    (taken : serviceMachine.step before.service (.call index request.call) = some service)
    : Accounts { before.deviceAfter (.request index request) with service }
        (endings.note before (.request index request)
          { before.deviceAfter (.request index request) with service }) := by
  obtain ⟨session, result, _, returned, _, sent⟩ := Service.newOutputs_call taken
  have count := countP_request returned
  rw [← sent] at count
  obtain ⟨idle, silent, accepted, quiet⟩ := sound.fresh
  have moved : ∀ number,
      (before.deviceAfter (.request index request)).running.count number
          + (endings.note before (.request index request)
            { before.deviceAfter (.request index request) with service }).refused.count number
        = before.running.count number + endings.refused.count number
          + if before.operations.length = number then 1 else 0 := by
    intro number
    by_cases accepted : request.error = 0
    · simp only [Hal.deviceAfter, Endings.note, if_pos accepted, List.count_append,
        List.count_singleton, beq_iff_eq]
      omega
    · simp only [Hal.deviceAfter, Endings.note, if_neg accepted, List.count_cons, beq_iff_eq]
      omega
  refine ⟨?_, ?_, ?_⟩
  · intro number
    have owed := sound.device number
    have made := moved number
    have length : (before.deviceAfter (.request index request)).operations.length
        = before.operations.length + 1 := by
      simp [Hal.deviceAfter]
    simp only [length] at made ⊢
    by_cases same : before.operations.length = number
    · subst same
      rw [if_pos rfl] at made
      rw [if_pos (Nat.lt_succ_self _)]
      simp only [Hal.lastInFlight, Hal.deviceAfter, Endings.note] at silent made ⊢
      omega
    · rw [if_neg same] at made
      refine le_trans (le_of_eq ?_) (le_trans owed ?_)
      · simp only [Hal.lastInFlight, Hal.deviceAfter, Endings.note] at made ⊢
        omega
      · split <;> split <;> omega
  · intro number member
    simp only [Hal.deviceAfter, List.length_append]
    exact Nat.lt_add_right _ (sound.signals number member)
  · intro number
    have owed := sound.callbacks number
    by_cases accepted : request.error = 0
    · simpa [Endings.note, Hal.newOutputs, count, accepted] using owed
    · simp only [Endings.note, Hal.newOutputs, count, if_neg accepted, List.replicate_one,
        List.singleton_append, List.count_cons]
      omega

/-- A cancel that the device accepts turns what runs into last messages in flight. -/
theorem cancel {number place : Nat} {error : Int} {service : Service}
    (sound : Accounts before endings) (made : number < before.operations.length)
    (taken : serviceMachine.step before.service (.call place (.cancel error)) = some service)
    : Accounts { before.deviceAfter (.cancel number error) with service }
        (endings.note before (.cancel number error)
          { before.deviceAfter (.cancel number error) with service }) := by
  obtain ⟨session, result, _, returned, _, sent⟩ := Service.newOutputs_call taken
  have count := countP_cancel session error
  rw [← sent] at count
  by_cases accepted : error = 0
  · rw [if_pos accepted] at count
    refine ⟨?_, ?_, ?_⟩
    · intro other
      refine le_trans (le_of_eq ?_) (le_trans (sound.device other) ?_)
      · have stopped :
            (before.running.map
                (fun running => (running, FingerprintMsg.error fingerprintErrorCanceled))).countP
              (fun entry => entry.1 == other && entry.2.endsOperation)
              = before.running.count other := by
          rw [List.countP_map, List.count]
          congr 1
          funext running
          simp [FingerprintMsg.endsOperation]
        simp only [Hal.lastInFlight, Hal.deviceAfter, Endings.note, if_pos accepted,
          List.countP_append, stopped, List.count_nil]
        omega
      · simp [Hal.deviceAfter, accepted]
    · intro other member
      simp only [Endings.note, if_pos accepted, Hal.deviceAfter] at member ⊢
      rcases List.mem_cons.mp member with same | earlier
      · exact same ▸ made
      · exact sound.signals other earlier
    · intro other
      have owed := sound.callbacks other
      simp only [Endings.note, Hal.newOutputs, count, if_pos accepted, List.replicate_one,
        List.singleton_append, List.count_cons]
      omega
  · rw [if_neg accepted] at count
    simp only [Hal.deviceAfter, Endings.note, Hal.newOutputs, count, if_neg accepted,
      List.replicate_zero, List.nil_append]
    exact ⟨sound.device, sound.signals, sound.callbacks⟩

/-- A message that arrives is the one terminating callback that its operation may still get
from the device, or is dropped.
-/
theorem deliver {number : Nat} {msg : FingerprintMsg} {rest : List (Nat × FingerprintMsg)}
    {service : Service} (sound : Accounts before endings)
    (front : before.inFlight = (number, msg) :: rest)
    (taken : serviceMachine.step before.service (.notify msg) = some service)
    : Accounts { before.deviceAfter .deliver with service }
        (endings.note before .deliver { before.deviceAfter .deliver with service }) := by
  have count : (before.service.newOutputs service).countP Output.terminates
      = if before.service.isOpen ∧ msg.endsOperation then 1 else 0 := by
    rcases Service.newOutputs_notify taken with ⟨shut, _, sent⟩ | ⟨session, _, opened, _, _, _, sent⟩
    · simp [shut, sent]
    · rw [sent, countP_notify]
      simp [opened]
  have arrived : ∀ other, before.lastInFlight other
      = (before.deviceAfter .deliver).lastInFlight other
        + if number = other ∧ msg.endsOperation then 1 else 0 := by
    intro other
    simp [Hal.lastInFlight, Hal.deviceAfter, front, List.countP_cons]
  by_cases ends : before.service.isOpen ∧ msg.endsOperation
  · rw [if_pos ends] at count
    refine ⟨?_, ?_, ?_⟩
    · intro other
      refine le_trans ?_ (sound.device other)
      have moved := arrived other
      simp only [ends.2, and_true] at moved
      simp only [Endings.note, front, List.head?_cons, if_pos ends, List.count_cons,
        beq_iff_eq, Hal.lastInFlight, Hal.deviceAfter] at moved ⊢
      omega
    · simpa only [Endings.note, front, List.head?_cons, Hal.deviceAfter] using sound.signals
    · intro other
      have owed := sound.callbacks other
      simp only [Endings.note, front, List.head?_cons, Hal.newOutputs, count, if_pos ends,
        List.replicate_one, List.singleton_append, List.count_cons]
      omega
  · rw [if_neg ends] at count
    simp only [Endings.note, front, List.head?_cons, Hal.newOutputs, count, if_neg ends,
      List.replicate_zero, List.nil_append]
    refine ⟨?_, sound.signals, sound.callbacks⟩
    intro other
    refine le_trans ?_ (sound.device other)
    have moved := arrived other
    simp only [Hal.lastInFlight, Hal.deviceAfter] at moved ⊢
    omega

/-- Every event keeps the account. -/
theorem step {event : Hal.Event} (sound : Accounts before endings)
    (taken : halMachine.step before event = some after)
    : Accounts after (endings.note before event after) := by
  rcases Hal.step_cases taken with ⟨number, msg, rfl, reported⟩ | ⟨seen, service, sees,
    served, rfl⟩
  · exact sound.report reported
  cases event with
  | request index request =>
      obtain rfl := Option.some.inj sees
      exact sound.request served
  | report number msg => cases sees
  | deliver =>
      obtain ⟨entry, front, rfl⟩ := Option.map_eq_some_iff.mp sees
      obtain ⟨rest, inFlight⟩ := List.head?_eq_some_iff.mp front
      exact sound.deliver inFlight served
  | cancel number error =>
      obtain ⟨operation, known, rfl⟩ := Option.map_eq_some_iff.mp sees
      exact sound.cancel (List.getElem?_eq_some_iff.mp known).1 served
  | other event => exact ⟨sound.device, sound.signals, sound.callbacks⟩

end Accounts

/-- No request has been ended twice, by whatever it was ended. -/
def Endings.Once (endings : Endings) : Prop :=
  ∀ number,
    endings.refused.count number + endings.cancelled.count number
        + endings.delivered.count number
      ≤ 1

/-- Ended once and told once are the same to an account. -/
theorem Accounts.endsOnce {hal : Hal} {endings : Endings} (sound : Accounts hal endings)
    : EndsOnce (hal, endings) ↔ endings.Once := by
  simp only [EndsOnce, List.nodup_iff_count_le_one, Endings.Once, sound.callbacks]

/-- One more ending of a request leaves every request ended once exactly when that request had
none yet.
-/
theorem Endings.once_add {endings ended : Endings} (once : endings.Once) (number : Nat)
    (added
      : ∀ other,
        ended.refused.count other + ended.cancelled.count other + ended.delivered.count other
          = endings.refused.count other + endings.cancelled.count other
            + endings.delivered.count other
            + if number = other then 1 else 0)
    : ended.Once
      ↔ number ∉ endings.refused ∧ number ∉ endings.cancelled ∧ number ∉ endings.delivered := by
  simp only [← List.count_eq_zero]
  constructor
  · intro endedOnce
    have here := endedOnce number
    have more := added number
    rw [if_pos rfl] at more
    omega
  · intro none other
    have here := once other
    have more := added other
    by_cases same : number = other
    · subst same
      rw [if_pos rfl] at more
      omega
    · rw [if_neg same] at more
      omega

/-- An event ends a request a second time exactly when it breaks the rule.
Witness: a new request has no ending yet, and a last message in flight is the only one that
the device sends, so only cancels are left to make a second one.
-/
theorem Endings.once_note {before after : Hal} {endings : Endings} {event : Hal.Event}
    (sound : Accounts before endings) (once : endings.Once)
    (taken : halMachine.step before event = some after)
    : (endings.note before event after).Once
      ↔ CancelsUnended (before, endings) event (after, endings.note before event after) := by
  cases event with
  | report number msg => exact iff_of_true once trivial
  | other event => exact iff_of_true once trivial
  | request index request =>
      refine iff_of_true ?_ trivial
      obtain ⟨_, _, refused, delivered⟩ := sound.fresh
      by_cases accepted : request.error = 0
      · simp only [Endings.note, if_pos accepted]
        exact once
      · refine (once_add once before.operations.length ?_).mpr ⟨?_, ?_, ?_⟩
        · intro other
          simp only [Endings.note, if_neg accepted, List.count_cons, beq_iff_eq]
          omega
        · exact List.count_eq_zero.mp refused
        · exact fun member => lt_irrefl _ (sound.signals _ member)
        · exact List.count_eq_zero.mp delivered
  | cancel number error =>
      by_cases accepted : error = 0
      · simp only [CancelsUnended, accepted, true_imp_iff]
        refine once_add once number ?_
        intro other
        simp only [Endings.note, if_pos, List.count_cons, beq_iff_eq]
        omega
      · refine iff_of_true ?_ (fun none => absurd none accepted)
        simp only [Endings.note, if_neg accepted]
        exact once
  | deliver =>
      cases front : before.inFlight.head? with
      | none =>
          refine iff_of_true ?_ ?_
          · simpa only [Endings.note, front] using once
          · simp [CancelsUnended, front]
      | some entry =>
          obtain ⟨number, msg⟩ := entry
          obtain ⟨rest, inFlight⟩ := List.head?_eq_some_iff.mp front
          by_cases ends : before.service.isOpen ∧ msg.endsOperation
          · have only := sound.device number
            simp only [Hal.lastInFlight, inFlight, List.countP_cons, ends.2, beq_self_eq_true,
              Bool.and_self, if_true] at only
            have refused : endings.refused.count number = 0 := by
              split at only <;> omega
            have delivered : endings.delivered.count number = 0 := by
              split at only <;> omega
            rw [once_add once number]
            · simp [CancelsUnended, front, ends, List.count_eq_zero.mp refused,
                List.count_eq_zero.mp delivered]
            · intro other
              simp only [Endings.note, front, if_pos ends, List.count_cons, beq_iff_eq]
              omega
          · refine iff_of_true ?_ ?_
            · simp only [Endings.note, front, if_neg ends]
              exact once
            · intro _ same opened last
              obtain rfl := Option.some.inj (front.symm.trans same)
              exact absurd ⟨opened, last⟩ ends

/-- In a run of the service with its device, no request gets two terminating callbacks exactly
when cancels are accepted only through the signals of requests that nothing has ended, and
the last message of a cancelled request never reaches an open session.
-/
theorem endsOnce_iff (now : Int) (events : List Hal.Event)
    : endingMachine.Always EndsOnce ({ service := { now } }, {}) events
      ↔ endingMachine.Along CancelsUnended ({ service := { now } }, {}) events := by
  refine Machine.observe_always_iff_along
    (fun state => Accounts state.1 state.2 ∧ state.2.Once)
    (fun state endings inv => inv.1.endsOnce.mpr inv.2) ?_ ?_ ?_ (Machine.along_true _ _)
  · intro before endings event after inv taken _ rule
    exact ⟨inv.1.step taken, (Endings.once_note inv.1 inv.2 taken).mpr rule⟩
  · intro before endings event after inv taken _ holds
    exact (Endings.once_note inv.1 inv.2 taken).mp ((inv.1.step taken).endsOnce.mp holds)
  · exact ⟨⟨by simp [Hal.lastInFlight], nofun, by simp⟩, by simp [Endings.Once]⟩

/-- An authentication is cancelled while it runs: the session tells the client that it was
canceled, and then relays the error that the device sends for it.
-/
theorem endsOnce_fails_cancelled
    : ¬endingMachine.Always EndsOnce ({ service := { now := 1 } }, {})
        [.other (.createSession 0), .request 0 (.authenticate 0 0), .cancel 0 0, .deliver] := by
  decide

end PongDevice.Fingerprint
