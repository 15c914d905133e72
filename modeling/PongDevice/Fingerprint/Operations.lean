import PongDevice.Fingerprint.ServiceOutputs

/-! The service with the device behind it. The device runs the operations that it accepts,
reports on them while they run, and ends all of them when it accepts a cancel; its messages
reach the service some time after they were sent, in their order.
-/

namespace PongDevice.Fingerprint

open Transition

/-- An enroll or authenticate request, with what the session's stack held and the device's
answer.
-/
inductive Request where
  | enroll (hat : HardwareAuthToken) (stack : HwAuthToken) (error : Int)
  | authenticate (operationId : BitVec 64) (error : Int)
deriving Repr

namespace Request

def call : Request → Session.Call
  | .enroll hat stack error => .enroll hat stack error
  | .authenticate operationId error => .authenticate operationId error

def error : Request → Int
  | .enroll _ _ error | .authenticate _ error => error

def enrolls : Request → Bool
  | .enroll _ _ _ => true
  | .authenticate _ _ => false

end Request

/-- A request that was made: the session it was made on, counted from the first one, and
whether it is an enrollment.
-/
structure Operation where
  session : Nat
  enrolls : Bool
deriving DecidableEq, Repr

/-- `FINGERPRINT_ERROR_CANCELED`. -/
def fingerprintErrorCanceled : Int := 5

/-- The device sends nothing more about the operation. -/
def FingerprintMsg.endsOperation : FingerprintMsg → Bool
  | .error _ => true
  | .templateEnrolling _ samplesRemaining => samplesRemaining == 0
  | .authenticated finger _ => finger.fid != 0
  | _ => false

/-- A match, a mismatch or enrollment progress. -/
def FingerprintMsg.isResult : FingerprintMsg → Bool
  | .templateEnrolling _ _ | .authenticated _ _ => true
  | _ => false

/-- What the device reports about an operation of its kind. -/
def Operation.mayReport (operation : Operation) : FingerprintMsg → Bool
  | .error _ | .acquired _ => true
  | .templateEnrolling _ _ => operation.enrolls
  | .authenticated _ _ => !operation.enrolls
  | _ => false

/-- The service and its device. Operations are numbered in the order of their requests;
`running` are those the device works on, and `inFlight` its messages about operations, each
with the operation's number, that have not reached the service yet.
-/
structure Hal where
  service : Service
  operations : List Operation := []
  running : List Nat := []
  inFlight : List (Nat × FingerprintMsg) := []

namespace Hal

/-- Requests on the session at a place, reports of the device, their arrival, `cancel` on the
signal of a request with the device's answer, and any other event of the service.
-/
inductive Event where
  | request (index : Nat) (request : Request)
  | report (number : Nat) (msg : FingerprintMsg)
  | deliver
  | cancel (number : Nat) (error : Int)
  | other (event : Service.Event)
deriving Repr

end Hal

/-- The events of the service that neither start nor cancel nor report an operation. -/
def Service.Event.isOther : Service.Event → Bool
  | .call _ (.enroll _ _ _) | .call _ (.authenticate _ _) | .call _ (.cancel _) => false
  | .notify (.error _) | .notify (.acquired _) | .notify (.templateEnrolling _ _)
  | .notify (.authenticated _ _) => false
  | _ => true

namespace Hal

/-- The place of a session, newest first, from its number, and its number from its place. -/
def place (hal : Hal) (session : Nat) : Nat := hal.service.sessions.length - 1 - session

/-- What the service sees of an event. A signal holds the session that returned it, so its
`cancel` is that session's.
-/
def serviceEvent (hal : Hal) : Event → Option Service.Event
  | .request index request => some (.call index request.call)
  | .report _ _ => none
  | .deliver => hal.inFlight.head?.map (fun entry => .notify entry.2)
  | .cancel number error =>
      hal.operations[number]?.map (fun operation =>
        .call (hal.place operation.session) (.cancel error))
  | .other event => if event.isOther then some event else none

/-- What the device does in an event that the service sees. A cancel that it accepts ends all
that runs, each with an error of its own.
-/
def deviceAfter (hal : Hal) : Event → Hal
  | .request index request =>
      { hal with
        operations :=
          hal.operations ++ [{ session := hal.place index, enrolls := request.enrolls }]
        running :=
          if request.error = 0 then hal.running ++ [hal.operations.length] else hal.running
      }
  | .deliver => { hal with inFlight := hal.inFlight.tail }
  | .cancel _ error =>
      if error = 0 then
        { hal with
          running := []
          inFlight := hal.inFlight ++ hal.running.map (·, .error fingerprintErrorCanceled)
        }
      else
        hal
  | .report _ _ | .other _ => hal

/-- The device reports on an operation that it runs. -/
def report (hal : Hal) (number : Nat) (msg : FingerprintMsg) : Option Hal :=
  if number ∈ hal.running ∧ hal.operations[number]?.any (·.mayReport msg) then
    some
      { hal with
        running := if msg.endsOperation then hal.running.erase number else hal.running
        inFlight := hal.inFlight ++ [(number, msg)]
      }
  else
    none

def step (hal : Hal) : Event → Option Hal
  | .report number msg => hal.report number msg
  | event =>
      (hal.serviceEvent event).bind (fun seen =>
        (hal.service.step seen).map (fun service => { hal.deviceAfter event with service }))

end Hal

def halMachine : Machine Hal Hal.Event where
  step := Hal.step

namespace Hal

/-- What an event does: a report changes nothing of the service, and any other event is one
of the service's, after which the device has done its part.
-/
theorem step_cases {before after : Hal} {event : Event}
    (taken : halMachine.step before event = some after)
    : (∃ number msg, event = .report number msg ∧ before.report number msg = some after)
      ∨ ∃ seen service,
          before.serviceEvent event = some seen
          ∧ serviceMachine.step before.service seen = some service
          ∧ after = { before.deviceAfter event with service } := by
  have through : ((before.serviceEvent event).bind (fun seen =>
      (before.service.step seen).map (fun service =>
        { before.deviceAfter event with service }))) = some after
      → ∃ seen service,
          before.serviceEvent event = some seen
          ∧ serviceMachine.step before.service seen = some service
          ∧ after = { before.deviceAfter event with service } := by
    intro moved
    obtain ⟨seen, sees, stepped⟩ := Option.bind_eq_some_iff.mp moved
    obtain ⟨service, served, rfl⟩ := Option.map_eq_some_iff.mp stepped
    exact ⟨seen, service, sees, served, rfl⟩
  cases event with
  | report number msg => exact .inl ⟨number, msg, rfl, taken⟩
  | request _ _ | deliver | cancel _ _ | other _ => exact .inr (through taken)

/-- A report leaves the service alone. -/
theorem report_eq_some {before after : Hal} {number : Nat} {msg : FingerprintMsg}
    (taken : before.report number msg = some after)
    : number ∈ before.running
      ∧ before.operations[number]?.any (·.mayReport msg) = true
      ∧ after
        = { before with
            running :=
              if msg.endsOperation then before.running.erase number else before.running
            inFlight := before.inFlight ++ [(number, msg)]
          } := by
  unfold report at taken
  split at taken
  · rename_i allowed
    obtain rfl := Option.some.inj taken
    exact ⟨allowed.1, allowed.2, rfl⟩
  · cases taken

/-- What the sessions send in an event. -/
def newOutputs (before after : Hal) : List Output := before.service.newOutputs after.service

end Hal

end PongDevice.Fingerprint
