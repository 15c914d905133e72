import PongDevice.Fingerprint.Outputs

/-! Whether a client is told that the device refused its request. Two of the requests only
log the refusal.
-/

namespace PongDevice.Fingerprint

open Session

/-- The device answered the call with an error. -/
def DeviceCall.isRefused : DeviceCall → Bool
  | enroll _ _ _ error
  | authenticate _ _ error
  | enumerate error
  | remove _ _ error
  | cancel error => error ≠ 0
  | setActiveGroup _ _ | preEnroll | postEnroll | getAuthenticatorId => false

/-- A device call among the outputs was refused. -/
def Output.isRefusal : Output → Bool
  | device call => call.isRefused
  | callback _ | udfps _ | setFodHbm _ => false

/-- How often a request tells its client of an error, by `onError` or by its status. -/
def timesTold (outputs : List Output) (status : BinderStatus) : Nat :=
  outputs.countP Output.isError + if status = .ok then 0 else 1

/-- If the device refuses any call of the request, then the client is told exactly once. -/
def ToldOfRefusal (session : Session) (now : Int) (call : Call) : Prop :=
  ∀ result ∈ session.call now call,
    (session.newOutputs result.1).any Output.isRefusal = true
    → timesTold (session.newOutputs result.1) result.2 = 1

/-- The request only logs the device's error. -/
def Session.Call.LogsRefusal : Call → Prop
  | .enumerateEnrollments error => error ≠ 0
  | .removeEnrollments enrollmentIds => ∃ entry ∈ enrollmentIds, entry.2 ≠ 0
  | _ => False

/-- A request that starts an operation tells of its refusal by the one error. -/
theorem timesTold_startOutputs {call : DeviceCall} {error : Int}
    (answer : call.isRefused = decide (error ≠ 0))
    (refused : (startOutputs call error).any Output.isRefusal = true)
    : timesTold (startOutputs call error) .ok = 1 := by
  by_cases accepted : error = 0
  · simp [startOutputs, Output.isRefusal, answer, accepted] at refused
  · rw [timesTold, startOutputs, if_pos accepted]
    rfl

/-- Removing enrollments tells of nothing, however many the device refuses. -/
theorem timesTold_removeEnrollments (session : Session)
    (enrollmentIds : List (BitVec 32 × Int))
    : timesTold (session.callOutputs (.removeEnrollments enrollmentIds)) .ok = 0 := by
  rw [timesTold, if_pos rfl, callOutputs, List.countP_reverse, List.countP_map]
  exact List.countP_eq_zero.mpr (fun _ _ => Bool.false_ne_true)

/-- A removal is refused exactly if the device refuses one of the ids. -/
theorem isRefusal_removeEnrollments (session : Session)
    (enrollmentIds : List (BitVec 32 × Int))
    : (session.callOutputs (.removeEnrollments enrollmentIds)).any Output.isRefusal = true
      ↔ ∃ entry ∈ enrollmentIds, entry.2 ≠ 0 := by
  simp [callOutputs, Output.isRefusal, DeviceCall.isRefused]

/-- What a returned request sent decides whether its client was told. -/
theorem toldOfRefusal_iff {session after : Session} {now : Int} {call : Call}
    {status : BinderStatus} (returned : session.call now call = some (after, status))
    : ToldOfRefusal session now call
      ↔ ((session.callOutputs call).any Output.isRefusal = true
        → timesTold (session.callOutputs call) status = 1) := by
  simp only [ToldOfRefusal, returned, Option.mem_some_iff, forall_eq',
    newOutputs_eq (sent_call returned)]

/-- The client of a refused request is told exactly once, except that an enumeration and a
removal only log what the device answered.
-/
theorem toldOfRefusal_iff_not_logsRefusal (session : Session) (now : Int) (call : Call)
    : ToldOfRefusal session now call ↔ ¬call.LogsRefusal := by
  cases call with
  | enroll hat stack error =>
      refine iff_of_true ?_ (fun logs => logs)
      intro result returned
      obtain ⟨after, completed, rfl⟩ := Option.map_eq_some_iff.mp returned
      refine (toldOfRefusal_iff returned).mpr ?_ (after, .ok) returned
      obtain ⟨authToken, translated, -⟩ := Option.map_eq_some_iff.mp completed
      simp only [callOutputs, translated]
      exact timesTold_startOutputs rfl
  | authenticate operationId error =>
      refine iff_of_true ((toldOfRefusal_iff rfl).mpr ?_) (fun logs => logs)
      exact timesTold_startOutputs rfl
  | enumerateEnrollments error =>
      rw [toldOfRefusal_iff rfl]
      simp [callOutputs, Call.LogsRefusal, Output.isRefusal, DeviceCall.isRefused, timesTold,
        Output.isError]
  | removeEnrollments enrollmentIds =>
      rw [toldOfRefusal_iff rfl, isRefusal_removeEnrollments, timesTold_removeEnrollments]
      simp [Call.LogsRefusal]
  | cancel error =>
      refine iff_of_true ?_ (fun logs => logs)
      by_cases accepted : error = 0
      · refine (toldOfRefusal_iff rfl).mpr ?_
        simp [callOutputs, accepted, Output.isRefusal, DeviceCall.isRefused]
      · have returned
            : session.call now (.cancel error)
              = some ((session.cancel now error).1, .serviceSpecific error) := by
          simp [Session.call, cancel, accepted]
        rw [toldOfRefusal_iff returned]
        simp [callOutputs, accepted, timesTold, Output.isError]
  | generateChallenge _ | revokeChallenge _ | detectInteraction | getAuthenticatorId _
  | invalidateAuthenticatorId _ | resetLockout | onPointerDown | onPointerDownWithContext _
  | onPointerUp | onUiReady | close =>
      refine iff_of_true ((toldOfRefusal_iff rfl).mpr ?_) (fun logs => logs)
      exact fun refused => absurd refused Bool.false_ne_true

/-- Of an enumeration that the device refuses the client hears nothing. -/
theorem toldOfRefusal_fails_enumerateEnrollments
    : ¬ToldOfRefusal (.make 0 0 {}) 0 (.enumerateEnrollments (-22)) := by
  intro told
  exact absurd (told _ rfl) (by decide)

end PongDevice.Fingerprint
