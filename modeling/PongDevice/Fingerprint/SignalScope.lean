import PongDevice.Fingerprint.Illumination
import PongDevice.Fingerprint.Operations

/-! How far a cancellation signal reaches. It holds its session and nothing of the operation
it was returned for, so its `cancel` hits whatever runs on the device and lights the panel.
-/

namespace PongDevice.Fingerprint

open Transition

namespace Hal

/-- The session that an operation was started in. -/
def sessionOf (hal : Hal) (number : Nat) : Option Session :=
  hal.operations[number]?.bind (fun operation =>
    hal.service.sessions[hal.place operation.session]?)

/-- A running operation that the signal of `number` must not affect: any but its own, and any
at all once its session is closed.
-/
def OutOfScope (hal : Hal) (number other : Nat) : Prop :=
  other ∈ hal.running ∧ (other ≠ number ∨ (hal.sessionOf number).any (·.mClosed) = true)

end Hal

/-- Whether 1 was the last value that a session wrote to the high-brightness node. -/
def noteLit (lit : Bool) (before : Hal) (_ : Hal.Event) (after : Hal) : Bool :=
  (Panel.afterAll { lit } (before.newOutputs after)).lit

/-- The service and its device with the state of the panel. -/
def litMachine : Machine (Hal × Bool) Hal.Event := halMachine.observe noteLit

/-- A cancel leaves every operation out of the signal's scope running and its panel lit, makes
the device send nothing about it and its session no error.
-/
def CancelsOwn (before : Hal × Bool) (event : Hal.Event) (after : Hal × Bool) : Prop :=
  ∀ number error other,
    event = .cancel number error
    → before.1.OutOfScope number other
    → other ∈ after.1.running
      ∧ (before.2 = true → after.2 = true)
      ∧ (∀ msg, (other, msg) ∈ after.1.inFlight → (other, msg) ∈ before.1.inFlight)
      ∧ ∀ session ∈ before.1.sessionOf other,
        ∀ later ∈ after.1.sessionOf other,
          (session.newOutputs later).any Output.isError = false

/-- A cancel comes when no operation out of the signal's scope runs, or the device refuses it
and the panel is dark.
-/
def CancelsAlone (before : Hal × Bool) (event : Hal.Event) (_ : Hal × Bool) : Prop :=
  ∀ number error,
    event = .cancel number error
    → (∀ other, ¬before.1.OutOfScope number other) ∨ error ≠ 0 ∧ before.2 = false

/-- A cancel leaves the panel dark, whatever the device answers. -/
theorem Panel.lit_cancel (panel : Panel) (session : Session) (error : Int)
    : (panel.afterAll (session.callOutputs (.cancel error))).lit = false := by
  simp only [Session.callOutputs]
  split <;> rfl

/-- A cancel that the device refuses sends no error on any session. -/
theorem no_error_of_refused {before after : Service} {place index : Nat} {error : Int}
    (refused : error ≠ 0)
    (taken : serviceMachine.step before (.call place (.cancel error)) = some after)
    {session later : Session} (present : before.sessions[index]? = some session)
    (there : after.sessions[index]? = some later)
    : (session.newOutputs later).any Output.isError = false := by
  rcases Service.session_step taken rfl present there with rfl | ⟨_, moved⟩
  · simp
  · rw [Session.newOutputs_eq moved.sent]
    simp only [Service.outputs, Session.callOutputs, if_neg refused]
    rfl

/-- A cancel is a binder call on the signal's session, after which the device has answered
and the panel is dark.
-/
theorem Hal.cancel_eq_some {before after : Hal} {number : Nat} {error : Int}
    (taken : halMachine.step before (.cancel number error) = some after) (lit : Bool)
    : ∃ place service,
        serviceMachine.step before.service (.call place (.cancel error)) = some service
        ∧ after = { before.deviceAfter (.cancel number error) with service }
        ∧ noteLit lit before (.cancel number error) after = false := by
  rcases Hal.step_cases taken with ⟨_, _, same, _⟩ | ⟨seen, service, sees, served, rfl⟩
  · cases same
  obtain ⟨operation, _, rfl⟩ := Option.map_eq_some_iff.mp sees
  obtain ⟨session, _, _, _, _, sent⟩ := Service.newOutputs_call served
  refine ⟨_, service, served, rfl, ?_⟩
  rw [noteLit, Hal.newOutputs, sent]
  exact Panel.lit_cancel _ session error

/-- A cancel stays in the signal's scope exactly when nothing out of it runs, or the device
refuses and the panel is dark.
Witness: the device ends all that runs when it accepts, and the panel goes dark in any case.
-/
theorem cancelsOwn_iff {before after : Hal} {lit : Bool} {event : Hal.Event}
    (taken : halMachine.step before event = some after)
    : CancelsOwn (before, lit) event (after, noteLit lit before event after)
      ↔ CancelsAlone (before, lit) event (after, noteLit lit before event after) := by
  constructor
  · intro own number error same
    subst same
    by_cases alone : ∀ other, ¬before.OutOfScope number other
    · exact .inl alone
    obtain ⟨other, outside⟩ := not_forall.mp alone
    obtain ⟨runs, lights, _⟩ := own number error other rfl (not_not.mp outside)
    obtain ⟨place, service, _, rfl, dark⟩ := Hal.cancel_eq_some taken lit
    refine .inr ⟨?_, ?_⟩
    · intro accepted
      rw [Hal.deviceAfter, if_pos accepted] at runs
      cases runs
    · cases lit with
      | false => rfl
      | true => exact absurd (dark.symm.trans (lights rfl)) Bool.false_ne_true
  · intro alone number error other same outside
    subst same
    rcases alone number error rfl with none | ⟨refused, dark⟩
    · exact absurd outside (none other)
    obtain ⟨place, service, served, rfl, _⟩ := Hal.cancel_eq_some taken lit
    have unchanged : before.deviceAfter (.cancel number error) = before := if_neg refused
    rw [unchanged]
    refine ⟨outside.1, fun on => absurd (dark.symm.trans on) Bool.false_ne_true,
      fun _ => id, ?_⟩
    intro session present later there
    obtain ⟨operation, known, found⟩ := Option.bind_eq_some_iff.mp present
    obtain ⟨_, same, again⟩ := Option.bind_eq_some_iff.mp there
    obtain rfl := Option.some.inj (known.symm.trans same)
    obtain ⟨_, _, _, _, changed, _⟩ := Service.newOutputs_call served
    have place_eq : Hal.place { before with service } operation.session
        = before.place operation.session := by
      simp [Hal.place, changed]
    rw [place_eq] at again
    exact no_error_of_refused refused served found again

end PongDevice.Fingerprint
