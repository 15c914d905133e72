import PongDevice.Sensors.SensorsSubHal

/-! The operation modes of the sub-HAL's sensors, which a call changes one after another while
their threads go on.
-/

namespace PongDevice.Sensors

open Transition

namespace SensorsSubHal

/-- The mode that the numbered sensor should be in: the new one once the loop has called it, and
that of the sub-HAL else.
-/
def modeOf (subHal : SensorsSubHal) (index : Nat) : OperationMode :=
  match subHal.changing with
  | none => subHal.mCurrentOperationMode
  | some (mode, called) => if index < called then mode else subHal.mCurrentOperationMode

/-- Each sensor is in the mode that it should be in. -/
def ModesAgree (subHal : SensorsSubHal) : Prop :=
  ∀ index sensor,
    subHal.mSensors[index]? = some sensor → sensor.object.mMode = subHal.modeOf index

/-- Posting changes neither the sensors nor their modes. -/
theorem postEvents_frame (subHal : SensorsSubHal) (events : List Event) (wakeup : Bool)
    : ∃ posts died, subHal.postEvents events wakeup = { subHal with posts, died } := by
  unfold postEvents
  split
  · exact ⟨_, _, rfl⟩
  · exact ⟨_, _, rfl⟩

/-- Neither does what a thread leads to. -/
theorem take_frame (subHal : SensorsSubHal) (wakeup : Bool) (outcome : ThreadOutcome)
    : ∃ posts died, subHal.take wakeup outcome = { subHal with posts, died } := by
  cases outcome with
  | silent => exact ⟨_, _, rfl⟩
  | posts events => exact subHal.postEvents_frame events wakeup
  | throws => exact ⟨_, _, rfl⟩

/-- Every step keeps the modes, by what it may do. -/
theorem ModesAgree.step {before after : SensorsSubHal} {action : Action}
    (agree : before.ModesAgree) (steps : Steps before action after)
    : after.ModesAgree := by
  intro index sensor found
  cases steps with
  | begins mCallback mode idle =>
      rw [agree index sensor found]
      simp [modeOf, idle]
  | calls mode called changing inside =>
      rw [List.getElem?_modify] at found
      obtain ⟨earlier, listed, rfl⟩ := Option.map_eq_some_iff.mp found
      have was := agree index earlier listed
      simp only [modeOf, changing] at was ⊢
      by_cases here : called = index
      · simp [here]
      · have same : index < called + 1 ↔ index < called := by omega
        simpa [here, same] using was
  | ends mode called changing outside =>
      have inside : index < called :=
        Nat.lt_of_lt_of_le (List.getElem?_eq_some_iff.mp found).1 outside
      have was := agree index sensor found
      simpa [modeOf, changing, inside] using was
  | activates sensorHandle enabled =>
      rw [update, List.getElem?_map] at found
      obtain ⟨earlier, listed, rfl⟩ := Option.map_eq_some_iff.mp found
      have was := agree index earlier listed
      split
      · exact (TouchSensor.mMode_activate earlier.object enabled).trans was
      · exact was
  | keeps => exact agree index sensor found
  | injects event injected listed supports =>
      obtain ⟨posts, died, same⟩ := before.postEvents_frame [event] injected.isWakeUpSensor
      rw [same] at found ⊢
      exact agree index sensor found
  | runs moved step earlier next outcome listed ran =>
      obtain ⟨posts, died, same⟩ :=
        { before with mSensors := before.mSensors.set moved next }.take_frame
          earlier.isWakeUpSensor outcome
      rw [same] at found ⊢
      rw [List.getElem?_set] at found
      split at found
      · rename_i here
        subst here
        split at found
        · obtain rfl := Option.some.inj found
          exact ran.mMode.trans (agree moved earlier listed)
        · cases found
      · exact agree index sensor found

end SensorsSubHal

/-- Whatever is called and however the threads of the sensors come in between, every sensor is in
the sub-HAL's mode; while a call changes it, the sensors that it has called are in the new one and
the others in the old one.
-/
theorem subHalModes_agree (screen : Screen) (udfpsStops singleTapStops : Bool)
    (actions : List SensorsSubHal.Action)
    : subHalMachine.Always SensorsSubHal.ModesAgree
        (.constructed screen udfpsStops singleTapStops) actions := by
  refine Machine.Always.of_invariant SensorsSubHal.ModesAgree (fun _ agree => agree) ?_ ?_
    (Machine.along_true _ _)
  · intro before action after agree taken _
    exact agree.step (SensorsSubHal.steps taken)
  · intro index sensor found
    match index with
    | 0 | 1 =>
        obtain rfl := Option.some.inj found
        rfl
    | index + 2 => cases found

-----------------------------------------------------------------------------------------
-- A whole call
-----------------------------------------------------------------------------------------

namespace SensorsSubHal

/-- The sub-HAL after a whole call of `setOperationMode`. -/
def changeMode (subHal : SensorsSubHal) (mode : OperationMode) : SensorsSubHal :=
  { subHal with
    mSensors :=
      subHal.mSensors.map (fun sensor =>
        { sensor with object := sensor.object.setOperationMode mode })
    mCurrentOperationMode := mode
    changing := none
  }

/-- Changing the next element of a list of which some have been changed, by induction over it. -/
theorem modify_take_append_drop {α : Type*} (change : α → α) (values : List α) {count : Nat}
    (inside : count < values.length)
    : ((values.take count).map change ++ values.drop count).modify count change
      = (values.take (count + 1)).map change ++ values.drop (count + 1) := by
  induction values generalizing count with
  | nil => cases inside
  | cons value rest ih =>
      cases count with
      | zero => rfl
      | succ before =>
          have below : before < rest.length := Nat.lt_of_succ_lt_succ inside
          simp only [List.take_succ_cons, List.drop_succ_cons, List.map_cons, List.cons_append,
            List.modify_succ_cons, ih below]

/-- The loop goes on to its end when no thread comes in between, by induction over the sensors
that are left.
-/
theorem run_nextSensor {subHal : SensorsSubHal} (alive : subHal.died = false)
    (mode : OperationMode) {called left : Nat} (rest : called + left = subHal.mSensors.length)
    : let change (sensor : SubHalSensor) : SubHalSensor :=
        { sensor with object := sensor.object.setOperationMode mode }
      subHalMachine.run
          { subHal with
            mSensors := (subHal.mSensors.take called).map change ++ subHal.mSensors.drop called
            changing := some (mode, called)
          }
          (List.replicate (left + 1) .nextSensor)
        = some (subHal.changeMode mode) := by
  intro change
  induction left generalizing called with
  | zero =>
      obtain rfl : called = subHal.mSensors.length := rest
      simp [Machine.run, subHalMachine, step, nextSensor, alive, changeMode, change]
  | succ left ih =>
      have inside : called < subHal.mSensors.length := by omega
      have next := ih (show called + 1 + left = subHal.mSensors.length by omega)
      have length
          : ((subHal.mSensors.take called).map change ++ subHal.mSensors.drop called).length
            = subHal.mSensors.length := by
        simp
        omega
      rw [List.replicate_succ, Machine.run]
      simp only [subHalMachine, step, nextSensor, alive, Bool.false_eq_true, if_false,
        Option.map_some, length, inside, if_true, Option.bind_some] at next ⊢
      rw [modify_take_append_drop _ _ inside]
      exact next

/-- A call of `setOperationMode` runs to its end, and changes the mode of every sensor. -/
theorem run_setOperationMode {subHal : SensorsSubHal} (alive : subHal.died = false)
    (idle : subHal.changing = none) (mode : OperationMode)
    : subHalMachine.run subHal
        (.setOperationMode mode :: List.replicate (subHal.mSensors.length + 1) .nextSensor)
      = some (subHal.changeMode mode) := by
  have loop := run_nextSensor alive mode (Nat.zero_add subHal.mSensors.length)
  simpa [Machine.run, subHalMachine, step, call, setOperationMode, alive, idle] using loop

end SensorsSubHal

end PongDevice.Sensors
