import PongDevice.Sensors.SubHalTouches

/-! The coordinates of a touch on their way from the node to the event. They are read as integers,
and an event carries them as floats.
-/

namespace PongDevice.Sensors

open Bits Transition

/-- `u.data[index]`, as its bits. -/
def Event.data (event : Event) (index : Nat) : BitVec 32 := event.u.extractLsb' (32 * index) 32

namespace SubHalSensor

variable {sensor after : SubHalSensor} {reading : TouchReading} {events : List Event}

/-- What the node of a fingerprint sensor, or the file of a single tap, says about a touch. -/
def coordinates (sensor : SubHalSensor) (reading : TouchReading)
    : Except Text.StoulException (Int × Int) :=
  match sensor.object, reading.node with
  | .udfps object, .inl node =>
      let screen := (readFpState object.members node).2
      .ok (screen.mScreenX, screen.mScreenY)
  | _, _ =>
      (TouchData.readCoordinates reading.touchData).map (fun coordinates =>
        ((coordinates.x : Int), (coordinates.y : Int)))

/-- One event is read, with the coordinates as its first two floats. -/
theorem readEvents_eq (sensor : SubHalSensor) (timestamp : Int) (memory : BitVec 512) (x y : Int)
    : ∃ event,
        sensor.readEvents timestamp memory x y = [event]
        ∧ event.data 0 = Binary32.ofInt x
        ∧ event.data 1 = Binary32.ofInt y := by
  refine ⟨_, rfl, ?_, ?_⟩
  · exact BitVec.extractLsb'_append_eq_right
  · refine BitVec.eq_of_getLsbD_eq (fun bit inside => ?_)
    simp only [Event.data]
    rw [BitVec.getLsbD_extractLsb', BitVec.getLsbD_append, BitVec.getLsbD_append]
    simp [inside]

/-- What a touch is posted with has been read for it. -/
theorem touchEvents_eq_posts {coordinates : Except Text.StoulException (Int × Int)}
    (posts : sensor.touchEvents reading coordinates = .posts events)
    : ∃ x y,
        coordinates = .ok (x, y)
        ∧ events = sensor.readEvents reading.timestamp reading.memory x y := by
  cases coordinates with
  | error _ => cases posts
  | ok coordinates =>
      obtain ⟨x, y⟩ := coordinates
      exact ⟨x, y, rfl, (ThreadOutcome.posts.inj posts).symm⟩

/-- A dispatch that posts has read its coordinates, in either class. -/
theorem dispatch_eq_posts (taken : sensor.dispatch reading = some (after, .posts events))
    : ∃ x y,
        sensor.coordinates reading = .ok (x, y)
        ∧ events = sensor.readEvents reading.timestamp reading.memory x y := by
  unfold dispatch at taken
  unfold coordinates
  split at taken
  · rename_i class_ read
    obtain ⟨moved, -, same⟩ := Option.map_eq_some_iff.mp taken
    have outcome := (Prod.mk.inj same).2
    split at outcome
    · rw [class_, read]
      exact touchEvents_eq_posts outcome
    · cases outcome
  · rename_i class_ read
    obtain ⟨moved, -, same⟩ := Option.map_eq_some_iff.mp taken
    have outcome := (Prod.mk.inj same).2
    split at outcome
    · rw [class_, read]
      exact touchEvents_eq_posts outcome
    · cases outcome
  · cases taken

/-- A step that is no dispatch posts nothing. -/
theorem advance_silent {move : ∀ {μ : Type}, OneShotSensor μ → Option (OneShotSensor μ)}
    {outcome : ThreadOutcome} (taken : sensor.advance move = some (after, outcome))
    : outcome = .silent := by
  unfold advance at taken
  split at taken
  · obtain ⟨moved, -, same⟩ := Option.map_eq_some_iff.mp taken
    exact (Prod.mk.inj same).2.symm
  · obtain ⟨moved, -, same⟩ := Option.map_eq_some_iff.mp taken
    exact (Prod.mk.inj same).2.symm

end SubHalSensor

namespace SensorsSubHal

variable {before after : SensorsSubHal}

/-- A post carries the coordinates that were read for it, each one exactly if it has at most 24
bits.
-/
def CarriesCoordinates (before : SensorsSubHal) (action : Action) (after : SensorsSubHal) : Prop :=
  after.posts = before.posts
  ∨ ∃ index reading sensor x y event,
      action = .run index (.dispatch reading)
      ∧ before.mSensors[index]? = some sensor
      ∧ sensor.coordinates reading = .ok (x, y)
      ∧ after.posts = before.posts ++ [([event], true)]
      ∧ (x.natAbs < 2 ^ 24 → Binary32.toInt (event.data 0) = x)
      ∧ (y.natAbs < 2 ^ 24 → Binary32.toInt (event.data 1) = y)

/-- A dispatch that posts does so with what its sensor has read. -/
theorem posts_dispatch {index : Nat} {reading : TouchReading}
    (taken : before.run index (.dispatch reading) = some after)
    : after.posts = before.posts
      ∨ ∃ sensor x y,
          before.mSensors[index]? = some sensor
          ∧ sensor.coordinates reading = .ok (x, y)
          ∧ after.posts
            = before.posts
              ++ [(sensor.readEvents reading.timestamp reading.memory x y,
                sensor.isWakeUpSensor)] := by
  obtain ⟨sensor, found, ran⟩ := Option.bind_eq_some_iff.mp taken
  obtain ⟨⟨moved, outcome⟩, dispatched, rfl⟩ := Option.map_eq_some_iff.mp ran
  cases outcome with
  | silent | throws => exact .inl rfl
  | posts events =>
      obtain ⟨x, y, read, rfl⟩ := SubHalSensor.dispatch_eq_posts dispatched
      simp only [take, postEvents]
      split
      · exact .inr ⟨sensor, x, y, found, read, rfl⟩
      · exact .inl rfl

/-- Any other step of a thread posts nothing. -/
theorem posts_advance {index : Nat} {step : ThreadStep} (taken : before.run index step = some after)
    (other : ∀ reading, step ≠ .dispatch reading)
    : after.posts = before.posts := by
  obtain ⟨sensor, found, ran⟩ := Option.bind_eq_some_iff.mp taken
  obtain ⟨⟨moved, outcome⟩, advanced, rfl⟩ := Option.map_eq_some_iff.mp ran
  cases step with
  | lock =>
      change sensor.advance (·.lock) = _ at advanced
      obtain rfl := SubHalSensor.advance_silent advanced
      rfl
  | poll answer =>
      change sensor.advance (·.poll answer) = _ at advanced
      obtain rfl := SubHalSensor.advance_silent advanced
      rfl
  | dispatch reading => exact absurd rfl (other reading)

/-- Every step carries the coordinates, by whether it is a dispatch. -/
theorem PostsTouches.carriesCoordinates {action : Action}
    (sound : before.PostsTouches touchSensors)
    (taken : subHalMachine.step before action = some after)
    : before.CarriesCoordinates action after := by
  rcases posts_step touchSensors_wakeUpOnly sound (steps taken) with
    same | ⟨index, step, mover, next, post, rfl, found, -, -, -, -, touch, posts⟩
  · exact .inl same
  · have ran : before.run index step = some after := by
      have alive : before.died = false := by
        by_contra died
        simp [subHalMachine, SensorsSubHal.step, died] at taken
      simpa [subHalMachine, SensorsSubHal.step, alive] using taken
    cases step with
    | lock => exact .inl (posts_advance ran (fun _ same => by cases same))
    | poll answer => exact .inl (posts_advance ran (fun _ same => by cases same))
    | dispatch reading =>
        rcases posts_dispatch ran with same | ⟨sensor, x, y, here, read, added⟩
        · exact .inl same
        · obtain ⟨event, same, first, second⟩ :=
            sensor.readEvents_eq reading.timestamp reading.memory x y
          obtain ⟨touched, rfl, -, -⟩ := touch
          rw [same, posts] at added
          have last := List.append_cancel_left added
          simp only [List.cons.injEq, Prod.mk.injEq, and_true] at last
          obtain ⟨rfl, -⟩ := last
          refine .inr ⟨index, reading, sensor, x, y, touched, rfl, here, read, posts, ?_, ?_⟩
          · exact fun small => by rw [first, Binary32.toInt_ofInt small]
          · exact fun small => by rw [second, Binary32.toInt_ofInt small]

end SensorsSubHal

end PongDevice.Sensors
