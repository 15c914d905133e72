import PongDevice.Sensors.OneShotSensor

/-! The end of a one-shot sensor. Its own destructor interrupts the poll; the destructor of its
base tells the thread to stop, later, and joins it. A thread that takes the interrupt in between
polls again.
-/

namespace PongDevice.Sensors

open Transition

-----------------------------------------------------------------------------------------
-- The destructors
-----------------------------------------------------------------------------------------

/-- How far the destructors have come. -/
inductive DestructionPhase where
  | alive
  | interrupted
  | joining
  | joined
deriving DecidableEq, Repr

structure Destruction (μ : Type) where
  sensor : OneShotSensor μ
  phase : DestructionPhase := .alive

namespace Destruction

variable {ρ μ : Type}

/-- A step of the sensor, or of its destruction. -/
inductive Event (ρ : Type) where
  | sensor (action : OneShotSensor.Action ρ)
  | derivedDestructor
  | baseDestructor
  | join

/-- Whether a step of the sensor can be taken: calls come only to a living sensor, and `poll`
returns for what it reports, which is the pipe exactly when there are bytes in it.
-/
def admits (state : Destruction μ) : OneShotSensor.Action ρ → Bool
  | .activate _ | .setOperationMode _ => state.phase = .alive
  | .poll answer =>
      answer.rc < 0
      ∨ 0 < answer.rc ∧ (answer.pipe = pipeEvents ↔ 0 < state.sensor.waitPipe)
        ∧ (0 < state.sensor.waitPipe ∨ answer.node ≠ 0)
  | .lock | .dispatch _ => true

/-- The base destructor takes the lock while the thread polls or waits, and joins the thread
without it.
-/
def step (touch : TouchTest ρ μ) (state : Destruction μ) : Event ρ → Option (Destruction μ)
  | .sensor action =>
      if state.admits action = true then
        (state.sensor.step touch action).map (fun sensor => { state with sensor })
      else
        none
  | .derivedDestructor =>
      if state.phase = .alive then
        some { sensor := state.sensor.interruptPoll, phase := .interrupted }
      else
        none
  | .baseDestructor =>
      if state.phase = .interrupted then
        some
          {
            sensor := { state.sensor with mStopThread := true, mIsEnabled := false }
            phase := .joining
          }
      else
        none
  | .join =>
      if state.phase = .joining ∧ state.sensor.thread = .exited then
        some { state with phase := .joined }
      else
        none

/-- The join waits for a thread that polls over an empty pipe, into which nothing more is written.
-/
def Stuck (state : Destruction μ) : Prop :=
  state.phase = .joining ∧ state.sensor.thread = .polling ∧ state.sensor.waitPipe = 0

instance (state : Destruction μ) : Decidable state.Stuck :=
  inferInstanceAs (Decidable (_ ∧ _ ∧ _))

/-- The join is not stuck, and it would not be if the base destructor were run now. -/
def Stoppable (touch : TouchTest ρ μ) (state : Destruction μ) : Prop :=
  ¬state.Stuck ∧ ∀ after, state.step touch .baseDestructor = some after → ¬after.Stuck

/-- Whether a dispatch takes a byte out of the pipe. -/
def takesByte (touch : TouchTest ρ μ) (sensor : OneShotSensor μ) (reading : ρ) : Bool :=
  match sensor.thread with
  | .polled answer =>
      0 ≤ answer.rc ∧ sensor.touched touch reading = false ∧ answer.pipe = pipeEvents
  | _ => false

/-- The condition on a step: between the two destructors, the thread does not take the last byte
while its loop is to poll again.
-/
def leavesInterrupt (touch : TouchTest ρ μ) (state : Destruction μ) : Event ρ → Prop
  | .sensor (.dispatch reading) =>
      state.phase = .interrupted
      → takesByte touch state.sensor reading = true
      → state.sensor.waitPipe = 1
      → state.sensor.mStopThread = false
      → ¬(state.sensor.mIsEnabled = true ∧ state.sensor.mMode = .normal)
  | _ => True

instance (touch : TouchTest ρ μ) (state : Destruction μ)
    : ∀ event, Decidable (state.leavesInterrupt touch event)
  | .sensor (.dispatch _) => inferInstanceAs (Decidable (_ → _ → _ → _ → ¬(_ ∧ _)))
  | .sensor (.activate _) | .sensor (.setOperationMode _) | .sensor .lock | .sensor (.poll _)
  | .derivedDestructor | .baseDestructor | .join => .isTrue trivial

end Destruction

def TouchTest.destruction {ρ μ : Type} (touch : TouchTest ρ μ)
    : Machine (Destruction μ) (Destruction.Event ρ) where
  step := Destruction.step touch

namespace Destruction

variable {ρ μ : Type} {touch : TouchTest ρ μ} {state after : Destruction μ}

-----------------------------------------------------------------------------------------
-- What a dispatch takes
-----------------------------------------------------------------------------------------

/-- A dispatch ends in the loop, with one byte less in the pipe if it takes one. Then it leaves
what the loop goes by; it never withdraws a stop.
-/
theorem dispatch_eq_loop {sensor next : OneShotSensor μ} {reading : ρ}
    (taken : sensor.dispatch touch reading = some next)
    : (∃ answer, sensor.thread = .polled answer)
      ∧ ∃ ending : OneShotSensor μ,
          next = ending.loop ∧ ending.mMode = sensor.mMode
          ∧ (sensor.mStopThread = true → ending.mStopThread = true)
          ∧ ending.waitPipe
            = (if takesByte touch sensor reading = true then sensor.waitPipe - 1
              else sensor.waitPipe)
          ∧ (takesByte touch sensor reading = true
            → ending.mStopThread = sensor.mStopThread
              ∧ ending.mIsEnabled = sensor.mIsEnabled) := by
  obtain ⟨answer, polled, outcome⟩ := OneShotSensor.dispatch_cases taken
  refine ⟨⟨answer, polled⟩, ?_⟩
  simp only [takesByte, OneShotSensor.touched, polled]
  rcases outcome with ⟨failed, rfl⟩ | ⟨noError, ready, down, rfl⟩ | ⟨noError, up, members, rfl⟩
  · exact ⟨_, rfl, rfl, fun _ => rfl, by simp [Int.not_le.mpr failed],
      by simp [Int.not_le.mpr failed]⟩
  · exact ⟨_, rfl, rfl, id, by simp [noError, ready, down], by simp [noError, ready, down]⟩
  · exact ⟨_, rfl, rfl, id, by simp [noError, up], fun _ => ⟨rfl, rfl⟩⟩

-----------------------------------------------------------------------------------------
-- The interrupt stays
-----------------------------------------------------------------------------------------

/-- A waiting thread that finds nothing to poll for when it takes the lock. -/
def idle (sensor : OneShotSensor μ) : Prop :=
  sensor.thread = .waiting
  ∧ (sensor.mStopThread = true ∨ sensor.mIsEnabled = false ∨ sensor.mMode = .dataInjection)

/-- Once the destruction has begun, a thread over an empty pipe is done or idle, and the base
destructor's stop stands.
-/
structure Interrupted (state : Destruction μ) : Prop where
  drained
    : state.phase ≠ .alive → state.sensor.waitPipe = 0
      → state.sensor.thread = .exited ∨ idle state.sensor
  stopped
    : state.phase = .joining ∨ state.phase = .joined → state.sensor.mStopThread = true

/-- A loop that does not poll is done or idle. -/
theorem loop_drained {sensor : OneShotSensor μ}
    (rests
      : sensor.mStopThread = false → ¬(sensor.mIsEnabled = true ∧ sensor.mMode = .normal))
    : sensor.loop.thread = .exited ∨ idle sensor.loop := by
  obtain ⟨mIsEnabled, mMode, mStopThread, members, thread, posted⟩ := sensor
  cases mStopThread <;> cases mIsEnabled <;> cases mMode <;>
    simp [OneShotSensor.loop, idle] at rests ⊢

/-- A step of the sensor is one that its destruction admits. -/
theorem sensor_eq_some {action : OneShotSensor.Action ρ}
    (taken : state.step touch (.sensor action) = some after)
    : state.admits action = true
      ∧ ∃ sensor,
          state.sensor.step touch action = some sensor ∧ after = { state with sensor } := by
  rw [step] at taken
  split at taken
  · rename_i admitted
    obtain ⟨sensor, stepped, rfl⟩ := Option.map_eq_some_iff.mp taken
    exact ⟨admitted, sensor, stepped, rfl⟩
  · cases taken

namespace Interrupted

/-- A living sensor can do what it likes. -/
theorem of_alive (alive : state.phase = .alive) : Interrupted state where
  drained dying := absurd alive dying
  stopped dying := by
    rw [alive] at dying
    rcases dying with joining | joined
    · cases joining
    · cases joined

/-- A thread that takes the lock over an empty pipe is told to stop. -/
theorem lock (kept : Interrupted state) {sensor : OneShotSensor μ}
    (taken : state.sensor.lock = some sensor)
    : Interrupted { state with sensor } := by
  obtain ⟨_, rfl⟩ := OneShotSensor.lock_eq_some taken
  refine { drained := ?_, stopped := kept.stopped }
  intro dying empty
  apply loop_drained
  rcases kept.drained dying empty with exited | ⟨waiting, idles⟩
  · rw [OneShotSensor.lock, exited] at taken
    cases taken
  · rcases idles with stopped | disabled | injecting
    · exact fun runs => absurd (stopped.symm.trans runs) Bool.false_ne_true.symm
    · exact fun _ polls => absurd (polls.1.symm.trans disabled) Bool.false_ne_true.symm
    · exact fun _ polls => absurd (polls.2.symm.trans injecting) (by decide)

/-- A thread between the test of its loop and the dispatch still has its interrupt. -/
theorem waitPipe_pos (kept : Interrupted state) (dying : state.phase ≠ .alive)
    (inGap : state.sensor.inGap = true)
    : 0 < state.sensor.waitPipe := by
  rw [Nat.pos_iff_ne_zero]
  intro empty
  rcases kept.drained dying empty with exited | ⟨waiting, _⟩
  · rw [OneShotSensor.inGap, exited] at inGap
    cases inGap
  · rw [OneShotSensor.inGap, waiting] at inGap
    cases inGap

/-- `poll` returns to a thread and leaves its interrupt. -/
theorem poll (kept : Interrupted state) {answer : Polled} {sensor : OneShotSensor μ}
    (taken : state.sensor.poll answer = some sensor)
    : Interrupted { state with sensor } := by
  obtain ⟨inGap, rfl⟩ := OneShotSensor.poll_eq_some taken
  refine { drained := ?_, stopped := kept.stopped }
  intro dying empty
  exact absurd empty (Nat.pos_iff_ne_zero.mp (kept.waitPipe_pos dying inGap))

/-- A dispatch that takes the last byte ends in a loop that does not poll. -/
theorem dispatch (kept : Interrupted state) {reading : ρ} {sensor : OneShotSensor μ}
    (taken : state.sensor.dispatch touch reading = some sensor)
    (rule : state.leavesInterrupt touch (.sensor (.dispatch reading)))
    : Interrupted { state with sensor } := by
  have inGap := (OneShotSensor.dispatch_eq_some taken).1
  obtain ⟨_, ending, rfl, mode, keepsStop, pipe, same⟩ := dispatch_eq_loop taken
  refine { drained := ?_, stopped := fun dying => keepsStop (kept.stopped dying) }
  intro dying empty
  have positive := kept.waitPipe_pos dying inGap
  have drained : ending.waitPipe = 0 := empty
  rw [pipe] at drained
  split at drained
  · rename_i takes
    obtain ⟨sameStop, sameEnabled⟩ := same takes
    apply loop_drained
    intro runs
    rw [sameStop] at runs
    have interrupted : state.phase = .interrupted := by
      cases phase : state.phase with
      | alive => exact absurd phase dying
      | interrupted => rfl
      | joining => exact absurd ((kept.stopped (.inl phase)).symm.trans runs) Bool.noConfusion
      | joined => exact absurd ((kept.stopped (.inr phase)).symm.trans runs) Bool.noConfusion
    rw [sameEnabled, mode]
    exact rule interrupted takes (by omega) runs
  · omega

/-- Every step that leaves the interrupt keeps it for a thread that polls. -/
theorem step {event : Event ρ} (kept : Interrupted state)
    (taken : state.step touch event = some after)
    (rule : state.leavesInterrupt touch event)
    : Interrupted after := by
  cases event with
  | sensor action =>
      obtain ⟨admitted, sensor, stepped, rfl⟩ := sensor_eq_some taken
      cases action with
      | activate enable => exact of_alive (of_decide_eq_true admitted)
      | setOperationMode mode => exact of_alive (of_decide_eq_true admitted)
      | lock => exact kept.lock stepped
      | poll answer => exact kept.poll stepped
      | dispatch reading => exact kept.dispatch stepped rule
  | derivedDestructor =>
      rw [Destruction.step] at taken
      split at taken
      · obtain rfl := Option.some.inj taken
        refine { drained := fun _ empty => absurd empty (Nat.succ_ne_zero _), stopped := ?_ }
        rintro (joining | joined)
        · cases joining
        · cases joined
      · cases taken
  | baseDestructor =>
      rw [Destruction.step] at taken
      split at taken
      · rename_i interrupted
        obtain rfl := Option.some.inj taken
        refine { drained := ?_, stopped := fun _ => rfl }
        intro _ empty
        rcases kept.drained (by rw [interrupted]; decide) empty with exited | ⟨waiting, _⟩
        · exact .inl exited
        · exact .inr ⟨waiting, .inl rfl⟩
      · cases taken
  | join =>
      rw [Destruction.step] at taken
      split at taken
      · rename_i ended
        obtain rfl := Option.some.inj taken
        refine { drained := fun _ _ => .inl ended.2, stopped := ?_ }
        exact fun _ => kept.stopped (.inl ended.1)
      · cases taken

/-- With its interrupt, a thread does not block the join. -/
theorem not_stuck (kept : Interrupted state) : ¬state.Stuck := by
  rintro ⟨joining, polling, empty⟩
  have positive := kept.waitPipe_pos (by rw [joining]; decide)
    (by rw [OneShotSensor.inGap, polling])
  omega

theorem stoppable (kept : Interrupted state) : state.Stoppable touch :=
  ⟨kept.not_stuck, fun _ taken => (kept.step taken trivial).not_stuck⟩

end Interrupted

/-- A dispatch that does not leave the interrupt makes the thread poll over an empty pipe, where
the base destructor's step finds it.
-/
theorem leavesInterrupt_of_stoppable {event : Event ρ}
    (taken : state.step touch event = some after) (stops : after.Stoppable touch)
    : state.leavesInterrupt touch event := by
  match event with
  | .sensor (.dispatch reading) =>
      intro interrupted takes one runs polls
      obtain ⟨_, sensor, stepped, rfl⟩ := sensor_eq_some taken
      obtain ⟨_, ending, rfl, mode, _, pipe, same⟩ := dispatch_eq_loop stepped
      obtain ⟨sameStop, sameEnabled⟩ := same takes
      refine stops.2 _ (if_pos interrupted) ⟨rfl, ?_, ?_⟩
      · simp [OneShotSensor.loop, sameStop, runs, sameEnabled, polls.1, mode, polls.2]
      · have left : ending.waitPipe = 0 := by rw [pipe, if_pos takes, one]
        exact left
  | .sensor (.activate _) | .sensor (.setOperationMode _) | .sensor .lock | .sensor (.poll _)
  | .derivedDestructor | .baseDestructor | .join => trivial

end Destruction

-----------------------------------------------------------------------------------------
-- Main result
-----------------------------------------------------------------------------------------

/-- In every state of a run the thread can be stopped, and is not stuck if it has been told to. -/
def TouchTest.StoppableAlways {ρ μ : Type} (touch : TouchTest ρ μ) (members : μ)
    (mStopThread : Bool) (events : List (Destruction.Event ρ))
    : Prop :=
  touch.destruction.Always (fun state => state.Stoppable touch)
    { sensor := .constructed members mStopThread } events

/-- In every state of a run, a join is not stuck. -/
def TouchTest.JoinsAlways {ρ μ : Type} (touch : TouchTest ρ μ) (members : μ)
    (mStopThread : Bool) (events : List (Destruction.Event ρ))
    : Prop :=
  touch.destruction.Always (fun state => ¬state.Stuck)
    { sensor := .constructed members mStopThread } events

/-- No dispatch of a run between the destructors takes the last byte to poll again. -/
def TouchTest.LeavesInterruptAlong {ρ μ : Type} (touch : TouchTest ρ μ) (members : μ)
    (mStopThread : Bool) (events : List (Destruction.Event ρ))
    : Prop :=
  touch.destruction.Along (fun state event _ => state.leavesInterrupt touch event)
    { sensor := .constructed members mStopThread } events

/-- Over every run, the base destructor can stop the thread at any time exactly when no dispatch
has taken its interrupt.
-/
theorem TouchTest.stoppableAlways_iff {ρ μ : Type} (touch : TouchTest ρ μ) (members : μ)
    (mStopThread : Bool) (events : List (Destruction.Event ρ))
    : touch.StoppableAlways members mStopThread events
      ↔ touch.LeavesInterruptAlong members mStopThread events := by
  refine Machine.always_iff_along Destruction.Interrupted
    (fun state kept => kept.stoppable) ?_ ?_ (.of_alive rfl) (Machine.along_true _ _)
  · exact fun state event next kept taken _ rule => kept.step taken rule
  · exact fun state event next _ taken _ stops =>
      Destruction.leavesInterrupt_of_stoppable taken stops

/-- Over every run that leaves the interrupt, the join is never stuck. -/
theorem TouchTest.joinsAlways {ρ μ : Type} (touch : TouchTest ρ μ) (members : μ)
    (mStopThread : Bool) (events : List (Destruction.Event ρ))
    (rule : touch.LeavesInterruptAlong members mStopThread events)
    : touch.JoinsAlways members mStopThread events :=
  Machine.Always.of_invariant Destruction.Interrupted (fun _ kept => kept.not_stuck)
    (fun _ _ _ kept taken rule => kept.step taken rule) (.of_alive rfl) rule

/-- The join of either sensor is never stuck over a run whose dispatches leave the interrupt; over
any other run it would be, if the base destructor came right behind the dispatch.
-/
theorem oneShotSensors_stop_iff (mStopThread : Bool)
    : (∀ screen events,
        (udfpsSensor.LeavesInterruptAlong screen mStopThread events
          → udfpsSensor.JoinsAlways screen mStopThread events)
        ∧ (udfpsSensor.StoppableAlways screen mStopThread events
          ↔ udfpsSensor.LeavesInterruptAlong screen mStopThread events))
      ∧ ∀ events,
        (singleTapSensor.LeavesInterruptAlong () mStopThread events
          → singleTapSensor.JoinsAlways () mStopThread events)
        ∧ (singleTapSensor.StoppableAlways () mStopThread events
          ↔ singleTapSensor.LeavesInterruptAlong () mStopThread events) := by
  refine ⟨fun screen events => ⟨?_, ?_⟩, fun events => ⟨?_, ?_⟩⟩
  · exact udfpsSensor.joinsAlways screen mStopThread events
  · exact udfpsSensor.stoppableAlways_iff screen mStopThread events
  · exact singleTapSensor.joinsAlways () mStopThread events
  · exact singleTapSensor.stoppableAlways_iff () mStopThread events

/-- The thread of an enabled sensor takes the interrupt when it has been told to stop. -/
def interruptLeft {ρ : Type} (reading : ρ) : List (Destruction.Event ρ) :=
  let reported : Polled := { rc := 1, pipe := pipeEvents, node := 0 }
  [.sensor .lock, .sensor (.activate true), .sensor .lock, .sensor (.poll reported),
    .sensor (.dispatch reading), .derivedDestructor, .sensor (.poll reported), .baseDestructor,
    .sensor (.dispatch reading), .join]

theorem oneShotSensors_stop_iff_left
    : udfpsSensor.JoinsAlways { mScreenX := 0, mScreenY := 0 } false
          (interruptLeft { lseek := 0, read := 0, sscanf := none })
      ∧ singleTapSensor.JoinsAlways () false
          (interruptLeft { lseek := 0, read := 1, c := '0' }) := by
  refine ⟨((oneShotSensors_stop_iff false).1 _ _).1 ?_,
    ((oneShotSensors_stop_iff false).2 _).1 ?_⟩ <;>
  · simp only [TouchTest.LeavesInterruptAlong]
    decide +kernel

/-- The thread of an enabled sensor takes the interrupt and polls again, before it is told to
stop.
-/
def interruptTaken {ρ : Type} (reading : ρ) : List (Destruction.Event ρ) :=
  let reported : Polled := { rc := 1, pipe := pipeEvents, node := 0 }
  [.sensor .lock, .sensor (.activate true), .sensor .lock, .sensor (.poll reported),
    .sensor (.dispatch reading), .derivedDestructor, .sensor (.poll reported),
    .sensor (.dispatch reading), .baseDestructor]

theorem oneShotSensors_stop_fails_taken
    : ¬udfpsSensor.JoinsAlways { mScreenX := 0, mScreenY := 0 } false
          (interruptTaken { lseek := 0, read := 0, sscanf := none })
      ∧ ¬singleTapSensor.JoinsAlways () false
          (interruptTaken { lseek := 0, read := 1, c := '0' }) := by
  simp only [TouchTest.JoinsAlways]
  decide +kernel

end PongDevice.Sensors
