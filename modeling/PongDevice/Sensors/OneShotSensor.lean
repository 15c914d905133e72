import PongDevice.Sensors.Routing
import PongDevice.Transition.Machine

/-! The two one-shot sensors of the touch screen. Their threads wait until the sensor is enabled,
release the lock while they poll, and post one event when the screen is touched.
-/

namespace PongDevice.Sensors

open Transition

-----------------------------------------------------------------------------------------
-- Reading the nodes
-----------------------------------------------------------------------------------------

/-- What the calls of `readBool` answer. -/
structure BoolReading where
  lseek : Int
  read : Int
  c : Char
deriving DecidableEq, Repr

def readBool (reading : BoolReading) : Bool :=
  if reading.lseek ≠ 0 then
    false
  else if reading.read ≠ 1 then
    false
  else
    reading.c ≠ '0'

/-- What the calls of `readFpState` answer: `sscanf` fails or converts up to three integers. -/
structure FpReading where
  lseek : Int
  read : Int
  sscanf : Option (List Int)
deriving DecidableEq, Repr

/-- Where the screen was touched; an event carries it. -/
structure Screen where
  mScreenX : Int
  mScreenY : Int
deriving DecidableEq, Repr

/-- Whether the screen is touched, and where. An integer that is not converted keeps its value,
which is 0 for the state.
-/
def readFpState (screen : Screen) (reading : FpReading) : Bool × Screen :=
  if reading.lseek ≠ 0 then
    (false, screen)
  else if reading.read < 0 then
    (false, screen)
  else
    match reading.sscanf with
    | none => (false, screen)
    | some values =>
        ((values[2]?).getD 0 > 0,
          {
            mScreenX := (values[0]?).getD screen.mScreenX
            mScreenY := (values[1]?).getD screen.mScreenY
          })

/-- What sets the two sensors apart: the test of the node that `run` makes, with the members
that the test may change.
-/
structure TouchTest (ρ μ : Type) where
  test : μ → ρ → Bool × μ

def udfpsSensor : TouchTest FpReading Screen where
  test := readFpState

def singleTapSensor : TouchTest BoolReading Unit where
  test _ reading := (readBool reading, ())

/-- `POLLIN`, which is waited for on the pipe. -/
def pipeEvents : BitVec 16 := 0x001

/-- `POLLERR | POLLPRI`, which is waited for on the node. -/
def nodeEvents : BitVec 16 := 0x008 ||| 0x002

/-- What `poll` returns, with `revents` of the pipe and of the node. -/
structure Polled where
  rc : Int
  pipe : BitVec 16
  node : BitVec 16
deriving DecidableEq, Repr

/-- Where `run` stands while it does not hold the lock. -/
inductive RunPoint where
  | starting
  | waiting
  | polling
  | polled (answer : Polled)
  | exited
deriving DecidableEq, Repr

/-- The members of a sensor, the bytes in its pipe, and the events that it has posted. -/
structure OneShotSensor (μ : Type) where
  mIsEnabled : Bool := false
  mMode : OperationMode := .normal
  mStopThread : Bool
  members : μ
  waitPipe : Nat := 0
  thread : RunPoint := .starting
  posted : List μ := []

namespace OneShotSensor

variable {ρ μ : Type}

/-- The thread is told to stop at once when the pipe or the node does not open. -/
def constructed (members : μ) (mStopThread : Bool) : OneShotSensor μ :=
  { mStopThread, members }

def interruptPoll (sensor : OneShotSensor μ) : OneShotSensor μ :=
  { sensor with waitPipe := sensor.waitPipe + 1 }

def activate (sensor : OneShotSensor μ) (enable : Bool) : OneShotSensor μ :=
  if sensor.mIsEnabled ≠ enable then
    { sensor with mIsEnabled := enable }.interruptPoll
  else
    sensor

def setOperationMode (sensor : OneShotSensor μ) (mode : OperationMode) : OneShotSensor μ :=
  (if sensor.mMode ≠ mode then { sensor with mMode := mode } else sensor).interruptPoll

-----------------------------------------------------------------------------------------
-- The thread
-----------------------------------------------------------------------------------------

/-- The tests at the head of the loop, up to the point where the lock is released. -/
def loop (sensor : OneShotSensor μ) : OneShotSensor μ :=
  { sensor with
    thread :=
      if sensor.mStopThread then .exited
      else if sensor.mIsEnabled = false ∨ sensor.mMode = .dataInjection then .waiting
      else .polling
  }

/-- The thread takes the lock to begin, or when the condition that it waits for holds. -/
def lock (sensor : OneShotSensor μ) : Option (OneShotSensor μ) :=
  match sensor.thread with
  | .starting => some sensor.loop
  | .waiting =>
      if sensor.mIsEnabled = true ∧ sensor.mMode = .normal ∨ sensor.mStopThread = true then
        some sensor.loop
      else
        none
  | _ => none

/-- `poll` returns, the lock being free. -/
def poll (sensor : OneShotSensor μ) (answer : Polled) : Option (OneShotSensor μ) :=
  match sensor.thread with
  | .polling => some { sensor with thread := .polled answer }
  | _ => none

/-- The thread takes the lock again and goes by what `poll` has answered. -/
def dispatch (sensor : OneShotSensor μ) (touch : TouchTest ρ μ) (reading : ρ)
    : Option (OneShotSensor μ) :=
  match sensor.thread with
  | .polled answer =>
      if answer.rc < 0 then
        some { sensor with mStopThread := true }.loop
      else
        let (touched, members) :=
          if answer.node = nodeEvents then touch.test sensor.members reading
          else (false, sensor.members)
        if touched then
          some
            { sensor with
              members
              mIsEnabled := false
              posted := sensor.posted ++ [members]
            }.loop
        else if answer.pipe = pipeEvents then
          some { sensor with members, waitPipe := sensor.waitPipe - 1 }.loop
        else
          some { sensor with members }.loop
  | _ => none

/-- A call, or a step of the thread. What the kernel does shows in the answers of `poll` and of
the reads.
-/
inductive Action (ρ : Type) where
  | activate (enable : Bool)
  | setOperationMode (mode : OperationMode)
  | lock
  | poll (answer : Polled)
  | dispatch (reading : ρ)

def step (touch : TouchTest ρ μ) (sensor : OneShotSensor μ)
    : Action ρ → Option (OneShotSensor μ)
  | .activate enable => some (sensor.activate enable)
  | .setOperationMode mode => some (sensor.setOperationMode mode)
  | .lock => sensor.lock
  | .poll answer => sensor.poll answer
  | .dispatch reading => sensor.dispatch touch reading

end OneShotSensor

def TouchTest.machine {ρ μ : Type} (touch : TouchTest ρ μ)
    : Machine (OneShotSensor μ) (OneShotSensor.Action ρ) where
  step := OneShotSensor.step touch

namespace OneShotSensor

variable {ρ μ : Type} {touch : TouchTest ρ μ} {before after : OneShotSensor μ}

/-- Whether `poll` has reported the node, which reads as touched now. -/
def touched (touch : TouchTest ρ μ) (sensor : OneShotSensor μ) (reading : ρ) : Bool :=
  match sensor.thread with
  | .polled answer =>
      0 ≤ answer.rc ∧ answer.node = nodeEvents
      ∧ (touch.test sensor.members reading).1 = true
  | _ => false

/-- Whether the thread is between the test of the loop and the dispatch. -/
def inGap (sensor : OneShotSensor μ) : Bool :=
  match sensor.thread with
  | .polling | .polled _ => true
  | _ => false

/-- Enabling and disabling fill the pipe at most. -/
theorem activate_frame (sensor : OneShotSensor μ) (enable : Bool)
    : ∃ waitPipe, sensor.activate enable = { sensor with mIsEnabled := enable, waitPipe } := by
  unfold activate
  split
  · exact ⟨sensor.waitPipe + 1, rfl⟩
  · rename_i same
    exact ⟨sensor.waitPipe, by rw [← not_not.mp same]⟩

/-- So does a change of the mode. -/
theorem setOperationMode_frame (sensor : OneShotSensor μ) (mode : OperationMode)
    : ∃ waitPipe, sensor.setOperationMode mode = { sensor with mMode := mode, waitPipe } := by
  unfold setOperationMode
  split
  · exact ⟨sensor.waitPipe + 1, rfl⟩
  · rename_i same
    exact ⟨sensor.waitPipe + 1, by rw [← not_not.mp same]; rfl⟩

@[simp]
theorem posted_loop (sensor : OneShotSensor μ) : sensor.loop.posted = sensor.posted := rfl

/-- The loop polls only for a sensor that is enabled in its normal mode. -/
theorem loop_inGap {sensor : OneShotSensor μ} (polls : sensor.loop.inGap = true)
    : sensor.mIsEnabled = true ∧ sensor.mMode = .normal := by
  obtain ⟨mIsEnabled, mMode, mStopThread, members, thread, posted⟩ := sensor
  cases mStopThread <;> cases mIsEnabled <;> cases mMode <;> simp [loop, inGap] at polls ⊢

/-- The thread begins its loop with the lock. -/
theorem lock_eq_some (taken : before.lock = some after)
    : before.inGap = false ∧ after = before.loop := by
  unfold lock at taken
  split at taken
  · rename_i starting
    exact ⟨by rw [inGap, starting], (Option.some.inj taken).symm⟩
  · rename_i waiting
    split at taken
    · exact ⟨by rw [inGap, waiting], (Option.some.inj taken).symm⟩
    · cases taken
  · cases taken

/-- A poll returns to a thread that is polling. -/
theorem poll_eq_some {answer : Polled} (taken : before.poll answer = some after)
    : before.inGap = true ∧ after = { before with thread := .polled answer } := by
  unfold poll at taken
  split at taken
  · rename_i polling
    exact ⟨by rw [inGap, polling], (Option.some.inj taken).symm⟩
  · cases taken

/-- What a dispatch can do: stop the thread after an error, post a touch and disable the sensor, or
take a byte if the pipe is reported.
-/
theorem dispatch_cases {reading : ρ} (taken : before.dispatch touch reading = some after)
    : ∃ answer,
        before.thread = .polled answer
        ∧ (answer.rc < 0 ∧ after = { before with mStopThread := true }.loop
          ∨ 0 ≤ answer.rc ∧ answer.node = nodeEvents
            ∧ (touch.test before.members reading).1 = true
            ∧ after
              = { before with
                  members := (touch.test before.members reading).2
                  mIsEnabled := false
                  posted := before.posted ++ [(touch.test before.members reading).2]
                }.loop
          ∨ 0 ≤ answer.rc
            ∧ ¬(answer.node = nodeEvents ∧ (touch.test before.members reading).1 = true)
            ∧ ∃ members,
                after
                = { before with
                    members
                    waitPipe :=
                      if answer.pipe = pipeEvents then before.waitPipe - 1
                      else before.waitPipe
                  }.loop) := by
  unfold dispatch at taken
  split at taken
  · rename_i answer polled
    refine ⟨answer, polled, ?_⟩
    split at taken
    · rename_i failed
      exact .inl ⟨failed, (Option.some.inj taken).symm⟩
    · rename_i returned
      have noError : 0 ≤ answer.rc := Int.not_lt.mp returned
      dsimp only at taken
      by_cases ready : answer.node = nodeEvents
      · simp only [ready, if_true] at taken
        cases down : (touch.test before.members reading).1 with
        | true =>
            simp only [down, if_true] at taken
            exact .inr (.inl ⟨noError, ready, rfl, (Option.some.inj taken).symm⟩)
        | false =>
            simp only [down, Bool.false_eq_true, if_false] at taken
            refine .inr (.inr ⟨noError, by simp, (touch.test before.members reading).2, ?_⟩)
            split at taken <;> rename_i pipe <;> simp [pipe, ← Option.some.inj taken]
      · simp only [ready, Bool.false_eq_true, if_false] at taken
        refine .inr (.inr ⟨noError, fun both => ready both.1, before.members, ?_⟩)
        split at taken <;> rename_i pipe <;> simp [pipe, ← Option.some.inj taken]
  · cases taken

/-- A dispatch posts one event and disables the sensor when the screen is touched; it leaves the
calls' members else.
-/
theorem dispatch_eq_some {reading : ρ} (taken : before.dispatch touch reading = some after)
    : before.inGap = true
      ∧ ∃ mStopThread members waitPipe,
          (before.touched touch reading = true
              ∧ after
                = { before with
                    mStopThread
                    members
                    waitPipe
                    mIsEnabled := false
                    posted := before.posted ++ [members]
                  }.loop
            ∨ before.touched touch reading = false
              ∧ after = { before with mStopThread, members, waitPipe }.loop) := by
  obtain ⟨answer, polled, outcome⟩ := dispatch_cases taken
  refine ⟨by rw [inGap, polled], ?_⟩
  simp only [touched, polled]
  rcases outcome with ⟨failed, rfl⟩ | ⟨noError, ready, down, rfl⟩ | ⟨noError, up, members, rfl⟩
  · exact ⟨true, before.members, before.waitPipe, .inr ⟨by simp [Int.not_le.mpr failed], rfl⟩⟩
  · exact ⟨before.mStopThread, _, before.waitPipe, .inl ⟨by simp [noError, ready, down], rfl⟩⟩
  · exact ⟨before.mStopThread, members, _,
      .inr ⟨decide_eq_false (fun touches => up touches.2), rfl⟩⟩

/-- An event is posted by a dispatch whose test says so, with the members that the test leaves. -/
theorem posted_dispatch {reading : ρ} (taken : before.dispatch touch reading = some after)
    : after.posted = before.posted
      ∨ (touch.test before.members reading).1 = true
        ∧ after.posted = before.posted ++ [(touch.test before.members reading).2] := by
  obtain ⟨_, _, ⟨_, rfl⟩ | ⟨_, _, down, rfl⟩ | ⟨_, _, members, rfl⟩⟩ := dispatch_cases taken
  · exact .inl rfl
  · exact .inr ⟨down, rfl⟩
  · exact .inl rfl

end OneShotSensor

end PongDevice.Sensors
