import PongDevice.Fingerprint.UdfpsCommands

/-! How long a press waits for illumination. The worker reads the illumination state every 10 ms
until its deadline, which is 500 ms after it took the request. It may be late by a latency whenever
it could go on, and the request is pending for less than 510 ms and two latencies.
-/

namespace PongDevice.Fingerprint

open Transition

/-- The handler with the clock, in milliseconds. -/
structure TimedHandler where
  handler : UdfpsHandler := {}
  now : Int
deriving DecidableEq, Repr

namespace UdfpsHandler

variable {handler next : UdfpsHandler} {reading : Reading}

/-- A press waits for illumination. -/
def waits (handler : UdfpsHandler) : Bool :=
  handler.mPending && !handler.mStopped

-----------------------------------------------------------------------------------------
-- What a stretch of the worker leaves pending
-----------------------------------------------------------------------------------------

/-- The inner loop's body is done with the request, or it waits for another 10 ms before the
deadline.
-/
theorem poll_cases (handler : UdfpsHandler) (requestId : BitVec 64) (deadline : Int)
    (reading : Reading)
    : (handler.poll requestId deadline reading).mPending = false
        ∧ (handler.poll requestId deadline reading).worker = .waiting
      ∨ handler.poll requestId deadline reading
          = { handler with worker := .polling requestId deadline }
        ∧ reading.checked < deadline := by
  unfold poll
  split
  · exact .inl ⟨rfl, rfl⟩
  · split
    · exact .inl ⟨rfl, rfl⟩
    · split
      · exact .inl ⟨rfl, rfl⟩
      · rename_i early
        exact .inr ⟨rfl, Int.not_le.mp early⟩

/-- The stretch goes on polling for the request of the moment before its deadline, which it has
kept or has set 500 ms after its start.
-/
structure Polls (handler : UdfpsHandler) (reading : Reading) (deadline : Int)
    (next : UdfpsHandler)
    : Prop where
  waits : handler.waits = true
  next : next = { handler with worker := .polling handler.mRequestId deadline }
  early : reading.checked < deadline
  deadline
    : handler.worker = .polling handler.mRequestId deadline
      ∨ handler.keepsPolling = false ∧ deadline = reading.started + 500

/-- A stretch goes on polling, or nothing waits after it. -/
theorem waits_run (taken : handler.run reading = some next)
    : (∃ deadline, Polls handler reading deadline next)
      ∨ next.waits = false ∧ ∀ requestId deadline, next.worker ≠ .polling requestId deadline := by
  have await (fresh : handler.keepsPolling = false)
      : (∃ deadline, Polls handler reading deadline (handler.awaitRequest reading))
        ∨ (handler.awaitRequest reading).waits = false
          ∧ ∀ requestId deadline,
              (handler.awaitRequest reading).worker ≠ .polling requestId deadline := by
    unfold awaitRequest
    split
    · rename_i stopped
      exact .inr ⟨by simp [waits, stopped], by simp⟩
    · rename_i live
      split
      · rename_i pending
        rcases handler.poll_cases handler.mRequestId (reading.started + 500) reading with
          ⟨done, rests⟩ | ⟨polls, early⟩
        · exact .inr ⟨by simp [waits, done], by simp [rests]⟩
        · rw [polls]
          exact .inl ⟨_, by simp [waits, pending, live], rfl, early, .inr ⟨fresh, rfl⟩⟩
      · rename_i idle
        exact .inr ⟨by simp [waits, idle], by simp⟩
  unfold run at taken
  split at taken
  · rename_i waiting
    obtain rfl := Option.some.inj taken
    exact await (by simp [keepsPolling, waiting])
  · rename_i requestId deadline polling
    split at taken
    · rename_i keeps
      obtain rfl := Option.some.inj taken
      simp only [keepsPolling, polling, Bool.and_eq_true, beq_iff_eq] at keeps
      obtain ⟨⟨live, pending⟩, rfl⟩ := keeps
      rcases handler.poll_cases handler.mRequestId deadline reading with
        ⟨done, rests⟩ | ⟨polls, early⟩
      · exact .inr ⟨by simp [waits, done], by simp [rests]⟩
      · rw [polls]
        exact .inl ⟨deadline, by simp [waits, pending, live], rfl, early, .inl polling⟩
    · rename_i fresh
      obtain rfl := Option.some.inj taken
      exact await (Bool.not_eq_true _ ▸ fresh)
  · cases taken

end UdfpsHandler

-----------------------------------------------------------------------------------------
-- The worker in time
-----------------------------------------------------------------------------------------

namespace TimedHandler

/-- Events of the handler, and time that passes between them. -/
inductive Event where
  | event (event : UdfpsHandler.Event)
  | elapse (millis : Nat)
deriving DecidableEq, Repr

/-- A stretch of the worker lasts to its last look at the clock. -/
def step (timed : TimedHandler) : Event → Option TimedHandler
  | .event (.run reading) =>
      if timed.now ≤ reading.started ∧ reading.started ≤ reading.checked then
        (timed.handler.run reading).map ({ handler := ·, now := reading.checked })
      else none
  | .event event => (timed.handler.step event).map ({ timed with handler := · })
  | .elapse millis => some { timed with now := timed.now + millis }

/-- When the request was made that the handler had last, and when the worker can go on. -/
structure Wait where
  since : Int
  due : Int
deriving DecidableEq, Repr

/-- A request notifies the worker; after a stretch it sleeps for 10 ms. -/
def noteWait (wait : Wait) (before : TimedHandler) (event : Event) (after : TimedHandler) : Wait :=
  match event with
  | .event (.call (.onUiReady waitForIllumination)) =>
      if !before.handler.mFingerDown && waitForIllumination then
        { since := before.now, due := before.now }
      else wait
  | .event (.run _) => { wait with due := after.now + 10 }
  | _ => wait

/-- While a request is pending the worker's stretches end by a latency after it could go on. -/
def Punctual (latency : Nat) (before : TimedHandler × Wait) (_ : Event)
    (after : TimedHandler × Wait)
    : Prop :=
  before.1.handler.waits = true → after.1.now ≤ before.2.due + latency

instance (latency : Nat) (before after : TimedHandler × Wait) (event : Event)
    : Decidable (Punctual latency before event after) :=
  inferInstanceAs (Decidable (_ → _))

/-- The worker is not much later than due, and a deadline that it polls to is not much later than
500 ms after the request.
-/
structure InTime (latency : Nat) (timed : TimedHandler) (wait : Wait) : Prop where
  down : timed.handler.mPending = true → timed.handler.mFingerDown = true
  since : wait.since ≤ timed.now
  due
    : timed.handler.waits = true
      → timed.now ≤ wait.due + latency ∧ wait.due < wait.since + latency + 510
  fresh
    : timed.handler.waits = true → timed.handler.keepsPolling = false → wait.due ≤ wait.since
  deadline
    : ∀ requestId deadline,
        timed.handler.worker = .polling requestId deadline
        → deadline ≤ wait.since + latency + 500

end TimedHandler

def timedMachine : Machine TimedHandler TimedHandler.Event where
  step := TimedHandler.step

namespace TimedHandler

variable {latency : Nat} {before after : TimedHandler} {wait : Wait}

/-- A request that is made now is in time: an older deadline only comes earlier. -/
theorem InTime.request (inTime : before.InTime latency wait) {handler : UdfpsHandler}
    (down : handler.mFingerDown = true) (worker : handler.worker = before.handler.worker)
    : InTime latency { before with handler } { since := before.now, due := before.now } where
  down _ := down
  since := Int.le_refl _
  due _ := by
    dsimp only
    omega
  fresh _ _ := Int.le_refl _
  deadline requestId deadline polling := by
    have older := inTime.deadline requestId deadline (worker.symm.trans polling)
    have since := inTime.since
    dsimp only
    omega

/-- Where nothing waits, only the order of the times and of the deadlines is left. -/
theorem InTime.of_idle (since : wait.since ≤ after.now) (idle : after.handler.waits = false)
    (down : after.handler.mPending = true → after.handler.mFingerDown = true)
    (deadline
      : ∀ requestId deadline,
          after.handler.worker = .polling requestId deadline
          → deadline ≤ wait.since + latency + 500)
    : InTime latency after wait where
  down := down
  since := since
  due waits := by
    rw [idle] at waits
    cases waits
  fresh waits := by
    rw [idle] at waits
    cases waits
  deadline := deadline

/-- A press that waits makes a request, and any other leaves nothing pending. -/
theorem InTime.onUiReady (inTime : before.InTime latency wait) (waitForIllumination : Bool)
    : InTime latency { before with handler := before.handler.onUiReady waitForIllumination }
        (if !before.handler.mFingerDown && waitForIllumination then
          { since := before.now, due := before.now }
        else wait) := by
  unfold UdfpsHandler.onUiReady
  cases down : before.handler.mFingerDown with
  | true => exact inTime
  | false =>
      have settled : before.handler.mPending = false :=
        Bool.eq_false_iff.mpr (fun pending => by simp [inTime.down pending] at down)
      cases waitForIllumination with
      | true => exact inTime.request rfl rfl
      | false =>
          refine .of_idle inTime.since ?_ (fun _ => rfl) inTime.deadline
          simp [UdfpsHandler.waits, UdfpsHandler.mSetFingerDown, settled]

/-- A stretch that goes on polling sleeps before its deadline; after any other nothing waits. -/
theorem InTime.run (inTime : before.InTime latency wait) {reading : UdfpsHandler.Reading}
    {handler : UdfpsHandler} (taken : before.handler.run reading = some handler)
    (started : before.now ≤ reading.started) (checked : reading.started ≤ reading.checked)
    (punctual : before.handler.waits = true → reading.checked ≤ wait.due + latency)
    : InTime latency { handler, now := reading.checked }
        { wait with due := reading.checked + 10 } := by
  have since := inTime.since
  rcases UdfpsHandler.waits_run taken with ⟨deadline, polls⟩ | ⟨idle, rests⟩
  · have onTime := punctual polls.waits
    have early := polls.early
    have bound : deadline ≤ wait.since + latency + 500 := by
      rcases polls.deadline with kept | ⟨fresh, set⟩
      · exact inTime.deadline _ _ kept
      · have first := inTime.fresh polls.waits fresh
        omega
    obtain rfl := polls.next
    have waits := polls.waits
    simp only [UdfpsHandler.waits, Bool.and_eq_true] at waits
    refine { down := inTime.down, since := ?_, due := ?_, fresh := ?_, deadline := ?_ }
    · dsimp only
      omega
    · intro _
      dsimp only
      omega
    · intro _ fresh
      simp only [UdfpsHandler.keepsPolling, waits, beq_self_eq_true, Bool.and_self,
        Bool.true_eq_false] at fresh
    · rintro requestId other same
      obtain ⟨-, rfl⟩ := UdfpsWorker.polling.inj same
      exact bound
  · refine .of_idle ?_ idle ?_ (fun requestId deadline polling => ?_)
    · dsimp only
      omega
    · rcases UdfpsHandler.stretch_run taken with away | pending | pending | pending
      · exact inTime.down
      · exact fun _ => inTime.down pending
      · exact fun _ => inTime.down pending
      · exact inTime.down
    · exact absurd polling (rests requestId deadline)

/-- Every step keeps the handler in time, by the calls of the session, the stretches of the worker,
and time.
-/
theorem InTime.step {event : Event} (inTime : before.InTime latency wait)
    (taken : timedMachine.step before event = some after)
    (punctual : Punctual latency (before, wait) event (after, noteWait wait before event after))
    : after.InTime latency (noteWait wait before event after) := by
  cases event with
  | elapse millis =>
      obtain rfl := Option.some.inj taken
      have since := inTime.since
      refine { inTime with since := ?_, due := fun waits => ⟨punctual waits, (inTime.due waits).2⟩ }
      dsimp only [noteWait]
      omega
  | event event =>
      cases event with
      | run reading =>
          simp only [timedMachine, TimedHandler.step, Option.ite_none_right_eq_some,
            Option.map_eq_some_iff] at taken
          obtain ⟨⟨started, checked⟩, handler, stretch, rfl⟩ := taken
          exact inTime.run stretch started checked punctual
      | destroy =>
          obtain rfl := Option.some.inj taken
          exact .of_idle inTime.since (by simp [UdfpsHandler.waits]) inTime.down inTime.deadline
      | call call =>
          cases call with
          | onUiReady waitForIllumination =>
              obtain rfl := Option.some.inj taken
              exact inTime.onUiReady waitForIllumination
          | onFingerUp =>
              obtain rfl := Option.some.inj taken
              refine .of_idle inTime.since ?_ ?_ inTime.deadline <;>
                simp [UdfpsHandler.waits, UdfpsHandler.onFingerUp, UdfpsHandler.mSetFingerDown]

end TimedHandler

/-- Whatever the illumination file reads as, a press waits for it for less than 510 ms and two
latencies, if the worker is late by one latency at most: by then the device was told of the finger,
the finger is up, or the worker has given up.
-/
theorem illumination_wait_ends (latency : Nat) (now : Int) (events : List TimedHandler.Event)
    (punctual
      : (timedMachine.observe TimedHandler.noteWait).Along (TimedHandler.Punctual latency)
          ({ now }, { since := now, due := now }) events)
    : (timedMachine.observe TimedHandler.noteWait).Always
        (fun seen =>
          seen.1.handler.waits = true → seen.1.now < seen.2.since + 510 + 2 * latency)
        ({ now }, { since := now, due := now }) events := by
  refine Machine.observe_always_of_invariant
    (fun seen => TimedHandler.InTime latency seen.1 seen.2) ?_ ?_ ?_ punctual
  · intro timed wait (inTime : timed.InTime latency wait) waits
    obtain ⟨late, bound⟩ := inTime.due waits
    dsimp only
    omega
  · intro before wait event after inTime taken rule
    exact inTime.step taken rule
  · exact .of_idle (Int.le_refl _) rfl (fun pending => by cases pending)
      (fun _ _ polling => by cases polling)

/-- Witness: a press that the panel never lights up for, with a worker that is late each time; it
gives up 815 ms after the press.
-/
theorem illumination_wait_ends_dark
    : (timedMachine.observe TimedHandler.noteWait).Always
        (fun seen =>
          seen.1.handler.waits = true → seen.1.now < seen.2.since + 510 + 2 * (300 : Nat))
        ({ now := 0 }, { since := 0, due := 0 })
        [.event (.call (.onUiReady true)), .elapse 200,
          .event (.run { started := 200, ready := some 0, checked := 210 }), .elapse 300,
          .event (.run { started := 510, ready := some 0, checked := 515 }), .elapse 300,
          .event (.run { started := 815, ready := some 0, checked := 815 }), .elapse 1000] :=
  illumination_wait_ends 300 0 _ (by decide +kernel)

end PongDevice.Fingerprint
