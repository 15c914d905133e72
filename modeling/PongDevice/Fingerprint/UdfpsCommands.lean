import Mathlib.Data.List.Chain
import PongDevice.Fingerprint.UdfpsHandler

/-! The finger commands follow the presses: a finger goes down once for each press, while it
lasts, and up with its end. The 64-bit request id tells a wait from those of later presses
until it wraps around.
-/

namespace PongDevice.Fingerprint

open Transition

/-- What the calls say of the presses so far: how many began and ended, whether one is down
and whether the last one waits for illumination, and the presses and releases there were
when the worker's last wait started.
-/
structure PressHistory where
  presses : Nat := 0
  releases : Nat := 0
  down : Bool := false
  waits : Bool := false
  wait : Nat × Nat := (0, 0)

/-- A press begins with an `onUiReady` while none is down and ends with `onFingerUp`. -/
def PressHistory.note (history : PressHistory) (before : UdfpsHandler)
    (event : UdfpsHandler.Event) (_ : UdfpsHandler)
    : PressHistory :=
  match event with
  | .call (.onUiReady waitForIllumination) =>
      if history.down then
        history
      else
        { history with
          presses := history.presses + 1
          down := true
          waits := waitForIllumination
        }
  | .call .onFingerUp => { history with releases := history.releases + 1, down := false }
  | .run _ =>
      if before.keepsPolling then history
      else { history with wait := (history.presses, history.releases) }
  | .destroy => history

/-- The handler together with its presses. -/
def pressMachine : Machine (UdfpsHandler × PressHistory) UdfpsHandler.Event :=
  udfpsMachine.observe PressHistory.note

-----------------------------------------------------------------------------------------
-- What the commands owe to the presses
-----------------------------------------------------------------------------------------

/-- Two finger-downs have a finger-up between them, the last command after a release is up
until the next press, and a request is pending only during a press.
-/
structure FollowsPresses (state : UdfpsHandler × PressHistory) : Prop where
  alternates
    : ∀ later between earlier,
      state.1.commands = later ++ true :: (between ++ true :: earlier) → false ∈ between
  released
    : state.2.down = false → 0 < state.2.releases → state.1.commands.head? = some false
  pending : state.1.mPending = true → state.1.mFingerDown = true

/-- A finger-down was sent in the step. -/
def SendsDown (before after : UdfpsHandler × PressHistory) : Prop :=
  before.1.commands.count true < after.1.commands.count true

/-- A finger-down is sent while its press is down, and by the worker only for a press that
waits for illumination.
-/
def WhilePressed (before : UdfpsHandler × PressHistory) (event : UdfpsHandler.Event)
    (after : UdfpsHandler × PressHistory)
    : Prop :=
  SendsDown before after
  → after.2.down = true ∧ ∀ reading, event = .run reading → after.2.waits = true

/-- A wait that sends a finger-down was started for the press that is down. -/
def FiresForItsPress (before : UdfpsHandler × PressHistory) (event : UdfpsHandler.Event)
    (after : UdfpsHandler × PressHistory)
    : Prop :=
  ∀ reading, event = .run reading
  → SendsDown before after
  → after.2.wait.1 = after.2.presses

/-- A wait that sends a finger-down was started for the press that is down, unless 2^64 or
more presses and releases came since it started.
-/
def FiresForItsPressUntilWrap (before : UdfpsHandler × PressHistory)
    (event : UdfpsHandler.Event) (after : UdfpsHandler × PressHistory)
    : Prop :=
  after.2.presses + after.2.releases - (after.2.wait.1 + after.2.wait.2) < 2 ^ 64
  → FiresForItsPress before event after

-----------------------------------------------------------------------------------------
-- What one stretch of the worker can do
-----------------------------------------------------------------------------------------

/-- Every change that a stretch of the worker can make: it only changes where the worker
waits, it drops or answers the pending request, or it goes on polling for the request id of
the moment.
-/
inductive UdfpsHandler.Stretch (before : UdfpsHandler) : UdfpsHandler → Prop where
  | rests {worker} (away : ∀ requestId deadline, worker ≠ .polling requestId deadline)
    : Stretch before { before with worker }
  | drops (pending : before.mPending = true)
    : Stretch before { before with mPending := false, worker := .waiting }
  | fires (pending : before.mPending = true)
    : Stretch before
        { before with
          mPending := false
          worker := .waiting
          commands := true :: before.commands
        }
  | polls {deadline} (pending : before.mPending = true)
    : Stretch before { before with worker := .polling before.mRequestId deadline }

namespace UdfpsHandler

/-- The inner loop's body for the request id of the moment makes one of the steps. -/
theorem stretch_poll (handler : UdfpsHandler) (deadline : Int) (reading : Reading)
    (pending : handler.mPending = true)
    : handler.Stretch (handler.poll handler.mRequestId deadline reading) := by
  unfold poll
  split
  · exact .drops pending
  · split
    · exact .fires pending
    · split
      · exact .drops pending
      · exact .polls pending

/-- The outer loop starts a wait for the request id of the moment, or rests. -/
theorem stretch_awaitRequest (handler : UdfpsHandler) (reading : Reading)
    : handler.Stretch (handler.awaitRequest reading) := by
  unfold awaitRequest
  split
  · exact .rests nofun
  · split
    · rename_i pending
      exact handler.stretch_poll _ reading pending
    · exact .rests nofun

/-- A worker that keeps polling does so for the request id of the moment. -/
theorem keepsPolling_eq_true {handler : UdfpsHandler} (keeps : handler.keepsPolling = true)
    : handler.mPending = true
      ∧ ∃ deadline, handler.worker = .polling handler.mRequestId deadline := by
  unfold keepsPolling at keeps
  split at keeps
  · rename_i requestId deadline polling
    simp only [Bool.and_eq_true, beq_iff_eq] at keeps
    obtain ⟨⟨_, pending⟩, rfl⟩ := keeps
    exact ⟨pending, deadline, polling⟩
  · cases keeps

theorem stretch_run {handler next : UdfpsHandler} {reading : Reading}
    (taken : handler.run reading = some next)
    : handler.Stretch next := by
  unfold run at taken
  split at taken
  · obtain rfl := Option.some.inj taken
    exact handler.stretch_awaitRequest reading
  · rename_i requestId deadline polling
    split at taken
    · rename_i keeps
      obtain ⟨pending, _, same⟩ := keepsPolling_eq_true keeps
      obtain ⟨rfl, _⟩ := UdfpsWorker.polling.inj (polling.symm.trans same)
      obtain rfl := Option.some.inj taken
      exact handler.stretch_poll deadline reading pending
    · obtain rfl := Option.some.inj taken
      exact handler.stretch_awaitRequest reading
  · cases taken

end UdfpsHandler

/-- The members agree with the presses, no finger is down unless a press that is down sent
it, and the request ids count presses and releases modulo 2^64.
-/
structure TracksPresses (handler : UdfpsHandler) (history : PressHistory) : Prop where
  down : handler.mFingerDown = history.down
  pending : handler.mPending = true → history.down = true ∧ history.waits = true
  up
    : history.down = false ∨ handler.mPending = true → handler.commands.head? ≠ some true
  released
    : history.down = false → 0 < history.releases → handler.commands.head? = some false
  alternates
    : handler.commands.IsChain (fun later earlier => ¬(later = true ∧ earlier = true))
  requests : handler.mRequestId = .ofNat 64 (history.presses + history.releases)
  started : history.wait.1 ≤ history.presses ∧ history.wait.2 ≤ history.releases
  polling
    : ∀ requestId deadline,
      handler.worker = .polling requestId deadline
      → requestId = .ofNat 64 (history.wait.1 + history.wait.2)

namespace TracksPresses

variable {handler next : UdfpsHandler} {history : PressHistory}

/-- A chain without two finger-downs in a row has a finger-up between any two of them: what
follows the first one is not a finger-down, so it is a finger-up.
-/
theorem up_between {between earlier : List Bool}
    (chain
      : (true :: (between ++ true :: earlier)).IsChain
          (fun later earlier => ¬(later = true ∧ earlier = true)))
    : false ∈ between := by
  cases between with
  | nil =>
      rw [List.nil_append, List.isChain_cons_cons] at chain
      exact absurd ⟨rfl, rfl⟩ chain.1
  | cons command rest =>
      cases command with
      | false => exact List.mem_cons_self
      | true =>
          rw [List.cons_append, List.isChain_cons_cons] at chain
          exact absurd ⟨rfl, rfl⟩ chain.1

/-- A finger-down after anything but a finger-down keeps the commands alternating. -/
theorem chain_down (sound : TracksPresses handler history)
    (last : handler.commands.head? ≠ some true)
    : (true :: handler.commands).IsChain
        (fun later earlier => ¬(later = true ∧ earlier = true)) := by
  have alternates := sound.alternates
  cases commands : handler.commands with
  | nil => exact .singleton true
  | cons command rest =>
      rw [commands] at alternates last
      refine List.isChain_cons_cons.mpr ⟨?_, alternates⟩
      intro both
      exact last (congrArg some both.2)

/-- A worker that keeps polling starts no wait. -/
theorem note_of_keepsPolling (history : PressHistory) (keeps : handler.keepsPolling = true)
    (reading : _) (next : UdfpsHandler)
    : history.note handler (.run reading) next = history :=
  if_pos keeps

/-- The wait that a stretch belongs to was started with the request id of the moment: it is
the one in progress while the worker keeps polling, else one that starts now.
-/
theorem wait_requestId (sound : TracksPresses handler history) (next : UdfpsHandler)
    (reading : _)
    : handler.mRequestId
      = .ofNat 64 ((history.note handler (.run reading) next).wait.1
          + (history.note handler (.run reading) next).wait.2) := by
  simp only [PressHistory.note]
  split
  · rename_i keeps
    obtain ⟨_, deadline, polling⟩ := UdfpsHandler.keepsPolling_eq_true keeps
    exact sound.polling _ _ polling
  · exact sound.requests

/-- A wait was started after no more presses and releases than there are. -/
theorem wait_le (sound : TracksPresses handler history) (next : UdfpsHandler) (reading : _)
    : (history.note handler (.run reading) next).wait.1 ≤ history.presses
      ∧ (history.note handler (.run reading) next).wait.2 ≤ history.releases := by
  simp only [PressHistory.note]
  split
  · exact sound.started
  · exact ⟨le_refl _, le_refl _⟩

/-- A stretch changes none of what the history says of the presses. -/
theorem note_run (history : PressHistory) (handler next : UdfpsHandler) (reading : _)
    : (history.note handler (.run reading) next).presses = history.presses
      ∧ (history.note handler (.run reading) next).releases = history.releases
      ∧ (history.note handler (.run reading) next).down = history.down
      ∧ (history.note handler (.run reading) next).waits = history.waits := by
  simp only [PressHistory.note]
  split <;> exact ⟨rfl, rfl, rfl, rfl⟩

/-- The request id counts one more. -/
theorem requestId_succ (count : Nat)
    : (BitVec.ofNat 64 count) + 1 = .ofNat 64 (count + 1) :=
  (BitVec.ofNat_add count 1).symm

/-- A press that begins keeps the invariant: a command it sends comes after none or after a
finger-up, and a request that it leaves pending waits for its command.
-/
theorem onUiReady (sound : TracksPresses handler history) (waitForIllumination : Bool)
    : TracksPresses (handler.onUiReady waitForIllumination)
        (history.note handler (.call (.onUiReady waitForIllumination)) next) := by
  by_cases down : history.down = true
  · simp only [UdfpsHandler.onUiReady, PressHistory.note, sound.down, down, if_true]
    exact sound
  have idle := Bool.eq_false_iff.mpr down
  have last := sound.up (.inl idle)
  have counted : handler.mRequestId + 1
      = .ofNat 64 (history.presses + 1 + history.releases) := by
    rw [sound.requests, requestId_succ, Nat.add_right_comm]
  have started := sound.started
  have notPending : handler.mPending = false := by
    by_contra pending
    exact down (sound.pending (Bool.not_eq_false _ ▸ pending)).1
  simp only [UdfpsHandler.onUiReady, PressHistory.note, sound.down, idle, Bool.false_eq_true,
    if_false]
  cases waitForIllumination with
  | true =>
      exact {
        down := rfl
        pending := fun _ => ⟨rfl, rfl⟩
        up := fun _ => last
        released := nofun
        alternates := sound.alternates
        requests := counted
        started := ⟨by dsimp only; omega, started.2⟩
        polling := sound.polling
      }
  | false =>
      exact {
        down := rfl
        pending := fun pending => absurd (notPending.symm.trans pending) Bool.false_ne_true
        up := by
          intro up
          rcases up with idle | pending
          · cases idle
          · exact absurd (notPending.symm.trans pending) Bool.false_ne_true
        released := nofun
        alternates := sound.chain_down last
        requests := counted
        started := ⟨by dsimp only; omega, started.2⟩
        polling := sound.polling
      }

/-- The end of a press keeps the invariant: its command is up and no request is left. -/
theorem onFingerUp (sound : TracksPresses handler history)
    : TracksPresses handler.onFingerUp (history.note handler (.call .onFingerUp) next) := by
  have started := sound.started
  exact {
    down := rfl
    pending := nofun
    up := fun _ => by simp [UdfpsHandler.onFingerUp, UdfpsHandler.mSetFingerDown]
    released := fun _ _ => rfl
    alternates := by
      have alternates := sound.alternates
      simp only [UdfpsHandler.onFingerUp, UdfpsHandler.mSetFingerDown]
      cases commands : handler.commands with
      | nil => exact .singleton false
      | cons command rest =>
          rw [commands] at alternates
          exact List.isChain_cons_cons.mpr ⟨fun both => Bool.false_ne_true both.1, alternates⟩
    requests := by
      simp only [UdfpsHandler.onFingerUp, UdfpsHandler.mSetFingerDown, PressHistory.note]
      rw [sound.requests, requestId_succ, Nat.add_assoc]
    started := ⟨started.1, by simp only [PressHistory.note]; omega⟩
    polling := sound.polling
  }

/-- A stretch of the worker keeps the invariant: it commands a finger down only for a pending
request, whose press is down and has had no command yet.
-/
theorem run (sound : TracksPresses handler history) {reading : _}
    (taken : handler.run reading = some next)
    : TracksPresses next (history.note handler (.run reading) next) := by
  obtain ⟨presses, releases, down, waits⟩ := note_run history handler next reading
  have id := sound.wait_requestId next reading
  have started := sound.wait_le next reading
  have requests : handler.mRequestId
      = .ofNat 64 ((history.note handler (.run reading) next).presses
        + (history.note handler (.run reading) next).releases) := by
    rw [presses, releases]
    exact sound.requests
  rw [← presses, ← releases] at started
  have tracked := sound.down.trans down.symm
  have pressed : handler.mPending = true
      → (history.note handler (.run reading) next).down = true
        ∧ (history.note handler (.run reading) next).waits = true := by
    rw [down, waits]
    exact sound.pending
  have up := sound.up
  have released := sound.released
  rw [← down] at up released
  rw [← releases] at released
  generalize history.note handler (.run reading) next = noted at *
  cases UdfpsHandler.stretch_run taken with
  | rests away =>
      exact {
        down := tracked
        pending := pressed
        up
        released
        alternates := sound.alternates
        requests
        started
        polling := fun requestId deadline polling => absurd polling (away requestId deadline)
      }
  | drops pending =>
      exact {
        down := tracked
        pending := nofun
        up := fun _ => up (.inr pending)
        released
        alternates := sound.alternates
        requests
        started
        polling := nofun
      }
  | fires pending =>
      obtain ⟨isDown, _⟩ := pressed pending
      exact {
        down := tracked
        pending := nofun
        up := by
          intro idle
          rcases idle with idle | none
          · exact absurd (isDown.symm.trans idle) Bool.true_eq_false.mp
          · cases none
        released := fun idle => absurd (isDown.symm.trans idle) Bool.true_eq_false.mp
        alternates := sound.chain_down (up (.inr pending))
        requests
        started
        polling := nofun
      }
  | polls pending =>
      exact {
        down := tracked
        pending := pressed
        up
        released
        alternates := sound.alternates
        requests
        started
        polling := by
          intro requestId deadline polling
          obtain ⟨rfl, _⟩ := UdfpsWorker.polling.inj polling
          exact id
      }

/-- Every event keeps the invariant. -/
theorem step {event : UdfpsHandler.Event} (sound : TracksPresses handler history)
    (taken : udfpsMachine.step handler event = some next)
    : TracksPresses next (history.note handler event next) := by
  cases event with
  | call call =>
      cases call with
      | onUiReady waitForIllumination =>
          obtain rfl := Option.some.inj taken
          exact sound.onUiReady waitForIllumination
      | onFingerUp =>
          obtain rfl := Option.some.inj taken
          exact sound.onFingerUp
  | run reading => exact sound.run taken
  | destroy =>
      obtain rfl := Option.some.inj taken
      exact { sound with }

/-- The invariant is all that the commands owe to the presses. -/
theorem followsPresses (sound : TracksPresses handler history)
    : FollowsPresses (handler, history) := by
  refine ⟨?_, sound.released, fun pending => sound.down.trans (sound.pending pending).1⟩
  intro later between earlier split
  have alternates := sound.alternates
  have commands : handler.commands = _ := split
  rw [commands] at alternates
  exact up_between alternates.right_of_append

/-- What an event sends is sent for the press that is down, and by the worker for a wait that
was started with that press's request id.
-/
theorem sendsDown {event : UdfpsHandler.Event} (sound : TracksPresses handler history)
    (taken : udfpsMachine.step handler event = some next)
    : WhilePressed (handler, history) event (next, history.note handler event next)
      ∧ FiresForItsPressUntilWrap (handler, history) event
        (next, history.note handler event next) := by
  cases event with
  | call call =>
      refine ⟨?_, nofun⟩
      intro sent
      refine ⟨?_, nofun⟩
      cases call with
      | onUiReady waitForIllumination =>
          simp only [PressHistory.note]
          split
          · assumption
          · rfl
      | onFingerUp =>
          obtain rfl := Option.some.inj taken
          simp [SendsDown, UdfpsHandler.onFingerUp, UdfpsHandler.mSetFingerDown] at sent
  | destroy =>
      refine ⟨?_, nofun⟩
      intro sent
      obtain rfl := Option.some.inj taken
      exact absurd sent (lt_irrefl _)
  | run reading =>
      obtain ⟨presses, releases, down, waits⟩ := note_run history handler next reading
      have id := sound.wait_requestId next reading
      have started := sound.wait_le next reading
      cases UdfpsHandler.stretch_run taken with
      | fires pending =>
          obtain ⟨isDown, isWaiting⟩ := sound.pending pending
          refine ⟨fun _ => ⟨down.trans isDown, fun _ _ => waits.trans isWaiting⟩, ?_⟩
          intro recent _ _ _
          -- equal ids less than 2^64 changes apart are of the same press
          have equal := congrArg BitVec.toNat (sound.requests.symm.trans id)
          simp only [BitVec.toNat_ofNat] at equal
          dsimp only at recent ⊢
          omega
      | rests | drops | polls =>
          exact ⟨fun sent => absurd sent (lt_irrefl _),
            fun _ _ _ sent => absurd sent (lt_irrefl _)⟩

end TracksPresses

-----------------------------------------------------------------------------------------
-- Every run, and the run that wraps the request id around
-----------------------------------------------------------------------------------------

/-- In a run of the handler, the commands follow the presses, each finger-down is sent while
its press is down, and a wait fires only for the press it was started for as long as fewer
than 2^64 presses and releases come after it.
Witness: the invariant `TracksPresses`, kept by every event.
-/
theorem commands_follow_presses (events : List UdfpsHandler.Event)
    : pressMachine.Always FollowsPresses ({}, {}) events
      ∧ pressMachine.Along WhilePressed ({}, {}) events
      ∧ pressMachine.Along FiresForItsPressUntilWrap ({}, {}) events := by
  have new : TracksPresses {} {} := {
    down := rfl
    pending := nofun
    up := nofun
    released := nofun
    alternates := .nil
    requests := rfl
    started := ⟨le_refl _, le_refl _⟩
    polling := nofun
  }
  have assumed : pressMachine.Along (fun _ _ _ => True) ({}, {}) events :=
    Machine.along_true _ _
  refine ⟨?_, ?_, ?_⟩
  · refine Machine.observe_always_of_invariant (fun state => TracksPresses state.1 state.2) ?_ ?_
      new assumed
    · exact fun handler history sound => sound.followsPresses
    · exact fun before history event after sound taken _ => sound.step taken
  · refine Machine.observe_along_of_invariant (fun state => TracksPresses state.1 state.2) ?_
      new assumed
    intro before history event after sound taken _
    exact ⟨(sound.sendsDown taken).1, sound.step taken⟩
  · refine Machine.observe_along_of_invariant (fun state => TracksPresses state.1 state.2) ?_
      new assumed
    intro before history event after sound taken _
    exact ⟨(sound.sendsDown taken).2, sound.step taken⟩

/-- Releases, each followed by a press that waits for illumination. -/
def pressAgain : Nat → List UdfpsHandler.Event
  | 0 => []
  | count + 1 => pressAgain count ++ [.call .onFingerUp, .call (.onUiReady true)]

/-- A handler whose worker polls for its first press, `count` releases and presses later. -/
def pressedAgain (count : Nat) : UdfpsHandler × PressHistory :=
  ({
    mFingerDown := true
    mPending := true
    mRequestId := .ofNat 64 (1 + 2 * count)
    worker := .polling 1 500
    commands := .replicate count false
  },
  {
    presses := count + 1
    releases := count
    down := true
    waits := true
    wait := (1, 0)
  })

/-- The worker sleeps through releases and presses while the request id counts them, by
induction over their number.
-/
theorem run_pressAgain (count : Nat)
    : pressMachine.run (pressedAgain 0) (pressAgain count) = some (pressedAgain count) := by
  induction count with
  | zero => rfl
  | succ count ih =>
      rw [pressAgain, Machine.run_append, ih]
      simp [pressedAgain, Machine.run, pressMachine, Machine.observe, udfpsMachine,
        UdfpsHandler.step, UdfpsHandler.onFingerUp, UdfpsHandler.onUiReady,
        UdfpsHandler.mSetFingerDown, PressHistory.note, List.replicate_succ]
      exact (congrArg (· + 1) (TracksPresses.requestId_succ _)).trans
        (TracksPresses.requestId_succ _)

/-- A press whose illumination is not ready, `count` releases and presses between two polls,
and then it is ready.
-/
def pollAgain (count : Nat) : List UdfpsHandler.Event :=
  .call (.onUiReady true)
    :: .run { started := 0, ready := some 0, checked := 0 }
    :: (pressAgain count ++ [.run { started := 10, ready := some 1, checked := 10 }])

/-- Once the request id has come back to that of the first press, the worker's poll fires
for a press that its wait was not started for.
-/
theorem fires_of_wrapped {count : Nat} (wrapped : BitVec.ofNat 64 (1 + 2 * count) = 1)
    (later : count ≠ 0)
    : ¬pressMachine.Along FiresForItsPress ({}, {}) (pollAgain count) := by
  intro along
  have asleep := ((along _ rfl).2 _ rfl).2
  have polled := asleep.of_append (run_pressAgain count)
  have keeps : (pressedAgain count).1.keepsPolling = true := by
    simp [pressedAgain, UdfpsHandler.keepsPolling, wrapped]
  have taken : udfpsMachine.step (pressedAgain count).1
      (.run { started := 10, ready := some 1, checked := 10 })
        = some ((pressedAgain count).1.poll 1 500
          { started := 10, ready := some 1, checked := 10 }) := by
    simp only [udfpsMachine, UdfpsHandler.step, UdfpsHandler.run, keeps, if_true]
    rfl
  have noted := TracksPresses.note_of_keepsPolling (pressedAgain count).2 keeps
    { started := 10, ready := some 1, checked := 10 }
    ((pressedAgain count).1.poll 1 500 { started := 10, ready := some 1, checked := 10 })
  have fires := (polled (_, _) (Machine.observe_step_eq_some.mpr ⟨taken, noted⟩)).1
  have same : 1 = count + 1 :=
    fires _ rfl (Nat.lt_of_lt_of_eq (Nat.lt_succ_self _) List.count_cons_self.symm)
  omega

/-- With 2^63 releases and presses between two polls, the wait that was started for the first
press fires for the last one.
-/
theorem fires_for_another_press_after_wrap
    : ¬pressMachine.Along FiresForItsPress ({}, {}) (pollAgain (2 ^ 63)) :=
  fires_of_wrapped (by decide +kernel) (by decide +kernel)

end PongDevice.Fingerprint
