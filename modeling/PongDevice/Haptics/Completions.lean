import Mathlib.Data.List.Perm.Basic
import Mathlib.Algebra.Group.Nat.Defs
import PongDevice.Haptics.Vibrator

/-! The ends of vibrations. A call that comes with a callback starts a thread, which sleeps for the
length that the library answered and then calls `onComplete`. Nothing stops such a thread, also not
a call of `off`.
-/

namespace PongDevice.Haptics

open PongDevice.Transition

/-- A thread in `usleep`, by the number of the call that started it. -/
structure Sleeper where
  request : Nat
  wakes : Nat
deriving DecidableEq, Repr

/-- A call of `onComplete`, by the number of the call that its callback came with. -/
structure Completion where
  request : Nat
  time : Nat
deriving DecidableEq, Repr

/-- The service with the number of its calls so far, its detached threads, and what they have told
at a time in microseconds.
-/
structure TimedVibrator extends Vibrator where
  now : Nat := 0
  requests : Nat := 0
  sleepers : List Sleeper := []
  completed : List Completion := []

/-- The microseconds that `usleep` takes from a product of two `int`s. C++ leaves one that
overflows undefined, and the multiplication wraps around.
-/
def usleepMicros (product : Int) : Nat := (BitVec.ofInt 32 product).toNat

namespace TimedVibrator

/-- What the service as a whole does: a call, the end of a thread's sleep, or time. -/
inductive Event
  | call (call : Call)
  | complete (index : Nat)
  | elapse (micros : Nat)

/-- The argument of `usleep` in the thread that a call started, if it did. -/
def startedThread (before after : Vibrator) : Option Int :=
  if before.completions.length < after.completions.length then after.completions.head? else none

/-- A call returns at once, and leaves its thread behind. -/
def serve (state : TimedVibrator) (call : Call) : TimedVibrator :=
  let after := state.toVibrator.call call
  { state with
    toVibrator := after
    requests := state.requests + 1
    sleepers :=
      state.sleepers
        ++ ((startedThread state.toVibrator after).map (fun product =>
          { request := state.requests, wakes := state.now + usleepMicros product })).toList
  }

/-- A thread tells its client when its sleep is over. -/
def complete (state : TimedVibrator) (index : Nat) : Option TimedVibrator :=
  state.sleepers[index]?.bind (fun sleeper =>
    if sleeper.wakes ≤ state.now then
      some
        { state with
          sleepers := state.sleepers.eraseIdx index
          completed := state.completed ++ [{ request := sleeper.request, time := state.now }]
        }
    else
      none)

def step (state : TimedVibrator) : Event → Option TimedVibrator
  | .call call => some (state.serve call)
  | .complete index => state.complete index
  | .elapse micros => some { state with now := state.now + micros }

end TimedVibrator

def timedVibratorMachine : Machine TimedVibrator TimedVibrator.Event where
  step := TimedVibrator.step

-----------------------------------------------------------------------------------------
-- What a client is promised
-----------------------------------------------------------------------------------------

/-- The milliseconds after which the client of a call is to be told of its end: it came with a
callback, was answered with success, and lasts as long as the library said or `perform` returned.
-/
def Call.promises (vibrator : Vibrator) : Call → Option Int
  | .off _ | .setAmplitude _ _ => none
  | .on timeoutMs callback ret =>
      if callback = true ∧ (vibrator.on timeoutMs callback ret).2 = .ok then some ret else none
  | .perform effect es callback restored ret =>
      let (_, status, aidlReturn) := vibrator.perform effect es callback restored ret
      if callback = true ∧ status = .ok then aidlReturn else none

/-- Giving the amplitude again starts no thread. -/
@[simp]
theorem Vibrator.completions_restore (vibrator : Vibrator) (restored : Int)
    : (vibrator.restore restored).completions = vibrator.completions := by
  unfold restore aacVibraSetAmplitude issue
  split
  · split <;> rfl
  · rfl

/-- A call starts a thread exactly for a promise, which sleeps for as many thousands. -/
theorem startedThread_call (vibrator : Vibrator) (call : Call)
    : TimedVibrator.startedThread vibrator (vibrator.call call)
      = (call.promises vibrator).map (· * 1000) := by
  cases call with
  | off ret => simp [TimedVibrator.startedThread, Call.promises, Vibrator.call, Vibrator.off,
      Vibrator.issue]
  | setAmplitude tmp ret =>
      simp only [TimedVibrator.startedThread, Call.promises, Vibrator.call, Vibrator.setAmplitude,
        Vibrator.aacVibraSetAmplitude, Vibrator.issue]
      split <;> simp
  | on timeoutMs callback ret =>
      simp only [TimedVibrator.startedThread, Call.promises, Vibrator.call, Vibrator.on]
      by_cases refused : ret < 0
      · simp [refused, Vibrator.issue]
      · cases callback <;> simp [refused, Vibrator.complete, Vibrator.issue]
  | perform effect es callback restored ret =>
      simp only [TimedVibrator.startedThread, Call.promises, Vibrator.call]
      rcases vibrator.perform_cases effect es callback restored ret with
        ⟨_, same⟩ | ⟨_, id, strength, same⟩
      · simp [same]
      · by_cases refused : ret < 0
        · simp [same, refused, Vibrator.issue]
        · cases callback <;> simp [same, refused, Vibrator.complete, Vibrator.issue]

/-- A promise, by the number and the time of its call. -/
structure Promise where
  request : Nat
  time : Nat
  length : Int
deriving DecidableEq, Repr

/-- The promises so far. -/
def notePromise (promises : List Promise) (before : TimedVibrator) (event : TimedVibrator.Event)
    (_ : TimedVibrator)
    : List Promise :=
  match event with
  | .call call =>
      promises
        ++ ((call.promises before.toVibrator).map (fun length =>
          { request := before.requests, time := before.now, length })).toList
  | .complete _ | .elapse _ => promises

-----------------------------------------------------------------------------------------
-- Every promise is kept once
-----------------------------------------------------------------------------------------

/-- A thread sleeps for its promise, and tells it not before its time. -/
structure Promise.wakesAt (promise : Promise) (request time : Nat) : Prop where
  request : promise.request = request
  time : time = promise.time + usleepMicros (promise.length * 1000)

/-- Each promise is that of one thread, which sleeps or has told it. -/
structure Accounts (state : TimedVibrator) (promises : List Promise) : Prop where
  numbered : ∀ promise ∈ promises, promise.request < state.requests
  distinct : (promises.map Promise.request).Nodup
  same
    : (state.completed.map Completion.request ++ state.sleepers.map Sleeper.request).Perm
        (promises.map Promise.request)
  asleep
    : ∀ sleeper ∈ state.sleepers,
        ∃ promise ∈ promises, promise.wakesAt sleeper.request sleeper.wakes
  told
    : ∀ completion ∈ state.completed,
        ∃ promise ∈ promises, ∃ wakes ≤ completion.time, promise.wakesAt completion.request wakes

/-- A call that promises nothing keeps the accounts. -/
theorem Accounts.serve_none {state : TimedVibrator} {promises : List Promise} {call : Call}
    (accounts : Accounts state promises) (nothing : call.promises state.toVibrator = none)
    : Accounts (state.serve call) promises := by
  have started := startedThread_call state.toVibrator call
  rw [nothing, Option.map_none] at started
  exact {
    numbered := fun promise member => Nat.lt_succ_of_lt (accounts.numbered promise member)
    distinct := accounts.distinct
    same := by simpa [TimedVibrator.serve, started] using accounts.same
    asleep := by simpa [TimedVibrator.serve, started] using accounts.asleep
    told := accounts.told
  }

/-- A call that promises an end starts the thread for it. -/
theorem Accounts.serve_some {state : TimedVibrator} {promises : List Promise} {call : Call}
    {length : Int} (accounts : Accounts state promises)
    (promised : call.promises state.toVibrator = some length)
    : Accounts (state.serve call)
        (promises ++ [{ request := state.requests, time := state.now, length }]) := by
  have started := startedThread_call state.toVibrator call
  rw [promised, Option.map_some] at started
  have fresh : state.requests ∉ promises.map Promise.request := by
    intro member
    obtain ⟨promise, listed, same⟩ := List.mem_map.mp member
    exact Nat.lt_irrefl _ (same ▸ accounts.numbered promise listed)
  exact {
    numbered := by
      intro promise member
      rcases List.mem_append.mp member with earlier | last
      · exact Nat.lt_succ_of_lt (accounts.numbered promise earlier)
      · obtain rfl := List.mem_singleton.mp last
        exact Nat.lt_succ_self _
    distinct := by
      have whole := (List.nodup_cons.mpr ⟨fresh, accounts.distinct⟩).perm
        (List.perm_append_singleton _ _).symm
      simpa using whole
    same := by
      simpa [TimedVibrator.serve, started, List.append_assoc]
        using accounts.same.append_right [state.requests]
    asleep := by
      intro sleeper member
      simp only [TimedVibrator.serve, started, Option.map_some, Option.toList_some,
        List.mem_append, List.mem_singleton] at member
      rcases member with earlier | rfl
      · obtain ⟨promise, listed, wakes⟩ := accounts.asleep sleeper earlier
        exact ⟨promise, List.mem_append_left _ listed, wakes⟩
      · exact ⟨_, List.mem_append_right _ (List.mem_singleton_self _), rfl, rfl⟩
    told := by
      intro completion member
      obtain ⟨promise, listed, wakes⟩ := accounts.told completion member
      exact ⟨promise, List.mem_append_left _ listed, wakes⟩
  }

/-- A thread that tells the end of its sleep moves from the ones to the others. -/
theorem Accounts.complete {before after : TimedVibrator} {promises : List Promise} {index : Nat}
    (accounts : Accounts before promises) (taken : before.complete index = some after)
    : Accounts after promises := by
  obtain ⟨sleeper, found, woken⟩ := Option.bind_eq_some_iff.mp taken
  split at woken
  · rename_i due
    obtain rfl := Option.some.inj woken
    obtain ⟨inside, here⟩ := List.getElem?_eq_some_iff.mp found
    have moved : (sleeper :: before.sleepers.eraseIdx index).Perm before.sleepers :=
      here ▸ List.getElem_cons_eraseIdx_perm inside
    exact {
      numbered := accounts.numbered
      distinct := accounts.distinct
      same := by
        refine List.Perm.trans ?_ accounts.same
        simpa [List.append_assoc] using (moved.map Sleeper.request).append_left _
      asleep := fun other member =>
        accounts.asleep other ((List.eraseIdx_sublist _ _).subset member)
      told := by
        intro completion member
        rcases List.mem_append.mp member with earlier | last
        · exact accounts.told completion earlier
        · obtain rfl := List.mem_singleton.mp last
          obtain ⟨promise, listed, wakes⟩ :=
            accounts.asleep sleeper (List.mem_of_getElem? found)
          exact ⟨promise, listed, sleeper.wakes, due, wakes⟩
    }
  · cases woken

/-- Every step keeps the accounts. -/
theorem Accounts.step {before after : TimedVibrator} {promises : List Promise}
    {event : TimedVibrator.Event} (accounts : Accounts before promises)
    (taken : before.step event = some after)
    : Accounts after (notePromise promises before event after) := by
  cases event with
  | call call =>
      obtain rfl := Option.some.inj taken
      cases promised : call.promises before.toVibrator with
      | none => simpa [notePromise, promised] using accounts.serve_none promised
      | some length => simpa [notePromise, promised] using accounts.serve_some promised
  | complete index => exact accounts.complete taken
  | elapse micros =>
      obtain rfl := Option.some.inj taken
      exact { accounts with }

/-- What the clients see: no end is told twice, an end that is told was promised and is not told
before its length has passed, if its microseconds fit an `int`; and an end that was promised has
been told or is still told by its thread, whenever enough time has passed.
-/
structure KeepsPromises (state : TimedVibrator) (promises : List Promise) : Prop where
  once : (state.completed.map Completion.request).Nodup
  inTime
    : ∀ completion ∈ state.completed,
        ∃ promise ∈ promises,
          promise.request = completion.request
          ∧ (promise.length * 1000 < 2 ^ 31
            → (promise.time : Int) + promise.length * 1000 ≤ completion.time)
  kept
    : ∀ promise ∈ promises,
        promise.request ∈ state.completed.map Completion.request
        ∨ ∃ index micros,
            ∀ longer ≥ micros,
              ∃ later,
                timedVibratorMachine.run state [.elapse longer, .complete index] = some later
                ∧ promise.request ∈ later.completed.map Completion.request

/-- A length that fits is slept for. -/
theorem le_usleepMicros {product : Int} (fits : product < 2 ^ 31)
    : product ≤ usleepMicros product := by
  rw [usleepMicros, BitVec.toNat_ofInt]
  omega

theorem Accounts.keepsPromises {state : TimedVibrator} {promises : List Promise}
    (accounts : Accounts state promises)
    : KeepsPromises state promises where
  once := (List.nodup_append.mp (accounts.same.nodup_iff.mpr accounts.distinct)).1
  inTime := by
    intro completion member
    obtain ⟨promise, listed, wakes, due, sleeps⟩ := accounts.told completion member
    refine ⟨promise, listed, sleeps.request, fun fits => ?_⟩
    have slept := le_usleepMicros fits
    have woken := sleeps.time
    omega
  kept := by
    intro promise listed
    have accounted :=
      accounts.same.mem_iff.mpr (List.mem_map.mpr ⟨promise, listed, rfl⟩)
    rcases List.mem_append.mp accounted with told | asleep
    · exact .inl told
    · obtain ⟨sleeper, member, same⟩ := List.mem_map.mp asleep
      obtain ⟨index, found⟩ := List.getElem?_of_mem member
      refine .inr ⟨index, sleeper.wakes, fun longer enough => ?_⟩
      have due : sleeper.wakes ≤ state.now + longer := Nat.le_trans enough (Nat.le_add_left _ _)
      refine ⟨_, by
        simp only [Machine.run, timedVibratorMachine, TimedVibrator.step, TimedVibrator.complete,
          found, Option.bind_some, if_pos due]; rfl, ?_⟩
      simp [same]

example
    : (timedVibratorMachine.run {}
        [.call (.on 20 true 20), .call (.off 0), .elapse 20000, .complete 0]).map
          TimedVibrator.completed
      = some [{ request := 0, time := 20000 }] := by
  decide

end PongDevice.Haptics
