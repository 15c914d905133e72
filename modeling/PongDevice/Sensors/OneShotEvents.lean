import Mathlib.Data.List.Nodup
import PongDevice.Sensors.OneShotSensor

/-! When a one-shot sensor posts its event. Calls may come while its thread polls without the
lock, and the thread goes by the poll alone when it has the lock again.
-/

namespace PongDevice.Sensors

open Transition

/-- The last calls since the thread has tested its loop. -/
structure GapCalls where
  activate : Option Bool := none
  setOperationMode : Option OperationMode := none
deriving DecidableEq, Repr

/-- The sensor when it posts an event: whether it is enabled, its mode, the last call of
`activate`, and how many calls had enabled it.
-/
structure PostMoment where
  mIsEnabled : Bool
  mMode : OperationMode
  activated : Option Bool
  enablings : Nat
deriving DecidableEq, Repr

/-- The history of the calls and of the posts. -/
structure OneShotHistory where
  activated : Option Bool := none
  enablings : Nat := 0
  gap : GapCalls := {}
  posts : List PostMoment := []

/-- A call enables a sensor that is not enabled. The thread ends a gap, or begins one, whenever
it takes the lock.
-/
def noteOneShot {ρ μ : Type} (history : OneShotHistory) (before : OneShotSensor μ)
    (action : OneShotSensor.Action ρ) (after : OneShotSensor μ)
    : OneShotHistory :=
  match action with
  | .activate enable =>
      { history with
        activated := some enable
        enablings :=
          if before.mIsEnabled = false ∧ enable = true then history.enablings + 1
          else history.enablings
        gap := { history.gap with activate := some enable }
      }
  | .setOperationMode mode =>
      { history with gap := { history.gap with setOperationMode := some mode } }
  | .lock => { history with gap := {} }
  | .poll _ => history
  | .dispatch _ =>
      { history with
        gap := {}
        posts :=
          if before.posted.length < after.posted.length then
            history.posts
            ++ [{
              mIsEnabled := before.mIsEnabled
              mMode := before.mMode
              activated := history.activated
              enablings := history.enablings
            }]
          else
            history.posts
      }

/-- Every event is posted while the sensor is enabled in its normal mode and the last call of
`activate` has enabled it, and no two events belong to one enabling.
-/
def OneShotHistory.PostsOnceEnabled (history : OneShotHistory) : Prop :=
  (∀ post ∈ history.posts,
    post.mIsEnabled = true ∧ post.mMode = .normal ∧ post.activated = some true)
  ∧ (history.posts.map (·.enablings)).Nodup

instance (history : OneShotHistory) : Decidable history.PostsOnceEnabled :=
  inferInstanceAs (Decidable ((∀ _ ∈ _, _ ∧ _ ∧ _) ∧ List.Nodup _))

/-- The condition on a step: when the thread finds the screen touched, the last call of each kind
since its loop's test, if there is one, neither disabled the sensor nor left the normal mode.
-/
def undisturbed {ρ μ : Type} (touch : TouchTest ρ μ) (sensor : OneShotSensor μ)
    (history : OneShotHistory)
    : OneShotSensor.Action ρ → Prop
  | .dispatch reading =>
      sensor.touched touch reading = true
      → history.gap.activate ≠ some false
        ∧ history.gap.setOperationMode ≠ some .dataInjection
  | _ => True

-----------------------------------------------------------------------------------------
-- What the calls of a gap leave
-----------------------------------------------------------------------------------------

/-- The posts are as they should be, later enablings post on their own, and in a gap the sensor
is what the calls since the test have made it.
-/
structure OneShotWatched {μ : Type} (sensor : OneShotSensor μ) (history : OneShotHistory)
    : Prop where
  posts : history.PostsOnceEnabled
  earlier : ∀ post ∈ history.posts, post.enablings ≤ history.enablings
  enabled
    : sensor.mIsEnabled = true
      → history.activated = some true
        ∧ ∀ post ∈ history.posts, post.enablings < history.enablings
  gap
    : sensor.inGap = true
      → sensor.mIsEnabled = history.gap.activate.getD true
        ∧ sensor.mMode = history.gap.setOperationMode.getD .normal

namespace OneShotWatched

variable {ρ μ : Type} {touch : TouchTest ρ μ} {before after : OneShotSensor μ}
  {history : OneShotHistory}

/-- In a gap, the sensor is enabled in its normal mode exactly when no last call says else. -/
theorem undisturbed_iff (watched : OneShotWatched before history) (inGap : before.inGap = true)
    : before.mIsEnabled = true ∧ before.mMode = .normal
      ↔ history.gap.activate ≠ some false
        ∧ history.gap.setOperationMode ≠ some .dataInjection := by
  obtain ⟨enabled, mode⟩ := watched.gap inGap
  rw [enabled, mode]
  refine and_congr ?_ ?_
  · cases history.gap.activate with
    | none => simp
    | some enable => cases enable <;> simp
  · cases history.gap.setOperationMode with
    | none => simp
    | some mode => cases mode <;> simp

/-- A call of `activate` counts as an enabling where it enables. -/
theorem activate (watched : OneShotWatched before history) (enable : Bool)
    : OneShotWatched (before.activate enable)
        (noteOneShot history before (.activate enable : OneShotSensor.Action ρ)
          (before.activate enable)) := by
  obtain ⟨waitPipe, same⟩ := before.activate_frame enable
  rw [same]
  have grown :
      history.enablings
      ≤ if before.mIsEnabled = false ∧ enable = true then history.enablings + 1
        else history.enablings := by
    split <;> omega
  exact {
    posts := watched.posts
    earlier := fun post member => Nat.le_trans (watched.earlier post member) grown
    enabled := by
      intro enabled
      obtain rfl : enable = true := enabled
      refine ⟨rfl, ?_⟩
      intro post member
      dsimp only [noteOneShot]
      cases was : before.mIsEnabled with
      | true => simpa using (watched.enabled was).2 post member
      | false => simpa using Nat.lt_succ_of_le (watched.earlier post member)
    gap := fun inGap => ⟨rfl, (watched.gap inGap).2⟩
  }

/-- A call of `setOperationMode` changes the mode only. -/
theorem setOperationMode (watched : OneShotWatched before history) (mode : OperationMode)
    : OneShotWatched (before.setOperationMode mode)
        (noteOneShot history before (.setOperationMode mode : OneShotSensor.Action ρ)
          (before.setOperationMode mode)) := by
  obtain ⟨waitPipe, same⟩ := before.setOperationMode_frame mode
  rw [same]
  exact {
    posts := watched.posts
    earlier := watched.earlier
    enabled := watched.enabled
    gap := fun inGap => ⟨(watched.gap inGap).1, rfl⟩
  }

/-- The test of the loop begins a gap without calls. -/
theorem loop {sensor : OneShotSensor μ} (posts : history.PostsOnceEnabled)
    (earlier : ∀ post ∈ history.posts, post.enablings ≤ history.enablings)
    (enabled
      : sensor.mIsEnabled = true
        → history.activated = some true
          ∧ ∀ post ∈ history.posts, post.enablings < history.enablings)
    : OneShotWatched sensor.loop { history with gap := {} } where
  posts := posts
  earlier := earlier
  enabled := enabled
  gap inGap := OneShotSensor.loop_inGap inGap

/-- A dispatch is undisturbed exactly when its post, if any, is as it should be. The calls of the
gap decide: a last call that disables the sensor leaves it disabled when it posts.
-/
theorem dispatch_iff {reading : ρ} (watched : OneShotWatched before history)
    (taken : before.dispatch touch reading = some after)
    : (noteOneShot history before (.dispatch reading) after).PostsOnceEnabled
      ↔ undisturbed touch before history (.dispatch reading) := by
  obtain ⟨inGap, _, _, _, ⟨touched, rfl⟩ | ⟨untouched, rfl⟩⟩ :=
    OneShotSensor.dispatch_eq_some taken
  · rw [undisturbed, ← watched.undisturbed_iff inGap]
    simp only [touched, forall_const, noteOneShot, OneShotSensor.posted_loop, List.length_append,
      List.length_singleton, Nat.lt_add_one, if_true]
    constructor
    · rintro ⟨moments, _⟩
      obtain ⟨enabled, normal, _⟩ := moments _ List.mem_concat_self
      exact ⟨enabled, normal⟩
    · rintro ⟨enabled, normal⟩
      obtain ⟨activated, before⟩ := watched.enabled enabled
      refine ⟨?_, ?_⟩
      · intro post member
        rcases List.mem_append.mp member with old | new
        · exact watched.posts.1 post old
        · obtain rfl := List.mem_singleton.mp new
          exact ⟨enabled, normal, activated⟩
      · rw [List.map_append, List.nodup_append]
        refine ⟨watched.posts.2, List.nodup_singleton _, ?_⟩
        intro first member second last same
        obtain ⟨post, old, rfl⟩ := List.mem_map.mp member
        have less := before post old
        simp only [List.map_singleton, List.mem_singleton] at last
        omega
  · simp only [undisturbed, untouched, Bool.false_eq_true, false_implies, iff_true, noteOneShot,
      OneShotSensor.posted_loop, Nat.lt_irrefl, if_false]
    exact watched.posts

/-- An undisturbed dispatch keeps the posts as they should be. An event disables the sensor. -/
theorem dispatch {reading : ρ} (watched : OneShotWatched before history)
    (taken : before.dispatch touch reading = some after)
    (rule : undisturbed touch before history (.dispatch reading))
    : OneShotWatched after (noteOneShot history before (.dispatch reading) after) := by
  have posts := (watched.dispatch_iff taken).mpr rule
  obtain ⟨_, _, _, _, ⟨_, rfl⟩ | ⟨_, rfl⟩⟩ := OneShotSensor.dispatch_eq_some taken
  · refine loop posts ?_ (fun enabled => absurd enabled Bool.false_ne_true)
    intro post member
    simp only [noteOneShot, OneShotSensor.posted_loop, List.length_append, List.length_singleton,
      Nat.lt_add_one, if_true, List.mem_append, List.mem_singleton] at member
    rcases member with old | rfl
    · exact watched.earlier post old
    · exact Nat.le_refl _
  · simp only [noteOneShot, OneShotSensor.posted_loop, Nat.lt_irrefl, if_false]
    exact loop watched.posts watched.earlier watched.enabled

/-- Every step whose dispatch is undisturbed keeps the posts as they should be. -/
theorem step {action : OneShotSensor.Action ρ} (watched : OneShotWatched before history)
    (taken : before.step touch action = some after)
    (rule : undisturbed touch before history action)
    : OneShotWatched after (noteOneShot history before action after) := by
  cases action with
  | activate enable =>
      obtain rfl := Option.some.inj taken
      exact watched.activate enable
  | setOperationMode mode =>
      obtain rfl := Option.some.inj taken
      exact watched.setOperationMode mode
  | lock =>
      obtain ⟨_, rfl⟩ := OneShotSensor.lock_eq_some taken
      exact loop watched.posts watched.earlier watched.enabled
  | poll answer =>
      obtain ⟨inGap, rfl⟩ := OneShotSensor.poll_eq_some taken
      exact {
        posts := watched.posts
        earlier := watched.earlier
        enabled := watched.enabled
        gap := fun _ => watched.gap inGap
      }
  | dispatch reading => exact watched.dispatch taken rule

end OneShotWatched

/-- A sensor with the history of its calls and posts. -/
def TouchTest.watchedMachine {ρ μ : Type} (touch : TouchTest ρ μ)
    : Machine (OneShotSensor μ × OneShotHistory) (OneShotSensor.Action ρ) :=
  touch.machine.observe noteOneShot

/-- In every state of a run, the events posted so far were posted as they should be. -/
def TouchTest.PostsAlways {ρ μ : Type} (touch : TouchTest ρ μ) (members : μ)
    (mStopThread : Bool) (actions : List (OneShotSensor.Action ρ))
    : Prop :=
  touch.watchedMachine.Always (fun state => state.2.PostsOnceEnabled)
    (.constructed members mStopThread, {}) actions

/-- Every dispatch of a run is undisturbed. -/
def TouchTest.UndisturbedAlong {ρ μ : Type} (touch : TouchTest ρ μ) (members : μ)
    (mStopThread : Bool) (actions : List (OneShotSensor.Action ρ))
    : Prop :=
  touch.watchedMachine.Along (fun state action _ => undisturbed touch state.1 state.2 action)
    (.constructed members mStopThread, {}) actions

/-- Over every run, a sensor posts as it should exactly when its dispatches are undisturbed. -/
theorem TouchTest.postsOnceEnabled_iff {ρ μ : Type} (touch : TouchTest ρ μ) (members : μ)
    (mStopThread : Bool) (actions : List (OneShotSensor.Action ρ))
    : touch.PostsAlways members mStopThread actions
      ↔ touch.UndisturbedAlong members mStopThread actions := by
  refine Machine.observe_always_iff_along
    (fun state : OneShotSensor μ × OneShotHistory => OneShotWatched state.1 state.2)
    (fun sensor history watched => watched.posts) ?_ ?_ ?_ (Machine.along_true _ _)
  · intro sensor history action next watched taken _ rule
    exact watched.step taken rule
  · intro sensor history action next watched taken _ posts
    cases action with
    | activate | setOperationMode | lock | poll => trivial
    | dispatch reading => exact (watched.dispatch_iff taken).mp posts
  · exact {
      posts := ⟨fun post member => absurd member List.not_mem_nil, List.nodup_nil⟩
      earlier := fun post member => absurd member List.not_mem_nil
      enabled := fun enabled => absurd enabled Bool.false_ne_true
      gap := fun inGap => absurd inGap Bool.false_ne_true
    }

/-- Either sensor posts as it should exactly along the runs in which no call disturbs it between
its loop's test and a touch.
-/
theorem oneShotSensors_post_iff (mStopThread : Bool)
    : (∀ screen actions,
        udfpsSensor.PostsAlways screen mStopThread actions
        ↔ udfpsSensor.UndisturbedAlong screen mStopThread actions)
      ∧ ∀ actions,
        singleTapSensor.PostsAlways () mStopThread actions
        ↔ singleTapSensor.UndisturbedAlong () mStopThread actions :=
  ⟨fun screen => udfpsSensor.postsOnceEnabled_iff screen mStopThread,
    singleTapSensor.postsOnceEnabled_iff () mStopThread⟩

/-- The sensor is disabled after its poll has reported a touch, and posts the touch. -/
def disabledInGap {ρ : Type} (reading : ρ) : List (OneShotSensor.Action ρ) :=
  [.lock, .activate true, .lock, .poll { rc := 1, pipe := 0, node := nodeEvents },
    .activate false, .dispatch reading]

theorem oneShotSensors_post_fails_disabled
    : ¬udfpsSensor.PostsAlways { mScreenX := 0, mScreenY := 0 } false
          (disabledInGap { lseek := 0, read := 10, sscanf := some [540, 1800, 1] })
      ∧ ¬singleTapSensor.PostsAlways () false
          (disabledInGap { lseek := 0, read := 1, c := '1' }) := by
  simp only [TouchTest.PostsAlways]
  decide +kernel

end PongDevice.Sensors
