import PongDevice.Sensors.SubHalModes

/-! What the sub-HAL posts: touches of its own sensors, each of them paid for by an activation.
-/

namespace PongDevice.Sensors

open Transition

-----------------------------------------------------------------------------------------
-- Touches only
-----------------------------------------------------------------------------------------

/-- A call of `postEvents` with one event of a sensor, for which a locked wakelock is asked. -/
def IsTouchOf (info : SensorInfo) (post : List Event × Bool) : Prop :=
  ∃ event,
    post = ([event], true)
    ∧ event.sensorHandle = info.sensorHandle
    ∧ event.sensorType = info.type

/-- The flags of a sensor that wakes the device up and takes no injected data. -/
def SensorInfo.WakesUpOnly (info : SensorInfo) : Prop :=
  info.flags &&& wakeUpFlag ≠ 0 ∧ info.flags &&& dataInjectionFlag = 0

instance : DecidablePred SensorInfo.WakesUpOnly :=
  fun _ => inferInstanceAs (Decidable (_ ∧ _))

namespace SensorsSubHal

/-- The sub-HAL lists some sensors, and has posted touches of them only. -/
structure PostsTouches (infos : List SensorInfo) (subHal : SensorsSubHal) : Prop where
  listed : subHal.getSensorsList = infos
  touches : ∀ post ∈ subHal.posts, ∃ info ∈ infos, IsTouchOf info post

variable {before after : SensorsSubHal} {action : Action}

/-- No step changes what is listed. -/
theorem getSensorsList_step (steps : Steps before action after)
    : after.getSensorsList = before.getSensorsList := by
  cases steps with
  | begins | ends | keeps => rfl
  | calls mode called changing inside =>
      refine List.ext_getElem? (fun index => ?_)
      simp only [getSensorsList, List.getElem?_map, List.getElem?_modify]
      cases before.mSensors[index]? with
      | none => rfl
      | some sensor =>
          simp only [Option.map_some]
          split <;> rfl
  | activates sensorHandle enabled =>
      simp only [getSensorsList, update, List.map_map]
      refine List.map_congr_left (fun sensor _ => ?_)
      simp only [Function.comp_apply]
      split <;> rfl
  | injects event sensor listed supports =>
      obtain ⟨posts, died, same⟩ := before.postEvents_frame [event] sensor.isWakeUpSensor
      rw [same]
      rfl
  | runs index step sensor next outcome found ran =>
      obtain ⟨posts, died, same⟩ :=
        { before with mSensors := before.mSensors.set index next }.take_frame
          sensor.isWakeUpSensor outcome
      rw [same]
      have here : before.getSensorsList[index]? = some next.mSensorInfo := by
        rw [getSensorsList, List.getElem?_map, found, ran.mSensorInfo]
        rfl
      obtain ⟨inside, is⟩ := List.getElem?_eq_some_iff.mp here
      calc
        (before.mSensors.set index next).map (·.mSensorInfo)
          = before.getSensorsList.set index next.mSensorInfo := List.map_set
        _ = before.getSensorsList := by rw [← is, List.set_getElem_self]

/-- A listed sensor. -/
theorem PostsTouches.mem {infos : List SensorInfo} {subHal : SensorsSubHal}
    (sound : subHal.PostsTouches infos) {sensor : SubHalSensor} (member : sensor ∈ subHal.mSensors)
    : sensor.mSensorInfo ∈ infos := by
  rw [← sound.listed]
  exact List.mem_map_of_mem member

/-- What a step adds to the posts: nothing, or a touch of the sensor whose thread it is. -/
theorem posts_step {infos : List SensorInfo} (flags : ∀ info ∈ infos, info.WakesUpOnly)
    (sound : before.PostsTouches infos) (steps : Steps before action after)
    : after.posts = before.posts
      ∨ ∃ index step sensor next post,
          action = .run index step
          ∧ before.mSensors[index]? = some sensor
          ∧ sensor.object.live = true
          ∧ next.mSensorInfo = sensor.mSensorInfo
          ∧ next.object.live = false
          ∧ after.mSensors = before.mSensors.set index next
          ∧ IsTouchOf sensor.mSensorInfo post
          ∧ after.posts = before.posts ++ [post] := by
  cases steps with
  | begins | calls | ends | activates | keeps => exact .inl rfl
  | injects event sensor listed supports =>
      have refuses : sensor.mSensorInfo.flags &&& dataInjectionFlag = 0 :=
        (flags _ (sound.mem listed)).2
      rw [SubHalSensor.supportsDataInjection, refuses] at supports
      simp at supports
  | runs index step sensor next outcome found ran =>
      rcases ran.outcome with ⟨rfl, -⟩ | ⟨rfl | ⟨timestamp, memory, x, y, rfl⟩, live, spent⟩
      · exact .inl rfl
      · exact .inl rfl
      · simp only [take, postEvents]
        split
        · have wakes : sensor.isWakeUpSensor = true := by
            have flag := (flags _ (sound.mem (List.mem_of_getElem? found))).1
            simpa [SubHalSensor.isWakeUpSensor] using flag
          rw [wakes]
          exact .inr ⟨index, step, sensor, next, _, rfl, found, live, ran.mSensorInfo, spent, rfl,
            ⟨_, rfl, rfl, rfl⟩, rfl⟩
        · exact .inl rfl

/-- A step posts a touch of a listed sensor or nothing. -/
theorem PostsTouches.step {infos : List SensorInfo} (flags : ∀ info ∈ infos, info.WakesUpOnly)
    (sound : before.PostsTouches infos) (steps : Steps before action after)
    : after.PostsTouches infos where
  listed := (getSensorsList_step steps).trans sound.listed
  touches := by
    intro post member
    rcases posts_step flags sound steps with
      same | ⟨index, step, sensor, next, added, -, found, -, -, -, -, touch, posts⟩
    · rw [same] at member
      exact sound.touches post member
    · rw [posts] at member
      rcases List.mem_append.mp member with earlier | last
      · exact sound.touches post earlier
      · obtain rfl := List.mem_singleton.mp last
        exact ⟨_, sound.mem (List.mem_of_getElem? found), touch⟩

/-- The sensors that the constructor adds. -/
def touchSensors : List SensorInfo := [udfpsSensorInfo 1, singleTapSensorInfo 2]

theorem touchSensors_wakeUpOnly : ∀ info ∈ touchSensors, info.WakesUpOnly := by
  decide

theorem postsTouches_constructed (screen : Screen) (udfpsStops singleTapStops : Bool)
    : (constructed screen udfpsStops singleTapStops).PostsTouches touchSensors where
  listed := rfl
  touches := nofun

/-- A step of this device's sub-HAL. -/
theorem PostsTouches.step_touchSensors (sound : before.PostsTouches touchSensors)
    (taken : subHalMachine.step before action = some after)
    : after.PostsTouches touchSensors :=
  sound.step touchSensors_wakeUpOnly (steps taken)

/-- A state that a run reaches has posted touches only. -/
theorem postsTouches_run {actions : List Action} (sound : before.PostsTouches touchSensors)
    (reached : subHalMachine.run before actions = some after)
    : after.PostsTouches touchSensors :=
  (Machine.Always.of_invariant (PostsTouches touchSensors) (fun _ sound => sound)
    (fun _ _ _ sound taken _ => sound.step_touchSensors taken) sound
    (Machine.along_true _ _)).of_run reached

end SensorsSubHal

/-- Whatever is called and whatever the threads read, the sub-HAL always lists the same two
sensors, and each call of `postEvents` that it makes carries one event of one of them and asks for
a locked wakelock.
-/
theorem subHal_posts_touches (screen : Screen) (udfpsStops singleTapStops : Bool)
    (actions : List SensorsSubHal.Action)
    : subHalMachine.Always (SensorsSubHal.PostsTouches SensorsSubHal.touchSensors)
        (.constructed screen udfpsStops singleTapStops) actions :=
  Machine.Always.of_invariant (SensorsSubHal.PostsTouches SensorsSubHal.touchSensors)
    (fun _ sound => sound)
    (fun _ _ _ sound taken _ => sound.step_touchSensors taken)
    (SensorsSubHal.postsTouches_constructed screen udfpsStops singleTapStops)
    (Machine.along_true _ _)

-----------------------------------------------------------------------------------------
-- One touch for an activation
-----------------------------------------------------------------------------------------

/-- How often each handle has been activated. -/
abbrev Activations := BitVec 32 → Nat

/-- Activations are counted by the calls, whether the handle is listed or not. -/
def noteActivations (activations : Activations) (_ : SensorsSubHal) (action : SensorsSubHal.Action)
    (_ : SensorsSubHal)
    : Activations :=
  match action with
  | .activate sensorHandle true =>
      fun other => if other = sensorHandle then activations other + 1 else activations other
  | _ => activations

namespace SensorsSubHal

/-- How many events of a handle have been posted. -/
def posted (subHal : SensorsSubHal) (sensorHandle : BitVec 32) : Nat :=
  subHal.posts.countP (fun post => post.1.any (·.sensorHandle = sensorHandle))

/-- No sensor has posted more often than it has been activated, and a sensor that may still post
has an activation left for it.
-/
def WithinActivations (subHal : SensorsSubHal) (activations : Activations) : Prop :=
  ∀ sensor ∈ subHal.mSensors,
    subHal.posted sensor.mSensorInfo.sensorHandle + sensor.object.live.toNat
    ≤ activations sensor.mSensorInfo.sensorHandle

variable {before after : SensorsSubHal} {action : Action}

/-- No step takes an activation back. -/
theorem le_noteActivations (activations : Activations) (before : SensorsSubHal) (action : Action)
    (after : SensorsSubHal) (sensorHandle : BitVec 32)
    : activations sensorHandle ≤ noteActivations activations before action after sensorHandle := by
  unfold noteActivations
  split
  · split <;> omega
  · exact Nat.le_refl _

/-- An event counts for its own handle. -/
theorem posted_append {post : List Event × Bool} {info : SensorInfo} (touch : IsTouchOf info post)
    (posts : after.posts = before.posts ++ [post]) (sensorHandle : BitVec 32)
    : after.posted sensorHandle
      = before.posted sensorHandle + if info.sensorHandle = sensorHandle then 1 else 0 := by
  obtain ⟨event, rfl, same, -⟩ := touch
  simp [posted, posts, ← same, List.countP_append, List.countP_cons]

/-- A sensor after a step was one before, and is live only if it was or is activated. -/
theorem earlier_of_mem (steps : Steps before action after) {sensor : SubHalSensor}
    (member : sensor ∈ after.mSensors)
    : ∃ earlier ∈ before.mSensors,
        earlier.mSensorInfo = sensor.mSensorInfo
        ∧ (sensor.object.live = true
          → earlier.object.live = true
            ∨ action = .activate sensor.mSensorInfo.sensorHandle true) := by
  cases steps with
  | begins | ends | keeps => exact ⟨sensor, member, rfl, .inl⟩
  | calls mode called changing inside =>
      obtain ⟨index, found⟩ := List.mem_iff_getElem?.mp member
      rw [List.getElem?_modify] at found
      obtain ⟨earlier, listed, rfl⟩ := Option.map_eq_some_iff.mp found
      refine ⟨earlier, List.mem_of_getElem? listed, ?_⟩
      split
      · exact ⟨rfl, fun live => .inl (by simpa using live)⟩
      · exact ⟨rfl, .inl⟩
  | activates sensorHandle enabled =>
      obtain ⟨earlier, listed, rfl⟩ := List.mem_map.mp member
      refine ⟨earlier, listed, ?_⟩
      split
      · rename_i here
        refine ⟨rfl, fun live => ?_⟩
        rcases TouchSensor.live_of_activate live with was | rfl
        · exact .inl was
        · exact .inr (by rw [← here])
      · exact ⟨rfl, .inl⟩
  | injects event injected listed supports =>
      obtain ⟨posts, died, same⟩ := before.postEvents_frame [event] injected.isWakeUpSensor
      rw [same] at member
      exact ⟨sensor, member, rfl, .inl⟩
  | runs index step found next outcome listed ran =>
      obtain ⟨posts, died, same⟩ :=
        { before with mSensors := before.mSensors.set index next }.take_frame
          found.isWakeUpSensor outcome
      rw [same] at member
      rcases List.mem_or_eq_of_mem_set member with kept | rfl
      · exact ⟨sensor, kept, rfl, .inl⟩
      · refine ⟨found, List.mem_of_getElem? listed, ran.mSensorInfo.symm, fun live => .inl ?_⟩
        rcases ran.outcome with ⟨-, still⟩ | ⟨-, was, -⟩
        · exact still live
        · exact was

/-- A step spends an activation for a touch and for nothing else. -/
theorem WithinActivations.step {infos : List SensorInfo}
    (flags : ∀ info ∈ infos, info.WakesUpOnly) (distinct : (infos.map (·.sensorHandle)).Nodup)
    (sound : before.PostsTouches infos) {activations : Activations}
    (within : before.WithinActivations activations) (steps : Steps before action after)
    : after.WithinActivations (noteActivations activations before action after) := by
  intro sensor member
  have counted := le_noteActivations activations before action after sensor.mSensorInfo.sensorHandle
  rcases posts_step flags sound steps with
    same | ⟨index, step, mover, next, post, rfl, found, live, info, spent, moved, touch, posts⟩
  · obtain ⟨earlier, listed, here, active⟩ := earlier_of_mem steps member
    have was := within earlier listed
    rw [here] at was
    have postedSame
        : after.posted sensor.mSensorInfo.sensorHandle
          = before.posted sensor.mSensorInfo.sensorHandle := by
      rw [posted, posted, same]
    cases still : sensor.object.live with
    | false =>
        simp only [postedSame, Bool.toNat_false]
        omega
    | true =>
        rcases active still with earlierLive | rfl
        · simp only [earlierLive, Bool.toNat_true] at was
          simp only [postedSame, Bool.toNat_true]
          omega
        · simp only [postedSame, Bool.toNat_true, noteActivations, if_true]
          omega
  · rw [moved] at member
    obtain ⟨other, here⟩ := List.mem_iff_getElem?.mp member
    rw [List.getElem?_set] at here
    split at here
    · split at here
      · obtain rfl := Option.some.inj here
        have was := within mover (List.mem_of_getElem? found)
        simp only [live, Bool.toNat_true] at was
        simp only [posted_append touch posts, info, spent, if_true, Bool.toNat_false]
        rw [info] at counted
        omega
      · cases here
    · rename_i different
      have was := within sensor (List.mem_of_getElem? here)
      have apart : mover.mSensorInfo.sensorHandle ≠ sensor.mSensorInfo.sensorHandle := by
        intro equal
        refine different ?_
        rw [← sound.listed, getSensorsList, List.map_map] at distinct
        have inside := (List.getElem?_eq_some_iff.mp found).1
        refine (List.getElem?_inj (by simpa using inside) distinct).mp ?_
        simp [found, here, equal]
      rw [posted_append touch posts, if_neg apart]
      omega

end SensorsSubHal

/-- A handle that is not listed is posted for never. -/
theorem SensorsSubHal.PostsTouches.posted_eq_zero {infos : List SensorInfo}
    {subHal : SensorsSubHal} (sound : subHal.PostsTouches infos) {sensorHandle : BitVec 32}
    (unlisted : sensorHandle ∉ infos.map (·.sensorHandle))
    : subHal.posted sensorHandle = 0 := by
  refine List.countP_eq_zero.mpr (fun post member => ?_)
  obtain ⟨info, listed, event, rfl, same, -⟩ := sound.touches post member
  have other : info.sensorHandle ≠ sensorHandle := by
    intro equal
    exact unlisted (List.mem_map.mpr ⟨info, listed, equal⟩)
  simp [same, other]

/-- The sub-HAL together with how often each handle has been activated. -/
def activationMachine : Machine (SensorsSubHal × Activations) SensorsSubHal.Action :=
  subHalMachine.observe noteActivations

/-- A sensor is one-shot: in every interleaving of the calls with the threads, it has posted at
most one event for each time that it was activated.
Witness: a sensor that is enabled, or that its thread has found enabled, has one activation left.
-/
theorem subHal_posts_once (screen : Screen) (udfpsStops singleTapStops : Bool)
    (actions : List SensorsSubHal.Action)
    : activationMachine.Always
        (fun state => ∀ sensorHandle, state.1.posted sensorHandle ≤ state.2 sensorHandle)
        (.constructed screen udfpsStops singleTapStops, fun _ => 0) actions := by
  refine Machine.observe_always_of_invariant
    (fun state =>
      state.1.PostsTouches SensorsSubHal.touchSensors ∧ state.1.WithinActivations state.2)
    ?_ ?_ ⟨SensorsSubHal.postsTouches_constructed screen udfpsStops singleTapStops, ?_⟩
    (Machine.along_true _ _)
  · rintro subHal activations ⟨sound, within⟩ sensorHandle
    by_cases listed : sensorHandle ∈ SensorsSubHal.touchSensors.map (·.sensorHandle)
    · rw [← sound.listed, SensorsSubHal.getSensorsList, List.map_map] at listed
      obtain ⟨sensor, member, rfl⟩ := List.mem_map.mp listed
      exact Nat.le_trans (Nat.le_add_right _ _) (within sensor member)
    · rw [sound.posted_eq_zero listed]
      exact Nat.zero_le _
  · rintro subHal activations action after ⟨sound, within⟩ taken _
    have steps := SensorsSubHal.steps taken
    exact ⟨sound.step_touchSensors taken,
      within.step SensorsSubHal.touchSensors_wakeUpOnly (by decide) sound steps⟩
  · intro sensor member
    simp only [SensorsSubHal.constructed, SensorsSubHal.addSensor, List.nil_append,
      List.cons_append, List.mem_cons, List.not_mem_nil, or_false] at member
    rcases member with rfl | rfl <;> exact Nat.le_refl _

end PongDevice.Sensors
