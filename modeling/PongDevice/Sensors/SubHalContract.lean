import PongDevice.Sensors.DirectChannel
import PongDevice.Sensors.StableSensors
import PongDevice.Sensors.SubHalTouches
import PongDevice.Sensors.WakelockHold

/-! What the sub-HAL guarantees to the proxy that it is loaded by, and what the proxy makes of
that. The sub-HAL may be anywhere among fewer than 128, whatever the others list.
-/

namespace PongDevice.Sensors

open Transition

-----------------------------------------------------------------------------------------
-- The sensors in the proxy's table
-----------------------------------------------------------------------------------------

namespace SensorList

/-- A sensor that its sub-HAL lists last under its handle has an entry of its own in the table. -/
theorem mSensors_of_lastListed {subHals : List (List SensorInfo)} (few : subHals.length < 128)
    {subHalIndex : Nat} (small : subHalIndex < 128) {info : SensorInfo}
    (clear : subHalIndexIsClear info.sensorHandle = true)
    (last : lastListed subHals subHalIndex info.sensorHandle = some info)
    : (initializeSensorList subHals).mSensors (setSubHalIndex info.sensorHandle subHalIndex)
      = some
        (Entry.listed (initializeSensorList subHals).mDirectChannelSubHal
          { subHalIndex, sensor := info }) := by
  rw [(lists_initializeSensorList subHals).table, find_entries few small clear, last]
  rfl

/-- A sensor without direct channels that is no wrist tilt gesture is listed as it is. -/
theorem Entry.listed_of_plain {entry : Entry} (without : entry.sensor.supportsDirect = false)
    (plain : entry.sensor.typeAsString ≠ wristTiltGesture) (mDirectChannelSubHal : Option Nat)
    : entry.listed mDirectChannelSubHal
      = { entry.sensor with sensorHandle := entry.sensorHandle } := by
  simp only [Entry.listed, and_not_directMask without, ite_self, standardizePickup, if_neg plain]

end SensorList

/-- A touch sensor is not standardized, and keeps its flags. -/
structure TouchEntry (info : SensorInfo) : Prop where
  clear : subHalIndexIsClear info.sensorHandle = true
  without : info.supportsDirect = false
  plain : info.typeAsString ≠ SensorList.wristTiltGesture
  notPickUp : info.type ≠ .pickUpGesture
  wakesUp : info.flags &&& wakeUpFlag ≠ 0
  last : SensorsSubHal.touchSensors.reverse.find? (·.sensorHandle = info.sensorHandle) = some info

theorem touchEntry {info : SensorInfo} (member : info ∈ SensorsSubHal.touchSensors)
    : TouchEntry info := by
  simp only [SensorsSubHal.touchSensors, List.mem_cons, List.not_mem_nil, or_false] at member
  rcases member with rfl | rfl <;> constructor <;> decide

/-- The touch sensors in a table that the proxy has made of its sub-HALs' lists. -/
theorem mSensors_touchEntry {subHals : List (List SensorInfo)} (few : subHals.length < 128)
    {index : Nat} (listed : subHals[index]? = some SensorsSubHal.touchSensors)
    {info : SensorInfo} (member : info ∈ SensorsSubHal.touchSensors)
    : (SensorList.initializeSensorList subHals).mSensors (setSubHalIndex info.sensorHandle index)
      = some { info with sensorHandle := setSubHalIndex info.sensorHandle index } := by
  have entry := touchEntry member
  have inside := (List.getElem?_eq_some_iff.mp listed).1
  have last : SensorList.lastListed subHals index info.sensorHandle = some info := by
    rw [SensorList.lastListed, listed]
    exact entry.last
  rw [SensorList.mSensors_of_lastListed few (by omega) entry.clear last,
    SensorList.Entry.listed_of_plain entry.without entry.plain]
  rfl

-----------------------------------------------------------------------------------------
-- What the proxy makes of a post
-----------------------------------------------------------------------------------------

/-- What a sub-HAL owes the proxy for a call of `postEvents`: none of its events is lost to the
filter, the wakelock is locked exactly if wake-up events are counted, as `postEvents` asserts, and
a request for the handle that an event is published under reaches the sub-HAL with the handle that
it posted.
-/
structure Conforms (mSensors : SensorTable) (mSubHalList : List SubHal) (index : Nat)
    (post : List Event × Bool)
    : Prop where
  whole
    : (processEvents mSensors index post.1).1 = post.1.map (·.setSubHalIndex index)
  asserted : post.2 = true ↔ 0 < (processEvents mSensors index post.1).2
  reached
    : ∀ event ∈ post.1,
        ∀ subHal ∈ mSubHalList[index]?,
          ReachesPublisher mSubHalList index subHal event.sensorHandle

/-- A touch conforms in every table that has the entry of its sensor. -/
theorem conforms_of_touch {mSensors : SensorTable} {mSubHalList : List SubHal} {index : Nat}
    (small : index < 128) {info : SensorInfo} (entry : TouchEntry info)
    (found
      : mSensors (setSubHalIndex info.sensorHandle index)
        = some { info with sensorHandle := setSubHalIndex info.sensorHandle index })
    {post : List Event × Bool} (touch : IsTouchOf info post)
    : Conforms mSensors mSubHalList index post := by
  obtain ⟨event, rfl, handle, -⟩ := touch
  have read
      : mSensors.getSensorInfo (event.setSubHalIndex index).sensorHandle
        = { info with sensorHandle := setSubHalIndex info.sensorHandle index } := by
    simp [SensorTable.getSensorInfo, Event.setSubHalIndex, handle, found]
  have kept : (event.setSubHalIndex index).isIdlePickup mSensors = false := by
    simp [Event.isIdlePickup, read, entry.notPickUp]
  have wakesUp : mSensors.isWakeUp (event.setSubHalIndex index).sensorHandle = true := by
    simpa [SensorTable.isWakeUp, read] using entry.wakesUp
  have processed
      : processEvents mSensors index [event] = ([event.setSubHalIndex index], 1) := by
    simp [processEvents, processEvent, kept, wakesUp]
  exact {
    whole := by simp [processed]
    asserted := by simp [processed]
    reached := by
      intro posted member subHal loaded
      obtain rfl := List.mem_singleton.mp member
      obtain ⟨inside, rfl⟩ := List.getElem?_eq_some_iff.mp loaded
      rw [handle]
      exact reachesPublisher inside small entry.clear
  }

/-- The posts of a sub-HAL that posts touches only conform in every table that has grown out of
the sub-HALs' lists.
-/
theorem conforms_of_postsTouches {subHals : List (List SensorInfo)} (few : subHals.length < 128)
    {index : Nat} (listed : subHals[index]? = some SensorsSubHal.touchSensors)
    {mSensors : SensorTable}
    (grown : (SensorList.initializeSensorList subHals).mSensors.Extends mSensors)
    (mSubHalList : List SubHal) {subHal : SensorsSubHal}
    (sound : subHal.PostsTouches SensorsSubHal.touchSensors)
    : ∀ post ∈ subHal.posts, Conforms mSensors mSubHalList index post := by
  intro post member
  obtain ⟨info, isListed, touch⟩ := sound.touches post member
  have inside := (List.getElem?_eq_some_iff.mp listed).1
  have entry := grown _ _ (mSensors_touchEntry few listed isListed)
  exact conforms_of_touch (by omega) (touchEntry isListed) entry touch

/-- Wherever the sub-HAL is loaded and whatever else is: in every run of it, each of its calls of
`postEvents` conforms, in the table that the proxy has made of the lists and in any one that
lookups have left of that table.
-/
theorem subHal_posts_conform (subHals : List (List SensorInfo)) (few : subHals.length < 128)
    (index : Nat) (listed : subHals[index]? = some SensorsSubHal.touchSensors)
    (mSensors : SensorTable)
    (grown : (SensorList.initializeSensorList subHals).mSensors.Extends mSensors)
    (mSubHalList : List SubHal) (screen : Screen) (udfpsStops singleTapStops : Bool)
    (actions : List SensorsSubHal.Action)
    : subHalMachine.Always
        (fun subHal => ∀ post ∈ subHal.posts, Conforms mSensors mSubHalList index post)
        (.constructed screen udfpsStops singleTapStops) actions :=
  Machine.Always.of_invariant (SensorsSubHal.PostsTouches SensorsSubHal.touchSensors)
    (fun _ sound => conforms_of_postsTouches few listed grown mSubHalList sound)
    (fun _ _ _ sound taken _ => sound.step_touchSensors taken)
    (SensorsSubHal.postsTouches_constructed screen udfpsStops singleTapStops)
    (Machine.along_true _ _)

/-- The contract behind a sub-HAL with a wrist tilt sensor, as the first of two libraries. -/
theorem subHal_posts_conform_second
    : let subHals := [[wristTiltSensor], SensorsSubHal.touchSensors]
      let mSensors := (SensorList.initializeSensorList subHals).mSensors
      subHalMachine.Always
        (fun subHal => ∀ post ∈ subHal.posts, Conforms mSensors [fun _ => .ok, fun _ => .ok] 1 post)
        (.constructed { mScreenX := 0, mScreenY := 0 } false false)
        [.initializeSubHal, .nextSensor, .nextSensor, .nextSensor, .activate 1 true] :=
  subHal_posts_conform _ (by decide) 1 rfl _ (SensorTable.Extends.refl _) _ _ _ _ _

-----------------------------------------------------------------------------------------
-- The wake lock of a proxy whose sub-HALs conform
-----------------------------------------------------------------------------------------

namespace HalProxy

variable {setup : Setup} {before after : HalProxy} {action : Action}

/-- A batch is one of the given posts, by the numbered sub-HAL. -/
def PostedBy (posts : List (List Event × Bool)) (index : Nat) (before : HalProxy)
    : Action → Prop
  | .postEvents wakelock subHalIndex events _ =>
      subHalIndex = index
      ∧ ∃ held ∈ before.scopedWakelocks[wakelock]?, (events, held.mLocked) ∈ posts
  | _ => False

/-- The assertion of `postEvents`: the wakelock of a batch is locked exactly if the batch keeps a
wake-up event.
-/
def Asserted (before : HalProxy) : Action → Prop
  | .postEvents wakelock subHalIndex events _ =>
      events ≠ []
      → ((before.scopedWakelocks[wakelock]?).any (·.mLocked) = true
        ↔ 0 < (processEvents before.mSensors subHalIndex events).2)
  | _ => True

/-- No step takes an entry out of the table. -/
theorem extends_mSensors (taken : before.step setup action = some after)
    : before.mSensors.Extends after.mSensors := by
  cases action with
  | postEvents index subHalIndex events written =>
      rcases postEvents_eq_some taken with ⟨wakelock, _, _, ⟨_, rfl⟩ | ⟨_, _, rfl⟩⟩
      · exact .refl _
      · rw [(postEventsToMessageQueue_frame setup _ _ _ wakelock.mLocked written).2]
        exact .refl _
  | writeBlocking written =>
      rw [writeBlocking_mSensors taken]
      exact Lookup.ofMap_touch.extends_foldl _ _
  | popPendingWrites =>
      obtain ⟨_, _, _, _, _, _, rfl⟩ := popPendingWrites_eq_some taken
      exact .refl _
  | createScopedWakelock | destroyScopedWakelock | takePendingWrites | checkWakelock
  | readWakeLock | readEvents | acknowledge | writeWakeLock | elapse =>
      rw [(step_frame taken rfl).2]
      exact .refl _

/-- A conforming post meets the assertion. -/
theorem asserted_of_conforms {posts : List (List Event × Bool)} {index : Nat}
    {mSubHalList : List SubHal}
    (conforms : ∀ post ∈ posts, Conforms before.mSensors mSubHalList index post)
    (posted : before.PostedBy posts index action)
    : before.Asserted action := by
  cases action with
  | postEvents wakelock subHalIndex events written =>
      obtain ⟨rfl, held, found, member⟩ := posted
      intro _
      rw [Option.mem_def.mp found]
      exact (conforms _ member).asserted
  | _ => trivial

/-- A batch that meets the assertion is not posted over a count of 0 with nothing to count. -/
theorem Asserted.postsOverReferences (asserted : before.Asserted action)
    : before.PostsOverReferences action after := by
  cases action with
  | postEvents wakelock subHalIndex events written =>
      intro locked busy none
      have counted := (asserted busy).mp locked
      omega
  | _ => trivial

end HalProxy

/-- The kernel wake lock is held exactly while references are counted, in every run of the proxy
whose batches are posted by this device's sub-HAL, in any run of that, or by another sub-HAL that
meets the assertion of `postEvents`.
Witness: the sub-HAL's posts conform in whatever table the run has left.
-/
theorem holdsExactly_of_conforming (setup : Setup) (subHals : List (List SensorInfo))
    (few : subHals.length < 128) (index : Nat)
    (listed : subHals[index]? = some SensorsSubHal.touchSensors)
    (screen : Screen) (udfpsStops singleTapStops : Bool)
    (subHalActions : List SensorsSubHal.Action) (subHal : SensorsSubHal)
    (reached
      : subHalMachine.run (.constructed screen udfpsStops singleTapStops) subHalActions
        = some subHal)
    (now : Int) (actions : List HalProxy.Action)
    (posted
      : (halProxyMachine setup).Along
          (fun before action _ =>
            before.PostedBy subHal.posts index action ∨ before.Asserted action)
          (.initialized (SensorList.initializeSensorList subHals).mSensors now) actions)
    : (halProxyMachine setup).Always HalProxy.HoldsExactly
        (.initialized (SensorList.initializeSensorList subHals).mSensors now) actions := by
  have touches : subHal.PostsTouches SensorsSubHal.touchSensors :=
    SensorsSubHal.postsTouches_run
      (SensorsSubHal.postsTouches_constructed screen udfpsStops singleTapStops) reached
  refine Machine.Always.of_invariant
    (fun proxy : HalProxy =>
      proxy.HoldsExactly ∧ proxy.mThreadsRun = true
        ∧ (SensorList.initializeSensorList subHals).mSensors.Extends proxy.mSensors)
    (fun _ sound => sound.1) ?_
    ⟨by simp [HalProxy.HoldsExactly, HalProxy.initialized], rfl, .refl _⟩ posted
  rintro before action after ⟨exact, running, grown⟩ taken rule
  have asserted : before.Asserted action := by
    rcases rule with own | asserted
    · exact HalProxy.asserted_of_conforms (conforms_of_postsTouches few listed grown [] touches) own
    · exact asserted
  exact ⟨(exact.step_iff running taken).mpr asserted.postsOverReferences,
    (HalProxy.mThreadsRun_step taken).trans running,
    grown.trans (HalProxy.extends_mSensors taken)⟩

/-- The sub-HAL is initialized, its first sensor is activated, and reads a touch. -/
def touchedOnce : List SensorsSubHal.Action :=
  [.initializeSubHal, .nextSensor, .nextSensor, .nextSensor, .activate 1 true, .run 0 .lock,
    .run 0 (.poll { rc := 1, pipe := 0, node := nodeEvents }),
    .run 0
      (.dispatch
        {
          node := .inl { lseek := 0, read := 10, sscanf := some [540, 1800, 1] }
          timestamp := 7
          memory := 0
          touchData := none
        })]

/-- The event that is posted for the touch. -/
def touchedEvent : Event where
  timestamp := 7
  sensorHandle := 1
  sensorType := .other 0x10001
  u := (0 : BitVec 448) ++ Bits.Binary32.ofInt 1800 ++ Bits.Binary32.ofInt 540

theorem posts_touchedOnce
    : (subHalMachine.run (.constructed { mScreenX := 0, mScreenY := 0 } false false)
        touchedOnce).map (·.posts)
      = some [([touchedEvent], true)] := by
  decide +kernel

/-- A touch that is posted behind another sub-HAL's sensors. -/
theorem holdsExactly_of_conforming_touch
    : let setup : Setup :=
        {
          quantumCount := 1
          kMaxSizePendingWriteEventsQueue := 100000
          kWakelockTimeoutNs := 5000000000
        }
      let subHals := [[wristTiltSensor], SensorsSubHal.touchSensors]
      (halProxyMachine setup).Always HalProxy.HoldsExactly
        (.initialized (SensorList.initializeSensorList subHals).mSensors 0)
        [.createScopedWakelock true, .postEvents 0 1 [touchedEvent] true] := by
  intro setup subHals
  obtain ⟨subHal, reached, posts⟩ := Option.map_eq_some_iff.mp posts_touchedOnce
  refine holdsExactly_of_conforming setup subHals (by decide) 1 rfl _ _ _ touchedOnce subHal
    reached 0 _ ?_
  intro created taken
  obtain rfl := Option.some.inj taken
  refine ⟨.inr trivial, fun posted _ => ⟨.inl ⟨rfl, _, rfl, ?_⟩, trivial⟩⟩
  rw [posts]
  exact List.mem_singleton_self _

end PongDevice.Sensors
