import Mathlib.Data.List.Induction
import PongDevice.Sensors.Routing

/-! The sub-HAL that owns direct channels. It is found while the sensors are listed, and the
flags of every other sub-HAL are taken away from then on.
-/

namespace PongDevice.Sensors

/-- Whether a sensor supports a direct channel or direct reports. -/
def SensorInfo.supportsDirect (sensor : SensorInfo) : Bool := sensor.flags &&& directMask ≠ 0

/-- `RateLevel`. -/
inductive RateLevel where
  | stop
  | normal
  | fast
  | veryFast
deriving DecidableEq, Repr

/-- How a direct report is configured: the proxy answers itself, or calls a sub-HAL. -/
inductive DirectReport where
  | answered (result : Result) (reportToken : Int)
  | forwarded (subHal : Nat) (sensorHandle : BitVec 32) (channelHandle : Int) (rate : RateLevel)
deriving DecidableEq, Repr

def configDirectReport (mDirectChannelSubHal : Option Nat) (sensorHandle : BitVec 32)
    (channelHandle : Int) (rate : RateLevel)
    : DirectReport :=
  match mDirectChannelSubHal with
  | none => .answered .invalidOperation (-1)
  | some subHal =>
      if sensorHandle = -1 ∧ rate ≠ .stop then
        .answered .badValue (-1)
      else
        -- -1 denotes all sensors should be disabled
        let sensorHandle :=
          if sensorHandle = -1 then sensorHandle else clearSubHalIndex sensorHandle
        .forwarded subHal sensorHandle channelHandle rate

namespace SensorList

-----------------------------------------------------------------------------------------
-- The nested loop as one loop
-----------------------------------------------------------------------------------------

/-- A sensor in the list of the numbered sub-HAL. -/
structure Entry where
  subHalIndex : Nat
  sensor : SensorInfo

/-- The sensors of every sub-HAL in the order in which they are listed. -/
def entries (subHals : List (List SensorInfo)) : List Entry :=
  subHals.zipIdx.flatMap (fun subHal => subHal.1.map (Entry.mk subHal.2))

/-- The nested loop goes over the entries. -/
theorem initializeSensorList_eq (subHals : List (List SensorInfo))
    : initializeSensorList subHals
      = (entries subHals).foldl (fun list entry => list.addSensor entry.subHalIndex entry.sensor)
        {} := by
  simp only [initializeSensorList, entries, List.foldl_flatMap, List.foldl_map]

/-- The entries are the sensors of the sub-HALs. -/
theorem mem_entries {subHals : List (List SensorInfo)} {entry : Entry}
    : entry ∈ entries subHals
      ↔ ∃ sensors, subHals[entry.subHalIndex]? = some sensors ∧ entry.sensor ∈ sensors := by
  obtain ⟨subHalIndex, sensor⟩ := entry
  simp only [entries, List.mem_flatMap, List.mem_map, Entry.mk.injEq]
  constructor
  · rintro ⟨⟨sensors, index⟩, listed, other, member, rfl, rfl⟩
    exact ⟨sensors, List.mem_zipIdx_iff_getElem?.mp listed, member⟩
  · rintro ⟨sensors, listed, member⟩
    exact ⟨(sensors, subHalIndex), List.mem_zipIdx_iff_getElem?.mpr listed, sensor, member, rfl,
      rfl⟩

/-- The entries of one sub-HAL are its list, by induction over the sub-HALs before it. -/
theorem filter_entries (subHals : List (List SensorInfo)) (start subHalIndex : Nat)
    : ((subHals.zipIdx start).flatMap (fun subHal => subHal.1.map (Entry.mk subHal.2))).filter
        (fun entry => entry.subHalIndex = start + subHalIndex)
      = (subHals[subHalIndex]?.getD []).map (Entry.mk (start + subHalIndex)) := by
  induction subHals generalizing start subHalIndex with
  | nil => rfl
  | cons sensors rest ih =>
      rw [List.zipIdx_cons, List.flatMap_cons, List.filter_append, List.filter_map]
      cases subHalIndex with
      | zero =>
          have later :
              ((rest.zipIdx (start + 1)).flatMap
                (fun subHal => subHal.1.map (Entry.mk subHal.2))).filter
                (fun entry => entry.subHalIndex = start + 0)
              = [] := by
            simp only [List.filter_eq_nil_iff, List.mem_flatMap, List.mem_map]
            rintro entry ⟨⟨listed, index⟩, member, sensor, _, rfl⟩
            have above := List.le_snd_of_mem_zipIdx member
            simp only [decide_eq_true_iff]
            omega
          rw [later, List.filter_eq_self.mpr (by simp)]
          simp
      | succ before =>
          have next := ih (start + 1) before
          rw [show start + 1 + before = start + (before + 1) by omega] at next
          rw [next]
          simp [Function.comp_def]

-----------------------------------------------------------------------------------------
-- What the loop leaves in the table
-----------------------------------------------------------------------------------------

/-- The key of an entry, which is accepted when its first byte is clear. -/
def Entry.accepted (entry : Entry) : Bool := subHalIndexIsClear entry.sensor.sensorHandle

/-- The global handle of an entry. -/
def Entry.sensorHandle (entry : Entry) : BitVec 32 :=
  setSubHalIndex entry.sensor.sensorHandle entry.subHalIndex

/-- An entry as the table holds it: the flags stay with the owner of direct channels. -/
def Entry.listed (mDirectChannelSubHal : Option Nat) (entry : Entry) : SensorInfo :=
  standardizePickup
    { entry.sensor with
      sensorHandle := entry.sensorHandle
      flags :=
        if mDirectChannelSubHal = some entry.subHalIndex then entry.sensor.flags
        else entry.sensor.flags &&& ~~~directMask }

/-- Clearing the flags of direct channels changes nothing without them. -/
theorem and_not_directMask {sensor : SensorInfo} (without : sensor.supportsDirect = false)
    : sensor.flags &&& ~~~directMask = sensor.flags := by
  have none : sensor.flags &&& directMask = 0 := by
    simpa [SensorInfo.supportsDirect] using without
  refine BitVec.eq_of_getLsbD_eq (fun bit inside => ?_)
  have clear : (sensor.flags &&& directMask).getLsbD bit = false := by
    rw [none, BitVec.ofNat_eq_ofNat, BitVec.getLsbD_zero]
  rw [BitVec.getLsbD_and] at clear
  rw [BitVec.getLsbD_and, BitVec.getLsbD_not]
  cases set : sensor.flags.getLsbD bit with
  | false => rfl
  | true => simp_all

/-- The first capable sensor makes its sub-HAL the owner, and its flags stay exactly with the
owner.
-/
theorem setDirectChannelFlags_eq (mDirectChannelSubHal : Option Nat) (sensor : SensorInfo)
    (subHal : Nat)
    : let owner :=
        if mDirectChannelSubHal = none ∧ sensor.supportsDirect = true then some subHal
        else mDirectChannelSubHal
      setDirectChannelFlags mDirectChannelSubHal sensor subHal
        = ({ sensor with
            flags :=
              if owner = some subHal then sensor.flags
              else sensor.flags &&& ~~~directMask },
          owner) := by
  intro owner
  unfold setDirectChannelFlags
  cases mDirectChannelSubHal with
  | none =>
      cases capable : sensor.supportsDirect with
      | true =>
          have supports : sensor.flags &&& directMask ≠ 0 := by
            simpa [SensorInfo.supportsDirect] using capable
          simpa [owner, capable] using supports
      | false =>
          have supports : sensor.flags &&& directMask = 0 := by
            simpa [SensorInfo.supportsDirect] using capable
          simp [owner, capable, supports, and_not_directMask capable]
  | some current =>
      by_cases same : current = subHal
      · simp [owner, same]
      · have different : ¬ subHal = current := fun equal => same equal.symm
        simp [owner, same, different]

/-- What the entries so far have left: the owner is a sub-HAL with a capable sensor, if there is
one, and the table holds the last accepted entry of each handle.
-/
structure Lists (entries : List Entry) (list : SensorList) : Prop where
  incapable
    : list.mDirectChannelSubHal = none
      → ∀ entry ∈ entries, entry.accepted = true → entry.sensor.supportsDirect = false
  capable
    : ∀ owner ∈ list.mDirectChannelSubHal,
        ∃ entry ∈ entries,
          entry.subHalIndex = owner
            ∧ entry.accepted = true
            ∧ entry.sensor.supportsDirect = true
  table
    : ∀ sensorHandle,
        list.mSensors sensorHandle
        = (entries.reverse.find? (fun entry =>
            entry.accepted && entry.sensorHandle == sensorHandle)).map
          (Entry.listed list.mDirectChannelSubHal)

/-- An entry without the flags is listed alike whoever the owner is. -/
theorem Entry.listed_eq {entry : Entry} (without : entry.sensor.supportsDirect = false)
    (first second : Option Nat)
    : entry.listed first = entry.listed second := by
  simp only [Entry.listed, and_not_directMask without, ite_self]

/-- Standardizing keeps the handle. -/
theorem standardizePickup_sensorHandle (sensor : SensorInfo)
    : (standardizePickup sensor).sensorHandle = sensor.sensorHandle := by
  unfold standardizePickup
  split <;> rfl

/-- The owner once an entry has been looked at. -/
def Entry.ownerAfter (mDirectChannelSubHal : Option Nat) (entry : Entry) : Option Nat :=
  if mDirectChannelSubHal = none ∧ entry.sensor.supportsDirect = true then
    some entry.subHalIndex
  else
    mDirectChannelSubHal

/-- There is still no owner exactly when there was none and the entry is not capable. -/
theorem Entry.ownerAfter_eq_none {mDirectChannelSubHal : Option Nat} {entry : Entry}
    : entry.ownerAfter mDirectChannelSubHal = none
      ↔ mDirectChannelSubHal = none ∧ entry.sensor.supportsDirect = false := by
  unfold Entry.ownerAfter
  cases mDirectChannelSubHal <;> cases entry.sensor.supportsDirect <;> simp

/-- An accepted entry is listed under its global handle. -/
theorem addSensor_eq {list : SensorList} {entry : Entry} (accepted : entry.accepted = true)
    : list.addSensor entry.subHalIndex entry.sensor
      = {
        mSensors :=
          list.mSensors.insert entry.sensorHandle
            (entry.listed (entry.ownerAfter list.mDirectChannelSubHal))
        mDirectChannelSubHal := entry.ownerAfter list.mDirectChannelSubHal
      } := by
  have clear : subHalIndexIsClear entry.sensor.sensorHandle = true := accepted
  simp only [SensorList.addSensor, clear, if_true, setDirectChannelFlags_eq,
    standardizePickup_sensorHandle]
  rfl

/-- One more entry, whether or not it is accepted. -/
theorem Lists.addSensor {entries : List Entry} {list : SensorList} (lists : Lists entries list)
    (entry : Entry)
    : Lists (entries ++ [entry]) (list.addSensor entry.subHalIndex entry.sensor) := by
  cases accepted : entry.accepted with
  | false =>
      have same : list.addSensor entry.subHalIndex entry.sensor = list := by
        rw [SensorList.addSensor, if_neg (by simpa [Entry.accepted] using accepted)]
      rw [same]
      exact {
        incapable := by
          intro without other member taken
          rcases List.mem_append.mp member with earlier | last
          · exact lists.incapable without other earlier taken
          · obtain rfl := List.mem_singleton.mp last
            rw [accepted] at taken
            cases taken
        capable := by
          intro owner found
          obtain ⟨first, member, rest⟩ := lists.capable owner found
          exact ⟨first, List.mem_append_left _ member, rest⟩
        table := by
          intro sensorHandle
          rw [lists.table sensorHandle, List.reverse_append]
          simp [accepted]
      }
  | true =>
      rw [addSensor_eq accepted]
      -- The entries so far are listed alike when this one brings the owner.
      have kept (other : Entry) (member : other ∈ entries) (taken : other.accepted = true)
          : other.listed (entry.ownerAfter list.mDirectChannelSubHal)
            = other.listed list.mDirectChannelSubHal := by
        unfold Entry.ownerAfter
        split
        · rename_i first
          exact Entry.listed_eq (lists.incapable first.1 other member taken) _ _
        · rfl
      exact {
        incapable := by
          intro without other member taken
          have still := Entry.ownerAfter_eq_none.mp without
          rcases List.mem_append.mp member with earlier | last
          · exact lists.incapable still.1 other earlier taken
          · obtain rfl := List.mem_singleton.mp last
            exact still.2
        capable := by
          intro owner found
          simp only [Entry.ownerAfter] at found
          split at found
          · rename_i first
            obtain rfl := Option.some.inj found
            exact ⟨entry, List.mem_append_right _ (List.mem_singleton_self entry), rfl, accepted,
              first.2⟩
          · obtain ⟨first, member, rest⟩ := lists.capable owner found
            exact ⟨first, List.mem_append_left _ member, rest⟩
        table := by
          intro sensorHandle
          rw [List.reverse_append, List.reverse_singleton, List.singleton_append, List.find?_cons]
          simp only [accepted, Bool.true_and, SensorTable.insert]
          by_cases same : entry.sensorHandle = sensorHandle
          · simp [same]
          · have different : ¬ sensorHandle = entry.sensorHandle := fun equal => same equal.symm
            rw [if_neg different, lists.table sensorHandle, beq_false_of_ne same]
            refine Option.map_congr (fun found isFound => ?_)
            have member := List.mem_reverse.mp (List.mem_of_find?_eq_some isFound)
            have matched := List.find?_some isFound
            exact (kept found member (Bool.and_eq_true_iff.mp matched).1).symm
      }

/-- The list that `initializeSensorList` makes of the sub-HALs' sensors, by induction over the
entries from the last.
-/
theorem lists_initializeSensorList (subHals : List (List SensorInfo))
    : Lists (entries subHals) (initializeSensorList subHals) := by
  rw [initializeSensorList_eq]
  induction entries subHals using List.reverseRecOn with
  | nil =>
      exact {
        incapable := fun _ _ member => absurd member (List.not_mem_nil)
        capable := fun _ found => by cases found
        table := fun _ => rfl
      }
  | append_singleton entries entry ih =>
      rw [List.foldl_append]
      exact ih.addSensor entry

-----------------------------------------------------------------------------------------
-- The owner of direct channels
-----------------------------------------------------------------------------------------

/-- The last sensor that the numbered sub-HAL lists under a local handle. -/
def lastListed (subHals : List (List SensorInfo)) (subHalIndex : Nat) (localHandle : BitVec 32)
    : Option SensorInfo :=
  (subHals[subHalIndex]?.getD []).reverse.find? (·.sensorHandle = localHandle)

/-- Each entry is of one of the sub-HALs. -/
theorem subHalIndex_lt {subHals : List (List SensorInfo)} {entry : Entry}
    (member : entry ∈ entries subHals)
    : entry.subHalIndex < subHals.length := by
  obtain ⟨sensors, listed, -⟩ := mem_entries.mp member
  exact (List.getElem?_eq_some_iff.mp listed).1

/-- Fewer than 128 sub-HALs have handles of their own: the last entry of a global handle is the
last sensor that its sub-HAL lists under the local handle.
-/
theorem find_entries {subHals : List (List SensorInfo)} (few : subHals.length < 128)
    {subHalIndex : Nat} (small : subHalIndex < 128) {localHandle : BitVec 32}
    (clear : subHalIndexIsClear localHandle = true)
    : (entries subHals).reverse.find? (fun entry =>
        entry.accepted && entry.sensorHandle == setSubHalIndex localHandle subHalIndex)
      = (lastListed subHals subHalIndex localHandle).map (Entry.mk subHalIndex) := by
  have same (entry : Entry) (member : entry ∈ (entries subHals).reverse)
      : (entry.accepted && entry.sensorHandle == setSubHalIndex localHandle subHalIndex)
        = (decide (entry.sensor.sensorHandle = localHandle)
          && decide (entry.subHalIndex = 0 + subHalIndex)) := by
    have inside := subHalIndex_lt (List.mem_reverse.mp member)
    rw [Bool.eq_iff_iff]
    simp only [Bool.and_eq_true, beq_iff_eq, decide_eq_true_iff, Entry.sensorHandle, Nat.zero_add]
    constructor
    · rintro ⟨accepted, equal⟩
      obtain ⟨index, handle⟩ := setSubHalIndex_inj accepted clear (by omega) small equal
      exact ⟨handle, index⟩
    · rintro ⟨handle, index⟩
      rw [Entry.accepted, handle, index]
      exact ⟨clear, rfl⟩
  have own := filter_entries subHals 0 subHalIndex
  rw [← List.head?_filter, List.filter_congr same, ← List.filter_filter, List.filter_reverse,
    entries, own, Nat.zero_add, ← List.map_reverse, List.head?_filter, List.find?_map]
  rfl

/-- Standardizing keeps the flags. -/
theorem standardizePickup_flags (sensor : SensorInfo)
    : (standardizePickup sensor).flags = sensor.flags := by
  unfold standardizePickup
  split <;> rfl

/-- The flags of the owner's entries are those that it lists. -/
theorem Entry.listed_flags (entry : Entry)
    : (entry.listed (some entry.subHalIndex)).flags = entry.sensor.flags := by
  rw [Entry.listed, standardizePickup_flags, if_pos rfl]

/-- An entry that is left with a flag of direct channels is the owner's. -/
theorem Entry.owner_of_listed {mDirectChannelSubHal : Option Nat} {entry : Entry}
    (supports : (entry.listed mDirectChannelSubHal).supportsDirect = true)
    : mDirectChannelSubHal = some entry.subHalIndex := by
  by_contra other
  simp only [SensorInfo.supportsDirect, Entry.listed, standardizePickup_flags, if_neg other,
    decide_eq_true_iff] at supports
  refine supports (BitVec.eq_of_getLsbD_eq (fun bit inside => ?_))
  simp only [BitVec.getLsbD_and, BitVec.getLsbD_not]
  cases directMask.getLsbD bit <;> simp

/-- A handle with a small index is not the one that stands for all sensors. -/
theorem setSubHalIndex_ne_all {localHandle : BitVec 32} {subHalIndex : Nat}
    (clear : subHalIndexIsClear localHandle = true) (small : subHalIndex < 128)
    : setSubHalIndex localHandle subHalIndex ≠ -1 := by
  intro all
  have index := extractSubHalIndex_setSubHalIndex clear small
  rw [all] at index
  have huge : extractSubHalIndex (-1) = 0xFFFFFFFFFFFFFFFF := by decide
  omega

/-- A direct report for a published handle reaches the owner with its own local handle. -/
theorem configDirectReport_setSubHalIndex {localHandle : BitVec 32} {owner : Nat}
    (clear : subHalIndexIsClear localHandle = true) (small : owner < 128) (channelHandle : Int)
    (rate : RateLevel)
    : configDirectReport (some owner) (setSubHalIndex localHandle owner) channelHandle rate
      = .forwarded owner localHandle channelHandle rate := by
  have notAll := setSubHalIndex_ne_all clear small
  simp only [configDirectReport, notAll, false_and, if_false,
    clearSubHalIndex_setSubHalIndex owner clear]

/-- One sub-HAL owns direct channels: there is none exactly when no accepted sensor is capable,
only its sensors are left with such a flag, they keep their flags, and a direct report for one
of them reaches it with the handle that it lists.
-/
structure OwnsDirectChannels (subHals : List (List SensorInfo)) (list : SensorList)
    : Prop where
  none_iff
    : list.mDirectChannelSubHal = none
      ↔ ∀ sensors ∈ subHals, ∀ sensor ∈ sensors,
          subHalIndexIsClear sensor.sensorHandle = true → sensor.supportsDirect = false
  belongs
    : ∀ owner ∈ list.mDirectChannelSubHal, ∀ sensorHandle,
        ∀ sensor ∈ list.mSensors sensorHandle,
          sensor.supportsDirect = true
          → ∃ localHandle,
              subHalIndexIsClear localHandle = true
                ∧ sensorHandle = setSubHalIndex localHandle owner
  keepsFlags
    : ∀ owner ∈ list.mDirectChannelSubHal, ∀ localHandle,
        subHalIndexIsClear localHandle = true
        → (list.mSensors (setSubHalIndex localHandle owner)).map SensorInfo.flags
          = (lastListed subHals owner localHandle).map SensorInfo.flags
  reaches
    : ∀ sensorHandle, ∀ sensor ∈ list.mSensors sensorHandle,
        sensor.supportsDirect = true
        → ∃ owner localHandle,
            subHalIndexIsClear localHandle = true
              ∧ sensorHandle = setSubHalIndex localHandle owner
              ∧ (lastListed subHals owner localHandle).isSome = true
              ∧ ∀ channelHandle rate,
                  configDirectReport list.mDirectChannelSubHal sensorHandle channelHandle rate
                    = .forwarded owner localHandle channelHandle rate

/-- The entry behind an advertised sensor that supports direct channels is the owner's. -/
theorem Lists.direct {entries : List Entry} {list : SensorList} (lists : Lists entries list)
    {sensorHandle : BitVec 32} {sensor : SensorInfo}
    (advertised : sensor ∈ list.mSensors sensorHandle) (supports : sensor.supportsDirect = true)
    : ∃ entry ∈ entries,
        entry.accepted = true
          ∧ sensorHandle = entry.sensorHandle
          ∧ list.mDirectChannelSubHal = some entry.subHalIndex := by
  rw [Option.mem_def, lists.table sensorHandle] at advertised
  obtain ⟨entry, found, rfl⟩ := Option.map_eq_some_iff.mp advertised
  have matched := List.find?_some found
  obtain ⟨accepted, same⟩ := Bool.and_eq_true_iff.mp matched
  exact ⟨entry, List.mem_reverse.mp (List.mem_of_find?_eq_some found), accepted,
    (beq_iff_eq.mp same).symm, Entry.owner_of_listed supports⟩

/-- For every list of fewer than 128 sub-HALs, whatever sensors and flags they list in whatever
order, one sub-HAL owns direct channels once the sensors are listed.
-/
theorem ownsDirectChannels (subHals : List (List SensorInfo)) (few : subHals.length < 128)
    : OwnsDirectChannels subHals (initializeSensorList subHals) := by
  have lists := lists_initializeSensorList subHals
  exact {
    none_iff := by
      constructor
      · intro without sensors listed sensor member clear
        obtain ⟨index, inside⟩ := List.mem_iff_getElem?.mp listed
        exact lists.incapable without ⟨index, sensor⟩ (mem_entries.mpr ⟨sensors, inside, member⟩)
          clear
      · intro incapable
        cases found : (initializeSensorList subHals).mDirectChannelSubHal with
        | none => rfl
        | some owner =>
            obtain ⟨entry, member, -, accepted, capable⟩ := lists.capable owner found
            obtain ⟨sensors, inside, listed⟩ := mem_entries.mp member
            have without :=
              incapable sensors (List.mem_of_getElem? inside) entry.sensor listed accepted
            rw [capable] at without
            cases without
    belongs := by
      intro owner found sensorHandle sensor advertised supports
      obtain ⟨entry, -, accepted, same, owned⟩ := lists.direct advertised supports
      obtain rfl := Option.some.inj (found.symm.trans owned)
      exact ⟨entry.sensor.sensorHandle, accepted, same⟩
    keepsFlags := by
      intro owner found localHandle clear
      obtain ⟨entry, member, rfl, -, -⟩ := lists.capable owner found
      have small := subHalIndex_lt member
      rw [lists.table, find_entries few (by omega) clear, Option.map_map, Option.map_map]
      congr 1
      funext sensor
      rw [Option.mem_def.mp found]
      exact Entry.listed_flags ⟨entry.subHalIndex, sensor⟩
    reaches := by
      intro sensorHandle sensor advertised supports
      obtain ⟨entry, member, accepted, rfl, owned⟩ := lists.direct advertised supports
      have small := subHalIndex_lt member
      refine ⟨entry.subHalIndex, entry.sensor.sensorHandle, accepted, rfl, ?_, ?_⟩
      · rw [lastListed, List.find?_isSome]
        obtain ⟨sensors, inside, listed⟩ := mem_entries.mp member
        exact ⟨entry.sensor, by simpa [inside] using listed, by simp⟩
      · intro channelHandle rate
        rw [owned]
        exact configDirectReport_setSubHalIndex accepted (by omega) channelHandle rate
  }

/-- Witness: two sub-HALs that both list capable sensors, after an incapable one. -/
theorem ownsDirectChannels_two
    : OwnsDirectChannels
        [[{ sensorHandle := 1 }, { sensorHandle := 2, flags := 0x400 }],
          [{ sensorHandle := 1, flags := 0x480 }]]
        (initializeSensorList
          [[{ sensorHandle := 1 }, { sensorHandle := 2, flags := 0x400 }],
            [{ sensorHandle := 1, flags := 0x480 }]]) :=
  ownsDirectChannels _ (by decide)

end SensorList

end PongDevice.Sensors
