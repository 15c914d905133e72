import Mathlib.Data.List.Induction
import PongDevice.Sensors.Routing

/-! The sensors that sub-HALs connect and disconnect while the proxy runs. Calls of different
sub-HALs interleave in any order.
-/

namespace PongDevice.Sensors

/-- `mDynamicSensors.erase(sensorHandle)`. -/
def SensorTable.erase (table : SensorTable) (sensorHandle : BitVec 32) : SensorTable :=
  fun other => if other = sensorHandle then none else table other

/-- The loop of `onDynamicSensorsConnected`: the table after it, and the sensors that are
reported to the framework.
-/
def onDynamicSensorsConnected (subHalIndex : Nat)
    : SensorTable → List SensorInfo → SensorTable × List SensorInfo
  | mDynamicSensors, [] => (mDynamicSensors, [])
  | mDynamicSensors, sensor :: rest =>
      if !subHalIndexIsClear sensor.sensorHandle then
        onDynamicSensorsConnected subHalIndex mDynamicSensors rest
      else
        let sensor :=
          { sensor with sensorHandle := setSubHalIndex sensor.sensorHandle subHalIndex }
        let after :=
          onDynamicSensorsConnected subHalIndex
            (mDynamicSensors.insert sensor.sensorHandle sensor) rest
        (after.1, sensor :: after.2)

/-- The loop of `onDynamicSensorsDisconnected`: the table after it, and the handles that are
reported to the framework.
-/
def onDynamicSensorsDisconnected (subHalIndex : Nat)
    : SensorTable → List (BitVec 32) → SensorTable × List (BitVec 32)
  | mDynamicSensors, [] => (mDynamicSensors, [])
  | mDynamicSensors, sensorHandle :: rest =>
      if !subHalIndexIsClear sensorHandle then
        onDynamicSensorsDisconnected subHalIndex mDynamicSensors rest
      else
        let sensorHandle := setSubHalIndex sensorHandle subHalIndex
        if (mDynamicSensors sensorHandle).isSome then
          let after :=
            onDynamicSensorsDisconnected subHalIndex (mDynamicSensors.erase sensorHandle) rest
          (after.1, sensorHandle :: after.2)
        else
          onDynamicSensorsDisconnected subHalIndex mDynamicSensors rest

/-- The handles that a call of a sub-HAL is about: those of its list with a clear first byte. -/
def published (subHalIndex : Nat) (localHandles : List (BitVec 32)) : List (BitVec 32) :=
  (localHandles.filter subHalIndexIsClear).map (setSubHalIndex · subHalIndex)

/-- A call is about one handle more where its first byte is clear. -/
theorem mem_published_cons {subHalIndex : Nat} {sensorHandle : BitVec 32}
    (localHandle : BitVec 32) (rest : List (BitVec 32))
    : sensorHandle ∈ published subHalIndex (localHandle :: rest)
      ↔ (subHalIndexIsClear localHandle = true
          ∧ sensorHandle = setSubHalIndex localHandle subHalIndex)
        ∨ sensorHandle ∈ published subHalIndex rest := by
  cases clear : subHalIndexIsClear localHandle with
  | false => simp [published, clear]
  | true => simp [published, clear]

section Connected

variable {subHalIndex : Nat} {mDynamicSensors : SensorTable} {sensors : List SensorInfo}
  {sensorHandle : BitVec 32}

/-- A connect leaves every other entry as it was, by induction over the sensors. -/
theorem connected_of_not_published
    (other : sensorHandle ∉ published subHalIndex (sensors.map (·.sensorHandle)))
    : (onDynamicSensorsConnected subHalIndex mDynamicSensors sensors).1 sensorHandle
      = mDynamicSensors sensorHandle := by
  induction sensors generalizing mDynamicSensors with
  | nil => rfl
  | cons sensor rest ih =>
      rw [List.map_cons, mem_published_cons, not_or] at other
      rw [onDynamicSensorsConnected]
      split
      · exact ih other.2
      · rename_i clear
        have different : sensorHandle ≠ setSubHalIndex sensor.sensorHandle subHalIndex :=
          fun same => other.1 ⟨by simpa using clear, same⟩
        refine (ih other.2).trans ?_
        simp [SensorTable.insert, different]

/-- A connect has an entry for every handle that it is about, by induction over the sensors. -/
theorem connected_isSome
    : ((onDynamicSensorsConnected subHalIndex mDynamicSensors sensors).1 sensorHandle).isSome
      ↔ sensorHandle ∈ published subHalIndex (sensors.map (·.sensorHandle))
        ∨ (mDynamicSensors sensorHandle).isSome := by
  induction sensors generalizing mDynamicSensors with
  | nil => simp [onDynamicSensorsConnected, published]
  | cons sensor rest ih =>
      rw [onDynamicSensorsConnected, List.map_cons, mem_published_cons]
      split
      · rename_i dirty
        have passed : subHalIndexIsClear sensor.sensorHandle = false := by simpa using dirty
        simp [ih, passed]
      · rename_i clear
        have taken : subHalIndexIsClear sensor.sensorHandle = true := by simpa using clear
        by_cases same : sensorHandle = setSubHalIndex sensor.sensorHandle subHalIndex
        · subst same
          refine iff_of_true (ih.mpr (.inr ?_)) (.inl (.inl ⟨taken, rfl⟩))
          simp [SensorTable.insert]
        · simp [ih, SensorTable.insert, same]

end Connected

section Disconnected

variable {subHalIndex : Nat} {mDynamicSensors : SensorTable} {handles : List (BitVec 32)}
  {sensorHandle : BitVec 32}

/-- One handle of a disconnect: it is passed over, or not found, or removed and reported. -/
theorem disconnected_cons (localHandle : BitVec 32) (rest : List (BitVec 32))
    : onDynamicSensorsDisconnected subHalIndex mDynamicSensors (localHandle :: rest)
      = if subHalIndexIsClear localHandle = true
            ∧ (mDynamicSensors (setSubHalIndex localHandle subHalIndex)).isSome = true then
          let after :=
            onDynamicSensorsDisconnected subHalIndex
              (mDynamicSensors.erase (setSubHalIndex localHandle subHalIndex)) rest
          (after.1, setSubHalIndex localHandle subHalIndex :: after.2)
        else
          onDynamicSensorsDisconnected subHalIndex mDynamicSensors rest := by
  rw [onDynamicSensorsDisconnected]
  cases clear : subHalIndexIsClear localHandle with
  | false => simp
  | true => simp

/-- A disconnect removes the entries that it is about and no other, by induction over the
handles.
-/
theorem disconnected_apply
    : (onDynamicSensorsDisconnected subHalIndex mDynamicSensors handles).1 sensorHandle
      = if sensorHandle ∈ published subHalIndex handles then none
        else mDynamicSensors sensorHandle := by
  induction handles generalizing mDynamicSensors with
  | nil => simp [onDynamicSensorsDisconnected, published]
  | cons localHandle rest ih =>
      rw [disconnected_cons]
      simp only [mem_published_cons]
      by_cases same : sensorHandle = setSubHalIndex localHandle subHalIndex
      · subst same
        split
        · rename_i removed
          simp [ih, SensorTable.erase, removed.1]
        · rename_i kept
          rw [ih]
          cases found : mDynamicSensors (setSubHalIndex localHandle subHalIndex) with
          | none => simp
          | some sensor =>
              have passed : ¬ subHalIndexIsClear localHandle = true := by
                simpa [found] using kept
              simp [passed]
      · split
        · simp [ih, SensorTable.erase, same]
        · simp [ih, same]

/-- A disconnect reports the handles that it is about and that were connected, by induction over
the handles.
-/
theorem mem_disconnected
    : sensorHandle ∈ (onDynamicSensorsDisconnected subHalIndex mDynamicSensors handles).2
      ↔ sensorHandle ∈ published subHalIndex handles
        ∧ (mDynamicSensors sensorHandle).isSome := by
  induction handles generalizing mDynamicSensors with
  | nil => simp [onDynamicSensorsDisconnected, published]
  | cons localHandle rest ih =>
      rw [disconnected_cons, mem_published_cons]
      by_cases same : sensorHandle = setSubHalIndex localHandle subHalIndex
      · subst same
        split
        · rename_i removed
          simp [removed]
        · rename_i kept
          rw [ih]
          constructor
          · exact fun both => ⟨.inr both.1, both.2⟩
          · rintro ⟨clear | later, found⟩
            · exact absurd ⟨clear.1, found⟩ kept
            · exact ⟨later, found⟩
      · split
        · simp [ih, SensorTable.erase, same]
        · simp [ih, same]

/-- A disconnect reports no handle twice: an entry that it removed is not found again. -/
theorem nodup_disconnected
    : (onDynamicSensorsDisconnected subHalIndex mDynamicSensors handles).2.Nodup := by
  induction handles generalizing mDynamicSensors with
  | nil => exact List.nodup_nil
  | cons localHandle rest ih =>
      rw [disconnected_cons]
      split
      · refine List.nodup_cons.mpr ⟨fun again => ?_, ih⟩
        have found := (mem_disconnected.mp again).2
        simp [SensorTable.erase] at found
      · exact ih

end Disconnected

/-- The calls of the sub-HALs, of which there are at most 128. -/
inductive DynamicCall where
  | connected (subHalIndex : Fin 128) (dynamicSensorsAdded : List SensorInfo)
  | disconnected (subHalIndex : Fin 128) (dynamicSensorHandlesRemoved : List (BitVec 32))

namespace DynamicCall

/-- The sub-HAL that makes a call. -/
def subHalIndex : DynamicCall → Fin 128
  | .connected subHalIndex _ => subHalIndex
  | .disconnected subHalIndex _ => subHalIndex

/-- The local handles in a call's list. -/
def localHandles : DynamicCall → List (BitVec 32)
  | .connected _ sensors => sensors.map (·.sensorHandle)
  | .disconnected _ handles => handles

/-- Whether a call is a connect. -/
def connects : DynamicCall → Bool
  | .connected _ _ => true
  | .disconnected _ _ => false

/-- The table after a call. -/
def apply (mDynamicSensors : SensorTable) : DynamicCall → SensorTable
  | .connected subHalIndex sensors =>
      (onDynamicSensorsConnected subHalIndex mDynamicSensors sensors).1
  | .disconnected subHalIndex handles =>
      (onDynamicSensorsDisconnected subHalIndex mDynamicSensors handles).1

/-- Whether a call is made by a sub-HAL about one of its handles. -/
def isAbout (call : DynamicCall) (subHalIndex : Fin 128) (localHandle : BitVec 32) : Bool :=
  call.subHalIndex = subHalIndex && call.localHandles.contains localHandle

/-- The last call of a sub-HAL about a handle. -/
def last (calls : List DynamicCall) (subHalIndex : Fin 128) (localHandle : BitVec 32)
    : Option DynamicCall :=
  calls.reverse.find? (·.isAbout subHalIndex localHandle)

/-- A call is about the handle of a sub-HAL exactly where it publishes its global handle. -/
theorem mem_published_iff (call : DynamicCall) {subHalIndex : Fin 128} {localHandle : BitVec 32}
    (clear : subHalIndexIsClear localHandle = true)
    : setSubHalIndex localHandle subHalIndex ∈ published call.subHalIndex call.localHandles
      ↔ call.isAbout subHalIndex localHandle = true := by
  simp only [published, List.mem_map, List.mem_filter, isAbout, Bool.and_eq_true,
    decide_eq_true_iff, List.contains_iff_mem]
  constructor
  · rintro ⟨other, ⟨listed, otherClear⟩, same⟩
    obtain ⟨sameIndex, rfl⟩ :=
      setSubHalIndex_inj otherClear clear call.subHalIndex.isLt subHalIndex.isLt same
    exact ⟨Fin.ext sameIndex, listed⟩
  · rintro ⟨rfl, listed⟩
    exact ⟨localHandle, ⟨listed, clear⟩, rfl⟩

/-- A call changes no entry that it is not about. -/
theorem apply_of_not_published (call : DynamicCall) {mDynamicSensors : SensorTable}
    {sensorHandle : BitVec 32}
    (other : sensorHandle ∉ published call.subHalIndex call.localHandles)
    : call.apply mDynamicSensors sensorHandle = mDynamicSensors sensorHandle := by
  cases call with
  | connected subHalIndex sensors => exact connected_of_not_published other
  | disconnected subHalIndex handles => exact disconnected_apply.trans (if_neg other)

/-- After a call about an entry, the entry is there exactly when the call is a connect. -/
theorem apply_of_published (call : DynamicCall) (mDynamicSensors : SensorTable)
    {sensorHandle : BitVec 32}
    (about : sensorHandle ∈ published call.subHalIndex call.localHandles)
    : (call.apply mDynamicSensors sensorHandle).isSome = call.connects := by
  cases call with
  | connected subHalIndex sensors => exact connected_isSome.mpr (.inl about)
  | disconnected subHalIndex handles =>
      have removed : sensorHandle ∈ published subHalIndex handles := about
      rw [apply, disconnected_apply, if_pos removed]
      rfl

end DynamicCall

/-- `mDynamicSensors` after a run of calls. -/
def dynamicSensorsAfter (calls : List DynamicCall) : SensorTable :=
  calls.foldl DynamicCall.apply (fun _ => none)

/-- The keys after one more call. -/
theorem dynamicSensorsAfter_append (calls : List DynamicCall) (call : DynamicCall)
    : dynamicSensorsAfter (calls ++ [call]) = call.apply (dynamicSensorsAfter calls) := by
  rw [dynamicSensorsAfter, List.foldl_append]
  rfl

/-- Every key was published by some sub-HAL, by induction over the calls from the last. -/
theorem published_of_mem {calls : List DynamicCall} {sensorHandle : BitVec 32}
    (present : (dynamicSensorsAfter calls sensorHandle).isSome = true)
    : ∃ subHalIndex : Fin 128, ∃ localHandle,
        subHalIndexIsClear localHandle = true
          ∧ sensorHandle = setSubHalIndex localHandle subHalIndex := by
  induction calls using List.reverseRecOn with
  | nil => cases present
  | append_singleton calls call ih =>
      rw [dynamicSensorsAfter_append] at present
      by_cases about : sensorHandle ∈ published call.subHalIndex call.localHandles
      · obtain ⟨localHandle, listed, same⟩ := List.mem_map.mp about
        exact ⟨call.subHalIndex, localHandle, (List.mem_filter.mp listed).2, same.symm⟩
      · rw [call.apply_of_not_published about] at present
        exact ih present

/-- A handle is a key exactly when the last call about it was a connect, by induction over the
calls from the last.
-/
theorem dynamicSensorsAfter_isSome (calls : List DynamicCall) {subHalIndex : Fin 128}
    {localHandle : BitVec 32} (clear : subHalIndexIsClear localHandle = true)
    : (dynamicSensorsAfter calls (setSubHalIndex localHandle subHalIndex)).isSome
      = (DynamicCall.last calls subHalIndex localHandle).any DynamicCall.connects := by
  induction calls using List.reverseRecOn with
  | nil => rfl
  | append_singleton calls call ih =>
      rw [dynamicSensorsAfter_append, DynamicCall.last, List.reverse_append]
      cases about : call.isAbout subHalIndex localHandle with
      | true =>
          rw [call.apply_of_published _ ((call.mem_published_iff clear).mpr about)]
          simp [about]
      | false =>
          have other
              : setSubHalIndex localHandle subHalIndex
                ∉ published call.subHalIndex call.localHandles := by
            rw [call.mem_published_iff clear, about]
            exact Bool.false_ne_true
          rw [call.apply_of_not_published other, ih]
          simp [about, DynamicCall.last]

/-- For every sequence of calls, the keys are the handles whose last call was a connect; a call
changes no entry of another sub-HAL; and a disconnect reports what it removes, each once.
-/
theorem dynamicSensors_follow_calls (calls : List DynamicCall)
    : (∀ sensorHandle,
        (dynamicSensorsAfter calls sensorHandle).isSome = true
        ↔ ∃ subHalIndex : Fin 128, ∃ localHandle,
            subHalIndexIsClear localHandle = true
              ∧ sensorHandle = setSubHalIndex localHandle subHalIndex
              ∧ (DynamicCall.last calls subHalIndex localHandle).any DynamicCall.connects = true)
      ∧ (∀ call : DynamicCall, ∀ subHalIndex : Fin 128, ∀ localHandle,
        call.subHalIndex ≠ subHalIndex
        → subHalIndexIsClear localHandle = true
        → call.apply (dynamicSensorsAfter calls) (setSubHalIndex localHandle subHalIndex)
          = dynamicSensorsAfter calls (setSubHalIndex localHandle subHalIndex))
      ∧ (∀ subHalIndex : Fin 128, ∀ handles,
        let before := dynamicSensorsAfter calls
        let after := onDynamicSensorsDisconnected subHalIndex before handles
        after.2.Nodup
          ∧ ∀ sensorHandle,
              sensorHandle ∈ after.2
              ↔ (before sensorHandle).isSome = true ∧ after.1 sensorHandle = none) := by
  refine ⟨fun sensorHandle => ⟨fun present => ?_, ?_⟩, ?_, ?_⟩
  · obtain ⟨subHalIndex, localHandle, clear, rfl⟩ := published_of_mem present
    rw [dynamicSensorsAfter_isSome calls clear] at present
    exact ⟨subHalIndex, localHandle, clear, rfl, present⟩
  · rintro ⟨subHalIndex, localHandle, clear, rfl, connected⟩
    rwa [dynamicSensorsAfter_isSome calls clear]
  · intro call subHalIndex localHandle different clear
    refine call.apply_of_not_published (fun about => different ?_)
    have made := (call.mem_published_iff clear).mp about
    simp only [DynamicCall.isAbout, Bool.and_eq_true, decide_eq_true_iff] at made
    exact made.1
  · intro subHalIndex handles before after
    refine ⟨nodup_disconnected, fun sensorHandle => ?_⟩
    rw [mem_disconnected, disconnected_apply]
    by_cases about : sensorHandle ∈ published subHalIndex handles
    · simp [about]
    · cases found : before sensorHandle with
      | none => simp
      | some sensor => simp [about]

end PongDevice.Sensors
