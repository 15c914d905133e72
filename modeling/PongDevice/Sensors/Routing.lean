import Mathlib.Data.Nat.Notation
import PongDevice.Sensors.Events

/-! How a request for a sensor finds its sub-HAL: the proxy packs the index of the sub-HAL into
the first byte of a handle and takes it out again.
-/

namespace PongDevice.Sensors

-----------------------------------------------------------------------------------------
-- The first byte of a handle
-----------------------------------------------------------------------------------------

/-- The handle without the sub-HAL index. -/
def clearSubHalIndex (sensorHandle : BitVec 32) : BitVec 32 := sensorHandle &&& ~~~0xFF000000

/-- The sub-HAL index: an arithmetic shift of the handle, cast to the 64 bits of `size_t`. -/
def extractSubHalIndex (sensorHandle : BitVec 32) : Nat :=
  ((sensorHandle.sshiftRight 24).signExtend 64).toNat

/-- The bits of the mask are those of the first byte. -/
theorem getLsbD_mask {bit : Nat} (inside : bit < 32)
    : (0xFF000000 : BitVec 32).getLsbD bit = decide (24 ≤ bit) := by
  have each : ∀ bit : Fin 32, (0xFF000000 : BitVec 32).getLsbD bit = decide (24 ≤ bit.val) := by
    decide
  exact each ⟨bit, inside⟩

/-- The first byte is clear when each of its bits is. -/
theorem subHalIndexIsClear_iff (sensorHandle : BitVec 32)
    : subHalIndexIsClear sensorHandle = true
      ↔ ∀ bit, 24 ≤ bit → sensorHandle.getLsbD bit = false := by
  rw [subHalIndexIsClear, decide_eq_true_iff]
  constructor
  · intro masked bit upper
    by_cases inside : bit < 32
    · have same : (sensorHandle &&& 0xFF000000).getLsbD bit = false := by
        rw [masked, BitVec.ofNat_eq_ofNat, BitVec.getLsbD_zero]
      rw [BitVec.getLsbD_and, getLsbD_mask inside] at same
      simpa [upper] using same
    · exact BitVec.getLsbD_of_ge _ _ (by omega)
  · intro clear
    refine BitVec.eq_of_getLsbD_eq (fun bit inside => ?_)
    rw [BitVec.getLsbD_and, getLsbD_mask inside]
    by_cases upper : 24 ≤ bit
    · simp [clear bit upper]
    · simp [upper]

/-- Clearing the first byte leaves it clear. -/
theorem subHalIndexIsClear_clearSubHalIndex (sensorHandle : BitVec 32)
    : subHalIndexIsClear (clearSubHalIndex sensorHandle) = true := by
  refine (subHalIndexIsClear_iff _).mpr (fun bit upper => ?_)
  by_cases inside : bit < 32
  · rw [clearSubHalIndex, BitVec.getLsbD_and, BitVec.getLsbD_not, getLsbD_mask inside]
    simp [upper]
  · exact BitVec.getLsbD_of_ge _ _ (by omega)

/-- The index that a handle carries, set on the handle without it, gives the handle back,
whatever its sign.
-/
theorem setSubHalIndex_clearSubHalIndex (sensorHandle : BitVec 32)
    : setSubHalIndex (clearSubHalIndex sensorHandle) (extractSubHalIndex sensorHandle)
      = sensorHandle := by
  refine BitVec.eq_of_getLsbD_eq (fun bit inside => ?_)
  rw [setSubHalIndex, clearSubHalIndex, extractSubHalIndex, BitVec.ofNat_toNat]
  simp only [BitVec.getLsbD_or, BitVec.getLsbD_and, BitVec.getLsbD_not, getLsbD_mask inside,
    BitVec.getLsbD_shiftLeft, BitVec.getLsbD_setWidth, BitVec.getLsbD_signExtend,
    BitVec.getLsbD_sshiftRight]
  by_cases upper : 24 ≤ bit
  · have back : 24 + (bit - 24) = bit := by omega
    have notLower : ¬ bit < 24 := by omega
    have small : bit - 24 < 32 := by omega
    have smaller : bit - 24 < 64 := by omega
    have notPast : ¬ 32 ≤ bit - 24 := by omega
    simp [upper, inside, back, notLower, small, smaller, notPast]
  · have lower : bit < 24 := by omega
    simp [inside, lower]

/-- Shifting a handle with an index down again leaves an index that fits into seven bits. -/
theorem sshiftRight_setSubHalIndex {sensorHandle : BitVec 32} {subHalIndex : Nat}
    (clear : subHalIndexIsClear sensorHandle = true) (small : subHalIndex < 128)
    : (setSubHalIndex sensorHandle subHalIndex).sshiftRight 24
      = BitVec.ofNat 32 subHalIndex := by
  have handleBit := (subHalIndexIsClear_iff sensorHandle).mp clear
  have indexBit (bit : Nat) (upper : 7 ≤ bit) : subHalIndex.testBit bit = false :=
    Nat.testBit_lt_two_pow (Nat.lt_of_lt_of_le small (Nat.pow_le_pow_right Nat.two_pos upper))
  refine BitVec.eq_of_getLsbD_eq (fun bit inside => ?_)
  rw [BitVec.getLsbD_sshiftRight, setSubHalIndex, BitVec.msb_eq_getLsbD_last]
  simp only [BitVec.getLsbD_or, BitVec.getLsbD_shiftLeft, BitVec.getLsbD_ofNat]
  split
  · rename_i within
    have notLower : ¬ 24 + bit < 24 := by omega
    rw [handleBit _ (Nat.le_add_right 24 bit)]
    simp [within, inside, notLower]
  · have upper : 7 ≤ bit := by omega
    rw [handleBit (32 - 1) (by decide), indexBit (32 - 1 - 24) (by decide), indexBit bit upper]
    simp

/-- A handle with an index gives the index back. -/
theorem extractSubHalIndex_setSubHalIndex {sensorHandle : BitVec 32} {subHalIndex : Nat}
    (clear : subHalIndexIsClear sensorHandle = true) (small : subHalIndex < 128)
    : extractSubHalIndex (setSubHalIndex sensorHandle subHalIndex) = subHalIndex := by
  have positive : (BitVec.ofNat 32 subHalIndex).msb = false := by
    rw [BitVec.msb_eq_decide, BitVec.toNat_ofNat]
    simp
    omega
  rw [extractSubHalIndex, sshiftRight_setSubHalIndex clear small,
    BitVec.signExtend_eq_setWidth_of_msb_false positive, BitVec.toNat_setWidth,
    BitVec.toNat_ofNat]
  omega

/-- A handle with an index gives the local handle back. -/
theorem clearSubHalIndex_setSubHalIndex {sensorHandle : BitVec 32} (subHalIndex : Nat)
    (clear : subHalIndexIsClear sensorHandle = true)
    : clearSubHalIndex (setSubHalIndex sensorHandle subHalIndex) = sensorHandle := by
  have handleBit := (subHalIndexIsClear_iff sensorHandle).mp clear
  refine BitVec.eq_of_getLsbD_eq (fun bit inside => ?_)
  rw [clearSubHalIndex, setSubHalIndex, BitVec.getLsbD_and, BitVec.getLsbD_not,
    getLsbD_mask inside, BitVec.getLsbD_or, BitVec.getLsbD_shiftLeft]
  by_cases upper : 24 ≤ bit
  · simp [upper, handleBit bit upper]
  · have lower : bit < 24 := by omega
    simp [inside, lower]

/-- Different local handles or sub-HALs have different handles. -/
theorem setSubHalIndex_inj {first second : BitVec 32} {firstIndex secondIndex : Nat}
    (firstClear : subHalIndexIsClear first = true)
    (secondClear : subHalIndexIsClear second = true)
    (firstSmall : firstIndex < 128) (secondSmall : secondIndex < 128)
    (same : setSubHalIndex first firstIndex = setSubHalIndex second secondIndex)
    : firstIndex = secondIndex ∧ first = second := by
  constructor
  · rw [← extractSubHalIndex_setSubHalIndex firstClear firstSmall, same,
      extractSubHalIndex_setSubHalIndex secondClear secondSmall]
  · rw [← clearSubHalIndex_setSubHalIndex firstIndex firstClear, same,
      clearSubHalIndex_setSubHalIndex secondIndex secondClear]

/-- `Result`. -/
inductive Result where
  | ok
  | permissionDenied
  | noMemory
  | badValue
  | invalidOperation
deriving DecidableEq, Repr

/-- `OperationMode`. -/
inductive OperationMode where
  | normal
  | dataInjection
deriving DecidableEq, Repr

/-- A call that the proxy makes to a sub-HAL for one sensor. -/
inductive SubHalCall where
  | activate (sensorHandle : BitVec 32) (enabled : Bool)
  | batch (sensorHandle : BitVec 32) (samplingPeriodNs maxReportLatencyNs : Int)
  | flush (sensorHandle : BitVec 32)
  | injectSensorData (event : Event)
deriving DecidableEq, Repr

/-- A sub-HAL as the proxy sees it: its answer to a call. -/
abbrev SubHal := SubHalCall → Result

/-- What a request returns, and the calls that it made with the index of the sub-HAL called. -/
abbrev Outcome := Result × List (Nat × SubHalCall)

section Requests

variable (mSubHalList : List SubHal)

def isSubHalIndexValid (sensorHandle : BitVec 32) : Bool :=
  extractSubHalIndex sensorHandle < mSubHalList.length

/-- Calls the sub-HAL that `getSubHalForSensorHandle` finds; `none` is an index out of range,
where C++ leaves the behaviour undefined.
-/
def callSubHal (sensorHandle : BitVec 32) (call : SubHalCall) : Option Outcome :=
  mSubHalList[extractSubHalIndex sensorHandle]?.map (fun subHal =>
    (subHal call, [(extractSubHalIndex sensorHandle, call)]))

/-- A request for a sensor: the call is made with the handle as its sub-HAL knows it. -/
def request (sensorHandle : BitVec 32) (call : BitVec 32 → SubHalCall) : Option Outcome :=
  if !isSubHalIndexValid mSubHalList sensorHandle then some (.badValue, [])
  else callSubHal mSubHalList sensorHandle (call (clearSubHalIndex sensorHandle))

def activate (sensorHandle : BitVec 32) (enabled : Bool) : Option Outcome :=
  request mSubHalList sensorHandle (.activate · enabled)

def batch (sensorHandle : BitVec 32) (samplingPeriodNs maxReportLatencyNs : Int)
    : Option Outcome :=
  request mSubHalList sensorHandle (.batch · samplingPeriodNs maxReportLatencyNs)

def flush (sensorHandle : BitVec 32) : Option Outcome :=
  request mSubHalList sensorHandle .flush

/-- The mode is checked before the handle. -/
def injectSensorData (mCurrentOperationMode : OperationMode) (event : Event) : Option Outcome :=
  if mCurrentOperationMode = .normal ∧ event.sensorType ≠ .additionalInfo then
    some (.badValue, [])
  else
    request mSubHalList event.sensorHandle (fun sensorHandle =>
      .injectSensorData { event with sensorHandle := sensorHandle })

/-- A request was refused without a call, or made one call, to a sub-HAL of the list and with a
local handle that stands for the requested one.
-/
def Routed (sensorHandle : BitVec 32) (call : BitVec 32 → SubHalCall)
    (outcome : Option Outcome) : Prop :=
  outcome = some (.badValue, [])
    ∨ ∃ index localHandle,
        ∃ inside : index < mSubHalList.length,
          outcome = some (mSubHalList[index] (call localHandle), [(index, call localHandle)])
            ∧ subHalIndexIsClear localHandle = true
            ∧ setSubHalIndex localHandle index = sensorHandle

variable {mSubHalList}

/-- Every request is routed, whatever bits its handle has. -/
theorem request_routed (sensorHandle : BitVec 32) (call : BitVec 32 → SubHalCall)
    : Routed mSubHalList sensorHandle call (request mSubHalList sensorHandle call) := by
  rw [request]
  split
  · exact .inl rfl
  · rename_i valid
    have inside : extractSubHalIndex sensorHandle < mSubHalList.length := by
      simpa [isSubHalIndexValid] using valid
    refine .inr ⟨extractSubHalIndex sensorHandle, clearSubHalIndex sensorHandle, inside, ?_, ?_,
      setSubHalIndex_clearSubHalIndex sensorHandle⟩
    · rw [callSubHal, List.getElem?_eq_getElem inside, Option.map_some]
    · exact subHalIndexIsClear_clearSubHalIndex sensorHandle

/-- A request for a published handle calls the sub-HAL that published it, with the handle that
it published.
-/
theorem request_setSubHalIndex {index : Nat} {localHandle : BitVec 32}
    (inside : index < mSubHalList.length) (small : index < 128)
    (clear : subHalIndexIsClear localHandle = true) (call : BitVec 32 → SubHalCall)
    : request mSubHalList (setSubHalIndex localHandle index) call
      = some (mSubHalList[index] (call localHandle), [(index, call localHandle)]) := by
  have extracted := extractSubHalIndex_setSubHalIndex clear small
  have cleared := clearSubHalIndex_setSubHalIndex index clear
  rw [request, if_neg (by simpa [isSubHalIndexValid, extracted] using inside), callSubHal,
    extracted, cleared, List.getElem?_eq_getElem inside, Option.map_some]

/-- So is an injection, which may also be refused for its mode. -/
theorem injectSensorData_routed (mode : OperationMode) (event : Event)
    : Routed mSubHalList event.sensorHandle
        (fun sensorHandle => .injectSensorData { event with sensorHandle := sensorHandle })
        (injectSensorData mSubHalList mode event) := by
  rw [injectSensorData]
  split
  · exact .inl rfl
  · exact request_routed ..

variable (mSubHalList) in
/-- Every request for every handle is routed. -/
structure RoutesRequests : Prop where
  activate
    : ∀ sensorHandle enabled,
        Routed mSubHalList sensorHandle (.activate · enabled)
          (activate mSubHalList sensorHandle enabled)
  batch
    : ∀ sensorHandle samplingPeriodNs maxReportLatencyNs,
        Routed mSubHalList sensorHandle (.batch · samplingPeriodNs maxReportLatencyNs)
          (batch mSubHalList sensorHandle samplingPeriodNs maxReportLatencyNs)
  flush
    : ∀ sensorHandle, Routed mSubHalList sensorHandle .flush (flush mSubHalList sensorHandle)
  injectSensorData
    : ∀ mode event,
        Routed mSubHalList event.sensorHandle
          (fun sensorHandle => .injectSensorData { event with sensorHandle := sensorHandle })
          (injectSensorData mSubHalList mode event)

variable (mSubHalList) in
/-- Every request for the handle that a sub-HAL published calls it with the local handle. -/
structure ReachesPublisher (index : Nat) (subHal : SubHal) (localHandle : BitVec 32)
    : Prop where
  activate
    : ∀ enabled,
        activate mSubHalList (setSubHalIndex localHandle index) enabled
          = some (subHal (.activate localHandle enabled),
            [(index, .activate localHandle enabled)])
  batch
    : ∀ samplingPeriodNs maxReportLatencyNs,
        batch mSubHalList (setSubHalIndex localHandle index) samplingPeriodNs maxReportLatencyNs
          = some (subHal (.batch localHandle samplingPeriodNs maxReportLatencyNs),
            [(index, .batch localHandle samplingPeriodNs maxReportLatencyNs)])
  flush
    : flush mSubHalList (setSubHalIndex localHandle index)
        = some (subHal (.flush localHandle), [(index, .flush localHandle)])
  injectSensorData
    : ∀ mode event,
        event.sensorHandle = setSubHalIndex localHandle index
        → mode = .dataInjection ∨ event.sensorType = .additionalInfo
        → injectSensorData mSubHalList mode event
          = some (subHal (.injectSensorData { event with sensorHandle := localHandle }),
            [(index, .injectSensorData { event with sensorHandle := localHandle })])

/-- The handles that a sub-HAL of the list publishes reach it, up to 128 sub-HALs. -/
theorem reachesPublisher {index : Nat} {localHandle : BitVec 32}
    (inside : index < mSubHalList.length) (small : index < 128)
    (clear : subHalIndexIsClear localHandle = true)
    : ReachesPublisher mSubHalList index mSubHalList[index] localHandle where
  activate _ := request_setSubHalIndex inside small clear _
  batch _ _ := request_setSubHalIndex inside small clear _
  flush := request_setSubHalIndex inside small clear _
  injectSensorData mode event published allowed := by
    rw [Sensors.injectSensorData, if_neg, published]
    · exact request_setSubHalIndex inside small clear (fun sensorHandle =>
        .injectSensorData { event with sensorHandle := sensorHandle })
    · rintro ⟨normal, refused⟩
      rcases allowed with injecting | additional
      · rw [normal] at injecting
        cases injecting
      · exact refused additional

end Requests

/-- For every list of sub-HALs, each request is refused without a call or makes one call to the
sub-HAL that its handle encodes; a published handle reaches the sub-HAL that published it with
its own local handle; and different publications have different handles.
-/
theorem requests_reach_publisher (mSubHalList : List SubHal)
    : RoutesRequests mSubHalList
      ∧ (∀ index (inside : index < mSubHalList.length) localHandle,
        index < 128
        → subHalIndexIsClear localHandle = true
        → ReachesPublisher mSubHalList index mSubHalList[index] localHandle)
      ∧ (∀ firstIndex secondIndex firstHandle secondHandle,
        firstIndex < 128 → secondIndex < 128
        → subHalIndexIsClear firstHandle = true → subHalIndexIsClear secondHandle = true
        → setSubHalIndex firstHandle firstIndex = setSubHalIndex secondHandle secondIndex
        → firstIndex = secondIndex ∧ firstHandle = secondHandle) := by
  refine ⟨?_, ?_, ?_⟩
  · exact {
      activate := fun _ _ => request_routed ..
      batch := fun _ _ _ => request_routed ..
      flush := fun _ => request_routed ..
      injectSensorData := injectSensorData_routed
    }
  · exact fun index inside localHandle small clear => reachesPublisher inside small clear
  · intro firstIndex secondIndex firstHandle secondHandle firstSmall secondSmall
    exact fun firstClear secondClear same =>
      setSubHalIndex_inj firstClear secondClear firstSmall secondSmall same

end PongDevice.Sensors
