import PongDevice.Features.NtFeatures

/-! Whether the static initialiser comes to its end. Its loops shift a number until it is zero,
which a negative number never is.
-/

namespace PongDevice.Features

open PongDevice.Bits

-----------------------------------------------------------------------------------------
-- The size of the set
-----------------------------------------------------------------------------------------

/-- Filtering makes a text no longer. -/
theorem javaLength_filter_le (keep : Char → Bool) (text : List Char)
    : javaLength (text.filter keep) ≤ javaLength text := by
  induction text with
  | nil => exact le_refl _
  | cons char rest ih =>
      simp only [javaLength, List.map_cons, List.sum_cons] at ih ⊢
      by_cases kept : keep char = true
      · rw [List.filter_cons_of_pos kept, List.map_cons, List.sum_cons]
        omega
      · rw [List.filter_cons_of_neg kept]
        omega

/-- Nor does removing prefixes. -/
theorem javaLength_removeHexPrefix_le (text : List Char)
    : javaLength (removeHexPrefix text) ≤ javaLength text := by
  fun_induction removeHexPrefix text with
  | case1 => exact le_refl _
  | case2 rest ih =>
      simp only [javaLength, List.map_cons, List.sum_cons] at ih ⊢
      omega
  | case3 char rest _ ih =>
      simp only [javaLength, List.map_cons, List.sum_cons] at ih ⊢
      omega

/-- What `replace` leaves is no longer than the property. -/
theorem javaLength_replace_le (str : String)
    : javaLength (replace (some str)) ≤ javaLength str.toList :=
  le_trans (javaLength_filter_le _ _) (javaLength_removeHexPrefix_le _)

/-- The longest of short texts is short. -/
theorem maxLength_lt {bound : Nat} (positive : 0 < bound) {texts : List (List Char)}
    (short : ∀ text ∈ texts, javaLength text < bound)
    : maxLength texts < bound := by
  induction texts with
  | nil => exact positive
  | cons text rest ih =>
      have here := short text List.mem_cons_self
      have later := ih (fun other member => short other (List.mem_cons_of_mem text member))
      exact Nat.max_lt.mpr ⟨here, later⟩

/-- The size of the set does not wrap for short properties. -/
theorem bitsetSize_nonneg {system : System} (short : system.ShortProperties)
    : 0 ≤ bitsetSize system := by
  unfold bitsetSize
  have small :
      maxLength [
        replace (some system.fullProp), replace (some system.productDiffProp),
        replace (some system.deviceDiffProp)
      ] < 0x20000000 := by
    refine maxLength_lt (by decide) (fun text member => ?_)
    simp only [List.mem_cons, List.not_mem_nil, or_false] at member
    rcases member with rfl | rfl | rfl
    · exact Nat.lt_of_le_of_lt (javaLength_replace_le _) (short _)
    · exact Nat.lt_of_le_of_lt (javaLength_replace_le _) (short _)
    · exact Nat.lt_of_le_of_lt (javaLength_replace_le _) (short _)
  generalize maxLength _ = longest at small ⊢
  rw [Int.bmod_eq_of_le] <;> omega

-----------------------------------------------------------------------------------------
-- The loops
-----------------------------------------------------------------------------------------

/-- A number after a sign has at most `Integer.MAX_VALUE` bits. -/
theorem log2_of_signedValue {negative : Bool} {digits : List Char} {value : Nat}
    (accepted : signedValue negative digits = some (value : Int))
    : value.log2 < 0x7FFFFFFF := by
  rw [signedValue] at accepted
  split at accepted
  · cases accepted
  · obtain ⟨magnitude, -, number⟩ := Option.bind_eq_some_iff.mp accepted
    split at number
    · rename_i fits
      have same := Option.some.inj number
      split at same
      · obtain rfl : value = magnitude := by omega
        exact fits
      · obtain rfl : value = magnitude := by omega
        exact fits
    · cases number

/-- So has a number that `BigInteger` accepts. -/
theorem log2_of_bigInteger {text : List Char} {value : Nat}
    (accepted : bigInteger text = some (value : Int))
    : value.log2 < 0x7FFFFFFF := by
  rw [bigInteger.eq_def] at accepted
  split at accepted <;> exact log2_of_signedValue accepted

/-- `base` sets exactly the bits of its argument. -/
theorem base_returns {value : Nat} (fits : value.log2 < 0x7FFFFFFF) (sFeatures : BitSet)
    : ∃ after,
        (∀ fuel, value.log2 + 1 < fuel → base fuel sFeatures value = .returned after)
          ∧ ∀ bit, after.get bit = (sFeatures.get bit || value.testBit bit) := by
  obtain ⟨after, returns, bits⟩ :=
    @bitLoop_returns _ _ changesBit_set (value.log2 + 1) value 0 sFeatures Nat.lt_log2_self
      (by omega)
  refine ⟨after, returns, fun bit => ?_⟩
  rw [bits]
  cases value.testBit bit <;> simp

/-- `change` flips exactly the bits of its argument. -/
theorem change_returns {value : Nat} (fits : value.log2 < 0x7FFFFFFF) (sFeatures : BitSet)
    : ∃ after,
        (∀ fuel, value.log2 + 1 < fuel → change fuel sFeatures value = .returned after)
          ∧ ∀ bit, after.get bit = (sFeatures.get bit ^^ value.testBit bit) := by
  obtain ⟨after, returns, bits⟩ :=
    @bitLoop_returns _ _ changesBit_flip (value.log2 + 1) value 0 sFeatures Nat.lt_log2_self
      (by omega)
  refine ⟨after, returns, fun bit => ?_⟩
  rw [bits]
  cases value.testBit bit <;> simp

/-- The initialiser returns for numbers that are not negative, with the bits of `base` that
neither or both of the others flip.
-/
theorem staticInit_returns {system : System} (short : system.ShortProperties)
    {full productDiff deviceDiff : Nat}
    (acceptsFull : bigInteger (replace (some system.fullProp)) = some (full : Int))
    (acceptsProduct
      : bigInteger (replace (some system.productDiffProp)) = some (productDiff : Int))
    (acceptsDevice
      : bigInteger (replace (some system.deviceDiffProp)) = some (deviceDiff : Int))
    : ∃ enough sFeatures,
        (∀ fuel, enough ≤ fuel → staticInit system fuel = .returned sFeatures)
          ∧ ∀ bit,
              sFeatures.get bit = (full ^^^ productDiff ^^^ deviceDiff).testBit bit := by
  obtain ⟨first, based, firstBits⟩ := base_returns (log2_of_bigInteger acceptsFull) ∅
  obtain ⟨second, changed, secondBits⟩ :=
    change_returns (log2_of_bigInteger acceptsProduct) first
  obtain ⟨third, changedAgain, thirdBits⟩ :=
    change_returns (log2_of_bigInteger acceptsDevice) second
  refine ⟨full.log2 + productDiff.log2 + deviceDiff.log2 + 2, third, fun fuel enough => ?_,
    fun bit => ?_⟩
  · simp only [staticInit, if_neg (Int.not_lt.mpr (bitsetSize_nonneg short)), acceptsFull,
      acceptsProduct, acceptsDevice, Outcome.ofOption, Outcome.bind]
    rw [based fuel (by omega)]
    simp only
    rw [changed fuel (by omega)]
    exact changedAgain fuel (by omega)
  · rw [thirdBits, secondBits, firstBits, Nat.testBit_xor, Nat.testBit_xor]
    simp [BitSet.get]

/-- The initialiser is done only when each loop has returned. -/
theorem loops_of_staticInit {system : System} {fuel : Nat} {sFeatures : BitSet}
    {full productDiff deviceDiff : Int}
    (acceptsFull : bigInteger (replace (some system.fullProp)) = some full)
    (acceptsProduct : bigInteger (replace (some system.productDiffProp)) = some productDiff)
    (acceptsDevice : bigInteger (replace (some system.deviceDiffProp)) = some deviceDiff)
    (done : staticInit system fuel = .returned sFeatures)
    : ∃ first second,
        base fuel ∅ full = .returned first
          ∧ change fuel first productDiff = .returned second
          ∧ change fuel second deviceDiff = .returned sFeatures := by
  simp only [staticInit, acceptsFull, acceptsProduct, acceptsDevice, Outcome.ofOption] at done
  split at done
  · cases done
  · obtain ⟨full, same, based⟩ := Outcome.bind_eq_returned.mp done
    cases same
    obtain ⟨first, returned, rest⟩ := Outcome.bind_eq_returned.mp based
    obtain ⟨productDiff, same, changed⟩ := Outcome.bind_eq_returned.mp rest
    cases same
    obtain ⟨second, changed, rest⟩ := Outcome.bind_eq_returned.mp changed
    obtain ⟨deviceDiff, same, last⟩ := Outcome.bind_eq_returned.mp rest
    cases same
    exact ⟨first, second, returned, changed, last⟩

/-- The static initialiser comes to its end. -/
def Completes (system : System) : Prop :=
  ∃ fuel sFeatures, staticInit system fuel = .returned sFeatures

/-- An initialiser that comes to its end has shifted no negative number. -/
theorem nonneg_of_completes {system : System} {full productDiff deviceDiff : Int}
    (acceptsFull : bigInteger (replace (some system.fullProp)) = some full)
    (acceptsProduct : bigInteger (replace (some system.productDiffProp)) = some productDiff)
    (acceptsDevice : bigInteger (replace (some system.deviceDiffProp)) = some deviceDiff)
    (completes : Completes system)
    : 0 ≤ full ∧ 0 ≤ productDiff ∧ 0 ≤ deviceDiff := by
  obtain ⟨fuel, sFeatures, done⟩ := completes
  obtain ⟨first, second, based, changed, changedAgain⟩ :=
    loops_of_staticInit acceptsFull acceptsProduct acceptsDevice done
  refine ⟨?_, ?_, ?_⟩
  · by_contra negative
    exact bitLoop_ne_returned _ (Int.not_le.mp negative) _ _ _ _ based
  · by_contra negative
    exact bitLoop_ne_returned _ (Int.not_le.mp negative) _ _ _ _ changed
  · by_contra negative
    exact bitLoop_ne_returned _ (Int.not_le.mp negative) _ _ _ _ changedAgain

/-- For properties that `BigInteger` accepts, the initialiser comes to its end exactly when no
number is negative. Witness: a shift to the right keeps the sign, so that a negative number
never becomes zero.
-/
theorem staticInit_completes_iff {system : System} (short : system.ShortProperties)
    {full productDiff deviceDiff : Int}
    (acceptsFull : bigInteger (replace (some system.fullProp)) = some full)
    (acceptsProduct : bigInteger (replace (some system.productDiffProp)) = some productDiff)
    (acceptsDevice : bigInteger (replace (some system.deviceDiffProp)) = some deviceDiff)
    : Completes system ↔ 0 ≤ full ∧ 0 ≤ productDiff ∧ 0 ≤ deviceDiff := by
  refine ⟨nonneg_of_completes acceptsFull acceptsProduct acceptsDevice, fun positive => ?_⟩
  obtain ⟨positiveFull, positiveProduct, positiveDevice⟩ := positive
  obtain ⟨full, rfl⟩ := Int.eq_ofNat_of_zero_le positiveFull
  obtain ⟨productDiff, rfl⟩ := Int.eq_ofNat_of_zero_le positiveProduct
  obtain ⟨deviceDiff, rfl⟩ := Int.eq_ofNat_of_zero_le positiveDevice
  obtain ⟨enough, sFeatures, done, -⟩ :=
    staticInit_returns short acceptsFull acceptsProduct acceptsDevice
  exact ⟨enough, sFeatures, done enough (le_refl enough)⟩

/-- A device with a base property and a difference for the device, and none for the product. -/
def device (fullProp deviceDiffProp : String) : System where
  get key default :=
    if key = "ro.build.nothing.feature.base" then fullProp
    else if key = "ro.build.nothing.feature.diff.device.Pong" then deviceDiffProp
    else default
  product := "Pong"
  device := "Pong"

/-- Its properties are short where these two are. -/
theorem device_shortProperties {fullProp deviceDiffProp : String}
    (shortFull : javaLength fullProp.toList < 0x20000000)
    (shortDevice : javaLength deviceDiffProp.toList < 0x20000000)
    : (device fullProp deviceDiffProp).ShortProperties := by
  intro key
  simp only [device]
  split
  · exact shortFull
  · split
    · exact shortDevice
    · decide

/-- Witness: the properties of the device itself. -/
theorem staticInit_completes_iff_pong
    : Completes
          (device "0xe24800001004458438124a040106b4247b97ffL"
            "0x24100003044002001aa4144ac04803d1842000L")
      ↔ 0 ≤ (0xe24800001004458438124a040106b4247b97ff : Int)
        ∧ 0 ≤ (0 : Int)
        ∧ 0 ≤ (0x24100003044002001aa4144ac04803d1842000 : Int) :=
  staticInit_completes_iff (device_shortProperties (by decide) (by decide)) (by decide +kernel)
    (by decide +kernel) (by decide +kernel)

/-- A base property with a sign is accepted, and the loop over it never reaches zero. -/
theorem staticInit_completes_fails_negative
    : (device "-1" "0").ShortProperties
      ∧ bigInteger (replace (some (device "-1" "0").fullProp)) = some (-1)
      ∧ bigInteger (replace (some (device "-1" "0").productDiffProp)) = some 0
      ∧ bigInteger (replace (some (device "-1" "0").deviceDiffProp)) = some 0
      ∧ ¬Completes (device "-1" "0") := by
  have full : bigInteger (replace (some (device "-1" "0").fullProp)) = some (-1) := by
    decide +kernel
  have productDiff : bigInteger (replace (some (device "-1" "0").productDiffProp)) = some 0 := by
    decide +kernel
  have deviceDiff : bigInteger (replace (some (device "-1" "0").deviceDiffProp)) = some 0 := by
    decide +kernel
  refine ⟨device_shortProperties (by decide) (by decide), full, productDiff, deviceDiff, ?_⟩
  intro completes
  exact absurd (nonneg_of_completes full productDiff deviceDiff completes).1 (by decide)

end PongDevice.Features
