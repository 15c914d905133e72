import PongDevice.Features.Initialiser

/-! Which features are supported: the bits of the base mask that the masks of the differences
leave set.
-/

namespace PongDevice.Features

open PongDevice.Bits

/-- `isSupport` without the test of the length. -/
def supportsUnguarded (sFeatures : BitSet) (features : List Int) : Bool :=
  features.all (fun feature => 0 ≤ feature && sFeatures.get feature.toNat)

/-- The test of the length never decides: a bit beyond the length is not set. -/
theorem isSupport_eq_unguarded (sFeatures : BitSet) (features : List Int)
    : isSupport sFeatures features = supportsUnguarded sFeatures features := by
  induction features with
  | nil => rfl
  | cons feature rest ih =>
      rw [isSupport, ih]
      simp only [supportsUnguarded, List.all_cons]
      split
      · rename_i refused
        rcases refused with negative | beyond
        · have below : ¬0 ≤ feature := Int.not_le.mpr negative
          simp [below]
        · have unset : sFeatures.get feature.toNat = false :=
            BitSet.get_of_length_le (by omega)
          simp [unset]
      · rename_i inside
        rw [not_or, Int.not_lt] at inside
        cases bit : sFeatures.get feature.toNat <;> simp [inside.1]

/-- All listed features are supported when each of them is a set bit. -/
theorem isSupport_iff_get (sFeatures : BitSet) (features : List Int)
    : isSupport sFeatures features = true
      ↔ ∀ feature ∈ features, 0 ≤ feature ∧ sFeatures.get feature.toNat = true := by
  simp [isSupport_eq_unguarded, supportsUnguarded]

/-- The loops change exactly the bits of their argument, for every number that a `BigInteger`
without a sign can be.
-/
structure LoopsChangeBits : Prop where
  base
    : ∀ (value : Nat) sFeatures,
        value.log2 < 0x7FFFFFFF
        → ∃ after,
            (∀ fuel, value.log2 + 1 < fuel → base fuel sFeatures value = .returned after)
              ∧ ∀ bit, after.get bit = (sFeatures.get bit || value.testBit bit)
  change
    : ∀ (value : Nat) sFeatures,
        value.log2 < 0x7FFFFFFF
        → ∃ after,
            (∀ fuel, value.log2 + 1 < fuel → change fuel sFeatures value = .returned after)
              ∧ ∀ bit, after.get bit = (sFeatures.get bit ^^ value.testBit bit)

/-- The initialiser returns a set in which a list of features is supported exactly if each of
them is a bit of the mask.
-/
structure SupportsMask (system : System) (mask : Nat) : Prop where
  supports
    : ∃ enough sFeatures,
        (∀ fuel, enough ≤ fuel → staticInit system fuel = .returned sFeatures)
          ∧ ∀ features,
              (isSupport sFeatures features = true
                ↔ ∀ feature ∈ features, 0 ≤ feature ∧ mask.testBit feature.toNat = true)
              ∧ isSupport sFeatures features = supportsUnguarded sFeatures features
  loops : LoopsChangeBits

end PongDevice.Features
