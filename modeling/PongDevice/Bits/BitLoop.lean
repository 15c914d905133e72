import Mathlib.Data.Finset.Lattice.Fold
import Mathlib.Data.Finset.SymmDiff
import Mathlib.Data.Int.Bitwise
import Mathlib.Order.Lattice.Nat

/-! Java's `BitSet`, and loops that visit the set bits of a number: they test its lowest bit,
shift it to the right and count the shifts in an `int`, until the number is zero.
-/

namespace PongDevice.Bits

-----------------------------------------------------------------------------------------
-- Sets of bits
-----------------------------------------------------------------------------------------

/-- A `BitSet`: the indices of its set bits. -/
abbrev BitSet := Finset Nat

namespace BitSet

/-- `set`; `none` is an `IndexOutOfBoundsException`. -/
def set (features : BitSet) (index : Int) : Option BitSet :=
  if index < 0 then none else some (insert index.toNat features)

/-- `flip`; `none` is an `IndexOutOfBoundsException`. -/
def flip (features : BitSet) (index : Int) : Option BitSet :=
  if index < 0 then none else some (symmDiff features {index.toNat})

/-- `get` of an index that is not negative. -/
def get (features : BitSet) (index : Nat) : Bool := index ∈ features

/-- `length`: the index of the highest set bit plus one. -/
def length (features : BitSet) : Nat := features.sup (· + 1)

/-- A set bit lies below the length. -/
theorem lt_length {features : BitSet} {index : Nat} (bit : features.get index = true)
    : index < features.length := by
  have member : index ∈ features := of_decide_eq_true bit
  exact @Finset.le_sup Nat Nat _ _ features (· + 1) index member

/-- A bit that is not below the length is not set. -/
theorem get_of_length_le {features : BitSet} {index : Nat} (beyond : features.length ≤ index)
    : features.get index = false :=
  Bool.eq_false_iff.mpr (fun bit => Nat.not_lt.mpr beyond (lt_length bit))

end BitSet

-----------------------------------------------------------------------------------------
-- Loops over bits
-----------------------------------------------------------------------------------------

/-- How far a computation has come: it has returned a value, thrown an exception, or is still
running when its fuel is used up.
-/
inductive Outcome (α : Type) where
  | returned (value : α)
  | threw
  | running
deriving DecidableEq

namespace Outcome

variable {α β : Type}

/-- Goes on with the value that was returned. -/
def bind : Outcome α → (α → Outcome β) → Outcome β
  | .returned value, rest => rest value
  | .threw, _ => .threw
  | .running, _ => .running

/-- A value or an exception. -/
def ofOption : Option α → Outcome α
  | some value => .returned value
  | none => .threw

/-- What returns in the end has returned at both steps. -/
theorem bind_eq_returned {first : Outcome α} {rest : α → Outcome β} {last : β}
    : first.bind rest = .returned last
      ↔ ∃ value, first = .returned value ∧ rest value = .returned last := by
  cases first <;> simp [bind]

end Outcome

/-- The next value of an `int` that counts up. -/
def increment (index : Int) : Int := (index + 1).bmod 0x100000000

/-- `while (!bi.equals(ZERO)) { if (bi.testBit(0)) visit(index); index++; bi = bi.shiftRight(1); }`
-/
def bitLoop (visit : BitSet → Int → Option BitSet)
    : Nat → BitSet → Int → Int → Outcome BitSet
  | 0, _, _, _ => .running
  | fuel + 1, features, index, bi =>
      if bi = 0 then .returned features
      else
        (Outcome.ofOption (if bi.testBit 0 then visit features index else some features)).bind
          (fun features => bitLoop visit fuel features (increment index) (bi >>> (1 : Nat)))

/-- A visit changes the bit at its index and no other one. -/
def ChangesBit (visit : BitSet → Int → Option BitSet) (change : Bool → Bool) : Prop :=
  ∀ features (index : Nat),
    ∃ after,
      visit features index = some after
        ∧ ∀ bit,
            after.get bit
            = if bit = index then change (features.get bit) else features.get bit

/-- `set` sets one bit. -/
theorem changesBit_set : ChangesBit BitSet.set (fun _ => true) := by
  intro features index
  refine ⟨insert index features, by simp [BitSet.set], fun bit => ?_⟩
  by_cases same : bit = index <;> simp [BitSet.get, same]

/-- `flip` flips one bit. -/
theorem changesBit_flip : ChangesBit BitSet.flip not := by
  intro features index
  refine ⟨symmDiff features {index}, by simp [BitSet.flip], fun bit => ?_⟩
  by_cases same : bit = index <;> simp [BitSet.get, Finset.mem_symmDiff, same]

/-- A number that is not negative is shifted as a natural number. -/
theorem natCast_shiftRight_one (value : Nat)
    : (value : Int) >>> (1 : Nat) = ((value >>> 1 : Nat) : Int) :=
  rfl

/-- An index that fits does not wrap. -/
theorem increment_eq {index : Nat} (small : index + 1 < 0x80000000)
    : increment index = ((index + 1 : Nat) : Int) := by
  rw [increment, Int.bmod_eq_of_le] <;> omega

/-- The loop over a number of `width` bits returns, and changes exactly its bits, moved up by the
index at which it starts. Witness: induction over the width.
-/
theorem bitLoop_returns {visit : BitSet → Int → Option BitSet} {change : Bool → Bool}
    (changes : ChangesBit visit change) (width : Nat) {value index : Nat} (features : BitSet)
    (short : value < 2 ^ width) (fits : index + width < 0x80000000)
    : ∃ after,
        (∀ fuel, width < fuel → bitLoop visit fuel features index value = .returned after)
          ∧ ∀ bit,
              after.get bit
              = if index ≤ bit ∧ value.testBit (bit - index) = true then
                  change (features.get bit)
                else features.get bit := by
  induction width generalizing value index features with
  | zero =>
      obtain rfl : value = 0 := by omega
      refine ⟨features, fun fuel enough => ?_, by simp⟩
      obtain ⟨fuel, rfl⟩ := Nat.exists_eq_succ_of_ne_zero (Nat.ne_of_gt enough)
      rfl
  | succ width ih =>
      by_cases zero : value = 0
      · subst zero
        refine ⟨features, fun fuel enough => ?_, by simp⟩
        obtain ⟨fuel, rfl⟩ := Nat.exists_eq_succ_of_ne_zero (Nat.ne_of_gt (by omega : 0 < fuel))
        rfl
      · have shorter : value >>> 1 < 2 ^ width := by
          rw [Nat.shiftRight_eq_div_pow]
          omega
        -- the set after the test of the lowest bit
        obtain ⟨middle, visited, bits⟩ : ∃ middle,
            (if value.testBit 0 then visit features index else some features) = some middle
              ∧ ∀ bit,
                  middle.get bit
                  = if bit = index ∧ value.testBit 0 = true then change (features.get bit)
                    else features.get bit := by
          cases lowest : value.testBit 0 with
          | false => exact ⟨features, rfl, by simp⟩
          | true =>
              obtain ⟨middle, visited, bits⟩ := changes features index
              exact ⟨middle, visited, by simpa using bits⟩
        obtain ⟨after, returns, later⟩ :=
          @ih (value >>> 1) (index + 1) middle shorter (by omega)
        refine ⟨after, fun fuel enough => ?_, fun bit => ?_⟩
        · obtain ⟨fuel, rfl⟩ :=
            Nat.exists_eq_succ_of_ne_zero (Nat.ne_of_gt (by omega : 0 < fuel))
          have nonzero : (value : Int) ≠ 0 := by omega
          have visitedInt
              : (if (value : Int).testBit 0 then visit features index else some features)
                = some middle :=
            visited
          rw [bitLoop, if_neg nonzero, visitedInt, increment_eq (by omega),
            natCast_shiftRight_one]
          exact returns fuel (by omega)
        · rw [later, bits]
          have shifted (above : index + 1 ≤ bit)
              : (value >>> 1).testBit (bit - (index + 1)) = value.testBit (bit - index) := by
            rw [Nat.testBit_shiftRight]
            congr 1
            omega
          by_cases here : bit = index
          · subst here
            simp
          · by_cases above : index + 1 ≤ bit
            · have past : index ≤ bit := by omega
              simp [here, shifted above, above, past]
            · have below : ¬index ≤ bit := by omega
              simp [here, above, below]

/-- The loop over a negative number never returns, as its sign is kept by every shift. -/
theorem bitLoop_ne_returned (visit : BitSet → Int → Option BitSet) {bi : Int}
    (negative : bi < 0) (fuel : Nat) (features : BitSet) (index : Int) (after : BitSet)
    : bitLoop visit fuel features index bi ≠ .returned after := by
  induction fuel generalizing features index bi with
  | zero => simp [bitLoop]
  | succ fuel ih =>
      intro returned
      rw [bitLoop, if_neg (by omega)] at returned
      obtain ⟨middle, -, later⟩ := Outcome.bind_eq_returned.mp returned
      have still : bi >>> (1 : Nat) < 0 := by
        rw [Int.shiftRight_eq_div_pow]
        omega
      exact ih still middle _ later

end PongDevice.Bits
