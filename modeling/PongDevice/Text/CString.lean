import Mathlib.Data.List.TakeWhile
import Mathlib.Data.Int.Basic

/-! C's functions on texts: comparing a bounded number of characters, and scanning a decimal
number. A text is the characters before its terminator.
-/

namespace PongDevice.Text

-----------------------------------------------------------------------------------------
-- Comparison
-----------------------------------------------------------------------------------------

/-- What ends a text in memory. -/
def terminator : Char := Char.ofNat 0

/-- `strncmp` of two texts is 0 for so many characters. -/
def strncmpEq : List Char → List Char → Nat → Bool
  | _, _, 0 => true
  | first, second, count + 1 =>
      let char := first.headD terminator
      let other := second.headD terminator
      char == other && (char == terminator || strncmpEq first.tail second.tail count)

/-- A text equals itself over any number of characters, by induction over the number. -/
theorem strncmpEq_self (text : List Char) (count : Nat) : strncmpEq text text count = true := by
  induction count generalizing text with
  | zero => rfl
  | succ count ih => simp [strncmpEq, ih]

/-- Over its own length a text equals those that it is a prefix of, by induction over it. -/
theorem strncmpEq_iff_isPrefix {start : List Char} (whole : terminator ∉ start)
    (text : List Char)
    : strncmpEq text start start.length = true ↔ start <+: text := by
  induction start generalizing text with
  | nil => simp [strncmpEq]
  | cons char rest ih =>
      rw [List.mem_cons, not_or] at whole
      cases text with
      | nil => simp [strncmpEq, whole.1]
      | cons first later =>
          simp only [List.length_cons, strncmpEq, List.headD_cons, List.tail_cons,
            Bool.and_eq_true, beq_iff_eq, Bool.or_eq_true, ih whole.2,
            List.cons_prefix_cons]
          constructor
          · intro equal
            obtain ⟨rfl, ended | later⟩ := equal
            · exact absurd ended.symm whole.1
            · exact ⟨rfl, later⟩
          · intro starts
            obtain ⟨rfl, later⟩ := starts
            exact ⟨rfl, .inr later⟩

-----------------------------------------------------------------------------------------
-- Decimal numbers
-----------------------------------------------------------------------------------------

/-- `isspace`. -/
def isSpace (char : Char) : Bool :=
  char = ' ' || (9 ≤ char.toNat && char.toNat ≤ 13)

/-- The number that a text starts with after spaces and a sign, if there is one. -/
def scanInt (text : List Char) : Option Int :=
  let text := text.dropWhile isSpace
  let negative := text.head? = some '-'
  let unsigned := if negative ∨ text.head? = some '+' then text.tail else text
  let digits := unsigned.takeWhile Char.isDigit
  if digits = [] then
    none
  else
    let value : Int := Nat.ofDigitChars 10 digits 0
    some (if negative then -value else value)

/-- `std::stoi`; `none` is an exception, as there is no number or it is no `int`. -/
def stoi (text : String) : Option Int :=
  (scanInt text.toList).filter (fun value => -0x80000000 ≤ value ∧ value < 0x80000000)

/-- A digit is no space and no sign. -/
theorem not_isSpace_of_isDigit {char : Char} (digit : char.isDigit = true)
    : isSpace char = false ∧ char ≠ '-' ∧ char ≠ '+' := by
  obtain ⟨low, high⟩ := Char.isDigit_iff_toNat.mp digit
  have small : 48 ≤ char.toNat := low
  refine ⟨?_, ?_, ?_⟩
  · have other : char ≠ ' ' := by
      rintro rfl
      exact absurd small (by decide)
    simp only [isSpace, other, decide_false, Bool.false_or, Bool.and_eq_false_imp,
      decide_eq_true_eq, decide_eq_false_iff_not]
    omega
  · rintro rfl
    exact absurd small (by decide)
  · rintro rfl
    exact absurd small (by decide)

/-- What starts with a digit is scanned as its leading digits. -/
theorem scanInt_of_digit {char : Char} {rest : List Char} (digit : char.isDigit = true)
    : scanInt (char :: rest)
      = some (Nat.ofDigitChars 10 ((char :: rest).takeWhile Char.isDigit) 0 : Int) := by
  obtain ⟨noSpace, noMinus, noPlus⟩ := not_isSpace_of_isDigit digit
  simp [scanInt, noSpace, noMinus, noPlus, digit]

/-- The digits of a number are nothing but digits. -/
theorem takeWhile_toDigits (value : Nat)
    : (Nat.toDigits 10 value).takeWhile Char.isDigit = Nat.toDigits 10 value :=
  List.takeWhile_eq_self_iff.mpr (fun _ member =>
    Nat.isDigit_of_mem_toDigits (by decide) (by decide) member)

/-- The digits of a number are scanned back. -/
theorem scanInt_toDigits (value : Nat) : scanInt (Nat.toDigits 10 value) = some (value : Int) := by
  have nonempty : Nat.toDigits 10 value ≠ [] := Nat.toDigits_ne_nil
  obtain ⟨first, rest, shape⟩ := List.exists_cons_of_ne_nil nonempty
  have digit : first.isDigit = true :=
    Nat.isDigit_of_mem_toDigits (by decide) (by decide) (shape ▸ List.mem_cons_self)
  rw [shape, scanInt_of_digit digit, ← shape, takeWhile_toDigits, Nat.ofDigitChars_ten_toDigits]

/-- A negative number is written as its sign and its digits. -/
theorem toList_toString_negSucc (value : Nat)
    : (toString (Int.negSucc value)).toList = '-' :: Nat.toDigits 10 (value + 1) := by
  change ("-" ++ (value + 1).repr).toList = _
  rw [String.toList_append, Nat.toList_repr]
  rfl

/-- Another number is written as its digits. -/
theorem toList_toString_ofNat (value : Nat)
    : (toString (Int.ofNat value)).toList = Nat.toDigits 10 value :=
  Nat.toList_repr

/-- A number is written in digits and a sign. -/
theorem isDigit_or_eq_of_mem_toString {value : Int} {char : Char}
    (member : char ∈ (toString value).toList)
    : char.isDigit = true ∨ char = '-' := by
  cases value with
  | ofNat value =>
      rw [toList_toString_ofNat] at member
      exact .inl (Nat.isDigit_of_mem_toDigits (by decide) (by decide) member)
  | negSucc value =>
      rw [toList_toString_negSucc, List.mem_cons] at member
      rcases member with sign | digit
      · exact .inr sign
      · exact .inl (Nat.isDigit_of_mem_toDigits (by decide) (by decide) digit)

/-- A number that is written out is scanned back. -/
theorem scanInt_toString (value : Int) : scanInt (toString value).toList = some value := by
  cases value with
  | ofNat value =>
      rw [toList_toString_ofNat, scanInt_toDigits]
      rfl
  | negSucc value =>
      rw [toList_toString_negSucc]
      simp [scanInt, isSpace, takeWhile_toDigits, Nat.toDigits_ne_nil, Int.negSucc_eq]

/-- An `int` that is written out is read back. -/
theorem stoi_toString {value : Int} (low : -0x80000000 ≤ value) (high : value < 0x80000000)
    : stoi (toString value) = some value := by
  rw [stoi, scanInt_toString]
  simp [low, high]

end PongDevice.Text
