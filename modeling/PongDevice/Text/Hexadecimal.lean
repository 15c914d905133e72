import PongDevice.Text.CString

/-! Hexadecimal numbers as `strtoul` reads them: after spaces and a sign, with or without the
prefix `0x`, up to the first character that is no digit.
-/

namespace PongDevice.Text

/-- The value of a hexadecimal digit. -/
def hexDigit (char : Char) : Option Nat :=
  if '0' ≤ char ∧ char ≤ '9' then some (char.toNat - '0'.toNat)
  else if 'a' ≤ char ∧ char ≤ 'f' then some (char.toNat - 'a'.toNat + 10)
  else if 'A' ≤ char ∧ char ≤ 'F' then some (char.toNat - 'A'.toNat + 10)
  else none

/-- The number that a list of digits is, by the values of its digits. -/
def hexNumber (digits : List Char) : Nat :=
  digits.foldl (fun value char => 16 * value + (hexDigit char).getD 0) 0

/-- The prefix `0x` belongs to a number only before a digit. -/
def dropHexPrefix : List Char → List Char
  | '0' :: mark :: first :: rest =>
      if (mark = 'x' ∨ mark = 'X') ∧ (hexDigit first).isSome = true then first :: rest
      else '0' :: mark :: first :: rest
  | text => text

/-- The number that a text starts with after spaces and a sign, if there is one. -/
def scanHex (text : List Char) : Option Int :=
  let text := text.dropWhile isSpace
  let negative := text.head? = some '-'
  let unsigned := if negative ∨ text.head? = some '+' then text.tail else text
  let digits := (dropHexPrefix unsigned).takeWhile (fun char => (hexDigit char).isSome)
  if digits = [] then none
  else some (if negative then -(hexNumber digits : Int) else hexNumber digits)

/-- What `std::stoul` throws. -/
inductive StoulException where
  | invalidArgument
  | outOfRange
deriving DecidableEq, Repr

/-- `std::stoul(text, nullptr, 16)` for an `unsigned long` of 64 bits, to which the negative of
a number is its complement.
-/
def stoul (text : List Char) : Except StoulException (BitVec 64) :=
  match scanHex text with
  | none => .error .invalidArgument
  | some value =>
      if value.natAbs < 0x10000000000000000 then .ok (BitVec.ofInt 64 value)
      else .error .outOfRange

/-- A number is returned exactly where there is one of at most 64 bits. -/
theorem stoul_eq_ok_iff {text : List Char} {result : BitVec 64}
    : stoul text = .ok result
      ↔ ∃ value, scanHex text = some value ∧ value.natAbs < 0x10000000000000000
          ∧ BitVec.ofInt 64 value = result := by
  rw [stoul]
  cases scanned : scanHex text with
  | none => simp
  | some value =>
      by_cases small : value.natAbs < 0x10000000000000000
      · simp [small]
      · simp [small]

example : scanHex " 0x1Fg".toList = some 0x1F := by decide +kernel

example : stoul "-1".toList = .ok 0xFFFFFFFFFFFFFFFF#64 := by decide +kernel

end PongDevice.Text
