import PongDevice.Text.CString

/-! `sscanf` for decimal numbers with a separator between them, and what it makes of a text that
goes on. A number that ends before its text does is read in the same way however the text goes on;
a text that ends within a number leaves the number to what follows.
-/

namespace PongDevice.Text

-----------------------------------------------------------------------------------------
-- One number
-----------------------------------------------------------------------------------------

/-- Whether a minus sign comes first, after spaces. -/
def negative (text : List Char) : Bool :=
  (text.dropWhile isSpace).head? = some '-'

/-- What follows the spaces and the sign. -/
def unsignedPart (text : List Char) : List Char :=
  let text := text.dropWhile isSpace
  if text.head? = some '-' ∨ text.head? = some '+' then text.tail else text

/-- What `%d` stores of a number: the nearest one of 64 bits, of which an `int` keeps the low 32
bits.
-/
def storedInt (value : Int) : Int :=
  (max (-0x8000000000000000) (min value 0x7FFFFFFFFFFFFFFF)).bmod 0x100000000

/-- The number that `%d` stores, and the text after it. -/
def convert (text : List Char) : Option (Int × List Char) :=
  (scanInt text).map (fun value => (storedInt value, (unsignedPart text).dropWhile Char.isDigit))

/-- Whether a text ends within its number. -/
def runsOut (text : List Char) : Bool :=
  (unsignedPart text).all Char.isDigit

/-- The number of a text by its sign and its digits. -/
theorem scanInt_eq (text : List Char)
    : scanInt text
      = if (unsignedPart text).takeWhile Char.isDigit = [] then none
        else
          let value : Int :=
            Nat.ofDigitChars 10 ((unsignedPart text).takeWhile Char.isDigit) 0
          some (if negative text = true then -value else value) := by
  simp [scanInt, unsignedPart, negative]

/-- A text of spaces has no sign and no digits. -/
theorem unsignedPart_of_blank {text : List Char} (blank : text.all isSpace = true)
    : unsignedPart text = [] := by
  rw [unsignedPart, List.dropWhile_eq_nil_iff.mpr (List.all_eq_true.mp blank)]
  rfl

/-- There is no number in a text of spaces. -/
theorem scanInt_of_blank {text : List Char} (blank : text.all isSpace = true)
    : scanInt text = none := by
  rw [scanInt_eq, unsignedPart_of_blank blank]
  rfl

/-- Spaces before a number are nothing to it. -/
theorem scanInt_append_of_blank {text : List Char} (blank : text.all isSpace = true)
    (later : List Char)
    : scanInt (text ++ later) = scanInt later := by
  rw [scanInt, scanInt, List.dropWhile_append_of_pos (List.all_eq_true.mp blank)]

/-- A text that does not run out is not blank. -/
theorem not_blank_of_runsOut {text : List Char} (ends : runsOut text = false)
    : text.all isSpace = false := by
  rw [Bool.eq_false_iff]
  intro blank
  rw [runsOut, unsignedPart_of_blank blank] at ends
  cases ends

/-- Where a text is not blank its sign stands, and the rest goes on. -/
theorem unsignedPart_append {text : List Char} (later : List Char)
    (shown : text.all isSpace = false)
    : unsignedPart (text ++ later) = unsignedPart text ++ later
      ∧ negative (text ++ later) = negative text := by
  have nonempty : text.dropWhile isSpace ≠ [] := by
    rw [Ne, List.dropWhile_eq_nil_iff, ← List.all_eq_true, shown]
    exact Bool.false_ne_true
  obtain ⟨first, rest, shape⟩ := List.exists_cons_of_ne_nil nonempty
  have appended : (text ++ later).dropWhile isSpace = first :: (rest ++ later) := by
    simp [List.dropWhile_append, shape]
  constructor
  · simp only [unsignedPart, appended, shape, List.head?_cons, List.tail_cons]
    split <;> rfl
  · rw [negative, negative, appended, shape]
    rfl

/-- A digit begins the number of a blank text. -/
theorem unsignedPart_digit {text : List Char} {digit : Char} (later : List Char)
    (blank : text.all isSpace = true) (isDigit : digit.isDigit = true)
    : unsignedPart (text ++ digit :: later) = digit :: later := by
  obtain ⟨noSpace, noMinus, noPlus⟩ := not_isSpace_of_isDigit isDigit
  rw [unsignedPart, List.dropWhile_append_of_pos (List.all_eq_true.mp blank)]
  simp [noSpace, noMinus, noPlus]

/-- Something that is no digit ends the number of such a text. -/
theorem dropWhile_ne_nil_of_runsOut {text : List Char} (ends : runsOut text = false)
    : (unsignedPart text).dropWhile Char.isDigit ≠ [] := by
  rw [Ne, List.dropWhile_eq_nil_iff, ← List.all_eq_true, ← runsOut, ends]
  exact Bool.false_ne_true

/-- A number that ends before its text does is converted in the same way where the text goes on. -/
theorem convert_append {text : List Char} (ends : runsOut text = false) (later : List Char)
    : convert (text ++ later)
      = (convert text).map (fun converted => (converted.1, converted.2 ++ later)) := by
  obtain ⟨sameUnsigned, sameSign⟩ := unsignedPart_append later (not_blank_of_runsOut ends)
  have stops := dropWhile_ne_nil_of_runsOut ends
  have digits : (unsignedPart text ++ later).takeWhile Char.isDigit
      = (unsignedPart text).takeWhile Char.isDigit := by
    have shorter : ((unsignedPart text).takeWhile Char.isDigit).length
        ≠ (unsignedPart text).length := by
      have split := congrArg List.length
        (List.takeWhile_append_dropWhile (p := Char.isDigit) (l := unsignedPart text))
      have positive := List.length_pos_iff.mpr stops
      rw [List.length_append] at split
      omega
    rw [List.takeWhile_append, if_neg shorter]
  have rest : (unsignedPart text ++ later).dropWhile Char.isDigit
      = (unsignedPart text).dropWhile Char.isDigit ++ later := by
    rw [List.dropWhile_append, List.isEmpty_eq_false_iff.mpr stops]
    rfl
  rw [convert, convert, scanInt_eq, scanInt_eq, sameUnsigned, sameSign, digits, rest,
    Option.map_map]
  rfl

-----------------------------------------------------------------------------------------
-- Numbers in a row
-----------------------------------------------------------------------------------------

/-- The numbers that are converted with a separator between them, so many at most. -/
def scanInts (separator : Char) : Nat → List Char → List Int
  | 0, _ => []
  | count + 1, text =>
      match convert text with
      | none => []
      | some (value, []) => [value]
      | some (value, char :: later) =>
          value :: if char = separator then scanInts separator count later else []

/-- No more numbers are converted than are asked for, by induction over how many. -/
theorem length_scanInts_le (separator : Char) (count : Nat) (text : List Char)
    : (scanInts separator count text).length ≤ count := by
  induction count generalizing text with
  | zero => exact Nat.le_refl 0
  | succ count ih =>
      rw [scanInts]
      split
      · exact Nat.zero_le _
      · exact Nat.succ_le_succ (Nat.zero_le _)
      · rename_i value char later converted
        rw [List.length_cons]
        split
        · exact Nat.succ_le_succ (ih later)
        · exact Nat.succ_le_succ (Nat.zero_le _)

/-- `sscanf` of so many numbers; `none` is the failure at a text that ends before any. -/
def sscanf (separator : Char) (count : Nat) (text : List Char) : Option (List Int) :=
  if text.all isSpace = true then none else some (scanInts separator count text)

/-- The number that a text ends within, if it ends within one of so many: how many more are to
follow it, and where it begins.
-/
def cut (separator : Char) : Nat → List Char → Option (Nat × List Char)
  | 0, _ => none
  | count + 1, text =>
      if runsOut text = true then some (count, text)
      else
        match convert text with
        | some (_, char :: later) => if char = separator then cut separator count later else none
        | _ => none

/-- The text after a number that ends is not empty. -/
theorem exists_cons_of_convert {text rest : List Char} {value : Int}
    (ends : runsOut text = false) (converted : convert text = some (value, rest))
    : ∃ char later, rest = char :: later := by
  obtain ⟨_, _, same⟩ := Option.map_eq_some_iff.mp converted
  rw [← (Prod.mk.inj same).2]
  exact List.exists_cons_of_ne_nil (dropWhile_ne_nil_of_runsOut ends)

/-- A text that ends within none of the numbers is converted in the same way where it goes on. By
induction over their number.
-/
theorem scanInts_append_of_cut_eq_none {separator : Char} {count : Nat} {text : List Char}
    (whole : cut separator count text = none) (later : List Char)
    : scanInts separator count (text ++ later) = scanInts separator count text := by
  induction count generalizing text with
  | zero => rfl
  | succ count ih =>
      cases ends : runsOut text with
      | true => simp [cut, ends] at whole
      | false =>
          rw [scanInts, scanInts, convert_append ends]
          cases converted : convert text with
          | none => rfl
          | some result =>
              obtain ⟨value, rest⟩ := result
              obtain ⟨char, rest, rfl⟩ := exists_cons_of_convert ends converted
              by_cases separates : char = separator
              · have wholeRest : cut separator count rest = none := by
                  simpa [cut, ends, converted, separates] using whole
                simp [separates, ih wholeRest]
              · simp [separates]

/-- A text that ends within a number gives the earlier ones however it goes on. By induction over
how many are to be converted.
-/
theorem scanInts_append_of_cut_eq_some {separator : Char} {count later : Nat}
    {text number : List Char} (within : cut separator count text = some (later, number))
    : runsOut number = true
      ∧ ∃ earlier : List Int,
          earlier.length + (later + 1) = count
          ∧ ∀ more,
              scanInts separator count (text ++ more)
              = earlier ++ scanInts separator (later + 1) (number ++ more) := by
  induction count generalizing text with
  | zero => cases within
  | succ count ih =>
      cases ends : runsOut text with
      | true =>
          obtain ⟨rfl, rfl⟩ : count = later ∧ text = number := by
            simpa [cut, ends] using within
          exact ⟨ends, [], by simp, fun more => rfl⟩
      | false =>
          cases converted : convert text with
          | none => simp [cut, ends, converted] at within
          | some result =>
              obtain ⟨value, rest⟩ := result
              obtain ⟨char, rest, rfl⟩ := exists_cons_of_convert ends converted
              by_cases separates : char = separator
              · have withinRest : cut separator count rest = some (later, number) := by
                  simpa [cut, ends, converted, separates] using within
                obtain ⟨out, earlier, total, scans⟩ := ih withinRest
                refine ⟨out, value :: earlier, by simp only [List.length_cons]; omega, ?_⟩
                intro more
                rw [scanInts, convert_append ends, converted]
                simp [separates, scans]
              · simp [cut, ends, converted, separates] at within

-----------------------------------------------------------------------------------------
-- A number that the text ends within
-----------------------------------------------------------------------------------------

/-- One number is converted whatever follows it. -/
theorem scanInts_one (separator : Char) (text : List Char)
    : scanInts separator 1 text = ((scanInt text).map storedInt).toList := by
  rw [scanInts, convert]
  cases scanInt text with
  | none => rfl
  | some value =>
      cases (unsignedPart text).dropWhile Char.isDigit with
      | nil => rfl
      | cons char later => simp [scanInts]

/-- No more than one number is converted from a text that ends within it. -/
theorem scanInts_of_runsOut (separator : Char) {text : List Char} (out : runsOut text = true)
    (count : Nat)
    : scanInts separator (count + 1) text = ((scanInt text).map storedInt).toList := by
  rw [scanInts, convert, List.dropWhile_eq_nil_iff.mpr (List.all_eq_true.mp out)]
  cases scanInt text <;> rfl

/-- Of what follows a text that shows a part of its number, the digits go into the number. -/
theorem scanInt_append {text : List Char} (later : List Char)
    (shown : text.all isSpace = false) (out : runsOut text = true)
    : scanInt (text ++ later) = scanInt (text ++ later.takeWhile Char.isDigit) := by
  have digits := List.all_eq_true.mp out
  obtain ⟨unsigned, sign⟩ := unsignedPart_append later shown
  obtain ⟨unsignedDigits, signDigits⟩ :=
    unsignedPart_append (later.takeWhile Char.isDigit) shown
  rw [scanInt_eq, scanInt_eq, unsigned, sign, unsignedDigits, signDigits,
    List.takeWhile_append_of_pos digits, List.takeWhile_append_of_pos digits,
    List.takeWhile_idem]

/-- A digit goes on with the number of a text that ends within it. -/
theorem unsignedPart_append_digit {text : List Char} {digit : Char} (later : List Char)
    (isDigit : digit.isDigit = true)
    : unsignedPart (text ++ digit :: later) = unsignedPart text ++ digit :: later := by
  cases shown : text.all isSpace with
  | true =>
      rw [unsignedPart_digit later shown isDigit, unsignedPart_of_blank shown, List.nil_append]
  | false => exact (unsignedPart_append (digit :: later) shown).1

/-- A text that ends within a number goes on with a digit and with more numbers. -/
theorem scanInts_append_digit {separator digit : Char} {text : List Char}
    (out : runsOut text = true) (isDigit : digit.isDigit = true)
    (noDigit : separator.isDigit = false) (count : Nat) (later : List Char)
    : ∃ value,
        scanInts separator (count + 1) (text ++ digit :: separator :: later)
        = value :: scanInts separator count later := by
  have digits := List.all_eq_true.mp out
  have unsigned := @unsignedPart_append_digit text digit (separator :: later) isDigit
  have number : (unsignedPart (text ++ digit :: separator :: later)).takeWhile Char.isDigit
      = unsignedPart text ++ [digit] := by
    rw [unsigned, List.takeWhile_append_of_pos digits]
    simp [isDigit, noDigit]
  have rest : (unsignedPart (text ++ digit :: separator :: later)).dropWhile Char.isDigit
      = separator :: later := by
    rw [unsigned, List.dropWhile_append_of_pos digits]
    simp [isDigit, noDigit]
  obtain ⟨value, scanned⟩ :
      ∃ value, scanInt (text ++ digit :: separator :: later) = some value := by
    rw [scanInt_eq, number, if_neg (by simp)]
    exact ⟨_, rfl⟩
  exact ⟨storedInt value, by simp [scanInts, convert, scanned, rest]⟩

end PongDevice.Text
