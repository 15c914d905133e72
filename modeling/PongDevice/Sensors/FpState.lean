import PongDevice.Sensors.OneShotSensor
import PongDevice.Text.Scanf

/-! The touch that the fingerprint sensor reads out of `fp_state`. The buffer is neither cleared
nor terminated, so the text that is parsed goes on after what was read, with what the stack held.
-/

namespace PongDevice.Sensors.FpState

open Text OneShotSensor

-----------------------------------------------------------------------------------------
-- The buffer
-----------------------------------------------------------------------------------------

/-- `sizeof(buffer)`. -/
def bufferSize : Nat := 512

/-- The text that starts where the buffer does: what was read, what the buffer held before behind
it, and what follows the buffer, up to a terminator.
-/
def bufferText (content stale beyond : List Char) : List Char :=
  (content ++ (stale.drop content.length ++ beyond)).takeWhile (· ≠ terminator)

/-- What the calls of `readFpState` answer where the node is read. -/
def fpReading (content stale beyond : List Char) : FpReading where
  lseek := 0
  read := content.length
  sscanf := sscanf ',' 3 (bufferText content stale beyond)

/-- What is read as a text of its own. -/
def contentText (content : List Char) : List Char :=
  content.takeWhile (· ≠ terminator)

/-- A touch and its coordinates, by the numbers that are converted. -/
def report (screen : Screen) (values : List Int) : Bool × Screen :=
  ((values[2]?).getD 0 > 0,
    {
      mScreenX := (values[0]?).getD screen.mScreenX
      mScreenY := (values[1]?).getD screen.mScreenY
    })

/-- A text without numbers is reported as one that does not parse. -/
theorem readFpState_fpReading (screen : Screen) (content stale beyond : List Char)
    : readFpState screen (fpReading content stale beyond)
      = report screen (scanInts ',' 3 (bufferText content stale beyond)) := by
  have noError : ¬ (content.length : Int) < 0 := by omega
  simp only [readFpState, fpReading, noError, ne_eq, not_true_eq_false, if_false, sscanf]
  by_cases blank : (bufferText content stale beyond).all isSpace = true
  · rw [if_pos blank, scanInts, convert, scanInt_of_blank blank]
    rfl
  · rw [if_neg blank]
    rfl

/-- A text is three numbers: the coordinates of a touch, and a positive state. -/
def IsTouch (text : List Char) (screen : Screen) : Prop :=
  ∃ state,
    scanInts ',' 3 text = [screen.mScreenX, screen.mScreenY, state] ∧ 0 < state

/-- A touch is reported where three numbers are converted and the third is positive. -/
theorem report_touched {screen : Screen} {text : List Char}
    (touched : (report screen (scanInts ',' 3 text)).1 = true)
    : IsTouch text (report screen (scanInts ',' 3 text)).2 := by
  have short := length_scanInts_le ',' 3 text
  unfold IsTouch
  generalize scanInts ',' 3 text = values at short touched ⊢
  match values with
  | [x, y, state] => exact ⟨state, rfl, of_decide_eq_true touched⟩
  | [] => simp [report] at touched
  | [_] => simp [report] at touched
  | [_, _] => simp [report] at touched
  | _ :: _ :: _ :: _ :: _ =>
      simp only [List.length_cons] at short
      omega

-----------------------------------------------------------------------------------------
-- The property
-----------------------------------------------------------------------------------------

/-- What was read decides what is reported, whatever the buffer held and whatever follows it: the
reports agree, a touch that is reported has been read, and an event carries the coordinates that
have been read.
-/
structure ReadsAlone (content : List Char) : Prop where
  agrees :
    ∀ screen stale other beyond,
      stale.length = bufferSize → other.length = bufferSize
      → readFpState screen (fpReading content stale beyond)
        = readFpState screen (fpReading content other beyond)
  parsed :
    ∀ screen stale beyond,
      stale.length = bufferSize
      → (readFpState screen (fpReading content stale beyond)).1 = true
      → IsTouch (contentText content) (readFpState screen (fpReading content stale beyond)).2
  posted :
    ∀ (before after : OneShotSensor Screen) stale beyond,
      stale.length = bufferSize
      → before.dispatch udfpsSensor (fpReading content stale beyond) = some after
      → after.posted = before.posted
        ∨ ∃ screen,
            IsTouch (contentText content) screen ∧ after.posted = before.posted ++ [screen]

/-- The state that a text stands for; an unconverted one is 0. -/
def stateOf (number : List Char) : Int :=
  ((scanInt number).map storedInt).getD 0

/-- What was read has a terminator, or it does not end within one of the numbers; or it ends
within the last, and no digits that may follow make that number positive or, unless the buffer is
full, stop it from being positive.
-/
def Settled (content : List Char) : Prop :=
  terminator ∈ content
  ∨ match cut ',' 3 content with
    | none => True
    | some (0, number) =>
        ∀ digits : List Char,
          digits.all Char.isDigit = true
          → (0 < stateOf (number ++ digits) → 0 < stateOf number)
            ∧ (content.length < bufferSize → 0 < stateOf number
              → 0 < stateOf (number ++ digits))
    | some (_ + 1, _) => False

/-- The events follow from the reports. -/
theorem readsAlone_of_parsed {content : List Char}
    (agrees :
      ∀ screen stale other beyond,
        stale.length = bufferSize → other.length = bufferSize
        → readFpState screen (fpReading content stale beyond)
          = readFpState screen (fpReading content other beyond))
    (parsed :
      ∀ screen stale beyond,
        stale.length = bufferSize
        → (readFpState screen (fpReading content stale beyond)).1 = true
        → IsTouch (contentText content) (readFpState screen (fpReading content stale beyond)).2)
    : ReadsAlone content where
  agrees := agrees
  parsed := parsed
  posted := by
    intro before after stale beyond size taken
    rcases posted_dispatch taken with same | ⟨touched, posts⟩
    · exact .inl same
    · exact .inr ⟨_, parsed before.members stale beyond size touched, posts⟩

-----------------------------------------------------------------------------------------
-- What follows in the buffer
-----------------------------------------------------------------------------------------

/-- A character of a text without a terminator is none. -/
theorem ne_terminator {text : List Char} (plain : terminator ∉ text)
    : ∀ char ∈ text, decide (char ≠ terminator) = true := by
  intro char member
  exact decide_eq_true (fun same => plain (same ▸ member))

/-- A terminator that was read ends the text. -/
theorem bufferText_of_terminator {content : List Char} (ended : terminator ∈ content)
    (stale beyond : List Char)
    : bufferText content stale beyond = contentText content := by
  have shorter : (content.takeWhile (· ≠ terminator)).length ≠ content.length := by
    intro same
    have whole := (List.takeWhile_prefix (· ≠ terminator)).eq_of_length same
    exact of_decide_eq_true (List.takeWhile_eq_self_iff.mp whole terminator ended) rfl
  rw [bufferText, contentText, List.takeWhile_append, if_neg shorter]

/-- Without a terminator, the text goes on. -/
theorem bufferText_of_open {content : List Char} (unended : terminator ∉ content)
    (stale beyond : List Char)
    : bufferText content stale beyond
      = content ++ (stale.drop content.length ++ beyond).takeWhile (· ≠ terminator) :=
  List.takeWhile_append_of_pos (ne_terminator unended)

/-- Without a terminator, what was read is the text. -/
theorem contentText_of_open {content : List Char} (unended : terminator ∉ content)
    : contentText content = content :=
  List.takeWhile_eq_self_iff.mpr (ne_terminator unended)

/-- Any text may follow what was read: the memory holds it and then terminators, in the buffer as
far as that reaches.
-/
theorem exists_bufferText {content : List Char} (unended : terminator ∉ content)
    (whole : content.length ≤ bufferSize) {later : List Char} (plain : terminator ∉ later)
    : ∃ stale beyond,
        stale.length = bufferSize ∧ bufferText content stale beyond = content ++ later := by
  let held := content ++ (later ++ List.replicate (bufferSize + 1) terminator)
  refine ⟨held.take bufferSize, held.drop bufferSize, ?_, ?_⟩
  · have long : bufferSize ≤ held.length := by
      simp only [held, List.length_append, List.length_replicate]
      omega
    exact List.length_take_of_le long
  · have behind : (held.take bufferSize).drop content.length ++ held.drop bufferSize
        = later ++ List.replicate (bufferSize + 1) terminator := by
      rw [← List.drop_append_of_le_length
          (by rw [List.length_take]; simp only [held, List.length_append]; omega),
        List.take_append_drop, List.drop_left]
    rw [bufferText_of_open unended, behind,
      List.takeWhile_append_of_pos (ne_terminator plain), List.replicate_succ,
      List.takeWhile_cons_of_neg (by simp), List.append_nil]

/-- A cleared buffer ends what was read, unless it is full. -/
theorem bufferText_cleared {content : List Char} (unended : terminator ∉ content)
    (short : content.length < bufferSize) (beyond : List Char)
    : bufferText content (List.replicate bufferSize terminator) beyond = content := by
  obtain ⟨left, size⟩ : ∃ left, bufferSize - content.length = left + 1 :=
    ⟨bufferSize - content.length - 1, by omega⟩
  rw [bufferText_of_open unended, List.drop_replicate, size, List.replicate_succ,
    List.cons_append, List.takeWhile_cons_of_neg (by simp), List.append_nil]

/-- Nothing that the buffer held is left in a full one. -/
theorem bufferText_full {content : List Char} (full : bufferSize ≤ content.length)
    {stale other : List Char} (size : stale.length = bufferSize)
    (otherSize : other.length = bufferSize) (beyond : List Char)
    : bufferText content stale beyond = bufferText content other beyond := by
  rw [bufferText, bufferText, List.drop_eq_nil_of_le (size ▸ full),
    List.drop_eq_nil_of_le (otherSize ▸ full)]

-----------------------------------------------------------------------------------------
-- What is settled reads alone
-----------------------------------------------------------------------------------------

/-- Where the text is always converted as what was read is, that decides. -/
theorem readsAlone_of_same {content : List Char}
    (same :
      ∀ stale beyond,
        scanInts ',' 3 (bufferText content stale beyond)
        = scanInts ',' 3 (contentText content))
    : ReadsAlone content := by
  apply readsAlone_of_parsed
  · intro screen stale other beyond _ _
    rw [readFpState_fpReading, readFpState_fpReading, same, same]
  · intro screen stale beyond _ touched
    rw [readFpState_fpReading, same] at touched ⊢
    exact report_touched touched

/-- What digits leave as it is, any text does: a sign or spaces alone are not left so. -/
theorem stateOf_append {number : List Char} (out : runsOut number = true)
    (settled :
      ∀ digits : List Char,
        digits.all Char.isDigit = true → 0 < stateOf (number ++ digits) → 0 < stateOf number)
    (later : List Char)
    : stateOf (number ++ later) = stateOf (number ++ later.takeWhile Char.isDigit) := by
  have shown : number.all isSpace = false := by
    rw [Bool.eq_false_iff]
    intro blank
    have one : 0 < stateOf (number ++ ['1']) := by
      rw [stateOf, scanInt_append_of_blank blank]
      decide
    have none : stateOf number = 0 := by
      rw [stateOf, scanInt_of_blank blank]
      rfl
    have positive := settled ['1'] (by decide) one
    omega
  rw [stateOf, stateOf, scanInt_append later shown out]

/-- What ends within its last number reports that number's state, at the coordinates before it. -/
theorem report_cut {content number : List Char} (within : cut ',' 3 content = some (0, number))
    : ∃ screen : Screen,
        ∀ before more,
          scanInts ',' 3 (content ++ more)
            = [screen.mScreenX, screen.mScreenY] ++ scanInts ',' 1 (number ++ more)
          ∧ report before (scanInts ',' 3 (content ++ more))
            = (decide (0 < stateOf (number ++ more)), screen) := by
  obtain ⟨_, earlier, total, scans⟩ := scanInts_append_of_cut_eq_some within
  obtain ⟨x, y, rfl⟩ : ∃ x y, earlier = [x, y] := by
    match earlier, total with
    | [x, y], _ => exact ⟨x, y, rfl⟩
  refine ⟨{ mScreenX := x, mScreenY := y }, ?_⟩
  intro before more
  refine ⟨scans more, ?_⟩
  rw [scans, scanInts_one, stateOf]
  cases (scanInt (number ++ more)).map storedInt <;> rfl

/-- A positive state is a number. -/
theorem exists_scanInts_of_stateOf {number : List Char} (positive : 0 < stateOf number)
    : scanInts ',' 1 number = [stateOf number] := by
  rw [scanInts_one]
  unfold stateOf at positive ⊢
  cases scanned : (scanInt number).map storedInt with
  | none =>
      rw [scanned] at positive
      cases positive
  | some value => rfl

/-- A state that no digits change is the state whatever follows. -/
theorem readsAlone_of_cut {content number : List Char} (unended : terminator ∉ content)
    (within : cut ',' 3 content = some (0, number))
    (settled :
      ∀ digits : List Char,
        digits.all Char.isDigit = true
        → (0 < stateOf (number ++ digits) → 0 < stateOf number)
          ∧ (content.length < bufferSize → 0 < stateOf number
            → 0 < stateOf (number ++ digits)))
    : ReadsAlone content := by
  have out := (scanInts_append_of_cut_eq_some within).1
  obtain ⟨screen, reports⟩ := report_cut within
  have extended (later : List Char)
      : (0 < stateOf (number ++ later) → 0 < stateOf number)
        ∧ (content.length < bufferSize → 0 < stateOf number → 0 < stateOf (number ++ later)) := by
    rw [stateOf_append out (fun digits are => (settled digits are).1)]
    exact settled _ List.all_takeWhile
  apply readsAlone_of_parsed
  · intro before stale other beyond size otherSize
    rw [readFpState_fpReading, readFpState_fpReading]
    by_cases short : content.length < bufferSize
    · have same (later : List Char)
          : decide (0 < stateOf (number ++ later)) = decide (0 < stateOf number) :=
        decide_eq_decide.mpr ⟨(extended later).1, (extended later).2 short⟩
      rw [bufferText_of_open unended, bufferText_of_open unended, (reports before _).2,
        (reports before _).2, same, same]
    · rw [bufferText_full (Nat.not_lt.mp short) size otherSize]
  · intro before stale beyond _ touched
    rw [readFpState_fpReading, bufferText_of_open unended, (reports before _).2] at touched ⊢
    have positive := (extended _).1 (of_decide_eq_true touched)
    refine ⟨stateOf number, ?_, positive⟩
    have alone := (reports before []).1
    rw [List.append_nil, List.append_nil, exists_scanInts_of_stateOf positive] at alone
    rw [contentText_of_open unended, alone]
    rfl

/-- What is settled decides what is reported. -/
theorem readsAlone_of_settled {content : List Char} (settled : Settled content)
    : ReadsAlone content := by
  by_cases ended : terminator ∈ content
  · exact readsAlone_of_same (fun stale beyond => by rw [bufferText_of_terminator ended])
  · have cutOff := settled.resolve_left ended
    cases within : cut ',' 3 content with
    | none =>
        apply readsAlone_of_same
        intro stale beyond
        rw [bufferText_of_open ended, scanInts_append_of_cut_eq_none within,
          contentText_of_open ended]
    | some result =>
        obtain ⟨later, number⟩ := result
        rw [within] at cutOff
        cases later with
        | zero => exact readsAlone_of_cut ended within cutOff
        | succ _ => exact absurd cutOff not_false

-----------------------------------------------------------------------------------------
-- What is not settled does not
-----------------------------------------------------------------------------------------

/-- A number that is cut off can go on with all the numbers that are to follow, the last of them
positive. By induction over how many are to follow.
-/
theorem exists_continuation {number : List Char} (out : runsOut number = true) (count : Nat)
    : ∃ more,
        terminator ∉ more
        ∧ ∃ values : List Int,
            values.length = count + 1
            ∧ scanInts ',' (count + 2) (number ++ more) = values ++ [1] := by
  induction count generalizing number with
  | zero =>
      obtain ⟨value, scans⟩ :=
        @scanInts_append_digit ',' '0' number out (by decide) (by decide) 1 ['1']
      exact ⟨['0', ',', '1'], by decide, [value], rfl, scans⟩
  | succ count ih =>
      obtain ⟨more, plain, values, length, scans⟩ := @ih [] rfl
      obtain ⟨value, first⟩ :=
        @scanInts_append_digit ',' '0' number out (by decide) (by decide) (count + 2) more
      refine ⟨'0' :: ',' :: more, ?_, value :: values, by rw [List.length_cons, length], ?_⟩
      · intro member
        rcases List.mem_cons.mp member with same | member
        · exact absurd same (by decide)
        · rcases List.mem_cons.mp member with same | member
          · exact absurd same (by decide)
          · exact plain member
      · rw [first, ← List.nil_append more, scans]
        rfl

/-- Digits are no terminators. -/
theorem terminator_notMem_digits {digits : List Char} (are : digits.all Char.isDigit = true)
    : terminator ∉ digits := by
  intro member
  exact absurd (List.all_eq_true.mp are terminator member) (by decide)

/-- A number that is the only one is the state. -/
theorem stateOf_of_scanInts {number : List Char} {state : Int}
    (scans : scanInts ',' 1 number = [state])
    : stateOf number = state := by
  rw [scanInts_one] at scans
  unfold stateOf
  cases scanned : (scanInt number).map storedInt with
  | none =>
      rw [scanned] at scans
      cases scans
  | some value =>
      rw [scanned] at scans
      exact (List.cons.inj scans).1

/-- Where an earlier number is cut off, what follows can make a touch of it. -/
theorem not_readsAlone_of_earlier {content number : List Char} {later : Nat}
    (unended : terminator ∉ content) (whole : content.length ≤ bufferSize)
    (within : cut ',' 3 content = some (later + 1, number))
    : ¬ ReadsAlone content := by
  intro alone
  obtain ⟨out, earlier, total, scans⟩ := scanInts_append_of_cut_eq_some within
  obtain ⟨more, plain, values, length, goesOn⟩ := exists_continuation out later
  obtain ⟨stale, beyond, size, text⟩ := exists_bufferText unended whole plain
  have third : ((earlier ++ (values ++ [1]))[2]?).getD 0 = 1 := by
    have two : (earlier ++ values).length = 2 := by
      rw [List.length_append]
      omega
    rw [← List.append_assoc, ← two, List.getElem?_concat_length]
    rfl
  have touched : (readFpState { mScreenX := 0, mScreenY := 0 }
      (fpReading content stale beyond)).1 = true := by
    rw [readFpState_fpReading, text, scans, goesOn, report, third]
    rfl
  obtain ⟨state, numbers, _⟩ := alone.parsed _ stale beyond size touched
  have few := congrArg List.length (scans [])
  rw [List.append_nil, List.append_nil, ← contentText_of_open unended, numbers,
    scanInts_of_runsOut ',' out, List.length_append] at few
  have one : ((scanInt number).map storedInt).toList.length ≤ 1 := Option.length_toList_le
  simp only [List.length_cons, List.length_nil] at few
  omega

/-- Where the last number is cut off, digits that follow it cannot change the report. -/
theorem settled_digits {content number digits : List Char} (unended : terminator ∉ content)
    (whole : content.length ≤ bufferSize) (within : cut ',' 3 content = some (0, number))
    (alone : ReadsAlone content) (are : digits.all Char.isDigit = true)
    : (0 < stateOf (number ++ digits) → 0 < stateOf number)
      ∧ (content.length < bufferSize → 0 < stateOf number
        → 0 < stateOf (number ++ digits)) := by
  obtain ⟨screen, reports⟩ := report_cut within
  obtain ⟨stale, beyond, size, text⟩ :=
    exists_bufferText unended whole (terminator_notMem_digits are)
  constructor
  · intro positive
    have touched : (readFpState screen (fpReading content stale beyond)).1 = true := by
      rw [readFpState_fpReading, text, (reports screen digits).2]
      exact decide_eq_true positive
    obtain ⟨state, numbers, statePositive⟩ := alone.parsed screen stale beyond size touched
    have scans := (reports screen []).1
    rw [List.append_nil, List.append_nil, ← contentText_of_open unended, numbers] at scans
    rw [stateOf_of_scanInts (List.cons.inj (List.cons.inj scans).2).2.symm]
    exact statePositive
  · intro short positive
    have same := alone.agrees screen (List.replicate bufferSize terminator) stale beyond
      List.length_replicate size
    have cleared := (reports screen []).2
    rw [List.append_nil, List.append_nil] at cleared
    rw [readFpState_fpReading, readFpState_fpReading, bufferText_cleared unended short, text,
      cleared, (reports screen digits).2] at same
    exact (decide_eq_decide.mp (Prod.mk.inj same).1).mp positive

/-- What decides what is reported is settled. -/
theorem settled_of_readsAlone {content : List Char} (whole : content.length ≤ bufferSize)
    (alone : ReadsAlone content)
    : Settled content := by
  by_cases ended : terminator ∈ content
  · exact .inl ended
  · refine .inr ?_
    cases within : cut ',' 3 content with
    | none => trivial
    | some result =>
        obtain ⟨later, number⟩ := result
        cases later with
        | zero => exact fun digits are => settled_digits ended whole within alone are
        | succ later => exact not_readsAlone_of_earlier ended whole within alone

-----------------------------------------------------------------------------------------
-- Main result
-----------------------------------------------------------------------------------------

/-- What was read decides what is reported exactly when it is settled. Witness: what a driver
writes that ends its line.
-/
theorem readsAlone_iff {content : List Char} (whole : content.length ≤ bufferSize)
    : ReadsAlone content ↔ Settled content :=
  ⟨settled_of_readsAlone whole, readsAlone_of_settled⟩

theorem readsAlone_iff_line : ReadsAlone "540,1800,1\n".toList := by
  apply (readsAlone_iff (by decide)).mpr
  refine .inr ?_
  rw [show cut ',' 3 "540,1800,1\n".toList = none by decide +kernel]
  trivial

/-- Without the end of its line, a digit that the buffer held makes a touch of what was read. -/
theorem readsAlone_fails_stale : ¬ ReadsAlone "540,1800,0".toList := by
  intro alone
  have same := alone.agrees { mScreenX := 0, mScreenY := 0 }
    (List.replicate 512 terminator)
    (List.replicate 10 terminator ++ '1' :: List.replicate 501 terminator) []
    List.length_replicate (by decide +kernel)
  revert same
  decide +kernel

end PongDevice.Sensors.FpState
