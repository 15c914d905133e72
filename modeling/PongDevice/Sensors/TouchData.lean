import Mathlib.Algebra.Group.Nat.Defs
import PongDevice.Text.Hexadecimal

/-! The coordinates of a single tap, as the sensor reads them out of the lines of `touch_data`. A
line that does not go on with a number throws out of the sensor's thread.
-/

namespace PongDevice.Sensors.TouchData

open Text

-----------------------------------------------------------------------------------------
-- Reading
-----------------------------------------------------------------------------------------

/-- The lines that `std::getline` takes out of a file. -/
def getlines : List Char → List (List Char)
  | [] => []
  | '\n' :: rest => [] :: getlines rest
  | char :: rest =>
      match getlines rest with
      | [] => [[char]]
      | line :: later => (char :: line) :: later

/-- Whether a line starts with a letter and a colon. -/
def startsWith (letter : Char) (line : List Char) : Bool :=
  [letter, ':'].isPrefixOf line

structure RawCoordinates where
  rawX : BitVec 32 := 0
  rawY : BitVec 32 := 0
deriving DecidableEq, Repr

/-- The body of the loop; an `unsigned int` takes the low bits of the number. -/
def readLine (raw : RawCoordinates) (line : List Char)
    : Except StoulException RawCoordinates :=
  if startsWith 'x' line then do
    let value ← stoul (line.drop 2)
    return { raw with rawX := value.setWidth 32 }
  else if startsWith 'y' line then do
    let value ← stoul (line.drop 2)
    return { raw with rawY := value.setWidth 32 }
  else
    return raw

/-- `static_cast<float>` of an integer: the nearest multiple of the unit that leaves 24 bits, and
the even one of two that are as near.
-/
def float (value : Nat) : Nat :=
  let unit := 2 ^ (value.log2 - 23)
  let quotient := value / unit
  let rest := value % unit
  if 2 * rest < unit ∨ 2 * rest = unit ∧ quotient % 2 = 0 then quotient * unit
  else (quotient + 1) * unit

structure Coordinates where
  x : Nat
  y : Nat
deriving DecidableEq, Repr

/-- The file is `none` when it does not open. -/
def readCoordinates (file : Option (List Char)) : Except StoulException Coordinates :=
  match file with
  | none => return { x := 0, y := 0 }
  | some content => do
      let raw ← (getlines content).foldlM readLine {}
      return { x := float raw.rawX.toNat, y := float raw.rawY.toNat }

/-- A number of 24 bits is a `float` itself. -/
theorem float_eq_self {value : Nat} (small : value < 0x1000000) : float value = value := by
  have noBits : value.log2 - 23 = 0 := by
    rcases Nat.eq_zero_or_pos value with rfl | positive
    · rfl
    · have short : value.log2 < 24 := (Nat.log2_lt (by omega)).mpr small
      omega
  simp [float, noBits, Nat.mod_one]

example : float 16777217 = 16777216 := by decide +kernel

example : float 16777219 = 16777220 := by decide +kernel

-----------------------------------------------------------------------------------------
-- What the lines say
-----------------------------------------------------------------------------------------

/-- The number that a line gives for a letter, if it gives one. -/
def numberOf (letter : Char) (line : List Char) : Option Int :=
  if startsWith letter line then scanHex (line.drop 2) else none

/-- The numbers that a file gives for a letter, in their order. -/
def numbers (letter : Char) (content : List Char) : List Int :=
  (getlines content).filterMap (numberOf letter)

/-- The last number for a letter, or 0. -/
def lastNumber (letter : Char) (content : List Char) : Int :=
  (numbers letter content).getLastD 0

/-- The last number for a letter among those that fit 32 bits, or 0. -/
def lastFitting (letter : Char) (content : List Char) : Nat :=
  ((numbers letter content).filter (fun value => 0 ≤ value ∧ value < 0x100000000)).getLastD 0
    |>.toNat

/-- The coordinates are those of the last lines that give numbers of 32 bits. -/
def YieldsLast (content : List Char) : Prop :=
  readCoordinates (some content)
  = .ok { x := float (lastFitting 'x' content), y := float (lastFitting 'y' content) }

instance (content : List Char) : Decidable (YieldsLast content) :=
  inferInstanceAs (Decidable (_ = _))

/-- A line for one of the letters gives a number of at most 64 bits. -/
def Numeric (line : List Char) : Prop :=
  startsWith 'x' line = true ∨ startsWith 'y' line = true
    → ∃ value, scanHex (line.drop 2) = some value ∧ value.natAbs < 0x10000000000000000

/-- The low 32 bits of the last number for a letter are the same `float` as the last number that
fits them.
-/
def EndsFitting (letter : Char) (content : List Char) : Prop :=
  float (lastNumber letter content % 0x100000000).toNat = float (lastFitting letter content)

-----------------------------------------------------------------------------------------
-- The loop
-----------------------------------------------------------------------------------------

/-- A line starts with one letter at most. -/
theorem not_startsWith {line : List Char} (forX : startsWith 'x' line = true)
    : startsWith 'y' line = false := by
  match line with
  | [] => rfl
  | char :: rest =>
      have first : 'x' = char := (by simpa [startsWith] using forX : _ ∧ _).1
      subst first
      rfl

/-- What an `unsigned int` keeps of a number of 64 bits. -/
theorem setWidth_ofInt (value : Int)
    : (BitVec.ofInt 64 value).setWidth 32 = BitVec.ofInt 32 value := by
  apply BitVec.eq_of_toNat_eq
  simp only [BitVec.toNat_setWidth, BitVec.toNat_ofInt]
  omega

/-- A number that is stored for a letter, if a line gives one. -/
def stored (letter : Char) (line : List Char) : Option (BitVec 32) :=
  (numberOf letter line).map (BitVec.ofInt 32)

/-- A number that is stored is at most 64 bits long, and the low bits are stored. -/
theorem store_eq_ok_iff (store : BitVec 32 → RawCoordinates) {text : List Char}
    {after : RawCoordinates}
    : (do
          let value ← stoul text
          return store (value.setWidth 32))
        = Except.ok after
      ↔ ∃ value, scanHex text = some value ∧ value.natAbs < 0x10000000000000000
          ∧ after = store (BitVec.ofInt 32 value) := by
  constructor
  · intro stores
    cases parsed : stoul text with
    | error exception =>
        rw [parsed] at stores
        cases stores
    | ok bits =>
        obtain ⟨value, scanned, small, rfl⟩ := stoul_eq_ok_iff.mp parsed
        rw [parsed] at stores
        exact ⟨value, scanned, small,
          by rw [← setWidth_ofInt]; exact (Except.ok.inj stores).symm⟩
  · rintro ⟨value, scanned, small, rfl⟩
    rw [stoul_eq_ok_iff.mpr ⟨value, scanned, small, rfl⟩, ← setWidth_ofInt]
    rfl

/-- A line throws unless it is numeric; it stores its number for its letter and leaves the
coordinates else.
-/
theorem readLine_eq_ok_iff {raw after : RawCoordinates} {line : List Char}
    : readLine raw line = .ok after
      ↔ Numeric line
        ∧ after
          = {
              rawX := (stored 'x' line).getD raw.rawX
              rawY := (stored 'y' line).getD raw.rawY
            } := by
  unfold readLine
  split
  · rename_i forX
    rw [store_eq_ok_iff (fun bits => { raw with rawX := bits })]
    constructor
    · rintro ⟨value, scanned, small, rfl⟩
      exact ⟨fun _ => ⟨value, scanned, small⟩,
        by simp [stored, numberOf, forX, not_startsWith forX, scanned]⟩
    · rintro ⟨numeric, rfl⟩
      obtain ⟨value, scanned, small⟩ := numeric (.inl forX)
      exact ⟨value, scanned, small,
        by simp [stored, numberOf, forX, not_startsWith forX, scanned]⟩
  · rename_i notX
    split
    · rename_i forY
      rw [store_eq_ok_iff (fun bits => { raw with rawY := bits })]
      constructor
      · rintro ⟨value, scanned, small, rfl⟩
        exact ⟨fun _ => ⟨value, scanned, small⟩,
          by simp [stored, numberOf, forY, notX, scanned]⟩
      · rintro ⟨numeric, rfl⟩
        obtain ⟨value, scanned, small⟩ := numeric (.inr forY)
        exact ⟨value, scanned, small, by simp [stored, numberOf, forY, notX, scanned]⟩
    · rename_i notY
      have numeric : Numeric line := by
        rintro (forX | forY)
        · exact absurd forX notX
        · exact absurd forY notY
      rw [show stored 'x' line = none by simp [stored, numberOf, notX],
        show stored 'y' line = none by simp [stored, numberOf, notY]]
      exact ⟨fun leaves => ⟨numeric, (Except.ok.inj leaves).symm⟩,
        fun ⟨_, same⟩ => congrArg Except.ok same.symm⟩

/-- The last of the values that a list gives, where its first element may give one. -/
theorem getLastD_filterMap_cons {α β : Type} (give : α → Option β) (first : α)
    (rest : List α) (start : β)
    : ((first :: rest).filterMap give).getLastD start
      = (rest.filterMap give).getLastD ((give first).getD start) := by
  cases given : give first with
  | none => rw [List.filterMap_cons_none given, Option.getD_none]
  | some value => rw [List.filterMap_cons_some given, List.getLastD_cons, Option.getD_some]

/-- The loop throws unless all lines are numeric; it keeps the last number for each letter. By
induction over the lines.
-/
theorem foldlM_readLine_eq_ok_iff {lines : List (List Char)} {raw after : RawCoordinates}
    : lines.foldlM readLine raw = .ok after
      ↔ (∀ line ∈ lines, Numeric line)
        ∧ after
          = {
              rawX := (lines.filterMap (stored 'x')).getLastD raw.rawX
              rawY := (lines.filterMap (stored 'y')).getLastD raw.rawY
            } := by
  induction lines generalizing raw with
  | nil =>
      exact ⟨fun ends => ⟨fun _ member => absurd member List.not_mem_nil,
          (Except.ok.inj ends).symm⟩,
        fun ⟨_, same⟩ => congrArg Except.ok same.symm⟩
  | cons line lines ih =>
      rw [List.foldlM_cons, List.forall_mem_cons, getLastD_filterMap_cons,
        getLastD_filterMap_cons]
      constructor
      · intro runs
        cases read : readLine raw line with
        | error exception =>
            rw [read] at runs
            cases runs
        | ok between =>
            obtain ⟨numeric, rfl⟩ := readLine_eq_ok_iff.mp read
            rw [read] at runs
            obtain ⟨others, result⟩ := ih.mp runs
            exact ⟨⟨numeric, others⟩, result⟩
      · rintro ⟨⟨numeric, others⟩, result⟩
        rw [readLine_eq_ok_iff.mpr ⟨numeric, rfl⟩]
        exact ih.mpr ⟨others, result⟩

-----------------------------------------------------------------------------------------
-- Main results
-----------------------------------------------------------------------------------------

/-- The low bits of the last number for a letter are what the loop keeps. -/
theorem getLastD_stored (letter : Char) (content : List Char)
    : (((getlines content).filterMap (stored letter)).getLastD 0).toNat
      = (lastNumber letter content % 0x100000000).toNat := by
  have mapped : (getlines content).filterMap (stored letter)
      = (numbers letter content).map (BitVec.ofInt 32) := by
    rw [numbers, List.map_filterMap]
    rfl
  rw [mapped, show (0 : BitVec 32) = BitVec.ofInt 32 0 from rfl, List.getLastD_map,
    BitVec.toNat_ofInt, lastNumber]
  rfl

/-- A file is read exactly when all its lines for a letter have numbers of at most 64 bits; the
low bits of the last numbers are the coordinates.
-/
theorem readCoordinates_eq_ok_iff {content : List Char} {coordinates : Coordinates}
    : readCoordinates (some content) = .ok coordinates
      ↔ (∀ line ∈ getlines content, Numeric line)
        ∧ coordinates
          = {
              x := float (lastNumber 'x' content % 0x100000000).toNat
              y := float (lastNumber 'y' content % 0x100000000).toNat
            } := by
  rw [← getLastD_stored, ← getLastD_stored, readCoordinates]
  constructor
  · intro reads
    cases runs : (getlines content).foldlM readLine {} with
    | error exception =>
        rw [runs] at reads
        cases reads
    | ok raw =>
        obtain ⟨numeric, rfl⟩ := foldlM_readLine_eq_ok_iff.mp runs
        rw [runs] at reads
        exact ⟨numeric, (Except.ok.inj reads).symm⟩
  · rintro ⟨numeric, rfl⟩
    rw [foldlM_readLine_eq_ok_iff.mpr ⟨numeric, rfl⟩]
    rfl

/-- A file is read as its last lines with numbers of 32 bits say exactly when all its lines for a
letter have numbers of at most 64 bits, and the last numbers fit 32 bits or come to the same.
-/
theorem yieldsLast_iff (content : List Char)
    : YieldsLast content
      ↔ (∀ line ∈ getlines content, Numeric line)
        ∧ EndsFitting 'x' content ∧ EndsFitting 'y' content := by
  rw [YieldsLast, readCoordinates_eq_ok_iff, Coordinates.mk.injEq, EndsFitting, EndsFitting,
    eq_comm (b := float (lastNumber 'x' content % 0x100000000).toNat),
    eq_comm (b := float (lastNumber 'y' content % 0x100000000).toNat)]

/-- A line without digits throws; a number of more than 32 bits replaces the one before it. -/
theorem yieldsLast_fails_malformed
    : ¬ YieldsLast "x:\ny:1f4\n".toList ∧ ¬ YieldsLast "x:21c\nx:100000005\ny:708\n".toList := by
  constructor
  · decide +kernel
  · decide +kernel

end PongDevice.Sensors.TouchData
