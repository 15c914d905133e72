import Mathlib.Data.Option.Basic
import Mathlib.Logic.Function.Basic

/-! The files that the thermal limiter reads and writes, `FileUtils`, and the number parsers of
the Java library that are applied to their lines.
-/

namespace PongDevice.Thermal

/-- The cores, named as their directories below `/sys/devices/system/cpu`. -/
inductive Core where
  | cpu0
  | cpu1
  | cpu2
  | cpu3
  | cpu4
  | cpu5
  | cpu6
  | cpu7
deriving DecidableEq, Repr

/-- The files: `BATTERY_TEMP`, `scaling_max_freq` and `cpuinfo_max_freq` in a core's `cpufreq`
directory, and `GPU_MAX_FREQ`.
-/
inductive Path where
  | batteryTemp
  | scalingMaxFreq (core : Core)
  | cpuinfoMaxFreq (core : Core)
  | gpuMaxFreq
deriving DecidableEq, Repr

/-- What a process finds at a path. The drivers may refuse access, an open and a written value
each for themselves.
-/
structure SysFile where
  /-- `exists()` and `canRead()`. -/
  canRead : Bool
  /-- `exists()` and `canWrite()`. -/
  canWrite : Bool
  /-- Opening it for reading and reading it succeed. -/
  reads : Bool
  /-- Opening it for writing succeeds. -/
  opensForWriting : Bool
  /-- The driver takes what is written. -/
  takes : Bool
  /-- Its first line, `none` while it is empty. -/
  line : Option String
deriving DecidableEq, Repr

/-- The file at each path. -/
abbrev Files := Path → SysFile

/-- `FileUtils.isFileReadable`. -/
def isFileReadable (files : Files) (fileName : Path) : Bool := (files fileName).canRead

/-- `FileUtils.fileWritable`. -/
def fileWritable (files : Files) (fileName : Path) : Bool := (files fileName).canWrite

/-- `FileUtils.readOneLine`; `none` is null. A file that cannot be read yields the initial
value of `line`, not null.
-/
def readOneLine (files : Files) (fileName : Path) : Option String :=
  if (files fileName).reads then (files fileName).line else some "0"

/-- `FileUtils.writeValue`: the files after it and its result. The outer `none` is the null
pointer exception of `writer.write(null)`. The writer is buffered, so that a value reaches the
driver when the writer closes, where a failure is ignored.
-/
def writeValue (files : Files) (fileName : Path) (value : Option String)
    : Option (Files × Bool) :=
  if (files fileName).opensForWriting then
    value.map (fun value =>
      if (files fileName).takes then
        (Function.update files fileName { files fileName with line := some value }, true)
      else
        (files, true))
  else
    some (files, false)

-----------------------------------------------------------------------------------------
-- `String.trim`, `Integer.parseInt` and `Long.parseLong`
-----------------------------------------------------------------------------------------

/-- `String.trim` on the characters of a text. -/
def trim (text : List Char) : List Char :=
  ((text.dropWhile (· ≤ ' ')).reverse.dropWhile (· ≤ ' ')).reverse

/-- The zeros of the decimal digits that one Java character can hold. -/
def digitZeros : List Nat :=
  [0x0030, 0x0660, 0x06F0, 0x07C0, 0x0966, 0x09E6, 0x0A66, 0x0AE6, 0x0B66, 0x0BE6, 0x0C66,
    0x0CE6, 0x0D66, 0x0DE6, 0x0E50, 0x0ED0, 0x0F20, 0x1040, 0x1090, 0x17E0, 0x1810, 0x1946,
    0x19D0, 0x1A80, 0x1A90, 0x1B50, 0x1BB0, 0x1C40, 0x1C50, 0xA620, 0xA8D0, 0xA900, 0xA9D0,
    0xA9F0, 0xAA50, 0xABF0, 0xFF10]

/-- `Character.digit` in base ten. -/
def digit (char : Char) : Option Nat :=
  (digitZeros.find? (fun first => first ≤ char.toNat ∧ char.toNat < first + 10)).map
    (char.toNat - ·)

/-- The number that digits continue, `none` at a character that is no digit. -/
def digitsValue : List Char → Nat → Option Nat
  | [], value => some value
  | char :: rest, value => (digit char).bind (fun next => digitsValue rest (10 * value + next))

/-- A decimal number from `-bound` to `bound - 1` with an optional sign; `none` is a
`NumberFormatException`.
-/
def parseDecimal (bound : Nat) (text : List Char) : Option Int :=
  let negative := text.head? == some '-'
  let digits := if negative || text.head? == some '+' then text.tail else text
  if digits.isEmpty then none
  else
    (digitsValue digits 0).bind (fun value =>
      let number : Int := if negative then -value else value
      if -bound ≤ number ∧ number < bound then some number else none)

/-- `Integer.parseInt(text.trim())`. -/
def parseInt (text : String) : Option Int := parseDecimal 0x80000000 (trim text.toList)

/-- `Long.parseLong(text.trim())`. -/
def parseLong (text : String) : Option Int := parseDecimal 0x8000000000000000 (trim text.toList)

example : parseInt " -41\n" = some (-41) := by decide +kernel

example : parseInt "2147483648" = none := by decide +kernel

end PongDevice.Thermal
