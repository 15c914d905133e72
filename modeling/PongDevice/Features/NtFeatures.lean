import PongDevice.Bits.BitLoop
import PongDevice.Thermal.FileUtils

/-! The feature sets of `NtFeaturesUtils`. Three properties hold hexadecimal masks, of which the
second and the third one say what differs from the first.
-/

namespace PongDevice.Features

open PongDevice.Bits

-----------------------------------------------------------------------------------------
-- Texts of the Java library
-----------------------------------------------------------------------------------------

/-- `String.length`, which counts the characters beyond 16 bits twice. -/
def javaLength (text : List Char) : Nat :=
  (text.map (fun char => if char.toNat < 0x10000 then 1 else 2)).sum

/-- `replace("0x", "")` on the characters of a text. -/
def removeHexPrefix : List Char → List Char
  | [] => []
  | '0' :: 'x' :: rest => removeHexPrefix rest
  | char :: rest => char :: removeHexPrefix rest

/-- The letters of the digits from ten on, in both cases and in both widths. -/
def letterStarts : List Nat := [0x0041, 0x0061, 0xFF21, 0xFF41]

/-- `Character.digit` in base sixteen. -/
def hexDigit (char : Char) : Option Nat :=
  (Thermal.digit char).or
    ((letterStarts.find? (fun first => first ≤ char.toNat ∧ char.toNat < first + 6)).map
      (fun first => char.toNat - first + 10))

/-- The number that digits continue, `none` at a character that is no digit. -/
def hexValue : List Char → Nat → Option Nat
  | [], value => some value
  | char :: rest, value => (hexDigit char).bind (fun next => hexValue rest (16 * value + next))

/-- The number of the digits after a sign, if there are any; a `BigInteger` has at most
`Integer.MAX_VALUE` bits.
-/
def signedValue (negative : Bool) (digits : List Char) : Option Int :=
  if digits.isEmpty then none
  else
    (hexValue digits 0).bind (fun value =>
      if value.log2 < 0x7FFFFFFF then some (if negative then -value else value) else none)

/-- `new BigInteger(text, 16)`: an optional sign and digits; `none` is an exception. -/
def bigInteger : List Char → Option Int
  | '-' :: digits => signedValue true digits
  | '+' :: digits => signedValue false digits
  | digits => signedValue false digits

-----------------------------------------------------------------------------------------
-- `NtFeaturesUtils`
-----------------------------------------------------------------------------------------

/-- `SystemProperties.get` and the two fields of `Build` that the initialiser reads. -/
structure System where
  get : String → String → String
  product : String
  device : String

namespace System

def fullProp (system : System) : String := system.get "ro.build.nothing.feature.base" "0"

def productDiffProp (system : System) : String :=
  system.get ("ro.build.nothing.feature.diff.product." ++ system.product) "0"

def deviceDiffProp (system : System) : String :=
  system.get ("ro.build.nothing.feature.diff.device." ++ system.device) "0"

/-- What is promised of properties: their values are far shorter than 2^29 characters, as all of
them have to fit into a property area of some kilobytes.
-/
def ShortProperties (system : System) : Prop :=
  ∀ key, javaLength (system.get key "0").toList < 0x20000000

end System

/-- `replace`; `none` is null. -/
def replace : Option String → List Char
  | none => []
  | some str => (removeHexPrefix str.toList).filter (· ≠ 'L')

/-- `maxLength`. -/
def maxLength : List (List Char) → Nat
  | [] => 0
  | text :: rest => max (javaLength text) (maxLength rest)

/-- `base`. -/
def base (fuel : Nat) (sFeatures : BitSet) (bi : Int) : Outcome BitSet :=
  bitLoop BitSet.set fuel sFeatures 0 bi

/-- `change`. -/
def change (fuel : Nat) (sFeatures : BitSet) (bi : Int) : Outcome BitSet :=
  bitLoop BitSet.flip fuel sFeatures 0 bi

/-- The `int` with which the set is created. -/
def bitsetSize (system : System) : Int :=
  (maxLength [
      replace (some system.fullProp), replace (some system.productDiffProp),
      replace (some system.deviceDiffProp)
    ] * 4 : Int).bmod 0x100000000

/-- The static initialiser: `sFeatures` when it is done. A negative size is an exception; any
other one only reserves memory.
-/
def staticInit (system : System) (fuel : Nat) : Outcome BitSet :=
  if bitsetSize system < 0 then .threw
  else
    (Outcome.ofOption (bigInteger (replace (some system.fullProp)))).bind (fun full =>
      (base fuel ∅ full).bind (fun sFeatures =>
        (Outcome.ofOption (bigInteger (replace (some system.productDiffProp)))).bind
          (fun productDiff =>
            (change fuel sFeatures productDiff).bind (fun sFeatures =>
              (Outcome.ofOption (bigInteger (replace (some system.deviceDiffProp)))).bind
                (fun deviceDiff => change fuel sFeatures deviceDiff)))))

/-- `isSupport`. -/
def isSupport (sFeatures : BitSet) : List Int → Bool
  | [] => true
  | feature :: rest =>
      if feature < 0 ∨ sFeatures.length ≤ feature then false
      else if !sFeatures.get feature.toNat then false
      else isSupport sFeatures rest

example : (bigInteger (replace (some "0x2410L"))) = some 0x2410 := by decide +kernel

end PongDevice.Features
