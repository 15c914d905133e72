import Mathlib.Tactic.IntervalCases
import PongDevice.Transition.Machine

/-! The vibrator service over the vendor's library. The library keeps the amplitude that it
was given last; each call of the service takes the library's answers as inputs.
-/

namespace PongDevice.Haptics

open PongDevice.Transition

/-- `Effect`, an enumeration over an `int32_t` in which a client may send any number. -/
structure Effect where
  value : BitVec 32
deriving DecidableEq, Repr

namespace Effect

def click : Effect := ⟨0⟩

def doubleClick : Effect := ⟨1⟩

def tick : Effect := ⟨2⟩

def thud : Effect := ⟨3⟩

def pop : Effect := ⟨4⟩

def heavyClick : Effect := ⟨5⟩

/-- A tick and a click are performed as a thud. -/
def played (effect : Effect) : Effect :=
  if effect = tick ∨ effect = click then thud else effect

end Effect

/-- `EffectStrength`, over an `int8_t`; `other` is any number that has no name. -/
inductive EffectStrength
  | light
  | medium
  | strong
  | other (value : BitVec 8)
deriving DecidableEq, Repr

/-- The `RICHTAP_*_STRENGTH` of a strength. -/
def EffectStrength.richtap? : EffectStrength → Option Int
  | light => some 82
  | medium => some 91
  | strong => some 100
  | other _ => none

/-- `vibrationMode`. -/
inductive VibrationMode
  | none
  | timeout
  | prebaked
  | stream
deriving DecidableEq, Repr

/-- `mapEffectToPrebakedId`, as it is built with `USE_RICHTAP_EFFECT_REMAP`. -/
def mapEffectToPrebakedId (effect : Effect) : Option (BitVec 32) :=
  if effect = .click ∨ effect = .doubleClick ∨ effect = .tick then
    some (effect.value + 0x1000)
  else if effect = .thud ∨ effect = .pop ∨ effect = .heavyClick then
    some (effect.value + 0x3002)
  else
    none

/-- The exception code of a `ScopedAStatus`. -/
inductive Status
  | ok
  | unsupportedOperation
  | serviceSpecific
deriving DecidableEq, Repr

-----------------------------------------------------------------------------------------
-- The service and its calls
-----------------------------------------------------------------------------------------

/-- A call of the vendor's library. -/
inductive VendorCall
  | looperOn (timeoutMs : Int)
  | looperStopPerformHe
  | off
  | setAmplitude (amplitude : BitVec 8)
  | looperPrebakedEffect (effect : BitVec 32) (strength : Int)
deriving DecidableEq, Repr

/-- The last mode, and beside it what the library keeps and was asked: its amplitude, and
the calls with the amplitude at which each was issued, the newest first. `completions` are
the delays after which a callback is told that its effect ended, the newest first.
-/
structure Vibrator where
  sLastMode : VibrationMode := .none
  amplitude : BitVec 8 := 0xFF
  issued : List (VendorCall × BitVec 8) := []
  completions : List Int := []
deriving DecidableEq, Repr

namespace Vibrator

/-- The library is called, which leaves its amplitude as it is. -/
def issue (vibrator : Vibrator) (call : VendorCall) : Vibrator :=
  { vibrator with issued := (call, vibrator.amplitude) :: vibrator.issued }

/-- `aac_vibra_setAmplitude`, which the library answers with `ret`. -/
def aacVibraSetAmplitude (vibrator : Vibrator) (amplitude : BitVec 8) (ret : Int) : Vibrator :=
  let asked := vibrator.issue (.setAmplitude amplitude)
  if ret = 0 then { asked with amplitude := amplitude } else asked

/-- The thread that calls `onComplete` later, if there is a callback. -/
def complete (vibrator : Vibrator) (callback : Bool) (ret : Int) : Vibrator :=
  if callback then
    { vibrator with completions := ret * 1000 :: vibrator.completions }
  else
    vibrator

/-- `Vibrator::off`; `ret` is the answer of the second call. The first one's is only logged,
and the mode is left as it is.
-/
def off (vibrator : Vibrator) (ret : Int) : Vibrator × Status :=
  let asked := (vibrator.issue .looperStopPerformHe).issue .off
  (asked, if ret = 0 then .ok else .serviceSpecific)

/-- `Vibrator::on`. -/
def on (vibrator : Vibrator) (timeoutMs : Int) (callback : Bool) (ret : Int)
    : Vibrator × Status :=
  let asked := vibrator.issue (.looperOn timeoutMs)
  if ret < 0 then
    (asked, .serviceSpecific)
  else
    ({ asked.complete callback ret with sLastMode := .timeout }, .ok)

/-- The full amplitude is given again after a stream. -/
def restore (vibrator : Vibrator) (restored : Int) : Vibrator :=
  if vibrator.sLastMode = .stream then vibrator.aacVibraSetAmplitude 0xFF restored
  else vibrator

/-- `Vibrator::perform`; `restored` is the answer to the full amplitude, which is ignored,
and `ret` the answer to the effect. The last component is what `_aidl_return` is set to.
-/
def perform (vibrator : Vibrator) (effect : Effect) (es : EffectStrength) (callback : Bool)
    (restored ret : Int)
    : Vibrator × Status × Option Int :=
  let effect := effect.played
  if effect.value.toInt < Effect.click.value.toInt
      ∨ Effect.heavyClick.value.toInt < effect.value.toInt then
    (vibrator, .unsupportedOperation, none)
  else
    match es.richtap? with
    | none => (vibrator, .unsupportedOperation, none)
    | some strength =>
        match mapEffectToPrebakedId effect with
        | none => (vibrator.restore restored, .unsupportedOperation, none)
        | some mappedEffect =>
            let asked :=
              (vibrator.restore restored).issue (.looperPrebakedEffect mappedEffect strength)
            if ret < 0 then
              (asked, .serviceSpecific, none)
            else
              ({ asked.complete callback ret with sLastMode := .prebaked }, .ok, some ret)

/-- `Vibrator::setAmplitude`; `tmp` is the byte that the client's amplitude is cast to. -/
def setAmplitude (vibrator : Vibrator) (tmp : BitVec 8) (ret : Int) : Vibrator × Status :=
  let asked := vibrator.aacVibraSetAmplitude tmp ret
  if ret = 0 then
    ({ asked with sLastMode := .stream }, .ok)
  else
    (asked, .serviceSpecific)

end Vibrator

-----------------------------------------------------------------------------------------
-- What a perform does
-----------------------------------------------------------------------------------------

/-- A perform gets as far as the library's effect. -/
def Issuable (effect : Effect) (es : EffectStrength) : Prop :=
  0 ≤ effect.value.toInt ∧ effect.value.toInt ≤ 5 ∧ es.richtap? ≠ none

instance (effect : Effect) (es : EffectStrength) : Decidable (Issuable effect es) :=
  inferInstanceAs (Decidable (_ ∧ _ ∧ _))

/-- Each effect up to the heavy click is mapped, by its six cases. -/
theorem mapEffectToPrebakedId_ne_none {effect : Effect} (low : 0 ≤ effect.value.toInt)
    (high : effect.value.toInt ≤ 5)
    : mapEffectToPrebakedId effect ≠ none := by
  have six : effect.value ∈ [(0 : BitVec 32), 1, 2, 3, 4, 5] := by
    rw [← BitVec.ofInt_toInt (x := effect.value)]
    generalize effect.value.toInt = value at low high
    interval_cases value <;> decide
  obtain ⟨value⟩ := effect
  simp only [List.mem_cons, List.not_mem_nil, or_false] at six
  rcases six with rfl | rfl | rfl | rfl | rfl | rfl <;> decide

/-- The thud is as supported as what it stands for. -/
theorem Effect.played_toInt_iff (effect : Effect)
    : (0 ≤ effect.played.value.toInt ∧ effect.played.value.toInt ≤ 5)
      ↔ (0 ≤ effect.value.toInt ∧ effect.value.toInt ≤ 5) := by
  unfold played
  split_ifs with replaced
  · rcases replaced with rfl | rfl <;> decide
  · exact Iff.rfl

namespace Vibrator

/-- A perform that is not issuable changes nothing; any other one restores the amplitude,
issues an effect, and is the last mode unless the library refuses it.
-/
theorem perform_cases (vibrator : Vibrator) (effect : Effect) (es : EffectStrength)
    (callback : Bool) (restored ret : Int)
    : (¬Issuable effect es
        ∧ vibrator.perform effect es callback restored ret
          = (vibrator, .unsupportedOperation, none))
      ∨ (Issuable effect es
        ∧ ∃ id strength,
            vibrator.perform effect es callback restored ret
              = let asked :=
                  (vibrator.restore restored).issue (.looperPrebakedEffect id strength)
                if ret < 0 then (asked, .serviceSpecific, none)
                else ({ asked.complete callback ret with sLastMode := .prebaked }, .ok, some ret))
    := by
  have supported := effect.played_toInt_iff
  by_cases inRange : 0 ≤ effect.value.toInt ∧ effect.value.toInt ≤ 5
  · obtain ⟨low, high⟩ := supported.mpr inRange
    obtain ⟨id, mapped⟩ :=
      Option.ne_none_iff_exists'.mp (mapEffectToPrebakedId_ne_none low high)
    cases named : es.richtap? with
    | none =>
        refine .inl ⟨fun issuable => issuable.2.2 named, ?_⟩
        simp [perform, named]
    | some strength =>
        refine .inr ⟨⟨inRange.1, inRange.2, by simp [named]⟩, id, strength, ?_⟩
        have inBounds
            : ¬(effect.played.value.toInt < Effect.click.value.toInt
              ∨ Effect.heavyClick.value.toInt < effect.played.value.toInt) := by
          change ¬(effect.played.value.toInt < 0 ∨ 5 < effect.played.value.toInt)
          omega
        simp only [perform, if_neg inBounds, named, mapped]
  · refine .inl ⟨fun issuable => inRange ⟨issuable.1, issuable.2.1⟩, ?_⟩
    have outOfBounds
        : effect.played.value.toInt < Effect.click.value.toInt
          ∨ Effect.heavyClick.value.toInt < effect.played.value.toInt := by
      change effect.played.value.toInt < 0 ∨ 5 < effect.played.value.toInt
      have outside := mt supported.mp inRange
      omega
    simp only [perform, if_pos outOfBounds]

end Vibrator

/-- A client's call with the answers that the library gives during it. -/
inductive Call
  | off (ret : Int)
  | on (timeoutMs : Int) (callback : Bool) (ret : Int)
  | setAmplitude (tmp : BitVec 8) (ret : Int)
  | perform (effect : Effect) (es : EffectStrength) (callback : Bool) (restored ret : Int)
deriving DecidableEq, Repr

def Vibrator.call (vibrator : Vibrator) : Call → Vibrator
  | .off ret => (vibrator.off ret).1
  | .on timeoutMs callback ret => (vibrator.on timeoutMs callback ret).1
  | .setAmplitude tmp ret => (vibrator.setAmplitude tmp ret).1
  | .perform effect es callback restored ret =>
      (vibrator.perform effect es callback restored ret).1

/-- The service serves one call after another. -/
def vibratorMachine : Machine Vibrator Call where
  step vibrator call := some (vibrator.call call)

example
    : let (vibrator, status, aidlReturn) :=
        ({ sLastMode := .stream, amplitude := 0x40 } : Vibrator).perform .tick .strong false 0 35
      vibrator.issued
          = [(.looperPrebakedEffect 0x3005 100, 0xFF), (.setAmplitude 0xFF, 0x40)]
        ∧ status = .ok ∧ aidlReturn = some 35 := by
  decide

end PongDevice.Haptics
