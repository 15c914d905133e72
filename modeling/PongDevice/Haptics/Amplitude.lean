import PongDevice.Haptics.Vibrator

/-! Whether an amplitude set by a client leaks into a prebaked effect. The service restores
the full amplitude only if the last mode is a stream, and a timed vibration in between
replaces that mode while the library keeps the amplitude.
-/

namespace PongDevice.Haptics

open PongDevice.Transition

/-- The call is one that plays a prebaked effect. -/
def VendorCall.isPrebaked : VendorCall → Bool
  | looperPrebakedEffect _ _ => true
  | looperOn _ | looperStopPerformHe | off | setAmplitude _ => false

/-- Every prebaked effect was issued at the full amplitude. -/
def EffectsAtFullAmplitude (issued : List (VendorCall × BitVec 8)) : Prop :=
  ∀ entry ∈ issued, entry.1.isPrebaked = true → entry.2 = 0xFF

instance (issued : List (VendorCall × BitVec 8)) : Decidable (EffectsAtFullAmplitude issued) :=
  inferInstanceAs (Decidable (∀ entry ∈ issued, entry.1.isPrebaked = true → entry.2 = 0xFF))

/-- The library accepts each amplitude that it is given during the call. -/
def Call.AmplitudesAccepted : Call → Prop
  | setAmplitude _ ret => ret = 0
  | perform _ _ _ restored _ => restored = 0
  | off _ | on _ _ _ => True

instance : DecidablePred Call.AmplitudesAccepted
  | .setAmplitude _ ret => inferInstanceAs (Decidable (ret = 0))
  | .perform _ _ _ restored _ => inferInstanceAs (Decidable (restored = 0))
  | .off _ | .on _ _ _ => .isTrue trivial

-----------------------------------------------------------------------------------------
-- The amplitude that is left over from a client
-----------------------------------------------------------------------------------------

/-- What the calls so far leave of the last `setAmplitude`: nothing, its amplitude, or its
amplitude with a timed vibration started since.
-/
inductive Leftover
  | restored
  | streamed (amplitude : BitVec 8)
  | timed (amplitude : BitVec 8)
deriving DecidableEq, Repr

/-- Only an amplitude after which no timed vibration was started is forgotten when an effect
is played.
-/
def Leftover.note (leftover : Leftover) (_ : Vibrator) (call : Call) (_ : Vibrator) : Leftover :=
  match call, leftover with
  | .setAmplitude tmp _, _ => .streamed tmp
  | .on _ _ ret, .streamed amplitude =>
      if ret < 0 then .streamed amplitude else .timed amplitude
  | .perform effect es _ _ _, .streamed amplitude =>
      if Issuable effect es then .restored else .streamed amplitude
  | _, kept => kept

/-- The service together with the amplitude that is left over. -/
def amplitudeMachine : Machine (Vibrator × Leftover) Call :=
  vibratorMachine.observe Leftover.note

/-- Effects were issued at the full amplitude only. -/
def FullAmplitude (state : Vibrator × Leftover) : Prop :=
  EffectsAtFullAmplitude state.1.issued

instance : DecidablePred FullAmplitude :=
  fun state => inferInstanceAs (Decidable (EffectsAtFullAmplitude state.1.issued))

/-- No effect is played over an amplitude below the full one that a client set before the
last timed vibration.
-/
def NoTimedLeftover (before : Vibrator × Leftover) (call : Call) (_ : Vibrator × Leftover)
    : Prop :=
  match call with
  | .perform effect es _ _ _ =>
      Issuable effect es → ∀ amplitude, before.2 = .timed amplitude → amplitude = 0xFF
  | .off _ | .on _ _ _ | .setAmplitude _ _ => True

/-- The library's amplitude is the one that is left over, if there is one, and the service
still knows of it exactly while the last mode is a stream.
-/
def Leftover.Describes (vibrator : Vibrator) : Leftover → Prop
  | restored => vibrator.amplitude = 0xFF
  | streamed amplitude => vibrator.sLastMode = .stream ∧ vibrator.amplitude = amplitude
  | timed amplitude => vibrator.sLastMode ≠ .stream ∧ vibrator.amplitude = amplitude

/-- The history describes the library's amplitude, and no effect was issued at another one
than the full one so far.
-/
structure Tracked (state : Vibrator × Leftover) : Prop where
  described : state.2.Describes state.1
  full : FullAmplitude state

/-- A call of the library may be issued at the full amplitude only if it is an effect. -/
theorem effectsAtFullAmplitude_cons {entry : VendorCall × BitVec 8}
    {issued : List (VendorCall × BitVec 8)}
    : EffectsAtFullAmplitude (entry :: issued)
      ↔ (entry.1.isPrebaked = true → entry.2 = 0xFF) ∧ EffectsAtFullAmplitude issued := by
  simp [EffectsAtFullAmplitude]

/-- After the amplitude is restored it is the full one, or the one that was set before a
timed vibration.
-/
theorem Leftover.Describes.restore {vibrator : Vibrator} {leftover : Leftover}
    (described : leftover.Describes vibrator)
    : (∃ amplitude, leftover = .timed amplitude
        ∧ (vibrator.restore 0).amplitude = amplitude)
      ∨ (∀ amplitude, leftover ≠ .timed amplitude)
        ∧ (vibrator.restore 0).amplitude = 0xFF := by
  cases leftover with
  | restored =>
      refine .inr ⟨by simp, ?_⟩
      have full : vibrator.amplitude = 0xFF := described
      simp only [Vibrator.restore, Vibrator.aacVibraSetAmplitude]
      split_ifs <;> simp [full]
  | streamed amplitude =>
      refine .inr ⟨by simp, ?_⟩
      simp [Vibrator.restore, Vibrator.aacVibraSetAmplitude, described.1]
  | timed amplitude =>
      refine .inl ⟨amplitude, rfl, ?_⟩
      rw [Vibrator.restore, if_neg described.1, described.2]

/-- Restoring the amplitude issues no effect. -/
theorem effectsAtFullAmplitude_restore {vibrator : Vibrator} (restored : Int)
    : EffectsAtFullAmplitude (vibrator.restore restored).issued
      ↔ EffectsAtFullAmplitude vibrator.issued := by
  unfold Vibrator.restore
  split_ifs
  · simp only [Vibrator.aacVibraSetAmplitude]
    split_ifs <;> simp [Vibrator.issue, effectsAtFullAmplitude_cons, VendorCall.isPrebaked]
  · exact Iff.rfl

/-- A perform that plays an effect issues it at the amplitude that is restored before, and
leaves that amplitude and no stream that was not there.
-/
theorem Vibrator.performed {vibrator : Vibrator} {effect : Effect} {es : EffectStrength}
    (issuable : Issuable effect es) (callback : Bool) (restored ret : Int)
    : let after := vibrator.call (.perform effect es callback restored ret)
      after.amplitude = (vibrator.restore restored).amplitude
        ∧ (after.sLastMode = .stream → vibrator.sLastMode = .stream)
        ∧ (EffectsAtFullAmplitude after.issued
          ↔ (vibrator.restore restored).amplitude = 0xFF
            ∧ EffectsAtFullAmplitude vibrator.issued) := by
  have mode : (vibrator.restore restored).sLastMode = vibrator.sLastMode := by
    unfold restore aacVibraSetAmplitude
    split_ifs <;> rfl
  rcases vibrator.perform_cases effect es callback restored ret with refused | played
  · exact absurd issuable refused.1
  · obtain ⟨-, id, strength, performed⟩ := played
    simp only [call, performed]
    split_ifs <;>
      simp [issue, complete, effectsAtFullAmplitude_cons, VendorCall.isPrebaked,
        effectsAtFullAmplitude_restore, mode, apply_ite]

/-- Any other perform changes nothing. -/
theorem Vibrator.call_of_not_issuable {vibrator : Vibrator} {effect : Effect}
    {es : EffectStrength} (refused : ¬Issuable effect es) (callback : Bool)
    (restored ret : Int)
    : vibrator.call (.perform effect es callback restored ret) = vibrator := by
  rcases vibrator.perform_cases effect es callback restored ret with unchanged | played
  · simp only [call, unchanged.2]
  · exact absurd played.1 refused

/-- `Vibrator::on` issues no effect and keeps the amplitude. -/
theorem Vibrator.call_on (vibrator : Vibrator) (timeoutMs : Int) (callback : Bool) (ret : Int)
    : let after := vibrator.call (.on timeoutMs callback ret)
      after.amplitude = vibrator.amplitude
        ∧ after.sLastMode = (if ret < 0 then vibrator.sLastMode else .timeout)
        ∧ (EffectsAtFullAmplitude after.issued
          ↔ EffectsAtFullAmplitude vibrator.issued) := by
  simp only [call, on]
  split_ifs <;>
    simp [issue, complete, effectsAtFullAmplitude_cons, VendorCall.isPrebaked, apply_ite]

/-- Each call keeps the history true of the amplitude, and an effect is issued at the full
one if no other is left over from before a timed vibration.
-/
theorem Tracked.step {vibrator : Vibrator} {leftover : Leftover} {call : Call}
    (tracked : Tracked (vibrator, leftover)) (accepted : call.AmplitudesAccepted)
    (rule : NoTimedLeftover (vibrator, leftover) call (vibrator.call call, leftover))
    : Tracked (vibrator.call call, leftover.note vibrator call (vibrator.call call)) := by
  obtain ⟨described, full⟩ := tracked
  cases call with
  | off ret =>
      constructor
      · cases leftover <;> exact described
      · simpa [FullAmplitude, Vibrator.call, Vibrator.off, Vibrator.issue,
          effectsAtFullAmplitude_cons, VendorCall.isPrebaked] using full
  | on timeoutMs callback ret =>
      obtain ⟨amplitude, mode, issued⟩ := vibrator.call_on timeoutMs callback ret
      refine ⟨?_, issued.mpr full⟩
      cases leftover with
      | restored => exact amplitude.trans described
      | streamed left =>
          by_cases failed : ret < 0
          · simp only [Leftover.note, if_pos failed] at mode ⊢
            exact ⟨mode.trans described.1, amplitude.trans described.2⟩
          · simp only [Leftover.note, if_neg failed] at mode ⊢
            exact ⟨by simp [mode], amplitude.trans described.2⟩
      | timed left =>
          refine ⟨?_, amplitude.trans described.2⟩
          rw [mode]
          split_ifs
          · exact described.1
          · simp
  | setAmplitude tmp ret =>
      obtain rfl : ret = 0 := accepted
      constructor
      · exact ⟨rfl, rfl⟩
      · simpa [FullAmplitude, Vibrator.call, Vibrator.setAmplitude,
          Vibrator.aacVibraSetAmplitude, Vibrator.issue, effectsAtFullAmplitude_cons,
          VendorCall.isPrebaked] using full
  | perform effect es callback restored ret =>
      obtain rfl : restored = 0 := accepted
      by_cases issuable : Issuable effect es
      · obtain ⟨amplitude, mode, issued⟩ := vibrator.performed issuable callback 0 ret
        rcases described.restore with timed | untimed
        · obtain ⟨left, rfl, restored⟩ := timed
          have whole : left = 0xFF := rule issuable left rfl
          refine ⟨⟨fun stream => described.1 (mode stream), amplitude.trans restored⟩, ?_⟩
          exact issued.mpr ⟨restored.trans whole, full⟩
        · obtain ⟨never, restored⟩ := untimed
          refine ⟨?_, issued.mpr ⟨restored, full⟩⟩
          cases leftover with
          | restored => exact amplitude.trans restored
          | streamed left =>
              simp only [Leftover.note, if_pos issuable]
              exact amplitude.trans restored
          | timed left => exact absurd rfl (never left)
      · rw [Vibrator.call_of_not_issuable issuable]
        refine ⟨?_, full⟩
        cases leftover with
        | restored | timed _ => exact described
        | streamed left =>
            simp only [Leftover.note, if_neg issuable]
            exact described

/-- An effect over an amplitude that was left before a timed vibration is issued at that
amplitude.
-/
theorem Tracked.needed {vibrator : Vibrator} {leftover : Leftover} {call : Call}
    (tracked : Tracked (vibrator, leftover)) (accepted : call.AmplitudesAccepted)
    (full : EffectsAtFullAmplitude (vibrator.call call).issued)
    : NoTimedLeftover (vibrator, leftover) call (vibrator.call call, leftover) := by
  cases call with
  | off | on | setAmplitude => trivial
  | perform effect es callback restored ret =>
      obtain rfl : restored = 0 := accepted
      intro issuable left timed
      obtain rfl : leftover = .timed left := timed
      obtain ⟨-, -, issued⟩ := vibrator.performed issuable callback 0 ret
      have whole := (issued.mp full).1
      rcases tracked.described.restore with kept | untimed
      · obtain ⟨same, isLeft, restored⟩ := kept
        obtain rfl := Leftover.timed.inj isLeft
        exact restored.symm.trans whole
      · exact absurd rfl (untimed.1 left)

/-- While the library accepts each amplitude, every effect is issued at the full one exactly
in the runs that play no effect over an amplitude left from before a timed vibration.
Witness: `Tracked`, which each such call keeps.
-/
theorem fullAmplitude_iff (calls : List Call) (accepted : ∀ call ∈ calls, call.AmplitudesAccepted)
    : amplitudeMachine.Always FullAmplitude ({}, .restored) calls
      ↔ amplitudeMachine.Along NoTimedLeftover ({}, .restored) calls := by
  refine Machine.observe_always_iff_along Tracked ?_ ?_ ?_ ?_
    (Machine.Along.of_labels _ accepted)
  · exact fun vibrator leftover tracked => tracked.full
  · intro vibrator leftover call after tracked taken accepted rule
    obtain rfl : vibrator.call call = after := Option.some.inj taken
    exact tracked.step accepted rule
  · intro vibrator leftover call after tracked taken accepted full
    obtain rfl : vibrator.call call = after := Option.some.inj taken
    exact tracked.needed accepted full
  · exact ⟨rfl, by simp [FullAmplitude, EffectsAtFullAmplitude]⟩

/-- The characterisation applied to a stream at half the amplitude that is followed by an
effect.
-/
theorem fullAmplitude_iff_streamThenEffect
    : amplitudeMachine.Always FullAmplitude ({}, .restored)
        [.setAmplitude 0x7F 0, .perform .doubleClick .strong true 0 35]
      ↔ amplitudeMachine.Along NoTimedLeftover ({}, .restored)
        [.setAmplitude 0x7F 0, .perform .doubleClick .strong true 0 35] :=
  fullAmplitude_iff _ (by simp [Call.AmplitudesAccepted])

/-- After half the amplitude and a timed vibration, a heavy click is issued at half the
amplitude.
-/
theorem fullAmplitude_fails_afterTimedVibration
    : let calls : List Call :=
        [.setAmplitude 0x7F 0, .on 50 false 50, .perform .heavyClick .strong false 0 35]
      (∀ call ∈ calls, call.AmplitudesAccepted)
        ∧ ¬amplitudeMachine.Always FullAmplitude ({}, .restored) calls := by
  decide

end PongDevice.Haptics
