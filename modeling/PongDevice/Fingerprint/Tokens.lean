import PongDevice.Fingerprint.Outputs

/-! Authentication tokens on their way to the fingerprint device and back, and what a token
for an enrollment carries of the memory that it is built in.
-/

namespace PongDevice.Fingerprint

-----------------------------------------------------------------------------------------
-- Byte order
-----------------------------------------------------------------------------------------

/-- The bit comes from the byte on the other side, at its own place there. -/
theorem getLsbD_swap32 (word : BitVec 32) {bit : Nat} (inside : bit < 32)
    : (swap32 word).getLsbD bit = word.getLsbD (8 * (3 - bit / 8) + bit % 8) := by
  simp only [swap32, BitVec.getLsbD_append, BitVec.getLsbD_extractLsb']
  by_cases first : bit < 8
  · simp only [first, decide_true, Bool.true_and, if_true]
    congr 1
    omega
  · by_cases second : bit < 16
    · simp only [first, show bit - 8 < 8 by omega, decide_true, Bool.true_and, if_true,
        if_false]
      congr 1
      omega
    · by_cases third : bit < 24
      · simp only [first, show ¬bit - 8 < 8 by omega, show bit - 8 - 8 < 8 by omega,
          decide_true, Bool.true_and, if_true, if_false]
        congr 1
        omega
      · simp only [first, show ¬bit - 8 < 8 by omega, show ¬bit - 8 - 8 < 8 by omega,
          show bit - 8 - 8 - 8 < 8 by omega, decide_true, Bool.true_and, if_false]
        congr 1
        omega

/-- Reversing the bytes twice restores the word, bit by bit. -/
@[simp]
theorem swap32_swap32 (word : BitVec 32) : swap32 (swap32 word) = word := by
  refine BitVec.eq_of_getLsbD_eq (fun bit inside => ?_)
  rw [getLsbD_swap32 _ inside, getLsbD_swap32 _ (by omega)]
  congr 1
  omega

/-- Reversing the bytes of a long word twice restores it, half by half. -/
@[simp]
theorem swap64_swap64 (word : BitVec 64) : swap64 (swap64 word) = word := by
  have low : (swap64 word).extractLsb' 0 32 = swap32 (word.extractLsb' 32 32) :=
    BitVec.extractLsb'_append_eq_right
  have high : (swap64 word).extractLsb' 32 32 = swap32 (word.extractLsb' 0 32) :=
    BitVec.extractLsb'_append_eq_left
  rw [swap64, low, high, swap32_swap32, swap32_swap32]
  exact (BitVec.extractLsb'_append_extractLsb'_eq_extractLsb' rfl).trans
    BitVec.extractLsb'_eq_self

/-- A whole `mac` replaces what `hmac` held. -/
theorem toList_copyMac {mac : List (BitVec 8)} (whole : mac.length = 32)
    (hmac : Vector (BitVec 8) 32)
    : (copyMac mac hmac).toList = mac := by
  refine List.ext_getElem (by simp [whole]) (fun index _ _ => ?_)
  simp [copyMac, List.getD_eq_getElem?_getD, whole]

/-- The bytes of one `hmac` replace those of another. -/
theorem copyMac_toList (bytes hmac : Vector (BitVec 8) 32)
    : copyMac bytes.toList hmac = bytes := by
  have same := toList_copyMac bytes.length_toList hmac
  exact Vector.toList_inj.mp same

/-- A token comes back from the legacy form as it was, whatever the form held before, and a
legacy token comes back from AIDL with each field but the version, which is not translated.
-/
theorem translate_roundTrip
    : (∀ authToken : HardwareAuthToken,
        authToken.mac.length = 32
        → ∀ hat : HwAuthToken,
            (translate authToken hat).map (translateBack · .empty) = some authToken)
      ∧ ∀ hat prior : HwAuthToken,
          translate (translateBack hat .empty) prior
            = some { hat with version := prior.version } := by
  constructor
  · intro authToken whole hat
    have fits : authToken.mac.length ≤ 32 := whole.le
    simp [translate, translateBack, fits, toList_copyMac whole, HardwareAuthToken.empty]
  · intro hat prior
    simp [translate, translateBack, HardwareAuthToken.empty, copyMac_toList]

/-- A token of a password's authenticator, with a whole `mac`. -/
def passwordToken : HardwareAuthToken :=
  {
    challenge := 0x8000000000000001
    userId := 0xFFFFFFFFFFFFFFFF
    authenticatorId := 3
    authenticatorType := 1
    timestampMilliSeconds := 0x0102030405060708
    mac := List.replicate 32 0xA5
  }

/-- The round trip of that token, and of a legacy token whose bytes are all zero. -/
theorem translate_roundTrip_passwordToken
    : (translate passwordToken default).map (translateBack · .empty) = some passwordToken
      ∧ translate (translateBack default .empty) default = some default :=
  ⟨translate_roundTrip.1 passwordToken (by decide) default, translate_roundTrip.2 default default⟩

-----------------------------------------------------------------------------------------
-- What the device is handed for an enrollment
-----------------------------------------------------------------------------------------

/-- The tokens among what was sent. -/
def tokensHandedOver (outputs : List Output) : List HwAuthToken :=
  outputs.filterMap (fun output =>
    match output with
    | .device (.enroll hat _ _ _) => some hat
    | _ => none)

/-- Both runs of `enroll`, over two prior contents of its local token, stay inside of
`hmac` and hand the device one token each, which is the same.
-/
def DeterminedByToken (session : Session) (now : Int) (hat : HardwareAuthToken) (error : Int)
    (stack₁ stack₂ : HwAuthToken)
    : Prop :=
  ∃ after₁ ∈ session.enroll now hat stack₁ error,
    ∃ after₂ ∈ session.enroll now hat stack₂ error,
      ∃ authToken,
        tokensHandedOver (session.newOutputs after₁) = [authToken]
        ∧ tokensHandedOver (session.newOutputs after₂) = [authToken]

/-- A finished `enroll` hands over the translated token. -/
theorem tokensHandedOver_enroll {session after : Session} {now error : Int}
    {hat : HardwareAuthToken} {stack : HwAuthToken}
    (returned : session.enroll now hat stack error = some after)
    : ∃ authToken, translate hat stack = some authToken
        ∧ tokensHandedOver (session.newOutputs after) = [authToken] := by
  obtain ⟨authToken, translated, rest⟩ := Option.map_eq_some_iff.mp returned
  have called : session.call now (.enroll hat stack error) = some (after, .ok) := by
    simp [Session.call, returned]
  refine ⟨authToken, translated, ?_⟩
  rw [Session.newOutputs_eq (Session.sent_call called)]
  simp only [Session.callOutputs, translated, Session.startOutputs]
  split_ifs <;> rfl

/-- The token decides the copied bytes of `hmac`, and the rest is as it was. -/
theorem copyMac_eq_iff (mac : List (BitVec 8)) (hmac₁ hmac₂ : Vector (BitVec 8) 32)
    : copyMac mac hmac₁ = copyMac mac hmac₂
      ↔ ∀ (index : Nat) (inside : index < 32),
          mac.length ≤ index → hmac₁[index] = hmac₂[index] := by
  simp only [copyMac, Vector.ext_iff, Vector.getElem_ofFn, List.getD_eq_getElem?_getD]
  constructor
  · intro same index inside uncopied
    have here := same index inside
    simpa [List.getElem?_eq_none uncopied] using here
  · intro same index inside
    by_cases copied : index < mac.length
    · simp [List.getElem?_eq_getElem copied]
    · have uncopied : mac.length ≤ index := by omega
      simpa [List.getElem?_eq_none uncopied] using same index inside uncopied

/-- Two memories give the same legacy token if it fits and they agree where it is not
assigned.
-/
theorem translate_common_iff (hat : HardwareAuthToken) (stack₁ stack₂ : HwAuthToken)
    : (∃ authToken, translate hat stack₁ = some authToken ∧ translate hat stack₂ = some authToken)
      ↔ hat.mac.length ≤ 32
        ∧ stack₁.version = stack₂.version
        ∧ copyMac hat.mac stack₁.hmac = copyMac hat.mac stack₂.hmac := by
  by_cases fits : hat.mac.length ≤ 32
  · simp only [translate, fits, if_true, Option.some.injEq, exists_eq_left', true_and]
    rw [eq_comm, HwAuthToken.mk.injEq]
    simp
  · simp [translate, fits]

/-- The device is handed what the token is translated to, so that two runs agree exactly if
both memories give the same legacy token.
-/
theorem determinedByToken_iff_translate (session : Session) (now : Int)
    (hat : HardwareAuthToken) (error : Int) (stack₁ stack₂ : HwAuthToken)
    : DeterminedByToken session now hat error stack₁ stack₂
      ↔ ∃ authToken,
          translate hat stack₁ = some authToken ∧ translate hat stack₂ = some authToken := by
  constructor
  · intro determined
    obtain ⟨after₁, returned₁, after₂, returned₂, authToken, first, second⟩ := determined
    obtain ⟨token₁, translated₁, handed₁⟩ := tokensHandedOver_enroll returned₁
    obtain ⟨token₂, translated₂, handed₂⟩ := tokensHandedOver_enroll returned₂
    obtain rfl : token₁ = authToken := by simpa [handed₁] using first
    obtain rfl : token₂ = token₁ := by simpa [handed₂] using second
    exact ⟨token₂, translated₁, translated₂⟩
  · intro common
    obtain ⟨authToken, translated₁, translated₂⟩ := common
    have runs
        : ∀ stack,
            translate hat stack = some authToken
            → ∃ after ∈ session.enroll now hat stack error,
                tokensHandedOver (session.newOutputs after) = [authToken] := by
      intro stack translated
      obtain ⟨after, returned⟩ : ∃ after, session.enroll now hat stack error = some after := by
        simp [Session.enroll, translated]
      obtain ⟨token, same, handed⟩ := tokensHandedOver_enroll returned
      obtain rfl : authToken = token := Option.some.inj (translated.symm.trans same)
      exact ⟨after, returned, handed⟩
    obtain ⟨after₁, returned₁, handed₁⟩ := runs stack₁ translated₁
    obtain ⟨after₂, returned₂, handed₂⟩ := runs stack₂ translated₂
    exact ⟨after₁, returned₁, after₂, returned₂, authToken, handed₁, handed₂⟩

/-- A token fixes what the device is handed exactly when its `mac` fits and the memory has
the same version and the same bytes of `hmac` past the `mac` in both runs. The version is
never assigned, so that no token fixes it for all memory.
-/
theorem enroll_determinedByToken_iff (session : Session) (now : Int) (hat : HardwareAuthToken)
    (error : Int) (stack₁ stack₂ : HwAuthToken)
    : DeterminedByToken session now hat error stack₁ stack₂
      ↔ hat.mac.length ≤ 32
        ∧ stack₁.version = stack₂.version
        ∧ ∀ (index : Nat) (inside : index < 32),
            hat.mac.length ≤ index → stack₁.hmac[index] = stack₂.hmac[index] := by
  rw [determinedByToken_iff_translate, translate_common_iff, copyMac_eq_iff]

/-- The version of a whole token is a byte of the memory that the service builds it in. -/
theorem enroll_handsOverMemory
    : ¬DeterminedByToken (.make 0 0 {}) 0 passwordToken 0 default
        { (default : HwAuthToken) with version := 0x7F } := by
  rw [determinedByToken_iff_translate, translate_common_iff]
  intro determined
  exact absurd determined.2.1 (by decide)

end PongDevice.Fingerprint
