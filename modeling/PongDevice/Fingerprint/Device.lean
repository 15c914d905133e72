import Mathlib.Data.Vector.Basic

/-! The legacy fingerprint device's messages and the tokens that travel with them. -/

namespace PongDevice.Fingerprint

/-- AIDL's token, with each integer field as its bits. -/
structure HardwareAuthToken where
  challenge : BitVec 64
  userId : BitVec 64
  authenticatorId : BitVec 64
  authenticatorType : BitVec 32
  timestampMilliSeconds : BitVec 64
  mac : List (BitVec 8)
deriving DecidableEq, Repr

/-- The legacy packed token; the big-endian fields hold their bits as the host reads them. -/
structure HwAuthToken where
  version : BitVec 8
  challenge : BitVec 64
  userId : BitVec 64
  authenticatorId : BitVec 64
  authenticatorType : BitVec 32
  timestamp : BitVec 64
  hmac : Vector (BitVec 8) 32
deriving DecidableEq, Repr

instance : Inhabited HwAuthToken :=
  ⟨{
    version := 0
    challenge := 0
    userId := 0
    authenticatorId := 0
    authenticatorType := 0
    timestamp := 0
    hmac := Vector.replicate 32 0
  }⟩

/-- Byte reversal, `htobe32` and `be32toh` on a little-endian host. -/
def swap32 (word : BitVec 32) : BitVec 32 :=
  word.extractLsb' 0 8 ++ word.extractLsb' 8 8 ++ word.extractLsb' 16 8
    ++ word.extractLsb' 24 8

/-- Byte reversal, `htobe64` and `be64toh` on a little-endian host. -/
def swap64 (word : BitVec 64) : BitVec 64 :=
  swap32 (word.extractLsb' 0 32) ++ swap32 (word.extractLsb' 32 32)

/-- `std::copy` of the client's bytes over the start of `hmac`. -/
def copyMac (mac : List (BitVec 8)) (hmac : Vector (BitVec 8) 32) : Vector (BitVec 8) 32 :=
  Vector.ofFn (fun index => mac.getD index hmac[index])

/-- Fills the caller's `hat` from an AIDL token. `version` keeps what `hat` held before, and
a `mac` of more than 32 bytes would be written past the end of `hmac`, which is `none`.
-/
def translate (authToken : HardwareAuthToken) (hat : HwAuthToken) : Option HwAuthToken :=
  if authToken.mac.length ≤ 32 then
    some
      { hat with
        challenge := authToken.challenge
        userId := authToken.userId
        authenticatorId := authToken.authenticatorId
        -- these are in host order: translate to network order
        authenticatorType := swap32 authToken.authenticatorType
        timestamp := swap64 authToken.timestampMilliSeconds
        hmac := copyMac authToken.mac hat.hmac
      }
  else
    none

/-- The AIDL token of a legacy one; the bytes go in front of what `authToken.mac` held. -/
def translateBack (hat : HwAuthToken) (authToken : HardwareAuthToken) : HardwareAuthToken :=
  {
    challenge := hat.challenge
    userId := hat.userId
    authenticatorId := hat.authenticatorId
    -- these are in network order: translate to host
    authenticatorType := swap32 hat.authenticatorType
    timestampMilliSeconds := swap64 hat.timestamp
    mac := hat.hmac.toList ++ authToken.mac
  }

/-- A default-constructed AIDL token. -/
def HardwareAuthToken.empty : HardwareAuthToken :=
  {
    challenge := 0
    userId := 0
    authenticatorId := 0
    authenticatorType := 0
    timestampMilliSeconds := 0
    mac := []
  }

/-- `fingerprint_finger_id_t`. -/
structure FingerId where
  gid : BitVec 32
  fid : BitVec 32
deriving DecidableEq, Repr

/-- `fingerprint_msg_t`, the message type with its member of the union. Types outside the
enumeration reach no case of the switch in `notify`.
-/
inductive FingerprintMsg where
  | error (code : Int)
  | acquired (acquiredInfo : Int)
  | templateEnrolling (finger : FingerId) (samplesRemaining : BitVec 32)
  | templateRemoved (finger : FingerId) (remainingTemplates : BitVec 32)
  | authenticated (finger : FingerId) (hat : HwAuthToken)
  | templateEnumerating (finger : FingerId) (remainingTemplates : BitVec 32)
  | unknown
deriving Repr

/-- AIDL `Error`, as far as the translation produces it. -/
inductive SessionError where
  | hwUnavailable
  | unableToProcess
  | timeout
  | noSpace
  | canceled
  | unableToRemove
  | vendor
deriving DecidableEq, Repr

/-- AIDL `AcquiredInfo`, as far as the translation produces it. -/
inductive AcquiredInfo where
  | good
  | partialImage
  | insufficient
  | sensorDirty
  | tooSlow
  | tooFast
  | vendor
deriving DecidableEq, Repr

/-- Translate from errors returned by the traditional HAL to the AIDL-compliant error, with
its vendor code. The cases are `FINGERPRINT_ERROR_HW_UNAVAILABLE` to
`FINGERPRINT_ERROR_LOCKOUT`, and `FINGERPRINT_ERROR_VENDOR_BASE` is 1000.
-/
def vendorErrorFilter (error : Int) : SessionError × Int :=
  if error = 1 then (.hwUnavailable, 0)
  else if error = 2 then (.unableToProcess, 0)
  else if error = 3 then (.timeout, 0)
  else if error = 4 then (.noSpace, 0)
  else if error = 5 then (.canceled, 0)
  else if error = 6 then (.unableToRemove, 0)
  else if error = 7 then (.vendor, 7)
  else if 1000 ≤ error then (.vendor, error - 1000)
  else (.unableToProcess, 0)

/-- Translate acquired messages of the traditional HAL to AIDL-compliant information. The
cases are `FINGERPRINT_ACQUIRED_GOOD` to `FINGERPRINT_ACQUIRED_TOO_FAST`; the detection
message falls through to the default with the other values below the vendor base.
-/
def vendorAcquiredFilter (info : Int) : AcquiredInfo × Int :=
  if info = 0 then (.good, 0)
  else if info = 1 then (.partialImage, 0)
  else if info = 2 then (.insufficient, 0)
  else if info = 3 then (.sensorDirty, 0)
  else if info = 4 then (.tooSlow, 0)
  else if info = 5 then (.tooFast, 0)
  else if 1000 ≤ info then (.vendor, info - 1000)
  else (.insufficient, 0)

end PongDevice.Fingerprint
