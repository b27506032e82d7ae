import XnnTransfer.Library.MachineWords
import XnnTransfer.Protocol.Versions

/-!
# The vocabulary of the security profile

Error codes, roles and fixed-size byte strings of
`core/security/tls/security_profile.hpp`, and the primitives that the profile
takes from elsewhere.

## Implementation notes

`Result<T>` is `Except SecurityError T`. A function of the source that returns a
bare `SecurityError` keeps that type, with `none` for success. `Primitives` holds
what is computed outside the profile: the group law behind the key check and the
two hash functions, which may also fail.
-/

namespace XnnTransfer

/-- A byte string of a fixed length, the model of `std::array<std::uint8_t, n>`. -/
abbrev Octets (n : Nat) := { bytes : Bytes // bytes.length = n }

namespace Octets

def zero (n : Nat) : Octets n := ⟨List.replicate n 0, List.length_replicate⟩

/-- `AllZero`: the disjunction of all bytes vanishes. -/
def allZero {n : Nat} (octets : Octets n) : Bool := octets.val.all (· = 0)

@[simp] theorem allZero_zero (n : Nat) : (zero n).allZero = true := by
  simp [allZero, zero]

end Octets

abbrev PublicKey := Octets 32
abbrev Digest256 := Octets 32
abbrev Nonce256 := Octets 32
abbrev DeviceId := Octets 32

namespace Security

def sha256Size : Nat := 32
def ed25519PublicKeySize : Nat := 32
def maximumCanonicalBodySize : Nat := 1048576
def maximumCanonicalFields : Nat := 32
def securityProfileV1 : Nat := 1

inductive SecurityError
  | none
  | cryptoFailure
  | invalidLength
  | malformedEncoding
  | nonCanonicalEncoding
  | unsupportedVersion
  | unknownKind
  | unknownField
  | duplicateField
  | missingField
  | trailingData
  | limitExceeded
  | domainMismatch
  | roleMismatch
  | invalidPublicKey
  | unsupportedProfile
  | invalidNegotiation
  | unsupportedCapability
  | downgradeDetected
  | malformedTranscript
  | contextMismatch
  | confirmationMismatch
  | invalidDecision
  | authenticatedReject
  | localReject
  | deviceIdentifierMismatch
  | transportFinishedMismatch
  | invalidRotation
  | replayDetected
  | outputMismatch
  | identityUnavailable
  | tlsConfigurationFailure
  | handshakeIncomplete
  | tlsVersionMismatch
  | cipherMismatch
  | groupMismatch
  | signatureMismatch
  | alpnMismatch
  | peerCertificateMismatch
  | pinMismatch
  | resumptionDetected
  | earlyDataDetected
  | exporterFailure
  deriving DecidableEq, Repr

/-- The result of a check that lets a value pass. -/
def SecurityError.result {α : Type} (error : SecurityError) (value : α) :
    Except SecurityError α :=
  if error = .none then .ok value else .error error

/-- The second check is made when the first one passes. -/
def SecurityError.andThen (first second : SecurityError) : SecurityError :=
  if first = .none then second else first

/-- The error of a computation, without its value. -/
def SecurityError.of {α : Type} : Except SecurityError α → SecurityError
  | .ok _ => .none
  | .error error => error

variable {α : Type} {key : PublicKey}

@[simp] theorem SecurityError.result_none (value : α) :
    SecurityError.none.result value = .ok value := rfl

@[simp] theorem SecurityError.result_eq_ok_iff {error : SecurityError} {value value' : α} :
    error.result value = .ok value' ↔ error = .none ∧ value = value' := by
  unfold SecurityError.result
  split <;> simp_all

@[simp] theorem SecurityError.andThen_eq_none_iff {first second : SecurityError} :
    first.andThen second = .none ↔ first = .none ∧ second = .none := by
  unfold SecurityError.andThen
  split <;> simp_all

inductive Role
  | initiator
  | responder
  deriving DecidableEq, Repr

def Role.code : Role → UInt8
  | .initiator => 1
  | .responder => 2

/-- `OppositeRole`. -/
def Role.opposite : Role → Role
  | .initiator => .responder
  | .responder => .initiator

theorem Role.code_injective : Function.Injective Role.code := by
  intro first second h
  cases first <;> cases second <;> first | rfl | exact absurd h (by decide)

/-- What one call takes from the hash library and from the curve arithmetic. -/
structure Primitives where
  /-- `DecodePoint` and the two identity tests of `ValidateEd25519PublicKey`. -/
  checkPoint : PublicKey → SecurityError
  sha256 : Bytes → Option Digest256
  hmac : Bytes → Bytes → Option Digest256

variable {prims : Primitives}

def validateEd25519PublicKey (prims : Primitives) (encoded : Bytes) :
    Except SecurityError PublicKey :=
  if h : encoded.length = ed25519PublicKeySize then
    (prims.checkPoint ⟨encoded, h⟩).result ⟨encoded, h⟩
  else .error .invalidLength

/-- `Sha256`. -/
def sha256 (prims : Primitives) (input : Bytes) : Except SecurityError Digest256 :=
  match prims.sha256 input with
  | some digest => .ok digest
  | none => .error .cryptoFailure

/-- `HmacSha256Secure`. -/
def hmacSha256Secure (prims : Primitives) (key message : Bytes) :
    Except SecurityError Digest256 :=
  if key.length ≠ sha256Size then .error .invalidLength
  else
    match prims.hmac key message with
    | some tag => .ok tag
    | none => .error .cryptoFailure

@[simp] theorem sha256_eq_ok_iff {input : Bytes} {digest : Digest256} :
    sha256 prims input = .ok digest ↔ prims.sha256 input = some digest := by
  unfold sha256
  split <;> simp_all

theorem hmacSha256Secure_eq_ok_iff {key message : Bytes} {tag : Digest256} :
    hmacSha256Secure prims key message = .ok tag ↔
      key.length = sha256Size ∧ prims.hmac key message = some tag := by
  unfold hmacSha256Secure
  split
  · simp_all
  · split <;> simp_all

/-- Primitives that accept every key and whose hashes are constant. -/
def plainPrimitives : Primitives where
  checkPoint _ := .none
  sha256 _ := some (.zero 32)
  hmac _ _ := some (.zero 32)

end Security

end XnnTransfer
