import XnnTransfer.Library.Guards
import XnnTransfer.Security.CanonicalRoundTrip

/-!
# Short authentication strings and confirmations

`native/src/security/tls/confirmation.cpp` with the key expansion of
`crypto_primitives.cpp` that it uses: the five word indices that both users
compare, and the authenticated message that carries a decision to the peer.

## Implementation notes

An enumeration value that is neither of the two decisions is `invalid`. The
`SecretBuffer`s are byte strings; that they are wiped is not modelled. Of
`SasWords` only the indices are kept, which is all that its user reads.
-/

namespace XnnTransfer.Security

open Guards

inductive ConfirmationDecision
  | reject
  | confirm
  | invalid
  deriving DecidableEq, Repr

/-- The byte of a valid decision, which is what `IsValidDecision` asks for. -/
def ConfirmationDecision.code? : ConfirmationDecision → Option UInt8
  | .reject => some 0
  | .confirm => some 1
  | .invalid => none

/-- The cast of a byte to a decision, with `invalid` for the other bytes. -/
def ConfirmationDecision.ofCode : UInt8 → ConfirmationDecision
  | 0 => .reject
  | 1 => .confirm
  | _ => .invalid

variable {decision : ConfirmationDecision} {code : UInt8} {sender : Role} {prims : Primitives}
  {confirmationExporter message : Bytes} {context : PairingContext}

theorem ConfirmationDecision.code?_eq_some_iff :
    decision.code? = some code ↔ decision = .ofCode code ∧ decision ≠ .invalid := by
  constructor
  · intro h
    cases decision <;> cases h <;> decide
  rintro ⟨rfl, hvalid⟩
  revert hvalid
  unfold ofCode
  split
  · exact fun _ => rfl
  · exact fun _ => rfl
  · exact fun hvalid => absurd rfl hvalid

inductive ConfirmationOutcome
  | authenticatedReject
  | affirmativeConfirm
  deriving DecidableEq, Repr

structure ConfirmationValue where
  message : Octets 34
  authenticator : Digest256
  deriving DecidableEq, Repr

structure ConfirmationVerification where
  sender : Role
  decision : ConfirmationDecision
  outcome : ConfirmationOutcome
  terminal : Bool
  trustCommitPermitted : Bool
  deriving DecidableEq, Repr

/-! ### Key expansion -/

/-- The block loop of `HkdfExpandSha256Secure`. A block is never empty, so as many rounds
as there are bytes to write are enough. -/
def hkdfExpandLoop (prims : Primitives) (pseudorandomKey information : Bytes)
    (outputLength : Nat) : Nat → Bytes → Bytes → Nat → Except SecurityError Bytes
  | 0, output, _, _ => .ok output
  | rounds + 1, output, previous, counter =>
    if output.length < outputLength then
      match hmacSha256Secure prims pseudorandomKey
          (previous ++ information ++ [UInt8.ofNat counter]) with
      | .error error => .error error
      | .ok block =>
        hkdfExpandLoop prims pseudorandomKey information outputLength rounds
          (output ++ block.val.take (outputLength - output.length)) block.val (counter + 1)
    else .ok output

def hkdfExpandSha256Secure (prims : Primitives) (pseudorandomKey information : Bytes)
    (outputLength : Nat) : Except SecurityError Bytes :=
  if pseudorandomKey.length ≠ sha256Size ∨ outputLength = 0 ∨ 255 * sha256Size < outputLength then
    .error .invalidLength
  else hkdfExpandLoop prims pseudorandomKey information outputLength outputLength [] [] 1

/-! ### Word indices -/

def sasShifts : List UInt64 := [44, 33, 22, 11, 0]

/-- The indices that are read from the seven expanded bytes. -/
def sasIndicesOf (expanded : Bytes) : List UInt16 :=
  let bitStorage := expanded.foldl (fun (bits : UInt64) byte => (bits <<< 8) ||| byte.toUInt64) 0
  sasShifts.map fun shift => (((bitStorage >>> 1) >>> shift) &&& 0x7ff).toUInt16

def sasInformationFields (context : PairingContext) : List CanonicalField :=
  [⟨1, sasInformationLabel⟩, ⟨2, context.digest.val⟩]

def deriveSasWords (prims : Primitives) (pairingExporter : Bytes) (context : PairingContext) :
    Except SecurityError (List UInt16) :=
  match encodeObject prims .sasInformation (sasInformationFields context) with
  | .error error => .error error
  | .ok information =>
    match hkdfExpandSha256Secure prims pairingExporter information 7 with
    | .error error => .error error
    | .ok expanded => .ok (sasIndicesOf expanded)

/-! ### Confirmations -/

/-- The message that is authenticated: the context, the sender and the decision. -/
def confirmationMessage (digest : Digest256) (sender : Role) (code : UInt8) : Octets 34 :=
  ⟨digest.val ++ [sender.code, code], by simp [digest.property]⟩

theorem confirmationMessage_injective {digest digest' : Digest256} {sender' : Role} {code' : UInt8}
    (h : confirmationMessage digest sender code = confirmationMessage digest' sender' code') :
    digest = digest' ∧ sender = sender' ∧ code = code' := by
  have hval := congrArg Subtype.val h
  obtain ⟨hdigest, htail⟩ := List.append_inj hval (digest.property.trans digest'.property.symm)
  simp only [List.cons.injEq, and_true] at htail
  exact ⟨Subtype.ext hdigest, Role.code_injective htail.1, htail.2⟩

def buildConfirmation (prims : Primitives) (confirmationExporter : Bytes)
    (context : PairingContext) (sender : Role) (decision : ConfirmationDecision) :
    Except SecurityError ConfirmationValue :=
  match decision.code? with
  | none => .error .invalidDecision
  | some code =>
    let message := confirmationMessage context.digest sender code
    match hmacSha256Secure prims confirmationExporter message.val with
    | .error error => .error error
    | .ok authenticator => .ok ⟨message, authenticator⟩

theorem buildConfirmation_eq_ok_iff {value : ConfirmationValue} :
    buildConfirmation prims confirmationExporter context sender decision = .ok value ↔
      ∃ code, decision.code? = some code ∧
        value.message = confirmationMessage context.digest sender code ∧
        confirmationExporter.length = sha256Size ∧
        prims.hmac confirmationExporter value.message.val = some value.authenticator := by
  unfold buildConfirmation
  constructor
  · intro h
    split at h
    · cases h
    rename_i code hcode
    simp only at h
    split at h
    · cases h
    rename_i authenticator hmac
    cases h
    obtain ⟨hkey, htag⟩ := hmacSha256Secure_eq_ok_iff.mp hmac
    exact ⟨code, hcode, rfl, hkey, htag⟩
  rintro ⟨code, hcode, hmessage, hkey, htag⟩
  have hmac := hmacSha256Secure_eq_ok_iff.mpr ⟨hkey, htag⟩
  simp only [hcode, ← hmessage, hmac]

/-- What a verification reports about a decision. -/
def verificationOf (sender : Role) : ConfirmationDecision → ConfirmationVerification
  | .confirm => ⟨sender, .confirm, .affirmativeConfirm, false, false⟩
  | decision => ⟨sender, decision, .authenticatedReject, true, false⟩

def verifyConfirmation (prims : Primitives) (confirmationExporter message authenticator : Bytes)
    (expectedContext : PairingContext) (expectedSender : Role) :
    Except SecurityError ConfirmationVerification :=
  if message.length ≠ sha256Size + 2 ∨ authenticator.length ≠ sha256Size then
    .error .invalidLength
  else if (message.drop 32).headD 0 ≠ expectedSender.code then .error .roleMismatch
  else
    let decision := ConfirmationDecision.ofCode ((message.drop 33).headD 0)
    if decision = .invalid then .error .invalidDecision
    else
      match hmacSha256Secure prims confirmationExporter message with
      | .error error => .error error
      | .ok expected =>
        if expected.val ≠ authenticator then .error .confirmationMismatch
        else if message.take sha256Size ≠ expectedContext.digest.val then .error .contextMismatch
        else .ok (verificationOf expectedSender decision)

/-- A message of the right length is its digest and two bytes. -/
theorem message_eq_append (h : message.length = 34) :
    message = message.take 32 ++ [(message.drop 32).headD 0, (message.drop 33).headD 0] := by
  conv_lhs => rw [← List.take_append_drop 32 message]
  congr 1
  have hlength : (message.drop 32).length = 2 := by
    rw [List.length_drop]
    omega
  have hlast : message.drop 33 = (message.drop 32).drop 1 := by
    rw [List.drop_drop]
  rw [hlast]
  obtain ⟨first, second, hpair⟩ := List.length_eq_two.mp hlength
  rw [hpair]
  rfl

/-- The message that is authenticated, by its parts. -/
theorem message_eq_iff {digest : Digest256} :
    message = (confirmationMessage digest sender code).val ↔
      message.length = 34 ∧ (message.drop 32).headD 0 = sender.code ∧
        (message.drop 33).headD 0 = code ∧ message.take 32 = digest.val := by
  constructor
  · rintro rfl
    have hdrop : (confirmationMessage digest sender code).val.drop 32 = [sender.code, code] :=
      List.drop_left' digest.property
    have hlast := congrArg (List.drop 1) hdrop
    rw [List.drop_drop] at hlast
    rw [hdrop, hlast]
    exact ⟨(confirmationMessage digest sender code).property, rfl, rfl,
      List.take_left' digest.property⟩
  rintro ⟨hlength, hrole, hcode, htake⟩
  rw [message_eq_append hlength, hrole, hcode, htake]
  rfl

/-- A confirmation is verified exactly when it is what the expected sender builds for the
expected context under the same exporter. -/
theorem verifyConfirmation_eq_ok_iff {authenticator : Bytes}
    {verification : ConfirmationVerification} :
    verifyConfirmation prims confirmationExporter message authenticator context sender =
        .ok verification ↔
      ∃ decision value,
        buildConfirmation prims confirmationExporter context sender decision = .ok value ∧
          value.message.val = message ∧ value.authenticator.val = authenticator ∧
          verification = verificationOf sender decision := by
  unfold verifyConfirmation
  simp only [ite_error_eq_ok]
  constructor
  · rintro ⟨hlengths, hrole, hvalid, h⟩
    split at h
    · cases h
    rename_i expected hmac
    simp only [ite_error_eq_ok] at h
    obtain ⟨htag, hdigest, ⟨⟩⟩ := h
    rw [not_not] at hrole htag hdigest
    push Not at hlengths
    obtain ⟨hkey, hexpected⟩ := hmacSha256Secure_eq_ok_iff.mp hmac
    have hcode := ConfirmationDecision.code?_eq_some_iff.mpr ⟨rfl, hvalid⟩
    have hmessage := message_eq_iff.mpr ⟨hlengths.1, hrole, rfl, hdigest⟩
    refine ⟨_, ⟨confirmationMessage context.digest sender ((message.drop 33).headD 0), expected⟩,
      buildConfirmation_eq_ok_iff.mpr ⟨_, hcode, rfl, hkey, ?_⟩, hmessage.symm, htag, rfl⟩
    rw [← hmessage]
    exact hexpected
  rintro ⟨decision, value, hbuild, rfl, rfl, rfl⟩
  obtain ⟨code, hcode, hmessage, hkey, htag⟩ := buildConfirmation_eq_ok_iff.mp hbuild
  obtain ⟨hdecision, hvalid⟩ := ConfirmationDecision.code?_eq_some_iff.mp hcode
  obtain ⟨hlength, hrole, hbyte, htake⟩ := message_eq_iff.mp (congrArg Subtype.val hmessage)
  rw [hbyte, ← hdecision, hmacSha256Secure_eq_ok_iff.mpr ⟨hkey, htag⟩]
  simp only [ite_error_eq_ok]
  refine ⟨?_, not_not.mpr hrole, hvalid, not_not.mpr rfl, not_not.mpr htake, trivial⟩
  push Not
  exact ⟨hlength, value.authenticator.property⟩

@[simp] theorem verificationOf_decision (sender : Role) (decision : ConfirmationDecision) :
    (verificationOf sender decision).decision = decision := by
  cases decision <;> rfl

end XnnTransfer.Security
