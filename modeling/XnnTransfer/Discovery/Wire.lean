import Mathlib.Data.List.TakeDrop
import XnnTransfer.Discovery.Types

/-!
# Discovery datagrams

`ParseAdvertisement` and `EncodeAdvertisement` of `native/src/discovery/wire.cpp`.

## Implementation notes

A datagram is its payload; the fixed-size arrays of `Advertisement` and
`EncodedDatagram` are the bytes that `display_label()`, `raw_datagram()` and
`payload()` give. The tests of the parser come in the order of the source. Those
on the header are `checkHeader` and those that depend on the message type are
`checkMessage`, with `none` for success. The loop over the fields runs on the
bytes that are left; its counter is the number of fields that may still come,
which makes it structurally recursive.
-/

namespace XnnTransfer.Discovery

open MachineWords Protocol

def magic : Bytes := [0x58, 0x4e, 0x4e, 0x44]
def versionMajor : UInt8 := 1
def versionMinor : UInt8 := 0
def minimumTtlSeconds : UInt16 := 5
def maximumTtlSeconds : UInt16 := 60
def maximumTlvs : Nat := 32
def displayLabelField : UInt16 := 1
def criticalBit : UInt16 := 0x8000
def fieldIdMask : UInt16 := 0x7fff

def MessageType.ofCode? (code : UInt8) : Option MessageType :=
  if code = MessageType.announce.code then some .announce
  else if code = MessageType.withdraw.code then some .withdraw
  else none

variable (payload : Bytes) (type : MessageType) (servicePort ttlSeconds : UInt16)
  (displayLabel : Bytes) (validator : DisplayLabelValidator)

/-- The tests on the fixed part of the header. -/
def checkHeader : ParseError :=
  let totalLength := get16 (subspan payload 8 2)
  let headerLength := get16 (subspan payload 10 2)
  let tlvLength := get16 (subspan payload 40 2)
  if payload.length < discoveryHeaderSize then .tooShort
  else if maxDatagramSize < payload.length then .tooLarge
  else if payload.take 4 ≠ magic then .badMagic
  else if payload.getD 4 0 ≠ versionMajor ∨ payload.getD 5 0 ≠ versionMinor then
    .unsupportedVersion
  else if totalLength.toNat ≠ payload.length then .lengthMismatch
  else if headerLength.toNat ≠ discoveryHeaderSize then .badHeaderLength
  else if payload.getD 7 0 ≠ 0 then .nonzeroFlags
  else if get16 (subspan payload 42 2) ≠ 0 then .nonzeroReserved
  else if tlvLength.toNat ≠ totalLength.toNat - headerLength.toNat then .lengthMismatch
  else .none

/-- The tests that depend on the message type. -/
def checkMessage (tlvLength : UInt16) : ParseError :=
  match type with
  | .announce =>
    if servicePort = 0 ∨ ttlSeconds < minimumTtlSeconds ∨ maximumTtlSeconds < ttlSeconds then
      .invalidAnnounce
    else .none
  | .withdraw =>
    if servicePort ≠ 0 ∨ ttlSeconds ≠ 0 ∨ tlvLength ≠ 0 then .invalidWithdraw else .none

/-- The loop over the fields behind the header, which returns the display label. -/
def parseTlvs (validator : DisplayLabelValidator) :
    Nat → UInt16 → Bytes → Bytes → Except ParseError Bytes
  | remaining, previousFieldId, label, rest =>
    let wireType := get16 (subspan rest 0 2)
    let valueLength := (get16 (subspan rest 2 2)).toNat
    let fieldId := wireType &&& fieldIdMask
    let critical := wireType &&& criticalBit ≠ 0
    let value := subspan rest 4 valueLength
    if rest = [] then .ok label
    else if rest.length < 4 then .error .truncatedTlv
    else if rest.length - 4 < valueLength then .error .truncatedTlv
    else if fieldId = 0 then .error .reservedTlv
    else if fieldId < previousFieldId then .error .tlvOrder
    else if fieldId = previousFieldId then .error .duplicateTlv
    else
      match remaining with
      | 0 => .error .tooManyTlvs
      | remaining + 1 =>
        let rest := rest.drop (4 + valueLength)
        if fieldId = displayLabelField ∧ ¬ critical then
          if value = [] ∨ maxDisplayLabelBytes < value.length ∨ validator value = false then
            .error .invalidLabel
          else parseTlvs validator remaining fieldId value rest
        else if critical then .error .unknownCriticalTlv
        else parseTlvs validator remaining fieldId label rest

/-- The sixteen bytes behind the sequence number. -/
def tokenOf : InstanceToken :=
  ⟨(subspan payload 20 16).takeD 16 0, List.takeD_length _ _ _⟩

/-- `ParseAdvertisement`. -/
def parseAdvertisement : Except ParseError Advertisement :=
  let tlvLength := get16 (subspan payload 40 2)
  let sequence := get64 (subspan payload 12 8)
  let token := tokenOf payload
  let servicePort := get16 (subspan payload 36 2)
  let ttlSeconds := get16 (subspan payload 38 2)
  if checkHeader payload ≠ .none then .error (checkHeader payload)
  else
    match MessageType.ofCode? (payload.getD 6 0) with
    | none => .error .unknownMessage
    | some type =>
      if sequence = 0 then .error .zeroSequence
      else if token.allZero = true then .error .zeroToken
      else if checkMessage type servicePort ttlSeconds tlvLength ≠ .none then
        .error (checkMessage type servicePort ttlSeconds tlvLength)
      else
        match parseTlvs validator maximumTlvs 0 [] (payload.drop discoveryHeaderSize) with
        | .error error => .error error
        | .ok label =>
          .ok { type := type, sequence := sequence, token := token,
                servicePort := servicePort, ttlSeconds := ttlSeconds, label := label,
                raw := payload, rawSize := UInt16.ofNat payload.length }

/-- The fields behind the header: the display label, unless it is empty. -/
def encodeTlvs : Bytes :=
  if displayLabel = [] then []
  else put16 displayLabelField ++ put16 (UInt16.ofNat displayLabel.length) ++ displayLabel

/-- The arguments that `EncodeAdvertisement` accepts for a message of the type. -/
def encodable : Bool :=
  match type with
  | .announce =>
    !(servicePort = 0 || ttlSeconds < minimumTtlSeconds || maximumTtlSeconds < ttlSeconds) &&
      (displayLabel = [] ||
        !(maxDisplayLabelBytes < displayLabel.length || !validator displayLabel))
  | .withdraw => !(servicePort ≠ 0 || ttlSeconds ≠ 0 || displayLabel ≠ [])

/-- `EncodeAdvertisement`. -/
def encodeAdvertisement (sequence : UInt64) (token : InstanceToken)
    (servicePort ttlSeconds : UInt16) (displayLabel : Bytes) (validator : DisplayLabelValidator) :
    Option Bytes :=
  let tlvs := encodeTlvs displayLabel
  if sequence = 0 ∨ token.allZero = true then none
  else if encodable type servicePort ttlSeconds displayLabel validator = false then none
  else
    some (magic ++ [versionMajor, versionMinor, type.code, 0] ++
      put16 (UInt16.ofNat (discoveryHeaderSize + tlvs.length)) ++
      put16 (UInt16.ofNat discoveryHeaderSize) ++ put64 sequence ++ token.val ++
      put16 servicePort ++ put16 ttlSeconds ++ put16 (UInt16.ofNat tlvs.length) ++ put16 0 ++
      tlvs)

end XnnTransfer.Discovery
