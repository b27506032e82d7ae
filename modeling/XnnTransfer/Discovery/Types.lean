import Mathlib.Data.List.Lex
import Mathlib.Data.Prod.Lex
import XnnTransfer.Security.Types

/-!
# The vocabulary of discovery

The addresses, scopes, candidates and events of
`core/discovery/discovery.hpp`, with the orders of `native/src/discovery/wire.cpp`.

## Implementation notes

An address is the bytes that its family uses, so that equality of addresses is
equality of `family` and `encoded()`. The four comparison operators of the source
compare one member after the other; here each is the lexicographic order of a
tuple of the members, which is the same order and comes with the laws of a linear
order. A display label is its bytes.
-/

namespace XnnTransfer.Discovery

open scoped MachineWords

def discoveryPort : UInt16 := 45878
def discoveryHeaderSize : Nat := 44
def maxDatagramSize : Nat := 512
def maxDisplayLabelBytes : Nat := 96
def maxScopes : Nat := 32
def maxCandidates : Nat := 256
def maxCandidatesPerScope : Nat := 64
def maxEntries : Nat := 512
def maxEntriesPerScope : Nat := 128
def maxSourceBuckets : Nat := 1024
def maxSourceBucketsPerScope : Nat := 128
def tombstoneLifetimeMs : UInt64 := 60000
def sourceBucketIdleMs : UInt64 := 60000

inductive AddressFamily
  | ipv4
  | ipv6
  deriving DecidableEq, Repr

def AddressFamily.code : AddressFamily → UInt8
  | .ipv4 => 4
  | .ipv6 => 6

theorem AddressFamily.code_injective : Function.Injective AddressFamily.code := by
  intro first second h
  cases first <;> cases second <;> first | rfl | exact absurd h (by decide)

inductive IpAddress
  | v4 (value : Octets 4)
  | v6 (value : Octets 16)
  deriving DecidableEq, Repr

namespace IpAddress

def family : IpAddress → AddressFamily
  | .v4 _ => .ipv4
  | .v6 _ => .ipv6

def encoded : IpAddress → Bytes
  | .v4 value => value.val
  | .v6 value => value.val

def rank (address : IpAddress) : UInt8 ×ₗ Bytes := toLex (address.family.code, address.encoded)

theorem rank_injective : Function.Injective rank := by
  intro first second h
  have hparts := Prod.mk.inj (toLex.injective h)
  cases first <;> cases second
  · exact congrArg v4 (Subtype.ext hparts.2)
  · exact absurd (AddressFamily.code_injective hparts.1) nofun
  · exact absurd (AddressFamily.code_injective hparts.1) nofun
  · exact congrArg v6 (Subtype.ext hparts.2)

instance : LinearOrder IpAddress := LinearOrder.lift' rank rank_injective

end IpAddress

structure InterfaceScope where
  generation : UInt64 := 0
  family : AddressFamily := .ipv4
  deriving DecidableEq, Repr

namespace InterfaceScope

def rank (scope : InterfaceScope) : UInt64 ×ₗ UInt8 :=
  toLex (scope.generation, scope.family.code)

theorem rank_injective : Function.Injective rank := by
  intro first second h
  have hparts := Prod.mk.inj (toLex.injective h)
  cases first
  cases second
  exact congrArg₂ _ hparts.1 (AddressFamily.code_injective hparts.2)

instance : LinearOrder InterfaceScope := LinearOrder.lift' rank rank_injective

/-- The comparison of scopes as the source makes it. -/
theorem lt_iff (left right : InterfaceScope) :
    left < right ↔ if left.generation ≠ right.generation then left.generation < right.generation
      else left.family.code < right.family.code := by
  refine (Prod.Lex.toLex_lt_toLex (x := (left.generation, left.family.code))
    (y := (right.generation, right.family.code))).trans ?_
  by_cases heq : left.generation = right.generation <;> simp [heq]

end InterfaceScope

structure NetworkInterface where
  scope : InterfaceScope
  systemIndex : UInt32
  localAddress : IpAddress
  prefixLength : UInt8
  deriving DecidableEq, Repr

namespace NetworkInterface

def rank (interface : NetworkInterface) : InterfaceScope ×ₗ UInt32 ×ₗ IpAddress ×ₗ UInt8 :=
  toLex (interface.scope, toLex (interface.systemIndex,
    toLex (interface.localAddress, interface.prefixLength)))

theorem rank_injective : Function.Injective rank := by
  intro first second h
  have hscope := Prod.mk.inj (toLex.injective h)
  cases first
  cases second
  simp_all

instance : LinearOrder NetworkInterface := LinearOrder.lift' rank rank_injective

end NetworkInterface

abbrev InstanceToken := Octets 16

structure DatagramMetadata where
  observer : InterfaceScope
  source : IpAddress
  destination : IpAddress
  destinationPort : UInt16 := discoveryPort
  observerEligible : Bool := true
  sourceIsBroadcast : Bool := false
  truncated : Bool := false
  deriving DecidableEq, Repr

/-- `DisplayLabelValidator::IsCanonical`. -/
abbrev DisplayLabelValidator := Bytes → Bool

inductive MessageType
  | announce
  | withdraw
  deriving DecidableEq, Repr

def MessageType.code : MessageType → UInt8
  | .announce => 1
  | .withdraw => 2

structure Advertisement where
  type : MessageType
  sequence : UInt64
  token : InstanceToken
  servicePort : UInt16
  ttlSeconds : UInt16
  label : Bytes
  raw : Bytes
  rawSize : UInt16
  deriving DecidableEq, Repr

inductive ParseError
  | none
  | tooShort
  | tooLarge
  | badMagic
  | unsupportedVersion
  | lengthMismatch
  | badHeaderLength
  | nonzeroFlags
  | nonzeroReserved
  | unknownMessage
  | zeroSequence
  | zeroToken
  | invalidAnnounce
  | invalidWithdraw
  | truncatedTlv
  | reservedTlv
  | tlvOrder
  | duplicateTlv
  | tooManyTlvs
  | unknownCriticalTlv
  | invalidLabel
  deriving DecidableEq, Repr

structure CandidateKey where
  observer : InterfaceScope
  source : IpAddress
  token : InstanceToken
  deriving DecidableEq, Repr

namespace CandidateKey

def rank (key : CandidateKey) : InterfaceScope ×ₗ IpAddress ×ₗ InstanceToken :=
  toLex (key.observer, toLex (key.source, key.token))

theorem rank_injective : Function.Injective rank := by
  intro first second h
  have hobserver := Prod.mk.inj (toLex.injective h)
  cases first
  cases second
  simp_all

instance : LinearOrder CandidateKey := LinearOrder.lift' rank rank_injective

end CandidateKey

structure Candidate where
  key : CandidateKey
  servicePort : UInt16 := 0
  displayLabel : Bytes := []
  deadlineMs : UInt64 := 0
  highestSequence : UInt64 := 0
  deriving DecidableEq, Repr

inductive ExpiryReason
  | ttl
  | withdrawn
  | interfaceRemoved
  | wake
  deriving DecidableEq, Repr

inductive EventKind
  | appeared
  | updated
  | expired
  deriving DecidableEq, Repr

structure CandidateEvent where
  kind : EventKind
  candidate : Candidate
  expiryReason : ExpiryReason := .ttl
  deriving DecidableEq, Repr

inductive ReceiveDisposition
  | appeared
  | updated
  | refreshed
  | withdrawn
  | tombstoned
  | droppedStopped
  | droppedClockRegression
  | droppedMetadata
  | droppedRateLimit
  | droppedTruncated
  | droppedMalformed
  | droppedSelf
  | droppedStale
  | droppedDuplicate
  | droppedSequenceConflict
  | droppedCapacity
  | droppedTimeOverflow
  deriving DecidableEq, Repr

structure ReceiveResult where
  disposition : ReceiveDisposition := .droppedMalformed
  parseError : ParseError := .none
  events : List CandidateEvent := []
  deriving DecidableEq, Repr

end XnnTransfer.Discovery
