import XnnTransfer.Protocol.Parser

/-!
# Versions and capabilities in a negotiation

The order of versions and the two ends of a common version range. The transcript
parser, the pairing codec and the canonical codec each have their own copy of
these functions; the copies are the same.
-/

namespace XnnTransfer.Protocol

def versionLess (left right : Version) : Bool :=
  left.major < right.major ∨ (left.major = right.major ∧ left.minor < right.minor)

theorem versionLess_iff {left right : Version} :
    versionLess left right = true ↔
      left.major.toNat * 256 + left.minor.toNat < right.major.toNat * 256 + right.minor.toNat := by
  have hleft := left.minor.toNat_lt
  have hright := right.minor.toNat_lt
  rw [versionLess, decide_eq_true_iff, UInt8.lt_iff_toNat_lt, UInt8.lt_iff_toNat_lt,
    ← UInt8.toNat_inj]
  omega

/-- Versions of which neither is below the other are the same. -/
theorem eq_of_not_versionLess {left right : Version} (h : versionLess left right = false)
    (h' : versionLess right left = false) : left = right := by
  obtain ⟨major, minor⟩ := left
  obtain ⟨major', minor'⟩ := right
  rw [← Bool.not_eq_true, versionLess_iff] at h h'
  have hminor := minor.toNat_lt
  have hminor' := minor'.toNat_lt
  simp only at h h'
  have hmajor : major = major' := UInt8.toNat_inj.mp (by omega)
  subst hmajor
  have hsame : minor = minor' := UInt8.toNat_inj.mp (by omega)
  rw [hsame]

variable (initiator responder first second : Version)

/-- The higher of two minimum versions. -/
def commonMinimum : Version :=
  if versionLess initiator responder then responder else initiator

/-- The lower of two maximum versions. -/
def commonMaximum : Version :=
  if versionLess initiator responder then initiator else responder

theorem commonMinimum_comm : commonMinimum first second = commonMinimum second first := by
  unfold commonMinimum
  split
  next hlt =>
    rw [if_neg]
    rw [versionLess_iff] at hlt ⊢
    omega
  rename_i hge
  split
  · rfl
  next hle => exact eq_of_not_versionLess (by simpa using hge) (by simpa using hle)

theorem commonMaximum_comm : commonMaximum first second = commonMaximum second first := by
  unfold commonMaximum
  split
  next hlt =>
    rw [if_neg]
    rw [versionLess_iff] at hlt ⊢
    omega
  rename_i hge
  split
  · rfl
  next hle => exact (eq_of_not_versionLess (by simpa using hge) (by simpa using hle)).symm

/-- No two neighbours advertise the same feature, which the high half names. -/
def DistinctFeatures (capabilities : List UInt32) : Prop :=
  capabilities.IsChain fun (a b : UInt32) => a >>> 16 ≠ b >>> 16

instance (capabilities : List UInt32) : Decidable (DistinctFeatures capabilities) :=
  inferInstanceAs (Decidable (capabilities.IsChain fun (a b : UInt32) => a >>> 16 ≠ b >>> 16))

def baseTransferV1 : UInt32 := 0x00010001

end XnnTransfer.Protocol
