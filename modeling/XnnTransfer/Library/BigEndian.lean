import Mathlib.Data.List.Basic
import Mathlib.Tactic.Ring
import Mathlib.Tactic.Linarith

/-!
# Big-endian byte strings

Numbers as byte strings, most significant byte first. `toNat` reads a byte
string of any length and `ofNat` writes a fixed number of bytes; the two are
inverse on the numbers that fit.
-/

namespace BigEndian

/-- The number a byte string denotes, most significant byte first. -/
def toNat (bytes : List UInt8) : Nat :=
  bytes.foldl (fun acc byte => acc * 256 + byte.toNat) 0

/-- The low `width` bytes of a number, most significant byte first. -/
def ofNat : Nat → Nat → List UInt8
  | 0, _ => []
  | width + 1, value => UInt8.ofNat (value / 256 ^ width) :: ofNat width value

@[simp] theorem toNat_nil : toNat [] = 0 := rfl

variable (bytes : List UInt8) (width value : Nat)

theorem foldl_eq (acc : Nat) :
    bytes.foldl (fun acc byte => acc * 256 + byte.toNat) acc =
      acc * 256 ^ bytes.length + toNat bytes := by
  induction bytes generalizing acc with
  | nil => simp
  | cons byte rest ih =>
    have hrest := ih (0 * 256 + byte.toNat)
    simp only [List.foldl_cons, List.length_cons, toNat] at ih hrest ⊢
    rw [ih, hrest]
    ring

theorem toNat_cons (byte : UInt8) (rest : List UInt8) :
    toNat (byte :: rest) = byte.toNat * 256 ^ rest.length + toNat rest := by
  have h := foldl_eq rest (0 * 256 + byte.toNat)
  rw [show toNat (byte :: rest) =
    rest.foldl (fun acc byte => acc * 256 + byte.toNat) (0 * 256 + byte.toNat) from rfl, h]
  ring

/-- A byte string of length `n` denotes a number below `256 ^ n`. -/
theorem toNat_lt : toNat bytes < 256 ^ bytes.length := by
  induction bytes with
  | nil => simp
  | cons byte rest ih =>
    have hbyte : byte.toNat < 256 := byte.toNat_lt
    rw [toNat_cons, List.length_cons, pow_succ]
    nlinarith

@[simp] theorem length_ofNat : (ofNat width value).length = width := by
  induction width with
  | zero => rfl
  | succ width ih => simp [ofNat, ih]

/-- Writing only looks at the value modulo the width. -/
theorem toNat_ofNat_mod : toNat (ofNat width value) = value % 256 ^ width := by
  induction width with
  | zero => simp [ofNat, Nat.mod_one]
  | succ width ih =>
    rw [ofNat, toNat_cons, length_ofNat, ih, pow_succ, UInt8.toNat_ofNat']
    rw [show (2 : Nat) ^ 8 = 256 from rfl, Nat.mod_mul]
    ring

/-- Reading back a number that fits the width gives the number. -/
theorem toNat_ofNat {width value : Nat} (h : value < 256 ^ width) :
    toNat (ofNat width value) = value := by
  rw [toNat_ofNat_mod, Nat.mod_eq_of_lt h]

/-- Only the low bytes of a number are written. -/
theorem ofNat_add (more : Nat) : ofNat width (more * 256 ^ width + value) = ofNat width value := by
  induction width generalizing more with
  | zero => rfl
  | succ width ih =>
    have hpos : 0 < 256 ^ width := Nat.pow_pos (by decide)
    have hsplit : more * 256 ^ (width + 1) + value = more * 256 * 256 ^ width + value := by ring
    rw [ofNat, ofNat, hsplit, ih, Nat.add_comm, Nat.add_mul_div_right _ _ hpos]
    congr 1
    apply UInt8.toNat_inj.mp
    simp

/-- Writing back what was read gives the byte string. -/
theorem ofNat_toNat : ofNat bytes.length (toNat bytes) = bytes := by
  induction bytes with
  | nil => rfl
  | cons byte rest ih =>
    rw [toNat_cons, List.length_cons, ofNat, ofNat_add, ih, Nat.add_comm,
      Nat.add_mul_div_right _ _ (Nat.pow_pos (by decide)), Nat.div_eq_of_lt (toNat_lt rest),
      Nat.zero_add, UInt8.ofNat_toNat]

end BigEndian
