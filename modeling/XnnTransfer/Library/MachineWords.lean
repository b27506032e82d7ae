import Mathlib.Order.Defs.LinearOrder
import XnnTransfer.Library.BigEndian

/-!
# Machine words

The order of machine words as a linear order, and machine words as big-endian byte
strings.
-/

namespace MachineWords

scoped instance linearOrderUInt8 : LinearOrder UInt8 where
  le_refl := UInt8.le_refl
  le_trans _ _ _ := UInt8.le_trans
  le_antisymm _ _ := UInt8.le_antisymm
  le_total := UInt8.le_total
  lt_iff_le_not_ge a b := by
    rw [UInt8.lt_iff_toNat_lt, UInt8.le_iff_toNat_le, UInt8.le_iff_toNat_le]
    omega
  toDecidableLE := inferInstance
  toDecidableEq := inferInstance
  toDecidableLT := inferInstance

instance linearOrderUInt16 : LinearOrder UInt16 where
  le_refl := UInt16.le_refl
  le_trans _ _ _ := UInt16.le_trans
  le_antisymm _ _ := UInt16.le_antisymm
  le_total := UInt16.le_total
  lt_iff_le_not_ge a b := by
    rw [UInt16.lt_iff_toNat_lt, UInt16.le_iff_toNat_le, UInt16.le_iff_toNat_le]
    omega
  toDecidableLE := inferInstance
  toDecidableEq := inferInstance
  toDecidableLT := inferInstance

instance linearOrderUInt32 : LinearOrder UInt32 where
  le_refl := UInt32.le_refl
  le_trans _ _ _ := UInt32.le_trans
  le_antisymm _ _ := UInt32.le_antisymm
  le_total := UInt32.le_total
  lt_iff_le_not_ge a b := by
    rw [UInt32.lt_iff_toNat_lt, UInt32.le_iff_toNat_le, UInt32.le_iff_toNat_le]
    omega
  toDecidableLE := inferInstance
  toDecidableEq := inferInstance
  toDecidableLT := inferInstance

instance linearOrderUInt64 : LinearOrder UInt64 where
  le_refl := UInt64.le_refl
  le_trans _ _ _ := UInt64.le_trans
  le_antisymm _ _ := UInt64.le_antisymm
  le_total := UInt64.le_total
  lt_iff_le_not_ge a b := by
    rw [UInt64.lt_iff_toNat_lt, UInt64.le_iff_toNat_le, UInt64.le_iff_toNat_le]
    omega
  toDecidableLE := inferInstance
  toDecidableEq := inferInstance
  toDecidableLT := inferInstance

theorem toNat_min16 (a b : UInt16) : (min a b).toNat = min a.toNat b.toNat := by
  rcases le_total a b with h | h
  · rw [min_eq_left h, min_eq_left (UInt16.le_iff_toNat_le.mp h)]
  · rw [min_eq_right h, min_eq_right (UInt16.le_iff_toNat_le.mp h)]

theorem toNat_min32 (a b : UInt32) : (min a b).toNat = min a.toNat b.toNat := by
  rcases le_total a b with h | h
  · rw [min_eq_left h, min_eq_left (UInt32.le_iff_toNat_le.mp h)]
  · rw [min_eq_right h, min_eq_right (UInt32.le_iff_toNat_le.mp h)]

variable (word : UInt16) (bytes : List UInt8) (words : List UInt32)

def put16 : List UInt8 := BigEndian.ofNat 2 word.toNat

def put32 (word : UInt32) : List UInt8 := BigEndian.ofNat 4 word.toNat

def put64 (word : UInt64) : List UInt8 := BigEndian.ofNat 8 word.toNat

def get16 : UInt16 := UInt16.ofNat (BigEndian.toNat bytes)

def get32 : UInt32 := UInt32.ofNat (BigEndian.toNat bytes)

def get64 : UInt64 := UInt64.ofNat (BigEndian.toNat bytes)

@[simp] theorem length_put16 : (put16 word).length = 2 :=
  BigEndian.length_ofNat _ _

@[simp] theorem length_put32 (word : UInt32) : (put32 word).length = 4 :=
  BigEndian.length_ofNat _ _

@[simp] theorem get16_put16 : get16 (put16 word) = word := by
  rw [get16, put16, BigEndian.toNat_ofNat word.toNat_lt, UInt16.ofNat_toNat]

@[simp] theorem get32_put32 (word : UInt32) : get32 (put32 word) = word := by
  rw [get32, put32, BigEndian.toNat_ofNat word.toNat_lt, UInt32.ofNat_toNat]

/-- A list of words, one after the other. -/
def putAll32 : List UInt8 := words.flatMap put32

/-- The first `count` words of a byte string. -/
def getAll32 (count : Nat) (bytes : List UInt8) : List UInt32 :=
  (List.range count).map fun index => get32 ((bytes.drop (4 * index)).take 4)

@[simp] theorem length_putAll32 : (putAll32 words).length = 4 * words.length := by
  induction words with
  | nil => rfl
  | cons word rest ih =>
    have hcons : putAll32 (word :: rest) = put32 word ++ putAll32 rest := rfl
    rw [hcons, List.length_append, length_put32, ih, List.length_cons]
    omega

theorem getAll32_succ (count : Nat) (bytes : List UInt8) :
    getAll32 (count + 1) bytes = get32 (bytes.take 4) :: getAll32 count (bytes.drop 4) := by
  rw [getAll32, getAll32, List.range_succ_eq_map, List.map_cons, List.map_map]
  congr 1
  apply List.map_congr_left
  intro index _
  simp only [Function.comp_apply, List.drop_drop]
  congr 3
  omega

/-- Reading back as many words as were written gives the words. -/
@[simp] theorem getAll32_putAll32 : getAll32 words.length (putAll32 words) = words := by
  induction words with
  | nil => rfl
  | cons word rest ih =>
    have hcons : putAll32 (word :: rest) = put32 word ++ putAll32 rest := rfl
    rw [List.length_cons, getAll32_succ, hcons, List.take_left' (length_put32 word),
      List.drop_left' (length_put32 word), ih, get32_put32]

end MachineWords
