import Mathlib.Data.List.Basic
import Mathlib.Data.Nat.ModEq
import Mathlib.Logic.Function.Basic

/-!
# Ring buffers

A queue in an array of fixed capacity: the elements start at the slot `head`, wrap
around the end of the array, and there are `size` of them. What the buffer is for is
its list of contents; each operation is stated by what it does to that list.
-/

/-- A queue of at most `capacity` elements. -/
structure RingBuffer (α : Type*) (capacity : Nat) where
  slots : Fin capacity → α
  head : Fin capacity
  size : Nat
  size_le : size ≤ capacity

namespace RingBuffer

variable {α : Type*} {capacity : Nat}

/-- The slot that is `offset` places behind `head`. -/
def slot (head : Fin capacity) (offset : Nat) : Fin capacity :=
  ⟨(head + offset) % capacity, Nat.mod_lt _ head.pos⟩

theorem slot_zero (head : Fin capacity) : slot head 0 = head := by
  apply Fin.ext
  simp [slot, Nat.mod_eq_of_lt head.isLt]

/-- One place behind the next slot is two places behind this one. -/
theorem slot_slot (head : Fin capacity) (first second : Nat) :
    slot (slot head first) second = slot head (first + second) := by
  apply Fin.ext
  simp [slot, Nat.add_assoc]

/-- Two places less than a round apart are different slots. -/
theorem slot_injective (head : Fin capacity) {first second : Nat} (hfirst : first < capacity)
    (hsecond : second < capacity) (h : slot head first = slot head second) : first = second := by
  have hmod : (head + first) % capacity = (head + second) % capacity := congrArg Fin.val h
  have hcongr : first % capacity = second % capacity :=
    Nat.ModEq.add_left_cancel' head.val hmod
  rwa [Nat.mod_eq_of_lt hfirst, Nat.mod_eq_of_lt hsecond] at hcongr

def empty (filler : α) (head : Fin capacity) : RingBuffer α capacity :=
  ⟨fun _ => filler, head, 0, Nat.zero_le capacity⟩

/-- The elements from the oldest to the newest. -/
def contents (ring : RingBuffer α capacity) : List α :=
  (List.range ring.size).map fun offset => ring.slots (slot ring.head offset)

def front (ring : RingBuffer α capacity) : α := ring.slots ring.head

/-- Leave the oldest element behind. -/
def advance (ring : RingBuffer α capacity) : RingBuffer α capacity :=
  { ring with
    head := slot ring.head 1
    size := ring.size - 1
    size_le := (Nat.sub_le ring.size 1).trans ring.size_le }

/-- Write a new element behind the newest one. -/
def push (ring : RingBuffer α capacity) (a : α) (h : ring.size < capacity) :
    RingBuffer α capacity :=
  { ring with
    slots := Function.update ring.slots (slot ring.head ring.size) a
    size := ring.size + 1
    size_le := h }

/-- Leave the oldest element behind if there is no room for another one. -/
def makeRoom (ring : RingBuffer α capacity) : RingBuffer α capacity :=
  if ring.size = capacity then ring.advance else ring

theorem size_makeRoom_lt (ring : RingBuffer α capacity) : ring.makeRoom.size < capacity := by
  have hle := ring.size_le
  have hpos := ring.head.pos
  unfold makeRoom
  split
  · simp only [advance]
    omega
  · omega

@[simp] theorem length_contents (ring : RingBuffer α capacity) :
    ring.contents.length = ring.size := by
  simp [contents]

theorem contents_eq_nil_iff (ring : RingBuffer α capacity) :
    ring.contents = [] ↔ ring.size = 0 := by
  rw [← List.length_eq_zero_iff, length_contents]

@[simp] theorem contents_empty (filler : α) (head : Fin capacity) :
    (empty filler head).contents = [] := rfl

theorem contents_push (ring : RingBuffer α capacity) (a : α) (h : ring.size < capacity) :
    (ring.push a h).contents = ring.contents ++ [a] := by
  simp only [contents, push, List.range_succ, List.map_append, List.map_singleton,
    Function.update_self]
  congr 1
  apply List.map_congr_left
  intro offset hoffset
  have hlt := List.mem_range.mp hoffset
  apply Function.update_of_ne
  intro hsame
  have := slot_injective ring.head (hlt.trans h) h hsame
  omega

theorem contents_advance (ring : RingBuffer α capacity) (h : ring.size ≠ 0) :
    ring.contents = ring.front :: ring.advance.contents := by
  obtain ⟨size, hsize⟩ := Nat.exists_eq_succ_of_ne_zero h
  simp only [contents, advance, hsize, Nat.succ_eq_add_one, Nat.add_sub_cancel, slot_slot]
  rw [List.range_succ_eq_map, List.map_cons, slot_zero, List.map_map]
  congr 1
  apply List.map_congr_left
  intro offset _
  rw [Function.comp_apply, Nat.add_comm]

theorem contents_makeRoom_of_full (ring : RingBuffer α capacity) (h : ring.size = capacity) :
    ring.contents = ring.front :: ring.makeRoom.contents := by
  have hpos := ring.head.pos
  rw [makeRoom, if_pos h]
  exact ring.contents_advance (by omega)

theorem makeRoom_of_room (ring : RingBuffer α capacity) (h : ring.size ≠ capacity) :
    ring.makeRoom = ring := by
  rw [makeRoom, if_neg h]

end RingBuffer
