import Mathlib.Algebra.GroupWithZero.Nat
import Mathlib.Data.List.Basic

/-!
# Consecutive segments

A segment is a list placed at an offset. `Consecutive start` says that the first
segment begins at `start` and every further one where the one before it ends.
Segments that follow each other from zero and agree with one list put together
a prefix of that list.
-/

namespace Segments

variable {α : Type*}

abbrev Segment (α : Type*) := Nat × List α

/-- Each segment begins where the one before it ends, the first one at `start`. -/
def Consecutive : Nat → List (Segment α) → Prop
  | _, [] => True
  | start, (offset, data) :: rest => offset = start ∧ Consecutive (start + data.length) rest

/-- The number of elements in all segments. -/
def total (segments : List (Segment α)) : Nat :=
  (segments.map fun segment => segment.2.length).sum

/-- The elements of all segments in order. -/
def content (segments : List (Segment α)) : List α :=
  segments.flatMap fun segment => segment.2

@[simp] theorem total_nil : total ([] : List (Segment α)) = 0 := rfl

@[simp] theorem total_concat (segments : List (Segment α)) (segment : Segment α) :
    total (segments ++ [segment]) = total segments + segment.2.length := by
  simp [total]

theorem total_append (first second : List (Segment α)) :
    total (first ++ second) = total first + total second := by
  simp [total]

@[simp] theorem content_concat (segments : List (Segment α)) (segment : Segment α) :
    content (segments ++ [segment]) = content segments ++ segment.2 := by
  simp [content]

theorem consecutive_concat {start : Nat} {segments : List (Segment α)} {segment : Segment α} :
    Consecutive start (segments ++ [segment]) ↔
      Consecutive start segments ∧ segment.1 = start + total segments := by
  induction segments generalizing start with
  | nil => simp [Consecutive, total]
  | cons first rest ih =>
    simp only [List.cons_append, Consecutive, ih, total, List.map_cons, List.sum_cons,
      Nat.add_assoc, and_assoc]

/-- Segments cut out of one list put together the part of the list they cover. -/
theorem content_eq_take {source : List α} {start : Nat} {segments : List (Segment α)}
    (h : Consecutive start segments)
    (hcut : ∀ segment ∈ segments, segment.2 = (source.drop segment.1).take segment.2.length) :
    content segments = (source.drop start).take (total segments) := by
  induction segments generalizing start with
  | nil => simp [content]
  | cons first rest ih =>
    obtain ⟨offset, data⟩ := first
    obtain ⟨rfl, hrest⟩ := h
    have hfirst := hcut (offset, data) List.mem_cons_self
    have htail := ih hrest fun segment hsegment => hcut segment (List.mem_cons_of_mem _ hsegment)
    calc content ((offset, data) :: rest) = data ++ content rest := by simp [content]
      _ = (source.drop offset).take data.length ++
            ((source.drop offset).drop data.length).take (total rest) := by
          rw [htail, List.drop_drop, ← hfirst]
      _ = (source.drop offset).take (total ((offset, data) :: rest)) := by
          rw [← List.take_add]
          simp [total]

end Segments
