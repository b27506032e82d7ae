import Mathlib.Data.List.Sort
import Mathlib.Order.Lattice
import Mathlib.Data.List.TakeWhile

/-!
# Algorithms on sorted ranges

The algorithms of the C++ library that work on sorted ranges, over any linear
order: the order tests, binary search, inclusion, intersection and insertion at
the position that `std::lower_bound` finds. Each walks its ranges as the library
does; on strictly increasing ranges they are the set operations they are named
after.
-/

namespace SortedRanges

variable {α : Type*} [LinearOrder α]

/-- `std::is_sorted`. -/
def isSorted (range : List α) : Bool := decide (range.IsChain fun a b => ¬ b < a)

/-- `std::adjacent_find` reaches the end of the range. -/
def noneAdjacent (range : List α) : Bool := decide (range.IsChain (· ≠ ·))

/-- `std::binary_search`: the first element that is not below the value is not above it. -/
def binarySearch (range : List α) (value : α) : Bool :=
  (range.find? fun x => ¬ x < value).any fun x => ¬ value < x

/-- The elements in front of the position that `std::lower_bound` finds. -/
def below (range : List α) (value : α) : List α := range.takeWhile (· < value)

/-- The elements from the position that `std::lower_bound` finds. -/
def fromLowerBound (range : List α) (value : α) : List α := range.dropWhile (· < value)

/-- Insertion at the lower bound into a range of limited size: in a full range the value
pushes the last element out, unless its position is the end. -/
def insertCapped (limit : Nat) (range : List α) (value : α) : List α :=
  let inserted := below range value ++ value :: fromLowerBound range value
  if range.length < limit then inserted
  else if fromLowerBound range value = [] then range
  else inserted.dropLast

/-- `std::includes`: both ranges are walked from the front. -/
def includes : List α → List α → Bool
  | _, [] => true
  | [], _ :: _ => false
  | x :: xs, y :: ys =>
    if y < x then false else if x < y then includes xs (y :: ys) else includes xs ys

/-- `std::set_intersection`: the smaller front element is passed over. -/
def setIntersection : List α → List α → List α
  | [] => fun _ => []
  | x :: xs => against x (setIntersection xs)
where
  /-- The walk through the second range while `x` leads the first. -/
  against (x : α) (next : List α → List α) : List α → List α
    | [] => []
    | y :: ys =>
      if x < y then next (y :: ys) else if y < x then against x next ys else x :: next ys

@[simp] theorem setIntersection_nil_left (second : List α) : setIntersection [] second = [] := rfl

@[simp] theorem setIntersection_nil_right (first : List α) : setIntersection first [] = [] := by
  cases first <;> rfl

theorem setIntersection_cons_cons (x y : α) (xs ys : List α) :
    setIntersection (x :: xs) (y :: ys) =
      if x < y then setIntersection xs (y :: ys)
      else if y < x then setIntersection (x :: xs) ys
      else x :: setIntersection xs ys := rfl

/-- The two tests for order and for repetition together ask for a strictly increasing range. -/
theorem isSorted_noneAdjacent_iff (range : List α) :
    isSorted range = true ∧ noneAdjacent range = true ↔ range.SortedLT := by
  rw [List.sortedLT_iff_isChain, isSorted, noneAdjacent, decide_eq_true_iff, decide_eq_true_iff]
  induction range with
  | nil => simp
  | cons x xs ih =>
    cases xs with
    | nil => simp
    | cons y ys =>
      simp only [List.isChain_cons_cons]
      constructor
      · rintro ⟨⟨hle, hsorted⟩, hne, hdistinct⟩
        exact ⟨lt_of_le_of_ne (not_lt.mp hle) hne, ih.mp ⟨hsorted, hdistinct⟩⟩
      rintro ⟨hlt, hrest⟩
      obtain ⟨hsorted, hdistinct⟩ := ih.mpr hrest
      exact ⟨⟨hlt.asymm, hsorted⟩, hlt.ne, hdistinct⟩

theorem binarySearch_iff {range : List α} (h : range.SortedLT) (value : α) :
    binarySearch range value = true ↔ value ∈ range := by
  induction range with
  | nil => simp [binarySearch]
  | cons x xs ih =>
    have hpairs := List.pairwise_cons.mp h.pairwise
    have ih := ih hpairs.2.sortedLT
    rcases lt_trichotomy x value with hlt | heq | hgt
    · have hskip : binarySearch (x :: xs) value = binarySearch xs value := by
        simp [binarySearch, hlt]
      rw [hskip, ih, List.mem_cons, or_iff_right hlt.ne']
    · simp [binarySearch, heq]
    have habsent : value ∉ x :: xs := by
      intro hmem
      rcases List.mem_cons.mp hmem with rfl | hmem
      · exact lt_irrefl _ hgt
      · exact lt_asymm hgt (hpairs.1 value hmem)
    simp [binarySearch, hgt, hgt.le, habsent]

@[simp] theorem below_append_fromLowerBound (range : List α) (value : α) :
    below range value ++ fromLowerBound range value = range :=
  List.takeWhile_append_dropWhile

theorem lt_of_mem_below {range : List α} {value x : α} (h : x ∈ below range value) :
    x < value := by
  simpa using List.mem_takeWhile_imp h

theorem le_of_mem_fromLowerBound {range : List α} (h : range.SortedLT) {value x : α}
    (hx : x ∈ fromLowerBound range value) : value ≤ x := by
  have hsorted : (fromLowerBound range value).Pairwise (· < ·) :=
    h.pairwise.sublist (List.dropWhile_sublist _)
  cases hbound : fromLowerBound range value with
  | nil =>
    rw [hbound] at hx
    cases hx
  | cons y ys =>
    have hy : value ≤ y := by
      have hhead := List.head?_dropWhile_not (· < value) range
      rw [show range.dropWhile (· < value) = y :: ys from hbound] at hhead
      simpa using hhead
    rw [hbound, List.pairwise_cons] at hsorted
    rw [hbound] at hx
    rcases List.mem_cons.mp hx with rfl | hx
    · exact hy
    · exact hy.trans (hsorted.1 x hx).le

/-- On a strictly increasing range, the element at the lower bound is the value if and only
if the value is in the range. -/
theorem head_fromLowerBound_iff {range : List α} (h : range.SortedLT) (value : α) :
    (fromLowerBound range value).head? = some value ↔ value ∈ range := by
  constructor
  · intro hhead
    exact (List.dropWhile_sublist _).mem (List.mem_of_head? hhead)
  intro hmem
  rw [← below_append_fromLowerBound range value, List.mem_append] at hmem
  have hmem := hmem.resolve_left fun hbelow => lt_irrefl _ (lt_of_mem_below hbelow)
  cases hbound : fromLowerBound range value with
  | nil =>
    rw [hbound] at hmem
    cases hmem
  | cons y ys =>
    have hy : value ≤ y := le_of_mem_fromLowerBound h (hbound ▸ List.mem_cons_self)
    have hsorted := h.pairwise.sublist (List.dropWhile_sublist (· < value))
    rw [show range.dropWhile (· < value) = y :: ys from hbound, List.pairwise_cons] at hsorted
    rw [hbound] at hmem
    rcases List.mem_cons.mp hmem with rfl | hmem
    · rfl
    · exact absurd (hsorted.1 value hmem) (not_lt.mpr hy)

theorem insertCapped_sortedLT {range : List α} (h : range.SortedLT) {value : α}
    (hfresh : value ∉ range) (limit : Nat) : (insertCapped limit range value).SortedLT := by
  have hinserted : (below range value ++ value :: fromLowerBound range value).Pairwise
      (· < ·) := by
    have hparts := h.pairwise
    rw [← below_append_fromLowerBound range value, List.pairwise_append] at hparts
    have habove : ∀ x ∈ fromLowerBound range value, value < x := fun x hx =>
      lt_of_le_of_ne (le_of_mem_fromLowerBound h hx) fun heq =>
        hfresh (heq ▸ (List.dropWhile_sublist _).mem hx)
    refine List.pairwise_append.mpr ⟨hparts.1, List.pairwise_cons.mpr ⟨habove, hparts.2.1⟩, ?_⟩
    intro x hx y hy
    rcases List.mem_cons.mp hy with rfl | hy
    · exact lt_of_mem_below hx
    · exact hparts.2.2 x hx y hy
  unfold insertCapped
  split
  · exact hinserted.sortedLT
  split
  · exact h
  · exact (hinserted.sublist (List.dropLast_sublist _)).sortedLT

theorem length_insertCapped_le {limit : Nat} {range : List α} (h : range.length ≤ limit)
    (value : α) : (insertCapped limit range value).length ≤ limit := by
  have hlength : (below range value).length + (fromLowerBound range value).length =
      range.length := by
    rw [← List.length_append, below_append_fromLowerBound]
  unfold insertCapped
  split
  · simp only [List.length_append, List.length_cons]
    omega
  split
  · exact h
  simp only [List.length_dropLast, List.length_append, List.length_cons]
  omega

theorem includes_iff {first second : List α} (hfirst : first.SortedLT)
    (hsecond : second.SortedLT) :
    includes first second = true ↔ ∀ value ∈ second, value ∈ first := by
  induction first generalizing second with
  | nil =>
    cases second with
    | nil => simp [includes]
    | cons y ys =>
      simp only [includes, Bool.false_eq_true, List.not_mem_nil, false_iff]
      exact fun hall => hall y List.mem_cons_self
  | cons x xs ih =>
    have hxs := List.pairwise_cons.mp hfirst.pairwise
    cases second with
    | nil => simp [includes]
    | cons y ys =>
      have hys := List.pairwise_cons.mp hsecond.pairwise
      rcases lt_trichotomy y x with hlt | heq | hgt
      · have habsent : y ∉ x :: xs := by
          intro hmem
          rcases List.mem_cons.mp hmem with rfl | hmem
          · exact lt_irrefl _ hlt
          · exact lt_asymm hlt (hxs.1 y hmem)
        simp only [includes, hlt, if_true, Bool.false_eq_true, false_iff]
        exact fun hall => habsent (hall y List.mem_cons_self)
      · subst heq
        simp only [includes, lt_irrefl, if_false]
        rw [ih hxs.2.sortedLT hys.2.sortedLT]
        constructor
        · intro hall value hvalue
          rcases List.mem_cons.mp hvalue with rfl | hvalue
          · exact List.mem_cons_self
          · exact List.mem_cons_of_mem _ (hall value hvalue)
        intro hall value hvalue
        rcases List.mem_cons.mp (hall value (List.mem_cons_of_mem _ hvalue)) with rfl | hmem
        · exact absurd (hys.1 _ hvalue) (lt_irrefl _)
        · exact hmem
      simp only [includes, hgt.asymm, hgt, if_false, if_true]
      rw [ih hxs.2.sortedLT hsecond]
      constructor
      · exact fun hall value hvalue => List.mem_cons_of_mem _ (hall value hvalue)
      intro hall value hvalue
      rcases List.mem_cons.mp (hall value hvalue) with rfl | hmem
      · rcases List.mem_cons.mp hvalue with rfl | hvalue
        · exact absurd hgt (lt_irrefl _)
        · exact absurd (hgt.trans (hys.1 _ hvalue)) (lt_irrefl _)
      · exact hmem

/-- The intersection keeps elements of the first range in their order. -/
theorem setIntersection_sublist (first second : List α) :
    (setIntersection first second).Sublist first := by
  induction first generalizing second with
  | nil => simp
  | cons x xs ih =>
    induction second with
    | nil => simp
    | cons y ys ihy =>
      rw [setIntersection_cons_cons]
      split
      · exact (ih _).cons x
      split
      · exact ihy
      · exact (ih _).cons_cons x

theorem setIntersection_sortedLT {first : List α} (h : first.SortedLT) (second : List α) :
    (setIntersection first second).SortedLT :=
  (h.pairwise.sublist (setIntersection_sublist first second)).sortedLT

theorem mem_setIntersection {first second : List α} (hfirst : first.SortedLT)
    (hsecond : second.SortedLT) (value : α) :
    value ∈ setIntersection first second ↔ value ∈ first ∧ value ∈ second := by
  induction first generalizing second with
  | nil => simp
  | cons x xs ih =>
    have hxs := List.pairwise_cons.mp hfirst.pairwise
    induction second with
    | nil => simp
    | cons y ys ihy =>
      have hys := List.pairwise_cons.mp hsecond.pairwise
      rw [setIntersection_cons_cons]
      split
      case isTrue hlt =>
        rw [ih hxs.2.sortedLT hsecond, List.mem_cons (a := value) (b := x)]
        constructor
        · rintro ⟨hmem, hother⟩
          exact ⟨.inr hmem, hother⟩
        rintro ⟨rfl | hmem, hother⟩
        · rcases List.mem_cons.mp hother with rfl | hother
          · exact absurd hlt (lt_irrefl _)
          · exact absurd (hlt.trans (hys.1 _ hother)) (lt_irrefl _)
        · exact ⟨hmem, hother⟩
      case isFalse hle =>
        split
        case isTrue hgt =>
          refine (ihy hys.2.sortedLT).trans ?_
          rw [List.mem_cons (a := value) (b := y)]
          constructor
          · rintro ⟨hmem, hother⟩
            exact ⟨hmem, .inr hother⟩
          rintro ⟨hmem, rfl | hother⟩
          · rcases List.mem_cons.mp hmem with rfl | hmem
            · exact absurd hgt (lt_irrefl _)
            · exact absurd (hgt.trans (hxs.1 _ hmem)) (lt_irrefl _)
          · exact ⟨hmem, hother⟩
        case isFalse hge =>
          obtain rfl : x = y := le_antisymm (not_lt.mp hge) (not_lt.mp hle)
          simp only [List.mem_cons, ih hxs.2.sortedLT hys.2.sortedLT]
          constructor
          · rintro (rfl | ⟨hmem, hother⟩)
            · exact ⟨.inl rfl, .inl rfl⟩
            · exact ⟨.inr hmem, .inr hother⟩
          rintro ⟨heq | hmem, hother⟩
          · exact .inl heq
          · exact hother.imp id fun hother => ⟨hmem, hother⟩

/-- Strictly increasing ranges with the same elements are equal. -/
theorem eq_of_mem_iff {first second : List α} (hfirst : first.SortedLT)
    (hsecond : second.SortedLT) (h : ∀ value, value ∈ first ↔ value ∈ second) :
    first = second := by
  apply List.Perm.eq_of_pairwise (fun a b _ _ hab hba => absurd hab (lt_asymm hba))
    hfirst.pairwise hsecond.pairwise
  exact (List.perm_ext_iff_of_nodup hfirst.pairwise.nodup hsecond.pairwise.nodup).mpr h

theorem setIntersection_comm {first second : List α} (hfirst : first.SortedLT)
    (hsecond : second.SortedLT) :
    setIntersection first second = setIntersection second first := by
  apply eq_of_mem_iff (setIntersection_sortedLT hfirst _) (setIntersection_sortedLT hsecond _)
  intro value
  rw [mem_setIntersection hfirst hsecond, mem_setIntersection hsecond hfirst, and_comm]

end SortedRanges
