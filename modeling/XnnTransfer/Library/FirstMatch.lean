import Mathlib.Algebra.GroupWithZero.Nat
import Mathlib.Data.List.Basic
import Mathlib.Data.List.Nodup

/-!
# First matches in lists

A list that is searched from its front: a write through the pointer that a search
returned changes the first match. Where every element has a key and the keys are
distinct, the list is a finite map from keys to elements, which `find?` looks up;
the last section says what the operations on the list do to that map.
-/

namespace FirstMatch

/-- Change the first element that satisfies the test. -/
def modifyFirst {α : Type*} (test : α → Bool) (change : α → α) : List α → List α
  | [] => []
  | x :: rest => if test x then change x :: rest else x :: modifyFirst test change rest

variable {α κ : Type*} {test keep : α → Bool} {change : α → α}

theorem filter_modifyFirst_of_disjoint (hbefore : ∀ x, test x = true → keep x = false)
    (hafter : ∀ x, test x = true → keep (change x) = false) (entries : List α) :
    (modifyFirst test change entries).filter keep = entries.filter keep := by
  induction entries with
  | nil => rfl
  | cons x rest ih =>
    unfold modifyFirst
    split
    next htest =>
      rw [List.filter_cons_of_neg (by simp [hafter x htest]),
        List.filter_cons_of_neg (by simp [hbefore x htest])]
    · simp only [List.filter_cons, ih]

theorem filter_modifyFirst_same (hafter : ∀ x, test x = true → test (change x) = true)
    {entries : List α} {entry : α} (h : entries.filter test = [entry]) :
    (modifyFirst test change entries).filter test = [change entry] := by
  induction entries with
  | nil => cases h
  | cons x rest ih =>
    unfold modifyFirst
    split
    next htest =>
      rw [List.filter_cons_of_pos htest] at h
      obtain ⟨rfl, hrest⟩ := List.cons.inj h
      rw [List.filter_cons_of_pos (hafter x htest), hrest]
    rename_i htest
    rw [List.filter_cons_of_neg htest] at h ⊢
    exact ih h

theorem length_modifyFirst (entries : List α) :
    (modifyFirst test change entries).length = entries.length := by
  induction entries with
  | nil => rfl
  | cons x rest ih =>
    unfold modifyFirst
    split
    · rfl
    · simp [ih]

theorem map_modifyFirst_of_mem {key : α → κ} {entries : List α}
    (hsame : ∀ x ∈ entries, test x = true → key (change x) = key x) :
    (modifyFirst test change entries).map key = entries.map key := by
  induction entries with
  | nil => rfl
  | cons x rest ih =>
    unfold modifyFirst
    split
    next htest => simp [hsame x List.mem_cons_self htest]
    · simp [ih fun y hy => hsame y (List.mem_cons_of_mem _ hy)]

theorem map_modifyFirst {key : α → κ} (hsame : ∀ x, key (change x) = key x)
    (entries : List α) : (modifyFirst test change entries).map key = entries.map key :=
  map_modifyFirst_of_mem fun x _ _ => hsame x

theorem countP_modifyFirst_eq (hsame : ∀ x, keep (change x) = keep x) (entries : List α) :
    (modifyFirst test change entries).countP keep = entries.countP keep := by
  induction entries with
  | nil => rfl
  | cons x rest ih =>
    unfold modifyFirst
    split
    · simp [List.countP_cons, hsame]
    · simp [List.countP_cons, ih]

/-- A change of one element adds at most that element to a count. -/
theorem countP_modifyFirst_le (entries : List α) :
    (modifyFirst test change entries).countP keep ≤ entries.countP keep + 1 := by
  induction entries with
  | nil => exact Nat.zero_le _
  | cons x rest ih =>
    unfold modifyFirst
    split
    · simp only [List.countP_cons]
      split <;> split <;> omega
    simp only [List.countP_cons]
    omega

/-- A change that never makes an element counted adds nothing to a count. -/
theorem countP_modifyFirst_mono {entries : List α}
    (hback : ∀ x ∈ entries, test x = true → keep (change x) = true → keep x = true) :
    (modifyFirst test change entries).countP keep ≤ entries.countP keep := by
  induction entries with
  | nil => exact Nat.zero_le _
  | cons x rest ih =>
    unfold modifyFirst
    split
    next htest =>
      simp only [List.countP_cons]
      split
      next hkept => simp [hback x List.mem_cons_self htest hkept]
      · omega
    · have hrest := ih fun y hy => hback y (List.mem_cons_of_mem _ hy)
      simp only [List.countP_cons]
      omega

theorem mem_of_mem_modifyFirst {x : α} {entries : List α}
    (h : x ∈ modifyFirst test change entries) :
    x ∈ entries ∨ ∃ y ∈ entries, test y = true ∧ x = change y := by
  induction entries with
  | nil => cases h
  | cons y rest ih =>
    unfold modifyFirst at h
    split at h
    next htest =>
      rcases List.mem_cons.mp h with rfl | hmem
      · exact .inr ⟨y, List.mem_cons_self, htest, rfl⟩
      · exact .inl (List.mem_cons_of_mem _ hmem)
    · rcases List.mem_cons.mp h with rfl | hmem
      · exact .inl List.mem_cons_self
      rcases ih hmem with hmem | ⟨z, hz, htest, rfl⟩
      · exact .inl (List.mem_cons_of_mem _ hmem)
      · exact .inr ⟨z, List.mem_cons_of_mem _ hz, htest, rfl⟩

/-- Where the keys are distinct, only the element with the key is changed. -/
theorem mem_modifyFirst_iff [DecidableEq κ] {key : α → κ} {x y : α} {entries : List α}
    (hkeys : (entries.map key).Nodup) (hy : y ∈ entries) :
    x ∈ modifyFirst (fun z => key z = key y) change entries ↔
      (x ∈ entries ∧ key x ≠ key y) ∨ x = change y := by
  induction entries with
  | nil => cases hy
  | cons z rest ih =>
    rw [List.map_cons, List.nodup_cons] at hkeys
    unfold modifyFirst
    by_cases hz : key z = key y
    · have hrest : ∀ w ∈ rest, key w ≠ key y := fun w hw hsame =>
        hkeys.1 (hz ▸ hsame ▸ List.mem_map_of_mem hw)
      obtain rfl : y = z := by
        rcases List.mem_cons.mp hy with rfl | hmem
        · rfl
        · exact absurd rfl (hrest y hmem)
      rw [if_pos (by simp), List.mem_cons, List.mem_cons]
      constructor
      · rintro (rfl | hmem)
        · exact .inr rfl
        · exact .inl ⟨.inr hmem, hrest x hmem⟩
      rintro (⟨rfl | hmem, hne⟩ | rfl)
      · exact absurd rfl hne
      · exact .inr hmem
      · exact .inl rfl
    have hmem : y ∈ rest := by
      rcases List.mem_cons.mp hy with rfl | hmem
      · exact absurd rfl hz
      · exact hmem
    rw [if_neg (by simp [hz]), List.mem_cons, List.mem_cons, ih hkeys.2 hmem]
    constructor
    · rintro (rfl | ⟨hx, hne⟩ | rfl)
      · exact .inl ⟨.inl rfl, hz⟩
      · exact .inl ⟨.inr hx, hne⟩
      · exact .inr rfl
    rintro (⟨rfl | hx, hne⟩ | rfl)
    · exact .inl rfl
    · exact .inr (.inl ⟨hx, hne⟩)
    · exact .inr (.inr rfl)

/-- Changing one element changes a sum over the list by the difference at that element. -/
theorem sum_modifyFirst {size : α → Nat} {entries : List α} {x : α}
    (hfind : entries.find? test = some x) :
    ((modifyFirst test change entries).map size).sum + size x =
      (entries.map size).sum + size (change x) := by
  induction entries with
  | nil => cases hfind
  | cons y rest ih =>
    unfold modifyFirst
    split
    next htest =>
      rw [List.find?_cons_of_pos htest] at hfind
      obtain rfl := Option.some.inj hfind
      simp only [List.map_cons, List.sum_cons]
      omega
    rename_i htest
    rw [List.find?_cons_of_neg htest] at hfind
    have hrest := ih hfind
    simp only [List.map_cons, List.sum_cons]
    omega

/-- A pass that keeps the keys of the elements it keeps. -/
theorem map_filterMap_sublist {key : α → κ} {entries : List α} {change : α → Option α}
    (hsame : ∀ x y, change x = some y → key y = key x) :
    ((entries.filterMap change).map key).Sublist (entries.map key) := by
  induction entries with
  | nil => exact List.Sublist.slnil
  | cons x rest ih =>
    cases hx : change x with
    | none => simpa [hx] using ih.cons (key x)
    | some y => simpa [hx, hsame x y hx] using ih.cons_cons (key x)

/-! ### Lists with distinct keys as finite maps -/

section Lookup

variable [DecidableEq κ] {key : α → κ} {entries : List α}

/-- The element with the key. -/
def lookup (key : α → κ) (entries : List α) (k : κ) : Option α :=
  entries.find? fun x => key x = k

theorem mem_of_lookup {k : κ} {x : α} (h : lookup key entries k = some x) :
    x ∈ entries ∧ key x = k :=
  ⟨List.mem_of_find?_eq_some h, by simpa using List.find?_some h⟩

theorem lookup_eq_none_iff {k : κ} :
    lookup key entries k = none ↔ ∀ x ∈ entries, key x ≠ k := by
  simp [lookup]

theorem lookup_eq_some_iff (hkeys : (entries.map key).Nodup) {k : κ} {x : α} :
    lookup key entries k = some x ↔ x ∈ entries ∧ key x = k := by
  refine ⟨mem_of_lookup, ?_⟩
  rintro ⟨hmem, rfl⟩
  cases h : lookup key entries (key x) with
  | none => exact absurd rfl (lookup_eq_none_iff.mp h x hmem)
  | some y =>
    obtain ⟨hy, hsame⟩ := mem_of_lookup h
    exact congrArg some (List.inj_on_of_nodup_map hkeys hy hmem hsame)

theorem lookup_map {β : Type*} {key' : β → κ} {f : α → β} (h : ∀ x, key' (f x) = key x) (k : κ) :
    lookup key' (entries.map f) k = (lookup key entries k).map f := by
  unfold lookup
  rw [List.find?_map]
  simp only [Function.comp_def, h]

theorem nodup_append_of_fresh (hkeys : (entries.map key).Nodup) {x : α}
    (hfresh : lookup key entries (key x) = none) : ((entries ++ [x]).map key).Nodup := by
  rw [List.map_append, List.map_singleton]
  refine hkeys.append (List.nodup_singleton _) ?_
  rw [List.disjoint_singleton]
  intro hmem
  obtain ⟨y, hy, hsame⟩ := List.mem_map.mp hmem
  exact lookup_eq_none_iff.mp hfresh y hy hsame

/-- Where the keys are distinct, the same lookups mean the same elements. -/
theorem perm_of_lookup {entries' : List α} (hkeys : (entries.map key).Nodup)
    (hkeys' : (entries'.map key).Nodup) (h : lookup key entries = lookup key entries') :
    entries.Perm entries' := by
  refine (List.perm_ext_iff_of_nodup hkeys.of_map hkeys'.of_map).mpr fun x => ?_
  have hx := congrFun h (key x)
  constructor
  · intro hmem
    rw [(lookup_eq_some_iff hkeys).mpr ⟨hmem, rfl⟩] at hx
    exact (mem_of_lookup hx.symm).1
  intro hmem
  rw [(lookup_eq_some_iff hkeys').mpr ⟨hmem, rfl⟩] at hx
  exact (mem_of_lookup hx).1

/-- A new key at the end of the list. -/
theorem lookup_append_of_fresh {k : κ} (hfresh : lookup key entries k = none) {x : α}
    (hkey : key x = k) (k' : κ) :
    lookup key (entries ++ [x]) k' = if k' = k then some x else lookup key entries k' := by
  unfold lookup at hfresh ⊢
  rw [List.find?_append]
  split
  next heq => simp [heq, hfresh, hkey]
  next hne => simp [hkey, Ne.symm hne]

theorem lookup_modifyFirst (change : α → α) {k : κ} (hsame : ∀ x, key x = k → key (change x) = k)
    (k' : κ) :
    lookup key (modifyFirst (fun x => key x = k) change entries) k' =
      if k' = k then (lookup key entries k).map change else lookup key entries k' := by
  unfold lookup
  induction entries with
  | nil => simp [modifyFirst]
  | cons x rest ih =>
    unfold modifyFirst
    by_cases hx : key x = k
    · rw [if_pos (by simpa using hx)]
      by_cases hk : k' = k
      · simp [hk, hx, hsame x hx]
      · simp [hk, hx, hsame x hx, Ne.symm hk]
    rw [if_neg (by simpa using hx)]
    by_cases hx' : key x = k'
    · have hk : k' ≠ k := hx' ▸ hx
      simp [hx', hk]
    rw [List.find?_cons_of_neg (by simpa using hx'), ih,
      List.find?_cons_of_neg (by simpa using hx),
      List.find?_cons_of_neg (by simpa using hx')]

theorem lookup_filterMap (hkeys : (entries.map key).Nodup) {change : α → Option α}
    (hsame : ∀ x y, change x = some y → key y = key x) (k : κ) :
    lookup key (entries.filterMap change) k = (lookup key entries k).bind change := by
  have hkeys' := (map_filterMap_sublist hsame).nodup hkeys
  ext y
  rw [lookup_eq_some_iff hkeys', List.mem_filterMap, Option.bind_eq_some_iff]
  constructor
  · rintro ⟨⟨x, hmem, hx⟩, rfl⟩
    exact ⟨x, (lookup_eq_some_iff hkeys).mpr ⟨hmem, (hsame x y hx).symm⟩, hx⟩
  rintro ⟨x, hfind, hx⟩
  obtain ⟨hmem, rfl⟩ := mem_of_lookup hfind
  exact ⟨⟨x, hmem, hx⟩, hsame x y hx⟩

theorem lookup_filter (hkeys : (entries.map key).Nodup) (keep : α → Bool) (k : κ) :
    lookup key (entries.filter keep) k = (lookup key entries k).filter keep := by
  rw [← List.filterMap_eq_filter, lookup_filterMap hkeys]
  · cases lookup key entries k <;> rfl
  intro x y hxy
  rw [(Option.guard_eq_some_iff.mp hxy).1]

/-- A change of the first element that passes a test, seen by its key. -/
theorem lookup_modifyFirst_of_find (hkeys : (entries.map key).Nodup) {x : α}
    (hfind : entries.find? test = some x) (hsame : key (change x) = key x) (k : κ) :
    lookup key (modifyFirst test change entries) k =
      if k = key x then some (change x) else lookup key entries k := by
  induction entries with
  | nil => cases hfind
  | cons y rest ih =>
    rw [List.map_cons, List.nodup_cons] at hkeys
    unfold modifyFirst
    cases htest : test y with
    | true =>
      rw [List.find?_cons_of_pos htest] at hfind
      obtain rfl := Option.some.inj hfind
      rw [if_pos rfl]
      by_cases hk : k = key y
      · simp [lookup, hk, hsame]
      · simp [lookup, hk, hsame, Ne.symm hk]
    | false =>
      rw [List.find?_cons_of_neg (by simp [htest])] at hfind
      have hrest := ih hkeys.2 hfind
      have hx := List.mem_of_find?_eq_some hfind
      have hne : key y ≠ key x := fun heq => hkeys.1 (heq ▸ List.mem_map_of_mem hx)
      rw [if_neg (by simp)]
      unfold lookup at hrest ⊢
      by_cases hk : key y = k
      · have hkx : k ≠ key x := fun heq => hne (hk.trans heq)
        simp [hk, hkx]
      · simp only [List.find?_cons, hk, decide_false, hrest]

/-- Without the element that has the key. -/
theorem lookup_eraseP (hkeys : (entries.map key).Nodup) (k k' : κ) :
    lookup key (entries.eraseP fun x => key x = k) k' =
      if k' = k then none else lookup key entries k' := by
  induction entries with
  | nil => simp [lookup]
  | cons x rest ih =>
    rw [List.map_cons, List.nodup_cons] at hkeys
    by_cases hx : key x = k
    · rw [List.eraseP_cons_of_pos (by simpa using hx)]
      split
      next heq =>
        rw [heq, lookup_eq_none_iff]
        intro y hy hkey
        exact hkeys.1 (List.mem_map.mpr ⟨y, hy, hkey.trans hx.symm⟩)
      rename_i hne
      have hother : key x ≠ k' := fun h => hne (h.symm.trans hx)
      simp [lookup, hother]
    rw [List.eraseP_cons_of_neg (by simpa using hx)]
    have hrest := ih hkeys.2
    unfold lookup at hrest ⊢
    by_cases hx' : key x = k'
    · have hne : k' ≠ k := fun h => hx (hx'.trans h)
      simp [hx', hne]
    · simp only [List.find?_cons, hx', decide_false, hrest]

end Lookup

end FirstMatch
