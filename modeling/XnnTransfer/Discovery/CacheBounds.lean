import Mathlib.Algebra.Order.BigOperators.Group.List
import XnnTransfer.Discovery.CacheEffects

/-!
# What the discovery cache keeps within bounds

`EntriesKept` holds of the entries and of the payload bytes counted for them, `Kept`
of the whole cache. Every operation keeps them, whatever its arguments are, and no
subtraction from the counted bytes goes below zero. The entries change in three
ways only: a pass thins them out, a new entry is pushed, or one entry is changed in
place.
-/

namespace XnnTransfer.Discovery

open FirstMatch

/-! ### The scopes that are installed -/

variable (scopes : List InterfaceScope) (entry : Entry) (entries : List Entry)

theorem canonicalScopes_spec :
    (canonicalScopes scopes).SortedLT ∧ (canonicalScopes scopes).length ≤ maxScopes := by
  refine Runs.run_invariant_all
    (P := fun result : List InterfaceScope => result.SortedLT ∧ result.length ≤ maxScopes) ?_
    ⟨List.Pairwise.nil.sortedLT, Nat.zero_le _⟩ scopes
  rintro result scope ⟨hsorted, hlength⟩
  unfold insertScope
  split
  · exact ⟨hsorted, hlength⟩
  rename_i hfresh
  rw [SortedRanges.head_fromLowerBound_iff hsorted] at hfresh
  exact ⟨SortedRanges.insertCapped_sortedLT hsorted hfresh _,
    SortedRanges.length_insertCapped_le hlength _⟩

theorem present_iff (scope : InterfaceScope) :
    SortedRanges.binarySearch (canonicalScopes scopes) scope = true ↔
      scope ∈ canonicalScopes scopes :=
  SortedRanges.binarySearch_iff (canonicalScopes_spec scopes).1 scope

/-! ### Entries -/

/-- A tombstone keeps none of what was advertised. -/
def Entry.Blank : Prop :=
  entry.rawSize = 0 ∧ entry.value.displayLabel = [] ∧ entry.value.servicePort = 0

/-- The sizes of the payloads of the candidates. -/
def payload : Nat :=
  ((entries.filter fun entry => entry.candidate).map fun entry => entry.rawSize.toNat).sum

theorem payload_cons (rest : List Entry) :
    payload (entry :: rest) =
      (if entry.candidate then entry.rawSize.toNat else 0) + payload rest := by
  unfold payload
  cases hcandidate : entry.candidate <;> simp [hcandidate]

theorem payload_eq_sum :
    payload entries =
      (entries.map fun entry => if entry.candidate then entry.rawSize.toNat else 0).sum := by
  induction entries with
  | nil => rfl
  | cons entry rest ih => rw [payload_cons, ih, List.map_cons, List.sum_cons]

/-- What holds of the entries of a cache and of the bytes it counts for them. -/
structure EntriesKept (entries : List Entry) (retained : UInt64) : Prop where
  keys : (entries.map Entry.key).Nodup
  counted : retained.toNat = payload entries
  capped : retained.toNat ≤ 131072
  candidates : (entries.countP fun entry => entry.candidate) ≤ maxCandidates
  candidatesOf : ∀ scope, (entries.countP fun entry =>
    entry.candidate ∧ entry.key.observer = scope) ≤ maxCandidatesPerScope
  total : entries.length ≤ maxEntries
  totalOf : ∀ scope, (entries.countP fun entry => entry.key.observer = scope) ≤ maxEntriesPerScope
  tombstones : ∀ entry ∈ entries, entry.candidate = false → entry.Blank

namespace EntriesKept

variable {entries : List Entry} {retained retained' : UInt64}

theorem nil : EntriesKept [] 0 where
  keys := List.nodup_nil
  counted := rfl
  capped := Nat.zero_le _
  candidates := Nat.zero_le _
  candidatesOf _ := Nat.zero_le _
  total := Nat.zero_le _
  totalOf _ := Nat.zero_le _
  tombstones _ hmem := absurd hmem List.not_mem_nil

variable {f : Entry → Option Entry} {entry : Entry} {key : CandidateKey}

theorem countP_filterMap_le {keep : Entry → Bool}
    (hback : ∀ entry ∈ entries, ∀ left, f entry = some left → keep left = true →
      keep entry = true) : (entries.filterMap f).countP keep ≤ entries.countP keep := by
  rw [List.countP_filterMap]
  apply List.countP_mono_left
  intro entry hmem hkept
  cases hleft : f entry with
  | none => simp [hleft] at hkept
  | some left => exact hback entry hmem left hleft (by simpa [hleft] using hkept)

/-- Entries may be dropped, and candidates may become tombstones. -/
theorem thin (h : EntriesKept entries retained)
    (hsame : ∀ entry left, f entry = some left → left.key = entry.key)
    (hback : ∀ entry ∈ entries, ∀ left, f entry = some left → left.candidate = true →
      entry.candidate = true)
    (hblank : ∀ entry ∈ entries, ∀ left, f entry = some left → left.candidate = false →
      left.Blank) (hcounted : retained'.toNat = payload (entries.filterMap f))
    (hless : retained'.toNat ≤ retained.toNat) : EntriesKept (entries.filterMap f) retained' where
  keys := (map_filterMap_sublist hsame).nodup h.keys
  counted := hcounted
  capped := hless.trans h.capped
  candidates := (countP_filterMap_le hback).trans h.candidates
  candidatesOf scope := by
    refine (countP_filterMap_le fun entry hmem left hleft hkept => ?_).trans (h.candidatesOf scope)
    simp only [Bool.decide_and, Bool.decide_eq_true, Bool.and_eq_true, decide_eq_true_eq] at hkept ⊢
    exact ⟨hback entry hmem left hleft hkept.1, hsame entry left hleft ▸ hkept.2⟩
  total := (List.length_filterMap_le f entries).trans h.total
  totalOf scope := by
    refine (countP_filterMap_le fun entry _ left hleft hkept => ?_).trans (h.totalOf scope)
    rwa [← hsame entry left hleft]
  tombstones left hmem htombstone := by
    obtain ⟨entry, hentry, hleft⟩ := List.mem_filterMap.mp hmem
    exact hblank entry hentry left hleft htombstone

theorem push (h : EntriesKept entries retained) (hfresh : ∀ other ∈ entries, other.key ≠ entry.key)
    (hentries : entries.length < maxEntries ∧
      (entries.countP fun other => other.key.observer = entry.key.observer) < maxEntriesPerScope)
    (hcandidates : entry.candidate = true →
      (entries.countP fun other => other.candidate) < maxCandidates ∧
      (entries.countP fun other => other.candidate ∧ other.key.observer = entry.key.observer) <
        maxCandidatesPerScope) (hblank : entry.candidate = false → entry.Blank)
    (hcounted : retained'.toNat =
      retained.toNat + if entry.candidate then entry.rawSize.toNat else 0)
    (hcapped : retained'.toNat ≤ 131072) : EntriesKept (entries ++ [entry]) retained' where
  keys := nodup_append_of_fresh h.keys (lookup_eq_none_iff.mpr hfresh)
  counted := by
    rw [hcounted, h.counted]
    cases hcandidate : entry.candidate <;> simp [payload, hcandidate]
  capped := hcapped
  candidates := by
    rw [List.countP_append, List.countP_singleton]
    split
    next hcandidate => exact (hcandidates hcandidate).1
    · exact h.candidates
  candidatesOf scope := by
    rw [List.countP_append, List.countP_singleton]
    split
    next hkept =>
      simp only [Bool.decide_and, Bool.decide_eq_true, Bool.and_eq_true,
        decide_eq_true_eq] at hkept
      obtain ⟨hcandidate, rfl⟩ := hkept
      exact (hcandidates hcandidate).2
    · exact h.candidatesOf scope
  total := by
    rw [List.length_append]
    exact hentries.1
  totalOf scope := by
    rw [List.countP_append, List.countP_singleton]
    split
    next hscope =>
      obtain rfl := of_decide_eq_true hscope
      exact hentries.2
    · exact h.totalOf scope
  tombstones other hmem htombstone := by
    rcases List.mem_append.mp hmem with hmem | hmem
    · exact h.tombstones other hmem htombstone
    obtain rfl := List.mem_singleton.mp hmem
    exact hblank htombstone

theorem modify (h : EntriesKept entries retained) {change : Entry → Entry}
    (hfind : lookup Entry.key entries key = some entry) (hkey : (change entry).key = key)
    (hcandidates : entry.candidate = false → (change entry).candidate = true →
      (entries.countP fun other => other.candidate) < maxCandidates ∧
      (entries.countP fun other => other.candidate ∧ other.key.observer = key.observer) <
        maxCandidatesPerScope) (hblank : (change entry).candidate = false → (change entry).Blank)
    (hcounted : retained'.toNat + (if entry.candidate then entry.rawSize.toNat else 0) =
      retained.toNat + if (change entry).candidate then (change entry).rawSize.toNat else 0)
    (hcapped : retained'.toNat ≤ 131072) :
    EntriesKept (modifyFirst (fun other => other.key = key) change entries) retained' := by
  have honly : ∀ other ∈ entries, decide (other.key = key) = true → other = entry := by
    intro other hmem htest
    have hother := (lookup_eq_some_iff h.keys).mpr ⟨hmem, of_decide_eq_true htest⟩
    exact Option.some.inj (hother.symm.trans hfind)
  have hold : entry.key = key := (mem_of_lookup hfind).2
  -- A count grows only where a tombstone becomes a candidate, and then there was room.
  have hcount : ∀ (keep : Entry → Bool) (limit : Nat), entries.countP keep ≤ limit →
      (keep entry = false → keep (change entry) = true → entries.countP keep < limit) →
      (modifyFirst (fun other => other.key = key) change entries).countP keep ≤ limit := by
    intro keep limit hbound hroom
    by_cases hgrows : keep entry = false ∧ keep (change entry) = true
    · exact (countP_modifyFirst_le entries).trans (hroom hgrows.1 hgrows.2)
    refine (countP_modifyFirst_mono fun other hmem htest hkept => ?_).trans hbound
    obtain rfl := honly other hmem htest
    by_contra hnot
    exact hgrows ⟨by simpa using hnot, hkept⟩
  refine ⟨?_, ?_, hcapped, ?_, ?_, ?_, ?_, ?_⟩
  · rw [show (modifyFirst (fun other => other.key = key) change entries).map Entry.key =
      entries.map Entry.key from ?_]
    · exact h.keys
    refine map_modifyFirst_of_mem fun other hmem htest => ?_
    rw [honly other hmem htest, hkey, hold]
  · have hsum : ((modifyFirst (fun other => other.key = key) change entries).map fun other =>
        if other.candidate then other.rawSize.toNat else 0).sum + _ = _ := sum_modifyFirst hfind
    have hbefore := h.counted
    rw [payload_eq_sum] at hbefore ⊢
    omega
  · refine hcount _ _ h.candidates fun hwas his => (hcandidates hwas his).1
  · intro scope
    refine hcount _ _ (h.candidatesOf scope) fun hwas his => ?_
    simp only [Bool.decide_and, Bool.decide_eq_true, Bool.and_eq_true, decide_eq_true_eq,
      hkey] at his
    obtain ⟨his, rfl⟩ := his
    refine (hcandidates ?_ his).2
    simpa [hold] using hwas
  · rw [length_modifyFirst]
    exact h.total
  · intro scope
    refine hcount _ _ (h.totalOf scope) fun hwas his => ?_
    rw [hkey, ← hold] at his
    rw [his] at hwas
    cases hwas
  intro other hmem htombstone
  rcases mem_of_mem_modifyFirst hmem with hold | ⟨known, hknown, htest, rfl⟩
  · exact h.tombstones other hold htombstone
  obtain rfl := honly known hknown htest
  exact hblank htombstone

/-- The payload of an entry is part of what is counted. -/
theorem rawSize_le (h : EntriesKept entries retained) (hmem : entry ∈ entries) :
    entry.rawSize.toNat ≤ retained.toNat := by
  rw [h.counted]
  cases hcandidate : entry.candidate with
  | true =>
    refine List.single_le_sum (fun _ _ => Nat.zero_le _) _ ?_
    exact List.mem_map_of_mem (List.mem_filter.mpr ⟨hmem, hcandidate⟩)
  | false =>
    rw [(h.tombstones entry hmem hcandidate).1]
    exact Nat.zero_le _

end EntriesKept

/-! ### Passes -/

/-- No subtraction of a pass goes below zero. -/
def Covers (body : Entry → Option Entry × Option ExpiryReason) : List Entry → UInt64 → Prop
  | [], _ => True
  | entry :: rest, retained =>
    match (body entry).2 with
    | none => Covers body rest retained
    | some _ => entry.rawSize.toUInt64 ≤ retained ∧
        Covers body rest (retained - entry.rawSize.toUInt64)

variable {nowMs retained : UInt64}

theorem toNat_sub_rawSize {size : UInt16} (h : size.toNat ≤ retained.toNat) :
    size.toUInt64 ≤ retained ∧ (retained - size.toUInt64).toNat = retained.toNat - size.toNat := by
  have hle : size.toUInt64 ≤ retained := by
    rw [UInt64.le_iff_toNat_le, UInt16.toNat_toUInt64]
    exact h
  rw [UInt64.toNat_sub_of_le _ _ hle, UInt16.toNat_toUInt64]
  exact ⟨hle, rfl⟩

/-- What a pass leaves of an entry is the entry itself or a tombstone. -/
theorem Fate.left_eq {entry left : Entry} {outcome : Option Entry × Option ExpiryReason}
    (h : Fate nowMs entry outcome) (hleft : outcome.1 = some left) :
    left = entry ∨ left = entry.lapse nowMs := by
  cases h with
  | kept => exact .inl (Option.some.inj hleft).symm
  | lapsed => exact .inr (Option.some.inj hleft).symm
  | expelled | forgotten => cases hleft

variable {body : Entry → Option Entry × Option ExpiryReason} {entries : List Entry}

/-- A pass subtracts what the entries it publishes had counted; `others` are the bytes that
are counted for entries outside the pass. -/
theorem sweep_counted (hfate : ∀ entry, Fate nowMs entry (body entry)) (entries : List Entry)
    (retained : UInt64) (others : Nat) (hcounted : retained.toNat = payload entries + others) :
    (sweep body entries retained).2.1.toNat =
        payload (entries.filterMap fun entry => (body entry).1) + others ∧
      Covers body entries retained ∧
      (sweep body entries retained).2.1.toNat ≤ retained.toNat := by
  induction entries generalizing retained others with
  | nil => exact ⟨hcounted, trivial, le_rfl⟩
  | cons entry rest ih =>
    rw [payload_cons] at hcounted
    unfold sweep Covers
    have houtcome := hfate entry
    generalize hbody : body entry = outcome at houtcome
    cases houtcome with
    | kept =>
      obtain ⟨hafter, hcovers, hless⟩ := ih retained
        (others + if entry.candidate then entry.rawSize.toNat else 0) (by omega)
      rw [List.filterMap_cons_some (by rw [hbody]), payload_cons]
      exact ⟨hafter.trans (by omega), hcovers, hless⟩
    | forgotten htombstone =>
      rw [htombstone] at hcounted
      obtain ⟨hafter, hcovers, hless⟩ := ih retained others (by simpa using hcounted)
      rw [List.filterMap_cons_none (by rw [hbody])]
      exact ⟨hafter, hcovers, hless⟩
    | lapsed reason hcandidate =>
      rw [hcandidate, if_pos rfl] at hcounted
      have hpart : entry.rawSize.toNat ≤ retained.toNat := by omega
      obtain ⟨hle, hsub⟩ := toNat_sub_rawSize hpart
      obtain ⟨hafter, hcovers, hless⟩ :=
        ih (retained - entry.rawSize.toUInt64) others (by omega)
      rw [List.filterMap_cons_some (by rw [hbody]), payload_cons]
      exact ⟨hafter.trans (by simp [Entry.lapse]), ⟨hle, hcovers⟩, hless.trans (by omega)⟩
    | expelled reason hcandidate =>
      rw [hcandidate, if_pos rfl] at hcounted
      have hpart : entry.rawSize.toNat ≤ retained.toNat := by omega
      obtain ⟨hle, hsub⟩ := toNat_sub_rawSize hpart
      obtain ⟨hafter, hcovers, hless⟩ :=
        ih (retained - entry.rawSize.toUInt64) others (by omega)
      rw [List.filterMap_cons_none (by rw [hbody])]
      exact ⟨hafter, ⟨hle, hcovers⟩, hless.trans (by omega)⟩

/-- A pass that publishes nothing counts what it did before. -/
theorem sweep_of_silent (h : ∀ entry ∈ entries, (body entry).2 = none) (retained : UInt64) :
    sweep body entries retained =
      (entries.filterMap fun entry => (body entry).1, retained, []) := by
  induction entries with
  | nil => rfl
  | cons entry rest ih =>
    have hrest := ih fun other hother => h other (List.mem_cons_of_mem _ hother)
    cases hleft : (body entry).1 <;> simp [sweep, h entry List.mem_cons_self, hrest, hleft]

theorem EntriesKept.pass (h : EntriesKept entries retained)
    (hfate : ∀ entry, Fate nowMs entry (body entry)) :
    EntriesKept (sweep body entries retained).1 (sweep body entries retained).2.1 ∧
      Covers body entries retained := by
  obtain ⟨hcounted, hcovers, hless⟩ := sweep_counted hfate entries retained 0 h.counted
  refine ⟨?_, hcovers⟩
  rw [sweep_entries]
  refine h.thin (fun entry left hleft => (hfate entry).key hleft) ?_ ?_ hcounted hless
  · intro entry _ left hleft hcandidate
    rcases (hfate entry).left_eq hleft with rfl | rfl
    · exact hcandidate
    · cases hcandidate
  intro entry hmem left hleft htombstone
  rcases (hfate entry).left_eq hleft with rfl | rfl
  · exact h.tombstones left hmem htombstone
  · exact ⟨rfl, rfl, rfl⟩

/-- The erasure of expired tombstones. -/
theorem EntriesKept.erase (h : EntriesKept entries retained) (nowMs : UInt64) :
    EntriesKept (entries.filter fun entry => !(!entry.candidate && entry.retainUntilMs ≤ nowMs))
      retained := by
  let keep (entry : Entry) : Bool := !(!entry.candidate && entry.retainUntilMs ≤ nowMs)
  have hfate : ∀ entry, Fate nowMs entry (Option.guard keep entry, none) := by
    intro entry
    cases hkeep : keep entry with
    | true =>
      rw [Option.guard, if_pos hkeep]
      exact .kept
    | false =>
      rw [Option.guard, if_neg (by simp [hkeep])]
      refine .forgotten (Bool.eq_false_of_not_eq_true fun hcandidate => ?_)
      simp [keep, hcandidate] at hkeep
  have hpass := (h.pass hfate).1
  rw [sweep_of_silent fun _ _ => rfl] at hpass
  rwa [← List.filterMap_eq_filter]

/-! ### The cache -/

namespace Cache

variable {ν : Type}

/-- What holds of a cache after every sequence of calls. -/
structure Kept (cache : Cache ν) : Prop where
  entries : EntriesKept cache.entries cache.retainedPayloadBytes
  bucketKeys : cache.bucketKeys.Nodup
  buckets : cache.bucketKeys.length ≤ maxSourceBuckets
  bucketsOf : ∀ scope, (cache.bucketKeys.countP fun key => key.1 = scope) ≤ maxSourceBucketsPerScope
  tokens : (cache.localTokens.map fun item => item.scope).Nodup
  scopes : cache.installed.length ≤ maxScopes
  entryScopes : ∀ entry ∈ cache.entries, entry.key.observer ∈ cache.installed
  bucketScopes : ∀ key ∈ cache.bucketKeys, key.1 ∈ cache.installed
  tokenScopes : ∀ item ∈ cache.localTokens, item.scope ∈ cache.installed
  created : cache.state = .created → cache.installed = []

namespace Kept

variable {cache : Cache ν}

theorem of_empty (hentries : cache.entries = []) (hretained : cache.retainedPayloadBytes = 0)
    (hbuckets : cache.sourceBuckets = []) (htokens : cache.localTokens = [])
    (hscopes : cache.scopes = []) : Kept cache := by
  refine ⟨?_, ?_, ?_, ?_, ?_, ?_, ?_, ?_, ?_, ?_⟩
  · rw [hentries, hretained]
    exact EntriesKept.nil
  all_goals simp [Cache.bucketKeys, installed, hentries, hbuckets, htokens, hscopes]

theorem create [NatCast ν] (validator : Option DisplayLabelValidator) :
    Kept (Cache.create validator : Cache ν) := of_empty rfl rfl rfl rfl rfl

variable {nowMs retained : UInt64} {scope : InterfaceScope}

/-- The entries are replaced by others in the same scopes. -/
theorem withEntries (h : Kept cache) {entries : List Entry}
    (hentries : EntriesKept entries retained)
    (hscopes : ∀ entry ∈ entries, entry.key.observer ∈ cache.installed) :
    Kept { cache with entries := entries, retainedPayloadBytes := retained } :=
  { h with entries := hentries, entryScopes := hscopes }

theorem observe (h : Kept cache) (nowMs : UInt64) : Kept (cache.observe nowMs) :=
  { h with
    entries := h.entries.erase nowMs
    entryScopes := fun entry hmem => h.entryScopes entry (List.mem_filter.mp hmem).1 }

theorem sweepEntries (h : Kept cache) {body : Entry → Option Entry × Option ExpiryReason}
    (hfate : ∀ entry, Fate nowMs entry (body entry)) :
    Kept (cache.sweepEntries body).2 ∧ Covers body cache.entries cache.retainedPayloadBytes := by
  obtain ⟨hentries, hcovers⟩ := h.entries.pass hfate
  refine ⟨h.withEntries hentries fun left hmem => ?_, hcovers⟩
  rw [sweep_entries] at hmem
  obtain ⟨entry, hentry, hleft⟩ := List.mem_filterMap.mp hmem
  rw [(hfate entry).key hleft]
  exact h.entryScopes entry hentry

theorem meters (h : Kept cache) {after : Cache ν} (hmeters : Meters cache after) :
    Kept after := by
  have hbuckets : after.bucketKeys.Nodup ∧ after.bucketKeys.length ≤ maxSourceBuckets ∧
      (∀ scope, (after.bucketKeys.countP fun key => key.1 = scope) ≤ maxSourceBucketsPerScope) ∧
      ∀ key ∈ after.bucketKeys, key.1 ∈ cache.installed := by
    obtain ⟨kept, hsublist, hkeys⟩ := hmeters.keys
    have hnodup := hsublist.nodup h.bucketKeys
    have hlength := hsublist.length_le.trans h.buckets
    have hcount := fun scope => (hsublist.countP_le (p := fun key => key.1 = scope)).trans
      (h.bucketsOf scope)
    have hscopes := fun key hmem => h.bucketScopes key (hsublist.mem hmem)
    rcases hkeys with hkeys | ⟨key, hfresh, hroom, hroomOf, hscope, hkeys⟩
    · rw [hkeys]
      exact ⟨hnodup, hlength, hcount, hscopes⟩
    rw [hkeys]
    refine ⟨?_, ?_, ?_, ?_⟩
    · refine List.nodup_append.mpr ⟨hnodup, List.nodup_singleton _, ?_⟩
      rintro known hknown other hother rfl
      exact hfresh (List.mem_singleton.mp hother ▸ hknown)
    · rw [List.length_append]
      exact hroom
    · intro scope
      rw [List.countP_append, List.countP_singleton]
      split
      next hsame =>
        obtain rfl := of_decide_eq_true hsame
        exact hroomOf
      · exact hcount scope
    intro other hmem
    rcases List.mem_append.mp hmem with hmem | hmem
    · exact hscopes other hmem
    · exact List.mem_singleton.mp hmem ▸ hscope
  have hframe := hmeters.frame
  have hinstalled := hmeters.installed
  obtain ⟨hnodup, hlength, hcount, hscopes⟩ := hbuckets
  refine ⟨?_, hnodup, hlength, hcount, ?_, ?_, ?_, ?_, ?_, ?_⟩
  · rw [hframe]
    exact h.entries
  · rw [hframe]
    exact h.tokens
  · rw [hinstalled]
    exact h.scopes
  · rw [hinstalled, hframe]
    exact h.entryScopes
  · rw [hinstalled]
    exact hscopes
  · rw [hinstalled, hframe]
    exact h.tokenScopes
  rw [hinstalled, hframe]
  exact h.created

/-- The size check passed, so the sum did not wrap. -/
theorem toNat_add_rawSize {size : UInt16} (hcapped : retained.toNat ≤ 131072)
    (hle : retained + size.toUInt64 ≤ maximumRetainedPayloadBytes) :
    (retained + size.toUInt64).toNat = retained.toNat + size.toNat ∧
      (retained + size.toUInt64).toNat ≤ 131072 := by
  refine ⟨?_, hle⟩
  rw [UInt64.toNat_add, UInt16.toNat_toUInt64]
  have := size.toNat_lt
  omega

theorem heard (h : Kept cache) {key : CandidateKey} {advertisement : Advertisement}
    {outcome : ReceiveResult × Cache ν} (hscope : key.observer ∈ cache.installed)
    (hheard : Heard cache key advertisement nowMs outcome) : Kept outcome.2 := by
  have hpushed : ∀ entry : Entry, entry.key = key → ∀ other ∈ cache.entries ++ [entry],
      other.key.observer ∈ cache.installed := by
    intro entry hkey other hmem
    rcases List.mem_append.mp hmem with hmem | hmem
    · exact h.entryScopes other hmem
    rw [List.mem_singleton.mp hmem, hkey]
    exact hscope
  have hmodified : ∀ change : Entry → Entry, (∀ entry, (change entry).key = entry.key ∨
      (change entry).key = key) → ∀ other ∈ cache.modifyEntry key change,
      other.key.observer ∈ cache.installed := by
    intro change hkeys other hmem
    rcases mem_of_mem_modifyFirst hmem with hmem | ⟨known, hknown, -, rfl⟩
    · exact h.entryScopes other hmem
    rcases hkeys known with hkey | hkey
    · rw [hkey]
      exact h.entryScopes known hknown
    rw [hkey]
    exact hscope
  cases hheard with
  | appeared deadlineMs _ _ hfresh hcandidates hentries hpayload =>
    obtain ⟨hsum, hcapped⟩ := toNat_add_rawSize h.entries.capped hpayload
    refine h.withEntries (h.entries.push (lookup_eq_none_iff.mp hfresh)
      (of_decide_eq_true hentries) (fun _ => of_decide_eq_true hcandidates) (by simp [entryFrom])
      ?_ hcapped) (hpushed _ rfl)
    exact hsum
  | renewed deadlineMs entry disposition events _ _ hfind _ hcandidates hpayload _ =>
    obtain ⟨hmem, hkey⟩ := mem_of_lookup hfind
    have hpart := h.entries.rawSize_le hmem
    obtain ⟨-, hsub⟩ := toNat_sub_rawSize hpart
    have hcappedBefore := h.entries.capped
    obtain ⟨hsum, hcapped⟩ := toNat_add_rawSize (by omega) hpayload
    refine h.withEntries (h.entries.modify hfind rfl
      (fun htombstone _ => of_decide_eq_true (hcandidates htombstone)) (by simp [entryFrom]) ?_
      hcapped) (hmodified _ fun _ => .inr rfl)
    simp only [hsum, hsub, entryFrom, if_true]
    cases hcandidate : entry.candidate with
    | true =>
      rw [if_pos rfl]
      omega
    | false =>
      rw [(h.entries.tombstones entry hmem hcandidate).1, if_neg Bool.false_ne_true]
      rfl
  | tombstoned retainUntilMs _ _ hfresh hentries =>
    exact h.withEntries (h.entries.push (lookup_eq_none_iff.mp hfresh)
      (of_decide_eq_true hentries) (by simp [tombstoneOf]) (fun _ => ⟨rfl, rfl, rfl⟩) rfl
      h.entries.capped) (hpushed _ rfl)
  | withdrawn retainUntilMs entry _ _ hfind _ =>
    obtain ⟨hmem, hkey⟩ := mem_of_lookup hfind
    obtain ⟨-, hsub⟩ := toNat_sub_rawSize (h.entries.rawSize_le hmem)
    have hpart := h.entries.rawSize_le hmem
    have hcapped := h.entries.capped
    refine h.withEntries (h.entries.modify hfind hkey (by simp [withdrawnEntry])
      (fun _ => ⟨rfl, rfl, rfl⟩) ?_ ?_) (hmodified _ fun _ => .inl rfl)
    · simp only [withdrawnEntry, Bool.false_eq_true, if_false]
      cases hcandidate : entry.candidate with
      | true =>
        rw [if_pos rfl, if_pos rfl, hsub]
        omega
      | false => rfl
    split
    · omega
    · exact hcapped

/-- The entries, buckets and tokens whose scope is gone are removed before the new scopes
are installed. -/
theorem replaceScopes [NatCast ν] (h : Kept cache) (scopes : List InterfaceScope)
    (reason : ExpiryReason) (nowMs : UInt64) (hstate : cache.state ≠ .created) :
    Kept ((cache.removeAbsentScopes (canonicalScopes scopes) reason).2.installScopes
      (canonicalScopes scopes) nowMs) := by
  obtain ⟨hswept, -⟩ := h.sweepEntries
    (removeAbsentEntry_fate nowMs (canonicalScopes scopes) reason)
  have hbuckets : (((cache.sourceBuckets.filter fun item => SortedRanges.binarySearch
      (canonicalScopes scopes) item.scope).map fun item => (item.scope, item.source))).Sublist
        cache.bucketKeys := List.filter_sublist.map _
  constructor
  · exact hswept.entries
  · exact hbuckets.nodup h.bucketKeys
  · exact hbuckets.length_le.trans h.buckets
  · exact fun scope => hbuckets.countP_le.trans (h.bucketsOf scope)
  · exact (List.filter_sublist.map _).nodup h.tokens
  · rw [installed_installScopes]
    exact (canonicalScopes_spec scopes).2
  · intro left hmem
    rw [installed_installScopes, ← present_iff]
    have hmem : left ∈ (sweep (removeAbsentEntry (canonicalScopes scopes) reason) cache.entries
      cache.retainedPayloadBytes).1 := hmem
    rw [sweep_entries] at hmem
    obtain ⟨entry, -, hleft⟩ := List.mem_filterMap.mp hmem
    unfold removeAbsentEntry at hleft
    split at hleft
    next hpresent =>
      obtain rfl := Option.some.inj hleft
      exact hpresent
    · cases hleft
  · intro key hmem
    rw [installed_installScopes, ← present_iff]
    obtain ⟨item, hitem, rfl⟩ := List.mem_map.mp hmem
    exact (List.mem_filter.mp hitem).2
  · intro item hmem
    rw [installed_installScopes, ← present_iff]
    exact (List.mem_filter.mp hmem).2
  · exact fun hcreated => absurd hcreated hstate

theorem setLocalToken (h : Kept cache) (scope : InterfaceScope) (token : InstanceToken) :
    Kept (cache.setLocalToken scope token).2 := by
  unfold Cache.setLocalToken
  split
  · exact h
  rename_i hinstalled
  simp only [not_or, Bool.not_eq_false] at hinstalled
  have hscope := hasScope_iff.mp hinstalled.2.2
  split
  · have hsame : (modifyFirst (fun item => item.scope = scope)
        (fun item : LocalToken => { item with token := token }) cache.localTokens).map
          (fun item => item.scope) = cache.localTokens.map fun item => item.scope := by
      apply map_modifyFirst
      exact fun _ => rfl
    refine { h with tokens := hsame ▸ h.tokens, tokenScopes := fun item hmem => ?_ }
    have hmapped : item.scope ∈ cache.localTokens.map fun item => item.scope :=
      hsame ▸ List.mem_map_of_mem hmem
    obtain ⟨known, hknown, heq⟩ := List.mem_map.mp hmapped
    exact heq ▸ h.tokenScopes known hknown
  rename_i hfresh
  split
  · exact h
  refine { h with tokens := ?_, tokenScopes := fun item hmem => ?_ }
  · refine nodup_append_of_fresh h.tokens (lookup_eq_none_iff.mpr ?_)
    simpa using hfresh
  rcases List.mem_append.mp hmem with hmem | hmem
  · exact h.tokenScopes item hmem
  rw [List.mem_singleton.mp hmem]
  exact hscope

theorem start [NatCast ν] (h : Kept cache) (scopes : List InterfaceScope) (nowMs : UInt64) :
    Kept (cache.start scopes nowMs).2 := by
  unfold Cache.start
  split
  · exact h
  rename_i hcreated
  have hempty := h.created (not_not.mp (not_or.mp hcreated).1)
  have hnone : ∀ scope, scope ∉ cache.installed := fun scope hmem => by
    rw [hempty] at hmem
    cases hmem
  refine { h with
    scopes := ?_
    entryScopes := fun entry hmem => absurd (h.entryScopes entry hmem) (hnone _)
    bucketScopes := fun key hmem => absurd (h.bucketScopes key hmem) (hnone _)
    tokenScopes := fun item hmem => absurd (h.tokenScopes item hmem) (hnone _)
    created := nofun }
  exact (congrArg List.length (installed_installScopes _ _ _)).trans_le
    (canonicalScopes_spec scopes).2

section Calls

variable [NatCast ν] [Add ν] [Sub ν] [Mul ν] [Div ν] [LT ν] [DecidableLT ν]

theorem receive (h : Kept cache) (metadata : DatagramMetadata) (payload : Bytes)
    (nowMs : UInt64) : Kept (cache.receive metadata payload nowMs).2 := by
  have hcases := receive_cases cache metadata payload nowMs
  generalize cache.receive metadata payload nowMs = outcome at hcases
  cases hcases with
  | ignored => exact h
  | screened _ _ _ _ hmeters => exact (h.observe nowMs).meters hmeters
  | heard advertisement gate _ _ _ hmeters hscope _ hheard =>
    refine ((h.observe nowMs).meters hmeters).heard ?_ hheard
    rw [hmeters.installed]
    exact hscope

end Calls

end Kept

/-- No subtraction from the counted bytes that the call may make goes below zero. -/
def Covered (cache : Cache ν) : Call → Prop
  | .receive _ _ nowMs => ∀ entry ∈ (cache.observe nowMs).entries,
      entry.rawSize.toUInt64 ≤ cache.retainedPayloadBytes
  | .advance nowMs => Covers (purgeEntry nowMs) cache.entries cache.retainedPayloadBytes
  | .applyInterfaceSnapshot scopes nowMs =>
    Covers (removeAbsentEntry (canonicalScopes scopes) .interfaceRemoved)
      (cache.observe nowMs).entries cache.retainedPayloadBytes
  | .wake scopes nowMs =>
    let lapsed := ((cache.observe nowMs).sweepEntries (wakeEntry nowMs)).2
    Covers (wakeEntry nowMs) (cache.observe nowMs).entries cache.retainedPayloadBytes ∧
      Covers (removeAbsentEntry (canonicalScopes scopes) .interfaceRemoved) lapsed.entries
        lapsed.retainedPayloadBytes
  | .start _ _ | .stop | .setLocalToken _ _ => True

theorem Kept.covered {cache : Cache ν} (h : Kept cache) (action : Call) :
    cache.Covered action := by
  cases action with
  | receive metadata payload nowMs =>
    intro entry hmem
    exact (toNat_sub_rawSize ((h.observe nowMs).entries.rawSize_le hmem)).1
  | advance nowMs => exact (h.sweepEntries (purgeEntry_fate nowMs)).2
  | applyInterfaceSnapshot scopes nowMs =>
    exact ((h.observe nowMs).sweepEntries (removeAbsentEntry_fate nowMs _ _)).2
  | wake scopes nowMs =>
    obtain ⟨hlapsed, hcovers⟩ := (h.observe nowMs).sweepEntries (wakeEntry_fate nowMs)
    exact ⟨hcovers, (hlapsed.sweepEntries (removeAbsentEntry_fate nowMs _ _)).2⟩
  | start | stop | setLocalToken => trivial

section Calls

variable [NatCast ν] [Add ν] [Sub ν] [Mul ν] [Div ν] [LT ν] [DecidableLT ν]

theorem Kept.step {cache : Cache ν} (h : Kept cache) (action : Call) :
    Kept (cache.step action) := by
  cases action with
  | start scopes nowMs => exact h.start scopes nowMs
  | stop => exact .of_empty rfl rfl rfl rfl rfl
  | setLocalToken scope token => exact h.setLocalToken scope token
  | receive metadata payload nowMs => exact h.receive metadata payload nowMs
  | advance nowMs =>
    simp only [Cache.step, call, advance]
    split
    · exact h
    have hnow : Kept { cache with nowMs := nowMs } := { h with }
    exact ((hnow.sweepEntries (purgeEntry_fate nowMs)).1.observe nowMs)
  | applyInterfaceSnapshot scopes nowMs =>
    simp only [Cache.step, call, applyInterfaceSnapshot]
    split
    · exact h
    rename_i hrunning
    have hstate : cache.state ≠ .created := by
      rw [not_not.mp (not_or.mp hrunning).1]
      nofun
    exact (h.observe nowMs).replaceScopes scopes _ nowMs hstate
  | wake scopes nowMs =>
    simp only [Cache.step, call, wake]
    split
    · exact h
    rename_i hrunning
    have hstate : cache.state ≠ .created := by
      rw [not_not.mp (not_or.mp hrunning).1]
      nofun
    have hlapsed := ((h.observe nowMs).sweepEntries (wakeEntry_fate nowMs)).1
    have hreplaced := hlapsed.replaceScopes scopes .interfaceRemoved nowMs hstate
    exact { hreplaced with
      tokens := List.nodup_nil
      tokenScopes := fun _ hmem => absurd hmem List.not_mem_nil }

theorem Kept.run {cache : Cache ν} (h : Kept cache) (actions : List Call) :
    Kept (Runs.run Cache.step cache actions) := by
  apply Runs.run_invariant_all
  · exact fun _ action hkept => hkept.step action
  · exact h

/-- After every sequence of calls the cache is kept within its bounds, and no call makes a
subtraction from the counted bytes that goes below zero. -/
theorem run_kept (validator : Option DisplayLabelValidator) (actions : List Call) :
    Kept (Runs.run step (create validator : Cache ν) actions) ∧
      ∀ action, (Runs.run step (create validator : Cache ν) actions).Covered action := by
  have hkept : Kept (Runs.run step (create validator : Cache ν) actions) :=
    (Kept.create validator).run actions
  exact ⟨hkept, hkept.covered⟩

end Calls

end Cache

/-! ### Expired candidates and the capacity -/

namespace Cache

variable {ν : Type} {cache : Cache ν} {nowMs : UInt64}

variable [NatCast ν] [Add ν] [Sub ν] [Mul ν] [Div ν] [LT ν] [DecidableLT ν]

end Cache

end XnnTransfer.Discovery
