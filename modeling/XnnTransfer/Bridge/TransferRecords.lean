import XnnTransfer.Library.KeyedLog
import XnnTransfer.Bridge.TransferBridge

/-!
# The records of the transfer bridge

What a section of the bridge can do to the records, said once: nothing, or one change
with the event that tells it. From this follow the laws of the records, what becomes of
a record in the long run, and that the events tell the records.
-/

namespace XnnTransfer.Bridge

open Protocol Transfer FirstMatch

/-- The byte counts of a record fit each other and its state. -/
structure Record.Sound (record : Record) : Prop where
  within : record.transferredBytes ≤ record.totalBytes
  complete : record.state = .completed → record.transferredBytes = record.totalBytes
  untouched : record.state = .offered → record.transferredBytes = 0

/-- What an event says about the records. -/
def EventPayload.told (event : EventPayload) : KeyedLog.Event Bytes Record :=
  match event.change with
  | .upserted => .updated event.transferId event.toRecord
  | .removed => .expired event.transferId event.toRecord

/-- The records that someone believes in who has seen the events. -/
def recordsTold (events : List EventPayload) : Bytes → Option Record :=
  KeyedLog.view (events.map EventPayload.told)

namespace TransferBridge

variable {bridge bridge' : TransferBridge}

structure Lawful (bridge : TransferBridge) : Prop where
  identified : ∀ record ∈ bridge.records, allZero record.transferId = false
  distinct : (bridge.records.map Record.transferId).Nodup
  bounded : bridge.records.length + bridge.pendingStarts ≤ maximumTransferRecords
  sound : ∀ record ∈ bridge.records, record.Sound

/-- What becomes of the records: one in a terminal state stays as it is, and the count of
transferred bytes never goes back. A record that goes away has transferred nothing. -/
def Follows (bridge bridge' : TransferBridge) : Prop :=
  ∀ transferId record, bridge.find transferId = some record →
    (record.state.terminal = true → bridge'.find transferId = some record) ∧
    (∀ later, bridge'.find transferId = some later →
      record.transferredBytes ≤ later.transferredBytes) ∧
    (bridge'.find transferId = none → record.transferredBytes = 0)

theorem Follows.of_find (h : bridge'.find = bridge.find) : Follows bridge bridge' := by
  intro transferId record hfind
  rw [h, hfind]
  refine ⟨fun _ => rfl, fun later hlater => ?_, fun hnone => ?_⟩
  · rw [Option.some.inj hlater]
  · cases hnone

theorem Follows.refl (bridge : TransferBridge) : Follows bridge bridge := .of_find rfl

theorem Follows.trans {third : TransferBridge} (hfirst : Follows bridge bridge')
    (hsecond : Follows bridge' third) : Follows bridge third := by
  intro transferId record hfind
  obtain ⟨hterminal, hgrows, hgone⟩ := hfirst transferId record hfind
  cases hbetween : bridge'.find transferId with
  | none =>
    have hzero := hgone hbetween
    refine ⟨fun h => ?_, fun later _ => ?_, fun _ => hzero⟩
    · rw [hterminal h] at hbetween
      cases hbetween
    · exact hzero ▸ Nat.zero_le _
  | some between =>
    have hle := hgrows between hbetween
    obtain ⟨hterminal', hgrows', hgone'⟩ := hsecond transferId between hbetween
    refine ⟨fun h => ?_, fun later hlater => hle.trans (hgrows' later hlater), fun hnone => ?_⟩
    · obtain rfl : record = between := Option.some.inj ((hterminal h).symm.trans hbetween)
      exact hterminal' h
    · exact Nat.le_zero.mp (hgone' hnone ▸ hle)

/-! ### What a section can do -/

/-- Which records come to be. -/
inductive Inserts : Work → Record → Prop
  | started (result : TransferStartResult) : Inserts (.send result) (startedRecord result)
  | offered (peerLabel : Bytes) (offer : IncomingOffer) :
      Inserts (.offer peerLabel offer) (offeredRecord peerLabel offer)

/-- How a record can be changed in place. -/
inductive Amends : Work → Record → Record → Prop
  | accepted {record : Record} (offered : record.state = .offered) :
      Amends (.command .accept record.transferId) record { record with state := .queued }
  | cancelled {record : Record} (live : record.state ≠ .offered ∧ record.state.terminal = false)
      (fresh : record.state ≠ .cancelling) :
      Amends (.command .cancel record.transferId) record { record with state := .cancelling }
  | applied {record : Record} {update : TransferUpdate} {transferredBytes : Nat}
      (count : refusesCount record transferredBytes = false)
      (state : refusesState record update transferredBytes = false) :
      Amends (.apply record.transferId update transferredBytes) record
        (updatedRecord record update transferredBytes)

/-- How the work can change the records, and the event that tells it. -/
inductive Mutation (bridge : TransferBridge) (work : Work) :
    TransferBridge → EventPayload → Prop
  | inserted {record : Record} (inserts : Inserts work record)
      (identified : allZero record.transferId = false)
      (fresh : bridge.find record.transferId = none)
      (room : bridge.records.length + bridge.pendingStarts < maximumTransferRecords) :
      Mutation bridge work (bridge.insert record) ((bridge.insert record).payload record .upserted)
  | amended {record record' : Record} (found : bridge.find record.transferId = some record)
      (amends : Amends work record record') :
      Mutation bridge work (bridge.amend record') ((bridge.amend record').payload record' .upserted)
  | removed {record : Record} (found : bridge.find record.transferId = some record)
      (offered : record.state = .offered) :
      Mutation bridge work (bridge.remove record) ((bridge.remove record).payload record .removed)

/-- The place that `Send` has reserved is given up. -/
def unreserve (bridge : TransferBridge) (work : Work) : TransferBridge :=
  match work with
  | .send _ => { bridge with pendingStarts := bridge.pendingStarts - 1 }
  | _ => bridge

/-- How the section of a piece of work can end. -/
inductive Performed (bridge : TransferBridge) (work : Work) : TransferBridge → Ending → Prop
  | returns (outcome : Outcome) : Performed bridge work (bridge.unreserve work) (.returns outcome)
  | undoes {result : TransferStartResult} (send : work = .send result) :
      Performed bridge work (bridge.unreserve work) (.undoes result.transferId)
  | publishes {after : TransferBridge} {event : EventPayload} {reply : Reply}
      (opened : bridge.updatesOpen = true)
      (mutation : Mutation (bridge.unreserve work) work after event) :
      Performed bridge work after (.publishes event reply)

variable {record : Record} {canonical : Bytes → Bool}

theorem offeredOnly_eq_none (h : offeredOnly (some record) = none) : record.state = .offered := by
  by_contra hne
  simp [offeredOnly, hne] at h

theorem activeOnly_eq_none (h : activeOnly (some record) = none) :
    (record.state ≠ .offered ∧ record.state.terminal = false) ∧ record.state ≠ .cancelling := by
  simp only [activeOnly] at h
  split at h
  · cases h
  rename_i hlive
  split at h
  · cases h
  next hfresh => exact ⟨by simpa using hlive, hfresh⟩

theorem finishSend_performed {result : TransferStartResult}
    (hbounded : bridge.records.length + bridge.pendingStarts ≤ maximumTransferRecords)
    (hreserved : 1 ≤ bridge.pendingStarts) :
    Performed bridge (.send result) (finishSend canonical result bridge).1
      (finishSend canonical result bridge).2 := by
  unfold finishSend
  dsimp only
  split
  · exact .returns _
  rename_i hopen
  split
  · exact .returns _
  split
  · exact .undoes rfl
  rename_i hvalid
  simp only [not_or, Bool.not_eq_true, Option.isSome_eq_false_iff,
    Option.isNone_iff_eq_none] at hvalid
  obtain ⟨hid, -, -, hfresh, hroom⟩ := hvalid
  refine .publishes (by simpa using hopen) (.inserted (.started result) hid hfresh ?_)
  simp only [unreserve]
  omega

theorem finishCommand_performed (command : Command) (transferId : Bytes) :
    Performed bridge (.command command transferId) (finishCommand command transferId bridge).1
      (finishCommand command transferId bridge).2 := by
  unfold finishCommand
  split
  · exact .returns _
  · exact .returns _
  rename_i record hends hfind
  obtain rfl := (mem_of_lookup hfind).2
  unfold commandEnds at hends
  split at hends
  · cases hends
  rename_i hopen
  have hopened : bridge.updatesOpen = true := by simpa using hopen
  rw [hfind] at hends
  cases command with
  | accept => exact .publishes hopened (.amended hfind (.accepted (offeredOnly_eq_none hends)))
  | reject => exact .publishes hopened (.removed hfind (offeredOnly_eq_none hends))
  | cancel =>
    obtain ⟨hlive, hfresh⟩ := activeOnly_eq_none hends
    exact .publishes hopened (.amended hfind (.cancelled hlive hfresh))

theorem applyIncomingOffer_performed {peerLabel : Bytes} {offer : IncomingOffer}
    (hchecked : refusesOffer canonical peerLabel offer = false) :
    Performed bridge (.offer peerLabel offer) (applyIncomingOffer peerLabel offer bridge).1
      (applyIncomingOffer peerLabel offer bridge).2 := by
  unfold applyIncomingOffer
  split
  · exact .returns _
  rename_i hopen
  split
  · exact .returns _
  rename_i hfresh
  split
  · exact .returns _
  rename_i hroom
  simp only [refusesOffer, Bool.or_eq_false_iff] at hchecked
  exact .publishes (by simpa using hopen)
    (.inserted (.offered peerLabel offer) hchecked.1.1 hfresh (Nat.lt_of_not_le hroom))

theorem apply_performed (transferId : Bytes) (update : TransferUpdate) (transferredBytes : Nat) :
    Performed bridge (.apply transferId update transferredBytes)
      (apply transferId update transferredBytes bridge).1
      (apply transferId update transferredBytes bridge).2 := by
  unfold apply
  split
  · exact .returns _
  rename_i hopen
  split
  · exact .returns _
  rename_i record hfind
  obtain rfl := (mem_of_lookup hfind).2
  split
  · exact .returns _
  rename_i haccepted
  simp only [Bool.not_eq_true, Bool.or_eq_false_iff] at haccepted
  obtain ⟨⟨hcount, hstate⟩, -⟩ := haccepted
  exact .publishes (by simpa using hopen) (.amended hfind (.applied hcount hstate))

end TransferBridge

/-- An offer has passed its check before it waits for the bridge. -/
def Work.Checked (canonical : Bytes → Bool) : Work → Prop
  | .offer peerLabel received => TransferBridge.refusesOffer canonical peerLabel received = false
  | _ => True

/-- A place for the record of a started transfer has been reserved. -/
def Work.reserves : Work → Bool
  | .send _ => true
  | _ => false

namespace TransferBridge

variable {bridge bridge' : TransferBridge} {work : Work} {event : EventPayload}

theorem perform_performed {canonical : Bytes → Bool} (hchecked : work.Checked canonical)
    (hbounded : bridge.records.length + bridge.pendingStarts ≤ maximumTransferRecords)
    (hreserved : work.reserves = true → 1 ≤ bridge.pendingStarts) :
    Performed bridge work (work.perform canonical bridge).1
      (work.perform canonical bridge).2 := by
  cases work with
  | send result => exact finishSend_performed hbounded (hreserved rfl)
  | command command transferId => exact finishCommand_performed command transferId
  | offer peerLabel received => exact applyIncomingOffer_performed hchecked
  | apply transferId update transferredBytes =>
    exact apply_performed transferId update transferredBytes

/-! ### The change of one record -/

section Amending

variable {record record' : Record}

theorem Inserts.sound (h : Inserts work record) : record.Sound := by
  cases h with
  | started | offered => exact ⟨Nat.zero_le _, nofun, fun _ => rfl⟩

theorem Amends.transferId (h : Amends work record record') :
    record'.transferId = record.transferId := by
  cases h <;> rfl

/-- Only a record that is not in a terminal state is changed. -/
theorem Amends.live (h : Amends work record record') : record.state.terminal = false := by
  cases h with
  | accepted offered => rw [offered]; rfl
  | cancelled live fresh => exact live.2
  | applied count state =>
    simp only [refusesCount, Bool.or_eq_false_iff] at count
    exact count.1.1.2

theorem Amends.grows (h : Amends work record record') :
    record.transferredBytes ≤ record'.transferredBytes := by
  cases h with
  | accepted | cancelled => exact le_rfl
  | applied count state =>
    simp only [refusesCount, Bool.or_eq_false_iff, decide_eq_false_iff_not] at count
    exact Nat.le_of_not_lt count.1.2

theorem Amends.sound (h : Amends work record record') (hsound : record.Sound) :
    record'.Sound := by
  cases h with
  | accepted | cancelled => exact ⟨hsound.within, by simp, by simp⟩
  | @applied _ update transferredBytes count state =>
    simp only [refusesCount, Bool.or_eq_false_iff, decide_eq_false_iff_not] at count
    simp only [refusesState, Bool.or_eq_false_iff, decide_eq_false_iff_not] at state
    refine ⟨Nat.le_of_not_lt count.2, fun hcomplete => ?_, fun hoffered => ?_⟩
    · have hcount := state.1.1.2
      simp only [updatedRecord] at hcomplete
      simpa [updatedRecord, hcomplete] using hcount
    · exact absurd hoffered state.1.1.1

end Amending

variable {record record' : Record}

theorem find_insert (hfresh : bridge.find record.transferId = none) (transferId : Bytes) :
    (bridge.insert record).find transferId =
      if transferId = record.transferId then some record else bridge.find transferId :=
  lookup_append_of_fresh hfresh rfl transferId

theorem find_amend (hfind : bridge.find record.transferId = some record)
    (hsame : record'.transferId = record.transferId) (transferId : Bytes) :
    (bridge.amend record').find transferId =
      if transferId = record.transferId then some record' else bridge.find transferId := by
  have hamended : (bridge.amend record').find transferId =
      if transferId = record'.transferId then (bridge.find record'.transferId).map fun _ => record'
      else bridge.find transferId :=
    lookup_modifyFirst (fun _ => record') (fun _ _ => rfl) transferId
  rw [hamended, hsame, hfind, Option.map_some]

theorem find_remove (hdistinct : (bridge.records.map Record.transferId).Nodup) (record : Record)
    (transferId : Bytes) :
    (bridge.remove record).find transferId =
      if transferId = record.transferId then none else bridge.find transferId :=
  lookup_eraseP hdistinct record.transferId transferId

/-- The event of a change says what the change has done. -/
theorem Mutation.told (hdistinct : (bridge.records.map Record.transferId).Nodup)
    (h : Mutation bridge work bridge' event) :
    bridge'.find = KeyedLog.apply bridge.find event.told := by
  funext transferId
  cases h with
  | inserted inserts identified fresh room =>
    rw [find_insert fresh]
    exact (Function.update_apply ..).symm
  | amended found amends =>
    rw [find_amend found amends.transferId, ← amends.transferId]
    exact (Function.update_apply ..).symm
  | removed found offered =>
    rw [find_remove hdistinct]
    exact (Function.update_apply ..).symm

theorem Mutation.same (h : Mutation bridge work bridge' event) :
    bridge'.pendingStarts = bridge.pendingStarts ∧ bridge'.updatesOpen = bridge.updatesOpen := by
  cases h <;> exact ⟨rfl, rfl⟩

theorem Lawful.mutation (h : bridge.Lawful) (hmutation : Mutation bridge work bridge' event) :
    bridge'.Lawful := by
  cases hmutation with
  | @inserted record inserts identified fresh room =>
    have hnew : ∀ {P : Record → Prop}, (∀ other ∈ bridge.records, P other) → P record →
        ∀ other ∈ bridge.records ++ [record], P other := by
      intro P hold hrecord other hother
      rcases List.mem_append.mp hother with hmem | hmem
      · exact hold other hmem
      · exact List.mem_singleton.mp hmem ▸ hrecord
    refine ⟨hnew h.identified identified, ?_, ?_, hnew h.sound inserts.sound⟩
    · exact nodup_append_of_fresh h.distinct fresh
    simp only [insert, List.length_append, List.length_singleton]
    omega
  | @amended record record' found amends =>
    have hmem := (mem_of_lookup found).1
    have hkeys : (bridge.amend record').records.map Record.transferId =
        bridge.records.map Record.transferId := by
      refine map_modifyFirst_of_mem fun other _ htest => ?_
      simpa using (of_decide_eq_true htest).symm
    have hall : ∀ {P : Record → Prop}, (∀ other ∈ bridge.records, P other) → P record' →
        ∀ other ∈ (bridge.amend record').records, P other := by
      intro P hold hrecord other hother
      rcases mem_of_mem_modifyFirst hother with hmem | ⟨_, _, _, rfl⟩
      · exact hold other hmem
      · exact hrecord
    refine ⟨hall h.identified (amends.transferId ▸ h.identified record hmem), ?_, ?_,
      hall h.sound (amends.sound (h.sound record hmem))⟩
    · rw [hkeys]
      exact h.distinct
    simp only [amend, length_modifyFirst]
    exact h.bounded
  | @removed record found offered =>
    have hsublist : (bridge.remove record).records.Sublist bridge.records :=
      List.eraseP_sublist
    refine ⟨fun other hother => h.identified other (hsublist.subset hother),
      (hsublist.map _).nodup h.distinct, ?_,
      fun other hother => h.sound other (hsublist.subset hother)⟩
    have hlength := hsublist.length_le
    have hbounded := h.bounded
    simp only [remove] at hlength ⊢
    omega

theorem Mutation.follows (h : bridge.Lawful) (hmutation : Mutation bridge work bridge' event) :
    Follows bridge bridge' := by
  intro transferId record hfind
  cases hmutation with
  | @inserted new inserts identified fresh room =>
    have hother : transferId ≠ new.transferId := by
      rintro rfl
      rw [fresh] at hfind
      cases hfind
    rw [find_insert fresh, if_neg hother]
    exact Follows.refl bridge transferId record hfind
  | @amended old changed found amends =>
    rw [find_amend found amends.transferId]
    split
    next heq =>
      rw [heq, found] at hfind
      obtain rfl := Option.some.inj hfind
      refine ⟨fun hterminal => ?_, fun later hlater => ?_, fun hnone => ?_⟩
      · rw [amends.live] at hterminal
        cases hterminal
      · rw [← Option.some.inj hlater]
        exact amends.grows
      · cases hnone
    · exact Follows.refl bridge transferId record hfind
  | @removed old found offered =>
    rw [find_remove h.distinct]
    split
    next heq =>
      rw [heq, found] at hfind
      obtain rfl := Option.some.inj hfind
      refine ⟨fun hterminal => ?_, fun later hlater => ?_, fun _ => ?_⟩
      · rw [offered] at hterminal
        cases hterminal
      · cases hlater
      · exact (h.sound old (mem_of_lookup found).1).untouched offered
    · exact Follows.refl bridge transferId record hfind

/-! ### The end of the bridge -/

/-- One event for each change, with the revision that the change has led to. -/
def Numbered : Nat → List EventPayload → Nat → Prop
  | revision, [], last => last = revision
  | revision, event :: rest, last =>
    event.snapshotRevision = nextRevision revision ∧ Numbered (nextRevision revision) rest last

theorem numbered_abandonAll (revision : Nat) (records : List Record) :
    Numbered revision (abandonAll revision records).2 (abandonAll revision records).1 := by
  induction records generalizing revision with
  | nil => rfl
  | cons record rest ih =>
    unfold abandonAll
    split
    · exact ih revision
    refine ⟨?_, ih (nextRevision revision)⟩
    unfold abandonEvent
    split <;> rfl

theorem abandoned_transferId (h : abandoned record = some record') :
    record'.transferId = record.transferId := by
  unfold abandoned at h
  split at h
  · cases h
  · split at h <;> cases h <;> rfl

theorem abandoned_of_terminal (h : record.state.terminal = true) :
    abandoned record = some record := by
  have hlate : record.state ≠ .offered := by
    intro heq
    rw [heq] at h
    cases h
  rw [abandoned, if_neg hlate, if_pos h]

/-- The event for an abandoned record says what has become of it. -/
theorem apply_abandonEvent (view : Bytes → Option Record) (record : Record) (revision : Nat) :
    KeyedLog.apply view (abandonEvent record revision).told =
      Function.update view record.transferId (abandoned record) := by
  unfold abandonEvent
  split
  next habandoned =>
    rw [habandoned]
    rfl
  rename_i record' habandoned
  rw [habandoned, ← abandoned_transferId habandoned]
  rfl

/-- The events of the loop tell what becomes of each record in the list. -/
theorem run_abandonAll {records : List Record} (hdistinct : (records.map Record.transferId).Nodup)
    (revision : Nat) {view : Bytes → Option Record}
    (hview : ∀ record ∈ records, view record.transferId = some record) :
    Runs.run KeyedLog.apply view ((abandonAll revision records).2.map EventPayload.told) =
      fun transferId => (lookup Record.transferId records transferId).elim (view transferId)
        abandoned := by
  induction records generalizing revision view with
  | nil => rfl
  | cons record rest ih =>
    rw [List.map_cons, List.nodup_cons] at hdistinct
    have hfresh : lookup Record.transferId rest record.transferId = none := by
      rw [lookup_eq_none_iff]
      intro other hother hsame
      exact hdistinct.1 (hsame ▸ List.mem_map_of_mem hother)
    have hlookup : ∀ transferId, lookup Record.transferId (record :: rest) transferId =
        if record.transferId = transferId then some record
        else lookup Record.transferId rest transferId := by
      intro transferId
      by_cases hsame : record.transferId = transferId <;>
        simp [lookup, hsame]
    unfold abandonAll
    split
    next hterminal =>
      rw [ih hdistinct.2 revision fun other hother => hview other (List.mem_cons_of_mem _ hother)]
      funext transferId
      rw [hlookup]
      split
      next heq =>
        subst heq
        rw [hfresh]
        exact (hview record List.mem_cons_self).trans (abandoned_of_terminal hterminal).symm
      · rfl
    · rw [List.map_cons, Runs.run_cons, apply_abandonEvent, ih hdistinct.2]
      · funext transferId
        rw [hlookup]
        split
        next heq =>
          subst heq
          rw [hfresh]
          exact Function.update_self ..
        next hne => rw [Function.update_of_ne (Ne.symm hne)]
      intro other hother
      have hne : other.transferId ≠ record.transferId := fun hsame =>
        hdistinct.1 (hsame ▸ List.mem_map_of_mem hother)
      rw [Function.update_of_ne hne]
      exact hview other (List.mem_cons_of_mem _ hother)

theorem find_abandon (hdistinct : (bridge.records.map Record.transferId).Nodup)
    (transferId : Bytes) :
    bridge.abandon.1.find transferId = (bridge.find transferId).bind abandoned :=
  lookup_filterMap hdistinct (fun _ _ => abandoned_transferId) transferId

theorem Lawful.abandon (h : bridge.Lawful) : bridge.abandon.1.Lawful := by
  have hback : ∀ record ∈ bridge.abandon.1.records,
      ∃ old ∈ bridge.records, abandoned old = some record := fun record hrecord =>
    List.mem_filterMap.mp hrecord
  refine ⟨fun record hrecord => ?_, ?_, ?_, fun record hrecord => ?_⟩
  · obtain ⟨old, hold, habandoned⟩ := hback record hrecord
    rw [abandoned_transferId habandoned]
    exact h.identified old hold
  · exact (map_filterMap_sublist fun _ _ => abandoned_transferId).nodup h.distinct
  · have hlength : bridge.abandon.1.records.length ≤ bridge.records.length :=
      List.length_filterMap_le ..
    exact (Nat.add_le_add_right hlength _).trans h.bounded
  obtain ⟨old, hold, habandoned⟩ := hback record hrecord
  have hsound := h.sound old hold
  unfold abandoned at habandoned
  split at habandoned
  · cases habandoned
  split at habandoned
  · exact Option.some.inj habandoned ▸ hsound
  rw [← Option.some.inj habandoned]
  exact ⟨hsound.within, by simp, by simp⟩

/-! ### A section as a whole -/

/-- The records have gone from one bridge to the other by changes that the events tell. -/
structure Advances (bridge bridge' : TransferBridge) (events : List EventPayload) : Prop where
  told : bridge'.find = Runs.run KeyedLog.apply bridge.find (events.map EventPayload.told)
  numbered : Numbered bridge.revision events bridge'.revision
  follows : Follows bridge bridge'

theorem Advances.quiet (hrecords : bridge'.records = bridge.records)
    (hrevision : bridge'.revision = bridge.revision) : Advances bridge bridge' [] := by
  have hfind : bridge'.find = bridge.find := by
    unfold find
    rw [hrecords]
  exact ⟨hfind, hrevision, .of_find hfind⟩

theorem Advances.mutation (h : bridge.Lawful) (hmutation : Mutation bridge work bridge' event) :
    Advances bridge bridge' [event] := by
  obtain ⟨hnext, hcarried⟩ : bridge'.revision = nextRevision bridge.revision ∧
      event.snapshotRevision = bridge'.revision := by
    cases hmutation <;> exact ⟨rfl, rfl⟩
  exact ⟨hmutation.told h.distinct, ⟨hcarried.trans hnext, hnext⟩, hmutation.follows h⟩

theorem Advances.abandon (h : bridge.Lawful) :
    Advances bridge bridge.abandon.1 bridge.abandon.2 := by
  have hfound : ∀ record ∈ bridge.records, bridge.find record.transferId = some record :=
    fun record hrecord => (lookup_eq_some_iff h.distinct).mpr ⟨hrecord, rfl⟩
  refine ⟨?_, numbered_abandonAll _ _, fun transferId record hfind => ?_⟩
  · have hrun := run_abandonAll h.distinct bridge.revision hfound
    refine Eq.trans (funext fun transferId => ?_) hrun.symm
    rw [find_abandon h.distinct]
    unfold find
    cases lookup Record.transferId bridge.records transferId <;> rfl
  rw [find_abandon h.distinct, hfind, Option.bind_some]
  refine ⟨abandoned_of_terminal, fun later hlater => ?_, fun hnone => ?_⟩
  · unfold abandoned at hlater
    split at hlater
    · cases hlater
    · split at hlater <;> cases hlater <;> exact le_rfl
  unfold abandoned at hnone
  split at hnone
  next hoffered => exact (h.sound record (mem_of_lookup hfind).1).untouched hoffered
  · split at hnone <;> cases hnone

end TransferBridge

end XnnTransfer.Bridge
