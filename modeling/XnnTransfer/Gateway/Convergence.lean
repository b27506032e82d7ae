import XnnTransfer.Bridge.EventQueue
import XnnTransfer.Bridge.TransferRecords
import XnnTransfer.Gateway.TransferGateway

/-!
# The gateway agrees with the native records

At its revision the gateway holds what the native records were at that revision. It
reaches the newest one because every enqueued change keeps a promise alive: an event that
tells it, a flagged event that makes the engine read a snapshot, or a snapshot under way.
A queue that drops an event flags the one that takes its place, so the promise is handed
on. The order of the two streams does not matter.
-/

namespace XnnTransfer.Gateway

open Protocol Bridge FirstMatch

/-! ### The map of the gateway -/

/-- The records of a list, by their IDs. -/
def viewOf (records : List EventPayload) (id : Bytes) : Option Record :=
  (lookup (fun record => record.transferId) records id).map fun record => record.toRecord

def Distinct (records : List EventPayload) : Prop :=
  (records.map fun record => record.transferId).Nodup

variable {records : List EventPayload}

theorem lookup_eq_none_of_any {id : Bytes}
    (h : ¬(records.any fun other => other.transferId = id) = true) :
    lookup (fun record => record.transferId) records id = none := by
  refine lookup_eq_none_iff.mpr fun other hother hsame => h ?_
  exact List.any_eq_true.mpr ⟨other, hother, decide_eq_true hsame⟩

theorem lookup_putRecord (records : List EventPayload) (record : EventPayload) (id : Bytes) :
    lookup (fun record => record.transferId) (putRecord records record) id =
      if id = record.transferId then some record
      else lookup (fun record => record.transferId) records id := by
  unfold putRecord
  split
  next hpresent =>
    rw [lookup_modifyFirst (fun _ => record) (fun _ _ => rfl)]
    refine if_congr Iff.rfl ?_ rfl
    cases hfind : lookup (fun record => record.transferId) records record.transferId with
    | some old => rfl
    | none =>
      obtain ⟨other, hother, hsame⟩ := List.any_eq_true.mp hpresent
      exact absurd (of_decide_eq_true hsame) (lookup_eq_none_iff.mp hfind other hother)
  next hfresh => exact lookup_append_of_fresh (lookup_eq_none_of_any hfresh) rfl id

theorem Distinct.putRecord (h : Distinct records) (record : EventPayload) :
    Distinct (putRecord records record) := by
  unfold Gateway.putRecord
  split
  next =>
    have hkeys : (modifyFirst (fun other => other.transferId = record.transferId)
        (fun _ => record) records).map (fun record => record.transferId) =
        records.map fun record => record.transferId :=
      map_modifyFirst_of_mem fun other _ hsame => (of_decide_eq_true hsame).symm
    rw [Distinct, hkeys]
    exact h
  next hfresh => exact nodup_append_of_fresh h (lookup_eq_none_of_any hfresh)

/-- A map that is filled from a list of different IDs holds that list. -/
theorem foldl_putRecord {filled : List EventPayload} (h : Distinct (filled ++ records)) :
    records.foldl putRecord filled = filled ++ records := by
  induction records generalizing filled with
  | nil => simp
  | cons record rest ih =>
    have hfresh : ¬(filled.any fun other => other.transferId = record.transferId) = true := by
      intro hany
      obtain ⟨other, hother, hsame⟩ := List.any_eq_true.mp hany
      rw [Distinct, List.map_append, List.map_cons] at h
      exact (List.nodup_append.mp h).2.2 _ (List.mem_map_of_mem hother) _ List.mem_cons_self
        (of_decide_eq_true hsame)
    rw [List.append_cons] at h ⊢
    rw [List.foldl_cons, Gateway.putRecord, if_neg hfresh]
    exact ih h

namespace TransferGateway

variable {gateway : TransferGateway}

def view (gateway : TransferGateway) : Bytes → Option Record := viewOf gateway.records

theorem applyRecord_revision (gateway : TransferGateway) (record : EventPayload) :
    (gateway.applyRecord record).1.revision = gateway.revision := by
  unfold applyRecord
  split <;> rfl

theorem applyRecord_distinct (h : Distinct gateway.records) (record : EventPayload) :
    Distinct (gateway.applyRecord record).1.records := by
  unfold applyRecord
  split
  · exact (List.Sublist.map _ List.eraseP_sublist).nodup h
  · exact h.putRecord record

/-- An event does to the map of the gateway what it tells. -/
theorem applyRecord_view (h : Distinct gateway.records) (record : EventPayload) :
    (gateway.applyRecord record).1.view = KeyedLog.apply gateway.view record.told := by
  funext id
  unfold applyRecord EventPayload.told
  cases record.change with
  | removed =>
    rw [if_pos rfl, KeyedLog.apply, Function.update_apply]
    simp only [view, viewOf, lookup_eraseP h]
    exact apply_ite (Option.map _) ..
  | upserted =>
    rw [if_neg (by decide), KeyedLog.apply, Function.update_apply]
    simp only [view, viewOf, lookup_putRecord]
    exact apply_ite (Option.map _) ..

variable {snapshot : NativeTransferSnapshot}

theorem reconcileSnapshot_of_older (h : snapshot.revision < gateway.revision) :
    (gateway.reconcileSnapshot snapshot).1 = gateway := by
  rw [reconcileSnapshot, if_pos h]

theorem reconcileSnapshot_of_newer (hdistinct : Distinct snapshot.records)
    (h : gateway.revision ≤ snapshot.revision) :
    (gateway.reconcileSnapshot snapshot).1 = ⟨snapshot.records, snapshot.revision⟩ := by
  have hfilled : snapshot.records.foldl putRecord [] = snapshot.records :=
    foldl_putRecord hdistinct
  rw [reconcileSnapshot, if_neg (Nat.not_lt.mpr h)]
  simp only [hfilled]

end TransferGateway

/-! ### What is true of a history -/

section Histories

variable {history : List EventPayload} {view : Bytes → Option Record} {revision : Nat}

/-- Each event carries the revision that it led to. -/
def Numbered (history : List EventPayload) : Prop :=
  ∀ index event, history[index]? = some event → event.snapshotRevision = index + 2

/-- The map is what the native records were at the revision. -/
structure TrueAt (history : List EventPayload) (view : Bytes → Option Record) (revision : Nat) :
    Prop where
  pos : 1 ≤ revision
  le : revision ≤ history.length + 1
  told : view = recordsTold (history.take (revision - 1))

theorem Numbered.concat (h : Numbered history) {event : EventPayload}
    (hevent : event.snapshotRevision = history.length + 2) : Numbered (history ++ [event]) := by
  intro index other hother
  rcases Nat.lt_or_ge index history.length with hlt | hge
  · rw [List.getElem?_append_left hlt] at hother
    exact h index other hother
  rw [List.getElem?_append_right hge, List.getElem?_singleton] at hother
  split at hother
  · obtain rfl := Option.some.inj hother
    omega
  · cases hother

theorem Numbered.le (h : Numbered history) {event : EventPayload} (hevent : event ∈ history) :
    event.snapshotRevision ≤ history.length + 1 := by
  obtain ⟨index, hindex⟩ := List.mem_iff_getElem?.mp hevent
  have hlt := (List.getElem?_eq_some_iff.mp hindex).1
  have hrevision := h index event hindex
  omega

theorem TrueAt.append (h : TrueAt history view revision) (more : List EventPayload) :
    TrueAt (history ++ more) view revision := by
  have hpos := h.pos
  have hle := h.le
  refine ⟨hpos, ?_, ?_⟩
  · rw [List.length_append]
    omega
  rw [List.take_append_of_le_length (by omega)]
  exact h.told

theorem recordsTold_concat (events : List EventPayload) (event : EventPayload) :
    recordsTold (events ++ [event]) = KeyedLog.apply (recordsTold events) event.told := by
  simp [recordsTold, KeyedLog.view, Runs.run]

/-- The next event leads to the next revision. -/
theorem TrueAt.next (h : TrueAt history view revision) (hnumbered : Numbered history)
    {event : EventPayload} (hevent : event ∈ history)
    (hnext : event.snapshotRevision = revision + 1) :
    TrueAt history (KeyedLog.apply view event.told) event.snapshotRevision := by
  obtain ⟨index, hindex⟩ := List.mem_iff_getElem?.mp hevent
  have hrevision := hnumbered index event hindex
  have hsame : revision - 1 = index := by omega
  refine ⟨by omega, hnumbered.le hevent, ?_⟩
  have htake : history.take (event.snapshotRevision - 1) = history.take index ++ [event] := by
    rw [show event.snapshotRevision - 1 = index + 1 by omega, List.take_add_one, hindex]
    rfl
  rw [htake, recordsTold_concat, h.told, hsame]

/-- A snapshot shows the native records as they were at its revision. -/
structure NativeTransferSnapshot.Truthful (history : List EventPayload)
    (snapshot : NativeTransferSnapshot) : Prop where
  distinct : Distinct snapshot.records
  trueAt : TrueAt history (viewOf snapshot.records) snapshot.revision

/-- What the gateway holds is true. -/
structure TransferGateway.Truthful (history : List EventPayload) (gateway : TransferGateway) :
    Prop where
  distinct : Distinct gateway.records
  trueAt : TrueAt history gateway.view gateway.revision

namespace TransferGateway

variable {gateway : TransferGateway} {snapshot : NativeTransferSnapshot}

theorem Truthful.reconcileSnapshot (h : gateway.Truthful history)
    (hsnapshot : snapshot.Truthful history) :
    (gateway.reconcileSnapshot snapshot).1.Truthful history := by
  by_cases holder : snapshot.revision < gateway.revision
  · rw [reconcileSnapshot_of_older holder]
    exact h
  rw [reconcileSnapshot_of_newer hsnapshot.distinct (Nat.not_lt.mp holder)]
  exact ⟨hsnapshot.distinct, hsnapshot.trueAt⟩

/-- Afterwards the gateway is as new as it was, and as new as the snapshot. -/
theorem reconcileSnapshot_revision (gateway : TransferGateway)
    (hsnapshot : Distinct snapshot.records) :
    gateway.revision ≤ (gateway.reconcileSnapshot snapshot).1.revision ∧
      snapshot.revision ≤ (gateway.reconcileSnapshot snapshot).1.revision := by
  by_cases holder : snapshot.revision < gateway.revision
  · rw [reconcileSnapshot_of_older holder]
    exact ⟨le_rfl, holder.le⟩
  rw [reconcileSnapshot_of_newer hsnapshot (Nat.not_lt.mp holder)]
  exact ⟨Nat.not_lt.mp holder, le_rfl⟩

/-- What can become of an event that is delivered. -/
inductive Delivery (gateway : TransferGateway) (event : NativeTransferEvent)
    (current : NativeTransferSnapshot) : TransferGateway → Prop
  | flagged (flagged : event.eventsDroppedBefore = true) :
      Delivery gateway event current gateway
  | stale (known : event.record.snapshotRevision ≤ gateway.revision) :
      Delivery gateway event current gateway
  | gap (newer : gateway.revision < event.record.snapshotRevision) :
      Delivery gateway event current (gateway.reconcileSnapshot current).1
  | next (next : gateway.revision = 0 ∨ event.record.snapshotRevision = gateway.revision + 1) :
      Delivery gateway event current
        ({ gateway with revision := event.record.snapshotRevision }.applyRecord event.record).1

theorem onTransferEvent_delivery (gateway : TransferGateway) (event : NativeTransferEvent)
    (current : NativeTransferSnapshot) :
    Delivery gateway event current (gateway.onTransferEvent event current).1 := by
  unfold onTransferEvent
  split
  next hflagged => exact .flagged hflagged
  next =>
    split
    next hknown => exact .stale hknown
    rename_i hnewer
    split
    next => exact .gap (Nat.not_le.mp hnewer)
    rename_i hnext
    refine .next ?_
    by_contra hneither
    rw [not_or] at hneither
    exact hnext hneither

variable {event : NativeTransferEvent}

theorem Truthful.onTransferEvent (h : gateway.Truthful history) (hnumbered : Numbered history)
    (hevent : event.record ∈ history) (hcurrent : snapshot.Truthful history) :
    (gateway.onTransferEvent event snapshot).1.Truthful history := by
  have hdelivery := gateway.onTransferEvent_delivery event snapshot
  generalize (gateway.onTransferEvent event snapshot).1 = gateway' at hdelivery ⊢
  cases hdelivery with
  | flagged | stale => exact h
  | gap => exact h.reconcileSnapshot hcurrent
  | next hnext =>
    have hpos := h.trueAt.pos
    have hsucc : event.record.snapshotRevision = gateway.revision + 1 := by omega
    have hdistinct : Distinct
        { gateway with revision := event.record.snapshotRevision : TransferGateway }.records :=
      h.distinct
    refine ⟨applyRecord_distinct hdistinct _, ?_⟩
    rw [applyRecord_view hdistinct, applyRecord_revision]
    exact h.trueAt.next hnumbered hevent hsucc

/-- Afterwards the gateway is as new as it was and, unless the event is flagged, as new as
the event. -/
theorem onTransferEvent_revision (gateway : TransferGateway) (hdistinct : Distinct snapshot.records)
    (hcurrent : event.record.snapshotRevision ≤ snapshot.revision) :
    gateway.revision ≤ (gateway.onTransferEvent event snapshot).1.revision ∧
      (event.eventsDroppedBefore = false →
        event.record.snapshotRevision ≤ (gateway.onTransferEvent event snapshot).1.revision) := by
  have hdelivery := gateway.onTransferEvent_delivery event snapshot
  generalize (gateway.onTransferEvent event snapshot).1 = gateway' at hdelivery ⊢
  cases hdelivery with
  | flagged hflagged =>
    refine ⟨le_rfl, fun hplain => ?_⟩
    rw [hflagged] at hplain
    cases hplain
  | stale hknown => exact ⟨le_rfl, fun _ => hknown⟩
  | gap =>
    obtain ⟨hold, hnew⟩ := gateway.reconcileSnapshot_revision hdistinct
    exact ⟨hold, fun _ => hcurrent.trans hnew⟩
  | next hnext =>
    rw [applyRecord_revision]
    exact ⟨by dsimp only; omega, fun _ => le_rfl⟩

end TransferGateway

end Histories

namespace Relay

variable {history : List EventPayload} {relay relay' : Relay} {revision : Nat}

/-! ### The native side -/

/-- A change of the native records with the event that tells it. -/
structure Mutates (native : TransferBridge) (result : TransferBridge × EventPayload) : Prop where
  distinct : (result.1.records.map Record.transferId).Nodup
  told : result.1.find = KeyedLog.apply native.find result.2.told
  revision : result.1.revision = nextRevision native.revision
  carried : result.2.snapshotRevision = result.1.revision

variable {native : TransferBridge} {event : QueuedEvent (Option EventPayload)}
  {channel : EventChannel (Option EventPayload) Unit Unit} {rest : List NativeTransferEvent}
  {snapshot : NativeTransferSnapshot}

theorem upserted_mutates (h : (native.records.map Record.transferId).Nodup) (record : Record) :
    Mutates native (upserted native record) := by
  unfold upserted
  cases hfind : native.find record.transferId with
  | none =>
    refine ⟨nodup_append_of_fresh h hfind, funext fun id => ?_, rfl, rfl⟩
    refine (TransferBridge.find_insert hfind id).trans ?_
    exact (Function.update_apply ..).symm
  | some old =>
    obtain ⟨-, hsame⟩ := mem_of_lookup hfind
    have hkeys : ((native.amend record).records.map Record.transferId) =
        native.records.map Record.transferId :=
      map_modifyFirst_of_mem fun other _ hother => (of_decide_eq_true hother).symm
    refine ⟨hkeys ▸ h, funext fun id => ?_, rfl, rfl⟩
    have hamended : (native.amend record).find id =
        if id = old.transferId then some record else native.find id :=
      TransferBridge.find_amend (hsame ▸ hfind) hsame.symm id
    refine hamended.trans ?_
    rw [hsame]
    exact (Function.update_apply ..).symm

theorem removed_mutates (h : (native.records.map Record.transferId).Nodup) (record : Record) :
    Mutates native (removed native record) := by
  refine ⟨(List.Sublist.map _ List.eraseP_sublist).nodup h, funext fun id => ?_, rfl, rfl⟩
  refine (TransferBridge.find_remove h record id).trans ?_
  exact (Function.update_apply ..).symm

theorem viewOf_readSnapshot (native : TransferBridge) :
    viewOf (readSnapshot native).records = native.find := by
  funext id
  have hmap : lookup (fun record => record.transferId) (readSnapshot native).records id =
      (native.find id).map fun record => native.payload record .upserted :=
    lookup_map (fun _ => rfl) id
  rw [viewOf, hmap, Option.map_map]
  exact Option.map_id'

/-! ### What is under way is true -/

/-- What holds of a relay after the native records had a history. -/
structure Faithful (history : List EventPayload) (relay : Relay) : Prop where
  distinct : (relay.native.records.map Record.transferId).Nodup
  told : relay.native.find = recordsTold history
  newest : relay.native.revision = history.length + 1
  numbered : Numbered history
  unsent : relay.unsent <:+ history
  opened : relay.channel.eventsOpen = true
  queued : ∀ event ∈ relay.channel.queue.contents, ∀ record ∈ event.payload, record ∈ history
  streamed : ∀ event ∈ relay.transferEvents, event.record ∈ history
  snapshots : ∀ snapshot ∈ relay.transferSnapshots, snapshot.Truthful history
  gateway : relay.attached = true → relay.gateway.Truthful history
  detached : relay.attached = false →
    relay.gateway = {} ∧ relay.transferEvents = [] ∧ relay.transferSnapshots = []

theorem faithful_initial : Faithful [] {} where
  distinct := List.nodup_nil
  told := rfl
  newest := rfl
  numbered := fun _ _ h => by simp at h
  unsent := List.suffix_rfl
  opened := rfl
  queued := fun _ h => by cases h
  streamed := fun _ h => by cases h
  snapshots := fun _ h => by cases h
  gateway := fun h => by cases h
  detached := fun _ => ⟨rfl, rfl, rfl⟩

theorem Faithful.readSnapshot (h : Faithful history relay) :
    (readSnapshot relay.native).Truthful history := by
  refine ⟨by rw [Distinct, Relay.readSnapshot, List.map_map]; exact h.distinct, ?_⟩
  have hrevision : (Relay.readSnapshot relay.native).revision = history.length + 1 := h.newest
  rw [viewOf_readSnapshot, h.told, hrevision]
  exact ⟨Nat.le_add_left 1 _, le_rfl, by rw [Nat.add_sub_cancel, List.take_length]⟩

theorem send_contents (hopen : relay.channel.eventsOpen = true)
    (event : QueuedEvent (Option EventPayload)) :
    (relay.send event).channel.queue.contents =
      relay.channel.queue.makeRoom.contents ++ [relay.channel.numbered event] := by
  rw [send, (Threads.enqueueLocked_queue relay.channel event () hopen).1, RingBuffer.contents_push]

theorem Faithful.send (h : Faithful history relay)
    (hevent : ∀ record ∈ event.payload, record ∈ history) :
    Faithful history (relay.send event) := by
  refine { h with opened := ?_, queued := ?_ }
  · exact (Threads.enqueueLocked_eventsOpen ..).trans h.opened
  rw [send_contents h.opened]
  intro other hother
  rcases List.mem_append.mp hother with hold | hnew
  · refine h.queued other ?_
    rw [Threads.contents_displaced]
    exact List.mem_append_right _ hold
  rw [List.mem_singleton.mp hnew]
  exact hevent

theorem poll_contents {channel' : EventChannel (Option EventPayload) Unit Unit}
    (h : channel.poll = some (event, channel')) :
    channel.queue.contents = event :: channel'.queue.contents ∧
      channel'.eventsOpen = channel.eventsOpen := by
  unfold EventChannel.poll at h
  split at h
  · cases h
  rename_i hfilled
  cases h
  exact ⟨channel.queue.contents_advance hfilled, rfl⟩

theorem mem_polled {streamed : NativeTransferEvent}
    (h : streamed ∈ (relay.polled event).transferEvents) :
    streamed ∈ relay.transferEvents ∨
      (relay.attached = true ∧ event.payload = some streamed.record) := by
  rcases List.mem_append.mp h with hold | hnew
  · exact .inl hold
  split at hnew
  next record hpayload =>
    split at hnew
    next hattached =>
      rw [List.mem_singleton.mp hnew]
      exact .inr ⟨hattached, hpayload⟩
    · cases hnew
  · cases hnew

theorem Faithful.poll (h : Faithful history relay)
    (hpoll : relay.channel.poll = some (event, channel)) :
    Faithful history ({ relay with channel := channel }.polled event) := by
  obtain ⟨hcontents, hopen⟩ := poll_contents hpoll
  have hqueued := h.queued
  rw [hcontents] at hqueued
  refine { h with opened := hopen.trans h.opened, queued := ?_, streamed := ?_, detached := ?_ }
  · exact fun other hother => hqueued other (List.mem_cons_of_mem _ hother)
  · intro streamed hstreamed
    rcases mem_polled hstreamed with hold | ⟨-, hpayload⟩
    · exact h.streamed streamed hold
    · exact hqueued event List.mem_cons_self _ hpayload
  intro hdetached
  obtain ⟨hgateway, hevents, hsnapshots⟩ := h.detached hdetached
  refine ⟨hgateway, List.eq_nil_iff_forall_not_mem.mpr fun streamed hstreamed => ?_, hsnapshots⟩
  rcases mem_polled hstreamed with hold | ⟨hattached, -⟩
  · exact List.eq_nil_iff_forall_not_mem.mp hevents streamed hold
  · exact Bool.false_ne_true (hdetached.symm.trans hattached)

/-- Only a gateway that is attached has anything delivered. -/
theorem Faithful.attached_of_delivery (h : Faithful history relay)
    (hsome : relay.transferEvents ≠ [] ∨ relay.transferSnapshots ≠ []) : relay.attached = true := by
  by_contra hdetached
  obtain ⟨-, hevents, hsnapshots⟩ := h.detached (Bool.eq_false_iff.mpr hdetached)
  exact hsome.elim (absurd hevents) (absurd hsnapshots)

/-! ### The promise -/

/-- The newest revision whose event is enqueued. -/
def sentRevision (relay : Relay) : Nat := relay.native.revision - relay.unsent.length

/-- What makes the gateway reach the revision. -/
inductive Promised (relay : Relay) (revision : Nat) : Prop
  | reached (le : revision ≤ relay.gateway.revision)
  | recovery (recovering : relay.recovering = true)
  | snapshot {snapshot : NativeTransferSnapshot} (mem : snapshot ∈ relay.transferSnapshots)
      (le : revision ≤ snapshot.revision)
  | event {event : NativeTransferEvent} (mem : event ∈ relay.transferEvents)
      (plain : event.eventsDroppedBefore = false) (le : revision ≤ event.record.snapshotRevision)
  | flagged {event : QueuedEvent (Option EventPayload)} (mem : event ∈ relay.channel.queue.contents)
      (flagged : event.eventsDroppedBefore = true)
  | queued {event : QueuedEvent (Option EventPayload)} (mem : event ∈ relay.channel.queue.contents)
      {record : EventPayload} (payload : event.payload = some record)
      (le : revision ≤ record.snapshotRevision)

theorem Promised.mono (h : Promised relay revision)
    (hgateway : relay.gateway.revision ≤ relay'.gateway.revision)
    (hrecovering : relay.recovering = true → relay'.recovering = true)
    (hsnapshots : ∀ snapshot ∈ relay.transferSnapshots, snapshot ∈ relay'.transferSnapshots ∨
      snapshot.revision ≤ relay'.gateway.revision)
    (hevents : ∀ event ∈ relay.transferEvents, event ∈ relay'.transferEvents ∨
      (event.eventsDroppedBefore = false →
        event.record.snapshotRevision ≤ relay'.gateway.revision))
    (hqueue : relay.channel.queue.contents ⊆ relay'.channel.queue.contents) :
    Promised relay' revision := by
  cases h with
  | reached hle => exact .reached (hle.trans hgateway)
  | recovery hon => exact .recovery (hrecovering hon)
  | snapshot hmem hle =>
    rcases hsnapshots _ hmem with hkept | hreached
    · exact .snapshot hkept hle
    · exact .reached (hle.trans hreached)
  | event hmem hplain hle =>
    rcases hevents _ hmem with hkept | hreached
    · exact .event hkept hplain hle
    · exact .reached (hle.trans (hreached hplain))
  | flagged hmem hflagged => exact .flagged (hqueue hmem) hflagged
  | queued hmem hpayload hle => exact .queued (hqueue hmem) hpayload hle

theorem Promised.send (h : Promised relay revision) (hopen : relay.channel.eventsOpen = true)
    (event : QueuedEvent (Option EventPayload)) : Promised (relay.send event) revision := by
  have hcontents := send_contents hopen event
  by_cases hfull : relay.channel.queue.size = eventQueueCapacity
  · -- the promise may have been the event that gives way, but the new one is flagged
    refine .flagged (hcontents ▸ List.mem_append_right _ (List.mem_singleton_self _)) ?_
    simp [EventChannel.numbered, hfull]
  rw [RingBuffer.makeRoom_of_room _ hfull] at hcontents
  refine h.mono le_rfl id (fun _ => .inl) (fun _ => .inl) ?_
  rw [hcontents]
  exact List.subset_append_left _ _

theorem Promised.poll (h : Promised relay revision) (hattached : relay.attached = true)
    (hpoll : relay.channel.poll = some (event, channel)) :
    Promised ({ relay with channel := channel }.polled event) revision := by
  obtain ⟨hcontents, -⟩ := poll_contents hpoll
  cases h with
  | reached hle => exact .reached hle
  | recovery hon => exact .recovery (by rw [polled, hon, Bool.true_or])
  | snapshot hmem hle => exact .snapshot hmem hle
  | event hmem hplain hle => exact .event (List.mem_append_left _ hmem) hplain hle
  | flagged hmem hflagged =>
    rcases List.mem_cons.mp (hcontents ▸ hmem) with rfl | hrest
    · exact .recovery (by rw [polled, hflagged, Bool.or_true])
    · exact .flagged hrest hflagged
  | @queued queued hmem record hpayload hle =>
    rcases List.mem_cons.mp (hcontents ▸ hmem) with rfl | hrest
    · cases hflag : queued.eventsDroppedBefore with
      | true => exact .recovery (by rw [polled, hflag, Bool.or_true])
      | false =>
        refine @Promised.event _ _ ⟨false, record⟩ (List.mem_append_right _ ?_) rfl hle
        simp [hpayload, hattached, hflag]
    · exact .queued hrest hpayload hle

/-- The promise for the events that are enqueued, in a relay where it is due. -/
def Keeps (relay : Relay) : Prop := relay.attached = true → Promised relay relay.sentRevision

theorem Keeps.enqueue (hfaithful : Faithful history relay) {event : EventPayload}
    {rest : List EventPayload} (hunsent : relay.unsent = event :: rest) :
    ({ relay with unsent := rest }.send (eventOf .transferChanged (some event))).Keeps := by
  intro _
  have hsent : { relay with unsent := rest }.sentRevision = event.snapshotRevision := by
    obtain ⟨before, hbefore⟩ := hfaithful.unsent
    rw [hunsent] at hbefore
    have hevent := hfaithful.numbered before.length event (by simp [← hbefore])
    have hnewest := hfaithful.newest
    rw [← hbefore, List.length_append, List.length_cons] at hnewest
    rw [sentRevision, hevent]
    dsimp only
    omega
  have hcontents := @send_contents { relay with unsent := rest } hfaithful.opened
    (eventOf .transferChanged (some event))
  refine .queued (hcontents ▸ List.mem_append_right _ (List.mem_singleton_self _)) ?_ hsent.le
  rfl

/-- A relay in which what is under way is true and the promise is kept. -/
structure Sound (history : List EventPayload) (relay : Relay) : Prop where
  faithful : Faithful history relay
  keeps : relay.Keeps

theorem Sound.mutate {result : TransferBridge × EventPayload} (h : Sound history relay)
    (hmutates : Mutates relay.native result) (hroom : history.length + 1 < maximumRevision) :
    Sound (history ++ [result.2]) (relay.mutate result) := by
  obtain ⟨h, hkeeps⟩ := h
  have hnewest := h.newest
  have hnext : result.1.revision = history.length + 2 := by
    rw [hmutates.revision, hnewest, nextRevision, if_neg (by omega)]
  have hmore : ∀ {record}, record ∈ history → record ∈ history ++ [result.2] :=
    List.mem_append_left _
  refine ⟨⟨hmutates.distinct, ?_, ?_, ?_, ?_, h.opened, ?_, ?_, ?_, ?_, h.detached⟩, ?_⟩
  · rw [recordsTold_concat, ← h.told]
    exact hmutates.told
  · rw [List.length_append]
    exact hnext
  · exact h.numbered.concat (hmutates.carried.trans hnext)
  · obtain ⟨before, hbefore⟩ := h.unsent
    exact ⟨before, by rw [← hbefore, List.append_assoc]; rfl⟩
  · exact fun event hevent record hrecord => hmore (h.queued event hevent record hrecord)
  · exact fun event hevent => hmore (h.streamed event hevent)
  · intro snapshot hsnapshot
    obtain ⟨hdistinct, htrue⟩ := h.snapshots snapshot hsnapshot
    exact ⟨hdistinct, htrue.append _⟩
  · intro hattached
    obtain ⟨hdistinct, htrue⟩ := h.gateway hattached
    exact ⟨hdistinct, htrue.append _⟩
  intro hattached
  have hsent : (relay.mutate result).sentRevision = relay.sentRevision := by
    simp only [sentRevision, Relay.mutate, List.length_append, List.length_singleton, hnext,
      hnewest]
    omega
  rw [hsent]
  exact (hkeeps hattached).mono le_rfl id (fun _ => .inl) (fun _ => .inl) (List.Subset.refl _)

theorem Sound.deliverEvent (h : Sound history relay) {event : NativeTransferEvent}
    (hevents : relay.transferEvents = event :: rest) :
    Sound history
      { relay with
        transferEvents := rest
        gateway := (relay.gateway.onTransferEvent event (Relay.readSnapshot relay.native)).1 } := by
  obtain ⟨h, hkeeps⟩ := h
  have hattached := h.attached_of_delivery (.inl (by simp [hevents]))
  have hread := h.readSnapshot
  have hstreamed := h.streamed
  rw [hevents] at hstreamed
  have hevent := hstreamed event List.mem_cons_self
  have hknown : event.record.snapshotRevision ≤ (Relay.readSnapshot relay.native).revision :=
    (h.numbered.le hevent).trans h.newest.ge
  refine ⟨{ h with streamed := ?_, gateway := fun _ => ?_, detached := fun hfalse => ?_ },
    fun _ => ?_⟩
  · exact fun other hother => hstreamed other (List.mem_cons_of_mem _ hother)
  · exact (h.gateway hattached).onTransferEvent h.numbered hevent hread
  · exact absurd (hfalse.symm.trans hattached) Bool.false_ne_true
  obtain ⟨hold, hnew⟩ := relay.gateway.onTransferEvent_revision hread.distinct hknown
  refine (hkeeps hattached).mono hold id (fun _ => .inl) (fun other hother => ?_)
    (List.Subset.refl _)
  rcases List.mem_cons.mp (hevents ▸ hother) with rfl | hrest
  · exact .inr hnew
  · exact .inl hrest

theorem Sound.deliverSnapshot (h : Sound history relay) {rest : List NativeTransferSnapshot}
    (hsnapshots : relay.transferSnapshots = snapshot :: rest) :
    Sound history
      { relay with
        transferSnapshots := rest
        gateway := (relay.gateway.reconcileSnapshot snapshot).1 } := by
  obtain ⟨h, hkeeps⟩ := h
  have hattached := h.attached_of_delivery (.inr (by simp [hsnapshots]))
  have htruthful := h.snapshots
  rw [hsnapshots] at htruthful
  have hsnapshot := htruthful snapshot List.mem_cons_self
  refine ⟨{ h with snapshots := ?_, gateway := fun _ => ?_, detached := fun hfalse => ?_ },
    fun _ => ?_⟩
  · exact fun other hother => htruthful other (List.mem_cons_of_mem _ hother)
  · exact (h.gateway hattached).reconcileSnapshot hsnapshot
  · exact absurd (hfalse.symm.trans hattached) Bool.false_ne_true
  obtain ⟨hold, hnew⟩ := relay.gateway.reconcileSnapshot_revision hsnapshot.distinct
  refine (hkeeps hattached).mono hold id (fun other hother => ?_) (fun _ => .inl)
    (List.Subset.refl _)
  rcases List.mem_cons.mp (hsnapshots ▸ hother) with rfl | hrest
  · exact .inr hnew
  · exact .inl hrest

theorem Sound.recover (h : Faithful history relay) :
    Sound history
      { relay with
        recovering := false
        transferSnapshots := relay.transferSnapshots ++
          if relay.attached then [Relay.readSnapshot relay.native] else [] } := by
  by_cases hattached : relay.attached = true
  · rw [if_pos hattached]
    refine ⟨{ h with snapshots := ?_, detached := fun hfalse => ?_ }, fun _ => ?_⟩
    · intro snapshot hsnapshot
      rcases List.mem_append.mp hsnapshot with hold | hnew
      · exact h.snapshots snapshot hold
      · exact List.mem_singleton.mp hnew ▸ h.readSnapshot
    · exact absurd (hfalse.symm.trans hattached) Bool.false_ne_true
    exact .snapshot (List.mem_append_right _ (List.mem_singleton_self _)) (Nat.sub_le _ _)
  rw [if_neg hattached, List.append_nil]
  exact ⟨{ h with }, fun hon => absurd hon hattached⟩

theorem Sound.attach (h : Faithful history relay) (hdetached : relay.attached = false) :
    Sound history
      { relay with
        attached := true
        gateway := (relay.gateway.reconcileSnapshot (Relay.readSnapshot relay.native)).1 } := by
  have hread := h.readSnapshot
  rw [(h.detached hdetached).1,
    TransferGateway.reconcileSnapshot_of_newer hread.distinct (Nat.zero_le _)]
  refine ⟨{ h with gateway := fun _ => ?_, detached := fun hfalse => by cases hfalse }, fun _ => ?_⟩
  · exact ⟨hread.distinct, hread.trueAt⟩
  · exact .reached (Nat.sub_le _ _)

/-! ### Whole runs -/

/-- As long as the revision does not wrap, a step keeps what is under way true and the
promise alive. -/
theorem Sound.step (h : Sound history relay) (action : Action)
    (hroom : (history ++ relay.made action).length < maximumRevision) :
    Sound (history ++ relay.made action) (relay.step action) := by
  cases action with
  | upsert record =>
    rw [made, List.length_append] at hroom
    exact h.mutate (upserted_mutates h.faithful.distinct record) hroom
  | remove record =>
    rw [made, List.length_append] at hroom
    exact h.mutate (removed_mutates h.faithful.distinct record) hroom
  | enqueue =>
    rw [made, List.append_nil, Relay.step]
    split
    · exact h
    rename_i event rest hunsent
    have hsuffix := h.faithful.unsent
    rw [hunsent] at hsuffix
    have hrest : Faithful history { relay with unsent := rest } :=
      { h.faithful with unsent := (List.suffix_cons _ _).trans hsuffix }
    refine ⟨hrest.send fun record hrecord => ?_, .enqueue h.faithful hunsent⟩
    obtain rfl := Option.some.inj hrecord
    exact hsuffix.subset List.mem_cons_self
  | enqueueOther type =>
    rw [made, List.append_nil, Relay.step]
    refine ⟨h.faithful.send fun record hrecord => ?_, fun hattached => ?_⟩
    · cases hrecord
    · exact (h.keeps hattached).send h.faithful.opened _
  | poll =>
    rw [made, List.append_nil, Relay.step]
    split
    · exact h
    split
    · exact h
    next event channel hpoll =>
      exact ⟨h.faithful.poll hpoll, fun hattached => (h.keeps hattached).poll hattached hpoll⟩
  | recover =>
    rw [made, List.append_nil, Relay.step]
    split
    · exact .recover h.faithful
    · exact h
  | attach =>
    rw [made, List.append_nil, Relay.step]
    split
    · exact h
    next hdetached => exact .attach h.faithful (Bool.eq_false_iff.mpr hdetached)
  | deliverEvent =>
    rw [made, List.append_nil, Relay.step]
    split
    · exact h
    next event rest hevents => exact h.deliverEvent hevents
  | deliverSnapshot =>
    rw [made, List.append_nil, Relay.step]
    split
    · exact h
    next snapshot rest hsnapshots => exact h.deliverSnapshot hsnapshots

theorem sound_after (actions : List Action) (hroom : (changes actions).length < maximumRevision) :
    Sound (changes actions) (after actions) := by
  let P (history : List EventPayload) (relay : Relay) : Prop :=
    history.length < maximumRevision → Sound history relay
  have hrun : P (changes actions) (after actions) := by
    refine Runs.run_history_all ?_ ?_ actions
    · intro history relay action hbefore hlength
      have hshorter : history.length < maximumRevision := by
        rw [List.length_append] at hlength
        omega
      exact (hbefore hshorter).step action hlength
    · exact fun _ => ⟨faithful_initial, fun hattached => by cases hattached⟩
  exact hrun hroom

/-- A promise that nothing is left to keep is kept already. -/
theorem Promised.reached_of_settled (h : Promised relay revision) (hsettled : relay.Settled) :
    revision ≤ relay.gateway.revision := by
  have hqueue := (RingBuffer.contents_eq_nil_iff _).mpr hsettled.queue
  cases h with
  | reached hle => exact hle
  | recovery hon => rw [hsettled.recovered] at hon; cases hon
  | snapshot hmem hle => rw [hsettled.snapshots] at hmem; cases hmem
  | event hmem hplain hle => rw [hsettled.events] at hmem; cases hmem
  | flagged hmem | queued hmem => rw [hqueue] at hmem; cases hmem

/-- Once everything is polled and delivered, the gateway has the revision and the records
of the native side, whatever was dropped and in whatever order the streams delivered. -/
theorem run_catches_up (actions : List Action)
    (hroom : (changes actions).length < maximumRevision) (hsettled : (after actions).Settled) :
    (after actions).gateway.revision = (after actions).native.revision ∧
      ((after actions).gateway.records.map fun record => record.toRecord).Perm
        (after actions).native.records := by
  obtain ⟨hfaithful, hkeeps⟩ := sound_after actions hroom
  obtain ⟨hdistinct, htrue⟩ := hfaithful.gateway hsettled.attached
  have hreached := (hkeeps hsettled.attached).reached_of_settled hsettled
  have hrevision : (after actions).gateway.revision = (after actions).native.revision := by
    have hle := htrue.le
    have hnewest := hfaithful.newest
    rw [sentRevision, hsettled.sent] at hreached
    exact le_antisymm (hnewest ▸ hle) hreached
  refine ⟨hrevision, perm_of_lookup ?_ hfaithful.distinct (funext fun id => ?_)⟩
  · rw [List.map_map]
    exact hdistinct
  refine (lookup_map (fun _ => rfl) id).trans ?_
  have hview : (after actions).gateway.view = (after actions).native.find := by
    rw [htrue.told, hfaithful.told, hrevision, hfaithful.newest, Nat.add_sub_cancel,
      List.take_length]
  exact congrFun hview id

instance decidableSettled (relay : Relay) : Decidable relay.Settled :=
  decidable_of_iff
    (relay.attached = true ∧ relay.unsent = [] ∧ relay.channel.queue.size = 0 ∧
      relay.recovering = false ∧ relay.transferEvents = [] ∧ relay.transferSnapshots = [])
    ⟨fun ⟨attached, sent, queue, recovered, events, snapshots⟩ =>
      ⟨attached, sent, queue, recovered, events, snapshots⟩,
    fun ⟨attached, sent, queue, recovered, events, snapshots⟩ =>
      ⟨attached, sent, queue, recovered, events, snapshots⟩⟩

def sampleRecord : Record :=
  { transferId := [1], direction := .outgoing, state := .queued, totalBytes := 9, peerLabel := [] }

/-- The event of a change is dropped; the snapshot that tells it arrives after the event of
the next change. -/
def changeDropped : List Action :=
  [.attach, .upsert sampleRecord, .enqueue] ++
    List.replicate eventQueueCapacity (.enqueueOther .trustChanged) ++
    List.replicate eventQueueCapacity .poll ++
    [.recover, .upsert { sampleRecord with state := .running }, .enqueue, .poll, .deliverEvent,
      .deliverSnapshot]

theorem run_catches_up_changeDropped :
    (changes changeDropped).length < maximumRevision ∧ (after changeDropped).Settled ∧
      ((after changeDropped).gateway.revision = (after changeDropped).native.revision ∧
        ((after changeDropped).gateway.records.map fun record => record.toRecord).Perm
          (after changeDropped).native.records) := by
  have hroom : (changes changeDropped).length < maximumRevision := by decide +kernel
  have hsettled : (after changeDropped).Settled := by decide +kernel
  exact ⟨hroom, hsettled, run_catches_up changeDropped hroom hsettled⟩

end Relay

end XnnTransfer.Gateway
