import Mathlib.Logic.Relation
import XnnTransfer.Library.Histories
import XnnTransfer.Library.Segments
import XnnTransfer.Transfer.Receiver

/-!
# What the receiver has on record

The ledger is the part of a receiver that says what was offered, what was
verified and what was stored. `Ledger.Change` lists the entries a call can make
besides storing a chunk, which is `Ledger.Write`. The invariants are about the
ledger alone: the order of the calls in the log, where the recorded frames come
from, and what the temporary file holds.
-/

namespace XnnTransfer.Transfer

open Protocol Storage Segments Histories

/-- The part of a receiver that says what was offered, verified and stored. -/
structure Ledger where
  state : TransferState
  manifest : OneFileManifest
  request : Option ValidatedReceiveRequest
  rawOfferFrame : Bytes
  rawEntryFrame : Bytes
  manifestEntryReceived : Bool
  transaction : Option ReceiveTransaction
  nextOffset : Nat
  log : List LogEntry

def Receiver.ledger (r : Receiver) : Ledger :=
  ⟨r.state, r.manifest, r.request, r.rawOfferFrame, r.rawEntryFrame, r.manifestEntryReceived,
    r.transaction, r.nextOffset, r.log⟩

namespace Ledger

/-- An entry into the ledger during a call that is given these bytes. -/
inductive Change (version : Version) (inbound : Option Bytes) (l : Ledger) : Ledger → Prop
  | phase (state : TransferState)
      (hstate : state ≠ .created ∧ state ≠ .receivingManifest ∧ state ≠ .awaitingDecision)
      (hfile : state = .receivingFile → l.state = .awaitingDecision) :
      Change version inbound l { l with state := state }
  | accepting : Change version inbound l { l with log := l.log ++ [.accept l.state] }
  | offerRecorded {manifest} (hstate : l.state = .created) :
      Change version inbound l { l with manifest := manifest }
  | offerTaken {encoded message manifest} (hstate : l.state = .created)
      (hinbound : inbound = some encoded) (hmessage : decodeFrame version encoded = some message)
      (htype : message.type = .transferOffer) (hsize : manifest.fileSize = message.number 3)
      (hmax : manifest.fileSize ≤ maxFileBytes) :
      Change version inbound l
        { l with manifest := manifest, rawOfferFrame := encoded, state := .receivingManifest }
  | entryRecorded {manifest request} (hstate : l.state = .receivingManifest)
      (hentry : l.manifestEntryReceived = false) (hsize : manifest.fileSize = l.manifest.fileSize)
      (hrequest : request = l.request ∨
        ∃ q, request = some q ∧ q.declaredSize = l.manifest.fileSize) :
      Change version inbound l { l with manifest := manifest, request := request }
  | entryTaken {encoded message manifest request} (hstate : l.state = .receivingManifest)
      (hentry : l.manifestEntryReceived = false) (hinbound : inbound = some encoded)
      (hmessage : decodeFrame version encoded = some message)
      (htype : message.type = .manifestEntry) (hsize : manifest.fileSize = l.manifest.fileSize)
      (hrequest : request.declaredSize = l.manifest.fileSize) :
      Change version inbound l
        { l with
          manifest := manifest
          request := some request
          rawEntryFrame := encoded
          manifestEntryReceived := true }
  | manifestRefused {input} :
      Change version inbound l { l with log := l.log ++ [.verifyManifest input false] }
  | manifestVerified {encoded message} (hstate : l.state = .receivingManifest)
      (hentry : l.manifestEntryReceived = true) (hinbound : inbound = some encoded)
      (hmessage : decodeFrame version encoded = some message)
      (htype : message.type = .manifestEnd) :
      Change version inbound l
        { l with
          log := l.log ++
            [.verifyManifest ⟨l.manifest, l.rawOfferFrame, l.rawEntryFrame, encoded⟩ true]
          state := .awaitingDecision }
  | chunkRefused {data commitment} :
      Change version inbound l
        { l with log := l.log ++ [.verifyChunk l.nextOffset data commitment false] }
  | broken {tx new checks calls} (htx : l.transaction = some tx)
      (huncommitted : tx.state ≠ .committed)
      (hchecks : checks = [] ∨
        ∃ data commitment, checks = [.verifyChunk l.nextOffset data commitment true])
      (hbreaks : tx.Breaks new calls) :
      Change version inbound l
        { l with transaction := some new, log := l.log ++ checks ++ calls.map .storage }
  | committed {tx new result} (hstate : l.state = .receivingFile)
      (hall : l.nextOffset = l.manifest.fileSize) (htx : l.transaction = some tx) (hreceiving : tx.state = .receiving)
      (hcommitted : new.state = .committed) (hresult : result.disposition = .committed) :
      Change version inbound l
        { l with
          transaction := some new
          log := l.log ++ [.storage (.sealVerifier true),
            .storage (.flushTemporary tx.temporary .none),
            .storage (.commitTemporary tx.temporary result)]
          state := .awaitingCompletion }
  | refused {new : ReceiveTransaction} {calls : List StorageCall}
      (hstate : l.state = .awaitingDecision) (hnone : l.transaction = none)
      (hlog : .accept .awaitingDecision ∈ l.log) (hended : new.Ended)
      (hcalls : ∀ call ∈ calls, ReceiveTransaction.IsCreate call ∨
        ReceiveTransaction.IsCleanup call) :
      Change version inbound l
        { l with transaction := some new, log := l.log ++ calls.map .storage }
  | begun {request handle} (hstate : l.state = .awaitingDecision) (hnone : l.transaction = none)
      (hlog : .accept .awaitingDecision ∈ l.log) (hrequest : l.request = some request) :
      Change version inbound l
        { l with
          transaction := some (({ request := request } : ReceiveTransaction).opened handle)
          log := l.log ++
            [.storage (.createTemporary request.path request.declaredSize .none handle)] }
  | aborted {old new : ReceiveTransaction} {calls : List StorageCall}
      (htx : l.transaction = some old) (huncommitted : old.state ≠ .committed)
      (hended : new.Ended) (hcalls : ∀ call ∈ calls, ReceiveTransaction.IsCleanup call) :
      Change version inbound l
        { l with transaction := some new, log := l.log ++ calls.map .storage }

/-- The entry that stores a chunk. -/
inductive Write (l : Ledger) : Segment UInt8 → Ledger → Prop
  | mk {data commitment tx result} (hroom : data.length ≤ sub64 l.manifest.fileSize l.nextOffset)
      (htx : l.transaction = some tx) (hreceiving : tx.state = .receiving)
      (hresult : result.error = .none ∧ result.bytesWritten = data.length) :
      Write l (l.nextOffset, data)
        { l with
          transaction := some { tx with receivedBytes := add64 tx.receivedBytes data.length }
          log := l.log ++ [.verifyChunk l.nextOffset data commitment true] ++
            [.storage (.writeTemporary tx.temporary data result),
              .storage (.updateVerifier data true)]
          nextOffset := add64 l.nextOffset data.length }

/-- The transaction has not failed. -/
def Intact (l : Ledger) : Prop :=
  ∀ tx, l.transaction = some tx → tx.state = .receiving ∨ tx.state = .committed

abbrev Changes (version : Version) (inbound : Option Bytes) : Ledger → Ledger → Prop :=
  Relation.ReflTransGen (Change version inbound)

/-- What one call enters, with the chunk it took. -/
inductive Records (version : Version) (inbound : Option Bytes) (l : Ledger) :
    Option (Segment UInt8) → Ledger → Prop
  | quiet {l'} (h : Changes version inbound l l') : Records version inbound l none l'
  | wrote {m segment l'} (h : Changes version inbound l m) (hwrite : Write m segment l') :
      Records version inbound l (some segment) l'
  | unanswered {m segment m' l'} (h : Changes version inbound l m) (hwrite : Write m segment m')
      (hrest : Changes version inbound m' l') (hbroken : ¬ l'.Intact) :
      Records version inbound l none l'

variable {version : Version} {inbound : Option Bytes} {l m l' : Ledger}
  {chunk : Option (Segment UInt8)}

theorem Records.after (h : Changes version inbound l m)
    (hrecords : Records version inbound m chunk l') : Records version inbound l chunk l' := by
  cases hrecords with
  | quiet hrest => exact .quiet (h.trans hrest)
  | wrote hrest hwrite => exact .wrote (h.trans hrest) hwrite
  | unanswered hrest hwrite hlast hbroken =>
    exact .unanswered (h.trans hrest) hwrite hlast hbroken

/-- What every change and every chunk that is stored keeps, a call keeps. -/
theorem Records.invariant {P : Ledger → Prop} (hrecords : Records version inbound l chunk l')
    (hchange : ∀ {l l'}, P l → Change version inbound l l' → P l')
    (hwrite : ∀ {l segment l'}, P l → Write l segment l' → P l') (h : P l) : P l' := by
  have hchanges {l l' : Ledger} (h : P l) (hall : Changes version inbound l l') : P l' := by
    induction hall with
    | refl => exact h
    | tail _ hlast ih => exact hchange ih hlast
  cases hrecords with
  | quiet hall => exact hchanges h hall
  | wrote hfirst hstored => exact hwrite (hchanges h hfirst) hstored
  | unanswered hfirst hstored hrest => exact hchanges (hwrite (hchanges h hfirst) hstored) hrest

end Ledger

/-! ### What the entries keep -/

namespace LogEntry

/-- A call of a method of the platform backend. -/
def IsPlatform : LogEntry → Prop
  | .storage (.updateVerifier _ _) => False
  | .storage (.sealVerifier _) => False
  | .storage _ => True
  | _ => False

/-- The platform reported that the file is in its place. -/
def Commits : LogEntry → Prop
  | .storage call => ReceiveTransaction.IsCommit call
  | _ => False

/-- A temporary file is removed. -/
def CleansUp : LogEntry → Prop
  | .storage call => ReceiveTransaction.IsCleanup call
  | _ => False

end LogEntry

namespace Ledger

/-- The provider has accepted a manifest. -/
def Approved (log : List LogEntry) : Prop := ∃ input, .verifyManifest input true ∈ log

/-- The order of the calls in the log. -/
structure Ordered (l : Ledger) : Prop where
  decided : l.transaction ≠ none → .accept .awaitingDecision ∈ l.log
  platform : Along (fun before entry => entry.IsPlatform → .accept .awaitingDecision ∈ before) l.log
  approved : l.state = .awaitingDecision → Approved l.log
  consulted : Along (fun before entry => entry = .accept .awaitingDecision → Approved before) l.log
  committed : ∀ entry ∈ l.log, entry.Commits → ∃ tx, l.transaction = some tx ∧ tx.state = .committed
  kept : Along (fun before entry => entry.CleansUp → ∀ earlier ∈ before, ¬ earlier.Commits) l.log

section Order

variable {version : Version} {inbound : Option Bytes} {l l' : Ledger} {entries : List LogEntry}

/-- What has to be shown when entries are appended to the log. -/
theorem Ordered.append (h : l.Ordered) (hlog : l'.log = l.log ++ entries)
    (hdecided : l'.transaction ≠ none → .accept .awaitingDecision ∈ l.log)
    (happroved : l'.state = .awaitingDecision → Approved (l.log ++ entries))
    (hplatform : ∀ entry ∈ entries, entry.IsPlatform → .accept .awaitingDecision ∈ l.log)
    (haccept : ∀ entry ∈ entries, entry = .accept .awaitingDecision → Approved l.log)
    (hcommits : ∀ entry ∈ l.log ++ entries, entry.Commits →
      ∃ tx, l'.transaction = some tx ∧ tx.state = .committed)
    (hcleans : ∀ entry ∈ entries, entry.CleansUp → ∀ other ∈ l.log ++ entries, ¬ other.Commits) :
    l'.Ordered := by
  have hmem {before : List LogEntry} {entry : LogEntry} (hpre : before ++ [entry] <+: entries) :
      entry ∈ entries := hpre.subset (by simp)
  constructor
  · intro htx
    rw [hlog]
    exact List.mem_append_left _ (hdecided htx)
  · rw [hlog]
    refine along_append h.platform fun before entry hpre hentry => ?_
    exact List.mem_append_left _ (hplatform entry (hmem hpre) hentry)
  · rw [hlog]
    exact happroved
  · rw [hlog]
    refine along_append h.consulted fun before entry hpre hentry => ?_
    obtain ⟨input, hinput⟩ := haccept entry (hmem hpre) hentry
    exact ⟨input, List.mem_append_left _ hinput⟩
  · rw [hlog]
    exact hcommits
  rw [hlog]
  refine along_append h.kept fun before entry hpre hentry earlier hearlier => ?_
  refine hcleans entry (hmem hpre) hentry earlier ?_
  have hbefore : before <+: entries := (List.prefix_append _ _).trans hpre
  rw [List.mem_append] at hearlier ⊢
  exact hearlier.imp_right fun hmem => hbefore.subset hmem

/-- A question to the provider is the only new entry. -/
theorem Ordered.asked {entry : LogEntry} (h : l.Ordered) (hlog : l'.log = l.log ++ [entry])
    (htx : l'.transaction = l.transaction)
    (hplain : ¬ entry.IsPlatform ∧ ¬ entry.Commits ∧ ¬ entry.CleansUp)
    (haccept : entry = .accept .awaitingDecision → Approved l.log)
    (happroved : l'.state = .awaitingDecision → Approved (l.log ++ [entry])) : l'.Ordered := by
  refine h.append hlog ?_ happroved ?_ ?_ ?_ ?_
  · rw [htx]
    exact h.decided
  · intro other hother
    rw [List.mem_singleton.mp hother]
    exact fun hplatform => absurd hplatform hplain.1
  · intro other hother
    rw [List.mem_singleton.mp hother]
    exact haccept
  · intro other hother hcommits
    rw [htx]
    rcases List.mem_append.mp hother with hother | hother
    · exact h.committed other hother hcommits
    rw [List.mem_singleton.mp hother] at hcommits
    exact absurd hcommits hplain.2.1
  intro other hother
  rw [List.mem_singleton.mp hother]
  exact fun hcleans => absurd hcleans hplain.2.2

theorem Approved.append {log : List LogEntry} (h : Approved log) (more : List LogEntry) :
    Approved (log ++ more) := by
  obtain ⟨input, hinput⟩ := h
  exact ⟨input, List.mem_append_left _ hinput⟩

theorem not_commits_of_cleanup {call : StorageCall} (h : ReceiveTransaction.IsCleanup call) :
    ¬ ReceiveTransaction.IsCommit call := by
  cases call <;> simp_all [ReceiveTransaction.IsCleanup, ReceiveTransaction.IsCommit]

theorem not_commits_of_create {call : StorageCall} (h : ReceiveTransaction.IsCreate call) :
    ¬ ReceiveTransaction.IsCommit call := by
  cases call <;> simp_all [ReceiveTransaction.IsCreate, ReceiveTransaction.IsCommit]

/-- Calls of a transaction that do not commit. -/
theorem Ordered.stored (h : l.Ordered) (hlog : l'.log = l.log ++ entries)
    (hstate : l'.state = l.state) (hdecided : .accept .awaitingDecision ∈ l.log)
    (hnone : ∀ tx, l.transaction = some tx → tx.state ≠ .committed)
    (hcalls : ∀ entry ∈ entries, entry ≠ .accept .awaitingDecision ∧ ¬ entry.Commits) :
    l'.Ordered := by
  have hnot : ∀ entry ∈ l.log ++ entries, ¬ entry.Commits := by
    intro entry hentry
    rcases List.mem_append.mp hentry with hentry | hentry
    · intro hcommits
      obtain ⟨tx, htx, hcommitted⟩ := h.committed entry hentry hcommits
      exact hnone tx htx hcommitted
    · exact (hcalls entry hentry).2
  refine h.append hlog (fun _ => hdecided) ?_ (fun _ _ _ => hdecided) ?_ ?_ (fun _ _ _ => hnot)
  · rw [hstate]
    exact fun hawaiting => (h.approved hawaiting).append _
  · exact fun entry hentry haccept => absurd haccept (hcalls entry hentry).1
  · exact fun entry hentry hcommits => absurd hcommits (hnot entry hentry)

theorem storage_plain {calls : List StorageCall}
    (h : ∀ call ∈ calls, ¬ ReceiveTransaction.IsCommit call) :
    ∀ entry ∈ calls.map LogEntry.storage,
      entry ≠ .accept .awaitingDecision ∧ ¬ entry.Commits := by
  intro entry hentry
  obtain ⟨call, hcall, rfl⟩ := List.mem_map.mp hentry
  exact ⟨by simp, h call hcall⟩

/-- Every entry keeps the order of the log. -/
theorem Ordered.change (h : l.Ordered) (hchange : Change version inbound l l') : l'.Ordered := by
  cases hchange with
  | phase state hstate hfile =>
    exact { h with approved := fun hawaiting => absurd hawaiting hstate.2.2 }
  | accepting =>
    refine h.asked rfl rfl (by simp [LogEntry.IsPlatform, LogEntry.Commits, LogEntry.CleansUp])
      (fun haccept => h.approved ?_) (fun hawaiting => (h.approved hawaiting).append _)
    injection haccept
  | offerRecorded | entryRecorded | entryTaken => exact { h with }
  | offerTaken => exact { h with approved := nofun }
  | manifestRefused | chunkRefused =>
    exact h.asked rfl rfl (by simp [LogEntry.IsPlatform, LogEntry.Commits, LogEntry.CleansUp])
      nofun (fun hawaiting => (h.approved hawaiting).append _)
  | manifestVerified =>
    exact h.asked rfl rfl (by simp [LogEntry.IsPlatform, LogEntry.Commits, LogEntry.CleansUp])
      nofun (fun _ => ⟨_, List.mem_append_right _ (List.mem_singleton_self _)⟩)
  | @broken tx new checks calls htx huncommitted hchecks hbreaks =>
    refine h.stored (List.append_assoc _ _ _) rfl (h.decided (by simp [htx])) ?_ ?_
    · rintro other hother
      cases htx.symm.trans hother
      exact huncommitted
    intro entry hentry
    rcases List.mem_append.mp hentry with hentry | hentry
    · rcases hchecks with rfl | ⟨data, commitment, rfl⟩
      · cases hentry
      rw [List.mem_singleton.mp hentry]
      exact ⟨by simp, by simp [LogEntry.Commits]⟩
    · exact storage_plain hbreaks.uncommitted entry hentry
  | committed hstate hall htx hreceiving hcommitted hresult =>
    have hdecided := h.decided (by simp [htx])
    refine h.append rfl (fun _ => hdecided) nofun (fun _ _ _ => hdecided) ?_
      (fun _ _ _ => ⟨_, rfl, hcommitted⟩) ?_
    · simp
    · simp [LogEntry.CleansUp, ReceiveTransaction.IsCleanup]
  | refused hstate hnone hlog hended hcalls =>
    refine h.stored rfl rfl hlog (by simp [hnone]) (storage_plain fun call hcall => ?_)
    exact (hcalls call hcall).elim not_commits_of_create not_commits_of_cleanup
  | begun hstate hnone hlog hrequest =>
    refine h.stored rfl rfl hlog (by simp [hnone]) ?_
    simp [LogEntry.Commits, ReceiveTransaction.IsCommit]
  | aborted htx huncommitted hended hcalls =>
    refine h.stored rfl rfl (h.decided (by simp [htx])) ?_
      (storage_plain fun call hcall => not_commits_of_cleanup (hcalls call hcall))
    intro other hother
    cases htx.symm.trans hother
    exact huncommitted

theorem Ordered.write {segment : Segment UInt8} (h : l.Ordered) (hwrite : Write l segment l') :
    l'.Ordered := by
  cases hwrite with
  | mk hroom htx hreceiving hresult =>
    refine h.stored (List.append_assoc _ _ _) rfl (h.decided (by simp [htx])) ?_ ?_
    · intro other hother
      cases htx.symm.trans hother
      simp [hreceiving]
    · simp [LogEntry.Commits, ReceiveTransaction.IsCommit]

end Order

section Frames

variable {version : Version} {past : List Bytes} {inbound : Option Bytes} {l l' : Ledger}

/-- The frames were given in this order, the last one perhaps by the present call. -/
def Follows (past : List Bytes) (inbound : Option Bytes) (frames : List Bytes) : Prop :=
  frames.Sublist past ∨
    ∃ earlier last, frames = earlier ++ [last] ∧ earlier.Sublist past ∧ inbound = some last

theorem Follows.sublist {frames : List Bytes} (h : Follows past inbound frames) :
    frames.Sublist (past ++ inbound.toList) := by
  rcases h with h | ⟨earlier, last, rfl, h, rfl⟩
  · exact h.trans (List.sublist_append_left _ _)
  · exact h.append (List.Sublist.refl _)

/-- A frame of the present call follows frames that end with another one. -/
theorem Follows.next {frames : List Bytes} {last encoded : Bytes}
    (h : Follows past inbound (frames ++ [last])) (hinbound : inbound = some encoded)
    (hne : last ≠ encoded) : Follows past inbound (frames ++ [last] ++ [encoded]) := by
  rcases h with h | ⟨earlier, other, heq, -, hother⟩
  · exact .inr ⟨_, _, rfl, h, hinbound⟩
  obtain ⟨-, hlast⟩ := List.append_inj' heq rfl
  cases hlast
  exact absurd (Option.some.inj (hother.symm.trans hinbound)) hne

/-- The bytes are a frame of the type. -/
def HasType (version : Version) (type : MessageType) (frame : Bytes) : Prop :=
  ∃ message, decodeFrame version frame = some message ∧ message.type = type

variable {frame : Bytes} {tx : ReceiveTransaction}

theorem HasType.unique {type type' : MessageType} (h : HasType version type frame)
    (h' : HasType version type' frame) : type = type' := by
  obtain ⟨message, hmessage, rfl⟩ := h
  obtain ⟨message', hmessage', rfl⟩ := h'
  cases hmessage.symm.trans hmessage'
  rfl

/-- The frame offers a file of this size. -/
def Offers (version : Version) (frame : Bytes) (size : Nat) : Prop :=
  ∃ message, decodeFrame version frame = some message ∧ message.type = .transferOffer ∧
    message.number 3 = size

theorem Offers.hasType {size : Nat} (h : Offers version frame size) :
    HasType version .transferOffer frame := by
  obtain ⟨message, hmessage, htype, -⟩ := h
  exact ⟨message, hmessage, htype⟩

/-- An offer was taken and is still of use. -/
def Open (l : Ledger) : Prop :=
  l.state = .receivingManifest ∨ l.state = .awaitingDecision ∨ l.transaction ≠ none

/-- The frames the provider was asked about, by their types and in the order they came. -/
def Presented (version : Version) (past : List Bytes) (inbound : Option Bytes)
    (input : ManifestVerificationInput) : Prop :=
  HasType version .transferOffer input.offerFrame ∧
    HasType version .manifestEntry input.entryFrame ∧
    HasType version .manifestEnd input.endFrame ∧
    Follows past inbound [input.offerFrame, input.entryFrame, input.endFrame]

/-- Where the recorded frames come from. -/
structure Heard (version : Version) (past : List Bytes) (inbound : Option Bytes) (l : Ledger) :
    Prop where
  created : l.state = .created →
    l.manifestEntryReceived = false ∧ l.request = none ∧ l.transaction = none
  offer : l.Open → Offers version l.rawOfferFrame l.manifest.fileSize ∧
    l.manifest.fileSize ≤ maxFileBytes ∧ Follows past inbound [l.rawOfferFrame]
  entry : l.state = .receivingManifest → l.manifestEntryReceived = true →
    HasType version .manifestEntry l.rawEntryFrame ∧
      Follows past inbound [l.rawOfferFrame, l.rawEntryFrame]
  requested : ∀ request, l.request = some request → request.declaredSize = l.manifest.fileSize
  manifests : ∀ input, .verifyManifest input true ∈ l.log → Presented version past inbound input

/-- A change that leaves the recorded frames alone. -/
theorem Heard.keep (h : Heard version past inbound l)
    (hoffer : l'.rawOfferFrame = l.rawOfferFrame) (hentry : l'.rawEntryFrame = l.rawEntryFrame)
    (hflag : l'.manifestEntryReceived = l.manifestEntryReceived)
    (hmanifest : l'.manifest = l.manifest) (hrequest : l'.request = l.request)
    (hopen : l'.Open → l.Open)
    (hcreated : l'.state = .created → l.state = .created ∧ l'.transaction = l.transaction)
    (hreceiving : l'.state = .receivingManifest → l.state = .receivingManifest)
    (hlog : ∀ input, .verifyManifest input true ∈ l'.log → .verifyManifest input true ∈ l.log) :
    Heard version past inbound l' := by
  constructor
  · intro hstate
    obtain ⟨hstate, htx⟩ := hcreated hstate
    rw [hflag, hrequest, htx]
    exact h.created hstate
  · rw [hoffer, hmanifest]
    exact fun hopened => h.offer (hopen hopened)
  · rw [hflag, hoffer, hentry]
    exact fun hstate => h.entry (hreceiving hstate)
  · rw [hrequest, hmanifest]
    exact h.requested
  · exact fun input hinput => h.manifests input (hlog input hinput)

theorem open_of_transaction (h : l.transaction = some tx) : l.Open :=
  .inr (.inr (by simp [h]))

/-- A change of the transaction and of the log by entries that ask no question. -/
theorem Heard.stored {entries : List LogEntry} (h : Heard version past inbound l) (hopen : l.Open)
    (hentries : ∀ input, LogEntry.verifyManifest input true ∉ entries) :
    Heard version past inbound
      { l with transaction := some tx, log := l.log ++ entries } := by
  refine h.keep rfl rfl rfl rfl rfl (fun _ => hopen) (fun hstate => ?_) id fun input hinput => ?_
  · rcases hopen with hother | hother | hother
    · cases hother.symm.trans hstate
    · cases hother.symm.trans hstate
    · exact absurd (h.created hstate).2.2 hother
  · exact (List.mem_append.mp hinput).resolve_right (hentries input)

/-- Every entry keeps the origin of the recorded frames. -/
theorem Heard.change (h : Heard version past inbound l) (hchange : Change version inbound l l') :
    Heard version past inbound l' := by
  cases hchange with
  | phase state hstate hfile =>
    refine h.keep rfl rfl rfl rfl rfl (fun hopen => ?_) (fun hother => absurd hother hstate.1)
      (fun hother => absurd hother hstate.2.1) (fun _ => id)
    rcases hopen with hother | hother | hother
    · exact absurd hother hstate.2.1
    · exact absurd hother hstate.2.2
    · exact .inr (.inr hother)
  | accepting | manifestRefused | chunkRefused =>
    exact h.keep rfl rfl rfl rfl rfl id (fun hstate => ⟨hstate, rfl⟩) id (by simp)
  | offerRecorded hstate =>
    obtain ⟨hflag, hrequest, htx⟩ := h.created hstate
    refine ⟨fun _ => ⟨hflag, hrequest, htx⟩, ?_, ?_, ?_, h.manifests⟩
    · rintro (hother | hother | hother)
      · cases hstate.symm.trans hother
      · cases hstate.symm.trans hother
      · exact absurd htx hother
    · exact fun hother => absurd (hstate.symm.trans hother) (by decide)
    intro request hsome
    cases hrequest.symm.trans hsome
  | offerTaken hstate hinbound hmessage htype hsize hmax =>
    obtain ⟨hflag, hrequest, htx⟩ := h.created hstate
    refine ⟨nofun, fun _ => ⟨⟨_, hmessage, htype, hsize.symm⟩, hmax, ?_⟩, ?_, ?_, h.manifests⟩
    · exact .inr ⟨[], _, rfl, List.nil_sublist _, hinbound⟩
    · exact fun _ hset => absurd (hflag.symm.trans hset) (by decide)
    intro request hsome
    cases hrequest.symm.trans hsome
  | entryRecorded hstate hentry hsize hrequest =>
    refine ⟨fun hother => absurd (hstate.symm.trans hother) (by decide), fun hopen => ?_,
      fun _ hset => absurd (hentry.symm.trans hset) (by decide), fun request hsome => ?_,
      h.manifests⟩
    · rw [hsize]
      exact h.offer hopen
    rw [hsize]
    rcases hrequest with rfl | ⟨q, rfl, hdeclared⟩
    · exact h.requested request hsome
    cases hsome
    exact hdeclared
  | @entryTaken encoded _ _ _ hstate hentry hinbound hmessage htype hsize hrequest =>
    obtain ⟨hoffers, hmax, hfollows⟩ := h.offer (.inl hstate)
    have hentered : HasType version .manifestEntry encoded := ⟨_, hmessage, htype⟩
    refine ⟨fun hother => absurd (hstate.symm.trans hother) (by decide), fun _ => ?_,
      fun _ _ => ⟨hentered, @Follows.next past inbound [] _ _ hfollows hinbound ?_⟩,
      fun request hsome => ?_, h.manifests⟩
    · rw [hsize]
      exact ⟨hoffers, hmax, hfollows⟩
    · intro (hsame : l.rawOfferFrame = encoded)
      rw [← hsame] at hentered
      exact absurd (hoffers.hasType.unique hentered) (by decide)
    cases hsome
    rw [hsize]
    exact hrequest
  | @manifestVerified encoded _ hstate hentry hinbound hmessage htype =>
    obtain ⟨hoffers, hmax, hfollows⟩ := h.offer (.inl hstate)
    obtain ⟨hentered, hboth⟩ := h.entry hstate hentry
    have hended : HasType version .manifestEnd encoded := ⟨_, hmessage, htype⟩
    refine ⟨nofun, fun _ => ⟨hoffers, hmax, hfollows⟩, nofun, h.requested, fun input hinput => ?_⟩
    rcases List.mem_append.mp hinput with hinput | hinput
    · exact h.manifests input hinput
    cases List.mem_singleton.mp hinput
    refine ⟨hoffers.hasType, hentered, hended,
      @Follows.next past inbound [_] _ _ hboth hinbound
        fun (hsame : l.rawEntryFrame = encoded) => ?_⟩
    rw [← hsame] at hended
    exact absurd (hentered.unique hended) (by decide)
  | broken htx huncommitted hchecks hbreaks =>
    rw [List.append_assoc]
    refine h.stored (open_of_transaction htx) fun input hinput => ?_
    rcases List.mem_append.mp hinput with hinput | hinput
    · rcases hchecks with rfl | ⟨data, commitment, rfl⟩ <;> simp at hinput
    · simp at hinput
  | committed hstate hall htx hreceiving hcommitted hresult =>
    exact h.keep rfl rfl rfl rfl rfl (fun _ => open_of_transaction htx) nofun nofun (by simp)
  | refused hstate | begun hstate => exact h.stored (.inr (.inl hstate)) (by simp)
  | aborted htx => exact h.stored (open_of_transaction htx) (by simp)

theorem Heard.write {segment : Segment UInt8} (h : Heard version past inbound l)
    (hwrite : Write l segment l') : Heard version past inbound l' := by
  cases hwrite with
  | mk hroom htx hreceiving hresult =>
    have hopen := open_of_transaction htx
    refine h.keep rfl rfl rfl rfl rfl (fun _ => hopen) (fun hstate => ?_) id (by simp)
    rw [(h.created hstate).2.2] at htx
    cases htx

/-- The frame of a call is in the past of the next one. -/
theorem Heard.advance (h : Heard version past inbound l) (inbound' : Option Bytes) :
    Heard version (past ++ inbound.toList) inbound' l where
  created := h.created
  offer := fun hopen => ⟨(h.offer hopen).1, (h.offer hopen).2.1, .inl (h.offer hopen).2.2.sublist⟩
  entry := fun hstate hentry =>
    ⟨(h.entry hstate hentry).1, .inl (h.entry hstate hentry).2.sublist⟩
  requested := h.requested
  manifests := fun input hinput => by
    obtain ⟨hoffer, hentry, hend, hfollows⟩ := h.manifests input hinput
    exact ⟨hoffer, hentry, hend, .inl hfollows.sublist⟩

end Frames

section Content

variable {version : Version} {past : List Bytes} {inbound : Option Bytes} {l l' : Ledger}

/-- The chunks the provider accepted, each at the offset it was asked about. -/
def verified (log : List LogEntry) : List (Segment UInt8) :=
  log.filterMap fun entry =>
    match entry with
    | .verifyChunk offset data _ true => some (offset, data)
    | _ => none

/-- The bytes that were written to a temporary file. -/
def writtenTo (handle : Nat) (log : List LogEntry) : Bytes :=
  log.flatMap fun entry =>
    match entry with
    | .storage (.writeTemporary target data result) =>
      if target = handle ∧ result.error = .none ∧ result.bytesWritten = data.length then data
      else []
    | _ => []

@[simp] theorem verified_append (log more : List LogEntry) :
    verified (log ++ more) = verified log ++ verified more := by
  simp [verified]

@[simp] theorem writtenTo_append (handle : Nat) (log more : List LogEntry) :
    writtenTo handle (log ++ more) = writtenTo handle log ++ writtenTo handle more := by
  simp [writtenTo]

/-- The file with this handle holds the accepted chunks, which cover its beginning. -/
structure Filled (l : Ledger) (handle : Nat) : Prop where
  written : writtenTo handle l.log = content (verified l.log)
  consecutive : Consecutive 0 (verified l.log)
  total_eq : total (verified l.log) = l.nextOffset

/-- The file was sealed and committed when it was complete. -/
def Complete (l : Ledger) : Prop :=
  ∃ handle result before after, l.log = before ++ .storage (.commitTemporary handle result) :: after ∧
    result.disposition = .committed ∧ .storage (.sealVerifier true) ∈ before ∧ l.Filled handle ∧
    l.nextOffset = l.manifest.fileSize

/-- What the transaction has stored. -/
structure Stored (l : Ledger) : Prop where
  fresh : l.transaction = none → verified l.log = [] ∧ (∀ handle, writtenTo handle l.log = []) ∧
    l.nextOffset = 0
  filling : ∀ tx, l.transaction = some tx → tx.state = .receiving → l.Filled tx.temporary ∧
    tx.receivedBytes = l.nextOffset ∧ tx.request.declaredSize = l.manifest.fileSize ∧
    l.nextOffset ≤ l.manifest.fileSize
  filled : ∀ tx, l.transaction = some tx → tx.state = .committed → l.Complete

/-- Entries that neither accept nor write a chunk. -/
def Neutral (entries : List LogEntry) : Prop :=
  verified entries = [] ∧ ∀ handle, writtenTo handle entries = []

variable {entries : List LogEntry}

theorem Filled.append {handle : Nat} (h : l.Filled handle) (hneutral : Neutral entries)
    (hlog : l'.log = l.log ++ entries) (hoffset : l'.nextOffset = l.nextOffset) :
    l'.Filled handle := by
  constructor
  · rw [hlog, writtenTo_append, verified_append, hneutral.1, hneutral.2, List.append_nil,
      List.append_nil]
    exact h.written
  · rw [hlog, verified_append, hneutral.1, List.append_nil]
    exact h.consecutive
  rw [hlog, verified_append, hneutral.1, List.append_nil, hoffset]
  exact h.total_eq

theorem Complete.append (h : l.Complete) (hneutral : Neutral entries)
    (hlog : l'.log = l.log ++ entries) (hoffset : l'.nextOffset = l.nextOffset)
    (hsize : l'.manifest.fileSize = l.manifest.fileSize) : l'.Complete := by
  obtain ⟨handle, result, before, after, heq, hresult, hsealed, hfilled, hall⟩ := h
  refine ⟨handle, result, before, after ++ entries, ?_, hresult, hsealed,
    hfilled.append hneutral hlog hoffset, ?_⟩
  · rw [hlog, heq, List.append_assoc, List.cons_append]
  rw [hoffset, hsize]
  exact hall

/-- A change that appends neutral entries and keeps the transaction. -/
theorem Stored.keep (h : l.Stored) (hneutral : Neutral entries) (hlog : l'.log = l.log ++ entries)
    (htx : l'.transaction = l.transaction) (hoffset : l'.nextOffset = l.nextOffset)
    (hsize : l'.manifest.fileSize = l.manifest.fileSize) : l'.Stored := by
  constructor
  · intro hnone
    obtain ⟨hverified, hwritten, hzero⟩ := h.fresh (htx.symm.trans hnone)
    refine ⟨?_, fun handle => ?_, hoffset.trans hzero⟩
    · rw [hlog, verified_append, hverified, hneutral.1]
      rfl
    rw [hlog, writtenTo_append, hwritten, hneutral.2]
    rfl
  · intro tx hsome hreceiving
    obtain ⟨hfilled, hreceived, hdeclared, hle⟩ := h.filling tx (htx.symm.trans hsome) hreceiving
    rw [hoffset, hsize]
    exact ⟨hfilled.append hneutral hlog hoffset, hreceived, hdeclared, hle⟩
  intro tx hsome hcommitted
  exact (h.filled tx (htx.symm.trans hsome) hcommitted).append hneutral hlog hoffset hsize

/-- A transaction that failed promises nothing. -/
theorem stored_of_broken {tx : ReceiveTransaction} (htx : l.transaction = some tx)
    (hbroken : tx.state ≠ .receiving ∧ tx.state ≠ .committed) : l.Stored := by
  constructor
  · intro hnone
    cases htx.symm.trans hnone
  · intro other hother hreceiving
    cases htx.symm.trans hother
    exact absurd hreceiving hbroken.1
  intro other hother hcommitted
  cases htx.symm.trans hother
  exact absurd hcommitted hbroken.2

/-- Every entry keeps what is stored in order. -/
theorem Stored.change (h : l.Stored) (hheard : Heard version past inbound l)
    (hchange : Change version inbound l l') : l'.Stored := by
  cases hchange with
  | phase => exact h.keep ⟨rfl, fun _ => rfl⟩ (List.append_nil _).symm rfl rfl rfl
  | accepting | manifestRefused | manifestVerified | chunkRefused =>
    exact h.keep ⟨rfl, fun _ => rfl⟩ rfl rfl rfl rfl
  | offerRecorded hstate | offerTaken hstate =>
    -- Without a transaction the size of the offered file is free.
    have htx := (hheard.created hstate).2.2
    refine ⟨h.fresh, fun tx hsome => ?_, fun tx hsome => ?_⟩ <;> cases htx.symm.trans hsome
  | entryRecorded hstate hentry hsize | entryTaken hstate hentry hinbound hmessage htype hsize =>
    exact h.keep ⟨rfl, fun _ => rfl⟩ (List.append_nil _).symm rfl rfl hsize
  | @broken tx new checks calls htx huncommitted hchecks hbreaks =>
    refine @stored_of_broken _ new rfl ⟨?_, hbreaks.not_committed huncommitted⟩
    rcases hbreaks.ending with ⟨hnot, rfl, -⟩ | ⟨-, hended⟩
    · exact hnot
    · exact hended.not_live.1
  | @committed tx new result hstate hall htx hreceiving hcommitted hresult =>
    obtain ⟨hfilled, -⟩ := h.filling tx htx hreceiving
    refine ⟨nofun, fun other hother hlive => ?_, fun _ _ _ => ?_⟩
    · cases hother
      cases hlive.symm.trans hcommitted
    refine ⟨tx.temporary, result, l.log ++ [.storage (.sealVerifier true),
      .storage (.flushTemporary tx.temporary .none)], [], by simp, hresult, by simp, ?_, hall⟩
    exact hfilled.append ⟨rfl, fun _ => rfl⟩ rfl rfl
  | refused hstate hnone hlog hended | aborted htx huncommitted hended =>
    exact stored_of_broken rfl hended.not_live
  | @begun request handle hstate hnone hlog hrequest =>
    obtain ⟨hverified, hwritten, hzero⟩ := h.fresh hnone
    refine ⟨nofun, fun tx hsome _ => ?_, fun tx hsome hcommitted => ?_⟩
    · cases hsome
      refine ⟨⟨?_, ?_, ?_⟩, hzero.symm, hheard.requested request hrequest, ?_⟩
      · rw [writtenTo_append, hwritten, verified_append, hverified]
        rfl
      · rw [verified_append, hverified]
        trivial
      · rw [verified_append, hverified, hzero]
        rfl
      rw [hzero]
      exact Nat.zero_le _
    cases hsome
    cases hcommitted

theorem Stored.write {segment : Segment UInt8} (h : l.Stored)
    (hheard : Heard version past inbound l) (hwrite : Write l segment l') : l'.Stored := by
  cases hwrite with
  | @mk data commitment tx result hroom htx hreceiving hresult =>
    obtain ⟨hfilled, hreceived, hdeclared, hle⟩ := h.filling tx htx hreceiving
    have hmax := (hheard.offer (open_of_transaction htx)).2.1
    have hbound : maxFileBytes < 2 ^ 63 := by decide
    rw [sub64_eq hle (by omega)] at hroom
    have hadd : add64 l.nextOffset data.length = l.nextOffset + data.length :=
      add64_eq (by omega)
    refine ⟨nofun, fun other hother _ => ?_, fun other hother hcommitted => ?_⟩
    · cases hother
      have hverified : verified (l.log ++ [.verifyChunk l.nextOffset data commitment true] ++
          [.storage (.writeTemporary tx.temporary data result),
            .storage (.updateVerifier data true)]) = verified l.log ++ [(l.nextOffset, data)] := by
        simp [verified]
      refine ⟨⟨?_, ?_, ?_⟩, ?_, hdeclared, ?_⟩
      · rw [hverified, content_concat, ← hfilled.written]
        simp [writtenTo, hresult]
      · rw [hverified, consecutive_concat, hfilled.total_eq]
        exact ⟨hfilled.consecutive, by simp⟩
      · rw [hverified, total_concat, hfilled.total_eq, hadd]
      · show add64 tx.receivedBytes data.length = add64 l.nextOffset data.length
        rw [hreceived]
      show add64 l.nextOffset data.length ≤ l.manifest.fileSize
      omega
    cases hother
    cases hreceiving.symm.trans hcommitted

/-- As long as the transaction has not failed the accepted chunks are those taken. -/
theorem Change.verified_eq (hchange : Change version inbound l l') (hintact : l'.Intact) :
    l.Intact ∧ verified l'.log = verified l.log := by
  cases hchange with
  | phase | offerRecorded | offerTaken | entryRecorded | entryTaken => exact ⟨hintact, rfl⟩
  | accepting | manifestRefused | manifestVerified | chunkRefused =>
    exact ⟨hintact, by simp [verified]⟩
  | broken htx huncommitted hchecks hbreaks =>
    rcases hintact _ rfl with hreceiving | hcommitted
    · rcases hbreaks.ending with ⟨hnot, rfl, -⟩ | ⟨-, hended⟩
      · exact absurd hreceiving hnot
      · exact absurd hreceiving hended.not_live.1
    · exact absurd hcommitted (hbreaks.not_committed huncommitted)
  | committed hstate hall htx hreceiving =>
    refine ⟨fun tx hsome => ?_, by simp [verified]⟩
    cases htx.symm.trans hsome
    exact .inl hreceiving
  | refused hstate hnone hlog hended | aborted htx huncommitted hended =>
    exact absurd (hintact _ rfl) (not_or.mpr hended.not_live)
  | begun hstate hnone =>
    refine ⟨fun tx hsome => ?_, by simp [verified]⟩
    cases hnone.symm.trans hsome

theorem Changes.verified_eq (hchanges : Changes version inbound l l') (hintact : l'.Intact) :
    l.Intact ∧ verified l'.log = verified l.log := by
  induction hchanges with
  | refl => exact ⟨hintact, rfl⟩
  | tail _ hchange ih =>
    obtain ⟨hbefore, hsame⟩ := hchange.verified_eq hintact
    obtain ⟨hfirst, hrest⟩ := ih hbefore
    exact ⟨hfirst, hsame.trans hrest⟩

/-- The accepted chunks grow by the chunk a call took. -/
theorem Records.verified_eq {chunk : Option (Segment UInt8)}
    (h : Records version inbound l chunk l') (hintact : l'.Intact) :
    l.Intact ∧ verified l'.log = verified l.log ++ chunk.toList := by
  cases h with
  | quiet hchanges =>
    obtain ⟨hbefore, hsame⟩ := hchanges.verified_eq hintact
    exact ⟨hbefore, by simp [hsame]⟩
  | wrote hchanges hwrite =>
    cases hwrite with
    | mk hroom htx hreceiving hresult =>
      obtain ⟨hbefore, hsame⟩ := hchanges.verified_eq fun tx hsome => by
        cases htx.symm.trans hsome
        exact .inl hreceiving
      refine ⟨hbefore, ?_⟩
      rw [← hsame]
      simp [verified]
  | unanswered hchanges hwrite hrest hbroken => exact absurd hintact hbroken

end Content

/-- The invariants of the ledger together. -/
structure Kept (version : Version) (past : List Bytes) (inbound : Option Bytes) (l : Ledger) :
    Prop where
  ordered : l.Ordered
  heard : Heard version past inbound l
  stored : l.Stored

section Together

variable {version : Version} {past : List Bytes} {inbound : Option Bytes} {l l' : Ledger}

/-- A call keeps all invariants of the ledger. -/
theorem Kept.records {chunk : Option (Segment UInt8)} (h : Kept version past inbound l)
    (hrecords : Records version inbound l chunk l') : Kept version past inbound l' := by
  refine hrecords.invariant (fun h hchange => ?_) (fun h hwrite => ?_) h
  · exact ⟨h.ordered.change hchange, h.heard.change hchange, h.stored.change h.heard hchange⟩
  · exact ⟨h.ordered.write hwrite, h.heard.write hwrite, h.stored.write h.heard hwrite⟩

end Together

theorem kept_new (context : TransferContext) (version : Version) (inbound : Option Bytes) :
    Kept version [] inbound ({ context := context } : Receiver).ledger := by
  refine ⟨⟨?_, along_nil _, ?_, along_nil _, ?_, along_nil _⟩, ⟨?_, ?_, ?_, ?_, ?_⟩, ⟨?_, ?_, ?_⟩⟩ <;>
    simp [Receiver.ledger, Open, verified, writtenTo]

/-- The transfer is past the decision and the file will not be committed any more. -/
def Dead (l : Ledger) : Prop :=
  (l.state ≠ .created ∧ l.state ≠ .receivingManifest ∧ l.state ≠ .awaitingDecision ∧
      l.state ≠ .receivingFile) ∧
    ∀ tx, l.transaction = some tx → tx.state ≠ .committed

section Growth

variable {version : Version} {inbound : Option Bytes} {l l' : Ledger}

theorem Dead.change (h : l.Dead) (hchange : Change version inbound l l') : l'.Dead := by
  obtain ⟨⟨hcreated, hmanifest, hdecision, hreceiving⟩, hnone⟩ := h
  cases hchange with
  | phase state hstate hfile =>
    exact ⟨⟨hstate.1, hstate.2.1, hstate.2.2, fun hother => hdecision (hfile hother)⟩, hnone⟩
  | accepting | manifestRefused | chunkRefused =>
    exact ⟨⟨hcreated, hmanifest, hdecision, hreceiving⟩, hnone⟩
  | offerRecorded hstate | offerTaken hstate => exact absurd hstate hcreated
  | entryRecorded hstate | entryTaken hstate | manifestVerified hstate =>
    exact absurd hstate hmanifest
  | broken htx huncommitted hchecks hbreaks =>
    refine ⟨⟨hcreated, hmanifest, hdecision, hreceiving⟩, fun other hother => ?_⟩
    cases hother
    exact hbreaks.not_committed huncommitted
  | committed hstate => exact absurd hstate hreceiving
  | refused hstate | begun hstate => exact absurd hstate hdecision
  | aborted htx huncommitted hended =>
    refine ⟨⟨hcreated, hmanifest, hdecision, hreceiving⟩, fun other hother => ?_⟩
    cases hother
    exact hended.not_live.2

variable {segment : Segment UInt8} {chunk : Option (Segment UInt8)}

theorem Dead.write (h : l.Dead) (hwrite : Write l segment l') : l'.Dead := by
  cases hwrite with
  | mk hroom htx hreceiving hresult =>
    refine ⟨h.1, fun other hother => ?_⟩
    cases hother
    simp [hreceiving]

theorem Change.log_isPrefix (hchange : Change version inbound l l') : l.log <+: l'.log := by
  cases hchange with
  | broken =>
    rw [List.append_assoc]
    exact List.prefix_append _ _
  | phase | offerRecorded | offerTaken | entryRecorded | entryTaken => exact List.prefix_rfl
  | _ => exact List.prefix_append _ _

/-- The log only grows. -/
theorem Records.log_isPrefix (hrecords : Records version inbound l chunk l') :
    l.log <+: l'.log := by
  refine hrecords.invariant (P := fun m => l.log <+: m.log) ?_ ?_ List.prefix_rfl
  · exact fun h hchange => h.trans hchange.log_isPrefix
  · rintro m m' segment h ⟨⟩
    rw [List.append_assoc]
    exact h.trans (List.prefix_append _ _)

end Growth

end Ledger

end XnnTransfer.Transfer
