import Mathlib.Algebra.Group.Pi.Lemmas
import Mathlib.Algebra.Group.Prod
import Mathlib.Algebra.Order.Group.Multiset
import XnnTransfer.Library.Shares
import XnnTransfer.Transfer.ReceiverRun

/-!
# What an engine holds of its connection

The credit budget of a connection keeps books about the bytes reserved in each
direction and about the open streams. A sender holds outbound bytes and a stream
slot, a receiver inbound bytes and a slot. Every call of either engine changes
the books by exactly what it changes in its own fields, so it keeps them right
whatever the other engines of the connection hold.
-/

namespace XnnTransfer.Transfer

open Protocol Storage Shares

/-- Bytes in each direction and stream slots. -/
abbrev Holding := (CreditDirection → Nat) × Multiset Nat

variable (direction : CreditDirection)

/-- A number of bytes in one direction. -/
def heldBytes (bytes : Nat) : Holding := (Pi.single direction bytes, 0)

@[simp] theorem heldBytes_zero : heldBytes direction 0 = 0 := by
  simp [heldBytes]

theorem heldBytes_add (first second : Nat) :
    heldBytes direction (first + second) =
      heldBytes direction first + heldBytes direction second := by
  simp [heldBytes, Pi.single_add]

/-- The slot of one stream. -/
def heldSlot (streamId : Nat) : Holding := (0, {streamId})

/-- The slots of some streams. -/
def heldSlots (streamIds : List Nat) : Holding := (0, streamIds)

@[simp] theorem heldSlots_nil : heldSlots [] = 0 := rfl

@[simp] theorem heldSlots_cons (streamId : Nat) (rest : List Nat) :
    heldSlots (streamId :: rest) = heldSlot streamId + heldSlots rest := by
  simp [heldSlots, heldSlot]

namespace ConnectionCreditBudget

variable {budget : ConnectionCreditBudget} {direction : CreditDirection} {held : Holding}

/-- The books of a budget record what is held and no release was ever refused. -/
structure Books (budget : ConnectionCreditBudget) (held : Holding) : Prop where
  bytes : budget.reservedBytes = held.1
  slots : (budget.activeStreamIds : Multiset Nat) = held.2
  limit : ∀ direction, budget.reservedBytes direction ≤ budget.limitBytes
  refused : budget.refusedReleases = 0

/-- Replacing the bytes of one direction that one party holds. -/
theorem updates_setReserved {old new bytes : Nat}
    (hbytes : ∀ others, budget.reservedBytes direction = old + others →
      bytes = new + others ∧ bytes ≤ budget.limitBytes) :
    Updates Books budget (heldBytes direction old + held) (budget.setReserved direction bytes)
      (heldBytes direction new + held) := by
  intro frame hbooks
  have hreserved : budget.reservedBytes direction = old + (held.1 + frame.1) direction := by
    rw [hbooks.bytes]
    simp [heldBytes, add_assoc]
  obtain ⟨hnew, hle⟩ := hbytes _ hreserved
  have hset : (budget.setReserved direction bytes).reservedBytes =
      Function.update budget.reservedBytes direction bytes := by
    funext other
    cases direction <;> cases other <;> rfl
  have hlimit : (budget.setReserved direction bytes).limitBytes = budget.limitBytes := by
    cases direction <;> rfl
  refine ⟨?_, by cases direction <;> exact hbooks.slots, fun other => ?_,
    by cases direction <;> exact hbooks.refused⟩
  · rw [hset, hbooks.bytes]
    funext other
    by_cases hother : other = direction
    · subst hother
      simp [heldBytes, hnew, add_assoc]
    · simp [heldBytes, hother]
  rw [hlimit, hset]
  by_cases hother : other = direction
  · rw [hother, Function.update_self]
    exact hle
  rw [Function.update_of_ne hother]
  exact hbooks.limit other

variable {bytes streamId : Nat}

theorem updates_tryReserve (h : (budget.tryReserve direction bytes).1 = true) :
    Updates Books budget held (budget.tryReserve direction bytes).2
      (heldBytes direction bytes + held) := by
  unfold tryReserve at h ⊢
  split at h
  · cases h
  rename_i hroom
  push Not at hroom
  rw [if_neg (by push Not; exact hroom)]
  have hupdate := @updates_setReserved budget direction held 0 bytes
    (budget.reservedBytes direction + bytes) fun others hothers => by omega
  rwa [heldBytes_zero, zero_add] at hupdate

theorem updates_release :
    Updates Books budget (heldBytes direction bytes + held) (budget.release direction bytes)
      held := by
  intro frame hbooks
  have hreserved : budget.reservedBytes direction = bytes + (held.1 + frame.1) direction := by
    rw [hbooks.bytes]
    simp [heldBytes, add_assoc]
  have hle := hbooks.limit direction
  have hupdate := @updates_setReserved budget direction held bytes 0
    (budget.reservedBytes direction - bytes) fun others hothers => by omega
  unfold release
  rw [if_neg (by omega)]
  rw [heldBytes_zero, zero_add] at hupdate
  exact hupdate frame hbooks

/-- An adjustment that gives back no more than the party holds only fails for lack of room. -/
theorem updates_tryAdjust {old release reserve : Nat} (hrelease : release ≤ old) :
    Updates Books budget (heldBytes direction old + held)
      (budget.tryAdjust direction release reserve).2
      (heldBytes direction
        (if (budget.tryAdjust direction release reserve).1 then old - release + reserve else old) +
        held) := by
  intro frame hbooks
  have hreserved : budget.reservedBytes direction = old + (held.1 + frame.1) direction := by
    rw [hbooks.bytes]
    simp [heldBytes, add_assoc]
  unfold tryAdjust
  rw [if_neg (by omega)]
  simp only
  split
  · exact hbooks
  rename_i hroom
  push Not at hroom
  refine @updates_setReserved budget direction held old _ _ (fun others hothers => ?_) frame hbooks
  rw [if_pos rfl]
  omega

/-! ### Stream slots -/

theorem removeSlot_perm {ids : List Nat} (h : streamId ∈ ids) :
    (removeSlot ids streamId).Perm (ids.erase streamId) := by
  induction ids using List.reverseRecOn with
  | nil => cases h
  | append_singleton init last _ =>
    unfold removeSlot
    by_cases hinit : streamId ∈ init
    · have hlt : init.idxOf streamId < init.length := List.idxOf_lt_length_of_mem hinit
      rw [List.idxOf_append_of_mem hinit, List.set_append_left _ _ hlt,
        List.erase_append_left _ hinit]
      simp only [List.getLastD_concat, List.dropLast_concat]
      rw [List.erase_eq_eraseIdx_of_idxOf rfl]
      exact (List.set_perm_cons_eraseIdx hlt last).trans (List.perm_append_singleton last _).symm
    have hlast : streamId = last := by
      simpa [hinit] using h
    subst hlast
    rw [List.idxOf_append_of_notMem hinit, List.erase_append_right _ hinit]
    simp

theorem updates_closeStream :
    Updates Books budget (heldSlot streamId + held) (budget.closeStream streamId) held := by
  intro frame hbooks
  have hslots : (budget.activeStreamIds : Multiset Nat) = streamId ::ₘ (held.2 + frame.2) := by
    rw [hbooks.slots]
    simp [heldSlot]
  have hmem : streamId ∈ budget.activeStreamIds := by
    rw [← Multiset.mem_coe, hslots]
    exact Multiset.mem_cons_self _ _
  unfold closeStream
  rw [if_pos hmem]
  refine ⟨hbooks.bytes.trans (by simp [heldSlot]), ?_, hbooks.limit, hbooks.refused⟩
  rw [Multiset.coe_eq_coe.mpr (removeSlot_perm hmem), ← Multiset.coe_erase, hslots,
    Multiset.erase_cons_head]
  rfl

theorem books_consumeId (localIsCreator : Bool) (h : budget.Books held) :
    (budget.consumeId localIsCreator).Books held := by
  unfold consumeId
  split <;> split <;> exact ⟨h.bytes, h.slots, h.limit, h.refused⟩

theorem books_initializeRole {role : Role} {fixed : ConnectionCreditBudget}
    (hrole : budget.initializeRole role = some fixed) (h : budget.Books held) :
    fixed.Books held := by
  unfold initializeRole at hrole
  split at hrole
  · cases hrole
    exact ⟨h.bytes, h.slots, h.limit, h.refused⟩
  split at hrole <;> cases hrole
  exact h

/-- Opening a stream takes its slot when it succeeds and nothing otherwise. -/
theorem updates_openStream (streamId : Nat) (localIsCreator : Bool) (role : Role) :
    Updates Books budget held (budget.openStream streamId localIsCreator role).2
      ((if (budget.openStream streamId localIsCreator role).1 = .opened then heldSlot streamId
        else 0) + held) := by
  intro frame hbooks
  unfold openStream
  split
  · simpa using hbooks
  split
  · simpa using hbooks
  rename_i fixed hrole
  have hfixed := books_initializeRole hrole hbooks
  split
  · simpa using hfixed
  split
  · have hconsumed := books_consumeId false hfixed
    split <;> simpa using ‹_›
  rw [if_pos rfl]
  refine books_consumeId localIsCreator ⟨hfixed.bytes.trans (by simp [heldSlot]), ?_,
    hfixed.limit, hfixed.refused⟩
  rw [Multiset.coe_eq_coe.mpr (List.perm_append_singleton streamId _),
    ← Multiset.cons_coe, hfixed.slots]
  simp [heldSlot]

end ConnectionCreditBudget

open ConnectionCreditBudget

/-- The slot of a stream that may be open. -/
def slotIf (reserved : Bool) (streamId : Nat) : Holding := if reserved then heldSlot streamId else 0

theorem updates_closeIf {credit : ConnectionCreditBudget} (reserved : Bool) (streamId : Nat)
    {held : Holding} :
    Updates Books credit (slotIf reserved streamId + held)
      (if reserved then credit.closeStream streamId else credit) held := by
  cases reserved with
  | false => simpa [slotIf] using Updates.refl
  | true => exact updates_closeStream

/-! ### The sender -/

namespace Sender

variable {env : Environment} {s : Sender} {sh : Shared} {call : SenderCall} {o : Outcome Sender}

/-- What a sender holds. -/
def holding (s : Sender) : Holding :=
  heldBytes .outbound (if s.creditReserved then s.reservedCredit else 0) +
    slotIf s.streamReserved s.context.streamId

theorem holding_of_free (h : s.creditReserved = false ∧ s.streamReserved = false) :
    s.holding = 0 := by
  simp [holding, h.1, h.2, slotIf]

/-- `ReleaseResources` gives back exactly what the sender holds. -/
theorem updates_releasedCredit (s : Sender) (credit : ConnectionCreditBudget) :
    Updates Books credit s.holding (s.releasedCredit credit) 0 := by
  have hclose := fun credit => @updates_closeIf credit s.streamReserved s.context.streamId 0
  simp only [add_zero] at hclose
  unfold holding releasedCredit
  cases s.creditReserved with
  | false => simpa using hclose credit
  | true => exact updates_release.trans (hclose _)

/-- The step of a sender that ends with nothing. -/
theorem updates_ended {engine : Sender} {credit : ConnectionCreditBudget}
    (hfree : engine.creditReserved = false ∧ engine.streamReserved = false) :
    Updates Books credit s.holding (s.releasedCredit credit) engine.holding := by
  rw [holding_of_free hfree]
  exact s.updates_releasedCredit credit

theorem EmitsCancel.updates (ho : EmitsCancel s sh o) :
    Updates Books sh.credit s.holding o.shared.credit o.engine.holding := by
  cases ho with
  | emitted | busy => exact .refl
  | exhausted => exact updates_ended ⟨rfl, rfl⟩

theorem EmitsCancelAck.updates (ho : EmitsCancelAck s sh o) :
    Updates Books sh.credit s.holding o.shared.credit o.engine.holding := by
  cases ho <;> exact .refl

variable {increment nextOffset : Nat}

/-- The credit after an acknowledgement is what the budget was adjusted to. -/
theorem Sound.chunkAcked_reservedCredit (h : s.Sound) (hstate : s.state = .sendingFile)
    (hle : nextOffset - s.acknowledgedOffset ≤ s.unacknowledged) (hincrement : increment ≤ maxU32)
    (hreservation : add64 (s.availableCredit + increment)
      (s.unacknowledged - (nextOffset - s.acknowledgedOffset)) ≤ maximumTransferWindow) :
    add64 (s.availableCredit + increment)
        (s.unacknowledged - (nextOffset - s.acknowledgedOffset)) % 2 ^ 32 =
      s.reservedCredit - (nextOffset - s.acknowledgedOffset) + increment := by
  obtain ⟨hsum, hlimit⟩ := h.reserved (h.sending hstate).1
  have hwindow : maximumTransferWindow = 16777216 := rfl
  have hmax : maxU32 = 4294967295 := rfl
  rw [add64_eq (by omega)] at hreservation ⊢
  rw [Nat.mod_eq_of_lt (by omega)]
  omega

/-- An adjustment within what is in flight is never refused as too large. -/
theorem Sound.updates_adjust (h : s.Sound) (hstate : s.state = .sendingFile)
    {release reserve : Nat} {done : Bool} (hle : release ≤ s.unacknowledged)
    (hdone : (sh.credit.tryAdjust .outbound release reserve).1 = done) :
    Updates Books sh.credit s.holding (sh.credit.tryAdjust .outbound release reserve).2
      { s with reservedCredit :=
        if done then s.reservedCredit - release + reserve else s.reservedCredit }.holding := by
  obtain ⟨hreserved, -⟩ := h.sending hstate
  obtain ⟨hsum, -⟩ := h.reserved hreserved
  unfold holding
  rw [hreserved, if_pos rfl, ← hdone]
  exact updates_tryAdjust (by omega)

/-- Every step of a sender changes the books by what it changes in the sender. -/
theorem Sound.updates (h : s.Sound) (hstep : Step env s sh call o) :
    Updates Books sh.credit s.holding o.shared.credit o.engine.holding := by
  cases hstep with
  | failed =>
    rw [(fails_fail ..).engine, (fails_fail ..).credit]
    exact updates_ended ⟨rfl, rfl⟩
  | adjustRefused hstate hsent hle hrefused =>
    rw [(fails_fail ..).engine, (fails_fail ..).credit]
    exact (h.updates_adjust hstate hle hrefused).trans (updates_ended ⟨rfl, rfl⟩)
  | cancelTimeout =>
    rw [(fails_cancelTimeout ..).engine, (fails_cancelTimeout ..).credit]
    exact updates_ended ⟨rfl, rfl⟩
  | cancelEmission hstate hpending ho | ackEmission hpending ho
  | reacknowledged hterm hreads htype ho | cancelBegun hterm hcancelling hcreated ho =>
    exact ho.updates
  | finished | shutdownFinished | ackApplied | remoteError | completedCancelling | rejected
  | completed => exact updates_ended ⟨rfl, rfl⟩
  | remoteCancel hterm hcreated hreads htype ho =>
    exact (updates_ended ⟨rfl, rfl⟩).trans ho.updates
  | accepted hstate hreads htype hid hwindow hreserved =>
    have hstart : s.holding = slotIf s.streamReserved s.context.streamId := by
      simp [holding, (h.beforeFile (.inr (.inr hstate))).2.1]
    rw [hstart]
    exact updates_tryReserve hreserved
  | acked hstate hreads htype hid hfirst hlast hle hincrement hreservation hadjusted =>
    have hupdate := h.updates_adjust hstate hle hadjusted
    rw [if_pos rfl, ← h.chunkAcked_reservedCredit hstate hle hincrement hreservation] at hupdate
    exact hupdate
  | _ => exact .refl

/-- A new sender has taken its slot and nothing else; a sender that was not made has taken nothing. -/
theorem updates_create {context : TransferContext} {manifest : OneFileManifest}
    {sourceSize : Option Nat} {sh' : Shared} {update : TransferUpdate} {made : Option Sender}
    (h : create env context manifest sourceSize sh = (update, made, sh')) :
    Updates Books sh.credit 0 sh'.credit ((made.map holding).getD 0) := by
  have hopen := @updates_openStream sh.credit 0 context.streamId true context.localRole
  simp only [create, tryOpenStream] at h
  split at h
  · cases h
    exact .refl
  split at h
  · cases h
    exact .refl
  split at h
  · cases h
    exact .refl
  simp only [decide_eq_false_iff_not] at h
  split at h
  · rename_i hnot
    rw [if_neg hnot] at hopen
    cases h
    simpa using hopen
  rename_i hopened
  rw [if_pos (not_not.mp hopened)] at hopen
  split at h <;> cases h
  · exact hopen.trans updates_closeStream
  · simpa [holding, slotIf] using hopen

end Sender

/-! ### The receiver -/

namespace Receiver

variable {r r' : Receiver} {sh sh' : Shared} {call : ReceiverCall} {o : Outcome Receiver}

/-- What a receiver holds. -/
def holding (r : Receiver) : Holding :=
  heldBytes .inbound (if r.creditReserved then r.initialWindow else 0) +
    slotIf r.streamReserved r.context.streamId

theorem holding_of_free (h : r.creditReserved = false ∧ r.streamReserved = false) :
    r.holding = 0 := by
  simp [holding, h.1, h.2, slotIf]

/-- `ReleaseCredit` gives back exactly the bytes the receiver holds. -/
theorem updates_releasedInbound (r : Receiver) (credit : ConnectionCreditBudget) :
    Updates Books credit r.holding (r.releasedInbound credit)
      (slotIf r.streamReserved r.context.streamId) := by
  unfold holding releasedInbound
  cases r.creditReserved with
  | false => simpa using Updates.refl
  | true => exact updates_release

/-- `ReleaseStream` gives back exactly the slot the receiver holds. -/
theorem updates_releasedStream (r : Receiver) (credit : ConnectionCreditBudget) :
    Updates Books credit r.holding (r.releasedStream credit) r.streamReleased.holding := by
  have hclose := @updates_closeIf credit r.streamReserved r.context.streamId
    (heldBytes .inbound (if r.creditReserved then r.initialWindow else 0))
  rw [add_comm] at hclose
  have hend : r.streamReleased.holding =
      heldBytes .inbound (if r.creditReserved then r.initialWindow else 0) := add_zero _
  rw [hend]
  exact hclose

theorem updates_releasedCredit (r : Receiver) (credit : ConnectionCreditBudget) :
    Updates Books credit r.holding (r.releasedCredit credit) 0 := by
  have hclose := fun credit => @updates_closeIf credit r.streamReserved r.context.streamId 0
  simp only [add_zero] at hclose
  exact (r.updates_releasedInbound credit).trans (hclose _)

theorem updates_ended {engine : Receiver} {credit : ConnectionCreditBudget}
    (hfree : engine.creditReserved = false ∧ engine.streamReserved = false) :
    Updates Books credit r.holding (r.releasedCredit credit) engine.holding := by
  rw [holding_of_free hfree]
  exact r.updates_releasedCredit credit

theorem Silent.updates (hmove : Silent call r sh r' sh') :
    Updates Books sh.credit r.holding sh'.credit r'.holding := by
  have hopen := @updates_openStream sh.credit r.holding r.context.streamId false r.context.localRole
  cases hmove with
  | streamOpened hstate hfree hopened =>
    rw [hopened, if_pos rfl] at hopen
    simpa [holding, slotIf, hfree, add_comm] using hopen
  | streamRefused hstate hfree hrefused =>
    rw [if_neg hrefused, zero_add] at hopen
    exact hopen
  | creditReserved hstate hfree hwindow hreserved =>
    have hstart : r.holding = slotIf r.streamReserved r.context.streamId := by
      simp [holding, hfree]
    rw [hstart]
    exact updates_tryReserve hreserved
  | rejectBegun =>
    have hend := r.updates_releasedInbound sh.credit
    simpa [holding, rejecting, creditReleased, withTransaction] using hend
  | remotelyCancelled =>
    refine updates_ended ?_
    unfold Receiver.remotelyCancelled
    split <;> exact ⟨rfl, rfl⟩
  | _ =>
    unfold holding
    exact .refl

theorem Moves.updates (hmoves : Moves call r sh r' sh') :
    Updates Books sh.credit r.holding sh'.credit r'.holding := by
  induction hmoves with
  | refl => exact .refl
  | head hmove _ ih => exact hmove.updates.trans ih

theorem Final.updates (hfinal : Final call r sh o) :
    Updates Books sh.credit r.holding o.shared.credit o.engine.holding := by
  cases hfinal with
  | quiet | ackDropped | fileCommitEmitted | acceptEmitted | shutdownTerminal => exact .refl
  | rejectEmitted => exact r.updates_releasedStream sh.credit
  | chunkTaken hwrites hnew =>
    subst hnew
    exact .refl
  | chunkUnanswered hwrites hnew =>
    subst hnew
    exact updates_ended ⟨rfl, rfl⟩
  | cancelEmission hcall hstate hpending ho =>
    cases ho with
    | emitted | busy => exact .refl
    | exhausted => exact updates_ended ⟨rfl, rfl⟩
  | ackEmission hpending ho => cases ho <;> exact .refl
  | _ => exact updates_ended ⟨rfl, rfl⟩

/-- Every step of a receiver changes the books by what it changes in the receiver. -/
theorem Step.updates (hstep : Step r sh call o) :
    Updates Books sh.credit r.holding o.shared.credit o.engine.holding := by
  obtain ⟨r', sh', hmoves, hfinal⟩ := hstep
  exact hmoves.updates.trans hfinal.updates

end Receiver

end XnnTransfer.Transfer
