import XnnTransfer.Library.Segments
import XnnTransfer.Transfer.Session

/-!
# What holds in every run of the sender

`Sender.Sound` relates the counters, the credit and the phase of a sender. It
holds for a new sender and every step keeps it. `Sender.Conforms` is the
contract of the sender with respect to its history: what it emits, in which
order, and what it must have received before.
-/

namespace XnnTransfer.Transfer

open Protocol Storage Segments

namespace Sender

/-- No frame of the file has been sent yet. -/
def beforeFile (s : Sender) : Prop :=
  s.state = .created ∨ s.state = .sendingManifest ∨ s.state = .awaitingDecision

/-- The invariant of the sender's own fields. -/
structure Sound (s : Sender) : Prop where
  size_le : s.manifest.fileSize ≤ maxFileBytes
  sent_le : s.bytesSent ≤ s.manifest.fileSize
  acknowledged_le : s.acknowledgedOffset ≤ s.bytesSent
  unacknowledged_eq : s.unacknowledged = s.bytesSent - s.acknowledgedOffset
  reserved : s.creditReserved = true →
    s.reservedCredit = s.availableCredit + s.unacknowledged ∧
      s.reservedCredit ≤ maximumTransferWindow
  terminal : isTerminal s.state = true → s.creditReserved = false ∧ s.streamReserved = false
  isShutdown : s.isShutdown = true → isTerminal s.state = true
  ackPending : s.cancellation.ackPending = true → isTerminal s.state = true
  record : isTerminal s.state = false → s.terminal = {}
  fresh : s.state = .created → s.manifestStage = 0
  stage : s.state = .sendingManifest → s.manifestStage ≤ 1
  beforeFile : s.beforeFile → s.bytesSent = 0 ∧ s.creditReserved = false ∧
    s.fileBeginSent = false ∧ s.fileEndSent = false
  sending : s.state = .sendingFile → s.creditReserved = true ∧ s.fileEndSent = false ∧
    minimumChunkSize ≤ s.chunkSize ∧ (s.fileBeginSent = false → s.bytesSent = 0)
  sent : s.state = .awaitingFileCommit ∨ s.state = .completing →
    s.acknowledgedOffset = s.manifest.fileSize ∧ s.creditReserved = true

/-- A cancel acknowledgement always ends the transfer. -/
theorem isTerminal_cancelAckEnd (code : WireErrorCode) :
    isTerminal (cancelAckEnd code).1 = true := by
  unfold cancelAckEnd
  split
  · rfl
  split
  · rfl
  · split <;> rfl

section Preservation

variable {env : Environment} {s : Sender} {sh : Shared} {call : SenderCall} {o : Outcome Sender}

theorem Sound.unacknowledged_lt (h : s.Sound) : s.unacknowledged < 2 ^ 63 := by
  have hsize : maxFileBytes < 2 ^ 63 := by decide
  have := h.size_le
  have := h.sent_le
  have := h.unacknowledged_eq
  omega

variable {p : Prop} {t : Nat} {terminal : TerminalRecord} {cancellation : Cancellation}

theorem Sound.absurd_shutdown (h : s.Sound) (hterm : isTerminal s.state = false)
    (hdown : s.isShutdown = true) : p := by
  have := h.isShutdown hdown
  rw [hterm] at this
  cases this

theorem Sound.absurd_ackPending (h : s.Sound) (hterm : isTerminal s.state = false)
    (hack : s.cancellation.ackPending = true) : p := by
  have := h.ackPending hack
  rw [hterm] at this
  cases this

/-- Every step that ends a transfer releases what the sender holds. -/
theorem Sound.ended (h : s.Sound) {state : TransferState} {isShutdown : Bool}
    (hstate : isTerminal state = true) :
    Sound { (s.atTime t).released with
      state := state
      terminal := terminal
      cancellation := cancellation
      isShutdown := isShutdown } where
  size_le := h.size_le
  sent_le := h.sent_le
  acknowledged_le := h.acknowledged_le
  unacknowledged_eq := h.unacknowledged_eq
  reserved := by simp [released]
  terminal := by simp [released]
  isShutdown := fun _ => hstate
  ackPending := fun _ => hstate
  record := fun hactive => absurd (hactive.symm.trans hstate) (by decide)
  fresh := by
    rintro rfl
    cases hstate
  stage := by
    rintro rfl
    cases hstate
  beforeFile := by
    rintro (rfl | rfl | rfl) <;> cases hstate
  sending := by
    rintro rfl
    cases hstate
  sent := by
    rintro (rfl | rfl) <;> cases hstate

/-- The clock and most of the cancellation record are free. -/
theorem Sound.relabelled (h : s.Sound)
    (hack : cancellation.ackPending = true → isTerminal s.state = true)
    (hrecord : isTerminal s.state = false → terminal = {}) :
    Sound { s with lastNowMs := t, terminal := terminal, cancellation := cancellation } :=
  { h with ackPending := hack, record := hrecord }

theorem Sound.atTime (h : s.Sound) (t : Nat) : Sound (s.atTime t) :=
  h.relabelled h.ackPending h.record

theorem Sound.cancelling (h : s.Sound) (hterm : isTerminal s.state = false) :
    Sound s.cancelling where
  size_le := h.size_le
  sent_le := h.sent_le
  acknowledged_le := h.acknowledged_le
  unacknowledged_eq := h.unacknowledged_eq
  reserved := h.reserved
  terminal := by simp [Sender.cancelling, isTerminal]
  isShutdown := h.absurd_shutdown hterm
  ackPending := by simp [Sender.cancelling]
  record := fun _ => rfl
  fresh := by simp [Sender.cancelling]
  stage := by simp [Sender.cancelling]
  beforeFile := by simp [Sender.cancelling, Sender.beforeFile]
  sending := by simp [Sender.cancelling]
  sent := by simp [Sender.cancelling]

theorem Sound.emitsCancel (h : s.Sound) (ho : EmitsCancel s sh o) : Sound o.engine := by
  cases ho with
  | emitted => exact h.relabelled h.ackPending h.record
  | busy => exact h
  | exhausted => exact h.ended rfl

theorem Sound.emitsCancelAck (h : s.Sound) (ho : EmitsCancelAck s sh o)
    (hterm : isTerminal s.state = true) : Sound o.engine := by
  cases ho with
  | emitted | exhausted => exact h.relabelled (by simp) h.record
  | busy => exact h
  | exhaustedTerminal =>
    refine h.relabelled (by simp [cancelAckDropped]) fun hactive => ?_
    cases hactive.symm.trans hterm

theorem Sound.chunkSent (h : s.Sound) (hstate : s.state = .sendingFile)
    (hbegun : s.fileBeginSent = true) (hcredit : s.wanted ≤ s.availableCredit) (t nowMs : Nat) :
    Sound ((s.atTime t).chunkSent nowMs) := by
  obtain ⟨hreserved, hend, hchunk, -⟩ := h.sending hstate
  obtain ⟨hsum, hlimit⟩ := h.reserved hreserved
  have hwanted : s.bytesSent + s.wanted ≤ s.manifest.fileSize := by
    have := h.sent_le
    unfold wanted
    omega
  have hwindow : maximumTransferWindow = 16777216 := rfl
  have hadd : add64 s.unacknowledged s.wanted = s.unacknowledged + s.wanted :=
    add64_eq (by omega)
  have hle := h.acknowledged_le
  have heq := h.unacknowledged_eq
  refine { h with
    sent_le := hwanted, acknowledged_le := ?_, unacknowledged_eq := ?_, reserved := fun _ => ?_,
    beforeFile := ?_, sending := ?_, sent := ?_ }
  · exact le_trans hle (Nat.le_add_right _ _)
  · show add64 s.unacknowledged s.wanted = s.bytesSent + s.wanted - s.acknowledgedOffset
    omega
  · show s.reservedCredit = s.availableCredit - s.wanted + add64 s.unacknowledged s.wanted ∧ _
    exact ⟨by omega, hlimit⟩
  · rintro (hother | hother | hother) <;> cases hstate.symm.trans hother
  · refine fun _ => ⟨hreserved, hend, hchunk, fun hnot => ?_⟩
    cases hbegun.symm.trans hnot
  · rintro (hother | hother) <;> cases hstate.symm.trans hother

theorem Sound.chunkAcked (h : s.Sound) (hstate : s.state = .sendingFile)
    {nextOffset increment : Nat} (hfirst : s.acknowledgedOffset ≤ nextOffset)
    (hlast : nextOffset ≤ s.bytesSent) (hincrement : increment ≤ maxU32)
    (hreservation : add64 (s.availableCredit + increment)
      (s.unacknowledged - (nextOffset - s.acknowledgedOffset)) ≤ maximumTransferWindow)
    (t nowMs : Nat) : Sound ((s.atTime t).chunkAcked nextOffset increment nowMs) := by
  obtain ⟨hreserved, hend, hchunk, hbegun⟩ := h.sending hstate
  obtain ⟨hsum, hlimit⟩ := h.reserved hreserved
  have hwindow : maximumTransferWindow = 16777216 := rfl
  have hmax : maxU32 = 4294967295 := rfl
  have heq := h.unacknowledged_eq
  rw [add64_eq (by omega)] at hreservation
  refine { h with
    acknowledged_le := hlast, unacknowledged_eq := ?_, reserved := fun _ => ?_, beforeFile := ?_,
    sending := fun _ => ⟨hreserved, hend, hchunk, hbegun⟩, sent := ?_ }
  · show s.unacknowledged - (nextOffset - s.acknowledgedOffset) = s.bytesSent - nextOffset
    omega
  · show add64 (s.availableCredit + increment)
        (s.unacknowledged - (nextOffset - s.acknowledgedOffset)) % 2 ^ 32 =
        (s.availableCredit + increment) % 2 ^ 32 +
          (s.unacknowledged - (nextOffset - s.acknowledgedOffset)) ∧
      add64 (s.availableCredit + increment)
        (s.unacknowledged - (nextOffset - s.acknowledgedOffset)) % 2 ^ 32 ≤ maximumTransferWindow
    rw [add64_eq (by omega), Nat.mod_eq_of_lt (by omega), Nat.mod_eq_of_lt (by omega)]
    exact ⟨rfl, hreservation⟩
  · rintro (hother | hother | hother) <;> cases hstate.symm.trans hother
  · rintro (hother | hother) <;> cases hstate.symm.trans hother

theorem Sound.acceptedWith (h : s.Sound) (hstate : s.state = .awaitingDecision)
    {chunk window : Nat} (hwindow : ¬ windowRefused s.context.limits chunk window)
    (t nowMs : Nat) : Sound ((s.atTime t).acceptedWith chunk window nowMs) := by
  obtain ⟨hsent, -, hbegun, hend⟩ := h.beforeFile (.inr (.inr hstate))
  unfold windowRefused at hwindow
  push Not at hwindow
  have heq := h.unacknowledged_eq
  refine { h with
    reserved := fun _ => ⟨?_, hwindow.2.2.2.2.2.1⟩
    terminal := by simp [Sender.acceptedWith, isTerminal]
    isShutdown := h.absurd_shutdown (hstate ▸ rfl)
    ackPending := h.absurd_ackPending (hstate ▸ rfl)
    record := fun _ => h.record (hstate ▸ rfl)
    fresh := by simp [Sender.acceptedWith]
    stage := by simp [Sender.acceptedWith]
    beforeFile := by simp [Sender.acceptedWith, Sender.beforeFile]
    sending := fun _ => ⟨rfl, hend, hwindow.1, fun _ => hsent⟩
    sent := by simp [Sender.acceptedWith] }
  show window = window + s.unacknowledged
  omega

/-- Every step keeps the invariant. -/
theorem Sound.step (h : s.Sound) (hstep : Step env s sh call o) : Sound o.engine := by
  cases hstep with
  | quiet => exact h.atTime _
  | ackDropped => exact h.relabelled (by simp) h.record
  | failed | adjustRefused =>
    rw [(fails_fail ..).engine]
    exact h.ended rfl
  | cancelTimeout =>
    rw [(fails_cancelTimeout ..).engine]
    exact h.ended rfl
  | offered hstate =>
    exact { h with
      terminal := by simp [isTerminal]
      isShutdown := h.absurd_shutdown (hstate ▸ rfl)
      ackPending := h.absurd_ackPending (hstate ▸ rfl)
      record := fun _ => h.record (hstate ▸ rfl)
      fresh := by simp
      stage := fun _ => (h.fresh hstate).trans_le (Nat.zero_le 1)
      beforeFile := fun _ => h.beforeFile (.inl hstate)
      sending := by simp
      sent := by simp }
  | entrySent hstate hstage =>
    exact { h with
      fresh := fun hcreated => absurd (hstate.symm.trans hcreated) (by decide)
      stage := fun _ => by rw [hstage] }
  | endSent hstate =>
    exact { h with
      terminal := by simp [isTerminal]
      isShutdown := h.absurd_shutdown (hstate ▸ rfl)
      ackPending := h.absurd_ackPending (hstate ▸ rfl)
      record := fun _ => h.record (hstate ▸ rfl)
      fresh := by simp
      stage := by simp
      beforeFile := fun _ => h.beforeFile (.inr (.inl hstate))
      sending := by simp
      sent := by simp }
  | beginSent hstate hbegun =>
    obtain ⟨hreserved, hend, hchunk, hnone⟩ := h.sending hstate
    exact { h with
      beforeFile := by
        rintro (hother | hother | hother) <;> cases hstate.symm.trans hother
      sending := fun _ => ⟨hreserved, hend, hchunk, fun _ => hnone hbegun⟩ }
  | chunkSent hstate hbegun hleft hcredit => exact h.chunkSent hstate hbegun hcredit _ _
  | fileEndSent hstate hbegun hall hunacknowledged =>
    have hsent := h.sent_le
    have hle := h.acknowledged_le
    have heq := h.unacknowledged_eq
    exact { h with
      terminal := by simp [isTerminal]
      isShutdown := h.absurd_shutdown (hstate ▸ rfl)
      ackPending := h.absurd_ackPending (hstate ▸ rfl)
      record := fun _ => h.record (hstate ▸ rfl)
      fresh := by simp
      stage := by simp
      beforeFile := by simp [Sender.beforeFile]
      sending := by simp
      sent := fun _ => ⟨by show s.acknowledgedOffset = s.manifest.fileSize; omega,
        (h.sending hstate).1⟩ }
  | cancelEmission hstate hpending ho => exact (h.atTime _).emitsCancel ho
  | ackEmission hpending ho => exact (h.atTime _).emitsCancelAck ho (h.ackPending hpending)
  | reacknowledged hterm hreads htype ho =>
    exact Sound.emitsCancelAck (h.relabelled (fun _ => hterm) h.record) ho hterm
  | cancelBegun hterm hcancelling hcreated ho =>
    exact ((h.atTime _).cancelling (by exact hterm)).emitsCancel ho
  | finished | shutdownFinished | remoteError | completedCancelling | rejected | completed =>
    exact h.ended rfl
  | shutdownTerminal hterm =>
    exact { h with isShutdown := fun _ => hterm, ackPending := fun _ => hterm }
  | ackApplied => exact h.ended (isTerminal_cancelAckEnd _)
  | remoteCancel hterm hcreated hreads htype ho =>
    exact Sound.emitsCancelAck (h.ended rfl) ho rfl
  | accepted hstate hreads htype hid hwindow => exact h.acceptedWith hstate hwindow _ _
  | acked hstate hreads htype hid hfirst hlast hle hincrement hreservation =>
    exact h.chunkAcked hstate hfirst hlast hincrement hreservation _ _
  | completeSent hstate =>
    exact { h with
      terminal := by simp [isTerminal]
      isShutdown := h.absurd_shutdown (hstate ▸ rfl)
      ackPending := h.absurd_ackPending (hstate ▸ rfl)
      record := fun _ => h.record (hstate ▸ rfl)
      fresh := by simp
      stage := by simp
      beforeFile := by simp [Sender.beforeFile]
      sending := by simp
      sent := fun _ => h.sent (.inl hstate) }

theorem EmitsCancel.constant (ho : EmitsCancel s sh o) :
    o.engine.context = s.context ∧ o.engine.manifest = s.manifest := by
  cases ho <;> exact ⟨rfl, rfl⟩

theorem EmitsCancelAck.constant (ho : EmitsCancelAck s sh o) :
    o.engine.context = s.context ∧ o.engine.manifest = s.manifest := by
  cases ho <;> exact ⟨rfl, rfl⟩

/-- The context and the manifest never change. -/
theorem Step.constant (hstep : Step env s sh call o) :
    o.engine.context = s.context ∧ o.engine.manifest = s.manifest := by
  cases hstep with
  | failed | adjustRefused =>
    rw [(fails_fail ..).engine]
    exact ⟨rfl, rfl⟩
  | cancelTimeout =>
    rw [(fails_cancelTimeout ..).engine]
    exact ⟨rfl, rfl⟩
  | cancelEmission hstate hpending ho | ackEmission hpending ho
  | reacknowledged hterm hreads htype ho | cancelBegun hterm hcancelling hcreated ho
  | remoteCancel hterm hcreated hreads htype ho => exact ho.constant
  | _ => exact ⟨rfl, rfl⟩

/-- A new sender satisfies the invariant. -/
theorem sound_create {context : TransferContext} {manifest : OneFileManifest}
    {sourceSize : Option Nat} {sh' : Shared} {update : TransferUpdate}
    (h : create env context manifest sourceSize sh = (update, some s, sh')) :
    s = { context := context, manifest := manifest, streamReserved := true } ∧ s.Sound := by
  simp only [create] at h
  split at h
  · cases h
  rename_i hvalid
  push Not at hvalid
  split at h
  · cases h
  split at h
  · cases h
  split at h
  · cases h
  split at h <;> cases h
  refine ⟨rfl, ?_⟩
  constructor <;> simp [isTerminal, Sender.beforeFile]
  exact hvalid.2.2.2.1

end Preservation

/-- Whatever happens to a sender, its counters, its credit and its state fit together. -/
theorem run_sound {env : Environment} {context : TransferContext} {manifest : OneFileManifest}
    {sourceSize : Option Nat} {sh sh' : Shared} {update : TransferUpdate} {s : Sender}
    (hcreate : create env context manifest sourceSize sh = (update, some s, sh'))
    (actions : List (Action SenderCall)) :
    (Runs.run act ⟨s, sh', []⟩ actions).engine.Sound :=
  act_invariant (P := fun session => session.engine.Sound) (fun _ _ _ _ h hstep => h.step hstep)
    (fun _ _ h => h) (sound_create hcreate).2 actions

theorem run_sound_plain :
    (Runs.run act (plainSender [5]) [.call (plainEnvironment [5]) (.start 0)]).engine.Sound :=
  run_sound create_plainSender _

end Sender

end XnnTransfer.Transfer
