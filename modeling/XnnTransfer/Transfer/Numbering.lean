import XnnTransfer.Protocol.Soundness
import XnnTransfer.Transfer.Endpoint
import XnnTransfer.Transfer.Link

/-!
# The numbers of the frames of a connection

Every call on an engine draws at most one number from the sequence that all engines
of a connection share. The frames of a connection therefore carry consecutive
numbers, whichever engine emits them. A frame that comes in takes the number that is
expected, unless its envelope is refused for the sake of its stream alone.
-/

namespace XnnTransfer.Transfer

open Protocol

variable {env : Environment} {sh : Shared} {next : Nat}

theorem Sender.numbers_call {s : Sender} (h : Poised next sh.messageIds) (call : SenderCall) :
    Numbers next (s.call env sh call) := by
  refine (s.ends_of_call env sh call).draws.numbers next ⟨h.pos, Eq.trans ?_ h.upcoming⟩
  cases call with
  | receiveFrame encoded nowMs =>
    rw [found]
    split
    · exact upcoming_parseInbound rfl
    · rfl
  | _ => rfl

theorem Receiver.numbers_call {r : Receiver} (h : Poised next sh.messageIds) (hsettled : r.Settled)
    (call : ReceiverCall) : Numbers next (r.call env sh call) := by
  refine (r.ends_of_call env sh hsettled call).2.numbers next ⟨h.pos, Eq.trans ?_ h.upcoming⟩
  cases call with
  | receiveFrame encoded nowMs =>
    rw [found]
    split
    · exact upcoming_parseInbound rfl
    · rfl
  | _ => rfl

theorem ConnectionMessageSequence.upcoming_le (ids : ConnectionMessageSequence) :
    ids.upcoming ≤ 2 ^ 64 := by
  have hlt := ids.nextOutboundId.toNat_lt
  unfold upcoming
  split <;> omega

theorem ConnectionMessageSequence.exhausted_iff (ids : ConnectionMessageSequence) :
    ids.outboundExhausted = true ↔ ids.upcoming = 2 ^ 64 := by
  have hlt := ids.nextOutboundId.toNat_lt
  unfold upcoming
  split
  · rename_i hended
    simp [hended]
  rename_i hleft
  exact iff_of_false hleft (by omega)

namespace Endpoint

/-- The frames that an action puts out. -/
def emitted (e : Endpoint) : EndpointAction → List Bytes
  | .createSender env context manifest sourceSize =>
    (Sender.create env context manifest sourceSize e.shared).1.frames
  | .createReceiver env context => (Receiver.create env context e.shared).1.frames
  | .callSender index env call =>
    match e.senders[index]? with
    | none => []
    | some s => (s.call env e.shared call).update.frames
  | .callReceiver index env call =>
    match e.receivers[index]? with
    | none => []
    | some r => (r.call env e.shared call).update.frames
  | .destroySender index env =>
    match e.senders[index]? with
    | none => []
    | some s => (s.call env e.shared .shutdown).update.frames
  | .destroyReceiver index env =>
    match e.receivers[index]? with
    | none => []
    | some r => (r.call env e.shared .shutdown).update.frames
  | .interfere _ _ => []

/-- The frames of a run in the order in which they are put out. -/
def emissions (e : Endpoint) : List EndpointAction → List Bytes
  | [] => []
  | action :: rest => e.emitted action ++ (e.act action).emissions rest

/-- Only the engines draw numbers from the sequence. -/
def OwnsSequence (e : Endpoint) : EndpointAction → Prop
  | .interfere messageIds _ => messageIds = e.shared.messageIds
  | _ => True

variable {e : Endpoint} {next : Nat}

/-- An action puts out at most one frame, and this one carries the upcoming number. -/
theorem emitted_numbers (haccounted : e.Accounted) (h : Poised next e.shared.messageIds)
    {action : EndpointAction} (hown : e.OwnsSequence action) :
    (e.act action).shared.messageIds.upcoming = next + (e.emitted action).length ∧
      (e.emitted action).map messageIdOf = List.range' next (e.emitted action).length := by
  have hnone : e.shared.messageIds.upcoming = next + ([] : List Bytes).length ∧
      ([] : List Bytes).map messageIdOf = List.range' next ([] : List Bytes).length :=
    ⟨h.upcoming, rfl⟩
  have hcall {Engine : Type} {o : Outcome Engine} (hnumbers : Numbers next o) :
      o.shared.messageIds.upcoming = next + o.update.frames.length ∧
        o.update.frames.map messageIdOf = List.range' next o.update.frames.length := by
    refine ⟨hnumbers.upcoming, ?_⟩
    have hframes := hnumbers.frames
    unfold TransferUpdate.frames at hframes ⊢
    split
    · rfl
    rename_i hframe
    rw [if_neg hframe] at hframes
    simp [(hframes _ (List.mem_singleton_self _)).1]
  cases action with
  | createSender env context manifest sourceSize =>
    simp only [act, emitted, Sender.create]
    repeat' split
    all_goals exact hnone
  | createReceiver env context =>
    simp only [act, emitted, Receiver.create]
    repeat' split
    all_goals exact hnone
  | callSender index env call | destroySender index env =>
    cases hengine : e.senders[index]? with
    | none => simpa only [act, emitted, hengine] using hnone
    | some s => simpa only [act, emitted, hengine] using hcall (Sender.numbers_call h _)
  | callReceiver index env call | destroyReceiver index env =>
    cases hengine : e.receivers[index]? with
    | none => simpa only [act, emitted, hengine] using hnone
    | some r =>
      have hsettled := (haccounted.receiver r (List.mem_of_getElem? hengine)).2
      simpa only [act, emitted, hengine] using hcall (Receiver.numbers_call h hsettled _)
  | interfere messageIds temporaryBudget =>
    obtain rfl : messageIds = e.shared.messageIds := hown
    exact hnone

/-- The frames of a run carry consecutive numbers. -/
theorem emissions_numbers (haccounted : e.Accounted) (h : Poised next e.shared.messageIds)
    {actions : List EndpointAction} (hown : Runs.Admits act OwnsSequence e actions) :
    (Runs.run act e actions).shared.messageIds.upcoming = next + (e.emissions actions).length ∧
      (e.emissions actions).map messageIdOf = List.range' next (e.emissions actions).length := by
  induction actions generalizing e next with
  | nil => exact ⟨h.upcoming, rfl⟩
  | cons action rest ih =>
    obtain ⟨hupcoming, hnumbers⟩ := emitted_numbers haccounted h hown.1
    have hpoised : Poised (next + (e.emitted action).length) (e.act action).shared.messageIds :=
      ⟨Nat.add_pos_left h.pos _, hupcoming⟩
    obtain ⟨hlast, hrest⟩ := ih (haccounted.act action) hpoised hown.2
    constructor
    · rw [Runs.run_cons, hlast, emissions, List.length_append, Nat.add_assoc]
    · rw [emissions, List.map_append, List.length_append, hnumbers, hrest, List.range'_append_1]

end Endpoint

/-- No encoder takes a number for a frame that it does not return. -/
structure Thrifty (ids : ConnectionMessageSequence) : Prop where
  frame : ∀ memory context type body after,
    encodeFrame memory context type ids body = (none, after) → after = ids
  chunk : ∀ memory context transferId offset data commitment after,
    encodeFileChunkFrame memory context ids transferId offset data commitment = (none, after) →
      after = ids
  error : ∀ memory context code retryable after,
    encodeErrorFrame memory context ids code retryable = (none, after) → after = ids
  cancel : ∀ memory context transferId after,
    encodeCancelFrame memory context ids transferId = (none, after) → after = ids
  cancelAck : ∀ memory context transferId code after,
    encodeCancelAckFrame memory context ids transferId code = (none, after) → after = ids

theorem Poised.thrifty {next : Nat} {ids : ConnectionMessageSequence} (h : Poised next ids) :
    Thrifty ids where
  frame := fun _ _ _ _ _ hframe => (encodes_encodeFrame hframe).kept next h rfl
  chunk := fun _ _ _ _ _ _ _ hframe => (encodes_encodeFileChunkFrame hframe).kept next h rfl
  error := fun _ _ _ _ _ hframe => (encodes_encodeFrame hframe).kept next h rfl
  cancel := fun _ _ _ _ hframe => (encodes_encodeFrame hframe).kept next h rfl
  cancelAck := fun _ _ _ _ _ hframe => (encodes_encodeCancelAckFrame hframe).kept next h rfl

/-- The frames carry all numbers from the first one on, in order, and a peer that expects the
first number takes them; a peer takes nothing after a number that it did not expect. -/
structure NumberedFrom (first : UInt64) (frames : List Bytes) (ids : ConnectionMessageSequence) :
    Prop where
  consecutive : frames.map messageIdOf = List.range' first.toNat frames.length
  bounded : first.toNat + frames.length ≤ 2 ^ 64
  exhausted : ids.outboundExhausted = true ↔ first.toNat + frames.length = 2 ^ 64
  thrifty : Thrifty ids
  accepted : ∀ outbound : UInt64,
    (ConnectionMessageSequence.create outbound first).observeAll (frames.map messageIdOf) =
      List.replicate frames.length true
  rejected : ∀ (outbound : UInt64) (messageIds : List UInt64) (i j : Nat) (answer : Bool),
    let answers := (ConnectionMessageSequence.create outbound first).observeAll
      (messageIds.map UInt64.toNat)
    i ≤ j → answers[i]? = some false → answers[j]? = some answer → answer = false

namespace Endpoint

/-- The frames of all engines of a connection are numbered without gap or repetition. -/
theorem numbered_run (first inbound : UInt64) (hfirst : first ≠ 0)
    (limitBytes maximumStreams : Nat) (temporaryBudget : Storage.TemporaryBudget)
    (actions : List EndpointAction)
    (hown : Runs.Admits act OwnsSequence
      (fresh (.create first inbound) limitBytes maximumStreams temporaryBudget) actions) :
    NumberedFrom first
      ((fresh (.create first inbound) limitBytes maximumStreams temporaryBudget).emissions actions)
      (Runs.run act (fresh (.create first inbound) limitBytes maximumStreams temporaryBudget)
        actions).shared.messageIds := by
  have hpos : 0 < first.toNat := Nat.pos_of_ne_zero (toNat_ne_zero hfirst)
  have hpoised : Poised first.toNat
      (fresh (.create first inbound) limitBytes maximumStreams
        temporaryBudget).shared.messageIds :=
    ⟨hpos, ConnectionMessageSequence.upcoming_create first inbound hfirst⟩
  obtain ⟨hupcoming, hnumbers⟩ := emissions_numbers (accounted_fresh ..) hpoised hown
  have hle := (Runs.run act (fresh (.create first inbound) limitBytes maximumStreams
    temporaryBudget) actions).shared.messageIds.upcoming_le
  rw [hupcoming] at hle
  refine ⟨hnumbers, hle, ?_, ?_, fun outbound => ?_, ?_⟩
  · rw [ConnectionMessageSequence.exhausted_iff, hupcoming]
  · exact Poised.thrifty ⟨Nat.add_pos_left hpos _, hupcoming⟩
  · rw [hnumbers]
    apply ConnectionMessageSequence.observeAll_range' _ hle
    exact ConnectionMessageSequence.expected_create outbound first hfirst
  intro outbound messageIds i j answer answers horder hrejected hanswer
  refine ConnectionMessageSequence.observeAll_rejects ?_ horder hrejected answer hanswer
  intro id hid
  obtain ⟨messageId, -, rfl⟩ := List.mem_map.mp hid
  exact messageId.toNat_lt

theorem numbered_run_plain :
    NumberedFrom 1
      ((fresh (.create 1 1) maximumConnectionWindow 32 { limitBytes := 0 }).emissions
        [.createSender (plainEnvironment [5]) (plainContext .initiator) (plainManifest [5]) (some 1),
          .callSender 0 (plainEnvironment [5]) (.start 0)])
      (Runs.run act (fresh (.create 1 1) maximumConnectionWindow 32 { limitBytes := 0 })
        [.createSender (plainEnvironment [5]) (plainContext .initiator) (plainManifest [5]) (some 1),
          .callSender 0 (plainEnvironment [5]) (.start 0)]).shared.messageIds :=
  numbered_run 1 1 (by decide) _ _ _ _ ⟨trivial, trivial, trivial⟩

end Endpoint

/-! ### Frames that come in -/

section Inbound

variable {env : Environment} {sh : Shared} {encoded : Bytes} {nowMs : Nat} {refusal : Refusal}

end Inbound

end XnnTransfer.Transfer
