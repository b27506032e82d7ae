import XnnTransfer.Transfer.Credit

/-!
# The engines of one connection

An endpoint runs any number of senders and receivers that share one credit
budget. Engines are created, called in any order with any inbound bytes, and
destroyed. `conserved_run` says that the budget never loses track of what the
engines hold.
-/

namespace XnnTransfer.Transfer

open Protocol Storage Shares ConnectionCreditBudget

structure Endpoint where
  senders : List Sender := []
  receivers : List Receiver := []
  shared : Shared

inductive EndpointAction
  | createSender (env : Environment) (context : TransferContext) (manifest : OneFileManifest)
      (sourceSize : Option Nat)
  | createReceiver (env : Environment) (context : TransferContext)
  | callSender (index : Nat) (env : Environment) (call : SenderCall)
  | callReceiver (index : Nat) (env : Environment) (call : ReceiverCall)
  | destroySender (index : Nat) (env : Environment)
  | destroyReceiver (index : Nat) (env : Environment)
  | interfere (messageIds : ConnectionMessageSequence) (temporaryBudget : TemporaryBudget)

namespace Endpoint

variable (messageIds : ConnectionMessageSequence) (limitBytes maximumStreams : Nat)
  (temporaryBudget : TemporaryBudget)

/-- An endpoint that has no engine yet. -/
def fresh : Endpoint where
  shared := ⟨messageIds, .create limitBytes maximumStreams, temporaryBudget⟩

def act (e : Endpoint) : EndpointAction → Endpoint
  | .createSender env context manifest sourceSize =>
    let made := Sender.create env context manifest sourceSize e.shared
    { e with senders := e.senders ++ made.2.1.toList, shared := made.2.2 }
  | .createReceiver env context =>
    { e with receivers := e.receivers ++ (Receiver.create env context e.shared).2.toList }
  | .callSender index env call =>
    match e.senders[index]? with
    | none => e
    | some s =>
      let o := s.call env e.shared call
      { e with senders := e.senders.set index o.engine, shared := o.shared }
  | .callReceiver index env call =>
    match e.receivers[index]? with
    | none => e
    | some r =>
      let o := r.call env e.shared call
      { e with receivers := e.receivers.set index o.engine, shared := o.shared }
  -- The destructors call `Shutdown`.
  | .destroySender index env =>
    match e.senders[index]? with
    | none => e
    | some s =>
      { e with
        senders := e.senders.eraseIdx index
        shared := (s.call env e.shared .shutdown).shared }
  | .destroyReceiver index env =>
    match e.receivers[index]? with
    | none => e
    | some r =>
      { e with
        receivers := e.receivers.eraseIdx index
        shared := (r.call env e.shared .shutdown).shared }
  | .interfere messageIds temporaryBudget =>
    { e with
      shared := { e.shared with messageIds := messageIds, temporaryBudget := temporaryBudget } }

/-- The books of the budget agree with what the engines hold. -/
structure Accounted (e : Endpoint) : Prop where
  sender : ∀ s ∈ e.senders, s.Sound
  receiver : ∀ r ∈ e.receivers, r.Sound ∧ r.Settled
  books : e.shared.credit.Books
    (total Sender.holding e.senders + total Receiver.holding e.receivers)

variable {e : Endpoint}

variable {env : Environment} {index : Nat}

variable {s : Sender} {r : Receiver} {context : TransferContext} {update : TransferUpdate}

theorem Accounted.receiverStep (h : e.Accounted) {call : ReceiverCall} {o : Outcome Receiver}
    (hr : e.receivers[index]? = some r) (hstep : Receiver.Step r e.shared call o) :
    Accounted { e with receivers := e.receivers.set index o.engine, shared := o.shared } := by
  have hsound := (h.receiver r (List.mem_of_getElem? hr)).1
  have hbooks := h.books
  refine ⟨h.sender, fun other hother => ?_, ?_⟩
  · rcases List.mem_or_eq_of_mem_set hother with hold | rfl
    · exact h.receiver other hold
    · exact ⟨hsound.step hstep, hsound.settled hstep⟩
  rw [add_comm] at hbooks ⊢
  exact hstep.updates.set hr hbooks

theorem isTerminal_receiverShutdown (env : Environment) (r : Receiver) (sh : Shared) :
    isTerminal (r.call env sh .shutdown).engine.state = true := by
  simp only [Receiver.call, Receiver.shutdown, Receiver.finishCommitted_eq]
  obtain ⟨tx, log, budget, hfinish, -⟩ := Receiver.finishCancelled_spec env
    { r with isShutdown := true, cancellation := r.cancellation.clear } sh
  rw [hfinish]
  split
  · assumption
  · split <;> rfl

/-- A destroyed sender gives back everything. -/
theorem Accounted.senderGone (h : e.Accounted) (env : Environment) (hs : e.senders[index]? = some s) :
    Accounted
      { e with
        senders := e.senders.eraseIdx index
        shared := (s.call env e.shared .shutdown).shared } := by
  have hsound := h.sender s (List.mem_of_getElem? hs)
  have hstep := Sender.step_of_call env s e.shared .shutdown
  have hended : isTerminal (s.call env e.shared .shutdown).engine.state = true := by
    simp only [Sender.call, Sender.shutdown, Sender.finishCancelled_eq]
    split
    · assumption
    · rfl
  have hfree := (hsound.step hstep).terminal hended
  have hupdates := hsound.updates hstep
  rw [Sender.holding_of_free hfree] at hupdates
  refine ⟨fun other hother => h.sender other (List.mem_of_mem_eraseIdx hother), h.receiver, ?_⟩
  exact hupdates.eraseIdx hs h.books

theorem Accounted.receiverGone (h : e.Accounted) (env : Environment)
    (hr : e.receivers[index]? = some r) :
    Accounted
      { e with
        receivers := e.receivers.eraseIdx index
        shared := (r.call env e.shared .shutdown).shared } := by
  obtain ⟨hsound, hsettled⟩ := h.receiver r (List.mem_of_getElem? hr)
  have hstep := Receiver.step_of_call env r e.shared hsettled .shutdown
  have hfree := (hsound.step hstep).released (isTerminal_receiverShutdown env r e.shared)
  have hupdates := hstep.updates
  have hbooks := h.books
  rw [Receiver.holding_of_free hfree] at hupdates
  refine ⟨h.sender, fun other hother => h.receiver other (List.mem_of_mem_eraseIdx hother), ?_⟩
  rw [add_comm] at hbooks ⊢
  exact hupdates.eraseIdx hr hbooks

/-- A new sender joins with its slot. -/
theorem Accounted.senderMade (h : e.Accounted) {manifest : OneFileManifest}
    {sourceSize : Option Nat} {made : Option Sender} {sh : Shared}
    (hmade : Sender.create env context manifest sourceSize e.shared = (update, made, sh)) :
    Accounted { e with senders := e.senders ++ made.toList, shared := sh } := by
  have hupdates := Sender.updates_create hmade
  cases made with
  | none =>
    refine ⟨by simpa using h.sender, h.receiver, ?_⟩
    have hbooks := hupdates _ (by simpa using h.books)
    simpa using hbooks
  | some s =>
    have hjoins : Updates Books e.shared.credit 0 sh.credit s.holding := hupdates
    refine ⟨fun other hother => ?_, h.receiver, hjoins.concat h.books⟩
    rcases List.mem_append.mp hother with hold | hnew
    · exact h.sender other hold
    rw [List.mem_singleton.mp hnew]
    exact (Sender.sound_create hmade).2

theorem Accounted.receiverMade (h : e.Accounted) {made : Option Receiver}
    (hmade : Receiver.create env context e.shared = (update, made)) :
    Accounted { e with receivers := e.receivers ++ made.toList } := by
  cases made with
  | none => exact ⟨h.sender, by simpa using h.receiver, by simpa using h.books⟩
  | some r =>
    have hnew := Receiver.create_eq hmade
    have hbooks := h.books
    subst hnew
    refine ⟨h.sender, fun other hother => ?_, ?_⟩
    · rcases List.mem_append.mp hother with hold | hnew
      · exact h.receiver other hold
      rw [List.mem_singleton.mp hnew]
      exact ⟨Receiver.sound_new context, Receiver.settled_new context⟩
    rw [add_comm] at hbooks ⊢
    refine Updates.concat ?_ hbooks
    rw [Receiver.holding_of_free ⟨rfl, rfl⟩]
    exact .refl

/-- Every action of an endpoint keeps the books. -/
theorem Accounted.act (h : e.Accounted) (action : EndpointAction) : (e.act action).Accounted := by
  cases action with
  | createSender env context manifest sourceSize => exact h.senderMade rfl
  | createReceiver env context => exact h.receiverMade rfl
  | callSender index env call =>
    simp only [Endpoint.act]
    split
    · exact h
    rename_i s hs
    have hsound := h.sender s (List.mem_of_getElem? hs)
    have hstep := Sender.step_of_call env s e.shared call
    refine ⟨fun other hother => ?_, h.receiver, (hsound.updates hstep).set hs h.books⟩
    rcases List.mem_or_eq_of_mem_set hother with hold | rfl
    · exact h.sender other hold
    · exact hsound.step hstep
  | callReceiver index env call =>
    simp only [Endpoint.act]
    split
    · exact h
    rename_i r hr
    have hsettled := (h.receiver r (List.mem_of_getElem? hr)).2
    exact h.receiverStep hr (Receiver.step_of_call env r e.shared hsettled call)
  | destroySender index env =>
    simp only [Endpoint.act]
    split
    · exact h
    · exact h.senderGone env ‹_›
  | destroyReceiver index env =>
    simp only [Endpoint.act]
    split
    · exact h
    · exact h.receiverGone env ‹_›
  | interfere messageIds temporaryBudget => exact ⟨h.sender, h.receiver, h.books⟩

theorem accounted_fresh :
    (fresh messageIds limitBytes maximumStreams temporaryBudget).Accounted := by
  refine ⟨by simp [fresh], by simp [fresh], ⟨?_, rfl, ?_, rfl⟩⟩
  · funext direction
    cases direction <;> rfl
  intro direction
  cases direction <;> exact Nat.zero_le _

/-! ### What the totals are -/

/-- What engines of one kind hold, as a sum of bytes and a list of slots. -/
theorem total_holding {Engine : Type} (direction : CreditDirection)
    (reserved streaming : Engine → Bool) (bytes streamId : Engine → Nat) (engines : List Engine) :
    total (fun engine => heldBytes direction (if reserved engine then bytes engine else 0) +
        slotIf (streaming engine) (streamId engine)) engines =
      heldBytes direction ((engines.filter reserved).map bytes).sum +
        heldSlots ((engines.filter streaming).map streamId) := by
  induction engines with
  | nil => simp
  | cons engine rest ih =>
    rw [total_cons, ih]
    cases hreserved : reserved engine <;> cases hstreaming : streaming engine <;>
      simp [hreserved, hstreaming, slotIf, heldBytes_add, add_assoc, add_left_comm]

theorem total_sender (senders : List Sender) :
    total Sender.holding senders =
      heldBytes .outbound ((senders.filter (·.creditReserved)).map (·.reservedCredit)).sum +
        heldSlots ((senders.filter (·.streamReserved)).map (·.context.streamId)) :=
  total_holding ..

theorem total_receiver (receivers : List Receiver) :
    total Receiver.holding receivers =
      heldBytes .inbound ((receivers.filter (·.creditReserved)).map (·.initialWindow)).sum +
        heldSlots ((receivers.filter (·.streamReserved)).map (·.context.streamId)) :=
  total_holding ..

/-- The budget records what the engines hold, byte for byte and slot for slot. -/
structure Conserved (e : Endpoint) : Prop where
  outbound : e.shared.credit.reservedBytes .outbound =
    ((e.senders.filter (·.creditReserved)).map (·.reservedCredit)).sum
  inbound : e.shared.credit.reservedBytes .inbound =
    ((e.receivers.filter (·.creditReserved)).map (·.initialWindow)).sum
  slots : e.shared.credit.activeStreamIds.Perm
    ((e.senders.filter (·.streamReserved)).map (·.context.streamId) ++
      (e.receivers.filter (·.streamReserved)).map (·.context.streamId))
  limit : ∀ direction, e.shared.credit.reservedBytes direction ≤ e.shared.credit.limitBytes
  inFlight : ∀ s ∈ e.senders, s.creditReserved = true →
    s.reservedCredit = s.availableCredit + s.unacknowledged ∧
      s.acknowledgedOffset ≤ s.bytesSent ∧
      s.unacknowledged = s.bytesSent - s.acknowledgedOffset ∧ s.reservedCredit ≤ 16777216
  senderEnded : ∀ s ∈ e.senders, isTerminal s.state = true →
    s.creditReserved = false ∧ s.streamReserved = false
  receiverEnded : ∀ r ∈ e.receivers, isTerminal r.state = true →
    r.creditReserved = false ∧ r.streamReserved = false
  refused : e.shared.credit.refusedReleases = 0

theorem Accounted.conserved (h : e.Accounted) : e.Conserved where
  outbound := by
    rw [h.books.bytes, total_sender, total_receiver]
    simp [heldBytes, heldSlots]
  inbound := by
    rw [h.books.bytes, total_sender, total_receiver]
    simp [heldBytes, heldSlots]
  slots := by
    have hslots := h.books.slots
    rw [total_sender, total_receiver] at hslots
    exact Multiset.coe_eq_coe.mp (hslots.trans (by simp [heldBytes, heldSlots]))
  limit := h.books.limit
  inFlight := fun s hs hreserved =>
    ⟨((h.sender s hs).reserved hreserved).1, (h.sender s hs).acknowledged_le,
      (h.sender s hs).unacknowledged_eq, ((h.sender s hs).reserved hreserved).2⟩
  senderEnded := fun s hs => (h.sender s hs).terminal
  receiverEnded := fun r hr => (h.receiver r hr).1.released
  refused := h.books.refused

/-- Whatever the engines of a connection do, its budget keeps track of what they hold. -/
theorem conserved_run (messageIds : ConnectionMessageSequence) (limitBytes maximumStreams : Nat)
    (temporaryBudget : TemporaryBudget) (actions : List EndpointAction) :
    Conserved (Runs.run act (fresh messageIds limitBytes maximumStreams temporaryBudget)
      actions) := by
  refine Accounted.conserved (Runs.run_invariant_all (fun _ action h => h.act action) ?_ actions)
  exact accounted_fresh messageIds limitBytes maximumStreams temporaryBudget

end Endpoint

end XnnTransfer.Transfer
