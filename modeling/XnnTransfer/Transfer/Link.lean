import XnnTransfer.Transfer.ReceiverContract

/-!
# A sender and a receiver on one stream

A link joins one sender and one receiver by two queues of frames. What an engine
emits is appended to the queue of the other, and a delivery hands the first
frame of a queue to its engine. Local calls on the two ends and deliveries come
in any order; the queues neither change nor lose nor invent frames.

## Implementation notes

`Packet.acknowledged` is not sent: it records how much of the file the sender
knew to be acknowledged when it emitted the frame.
-/

namespace XnnTransfer.Transfer

open Protocol

structure Packet where
  bytes : Bytes
  acknowledged : Nat
  deriving DecidableEq, Repr

structure Link where
  sender : Session Sender
  receiver : Session Receiver
  toReceiver : List Packet := []
  toSender : List Bytes := []

inductive LinkAction
  | callSender (env : Environment) (call : SenderCall)
  | callReceiver (env : Environment) (call : ReceiverCall)
  | deliverToSender (env : Environment) (nowMs : Nat)
  | deliverToReceiver (env : Environment) (nowMs : Nat)
  | interfereSender (shared : Shared)
  | interfereReceiver (shared : Shared)

/-- What the surroundings answer during the action. -/
def LinkAction.environment : LinkAction → Option Environment
  | .callSender env _ | .callReceiver env _ => some env
  | .deliverToSender env _ | .deliverToReceiver env _ => some env
  | .interfereSender _ | .interfereReceiver _ => none

namespace Link

variable (l : Link) (call : SenderCall) (rest : List Bytes)

/-- A call on the sender ends; `rest` is what is left to be delivered to it. -/
def senderDone (o : Outcome Sender) : Link :=
  { l with
    sender := l.sender.record call.inbound o
    toSender := rest
    toReceiver := l.toReceiver ++
      o.update.frames.map fun bytes => ⟨bytes, o.engine.acknowledgedOffset⟩ }

/-- A call on the receiver ends; `rest` is what is left to be delivered to it. -/
def receiverDone (call : ReceiverCall) (rest : List Packet) (o : Outcome Receiver) : Link :=
  { l with
    receiver := l.receiver.record call.inbound o
    toReceiver := rest
    toSender := l.toSender ++ o.update.frames }

def callSender (env : Environment) (call : SenderCall) (rest : List Bytes) : Link :=
  l.senderDone call rest (l.sender.engine.call env l.sender.shared call)

def callReceiver (env : Environment) (call : ReceiverCall) (rest : List Packet) : Link :=
  l.receiverDone call rest (l.receiver.engine.call env l.receiver.shared call)

def act : LinkAction → Link
  -- frames come out of the queues only
  | .callSender env call =>
    if call.inbound = none then l.callSender env call l.toSender else l
  | .callReceiver env call =>
    if call.inbound = none then l.callReceiver env call l.toReceiver else l
  | .deliverToSender env nowMs =>
    match l.toSender with
    | [] => l
    | bytes :: rest => l.callSender env (.receiveFrame bytes nowMs) rest
  | .deliverToReceiver env nowMs =>
    match l.toReceiver with
    | [] => l
    | packet :: rest => l.callReceiver env (.receiveFrame packet.bytes nowMs) rest
  | .interfereSender shared => { l with sender := { l.sender with shared := shared } }
  | .interfereReceiver shared => { l with receiver := { l.receiver with shared := shared } }

/-- What is given to the sender comes out of its queue. -/
def FeedsSender : Prop :=
  l.toSender = call.inbound.toList ++ rest

/-- What is given to the receiver comes out of its queue. -/
def FeedsReceiver (call : ReceiverCall) (rest : List Packet) : Prop :=
  l.toReceiver.map Packet.bytes = call.inbound.toList ++ rest.map Packet.bytes ∧
    rest.Sublist l.toReceiver

theorem feedsSender_local {l : Link} {call : SenderCall} (h : call.inbound = none) :
    l.FeedsSender call l.toSender := by
  simp [FeedsSender, h]

theorem feedsReceiver_local {l : Link} {call : ReceiverCall} (h : call.inbound = none) :
    l.FeedsReceiver call l.toReceiver :=
  ⟨by simp [h], List.Sublist.refl _⟩

/-- A property that the calls on both ends keep holds after every run. -/
theorem run_invariant {P : Link → Prop} {good : Environment → Prop}
    (hsettled : ∀ l, P l → l.receiver.engine.Settled)
    (hsender : ∀ l env call rest o, P l → good env → l.FeedsSender call rest →
      Sender.Step env l.sender.engine l.sender.shared call o → P (l.senderDone call rest o))
    (hreceiver : ∀ l call rest o, P l → l.FeedsReceiver call rest →
      Receiver.Step l.receiver.engine l.receiver.shared call o → P (l.receiverDone call rest o))
    (hshared : ∀ l sender receiver, P l →
      P { l with
        sender := { l.sender with shared := sender }
        receiver := { l.receiver with shared := receiver } })
    {l : Link} (hl : P l) {actions : List LinkAction}
    (hgood : ∀ action ∈ actions, ∀ env, action.environment = some env → good env) :
    P (Runs.run act l actions) := by
  have hcallSender {l : Link} {env : Environment} {call : SenderCall} {rest : List Bytes}
      (h : P l) (hgood : good env) (hfeeds : l.FeedsSender call rest) :
      P (l.callSender env call rest) :=
    hsender l env call rest _ h hgood hfeeds (Sender.step_of_call env _ _ call)
  have hcallReceiver {l : Link} {env : Environment} {call : ReceiverCall} {rest : List Packet}
      (h : P l) (hfeeds : l.FeedsReceiver call rest) : P (l.callReceiver env call rest) :=
    hreceiver l call rest _ h hfeeds (Receiver.step_of_call env _ _ (hsettled l h) call)
  induction actions generalizing l with
  | nil => exact hl
  | cons action rest ih =>
    have hfirst := hgood action List.mem_cons_self
    refine ih ?_ fun other hother => hgood other (List.mem_cons_of_mem _ hother)
    cases action with
    | callSender env call =>
      simp only [act]
      split
      · exact hcallSender hl (hfirst env rfl) (feedsSender_local ‹_›)
      · exact hl
    | callReceiver env call =>
      simp only [act]
      split
      · exact hcallReceiver hl (feedsReceiver_local ‹_›)
      · exact hl
    | deliverToSender env nowMs =>
      simp only [act]
      split
      · exact hl
      rename_i bytes rest hqueue
      exact hcallSender hl (hfirst env rfl) hqueue
    | deliverToReceiver env nowMs =>
      simp only [act]
      split
      · exact hl
      rename_i packet rest hqueue
      refine hcallReceiver hl ⟨?_, ?_⟩
      · rw [hqueue]
        rfl
      rw [hqueue]
      exact List.sublist_cons_self _ _
    | interfereSender shared => exact hshared l shared l.receiver.shared hl
    | interfereReceiver shared => exact hshared l l.sender.shared shared hl

end Link

end XnnTransfer.Transfer
