import XnnTransfer.Library.Histories
import XnnTransfer.Library.Runs
import XnnTransfer.Transfer.ReceiverStep

/-!
# Runs of one engine

A session is an engine together with the objects it shares with the other
streams of its endpoint and the history of its calls. The peer and the local
user are arbitrary: an action is any call with any surroundings. Between two
calls the other streams may leave the shared objects in any state.
-/

namespace XnnTransfer.Transfer

open Protocol

/-- One call as it is seen from outside, with the engine before and after it. -/
structure Observation (Engine : Type) where
  before : Engine
  inbound : Option Bytes
  update : TransferUpdate
  after : Engine

namespace Observation

variable {Engine : Type}

/-- The frame the call emitted. -/
def emitted (version : Version) (o : Observation Engine) : Option Message :=
  decodeFrame version o.update.outboundFrame

/-- The frame the call was given. -/
def received (version : Version) (o : Observation Engine) : Option Message :=
  o.inbound.bind (decodeFrame version)

end Observation

structure Session (Engine : Type) where
  engine : Engine
  shared : Shared
  history : List (Observation Engine) := []

/-- The session after a call with this outcome. -/
def Session.record {Engine : Type} (s : Session Engine) (inbound : Option Bytes)
    (o : Outcome Engine) : Session Engine :=
  ⟨o.engine, o.shared, s.history ++ [⟨s.engine, inbound, o.update, o.engine⟩]⟩

/-- What can happen to an engine: a call, or a change of what it shares with others. -/
inductive Action (Call : Type) where
  | call (env : Environment) (call : Call)
  | interfere (shared : Shared)

namespace Sender

def act (s : Session Sender) : Action SenderCall → Session Sender
  | .call env call => s.record call.inbound (s.engine.call env s.shared call)
  | .interfere shared => { s with shared := shared }

/-- What holds of every step a call can take holds of every call. -/
theorem act_invariant {P : Session Sender → Prop}
    (hstep : ∀ s env call o, P s → Step env s.engine s.shared call o → P (s.record call.inbound o))
    (hinterfere : ∀ s shared, P s → P { s with shared := shared })
    {s : Session Sender} (hs : P s) (actions : List (Action SenderCall)) :
    P (Runs.run act s actions) := by
  refine Runs.run_invariant_all (fun s action hs => ?_) hs actions
  cases action with
  | call env call => exact hstep s env call _ hs (step_of_call env s.engine s.shared call)
  | interfere shared => exact hinterfere s shared hs

end Sender

namespace Receiver

def act (s : Session Receiver) : Action ReceiverCall → Session Receiver
  | .call env call => s.record call.inbound (s.engine.call env s.shared call)
  | .interfere shared => { s with shared := shared }

theorem act_invariant {P : Session Receiver → Prop}
    (hsettled : ∀ s, P s → s.engine.Settled)
    (hstep : ∀ s call o, P s → Step s.engine s.shared call o → P (s.record call.inbound o))
    (hinterfere : ∀ s shared, P s → P { s with shared := shared })
    {s : Session Receiver} (hs : P s) (actions : List (Action ReceiverCall)) :
    P (Runs.run act s actions) := by
  refine Runs.run_invariant_all (fun s action hs => ?_) hs actions
  cases action with
  | call env call =>
    exact hstep s call _ hs (step_of_call env s.engine s.shared (hsettled s hs) call)
  | interfere shared => exact hinterfere s shared hs

end Receiver

/-- The empty byte string, which stands for no frame, says nothing. -/
@[simp] theorem decodeFrame_nil (version : Version) : decodeFrame version [] = none := rfl

/-! ### A plain endpoint -/

/-- Code points for paths of plain ASCII characters. -/
def asciiUnicode : Storage.Unicode where
  iterate
    | [] => none
    | byte :: _ => some (byte.toNat, 1)
  compose := some

/-- An environment in which nothing fails and the file holds these bytes. -/
def plainEnvironment (source : Bytes) : Environment where
  createTemporary := fun _ _ => (.none, 1)
  writeTemporary := fun _ data => { bytesWritten := data.length }
  flushTemporary := fun _ => .none
  commitTemporary := fun _ _ => { disposition := .committed }
  cleanupTemporary := fun _ => .none
  updateVerifier := fun _ => true
  sealVerifier := true
  authorized := true
  authorizedToReport := true
  memory := true
  memoryToReport := true
  copies := 4
  unicode := asciiUnicode
  read := fun offset size => { data := (source.drop offset).take size }
  buildChunkCommitment := fun _ _ _ _ => some (List.replicate 16 7)
  verifyManifest := fun _ => true
  verifyChunkCommitment := fun _ _ _ _ _ => true
  createFileVerifier := fun _ _ _ => true

/-- A manifest for a file with these bytes and the path `"a"`. -/
def plainManifest (source : Bytes) : OneFileManifest where
  transferId := List.replicate transferIdSize 1
  relativePath := [0x61]
  fileSize := source.length
  fileCommitment := List.replicate 16 2
  manifestCommitment := List.replicate 16 3

def plainContext (role : Role) : TransferContext := { localRole := role, streamId := 1 }

/-- A connection on which nothing has happened. -/
def plainShared : Shared where
  messageIds := {}
  credit := .create maximumConnectionWindow 32
  temporaryBudget := { limitBytes := 2 ^ 40 }

/-- A sender on a fresh connection. -/
def plainSender (source : Bytes) : Session Sender :=
  ⟨{ context := plainContext .initiator
     manifest := plainManifest source
     streamReserved := true },
    (Sender.create (plainEnvironment source) (plainContext .initiator) (plainManifest source)
      (some source.length) plainShared).2.2, []⟩

theorem create_plainSender :
    Sender.create (plainEnvironment [5]) (plainContext .initiator) (plainManifest [5]) (some 1)
        plainShared =
      ((plainSender [5]).engine.update, some (plainSender [5]).engine, (plainSender [5]).shared) :=
  rfl

/-- A receiver on a fresh connection. -/
def plainReceiver : Session Receiver := ⟨{ context := plainContext .responder }, plainShared, []⟩

theorem create_plainReceiver :
    Receiver.create (plainEnvironment [5]) (plainContext .responder) plainShared =
      (plainReceiver.engine.update, some plainReceiver.engine) := rfl

/-- The frame with this number that the role sends on the plain stream. -/
def plainBytes (role : Role) (number : UInt64) (type : MessageType) (fields : List FieldView) :
    Bytes :=
  (encodeFrame true (plainContext role) type { nextOutboundId := number } (.ofFields fields)).1.getD []

end XnnTransfer.Transfer
