import XnnTransfer.Transfer.SenderRun

/-!
# The contract of the sender towards any peer

What the history of a sender shows, whatever the peer sends and whatever is
called: the frames of the transfer come in their order and never after the
transfer was given up, the chunks cut the file into consecutive pieces, and the
bytes sent stay within the credit that was granted.

## Implementation notes

While the sender is active its history is known exactly (`Exact`); once it has
stopped being active it only emits frames of the cancellation or an error.
-/

namespace XnnTransfer.Transfer

open Protocol Segments Histories

namespace Sender

/-- The frames of a transfer with `n` chunks in the order of the protocol. -/
def script (n : Nat) : List MessageType :=
  [.transferOffer, .manifestEntry, .manifestEnd, .fileBegin] ++
    (List.replicate n .fileChunk ++ [.fileEnd, .transferComplete])

/-- The frames that give a transfer up. -/
def isControl (type : MessageType) : Bool :=
  type = .cancel || type = .cancelAck || type = .error

section History

variable (version : Version)

variable (history : List (Observation Sender)) (o : Observation Sender)

def emissions : List Message :=
  history.filterMap (·.emitted version)

/-- The place and the bytes of a chunk. -/
def chunkOf (message : Message) : Option (Segment UInt8) :=
  if message.type = .fileChunk then some (message.number 3, message.bytes 4) else none

def chunks : List (Segment UInt8) :=
  (emissions version history).filterMap chunkOf

/-- The call took a frame of the type and left the sender sending the file. -/
def took (type : MessageType) (o : Observation Sender) : Option Message :=
  (o.received version).filter fun message =>
    message.type = type ∧ o.update.error = .none ∧ o.update.state = .sendingFile

/-- The chunk size and the window of an accept that the sender took. -/
def granted : Option (Nat × Nat) :=
  (took version .transferAccept o).map fun message => (message.number 2, message.number 3)

/-- The credit of a chunk acknowledgement that the sender took. -/
def credited : Option Nat :=
  (took version .chunkAck o).map fun message => message.number 4

def grants : List (Nat × Nat) :=
  history.filterMap (granted version)

def credits : List Nat :=
  history.filterMap (credited version)

end History

/-- When the frames that answer to something may be emitted. -/
structure Permitted (context : TransferContext) (manifest : OneFileManifest)
    (before : List (Observation Sender)) (o : Observation Sender) (message : Message) :
    Prop where
  fileBegin : message.type = .fileBegin → ∃ chunkSize window,
    grants context.version before = [(chunkSize, window)] ∧
      ¬ windowRefused context.limits chunkSize window
  fileEnd : message.type = .fileEnd → o.before.bytesSent = manifest.fileSize ∧
    o.before.acknowledgedOffset = manifest.fileSize
  complete : message.type = .transferComplete → ∃ commit,
    o.received context.version = some commit ∧ commit.type = .fileCommit ∧
      commit.bytes 1 = manifest.transferId ∧ commit.number 2 = 0 ∧
      commit.number 3 = manifest.fileSize

/-- The contract of the sender over its history. -/
structure Conforms (context : TransferContext) (manifest : OneFileManifest)
    (history : List (Observation Sender)) : Prop where
  decodes : ∀ o ∈ history, o.update.outboundFrame = [] ∨ (o.emitted context.version).isSome = true
  order : ∃ data control n,
    (emissions context.version history).map Message.type = data ++ control ∧
      data <+: script n ∧ ∀ type ∈ control, isControl type = true
  permitted : Along (fun before o => ∀ message, o.emitted context.version = some message →
    Permitted context manifest before o message) history
  granted_once : (grants context.version history).length ≤ 1
  consecutive : Consecutive 0 (chunks context.version history)
  sized : ∀ chunk ∈ chunks context.version history, ∃ chunkSize window,
    grants context.version history = [(chunkSize, window)] ∧
      (chunk.2.length = chunkSize ∨ chunk.1 + chunk.2.length = manifest.fileSize)
  total_le : total (chunks context.version history) ≤ manifest.fileSize
  credit : total (chunks context.version history) ≤
    ((grants context.version history).map Prod.snd).sum + (credits context.version history).sum

/-- The transfer is under way and not being cancelled. -/
def Active (s : Sender) : Prop := isTerminal s.state = false ∧ s.state ≠ .cancelling

theorem active_of_sendingFile {s : Sender} (h : s.state = .sendingFile) : s.Active := by
  constructor <;> simp [h, isTerminal]

/-- What an active sender has emitted after `n` chunks. -/
def emittedSoFar (s : Sender) (n : Nat) : List MessageType :=
  match s.state with
  | .sendingManifest =>
    if s.manifestStage = 0 then [.transferOffer] else [.transferOffer, .manifestEntry]
  | .awaitingDecision => [.transferOffer, .manifestEntry, .manifestEnd]
  | .sendingFile =>
    [.transferOffer, .manifestEntry, .manifestEnd] ++
      if s.fileBeginSent then .fileBegin :: List.replicate n .fileChunk else []
  | .awaitingFileCommit =>
    [.transferOffer, .manifestEntry, .manifestEnd, .fileBegin] ++
      (List.replicate n .fileChunk ++ [.fileEnd])
  | .completing => script n
  | _ => []

/-- What is known of the history of an active sender. -/
structure Exact (s : Sender) (history : List (Observation Sender)) : Prop where
  types : (emissions s.context.version history).map Message.type =
    s.emittedSoFar (chunks s.context.version history).length
  consecutive : Consecutive 0 (chunks s.context.version history)
  sized : ∀ chunk ∈ chunks s.context.version history,
    chunk.2.length = s.chunkSize ∨ chunk.1 + chunk.2.length = s.manifest.fileSize
  sent : total (chunks s.context.version history) = s.bytesSent
  ungranted : s.beforeFile → grants s.context.version history = [] ∧
    credits s.context.version history = []
  afterGrant : ¬ s.beforeFile → ∃ window,
    grants s.context.version history = [(s.chunkSize, window)] ∧
      ¬ windowRefused s.context.limits s.chunkSize window ∧
      s.availableCredit + s.bytesSent = window + (credits s.context.version history).sum

section Append

variable {version : Version} {history : List (Observation Sender)} {o : Observation Sender}

theorem emissions_concat :
    emissions version (history ++ [o]) =
      emissions version history ++ (o.emitted version).toList := by
  simp only [emissions, List.filterMap_append]
  cases h : o.emitted version <;> simp [h]

theorem chunks_concat :
    chunks version (history ++ [o]) =
      chunks version history ++ ((o.emitted version).bind chunkOf).toList := by
  simp only [chunks, emissions_concat, List.filterMap_append]
  cases o.emitted version with
  | none => simp
  | some message =>
    cases h : chunkOf message <;> simp [h]

theorem grants_concat :
    grants version (history ++ [o]) = grants version history ++ (granted version o).toList := by
  simp only [grants, List.filterMap_append]
  cases h : granted version o <;> simp [h]

theorem credits_concat :
    credits version (history ++ [o]) =
      credits version history ++ (credited version o).toList := by
  simp only [credits, List.filterMap_append]
  cases h : credited version o <;> simp [h]

variable {type : MessageType}

theorem took_none_of_state (h : o.update.state ≠ .sendingFile) : took version type o = none := by
  simp [took, h]

theorem granted_none (h : took version .transferAccept o = none) : granted version o = none := by
  simp [granted, h]

theorem credited_none (h : took version .chunkAck o = none) : credited version o = none := by
  simp [credited, h]

end Append

section Active

variable {s s' : Sender} {history : List (Observation Sender)} {o : Observation Sender}

theorem emittedSoFar_isPrefix (s : Sender) (n : Nat) : s.emittedSoFar n <+: script n := by
  unfold emittedSoFar script
  split
  · split <;> simp [List.cons_prefix_cons]
  · simp [List.cons_prefix_cons]
  · split
    · simp only [List.cons_append, List.nil_append, List.cons_prefix_cons, true_and]
      exact List.prefix_append _ _
    · simp [List.cons_prefix_cons]
  · simp only [List.cons_append, List.nil_append, List.cons_prefix_cons, true_and]
    exact (List.prefix_append_right_inj _).mpr (by simp [List.cons_prefix_cons])
  · exact List.prefix_rfl
  · exact List.nil_prefix

/-- No chunk is sent before the frame that begins the file. -/
theorem fileChunk_not_mem_emittedSoFar (h : s.beforeFile ∨ s.state = .sendingFile ∧
    s.fileBeginSent = false) (n : Nat) : MessageType.fileChunk ∉ s.emittedSoFar n := by
  rcases h with (hstate | hstate | hstate) | ⟨hstate, hbegun⟩
  · simp [emittedSoFar, hstate]
  · simp only [emittedSoFar, hstate]
    split <;> simp
  · simp [emittedSoFar, hstate]
  · simp [emittedSoFar, hstate, hbegun]

theorem Exact.chunks_nil (h : s.Exact history) (hnone : ∀ n, MessageType.fileChunk ∉
    s.emittedSoFar n) : chunks s.context.version history = [] := by
  have hmessages : ∀ message ∈ emissions s.context.version history, chunkOf message = none := by
    intro message hmem
    refine if_neg fun hchunk => hnone (chunks s.context.version history).length ?_
    rw [← h.types, ← hchunk]
    exact List.mem_map_of_mem hmem
  simpa [chunks, List.filterMap_eq_nil_iff] using hmessages

/-- The contract follows from what is known of an active sender. -/
theorem Exact.conforms (h : s.Exact history) (hsound : s.Sound)
    (hdecodes : ∀ o ∈ history, o.update.outboundFrame = [] ∨
      (o.emitted s.context.version).isSome = true)
    (hpermitted : Along (fun before o => ∀ message, o.emitted s.context.version = some message →
      Permitted s.context s.manifest before o message) history) :
    Conforms s.context s.manifest history := by
  have hgrants : s.beforeFile ∧ grants s.context.version history = [] ∨
      ∃ window, grants s.context.version history = [(s.chunkSize, window)] ∧
        s.availableCredit + s.bytesSent = window + (credits s.context.version history).sum := by
    by_cases hbefore : s.beforeFile
    · exact .inl ⟨hbefore, (h.ungranted hbefore).1⟩
    obtain ⟨window, hgrant, -, hcredit⟩ := h.afterGrant hbefore
    exact .inr ⟨window, hgrant, hcredit⟩
  refine ⟨hdecodes, ?_, hpermitted, ?_, h.consecutive, ?_, ?_, ?_⟩
  · refine ⟨s.emittedSoFar (chunks s.context.version history).length, [], _, ?_,
      s.emittedSoFar_isPrefix _, by simp⟩
    rw [List.append_nil]
    exact h.types
  · rcases hgrants with ⟨-, hgrant⟩ | ⟨window, hgrant, -⟩ <;> simp [hgrant]
  · intro chunk hchunk
    rcases hgrants with ⟨hbefore, -⟩ | ⟨window, hgrant, -⟩
    · rw [h.chunks_nil (fileChunk_not_mem_emittedSoFar (.inl hbefore))] at hchunk
      cases hchunk
    · exact ⟨s.chunkSize, window, hgrant, h.sized chunk hchunk⟩
  · rw [h.sent]
    exact hsound.sent_le
  rw [h.sent]
  rcases hgrants with ⟨hbefore, -⟩ | ⟨window, hgrant, hcredit⟩
  · rw [(hsound.beforeFile hbefore).1]
    exact Nat.zero_le _
  simp only [hgrant, List.map_cons, List.map_nil, List.sum_cons, List.sum_nil]
  omega

/-- A step that grants nothing adds at most one type, one chunk and one credit. -/
theorem Exact.extend {placed : Option (Segment UInt8)} (h : s.Exact history)
    (hcontext : s'.context = s.context) (hmanifest : s'.manifest = s.manifest)
    (hchunk : s'.chunkSize = s.chunkSize) (hbefore : s'.beforeFile ↔ s.beforeFile)
    (hplaced : (o.emitted s.context.version).bind chunkOf = placed)
    (hcut : ∀ chunk ∈ placed, chunk.1 = s.bytesSent ∧
      (chunk.2.length = s.chunkSize ∨ s.bytesSent + chunk.2.length = s.manifest.fileSize))
    (hsent : s'.bytesSent = s.bytesSent + total placed.toList)
    (hgranted : granted s.context.version o = none)
    (hcredited : s.beforeFile → credited s.context.version o = none)
    (hcredit : s'.availableCredit + total placed.toList =
      s.availableCredit + (credited s.context.version o).toList.sum)
    (htypes : s'.emittedSoFar ((chunks s.context.version history).length + placed.toList.length) =
      s.emittedSoFar (chunks s.context.version history).length ++
        ((o.emitted s.context.version).map Message.type).toList) :
    s'.Exact (history ++ [o]) := by
  have hchunks : chunks s.context.version (history ++ [o]) =
      chunks s.context.version history ++ placed.toList := by
    rw [chunks_concat, hplaced]
  have hgrants : grants s.context.version (history ++ [o]) = grants s.context.version history := by
    rw [grants_concat, hgranted]
    simp
  constructor
  · rw [hcontext, hchunks, List.length_append, htypes, emissions_concat, List.map_append, h.types]
    cases o.emitted s.context.version <;> rfl
  · rw [hcontext, hchunks]
    cases placed with
    | none => simpa using h.consecutive
    | some chunk =>
      exact consecutive_concat.mpr ⟨h.consecutive, by simp [h.sent, (hcut chunk rfl).1]⟩
  · intro chunk hmem
    rw [hcontext, hchunks] at hmem
    rw [hchunk, hmanifest]
    rcases List.mem_append.mp hmem with hold | hlast
    · exact h.sized chunk hold
    obtain ⟨hstart, hsized⟩ := hcut chunk (Option.mem_toList.mp hlast)
    rwa [hstart]
  · rw [hcontext, hchunks, total_append, h.sent, hsent]
  · intro hungranted
    rw [hcontext, hgrants, credits_concat, hcredited (hbefore.mp hungranted)]
    simpa using h.ungranted (hbefore.mp hungranted)
  intro hgrant
  obtain ⟨window, hwindow, hrefused, hsum⟩ := h.afterGrant (hgrant ∘ hbefore.mpr)
  rw [hcontext, hgrants, hchunk, credits_concat, List.sum_append]
  exact ⟨window, hwindow, hrefused, by omega⟩

theorem beforeFile_of_sendingFile (h : s.state = .sendingFile) : ¬ s.beforeFile := by
  rintro (hother | hother | hother) <;> cases h.symm.trans hother

/-- A step that takes the accept. -/
theorem Exact.accept {chunkSize window t nowMs : Nat} (h : s.Exact history) (hsound : s.Sound)
    (hstate : s.state = .awaitingDecision)
    (hwindow : ¬ windowRefused s.context.limits chunkSize window)
    (hemitted : o.emitted s.context.version = none)
    (hgranted : granted s.context.version o = some (chunkSize, window))
    (hcredited : credited s.context.version o = none) :
    ((s.atTime t).acceptedWith chunkSize window nowMs).Exact (history ++ [o]) := by
  have hbefore : s.beforeFile := .inr (.inr hstate)
  obtain ⟨hsent, -, hbegun, -⟩ := hsound.beforeFile hbefore
  have hnone := h.chunks_nil (fileChunk_not_mem_emittedSoFar (.inl hbefore))
  obtain ⟨hgrants, hcredits⟩ := h.ungranted hbefore
  have hchunks : chunks s.context.version (history ++ [o]) = [] := by
    rw [chunks_concat, hnone, hemitted]
    rfl
  constructor
  all_goals simp only [acceptedWith, atTime, hchunks]
  · rw [emissions_concat, hemitted, Option.toList_none, List.append_nil, h.types, hnone]
    simp [emittedSoFar, hstate, hbegun]
  · trivial
  · simp
  · exact hsent.symm
  · exact fun hother => absurd hother (beforeFile_of_sendingFile rfl)
  refine fun _ => ⟨window, ?_, hwindow, ?_⟩
  · rw [grants_concat, hgrants, hgranted]
    rfl
  rw [credits_concat, hcredits, hcredited, hsent]
  rfl

end Active

section Step

variable {env : Environment} {s : Sender} {sh : Shared} {call : SenderCall} {o : Outcome Sender}

/-- No frame, or one that gives the transfer up. -/
def Controls (version : Version) (update : TransferUpdate) : Prop :=
  update.outboundFrame = [] ∨ ∃ message,
    decodeFrame version update.outboundFrame = some message ∧ isControl message.type = true

variable {context : TransferContext} {update : TransferUpdate} {type : MessageType}
  {commitment encoded : Bytes} {nowMs : Nat} {ids : ConnectionMessageSequence} {frame : ParsedFrame}

variable {fields : List FieldView} {version : Version} {manifest : OneFileManifest}
  {data transferId : Bytes} {offset : Nat} {after : Sender} {credit : ConnectionCreditBudget}

theorem controls_of_carries (h : Carries context type fields update.outboundFrame)
    (htype : isControl type = true) : Controls context.version update :=
  .inr ⟨_, h.decodeFrame_eq, htype⟩

/-- Giving a transfer up reports a state other than sending and emits at most a control frame. -/
def GivesUp (version : Version) (o : Outcome Sender) : Prop :=
  Controls version o.update ∧ o.update.state ≠ .sendingFile

theorem not_active_of_terminal (h : isTerminal s.state = true) : ¬ s.Active :=
  fun hactive => absurd (h.symm.trans hactive.1) (by decide)

/-- A call that reports the end of the transfer gives it up. -/
theorem stops_of_terminal (hframe : Controls version o.update)
    (hstate : o.update.state = o.engine.state) (hterm : isTerminal o.engine.state = true) :
    ¬ o.engine.Active ∧ GivesUp version o := by
  refine ⟨not_active_of_terminal hterm, hframe, fun hsending => ?_⟩
  rw [← hstate, hsending] at hterm
  cases hterm

theorem Fails.stops {error : TransferError} {code : WireErrorCode} {retryable : Bool}
    (h : Fails s sh error code retryable after o) (hcontext : s.context = context)
    (hterm : after.state = .failed) : ¬ o.engine.Active ∧ GivesUp context.version o := by
  subst hcontext
  refine stops_of_terminal (h.reports.imp id fun hcarries => ?_) ?_ ?_
  · exact ⟨_, hcarries.2.decodeFrame_eq, rfl⟩
  · rw [h.state, h.engine, hterm]
  · rw [h.engine, hterm]
    rfl

theorem EmitsCancel.stops (h : EmitsCancel s sh o) (hstate : s.state = .cancelling) :
    ¬ o.engine.Active ∧ GivesUp s.context.version o := by
  have hinactive : ¬ s.Active := fun hactive => hactive.2 hstate
  cases h with
  | emitted hframe =>
    exact ⟨hinactive, controls_of_carries hframe rfl, by simp [update, engineUpdate, hstate]⟩
  | busy =>
    exact ⟨hinactive, .inl rfl,
      by simp [update, engineUpdate, TransferUpdate.asEncodingBusy, hstate]⟩
  | exhausted => exact stops_of_terminal (.inl rfl) rfl rfl

theorem EmitsCancelAck.stops (h : EmitsCancelAck s sh o) (hterm : isTerminal s.state = true) :
    ¬ o.engine.Active ∧ GivesUp s.context.version o := by
  cases h with
  | emitted hframe => exact stops_of_terminal (controls_of_carries hframe rfl) rfl hterm
  | busy | exhausted | exhaustedTerminal => exact stops_of_terminal (.inl rfl) rfl hterm

/-- Giving the transfer up keeps the contract. -/
theorem Conforms.givesUp {history : List (Observation Sender)}
    {obs : Observation Sender} (h : Conforms context manifest history)
    (hframe : Controls context.version obs.update) (hstate : obs.update.state ≠ .sendingFile) :
    Conforms context manifest (history ++ [obs]) := by
  have hgrants := @grants_concat context.version history obs
  have hcredits := @credits_concat context.version history obs
  rw [granted_none (took_none_of_state hstate)] at hgrants
  rw [credited_none (took_none_of_state hstate)] at hcredits
  simp only [Option.toList_none, List.append_nil] at hgrants hcredits
  have hcontrol : ∀ message, obs.emitted context.version = some message →
      isControl message.type = true := by
    intro message hmessage
    rcases hframe with hnone | ⟨sent, hsent, hcontrol⟩
    · simp [Observation.emitted, hnone] at hmessage
    cases hsent.symm.trans hmessage
    exact hcontrol
  have hchunks : chunks context.version (history ++ [obs]) = chunks context.version history := by
    rw [chunks_concat]
    cases hmessage : obs.emitted context.version with
    | none => simp
    | some message =>
      have hne : message.type ≠ .fileChunk := by
        intro htype
        have := hcontrol message hmessage
        rw [htype] at this
        cases this
      simp [chunkOf, hne]
  refine ⟨?_, ?_, ?_, ?_, ?_, ?_, ?_, ?_⟩
  · intro entry hentry
    rcases List.mem_append.mp hentry with hold | hnew
    · exact h.decodes entry hold
    rw [List.mem_singleton.mp hnew]
    exact hframe.imp id fun ⟨message, hmessage, _⟩ => by simp [Observation.emitted, hmessage]
  · obtain ⟨data, control, n, htypes, hdata, hold⟩ := h.order
    refine ⟨data, control ++ ((obs.emitted context.version).map Message.type).toList, n, ?_, hdata, ?_⟩
    · rw [emissions_concat, List.map_append, htypes, List.append_assoc]
      cases obs.emitted context.version <;> rfl
    intro type htype
    rcases List.mem_append.mp htype with htype | htype
    · exact hold type htype
    obtain ⟨message, hmessage, rfl⟩ := by simpa using htype
    exact hcontrol message hmessage
  · refine along_concat.mpr ⟨h.permitted, fun message hmessage => ?_⟩
    have hcontrol := hcontrol message hmessage
    constructor <;> intro htype <;> rw [htype] at hcontrol <;> cases hcontrol
  · rw [hgrants]
    exact h.granted_once
  · rw [hchunks]
    exact h.consecutive
  · rw [hchunks, hgrants]
    exact h.sized
  · rw [hchunks]
    exact h.total_le
  rw [hchunks, hgrants, hcredits]
  exact h.credit

/-- The steps that leave a sender active, each with its emission. -/
def Advances (s : Sender) (history : List (Observation Sender)) (call : SenderCall)
    (o : Outcome Sender) : Prop :=
  o.engine.Exact (history ++ [⟨s, call.inbound, o.update, o.engine⟩]) ∧
    (o.update.outboundFrame = [] ∨ ∃ message,
      decodeFrame s.context.version o.update.outboundFrame = some message ∧
        Permitted s.context s.manifest history ⟨s, call.inbound, o.update, o.engine⟩ message)

/-- A frame that answers to nothing is always permitted. -/
theorem permitted_unsolicited {history : List (Observation Sender)} {obs : Observation Sender}
    {message : Message} (h : message.type ≠ .fileBegin ∧ message.type ≠ .fileEnd ∧
      message.type ≠ .transferComplete) : Permitted context manifest history obs message :=
  ⟨fun htype => absurd htype h.1, fun htype => absurd htype h.2.1, fun htype => absurd htype h.2.2⟩

/-- Emitting a frame other than a chunk. -/
theorem Advances.emit {history : List (Observation Sender)} (h : s.Exact history)
    (hframe : Carries s.context type fields o.update.outboundFrame)
    (hsame : o.engine.context = s.context ∧ o.engine.manifest = s.manifest ∧
      o.engine.bytesSent = s.bytesSent ∧ o.engine.chunkSize = s.chunkSize ∧
      o.engine.availableCredit = s.availableCredit) (hbefore : o.engine.beforeFile ↔ s.beforeFile)
    (htype : type ≠ .fileChunk)
    (htook : ∀ type, took s.context.version type ⟨s, call.inbound, o.update, o.engine⟩ = none)
    (htypes : o.engine.emittedSoFar (chunks s.context.version history).length =
      s.emittedSoFar (chunks s.context.version history).length ++ [type])
    (hpermitted : Permitted s.context s.manifest history
      ⟨s, call.inbound, o.update, o.engine⟩ ⟨type, fields⟩) : Advances s history call o := by
  obtain ⟨hcontext, hmanifest, hsent, hchunk, hcredit⟩ := hsame
  have hemitted : Observation.emitted s.context.version
      (⟨s, call.inbound, o.update, o.engine⟩ : Observation Sender) = some ⟨type, fields⟩ :=
    hframe.decodeFrame_eq
  have hplaced : (Observation.emitted s.context.version
      (⟨s, call.inbound, o.update, o.engine⟩ : Observation Sender)).bind chunkOf = none := by
    simp [hemitted, chunkOf, htype]
  refine ⟨h.extend hcontext hmanifest hchunk hbefore hplaced (by simp) hsent (granted_none (htook _))
    (fun _ => credited_none (htook _)) ?_ ?_, .inr ⟨_, hframe.decodeFrame_eq, hpermitted⟩⟩
  · simp [credited_none (htook _), hcredit]
  · simpa [hemitted] using htypes

theorem number_chunkFields (h : offset < 2 ^ 64) :
    (⟨.fileChunk, chunkFields transferId offset data commitment⟩ : Message).number 3 = offset := by
  simp [Message.number, findFirst, chunkFields, bytesField, u32Field, u64Field, field]
  exact decodeUnsigned_u64Field h

theorem bytes_chunkFields :
    (⟨.fileChunk, chunkFields transferId offset data commitment⟩ : Message).bytes 4 = data := by
  simp [Message.bytes, findFirst, chunkFields, bytesField, u32Field, u64Field, field]

/-- A call that is not given a frame takes none. -/
theorem took_none_of_call (h : call.inbound = none) :
    took version type ⟨s, call.inbound, update, after⟩ = none := by
  simp [took, Observation.received, h]

variable {history : List (Observation Sender)}

theorem Advances.quiet {t : Nat} {ids : ConnectionMessageSequence} {update : TransferUpdate}
    (hsound : s.Sound) (hactive : s.Active) (h : s.Exact history)
    (hframe : update.outboundFrame = []) (hidle : s.Idle call update) :
    Advances s history call ⟨update, s.atTime t, { sh with messageIds := ids }⟩ := by
  have hemitted : Observation.emitted s.context.version
      (⟨s, call.inbound, update, s.atTime t⟩ : Observation Sender) = none := by
    simp [Observation.emitted, hframe]
  have htook : ∀ type, took s.context.version type ⟨s, call.inbound, update, s.atTime t⟩ = none := by
    intro type
    cases call with
    | receiveFrame encoded nowMs =>
      by_cases herror : update.error = .none
      · refine took_none_of_state fun hsending => ?_
        rcases hidle encoded nowMs rfl herror with hterm | hcancelling | hdown
        · exact not_active_of_terminal hterm hactive
        · exact hactive.2 hcancelling
        · exact not_active_of_terminal (hsound.isShutdown hdown) hactive
      · simp [took, herror]
    | _ => exact took_none_of_call rfl
  refine ⟨h.extend rfl rfl rfl Iff.rfl (congrArg (·.bind chunkOf) hemitted) (by simp) rfl
    (granted_none (htook _)) (fun _ => credited_none (htook _)) ?_ ?_, .inl hframe⟩
  · rw [credited_none (htook _)]
    rfl
  · rw [hemitted]
    exact (List.append_nil _).symm

theorem Advances.chunkSent {frame : Bytes} (hsound : s.Sound) (h : s.Exact history)
    (hstate : s.state = .sendingFile) (hbegun : s.fileBeginSent = true)
    (hleft : s.bytesSent < s.manifest.fileSize) (hcredit : s.wanted ≤ s.availableCredit)
    (hlength : (env.read s.bytesSent s.wanted).data.length = s.wanted)
    (hframe : Carries s.context .fileChunk
      (chunkFields s.manifest.transferId s.bytesSent (env.read s.bytesSent s.wanted).data
        commitment) frame) :
    Advances s history (.nextOutbound nowMs)
      ⟨{ s.update with outboundFrame := frame }, (s.atTime nowMs).chunkSent nowMs,
        { sh with messageIds := ids }⟩ := by
  have hoffset : s.bytesSent < 2 ^ 64 := by
    have := hsound.size_le
    have hmax : Storage.maxFileBytes < 2 ^ 63 := by decide
    omega
  have hmessage := hframe.decodeFrame_eq
  have hplaced := congrArg (·.bind chunkOf) hmessage
  simp only [Option.bind_some, chunkOf, if_true, number_chunkFields hoffset,
    bytes_chunkFields] at hplaced
  have htotal : total (some (s.bytesSent, (env.read s.bytesSent s.wanted).data)).toList =
      s.wanted := by
    simp [total, hlength]
  refine ⟨h.extend rfl rfl rfl Iff.rfl hplaced ?_ ?_ (granted_none (took_none_of_call rfl))
    (fun _ => credited_none (took_none_of_call rfl)) ?_ ?_,
    .inr ⟨_, hmessage, permitted_unsolicited (by simp)⟩⟩
  · rintro _ ⟨⟩
    refine ⟨rfl, ?_⟩
    rw [hlength]
    unfold wanted
    omega
  · rw [htotal]
    rfl
  · rw [credited_none (took_none_of_call rfl), htotal]
    exact Nat.sub_add_cancel hcredit
  · simp [Observation.emitted, hmessage, emittedSoFar, Sender.chunkSent, atTime, hstate, hbegun,
      List.replicate_succ']

/-- A frame that is taken without an error is one the call was given. -/
theorem took_some (hreads : Reads env s sh encoded frame) (herror : update.error = .none)
    (hstate : update.state = .sendingFile) (type : MessageType) :
    took s.context.version type
        ⟨s, (SenderCall.receiveFrame encoded nowMs).inbound, update, after⟩ =
      if frame.header.messageType = type then some (messageOf frame) else none := by
  have hmessage : Observation.received s.context.version
      (⟨s, (SenderCall.receiveFrame encoded nowMs).inbound, update, after⟩ :
        Observation Sender) = some (messageOf frame) := Inbound.decodeFrame_eq hreads
  rw [took, hmessage]
  simp [Option.filter, herror, hstate, messageOf]

theorem Advances.accepted (hsound : s.Sound) (h : s.Exact history)
    (hstate : s.state = .awaitingDecision) (hreads : Reads env s sh encoded frame)
    (htype : frame.header.messageType = .transferAccept)
    (hwindow : ¬ windowRefused s.context.limits (unsigned frame 2) (unsigned frame 3)) :
    Advances s history (.receiveFrame encoded nowMs)
      (((s.atTime nowMs).acceptedWith (unsigned frame 2) (unsigned frame 3) nowMs).stay
        { sh with messageIds := ids, credit := credit }) := by
  have hrecord := hsound.record (hstate ▸ rfl)
  have herror : (((s.atTime nowMs).acceptedWith (unsigned frame 2) (unsigned frame 3)
      nowMs).update).error = .none := by
    show s.terminal.error = .none
    rw [hrecord]
  refine ⟨h.accept hsound hstate hwindow rfl ?_ ?_, .inl rfl⟩
  · rw [granted]
    simp only [Sender.stay, took_some hreads herror rfl, htype, if_true]
    rfl
  rw [credited]
  simp only [Sender.stay, took_some hreads herror rfl, htype]
  rfl

theorem Advances.acked (hsound : s.Sound) (h : s.Exact history) (hstate : s.state = .sendingFile)
    (hreads : Reads env s sh encoded frame) (htype : frame.header.messageType = .chunkAck)
    (hincrement : unsigned frame 4 ≤ maxU32)
    (hreservation : add64 (s.availableCredit + unsigned frame 4)
      (s.unacknowledged - (unsigned frame 3 - s.acknowledgedOffset)) ≤ maximumTransferWindow) :
    Advances s history (.receiveFrame encoded nowMs)
      (((s.atTime nowMs).chunkAcked (unsigned frame 3) (unsigned frame 4) nowMs).stay
        { sh with messageIds := ids, credit := credit }) := by
  have hrecord := hsound.record (hstate ▸ rfl)
  obtain ⟨hsum, hlimit⟩ := hsound.reserved (hsound.sending hstate).1
  have hwindow : maximumTransferWindow = 16777216 := rfl
  have hmax : maxU32 = 4294967295 := rfl
  have hexact : (s.availableCredit + unsigned frame 4) % 2 ^ 32 =
      s.availableCredit + unsigned frame 4 := by
    rw [add64_eq (by omega)] at hreservation
    exact Nat.mod_eq_of_lt (by omega)
  have herror : (((s.atTime nowMs).chunkAcked (unsigned frame 3) (unsigned frame 4)
      nowMs).update).error = .none := by
    show s.terminal.error = .none
    rw [hrecord]
  refine ⟨h.extend rfl rfl rfl Iff.rfl (show _ = none from rfl) (by simp) rfl ?_
    (fun hbefore => absurd hbefore (beforeFile_of_sendingFile hstate)) ?_ ?_, .inl rfl⟩
  · rw [granted, Sender.stay, took_some hreads herror hstate, htype]
    rfl
  · rw [credited, Sender.stay, took_some hreads herror hstate, htype]
    exact hexact
  exact (List.append_nil _).symm

/-- A step extends the exact history of an active sender, or it gives the transfer up. -/
theorem Step.advances (hsound : s.Sound) (hexact : s.Active → s.Exact history)
    (hstep : Step env s sh call o) :
    o.engine.Active ∧ Advances s history call o ∨
      ¬ o.engine.Active ∧ GivesUp s.context.version o := by
  cases hstep with
  | quiet hstate hterminal hframe hidle =>
    by_cases hactive : s.Active
    · exact .inl ⟨hactive, .quiet hsound hactive (hexact hactive) hframe hidle⟩
    refine .inr ⟨hactive, .inl hframe, fun hsending => hactive ?_⟩
    exact active_of_sendingFile (hstate.symm.trans hsending)
  | ackDropped hterm hstate hterminal hframe =>
    exact .inr (stops_of_terminal (.inl hframe) hstate hterm)
  | shutdownTerminal hterm => exact .inr (stops_of_terminal (.inl rfl) rfl hterm)
  | failed | adjustRefused => exact .inr ((fails_fail ..).stops rfl rfl)
  | cancelTimeout => exact .inr ((fails_cancelTimeout ..).stops rfl rfl)
  | offered hstate hframe =>
    have hbefore : s.beforeFile := .inl hstate
    refine .inl ⟨⟨rfl, by simp⟩, .emit (hexact ?_) hframe ⟨rfl, rfl, rfl, rfl, rfl⟩ ?_ (by simp)
      (fun _ => took_none_of_call rfl) ?_ (permitted_unsolicited (by simp))⟩
    · constructor <;> simp [hstate, isTerminal]
    · exact ⟨fun _ => hbefore, fun _ => .inr (.inl rfl)⟩
    · simp [emittedSoFar, hstate, atTime, hsound.fresh hstate]
  | entrySent hstate hstage hframe =>
    have hactive : s.Active := by constructor <;> simp [hstate, isTerminal]
    refine .inl ⟨hactive, .emit (hexact hactive) hframe ⟨rfl, rfl, rfl, rfl, rfl⟩ Iff.rfl
      (by simp) (fun _ => took_none_of_call rfl) ?_ (permitted_unsolicited (by simp))⟩
    simp [emittedSoFar, hstate, atTime, hstage]
  | endSent hstate hstage hframe =>
    refine .inl ⟨⟨rfl, by simp⟩, .emit (hexact ?_) hframe ⟨rfl, rfl, rfl, rfl, rfl⟩ ?_ (by simp)
      (fun _ => took_none_of_call rfl) ?_ (permitted_unsolicited (by simp))⟩
    · constructor <;> simp [hstate, isTerminal]
    · exact ⟨fun _ => .inr (.inl hstate), fun _ => .inr (.inr rfl)⟩
    · simp [emittedSoFar, hstate, hstage]
  | beginSent hstate hbegun hframe =>
    have hactive := active_of_sendingFile hstate
    have hexact := hexact hactive
    refine .inl ⟨hactive, .emit hexact hframe ⟨rfl, rfl, rfl, rfl, rfl⟩ Iff.rfl (by simp)
      (fun _ => took_none_of_call rfl) ?_ ⟨fun _ => ?_, by simp, by simp⟩⟩
    · rw [hexact.chunks_nil (fileChunk_not_mem_emittedSoFar (.inr ⟨hstate, hbegun⟩))]
      simp [emittedSoFar, hstate, atTime, hbegun]
    obtain ⟨window, hgrant, hwindow, -⟩ := hexact.afterGrant (beforeFile_of_sendingFile hstate)
    exact ⟨s.chunkSize, window, hgrant, hwindow⟩
  | chunkSent hstate hbegun hleft hcredit hread hlength hframe =>
    have hactive := active_of_sendingFile hstate
    exact .inl ⟨hactive,
      .chunkSent hsound (hexact hactive) hstate hbegun hleft hcredit hlength hframe⟩
  | fileEndSent hstate hbegun hall hunacknowledged hend hframe =>
    refine .inl ⟨⟨rfl, by simp⟩, .emit (hexact (active_of_sendingFile hstate)) hframe
      ⟨rfl, rfl, rfl, rfl, rfl⟩ ?_ (by simp) (fun _ => took_none_of_call rfl) ?_
      ⟨by simp, fun _ => ?_, by simp⟩⟩
    · refine ⟨fun hbefore => ?_, fun hbefore => absurd hbefore (beforeFile_of_sendingFile hstate)⟩
      rcases hbefore with hother | hother | hother <;> cases hother
    · simp [emittedSoFar, hstate, hbegun]
    have hsent := hsound.sent_le
    have hle := hsound.acknowledged_le
    have heq := hsound.unacknowledged_eq
    show s.bytesSent = s.manifest.fileSize ∧ s.acknowledgedOffset = s.manifest.fileSize
    omega
  | cancelEmission hstate hpending ho => exact .inr (ho.stops hstate)
  | ackEmission hpending ho => exact .inr (ho.stops (hsound.ackPending hpending))
  | reacknowledged hterm hreads htype ho => exact .inr (ho.stops hterm)
  | cancelBegun hterm hcancelling hcreated ho | remoteCancel hterm hcreated hreads htype ho =>
    exact .inr (ho.stops rfl)
  | finished | shutdownFinished | remoteError | completedCancelling | rejected | completed =>
    exact .inr (stops_of_terminal (.inl rfl) rfl rfl)
  | ackApplied =>
    exact .inr (stops_of_terminal (.inl rfl) rfl (isTerminal_cancelAckEnd _))
  | accepted hstate hreads htype hid hwindow =>
    refine .inl ⟨active_of_sendingFile rfl, .accepted hsound (hexact ?_) hstate hreads htype hwindow⟩
    constructor <;> simp [hstate, isTerminal]
  | acked hstate hreads htype hid hfirst hlast hle hincrement hreservation =>
    have hactive := active_of_sendingFile hstate
    exact .inl ⟨hactive, .acked hsound (hexact hactive) hstate hreads htype hincrement hreservation⟩
  | @completeSent encoded nowMs ids frame complete hstate hreads htype hid hindex hsize hframe =>
    refine .inl ⟨⟨rfl, by simp⟩, .emit (hexact ?_) hframe ⟨rfl, rfl, rfl, rfl, rfl⟩ ?_ (by simp)
      (fun _ => took_none_of_state (by simp)) ?_ ⟨by simp, by simp, fun _ => ?_⟩⟩
    · constructor <;> simp [hstate, isTerminal]
    · constructor <;> rintro (hother | hother | hother) <;> simp_all
    · simp [emittedSoFar, hstate, script]
    refine ⟨messageOf frame, Inbound.decodeFrame_eq hreads, htype, ?_, hindex, hsize⟩
    unfold readTransferId at hid
    split at hid
    · cases hid
    · exact Option.some.inj hid

end Step

/-- What holds of a session after any number of calls. -/
structure Tracked (context : TransferContext) (manifest : OneFileManifest)
    (s : Session Sender) : Prop where
  sound : s.engine.Sound
  context_eq : s.engine.context = context
  manifest_eq : s.engine.manifest = manifest
  conforms : Conforms context manifest s.history
  exact : s.engine.Active → s.engine.Exact s.history

theorem conforms_nil (context : TransferContext) (manifest : OneFileManifest) :
    Conforms context manifest [] := by
  refine ⟨by simp, ⟨[], [], 0, rfl, List.nil_prefix, by simp⟩, along_nil _, ?_, trivial, ?_, ?_, ?_⟩
  · simp [grants]
  · simp [chunks, emissions]
  · simp [chunks, emissions]
  · simp [chunks, emissions]

variable {context : TransferContext} {manifest : OneFileManifest} {env : Environment}

theorem Tracked.step {s : Session Sender} {call : SenderCall} {o : Outcome Sender}
    (h : Tracked context manifest s) (hstep : Step env s.engine s.shared call o) :
    Tracked context manifest (s.record call.inbound o) := by
  obtain ⟨hsound, rfl, rfl, hconforms, hexact⟩ := h
  obtain ⟨hcontext, hmanifest⟩ := hstep.constant
  have hsound' := hsound.step hstep
  rcases hstep.advances hsound hexact with ⟨-, hnew, hframe⟩ | ⟨hinactive, hframe, hstate⟩
  · refine ⟨hsound', hcontext, hmanifest, ?_, fun _ => hnew⟩
    rw [← hcontext, ← hmanifest]
    refine hnew.conforms hsound' ?_ ?_
    · intro entry hentry
      rw [hcontext]
      rcases List.mem_append.mp hentry with hold | hlast
      · exact hconforms.decodes entry hold
      rw [List.mem_singleton.mp hlast]
      exact hframe.imp id fun ⟨message, hmessage, _⟩ => by
        simp [Observation.emitted, hmessage]
    rw [hcontext, hmanifest]
    refine along_concat.mpr ⟨hconforms.permitted, fun message hmessage => ?_⟩
    rcases hframe with hnone | ⟨sent, hsent, hpermitted⟩
    · simp [Observation.emitted, hnone] at hmessage
    cases hsent.symm.trans hmessage
    exact hpermitted
  exact ⟨hsound', hcontext, hmanifest, hconforms.givesUp hframe hstate,
    fun hactive => absurd hactive hinactive⟩

/-- Every history of a sender keeps the contract. -/
theorem run_conforms {env : Environment} {context : TransferContext}
    {manifest : OneFileManifest} {sourceSize : Option Nat} {sh sh' : Shared}
    {update : TransferUpdate} {s : Sender}
    (hcreate : create env context manifest sourceSize sh = (update, some s, sh'))
    (actions : List (Action SenderCall)) :
    Conforms context manifest (Runs.run act ⟨s, sh', []⟩ actions).history := by
  obtain ⟨rfl, hsound⟩ := sound_create hcreate
  have htracked : Tracked context manifest ⟨{ context, manifest, streamReserved := true }, sh', []⟩ :=
    ⟨hsound, rfl, rfl, conforms_nil context manifest, fun _ =>
      ⟨rfl, trivial, by simp [chunks, emissions], rfl, fun _ => ⟨rfl, rfl⟩,
        fun hbefore => absurd (.inl rfl) hbefore⟩⟩
  exact (act_invariant (fun _ _ _ _ h hstep => h.step hstep) (fun _ _ h => { h with }) htracked
    actions).conforms

theorem run_conforms_plain :
    Conforms (plainContext .initiator) (plainManifest [5])
      (Runs.run act (plainSender [5])
        [.call (plainEnvironment [5]) (.start 0),
          .call (plainEnvironment [5]) (.nextOutbound 0)]).history :=
  run_conforms create_plainSender _

end Sender

end XnnTransfer.Transfer
