import XnnTransfer.Pairing.Attempt

/-!
# The steps of a pairing attempt

`Step` lists what a call can do to an attempt, whatever its surroundings are.
Everything that is proved about all runs of an attempt is proved from it.

## Implementation notes

A call that closes the attempt may have changed some fields before it did; of
these only the reservation matters afterwards, so the attempt that is closed is
left open in `Step.closed`.
-/

namespace XnnTransfer.Pairing

open Protocol Security

namespace PairingAttempt

/-- The attempt after a frame was charged and counted. -/
abbrev received (attempt : PairingAttempt) (encoded : Bytes) (nowMs : UInt64) :
    PairingAttempt :=
  ((attempt.atTime nowMs).charged encoded).counted

/-- The bytes are a frame that the attempt may take. -/
structure Receives (env : PairingEnvironment) (attempt : PairingAttempt) (encoded : Bytes)
    (frame : Frame) : Prop where
  parsed : Pairing.parseFrame env.storableFields encoded = .ok frame
  numbered : frame.sequence = attempt.nextInboundSequence
  allowed : attempt.inboundFrames ≠ maxInboundPairingFrames

/-- The two decisions have been made and the local one is on its way. -/
structure Ready (attempt : PairingAttempt) : Prop where
  state : attempt.state = .awaitingDecisions
  decided : attempt.localDecision = some .confirm
  written : attempt.decisionWritten = true
  confirmed : attempt.peerConfirmed = true
  context : attempt.context ≠ none

/-- What `MaybeCommit` can do. -/
inductive Concludes (env : PairingEnvironment) (attempt : PairingAttempt) (cache : ReplayCache) :
    Outcome → Prop
  | waits (h : ¬ attempt.Ready) : Concludes env attempt cache (attempt.keep cache)
  | exhausted (h : attempt.Ready) : Concludes env attempt cache (attempt.close cache .limitExceeded)
  | refused (h : attempt.Ready) (hanswer : env.commitPeer attempt.peerCommit = none) :
      Concludes env attempt cache
        ((attempt.close cache .internalFailure).after (.commitPeer attempt.peerCommit none))
  | paired (h : attempt.Ready) {peerDeviceId : DeviceId}
      (hanswer : env.commitPeer attempt.peerCommit = some peerDeviceId) :
      Concludes env attempt cache ((attempt.paired cache peerDeviceId).after
        (.commitPeer attempt.peerCommit (some peerDeviceId)))

/-- The calls in which an attempt can complete the selection, with the attempt that does it. -/
inductive Completes (env : PairingEnvironment) (attempt : PairingAttempt) :
    PairingCall → PairingAttempt → UInt64 → Prop
  | acknowledged {encoded : Bytes} {nowMs : UInt64} {frame : Frame}
      (hreceives : Receives env attempt encoded frame) (htype : frame.type = .selectAck)
      (hrole : attempt.localRole = .initiator) :
      Completes env attempt (.receiveFrame encoded nowMs) (attempt.received encoded nowMs) nowMs
  | written {handle : AttemptHandle} {nowMs : UInt64} (hhandle : attempt.handleMatches handle = true)
      (hrole : attempt.localRole = .responder) (hpending : attempt.selectionAckPending = true) :
      Completes env attempt (.localSelectionAckWritten handle nowMs)
        ((attempt.atTime nowMs).ackReported nowMs) nowMs

/-- A decision of the peer arrives and passes the verification. -/
structure Verifies (env : PairingEnvironment) (attempt : PairingAttempt) (encoded : Bytes)
    (decision : Decision) (context : PairingContext) (verification : ConfirmationVerification) :
    Prop where
  receives : ∃ frame, Receives env attempt encoded frame ∧ decodeDecision frame = .ok decision
  state : attempt.state = .awaitingDecisions
  unconfirmed : attempt.peerConfirmed = false
  held : attempt.context = some context
  verified : verifyConfirmation env.prims attempt.confirmationExporter decision.message.val
    decision.authenticator.val context attempt.localRole.opposite = .ok verification

/-- A decision of the user is authenticated. -/
structure Decides (env : PairingEnvironment) (attempt : PairingAttempt) (handle : AttemptHandle)
    (decision : ConfirmationDecision) (confirmation : ConfirmationValue) : Prop where
  handle : attempt.handleMatches handle = true
  state : attempt.state = .awaitingDecisions
  undecided : attempt.localDecision = none
  built : ∃ context, attempt.context = some context ∧
    buildConfirmation env.prims attempt.confirmationExporter context attempt.localRole decision =
      .ok confirmation

/-- The frame of a decision. -/
def decisionFrame (attempt : PairingAttempt) (confirmation : ConfirmationValue) : Bytes :=
  encodeDecision attempt.nextOutboundSequence ⟨confirmation.message, confirmation.authenticator⟩

/-- What a call can do. -/
inductive Step (env : PairingEnvironment) (attempt : PairingAttempt) (cache : ReplayCache) :
    PairingCall → Outcome → Prop
  /-- Nothing happens to an attempt that has ended. -/
  | settled {call : PairingCall} (hended : attempt.state.terminal = true) (lastNowMs : UInt64) :
      Step env attempt cache call ({ attempt with lastNowMs := lastNowMs }.keep cache)
  /-- The call reports the state, perhaps with an error. -/
  | quiet {call : PairingCall} (hlive : attempt.state.terminal = false) (lastNowMs : UInt64)
      (error : PairingError) :
      Step env attempt cache call
        ⟨{ attempt.update with error := error }, { attempt with lastNowMs := lastNowMs }, cache, []⟩
  /-- The attempt closes, perhaps with an abort frame. -/
  | closed {call : PairingCall} (hlive : attempt.state.terminal = false) {last : PairingAttempt}
      (hlast : last.replayReservation = attempt.replayReservation) (error : PairingError)
      {frame : Bytes} (hframe : frame = [] ∨ ∃ code, 3 ≤ code ∧ code ≤ 4 ∧
        frame = encodeAbort attempt.nextOutboundSequence code) :
      Step env attempt cache call
        ⟨{ state := .closed, error := error, outboundFrame := frame, terminal := true },
          last.ended .closed, last.settleReservation cache, []⟩
  /-- The attempt sends its hello. -/
  | started {nowMs : UInt64} (hstate : attempt.state = .pairingTls)
      {frame : Bytes} (hframe : frame = encodeHello attempt.nextOutboundSequence attempt.localRole
        attempt.localKey attempt.localNonce attempt.options.offer) (hne : frame ≠ [])
      {next : PairingAttempt}
      (hnext : next = (attempt.atTime nowMs).introduced.sequenced.greeting nowMs) :
      Step env attempt cache (.start nowMs)
        ⟨{ next.update with outboundFrame := frame }, next, cache, []⟩
  /-- The responder takes the hello of the initiator. -/
  | greeted {encoded : Bytes} {nowMs : UInt64} {frame : Frame}
      (hreceives : Receives env attempt encoded frame)
      (hstate : attempt.state = .exchangingHellos) (hrole : attempt.localRole = .responder)
      {hello : Hello} (hdecode : decodeHello env.prims frame attempt.localRole.opposite
        attempt.peerPublicKey = .ok hello) {selection : Selection}
      (hselect : select hello.offer attempt.options.offer = .ok selection) :
      Step env attempt cache (.receiveFrame encoded nowMs)
        (((attempt.received encoded nowMs).heard hello selection nowMs).keep cache)
  /-- The initiator takes the hello of the responder and sends the selection. -/
  | selected {encoded : Bytes} {nowMs : UInt64} {frame : Frame}
      (hreceives : Receives env attempt encoded frame)
      (hstate : attempt.state = .exchangingHellos) (hrole : attempt.localRole = .initiator)
      {hello : Hello} (hdecode : decodeHello env.prims frame attempt.localRole.opposite
        attempt.peerPublicKey = .ok hello) {selection : Selection}
      (hselect : select attempt.options.offer hello.offer = .ok selection)
      {outbound : Bytes} (houtbound : outbound =
        encodeSelection .select attempt.nextOutboundSequence selection) (hne : outbound ≠ [])
      {next : PairingAttempt}
      (hnext : next = ((attempt.received encoded nowMs).heard hello selection nowMs).sequenced) :
      Step env attempt cache (.receiveFrame encoded nowMs)
        ⟨{ next.update with outboundFrame := outbound }, next, cache, []⟩
  /-- The responder takes the selection and acknowledges it. -/
  | answered {encoded : Bytes} {nowMs : UInt64} {frame : Frame}
      (hreceives : Receives env attempt encoded frame) (htype : frame.type = .select)
      (hstate : attempt.state = .selecting) (hrole : attempt.localRole = .responder)
      {selection : Selection} (hselection : attempt.selection = some selection)
      (hdecode : decodeSelection frame = .ok selection)
      {outbound : Bytes} (houtbound : outbound =
        encodeSelection .selectAck attempt.nextOutboundSequence selection) (hne : outbound ≠ [])
      {next : PairingAttempt}
      (hnext : next = (attempt.received encoded nowMs).sequenced.answering nowMs) :
      Step env attempt cache (.receiveFrame encoded nowMs)
        ⟨{ next.update with outboundFrame := outbound }, next, cache, []⟩
  /-- The selection is complete, but the attempt closes at the binding or after it. -/
  | interrupted {call : PairingCall} {last : PairingAttempt} {nowMs : UInt64}
      (hcompletes : Completes env attempt call last nowMs) (hstate : attempt.state = .selecting)
      {context : PairingContext} (hcontext : last.buildContext env.unbounded = .ok context)
      {reservationId : UInt64} (hreservation : attempt.replayReservation = some reservationId)
      {bound : PairingError × ReplayCache}
      (hbound : bound = cache.bind reservationId context.digest nowMs) (error : PairingError) :
      Step env attempt cache call ((last.close bound.2 error).after (.bind context bound.1))
  /-- The selection is complete and the users are asked. -/
  | completed {call : PairingCall} {last : PairingAttempt} {nowMs : UInt64}
      (hcompletes : Completes env attempt call last nowMs) (hstate : attempt.state = .selecting)
      {context : PairingContext} (hcontext : last.buildContext env.unbounded = .ok context)
      {reservationId : UInt64} (hreservation : attempt.replayReservation = some reservationId)
      {bound : ReplayCache} (hbound : (.none, bound) = cache.bind reservationId context.digest nowMs)
      {indices : List UInt16} {confirmationExporter : Bytes}
      (hsecrets : deriveSecrets env.unbounded context = .ok (indices, confirmationExporter))
      {next : PairingAttempt}
      (hnext : next = last.awaiting context indices confirmationExporter nowMs) :
      Step env attempt cache call
        ⟨{ next.update with prompt := some next.prompt }, next, bound, [.bind context .none]⟩
  /-- The peer has rejected. -/
  | rejected {encoded : Bytes} {nowMs : UInt64} {decision : Decision} {context : PairingContext}
      {verification : ConfirmationVerification}
      (hverifies : Verifies env attempt encoded decision context verification)
      (houtcome : verification.outcome = .authenticatedReject) :
      Step env attempt cache (.receiveFrame encoded nowMs)
        (((attempt.received encoded nowMs).close cache .authenticatedReject).after
          (.verify attempt.confirmationExporter decision context verification))
  /-- The peer has confirmed. -/
  | confirmed {encoded : Bytes} {nowMs : UInt64} {decision : Decision} {context : PairingContext}
      {verification : ConfirmationVerification}
      (hverifies : Verifies env attempt encoded decision context verification)
      (houtcome : verification.outcome = .affirmativeConfirm) {o : Outcome}
      (hconcludes : Concludes env ((attempt.received encoded nowMs).confirmedByPeer nowMs) cache o) :
      Step env attempt cache (.receiveFrame encoded nowMs)
        (o.after (.verify attempt.confirmationExporter decision context verification))
  /-- The user has rejected, or the decision could not be sent. -/
  | declined {handle : AttemptHandle} {decision : ConfirmationDecision} {nowMs : UInt64}
      {confirmation : ConfirmationValue}
      (hdecides : Decides env attempt handle decision confirmation) {last : PairingAttempt}
      (hlast : last.replayReservation = attempt.replayReservation) (error : PairingError)
      {frame : Bytes} (hframe : frame = [] ∨ frame = attempt.decisionFrame confirmation) :
      Step env attempt cache (.decide handle decision nowMs)
        ⟨{ state := .closed, error := error, outboundFrame := frame, terminal := true },
          last.ended .closed, last.settleReservation cache,
          [.issue attempt.confirmationExporter confirmation]⟩
  /-- The user has confirmed. -/
  | decided {handle : AttemptHandle} {nowMs : UInt64} {confirmation : ConfirmationValue}
      (hdecides : Decides env attempt handle .confirm confirmation)
      (hne : attempt.decisionFrame confirmation ≠ []) {next : PairingAttempt}
      (hnext : next = ((attempt.atTime nowMs).deciding .confirm).sequenced.touched nowMs) :
      Step env attempt cache (.decide handle .confirm nowMs)
        ⟨{ next.update with outboundFrame := attempt.decisionFrame confirmation }, next, cache,
          [.issue attempt.confirmationExporter confirmation]⟩
  /-- The confirmation of the user has been written. -/
  | written {handle : AttemptHandle} {nowMs : UInt64} (hhandle : attempt.handleMatches handle = true)
      (hstate : attempt.state = .awaitingDecisions)
      (hdecision : attempt.localDecision = some .confirm) {o : Outcome}
      (hconcludes : Concludes env ((attempt.atTime nowMs).decisionReported nowMs) cache o) :
      Step env attempt cache (.localDecisionWritten handle nowMs) o

/-! ### Every call is a step -/

section Calls

variable {env : PairingEnvironment} {attempt : PairingAttempt} {cache : ReplayCache}

theorem concludes_maybeCommit (env : PairingEnvironment) (attempt : PairingAttempt)
    (cache : ReplayCache) : Concludes env attempt cache (attempt.maybeCommit env cache) := by
  unfold maybeCommit
  split
  next hguard =>
    refine .waits fun hready => ?_
    rcases hguard with h | h | h | h | h
    · exact h hready.state
    · exact h hready.decided
    · cases h.symm.trans hready.written
    · cases h.symm.trans hready.confirmed
    · exact hready.context h
  rename_i hguard
  push Not at hguard
  have hready : attempt.Ready := ⟨hguard.1, hguard.2.1, by simpa using hguard.2.2.1,
    by simpa using hguard.2.2.2.1, hguard.2.2.2.2⟩
  split
  · exact .exhausted hready
  split
  next hanswer => exact .refused hready hanswer
  next hanswer => exact .paired hready hanswer

/-- A conclusion does not depend on the memory. -/
theorem Concludes.of_unbounded {o : Outcome} (h : Concludes env.unbounded attempt cache o) :
    Concludes env attempt cache o := by
  cases h with
  | waits h => exact .waits h
  | exhausted h => exact .exhausted h
  | refused h hanswer => exact .refused h hanswer
  | paired h hanswer => exact .paired h hanswer

variable {call : PairingCall}

variable {last : PairingAttempt} {context : PairingContext}

/-- Closing at once is a step of every live attempt. -/
theorem Step.close (hlive : attempt.state.terminal = false)
    (hlast : last.replayReservation = attempt.replayReservation) (error : PairingError) :
    Step env attempt cache call (last.close cache error) :=
  .closed hlive hlast error (.inl rfl)

/-- Closing with an abort frame is a step of every live attempt. -/
theorem Step.abort (hlive : attempt.state.terminal = false) (nowMs : UInt64) (error : PairingError)
    {code : Nat} (hcode : 3 ≤ code ∧ code ≤ 4) :
    Step env attempt cache call (withAbort env ((attempt.atTime nowMs).close cache error) code) := by
  refine @Step.closed _ _ _ _ hlive (attempt.atTime nowMs) rfl error _ ?_
  split
  · exact .inr ⟨code, hcode.1, hcode.2, rfl⟩
  · exact .inl rfl

/-- What the look at the clock can come to. -/
theorem checkDeadline_cases (env : PairingEnvironment) (attempt : PairingAttempt)
    (cache : ReplayCache) (nowMs : UInt64) :
    (attempt.state.terminal = true ∧
      attempt.checkDeadline env cache nowMs = (attempt.atTime nowMs).keep cache) ∨
    (attempt.state.terminal = false ∧
      (attempt.checkDeadline env cache nowMs = (attempt.atTime nowMs).keep cache ∨
        attempt.checkDeadline env cache nowMs = (attempt.atTime nowMs).close cache .busy ∨
        attempt.checkDeadline env cache nowMs =
          withAbort env ((attempt.atTime nowMs).close cache .timeout) 4)) := by
  unfold checkDeadline
  simp only
  split
  next hended => exact .inl ⟨hended, rfl⟩
  rename_i hlive
  refine .inr ⟨(Bool.not_eq_true _).mp hlive, ?_⟩
  split
  · exact .inr (.inl rfl)
  split
  · exact .inl rfl
  · exact .inr (.inr rfl)

theorem step_checkDeadline {call : PairingCall} (nowMs : UInt64) :
    Step env attempt cache call (attempt.checkDeadline env cache nowMs) := by
  rcases checkDeadline_cases env attempt cache nowMs with ⟨hended, h⟩ | ⟨hlive, h | h | h⟩
  · rw [h]
    exact .settled hended _
  · rw [h]
    exact .quiet hlive _ _
  · rw [h]
    exact Step.close hlive (by simp) _
  rw [h]
  exact Step.abort hlive nowMs .timeout (by decide)

/-- After the look at the clock, the operation that follows is the step. -/
theorem step_afterDeadline (nowMs : UInt64) {operation : PairingAttempt → Outcome}
    (hoperation : attempt.state.terminal = false →
      Step env attempt cache call (operation (attempt.atTime nowMs))) :
    Step env attempt cache call (attempt.afterDeadline env cache nowMs operation) := by
  have hstep := @step_checkDeadline env attempt cache call nowMs
  unfold afterDeadline
  simp only
  split
  · exact hstep
  rename_i hlive
  rcases checkDeadline_cases env attempt cache nowMs with ⟨hended, h⟩ | ⟨hlive', h | h | h⟩
  · rw [h] at hlive
    exact absurd hended hlive
  · rw [h]
    exact hoperation hlive'
  · rw [h] at hlive
    exact absurd rfl hlive
  rw [h] at hlive
  exact absurd rfl hlive

/-- An operation for the holder of the handle is a step when it is one for the holder. -/
theorem step_withHandle (hlive : attempt.state.terminal = false) (nowMs : UInt64)
    (handle : AttemptHandle) {operation : Outcome}
    (hoperation : attempt.handleMatches handle = true → Step env attempt cache call operation) :
    Step env attempt cache call ((attempt.atTime nowMs).withHandle cache handle operation) := by
  unfold withHandle
  split
  next hhandle => exact hoperation hhandle
  · exact .quiet hlive _ _

/-- What the emission of a frame can come to. -/
theorem emit_cases (env : PairingEnvironment) (attempt : PairingAttempt) (cache : ReplayCache)
    (frame : UInt32 → Bytes) (next : PairingAttempt → PairingAttempt) :
    (∃ (last : PairingAttempt) (error : PairingError),
      last.replayReservation = attempt.replayReservation ∧
      attempt.emit env cache frame next = last.close cache error) ∨
    (∃ outbound result, outbound ≠ [] ∧ outbound = frame attempt.nextOutboundSequence ∧
      result = next attempt.sequenced ∧
      attempt.emit env cache frame next =
        ⟨{ result.update with outboundFrame := outbound }, result, cache, []⟩) := by
  unfold emit
  simp only
  split
  · exact .inl ⟨_, _, by rfl, rfl⟩
  split
  · exact .inl ⟨_, _, by rfl, rfl⟩
  next hne => exact .inr ⟨_, _, hne, rfl, rfl, rfl⟩

theorem buildContext_unbounded (h : attempt.buildContext env = .ok context) :
    attempt.buildContext env.unbounded = .ok context := by
  unfold buildContext at h ⊢
  split at h
  · split at h
    · cases h
    rename_i hmemory
    rw [if_neg (by simp [PairingEnvironment.unbounded])]
    exact h
  · cases h

theorem deriveSecrets_unbounded {secrets : List UInt16 × Bytes}
    (h : deriveSecrets env context = .ok secrets) :
    deriveSecrets env.unbounded context = .ok secrets := by
  unfold deriveSecrets at h ⊢
  split at h
  · cases h
  rename_i hmemory
  rw [if_neg (by simp [PairingEnvironment.unbounded])]
  exact h

/-- Completing the selection is a step of an attempt that may do so. -/
theorem step_completeSelection {nowMs : UInt64} (hstate : attempt.state = .selecting)
    (hcompletes : Completes env attempt call last nowMs) {env' : PairingEnvironment}
    (henv : env' = env ∨ env' = env.unbounded) :
    Step env attempt cache call (last.completeSelection env' cache nowMs) := by
  have hlive : attempt.state.terminal = false := hstate ▸ rfl
  have hlast : last.replayReservation = attempt.replayReservation := by cases hcompletes <;> rfl
  have hunbounded : env'.unbounded = env.unbounded := by
    rcases henv with rfl | rfl <;> rfl
  unfold completeSelection
  split
  · exact Step.close hlive hlast _
  rename_i context hcontext
  have hcontext' := buildContext_unbounded hcontext
  rw [hunbounded] at hcontext'
  split
  · exact Step.close hlive hlast _
  rename_i reservationId hreservation
  have hreservation' := hlast ▸ hreservation
  simp only
  have hinterrupted : ∀ error, Step env attempt cache call
      ((last.close (cache.bind reservationId context.digest nowMs).2 error).after
        (.bind context (cache.bind reservationId context.digest nowMs).1)) := fun error =>
    .interrupted hcompletes hstate hcontext' hreservation' rfl error
  unfold completeBound
  split
  · exact hinterrupted _
  rename_i hnone
  have hnone' := not_not.mp hnone
  split
  · exact hinterrupted _
  split
  · exact hinterrupted _
  rename_i indices confirmationExporter hsecrets
  have hsecrets' := deriveSecrets_unbounded hsecrets
  rw [hunbounded] at hsecrets'
  have hbound : (.none, (cache.bind reservationId context.digest nowMs).2) =
      cache.bind reservationId context.digest nowMs := by rw [← hnone']
  rw [hnone']
  exact .completed hcompletes hstate hcontext' hreservation' hbound hsecrets' rfl

section Received

variable {encoded : Bytes} {frame : Frame}

theorem step_receiveHello (hlive : attempt.state.terminal = false)
    (hreceives : Receives env attempt encoded frame) (nowMs : UInt64) :
    Step env attempt cache (.receiveFrame encoded nowMs)
      ((attempt.received encoded nowMs).receiveHello env cache frame nowMs) := by
  have hclose : ∀ error, Step env attempt cache (.receiveFrame encoded nowMs)
      ((attempt.received encoded nowMs).close cache error) := fun error =>
    Step.close hlive (by simp) error
  unfold receiveHello
  split
  · exact hclose _
  rename_i hguard
  push Not at hguard
  have hstate : attempt.state = .exchangingHellos := by simpa using hguard.1
  split
  · exact hclose _
  split
  · exact hclose _
  rename_i hello hdecode
  split
  · exact hclose _
  split
  · exact hclose _
  rename_i selection hselect
  simp only
  split
  next hrole =>
    have hrole' : attempt.localRole = .initiator := by simpa using hrole
    have hselect' : select attempt.options.offer hello.offer = .ok selection := by
      simpa [hrole'] using hselect
    rcases emit_cases env ((attempt.received encoded nowMs).heard hello selection nowMs) cache
      (fun sequence => encodeSelection .select sequence selection) id with
      ⟨last, error, hlast, h⟩ | ⟨outbound, result, hne, houtbound, hresult, h⟩
    · rw [h]
      exact Step.close hlive (by simpa using hlast) error
    rw [h]
    exact .selected hreceives hstate hrole' (by simpa using hdecode) hselect'
      (by simpa using houtbound) hne hresult
  rename_i hrole
  have hresponder : attempt.localRole = .responder := by
    cases h : attempt.localRole with
    | initiator => exact absurd h (by simpa using hrole)
    | responder => rfl
  have hselect' : select hello.offer attempt.options.offer = .ok selection := by
    simpa [hresponder] using hselect
  exact .greeted hreceives hstate hresponder (by simpa using hdecode) hselect'

theorem step_receiveSelection (hlive : attempt.state.terminal = false)
    (hreceives : Receives env attempt encoded frame) (nowMs : UInt64) :
    Step env attempt cache (.receiveFrame encoded nowMs)
      ((attempt.received encoded nowMs).receiveSelection env cache frame nowMs) := by
  have hclose : ∀ error, Step env attempt cache (.receiveFrame encoded nowMs)
      ((attempt.received encoded nowMs).close cache error) := fun error =>
    Step.close hlive (by simp) error
  unfold receiveSelection
  split
  · exact hclose _
  rename_i selection hselection
  split
  · exact hclose _
  rename_i hstate
  have hstate' : attempt.state = .selecting := by simpa using hstate
  split
  · exact hclose _
  rename_i htypes
  split
  · exact hclose _
  split
  · exact hclose _
  rename_i received hdecode
  split
  · exact hclose _
  rename_i hsame
  have hdecode' : decodeSelection frame = .ok selection := by
    rw [hdecode, not_not.mp hsame]
  split
  next hrole =>
    have htype : frame.type = .select := by
      by_contra hother
      refine htypes ⟨fun h => hother h.2, fun h => ?_⟩
      cases hrole.symm.trans h.1
    rcases emit_cases env (attempt.received encoded nowMs) cache
      (fun sequence => encodeSelection .selectAck sequence selection)
      (fun attempt => attempt.answering nowMs)
      with ⟨last, error, hlast, h⟩ | ⟨outbound, result, hne, houtbound, hresult, h⟩
    · rw [h]
      exact Step.close hlive (by simpa using hlast) error
    rw [h]
    exact .answered hreceives htype hstate' hrole (by simpa using hselection) hdecode'
      (by simpa using houtbound) hne hresult
  rename_i hrole
  have hack : attempt.localRole = .initiator ∧ frame.type = .selectAck := by
    by_contra hother
    exact htypes ⟨fun h => hrole h.1, hother⟩
  exact step_completeSelection hstate' (.acknowledged hreceives hack.2 hack.1) (.inl rfl)

theorem step_receiveDecision (hlive : attempt.state.terminal = false)
    (hreceives : Receives env attempt encoded frame) (nowMs : UInt64) :
    Step env attempt cache (.receiveFrame encoded nowMs)
      ((attempt.received encoded nowMs).receiveDecision env cache frame nowMs) := by
  have hclose : ∀ error, Step env attempt cache (.receiveFrame encoded nowMs)
      ((attempt.received encoded nowMs).close cache error) := fun error =>
    Step.close hlive (by simp) error
  unfold receiveDecision
  split
  · exact hclose _
  rename_i context hcontext
  split
  · exact hclose _
  rename_i hguard
  push Not at hguard
  split
  · exact hclose _
  rename_i decision hdecode
  split
  · exact hclose _
  split
  · exact hclose _
  rename_i verification hverified
  have hverifies : Verifies env attempt encoded decision context verification :=
    ⟨⟨frame, hreceives, hdecode⟩, by simpa using hguard.1, by simpa using hguard.2,
      by simpa using hcontext, by simpa using hverified⟩
  simp only
  split
  next houtcome => exact .rejected hverifies houtcome
  rename_i houtcome
  have haffirmed : verification.outcome = .affirmativeConfirm := by
    cases h : verification.outcome with
    | authenticatedReject => exact absurd h houtcome
    | affirmativeConfirm => rfl
  exact .confirmed hverifies haffirmed (concludes_maybeCommit _ _ _)

theorem step_dispatch (hlive : attempt.state.terminal = false)
    (hreceives : Receives env attempt encoded frame) (nowMs : UInt64) :
    Step env attempt cache (.receiveFrame encoded nowMs)
      ((attempt.received encoded nowMs).dispatch env cache frame nowMs) := by
  unfold dispatch
  split
  · split
    · exact Step.close hlive (by simp) _
    · exact Step.close hlive (by simp) _
  · exact step_receiveHello hlive hreceives nowMs
  · exact step_receiveSelection hlive hreceives nowMs
  · exact step_receiveSelection hlive hreceives nowMs
  · exact step_receiveDecision hlive hreceives nowMs

end Received

theorem step_receiveFrame (encoded : Bytes) (nowMs : UInt64) :
    Step env attempt cache (.receiveFrame encoded nowMs)
      (attempt.receiveFrame env cache encoded nowMs) := by
  refine step_afterDeadline nowMs fun hlive => ?_
  split
  · exact Step.close hlive (by simp) _
  split
  · exact Step.close hlive (by simp) _
  rename_i hbudget
  push Not at hbudget
  simp only
  split
  · exact Step.close hlive (by simp) _
  rename_i frame hparsed
  split
  · exact Step.close hlive (by simp) _
  rename_i hnumber
  push Not at hnumber
  exact step_dispatch hlive ⟨hparsed, by simpa using hnumber.1, by simpa using hbudget.1⟩ nowMs

variable (handle : AttemptHandle) (nowMs : UInt64)

theorem step_start : Step env attempt cache (.start nowMs) (attempt.start env cache nowMs) := by
  refine step_afterDeadline nowMs fun hlive => ?_
  split
  · exact Step.close hlive (by simp) _
  rename_i hstate
  have hstate' : attempt.state = .pairingTls := by simpa using hstate
  rcases emit_cases env (attempt.atTime nowMs).introduced cache
    (fun sequence => encodeHello sequence (attempt.atTime nowMs).localRole
      (attempt.atTime nowMs).localKey (attempt.atTime nowMs).localNonce
      (attempt.atTime nowMs).options.offer) (fun attempt => attempt.greeting nowMs) with
    ⟨last, error, hlast, h⟩ | ⟨outbound, result, hne, houtbound, hresult, h⟩
  · rw [h]
    exact Step.close hlive (by simpa using hlast) error
  rw [h]
  exact .started hstate' (by simpa using houtbound) hne hresult

theorem step_sendDecision (hlive : attempt.state.terminal = false) {handle : AttemptHandle}
    {decision : ConfirmationDecision} (hdecision : decision = .reject ∨ decision = .confirm)
    {context : PairingContext} (hhandle : attempt.handleMatches handle = true)
    (hstate : attempt.state = .awaitingDecisions) (hundecided : attempt.localDecision = none)
    (hcontext : attempt.context = some context) (nowMs : UInt64) :
    Step env attempt cache (.decide handle decision nowMs)
      ((attempt.atTime nowMs).sendDecision env cache context decision nowMs) := by
  unfold sendDecision
  split
  · exact Step.close hlive (by simp) _
  split
  · exact Step.close hlive (by simp) _
  rename_i confirmation hbuilt
  have hdecides : Decides env attempt handle decision confirmation :=
    ⟨hhandle, hstate, hundecided, context, hcontext, by simpa using hbuilt⟩
  simp only
  rcases emit_cases env ((attempt.atTime nowMs).deciding decision) cache
    (fun sequence => encodeDecision sequence ⟨confirmation.message, confirmation.authenticator⟩)
    id with ⟨last, error, hlast, h⟩ | ⟨outbound, result, hne, houtbound, hresult, h⟩
  · rw [h]
    exact .declined hdecides (by simpa using hlast) error (.inl rfl)
  have houtbound' : outbound = attempt.decisionFrame confirmation := by
    simpa [decisionFrame] using houtbound
  have hreservation : result.replayReservation = attempt.replayReservation := by
    rw [hresult]
    simp
  have hterminal : result.update.terminal = false := by
    rw [hresult]
    simpa using hlive
  rw [h, houtbound']
  rw [houtbound'] at hne
  rcases hdecision with rfl | rfl
  · rw [if_neg (by simpa using hterminal), if_pos rfl]
    exact .declined hdecides hreservation .localReject (.inr rfl)
  rw [if_neg (by simpa using hterminal), if_neg (by decide)]
  exact .decided hdecides hne (congrArg (touched · nowMs) hresult)

theorem step_decide (decision : ConfirmationDecision) (nowMs : UInt64) :
    Step env attempt cache (.decide handle decision nowMs)
      (attempt.decide env cache handle decision nowMs) := by
  refine step_afterDeadline nowMs fun hlive => step_withHandle hlive nowMs handle fun hhandle => ?_
  split
  · exact Step.close hlive (by simp) _
  rename_i context hcontext
  split
  · exact Step.close hlive (by simp) _
  rename_i hstate
  split
  · exact .quiet hlive _ _
  rename_i hundecided
  split
  · exact Step.close hlive (by simp) _
  rename_i hvalid
  have hdecision : decision = .reject ∨ decision = .confirm := by
    by_contra hother
    push Not at hother
    exact hvalid hother
  exact step_sendDecision hlive hdecision hhandle (by simpa using hstate)
    (by simpa using hundecided) (by simpa using hcontext) nowMs

theorem step_localSelectionAckWritten :
    Step env attempt cache (.localSelectionAckWritten handle nowMs)
      (attempt.localSelectionAckWritten env cache handle nowMs) := by
  refine step_afterDeadline nowMs fun hlive => step_withHandle hlive nowMs handle fun hhandle => ?_
  split
  · exact Step.close hlive (by simp) _
  rename_i hguard
  push Not at hguard
  have hcompletes : Completes env attempt (.localSelectionAckWritten handle nowMs)
      ((attempt.atTime nowMs).ackReported nowMs) nowMs :=
    .written hhandle (by simpa using hguard.1) (by simpa using hguard.2.2)
  have hstate : attempt.state = .selecting := by simpa using hguard.2.1
  exact step_completeSelection hstate hcompletes (.inr rfl)

theorem step_localDecisionWritten :
    Step env attempt cache (.localDecisionWritten handle nowMs)
      (attempt.localDecisionWritten env cache handle nowMs) := by
  refine step_afterDeadline nowMs fun hlive => step_withHandle hlive nowMs handle fun hhandle => ?_
  split
  · exact Step.close hlive (by simp) _
  rename_i hguard
  push Not at hguard
  exact .written hhandle (by simpa using hguard.1) (by simpa using hguard.2)
    (concludes_maybeCommit _ _ _).of_unbounded

theorem step_cancel :
    Step env attempt cache (.cancel handle nowMs) (attempt.cancel env cache handle nowMs) := by
  refine step_afterDeadline nowMs fun hlive => step_withHandle hlive nowMs handle fun _ => ?_
  exact Step.abort hlive nowMs .cancelled (by decide)

/-- Every call is a step. -/
theorem step_of_call (env : PairingEnvironment) (attempt : PairingAttempt) (cache : ReplayCache)
    (call : PairingCall) : Step env attempt cache call (attempt.call env cache call) := by
  cases call with
  | start nowMs => exact step_start nowMs
  | receiveFrame encoded nowMs => exact step_receiveFrame encoded nowMs
  | localSelectionAckWritten handle nowMs => exact step_localSelectionAckWritten handle nowMs
  | decide handle decision nowMs => exact step_decide handle decision nowMs
  | localDecisionWritten handle nowMs => exact step_localDecisionWritten handle nowMs
  | cancel handle nowMs => exact step_cancel handle nowMs
  | advance nowMs => exact step_checkDeadline nowMs
  | shutdown =>
    unfold call shutdown
    simp only
    split
    next hended => exact .settled hended _
    next hlive => exact Step.close ((Bool.not_eq_true _).mp hlive) rfl _

end Calls

end PairingAttempt

end XnnTransfer.Pairing
