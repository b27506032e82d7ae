import XnnTransfer.Pairing.Trust
import XnnTransfer.Pairing.WireRoundTrip

/-!
# The frames of a pairing attempt

An attempt sends its frames in stages: the hello, the selection or its
acknowledgement, the decision, and an abort. `PairingAttempt.outboundStage` is
the first stage whose frame an attempt has not sent, and every frame it sends
belongs to that stage or to a later one. There is one exception: a responder
that has not yet been told that its acknowledgement was written takes the
selection again and acknowledges it again.
-/

namespace XnnTransfer.Pairing

open Protocol Security Histories

/-- The stage to which a frame belongs. -/
def PairingMessageType.stage : PairingMessageType → Nat
  | .hello => 0
  | .select | .selectAck => 1
  | .decision => 2
  | .abort => 3

/-- A selection arrives at a responder whose acknowledgement is still being written. -/
def PairingObservation.RepeatsSelect (o : PairingObservation) : Prop :=
  o.before.selectionAckPending = true ∧ ∃ encoded nowMs frame,
    o.call = .receiveFrame encoded nowMs ∧
      parseFrame o.env.storableFields encoded = .ok frame ∧ frame.type = .select

namespace PairingAttempt

/-- The first stage whose frame has not been sent. -/
def outboundStage (attempt : PairingAttempt) : Nat :=
  match attempt.state with
  | .pairingTls => 0
  | .exchangingHellos => 1
  | .selecting =>
    if attempt.localRole = .responder ∧ attempt.selectionAckPending = false then 1 else 2
  | _ => if attempt.localDecision = none then 2 else 3

theorem outboundStage_le (attempt : PairingAttempt) : attempt.outboundStage ≤ 3 := by
  unfold outboundStage
  split
  · decide
  · decide
  all_goals split <;> decide

theorem outboundStage_awaiting {attempt : PairingAttempt}
    (h : attempt.state = .awaitingDecisions) :
    attempt.outboundStage = if attempt.localDecision = none then 2 else 3 := by
  rw [outboundStage, h]

/-- The next attempt has sent `sent` more frames. -/
structure Sends (attempt next : PairingAttempt) (sent : Nat) : Prop where
  sequence : next.nextOutboundSequence = attempt.nextOutboundSequence + UInt32.ofNat sent
  inbound : attempt.inboundFrames ≤ maxInboundPairingFrames →
    next.inboundFrames ≤ maxInboundPairingFrames
  account : attempt.inboundFrames + attempt.outboundStage + sent ≤
    next.inboundFrames + next.outboundStage
  stage : attempt.outboundStage ≤ next.outboundStage

/-- What a call sends. -/
inductive Emits (env : PairingEnvironment) (attempt : PairingAttempt) (cache : ReplayCache)
    (call : PairingCall) (o : Outcome) : Prop
  | silent (hframe : o.update.outboundFrame = [])
      (hnext : o.attempt.state.terminal = false → attempt.Sends o.attempt 0)
  | frame {type : PairingMessageType} {fields : List Field} (hfields : WellFormed fields)
      (hframe : o.update.outboundFrame = encodeFrame type attempt.nextOutboundSequence fields)
      (hstage : attempt.outboundStage ≤ type.stage ∨ (type = .selectAck ∧
        (observed env attempt cache call o).RepeatsSelect))
      (hnext : o.attempt.state.terminal = false →
        attempt.Sends o.attempt 1 ∧ type.stage < o.attempt.outboundStage)

variable {type : PairingMessageType} {sequence : UInt32}

/-- The body of a frame that could be encoded fits. -/
theorem length_encodeBody_le {fields : List Field} (h : encodeFrame type sequence fields ≠ []) :
    (encodeBody fields).length ≤ maxPairingBodySize := by
  by_contra hlarge
  exact h (if_pos (not_le.mp hlarge))

theorem selectionFields_wellFormed_of_ne {selection : Selection}
    (h : encodeSelection type sequence selection ≠ []) :
    WellFormed (selectionFields selection) := by
  refine ⟨rfl, Nat.le_of_ble_eq_true rfl, ?_, length_encodeBody_le h⟩
  simp [selectionFields, Field.Sized, fixedLength]

theorem helloFields_wellFormed_of_ne {role : Role} {key : PublicKey} {nonce : Nonce256}
    {offer : NegotiationOffer} (h : encodeHello sequence role key nonce offer ≠ []) :
    WellFormed (helloFields role key nonce offer) := by
  refine ⟨rfl, Nat.le_of_ble_eq_true rfl, ?_, length_encodeBody_le h⟩
  simp [helloFields, Field.Sized, fixedLength]

section Steps

variable {env : PairingEnvironment} {attempt : PairingAttempt} {cache : ReplayCache}
  {call : PairingCall} {o : Outcome}

theorem Receives.inbound {encoded : Bytes} {frame : Frame} (h : Receives env attempt encoded frame)
    (hbound : attempt.inboundFrames ≤ maxInboundPairingFrames) :
    attempt.inboundFrames + 1 ≤ maxInboundPairingFrames :=
  lt_of_le_of_ne hbound h.allowed

/-- A conclusion sends nothing. -/
theorem Concludes.emits {last : PairingAttempt} (h : Concludes env last cache o)
    (hsends : attempt.Sends last 0) :
    o.update.outboundFrame = [] ∧
      (o.attempt.state.terminal = false → attempt.Sends o.attempt 0) := by
  cases h with
  | waits => exact ⟨rfl, fun _ => hsends⟩
  | exhausted | refused | paired => exact ⟨rfl, nofun⟩

theorem Completes.sends {last next : PairingAttempt} {nowMs : UInt64}
    (h : Completes env attempt call last nowMs) (hsound : attempt.Sound)
    (hstate : attempt.state = .selecting)
    (hnext : next.nextOutboundSequence = last.nextOutboundSequence ∧
      next.inboundFrames = last.inboundFrames ∧ next.state = .awaitingDecisions ∧
      next.localDecision = last.localDecision) : attempt.Sends next 0 := by
  obtain ⟨hsequence, hinbound, hawaiting, hdecision⟩ := hnext
  have hundecided : next.localDecision = none := by
    rw [hdecision, h.decisions.1]
    exact hsound.undecided (by rw [hstate]; decide)
  have hafter : next.outboundStage = 2 := by
    rw [outboundStage_awaiting hawaiting, if_pos hundecided]
  have hbefore : attempt.outboundStage = 2 := by
    rw [outboundStage, hstate]
    cases h with
    | acknowledged _ _ hrole => simp [hrole]
    | written _ _ hpending => simp [hpending]
  cases h with
  | acknowledged hreceives =>
    refine ⟨by simpa using hsequence, fun hbound => ?_, ?_, by omega⟩
    · rw [hinbound]
      simpa using hreceives.inbound hbound
    rw [hinbound, hafter, hbefore]
    simp
  | written =>
    refine ⟨by simpa using hsequence, fun hbound => ?_, ?_, by omega⟩
    · rw [hinbound]
      simpa using hbound
    rw [hinbound, hafter, hbefore]
    simp

/-- Every call sends at most one frame, at the stage of the attempt or at a later one. -/
theorem Step.emits (hstep : Step env attempt cache call o) (hsound : attempt.Sound)
    (hlive : attempt.state.terminal = false) : Emits env attempt cache call o := by
  cases hstep with
  | settled hended => cases hlive.symm.trans hended
  | quiet => exact .silent rfl fun _ => ⟨by simp, id, le_rfl, le_rfl⟩
  | closed _ _ _ hframe =>
    rcases hframe with rfl | ⟨code, -, -, rfl⟩
    · exact .silent rfl nofun
    · exact .frame (abortFields_wellFormed code) rfl (.inl attempt.outboundStage_le) nofun
  | @started nowMs hstate _ hframe hne _ hnext =>
    have hbefore : attempt.outboundStage = 0 := by rw [outboundStage, hstate]
    have hafter : ((attempt.atTime nowMs).introduced.sequenced.greeting nowMs).outboundStage =
        1 := rfl
    subst hnext hframe
    refine .frame (helloFields_wellFormed_of_ne hne) rfl (.inl hbefore.le) fun _ => ?_
    refine ⟨⟨by simp, by simp, ?_, by rw [hbefore]; exact Nat.zero_le _⟩, ?_⟩
    · rw [hbefore, hafter]
      simp
    rw [hafter]
    decide
  | @greeted encoded nowMs _ hreceives hstate _ hello _ selection _ =>
    have hbefore : attempt.outboundStage = 1 := by rw [outboundStage, hstate]
    have hafter : 1 ≤
        ((attempt.received encoded nowMs).heard hello selection nowMs).outboundStage := by
      rw [outboundStage, heard_state]
      simp only
      split <;> decide
    refine .silent rfl fun _ =>
      ⟨by simp, fun hbound => by simpa using hreceives.inbound hbound, ?_, hbefore ▸ hafter⟩
    rw [hbefore]
    simp only [keep_attempt, heard_inboundFrames, counted_inboundFrames, charged_inboundFrames,
      atTime_inboundFrames]
    omega
  | @selected encoded nowMs _ hreceives hstate hrole hello _ selection _ _ houtbound hne _ hnext =>
    have hbefore : attempt.outboundStage = 1 := by rw [outboundStage, hstate]
    have hafter : ((attempt.received encoded nowMs).heard hello selection
        nowMs).sequenced.outboundStage = 2 := by
      simp [outboundStage, hrole]
    subst hnext houtbound
    refine .frame (selectionFields_wellFormed_of_ne hne) rfl (.inl hbefore.le) fun _ => ?_
    refine ⟨⟨by simp, fun hbound => by simpa using hreceives.inbound hbound, ?_, ?_⟩, ?_⟩
    · rw [hbefore, hafter]
      simp
    · rw [hbefore, hafter]
      decide
    rw [hafter]
    decide
  | @answered encoded nowMs frame hreceives htype hstate hrole _ _ _ _ houtbound hne _ hnext =>
    have hbefore : attempt.outboundStage ≤ 2 := by
      rw [outboundStage, hstate]
      simp only
      split <;> decide
    have hafter : ((attempt.received encoded nowMs).sequenced.answering nowMs).outboundStage =
        2 := by
      simp [outboundStage, hstate]
    subst hnext houtbound
    refine .frame (selectionFields_wellFormed_of_ne hne) rfl ?_ fun _ => ?_
    · by_cases hpending : attempt.selectionAckPending = true
      · exact .inr ⟨rfl, hpending, encoded, nowMs, frame, rfl, hreceives.parsed, htype⟩
      left
      rw [outboundStage, hstate]
      simp [hrole, hpending, PairingMessageType.stage]
    refine ⟨⟨by simp, fun hbound => by simpa using hreceives.inbound hbound, ?_, ?_⟩, ?_⟩
    · rw [hafter]
      simp only [answering_inboundFrames, sequenced_inboundFrames, counted_inboundFrames,
        charged_inboundFrames, atTime_inboundFrames]
      omega
    · rw [hafter]
      exact hbefore
    rw [hafter]
    decide
  | interrupted | rejected => exact .silent rfl nofun
  | completed hcompletes hstate _ _ _ _ hnext =>
    subst hnext
    exact .silent rfl fun _ => hcompletes.sends hsound hstate ⟨by simp, by simp, by simp, by simp⟩
  | @confirmed encoded nowMs _ _ _ hverifies _ _ hconcludes =>
    obtain ⟨frame, hreceives, -⟩ := hverifies.receives
    have hsends : attempt.Sends ((attempt.received encoded nowMs).confirmedByPeer nowMs) 0 := by
      have hstage : ((attempt.received encoded nowMs).confirmedByPeer nowMs).outboundStage =
          attempt.outboundStage := by
        simp [outboundStage, hverifies.state]
      refine ⟨by simp, fun hbound => by simpa using hreceives.inbound hbound, ?_, hstage.ge⟩
      rw [hstage]
      simp
    exact .silent (hconcludes.emits hsends).1 (hconcludes.emits hsends).2
  | @declined _ _ _ confirmation hdecides _ _ _ _ hframe =>
    rcases hframe with rfl | rfl
    · exact .silent rfl nofun
    refine .frame (decisionFields_wellFormed _) rfl (.inl ?_) nofun
    rw [outboundStage_awaiting hdecides.state, if_pos hdecides.undecided]
    exact le_rfl
  | @decided _ nowMs _ hdecides _ _ hnext =>
    have hbefore : attempt.outboundStage = 2 := by
      rw [outboundStage_awaiting hdecides.state, if_pos hdecides.undecided]
    have hafter : (((attempt.atTime nowMs).deciding .confirm).sequenced.touched
        nowMs).outboundStage = 3 := by
      simp [outboundStage, hdecides.state]
    subst hnext
    refine .frame (decisionFields_wellFormed _) rfl (.inl hbefore.le) fun _ => ?_
    refine ⟨⟨by simp, by simp, ?_, ?_⟩, ?_⟩
    · rw [hbefore, hafter]
      simp
    · rw [hbefore, hafter]
      decide
    rw [hafter]
    decide
  | @written _ nowMs _ hstate hdecision _ hconcludes =>
    have hsends : attempt.Sends ((attempt.atTime nowMs).decisionReported nowMs) 0 := by
      have hstage : ((attempt.atTime nowMs).decisionReported nowMs).outboundStage =
          attempt.outboundStage := by
        simp [outboundStage, hstate]
      refine ⟨by simp, by simp, ?_, hstage.ge⟩
      rw [hstage]
      simp
    exact .silent (hconcludes.emits hsends).1 (hconcludes.emits hsends).2

end Steps

end PairingAttempt

/-! ### Runs -/

namespace PairingSession

/-- The frames that the session has sent, as bytes. -/
def emitted (s : PairingSession) : List Bytes :=
  (s.history.map fun o => o.outcome.update.outboundFrame).filter fun frame => !frame.isEmpty

/-- Two frames of which the first may come before the second. -/
def Precedes (first second : Frame) : Prop :=
  first.type.stage < second.type.stage ∨ (first.type.stage = 1 ∧ second.type = .selectAck)

/-- What a live attempt says about the frames it has sent. -/
structure Behind (attempt : PairingAttempt) (frames : List Frame) : Prop where
  sequence : attempt.nextOutboundSequence.toNat = frames.length + 1
  account : frames.length ≤ attempt.inboundFrames + attempt.outboundStage
  inbound : attempt.inboundFrames ≤ maxInboundPairingFrames
  stage : ∀ frame ∈ frames, frame.type.stage < attempt.outboundStage

/-- The frames that the session has sent. -/
structure Sent (s : PairingSession) (frames : List Frame) : Prop where
  parsed : s.emitted.map (parseFrame maxPairingFields) = frames.map .ok
  numbers : frames.map (fun frame => frame.sequence.toNat) = List.range' 1 frames.length
  ordered : frames.Pairwise Precedes
  strict : (∀ o ∈ s.history, ¬ o.RepeatsSelect) →
    frames.Pairwise fun first second => first.type.stage < second.type.stage
  live : s.attempt.state.terminal = false → Behind s.attempt frames

section Run

variable {s : PairingSession} {env : PairingEnvironment} {call : PairingCall} {o : Outcome}
  {frames : List Frame}

theorem emitted_record (h : o.update.outboundFrame ≠ []) :
    (s.record env call o).emitted = s.emitted ++ [o.update.outboundFrame] := by
  simp [emitted, h]

variable {last : Frame} {next : PairingAttempt}

/-- A frame of a later stage can be appended. -/
theorem pairwise_concat {R : Frame → Frame → Prop} (h : frames.Pairwise R)
    (hlast : ∀ frame ∈ frames, R frame last) : (frames ++ [last]).Pairwise R := by
  refine List.pairwise_append.mpr ⟨h, List.pairwise_singleton R last, ?_⟩
  intro frame hframe other hother
  rw [List.mem_singleton.mp hother]
  exact hlast frame hframe

/-- The numbers do not run out. -/
theorem Behind.toNat_succ (h : Behind s.attempt frames) :
    (s.attempt.nextOutboundSequence + 1).toNat = frames.length + 2 := by
  have hstage := s.attempt.outboundStage_le
  have haccount := h.account
  have hinbound := h.inbound
  have hsequence := h.sequence
  simp only [maxInboundPairingFrames] at hinbound
  rw [UInt32.toNat_add, UInt32.toNat_one]
  omega

/-- An attempt that sends nothing keeps what it says about its frames. -/
theorem Behind.silent (h : Behind s.attempt frames) (hsends : s.attempt.Sends next 0) :
    Behind next frames := by
  have haccount := hsends.account
  refine ⟨?_, (h.account.trans (by omega)), hsends.inbound h.inbound, fun frame hframe =>
    (h.stage frame hframe).trans_le hsends.stage⟩
  rw [hsends.sequence]
  simpa using h.sequence

theorem Behind.concat (h : Behind s.attempt frames) (hsends : s.attempt.Sends next 1)
    (hlast : last.type.stage < next.outboundStage) : Behind next (frames ++ [last]) := by
  have haccount := hsends.account
  have hbefore := h.account
  refine ⟨?_, ?_, hsends.inbound h.inbound, fun frame hframe => ?_⟩
  · rw [hsends.sequence, List.length_append, List.length_singleton]
    exact h.toNat_succ
  · rw [List.length_append, List.length_singleton]
    omega
  rcases List.mem_append.mp hframe with hold | hnew
  · exact (h.stage frame hold).trans_le hsends.stage
  rw [List.mem_singleton.mp hnew]
  exact hlast

/-- Every step keeps the account of the frames, perhaps with one more frame. -/
theorem Sent.step (h : s.Sent frames) (hsound : s.attempt.Sound)
    (hstep : PairingAttempt.Step env s.attempt s.cache call o) :
    ∃ frames, (s.record env call o).Sent frames := by
  have hearlier (hnone : ∀ last ∈ (s.record env call o).history, ¬ last.RepeatsSelect) :
      ∀ last ∈ s.history, ¬ last.RepeatsSelect :=
    fun last hlast => hnone last (List.mem_append_left _ hlast)
  by_cases hlive : s.attempt.state.terminal = true
  · obtain ⟨lastNowMs, rfl⟩ := hstep.absorbed hlive
    refine ⟨frames, ?_, h.numbers, h.ordered, fun hnone => h.strict (hearlier hnone), ?_⟩
    · simpa [emitted] using h.parsed
    · exact fun hfalse => absurd (hlive.symm.trans hfalse) (by decide)
  have hlive' := (Bool.not_eq_true _).mp hlive
  have hbehind := h.live hlive'
  rcases hstep.emits hsound hlive' with ⟨hframe, hnext⟩ | ⟨hfields, hframe, hstage, hnext⟩
  · refine ⟨frames, ?_, h.numbers, h.ordered, fun hnone => h.strict (hearlier hnone), ?_⟩
    · simpa [emitted, hframe] using h.parsed
    · exact fun hafter => hbehind.silent (hnext hafter)
  rename_i type fields
  refine ⟨frames ++ [⟨type, s.attempt.nextOutboundSequence, fields⟩], ?_, ?_, ?_, ?_, ?_⟩
  · rw [emitted_record (by rw [hframe]; exact encodeFrame_ne_nil hfields), List.map_append,
      List.map_append, h.parsed, List.map_singleton, List.map_singleton, hframe,
      parseFrame_encoded hfields hfields.count]
  · rw [List.map_append, List.map_singleton, h.numbers, List.length_append,
      List.length_singleton, List.range'_concat, hbehind.sequence]
    simp [Nat.add_comm]
  · refine pairwise_concat h.ordered fun frame hframe => ?_
    have hbefore := hbehind.stage frame hframe
    rcases hstage with hlater | ⟨rfl, hrepeats⟩
    · exact .inl (hbefore.trans_le hlater)
    -- The acknowledgement is repeated: so far there is a hello and what was selected.
    have hpending : s.attempt.selectionAckPending = true := hrepeats.1
    simp [PairingAttempt.outboundStage, (hsound.pending hpending).1, hpending] at hbefore
    by_cases hzero : frame.type.stage = 0
    · exact .inl (by rw [hzero]; exact Nat.one_pos)
    · exact .inr ⟨by omega, rfl⟩
  · intro hnone
    refine pairwise_concat (h.strict (hearlier hnone)) fun frame hframe => ?_
    rcases hstage with hlater | ⟨-, hrepeats⟩
    · exact (hbehind.stage frame hframe).trans_le hlater
    · exact absurd hrepeats (hnone _ (List.mem_append_right _ (List.mem_singleton_self _)))
  · exact fun hafter => hbehind.concat (hnext hafter).1 (hnext hafter).2

end Run

end PairingSession

end XnnTransfer.Pairing
