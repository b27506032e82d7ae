import XnnTransfer.Protocol.TranscriptStep

/-!
# The error discipline of a transcript

After a fatal error a transcript refuses everything; any other error costs the
sender one message identifier and nothing else. Along every call sequence the
identifiers of each direction are consecutive, and every `PONG` answers the one
`PING` that is outstanding in the other direction.
-/

namespace XnnTransfer.Protocol.TranscriptParser

/-! ### Errors -/

/-- The errors that are fatal wherever they occur. -/
def alwaysFatal : ErrorCode → Bool
  | .malformedFrame | .frameTooLarge | .unsupportedVersion | .downgradeDetected
  | .unsupportedCapability | .unsupportedMessage | .messageIdViolation => true
  | _ => false

/-- An error on the bytes ends the transcript. -/
def Fatal (parser : TranscriptParser) (encoded : Bytes) (error : Error) : Prop :=
  parser.bindingFramesComplete = false ∨ (parser.header encoded).streamId = 0 ∨
    parser.envelopeOk encoded = false ∨ alwaysFatal error.code = true

variable {parser : TranscriptParser} {direction : Direction} {encoded : Bytes}
  {result : Error × TranscriptParser}

variable {error : Error} {streamId : Nat} {next : TranscriptParser} {frame : ParsedFrame}

theorem complete_terminal (hfailed : error.ok = false)
    (hfatal : parser.bindingFramesComplete = false ∨ streamId = 0 ∨
      alwaysFatal error.code = true) : (parser.complete error streamId).2.terminal = true := by
  obtain ⟨code, detail⟩ := error
  unfold complete
  cases code <;> simp_all [alwaysFatal, Error.ok]

theorem complete_local (hlive : parser.terminal = false)
    (hbound : parser.bindingFramesComplete = true) (hstream : streamId ≠ 0)
    (hlocal : alwaysFatal error.code = false) : (parser.complete error streamId).2 = parser := by
  have hkeep : decide (parser.bindingFramesComplete = false ∨ streamId = 0) =
      parser.terminal := by
    simp [hlive, hbound, hstream]
  obtain ⟨code, detail⟩ := error
  unfold complete
  cases code <;> first | rfl | exact Bool.noConfusion hlocal | simp only [hkeep]

theorem passesIdCheck_iff :
    parser.passesIdCheck direction encoded = true ↔
      parser.terminal = false ∧ parser.envelopeOk encoded = true ∧
        parser.messageIdExhausted.get direction = false ∧
        (parser.header encoded).messageId = parser.nextMessageId.get direction := by
  simp [passesIdCheck, and_assoc]

/-- A fatal error leaves the parser terminal. -/
theorem Processed.terminal (h : parser.Processed direction encoded result)
    (hfailed : result.1.ok = false) (hfatal : parser.Fatal encoded result.1) :
    result.2.terminal = true := by
  obtain ⟨-, -, -, hbinding, -⟩ := countMessage_fields parser direction
  cases h with
  | stopped hterminal => exact hterminal
  | unreadable hlive hunread error herror =>
    exact complete_terminal herror (.inr (.inl rfl))
  | misnumbered hlive hnumber => exact complete_terminal rfl (.inr (.inr rfl))
  | refused hnumbered error herror =>
    rw [complete_fst] at hfatal
    rcases hfatal with hunbound | hstream | henvelope | hcode
    · exact complete_terminal herror (.inl (hbinding.trans hunbound))
    · exact complete_terminal herror (.inr (.inl hstream))
    · rw [(passesIdCheck_iff.mp hnumbered).2.1] at henvelope
      cases henvelope
    · exact complete_terminal herror (.inr (.inr hcode))
  | accepted hnumbered next hhandled hparsed => cases hfailed

/-- An error that is not fatal counts the message. -/
theorem Processed.counted (h : parser.Processed direction encoded result)
    (hfailed : result.1.ok = false) (hlocal : ¬ parser.Fatal encoded result.1) :
    result.2 = if parser.terminal then parser else parser.countMessage direction := by
  obtain ⟨-, -, -, hbinding, hterminal⟩ := countMessage_fields parser direction
  unfold Fatal at hlocal
  push Not at hlocal
  obtain ⟨hbound, hstream, henvelope, hcode⟩ := hlocal
  cases h with
  | stopped hterminal => rw [if_pos hterminal]
  | unreadable hlive hunread error herror => exact absurd hunread henvelope
  | misnumbered hlive hnumber =>
    exact absurd rfl hcode
  | refused hnumbered error herror =>
    have hlive := (passesIdCheck_iff.mp hnumbered).1
    rw [hlive, if_neg (by decide)]
    exact complete_local (hterminal.trans hlive) (hbinding.trans (by simpa using hbound))
      hstream (by simpa using hcode)
  | accepted hnumbered next hhandled hparsed => cases hfailed

/-- The identifier of the frame, when the frame passes the check of its identifier. -/
def checkedId (parser : TranscriptParser) (frame : Direction × Bytes) : List (Direction × Nat) :=
  if parser.passesIdCheck frame.1 frame.2 then
    [(frame.1, (parser.header frame.2).messageId)]
  else []

/-- A frame that passes the check is counted; no other frame is. -/
theorem Processed.ids (h : parser.Processed direction encoded result) :
    (result.2.nextMessageId, result.2.messageIdExhausted) =
      if parser.passesIdCheck direction encoded then
        ((parser.countMessage direction).nextMessageId,
          (parser.countMessage direction).messageIdExhausted)
      else (parser.nextMessageId, parser.messageIdExhausted) := by
  cases h with
  | stopped hterminal => simp [passesIdCheck, hterminal]
  | unreadable hlive hunread error herror =>
    rw [show parser.passesIdCheck direction encoded = false by simp [passesIdCheck, hunread],
      if_neg (by decide)]
    unfold complete
    split <;> rfl
  | misnumbered hlive hnumber =>
    rw [hnumber, if_neg (by decide)]
    unfold complete
    split <;> rfl
  | refused hnumbered error herror =>
    rw [if_pos hnumbered]
    unfold complete
    split <;> rfl
  | accepted hnumbered next hhandled hparsed =>
    rw [if_pos hnumbered]
    cases hhandled <;> rfl

/-- The identifiers so far are `1, …, n`, and the next one is `n + 1`. -/
def Counts (direction : Direction) (history : List (Direction × Nat))
    (parser : TranscriptParser) : Prop :=
  ∃ n, (history.filter fun entry => entry.1 = direction).map Prod.snd = List.range' 1 n ∧
    (parser.messageIdExhausted.get direction = false → parser.nextMessageId.get direction = n + 1)

theorem countMessage_same
    (h : (parser.countMessage direction).messageIdExhausted.get direction = false) :
    (parser.countMessage direction).nextMessageId.get direction =
      parser.nextMessageId.get direction + 1 := by
  unfold countMessage at h ⊢
  split
  next hlast =>
    rw [if_pos hlast, PerDirection.get_set_same] at h
    cases h
  next hmore => exact PerDirection.get_set_same _ _ _

theorem Counts.step {history : List (Direction × Nat)} (h : Counts direction history parser)
    (frame : Direction × Bytes) :
    Counts direction (history ++ parser.checkedId frame) (parser.step frame) := by
  have hids := (process_processed parser frame.1 frame.2).ids
  obtain ⟨hnext, hexhausted⟩ := Prod.ext_iff.mp hids
  obtain ⟨n, hrange, hcount⟩ := h
  unfold checkedId
  change (parser.step frame).nextMessageId = _ at hnext
  change (parser.step frame).messageIdExhausted = _ at hexhausted
  by_cases hpasses : parser.passesIdCheck frame.1 frame.2 = true
  · rw [if_pos hpasses] at hnext hexhausted ⊢
    by_cases hdirection : frame.1 = direction
    · subst hdirection
      obtain ⟨-, -, havailable, hnumber⟩ := passesIdCheck_iff.mp hpasses
      have hlast : (parser.header frame.2).messageId = n + 1 := hnumber.trans (hcount havailable)
      refine ⟨n + 1, ?_, ?_⟩
      · simp [List.filter_append, hrange, hlast, List.range'_concat, Nat.add_comm]
      intro hmore
      rw [hexhausted] at hmore
      rw [hnext, countMessage_same hmore, hcount havailable]
    refine ⟨n, ?_, ?_⟩
    · simpa [List.filter_append, hdirection] using hrange
    rw [hnext, hexhausted]
    unfold countMessage
    split <;> simpa only [PerDirection.get_set_other _ (Ne.symm hdirection)] using hcount
  rw [if_neg hpasses] at hnext hexhausted ⊢
  rw [List.append_nil]
  exact ⟨n, hrange, by rw [hnext, hexhausted]; exact hcount⟩

/-! ### Pings and their answers -/

/-- The frame, when the parser accepts it. -/
def acceptedFrame (parser : TranscriptParser) (frame : Direction × Bytes) :
    List (Direction × ParsedFrame) :=
  if (parser.process frame.1 frame.2).1.ok then
    [(frame.1, (parseFrame frame.2 parser.expectedVersion).frame)]
  else []

/-- The frames that a fresh parser accepts, in order. -/
def acceptedFrames (frames : List (Direction × Bytes)) : List (Direction × ParsedFrame) :=
  Runs.emitted step acceptedFrame {} frames

inductive Probe
  | ping (token : Nat)
  | pong (token : Nat)
  deriving DecidableEq, Repr

/-- A `PING` of the direction or a `PONG` that answers it. -/
def probe (direction : Direction) (entry : Direction × ParsedFrame) : Option Probe :=
  if entry.2.header.messageType = .ping ∧ entry.1 = direction then
    some (.ping (bodyUnsigned entry.2 1))
  else if entry.2.header.messageType = .pong ∧ entry.1 = direction.reverse then
    some (.pong (bodyUnsigned entry.2 1))
  else none

/-- What is outstanding after one more probe; `none` when the probe comes out of turn. -/
def outstandingAfter : Option (Option Nat) → Probe → Option (Option Nat)
  | some none, .ping token => some (some token)
  | some (some expected), .pong token => if expected = token then some none else none
  | _, _ => none

/-- The token of the `PING` that is outstanding after the probes. -/
def outstanding (probes : List Probe) : Option (Option Nat) :=
  probes.foldl outstandingAfter (some none)

/-- The token that the parser waits for from the other side. -/
def awaited (parser : TranscriptParser) (direction : Direction) : Option Nat :=
  if parser.pongExpected.get direction.reverse then
    some (parser.expectedPongToken.get direction.reverse)
  else none

/-- An accepted frame moves what the parser waits for as a probe does. -/
theorem Handled.awaited {sender : Direction} (h : parser.Handled sender frame next)
    (direction : Direction) :
    (probe direction (sender, frame)).elim (some (parser.awaited direction))
      (outstandingAfter (some (parser.awaited direction))) = some (next.awaited direction) := by
  have hsilent : frame.header.messageType ≠ .ping → frame.header.messageType ≠ .pong →
      probe direction (sender, frame) = none := by
    intro hping hpong
    simp [probe, hping, hpong]
  cases h with
  | ping htype hbound habsent =>
    by_cases hsender : sender = direction
    · subst hsender
      simp [probe, htype, TranscriptParser.awaited, habsent, outstandingAfter]
    have hother : direction.reverse ≠ sender.reverse := by
      revert hsender
      cases sender <;> cases direction <;> decide
    simp [probe, htype, hsender, TranscriptParser.awaited, PerDirection.get_set_other _ hother]
  | pong htype hbound hexpected htoken =>
    by_cases hsender : sender = direction.reverse
    · subst hsender
      simp [probe, htype, TranscriptParser.awaited, hexpected, htoken, outstandingAfter]
    simp [probe, htype, hsender, TranscriptParser.awaited,
      PerDirection.get_set_other _ (Ne.symm hsender)]
  | hello _ htype | negotiate _ _ htype | negotiateAck htype | transportFinished htype
  | error htype =>
    rw [hsilent (by rw [htype]; decide) (by rw [htype]; decide)]
    rfl
  | other _ _ _ _ hping hpong _ =>
    rw [hsilent hping hpong]
    rfl

/-- The probes so far came in turn, and the parser waits for the outstanding one. -/
def Probes (direction : Direction) (history : List (Direction × ParsedFrame))
    (parser : TranscriptParser) : Prop :=
  outstanding (history.filterMap (probe direction)) = some (parser.awaited direction)

theorem Probes.step {history : List (Direction × ParsedFrame)} (h : Probes direction history parser)
    (frame : Direction × Bytes) :
    Probes direction (history ++ parser.acceptedFrame frame) (parser.step frame) := by
  have hprocessed := process_processed parser frame.1 frame.2
  unfold acceptedFrame TranscriptParser.step
  generalize parser.process frame.1 frame.2 = result at hprocessed ⊢
  have hkept : result.1.ok = false → result.2.awaited direction = parser.awaited direction →
      Probes direction (history ++ if result.1.ok = true then
        [(frame.1, (parseFrame frame.2 parser.expectedVersion).frame)] else []) result.2 := by
    intro hfailed hsame
    rw [if_neg (by simp [hfailed]), List.append_nil, Probes, hsame]
    exact h
  have hcounted : (parser.countMessage frame.1).awaited direction = parser.awaited direction := by
    unfold countMessage
    split <;> rfl
  cases hprocessed with
  | stopped hterminal => exact hkept rfl rfl
  | unreadable hlive hunread error herror =>
    exact hkept (by rw [complete_fst]; exact herror) (by unfold complete; split <;> rfl)
  | misnumbered hlive hnumber =>
    exact hkept (by rw [complete_fst]; rfl) (by unfold complete; split <;> rfl)
  | refused hnumbered error herror =>
    refine hkept (by rw [complete_fst]; exact herror) (Eq.trans ?_ hcounted)
    unfold complete
    split <;> rfl
  | accepted hnumbered next hhandled hparsed =>
    have hmoved := hhandled.awaited direction
    rw [hcounted, ← h] at hmoved
    have hok : (({}, next) : Error × TranscriptParser).1.ok = true := rfl
    rw [if_pos hok, Probes, ← hmoved, List.filterMap_append, outstanding, List.foldl_append]
    cases hprobe : probe direction (frame.1, (parseFrame frame.2 parser.expectedVersion).frame) <;>
      simp [hprobe, outstanding]

end XnnTransfer.Protocol.TranscriptParser
