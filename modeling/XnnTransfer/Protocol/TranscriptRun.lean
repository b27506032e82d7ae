import XnnTransfer.Library.Guards
import XnnTransfer.Library.Runs
import XnnTransfer.Protocol.Soundness
import XnnTransfer.Protocol.Transcript

/-!
# Accepted frames of a transcript

What it takes for `Process` to accept a frame, and what is known after a run of
accepted frames that holds no `NEGOTIATE` yet: the hellos are the ones that were
received, and nothing beyond them has happened.
-/

namespace XnnTransfer.Protocol.TranscriptParser

open Guards

@[simp] theorem complete_fst (parser : TranscriptParser) (error : Error) (streamId : Nat) :
    (parser.complete error streamId).1 = error := by
  unfold complete
  split <;> rfl

variable {direction : Direction} {frame : ParsedFrame} {error : Error} {parser : TranscriptParser}

theorem readHello_refuses : Refuses (·.ok = false) (readHello direction frame) :=
  .ite (fun _ => rfl) (.ite (fun _ => rfl) (.ite (fun _ => rfl) (.ite id (.ite id (.ok _)))))

/-- A message is refused with an error. -/
theorem processMessage_refuses :
    Refuses (·.ok = false) (parser.processMessage direction frame) := by
  unfold processMessage
  split
  · refine .ite (fun _ => rfl) ?_
    split
    next hread => exact .error (readHello_refuses _ hread)
    · exact .ok _
  · refine .ite (fun _ => rfl) ?_
    split
    · exact .ite (fun _ => rfl) (.ite id (.ok _))
    · exact .error rfl
  · refine .ite (fun _ => rfl) ?_
    split
    · exact .error rfl
    · exact .ite (fun _ => rfl) (.ite (fun _ => rfl) (.ite (fun _ => rfl) (.ok _)))
  · exact .ite (fun _ => rfl) (.ite (fun _ => rfl) (.ite (fun _ => rfl) (.ok _)))
  · exact .ite (fun _ => rfl) (.ok _)
  · exact .ite (fun _ => rfl) (.ite (fun _ => rfl) (.ok _))
  · exact .ite (fun _ => rfl) (.ite (fun _ => rfl) (.ok _))
  · exact .ite (fun _ => rfl) (.ok _)

/-- What the parser asks of a frame: it parses, its number is the next one, the
state admits its type, and its message is processed. -/
structure Admitted (parser : TranscriptParser) (direction : Direction) (encoded : Bytes)
    (frame : ParsedFrame) (next : TranscriptParser) : Prop where
  live : parser.terminal = false
  parsed : (parseFrame encoded parser.expectedVersion).ok = true
  frame_eq : (parseFrame encoded parser.expectedVersion).frame = frame
  numbered : parser.messageIdExhausted.get direction = false ∧
    frame.header.messageId = parser.nextMessageId.get direction
  sized : parser.negotiationAcknowledged = true →
    frame.header.bodyLength ≤
      ((parser.negotiation.map NegotiationData.effectiveMaxBody).getD 0).toNat
  admitted : ((parser.countMessage direction).validateEnvelopeState direction frame).ok = true
  processed : (parser.countMessage direction).processMessage direction frame = .ok next

theorem countMessage_fields (parser : TranscriptParser) (direction : Direction) :
    (parser.countMessage direction).hellos = parser.hellos ∧
      (parser.countMessage direction).negotiation = parser.negotiation ∧
      (parser.countMessage direction).negotiationAcknowledged =
        parser.negotiationAcknowledged ∧
      (parser.countMessage direction).bindingFramesComplete = parser.bindingFramesComplete ∧
      (parser.countMessage direction).terminal = parser.terminal := by
  unfold countMessage
  split <;> exact ⟨rfl, rfl, rfl, rfl, rfl⟩

variable {next : TranscriptParser} {frames : List (Direction × Bytes)}

/-- A guard is passed by what is accepted behind it. -/
theorem accepted_else_iff {p : Prop} [Decidable p] {refused rest : Error × TranscriptParser}
    (h : p → refused.1.ok = false) :
    (if p then refused else rest).1.ok = true ∧ (if p then refused else rest).2 = next ↔
      ¬p ∧ rest.1.ok = true ∧ rest.2 = next := by
  by_cases hp : p <;> simp [hp, h]

/-- A frame is accepted exactly when it is admitted. -/
theorem process_ok_iff {encoded : Bytes} :
    (parser.process direction encoded).1.ok = true ∧
        (parser.process direction encoded).2 = next ↔
      parser.Admitted direction encoded (parseFrame encoded parser.expectedVersion).frame
        next := by
  obtain ⟨-, hnegotiation, hacknowledged, -, -⟩ := countMessage_fields parser direction
  have hrefused : ∀ (parser : TranscriptParser) (error : Error) (streamId : Nat),
      error.ok = false → (parser.complete error streamId).1.ok = false := by
    intro parser error streamId herror
    rwa [complete_fst]
  simp only [process]
  rw [accepted_else_iff fun _ => rfl, accepted_else_iff (by exact hrefused _ _ _),
    accepted_else_iff fun _ => hrefused _ _ _ rfl, accepted_else_iff fun _ => hrefused _ _ _ rfl,
    accepted_else_iff (hrefused _ _ _), hnegotiation, hacknowledged]
  constructor
  · rintro ⟨hlive, henvelope, hnumber, hsize, hstate, hok, rfl⟩
    split at hok
    next error hbody =>
      cases (hrefused _ _ _ (parseFrameBody_refuses _ hbody)).symm.trans hok
    rename_i frame hbody
    split at hok
    next error hmessage =>
      cases (hrefused _ _ _ (processMessage_refuses _ hmessage)).symm.trans hok
    rename_i result hmessage
    rw [Bool.not_eq_false] at henvelope
    have hheader : frame.header =
        (parseFrameEnvelope encoded parser.expectedVersion).frame.header := by
      rw [(parseFrameBody_ok hbody).2]
    push Not at hnumber
    rw [parseFrame_of_body henvelope hbody]
    refine ⟨by simpa using hlive, ?_, ?_, ⟨by simpa using hnumber.1, ?_⟩, fun hack => ?_, ?_, ?_⟩
    · rw [parseFrame_of_body henvelope hbody]
      exact henvelope
    · rw [parseFrame_of_body henvelope hbody]
    · rw [hheader]
      exact hnumber.2
    · rw [hheader]
      exact not_lt.mp fun hlt => hsize ⟨hack, hlt⟩
    · simpa [validateEnvelopeState, hheader] using hstate
    · rw [hmessage]
  intro h
  obtain ⟨henvelope, hbody⟩ := parseFrame_ok_iff.mp h.parsed
  have hheader : (parseFrame encoded parser.expectedVersion).frame.header =
      (parseFrameEnvelope encoded parser.expectedVersion).frame.header := by
    rw [(parseFrameBody_ok hbody).2]
  refine ⟨by simp [h.live], by simp [henvelope], ?_, ?_, ?_, ?_⟩
  · rw [h.numbered.1, ← hheader, h.numbered.2]
    simp
  · rw [← hheader]
    exact fun ⟨hack, hlt⟩ => absurd (h.sized hack) (not_le.mpr hlt)
  · have hadmitted := h.admitted
    unfold validateEnvelopeState at hadmitted ⊢
    rw [← hheader, hadmitted]
    decide
  · rw [hbody]
    simp only [h.processed, and_true]
    rfl

/-! ### Runs before the negotiation -/

/-- The parser after a frame. -/
def step (parser : TranscriptParser) (frame : Direction × Bytes) : TranscriptParser :=
  (parser.process frame.1 frame.2).2

/-- The parser accepts the frame. -/
def Accepts (parser : TranscriptParser) (frame : Direction × Bytes) : Prop :=
  (parser.process frame.1 frame.2).1.ok = true

/-- Nothing beyond the two hellos has been accepted. -/
structure Early (parser : TranscriptParser) : Prop where
  live : parser.terminal = false
  negotiation : parser.negotiation = none
  acknowledged : parser.negotiationAcknowledged = false
  binding : parser.bindingFramesComplete = false

theorem Early.expectedVersion (h : parser.Early) : parser.expectedVersion = {} := by
  rw [TranscriptParser.expectedVersion, h.acknowledged, if_neg (by decide)]

theorem Early.countMessage (h : parser.Early) (direction : Direction) :
    (parser.countMessage direction).Early := by
  obtain ⟨-, hnegotiation, hacknowledged, hbinding, hterminal⟩ :=
    countMessage_fields parser direction
  exact ⟨hterminal.trans h.live, hnegotiation.trans h.negotiation,
    hacknowledged.trans h.acknowledged, hbinding.trans h.binding⟩

/-- Before the negotiation, a message other than `NEGOTIATE` is an `ERROR`, which
changes nothing, or the first hello of its direction. -/
theorem Early.processMessage (h : parser.Early) (htype : frame.header.messageType ≠ .negotiate)
    (hmessage : parser.processMessage direction frame = .ok next) :
    next.Early ∧ ((frame.header.messageType ≠ .hello ∧ next.hellos = parser.hellos) ∨
      ∃ hello, frame.header.messageType = .hello ∧ readHello direction frame = .ok hello ∧
        parser.hellos.get direction = none ∧
        next.hellos = parser.hellos.set direction (some hello)) := by
  unfold TranscriptParser.processMessage at hmessage
  split at hmessage
  next hhello =>
    unfold processHello at hmessage
    split at hmessage
    · cases hmessage
    rename_i hguard
    split at hmessage
    · cases hmessage
    rename_i hello hread
    cases hmessage
    push Not at hguard
    exact ⟨⟨h.live, h.negotiation, h.acknowledged, h.binding⟩,
      .inr ⟨hello, hhello, hread, by simpa using hguard.1, rfl⟩⟩
  next hnegotiate => exact absurd hnegotiate htype
  next hack =>
    unfold processNegotiateAck at hmessage
    rw [h.negotiation] at hmessage
    split at hmessage <;> cases hmessage
  next hfinished =>
    unfold processTransportFinished at hmessage
    rw [h.acknowledged, if_pos rfl] at hmessage
    cases hmessage
  next herror =>
    split at hmessage
    · cases hmessage
    cases hmessage
    exact ⟨h, .inl ⟨by rw [herror]; decide, rfl⟩⟩
  next hping =>
    unfold processPing at hmessage
    rw [h.binding, if_pos rfl] at hmessage
    cases hmessage
  next hpong =>
    unfold processPong at hmessage
    rw [h.binding, if_pos rfl] at hmessage
    cases hmessage
  · rw [h.binding, if_pos rfl] at hmessage
    cases hmessage

/-- The frame that bytes stand for before a version is negotiated. -/
def initialFrame (encoded : Bytes) : ParsedFrame := (parseFrame encoded {}).frame

/-- The hellos among the frames are the ones the parser holds. -/
def Remembers (parser : TranscriptParser) (frames : List (Direction × Bytes)) : Prop :=
  ∀ frame ∈ frames, (initialFrame frame.2).header.messageType = .hello →
    ∃ hello, readHello frame.1 (initialFrame frame.2) = .ok hello ∧
      parser.hellos.get frame.1 = some hello

theorem Remembers.step (h : parser.Remembers frames) (hearly : parser.Early)
    {frame : Direction × Bytes} (htype : (initialFrame frame.2).header.messageType ≠ .negotiate)
    (haccepts : parser.Accepts frame) :
    (parser.step frame).Early ∧ (parser.step frame).Remembers (frames ++ [frame]) := by
  have hadmitted := process_ok_iff.mp ⟨haccepts, rfl⟩
  rw [hearly.expectedVersion] at hadmitted
  have hhellos := (countMessage_fields parser frame.1).1
  obtain ⟨hnext, hcases⟩ := (hearly.countMessage frame.1).processMessage htype hadmitted.processed
  rw [hhellos] at hcases
  refine ⟨hnext, ?_⟩
  intro other hother hhello
  rcases List.mem_append.mp hother with hold | hnew
  · obtain ⟨hello, hread, hheld⟩ := h other hold hhello
    refine ⟨hello, hread, ?_⟩
    rcases hcases with ⟨-, hsame⟩ | ⟨hello', -, -, hfresh, hset⟩
    · exact hsame ▸ hheld
    have hdirection : other.1 ≠ frame.1 := by
      intro heq
      rw [heq, hfresh] at hheld
      cases hheld
    exact hset ▸ (PerDirection.get_set_other _ hdirection _).trans hheld
  rw [List.mem_singleton] at hnew
  subst hnew
  rcases hcases with ⟨hother, -⟩ | ⟨hello, -, hread, -, hset⟩
  · exact absurd hhello hother
  · exact ⟨hello, hread, hset ▸ PerDirection.get_set_same _ _ _⟩

/-- After accepted frames without a `NEGOTIATE` the parser holds their hellos. -/
theorem remembers_run (haccepts : Runs.Admits step Accepts {} frames)
    (htypes : ∀ frame ∈ frames, (initialFrame frame.2).header.messageType ≠ .negotiate) :
    (Runs.run step {} frames).Early ∧ (Runs.run step {} frames).Remembers frames := by
  induction frames using List.reverseRecOn with
  | nil => exact ⟨⟨rfl, rfl, rfl, rfl⟩, fun _ h => absurd h List.not_mem_nil⟩
  | append_singleton frames last ih =>
    obtain ⟨hbefore, hlast⟩ := Runs.admits_append.mp haccepts
    obtain ⟨hearly, hremembers⟩ := ih hbefore fun frame hframe =>
      htypes frame (List.mem_append_left _ hframe)
    rw [Runs.run_append]
    exact hremembers.step hearly (htypes last (by simp)) hlast.1

end XnnTransfer.Protocol.TranscriptParser
