import XnnTransfer.Library.Histories
import XnnTransfer.Protocol.Handshake

/-!
# Transcripts that reach the transport binding

Before the binding, the accepted frames other than `ERROR` determine the stage
the parser is in. Each stage admits one kind of frame, so the binding is reached
by a complete handshake and by nothing else. The version of an accepted header
is `1.0` until the acknowledgement and the acknowledged version from then on.
-/

namespace XnnTransfer.Protocol.TranscriptParser

open Pairing

/-- The part of the parser that the handshake moves. -/
structure Stage where
  hellos : PerDirection (Option HelloData)
  negotiation : Option NegotiationData
  acknowledged : Bool
  finished : PerDirection Bool
  bound : Bool

def stage (parser : TranscriptParser) : Stage :=
  ⟨parser.hellos, parser.negotiation, parser.negotiationAcknowledged, parser.transportFinished,
    parser.bindingFramesComplete⟩

/-- Two hellos, the second from the other side, as the parser holds them. -/
inductive Greeted : List (Direction × ParsedFrame) → HelloData → HelloData → Prop
  | initiatorFirst {hello hello' : ParsedFrame} {initiator responder : HelloData}
      (type : hello.header.messageType = .hello) (type' : hello'.header.messageType = .hello)
      (read : HelloRead .initiatorToResponder hello initiator)
      (read' : HelloRead .responderToInitiator hello' responder) :
      Greeted [(.initiatorToResponder, hello), (.responderToInitiator, hello')] initiator responder
  | responderFirst {hello hello' : ParsedFrame} {initiator responder : HelloData}
      (type : hello.header.messageType = .hello) (type' : hello'.header.messageType = .hello)
      (read : HelloRead .initiatorToResponder hello initiator)
      (read' : HelloRead .responderToInitiator hello' responder) :
      Greeted [(.responderToInitiator, hello'), (.initiatorToResponder, hello)] initiator responder

/-- Two hellos and the negotiation that settles them. -/
structure Negotiated (greetings : List (Direction × ParsedFrame)) (initiator responder : HelloData)
    (negotiate : ParsedFrame) : Prop where
  greeted : Greeted greetings initiator responder
  type : negotiate.header.messageType = .negotiate
  checked : (checkNegotiation initiator responder negotiate).ok = true

/-- A negotiation and its acknowledgement. -/
structure Acknowledged (greetings : List (Direction × ParsedFrame))
    (initiator responder : HelloData) (negotiate ack : ParsedFrame) : Prop extends
    Negotiated greetings initiator responder negotiate where
  ackType : ack.header.messageType = .negotiateAck
  equal : readNegotiation ack = readNegotiation negotiate
  major : bodyUnsigned ack 1 ≤ 255
  minor : bodyUnsigned ack 2 ≤ 255

/-- A `TRANSPORT_FINISHED` frame with the role of its direction. -/
structure Finishes (direction : Direction) (frame : ParsedFrame) : Prop where
  type : frame.header.messageType = .transportFinished
  role : UInt8.ofNat (bodyUnsigned frame 1) = UInt8.ofNat direction.expectedRole

/-- The stages of a handshake and the frames that lead to them. -/
inductive Progress : List (Direction × ParsedFrame) → Stage → Prop
  | start : Progress [] ⟨⟨none, none⟩, none, false, ⟨false, false⟩, false⟩
  | hello {opener : Direction} {frame : ParsedFrame} {hello : HelloData}
      (type : frame.header.messageType = .hello) (read : HelloRead opener frame hello) :
      Progress [(opener, frame)]
        ⟨PerDirection.set ⟨none, none⟩ opener (some hello), none, false, ⟨false, false⟩, false⟩
  | hellos {greetings : List (Direction × ParsedFrame)} {initiator responder : HelloData}
      (greeted : Greeted greetings initiator responder) :
      Progress greetings ⟨⟨some initiator, some responder⟩, none, false, ⟨false, false⟩, false⟩
  | negotiated {greetings : List (Direction × ParsedFrame)} {initiator responder : HelloData}
      {negotiate : ParsedFrame} (settled : Negotiated greetings initiator responder negotiate) :
      Progress (greetings ++ [(.initiatorToResponder, negotiate)])
        ⟨⟨some initiator, some responder⟩, some (readNegotiation negotiate), false,
          ⟨false, false⟩, false⟩
  | acknowledged {greetings : List (Direction × ParsedFrame)} {initiator responder : HelloData}
      {negotiate ack : ParsedFrame}
      (settled : Acknowledged greetings initiator responder negotiate ack) :
      Progress (greetings ++ [(.initiatorToResponder, negotiate), (.responderToInitiator, ack)])
        ⟨⟨some initiator, some responder⟩, some (readNegotiation negotiate), true,
          ⟨false, false⟩, false⟩
  | finished {greetings : List (Direction × ParsedFrame)} {initiator responder : HelloData}
      {negotiate ack : ParsedFrame}
      (settled : Acknowledged greetings initiator responder negotiate ack) {closer : Direction}
      {frame : ParsedFrame} (finishes : Finishes closer frame) :
      Progress (greetings ++ [(.initiatorToResponder, negotiate), (.responderToInitiator, ack),
          (closer, frame)])
        ⟨⟨some initiator, some responder⟩, some (readNegotiation negotiate), true,
          PerDirection.set ⟨false, false⟩ closer true, false⟩
  | complete {greetings : List (Direction × ParsedFrame)} {initiator responder : HelloData}
      {negotiate ack : ParsedFrame}
      (settled : Acknowledged greetings initiator responder negotiate ack) {closer : Direction}
      {frame frame' : ParsedFrame} (finishes : Finishes closer frame)
      (finishes' : Finishes closer.reverse frame') :
      Progress (greetings ++ [(.initiatorToResponder, negotiate), (.responderToInitiator, ack),
          (closer, frame), (closer.reverse, frame')])
        ⟨⟨some initiator, some responder⟩, some (readNegotiation negotiate), true, ⟨true, true⟩,
          true⟩

variable {accepted frames : List (Direction × ParsedFrame)} {next parser : TranscriptParser}
  {direction : Direction} {frame : ParsedFrame}

/-- A frame that is accepted before the binding moves the handshake on. -/
theorem Progress.step (h : Progress frames parser.stage)
    (hunbound : parser.bindingFramesComplete = false)
    (hhandled : parser.Handled direction frame next) (hother : frame.header.messageType ≠ .error) :
    Progress (frames ++ [(direction, frame)]) next.stage := by
  obtain ⟨ids, exhausted, hellos, negotiation, acknowledged, finished, bound, expected, token,
    terminal⟩ := parser
  subst hunbound
  cases hhandled with
  | hello hello htype habsent hearly hack hbound hread =>
    have hread := readHello_ok hread
    cases h with
    | start => exact Progress.hello htype hread
    | @hello opener _ _ htype' hread' =>
      cases opener <;> cases direction
      · cases habsent
      · exact Progress.hellos (.initiatorFirst htype' htype hread' hread)
      · exact Progress.hellos (.responderFirst htype htype' hread hread')
      · cases habsent
    | hellos hgreeted => cases direction <;> cases habsent
    | negotiated | acknowledged | finished => cases hearly
  | negotiate initiator responder htype hsender hfirst hsecond habsent hchecked =>
    subst hsender
    cases h with
    | start => cases hfirst
    | @hello opener _ _ htype' hread' =>
      cases opener
      · cases hsecond
      · cases hfirst
    | hellos hgreeted =>
      cases hfirst
      cases hsecond
      exact Progress.negotiated ⟨hgreeted, htype, hchecked⟩
    | negotiated | acknowledged | finished => cases habsent
  | negotiateAck htype hsender hnegotiated habsent hmajor hminor =>
    subst hsender
    cases h with
    | start | hello | hellos => cases hnegotiated
    | negotiated hsettled =>
      have hequal := (Option.some.inj hnegotiated).symm
      rw [List.append_assoc]
      exact Progress.acknowledged ⟨hsettled, htype, hequal, hmajor, hminor⟩
    | acknowledged | finished => cases habsent
  | transportFinished htype hack habsent hrole =>
    cases h with
    | start | hello | hellos | negotiated => cases hack
    | acknowledged hsettled =>
      rw [List.append_assoc]
      have hbound : ((PerDirection.set ⟨false, false⟩ direction true).initiator &&
          (PerDirection.set ⟨false, false⟩ direction true).responder) = false := by
        cases direction <;> rfl
      simp only [stage, hbound]
      exact Progress.finished hsettled ⟨htype, hrole⟩
    | @finished _ _ _ _ _ hsettled closer _ hfinishes =>
      rw [List.append_assoc]
      cases closer <;> cases direction
      · cases habsent
      · exact @Progress.complete _ _ _ _ _ hsettled .initiatorToResponder _ _ hfinishes
          ⟨htype, hrole⟩
      · exact @Progress.complete _ _ _ _ _ hsettled .responderToInitiator _ _ hfinishes
          ⟨htype, hrole⟩
      · cases habsent
  | error htype => exact absurd htype hother
  | ping htype hbound | pong htype hbound | other _ _ _ _ _ _ hbound => cases hbound

variable {initiator responder : HelloData}

/-- A negotiation that passed the check selects a version of two bytes. -/
theorem checkNegotiation_range (h : (checkNegotiation initiator responder frame).ok = true) :
    bodyUnsigned frame 1 ≤ 255 ∧ bodyUnsigned frame 2 ≤ 255 :=
  (checkNegotiation_eq_ok_iff.mp h).1.2

theorem Finishes.proper (h : Finishes direction frame) (hformed : WellFormed frame) :
    ProperFinished direction frame :=
  ⟨h.type, role_eq (hformed.byte_lt (h.type ▸ rfl)) h.role⟩

theorem Acknowledged.proper {greetings : List (Direction × ParsedFrame)}
    {negotiate ack : ParsedFrame} (h : Acknowledged greetings initiator responder negotiate ack)
    (hnegotiate : WellFormed negotiate) (hack : WellFormed ack) : ProperAck negotiate ack :=
  hack.properAck h.ackType hnegotiate h.type h.equal h.major h.minor
    (checkNegotiation_range h.checked).1 (checkNegotiation_range h.checked).2

/-- A finished handshake carries what it should. -/
theorem Progress.completeHandshake {stage : Stage} (h : Progress frames stage)
    (hbound : stage.bound = true) (hformed : ∀ entry ∈ frames, WellFormed entry.2) :
    CompleteHandshake frames := by
  cases h with
  | @complete greetings initiator responder negotiate ack hsettled closer frame frame' hfinishes
      hfinishes' =>
      have hnegotiate : WellFormed negotiate :=
        hformed (.initiatorToResponder, negotiate) (by simp)
      have hack := hsettled.proper hnegotiate (hformed (.responderToInitiator, ack) (by simp))
      have hfinished := hfinishes.proper (hformed (closer, frame) (by simp))
      have hfinished' := hfinishes'.proper (hformed (closer.reverse, frame') (by simp))
      cases hsettled.greeted with
      | @initiatorFirst hello hello' _ _ htype htype' hread hread' =>
        have hhello := hformed (.initiatorToResponder, hello) (by simp)
        have hhello' := hformed (.responderToInitiator, hello') (by simp)
        exact ⟨.initiatorToResponder, closer, hello, hello', negotiate, ack, frame, frame', rfl,
          hhello.properHello htype hread, hhello'.properHello htype' hread',
          hnegotiate.properNegotiation hsettled.type hhello htype hhello' htype' hread hread'
            hsettled.checked, hack, hfinished, hfinished'⟩
      | @responderFirst hello hello' _ _ htype htype' hread hread' =>
        have hhello := hformed (.initiatorToResponder, hello) (by simp)
        have hhello' := hformed (.responderToInitiator, hello') (by simp)
        have hsettles := hnegotiate.properNegotiation hsettled.type hhello htype hhello' htype'
          hread hread' hsettled.checked
        exact ⟨.responderToInitiator, closer, hello', hello, negotiate, ack, frame, frame', rfl,
          hhello'.properHello htype' hread', hhello.properHello htype hread, hsettles.symm, hack,
          hfinished, hfinished'⟩
  | _ => cases hbound

/-! ### Runs -/

theorem countMessage_stage (parser : TranscriptParser) (direction : Direction) :
    (parser.countMessage direction).stage = parser.stage := by
  unfold countMessage
  split <;> rfl

/-- A call accepts a frame, or it leaves the stage of the handshake as it is. -/
theorem step_cases (parser : TranscriptParser) (frame : Direction × Bytes) :
    (parser.acceptedFrame frame = [] ∧ (parser.step frame).stage = parser.stage) ∨
      (parser.acceptedFrame frame =
          [(frame.1, (parseFrame frame.2 parser.expectedVersion).frame)] ∧
        (parseFrame frame.2 parser.expectedVersion).ok = true ∧
        (parser.countMessage frame.1).Handled frame.1
          (parseFrame frame.2 parser.expectedVersion).frame (parser.step frame)) := by
  have hprocessed := process_processed parser frame.1 frame.2
  unfold acceptedFrame TranscriptParser.step
  generalize parser.process frame.1 frame.2 = result at hprocessed ⊢
  cases hprocessed with
  | stopped hterminal => exact .inl ⟨rfl, rfl⟩
  | unreadable hlive hunread error herror =>
    rw [complete_fst, if_neg (by simp [herror])]
    refine .inl ⟨rfl, ?_⟩
    unfold complete
    split <;> rfl
  | misnumbered hlive hnumber =>
    rw [complete_fst]
    refine .inl ⟨rfl, ?_⟩
    unfold complete
    split <;> rfl
  | refused hnumbered error herror =>
    rw [complete_fst, if_neg (by simp [herror])]
    refine .inl ⟨rfl, Eq.trans ?_ (countMessage_stage parser frame.1)⟩
    unfold complete
    split <;> rfl
  | accepted hnumbered next hhandled hparsed => exact .inr ⟨rfl, hparsed, hhandled⟩

/-- The accepted frames that are not `ERROR`. -/
def handshakeFrames (accepted : List (Direction × ParsedFrame)) : List (Direction × ParsedFrame) :=
  accepted.filter fun entry => entry.2.header.messageType ≠ .error

/-- The handshake is under way, or both sides have finished it. -/
def Underway (accepted : List (Direction × ParsedFrame)) (parser : TranscriptParser) : Prop :=
  (parser.bindingFramesComplete = false ∧ Progress (handshakeFrames accepted) parser.stage) ∨
    (parser.bindingFramesComplete = true ∧ parser.transportFinished = ⟨true, true⟩)

theorem Handled.stage_of_error (h : parser.Handled direction frame next)
    (htype : frame.header.messageType = .error) : next.stage = parser.stage := by
  cases h with
  | error _ => rfl
  | other => rfl
  | hello _ hother | negotiate _ _ hother | negotiateAck hother | transportFinished hother
  | ping hother | pong hother =>
    rw [htype] at hother
    cases hother

/-- A call before the binding keeps the frames and the stage in step. -/
theorem progress_step (h : Progress (handshakeFrames accepted) parser.stage)
    (hunbound : parser.bindingFramesComplete = false) (frame : Direction × Bytes) :
    Progress (handshakeFrames (accepted ++ parser.acceptedFrame frame))
      (parser.step frame).stage := by
  rcases step_cases parser frame with ⟨hnone, hstage⟩ | ⟨hsome, -, hhandled⟩
  · rw [hnone, List.append_nil, hstage]
    exact h
  rw [hsome, handshakeFrames, List.filter_append]
  rw [← countMessage_stage parser frame.1] at h
  by_cases htype : (parseFrame frame.2 parser.expectedVersion).frame.header.messageType = .error
  · rw [hhandled.stage_of_error htype]
    simpa [handshakeFrames, htype] using h
  have hbound := (countMessage_fields parser frame.1).2.2.2.1.trans hunbound
  simpa [handshakeFrames, htype] using h.step hbound hhandled htype

theorem Progress.finished_of_bound {stage : Stage} (h : Progress frames stage)
    (hbound : stage.bound = true) : stage.finished = ⟨true, true⟩ := by
  cases h with
  | complete => rfl
  | _ => cases hbound

/-- Nothing undoes the binding. -/
theorem Handled.bound {parser next : TranscriptParser} {direction : Direction}
    {frame : ParsedFrame} (h : parser.Handled direction frame next)
    (hbound : parser.bindingFramesComplete = true)
    (hfinished : parser.transportFinished = ⟨true, true⟩) :
    next.bindingFramesComplete = true ∧ next.transportFinished = ⟨true, true⟩ := by
  cases h with
  | transportFinished htype hack habsent hrole =>
    rw [hfinished] at habsent
    cases direction <;> cases habsent
  | _ => exact ⟨hbound, hfinished⟩

theorem Underway.step (h : Underway accepted parser) (frame : Direction × Bytes) :
    Underway (accepted ++ parser.acceptedFrame frame) (parser.step frame) := by
  rcases h with ⟨hunbound, hprogress⟩ | ⟨hbound, hfinished⟩
  · have hnext := progress_step hprogress hunbound frame
    cases hafter : (parser.step frame).bindingFramesComplete with
    | false => exact .inl ⟨hafter, hnext⟩
    | true => exact .inr ⟨hafter, hnext.finished_of_bound hafter⟩
  rcases step_cases parser frame with ⟨-, hstage⟩ | ⟨-, -, hhandled⟩
  · exact .inr ⟨(congrArg Stage.bound hstage).trans hbound,
      (congrArg Stage.finished hstage).trans hfinished⟩
  have hstage := countMessage_stage parser frame.1
  exact .inr (hhandled.bound ((congrArg Stage.bound hstage).trans hbound)
    ((congrArg Stage.finished hstage).trans hfinished))

/-! ### Versions -/

/-- A header has the version `1.0` before an acknowledgement and the acknowledged
version after it. -/
def Versioned (before : List (Direction × ParsedFrame)) (entry : Direction × ParsedFrame) : Prop :=
  ((∀ earlier ∈ before, earlier.2.header.messageType ≠ .negotiateAck) →
      entry.2.header.version = ⟨1, 0⟩) ∧
    ∀ ack ∈ before, ack.2.header.messageType = .negotiateAck →
      entry.2.header.version.major.toNat = bodyUnsigned ack.2 1 ∧
        entry.2.header.version.minor.toNat = bodyUnsigned ack.2 2

/-- The parser knows of the acknowledgements it has accepted. -/
structure Selects (accepted : List (Direction × ParsedFrame)) (parser : TranscriptParser) :
    Prop where
  versioned : Histories.Along Versioned accepted
  seen : parser.negotiationAcknowledged = true →
    ∃ entry ∈ accepted, entry.2.header.messageType = .negotiateAck
  kept : ∀ entry ∈ accepted, entry.2.header.messageType = .negotiateAck →
    parser.negotiationAcknowledged = true ∧
      parser.negotiation = some (readNegotiation entry.2) ∧
      bodyUnsigned entry.2 1 ≤ 255 ∧ bodyUnsigned entry.2 2 ≤ 255

theorem Handled.keepsSelection (h : parser.Handled direction frame next) {data : NegotiationData}
    (hack : parser.negotiationAcknowledged = true) (hdata : parser.negotiation = some data) :
    next.negotiationAcknowledged = true ∧ next.negotiation = some data := by
  cases h with
  | negotiate _ _ htype hsender hfirst hsecond habsent hchecked =>
    rw [hdata] at habsent
    cases habsent
  | negotiateAck => exact ⟨rfl, hdata⟩
  | _ => exact ⟨hack, hdata⟩

theorem Handled.acknowledges (h : parser.Handled direction frame next)
    (htype : frame.header.messageType = .negotiateAck) :
    next.negotiationAcknowledged = true ∧ next.negotiation = some (readNegotiation frame) ∧
      bodyUnsigned frame 1 ≤ 255 ∧ bodyUnsigned frame 2 ≤ 255 := by
  cases h with
  | negotiateAck _ hsender hnegotiated habsent hmajor hminor =>
    exact ⟨rfl, hnegotiated, hmajor, hminor⟩
  | other _ _ hack => exact absurd htype hack
  | hello _ hother | negotiate _ _ hother | transportFinished hother | error hother
  | ping hother | pong hother =>
    rw [htype] at hother
    cases hother

/-- Only an acknowledgement sets the flag. -/
theorem Handled.acknowledged_cases (h : parser.Handled direction frame next)
    (hack : next.negotiationAcknowledged = true) :
    parser.negotiationAcknowledged = true ∨ frame.header.messageType = .negotiateAck := by
  cases h with
  | negotiateAck htype => exact .inr htype
  | _ => exact .inl hack

/-- The header of a frame that is accepted next. -/
theorem Selects.next_versioned (h : Selects accepted parser) {entry : Direction × ParsedFrame}
    (hversion : entry.2.header.version = parser.expectedVersion) : Versioned accepted entry := by
  constructor
  · intro hnone
    have hack : parser.negotiationAcknowledged = false := by
      rw [← Bool.not_eq_true]
      intro hack
      obtain ⟨ack, hmem, htype⟩ := h.seen hack
      exact hnone ack hmem htype
    rw [hversion, expectedVersion, hack]
    rfl
  intro ack hmem htype
  obtain ⟨hack, hnegotiation, hmajor, hminor⟩ := h.kept ack hmem htype
  have hexpected : parser.expectedVersion = (readNegotiation ack.2).selectedVersion := by
    rw [expectedVersion, if_pos hack, hnegotiation]
    rfl
  rw [hversion, hexpected]
  exact ⟨((ofNat8_eq_iff hmajor).mp rfl).symm, ((ofNat8_eq_iff hminor).mp rfl).symm⟩

theorem Selects.step (h : Selects accepted parser) (frame : Direction × Bytes) :
    Selects (accepted ++ parser.acceptedFrame frame) (parser.step frame) := by
  rcases step_cases parser frame with ⟨hnone, hstage⟩ | ⟨hsome, hparsed, hhandled⟩
  · have hack := congrArg Stage.acknowledged hstage
    have hnegotiation := congrArg Stage.negotiation hstage
    change (parser.step frame).negotiationAcknowledged = parser.negotiationAcknowledged at hack
    change (parser.step frame).negotiation = parser.negotiation at hnegotiation
    rw [hnone, List.append_nil]
    exact ⟨h.versioned, by rw [hack]; exact h.seen, by rw [hack, hnegotiation]; exact h.kept⟩
  obtain ⟨-, hnegotiation, hack, -, -⟩ := countMessage_fields parser frame.1
  rw [hsome]
  refine ⟨Histories.along_concat.mpr ⟨h.versioned, ?_⟩, ?_, ?_⟩
  · exact h.next_versioned (parseFrame_header hparsed).2.2.2
  · intro hafter
    rcases hhandled.acknowledged_cases hafter with hbefore | htype
    · obtain ⟨entry, hmem, htype⟩ := h.seen (hack.symm.trans hbefore)
      exact ⟨entry, List.mem_append_left _ hmem, htype⟩
    · exact ⟨_, List.mem_append_right _ (List.mem_singleton_self _), htype⟩
  intro entry hmem htype
  rcases List.mem_append.mp hmem with hold | hnew
  · obtain ⟨hacked, hdata, hrange⟩ := h.kept entry hold htype
    obtain ⟨hacked', hdata'⟩ := hhandled.keepsSelection (hack.trans hacked)
      (hnegotiation.trans hdata)
    exact ⟨hacked', hdata', hrange⟩
  rw [List.mem_singleton] at hnew
  subst hnew
  exact hhandled.acknowledges htype

/-! ### The handshake -/

theorem acceptedFrames_wellFormed (frames : List (Direction × Bytes)) :
    ∀ entry ∈ acceptedFrames frames, WellFormed entry.2 := by
  refine Runs.run_history_all (P := fun (accepted : List (Direction × ParsedFrame)) _ =>
    ∀ entry ∈ accepted, WellFormed entry.2) ?_ (by simp) frames
  intro accepted parser frame h entry hentry
  rcases step_cases parser frame with ⟨hnone, -⟩ | ⟨hsome, hparsed, -⟩
  · rw [hnone, List.append_nil] at hentry
    exact h entry hentry
  rw [hsome] at hentry
  rcases List.mem_append.mp hentry with hold | hnew
  · exact h entry hold
  rw [List.mem_singleton] at hnew
  subst hnew
  exact ⟨frame.2, parser.expectedVersion, hparsed, rfl⟩

/-- When the call that completes the binding returns, the accepted frames other than
`ERROR` are a complete handshake. All headers that were accepted, then and later, have
version `1.0` until the acknowledgement and the acknowledged version after it. -/
theorem binding_completes {frames : List (Direction × Bytes)} {last : Direction × Bytes}
    (hbefore : (Runs.run step {} frames).bindingFramesComplete = false)
    (hafter : (Runs.run step {} (frames ++ [last])).bindingFramesComplete = true) :
    CompleteHandshake (handshakeFrames (acceptedFrames (frames ++ [last]))) ∧
      ∀ later, Histories.Along Versioned (acceptedFrames (frames ++ [last] ++ later)) := by
  constructor
  · have hfresh : Underway [] {} := .inl ⟨rfl, Progress.start⟩
    have hunderway := Runs.run_history_all (P := Underway)
      (fun _ _ frame h => Underway.step h frame) hfresh frames
    have hsplit : acceptedFrames (frames ++ [last]) = acceptedFrames frames ++
        (Runs.run step {} frames).acceptedFrame last := Runs.emitted_concat _ _ _ _ _
    rcases hunderway with ⟨hunbound, hprogress⟩ | ⟨hbound, -⟩
    · have hnext := progress_step hprogress hunbound last
      rw [← acceptedFrames, ← hsplit] at hnext
      rw [Runs.run_append] at hafter
      exact hnext.completeHandshake hafter fun entry hentry =>
        acceptedFrames_wellFormed _ entry (List.mem_filter.mp hentry).1
    rw [hbefore] at hbound
    cases hbound
  intro later
  have hfresh : Selects [] {} := by
    refine ⟨Histories.along_nil _, ?_, ?_⟩
    · intro hack
      cases hack
    intro entry hentry
    cases hentry
  exact (Runs.run_history_all (P := Selects) (fun _ _ frame h => Selects.step h frame) hfresh
    _).versioned

/-- The acknowledgement of the least negotiation. -/
def plainNegotiateAck : Bytes :=
  frameBytes {} .negotiateAck 0 2 (encodeTlvs [⟨1, .u16, 1, [0, 1]⟩, ⟨2, .u16, 1, [0, 0]⟩,
    ⟨3, .u32, 1, [0, 1, 0, 1]⟩, ⟨4, .u32, 1, [0, 0, 32, 0]⟩, ⟨5, .u32, 1, [0, 16, 0, 0]⟩,
    ⟨6, .u16, 1, [0, 1]⟩])

def plainFinished (messageId : Nat) (role : UInt8) : Bytes :=
  frameBytes {} .transportFinished 0 messageId
    (encodeTlvs [⟨1, .u8, 1, [role]⟩, ⟨2, .bytes, 1, [7]⟩])

def plainHandshake : List (Direction × Bytes) :=
  plainHellos ++ [(.initiatorToResponder, plainNegotiate),
    (.responderToInitiator, plainNegotiateAck), (.initiatorToResponder, plainFinished 3 1)]

theorem binding_completes_plain :
    CompleteHandshake (handshakeFrames (acceptedFrames
      (plainHandshake ++ [(.responderToInitiator, plainFinished 3 2)]))) :=
  (binding_completes (by decide +kernel) (by decide +kernel)).1

end XnnTransfer.Protocol.TranscriptParser
