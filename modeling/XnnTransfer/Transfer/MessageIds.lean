import XnnTransfer.Transfer.Engine

/-!
# The numbers that calls draw

All engines of a connection number their frames from one sequence. Read as a
natural number, `upcoming` is the number of the next frame, and `2 ^ 64` once no
number is left. A call `Draws` from the sequence it finds: it either emits no frame
and leaves `upcoming` alone, or emits one frame that carries it and moves it by one.
-/

namespace XnnTransfer.Transfer

open Protocol

/-- The frames of an update: none or one. -/
def TransferUpdate.frames (update : TransferUpdate) : List Bytes :=
  if update.outboundFrame = [] then [] else [update.outboundFrame]

/-- The message identifier in the header of a frame. -/
def messageIdOf (frame : Bytes) : Nat := BigEndian.toNat (subspan frame 16 8)

namespace ConnectionMessageSequence

variable {ids : ConnectionMessageSequence}

/-- The number of the next frame out, `2 ^ 64` if there is none. -/
def upcoming (ids : ConnectionMessageSequence) : Nat :=
  if ids.outboundExhausted then 2 ^ 64 else ids.nextOutboundId.toNat

/-- The only number that the next frame in may have, `2 ^ 64` if there is none. -/
def expected (ids : ConnectionMessageSequence) : Nat :=
  if ids.inboundExhausted then 2 ^ 64 else ids.nextInboundId.toNat

variable {id : UInt64} {next : ConnectionMessageSequence} {messageIds : List Nat}

theorem toNat_succ (h : id ≠ maximumId) : (id + 1).toNat = id.toNat + 1 := by
  have hlt := id.toNat_lt
  have hne : id.toNat ≠ 2 ^ 64 - 1 := by
    intro hmax
    exact h (UInt64.toNat_inj.mp hmax)
  rw [UInt64.toNat_add, Nat.mod_eq_of_lt]
  · rfl
  simp only [UInt64.toNat_one]
  omega

theorem toNat_maximumId : maximumId.toNat + 1 = 2 ^ 64 := rfl

theorem upcoming_create (outbound inbound : UInt64) (h : outbound ≠ 0) :
    (create outbound inbound).upcoming = outbound.toNat := by
  simp [create, upcoming, h]

theorem expected_create (outbound inbound : UInt64) (h : inbound ≠ 0) :
    (create outbound inbound).expected = inbound.toNat := by
  simp [create, expected, h]

/-- A sequence that has no number left gives none. -/
theorem nextOutbound_none (h : ids.nextOutbound = (none, next)) : next = ids := by
  unfold nextOutbound at h
  split at h
  · cases h
    rfl
  · split at h <;> cases h

/-- The number a sequence gives is the upcoming one. -/
theorem nextOutbound_some (h : ids.nextOutbound = (some id, next)) :
    id.toNat = ids.upcoming ∧ next.upcoming = ids.upcoming + 1 ∧
      next.expected = ids.expected := by
  unfold nextOutbound at h
  split at h
  · cases h
  rename_i hleft
  have hupcoming : ids.upcoming = ids.nextOutboundId.toNat := if_neg hleft
  split at h
  · rename_i hmax
    cases h
    refine ⟨hupcoming.symm, ?_, rfl⟩
    rw [hupcoming, hmax, toNat_maximumId]
    rfl
  rename_i hmax
  cases h
  refine ⟨hupcoming.symm, ?_, rfl⟩
  rw [hupcoming, ← toNat_succ hmax]
  exact if_neg hleft

/-- Numbers that come in do not change what goes out. -/
theorem upcoming_observeInbound (ids : ConnectionMessageSequence) (messageId : Nat) :
    (ids.observeInbound messageId).2.upcoming = ids.upcoming := by
  unfold observeInbound
  split
  · rfl
  split
  · rfl
  · split <;> rfl

/-- Exactly the expected number is accepted, and then the next one is expected. -/
theorem observeInbound_spec (ids : ConnectionMessageSequence) {messageId : Nat}
    (h : messageId < 2 ^ 64) :
    ((ids.observeInbound messageId).1 = true ↔ messageId = ids.expected) ∧
      (ids.observeInbound messageId).2.expected =
        if messageId = ids.expected then ids.expected + 1 else 2 ^ 64 := by
  unfold observeInbound
  split
  · rename_i hended
    have hexpected : ids.expected = 2 ^ 64 := if_pos hended
    have hother : messageId ≠ ids.expected := by omega
    rw [if_neg hother]
    exact ⟨iff_of_false nofun hother, hexpected⟩
  rename_i hleft
  have hexpected : ids.expected = ids.nextInboundId.toNat := if_neg hleft
  by_cases hsame : messageId = ids.nextInboundId.toNat
  · rw [if_neg (not_not.mpr hsame), hexpected, if_pos hsame]
    split
    · rename_i hmax
      refine ⟨iff_of_true rfl hsame, ?_⟩
      rw [hmax, toNat_maximumId]
      rfl
    rename_i hmax
    refine ⟨iff_of_true rfl hsame, ?_⟩
    rw [← toNat_succ hmax]
    exact if_neg hleft
  rw [if_pos hsame, hexpected, if_neg hsame]
  exact ⟨iff_of_false nofun hsame, rfl⟩

/-- The answers of a sequence to numbers that come in one after the other. -/
def observeAll (ids : ConnectionMessageSequence) : List Nat → List Bool
  | [] => []
  | messageId :: rest =>
    (ids.observeInbound messageId).1 :: (ids.observeInbound messageId).2.observeAll rest

/-- Once nothing is expected any more, every number is rejected. -/
theorem observeAll_ended (hlt : ∀ id ∈ messageIds, id < 2 ^ 64) (hended : ids.expected = 2 ^ 64) :
    ∀ answer ∈ ids.observeAll messageIds, answer = false := by
  induction messageIds generalizing ids with
  | nil => simp [observeAll]
  | cons messageId rest ih =>
    obtain ⟨hanswer, hexpected⟩ := ids.observeInbound_spec (hlt messageId List.mem_cons_self)
    have hother : messageId ≠ ids.expected := by
      have := hlt messageId List.mem_cons_self
      omega
    rw [if_neg hother] at hexpected
    intro answer hmem
    rcases List.mem_cons.mp hmem with rfl | hrest
    · exact Bool.eq_false_iff.mpr fun htrue => hother (hanswer.mp htrue)
    · exact ih (fun id hid => hlt id (List.mem_cons_of_mem _ hid)) hexpected answer hrest

/-- Consecutive numbers from the expected one on are all accepted. -/
theorem observeAll_range' {start length : Nat} (hexpected : ids.expected = start)
    (hlt : start + length ≤ 2 ^ 64) :
    ids.observeAll (List.range' start length) = List.replicate length true := by
  induction length generalizing ids start with
  | zero => rfl
  | succ length ih =>
    have hstart : start < 2 ^ 64 := by omega
    obtain ⟨hanswer, hnext⟩ := ids.observeInbound_spec hstart
    rw [if_pos hexpected.symm] at hnext
    rw [List.range'_succ, observeAll, List.replicate_succ, hanswer.mpr hexpected.symm,
      ih (by rw [hnext, hexpected]) (by omega)]

/-- After a number that was not accepted, none is. -/
theorem observeAll_rejects (hlt : ∀ id ∈ messageIds, id < 2 ^ 64) {first second : Nat}
    (horder : first ≤ second) (hfirst : (ids.observeAll messageIds)[first]? = some false)
    (answer : Bool) (hsecond : (ids.observeAll messageIds)[second]? = some answer) :
    answer = false := by
  induction messageIds generalizing ids first second with
  | nil => simp [observeAll] at hfirst
  | cons messageId rest ih =>
    have hrest : ∀ id ∈ rest, id < 2 ^ 64 := fun id hid => hlt id (List.mem_cons_of_mem _ hid)
    cases first with
    | succ first =>
      cases second with
      | zero => omega
      | succ second =>
        apply @ih (ids.observeInbound messageId).2 hrest first second
        · exact Nat.le_of_succ_le_succ horder
        · simpa [observeAll] using hfirst
        · simpa [observeAll] using hsecond
    | zero =>
      obtain ⟨hanswer, hnext⟩ := ids.observeInbound_spec (hlt messageId List.mem_cons_self)
      have hrejected : (ids.observeInbound messageId).1 = false := by
        simpa [observeAll] using hfirst
      rw [hrejected] at hanswer
      rw [if_neg (by simpa using hanswer)] at hnext
      cases second with
      | zero => simpa [observeAll, hrejected, eq_comm] using hsecond
      | succ second =>
        have hmem := List.mem_of_getElem? (by simpa [observeAll] using hsecond)
        exact observeAll_ended hrest hnext answer hmem

end ConnectionMessageSequence

/-! ### One call -/

/-- The sequence will give this number next, and it is a proper one. -/
structure Poised (next : Nat) (ids : ConnectionMessageSequence) : Prop where
  pos : 0 < next
  upcoming : ids.upcoming = next

/-- The frame carries this number and the sequence has moved past it. -/
structure Issued (next : Nat) (frame : Bytes) (ids : ConnectionMessageSequence) : Prop where
  nonempty : frame ≠ []
  messageId : messageIdOf frame = next
  lt : next < 2 ^ 64
  upcoming : ids.upcoming = next + 1

/-- The call emits no frame, or one that carries this number. -/
structure Numbers {Engine : Type} (next : Nat) (o : Outcome Engine) : Prop where
  upcoming : o.shared.messageIds.upcoming = next + o.update.frames.length
  frames : ∀ frame ∈ o.update.frames, messageIdOf frame = next ∧ next < 2 ^ 64

/-- What an encoder does to the sequence: nothing if it fails, and otherwise the
frame takes the number that comes next. -/
structure Encodes (ids : ConnectionMessageSequence) (frame : Option Bytes)
    (after : ConnectionMessageSequence) : Prop where
  kept : ∀ next, Poised next ids → frame = none → after = ids
  taken : ∀ next encoded, Poised next ids → frame = some encoded → Issued next encoded after
  expected : after.expected = ids.expected

/-- What a call does to the sequence it finds, apart from the frame it is given. -/
structure Draws {Engine : Type} (ids : ConnectionMessageSequence) (o : Outcome Engine) : Prop where
  numbers : ∀ next, Poised next ids → Numbers next o
  expected : o.shared.messageIds.expected = ids.expected

section Frames

variable {next : Nat} {ids after : ConnectionMessageSequence} {context : TransferContext}
  {type : MessageType} {frame : Option Bytes} {memory : Bool}

theorem encodes_refl (ids : ConnectionMessageSequence) : Encodes ids none ids :=
  ⟨fun _ _ _ => rfl, fun _ _ _ h => (by cases h), rfl⟩

theorem encodes_numberFrame {body : Bytes}
    (hframe : numberFrame context type ids body = (frame, after)) : Encodes ids frame after := by
  simp only [numberFrame] at hframe
  split at hframe
  · cases hframe
    exact encodes_refl ids
  split at hframe
  · rename_i hnone
    cases hframe
    rw [ConnectionMessageSequence.nextOutbound_none hnone]
    exact encodes_refl ids
  rename_i id ids' hsome
  obtain ⟨hid, hafter, hexpected⟩ := ConnectionMessageSequence.nextOutbound_some hsome
  have hlt : id.toNat < 256 ^ 8 := toNat_lt id
  split at hframe
  · rename_i hzero
    cases hframe
    refine ⟨fun next h _ => ?_, fun _ _ _ h => (by cases h), hexpected⟩
    have hpos := h.pos
    rw [hzero, h.upcoming, UInt64.toNat_zero] at hid
    omega
  cases hframe
  refine ⟨fun _ _ h => (by cases h), fun next encoded h hencoded => ?_, hexpected⟩
  rw [h.upcoming] at hid hafter
  cases hencoded
  refine ⟨?_, ?_, by omega, hafter⟩
  · apply List.ne_nil_of_length_pos
    rw [length_frameBytes]
    omega
  · rw [messageIdOf, frame_messageId, Nat.mod_eq_of_lt hlt, hid]

theorem encodes_encodeFrame {body : BodyBuilder}
    (hframe : encodeFrame memory context type ids body = (frame, after)) :
    Encodes ids frame after := by
  unfold encodeFrame at hframe
  split at hframe
  · cases hframe
    exact encodes_refl ids
  · exact encodes_numberFrame hframe

theorem encodes_encodeFileChunkFrame {transferId data commitment : Bytes} {offset : Nat}
    (hframe : encodeFileChunkFrame memory context ids transferId offset data commitment =
      (frame, after)) : Encodes ids frame after := by
  rw [encodeFileChunkFrame_eq] at hframe
  split at hframe
  · cases hframe
    exact encodes_refl ids
  · exact encodes_encodeFrame hframe

theorem encodes_encodeCancelAckFrame {transferId : Bytes} {code : WireErrorCode}
    (hframe : encodeCancelAckFrame memory context ids transferId code = (frame, after)) :
    Encodes ids frame after := by
  unfold encodeCancelAckFrame at hframe
  split at hframe
  · cases hframe
    exact encodes_refl ids
  · exact encodes_encodeFrame hframe

/-- Reading a frame moves the sequence in by what it observes, and not the sequence out. -/
theorem upcoming_parseInbound {authorized : Bool} {encoded : Bytes}
    {parsed : Except Refusal ParsedFrame}
    (hparsed : parseInbound authorized context ids encoded = (parsed, after)) :
    after.upcoming = ids.upcoming := by
  have hobserve := ids.upcoming_observeInbound
    (parseFrameEnvelope encoded context.version).frame.header.messageId
  simp only [parseInbound] at hparsed
  repeat' split at hparsed
  all_goals
    cases hparsed
    first | rfl | exact hobserve

end Frames

section Outcomes

variable {Engine : Type} {next : Nat} {ids after : ConnectionMessageSequence} {o : Outcome Engine}
  {frame : Bytes}

theorem frames_of_nonempty {update : TransferUpdate} (h : update.outboundFrame ≠ []) :
    update.frames = [update.outboundFrame] := if_neg h

/-- A call without a frame. -/
theorem Draws.silent (hids : o.shared.messageIds = ids) (hframe : o.update.outboundFrame = []) :
    Draws ids o := by
  have hnone : o.update.frames = [] := if_pos hframe
  refine ⟨fun next h => ⟨?_, ?_⟩, by rw [hids]⟩
  · rw [hnone, hids, h.upcoming, List.length_nil, Nat.add_zero]
  rw [hnone]
  exact nofun

/-- A call with a frame. -/
theorem Encodes.issued (h : Encodes ids (some frame) after) (hids : o.shared.messageIds = after)
    (hframe : o.update.outboundFrame = frame) : Draws ids o := by
  refine ⟨fun next hpoised => ?_, by rw [hids, h.expected]⟩
  have hissued := h.taken next frame hpoised rfl
  have hone : o.update.frames = [frame] := by
    rw [frames_of_nonempty (by rw [hframe]; exact hissued.nonempty), hframe]
  constructor
  · rw [hone, hids, hissued.upcoming, List.length_singleton]
  rw [hone]
  intro other hother
  rw [List.mem_singleton.mp hother]
  exact ⟨hissued.messageId, hissued.lt⟩

/-- A call that goes on after an encoder has failed. -/
theorem Encodes.refused (h : Encodes ids none after) (hafter : Draws after o) : Draws ids o := by
  refine ⟨fun next hpoised => ?_, hafter.expected.trans h.expected⟩
  have hsame := h.kept next hpoised rfl
  exact hafter.numbers next (hsame ▸ hpoised)

/-- A call that reports an error when it can. -/
theorem Draws.reported {memory : Bool} {context : TransferContext} {code : WireErrorCode}
    {retryable : Bool}
    (hids : (encodeErrorFrame memory context ids code retryable).2 = o.shared.messageIds)
    (hframe : o.update.outboundFrame =
      (encodeErrorFrame memory context ids code retryable).1.getD []) : Draws ids o := by
  cases hencoded : encodeErrorFrame memory context ids code retryable with
  | mk encoded after =>
    have hencodes := encodes_encodeFrame hencoded
    rw [hencoded] at hids hframe
    cases encoded with
    | none => exact hencodes.refused (.silent hids.symm hframe)
    | some frame => exact hencodes.issued hids.symm hframe

end Outcomes

end XnnTransfer.Transfer
