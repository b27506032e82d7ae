import XnnTransfer.Pairing.AttemptFrames

/-!
# The end of a pairing attempt

An attempt ends once. With its end it gives back the admission lease and settles
the reservation in the replay cache: an entry that was bound to a context is
kept for a while, an unbound one is removed. Afterwards no call has an effect.
-/

namespace XnnTransfer.Pairing

open Protocol Security Histories

/-- The context to which an event has bound the reservation. -/
def PairingEvent.boundContext : PairingEvent → Option PairingContext
  | .bind context .none => some context
  | _ => none

/-- The contexts to which a call has bound the reservation. -/
def boundIn (o : Outcome) : List PairingContext :=
  o.events.filterMap PairingEvent.boundContext

/-- The entry of a reservation that has been bound to these contexts. -/
def reservedEntry (reservationId : UInt64) (peerKey : PublicKey) :
    List PairingContext → ReplayEntry
  | [] => { reservationId := reservationId, peerKey := peerKey, reserved := true }
  | context :: _ =>
    { reservationId := reservationId, context := context.digest, peerKey := peerKey,
      bound := true, reserved := true }

/-- The entry that is kept of a bound reservation. -/
def keptEntry (reservationId : UInt64) (peerKey : PublicKey) (nowMs : UInt64)
    (context : PairingContext) : ReplayEntry where
  reservationId := reservationId
  context := context.digest
  peerKey := peerKey
  expiresAtMs := checkedDeadline nowMs replayRetentionMs
  bound := true

namespace PairingAttempt

/-- What a call can do to the reservation before it perhaps settles it. -/
inductive Binds (attempt : PairingAttempt) (cache : ReplayCache) (reservationId : UInt64) :
    ReplayCache → List PairingContext → Prop
  | nothing : Binds attempt cache reservationId cache []
  | bound (hstate : attempt.state = .selecting) {context : PairingContext} {nowMs : UInt64}
      {next : ReplayCache} (hbind : cache.bind reservationId context.digest nowMs = (.none, next)) :
      Binds attempt cache reservationId next [context]
  | refused (hstate : attempt.state = .selecting) {context : PairingContext} {nowMs : UInt64}
      {error : PairingError} {next : ReplayCache} (herror : error ≠ .none)
      (hbind : cache.bind reservationId context.digest nowMs = (error, next)) :
      Binds attempt cache reservationId next []

/-- What a call does to the reservation. -/
structure Handles (attempt : PairingAttempt) (cache : ReplayCache) (reservationId : UInt64)
    (o : Outcome) (next : ReplayCache) : Prop where
  binds : Binds attempt cache reservationId next (boundIn o)
  live : o.attempt.state.terminal = false → o.cache = next ∧
    (o.attempt.state = .awaitingDecisions ↔ attempt.state = .awaitingDecisions ∨ boundIn o ≠ [])
  ended : o.attempt.state.terminal = true → o.cache = next.commit reservationId o.attempt.lastNowMs

section Steps

variable {env : PairingEnvironment} {attempt : PairingAttempt} {cache : ReplayCache}
  {call : PairingCall} {o : Outcome} {reservationId : UInt64}

variable {last : PairingAttempt} {next : ReplayCache}

/-- An attempt that ends settles its reservation. -/
theorem handles_ended (hlast : last.replayReservation = some reservationId)
    (hbinds : Binds attempt cache reservationId next (boundIn o)) {state : PairingState}
    (hstate : state.terminal = true) (hattempt : o.attempt = last.ended state)
    (hcache : o.cache = last.settleReservation next) :
    Handles attempt cache reservationId o next := by
  refine ⟨hbinds, fun hlive => ?_, fun _ => ?_⟩
  · rw [hattempt, ended_state, hstate] at hlive
    cases hlive
  · rw [hcache, settleReservation, hlast, hattempt, ended_lastNowMs]

/-- A live attempt that binds nothing leaves the cache alone. -/
theorem handles_live (hbound : boundIn o = []) (hlive : o.attempt.state.terminal = false)
    (hcache : o.cache = cache)
    (hstate : o.attempt.state = .awaitingDecisions ↔ attempt.state = .awaitingDecisions) :
    Handles attempt cache reservationId o cache := by
  refine ⟨hbound ▸ .nothing, fun _ => ⟨hcache, ?_⟩, fun hended => ?_⟩
  · rw [hbound, hstate]
    simp
  rw [hlive] at hended
  cases hended

theorem Concludes.handles (h : Concludes env last cache o)
    (hlast : last.replayReservation = some reservationId)
    (hstate : attempt.state = .awaitingDecisions) (hlast' : last.state = .awaitingDecisions) :
    Handles attempt cache reservationId o cache := by
  cases h with
  | waits =>
    refine handles_live rfl ?_ rfl ?_
    · rw [keep_attempt, hlast']
      rfl
    · rw [keep_attempt, hlast', hstate]
  | exhausted | refused | paired => exact handles_ended hlast .nothing rfl rfl rfl

theorem Handles.after (h : Handles attempt cache reservationId o next) {event : PairingEvent}
    (hevent : event.boundContext = none) :
    Handles attempt cache reservationId (o.after event) next := by
  have hbound : boundIn (o.after event) = boundIn o := by
    rw [boundIn, Outcome.after_events, List.filterMap_cons_none hevent, boundIn]
  exact ⟨hbound ▸ h.binds, fun hlive => hbound ▸ h.live hlive, h.ended⟩

/-- The event of a binding tells whether it succeeded. -/
theorem boundContext_bind (context : PairingContext) (error : PairingError) :
    (PairingEvent.bind context error).boundContext = if error = .none then some context else none := by
  cases error <;> rfl

/-- The report tells the state of the attempt. -/
theorem Step.update_state (hstep : Step env attempt cache call o) :
    o.update.state = o.attempt.state := by
  have hconclusion : ∀ {last : PairingAttempt} {o : Outcome}, Concludes env last cache o →
      o.update.state = o.attempt.state := by
    intro last o h
    cases h <;> rfl
  cases hstep with
  | confirmed _ _ hconcludes =>
    rw [Outcome.after_update, Outcome.after_attempt]
    exact hconclusion hconcludes
  | written _ _ _ hconcludes => exact hconclusion hconcludes
  | _ => rfl

/-- Every call of a live attempt handles its reservation. -/
theorem Step.handles (hstep : Step env attempt cache call o)
    (hlive : attempt.state.terminal = false)
    (hreserved : attempt.replayReservation = some reservationId) :
    ∃ next, Handles attempt cache reservationId o next := by
  cases hstep with
  | settled hended => cases hlive.symm.trans hended
  | quiet => exact ⟨cache, handles_live rfl hlive rfl Iff.rfl⟩
  | closed _ hlast | declined _ hlast =>
    exact ⟨cache, handles_ended (hlast.trans hreserved) .nothing rfl rfl rfl⟩
  | started hstate _ _ hnext | selected _ hstate _ _ _ _ _ hnext =>
    subst hnext
    exact ⟨cache, handles_live rfl rfl rfl (by simp [hstate])⟩
  | greeted _ hstate => exact ⟨cache, handles_live rfl rfl rfl (by simp [hstate])⟩
  | answered _ _ hstate _ _ _ _ _ hnext =>
    subst hnext
    exact ⟨cache, handles_live rfl (by simp [hstate, PairingState.terminal]) rfl (by simp [hstate])⟩
  | @interrupted _ last nowMs hcompletes hstate context _ id hreservation bound hbound error =>
    obtain rfl : id = reservationId := Option.some.inj (hreservation.symm.trans hreserved)
    have hlast : last.replayReservation = some id := hcompletes.keeps.reservation.trans hreserved
    refine ⟨bound.2, handles_ended hlast ?_ rfl rfl rfl⟩
    have hevents : boundIn ((last.close bound.2 error).after (.bind context bound.1)) =
        (if bound.1 = .none then some context else none : Option PairingContext).toList := by
      rw [← boundContext_bind]
      rfl
    rw [hevents]
    by_cases hnone : bound.1 = .none
    · rw [if_pos hnone]
      exact .bound hstate (hbound.symm.trans (Prod.ext hnone rfl))
    rw [if_neg hnone]
    exact .refused hstate hnone hbound.symm
  | @completed _ last nowMs hcompletes hstate context _ id hreservation bound hbound _ _ _ _ hnext =>
    obtain rfl : id = reservationId := Option.some.inj (hreservation.symm.trans hreserved)
    subst hnext
    exact ⟨bound, .bound hstate hbound.symm, fun _ => ⟨rfl, by simp [boundIn, boundContext_bind]⟩,
      fun hterminal => absurd hterminal (by simp [PairingState.terminal])⟩
  | rejected =>
    refine ⟨cache, Handles.after (handles_ended (by simpa using hreserved) .nothing rfl rfl rfl) rfl⟩
  | confirmed hverifies _ hconcludes =>
    refine ⟨cache, Handles.after (hconcludes.handles (by simpa using hreserved) hverifies.state
      (by simpa using hverifies.state)) rfl⟩
  | decided hdecides _ hnext =>
    subst hnext
    refine ⟨cache, handles_live rfl ?_ rfl (by simp [hdecides.state])⟩
    simp [hdecides.state, PairingState.terminal]
  | written _ hstate _ hconcludes =>
    exact ⟨cache, hconcludes.handles (by simpa using hreserved) hstate (by simpa using hstate)⟩

end Steps

end PairingAttempt

/-! ### Runs -/

namespace PairingObservation

/-- The call gave back the admission lease. -/
def releasesAdmission (o : PairingObservation) : Bool :=
  o.before.admissionHeld && !o.outcome.attempt.admissionHeld

/-- The call settled the reservation. -/
def settlesReservation (o : PairingObservation) : Bool :=
  o.before.replayReservation.isSome && o.outcome.attempt.replayReservation.isNone

end PairingObservation

namespace PairingSession

/-- The contexts to which the reservation was bound. -/
def contextsBound (history : List PairingObservation) : List PairingContext :=
  history.flatMap fun o => boundIn o.outcome

/-- A call that had no effect. -/
structure Idle (o : PairingObservation) : Prop where
  state : o.outcome.attempt.state = o.before.state
  frame : o.outcome.update.outboundFrame = []
  prompt : o.outcome.update.prompt = none
  events : o.outcome.events = []
  cache : o.outcome.cache = o.cacheBefore

/-- An attempt ends once and for all. -/
structure Concluded (reservationId : UInt64) (peerKey : PublicKey) (s : PairingSession) :
    Prop where
  final : ∀ o ∈ s.history, o.outcome.update.terminal = true →
    s.attempt.state = o.outcome.update.state
  idle : Along (fun before o => Reported before → Idle o) s.history
  released : Reported s.history →
    s.attempt.Released ∧ ∀ handle, s.attempt.handleMatches handle = false
  settled : Along (fun before o => ¬ Reported before → o.outcome.update.terminal = true →
    o.outcome.cache.entriesOf reservationId = (contextsBound (before ++ [o])).map
      (keptEntry reservationId peerKey o.outcome.attempt.lastNowMs)) s.history
  bound : (contextsBound s.history).length ≤ 1
  reported : Reported s.history ↔ s.attempt.state.terminal = true
  admissions : s.history.countP (·.releasesAdmission) = s.attempt.state.terminal.toNat
  reservations : s.history.countP (·.settlesReservation) = s.attempt.state.terminal.toNat

/-- What the history says about the reservation. -/
structure Reserved (reservationId : UInt64) (peerKey : PublicKey) (s : PairingSession) :
    Prop where
  sound : s.attempt.Sound
  reported : Reported s.history ↔ s.attempt.state.terminal = true
  reservation : s.attempt.state.terminal = false → s.attempt.replayReservation = some reservationId
  holds : s.attempt.state.terminal = false → s.cache.Holds reservationId
    (reservedEntry reservationId peerKey (contextsBound s.history))
  bound : s.attempt.state.terminal = false →
    (s.attempt.state = .awaitingDecisions ↔ contextsBound s.history ≠ [])

section Run

variable {s : PairingSession} {env : PairingEnvironment} {call : PairingCall} {o : Outcome}
  {reservationId : UInt64} {peerKey : PublicKey}

theorem contextsBound_record :
    contextsBound (s.record env call o).history = contextsBound s.history ++ boundIn o := by
  simp [contextsBound]

variable {contexts : List PairingContext} {cache : ReplayCache}

/-- What a call can do to the entry of the reservation. -/
theorem Reserved.binds (h : s.Reserved reservationId peerKey)
    (hlive : s.attempt.state.terminal = false) {next : ReplayCache}
    (hbinds : s.attempt.Binds s.cache reservationId next contexts) :
    next.Holds reservationId
        (reservedEntry reservationId peerKey (contextsBound s.history ++ contexts)) ∧
      ((contextsBound s.history).length ≤ 1 →
        (contextsBound s.history ++ contexts).length ≤ 1) := by
  have hunbound (hstate : s.attempt.state = .selecting) : contextsBound s.history = [] := by
    by_contra hsome
    have hawaiting := (h.bound hlive).mpr hsome
    rw [hstate] at hawaiting
    cases hawaiting
  have hholds := h.holds hlive
  cases hbinds with
  | nothing => exact ⟨by simpa using hholds, by simp⟩
  | @bound hstate context nowMs _ hbind =>
    rw [hunbound hstate] at hholds ⊢
    refine ⟨?_, fun _ => le_rfl⟩
    rcases hholds.bind rfl context.digest nowMs with ⟨hreplay, -⟩ | ⟨-, hnext⟩
    · rw [hbind] at hreplay
      cases hreplay
    rw [hbind] at hnext
    exact hnext
  | @refused hstate context nowMs error _ herror hbind =>
    rw [hunbound hstate] at hholds ⊢
    refine ⟨?_, fun _ => Nat.zero_le 1⟩
    rcases hholds.bind rfl context.digest nowMs with ⟨-, hnext⟩ | ⟨hnone, -⟩
    · rw [hbind] at hnext
      exact hnext
    rw [hbind] at hnone
    exact absurd hnone herror

/-- Settling a reservation keeps an entry for each context to which it was bound. -/
theorem entriesOf_commit
    (h : cache.Holds reservationId (reservedEntry reservationId peerKey contexts))
    (hlength : contexts.length ≤ 1) (nowMs : UInt64) :
    (cache.commit reservationId nowMs).entriesOf reservationId =
      contexts.map (keptEntry reservationId peerKey nowMs) := by
  match contexts with
  | [] => exact h.commit_unbound rfl nowMs
  | [context] => exact h.commit_bound rfl nowMs
  | _ :: _ :: _ => exact absurd hlength (by simp)

theorem Reserved.step (h : s.Reserved reservationId peerKey)
    (hstep : PairingAttempt.Step env s.attempt s.cache call o) :
    (s.record env call o).Reserved reservationId peerKey := by
  have hterminal := hstep.terminal_eq
  have hreported : Reported (s.record env call o).history ↔ o.attempt.state.terminal = true := by
    rw [reported_record, h.reported, hterminal]
    refine ⟨fun hor => hor.elim (fun hended => ?_) id, .inr⟩
    obtain ⟨lastNowMs, rfl⟩ := hstep.absorbed hended
    exact hended
  by_cases hended : s.attempt.state.terminal = true
  · obtain ⟨lastNowMs, rfl⟩ := hstep.absorbed hended
    have hdead : s.attempt.state.terminal = false → False :=
      fun hlive => absurd (hlive.symm.trans hended) (by decide)
    exact ⟨h.sound.step hstep, hreported, fun hlive => (hdead hlive).elim,
      fun hlive => (hdead hlive).elim, fun hlive => (hdead hlive).elim⟩
  have hlive := (Bool.not_eq_true _).mp hended
  obtain ⟨next, hhandles⟩ := hstep.handles hlive (h.reservation hlive)
  obtain ⟨hholds, hcontexts⟩ := h.binds hlive hhandles.binds
  refine ⟨h.sound.step hstep, hreported, fun hafter => ?_, fun hafter => ?_, fun hafter => ?_⟩
  · rw [record_attempt, (hstep.fixed hafter).2.2.2.2.2.2]
    exact h.reservation hlive
  · rw [contextsBound_record, record_cache, (hhandles.live hafter).1]
    exact hholds
  rw [contextsBound_record, record_attempt, (hhandles.live hafter).2, h.bound hlive]
  simp [or_iff_not_imp_left]

/-- A call of an attempt that has ended is idle. -/
theorem idle_of_ended (hstep : PairingAttempt.Step env s.attempt s.cache call o)
    (hended : s.attempt.state.terminal = true) : Idle ⟨env, call, s.attempt, s.cache, o⟩ := by
  obtain ⟨lastNowMs, rfl⟩ := hstep.absorbed hended
  exact ⟨rfl, rfl, rfl, rfl, rfl⟩

/-- A call releases the resources if it ends the attempt. -/
theorem releases_eq (hsound : s.attempt.Sound)
    (hstep : PairingAttempt.Step env s.attempt s.cache call o) {o' : PairingObservation}
    (ho' : o' = ⟨env, call, s.attempt, s.cache, o⟩) :
    s.attempt.state.terminal.toNat + (if o'.releasesAdmission then 1 else 0) =
        o.attempt.state.terminal.toNat ∧
      s.attempt.state.terminal.toNat + (if o'.settlesReservation then 1 else 0) =
        o.attempt.state.terminal.toNat := by
  subst ho'
  have hafter := hsound.step hstep
  cases hbefore : s.attempt.state.terminal with
  | true =>
    obtain ⟨lastNowMs, rfl⟩ := hstep.absorbed hbefore
    have hreleased := hsound.ended hbefore
    simp [PairingObservation.releasesAdmission, PairingObservation.settlesReservation, hbefore,
      hreleased.admission, hreleased.reservation]
  | false =>
    have hholding := hsound.live hbefore
    have hsome := Option.isSome_iff_ne_none.mpr hholding.reservation
    cases hend : o.attempt.state.terminal with
    | true =>
      have hreleased := hafter.ended hend
      simp [PairingObservation.releasesAdmission, PairingObservation.settlesReservation,
        hholding.admission, hsome, hreleased.admission, hreleased.reservation]
    | false =>
      have hholding' := hafter.live hend
      simp [PairingObservation.releasesAdmission, PairingObservation.settlesReservation,
        hholding'.admission, hholding'.reservation]

/-- The contract of one more call. -/
theorem Concluded.step (h : s.Concluded reservationId peerKey)
    (hreserved : s.Reserved reservationId peerKey)
    (hstep : PairingAttempt.Step env s.attempt s.cache call o) :
    (s.record env call o).Concluded reservationId peerKey := by
  have hnext := hreserved.step hstep
  have hreleases := releases_eq hreserved.sound hstep rfl
  refine ⟨?_, along_concat.mpr ⟨h.idle, fun hreported => ?_⟩, fun hreported => ?_,
    along_concat.mpr ⟨h.settled, fun hlive hterminal => ?_⟩, ?_, hnext.reported, ?_, ?_⟩
  · intro last hlast hterminal
    rcases List.mem_append.mp hlast with hold | hnew
    · have hended := hreserved.reported.mp ⟨last, hold, hterminal⟩
      rw [record_attempt, (idle_of_ended hstep hended).state]
      exact h.final last hold hterminal
    rw [List.mem_singleton.mp hnew]
    exact hstep.update_state.symm
  · exact idle_of_ended hstep (hreserved.reported.mp hreported)
  · have hreleased := hnext.sound.ended (hnext.reported.mp hreported)
    refine ⟨hreleased, fun _ => ?_⟩
    rw [PairingAttempt.handleMatches, hreleased.handle]
    simp
  · rw [hreserved.reported, Bool.not_eq_true] at hlive
    have hended : o.attempt.state.terminal = true := hstep.terminal_eq.symm.trans hterminal
    obtain ⟨next, hhandles⟩ := hstep.handles hlive (hreserved.reservation hlive)
    obtain ⟨hholds, hcontexts⟩ := hreserved.binds hlive hhandles.binds
    rw [hhandles.ended hended]
    exact (entriesOf_commit hholds (hcontexts h.bound) _).trans
      (congrArg (List.map _) contextsBound_record.symm)
  · rw [contextsBound_record]
    by_cases hended : s.attempt.state.terminal = true
    · rw [boundIn, (idle_of_ended hstep hended).events, List.filterMap_nil, List.append_nil]
      exact h.bound
    have hlive := (Bool.not_eq_true _).mp hended
    obtain ⟨next, hhandles⟩ := hstep.handles hlive (hreserved.reservation hlive)
    exact (hreserved.binds hlive hhandles.binds).2 h.bound
  · rw [record_history, List.countP_append, h.admissions, List.countP_singleton]
    exact hreleases.1
  rw [record_history, List.countP_append, h.reservations, List.countP_singleton]
  exact hreleases.2

theorem Created.concluded {channel : Option PublicKey} {admission : Option AdmissionLease}
    {options : PairingAttemptOptions} {attempt : PairingAttempt}
    (h : attempt.Created channel admission options cache)
    (hreservation : attempt.replayReservation = some reservationId) :
    Reserved reservationId attempt.peerPublicKey ⟨attempt, cache, []⟩ ∧
      Concluded reservationId attempt.peerPublicKey ⟨attempt, cache, []⟩ ∧
      Sent ⟨attempt, cache, []⟩ [] := by
  have hsound := h.sound
  have hholds := h.held reservationId hreservation
  obtain ⟨lease, handle, nonce, localKey, id, -, -, hattempt⟩ := h.fields
  have hstate : attempt.state = .pairingTls := by rw [hattempt]
  have hsequence : attempt.nextOutboundSequence = 1 := by rw [hattempt]
  have hinbound : attempt.inboundFrames = 0 := by rw [hattempt]
  have hlive : attempt.state.terminal = false := hstate ▸ rfl
  have hnone : ¬ Reported [] := by simp [Reported]
  have hreported : Reported [] ↔ attempt.state.terminal = true := by simp [hnone, hlive]
  have hcount : 0 = attempt.state.terminal.toNat := hlive ▸ rfl
  refine ⟨⟨hsound, hreported, fun _ => hreservation, fun _ => hholds, fun _ => ?_⟩, ?_, ?_⟩
  · simp [hstate, contextsBound]
  · refine ⟨fun o ho => absurd ho List.not_mem_nil, along_nil _,
      fun hreports => absurd hreports hnone, along_nil _, Nat.zero_le 1, hreported, hcount, hcount⟩
  refine ⟨rfl, rfl, List.Pairwise.nil, fun _ => List.Pairwise.nil, fun _ => ?_⟩
  exact ⟨by rw [hsequence]; rfl, Nat.zero_le _, by rw [hinbound]; exact Nat.zero_le _, by simp⟩

end Run

/-- The frames of a session as the peer reads them. -/
structure WellOrdered (s : PairingSession) (frames : List Frame) : Prop where
  parsed : s.emitted.map (parseFrame maxPairingFields) = frames.map .ok
  numbers : frames.map (fun frame => frame.sequence.toNat) = List.range' 1 frames.length
  hellos : frames.countP (·.type = .hello) ≤ 1
  selects : frames.countP (·.type = .select) ≤ 1
  decisions : frames.countP (·.type = .decision) ≤ 1
  aborts : frames.countP (·.type = .abort) ≤ 1
  last : ∀ frame ∈ frames.dropLast, frame.type ≠ .abort
  selections : (∀ o ∈ s.history, ¬ o.RepeatsSelect) →
    frames.countP (fun frame => frame.type = .select ∨ frame.type = .selectAck) ≤ 1

/-- Frames of a type that is not repeated occur once. -/
theorem Precedes.not_same {type : PairingMessageType} (htype : type ≠ .selectAck)
    (first second : Frame) (hfirst : decide (first.type = type) = true)
    (hsecond : decide (second.type = type) = true) : ¬ Precedes first second := by
  rw [decide_eq_true_eq] at hfirst hsecond
  rintro (hless | ⟨-, hack⟩)
  · rw [hfirst, hsecond] at hless
    exact lt_irrefl _ hless
  · exact htype (hsecond.symm.trans hack)

/-- Nothing follows an abort. -/
theorem Precedes.not_abort {first : Frame} (h : first.type = .abort) (second : Frame) :
    ¬ Precedes first second := by
  rintro (hless | ⟨hone, -⟩)
  · rw [h] at hless
    cases htype : second.type <;> simp [htype, PairingMessageType.stage] at hless
  rw [h] at hone
  cases hone

theorem Sent.wellOrdered {s : PairingSession} {frames : List Frame} (h : s.Sent frames) :
    s.WellOrdered frames where
  parsed := h.parsed
  numbers := h.numbers
  hellos := countP_le_one h.ordered (Precedes.not_same (by decide))
  selects := countP_le_one h.ordered (Precedes.not_same (by decide))
  decisions := countP_le_one h.ordered (Precedes.not_same (by decide))
  aborts := countP_le_one h.ordered (Precedes.not_same (by decide))
  last := fun frame hmem htype =>
    not_mem_dropLast h.ordered (Precedes.not_abort htype) hmem
  selections := by
    intro hnone
    refine countP_le_one (h.strict hnone) fun first second hfirst hsecond hless => ?_
    rw [decide_eq_true_eq] at hfirst hsecond
    have hone : ∀ {frame : Frame}, frame.type = .select ∨ frame.type = .selectAck →
        frame.type.stage = 1 := by
      rintro frame (h | h) <;> rw [h] <;> rfl
    rw [hone hfirst, hone hsecond] at hless
    exact lt_irrefl _ hless

/-- In every run an attempt ends once and for all, and its frames are in order. -/
theorem run_concluded {env : CreationEnvironment} {peerKey : PublicKey}
    {admission : Option AdmissionLease} {options : PairingAttemptOptions}
    {cache next : ReplayCache} {update : PairingUpdate} {attempt : PairingAttempt}
    (hcreate : PairingAttempt.create env (some peerKey) admission options cache =
      (update, some attempt, next)) {actions : List PairingAction}
    (hfair : Runs.Admits act Fair ⟨attempt, next, []⟩ actions) :
    ∃ reservationId, attempt.replayReservation = some reservationId ∧
      (Runs.run act ⟨attempt, next, []⟩ actions).Concluded reservationId peerKey ∧
      ∃ frames, (Runs.run act ⟨attempt, next, []⟩ actions).WellOrdered frames := by
  have hcreated := PairingAttempt.created_of_create hcreate
  have hpeer : attempt.peerPublicKey = peerKey := (Option.some.inj hcreated.channel).symm
  obtain ⟨reservationId, hreservation⟩ :=
    Option.ne_none_iff_exists'.mp hcreated.holding.reservation
  have hnew := Created.concluded hcreated hreservation
  rw [hpeer] at hnew
  obtain ⟨hreserved, hconcluded, hsent⟩ := hnew
  have hrun := Runs.run_invariant (P := fun s : PairingSession => s.Reserved reservationId peerKey ∧
      s.Concluded reservationId peerKey ∧ ∃ frames, s.Sent frames) (fun s action h hfair => ?_)
    ⟨hreserved, hconcluded, [], hsent⟩ hfair
  · obtain ⟨-, hconcluded', frames, hsent'⟩ := hrun
    exact ⟨reservationId, hreservation, hconcluded', frames, hsent'.wellOrdered⟩
  obtain ⟨hreserved, hconcluded, frames, hsent⟩ := h
  cases action with
  | call env call =>
    have hstep := PairingAttempt.step_of_call env s.attempt s.cache call
    exact ⟨hreserved.step hstep, hconcluded.step hreserved hstep, hsent.step hreserved.sound hstep⟩
  | interfere operation =>
    have hholds (hlive : s.attempt.state.terminal = false) :=
      (hreserved.holds hlive).apply (hfair _ (hreserved.reservation hlive))
    exact ⟨{ hreserved with holds := hholds }, { hconcluded with }, frames, { hsent with }⟩

theorem run_concluded_plain :
    (Runs.run act ⟨plainAttempt .initiator, plainCache .initiator, []⟩
      plainPairingActions).attempt.state = .pairedLocal ∧
    ∃ reservationId, (plainAttempt .initiator).replayReservation = some reservationId ∧
      (Runs.run act ⟨plainAttempt .initiator, plainCache .initiator, []⟩
        plainPairingActions).Concluded reservationId (plainKey .responder) ∧
      ∃ frames, (Runs.run act ⟨plainAttempt .initiator, plainCache .initiator, []⟩
        plainPairingActions).WellOrdered frames :=
  ⟨by decide +kernel, run_concluded (create_plainAttempt .initiator)
    ⟨trivial, trivial, trivial, trivial, trivial, trivial, trivial⟩⟩

/-- The calls of a responder that receives the selection twice. -/
def repeatedSelectActions : List PairingAction :=
  [.start 1, .receiveFrame (plainHelloFrame .initiator) 2,
    .receiveFrame (encodeSelection .select 2 plainSelection) 3,
    .receiveFrame (encodeSelection .select 3 plainSelection) 4].map (.call plainSurroundings)

/-- A responder that receives the selection twice acknowledges it twice. -/
theorem selection_acknowledged_twice :
    (Runs.run act ⟨plainAttempt .responder, plainCache .responder, []⟩
      repeatedSelectActions).emitted.map (parseFrame maxPairingFields) =
    [.ok ⟨.hello, 1, helloFields .responder (plainKey .responder)
        (plainAttempt .responder).localNonce plainOffer⟩,
      .ok ⟨.selectAck, 2, selectionFields plainSelection⟩,
      .ok ⟨.selectAck, 3, selectionFields plainSelection⟩] := by
  decide +kernel

end PairingSession

end XnnTransfer.Pairing
