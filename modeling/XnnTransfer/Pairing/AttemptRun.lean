import XnnTransfer.Library.Histories
import XnnTransfer.Library.Runs
import XnnTransfer.Pairing.AttemptStep

/-!
# Runs of a pairing attempt

A session is an attempt together with the replay cache it shares with other
attempts and the history of its calls. Peer, user and surroundings are
arbitrary: an action is any call in any surroundings, or an operation of
somebody else on the cache. `PairingAttempt.Sound` is the invariant of the
attempt's own fields.
-/

namespace XnnTransfer.Pairing

open Protocol Security

/-- One call with what it found and what it left behind. -/
structure PairingObservation where
  env : PairingEnvironment
  call : PairingCall
  before : PairingAttempt
  cacheBefore : ReplayCache
  outcome : Outcome

structure PairingSession where
  attempt : PairingAttempt
  cache : ReplayCache
  history : List PairingObservation := []

/-- The session after a call with this outcome. -/
@[simps] def PairingSession.record (s : PairingSession) (env : PairingEnvironment)
    (call : PairingCall) (o : Outcome) : PairingSession where
  attempt := o.attempt
  cache := o.cache
  history := s.history ++ [⟨env, call, s.attempt, s.cache, o⟩]

/-- What can happen to a session: a call, or what others do to the cache. -/
inductive PairingAction
  | call (env : PairingEnvironment) (call : PairingCall)
  | interfere (operation : ReplayOperation)

namespace PairingSession

def act (s : PairingSession) : PairingAction → PairingSession
  | .call env call => s.record env call (s.attempt.call env s.cache call)
  | .interfere operation => { s with cache := s.cache.apply operation }

/-- The others do not use the reservation of the attempt. -/
def Fair (s : PairingSession) : PairingAction → Prop
  | .call _ _ => True
  | .interfere operation => ∀ reservationId, s.attempt.replayReservation = some reservationId →
      operation.reservationId ≠ some reservationId

variable {P : PairingSession → Prop} {s : PairingSession}

end PairingSession

namespace PairingAttempt

/-- What an attempt has as long as it has not ended. -/
structure Holding (attempt : PairingAttempt) : Prop where
  handle : attempt.handle.allZero = false
  admission : attempt.admissionHeld = true
  channel : attempt.channelOpen = true
  reservation : attempt.replayReservation ≠ none

/-- The next attempt has the handle and the resources of this one. -/
structure Keeps (attempt next : PairingAttempt) : Prop where
  handle : next.handle = attempt.handle
  admission : next.admissionHeld = attempt.admissionHeld
  channel : next.channelOpen = attempt.channelOpen
  reservation : next.replayReservation = attempt.replayReservation

theorem Holding.keeps {attempt next : PairingAttempt} (h : attempt.Holding)
    (hkeeps : attempt.Keeps next) : next.Holding where
  handle := hkeeps.handle ▸ h.handle
  admission := hkeeps.admission.trans h.admission
  channel := hkeeps.channel.trans h.channel
  reservation := hkeeps.reservation ▸ h.reservation

/-- What is left of an attempt that has ended. -/
structure Released (attempt : PairingAttempt) : Prop where
  handle : attempt.handle = .zero 16
  admission : attempt.admissionHeld = false
  channel : attempt.channelOpen = false
  reservation : attempt.replayReservation = none

/-- The invariant of the attempt's own fields. -/
structure Sound (attempt : PairingAttempt) : Prop where
  live : attempt.state.terminal = false → attempt.Holding
  ended : attempt.state.terminal = true → attempt.Released
  resting : attempt.state ≠ .readyToCommit ∧ attempt.state ≠ .committing
  decided : attempt.localDecision ≠ none →
    attempt.state = .awaitingDecisions ∧ attempt.localDecision = some .confirm
  written : attempt.decisionWritten = true → attempt.localDecision = some .confirm
  confirmed : attempt.peerConfirmed = true → attempt.state = .awaitingDecisions
  unready : ¬ attempt.Ready
  awaiting : attempt.context ≠ none ↔ attempt.state = .awaitingDecisions
  pending : attempt.selectionAckPending = true →
    attempt.state = .selecting ∧ attempt.localRole = .responder

section Preservation

variable {env : PairingEnvironment} {attempt : PairingAttempt} {cache : ReplayCache}
  {call : PairingCall} {o : Outcome}

variable {state : PairingState} {next : PairingAttempt}

/-- An attempt that has ended is sound. -/
theorem sound_ended (last : PairingAttempt) (hstate : state.terminal = true) :
    (last.ended state).Sound where
  live := fun hlive => absurd (hlive.symm.trans hstate) (by decide)
  ended := fun _ => ⟨rfl, rfl, rfl, rfl⟩
  resting := by
    constructor
    · rintro rfl
      cases hstate
    rintro rfl
    cases hstate
  decided := fun h => absurd rfl h
  written := nofun
  confirmed := nofun
  unready := fun h => by simpa using h.confirmed
  awaiting := by
    constructor
    · exact fun h => absurd rfl h
    rintro rfl
    cases hstate
  pending := nofun

theorem Concludes.sound {last : PairingAttempt} (h : Concludes env last cache o)
    (hlast : ¬ last.Ready → last.Sound) : o.attempt.Sound := by
  cases h with
  | waits h => exact hlast h
  | exhausted | refused | paired => exact sound_ended last rfl

theorem Sound.relabelled (h : attempt.Sound) (lastNowMs : UInt64) :
    Sound { attempt with lastNowMs := lastNowMs } :=
  { h with
    live := fun hlive => { h.live hlive with }
    ended := fun hended => { h.ended hended with }
    unready := fun hready => h.unready { hready with } }

theorem Sound.undecided (h : attempt.Sound) (hstate : attempt.state ≠ .awaitingDecisions) :
    attempt.localDecision = none := by
  by_contra hsome
  exact hstate (h.decided hsome).1

theorem Sound.holding (h : attempt.Sound) (hstate : attempt.state = state)
    (hlive : state.terminal = false) : attempt.Holding :=
  h.live (by rw [hstate, hlive])

/-- What a sound attempt knows before the decisions. -/
theorem Sound.early (h : attempt.Sound) (hstate : attempt.state ≠ .awaitingDecisions) :
    attempt.localDecision = none ∧ attempt.decisionWritten = false ∧
      attempt.peerConfirmed = false ∧ attempt.context = none := by
  have hdecision := h.undecided hstate
  refine ⟨hdecision, ?_, ?_, ?_⟩
  · by_contra hwritten
    have hconfirm := h.written ((Bool.not_eq_false _).mp hwritten)
    rw [hdecision] at hconfirm
    cases hconfirm
  · by_contra hconfirmed
    exact hstate (h.confirmed ((Bool.not_eq_false _).mp hconfirmed))
  by_contra hcontext
  exact hstate (h.awaiting.mp hcontext)

theorem Sound.unpending (h : attempt.Sound) (hstate : attempt.state ≠ .selecting) :
    attempt.selectionAckPending = false := by
  by_contra hpending
  exact hstate (h.pending ((Bool.not_eq_false _).mp hpending)).1

/-- Before the decisions an attempt stays sound as long as it keeps what it has. -/
theorem Sound.advance (h : attempt.Sound) (hkeeps : attempt.Keeps next)
    (hlive : attempt.state.terminal = false) (hbefore : attempt.state ≠ .awaitingDecisions)
    (hstate : next.state = .exchangingHellos ∨ next.state = .selecting)
    (hdecision : next.localDecision = attempt.localDecision)
    (hwritten : next.decisionWritten = attempt.decisionWritten)
    (hconfirmed : next.peerConfirmed = attempt.peerConfirmed)
    (hcontext : next.context = attempt.context) (hpending : next.selectionAckPending = true →
      next.state = .selecting ∧ next.localRole = .responder) : next.Sound := by
  obtain ⟨hdecision', hwritten', hconfirmed', hcontext'⟩ := h.early hbefore
  exact
    { live := fun _ => (h.live hlive).keeps hkeeps
      ended := by rcases hstate with h | h <;> rw [h] <;> nofun
      resting := by rcases hstate with h | h <;> rw [h] <;> exact ⟨nofun, nofun⟩
      decided := fun hsome => absurd (hdecision.trans hdecision') hsome
      written := fun hset => absurd ((hwritten.trans hwritten').symm.trans hset) (by decide)
      confirmed := fun hset => absurd ((hconfirmed.trans hconfirmed').symm.trans hset) (by decide)
      unready := fun hready =>
        absurd ((hconfirmed.trans hconfirmed').symm.trans hready.confirmed) (by decide)
      awaiting := by
        rw [hcontext, hcontext']
        rcases hstate with h | h <;> rw [h] <;> exact ⟨fun hne => absurd rfl hne, nofun⟩
      pending := hpending }

/-- An attempt that waits for decisions stays sound when it is not ready to commit. -/
theorem Holding.sound_awaiting (h : attempt.Holding) (hkeeps : attempt.Keeps next)
    (hstate : next.state = .awaitingDecisions)
    (hdecision : next.localDecision ≠ none → next.localDecision = some .confirm)
    (hwritten : next.decisionWritten = true → next.localDecision = some .confirm)
    (hunready : ¬ next.Ready) (hcontext : next.context ≠ none)
    (hpending : next.selectionAckPending = false) : next.Sound where
  live := fun _ => h.keeps hkeeps
  ended := by rw [hstate]; nofun
  resting := by rw [hstate]; exact ⟨nofun, nofun⟩
  decided := fun hsome => ⟨hstate, hdecision hsome⟩
  written := hwritten
  confirmed := fun _ => hstate
  unready := hunready
  awaiting := ⟨fun _ => hstate, fun _ => hcontext⟩
  pending := fun hset => absurd (hpending.symm.trans hset) (by decide)

section Completion

variable {last : PairingAttempt} {nowMs : UInt64}

theorem Completes.keeps (h : Completes env attempt call last nowMs) : attempt.Keeps last := by
  cases h <;> exact ⟨by simp, by simp, by simp, by simp⟩

theorem Completes.decisions (h : Completes env attempt call last nowMs) :
    last.localDecision = attempt.localDecision ∧
      last.decisionWritten = attempt.decisionWritten ∧
      last.peerConfirmed = attempt.peerConfirmed := by
  cases h <;> exact ⟨by simp, by simp, by simp⟩

/-- Nothing is pending any more when the selection is completed. -/
theorem Completes.unpending (h : Completes env attempt call last nowMs)
    (hsound : attempt.Sound) : last.selectionAckPending = false := by
  cases h with
  | acknowledged _ _ hrole =>
    by_contra hpending
    have hother := (hsound.pending ((Bool.not_eq_false _).mp hpending)).2
    cases hrole.symm.trans hother
  | written => simp

end Completion

/-- Every step keeps the invariant. -/
theorem Sound.step (h : attempt.Sound) (hstep : Step env attempt cache call o) :
    o.attempt.Sound := by
  cases hstep with
  | settled _ lastNowMs | quiet _ lastNowMs => exact h.relabelled lastNowMs
  | closed | interrupted | rejected | declined => exact sound_ended _ rfl
  | started hstate _ _ hnext =>
    subst hnext
    refine h.advance ⟨by simp, by simp, by simp, by simp⟩ (hstate ▸ rfl)
      (by rw [hstate]; decide) (.inl rfl) (by simp) (by simp) (by simp) (by simp) ?_
    simp [h.unpending (by rw [hstate]; decide)]
  | greeted _ hstate _ _ _ =>
    refine h.advance ⟨by simp, by simp, by simp, by simp⟩ (hstate ▸ rfl)
      (by rw [hstate]; decide) (.inr rfl) (by simp) (by simp) (by simp) (by simp) ?_
    simp [h.unpending (by rw [hstate]; decide)]
  | selected _ hstate _ _ _ _ _ hnext =>
    subst hnext
    refine h.advance ⟨by simp, by simp, by simp, by simp⟩ (hstate ▸ rfl)
      (by rw [hstate]; decide) (.inr rfl) (by simp) (by simp) (by simp) (by simp) ?_
    simp [h.unpending (by rw [hstate]; decide)]
  | answered _ _ hstate hrole _ _ _ _ hnext =>
    subst hnext
    refine h.advance ⟨by simp, by simp, by simp, by simp⟩ (hstate ▸ rfl)
      (by rw [hstate]; decide) (.inr (by simpa using hstate)) (by simp) (by simp) (by simp)
      (by simp) ?_
    simp [hstate, hrole]
  | completed hcompletes hstate _ _ _ _ hnext =>
    subst hnext
    obtain ⟨hdecision, hwritten, hconfirmed, -⟩ := h.early (by rw [hstate]; decide)
    obtain ⟨hdecision', hwritten', hconfirmed'⟩ := hcompletes.decisions
    have hkeeps := hcompletes.keeps
    refine (h.holding hstate rfl).sound_awaiting
      ⟨hkeeps.handle, hkeeps.admission, hkeeps.channel, hkeeps.reservation⟩ rfl ?_ ?_ ?_ nofun
      (hcompletes.unpending h)
    · simp [hdecision', hdecision]
    · simp [hwritten', hwritten]
    intro hready
    have hset := hready.confirmed
    simp [hconfirmed', hconfirmed] at hset
  | confirmed hverifies _ hconcludes =>
    refine hconcludes.sound fun hunready => ?_
    refine (h.holding hverifies.state rfl).sound_awaiting ⟨by simp, by simp, by simp, by simp⟩
      (by simpa using hverifies.state) ?_ ?_ hunready (by simp [hverifies.held]) ?_
    · simpa using fun hsome => (h.decided hsome).2
    · simpa using h.written
    · simpa using h.unpending (by rw [hverifies.state]; decide)
  | decided hdecides _ hnext =>
    subst hnext
    have hunwritten : attempt.decisionWritten = false := by
      by_contra hset
      have hconfirm := h.written ((Bool.not_eq_false _).mp hset)
      rw [hdecides.undecided] at hconfirm
      cases hconfirm
    refine (h.holding hdecides.state rfl).sound_awaiting ⟨by simp, by simp, by simp, by simp⟩
      (by simpa using hdecides.state) (by simp) (by simp) ?_
      (by simpa using h.awaiting.mpr hdecides.state) ?_
    · intro hready
      have hset := hready.written
      simp [hunwritten] at hset
    · simpa using h.unpending (by rw [hdecides.state]; decide)
  | written _ hstate hdecision hconcludes =>
    refine hconcludes.sound fun hunready => ?_
    refine (h.holding hstate rfl).sound_awaiting ⟨by simp, by simp, by simp, by simp⟩
      (by simpa using hstate) (by simp [hdecision]) (by simp [hdecision]) hunready
      (by simpa using h.awaiting.mpr hstate) ?_
    simpa using h.unpending (by rw [hstate]; decide)

end Preservation

/-! ### New attempts -/

/-- What `Create` returns: an attempt on the channel, for the lease, at which nothing has
happened yet. -/
structure Created (channel : Option PublicKey) (admission : Option AdmissionLease)
    (options : PairingAttemptOptions) (attempt : PairingAttempt) (cache : ReplayCache) : Prop where
  fields : ∃ lease handle nonce localKey reservationId,
    admission = some lease ∧ handle.allZero = false ∧ attempt =
      { peerPublicKey := attempt.peerPublicKey
        replayReservation := some reservationId
        options := options
        localRole := lease.localRole
        handle := handle
        localNonce := nonce
        localKey := localKey
        absoluteDeadlineMs := min lease.windowDeadlineMs
          (checkedDeadline lease.admittedAtMs completePairingTimeoutMs)
        lastNowMs := lease.admittedAtMs }
  channel : channel = some attempt.peerPublicKey
  distinct : attempt.localKey ≠ attempt.peerPublicKey
  offer : validateOffer options.offer = .none
  held : ∀ reservationId, attempt.replayReservation = some reservationId →
    cache.Holds reservationId { reservationId := reservationId
                                peerKey := attempt.peerPublicKey
                                reserved := true }

variable {channel : Option PublicKey} {admission : Option AdmissionLease}
  {options : PairingAttemptOptions} {cache : ReplayCache} {attempt : PairingAttempt}

theorem created_of_create {env : CreationEnvironment} {next : ReplayCache} {update : PairingUpdate}
    (h : create env channel admission options cache = (update, some attempt, next)) :
    Created channel admission options attempt next := by
  unfold create at h
  split at h
  next localKey peerKey lease _ =>
    split at h
    · cases h
    split at h
    · cases h
    rename_i hguard
    push Not at hguard
    split at h
    · cases h
    rename_i hkeys
    push Not at hkeys
    split at h
    · cases h
    rename_i reservationId reserved hreserve
    have hholds := ReplayCache.reserve_holds hreserve
    unfold createReserved at h
    split at h
    · cases h
    split at h
    next handle nonce _ _ =>
      split at h
      · cases h
      rename_i hentropy
      push Not at hentropy
      cases h
      refine ⟨⟨lease, handle, nonce, localKey, reservationId, rfl,
        (Bool.not_eq_true _).mp hentropy.1, rfl⟩, rfl, hkeys.2.2.2, hguard.2.2.2, ?_⟩
      intro other hother
      cases hother
      rw [hkeys.2.2.1]
      exact hholds
    · cases h
  · cases h

theorem Created.holding (h : Created channel admission options attempt cache) :
    attempt.Holding := by
  obtain ⟨lease, handle, nonce, localKey, reservationId, -, hhandle, hattempt⟩ := h.fields
  rw [hattempt]
  exact ⟨hhandle, rfl, rfl, nofun⟩

/-- A new attempt is sound. -/
theorem Created.sound (h : Created channel admission options attempt cache) : attempt.Sound := by
  have hholding := h.holding
  obtain ⟨lease, handle, nonce, localKey, reservationId, -, -, hattempt⟩ := h.fields
  rw [hattempt] at hholding ⊢
  exact
    { live := fun _ => hholding
      ended := nofun
      resting := ⟨nofun, nofun⟩
      decided := fun hsome => absurd rfl hsome
      written := nofun
      confirmed := nofun
      unready := fun hready => by cases hready.confirmed
      awaiting := ⟨fun hne => absurd rfl hne, nofun⟩
      pending := nofun }

end PairingAttempt

/-! ### A plain attempt -/

variable (role : Role)

/-- A different key for each of the two roles. -/
def plainKey : PublicKey :=
  ⟨List.replicate 32 role.code, List.length_replicate⟩

/-- Surroundings in which nothing fails. -/
def plainSurroundings : PairingEnvironment where
  prims := plainPrimitives
  admissionActive := true
  markVisible := .none
  exportPairing _ := some (List.replicate 32 3)
  exportConfirmation _ := some (List.replicate 32 4)
  commitPeer _ := some (.zero 32)
  storableFields := 16
  memory _ := true

def plainCreation : CreationEnvironment where
  prims := plainPrimitives
  ready := true
  rootPublicKey := some (plainKey role)
  handleEntropy := some ⟨List.replicate 16 role.code, List.length_replicate⟩
  nonceEntropy := some ⟨List.replicate 32 role.code, List.length_replicate⟩
  reservationMemory := (true, true)
  memory := true

def plainLease : AdmissionLease where
  active := true
  bound := true
  localRole := role
  localKey := plainKey role
  peerKey := plainKey role.opposite
  admittedAtMs := 0
  windowDeadlineMs := 100000

def plainOptions : PairingAttemptOptions := ⟨plainOffer, []⟩

/-- A new attempt in the role. -/
def plainAttempt : PairingAttempt where
  peerPublicKey := plainKey role.opposite
  replayReservation := some 1
  options := plainOptions
  localRole := role
  handle := ⟨List.replicate 16 role.code, List.length_replicate⟩
  localNonce := ⟨List.replicate 32 role.code, List.length_replicate⟩
  localKey := plainKey role
  absoluteDeadlineMs := 100000
  lastNowMs := 0

/-- The cache after the reservation of a new attempt. -/
def plainCache : ReplayCache where
  nextReservationId := 2
  entries := [{ reservationId := 1, peerKey := plainKey role.opposite, reserved := true }]

theorem create_plainAttempt :
    PairingAttempt.create (plainCreation role) (some (plainKey role.opposite))
        (some (plainLease role)) plainOptions {} =
      ({ state := .pairingTls }, some (plainAttempt role), plainCache role) := by
  cases role <;> decide +kernel

def plainSelection : Selection := candidate plainOffer plainOffer

/-- The frames of the role in a plain pairing. -/
def plainHelloFrame : Bytes :=
  encodeHello 1 role (plainKey role) ⟨List.replicate 32 role.code, List.length_replicate⟩ plainOffer

def plainDecisionFrame (code : UInt8) : Bytes :=
  encodeDecision 3 ⟨confirmationMessage (.zero 32) role code, .zero 32⟩

/-- The calls of an initiator that is paired with a plain responder. -/
def plainPairingActions : List PairingAction :=
  [.start 1, .receiveFrame (plainHelloFrame .responder) 2,
    .receiveFrame (encodeSelection .selectAck 2 plainSelection) 3,
    .decide (plainAttempt .initiator).handle .confirm 4,
    .localDecisionWritten (plainAttempt .initiator).handle 5,
    .receiveFrame (plainDecisionFrame .responder 1) 6].map (.call plainSurroundings)

end XnnTransfer.Pairing
