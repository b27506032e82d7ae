import XnnTransfer.Pairing.AttemptRun

/-!
# Trust is committed after mutual confirmation

Whatever the peer sends and whatever is called on an attempt: the repository is
asked to commit the peer of the channel, at most once, and only after the user
has confirmed, the confirmation has been written, and a confirmation of the peer
has been verified.
-/

namespace XnnTransfer.Pairing

open Protocol Security Histories

/-- The commits that a call asked of the repository, with the answers. -/
def commitsOf (o : Outcome) : List (PeerCommit × Option DeviceId) :=
  o.events.filterMap fun
    | .commitPeer request answer => some (request, answer)
    | _ => none

theorem mem_commitsOf {o : Outcome} {request : PeerCommit} {answer : Option DeviceId} :
    (request, answer) ∈ commitsOf o ↔ .commitPeer request answer ∈ o.events := by
  unfold commitsOf
  rw [List.mem_filterMap]
  constructor
  · rintro ⟨event, hevent, hsome⟩
    cases event <;> cases hsome
    exact hevent
  · exact fun h => ⟨_, h, rfl⟩

namespace PairingObservation

variable (o : PairingObservation)

/-- The holder of the handle confirmed, and the decision was sent. -/
def Confirms : Prop :=
  ∃ handle nowMs confirmation, o.call = .decide handle .confirm nowMs ∧
    o.before.Decides o.env handle .confirm confirmation ∧
    o.outcome.update.outboundFrame = o.before.decisionFrame confirmation ∧
    o.outcome.update.outboundFrame ≠ []

/-- The holder of the handle reported that the decision was written. -/
def ReportsWritten : Prop :=
  ∃ handle nowMs, o.call = .localDecisionWritten handle nowMs ∧ o.before.handleMatches handle = true

/-- The call completed the selection with this context and fetched this exporter for it
from the channel. -/
def Exports (context : PairingContext) (exporter : Bytes) : Prop :=
  .bind context .none ∈ o.outcome.events ∧ o.outcome.attempt.state = .awaitingDecisions ∧
    o.env.exportConfirmation context = some exporter

/-- A decision of the peer arrived that passed the verification as a confirmation. -/
def PeerConfirms (context : PairingContext) : Prop :=
  ∃ encoded nowMs decision verification, o.call = .receiveFrame encoded nowMs ∧
    o.before.Verifies o.env encoded decision context verification ∧
    verification.outcome = .affirmativeConfirm

end PairingObservation

namespace PairingAttempt

section Steps

variable {env : PairingEnvironment} {attempt : PairingAttempt} {cache : ReplayCache}
  {call : PairingCall} {o : Outcome}

/-- What a conclusion says about the commit. -/
theorem Concludes.commits (h : Concludes env attempt cache o)
    (hstate : attempt.state = .awaitingDecisions) :
    (commitsOf o = [] ∧ o.attempt.state ≠ .pairedLocal) ∨
      ∃ answer, commitsOf o = [(attempt.peerCommit, answer)] ∧ attempt.Ready ∧
        o.update.terminal = true ∧ (o.attempt.state = .pairedLocal ↔ answer.isSome = true) := by
  cases h with
  | waits => exact .inl ⟨rfl, by simp [hstate]⟩
  | exhausted => exact .inl ⟨rfl, by simp⟩
  | refused h => exact .inr ⟨none, rfl, h, rfl, by simp⟩
  | paired h => exact .inr ⟨some _, rfl, h, rfl, by simp⟩

/-- A step that asks the repository for a commit. -/
structure Commits (env : PairingEnvironment) (attempt : PairingAttempt) (call : PairingCall)
    (o : Outcome) (answer : Option DeviceId) : Prop where
  commits : commitsOf o = [(attempt.peerCommit, answer)]
  state : attempt.state = .awaitingDecisions
  decided : attempt.localDecision = some .confirm
  terminal : o.update.terminal = true
  paired : o.attempt.state = .pairedLocal ↔ answer.isSome = true
  cause : (∃ handle nowMs, call = .localDecisionWritten handle nowMs ∧
      attempt.handleMatches handle = true ∧ attempt.peerConfirmed = true) ∨
    (attempt.decisionWritten = true ∧
      ∃ encoded nowMs decision context verification, call = .receiveFrame encoded nowMs ∧
        attempt.Verifies env encoded decision context verification ∧
        verification.outcome = .affirmativeConfirm)

/-- The key that a commit asks for does not depend on what the peer has sent since. -/
theorem peerCommit_confirmedByPeer (encoded : Bytes) (nowMs : UInt64) :
    ((attempt.received encoded nowMs).confirmedByPeer nowMs).peerCommit = attempt.peerCommit := by
  simp only [peerCommit, received, confirmedByPeer_options, confirmedByPeer_peerPublicKey,
    counted_options, counted_peerPublicKey, charged_options, charged_peerPublicKey,
    atTime_options, atTime_peerPublicKey]

theorem peerCommit_decisionReported (nowMs : UInt64) :
    ((attempt.atTime nowMs).decisionReported nowMs).peerCommit = attempt.peerCommit := by
  simp only [peerCommit, decisionReported_options, decisionReported_peerPublicKey,
    atTime_options, atTime_peerPublicKey]

/-- A step commits, or it neither asks for a commit nor leads to the paired state. -/
theorem Step.commit_cases (hstep : Step env attempt cache call o) :
    (∃ answer, attempt.Commits env call o answer) ∨
      (commitsOf o = [] ∧ (o.attempt.state = .pairedLocal → attempt.state = .pairedLocal)) := by
  cases hstep with
  | settled | quiet => exact .inr ⟨rfl, id⟩
  | closed | interrupted | rejected | declined => exact .inr ⟨rfl, by simp⟩
  | started _ _ _ hnext | selected _ _ _ _ _ _ _ hnext | completed _ _ _ _ _ _ hnext =>
    subst hnext
    exact .inr ⟨rfl, by simp⟩
  | greeted => exact .inr ⟨rfl, by simp⟩
  | answered _ _ _ _ _ _ _ _ hnext =>
    subst hnext
    exact .inr ⟨rfl, by simp⟩
  | decided _ _ hnext =>
    subst hnext
    exact .inr ⟨rfl, by simp⟩
  | @confirmed encoded nowMs decision context verification hverifies houtcome o hconcludes =>
    have hcommits : commitsOf (o.after (.verify attempt.confirmationExporter decision context
        verification)) = commitsOf o := rfl
    rcases hconcludes.commits (by simpa using hverifies.state) with
      ⟨hnone, hstate⟩ | ⟨answer, hsome, hready, hterminal, hpaired⟩
    · exact .inr ⟨hcommits.trans hnone, fun h => absurd h hstate⟩
    rw [peerCommit_confirmedByPeer] at hsome
    refine .inl ⟨answer, ?_⟩
    exact ⟨hcommits.trans hsome, hverifies.state, by simpa using hready.decided, hterminal,
      hpaired, .inr ⟨by simpa using hready.written, encoded, nowMs, decision, context,
        verification, rfl, hverifies, houtcome⟩⟩
  | @written handle nowMs hhandle hstate hdecision o hconcludes =>
    rcases hconcludes.commits (by simpa using hstate) with
      ⟨hnone, hstate'⟩ | ⟨answer, hsome, hready, hterminal, hpaired⟩
    · exact .inr ⟨hnone, fun h => absurd h hstate'⟩
    rw [peerCommit_decisionReported] at hsome
    refine .inl ⟨answer, ?_⟩
    exact ⟨hsome, hstate, hdecision, hterminal, hpaired,
      .inl ⟨handle, nowMs, rfl, hhandle, by simpa using hready.confirmed⟩⟩

/-- The call as it is recorded. -/
abbrev observed (env : PairingEnvironment) (attempt : PairingAttempt) (cache : ReplayCache)
    (call : PairingCall) (o : Outcome) : PairingObservation :=
  ⟨env, call, attempt, cache, o⟩

/-- What a conclusion leaves of an attempt that it does not end. -/
theorem Concludes.cases (h : Concludes env attempt cache o) :
    (o.attempt = attempt ∧ o.update = attempt.update) ∨
      (∃ state, state.terminal = true ∧ o.attempt = attempt.ended state ∧
        o.update.terminal = true) := by
  cases h with
  | waits => exact .inl ⟨rfl, rfl⟩
  | exhausted | refused => exact .inr ⟨.closed, rfl, rfl, rfl⟩
  | paired => exact .inr ⟨.pairedLocal, rfl, rfl, rfl⟩

/-- The report tells whether the attempt has ended. -/
theorem Step.terminal_eq (hstep : Step env attempt cache call o) :
    o.update.terminal = o.attempt.state.terminal := by
  have hconclusion : ∀ {last : PairingAttempt} {o : Outcome}, Concludes env last cache o →
      o.update.terminal = o.attempt.state.terminal := by
    intro last o h
    rcases h.cases with ⟨hattempt, hupdate⟩ | ⟨state, hstate, hattempt, hupdate⟩
    · rw [hattempt, hupdate, update_terminal]
    · rw [hattempt, hupdate, ended_state, hstate]
  cases hstep with
  | confirmed _ _ hconcludes =>
    rw [Outcome.after_update, Outcome.after_attempt]
    exact hconclusion hconcludes
  | written _ _ _ hconcludes => exact hconclusion hconcludes
  | _ => rfl

/-- An attempt that has ended stays as it is. -/
theorem Step.absorbed (hstep : Step env attempt cache call o)
    (hended : attempt.state.terminal = true) :
    ∃ lastNowMs, o = { attempt with lastNowMs := lastNowMs }.keep cache := by
  have hlive : ∀ {state : PairingState}, attempt.state = state → state.terminal = false → False :=
    fun hstate hfalse => by rw [hstate, hfalse] at hended; cases hended
  cases hstep with
  | settled _ lastNowMs => exact ⟨lastNowMs, rfl⟩
  | quiet h | closed h => cases h.symm.trans hended
  | started hstate => exact (hlive hstate rfl).elim
  | greeted _ hstate => exact (hlive hstate rfl).elim
  | selected _ hstate => exact (hlive hstate rfl).elim
  | answered _ _ hstate => exact (hlive hstate rfl).elim
  | interrupted _ hstate => exact (hlive hstate rfl).elim
  | completed _ hstate => exact (hlive hstate rfl).elim
  | rejected hverifies => exact (hlive hverifies.state rfl).elim
  | confirmed hverifies => exact (hlive hverifies.state rfl).elim
  | declined hdecides => exact (hlive hdecides.state rfl).elim
  | decided hdecides => exact (hlive hdecides.state rfl).elim
  | written _ hstate => exact (hlive hstate rfl).elim

theorem Step.live_before (hstep : Step env attempt cache call o)
    (hlive : o.attempt.state.terminal = false) : attempt.state.terminal = false := by
  by_contra hended
  obtain ⟨lastNowMs, rfl⟩ := hstep.absorbed ((Bool.not_eq_false _).mp hended)
  exact hended hlive

theorem deriveSecrets_exports {context : PairingContext} {indices : List UInt16}
    {exporter : Bytes} (h : deriveSecrets env context = .ok (indices, exporter)) :
    env.exportConfirmation context = some exporter := by
  unfold deriveSecrets at h
  split at h
  · cases h
  split at h
  · cases h
  split at h
  · cases h
  split at h
  · cases h
  split at h
  · cases h
  rename_i hexport
  split at h
  · cases h
  cases h
  exact hexport

/-- Where the flags of an attempt come from. -/
structure Origins (env : PairingEnvironment) (attempt : PairingAttempt) (cache : ReplayCache)
    (call : PairingCall) (o : Outcome) : Prop where
  decided : o.attempt.localDecision = some .confirm →
    attempt.localDecision = some .confirm ∨ (observed env attempt cache call o).Confirms
  written : o.attempt.decisionWritten = true → attempt.decisionWritten = true ∨
    (attempt.localDecision = some .confirm ∧ (observed env attempt cache call o).ReportsWritten)
  exported : ∀ context, o.attempt.context = some context →
    (attempt.context = some context ∧
      o.attempt.confirmationExporter = attempt.confirmationExporter) ∨
    (observed env attempt cache call o).Exports context o.attempt.confirmationExporter
  confirmed : o.attempt.peerConfirmed = true → attempt.peerConfirmed = true ∨
    ∃ context, attempt.context = some context ∧
      (observed env attempt cache call o).PeerConfirms context

/-- An attempt that ends has none of the flags. -/
theorem origins_ended {last : PairingAttempt} {state : PairingState}
    (h : o.attempt = last.ended state) : Origins env attempt cache call o := by
  refine ⟨?_, ?_, ?_, ?_⟩ <;> rw [h] <;> nofun

/-- A step that keeps the flags. -/
theorem origins_same (hdecided : o.attempt.localDecision = attempt.localDecision)
    (hwritten : o.attempt.decisionWritten = attempt.decisionWritten)
    (hcontext : o.attempt.context = attempt.context)
    (hexporter : o.attempt.confirmationExporter = attempt.confirmationExporter)
    (hconfirmed : o.attempt.peerConfirmed = attempt.peerConfirmed) :
    Origins env attempt cache call o where
  decided := fun h => .inl (hdecided ▸ h)
  written := fun h => .inl (hwritten ▸ h)
  exported := fun _ h => .inl ⟨hcontext ▸ h, hexporter⟩
  confirmed := fun h => .inl (hconfirmed ▸ h)

theorem Step.origins (hstep : Step env attempt cache call o) :
    Origins env attempt cache call o := by
  cases hstep with
  | settled | quiet => exact origins_same rfl rfl rfl rfl rfl
  | closed | interrupted | rejected | declined => exact origins_ended rfl
  | started _ _ _ hnext | selected _ _ _ _ _ _ _ hnext | answered _ _ _ _ _ _ _ _ hnext =>
    subst hnext
    exact origins_same (by simp) (by simp) (by simp) (by simp) (by simp)
  | greeted => exact origins_same (by simp) (by simp) (by simp) (by simp) (by simp)
  | completed hcompletes _ _ _ _ hsecrets hnext =>
    subst hnext
    obtain ⟨hdecision, hwritten, hconfirmed⟩ := hcompletes.decisions
    have hexport := deriveSecrets_exports hsecrets
    refine ⟨fun h => .inl ?_, fun h => .inl ?_, fun other h => .inr ?_, fun h => .inl ?_⟩
    · rw [← hdecision]
      simpa using h
    · rw [← hwritten]
      simpa using h
    · cases h
      exact ⟨by simp, rfl, hexport⟩
    rw [← hconfirmed]
    simpa using h
  | @confirmed encoded nowMs decision context verification hverifies houtcome o hconcludes =>
    rcases hconcludes.cases with ⟨hattempt, -⟩ | ⟨state, -, hattempt, -⟩
    · refine ⟨?_, ?_, ?_, fun _ => .inr ⟨context, hverifies.held, encoded, nowMs, decision,
        verification, rfl, hverifies, houtcome⟩⟩
      · rw [Outcome.after_attempt, hattempt]
        exact fun h => .inl (by simpa using h)
      · rw [Outcome.after_attempt, hattempt]
        exact fun h => .inl (by simpa using h)
      rw [Outcome.after_attempt, hattempt]
      exact fun _ h => .inl ⟨by simpa using h, by simp⟩
    · exact origins_ended hattempt
  | @decided handle nowMs confirmation hdecides hne next hnext =>
    subst hnext
    refine ⟨fun _ => .inr ⟨handle, nowMs, confirmation, rfl, hdecides, rfl, hne⟩,
      fun h => .inl (by simpa using h), fun _ h => .inl ⟨by simpa using h, by simp⟩,
      fun h => .inl (by simpa using h)⟩
  | @written handle nowMs hhandle hstate hdecision o hconcludes =>
    rcases hconcludes.cases with ⟨hattempt, -⟩ | ⟨state, -, hattempt, -⟩
    · refine ⟨?_, fun _ => .inr ⟨hdecision, handle, nowMs, rfl, hhandle⟩, ?_, ?_⟩
      · rw [hattempt]
        exact fun h => .inl (by simpa using h)
      · rw [hattempt]
        exact fun _ h => .inl ⟨by simpa using h, by simp⟩
      rw [hattempt]
      exact fun h => .inl (by simpa using h)
    · exact origins_ended hattempt

/-- The channel, the role and the resources of a live attempt are fixed. -/
theorem Step.fixed (hstep : Step env attempt cache call o)
    (hclosed : o.attempt.state.terminal = false) :
    o.attempt.peerPublicKey = attempt.peerPublicKey ∧ o.attempt.options = attempt.options ∧
      o.attempt.localRole = attempt.localRole ∧ o.attempt.localKey = attempt.localKey ∧
      o.attempt.handle = attempt.handle ∧ o.attempt.localNonce = attempt.localNonce ∧
      o.attempt.replayReservation = attempt.replayReservation := by
  have hconclusion : ∀ {last : PairingAttempt} {o : Outcome}, Concludes env last cache o →
      o.attempt.state.terminal = false → o.attempt = last := by
    intro last o h hlive
    cases h with
    | waits => rfl
    | exhausted | refused | paired => cases hlive
  cases hstep with
  | settled | quiet => exact ⟨rfl, rfl, rfl, rfl, rfl, rfl, rfl⟩
  | closed | interrupted | rejected | declined => cases hclosed
  | started _ _ _ hnext | selected _ _ _ _ _ _ _ hnext | answered _ _ _ _ _ _ _ _ hnext
  | decided _ _ hnext =>
    subst hnext
    exact ⟨by simp, by simp, by simp, by simp, by simp, by simp, by simp⟩
  | greeted => exact ⟨by simp, by simp, by simp, by simp, by simp, by simp, by simp⟩
  | completed hcompletes _ _ _ _ _ hnext =>
    subst hnext
    cases hcompletes <;>
      exact ⟨by simp, by simp, by simp, by simp, by simp, by simp, by simp⟩
  | confirmed _ _ hconcludes =>
    have heq := hconclusion hconcludes hclosed
    simp only [Outcome.after_attempt, heq]
    exact ⟨by simp, by simp, by simp, by simp, by simp, by simp, by simp⟩
  | written _ _ _ hconcludes =>
    have heq := hconclusion hconcludes hclosed
    rw [heq]
    exact ⟨by simp, by simp, by simp, by simp, by simp, by simp, by simp⟩

end Steps

end PairingAttempt

/-! ### Runs -/

namespace PairingSession

/-- All commits that the session asked of the repository. -/
def commits (s : PairingSession) : List (PeerCommit × Option DeviceId) :=
  s.history.flatMap fun o => commitsOf o.outcome

/-- The session has reported its end. -/
def Reported (history : List PairingObservation) : Prop :=
  ∃ o ∈ history, o.outcome.update.terminal = true

/-- The confirmations on both sides that a commit needs. -/
structure MutuallyConfirmed (history : List PairingObservation) : Prop where
  confirmed : ∃ decided written : PairingObservation, [decided, written].Sublist history ∧
    decided.Confirms ∧ written.ReportsWritten
  peerConfirmed : ∃ exported verified : PairingObservation, ∃ context,
    [exported, verified].Sublist history ∧
      exported.Exports context verified.before.confirmationExporter ∧
      verified.PeerConfirms context

/-- What the history says about an attempt. -/
structure Accounted (peerKey : PublicKey) (s : PairingSession) : Prop where
  sound : s.attempt.Sound
  peer : s.attempt.state.terminal = false → s.attempt.peerPublicKey = peerKey
  reported : Reported s.history ↔ s.attempt.state.terminal = true
  decided : s.attempt.localDecision = some .confirm → ∃ o ∈ s.history, o.Confirms
  written : s.attempt.decisionWritten = true →
    ∃ decided written : PairingObservation, [decided, written].Sublist s.history ∧
      decided.Confirms ∧ written.ReportsWritten
  exported : ∀ context, s.attempt.context = some context →
    ∃ o ∈ s.history, o.Exports context s.attempt.confirmationExporter
  confirmed : s.attempt.peerConfirmed = true →
    ∃ exported verified : PairingObservation, ∃ context,
      [exported, verified].Sublist s.history ∧
        exported.Exports context verified.before.confirmationExporter ∧
        verified.PeerConfirms context
  uncommitted : s.attempt.state.terminal = false → s.commits = []
  once : s.commits.length ≤ 1
  paired : s.attempt.state = .pairedLocal ↔
    ∃ request peerDeviceId, (request, some peerDeviceId) ∈ s.commits

/-- Trust is committed after mutual confirmation. -/
structure Trustworthy (peerKey : PublicKey) (s : PairingSession) : Prop where
  once : s.commits.length ≤ 1
  justified : Along (fun before o => ∀ request answer,
    .commitPeer request answer ∈ o.outcome.events →
      request.publicKey = peerKey ∧ MutuallyConfirmed (before ++ [o])) s.history
  silent : Along (fun before o => Reported before → ∀ request answer,
    .commitPeer request answer ∉ o.outcome.events) s.history
  paired : s.attempt.state = .pairedLocal ↔
    ∃ o ∈ s.history, ∃ request peerDeviceId,
      .commitPeer request (some peerDeviceId) ∈ o.outcome.events

section Run

variable {peerKey : PublicKey} {s : PairingSession} {env : PairingEnvironment}
  {call : PairingCall} {o : Outcome}

theorem commits_record : (s.record env call o).commits = s.commits ++ commitsOf o := by
  simp [commits]

theorem reported_record :
    Reported (s.record env call o).history ↔ Reported s.history ∨ o.update.terminal = true := by
  simp [Reported, or_and_right, exists_or]

/-- Every step keeps the account. -/
theorem Accounted.step (h : s.Accounted peerKey)
    (hstep : PairingAttempt.Step env s.attempt s.cache call o) :
    (s.record env call o).Accounted peerKey := by
  have horigins := hstep.origins
  have hgrows : s.history.Sublist (s.record env call o).history :=
    List.sublist_append_left _ _
  have hlast : PairingAttempt.observed env s.attempt s.cache call o ∈
      (s.record env call o).history := by simp [PairingAttempt.observed]
  have hterminal := hstep.terminal_eq
  have habsorbed : s.attempt.state.terminal = true → o.attempt.state = s.attempt.state ∧
      commitsOf o = [] := by
    intro hended
    obtain ⟨lastNowMs, rfl⟩ := hstep.absorbed hended
    exact ⟨rfl, rfl⟩
  refine ⟨h.sound.step hstep, ?_, ?_, ?_, ?_, ?_, ?_, ?_, ?_, ?_⟩
  · intro hlive
    rw [record_attempt, (hstep.fixed hlive).1]
    exact h.peer (hstep.live_before hlive)
  · rw [reported_record, h.reported, hterminal, record_attempt]
    exact ⟨fun hor => hor.elim (fun hended => (habsorbed hended).1 ▸ hended) id, .inr⟩
  · intro hdecided
    rcases horigins.decided hdecided with hbefore | hnow
    · obtain ⟨earlier, hmem, hconfirms⟩ := h.decided hbefore
      exact ⟨earlier, hgrows.mem hmem, hconfirms⟩
    · exact ⟨_, hlast, hnow⟩
  · intro hwritten
    rcases horigins.written hwritten with hbefore | ⟨hdecided, hnow⟩
    · obtain ⟨decided, written, hsublist, hrest⟩ := h.written hbefore
      exact ⟨decided, written, hsublist.trans hgrows, hrest⟩
    obtain ⟨decided, hmem, hconfirms⟩ := h.decided hdecided
    exact ⟨decided, _, pair_sublist_concat hmem, hconfirms, hnow⟩
  · intro context hcontext
    rcases horigins.exported context hcontext with ⟨hbefore, hexporter⟩ | hnow
    · obtain ⟨earlier, hmem, hexports⟩ := h.exported context hbefore
      exact ⟨earlier, hgrows.mem hmem, hexporter ▸ hexports⟩
    · exact ⟨_, hlast, hnow⟩
  · intro hconfirmed
    rcases horigins.confirmed hconfirmed with hbefore | ⟨context, hcontext, hnow⟩
    · obtain ⟨exported, verified, context, hsublist, hrest⟩ := h.confirmed hbefore
      exact ⟨exported, verified, context, hsublist.trans hgrows, hrest⟩
    obtain ⟨exported, hmem, hexports⟩ := h.exported context hcontext
    exact ⟨exported, _, context, pair_sublist_concat hmem, hexports, hnow⟩
  · intro hlive
    rw [commits_record, h.uncommitted (hstep.live_before hlive), List.nil_append]
    rcases hstep.commit_cases with ⟨answer, hcommits⟩ | ⟨hnone, -⟩
    · rw [record_attempt, ← hterminal, hcommits.terminal] at hlive
      cases hlive
    · exact hnone
  · rw [commits_record]
    rcases hstep.commit_cases with ⟨answer, hcommits⟩ | ⟨hnone, -⟩
    · rw [h.uncommitted (hcommits.state ▸ rfl), hcommits.commits]
      exact le_rfl
    rw [hnone, List.append_nil]
    exact h.once
  rw [commits_record, record_attempt]
  rcases hstep.commit_cases with ⟨answer, hcommits⟩ | ⟨hnone, hstate⟩
  · rw [h.uncommitted (hcommits.state ▸ rfl), hcommits.commits, hcommits.paired]
    cases answer <;> simp
  rw [hnone, List.append_nil, ← h.paired]
  refine ⟨hstate, fun hpaired => ?_⟩
  rw [(habsorbed (hpaired ▸ rfl)).1]
  exact hpaired

/-- A commit in a step is justified by the history. -/
theorem Accounted.justified (h : s.Accounted peerKey)
    (hstep : PairingAttempt.Step env s.attempt s.cache call o) {request : PeerCommit}
    {answer : Option DeviceId} (hcommit : .commitPeer request answer ∈ o.events) :
    s.attempt.state.terminal = false ∧ request.publicKey = peerKey ∧
      MutuallyConfirmed (s.record env call o).history := by
  have hgrows : s.history.Sublist (s.record env call o).history :=
    List.sublist_append_left _ _
  rcases hstep.commit_cases with ⟨answer', hcommits⟩ | ⟨hnone, -⟩
  · have hmem := mem_commitsOf.mpr hcommit
    rw [hcommits.commits, List.mem_singleton] at hmem
    cases hmem
    have hlive : s.attempt.state.terminal = false := hcommits.state ▸ rfl
    refine ⟨hlive, h.peer hlive, ?_⟩
    rcases hcommits.cause with ⟨handle, nowMs, rfl, hhandle, hconfirmed⟩ |
      ⟨hwritten, encoded, nowMs, decision, context, verification, rfl, hverifies, houtcome⟩
    · obtain ⟨decided, hmem, hconfirms⟩ := h.decided hcommits.decided
      obtain ⟨exported, verified, context, hsublist, hrest⟩ := h.confirmed hconfirmed
      exact ⟨⟨decided, _, pair_sublist_concat hmem, hconfirms, handle, nowMs, rfl, hhandle⟩,
        exported, verified, context, hsublist.trans hgrows, hrest⟩
    obtain ⟨decided, written, hsublist, hrest⟩ := h.written hwritten
    obtain ⟨exported, hmem, hexports⟩ := h.exported context hverifies.held
    exact ⟨⟨decided, written, hsublist.trans hgrows, hrest⟩, exported, _, context,
      pair_sublist_concat hmem, hexports, encoded, nowMs, decision, verification, rfl, hverifies,
      houtcome⟩
  rw [← mem_commitsOf, hnone] at hcommit
  cases hcommit

/-- The contract of one more call. -/
theorem Trustworthy.step (h : s.Trustworthy peerKey) (haccounted : s.Accounted peerKey)
    (hstep : PairingAttempt.Step env s.attempt s.cache call o) :
    (s.record env call o).Trustworthy peerKey := by
  have hnext := haccounted.step hstep
  refine ⟨hnext.once, along_concat.mpr ⟨h.justified, ?_⟩, along_concat.mpr ⟨h.silent, ?_⟩, ?_⟩
  · intro request answer hcommit
    exact (haccounted.justified hstep hcommit).2
  · intro hreported request answer hcommit
    have hlive := (haccounted.justified hstep hcommit).1
    rw [haccounted.reported.mp hreported] at hlive
    cases hlive
  rw [hnext.paired]
  simp only [commits, List.mem_flatMap, mem_commitsOf]
  constructor
  · rintro ⟨request, peerDeviceId, last, hmem, hcommit⟩
    exact ⟨last, hmem, request, peerDeviceId, hcommit⟩
  rintro ⟨last, hmem, request, peerDeviceId, hcommit⟩
  exact ⟨request, peerDeviceId, last, hmem, hcommit⟩

theorem accounted_new {channel : Option PublicKey} {admission : Option AdmissionLease}
    {options : PairingAttemptOptions} {attempt : PairingAttempt} {cache : ReplayCache}
    (h : attempt.Created channel admission options cache) :
    Accounted attempt.peerPublicKey ⟨attempt, cache, []⟩ := by
  have hsound := h.sound
  obtain ⟨lease, handle, nonce, localKey, reservationId, -, -, hattempt⟩ := h.fields
  have hstate : attempt.state = .pairingTls := by rw [hattempt]
  obtain ⟨hdecision, hwritten, hconfirmed, hcontext⟩ := hsound.early (by rw [hstate]; decide)
  refine ⟨hsound, fun _ => rfl, ?_, ?_, ?_, ?_, ?_, fun _ => rfl, Nat.zero_le 1, ?_⟩
  · simp [Reported, hstate, PairingState.terminal]
  · simp [hdecision]
  · simp [hwritten]
  · simp [hcontext]
  · simp [hconfirmed]
  · simp [commits, hstate]

end Run

/-- Trust is committed after mutual authenticated confirmation, in every run of an attempt. -/
theorem run_trustworthy {env : CreationEnvironment} {peerKey : PublicKey}
    {admission : Option AdmissionLease} {options : PairingAttemptOptions}
    {cache next : ReplayCache} {update : PairingUpdate} {attempt : PairingAttempt}
    (hcreate : PairingAttempt.create env (some peerKey) admission options cache =
      (update, some attempt, next)) (actions : List PairingAction) :
    (Runs.run act ⟨attempt, next, []⟩ actions).Trustworthy peerKey := by
  have hcreated := PairingAttempt.created_of_create hcreate
  have hpeer : attempt.peerPublicKey = peerKey := (Option.some.inj hcreated.channel).symm
  have haccounted := accounted_new hcreated
  rw [hpeer] at haccounted
  have hnew : Trustworthy peerKey ⟨attempt, next, []⟩ :=
    ⟨haccounted.once, along_nil _, along_nil _, haccounted.paired.trans (by simp [commits])⟩
  refine (Runs.run_invariant_all (P := fun s => Accounted peerKey s ∧ Trustworthy peerKey s)
    (fun s action h => ?_) ⟨haccounted, hnew⟩ actions).2
  cases action with
  | call env call =>
    have hstep := PairingAttempt.step_of_call env s.attempt s.cache call
    exact ⟨h.1.step hstep, h.2.step h.1 hstep⟩
  | interfere operation => exact ⟨{ h.1 with }, { h.2 with }⟩

theorem run_trustworthy_plain :
    (Runs.run act ⟨plainAttempt .initiator, plainCache .initiator, []⟩
      plainPairingActions).attempt.state = .pairedLocal ∧
    (Runs.run act ⟨plainAttempt .initiator, plainCache .initiator, []⟩
      plainPairingActions).Trustworthy (plainKey .responder) :=
  ⟨by decide +kernel, run_trustworthy (create_plainAttempt .initiator) plainPairingActions⟩

end PairingSession

end XnnTransfer.Pairing
