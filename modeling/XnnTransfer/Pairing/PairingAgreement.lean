import XnnTransfer.Pairing.NegotiationObject
import XnnTransfer.Pairing.Trust

/-!
# Agreement of the two ends of a pairing

Two attempts, one for each role, run in front of a network that delivers what it
likes. When one of them accepts a decision of its peer, the other has completed
the selection with the same nonces, keys, offers and selection, and has issued
that decision. This rests on two assumptions about the run: the digests of the
contexts that were built do not collide, and a confirmation that passes the
verification was authenticated by one of the two ends.
-/

namespace XnnTransfer.Pairing

open Protocol Security Histories

/-- What the two ends have to agree on. -/
structure PairingInputs where
  initiatorNonce : Nonce256
  responderNonce : Nonce256
  initiatorKey : PublicKey
  responderKey : PublicKey
  initiatorOffer : NegotiationOffer
  responderOffer : NegotiationOffer
  selection : Selection

/-- `BuildNormalizedNegotiation` followed by `BuildPairingContext`. -/
def PairingInputs.encode (prims : Primitives) (inputs : PairingInputs) :
    Except SecurityError PairingContext :=
  match buildNormalizedNegotiation prims inputs.initiatorOffer inputs.responderOffer
      inputs.selection with
  | .error error => .error error
  | .ok negotiation => buildPairingContext prims ⟨inputs.initiatorNonce, inputs.responderNonce,
      inputs.initiatorKey, inputs.responderKey, negotiation⟩

/-- The encoding determines the inputs. -/
theorem PairingInputs.encode_injective {prims prims' : Primitives} {inputs inputs' : PairingInputs}
    {context context' : PairingContext} (h : inputs.encode prims = .ok context)
    (h' : inputs'.encode prims' = .ok context') (hencoded : context.encoded = context'.encoded) :
    inputs = inputs' := by
  unfold encode at h h'
  split at h
  · cases h
  rename_i negotiation hnegotiation
  split at h'
  · cases h'
  rename_i negotiation' hnegotiation'
  have hinput := buildPairingContext_injective h h' hencoded
  simp only [PairingContextInput.mk.injEq] at hinput
  obtain ⟨hnonce, hnonce', hkey, hkey', rfl⟩ := hinput
  obtain ⟨hbody, -, rfl⟩ := buildNormalizedNegotiation_eq_ok_iff.mp hnegotiation
  obtain ⟨hbody', -, hlayout⟩ := buildNormalizedNegotiation_eq_ok_iff.mp hnegotiation'
  have hfields := encodeLayout_injective (negotiationFields_follows _ _ _)
    (negotiationFields_follows _ _ _) hbody hbody' (NormalizedNegotiation.mk.inj hlayout)
  obtain ⟨hoffer, hoffer', hselection⟩ := negotiationFields_injective hfields
  cases inputs
  cases inputs'
  simp only [PairingInputs.mk.injEq]
  exact ⟨hnonce, hnonce', hkey, hkey', hoffer, hoffer', hselection⟩

/-- The inputs with which an attempt would complete the selection. -/
def PairingAttempt.inputs (attempt : PairingAttempt) : Option PairingInputs :=
  match attempt.hellos, attempt.selection with
  | some (initiator, responder), some selection =>
    some ⟨initiator.nonce, responder.nonce, initiator.key, responder.key, initiator.offer,
      responder.offer, selection⟩
  | _, _ => none

/-- The call completed the selection with these inputs. -/
structure PairingObservation.Completes (o : PairingObservation) (inputs : PairingInputs)
    (context : PairingContext) : Prop where
  known : o.before.inputs = some inputs
  encoded : inputs.encode o.env.prims = .ok context
  bound : .bind context .none ∈ o.outcome.events
  state : o.outcome.attempt.state = .awaitingDecisions

namespace PairingAttempt

section Steps

variable {env : PairingEnvironment} {attempt : PairingAttempt} {cache : ReplayCache}
  {call : PairingCall} {o : Outcome}

/-- What is behind an event. -/
inductive Causes (env : PairingEnvironment) (attempt : PairingAttempt) (call : PairingCall) :
    PairingEvent → Prop
  | bind {last : PairingAttempt} {nowMs : UInt64} (hcompletes : Completes env attempt call last nowMs)
      {context : PairingContext} (hcontext : last.buildContext env.unbounded = .ok context)
      (error : PairingError) : Causes env attempt call (.bind context error)
  | issue {handle : AttemptHandle} {decision : ConfirmationDecision} {nowMs : UInt64}
      (hcall : call = .decide handle decision nowMs) {confirmation : ConfirmationValue}
      (hdecides : Decides env attempt handle decision confirmation) :
      Causes env attempt call (.issue attempt.confirmationExporter confirmation)
  | verify {encoded : Bytes} {nowMs : UInt64} (hcall : call = .receiveFrame encoded nowMs)
      {decision : Decision} {context : PairingContext} {verification : ConfirmationVerification}
      (hverifies : Verifies env attempt encoded decision context verification) :
      Causes env attempt call (.verify attempt.confirmationExporter decision context verification)
  | commitPeer (request : PeerCommit) (answer : Option DeviceId) :
      Causes env attempt call (.commitPeer request answer)

variable {context : PairingContext}

variable {exporter : Bytes} {last : PairingAttempt} {event : PairingEvent}

theorem Concludes.causes (h : Concludes env last cache o) (hevent : event ∈ o.events) :
    Causes env attempt call event := by
  cases h with
  | waits | exhausted => cases hevent
  | refused | paired =>
    rw [List.mem_singleton.mp hevent]
    exact .commitPeer _ _

theorem Step.causes (hstep : Step env attempt cache call o) (hevent : event ∈ o.events) :
    Causes env attempt call event := by
  cases hstep with
  | settled | quiet | closed | started | greeted | selected | answered => cases hevent
  | interrupted hcompletes _ hcontext | completed hcompletes _ hcontext =>
    rw [List.mem_singleton.mp hevent]
    exact .bind hcompletes hcontext _
  | rejected hverifies =>
    rw [List.mem_singleton.mp hevent]
    exact .verify rfl hverifies
  | confirmed hverifies _ hconcludes =>
    rcases List.mem_cons.mp hevent with rfl | hlater
    · exact .verify rfl hverifies
    · exact hconcludes.causes hlater
  | declined hdecides | decided hdecides =>
    rw [List.mem_singleton.mp hevent]
    exact .issue rfl hdecides
  | written _ _ _ hconcludes => exact hconcludes.causes hevent

/-- A context that could be built encodes the inputs of the attempt. -/
theorem buildContext_ok (h : attempt.buildContext env = .ok context) :
    ∃ inputs, attempt.inputs = some inputs ∧ inputs.encode env.prims = .ok context := by
  unfold buildContext at h
  split at h
  next initiator responder selection hhellos hselection =>
    split at h
    · cases h
    split at h
    · cases h
    rename_i negotiation hnegotiation
    split at h
    · cases h
    rename_i hcontext
    cases h
    refine ⟨_, by rw [inputs, hhellos, hselection], ?_⟩
    simp only [PairingInputs.encode, hnegotiation, hcontext]
  · cases h

theorem Completes.inputs {nowMs : UInt64} (h : Completes env attempt call last nowMs) :
    last.inputs = attempt.inputs := by
  cases h <;> simp [PairingAttempt.inputs, hellos]

/-- An attempt holds a context because it held it before or because it completes the
selection. -/
theorem Step.context_cases (hstep : Step env attempt cache call o)
    (h : o.attempt.context = some context) :
    attempt.context = some context ∨
      ∃ inputs, (observed env attempt cache call o).Completes inputs context := by
  rcases hstep.origins.exported context h with ⟨hbefore, -⟩ | ⟨hbind, hstate, -⟩
  · exact .inl hbefore
  right
  obtain ⟨hcompletes, hcontext⟩ := hstep.causes hbind
  obtain ⟨inputs, hinputs, hencoded⟩ := buildContext_ok hcontext
  rw [hcompletes.inputs] at hinputs
  exact ⟨inputs, hinputs, hencoded, hbind, hstate⟩

end Steps

end PairingAttempt

/-! ### Two attempts -/

/-- An attempt for each role, and the calls of both in the order in which they happened. -/
structure PairingDuo where
  sessions : Role → PairingSession
  log : List (Role × PairingObservation) := []

namespace PairingDuo

/-- The two attempts with which a pairing begins. -/
def new (attempts : Role → PairingAttempt) (caches : Role → ReplayCache) : PairingDuo where
  sessions := fun role => ⟨attempts role, caches role, []⟩

/-- The two attempts after a call of one of them. -/
def record (duo : PairingDuo) (role : Role) (env : PairingEnvironment) (call : PairingCall)
    (o : Outcome) : PairingDuo where
  sessions := Function.update duo.sessions role ((duo.sessions role).record env call o)
  log := duo.log ++ [(role, ⟨env, call, (duo.sessions role).attempt, (duo.sessions role).cache, o⟩)]

def act (duo : PairingDuo) : Role × PairingAction → PairingDuo
  | (role, .call env call) => duo.record role env call
      ((duo.sessions role).attempt.call env (duo.sessions role).cache call)
  | (role, .interfere operation) =>
    ⟨Function.update duo.sessions role ((duo.sessions role).act (.interfere operation)), duo.log⟩

section Record

variable (duo : PairingDuo) (role : Role) (env : PairingEnvironment) (call : PairingCall)
  (o : Outcome)

@[simp] theorem record_same : ((duo.record role env call o).sessions role).attempt = o.attempt := by
  simp [record]

theorem record_other {other : Role} (h : other ≠ role) :
    (duo.record role env call o).sessions other = duo.sessions other :=
  Function.update_of_ne h _ _

end Record

end PairingDuo

/-- The context that an event shows. -/
def PairingEvent.producedContext : PairingEvent → Option PairingContext
  | .bind context _ => some context
  | _ => none

variable (log : List (Role × PairingObservation))

/-- The contexts that were built. -/
def producedContexts : List PairingContext :=
  log.flatMap fun entry => entry.2.outcome.events.filterMap PairingEvent.producedContext

/-- The hash does not collide on the encodings of the contexts. -/
def Collisionless : Prop :=
  ∀ context ∈ producedContexts log, ∀ context' ∈ producedContexts log,
    context.digest = context'.digest → context.encoded = context'.encoded

/-- The event is the authentication of the message under the exporter. -/
def PairingEvent.Authenticates (confirmationExporter : Bytes) (message : Octets 34) :
    PairingEvent → Prop
  | .issue exporter confirmation =>
    exporter = confirmationExporter ∧ confirmation.message = message
  | _ => False

instance (confirmationExporter : Bytes) (message : Octets 34) (event : PairingEvent) :
    Decidable (event.Authenticates confirmationExporter message) :=
  match event with
  | .issue _ _ => inferInstanceAs (Decidable (_ ∧ _))
  | .bind _ _ | .verify _ _ _ _ | .commitPeer _ _ => isFalse id

/-- A message that an end has verified was authenticated by an end before. -/
def PairingEvent.Backed (before : List (Role × PairingObservation)) : PairingEvent → Prop
  | .verify exporter decision _ _ => ∃ entry ∈ before, ∃ event ∈ entry.2.outcome.events,
      event.Authenticates exporter decision.message
  | _ => True

instance (before : List (Role × PairingObservation)) (event : PairingEvent) :
    Decidable (event.Backed before) :=
  match event with
  | .verify _ _ _ _ => inferInstanceAs (Decidable (∃ entry ∈ before, _))
  | .bind _ _ | .issue _ _ | .commitPeer _ _ => isTrue trivial

/-- Confirmations cannot be forged. -/
def Unforged : Prop :=
  Along (fun before entry => ∀ event ∈ entry.2.outcome.events, event.Backed before) log

/-! ### Agreement -/

/-- The call issued the decision of the role for the context. -/
def PairingObservation.Issues (o : PairingObservation) (role : Role) (context : PairingContext)
    (decision : ConfirmationDecision) : Prop :=
  ∃ handle nowMs exporter confirmation code, o.call = .decide handle decision nowMs ∧
    .issue exporter confirmation ∈ o.outcome.events ∧ decision.code? = some code ∧
      confirmation.message = confirmationMessage context.digest role code

/-- The two ends have completed the selection with the same inputs, and the other one has
issued the decision afterwards. -/
def Agrees (before : List (Role × PairingObservation)) (role : Role) (context : PairingContext)
    (decision : ConfirmationDecision) : Prop :=
  ∃ inputs, (∃ own, (role, own) ∈ before ∧ own.Completes inputs context) ∧
    ∃ peer issued peerContext,
      [(role.opposite, peer), (role.opposite, issued)].Sublist before ∧
        peer.Completes inputs peerContext ∧ issued.Issues role.opposite context decision

/-- What an observation says about the ones before it. -/
structure Justified (before : List (Role × PairingObservation)) (entry : Role × PairingObservation) :
    Prop where
  completed : ∀ context, entry.2.before.context = some context →
    ∃ own inputs, (entry.1, own) ∈ before ∧ own.Completes inputs context
  issued : ∀ exporter confirmation, .issue exporter confirmation ∈ entry.2.outcome.events →
    ∃ context decision, entry.2.before.context = some context ∧
      ∃ handle nowMs code, entry.2.call = .decide handle decision nowMs ∧
        decision.code? = some code ∧
        confirmation.message = confirmationMessage context.digest entry.1 code
  verified : ∀ exporter decision context verification,
    .verify exporter decision context verification ∈ entry.2.outcome.events →
      entry.2.before.context = some context ∧ ∃ code, verification.decision.code? = some code ∧
        decision.message = confirmationMessage context.digest entry.1.opposite code

section Agreement

variable {log before : List (Role × PairingObservation)} {role : Role} {o : PairingObservation}

theorem mem_producedContexts {context : PairingContext} {error : PairingError}
    (hmem : (role, o) ∈ log) (hbind : .bind context error ∈ o.outcome.events) :
    context ∈ producedContexts log :=
  List.mem_flatMap.mpr ⟨_, hmem, List.mem_filterMap.mpr ⟨_, hbind, rfl⟩⟩

/-- A decision that an end has verified is what the other one has issued. -/
theorem Justified.agrees (hjustified : Along Justified log) (hhash : Collisionless log)
    (hmac : Unforged log) (hlog : before ++ [(role, o)] <+: log) {exporter : Bytes}
    {decision : Decision} {context : PairingContext} {verification : ConfirmationVerification}
    (hverify : .verify exporter decision context verification ∈ o.outcome.events) :
    Agrees before role context verification.decision := by
  have hentry := hjustified before (role, o) hlog
  obtain ⟨hcontext, code, hcode, hmessage⟩ := hentry.verified _ _ _ _ hverify
  obtain ⟨own, inputs, hown, howns⟩ := hentry.completed context hcontext
  obtain ⟨⟨peerRole, issued⟩, hissued, event, hevent, hauthenticates⟩ :=
    hmac before (role, o) hlog _ hverify
  cases event with
  | bind | verify | commitPeer => cases hauthenticates
  | issue exporter' confirmation =>
    obtain ⟨earlier, later, rfl⟩ := List.append_of_mem hissued
    have hearlier : earlier ++ [(peerRole, issued)] <+: log :=
      List.IsPrefix.trans ⟨later ++ [(role, o)], by simp⟩ hlog
    have hpeer := hjustified earlier (peerRole, issued) hearlier
    obtain ⟨peerContext, peerDecision, hpeerContext, handle, nowMs, code', hcall, hcode',
      hmessage'⟩ := hpeer.issued _ _ hevent
    obtain ⟨hdigest, hrole, hcodes⟩ := confirmationMessage_injective
      (hmessage'.symm.trans (hauthenticates.2.trans hmessage))
    obtain ⟨peer, peerInputs, hpeerMem, hpeers⟩ := hpeer.completed peerContext hpeerContext
    have hdecision : peerDecision = verification.decision := by
      rw [hcodes] at hcode'
      exact (ConfirmationDecision.code?_eq_some_iff.mp hcode').1.trans
        (ConfirmationDecision.code?_eq_some_iff.mp hcode).1.symm
    have hmem (entry : Role × PairingObservation) (h : entry ∈ earlier) : entry ∈ log :=
      hearlier.subset (List.mem_append_left _ h)
    have hencoded : context.encoded = peerContext.encoded :=
      hhash context (mem_producedContexts (hlog.subset (List.mem_append_left _ hown)) howns.bound)
        peerContext (mem_producedContexts (hmem _ hpeerMem) hpeers.bound) hdigest.symm
    have hinputs := PairingInputs.encode_injective howns.encoded hpeers.encoded hencoded
    subst hrole hinputs hdecision
    refine ⟨inputs, ⟨own, hown, howns⟩, peer, issued, peerContext, ?_, hpeers, ?_⟩
    · rw [List.append_cons]
      exact (pair_sublist_concat hpeerMem).trans (List.sublist_append_left _ _)
    exact ⟨handle, nowMs, exporter', confirmation, code', hcall, hevent, hcode',
      hdigest ▸ hmessage'⟩

end Agreement

namespace PairingDuo

/-- The invariant of two attempts. -/
structure Known (duo : PairingDuo) : Prop where
  sound : ∀ role, (duo.sessions role).attempt.Sound
  roles : ∀ role, (duo.sessions role).attempt.state.terminal = false →
    (duo.sessions role).attempt.localRole = role
  completed : ∀ role context, (duo.sessions role).attempt.context = some context →
    ∃ own inputs, (role, own) ∈ duo.log ∧ own.Completes inputs context
  justified : Along Justified duo.log

section Run

variable {duo : PairingDuo} {role : Role} {env : PairingEnvironment} {call : PairingCall}
  {o : Outcome}

/-- What a step of one end says about the log. -/
theorem Known.justifies (h : duo.Known)
    (hstep : PairingAttempt.Step env (duo.sessions role).attempt (duo.sessions role).cache call o) :
    Justified duo.log (role, ⟨env, call, (duo.sessions role).attempt, (duo.sessions role).cache, o⟩) := by
  have hrole (hstate : (duo.sessions role).attempt.state = .awaitingDecisions) :
      (duo.sessions role).attempt.localRole = role :=
    h.roles role (hstate ▸ rfl)
  refine ⟨fun context => h.completed role context, fun exporter confirmation hissue => ?_,
    fun exporter decision context verification hverify => ?_⟩
  · obtain _ | ⟨hcall, hdecides⟩ := hstep.causes hissue
    obtain ⟨context, hcontext, hbuilt⟩ := hdecides.built
    obtain ⟨code, hcode, hmessage, -⟩ := buildConfirmation_eq_ok_iff.mp hbuilt
    rw [hrole hdecides.state] at hmessage
    exact ⟨context, _, hcontext, _, _, code, hcall, hcode, hmessage⟩
  obtain _ | _ | ⟨-, hverifies⟩ := hstep.causes hverify
  obtain ⟨decided, value, hbuilt, hvalue, -, rfl⟩ :=
    verifyConfirmation_eq_ok_iff.mp hverifies.verified
  obtain ⟨code, hcode, hmessage, -⟩ := buildConfirmation_eq_ok_iff.mp hbuilt
  rw [hrole hverifies.state] at hmessage
  refine ⟨hverifies.held, code, ?_, (Subtype.ext hvalue).symm.trans hmessage⟩
  rw [verificationOf_decision]
  exact hcode

/-- Every call of one end keeps the invariant. -/
theorem Known.step (h : duo.Known)
    (hstep : PairingAttempt.Step env (duo.sessions role).attempt (duo.sessions role).cache call o) :
    (duo.record role env call o).Known := by
  refine ⟨fun other => ?_, fun other => ?_, fun other context hcontext => ?_,
    along_concat.mpr ⟨h.justified, h.justifies hstep⟩⟩
  · by_cases hrole : other = role
    · rw [hrole, record_same]
      exact (h.sound role).step hstep
    rw [record_other _ _ _ _ _ hrole]
    exact h.sound other
  · by_cases hrole : other = role
    · rw [hrole, record_same]
      intro hlive
      rw [(hstep.fixed hlive).2.2.1]
      exact h.roles role (hstep.live_before hlive)
    rw [record_other _ _ _ _ _ hrole]
    exact h.roles other
  have hold (hbefore : (duo.sessions other).attempt.context = some context) :
      ∃ own inputs, (other, own) ∈ (duo.record role env call o).log ∧
        own.Completes inputs context := by
    obtain ⟨own, inputs, hmem, hcompletes⟩ := h.completed other context hbefore
    exact ⟨own, inputs, List.mem_append_left _ hmem, hcompletes⟩
  by_cases hrole : other = role
  · subst hrole
    rw [record_same] at hcontext
    rcases hstep.context_cases hcontext with hbefore | ⟨inputs, hcompletes⟩
    · exact hold hbefore
    · exact ⟨_, inputs, List.mem_append_right _ (List.mem_singleton_self _), hcompletes⟩
  rw [record_other _ _ _ _ _ hrole] at hcontext
  exact hold hcontext

/-- What others do to a cache does not matter. -/
theorem Known.interfere (h : duo.Known) (operation : ReplayOperation) :
    (duo.act (role, .interfere operation)).Known := by
  have hsame (other : Role) :
      ((duo.act (role, .interfere operation)).sessions other).attempt =
        (duo.sessions other).attempt := by
    by_cases hrole : other = role
    · subst hrole
      simp [act, PairingSession.act]
    · simp [act, hrole]
  refine ⟨fun other => ?_, fun other => ?_, fun other context => ?_, h.justified⟩
  · rw [hsame]
    exact h.sound other
  · rw [hsame]
    exact h.roles other
  rw [hsame]
  exact h.completed other context

theorem Known.act (h : duo.Known) (action : Role × PairingAction) : (duo.act action).Known := by
  obtain ⟨role, action⟩ := action
  cases action with
  | call env call => exact h.step (PairingAttempt.step_of_call env _ _ call)
  | interfere operation => exact h.interfere operation

end Run

end PairingDuo

/-- The encoding of a pairing determines its inputs, and in every run of two attempts an end
that accepts a decision agrees with its peer. -/
theorem pairing_agreement {envs : Role → CreationEnvironment} {channels : Role → Option PublicKey}
    {admissions : Role → Option AdmissionLease} {options : Role → PairingAttemptOptions}
    {caches nexts : Role → ReplayCache} {updates : Role → PairingUpdate}
    {attempts : Role → PairingAttempt}
    (hcreate : ∀ role, PairingAttempt.create (envs role) (channels role) (admissions role)
      (options role) (caches role) = (updates role, some (attempts role), nexts role))
    (hroles : ∀ role, (attempts role).localRole = role) (actions : List (Role × PairingAction))
    (hhash : Collisionless (Runs.run PairingDuo.act (.new attempts nexts) actions).log)
    (hmac : Unforged (Runs.run PairingDuo.act (.new attempts nexts) actions).log) :
    (∀ (prims prims' : Primitives) (inputs inputs' : PairingInputs)
      (context context' : PairingContext), inputs.encode prims = .ok context →
        inputs'.encode prims' = .ok context' → context.encoded = context'.encoded →
          inputs = inputs') ∧
    Along (fun before entry => ∀ exporter decision context verification,
      .verify exporter decision context verification ∈ entry.2.outcome.events →
        Agrees before entry.1 context verification.decision)
      (Runs.run PairingDuo.act (.new attempts nexts) actions).log := by
  refine ⟨fun _ _ _ _ _ _ h h' => PairingInputs.encode_injective h h', ?_⟩
  have hcreated (role : Role) := PairingAttempt.created_of_create (hcreate role)
  have hfresh (role : Role) : (attempts role).context = none := by
    obtain ⟨lease, handle, nonce, localKey, reservationId, -, -, hattempt⟩ := (hcreated role).fields
    rw [hattempt]
  have hnew : (PairingDuo.new attempts nexts).Known :=
    ⟨fun role => (hcreated role).sound, fun role _ => hroles role,
      fun role _ hcontext => absurd ((hfresh role).symm.trans hcontext) nofun, along_nil _⟩
  have hknown := Runs.run_invariant_all (P := PairingDuo.Known)
    (fun duo action h => h.act action) hnew actions
  intro before entry hentry exporter decision context verification hverify
  exact Justified.agrees hknown.justified hhash hmac hentry hverify

/-- The calls of two plain attempts in which both ends confirm. -/
def plainDuoActions : List (Role × PairingAction) :=
  let handle (role : Role) : AttemptHandle := (plainAttempt role).handle
  ([(.initiator, .start 1), (.responder, .start 1),
    (.initiator, .receiveFrame (plainHelloFrame .responder) 2),
    (.responder, .receiveFrame (plainHelloFrame .initiator) 2),
    (.responder, .receiveFrame (encodeSelection .select 2 plainSelection) 3),
    (.responder, .localSelectionAckWritten (handle .responder) 4),
    (.initiator, .receiveFrame (encodeSelection .selectAck 2 plainSelection) 4),
    (.initiator, .decide (handle .initiator) .confirm 5),
    (.responder, .receiveFrame (plainDecisionFrame .initiator 1) 6),
    (.responder, .decide (handle .responder) .confirm 7),
    (.initiator, .receiveFrame (plainDecisionFrame .responder 1) 8)] :
    List (Role × PairingCall)).map fun entry => (entry.1, .call plainSurroundings entry.2)

theorem pairing_agreement_plain :
    (∀ role, ((Runs.run PairingDuo.act (.new plainAttempt plainCache)
      plainDuoActions).sessions role).attempt.peerConfirmed = true) ∧
    Along (fun before entry => ∀ exporter decision context verification,
      .verify exporter decision context verification ∈ entry.2.outcome.events →
        Agrees before entry.1 context verification.decision)
      (Runs.run PairingDuo.act (.new plainAttempt plainCache) plainDuoActions).log := by
  refine ⟨fun role => by cases role <;> decide +kernel, ?_⟩
  refine (pairing_agreement create_plainAttempt (fun _ => rfl) plainDuoActions ?_ ?_).2
  · unfold Collisionless
    decide +kernel
  unfold Unforged
  decide +kernel

end XnnTransfer.Pairing
