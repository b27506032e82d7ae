import XnnTransfer.Library.Histories
import XnnTransfer.Library.Outbox
import XnnTransfer.Bridge.PairingBridge

/-!
# The turns of the threads at the pairing bridge

What a section of the pairing bridge can do to the attempt and to the trusted peers, with
the events that tell it. A section that ends an attempt and then finds no room for its
peer is the one case without an event.
-/

namespace XnnTransfer.Bridge

open Protocol Security Pairing FirstMatch

/-! ### What the events tell -/

/-- The attempt that is shown after one more event. -/
def attemptAfter (shown : Option AttemptPayload) : PairingEvent → Option AttemptPayload
  | .pairing payload => if payload.state.terminal then none else some payload
  | .trust _ => shown

/-- The trusted peers after one more event. -/
def trustAfter (view : Nat → Option TrustPayload) : PairingEvent → Nat → Option TrustPayload
  | .pairing _ => view
  | .trust payload => Function.update view payload.trustId (some payload)

def attemptTold (events : List PairingEvent) : Option AttemptPayload :=
  events.foldl attemptAfter none

def trustTold (events : List PairingEvent) : Nat → Option TrustPayload :=
  events.foldl trustAfter fun _ => none

namespace PairingBridge

variable {bridge bridge' : PairingBridge}

/-- The trusted peers as a snapshot shows them, by their trust IDs. -/
def trusted (bridge : PairingBridge) (trustId : Nat) : Option TrustPayload :=
  (bridge.findTrust trustId).map makeTrustPayload

/-- Trust IDs are never given twice. -/
structure Lawful (bridge : PairingBridge) : Prop where
  machine : bridge.nextTrustId ≤ maximumRevision
  distinct : (bridge.trustEntries.map TrustEntry.trustId).Nodup
  fresh : bridge.nextTrustId ≠ 0 → ∀ entry ∈ bridge.trustEntries, entry.trustId < bridge.nextTrustId

theorem lawful_initial : Lawful {} := ⟨by decide, List.nodup_nil, nofun⟩

theorem Lawful.of_same (h : bridge.Lawful) (hentries : bridge'.trustEntries = bridge.trustEntries)
    (hnext : bridge'.nextTrustId = bridge.nextTrustId) : bridge'.Lawful := by
  refine ⟨hnext ▸ h.machine, hentries ▸ h.distinct, ?_⟩
  rw [hentries, hnext]
  exact h.fresh

/-- The events lead from one bridge to the other. -/
def Tells (bridge : PairingBridge) (events : List PairingEvent) (bridge' : PairingBridge) : Prop :=
  bridge'.activeAttempt = events.foldl attemptAfter bridge.activeAttempt ∧
    bridge'.trusted = events.foldl trustAfter bridge.trusted

theorem trusted_of_entries (h : bridge'.trustEntries = bridge.trustEntries) :
    bridge'.trusted = bridge.trusted := by
  funext trustId
  unfold trusted findTrust
  rw [h]

/-! ### The trusted peers -/

variable {entry : TrustEntry} {test : TrustEntry → Bool} {change : TrustEntry → TrustEntry}

theorem trusted_addTrust (hfresh : bridge.findTrust entry.trustId = none) :
    (bridge.addTrust entry).trusted =
      Function.update bridge.trusted entry.trustId (some (makeTrustPayload entry)) := by
  funext trustId
  have hlookup : (bridge.addTrust entry).findTrust trustId =
      if trustId = entry.trustId then some entry else bridge.findTrust trustId :=
    lookup_append_of_fresh hfresh rfl trustId
  rw [trusted, hlookup, Function.update_apply]
  split <;> rfl

theorem Lawful.addTrust (h : bridge.Lawful) (hnext : bridge.nextTrustId ≠ 0)
    (hid : entry.trustId = bridge.nextTrustId) : (bridge.addTrust entry).Lawful := by
  have hold : ∀ other ∈ bridge.trustEntries ++ [entry], other.trustId ≤ bridge.nextTrustId := by
    intro other hother
    rcases List.mem_append.mp hother with hmem | hmem
    · exact (h.fresh hnext other hmem).le
    · rw [List.mem_singleton.mp hmem, hid]
  have hmachine := h.machine
  refine ⟨?_, ?_, fun hwrapped other hother => ?_⟩
  · exact Nat.le_of_lt_succ (Nat.mod_lt _ (Nat.succ_pos _))
  · rw [PairingBridge.addTrust, List.map_append, List.map_singleton]
    refine h.distinct.append (List.nodup_singleton _) ?_
    rw [List.disjoint_singleton]
    intro hmem
    obtain ⟨other, hother, hsame⟩ := List.mem_map.mp hmem
    exact Nat.ne_of_lt (h.fresh hnext other hother) (hsame.trans hid)
  have hle := hold other hother
  simp only [PairingBridge.addTrust] at hwrapped ⊢
  rcases hmachine.lt_or_eq with hlt | heq
  · rw [Nat.mod_eq_of_lt (Nat.succ_lt_succ hlt)]
    exact Nat.lt_succ_of_le hle
  rw [heq, Nat.mod_self] at hwrapped
  exact absurd rfl hwrapped

/-- A change of one entry that keeps its trust ID. -/
theorem trusted_modify (h : bridge.Lawful) (hfind : bridge.trustEntries.find? test = some entry)
    (hsame : (change entry).trustId = entry.trustId)
    (hentries : bridge'.trustEntries = modifyFirst test change bridge.trustEntries) :
    bridge'.trusted =
      Function.update bridge.trusted entry.trustId (some (makeTrustPayload (change entry))) := by
  funext trustId
  have hlookup := lookup_modifyFirst_of_find h.distinct hfind hsame trustId
  rw [trusted, findTrust, hentries, hlookup, Function.update_apply]
  split <;> rfl

theorem Lawful.modify (h : bridge.Lawful)
    (hentries : bridge'.trustEntries = modifyFirst test change bridge.trustEntries)
    (hnext : bridge'.nextTrustId = bridge.nextTrustId)
    (hsame : ∀ entry, (change entry).trustId = entry.trustId) : bridge'.Lawful := by
  refine ⟨hnext ▸ h.machine, ?_, ?_⟩
  · rw [hentries, map_modifyFirst hsame]
    exact h.distinct
  rw [hentries, hnext]
  intro hlive entry hentry
  rcases mem_of_mem_modifyFirst hentry with hmem | ⟨old, hmem, -, rfl⟩
  · exact h.fresh hlive entry hmem
  rw [hsame]
  exact h.fresh hlive old hmem

theorem trustPeer_spec (h : bridge.Lawful) {peerId : Nat} {deviceId : DeviceId}
    {trust : TrustPayload} (htrust : bridge.trustPeer peerId deviceId = some (bridge', trust)) :
    bridge'.Lawful ∧ bridge'.activeAttempt = bridge.activeAttempt ∧
      bridge'.updatesOpen = bridge.updatesOpen ∧
      bridge'.trusted = Function.update bridge.trusted trust.trustId (some trust) := by
  unfold trustPeer at htrust
  split at htrust
  · split at htrust
    · cases htrust
    rename_i hroom
    simp only [trustFull, Bool.or_eq_true, decide_eq_true_eq, not_or] at hroom
    cases htrust
    refine ⟨h.addTrust hroom.2 rfl, rfl, rfl, trusted_addTrust (lookup_eq_none_iff.mpr ?_)⟩
    exact fun entry hentry => Nat.ne_of_lt (h.fresh hroom.2 entry hentry)
  rename_i entry hfind
  cases htrust
  exact ⟨h.modify rfl rfl fun _ => rfl, rfl, rfl, trusted_modify h hfind rfl rfl⟩

theorem Lawful.endAttempt (h : bridge.Lawful) : bridge.endAttempt.Lawful := h.of_same rfl rfl

/-! ### The sections -/

/-- What a section changes: the bridge after it, the events it makes, and the attempts that
are over with it. -/
inductive Changes (bridge : PairingBridge) :
    PairingPhase → PairingBridge → List PairingEvent → List AttemptHandle → Prop
  | silent {phase : PairingPhase} : Changes bridge phase bridge [] []
  | shown {peerId : Nat} {attempt : AttemptHandle} {update : PairingUpdate} {command : Bool}
      {payload : AttemptPayload} (accepted : bridge.accepts attempt = true)
      (goes : bridge.endsAttempt attempt update = false) (live : payload.state.terminal = false)
      (same : payload.attemptId = attempt) :
      Changes bridge (.applying peerId attempt update command) (bridge.showAttempt payload)
        [.pairing payload] []
  | ended {peerId : Nat} {attempt : AttemptHandle} {update : PairingUpdate} {command : Bool}
      {payload : AttemptPayload} (terminal : payload.state.terminal = true) :
      Changes bridge (.applying peerId attempt update command) bridge.endAttempt
        [.pairing payload] [attempt]
  | paired {peerId : Nat} {attempt : AttemptHandle} {update : PairingUpdate} {command : Bool}
      {payload : AttemptPayload} {deviceId : DeviceId} {after : PairingBridge}
      {trust : TrustPayload} (terminal : payload.state.terminal = true)
      (trusts : bridge.endAttempt.trustPeer peerId deviceId = some (after, trust)) :
      Changes bridge (.applying peerId attempt update command) after
        [.pairing payload, .trust trust] [attempt]
  | cleared {outcome : Outcome} {payload : AttemptPayload}
      (terminal : payload.state.terminal = true) :
      Changes bridge (.clearing outcome) bridge.endAttempt [.pairing payload] [payload.attemptId]
  | revoked {trustId : Nat} {entry : TrustEntry} {after : PairingBridge}
      (found : bridge.findTrust trustId = some entry)
      (entries : after.trustEntries = modifyFirst (fun entry => entry.trustId = trustId)
        revokedEntry bridge.trustEntries)
      (same : after.activeAttempt = bridge.activeAttempt ∧
        after.nextTrustId = bridge.nextTrustId ∧ after.updatesOpen = bridge.updatesOpen) :
      Changes bridge (.revoking trustId) after [.trust (makeTrustPayload (revokedEntry entry))] []

variable {phase : PairingPhase} {events : List PairingEvent} {gone : List AttemptHandle}

theorem Changes.lawful (h : bridge.Lawful) (hchanges : Changes bridge phase bridge' events gone) :
    bridge'.Lawful := by
  cases hchanges with
  | silent => exact h
  | shown accepted goes live same => exact h.of_same rfl rfl
  | ended | cleared => exact h.endAttempt
  | paired terminal trusts => exact (trustPeer_spec h.endAttempt trusts).1
  | revoked found entries same => exact h.modify entries same.2.1 fun _ => rfl

/-- The events tell what the section has changed. -/
theorem Changes.tells (h : bridge.Lawful) (hchanges : Changes bridge phase bridge' events gone) :
    Tells bridge events bridge' := by
  cases hchanges with
  | silent => exact ⟨rfl, rfl⟩
  | shown accepted goes live same =>
    refine ⟨?_, trusted_of_entries rfl⟩
    simp [attemptAfter, live, showAttempt]
  | ended terminal | cleared terminal =>
    refine ⟨?_, trusted_of_entries rfl⟩
    simp [attemptAfter, terminal, endAttempt]
  | paired terminal trusts =>
    obtain ⟨-, hactive, -, htrusted⟩ := trustPeer_spec h.endAttempt trusts
    refine ⟨?_, ?_⟩
    · simp [attemptAfter, terminal, hactive, endAttempt]
    rw [htrusted]
    rfl
  | @revoked trustId entry after found entries same =>
    refine ⟨same.1, ?_⟩
    rw [trusted_modify h found rfl entries]
    rfl

theorem Changes.updatesOpen (h : bridge.Lawful)
    (hchanges : Changes bridge phase bridge' events gone) :
    bridge'.updatesOpen = bridge.updatesOpen := by
  cases hchanges with
  | paired terminal trusts => exact (trustPeer_spec h.endAttempt trusts).2.2.1
  | revoked found entries same => exact same.2.2
  | _ => rfl

/-- An attempt is shown only by an update that does not end it. -/
theorem Changes.active {payload : AttemptPayload}
    (hchanges : Changes bridge phase bridge' events gone)
    (hlawful : bridge.Lawful) (hactive : bridge'.activeAttempt = some payload) :
    gone = [] ∧ (bridge.activeAttempt = some payload ∨
      ∃ peerId update command, phase = .applying peerId payload.attemptId update command ∧
        bridge.accepts payload.attemptId = true ∧ bridge.endsAttempt payload.attemptId update = false) := by
  cases hchanges with
  | silent => exact ⟨rfl, .inl hactive⟩
  | @shown peerId attempt update command shownPayload accepted goes live same =>
    obtain rfl := Option.some.inj hactive
    subst same
    exact ⟨rfl, .inr ⟨peerId, update, command, rfl, accepted, goes⟩⟩
  | ended | cleared => cases hactive
  | paired terminal trusts =>
    rw [(trustPeer_spec hlawful.endAttempt trusts).2.1] at hactive
    cases hactive
  | revoked found entries same => exact ⟨rfl, .inl (same.1 ▸ hactive)⟩

/-- How the first section of `Apply` can go. -/
inductive Applied (bridge : PairingBridge) (phase : PairingPhase) (attempt : AttemptHandle)
    (update : PairingUpdate) : PairingBridge × Option (List PairingEvent) → Prop
  | refused (goes : bridge.endsAttempt attempt update = false) :
      Applied bridge phase attempt update (bridge, none)
  | lost (ends : bridge.endsAttempt attempt update = true)
      (loses : bridge.losesTrust attempt update = true) :
      Applied bridge phase attempt update (bridge.endAttempt, none)
  | changed {after : PairingBridge} {events : List PairingEvent}
      (changes : Changes bridge phase after events
        (if bridge.endsAttempt attempt update then [attempt] else [])) :
      Applied bridge phase attempt update (after, some events)

theorem apply_applied (bridge : PairingBridge) (peerId : Nat) (attempt : AttemptHandle)
    (update : PairingUpdate) (command : Bool) :
    Applied bridge (.applying peerId attempt update command) attempt update
      (apply peerId attempt update bridge) := by
  unfold apply
  split
  next hrefused => exact .refused (by simp [endsAttempt, hrefused])
  rename_i haccepts
  have haccepts : bridge.accepts attempt = true := by simpa using haccepts
  cases hprompt : update.prompt with
  | some prompt =>
    have hgoes : bridge.endsAttempt attempt update = false := by simp [endsAttempt, hprompt]
    dsimp only
    split
    · exact .refused hgoes
    refine .changed ?_
    rw [hgoes, if_neg (by simp)]
    exact .shown haccepts hgoes rfl rfl
  | none =>
    dsimp only
    split
    next hterminal =>
      have hends : bridge.endsAttempt attempt update = true := by
        simp [endsAttempt, haccepts, hprompt, hterminal]
      have hstate : ∀ {peerId : Nat} {error : AttemptError}, (makeAttemptPayload
          (if update.state = .pairedLocal then AttemptState.paired else .closed) peerId 0
          attempt noSasWords error).state.terminal = true := by
        intro peerId error
        split <;> rfl
      cases hpeer : update.pairedPeer with
      | none =>
        refine .changed ?_
        rw [if_pos hends]
        exact .ended hstate
      | some deviceId =>
        dsimp only
        split
        next hfull =>
          refine .lost hends ?_
          unfold trustPeer at hfull
          split at hfull
          next hunknown =>
            split at hfull
            next hroom =>
              have hnone : bridge.findDevice deviceId = none := hunknown
              have hno : bridge.trustFull = true := hroom
              simp [losesTrust, hends, hpeer, hnone, hno]
            · cases hfull
          · cases hfull
        rename_i after trust htrust
        refine .changed ?_
        rw [if_pos hends]
        exact .paired hstate htrust
    rename_i hgoing
    have hgoes : bridge.endsAttempt attempt update = false := by
      simp [endsAttempt, hgoing]
    split
    · refine .changed ?_
      rw [hgoes, if_neg (by simp)]
      exact .shown haccepts hgoes rfl rfl
    refine .changed ?_
    rw [hgoes, if_neg (by simp)]
    exact .silent

end PairingBridge

namespace PairingThreads

variable {τ : Type*} [DecidableEq τ] {threads : PairingThreads τ} {action : Action τ}

/-- What one action can be. -/
inductive Turn (threads : PairingThreads τ) (action : Action τ) :
    PairingThreads τ → List (Mark τ) → Prop
  | stays : Turn threads action threads []
  | moves {thread : τ} {bridge : PairingBridge} {phase : PairingPhase} {marks : List (Mark τ)}
      (same : bridge.activeAttempt = threads.bridge.activeAttempt ∧
        bridge.trustEntries = threads.bridge.trustEntries ∧
        bridge.nextTrustId = threads.bridge.nextTrustId)
      (outbox : phase.outbox = (threads.phases thread).outbox)
      (marked : marks = [] ∨ ∃ outcome, marks = [.returned thread outcome])
      (opened : action = .call thread .shutdown ∨ bridge.updatesOpen = threads.bridge.updatesOpen) :
      Turn threads action ({ threads with bridge := bridge }.become thread phase) marks
  | changes {thread : τ} {bridge : PairingBridge} {phase : PairingPhase}
      {events : List PairingEvent} {gone : List AttemptHandle} (acts : action = .proceed thread)
      (changed : PairingBridge.Changes threads.bridge (threads.phases thread) bridge events gone)
      (before : (threads.phases thread).outbox = []) (after : phase.outbox = events) :
      Turn threads action ({ threads with bridge := bridge }.become thread phase)
        (gone.map .ended ++ events.map (.made thread))
  | loses {thread : τ} {peerId : Nat} {attempt : AttemptHandle} {update : PairingUpdate}
      {command : Bool} {outcome : Outcome} (acts : action = .proceed thread)
      (applying : threads.phases thread = .applying peerId attempt update command)
      (lost : threads.bridge.losesTrust attempt update = true) :
      Turn threads action ({ threads with bridge := threads.bridge.endAttempt }.become thread .idle)
        [.ended attempt, .returned thread outcome]
  | drops {thread : τ} {outcome : Outcome} (closed : threads.bridge.updatesOpen = false) :
      Turn threads action (threads.become thread .idle) [.returned thread outcome]
  | publishes {thread : τ} {event : PairingEvent} {rest : List PairingEvent} {outcome : Outcome}
      (publishing : threads.phases thread = .publishing (event :: rest) outcome) :
      Turn threads action (threads.become thread (.publishing rest outcome))
        [.enqueued thread event]

/-- A call may return from a phase without events. -/
theorem Turn.leaves {thread : τ} (outcome : Outcome)
    (hempty : (threads.phases thread).outbox = []) :
    Turn threads action (threads.leave thread outcome).1 (threads.leave thread outcome).2 :=
  .moves ⟨rfl, rfl, rfl⟩ hempty.symm (.inr ⟨outcome, rfl⟩) (.inr rfl)

theorem Turn.advances {thread : τ} {phase : PairingPhase}
    (houtbox : phase.outbox = (threads.phases thread).outbox) :
    Turn threads action (threads.become thread phase) [] :=
  .moves ⟨rfl, rfl, rfl⟩ houtbox (.inl rfl) (.inr rfl)

theorem call_turn {thread : τ} (hidle : threads.phases thread = .idle)
    (request : PairingRequest) :
    Turn threads (.call thread request) (threads.call thread request).1
      (threads.call thread request).2 := by
  have hempty : (threads.phases thread).outbox = [] := hidle ▸ rfl
  unfold call
  cases request with
  | closeWindow => exact .advances hempty.symm
  | decide | revoke =>
    dsimp only
    split
    · exact .leaves _ hempty
    split
    · exact .leaves _ hempty
    · exact .advances hempty.symm
  | apply peerId attempt update =>
    dsimp only
    split
    · exact .leaves _ hempty
    · exact .advances hempty.symm
  | shutdown => exact .moves ⟨rfl, rfl, rfl⟩ hempty.symm (.inl rfl) (.inl rfl)

theorem answered_turn (thread : τ) (answer : PairingAnswer) :
    Turn threads action (threads.answered thread answer).1
      (threads.answered thread answer).2 := by
  unfold answered
  split
  next attempt peerId update hphase =>
    have hempty : (threads.phases thread).outbox = [] := hphase ▸ rfl
    split
    · exact .leaves _ hempty
    split
    · exact .leaves _ hempty
    · exact .advances hempty.symm
  next trustId status hphase =>
    have hempty : (threads.phases thread).outbox = [] := hphase ▸ rfl
    split
    · exact .leaves _ hempty
    · exact .advances hempty.symm
  next outcome hphase => exact .advances (hphase ▸ rfl)
  · exact .stays

theorem proceed_turn (thread : τ) :
    Turn threads (.proceed thread) (threads.proceed thread).1 (threads.proceed thread).2 := by
  unfold proceed
  cases hphase : threads.phases thread with
  | applying peerId attempt update command =>
    have hempty : (threads.phases thread).outbox = [] := hphase ▸ rfl
    have happlied := PairingBridge.apply_applied threads.bridge peerId attempt update command
    dsimp only
    split
    next bridge hresult =>
      rw [hresult] at happlied
      cases happlied with
      | refused goes =>
        rw [goes]
        exact .leaves _ hempty
      | lost ends loses =>
        rw [ends]
        exact .loses rfl hphase loses
    rename_i bridge events hresult
    rw [hresult] at happlied
    cases happlied with
    | changed changes =>
      have hover : (if threads.bridge.endsAttempt attempt update then
          [Mark.ended (τ := τ) attempt] else []) =
          (if threads.bridge.endsAttempt attempt update then [attempt] else []).map
            Mark.ended := by
        split <;> rfl
      rw [hover]
      exact .changes rfl (hphase ▸ changes) hempty rfl
  | checking events command =>
    dsimp only
    split
    next hclosed => exact .drops hclosed
    · exact .advances (hphase ▸ rfl)
  | revoking trustId =>
    have hempty : (threads.phases thread).outbox = [] := hphase ▸ rfl
    dsimp only [PairingBridge.revoke]
    cases hfind : threads.bridge.findTrust trustId with
    | none => exact .leaves _ hempty
    | some entry =>
      dsimp only
      by_cases hrevoked : entry.state = .revoked
      · rw [if_pos hrevoked]
        exact .leaves _ hempty
      rw [if_neg hrevoked]
      refine @Turn.changes _ _ threads _ thread _ _ [_] [] rfl ?_ hempty rfl
      rw [hphase]
      exact .revoked hfind rfl ⟨rfl, rfl, rfl⟩
  | clearing outcome =>
    have hempty : (threads.phases thread).outbox = [] := hphase ▸ rfl
    dsimp only [PairingBridge.clearActive]
    cases hactive : threads.bridge.activeAttempt with
    | none => exact .leaves _ hempty
    | some active =>
      refine @Turn.changes _ _ threads _ thread _ _ [_] [_] rfl ?_ hempty rfl
      rw [hphase]
      exact .cleared rfl
  | publishing events outcome =>
    cases events with
    | nil => exact .leaves _ (hphase ▸ rfl)
    | cons event rest => exact .publishes hphase
  | _ => exact .stays

theorem act_turn (threads : PairingThreads τ) (action : Action τ) :
    Turn threads action (threads.step action) (threads.marks action) := by
  unfold step marks
  cases action with
  | call thread request =>
    simp only [act]
    split
    next hidle => exact call_turn hidle request
    · exact .stays
  | proceed thread => exact proceed_turn thread
  | answer thread answer => exact answered_turn thread answer

end PairingThreads

end XnnTransfer.Bridge
