import Mathlib.Data.Fintype.Basic
import XnnTransfer.Bridge.PairingTurns

/-!
# Attempts and events of the pairing bridge

`Decide` asks the backend without the mutex and applies the answer later. If the attempt
has ended in the meantime, the answer shows it again. And since events are enqueued after
the mutex is free, two threads can enqueue theirs in the other order. An attempt stays
over if its updates are applied in their order, and the events tell the state if no
section comes between a change and its events.
-/

namespace XnnTransfer.Bridge

open Protocol Security Pairing Histories

/-- The attempt and the update that the thread is about to apply. -/
def PairingPhase.update? : PairingPhase → Option (AttemptHandle × PairingUpdate)
  | .applying _ attempt update _ => some (attempt, update)
  | _ => none

namespace PairingThreads

variable {τ : Type*}

namespace Mark

def ended? : Mark τ → Option AttemptHandle
  | .ended attempt => some attempt
  | _ => none

def made? : Mark τ → Option PairingEvent
  | .made _ event => some event
  | _ => none

def enqueued? : Mark τ → Option PairingEvent
  | .enqueued _ event => some event
  | _ => none

end Mark

/-- The attempts that are gone. -/
def endedIn (trace : List (Mark τ)) : List AttemptHandle := trace.filterMap Mark.ended?

/-- The events in the order of the changes. -/
def madeIn (trace : List (Mark τ)) : List PairingEvent := trace.filterMap Mark.made?

/-- The events in the order of the event channel. -/
def enqueuedIn (trace : List (Mark τ)) : List PairingEvent := trace.filterMap Mark.enqueued?

theorem endedIn_append (first second : List (Mark τ)) :
    endedIn (first ++ second) = endedIn first ++ endedIn second :=
  List.filterMap_append

theorem madeIn_append (first second : List (Mark τ)) :
    madeIn (first ++ second) = madeIn first ++ madeIn second :=
  List.filterMap_append

theorem enqueuedIn_append (first second : List (Mark τ)) :
    enqueuedIn (first ++ second) = enqueuedIn first ++ enqueuedIn second :=
  List.filterMap_append

section Changed

variable (thread : τ) (gone : List AttemptHandle) (events : List PairingEvent)

theorem endedIn_changed :
    endedIn (gone.map Mark.ended ++ events.map (Mark.made thread)) = gone := by
  simp [endedIn, List.filterMap_map, Function.comp_def, Mark.ended?]

theorem madeIn_changed :
    madeIn (gone.map Mark.ended ++ events.map (Mark.made thread)) = events := by
  simp [madeIn, List.filterMap_map, Function.comp_def, Mark.made?]

theorem enqueuedIn_changed :
    enqueuedIn (gone.map Mark.ended ++ events.map (Mark.made thread)) = [] := by
  simp [enqueuedIn, List.filterMap_map, Function.comp_def, Mark.enqueued?]

end Changed

variable [DecidableEq τ] {threads : PairingThreads τ} {action : Action τ} {trace : List (Mark τ)}

/-! ### Attempts that are gone -/

/-- No update is applied to an attempt that is gone. -/
def InOrder (trace : List (Mark τ)) (threads : PairingThreads τ) : Action τ → Prop
  | .proceed thread => ∀ pair ∈ (threads.phases thread).update?,
      threads.bridge.accepts pair.1 = true → threads.bridge.endsAttempt pair.1 pair.2 = false →
        pair.1 ∉ endedIn trace
  | _ => True

/-- The attempt that is shown is not gone. -/
structure Current (trace : List (Mark τ)) (threads : PairingThreads τ) : Prop where
  lawful : threads.bridge.Lawful
  current : ∀ payload, threads.bridge.activeAttempt = some payload →
    payload.attemptId ∉ endedIn trace

theorem Current.step (h : Current trace threads) (hordered : InOrder trace threads action) :
    Current (trace ++ threads.marks action) (threads.step action) := by
  have hturn := act_turn threads action
  generalize threads.step action = threads' at hturn ⊢
  generalize threads.marks action = marks at hturn ⊢
  cases hturn with
  | stays => simpa using h
  | @moves thread bridge phase marks same outbox marked opened =>
    refine ⟨h.lawful.of_same same.2.1 same.2.2, fun payload hactive => ?_⟩
    have hended : endedIn marks = [] := by
      rcases marked with rfl | ⟨outcome, rfl⟩ <;> rfl
    rw [endedIn_append, hended, List.append_nil]
    exact h.current payload (same.1 ▸ hactive)
  | @changes thread bridge phase events gone acts changed before after =>
    refine ⟨changed.lawful h.lawful, fun payload hactive => ?_⟩
    obtain ⟨hover, hsource⟩ := changed.active h.lawful hactive
    rw [endedIn_append, endedIn_changed, hover, List.append_nil]
    rcases hsource with hold | ⟨peerId, update, command, hphase, haccepted, hgoes⟩
    · exact h.current payload hold
    rw [acts] at hordered
    exact hordered (payload.attemptId, update) (hphase ▸ rfl) haccepted hgoes
  | loses acts applying lost => exact ⟨h.lawful.endAttempt, fun payload hactive => by cases hactive⟩
  | drops | publishes =>
    refine ⟨h.lawful, fun payload hactive => ?_⟩
    rw [endedIn_append]
    exact (List.append_nil (endedIn trace)).symm ▸ h.current payload hactive

theorem current_after (actions : List (Action τ))
    (hordered : Along (fun before action => InOrder (observed before) (after before) action)
      actions) :
    Current (observed actions) (after actions) := by
  induction actions using List.reverseRecOn with
  | nil => exact ⟨PairingBridge.lawful_initial, nofun⟩
  | append_singleton actions last ih =>
    obtain ⟨hbefore, hlast⟩ := along_concat.mp hordered
    rw [observed, Runs.emitted_concat, after, Runs.run_append]
    exact (ih hbefore).step hlast

/-- An attempt that is gone is not shown again, as long as no update is applied to it after
its end. -/
theorem run_attempts (actions : List (Action τ))
    (hordered : Along (fun before action => InOrder (observed before) (after before) action)
      actions) (attempt : AttemptHandle) (hended : attempt ∈ endedIn (observed actions))
    (snapshot : PairingSnapshot)
    (hsnapshot : (after actions).bridge.snapshot true = .ok snapshot) :
    snapshot.attempt.map AttemptPayload.attemptId ≠ some attempt := by
  have hactive : snapshot.attempt = (after actions).bridge.activeAttempt := by
    cases hsnapshot
    rfl
  intro hshown
  rw [hactive, Option.map_eq_some_iff] at hshown
  obtain ⟨payload, hpayload, rfl⟩ := hshown
  exact (current_after actions hordered).current payload hpayload hended

instance decidableInOrder (trace : List (Mark τ)) (threads : PairingThreads τ) :
    (action : Action τ) → Decidable (InOrder trace threads action)
  | .proceed thread => inferInstanceAs (Decidable (∀ pair ∈ (threads.phases thread).update?,
      threads.bridge.accepts pair.1 = true → threads.bridge.endsAttempt pair.1 pair.2 = false →
        pair.1 ∉ endedIn trace))
  | .call _ _ => inferInstanceAs (Decidable True)
  | .answer _ _ => inferInstanceAs (Decidable True)

def firstAttempt : AttemptHandle := ⟨List.replicate 15 0 ++ [1], rfl⟩
def secondAttempt : AttemptHandle := ⟨List.replicate 15 0 ++ [2], rfl⟩
def pairedDevice : DeviceId := ⟨List.replicate 32 7, rfl⟩

def promptFor (attempt : AttemptHandle) : PairingUpdate :=
  { state := .awaitingDecisions, prompt := some ⟨attempt, [1, 2, 3, 4, 5], 60000⟩ }

def pairedUpdate : PairingUpdate :=
  { state := .pairedLocal, pairedPeer := some pairedDevice, terminal := true }

/-- All sections of one call of `Apply` that makes so many events. -/
def applyAll (attempt : AttemptHandle) (update : PairingUpdate) (events : Nat) :
    List (Action Bool) :=
  .call false (.apply 5 attempt update) :: List.replicate (events + 3) (.proceed false)

/-- The user confirms, and the peer's confirmation ends the attempt while the answer of the
backend is still to be applied. -/
def decideOvertaken : List (Action Bool) :=
  applyAll firstAttempt (promptFor firstAttempt) 1 ++
    [.call true (.decide firstAttempt), .answer true (.update { state := .awaitingDecisions })] ++
    applyAll firstAttempt pairedUpdate 2

theorem run_attempts_decideOvertaken :
    firstAttempt ∈ endedIn (observed decideOvertaken) ∧
    ∀ snapshot, (after decideOvertaken).bridge.snapshot true = .ok snapshot →
      snapshot.attempt.map AttemptPayload.attemptId ≠ some firstAttempt :=
  ⟨by decide +kernel, fun snapshot =>
    run_attempts decideOvertaken (by decide +kernel) firstAttempt (by decide +kernel) snapshot⟩

/-- The answer shows the attempt again, and the next attempt is refused. -/
theorem ended_attempt_reappears :
    firstAttempt ∈ endedIn (observed decideOvertaken) ∧
    ((after (decideOvertaken ++ [.proceed true])).bridge.activeAttempt.map
      AttemptPayload.attemptId) = some firstAttempt ∧
    Mark.returned false (.accepted false) ∈
      (after (decideOvertaken ++ [.proceed true, .call false
        (.apply 6 secondAttempt (promptFor secondAttempt))])).marks (.proceed false) := by
  decide +kernel

/-! ### The order of the events -/

/-- A section makes events only while all others are enqueued, and none ends an attempt whose
peer finds no room. There is no shutdown. -/
def Serialized (threads : PairingThreads τ) : Action τ → Prop
  | .call _ request => request ≠ .shutdown
  | .proceed thread =>
    (madeIn (threads.marks (.proceed thread)) ≠ [] →
      ∀ other, (threads.phases other).outbox = []) ∧
    ∀ pair ∈ (threads.phases thread).update?, threads.bridge.losesTrust pair.1 pair.2 = false
  | .answer _ _ => True

/-- The events tell the bridge, and they are enqueued in the order of the changes. -/
structure Told (trace : List (Mark τ)) (threads : PairingThreads τ) : Prop where
  lawful : threads.bridge.Lawful
  opened : threads.bridge.updatesOpen = true
  attempt : threads.bridge.activeAttempt = attemptTold (madeIn trace)
  trust : threads.bridge.trusted = trustTold (madeIn trace)
  serial : Outbox.Serial (fun thread => (threads.phases thread).outbox) (madeIn trace)
    (enqueuedIn trace)

omit [DecidableEq τ] in
theorem told_initial : Told [] ({} : PairingThreads τ) where
  lawful := PairingBridge.lawful_initial
  opened := rfl
  attempt := rfl
  trust := rfl
  serial := Outbox.serial_nil

theorem outbox_become (threads : PairingThreads τ) (bridge : PairingBridge) (thread : τ)
    (phase : PairingPhase) :
    (fun other => (({ threads with bridge := bridge }.become thread phase).phases other).outbox) =
      Function.update (fun other => (threads.phases other).outbox) thread phase.outbox := by
  funext other
  by_cases hother : other = thread
  · subst hother
    simp [become]
  · simp [become, Function.update_of_ne hother]

theorem Told.step (h : Told trace threads) (hserialized : Serialized threads action) :
    Told (trace ++ threads.marks action) (threads.step action) := by
  have hturn := act_turn threads action
  have hmade : ∀ thread, action = .proceed thread → madeIn (threads.marks action) ≠ [] →
      ∀ other, (threads.phases other).outbox = [] := by
    rintro thread rfl
    exact hserialized.1
  generalize threads.step action = threads' at hturn ⊢
  generalize threads.marks action = marks at hturn hmade ⊢
  cases hturn with
  | stays => simpa using h
  | @moves thread bridge phase marks same outbox marked opened =>
    have hquiet : madeIn marks = [] ∧ enqueuedIn marks = [] := by
      rcases marked with rfl | ⟨outcome, rfl⟩ <;> exact ⟨rfl, rfl⟩
    have hopen : bridge.updatesOpen = threads.bridge.updatesOpen := by
      rcases opened with rfl | hsame
      · exact absurd rfl hserialized
      · exact hsame
    have hmadeIn : madeIn (trace ++ marks) = madeIn trace := by
      rw [madeIn_append, hquiet.1, List.append_nil]
    have henqueuedIn : enqueuedIn (trace ++ marks) = enqueuedIn trace := by
      rw [enqueuedIn_append, hquiet.2, List.append_nil]
    refine ⟨h.lawful.of_same same.2.1 same.2.2, hopen.trans h.opened, ?_, ?_, ?_⟩
    · rw [hmadeIn]
      exact same.1.trans h.attempt
    · rw [hmadeIn]
      exact (PairingBridge.trusted_of_entries same.2.1).trans h.trust
    rw [hmadeIn, henqueuedIn, outbox_become, outbox, Function.update_eq_self]
    exact h.serial
  | @changes thread bridge phase events gone acts changed before after =>
    obtain ⟨hattempt, htrust⟩ := changed.tells h.lawful
    have hmadeIn : madeIn (trace ++ (gone.map Mark.ended ++ events.map (Mark.made thread))) =
        madeIn trace ++ events := by
      rw [madeIn_append, madeIn_changed]
    have henqueuedIn :
        enqueuedIn (trace ++ (gone.map Mark.ended ++ events.map (Mark.made thread))) =
          enqueuedIn trace := by
      rw [enqueuedIn_append, enqueuedIn_changed, List.append_nil]
    refine ⟨changed.lawful h.lawful, (changed.updatesOpen h.lawful).trans h.opened, ?_, ?_, ?_⟩
    · rw [hmadeIn, attemptTold, List.foldl_append, ← attemptTold, ← h.attempt]
      exact hattempt
    · rw [hmadeIn, trustTold, List.foldl_append, ← trustTold, ← h.trust]
      exact htrust
    rw [hmadeIn, henqueuedIn, outbox_become, after]
    cases events with
    | nil =>
      rw [List.append_nil, ← before, Function.update_eq_self]
      exact h.serial
    | cons event rest =>
      refine h.serial.make (hmade thread acts ?_) thread (event :: rest)
      rw [madeIn_changed]
      exact List.cons_ne_nil event rest
  | loses acts applying lost =>
    subst acts
    have hkeeps := hserialized.2 _ (by rw [applying]; rfl)
    rw [hkeeps] at lost
    cases lost
  | drops closed =>
    rw [h.opened] at closed
    cases closed
  | @publishes thread event rest outcome publishing =>
    have hmadeIn : madeIn (trace ++ [Mark.enqueued thread event]) = madeIn trace := by
      rw [madeIn_append]
      exact List.append_nil _
    have hpending : (threads.phases thread).outbox = event :: rest := by
      rw [publishing]
      rfl
    refine ⟨h.lawful, h.opened, hmadeIn ▸ h.attempt, hmadeIn ▸ h.trust, ?_⟩
    rw [hmadeIn, enqueuedIn_append]
    have houtbox := outbox_become threads threads.bridge thread (.publishing rest outcome)
    exact houtbox ▸ h.serial.publish hpending

/-- Once no call is in progress, the enqueued events tell the attempt and the trusted peers,
as long as no section comes between a change and its events. -/
theorem run_events (actions : List (Action τ))
    (hserialized : Runs.Admits step Serialized {} actions) (hquiet : (after actions).Quiet) :
    attemptTold (enqueuedIn (observed actions)) = (after actions).bridge.activeAttempt ∧
      trustTold (enqueuedIn (observed actions)) = (after actions).bridge.trusted := by
  have h : Told (observed actions) (after actions) :=
    Runs.run_history (fun _ _ _ h hok => h.step hok) told_initial hserialized
  have hall : madeIn (observed actions) = enqueuedIn (observed actions) := by
    refine h.serial.eq_of_empty fun thread => ?_
    rw [hquiet thread]
    rfl
  rw [← hall]
  exact ⟨h.attempt.symm, h.trust.symm⟩

section Deciding

variable [Fintype τ]

instance decidableQuiet (threads : PairingThreads τ) : Decidable threads.Quiet :=
  inferInstanceAs (Decidable (∀ thread, threads.phases thread = .idle))

instance decidableSerialized (threads : PairingThreads τ) :
    (action : Action τ) → Decidable (threads.Serialized action)
  | .call _ request => inferInstanceAs (Decidable (request ≠ .shutdown))
  | .proceed thread => inferInstanceAs (Decidable (
      (madeIn (threads.marks (.proceed thread)) ≠ [] →
        ∀ other, (threads.phases other).outbox = []) ∧
      ∀ pair ∈ (threads.phases thread).update?, threads.bridge.losesTrust pair.1 pair.2 = false))
  | .answer _ _ => inferInstanceAs (Decidable True)

end Deciding

/-- A peer is paired, revoked, and paired again, one after the other. -/
def pairRevokePair : List (Action Bool) :=
  applyAll firstAttempt pairedUpdate 2 ++
    [.call true (.revoke 1), .answer true (.status .ok), .proceed true, .proceed true,
      .proceed true] ++
    applyAll secondAttempt pairedUpdate 2

theorem run_events_pairRevokePair :
    (enqueuedIn (observed pairRevokePair)).length = 5 ∧
    attemptTold (enqueuedIn (observed pairRevokePair)) =
      (after pairRevokePair).bridge.activeAttempt ∧
    trustTold (enqueuedIn (observed pairRevokePair)) = (after pairRevokePair).bridge.trusted :=
  ⟨by decide +kernel, run_events pairRevokePair (by decide +kernel) (by decide +kernel)⟩

/-- The same, but the event of the revocation is enqueued last. -/
def revokeEnqueuedLate : List (Action Bool) :=
  applyAll firstAttempt pairedUpdate 2 ++
    [.call true (.revoke 1), .answer true (.status .ok), .proceed true] ++
    applyAll secondAttempt pairedUpdate 2 ++ [.proceed true, .proceed true]

/-- The window is closed, and the event for it is enqueued after the next attempt is shown. -/
def closeEnqueuedLate : List (Action Bool) :=
  applyAll firstAttempt (promptFor firstAttempt) 1 ++
    [.call true .closeWindow, .answer true .done, .proceed true] ++
    applyAll secondAttempt (promptFor secondAttempt) 1 ++ [.proceed true, .proceed true]

/-- No call is in progress, and the events tell another state than the snapshots. -/
theorem events_tell_otherwise :
    ((after revokeEnqueuedLate).Quiet ∧
      (trustTold (enqueuedIn (observed revokeEnqueuedLate)) 1).map TrustPayload.state =
        some .revoked ∧
      ((after revokeEnqueuedLate).bridge.trusted 1).map TrustPayload.state = some .active) ∧
    (after closeEnqueuedLate).Quiet ∧
      attemptTold (enqueuedIn (observed closeEnqueuedLate)) = none ∧
      (after closeEnqueuedLate).bridge.activeAttempt.map AttemptPayload.attemptId =
        some secondAttempt := by
  refine ⟨⟨?_, ?_, ?_⟩, ?_, ?_, ?_⟩ <;> decide +kernel

end PairingThreads

/-! ### Refused updates -/

namespace PairingThreads

variable {τ : Type*} [DecidableEq τ] {threads : PairingThreads τ} {action : Action τ}

end PairingThreads

end XnnTransfer.Bridge
