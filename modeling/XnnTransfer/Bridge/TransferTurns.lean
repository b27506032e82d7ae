import XnnTransfer.Bridge.TransferRecords

/-!
# The turns of the threads at the transfer bridge

A thread that is in a phase holds the mutexes of that phase. So a change of the records
and the publication of its event are not parted by another change, and a bridge with an
event under way is not closed. With this, each action of a thread is one of a few turns.
-/

namespace XnnTransfer.Bridge

open Protocol Transfer

namespace Phase

/-- The thread has changed the records. -/
def writes : Phase → Bool
  | .publishing _ _ | .flushing _ => true
  | _ => false

/-- The call is one of `Shutdown`. -/
def shutting : Phase → Bool
  | .closing | .stopping | .abandoning | .flushing _ => true
  | _ => false

variable {phase : Phase}

theorem outbox_of_not_holdsMutation (h : phase.holdsMutation = false) : phase.outbox = [] := by
  cases phase <;> first | rfl | cases h

theorem outbox_of_not_writes (h : phase.writes = false) : phase.outbox = [] := by
  cases phase <;> first | rfl | cases h

theorem holdsBackend_of_reserves (h : phase.reserves = true) : phase.holdsBackend = true := by
  cases phase with
  | working work => cases work <;> first | rfl | cases h
  | _ => first | rfl | cases h

end Phase

namespace TransferThreads

variable {τ : Type*}

/-- What holds between the sections of the threads. -/
structure Orderly (canonical : Bytes → Bool) (threads : TransferThreads τ) : Prop where
  backend : ∀ thread, (threads.phases thread).holdsBackend = true →
    threads.backendOwner = some thread
  mutation : ∀ thread, (threads.phases thread).holdsMutation = true →
    threads.mutationOwner = some thread
  reserved : ∀ thread, (threads.phases thread).reserves = true → 1 ≤ threads.bridge.pendingStarts
  opened : ∀ thread event reply, threads.phases thread = .publishing event reply →
    threads.bridge.updatesOpen = true
  checked : ∀ thread work, threads.phases thread = .working work → work.Checked canonical
  lawful : threads.bridge.Lawful

theorem orderly_initial (canonical : Bytes → Bool) : Orderly canonical ({} : TransferThreads τ) where
  backend := fun _ h => by cases h
  mutation := fun _ h => by cases h
  reserved := fun _ h => by cases h
  opened := fun _ _ _ h => by cases h
  checked := fun _ _ h => by cases h
  lawful := ⟨by simp, by simp, Nat.zero_le _, by simp⟩

/-- The mutex is free, or the thread has it. -/
def Available (owner : Option τ) (thread : τ) : Prop := owner = none ∨ owner = some thread

variable {canonical : Bytes → Bool} {threads : TransferThreads τ} {thread : τ}

/-- What a turn of a thread has to respect to keep order. -/
structure Permits (canonical : Bytes → Bool) (threads : TransferThreads τ) (thread : τ)
    (bridge : TransferBridge) (phase : Phase) : Prop where
  backend : phase.holdsBackend = true → Available threads.backendOwner thread
  mutation : phase.holdsMutation = true → Available threads.mutationOwner thread
  reserved : phase.reserves = true → 1 ≤ bridge.pendingStarts
  pending : threads.bridge.pendingStarts ≤ bridge.pendingStarts ∨
    (threads.phases thread).holdsBackend = true
  opened : ∀ event reply, phase = .publishing event reply → bridge.updatesOpen = true
  closed : bridge.updatesOpen = threads.bridge.updatesOpen ∨ threads.mutationOwner = none
  checked : ∀ work, phase = .working work → work.Checked canonical
  lawful : bridge.Lawful

variable {phase : Phase}

/-- A turn that leaves the bridge alone. -/
theorem Permits.plain (h : Orderly canonical threads)
    (hbackend : phase.holdsBackend = true → Available threads.backendOwner thread)
    (hmutation : phase.holdsMutation = true → Available threads.mutationOwner thread)
    (hreserved : phase.reserves = true → (threads.phases thread).reserves = true)
    (hopened : ∀ event reply, phase ≠ .publishing event reply)
    (hchecked : ∀ work, phase = .working work → work.Checked canonical) :
    Permits canonical threads thread threads.bridge phase where
  backend := hbackend
  mutation := hmutation
  reserved := fun hreserves => h.reserved thread (hreserved hreserves)
  pending := .inl le_rfl
  opened := fun event reply hphase => absurd hphase (hopened event reply)
  closed := .inl rfl
  checked := hchecked
  lawful := h.lawful

/-- A call may return at any time. -/
theorem Permits.idle (h : Orderly canonical threads) :
    Permits canonical threads thread threads.bridge .idle :=
  .plain h (fun h => by cases h) (fun h => by cases h) (fun h => by cases h)
    (fun _ _ h => by cases h) (fun _ h => by cases h)

variable [DecidableEq τ] {action : Action τ}

theorem ownerAfter_of_ne {owner : Option τ} {holds : Bool} {other : τ} (hother : other ≠ thread)
    (hfree : holds = true → Available owner thread) (howner : owner = some other) :
    ownerAfter owner thread holds = some other := by
  unfold ownerAfter
  split
  next hholds =>
    rcases hfree hholds with hnone | hsame
    · rw [hnone] at howner
      cases howner
    · exact absurd (Option.some.inj (howner.symm.trans hsame)) hother
  · rw [if_neg]
    · exact howner
    intro hsame
    exact hother (Option.some.inj (howner.symm.trans hsame))

variable {bridge : TransferBridge} {work : Work}

theorem Orderly.become (h : Orderly canonical threads)
    (hpermits : Permits canonical threads thread bridge phase) :
    Orderly canonical ({ threads with bridge := bridge }.become thread phase) := by
  have hself : Function.update threads.phases thread phase thread = phase := Function.update_self ..
  have hothers : ∀ other, other ≠ thread →
      Function.update threads.phases thread phase other = threads.phases other :=
    fun other hne => Function.update_of_ne hne ..
  refine ⟨fun other hholds => ?_, fun other hholds => ?_, fun other hreserves => ?_,
    fun other event reply hphase => ?_, fun other work hphase => ?_, hpermits.lawful⟩
  all_goals simp only [TransferThreads.become] at *
  · by_cases hother : other = thread
    · subst hother
      rw [hself] at hholds
      rw [hholds]
      rfl
    rw [hothers other hother] at hholds
    exact ownerAfter_of_ne hother hpermits.backend (h.backend other hholds)
  · by_cases hother : other = thread
    · subst hother
      rw [hself] at hholds
      rw [hholds]
      rfl
    rw [hothers other hother] at hholds
    exact ownerAfter_of_ne hother hpermits.mutation (h.mutation other hholds)
  · by_cases hother : other = thread
    · subst hother
      rw [hself] at hreserves
      exact hpermits.reserved hreserves
    rw [hothers other hother] at hreserves
    rcases hpermits.pending with hle | hholds
    · exact (h.reserved other hreserves).trans hle
    have hother' := h.backend other (Phase.holdsBackend_of_reserves hreserves)
    exact absurd (Option.some.inj (hother'.symm.trans (h.backend thread hholds))) hother
  · by_cases hother : other = thread
    · subst hother
      rw [hself] at hphase
      exact hpermits.opened event reply hphase
    rw [hothers other hother] at hphase
    rcases hpermits.closed with hsame | hnone
    · exact hsame ▸ h.opened other event reply hphase
    have howner := h.mutation other (hphase ▸ rfl)
    rw [hnone] at howner
    cases howner
  by_cases hother : other = thread
  · subst hother
    rw [hself] at hphase
    exact hpermits.checked work hphase
  rw [hothers other hother] at hphase
  exact h.checked other work hphase

/-- What one action can be. -/
inductive Turn (canonical : Bytes → Bool) (threads : TransferThreads τ) (action : Action τ) :
    TransferThreads τ → List (Mark τ) → Prop
  | stays : Turn canonical threads action threads []
  | reads (result : Except Status SnapshotPage) : Turn canonical threads action threads [.page result]
  | refused {thread : τ} {request : Request} {outcome : Outcome}
      (idle : threads.phases thread = .idle) (refused : request.begin canonical = .error outcome) :
      Turn canonical threads action threads [.called thread request, .returned thread outcome]
  | begins {thread : τ} {request : Request} {phase : Phase}
      (acts : action = .call thread request) (idle : threads.phases thread = .idle)
      (begun : request.begin canonical = .ok phase) (free : phase.holdsMutation = false) :
      Turn canonical threads action (threads.become thread phase) [.called thread request]
  | moves {thread : τ} {bridge : TransferBridge} {phase : Phase}
      (before : (threads.phases thread).writes = false) (after : phase.writes = false)
      (active : threads.phases thread ≠ .idle)
      (available : phase.holdsMutation = true → Available threads.mutationOwner thread)
      (same : bridge.records = threads.bridge.records ∧ bridge.revision = threads.bridge.revision)
      (course : (threads.phases thread).shutting = false →
        phase.shutting = false ∧ bridge.updatesOpen = threads.bridge.updatesOpen) :
      Turn canonical threads action ({ threads with bridge := bridge }.become thread phase) []
  | returns {thread : τ} {bridge : TransferBridge} {outcome : Outcome}
      (active : threads.phases thread ≠ .idle)
      (settled : (threads.phases thread).writes = false ∨
        threads.phases thread = .flushing [] ∧ outcome = .done)
      (same : bridge.records = threads.bridge.records ∧ bridge.revision = threads.bridge.revision)
      (opened : bridge.updatesOpen = threads.bridge.updatesOpen) :
      Turn canonical threads action ({ threads with bridge := bridge }.become thread .idle)
        [.returned thread outcome]
  | mutates {thread : τ} {work : Work} {bridge : TransferBridge} {event : EventPayload}
      {reply : Reply} (acts : action = .proceed thread)
      (working : threads.phases thread = .working work) (free : threads.mutationOwner = none)
      (mutation : TransferBridge.Mutation (threads.bridge.unreserve work) work bridge event) :
      Turn canonical threads action
        ({ threads with bridge := bridge }.become thread (.publishing event reply))
        [.mutated thread event]
  | publishes {thread : τ} {event : EventPayload} {reply : Reply}
      (publishing : threads.phases thread = .publishing event reply) :
      Turn canonical threads action (threads.become thread .idle)
        [.enqueued thread event, .returned thread (reply.published event)]
  | abandons {thread : τ} (abandoning : threads.phases thread = .abandoning)
      (free : threads.mutationOwner = none) :
      Turn canonical threads action
        ({ threads with bridge := threads.bridge.abandon.1 }.become thread
          (.flushing threads.bridge.abandon.2))
        (threads.bridge.abandon.2.map (.mutated thread))
  | flushes {thread : τ} {event : EventPayload} {rest : List EventPayload}
      (flushing : threads.phases thread = .flushing (event :: rest)) :
      Turn canonical threads action (threads.become thread (.flushing rest)) [.enqueued thread event]

/-- A turn that keeps order. -/
def Turns (canonical : Bytes → Bool) (threads : TransferThreads τ) (action : Action τ)
    (result : TransferThreads τ × List (Mark τ)) : Prop :=
  Turn canonical threads action result.1 result.2 ∧ Orderly canonical result.1

theorem Turns.stays (h : Orderly canonical threads) :
    Turns canonical threads action (threads, []) :=
  ⟨.stays, h⟩

theorem Turns.leaves (h : Orderly canonical threads) {outcome : Outcome}
    (active : threads.phases thread ≠ .idle)
    (settled : (threads.phases thread).writes = false ∨
      threads.phases thread = .flushing [] ∧ outcome = .done) :
    Turns canonical threads action (threads.leave thread outcome) :=
  ⟨.returns active settled ⟨rfl, rfl⟩ rfl, h.become (.idle h)⟩

/-- The bridge after a place has been given up is as lawful as before. -/
theorem lawful_unreserve (h : bridge.Lawful) (work : Work) : (bridge.unreserve work).Lawful := by
  cases work with
  | send result =>
    have hbounded := h.bounded
    refine ⟨h.identified, h.distinct, ?_, h.sound⟩
    simp only [TransferBridge.unreserve]
    omega
  | _ => exact h

theorem unreserve_same (bridge : TransferBridge) (work : Work) :
    (bridge.unreserve work).records = bridge.records ∧
      (bridge.unreserve work).revision = bridge.revision ∧
      (bridge.unreserve work).updatesOpen = bridge.updatesOpen := by
  cases work <;> exact ⟨rfl, rfl, rfl⟩

theorem conclude_turns (h : Orderly canonical threads)
    (hphase : threads.phases thread = .working work) (hfree : threads.mutationOwner = none) :
    Turns canonical threads (.proceed thread)
      (threads.conclude thread (work.perform canonical threads.bridge)) := by
  have hreserved : work.reserves = true → 1 ≤ threads.bridge.pendingStarts := by
    intro hreserves
    refine h.reserved thread ?_
    rw [hphase]
    cases work <;> first | rfl | cases hreserves
  have hperformed := TransferBridge.perform_performed (h.checked thread work hphase)
    h.lawful.bounded hreserved
  have hquiet : (threads.phases thread).writes = false := hphase ▸ rfl
  have hactive : threads.phases thread ≠ .idle := by rw [hphase]; exact fun h => by cases h
  obtain ⟨hrecords, hrevision, hopen⟩ := unreserve_same threads.bridge work
  have hpending : threads.bridge.pendingStarts ≤ (threads.bridge.unreserve work).pendingStarts ∨
      (threads.phases thread).holdsBackend = true := by
    rw [hphase]
    cases work with
    | send result => exact .inr rfl
    | _ => exact .inl le_rfl
  generalize work.perform canonical threads.bridge = result at hperformed ⊢
  obtain ⟨bridge, ending⟩ := result
  cases hperformed with
  | returns outcome =>
    refine ⟨.returns hactive (.inl hquiet) ⟨hrecords, hrevision⟩ hopen, h.become ?_⟩
    exact { Permits.idle h with
      pending := hpending
      closed := .inl hopen
      reserved := fun h => by cases h
      opened := fun _ _ h => by cases h
      lawful := lawful_unreserve h.lawful work }
  | @undoes result hsend =>
    subst hsend
    have hbackend := h.backend thread (hphase ▸ rfl)
    refine ⟨.moves hquiet rfl hactive (fun _ => .inl hfree) ⟨hrecords, hrevision⟩
      (fun _ => ⟨rfl, hopen⟩), h.become ?_⟩
    exact {
      backend := fun _ => .inr hbackend
      mutation := fun _ => .inl hfree
      reserved := fun h => by cases h
      pending := hpending
      opened := fun _ _ h => by cases h
      closed := .inl hopen
      checked := fun _ h => by cases h
      lawful := lawful_unreserve h.lawful (.send result) }
  | @publishes bridge event reply opened mutation =>
    obtain ⟨hsame, hopened⟩ := mutation.same
    refine ⟨.mutates rfl hphase hfree mutation, h.become ?_⟩
    exact {
      backend := fun h => by cases h
      mutation := fun _ => .inl hfree
      reserved := fun h => by cases h
      pending := hsame ▸ hpending
      opened := fun _ _ _ => hopened.trans (hopen.trans opened)
      closed := .inl (hopened.trans hopen)
      checked := fun _ h => by cases h
      lawful := (lawful_unreserve h.lawful work).mutation mutation }

theorem proceed_turns (h : Orderly canonical threads) (thread : τ) :
    Turns canonical threads (.proceed thread) (threads.proceed canonical thread) := by
  unfold proceed
  cases hphase : threads.phases thread with
  | starting =>
    have hactive : threads.phases thread ≠ .idle := by rw [hphase]; exact fun h => by cases h
    have hquiet : (threads.phases thread).writes = false := hphase ▸ rfl
    dsimp only
    split
    · exact .stays h
    rename_i hfree
    have hbackend : threads.backendOwner = none := by simpa using hfree
    unfold TransferBridge.reserveStart
    split
    next hrefused => exact .leaves h hactive (.inl hquiet)
    rename_i bridge hreserved
    split at hreserved
    · cases hreserved
    split at hreserved
    · cases hreserved
    rename_i hroom
    cases hreserved
    refine ⟨.moves hquiet rfl hactive (fun h => by cases h) ⟨rfl, rfl⟩
      (fun _ => ⟨rfl, rfl⟩), h.become ?_⟩
    exact {
      backend := fun _ => .inl hbackend
      mutation := fun h => by cases h
      reserved := fun _ => Nat.le_add_left 1 _
      pending := .inl (Nat.le_add_right _ 1)
      opened := fun _ _ h => by cases h
      closed := .inl rfl
      checked := fun _ h => by cases h
      lawful := ⟨h.lawful.identified, h.lawful.distinct, Nat.lt_of_not_le hroom, h.lawful.sound⟩ }
  | commanding command transferId =>
    have hactive : threads.phases thread ≠ .idle := by rw [hphase]; exact fun h => by cases h
    have hquiet : (threads.phases thread).writes = false := hphase ▸ rfl
    dsimp only
    split
    · exact .stays h
    rename_i hfree
    have hbackend : threads.backendOwner = none := by simpa using hfree
    split
    · exact .leaves h hactive (.inl hquiet)
    refine ⟨.moves hquiet rfl hactive (fun h => by cases h) ⟨rfl, rfl⟩
      (fun _ => ⟨rfl, rfl⟩), h.become ?_⟩
    exact .plain h (fun _ => .inl hbackend) (fun h => by cases h) (fun h => by cases h)
      (fun _ _ h => by cases h) (fun _ h => by cases h)
  | working work =>
    dsimp only
    split
    · exact .stays h
    next hfree => exact conclude_turns h hphase (by simpa using hfree)
  | publishing event reply =>
    dsimp only
    rw [if_pos (h.opened thread event reply hphase)]
    exact ⟨.publishes hphase, h.become (.idle h)⟩
  | closing =>
    have hactive : threads.phases thread ≠ .idle := by rw [hphase]; exact fun h => by cases h
    have hquiet : (threads.phases thread).writes = false := hphase ▸ rfl
    dsimp only
    split
    · exact .stays h
    rename_i hfree
    simp only [not_or, Bool.not_eq_true, Option.isSome_eq_false_iff,
      Option.isNone_iff_eq_none] at hfree
    split
    · exact .leaves h hactive (.inl hquiet)
    refine ⟨.moves hquiet rfl hactive (fun h => by cases h) ⟨rfl, rfl⟩ (fun hcourse => ?_),
      h.become ?_⟩
    · rw [hphase] at hcourse
      cases hcourse
    exact {
      backend := fun _ => .inl hfree.1
      mutation := fun h => by cases h
      reserved := fun h => by cases h
      pending := .inl le_rfl
      opened := fun _ _ h => by cases h
      closed := .inr hfree.2
      checked := fun _ h => by cases h
      lawful := ⟨h.lawful.identified, h.lawful.distinct, h.lawful.bounded, h.lawful.sound⟩ }
  | abandoning =>
    dsimp only
    split
    · exact .stays h
    rename_i hfree
    have hmutation : threads.mutationOwner = none := by simpa using hfree
    refine ⟨.abandons hphase hmutation, h.become ?_⟩
    exact {
      backend := fun h => by cases h
      mutation := fun _ => .inl hmutation
      reserved := fun h => by cases h
      pending := .inl le_rfl
      opened := fun _ _ h => by cases h
      closed := .inl rfl
      checked := fun _ h => by cases h
      lawful := h.lawful.abandon }
  | flushing events =>
    have hactive : threads.phases thread ≠ .idle := by rw [hphase]; exact fun h => by cases h
    cases events with
    | nil => exact .leaves h hactive (.inr ⟨hphase, rfl⟩)
    | cons event rest =>
      refine ⟨.flushes hphase, h.become ?_⟩
      exact .plain h (fun h => by cases h)
        (fun _ => .inr (h.mutation thread (hphase ▸ rfl))) (fun h => by cases h)
        (fun _ _ h => by cases h) (fun _ h => by cases h)
  | _ => exact .stays h

/-- After an answer the thread waits for `mutation_mutex_` and keeps what it holds. -/
theorem answer_moves (h : Orderly canonical threads) (hactive : threads.phases thread ≠ .idle)
    (hquiet : (threads.phases thread).writes = false) (hafter : phase.writes = false)
    (hfree : phase.holdsMutation = false)
    (hbackend : phase.holdsBackend = true → (threads.phases thread).holdsBackend = true)
    (hreserved : phase.reserves = true → (threads.phases thread).reserves = true)
    (hcourse : (threads.phases thread).shutting = false → phase.shutting = false)
    (hchecked : ∀ work, phase = .working work → work.Checked canonical) :
    Turns canonical threads action (threads.become thread phase, []) := by
  have hnone : ¬ phase.holdsMutation = true := by simp [hfree]
  refine ⟨.moves hquiet hafter hactive (fun h => absurd h hnone) ⟨rfl, rfl⟩
    (fun hother => ⟨hcourse hother, rfl⟩), h.become ?_⟩
  refine .plain h (fun hholds => .inr (h.backend thread (hbackend hholds)))
    (fun h => absurd h hnone) hreserved (fun event reply hphase => ?_) hchecked
  rw [hphase] at hafter
  cases hafter

theorem answered_turns (h : Orderly canonical threads) (thread : τ) (answer : Answer) :
    Turns canonical threads (.answer thread answer) (threads.answered thread answer) := by
  unfold answered
  cases answer with
  | started result =>
    dsimp only
    split
    next hphase =>
      refine answer_moves h ?_ ?_ rfl rfl (fun _ => ?_) (fun _ => ?_) (fun _ => rfl)
        (fun work hwork => ?_)
      · rw [hphase]; exact fun h => by cases h
      · rw [hphase]; rfl
      · rw [hphase]; rfl
      · rw [hphase]; rfl
      cases hwork
      trivial
    · exact .stays h
  | status status =>
    dsimp only
    split
    next command transferId hphase =>
      have hactive : threads.phases thread ≠ .idle := by rw [hphase]; exact fun h => by cases h
      have hquiet : (threads.phases thread).writes = false := hphase ▸ rfl
      split
      · exact .leaves h hactive (.inl hquiet)
      refine answer_moves h hactive hquiet rfl rfl (fun _ => ?_) (fun h => by cases h)
        (fun _ => rfl) (fun work hwork => ?_)
      · rw [hphase]; rfl
      cases hwork
      trivial
    next hphase =>
      exact .leaves h (by rw [hphase]; exact fun h => by cases h) (.inl (hphase ▸ rfl))
    next hphase =>
      exact answer_moves h (by rw [hphase]; exact fun h => by cases h) (hphase ▸ rfl)
        rfl rfl (fun h => by cases h) (fun h => by cases h)
        (fun h => by rw [hphase] at h; cases h) (fun _ h => by cases h)
    · exact .stays h

/-- How a call begins. -/
theorem begin_phase {request : Request} (h : request.begin canonical = .ok phase) :
    phase.holdsBackend = false ∧ phase.holdsMutation = false ∧ phase.reserves = false ∧
      phase.writes = false ∧ ∀ work, phase = .working work → work.Checked canonical := by
  cases request with
  | send path present =>
    simp only [Request.begin] at h
    split at h
    · cases h
    cases h
    exact ⟨rfl, rfl, rfl, rfl, fun _ h => by cases h⟩
  | applyIncomingOffer peerLabel offer =>
    simp only [Request.begin] at h
    split at h
    · cases h
    rename_i haccepted
    cases h
    refine ⟨rfl, rfl, rfl, rfl, fun work hwork => ?_⟩
    cases hwork
    simpa [Work.Checked] using haccepted
  | apply transferId update transferredBytes =>
    cases h
    refine ⟨rfl, rfl, rfl, rfl, fun work hwork => ?_⟩
    cases hwork
    trivial
  | command | shutdown =>
    cases h
    exact ⟨rfl, rfl, rfl, rfl, fun _ h => by cases h⟩

/-- Every action of a thread is one of the turns and keeps order. -/
theorem act_turns (h : Orderly canonical threads) (action : Action τ) :
    Turns canonical threads action (threads.act canonical action) := by
  cases action with
  | call thread request =>
    simp only [act]
    split
    next hidle =>
      split
      next hrefused => exact ⟨.refused hidle hrefused, h⟩
      rename_i phase hbegun
      obtain ⟨hbackend, hmutation, hreserves, hwrites, hchecked⟩ := begin_phase hbegun
      refine ⟨.begins rfl hidle hbegun hmutation, h.become ?_⟩
      refine .plain h (fun h => ?_) (fun h => ?_) (fun h => ?_) (fun event reply heq => ?_) hchecked
      · simp [hbackend] at h
      · simp [hmutation] at h
      · simp [hreserves] at h
      rw [heq] at hwrites
      cases hwrites
    · exact .stays h
  | proceed thread => exact proceed_turns h thread
  | answer thread answer => exact answered_turns h thread answer
  | snapshot expectedRevision offset present => exact ⟨.reads _, h⟩

theorem Orderly.step (h : Orderly canonical threads) (action : Action τ) :
    Orderly canonical (threads.step canonical action) :=
  (act_turns h action).2

theorem Orderly.turn (h : Orderly canonical threads) (action : Action τ) :
    Turn canonical threads action (threads.step canonical action)
      (threads.marks canonical action) :=
  (act_turns h action).1

/-- Every run keeps order. -/
theorem orderly_after (canonical : Bytes → Bool) (actions : List (Action τ)) :
    Orderly canonical (after canonical actions) :=
  Runs.run_invariant_all (fun _ action h => h.step action) (orderly_initial canonical) actions

end TransferThreads

end XnnTransfer.Bridge
