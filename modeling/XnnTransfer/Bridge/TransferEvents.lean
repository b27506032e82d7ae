import XnnTransfer.Library.Histories
import XnnTransfer.Bridge.TransferTurns

/-!
# The events of the transfer bridge

Whatever the threads and the backend do, the records obey their laws, every change of a
record has one event, and the events are published in the order of the changes. A call
that fails has changed nothing and published nothing.
-/

namespace XnnTransfer.Bridge

open Protocol Transfer Histories

/-- What a thread in the phase has changed and published since its call. -/
def Phase.Owes (phase : Phase) (mutated enqueued : List EventPayload) : Prop :=
  match phase with
  | .idle => True
  | .publishing event _ => mutated = [event] ∧ enqueued = []
  | .flushing events => mutated = enqueued ++ events
  | _ => mutated = [] ∧ enqueued = []

theorem Phase.owes_nil {phase : Phase} (hwrites : phase.writes = false) : phase.Owes [] [] := by
  cases phase <;> first | exact ⟨rfl, rfl⟩ | trivial

namespace TransferBridge

theorem Numbered.append {first last final : Nat} {events more : List EventPayload}
    (h : Numbered first events last) (hmore : Numbered last more final) :
    Numbered first (events ++ more) final := by
  induction events generalizing first with
  | nil => exact (show last = first from h) ▸ hmore
  | cons event rest ih => exact ⟨h.1, ih h.2⟩

/-- As long as it does not wrap, the revision counts the changes. -/
theorem Numbered.range {first last : Nat} {events : List EventPayload}
    (h : Numbered first events last) (hroom : first + events.length ≤ maximumRevision) :
    events.map EventPayload.snapshotRevision = List.range' (first + 1) events.length ∧
      last = first + events.length := by
  induction events generalizing first with
  | nil => exact ⟨rfl, h⟩
  | cons event rest ih =>
    obtain ⟨hevent, hrest⟩ := h
    rw [List.length_cons] at hroom
    have hnext : nextRevision first = first + 1 := if_neg (by omega)
    rw [hnext] at hevent hrest
    obtain ⟨hrange, hlast⟩ := ih hrest (by omega)
    rw [List.map_cons, hevent, hrange, List.length_cons, List.range'_succ]
    exact ⟨rfl, by omega⟩

end TransferBridge

namespace TransferThreads

variable {τ : Type*}

namespace Mark

def mutated? : Mark τ → Option EventPayload
  | .mutated _ event => some event
  | _ => none

def enqueued? : Mark τ → Option EventPayload
  | .enqueued _ event => some event
  | _ => none

/-- The thread that leaves the mark. -/
def thread? : Mark τ → Option τ
  | .called thread _ | .mutated thread _ | .enqueued thread _ | .returned thread _ => some thread
  | .page _ => none

def isCall : Mark τ → Bool
  | .called _ _ => true
  | _ => false

end Mark

/-- The events of the changes, in their order. -/
def mutatedIn (trace : List (Mark τ)) : List EventPayload := trace.filterMap Mark.mutated?

/-- The events as they enter the event channel. -/
def enqueuedIn (trace : List (Mark τ)) : List EventPayload := trace.filterMap Mark.enqueued?

/-- The changes that are not yet published. -/
def outbox (threads : TransferThreads τ) : List EventPayload :=
  match threads.mutationOwner with
  | none => []
  | some thread => (threads.phases thread).outbox

/-- No call is in progress. -/
def Quiet (threads : TransferThreads τ) : Prop := ∀ thread, threads.phases thread = .idle

theorem outbox_of_quiet {threads : TransferThreads τ} (h : threads.Quiet) : threads.outbox = [] := by
  unfold outbox
  split
  · rfl
  rw [h]
  rfl

theorem mutatedIn_append (first second : List (Mark τ)) :
    mutatedIn (first ++ second) = mutatedIn first ++ mutatedIn second :=
  List.filterMap_append

theorem enqueuedIn_append (first second : List (Mark τ)) :
    enqueuedIn (first ++ second) = enqueuedIn first ++ enqueuedIn second :=
  List.filterMap_append

theorem mutatedIn_map_mutated (thread : τ) (events : List EventPayload) :
    mutatedIn (events.map (Mark.mutated thread)) = events := by
  simp [mutatedIn, List.filterMap_map, Function.comp_def, Mark.mutated?]

theorem enqueuedIn_map_mutated (thread : τ) (events : List EventPayload) :
    enqueuedIn (events.map (Mark.mutated thread)) = [] := by
  simp [enqueuedIn, List.filterMap_map, Function.comp_def, Mark.enqueued?]

theorem outbox_of_free {threads : TransferThreads τ} (h : threads.mutationOwner = none) : threads.outbox = [] := by
  rw [outbox, h]

theorem outbox_of_owner {threads : TransferThreads τ} {thread : τ}
    (h : threads.mutationOwner = some thread) :
    threads.outbox = (threads.phases thread).outbox := by
  rw [outbox, h]

section Calls

variable [DecidableEq τ]

/-- What one more mark adds to the marks of the thread since its last call. -/
def sinceCallStep (thread : τ) (marks : List (Mark τ)) (mark : Mark τ) : List (Mark τ) :=
  if mark.thread? = some thread then if mark.isCall then [] else marks ++ [mark] else marks

/-- The marks of the thread since its last call. -/
def sinceCall (thread : τ) (trace : List (Mark τ)) : List (Mark τ) :=
  trace.foldl (sinceCallStep thread) []

theorem sinceCall_concat (thread : τ) (trace : List (Mark τ)) (mark : Mark τ) :
    sinceCall thread (trace ++ [mark]) = sinceCallStep thread (sinceCall thread trace) mark := by
  simp [sinceCall]

/-- The marks of other threads do not count. -/
theorem sinceCall_of_others {thread : τ} {trace marks : List (Mark τ)}
    (h : ∀ mark ∈ marks, mark.thread? ≠ some thread) :
    sinceCall thread (trace ++ marks) = sinceCall thread trace := by
  induction marks using List.reverseRecOn with
  | nil => simp
  | append_singleton marks last ih =>
    have hlast := h last (by simp)
    rw [← List.append_assoc, sinceCall_concat, sinceCallStep, if_neg hlast]
    exact ih fun mark hmark => h mark (by simp [hmark])

/-- The own marks do, up to the next call. -/
theorem sinceCall_of_own {thread : τ} {trace marks : List (Mark τ)}
    (h : ∀ mark ∈ marks, mark.thread? = some thread ∧ mark.isCall = false) :
    sinceCall thread (trace ++ marks) = sinceCall thread trace ++ marks := by
  induction marks using List.reverseRecOn with
  | nil => simp
  | append_singleton marks last ih =>
    obtain ⟨hthread, hcall⟩ := h last (by simp)
    rw [← List.append_assoc, sinceCall_concat, sinceCallStep, if_pos hthread, hcall,
      if_neg (by simp), ih fun mark hmark => h mark (by simp [hmark]), List.append_assoc]

/-- A call that returns has published what it has changed; one that fails has changed
nothing, and only `Shutdown` changes more than one record. -/
def Kept (before : List (Mark τ)) : Mark τ → Prop
  | .returned thread outcome =>
    mutatedIn (sinceCall thread before) = enqueuedIn (sinceCall thread before) ∧
    (outcome.succeeded = false → mutatedIn (sinceCall thread before) = []) ∧
    (outcome ≠ .done → (mutatedIn (sinceCall thread before)).length ≤ 1)
  | _ => True

/-- What every thread owes after the marks of a run. -/
def Owing (trace : List (Mark τ)) (threads : TransferThreads τ) : Prop :=
  ∀ thread, (threads.phases thread).Owes (mutatedIn (sinceCall thread trace))
    (enqueuedIn (sinceCall thread trace))

variable {canonical : Bytes → Bool} {threads threads' : TransferThreads τ} {thread : τ}
  {trace marks : List (Mark τ)} {action : Action τ}

/-! ### The log of the changes -/

/-- A thread that takes up a phase with `mutation_mutex_` has the changes under way. -/
theorem outbox_become_of_holds {bridge : TransferBridge} {phase : Phase}
    (h : phase.holdsMutation = true) :
    ({ threads with bridge := bridge }.become thread phase).outbox = phase.outbox := by
  simp [outbox, become, ownerAfter, h]

variable {bridge : TransferBridge} {phase : Phase}

theorem outbox_become_released {bridge : TransferBridge} {phase : Phase}
    (h : phase.holdsMutation = false) (howner : threads.mutationOwner = some thread) :
    ({ threads with bridge := bridge }.become thread phase).outbox = [] := by
  simp [outbox, become, ownerAfter, h, howner]

/-- A turn of a thread with nothing to publish before or after it leaves the changes under
way as they are. -/
theorem outbox_become_of_none {bridge : TransferBridge} {phase : Phase}
    (hbefore : (threads.phases thread).outbox = []) (hafter : phase.outbox = [])
    (havailable : phase.holdsMutation = true → Available threads.mutationOwner thread) :
    ({ threads with bridge := bridge }.become thread phase).outbox = threads.outbox := by
  cases hholds : phase.holdsMutation with
  | true =>
    rw [outbox_become_of_holds hholds, hafter]
    rcases havailable hholds with hnone | hsame
    · exact (outbox_of_free hnone).symm
    · exact ((outbox_of_owner hsame).trans hbefore).symm
  | false =>
    by_cases howner : threads.mutationOwner = some thread
    · rw [outbox_become_released hholds howner, outbox_of_owner howner, hbefore]
    simp only [outbox, become, ownerAfter, hholds, Bool.false_eq_true, if_false, howner]
    cases hother : threads.mutationOwner with
    | none => rfl
    | some other =>
      have hne : other ≠ thread := fun heq => howner (heq ▸ hother)
      simp [Function.update_of_ne hne]

theorem Turn.log (h : Orderly canonical threads) (hturn : Turn canonical threads action threads' marks) :
    TransferBridge.Advances threads.bridge threads'.bridge (mutatedIn marks) ∧
      threads.outbox ++ mutatedIn marks = enqueuedIn marks ++ threads'.outbox := by
  cases hturn with
  | stays | reads | refused => exact ⟨.quiet rfl rfl, List.append_nil threads.outbox⟩
  | @begins thread request phase acts idle begun free =>
    refine ⟨.quiet rfl rfl, ?_⟩
    have hsame := @outbox_become_of_none _ _ threads thread threads.bridge phase
      (idle ▸ rfl) (Phase.outbox_of_not_holdsMutation free) (by simp [free])
    exact (List.append_nil _).trans hsame.symm
  | @moves thread bridge phase before after active available same course =>
    refine ⟨.quiet same.1 same.2, ?_⟩
    have hsame := @outbox_become_of_none _ _ threads thread bridge phase
      (Phase.outbox_of_not_writes before) (Phase.outbox_of_not_writes after) available
    exact (List.append_nil _).trans hsame.symm
  | @returns thread bridge outcome active settled same opened =>
    refine ⟨.quiet same.1 same.2, ?_⟩
    have hempty : (threads.phases thread).outbox = [] := by
      rcases settled with hquiet | ⟨hflushed, -⟩
      · exact Phase.outbox_of_not_writes hquiet
      rw [hflushed]
      rfl
    have hsame := @outbox_become_of_none _ _ threads thread bridge .idle hempty rfl
      nofun
    exact (List.append_nil _).trans hsame.symm
  | @mutates thread work bridge event reply acts working free mutation =>
    obtain ⟨hrecords, hrevision, -⟩ := unreserve_same threads.bridge work
    have hadvances := TransferBridge.Advances.mutation (lawful_unreserve h.lawful work) mutation
    refine ⟨?_, ?_⟩
    · have hfind : (threads.bridge.unreserve work).find = threads.bridge.find := by
        unfold TransferBridge.find
        rw [hrecords]
      refine ⟨hfind ▸ hadvances.told, hrevision ▸ hadvances.numbered, ?_⟩
      exact (TransferBridge.Follows.of_find hfind).trans hadvances.follows
    rw [outbox_of_free free, outbox_become_of_holds rfl]
    rfl
  | @publishes thread event reply publishing =>
    have howner := h.mutation thread (publishing ▸ rfl)
    refine ⟨.quiet rfl rfl, ?_⟩
    rw [outbox_of_owner howner, publishing]
    have hafter := @outbox_become_released _ _ threads thread threads.bridge .idle rfl howner
    exact congrArg ([event] ++ ·) hafter.symm
  | @abandons thread abandoning free =>
    rw [mutatedIn_map_mutated, enqueuedIn_map_mutated, outbox_of_free free,
      outbox_become_of_holds rfl]
    exact ⟨.abandon h.lawful, rfl⟩
  | @flushes thread event rest flushing =>
    have howner := h.mutation thread (flushing ▸ rfl)
    refine ⟨.quiet rfl rfl, ?_⟩
    rw [outbox_of_owner howner, flushing]
    have hafter := @outbox_become_of_holds _ _ threads thread threads.bridge (.flushing rest) rfl
    exact (List.append_nil _).trans (congrArg (event :: ·) hafter.symm)

/-! ### What a call has done -/

theorem Owing.become (h : Owing trace threads) (hmarks : ∀ mark ∈ marks, mark.thread? = some thread)
    (hself : phase.Owes (mutatedIn (sinceCall thread (trace ++ marks)))
      (enqueuedIn (sinceCall thread (trace ++ marks)))) :
    Owing (trace ++ marks) ({ threads with bridge := bridge }.become thread phase) := by
  intro other
  by_cases hother : other = thread
  · subst hother
    simpa [TransferThreads.become] using hself
  have hothers : ∀ mark ∈ marks, mark.thread? ≠ some other := by
    intro mark hmark hsame
    rw [hmarks mark hmark] at hsame
    exact hother (Option.some.inj hsame).symm
  rw [sinceCall_of_others hothers]
  simpa [TransferThreads.become, Function.update_of_ne hother] using h other

theorem sinceCall_called (thread : τ) (trace : List (Mark τ)) (request : Request) :
    sinceCall thread (trace ++ [.called thread request]) = [] := by
  simp [sinceCall_concat, sinceCallStep, Mark.thread?, Mark.isCall]

/-- A thread in a phase without changes has done nothing since its call. -/
theorem Owing.nothing (h : Owing trace threads) (thread : τ)
    (hactive : threads.phases thread ≠ .idle)
    (hquiet : (threads.phases thread).writes = false) :
    mutatedIn (sinceCall thread trace) = [] ∧ enqueuedIn (sinceCall thread trace) = [] := by
  have howed := h thread
  generalize threads.phases thread = phase at howed hactive hquiet
  cases phase <;> first | exact absurd rfl hactive | exact howed | cases hquiet

theorem Turn.owing (hturn : Turn canonical threads action threads' marks) (h : Owing trace threads) :
    Owing (trace ++ marks) threads' := by
  cases hturn with
  | stays => simpa using h
  | reads result =>
    intro other
    rw [sinceCall_of_others (by simp [Mark.thread?])]
    exact h other
  | @refused thread request outcome idle refused =>
    intro other
    by_cases hother : other = thread
    · rw [hother, idle]
      trivial
    rw [sinceCall_of_others (by simp [Mark.thread?, Ne.symm hother])]
    exact h other
  | @begins thread request phase acts idle begun free =>
    refine h.become (by simp [Mark.thread?]) ?_
    rw [sinceCall_called]
    exact Phase.owes_nil (begin_phase begun).2.2.2.1
  | @moves thread bridge phase before after active available same course =>
    refine h.become (by simp) ?_
    obtain ⟨hmutated, henqueued⟩ := h.nothing thread active before
    rw [List.append_nil, hmutated, henqueued]
    exact Phase.owes_nil after
  | returns | publishes => exact h.become (by simp [Mark.thread?]) trivial
  | @mutates thread work bridge event reply acts working free mutation =>
    refine h.become (by simp [Mark.thread?]) ?_
    obtain ⟨hmutated, henqueued⟩ := h.nothing thread
      (by rw [working]; exact nofun) (working ▸ rfl)
    rw [sinceCall_of_own (by simp [Mark.thread?, Mark.isCall]), mutatedIn_append,
      enqueuedIn_append, hmutated, henqueued]
    exact ⟨rfl, rfl⟩
  | @abandons thread abandoning free =>
    refine h.become (by simp [Mark.thread?]) ?_
    obtain ⟨hmutated, henqueued⟩ := h.nothing thread
      (by rw [abandoning]; exact nofun) (abandoning ▸ rfl)
    rw [sinceCall_of_own (by simp [Mark.thread?, Mark.isCall]), mutatedIn_append,
      enqueuedIn_append, hmutated, henqueued, mutatedIn_map_mutated, enqueuedIn_map_mutated]
    rfl
  | @flushes thread event rest flushing =>
    refine h.become (by simp [Mark.thread?]) ?_
    have howed := h thread
    rw [flushing] at howed
    rw [sinceCall_of_own (by simp [Mark.thread?, Mark.isCall]), mutatedIn_append, enqueuedIn_append]
    change mutatedIn _ ++ [] = enqueuedIn _ ++ [event] ++ rest
    rw [List.append_nil, List.append_assoc]
    exact howed

theorem Turn.kept (hturn : Turn canonical threads action threads' marks) (howing : Owing trace threads)
    (h : Along Kept trace) : Along Kept (trace ++ marks) := by
  cases hturn with
  | stays | moves => simpa using h
  | reads | begins | mutates | flushes => exact along_concat.mpr ⟨h, trivial⟩
  | @refused thread request outcome idle refused =>
    rw [List.append_cons, along_concat, along_concat]
    refine ⟨⟨h, trivial⟩, ?_⟩
    rw [Kept, sinceCall_called]
    exact ⟨rfl, fun _ => rfl, fun _ => Nat.zero_le 1⟩
  | @returns thread bridge outcome active settled same opened =>
    refine along_concat.mpr ⟨h, ?_⟩
    rcases settled with hquiet | ⟨hflushed, rfl⟩
    · obtain ⟨hmutated, henqueued⟩ := howing.nothing thread active hquiet
      rw [Kept, hmutated, henqueued]
      exact ⟨rfl, fun _ => rfl, fun _ => Nat.zero_le 1⟩
    have howed := howing thread
    rw [hflushed] at howed
    refine ⟨?_, fun hfailed => ?_, fun hdone => absurd rfl hdone⟩
    · exact (show mutatedIn _ = enqueuedIn _ ++ [] from howed).trans (List.append_nil _)
    · cases hfailed
  | @publishes thread event reply publishing =>
    have howed := howing thread
    rw [publishing] at howed
    obtain ⟨hmutated, henqueued⟩ := howed
    rw [List.append_cons, along_concat, along_concat]
    refine ⟨⟨h, trivial⟩, ?_⟩
    rw [Kept, sinceCall_of_own (by simp [Mark.thread?, Mark.isCall]), mutatedIn_append,
      enqueuedIn_append, hmutated, henqueued]
    refine ⟨rfl, fun hfailed => ?_, fun _ => le_rfl⟩
    cases reply <;> cases hfailed
  | @abandons thread abandoning free =>
    refine along_append h fun before mark hmark => ?_
    obtain ⟨event, -, rfl⟩ := List.mem_map.mp (hmark.subset (List.mem_append_right _
      (List.mem_singleton_self mark)))
    trivial

/-! ### Whole runs -/

/-- What a run has shown and where it has led. -/
structure Recorded (canonical : Bytes → Bool) (trace : List (Mark τ))
    (threads : TransferThreads τ) : Prop where
  orderly : Orderly canonical threads
  published : mutatedIn trace = enqueuedIn trace ++ threads.outbox
  numbered : TransferBridge.Numbered 1 (mutatedIn trace) threads.bridge.revision
  told : threads.bridge.find = recordsTold (mutatedIn trace)
  owing : Owing trace threads
  kept : Along Kept trace

theorem Recorded.step (h : Recorded canonical trace threads) (action : Action τ) :
    Recorded canonical (trace ++ threads.marks canonical action)
      (threads.step canonical action) := by
  have hturn := h.orderly.turn action
  obtain ⟨hadvances, hpublished⟩ := hturn.log h.orderly
  refine ⟨h.orderly.step action, ?_, ?_, ?_, hturn.owing h.owing, hturn.kept h.owing h.kept⟩
  · calc mutatedIn (trace ++ threads.marks canonical action)
        = enqueuedIn trace ++ (threads.outbox ++ mutatedIn (threads.marks canonical action)) := by
          rw [mutatedIn_append, h.published, List.append_assoc]
      _ = enqueuedIn trace ++ (enqueuedIn (threads.marks canonical action) ++
            (threads.step canonical action).outbox) := by rw [hpublished]
      _ = enqueuedIn (trace ++ threads.marks canonical action) ++
            (threads.step canonical action).outbox := by
          rw [enqueuedIn_append, List.append_assoc]
  · rw [mutatedIn_append]
    exact h.numbered.append hadvances.numbered
  rw [hadvances.told, h.told, recordsTold, recordsTold, KeyedLog.view, KeyedLog.view,
    mutatedIn_append, List.map_append, Runs.run_append]

theorem recorded_after (canonical : Bytes → Bool) (actions : List (Action τ)) :
    Recorded canonical (observed canonical actions) (after canonical actions) :=
  Runs.run_history_all (P := Recorded canonical) (fun _ _ action h => h.step action)
    ⟨orderly_initial canonical, rfl, rfl, rfl, fun _ => trivial, along_nil Kept⟩ actions

/-- From any point of a run on, the records go on as they should. -/
theorem follows_after (canonical : Bytes → Bool) (earlier later : List (Action τ)) :
    TransferBridge.Follows (after canonical earlier).bridge
      (after canonical (earlier ++ later)).bridge := by
  unfold after
  rw [Runs.run_append]
  let R (first second : TransferThreads τ) : Prop :=
    TransferBridge.Follows first.bridge second.bridge
  exact Runs.run_related (R := R) (fun threads => .refl threads.bridge)
    (fun _ _ _ => TransferBridge.Follows.trans) (fun _ action h => Orderly.step h action)
    (fun _ action h => ((h.turn action).log h).1.follows) (orderly_after canonical earlier) later

/-- In every run the records obey their laws; a terminal record stays, and counts of bytes
do not go back. The changes have the revisions from 2 on, each change has one event, and the
events are published in the order of the changes, so that they tell the records. Whenever a
call returns, it has published its changes, and there are none if it fails. -/
theorem run_records (canonical : Bytes → Bool) (actions : List (Action τ))
    (hwrap : (mutatedIn (observed canonical actions)).length < maximumRevision) :
    (after canonical actions).bridge.Lawful ∧
    (∀ earlier later, actions = earlier ++ later → TransferBridge.Follows
      (after canonical earlier).bridge (after canonical actions).bridge) ∧
    (mutatedIn (observed canonical actions)).map EventPayload.snapshotRevision =
      List.range' 2 (mutatedIn (observed canonical actions)).length ∧
    (after canonical actions).bridge.revision =
      1 + (mutatedIn (observed canonical actions)).length ∧
    mutatedIn (observed canonical actions) =
      enqueuedIn (observed canonical actions) ++ (after canonical actions).outbox ∧
    (after canonical actions).bridge.find = recordsTold (mutatedIn (observed canonical actions)) ∧
    ((after canonical actions).Quiet →
      enqueuedIn (observed canonical actions) = mutatedIn (observed canonical actions)) ∧
    Along Kept (observed canonical actions) := by
  have h := recorded_after canonical actions
  obtain ⟨hrevisions, hlast⟩ := h.numbered.range (by omega)
  refine ⟨h.orderly.lawful, ?_, hrevisions, hlast, h.published, h.told, fun hquiet => ?_, h.kept⟩
  · rintro earlier later rfl
    exact follows_after canonical earlier later
  · rw [h.published, outbox_of_quiet hquiet, List.append_nil]

end Calls

/-- A transfer is sent while another is offered and accepted. -/
def crossing : List (Action Bool) :=
  let offer : IncomingOffer :=
    { transferId := [2], relativePath := [97], fileSize := 7, displayName := [97] }
  [.call true (.send [47] true), .proceed true, .call false (.applyIncomingOffer [] offer),
    .proceed false, .answer true (.started { status := .ok, transferId := [1], totalBytes := 5 }),
    .proceed true, .proceed false, .proceed true, .proceed true,
    .call false (.command .accept [2]), .proceed false, .answer false (.status .ok),
    .proceed false, .proceed false, .call true (.apply [2] { state := .completed } 7),
    .proceed true]

theorem run_records_crossing :
    (enqueuedIn (observed (fun _ => true) crossing)).map (fun event =>
        (event.transferId, event.state, event.snapshotRevision)) =
      [([2], .offered, 2), ([1], .queued, 3), ([2], .queued, 4)] ∧
    (after (fun _ => true) crossing).bridge.find =
      recordsTold (mutatedIn (observed (fun _ => true) crossing)) :=
  ⟨by decide +kernel, (run_records (fun _ => true) crossing (by decide +kernel)).2.2.2.2.2.1⟩

end TransferThreads

end XnnTransfer.Bridge
