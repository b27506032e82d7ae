import XnnTransfer.Library.Histories
import XnnTransfer.Bridge.EventChannel

/-!
# Order and loss in the event queue

Whatever the threads do, events leave the queue in the order in which they entered
it, and none is lost silently: behind every dropped event there is a later one that
says so. A flagged event can be dropped itself; then the event that displaced it
carries the flag in its place.
-/

namespace XnnTransfer.Bridge

open Histories

namespace Mark

variable {ε κ τ : Type*}

/-- The event that entered the queue. -/
def enqueued? : Mark ε κ τ → Option (QueuedEvent ε)
  | .enqueued event _ _ => some event
  | _ => none

/-- The event that left the queue by a poll. -/
def polled? : Mark ε κ τ → Option (QueuedEvent ε)
  | .polled _ event => some event
  | _ => none

end Mark

namespace Threads

variable {ε κ τ : Type*}

/-- The list of what an action can do to the channel and to the threads, and of what is then
to be seen. -/
inductive Effect [DecidableEq τ] (threads : Threads ε κ τ) :
    Threads ε κ τ → List (Mark ε κ τ) → Prop
  | unchanged : Effect threads threads []
  | enqueued (thread : τ) (event : QueuedEvent ε) (plain : event.eventsDroppedBefore = false)
      (accepting : threads.channel.eventsOpen = true) :
      Effect threads (threads.invoke thread (threads.channel.enqueueLocked event thread))
        [.enqueued (threads.channel.numbered event) threads.channel.displaced
          threads.channel.wasEmpty]
  | polled (thread : τ) (filled : threads.channel.queue.size ≠ 0) :
      Effect threads { threads with
        channel := { threads.channel with queue := threads.channel.queue.advance } }
        [.polled thread threads.channel.queue.front]
  | clearing (thread : τ) :
      Effect threads ({ threads with channel := threads.channel.clearCallback }.push thread
        (.removing threads.registrations)) []
  | cleared (thread : τ) (ready : threads.channel.mustWait thread = false) :
      Effect threads { threads with channel := threads.channel.clearCallback }
        [.removed thread threads.registrations (threads.inside thread)]
  | registered (thread : τ) (target : κ) (accepted : threads.channel.refusesCallback = false) :
      Effect threads ({ threads with registrations := threads.registrations + 1 }.invoke thread
        (threads.channel.registerCallback target thread))
        [.registered (threads.registrations + 1) target]
  | closing : Effect threads { threads with channel := threads.channel.beginShutdown } []
  | finishing (thread : τ) :
      Effect threads
        ({ threads with channel := threads.channel.closeEvents }.push thread .finishing) []
  | finished (thread : τ) (ready : threads.channel.mustWait thread = false) :
      Effect threads { threads with channel := threads.channel.closeEvents.clearCallback }
        [.shutDown thread (threads.inside thread)]
  | called (thread : τ) {target : κ} {registration : Nat} {rest : List (Frame κ)}
      (prepared : threads.frames thread = .invoking target registration :: rest) :
      Effect threads (threads.setStack thread (.running target registration :: rest))
        [.started thread registration target]
  | returned (thread : τ) {target : κ} {registration : Nat} {rest : List (Frame κ)}
      (running : threads.frames thread = .running target registration :: rest) :
      Effect threads ((threads.setStack thread rest).invoke thread
        (threads.channel.callbackReturned thread)) [.ended thread registration]
  | resumed (thread : τ) {registrations : Nat} {rest : List (Frame κ)}
      (idle : threads.channel.callbackActive = false)
      (waiting : threads.frames thread = .removing registrations :: rest) :
      Effect threads (threads.setStack thread rest)
        [.removed thread registrations ((threads.setStack thread rest).inside thread)]
  | resumedShutdown (thread : τ) {rest : List (Frame κ)}
      (idle : threads.channel.callbackActive = false)
      (waiting : threads.frames thread = .finishing :: rest) :
      Effect threads
        { threads.setStack thread rest with channel := threads.channel.clearCallback }
        [.shutDown thread ((threads.setStack thread rest).inside thread)]

/-- What one action can do to the queue. -/
inductive QueueStep (threads threads' : Threads ε κ τ) : List (Mark ε κ τ) → Prop
  | quiet {marks : List (Mark ε κ τ)}
      (same : threads'.channel.queue = threads.channel.queue ∧
        threads'.channel.nextSequence = threads.channel.nextSequence)
      (marked : ∀ mark ∈ marks, mark.enqueued? = none ∧ mark.polled? = none) :
      QueueStep threads threads' marks
  | stored (event : QueuedEvent ε) (plain : event.eventsDroppedBefore = false)
      (after : threads'.channel.queue = threads.channel.queue.makeRoom.push
          (threads.channel.numbered event) threads.channel.queue.size_makeRoom_lt ∧
        threads'.channel.nextSequence = threads.channel.nextSequence + 1) :
      QueueStep threads threads'
        [.enqueued (threads.channel.numbered event) threads.channel.displaced
          threads.channel.wasEmpty]
  | taken (thread : τ) (filled : threads.channel.queue.size ≠ 0)
      (after : threads'.channel.queue = threads.channel.queue.advance ∧
        threads'.channel.nextSequence = threads.channel.nextSequence) :
      QueueStep threads threads' [.polled thread threads.channel.queue.front]

theorem prepare_queue (channel : EventChannel ε κ τ) (thread : τ) :
    (channel.prepareCallbackLocked thread).2.queue = channel.queue ∧
      (channel.prepareCallbackLocked thread).2.nextSequence = channel.nextSequence := by
  unfold EventChannel.prepareCallbackLocked
  split <;> exact ⟨rfl, rfl⟩

/-- An open channel stores every event. -/
theorem enqueueLocked_queue (channel : EventChannel ε κ τ) (event : QueuedEvent ε) (thread : τ)
    (hopen : channel.eventsOpen = true) :
    (channel.enqueueLocked event thread).2.queue = channel.queue.makeRoom.push
        (channel.numbered event) channel.queue.size_makeRoom_lt ∧
      (channel.enqueueLocked event thread).2.nextSequence = channel.nextSequence + 1 := by
  simp only [EventChannel.enqueueLocked, hopen, Bool.true_eq_false, if_false]
  split
  · split
    · exact ⟨rfl, rfl⟩
    · exact prepare_queue _ thread
  · exact ⟨rfl, rfl⟩

theorem enqueueLocked_eventsOpen (channel : EventChannel ε κ τ) (event : QueuedEvent ε)
    (thread : τ) :
    (channel.enqueueLocked event thread).2.eventsOpen = channel.eventsOpen := by
  simp only [EventChannel.enqueueLocked, EventChannel.prepareCallbackLocked]
  repeat' split
  all_goals rfl

section Acting

variable [DecidableEq τ]

theorem invoke_channel (threads : Threads ε κ τ) (thread : τ)
    (outcome : Option κ × EventChannel ε κ τ) :
    (threads.invoke thread outcome).channel = outcome.2 := by
  rcases outcome with ⟨_ | target, channel⟩ <;> rfl

theorem act_effect (threads : Threads ε κ τ) (action : Action ε κ τ) :
    Effect threads (threads.step action) (threads.marks action) := by
  unfold step marks
  cases action with
  | enqueue thread type payload =>
    simp only [act]
    split
    · split
      · exact .enqueued thread (eventOf type payload) rfl ‹_›
      rename_i hclosed
      simp only [EventChannel.enqueueLocked, Bool.eq_false_of_not_eq_true hclosed, if_true]
      exact .unchanged
    · exact .unchanged
  | poll thread =>
    simp only [act, EventChannel.poll]
    split
    · split
      · exact .unchanged
      rename_i hpoll
      split at hpoll
      · cases hpoll
      · cases hpoll
        exact .polled thread ‹_›
    · exact .unchanged
  | setCallback thread config =>
    cases config with
    | none =>
      simp only [act]
      split
      · split
        · exact .clearing thread
        · exact .cleared thread (Bool.eq_false_of_not_eq_true ‹_›)
      · exact .unchanged
    | some target =>
      simp only [act]
      split
      · rename_i haccepted
        exact .registered thread target haccepted.2
      · exact .unchanged
  | beginShutdown thread =>
    simp only [act]
    split
    · exact .closing
    · exact .unchanged
  | finishShutdown thread =>
    simp only [act]
    split
    · split
      · exact .finishing thread
      · exact .finished thread (Bool.eq_false_of_not_eq_true ‹_›)
    · exact .unchanged
  | call thread =>
    simp only [act]
    split
    · exact .called thread ‹_›
    · exact .unchanged
  | callbackReturns thread =>
    simp only [act]
    split
    · exact .returned thread ‹_›
    · exact .unchanged
  | wake thread =>
    simp only [act]
    split
    · exact .unchanged
    rename_i hactive
    split
    · exact .resumed thread (Bool.eq_false_of_not_eq_true hactive) ‹_›
    · exact .resumedShutdown thread (Bool.eq_false_of_not_eq_true hactive) ‹_›
    · exact .unchanged

end Acting

/-- The events that entered the queue, in order. -/
def enqueuedIn (history : List (Mark ε κ τ)) : List (QueuedEvent ε) :=
  history.filterMap Mark.enqueued?

/-- The events that `Poll` returned, in order. -/
def polledIn (history : List (Mark ε κ τ)) : List (QueuedEvent ε) :=
  history.filterMap Mark.polled?

/-- For every event that was dropped there is a later one with the flag, in the queue or
returned by a poll after the drop. -/
def LossReported (history : List (Mark ε κ τ)) (contents : List (QueuedEvent ε)) : Prop :=
  ∀ before event dropped wasEmpty after,
    history = before ++ .enqueued event (some dropped) wasEmpty :: after →
    ∃ report : QueuedEvent ε, report.eventsDroppedBefore = true ∧
      dropped.sequence < report.sequence ∧
      (report ∈ contents ∨ ∃ thread, .polled thread report ∈ after)

/-- An event carries the flag exactly if an older event was dropped when it entered. -/
def FlagExplained (before : List (Mark ε κ τ)) : Mark ε κ τ → Prop
  | .enqueued event dropped _ =>
    (event.eventsDroppedBefore = true ↔ dropped.isSome = true) ∧
      ∀ old ∈ dropped, old ∈ enqueuedIn before ∧ old.sequence < event.sequence
  | _ => True

/-- The order of the queue, for a history and the channel it led to. -/
structure Orderly (history : List (Mark ε κ τ)) (threads : Threads ε κ τ) : Prop where
  next : threads.channel.nextSequence = UInt64.ofNat ((enqueuedIn history).length + 1)
  numbers : (enqueuedIn history).map QueuedEvent.sequence =
    (List.range (enqueuedIn history).length).map fun index => UInt64.ofNat (index + 1)
  order : (polledIn history ++ threads.channel.queue.contents).Sublist (enqueuedIn history)

variable {history : List (Mark ε κ τ)} {threads threads' : Threads ε κ τ}
  {contents contents' : List (QueuedEvent ε)}

theorem enqueuedIn_append (history more : List (Mark ε κ τ)) :
    enqueuedIn (history ++ more) = enqueuedIn history ++ enqueuedIn more :=
  List.filterMap_append

theorem polledIn_append (history more : List (Mark ε κ τ)) :
    polledIn (history ++ more) = polledIn history ++ polledIn more :=
  List.filterMap_append

/-- The contents are the event that would give way and the rest. -/
theorem contents_displaced (channel : EventChannel ε κ τ) :
    channel.queue.contents = channel.displaced.toList ++ channel.queue.makeRoom.contents := by
  unfold EventChannel.displaced
  split
  · rename_i hfull
    exact channel.queue.contents_makeRoom_of_full hfull
  rename_i hroom
  rw [channel.queue.makeRoom_of_room hroom]
  rfl

theorem Orderly.step (h : Orderly history threads) {marks : List (Mark ε κ τ)}
    (hstep : QueueStep threads threads' marks) : Orderly (history ++ marks) threads' := by
  cases hstep with
  | quiet hsame hmarks =>
    have henqueued : enqueuedIn marks = [] :=
      List.filterMap_eq_nil_iff.mpr fun mark hmark => (hmarks mark hmark).1
    have hpolled : polledIn marks = [] :=
      List.filterMap_eq_nil_iff.mpr fun mark hmark => (hmarks mark hmark).2
    have hhistory : enqueuedIn (history ++ marks) = enqueuedIn history := by
      rw [enqueuedIn_append, henqueued, List.append_nil]
    refine ⟨?_, ?_, ?_⟩
    · rw [hhistory, hsame.2, h.next]
    · rw [hhistory, h.numbers]
    rw [hhistory, polledIn_append, hpolled, List.append_nil, hsame.1]
    exact h.order
  | stored event hplain hafter =>
    have hhistory : enqueuedIn (history ++ [.enqueued (threads.channel.numbered event)
        threads.channel.displaced threads.channel.wasEmpty]) =
        enqueuedIn history ++ [threads.channel.numbered event] := enqueuedIn_append ..
    refine ⟨?_, ?_, ?_⟩
    · rw [hhistory, hafter.2, h.next, List.length_append, List.length_singleton]
      apply UInt64.toNat_inj.mp
      simp
    · rw [hhistory, List.length_append, List.length_singleton, List.range_succ, List.map_append,
        List.map_append, h.numbers]
      simp only [List.map_singleton, EventChannel.numbered, h.next]
    rw [hhistory, polledIn_append, hafter.1, RingBuffer.contents_push]
    have horder := h.order
    rw [contents_displaced] at horder
    have hkept : (polledIn history ++ threads.channel.queue.makeRoom.contents).Sublist
        (enqueuedIn history) :=
      ((List.sublist_append_right _ _).append_left _).trans horder
    rw [show polledIn ([.enqueued (threads.channel.numbered event) threads.channel.displaced
      threads.channel.wasEmpty] : List (Mark ε κ τ)) = [] from rfl, List.append_nil,
      ← List.append_assoc]
    exact hkept.append (List.Sublist.refl _)
  | taken thread hfilled hafter =>
    have horder := h.order
    rw [RingBuffer.contents_advance _ hfilled] at horder
    have hhistory : enqueuedIn (history ++ [.polled thread threads.channel.queue.front]) =
        enqueuedIn history := by
      rw [enqueuedIn_append]
      exact List.append_nil _
    refine ⟨?_, ?_, ?_⟩
    · rw [hhistory, hafter.2, h.next]
    · rw [hhistory, h.numbers]
    rw [hhistory, polledIn_append, hafter.1, List.append_assoc]
    exact horder

theorem ofNat_lt_ofNat {first second : Nat} (hlt : first < second) (hsecond : second < 2 ^ 64) :
    UInt64.ofNat first < UInt64.ofNat second := by
  rw [UInt64.lt_iff_toNat_lt, UInt64.toNat_ofNat_of_lt' (hlt.trans hsecond),
    UInt64.toNat_ofNat_of_lt' hsecond]
  exact hlt

/-- The numbers of the events that entered are smaller than the next one, as long as the
numbers do not wrap around. -/
theorem Orderly.lt_next (h : Orderly history threads)
    (hcount : (enqueuedIn history).length + 1 < 2 ^ 64) {event : QueuedEvent ε}
    (hevent : event ∈ enqueuedIn history) :
    event.sequence < threads.channel.nextSequence := by
  have hnumber := List.mem_map_of_mem (f := QueuedEvent.sequence) hevent
  rw [h.numbers] at hnumber
  obtain ⟨index, hindex, hsequence⟩ := List.mem_map.mp hnumber
  have hlt := List.mem_range.mp hindex
  rw [h.next, ← hsequence]
  exact ofNat_lt_ofNat (Nat.add_lt_add_right hlt 1) hcount

/-- The numbers of the events that entered increase, as long as they do not wrap around. -/
theorem Orderly.increasing (h : Orderly history threads)
    (hcount : (enqueuedIn history).length < 2 ^ 64) :
    (enqueuedIn history).Pairwise fun first second => first.sequence < second.sequence := by
  rw [← List.pairwise_map (f := QueuedEvent.sequence) (R := (· < ·)), h.numbers, List.pairwise_map]
  refine List.pairwise_lt_range.imp_of_mem ?_
  intro first second _ hsecond hlt
  have hbound := List.mem_range.mp hsecond
  exact ofNat_lt_ofNat (Nat.add_lt_add_right hlt 1) (by omega)

/-- A mark that is not of an entering event keeps the report of every loss, if the events
that leave the queue are polled. -/
theorem LossReported.concat (h : LossReported history contents) {mark : Mark ε κ τ}
    (hmark : mark.enqueued? = none)
    (hkept : ∀ report ∈ contents, report ∈ contents' ∨ ∃ thread, mark = .polled thread report) :
    LossReported (history ++ [mark]) contents' := by
  intro before event dropped wasEmpty after heq
  rcases concat_eq_append_cons heq with ⟨-, -, rfl⟩ | ⟨earlier, rfl, hhistory⟩
  · cases hmark
  obtain ⟨report, hflag, hlater, hplace⟩ := h before event dropped wasEmpty earlier hhistory
  refine ⟨report, hflag, hlater, ?_⟩
  rcases hplace with hqueued | ⟨thread, hpolled⟩
  · rcases hkept report hqueued with hstill | ⟨thread, rfl⟩
    · exact .inl hstill
    · exact .inr ⟨thread, List.mem_append_right _ (List.mem_singleton_self _)⟩
  · exact .inr ⟨thread, List.mem_append_left _ hpolled⟩

theorem LossReported.silent (h : LossReported history contents) {marks : List (Mark ε κ τ)}
    (hmarks : ∀ mark ∈ marks, mark.enqueued? = none) :
    LossReported (history ++ marks) contents := by
  induction marks using List.reverseRecOn with
  | nil => rwa [List.append_nil]
  | append_singleton marks last ih =>
    rw [← List.append_assoc]
    have hbefore := ih fun mark hmark => hmarks mark (List.mem_append_left _ hmark)
    exact hbefore.concat (hmarks last (by simp)) fun report hreport => .inl hreport

/-- An entering event takes over the report of a loss from an event that it displaces. -/
theorem LossReported.enqueued (h : LossReported history contents) {event : QueuedEvent ε}
    {dropped : Option (QueuedEvent ε)} {kept : List (QueuedEvent ε)} {wasEmpty : Bool}
    (hcontents : contents = dropped.toList ++ kept)
    (hflag : dropped.isSome = true → event.eventsDroppedBefore = true)
    (hlater : ∀ old ∈ contents, old.sequence < event.sequence) :
    LossReported (history ++ [.enqueued event dropped wasEmpty]) (kept ++ [event]) := by
  have hlast : event ∈ kept ++ [event] := List.mem_append_right _ (List.mem_singleton_self _)
  intro before entered old wasEmpty' after heq
  rcases concat_eq_append_cons heq with ⟨-, -, hentry⟩ | ⟨earlier, rfl, hhistory⟩
  · cases hentry
    refine ⟨event, hflag rfl, hlater old ?_, .inl hlast⟩
    rw [hcontents]
    exact List.mem_append_left _ (List.mem_singleton_self old)
  obtain ⟨report, hreported, hbehind, hplace⟩ := h before entered old wasEmpty' earlier hhistory
  rcases hplace with hqueued | ⟨thread, hpolled⟩
  · have hmem := hqueued
    rw [hcontents] at hmem
    rcases List.mem_append.mp hmem with hgone | hstill
    · have hdropped : dropped.isSome = true :=
        Option.isSome_iff_exists.mpr ⟨report, Option.mem_toList.mp hgone⟩
      exact ⟨event, hflag hdropped, UInt64.lt_trans hbehind (hlater report hqueued), .inl hlast⟩
    · exact ⟨report, hreported, hbehind, .inl (List.mem_append_left _ hstill)⟩
  · exact ⟨report, hreported, hbehind, .inr ⟨thread, List.mem_append_left _ hpolled⟩⟩

/-- What holds of the queue as long as fewer than `2 ^ 64` events have entered it. -/
def Honest (history : List (Mark ε κ τ)) (threads : Threads ε κ τ) : Prop :=
  (enqueuedIn history).length < 2 ^ 64 →
    LossReported history threads.channel.queue.contents ∧ Along FlagExplained history

theorem Honest.step (h : Honest history threads) (horderly : Orderly history threads)
    {marks : List (Mark ε κ τ)} (hstep : QueueStep threads threads' marks) :
    Honest (history ++ marks) threads' := by
  intro hcount
  have hbefore : (enqueuedIn history).length < 2 ^ 64 := by
    rw [enqueuedIn_append, List.length_append] at hcount
    omega
  obtain ⟨hloss, hflags⟩ := h hbefore
  cases hstep with
  | quiet hsame hmarks =>
    rw [hsame.1]
    refine ⟨hloss.silent fun mark hmark => (hmarks mark hmark).1, ?_⟩
    refine along_append hflags fun before mark hmark => ?_
    have hsilent := hmarks mark (hmark.subset (by simp))
    cases mark <;> first | trivial | cases hsilent.1
  | stored event hplain hafter =>
    have hroom : (enqueuedIn history).length + 1 < 2 ^ 64 := by
      rw [enqueuedIn_append, List.length_append] at hcount
      exact hcount
    have hmember : ∀ old ∈ threads.channel.queue.contents, old ∈ enqueuedIn history :=
      fun old hold => horderly.order.subset (List.mem_append_right _ hold)
    have hlater : ∀ old ∈ threads.channel.queue.contents,
        old.sequence < (threads.channel.numbered event).sequence :=
      fun old hold => horderly.lt_next hroom (hmember old hold)
    have hflag : (threads.channel.numbered event).eventsDroppedBefore = true ↔
        threads.channel.displaced.isSome = true := by
      simp [EventChannel.numbered, EventChannel.displaced, hplain]
    have hcontents := contents_displaced threads.channel
    rw [hafter.1, RingBuffer.contents_push]
    refine ⟨hloss.enqueued hcontents hflag.mpr hlater, along_concat.mpr ⟨hflags, hflag, ?_⟩⟩
    intro old hold
    have hfront : old ∈ threads.channel.queue.contents := by
      rw [hcontents]
      exact List.mem_append_left _ (Option.mem_toList.mpr hold)
    exact ⟨hmember old hfront, hlater old hfront⟩
  | taken thread hfilled hafter =>
    refine ⟨hloss.concat rfl ?_, along_concat.mpr ⟨hflags, trivial⟩⟩
    intro report hreport
    rw [RingBuffer.contents_advance _ hfilled] at hreport
    rw [hafter.1]
    rcases List.mem_cons.mp hreport with rfl | hstill
    · exact .inr ⟨thread, rfl⟩
    · exact .inl hstill

section Running

variable [DecidableEq τ]

end Running

end Threads

end XnnTransfer.Bridge
