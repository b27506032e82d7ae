import XnnTransfer.Bridge.EventQueue

/-!
# Wakeups of the event channel

The flags `callback_active_` and `callback_pending_` are written in several locked
sections while the callback runs outside all of them. What they stand for is one
invocation at most, held by one thread: the holder. From the holder follow the three
promises of the channel: no wakeup is lost, invocations do not overlap, and a callback
that was taken away is not called any more.
-/

namespace XnnTransfer.Bridge

open Histories

/-- The number of the registration whose target the frame calls. -/
def Frame.registration {κ : Type*} : Frame κ → Nat
  | .invoking _ registration | .running _ registration => registration
  | .removing _ | .finishing => 0

namespace Mark

variable {ε κ τ : Type*}

/-- The mark of a registration, or of an event that entered an empty queue. -/
def calls : Mark ε κ τ → Bool
  | .registered _ _ => true
  | .enqueued _ _ wasEmpty => wasEmpty
  | _ => false

/-- The number of the registration that was made. -/
def registered? : Mark ε κ τ → Option Nat
  | .registered registration _ => some registration
  | _ => none

/-- The call returned in a thread that is not inside the callback. -/
def bars : Mark ε κ τ → Bool
  | .removed _ _ inside | .shutDown _ inside => !inside
  | _ => false

end Mark

namespace Threads

variable {ε κ τ : Type*}

/-- The invocations of the callback that the thread is inside. -/
def invocations (threads : Threads ε κ τ) (thread : τ) : List (Frame κ) :=
  (threads.frames thread).filter Frame.invocation

/-- The target was called after the last registration and after the last event that
entered an empty queue. -/
def Woken (history : List (Mark ε κ τ)) (registration : Nat) (target : κ) : Prop :=
  ∃ before thread after, history = before ++ .started thread registration target :: after ∧
    ∀ mark ∈ after, mark.calls = false

/-- So many registrations are past: a callback that is there now was registered later. -/
def Past (threads : Threads ε κ τ) (registrations : Nat) : Prop :=
  registrations ≤ threads.registrations ∧
    (threads.channel.callback.isSome = true → registrations < threads.registrations)

variable {history : List (Mark ε κ τ)} {threads threads' : Threads ε κ τ}

theorem Woken.append {registration : Nat} {target : κ} (h : Woken history registration target)
    {marks : List (Mark ε κ τ)} (hmarks : ∀ mark ∈ marks, mark.calls = false) :
    Woken (history ++ marks) registration target := by
  obtain ⟨before, thread, after, rfl, hafter⟩ := h
  refine ⟨before, thread, after ++ marks, by simp, ?_⟩
  intro mark hmark
  rcases List.mem_append.mp hmark with hmark | hmark
  · exact hafter mark hmark
  · exact hmarks mark hmark

/-- A frame that waits has taken its part of the callback away. -/
def Permits (threads : Threads ε κ τ) : Frame κ → Prop
  | .removing registrations => threads.Past registrations
  | .finishing => threads.channel.callbackRegistrationOpen = false
  | .invoking _ _ | .running _ _ => True

/-- After a return outside the callback nothing of what was taken away is left. -/
def Respects (holder : Option (τ × Frame κ)) (threads : Threads ε κ τ) : Mark ε κ τ → Prop
  | .removed _ registrations false => threads.Past registrations ∧
      ∀ owner frame, holder = some (owner, frame) → registrations < frame.registration
  | .shutDown _ false => holder = none ∧ threads.channel.callback = none ∧
      threads.channel.callbackRegistrationOpen = false
  | _ => True

variable {holder : Option (τ × Frame κ)}

theorem Permits.mono {frame : Frame κ} (h : threads.Permits frame)
    (hpast : ∀ registrations, threads.Past registrations → threads'.Past registrations)
    (hopen : threads.channel.callbackRegistrationOpen = false →
      threads'.channel.callbackRegistrationOpen = false) : threads'.Permits frame := by
  cases frame with
  | removing registrations => exact hpast registrations h
  | finishing => exact hopen h
  | invoking | running => trivial

theorem Respects.mono {holder' : Option (τ × Frame κ)} {mark : Mark ε κ τ}
    (h : Respects holder threads mark)
    (hremoved : ∀ registrations, threads.Past registrations →
      (∀ owner frame, holder = some (owner, frame) → registrations < frame.registration) →
      threads'.Past registrations ∧
        ∀ owner frame, holder' = some (owner, frame) → registrations < frame.registration)
    (hshut : holder = none → threads.channel.callback = none →
      threads.channel.callbackRegistrationOpen = false →
      holder' = none ∧ threads'.channel.callback = none ∧
        threads'.channel.callbackRegistrationOpen = false) : Respects holder' threads' mark := by
  cases mark with
  | removed thread registrations inside =>
    cases inside with
    | false => exact hremoved registrations h.1 h.2
    | true => trivial
  | shutDown thread inside =>
    cases inside with
    | false => exact hshut h.1 h.2.1 h.2.2
    | true => trivial
  | enqueued | polled | registered | started | ended => trivial

/-- A return from `SetCallback` of no configuration. -/
theorem respects_removed (thread : τ) {registrations : Nat} {inside : Bool}
    (hpast : threads.Past registrations) (hnone : inside = false → holder = none) :
    Respects holder threads (.removed thread registrations inside) := by
  cases inside with
  | false =>
    refine ⟨hpast, ?_⟩
    rw [hnone rfl]
    nofun
  | true => trivial

/-- A return from `FinishShutdown`. -/
theorem respects_shutDown (thread : τ) {inside : Bool} (hcallback : threads.channel.callback = none)
    (hclosed : threads.channel.callbackRegistrationOpen = false)
    (hnone : inside = false → holder = none) :
    Respects holder threads (.shutDown thread inside) := by
  cases inside with
  | false => exact ⟨hnone rfl, hcallback, hclosed⟩
  | true => trivial

section Holding

variable [DecidableEq τ]

/-- The invocations of a thread, when the holder is in one. -/
def heldBy : Option (τ × Frame κ) → τ → List (Frame κ)
  | none, _ => []
  | some (owner, frame), thread => if owner = thread then [frame] else []

/-- The holder of the invocation, and what the flags of the channel say about it. -/
structure Settled (history : List (Mark ε κ τ)) (holder : Option (τ × Frame κ))
    (threads : Threads ε κ τ) : Prop where
  active : threads.channel.callbackActive = holder.isSome
  thread : threads.channel.callbackThread = holder.map Prod.fst
  invocations : ∀ thread, threads.invocations thread = heldBy holder thread
  current : ∀ owner frame target, holder = some (owner, frame) →
    threads.channel.callback = some target →
      frame = .invoking target threads.registrations ∨ frame = .running target threads.registrations
  origin : ∀ owner target registration, holder = some (owner, .invoking target registration) →
    .registered registration target ∈ history
  known : ∀ target, threads.channel.callback = some target →
    .registered threads.registrations target ∈ history
  pending : threads.channel.callbackPending = true →
    holder.isSome = true ∧ threads.channel.callback.isSome = true
  waiting : ∀ thread, ∀ frame ∈ threads.frames thread, threads.Permits frame
  returned : ∀ mark ∈ history, Respects holder threads mark

/-- A callback that is registered while there are events was called since, or will be: by the
thread that runs it now, or by the one that is about to. -/
def Awake (history : List (Mark ε κ τ)) (holder : Option (τ × Frame κ))
    (threads : Threads ε κ τ) : Prop :=
  ∀ target, threads.channel.callback = some target → threads.channel.queue.size ≠ 0 →
    Woken history threads.registrations target ∨ threads.channel.callbackPending = true ∨
      ∃ owner, holder = some (owner, .invoking target threads.registrations)

theorem heldBy_self (thread : τ) (frame : Frame κ) : heldBy (some (thread, frame)) thread = [frame] := by
  simp [heldBy]

theorem heldBy_ne {owner thread : τ} (h : owner ≠ thread) (frame : Frame κ) :
    heldBy (some (owner, frame)) thread = [] := by
  simp [heldBy, h]

theorem mem_heldBy {holder : Option (τ × Frame κ)} {thread : τ} {frame : Frame κ} :
    frame ∈ heldBy holder thread ↔ holder = some (thread, frame) := by
  rcases holder with _ | ⟨owner, held⟩
  · simp [heldBy]
  by_cases h : owner = thread
  · simp [heldBy, h, eq_comm]
  · simp [heldBy, h]

theorem frames_setStack_self (threads : Threads ε κ τ) (thread : τ) (stack : List (Frame κ)) :
    (threads.setStack thread stack).frames thread = stack :=
  Function.update_self ..

theorem frames_setStack_ne (threads : Threads ε κ τ) {thread other : τ} (h : other ≠ thread)
    (stack : List (Frame κ)) :
    (threads.setStack thread stack).frames other = threads.frames other :=
  Function.update_of_ne h ..

theorem waiting_setStack {thread : τ} {stack : List (Frame κ)} {p : Frame κ → Prop}
    (h : ∀ other, ∀ frame ∈ threads.frames other, p frame) (hstack : ∀ frame ∈ stack, p frame)
    (other : τ) : ∀ frame ∈ (threads.setStack thread stack).frames other, p frame := by
  by_cases hother : other = thread
  · subst hother
    rwa [frames_setStack_self]
  · rw [frames_setStack_ne threads hother]
    exact h other

/-- The holder after the frames of one thread changed. -/
theorem invocations_setStack {holder holder' : Option (τ × Frame κ)} {thread : τ}
    {stack : List (Frame κ)} (h : ∀ other, threads.invocations other = heldBy holder other)
    (hself : stack.filter Frame.invocation = heldBy holder' thread)
    (hothers : ∀ other, other ≠ thread → heldBy holder other = heldBy holder' other) (other : τ) :
    (threads.setStack thread stack).invocations other = heldBy holder' other := by
  by_cases hother : other = thread
  · subst hother
    rw [Threads.invocations, frames_setStack_self, hself]
  rw [Threads.invocations, frames_setStack_ne threads hother, ← hothers other hother]
  exact h other

/-- The thread that is inside an invocation is its holder. -/
theorem Settled.holder_eq (h : Settled history holder threads) {thread : τ} {frame : Frame κ}
    (hframe : frame ∈ threads.frames thread) (hinvocation : frame.invocation = true) :
    holder = some (thread, frame) := by
  rw [← mem_heldBy, ← h.invocations, Threads.invocations, List.mem_filter]
  exact ⟨hframe, hinvocation⟩

theorem Settled.inside_iff (h : Settled history holder threads) (thread : τ) :
    threads.inside thread = true ↔ ∃ frame, holder = some (thread, frame) := by
  rw [inside, List.any_eq_true]
  constructor
  · rintro ⟨frame, hframe, hinvocation⟩
    exact ⟨frame, h.holder_eq hframe hinvocation⟩
  rintro ⟨frame, hholder⟩
  have hframe := mem_heldBy.mpr hholder
  rw [← h.invocations, Threads.invocations, List.mem_filter] at hframe
  exact ⟨frame, hframe⟩

theorem Settled.holder_idle (h : Settled history holder threads)
    (hidle : threads.channel.callbackActive = false) : holder = none := by
  rw [h.active] at hidle
  exact Option.isSome_eq_false_iff.mp hidle |> Option.isNone_iff_eq_none.mp

/-- A thread that does not have to wait and is not inside the callback finds no invocation. -/
theorem Settled.holder_none (h : Settled history holder threads) {thread : τ}
    (hwait : threads.channel.mustWait thread = false) (hinside : threads.inside thread = false) :
    holder = none := by
  rcases holder with _ | ⟨owner, frame⟩
  · rfl
  rw [EventChannel.mustWait, h.active, h.thread] at hwait
  simp at hwait
  subst hwait
  have := (h.inside_iff owner).mpr ⟨frame, rfl⟩
  rw [hinside] at this
  cases this

theorem Settled.concat (h : Settled history holder threads) {mark : Mark ε κ τ}
    (hmark : Respects holder threads mark) : Settled (history ++ [mark]) holder threads :=
  { h with
    origin := fun owner target registration hholder =>
      List.mem_append_left _ (h.origin owner target registration hholder)
    known := fun target htarget => List.mem_append_left _ (h.known target htarget)
    returned := List.forall_mem_append.mpr ⟨h.returned, List.forall_mem_singleton.mpr hmark⟩ }

/-- Sections that leave the invocation alone, and the callback unless they take it away. -/
theorem Settled.congr (h : Settled history holder threads) (channel : EventChannel ε κ τ)
    (hactive : channel.callbackActive = threads.channel.callbackActive)
    (hthread : channel.callbackThread = threads.channel.callbackThread)
    (hcallback : ∀ target, channel.callback = some target → threads.channel.callback = some target)
    (hpending : channel.callbackPending = true →
      holder.isSome = true ∧ channel.callback.isSome = true)
    (hopen : threads.channel.callbackRegistrationOpen = false →
      channel.callbackRegistrationOpen = false) :
    Settled history holder { threads with channel := channel } := by
  have hpast : ∀ registrations, threads.Past registrations →
      Past { threads with channel := channel } registrations := by
    intro registrations hpast
    refine ⟨hpast.1, fun hsome => hpast.2 ?_⟩
    obtain ⟨target, htarget⟩ := Option.isSome_iff_exists.mp hsome
    rw [hcallback target htarget]
    rfl
  have hnone : threads.channel.callback = none → channel.callback = none := by
    intro hnone
    cases htarget : channel.callback with
    | none => rfl
    | some target =>
      rw [hcallback target htarget] at hnone
      cases hnone
  exact
    { active := hactive.trans h.active
      thread := hthread.trans h.thread
      invocations := h.invocations
      current := fun owner frame target hholder htarget =>
        h.current owner frame target hholder (hcallback target htarget)
      origin := h.origin
      known := fun target htarget => h.known target (hcallback target htarget)
      pending := hpending
      waiting := fun thread frame hframe => (h.waiting thread frame hframe).mono hpast hopen
      returned := fun mark hmark => (h.returned mark hmark).mono
        (fun registrations hold hlater => ⟨hpast registrations hold, hlater⟩)
        fun hidle hold hclosed => ⟨hidle, hnone hold, hopen hclosed⟩ }

/-- The callback is taken away. -/
theorem Settled.clear (h : Settled history holder threads) :
    Settled history holder { threads with channel := threads.channel.clearCallback } :=
  h.congr _ rfl rfl nofun nofun id

/-- The frames of a thread change, but not its invocation. -/
theorem Settled.setStack (h : Settled history holder threads) (thread : τ)
    {stack : List (Frame κ)} (hsame : stack.filter Frame.invocation = threads.invocations thread)
    (hpermits : ∀ frame ∈ stack, threads.Permits frame) :
    Settled history holder (threads.setStack thread stack) := by
  refine { h with invocations := ?_, waiting := waiting_setStack h.waiting hpermits }
  refine invocations_setStack h.invocations ?_ fun _ _ => rfl
  rw [hsame, h.invocations]

/-- A thread begins to wait in `SetCallback` or `FinishShutdown`. -/
theorem Settled.push (h : Settled history holder threads) (thread : τ) {frame : Frame κ}
    (hframe : frame.invocation = false) (hpermits : threads.Permits frame) :
    Settled history holder (threads.push thread frame) := by
  refine h.setStack thread ?_ (List.forall_mem_cons.mpr ⟨hpermits, h.waiting thread⟩)
  rw [List.filter_cons_of_neg (by simp [hframe])]
  rfl

theorem Settled.rest (h : Settled history holder threads) {thread : τ} {frame : Frame κ}
    {rest : List (Frame κ)} (hstack : threads.frames thread = frame :: rest) :
    threads.Permits frame ∧ ∀ other ∈ rest, threads.Permits other :=
  List.forall_mem_cons.mp (hstack ▸ h.waiting thread)

/-- A thread stops waiting. -/
theorem Settled.pop (h : Settled history holder threads) {thread : τ} {frame : Frame κ}
    {rest : List (Frame κ)} (hstack : threads.frames thread = frame :: rest)
    (hframe : frame.invocation = false) :
    Settled history holder (threads.setStack thread rest) := by
  refine h.setStack thread ?_ (h.rest hstack).2
  rw [Threads.invocations, hstack, List.filter_cons_of_neg (by simp [hframe])]

/-- The frame on top of the holder's stack is its only invocation. -/
theorem Settled.top (h : Settled history holder threads) {thread : τ} {frame : Frame κ}
    {rest : List (Frame κ)} (hstack : threads.frames thread = frame :: rest)
    (hframe : frame.invocation = true) :
    holder = some (thread, frame) ∧ rest.filter Frame.invocation = [] := by
  have hholder : holder = some (thread, frame) :=
    h.holder_eq (hstack ▸ List.mem_cons_self) hframe
  refine ⟨hholder, ?_⟩
  have hall := h.invocations thread
  rw [hholder, heldBy_self, Threads.invocations, hstack, List.filter_cons_of_pos hframe] at hall
  exact (List.cons.inj hall).2

variable {registration : Nat}

/-- The target of the prepared invocation is called. -/
theorem Settled.call (h : Settled history holder threads) {thread : τ} {target : κ}
    {rest : List (Frame κ)} (hstack : threads.frames thread = .invoking target registration :: rest) :
    Settled history (some (thread, .running target registration))
      (threads.setStack thread (.running target registration :: rest)) := by
  obtain ⟨rfl, hrest⟩ := h.top hstack rfl
  refine { h with
    invocations := ?_
    current := ?_
    origin := nofun
    waiting := waiting_setStack h.waiting (List.forall_mem_cons.mpr ⟨trivial, (h.rest hstack).2⟩)
    returned := ?_ }
  · refine invocations_setStack h.invocations ?_ fun other hother => ?_
    · rw [heldBy_self, List.filter_cons_of_pos rfl, hrest]
    · rw [heldBy_ne (Ne.symm hother), heldBy_ne (Ne.symm hother)]
  · rintro owner frame target' hholder htarget
    cases hholder
    right
    rcases h.current thread _ target' rfl htarget with hframe | hframe
    · cases hframe
      rfl
    · cases hframe
  intro mark hmark
  refine (h.returned mark hmark).mono (fun registrations hpast hlater => ⟨hpast, ?_⟩) nofun
  intro owner frame hholder
  cases hholder
  exact hlater thread (.invoking target registration) rfl

/-- The channel once the callback has returned. -/
def released (threads : Threads ε κ τ) (thread : τ) (rest : List (Frame κ)) : Threads ε κ τ :=
  { threads.setStack thread rest with
    channel :=
      { threads.channel with
        callbackActive := false, callbackThread := none, callbackPending := false } }

theorem Settled.release (h : Settled history holder threads) {thread : τ} {target : κ}
    {rest : List (Frame κ)} (hstack : threads.frames thread = .running target registration :: rest) :
    Settled history none (threads.released thread rest) := by
  obtain ⟨rfl, hrest⟩ := h.top hstack rfl
  refine
    { active := rfl
      thread := rfl
      invocations := ?_
      current := nofun
      origin := nofun
      known := h.known
      pending := nofun
      waiting := waiting_setStack h.waiting (h.rest hstack).2
      returned := fun mark hmark => (h.returned mark hmark).mono
        (fun registrations hpast _ => ⟨hpast, nofun⟩) nofun }
  refine invocations_setStack h.invocations ?_ fun other hother => ?_
  · exact hrest
  · exact heldBy_ne (Ne.symm hother) _

/-- A callback is registered while no invocation is there. -/
theorem Settled.register (h : Settled history none threads) (target : κ)
    (hopen : threads.channel.callbackRegistrationOpen = true) :
    Settled (history ++ [.registered (threads.registrations + 1) target]) none
      { threads with
        registrations := threads.registrations + 1
        channel := { threads.channel with callback := some target } } := by
  have hpast : ∀ registrations, threads.Past registrations → Past { threads with
      registrations := threads.registrations + 1
      channel := { threads.channel with callback := some target } } registrations :=
    fun _ hold => ⟨Nat.le_succ_of_le hold.1, fun _ => Nat.lt_succ_of_le hold.1⟩
  refine
    { active := h.active
      thread := h.thread
      invocations := h.invocations
      current := nofun
      origin := nofun
      known := ?_
      pending := fun hflag => by cases (h.pending hflag).1
      waiting := fun thread frame hframe => (h.waiting thread frame hframe).mono hpast id
      returned := List.forall_mem_append.mpr ⟨fun mark hmark => (h.returned mark hmark).mono
        (fun registrations hold hlater => ⟨hpast registrations hold, hlater⟩) ?_, by simp [Respects]⟩ }
  · intro target' htarget
    cases htarget
    exact List.mem_append_right _ (List.mem_singleton_self _)
  intro _ _ hclosed
  rw [hopen] at hclosed
  cases hclosed

/-- An idle channel prepares the callback that is registered. -/
theorem Settled.prepare (h : Settled history none threads) (thread : τ) :
    ∃ holder, Settled history holder
        (threads.invoke thread (threads.channel.prepareCallbackLocked thread)) ∧
      ∀ target, threads.channel.callback = some target →
        holder = some (thread, .invoking target threads.registrations) := by
  have hidle : threads.channel.callbackActive = false := h.active
  cases hcallback : threads.channel.callback with
  | none =>
    refine ⟨none, ?_, nofun⟩
    simp only [EventChannel.prepareCallbackLocked, hcallback, Option.isNone_none, true_or,
      if_true, invoke]
    exact h
  | some target =>
    refine ⟨some (thread, .invoking target threads.registrations), ?_, ?_⟩
    · have hpast : ∀ registrations, threads.Past registrations → Past { threads with
          channel := { threads.channel with
            callback := some target, callbackActive := true, callbackThread := some thread } }
          registrations :=
        fun _ hold => ⟨hold.1, fun _ => hold.2 (hcallback ▸ rfl)⟩
      simp only [EventChannel.prepareCallbackLocked, hcallback, Option.isNone_some, hidle,
        Bool.false_eq_true, or_self, if_false, invoke]
      refine
        { active := rfl
          thread := rfl
          invocations := ?_
          current := ?_
          origin := ?_
          known := fun target' htarget => h.known target' (hcallback.trans htarget)
          pending := fun hflag => by cases (h.pending hflag).1
          waiting := fun other frame hframe => (waiting_setStack h.waiting
            (List.forall_mem_cons.mpr ⟨by trivial, h.waiting thread⟩) other frame hframe).mono hpast id
          returned := ?_ }
      · refine invocations_setStack h.invocations ?_ fun other hother => ?_
        · rw [heldBy_self, List.filter_cons_of_pos rfl]
          exact congrArg _ (h.invocations thread)
        · exact (heldBy_ne (Ne.symm hother) _).symm
      · intro owner frame target' hholder htarget
        cases hholder
        cases htarget
        exact .inl rfl
      · intro owner target' registration hholder
        cases hholder
        exact h.known target hcallback
      intro mark hmark
      refine (h.returned mark hmark).mono (fun registrations hold _ => ⟨hpast _ hold, ?_⟩) ?_
      · intro owner frame hholder
        cases hholder
        exact hold.2 (hcallback ▸ rfl)
      intro _ hnone
      rw [hcallback] at hnone
      cases hnone
    intro target' htarget
    cases htarget
    rfl

omit [DecidableEq τ] in
theorem Awake.of_none (h : threads.channel.callback = none) : Awake history holder threads := by
  intro target htarget
  rw [h] at htarget
  cases htarget

omit [DecidableEq τ] in
/-- A section that calls for no wakeup. -/
theorem Awake.keep (h : Awake history holder threads) {marks : List (Mark ε κ τ)}
    (hmarks : ∀ mark ∈ marks, mark.calls = false)
    (hcallback : threads'.channel.callback = threads.channel.callback)
    (hqueue : threads'.channel.queue.size ≠ 0 → threads.channel.queue.size ≠ 0)
    (hpending : threads'.channel.callbackPending = threads.channel.callbackPending)
    (hregistrations : threads'.registrations = threads.registrations) :
    Awake (history ++ marks) holder threads' := by
  intro target htarget hfilled
  rw [hregistrations, hpending]
  rcases h target (hcallback.symm.trans htarget) (hqueue hfilled) with hwoken | hlater
  · exact .inl (hwoken.append hmarks)
  · exact .inr hlater

/-- There is a holder of the invocation, and the callback is awake. -/
def Alert (history : List (Mark ε κ τ)) (threads : Threads ε κ τ) : Prop :=
  ∃ holder, Settled history holder threads ∧ Awake history holder threads

/-- A section that prepared the callback if one is registered. -/
theorem Settled.alert (h : Settled history none threads) (thread : τ) :
    Alert history (threads.invoke thread (threads.channel.prepareCallbackLocked thread)) := by
  obtain ⟨holder, hsettled, hprepared⟩ := h.prepare thread
  refine ⟨holder, hsettled, ?_⟩
  have hsame : (threads.channel.prepareCallbackLocked thread).2.callback =
      threads.channel.callback := by
    unfold EventChannel.prepareCallbackLocked
    split <;> rfl
  have hregistrations : (threads.invoke thread
      (threads.channel.prepareCallbackLocked thread)).registrations = threads.registrations := by
    generalize threads.channel.prepareCallbackLocked thread = outcome
    rcases outcome with ⟨_ | target, channel⟩ <;> rfl
  intro target htarget _
  rw [invoke_channel, hsame] at htarget
  rw [hregistrations]
  exact .inr (.inr ⟨thread, hprepared target htarget⟩)

theorem Alert.enqueued (h : Alert history threads) (thread : τ) (event : QueuedEvent ε)
    (hopen : threads.channel.eventsOpen = true) :
    Alert (history ++ [.enqueued (threads.channel.numbered event) threads.channel.displaced
        threads.channel.wasEmpty])
      (threads.invoke thread (threads.channel.enqueueLocked event thread)) := by
  obtain ⟨holder, hsettled, hawake⟩ := h
  let stored : EventChannel ε κ τ :=
    { threads.channel with
      nextSequence := threads.channel.nextSequence + 1
      queue := threads.channel.queue.makeRoom.push (threads.channel.numbered event)
        threads.channel.queue.size_makeRoom_lt }
  have hstored : Settled history holder { threads with channel := stored } :=
    hsettled.congr stored rfl rfl (fun _ => id) hsettled.pending id
  rw [EventChannel.enqueueLocked, if_neg (by simp [hopen])]
  split
  · split
    · rename_i hactive
      have hpending : Settled history holder { threads with
          channel := { stored with callbackPending := threads.channel.callback.isSome } } :=
        hsettled.congr _ rfl rfl (fun _ => id)
          (fun hflag => ⟨hsettled.active.symm.trans hactive, hflag⟩) id
      refine ⟨holder, hpending.concat trivial, ?_⟩
      intro target htarget _
      have htarget : threads.channel.callback = some target := htarget
      exact .inr (.inl (by simp [invoke, htarget]))
    rename_i hidle
    obtain rfl := hsettled.holder_idle (Bool.eq_false_of_not_eq_true hidle)
    exact (hstored.concat (by trivial)).alert thread
  rename_i hfilled
  have hfilled : threads.channel.wasEmpty = false := Bool.eq_false_of_not_eq_true hfilled
  refine ⟨holder, hstored.concat trivial, ?_⟩
  refine hawake.keep (by simp [Mark.calls, hfilled]) rfl ?_ rfl rfl
  intro _ hsize
  have hroom : threads.channel.queue.size ≠ eventQueueCapacity := by
    rw [hsize]
    decide
  rw [EventChannel.wasEmpty, RingBuffer.makeRoom_of_room _ hroom, hsize] at hfilled
  cases hfilled

theorem Alert.registered (h : Alert history threads) (thread : τ) (target : κ)
    (haccepted : threads.channel.refusesCallback = false) :
    Alert (history ++ [.registered (threads.registrations + 1) target])
      ({ threads with registrations := threads.registrations + 1 }.invoke thread
        (threads.channel.registerCallback target thread)) := by
  obtain ⟨holder, hsettled, hawake⟩ := h
  obtain ⟨hopen, hcallback, hidle⟩ : threads.channel.callbackRegistrationOpen = true ∧
      threads.channel.callback = none ∧ threads.channel.callbackActive = false := by
    simpa [EventChannel.refusesCallback, and_assoc] using haccepted
  obtain rfl := hsettled.holder_idle hidle
  have hregistered := hsettled.register target hopen
  simp only [EventChannel.registerCallback]
  split
  · exact hregistered.alert thread
  rename_i hempty
  exact ⟨none, hregistered, fun _ _ hfilled => absurd hfilled hempty⟩

theorem Alert.called (h : Alert history threads) {thread : τ} {target : κ} {rest : List (Frame κ)}
    (hstack : threads.frames thread = .invoking target registration :: rest) :
    Alert (history ++ [.started thread registration target])
      (threads.setStack thread (.running target registration :: rest)) := by
  obtain ⟨holder, hsettled, hawake⟩ := h
  obtain ⟨hholder, -⟩ := hsettled.top hstack rfl
  refine ⟨_, (hsettled.call hstack).concat trivial, ?_⟩
  intro current hcurrent _
  left
  rcases hsettled.current thread _ current hholder hcurrent with hframe | hframe
  · cases hframe
    exact ⟨history, thread, [], rfl, by simp⟩
  · cases hframe

theorem Alert.returned (h : Alert history threads) {thread : τ} {target : κ} {rest : List (Frame κ)}
    (hstack : threads.frames thread = .running target registration :: rest) :
    Alert (history ++ [.ended thread registration])
      ((threads.setStack thread rest).invoke thread (threads.channel.callbackReturned thread)) := by
  obtain ⟨holder, hsettled, hawake⟩ := h
  obtain ⟨hholder, -⟩ := hsettled.top hstack rfl
  have hreleased : Settled (history ++ [.ended thread registration]) none
      (threads.released thread rest) :=
    (hsettled.release hstack).concat trivial
  simp only [EventChannel.callbackReturned]
  split
  · exact hreleased.alert thread
  rename_i hpending
  refine ⟨none, hreleased.congr _ rfl rfl (fun _ => id) (fun hflag => absurd hflag hpending) id, ?_⟩
  intro current hcurrent hfilled
  rcases hawake current hcurrent hfilled with hwoken | hlater | ⟨owner, hinvoking⟩
  · exact .inl (hwoken.append (by simp [Mark.calls]))
  · exact absurd hlater hpending
  rw [hholder] at hinvoking
  cases hinvoking

theorem Alert.effect (h : Alert history threads) {marks : List (Mark ε κ τ)}
    (heffect : Effect threads threads' marks) : Alert (history ++ marks) threads' := by
  have hpast : Past { threads with channel := threads.channel.clearCallback }
      threads.registrations := ⟨le_refl _, by simp [EventChannel.clearCallback]⟩
  cases heffect with
  | enqueued thread event _ hopen => exact h.enqueued thread event hopen
  | registered thread target haccepted => exact h.registered thread target haccepted
  | called thread hstack => exact h.called hstack
  | returned thread hstack => exact h.returned hstack
  | unchanged => rwa [List.append_nil]
  | polled thread hsize =>
    obtain ⟨holder, hsettled, hawake⟩ := h
    have hpolled := hsettled.congr { threads.channel with queue := threads.channel.queue.advance }
      rfl rfl (fun _ => id) hsettled.pending id
    refine ⟨holder, hpolled.concat trivial, ?_⟩
    exact hawake.keep (by simp [Mark.calls]) rfl (fun _ => hsize) rfl rfl
  | clearing thread =>
    obtain ⟨holder, hsettled, -⟩ := h
    rw [List.append_nil]
    exact ⟨holder, hsettled.clear.push thread rfl hpast, .of_none rfl⟩
  | cleared thread hready =>
    obtain ⟨holder, hsettled, -⟩ := h
    exact ⟨holder, hsettled.clear.concat
      (respects_removed thread hpast (hsettled.holder_none hready)), .of_none rfl⟩
  | closing =>
    obtain ⟨holder, hsettled, hawake⟩ := h
    refine ⟨holder, ?_, hawake.keep (by simp) rfl id rfl rfl⟩
    rw [List.append_nil]
    exact hsettled.congr threads.channel.beginShutdown rfl rfl (fun _ => id) hsettled.pending
      fun _ => rfl
  | finishing thread =>
    obtain ⟨holder, hsettled, hawake⟩ := h
    refine ⟨holder, ?_, hawake.keep (by simp) rfl id rfl rfl⟩
    rw [List.append_nil]
    exact (hsettled.congr threads.channel.closeEvents rfl rfl (fun _ => id) hsettled.pending
      fun _ => rfl).push thread rfl rfl
  | finished thread hready =>
    obtain ⟨holder, hsettled, -⟩ := h
    have hclosed := hsettled.congr threads.channel.closeEvents.clearCallback rfl rfl nofun nofun
      fun _ => rfl
    exact ⟨holder, hclosed.concat
      (respects_shutDown thread rfl rfl (hsettled.holder_none hready)), .of_none rfl⟩
  | resumed thread hidle hstack =>
    obtain ⟨holder, hsettled, hawake⟩ := h
    refine ⟨holder, (hsettled.pop hstack rfl).concat
      (respects_removed thread (hsettled.rest hstack).1 fun _ => hsettled.holder_idle hidle), ?_⟩
    exact hawake.keep (by simp [Mark.calls]) rfl id rfl rfl
  | resumedShutdown thread hidle hstack =>
    obtain ⟨holder, hsettled, -⟩ := h
    exact ⟨holder, (hsettled.pop hstack rfl).clear.concat
      (respects_shutDown thread rfl (hsettled.rest hstack).1 fun _ => hsettled.holder_idle hidle),
      .of_none rfl⟩

/-- A target is called after its registration, and after no removal or shutdown that
came later than it. -/
def CalledInTime (before : List (Mark ε κ τ)) : Mark ε κ τ → Prop
  | .started _ registration target =>
    .registered registration target ∈ before ∧
      (∀ thread registrations, .removed thread registrations false ∈ before →
        registrations < registration) ∧
      ∀ thread, .shutDown thread false ∉ before
  | _ => True

theorem Alert.calledInTime (h : Alert history threads) {marks : List (Mark ε κ τ)}
    (heffect : Effect threads threads' marks) {before : List (Mark ε κ τ)} {mark : Mark ε κ τ}
    (hmark : before ++ [mark] <+: marks) : CalledInTime (history ++ before) mark := by
  cases mark with
  | started thread registration target =>
    obtain ⟨holder, hsettled, -⟩ := h
    have hmem := hmark.subset (List.mem_append_right before (List.mem_singleton_self _))
    cases heffect with
    | called other hstack =>
      cases List.mem_singleton.mp hmem
      have hbefore : before = [] := by
        have hlength := hmark.length_le
        exact List.length_eq_zero_iff.mp (by simpa using hlength)
      obtain ⟨hholder, -⟩ := hsettled.top hstack rfl
      rw [hbefore, List.append_nil]
      refine ⟨hsettled.origin thread target registration hholder, ?_, ?_⟩
      · intro other registrations hremoved
        exact (hsettled.returned _ hremoved).2 thread _ hholder
      intro other hshut
      have hnone := (hsettled.returned _ hshut).1
      rw [hholder] at hnone
      cases hnone
    | unchanged | clearing | closing | finishing => cases hmem
    | enqueued | polled | cleared | registered | finished | returned | resumed | resumedShutdown =>
      cases List.mem_singleton.mp hmem
  | enqueued | polled | registered | ended | removed | shutDown => trivial

/-- When `SetCallback` of no configuration or `FinishShutdown` returns outside the callback,
no invocation is there. -/
theorem Alert.barred (h : Alert history threads) {marks : List (Mark ε κ τ)}
    (heffect : Effect threads threads' marks) {mark : Mark ε κ τ} (hmark : mark ∈ marks)
    (hbars : mark.bars = true) (thread : τ) : threads'.invocations thread = [] := by
  obtain ⟨after, hafter, -⟩ := h.effect heffect
  obtain ⟨holder, hsettled, -⟩ := h
  have hreturned : ∀ other, threads.channel.mustWait other = false →
      (!threads.inside other) = true → threads.channel.callbackActive = false := by
    intro other hwait hinside
    rw [hsettled.active, hsettled.holder_none hwait ((Bool.not_eq_true' _).mp hinside)]
    rfl
  have hidle : threads'.channel.callbackActive = false := by
    cases heffect with
    | cleared other hready | finished other hready =>
      cases List.mem_singleton.mp hmark
      exact hreturned other hready hbars
    | resumed other hidle | resumedShutdown other hidle => exact hidle
    | unchanged | clearing | closing | finishing => cases hmark
    | enqueued | polled | registered | called | returned =>
      cases List.mem_singleton.mp hmark
      cases hbars
  rw [hafter.invocations, hafter.holder_idle hidle]
  rfl

/-- Registrations are numbered in order. -/
theorem Effect.registrations {marks : List (Mark ε κ τ)} (h : Effect threads threads' marks) :
    marks.filterMap Mark.registered? =
      List.range' (threads.registrations + 1) (threads'.registrations - threads.registrations) ∧
      threads.registrations ≤ threads'.registrations := by
  have hinvoke : ∀ (old : Threads ε κ τ) thread outcome,
      (old.invoke thread outcome).registrations = old.registrations := by
    intro old thread outcome
    rcases outcome with ⟨_ | target, channel⟩ <;> rfl
  cases h <;> simp [hinvoke, Mark.registered?, Threads.push, Threads.setStack]

theorem alert_initial (unused : QueuedEvent ε) : Alert [] (initial unused : Threads ε κ τ) := by
  refine ⟨none, ?_, .of_none rfl⟩
  exact
    { active := rfl
      thread := rfl
      invocations := fun _ => rfl
      current := nofun
      origin := nofun
      known := nofun
      pending := nofun
      waiting := nofun
      returned := fun _ hmark => by cases hmark }

/-- What holds of a run of the channel. -/
structure Guarded (history : List (Mark ε κ τ)) (threads : Threads ε κ τ) : Prop where
  alert : Alert history threads
  inTime : Along CalledInTime history
  numbers : history.filterMap Mark.registered? = List.range' 1 threads.registrations

theorem Guarded.step (h : Guarded history threads) (action : Action ε κ τ) :
    Guarded (history ++ threads.marks action) (threads.step action) := by
  have heffect := act_effect threads action
  obtain ⟨hnew, hle⟩ := heffect.registrations
  refine ⟨h.alert.effect heffect, along_append h.inTime fun _ _ => h.alert.calledInTime heffect, ?_⟩
  rw [List.filterMap_append, h.numbers, hnew, Nat.add_comm threads.registrations 1,
    List.range'_append_1, Nat.add_sub_cancel' hle]

/-- No wakeup is lost, invocations do not overlap and a callback that was taken away is not
called any more, in every interleaving of any number of threads. Registrations are numbered
in order; the mark of a removal carries the number of those made before it. -/
theorem run_wakeups (unused : QueuedEvent ε) (actions : List (Action ε κ τ)) :
    let threads := Runs.run step (initial unused) actions
    let history := observed unused actions
    history.filterMap Mark.registered? = List.range' 1 threads.registrations ∧
    ((∀ thread, threads.frames thread = []) → ∀ target,
      threads.channel.callback = some target → threads.channel.eventsOpen = true →
      threads.channel.queue.contents ≠ [] → Woken history threads.registrations target) ∧
    (∀ thread frame other frame', frame ∈ threads.invocations thread →
      frame' ∈ threads.invocations other →
        thread = other ∧ frame = frame' ∧ threads.invocations thread = [frame]) ∧
    (∀ action, ∀ mark ∈ threads.marks action, mark.bars = true →
      ∀ thread, (threads.step action).invocations thread = []) ∧
    (∀ remover registrations, .removed remover registrations false ∈ history →
      ∀ thread, ∀ frame ∈ threads.invocations thread, registrations < frame.registration) ∧
    (∀ remover, .shutDown remover false ∈ history →
      ∀ thread, threads.invocations thread = []) ∧
    Along CalledInTime history := by
  intro threads history
  have hguarded : Guarded history threads :=
    Runs.run_history_all (P := Guarded) (fun _ _ action h => h.step action)
      ⟨alert_initial unused, along_nil _, rfl⟩ actions
  obtain ⟨holder, hsettled, hawake⟩ := hguarded.alert
  have hholder : ∀ thread frame, frame ∈ threads.invocations thread →
      holder = some (thread, frame) := by
    intro thread frame hframe
    rwa [hsettled.invocations, mem_heldBy] at hframe
  refine ⟨hguarded.numbers, ?_, ?_, ?_, ?_, ?_, hguarded.inTime⟩
  · intro hquiet target htarget _ hfilled
    have hnone : holder = none := by
      rcases holder with _ | ⟨owner, frame⟩
      · rfl
      have hinvocation := hsettled.invocations owner
      rw [heldBy_self, Threads.invocations, hquiet] at hinvocation
      cases hinvocation
    have hsize : threads.channel.queue.size ≠ 0 :=
      mt (RingBuffer.contents_eq_nil_iff _).mpr hfilled
    rcases hawake target htarget hsize with hwoken | hpending | ⟨owner, hinvoking⟩
    · exact hwoken
    · rw [hnone] at hsettled
      cases (hsettled.pending hpending).1
    rw [hnone] at hinvoking
    cases hinvoking
  · intro thread frame other frame' hframe hframe'
    have hfirst := hholder thread frame hframe
    have hsecond := hholder other frame' hframe'
    rw [hfirst] at hsecond
    cases hsecond
    refine ⟨rfl, rfl, ?_⟩
    rw [hsettled.invocations, hfirst, heldBy_self]
  · intro action mark hmark hbars
    exact hguarded.alert.barred (act_effect threads action) hmark hbars
  · intro remover registrations hremoved thread frame hframe
    exact (hsettled.returned _ hremoved).2 thread frame (hholder thread frame hframe)
  intro remover hshut thread
  rw [hsettled.invocations, (hsettled.returned _ hshut).1]
  rfl

end Holding

end Threads

end XnnTransfer.Bridge
