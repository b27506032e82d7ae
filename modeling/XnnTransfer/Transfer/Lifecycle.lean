import XnnTransfer.Transfer.Session

/-!
# The life of an engine

Both engines go through the same life: they are active, then perhaps cancelling,
and then in a terminal state. `Evolves` says how the state and the flag for an
unanswered cancel of one's own can change in one call, depending on the frame the
call was given. From it follows when a terminal state is final.
-/

namespace XnnTransfer.Transfer

open Protocol Histories

/-- The state of an engine and whether its own cancel is unanswered. -/
structure Status where
  state : TransferState
  cancelSent : Bool
  deriving DecidableEq, Repr

namespace Status

/-- The transfer is under way and not being cancelled. -/
def Active (s : Status) : Prop := isTerminal s.state = false ∧ s.state ≠ .cancelling

end Status

/-- The body of an `ERROR` frame, read from the message. -/
def Message.errorReport (message : Message) : Option ErrorReport :=
  let fatal : Bool := message.number 2 ≠ 0
  let retryable : Bool := message.number 3 ≠ 0
  match decodeWireError (message.number 1) with
  | none => none
  | some wireError =>
    if fatal ≠ wireErrorIsFatal wireError ∨
        (retryable = true ∧ wireErrorMayRetry wireError = false) ∨
        ((findFirst message.fields 5).isSome = true ∧ 60000 < message.number 5) then
      none
    else some ⟨wireError, retryable⟩

theorem errorReport_messageOf (frame : ParsedFrame) :
    (messageOf frame).errorReport = readErrorReport frame := rfl

/-- The message is an error the peer may report. -/
def Message.ReportsError (message : Message) : Prop :=
  message.type = .error ∧ message.errorReport.isSome = true

/-- How the status changes in a call that is given this message, if any. -/
inductive Evolves (message : Option Message) : Status → Status → Prop
  | quiet {s} : Evolves message s s
  | active {s} (hactive : s.Active) (hsent : s.cancelSent = false) (state : TransferState) :
      Evolves message s ⟨state, false⟩
  | cancelBegun {s} (hactive : s.Active) (hsent : s.cancelSent = false) (hmessage : message = none)
      (sent : Bool) : Evolves message s ⟨.cancelling, sent⟩
  | cancelEmitted {sent} (hmessage : message = none) :
      Evolves message ⟨.cancelling, sent⟩ ⟨.cancelling, true⟩
  | ended {sent state} (hterm : isTerminal state = true) :
      Evolves message ⟨.cancelling, sent⟩ ⟨state, false⟩
  | remotelyCancelled {sent m} (hmessage : message = some m) (htype : m.type = .cancel) :
      Evolves message ⟨.cancelling, sent⟩ ⟨.cancelled, sent⟩
  | remotelyFailed {sent m} (hmessage : message = some m) (herror : m.ReportsError) :
      Evolves message ⟨.cancelling, sent⟩ ⟨.failed, sent⟩
  | acknowledged {s m state} (hterm : isTerminal s.state = true) (hsent : s.cancelSent = true)
      (hmessage : message = some m) (htype : m.type = .cancelAck)
      (hterm' : isTerminal state = true) : Evolves message s ⟨state, false⟩
  | cleared {s} (hterm : isTerminal s.state = true) : Evolves message s ⟨s.state, false⟩

namespace Evolves

variable {message : Option Message} {s t u : Status}

theorem not_active_cancelling {sent : Bool} : ¬ Status.Active ⟨.cancelling, sent⟩ :=
  fun hactive => hactive.2 rfl

/-- What a terminal status can become. -/
theorem of_terminal (h : Evolves message s t) (hterm : isTerminal s.state = true) :
    (t.state = s.state ∧ (t.cancelSent = true → s.cancelSent = true)) ∨
      (s.cancelSent = true ∧ (∃ m, message = some m ∧ m.type = .cancelAck) ∧
        isTerminal t.state = true ∧ t.cancelSent = false) := by
  cases h with
  | quiet => exact .inl ⟨rfl, id⟩
  | active hactive | cancelBegun hactive =>
    cases hterm.symm.trans hactive.1
  | cancelEmitted | ended | remotelyCancelled | remotelyFailed => cases hterm
  | acknowledged _ hsent hmessage htype hterm' =>
    exact .inr ⟨hsent, ⟨_, hmessage, htype⟩, hterm', rfl⟩
  | cleared => exact .inl ⟨rfl, nofun⟩

/-- What remains after a status that ended without an unanswered cancel. -/
theorem of_terminal_clear (h : Evolves message s t) (hterm : isTerminal s.state = true)
    (hsent : s.cancelSent = false) : t = ⟨s.state, false⟩ := by
  rcases h.of_terminal hterm with ⟨hstate, hflag⟩ | ⟨hset, -⟩
  · have hclear : t.cancelSent = false :=
      Bool.eq_false_iff.mpr fun hset => absurd (hsent.symm.trans (hflag hset)) (by decide)
    cases t
    cases hstate
    cases hclear
    rfl
  · cases hsent.symm.trans hset

/-- An active or cancelling status that has reached a terminal one without a cancel. -/
theorem after_end (h : Evolves message t u) (hterm : isTerminal t.state = true)
    (hsent : t.cancelSent = false) (hend : ∀ state, isTerminal state = true →
      Evolves message s ⟨state, false⟩) : Evolves message s u := by
  rw [h.of_terminal_clear hterm hsent]
  exact hend t.state hterm

/-- Where an unanswered cancel comes from. -/
theorem sent_origin (h : Evolves message s t) (hsent : t.cancelSent = true)
    (hbefore : s.cancelSent = true → s.state = .cancelling ∨ s.state = .cancelled) :
    t.state = .cancelling ∨ (t.state = .cancelled ∧ s = t) ∨
      (t.state = .cancelled ∧ s = ⟨.cancelling, true⟩ ∧ ∃ m, message = some m ∧ m.type = .cancel) ∨
      (s = ⟨.cancelling, true⟩ ∧ ∃ m, message = some m ∧ m.ReportsError) := by
  cases h with
  | quiet => exact (hbefore hsent).imp id fun hstate => .inl ⟨hstate, rfl⟩
  | active | ended | acknowledged | cleared => cases hsent
  | cancelBegun | cancelEmitted => exact .inl rfl
  | remotelyCancelled hmessage htype =>
    cases hsent
    exact .inr (.inr (.inl ⟨rfl, rfl, _, hmessage, htype⟩))
  | remotelyFailed hmessage herror =>
    cases hsent
    exact .inr (.inr (.inr ⟨rfl, _, hmessage, herror⟩))

/-- Two changes in one call are one change. -/
theorem trans (h : Evolves message s t) (h' : Evolves message t u) : Evolves message s u := by
  cases h with
  | quiet => exact h'
  | active hactive hsent state =>
    cases h' with
    | quiet | active _ _ state => exact .active hactive hsent state
    | cancelBegun _ _ hmessage sent => exact .cancelBegun hactive hsent hmessage sent
    | cancelEmitted hmessage => exact .cancelBegun hactive hsent hmessage true
    | ended | remotelyCancelled | remotelyFailed | acknowledged | cleared =>
      exact .active hactive hsent _
  | cancelBegun hactive hsent hmessage sent =>
    cases h' with
    | quiet | cancelBegun => exact .cancelBegun hactive hsent hmessage _
    | cancelEmitted => exact .cancelBegun hactive hsent hmessage true
    | active | ended | acknowledged | cleared => exact .active hactive hsent _
    | remotelyCancelled hsome | remotelyFailed hsome => cases hmessage.symm.trans hsome
  | cancelEmitted hmessage =>
    cases h' with
    | quiet | cancelEmitted => exact .cancelEmitted hmessage
    | active hactive | cancelBegun hactive => exact absurd hactive not_active_cancelling
    | ended hterm => exact .ended hterm
    | remotelyCancelled hsome | remotelyFailed hsome => cases hmessage.symm.trans hsome
    | acknowledged hterm | cleared hterm => cases hterm
  | ended hterm => exact h'.after_end hterm rfl fun _ => .ended
  | @remotelyCancelled sent m hmessage htype =>
    rcases h'.of_terminal rfl with ⟨hstate, hflag⟩ | ⟨-, ⟨m', hmessage', htype'⟩, -⟩
    · cases u with
      | mk state flag =>
        cases hstate
        cases flag with
        | false => exact .ended rfl
        | true =>
          cases hflag rfl
          exact .remotelyCancelled hmessage htype
    cases hmessage.symm.trans hmessage'
    cases htype.symm.trans htype'
  | @remotelyFailed sent m hmessage herror =>
    rcases h'.of_terminal rfl with ⟨hstate, hflag⟩ | ⟨-, ⟨m', hmessage', htype'⟩, -⟩
    · cases u with
      | mk state flag =>
        cases hstate
        cases flag with
        | false => exact .ended rfl
        | true =>
          cases hflag rfl
          exact .remotelyFailed hmessage herror
    cases hmessage.symm.trans hmessage'
    cases herror.1.symm.trans htype'
  | acknowledged hterm hsent hmessage htype hterm' =>
    exact h'.after_end hterm' rfl fun _ => .acknowledged hterm hsent hmessage htype
  | cleared hterm =>
    rw [h'.of_terminal_clear hterm rfl]
    exact .cleared hterm

end Evolves

/-! ### When a terminal state is final -/

/-- The states that are never left. -/
def IsFinal (state : TransferState) : Prop :=
  state = .failed ∨ state = .rejected ∨ state = .completed ∨ state = .committed

theorem isFinal_of_terminal {state : TransferState} (h : isTerminal state = true)
    (hne : state ≠ .cancelled) : IsFinal state := by
  cases state <;> simp_all [isTerminal, IsFinal]

theorem IsFinal.terminal {state : TransferState} (h : IsFinal state) : isTerminal state = true := by
  rcases h with rfl | rfl | rfl | rfl <;> rfl

section Finality

variable {Engine : Type} (status : Engine → Status) (version : Version)

/-- The call met a cancel of the peer while the own one was unanswered. -/
def Crossed (o : Observation Engine) : Prop :=
  status o.before = ⟨.cancelling, true⟩ ∧
    (∃ message, o.received version = some message ∧ message.type = .cancel) ∧
    status o.after = ⟨.cancelled, true⟩

/-- The call took the answer to the own cancel after the transfer was cancelled. -/
def Answered (o : Observation Engine) : Prop :=
  status o.before = ⟨.cancelled, true⟩ ∧
    ∃ message, o.received version = some message ∧ message.type = .cancelAck

/-- The call was told of an error while the own cancel was unanswered. -/
def Interrupted (o : Observation Engine) : Prop :=
  status o.before = ⟨.cancelling, true⟩ ∧
    ∃ message, o.received version = some message ∧ message.ReportsError

/-- What a later session may have made of the outcome of an earlier one. -/
structure Settles (s t : Session Engine) : Prop where
  reported : ∀ o ∈ t.history, o.update.state = (status o.after).state
  final : IsFinal (status s.engine).state → (status t.engine).state = (status s.engine).state
  cancelled : (status s.engine).state = .cancelled → (status t.engine).state ≠ .cancelled →
    IsFinal (status t.engine).state ∧ ∃ before crossing between answer after,
      t.history = before ++ crossing :: (between ++ answer :: after) ∧
        Crossed status version crossing ∧
        (∀ o ∈ between, (status o.after).state = .cancelled) ∧
        Answered status version answer ∧
        ∀ o ∈ after, (status o.after).state = (status t.engine).state

variable {status version}

/-- What is known of every session without an interrupted cancel. -/
structure Uninterrupted (status : Engine → Status) (version : Version) (s : Session Engine) :
    Prop where
  reported : ∀ o ∈ s.history, o.update.state = (status o.after).state
  sent : (status s.engine).cancelSent = true →
    (status s.engine).state = .cancelling ∨ (status s.engine).state = .cancelled
  crossed : status s.engine = ⟨.cancelled, true⟩ → ∃ before crossing between,
    s.history = before ++ crossing :: between ∧ Crossed status version crossing ∧
      ∀ o ∈ between, (status o.after).state = .cancelled

theorem uninterrupted_new {engine : Engine} (shared : Shared)
    (h : (status engine).cancelSent = false) : Uninterrupted status version ⟨engine, shared, []⟩ where
  reported := by simp
  sent := by simp [h]
  crossed := by
    intro heq
    rw [heq] at h
    cases h

variable {s t : Session Engine} {inbound : Option Bytes} {o : Outcome Engine}

theorem Uninterrupted.final_clear (h : Uninterrupted status version s)
    (hfinal : IsFinal (status s.engine).state) : (status s.engine).cancelSent = false := by
  refine Bool.eq_false_iff.mpr fun hsent => ?_
  rcases h.sent hsent with hstate | hstate <;> rw [hstate] at hfinal <;>
    simp [IsFinal] at hfinal

/-- A call that is not interrupted keeps the invariant. -/
theorem Uninterrupted.record (h : Uninterrupted status version s)
    (hreport : o.update.state = (status o.engine).state)
    (hevolves : Evolves (inbound.bind (decodeFrame version)) (status s.engine) (status o.engine))
    (hnot : ¬ Interrupted status version ⟨s.engine, inbound, o.update, o.engine⟩) :
    Uninterrupted status version (s.record inbound o) := by
  refine ⟨fun entry hentry => ?_, fun hsent => ?_, fun heq => ?_⟩
  · rcases List.mem_append.mp hentry with hentry | hentry
    · exact h.reported entry hentry
    rw [List.mem_singleton.mp hentry]
    exact hreport
  · rcases hevolves.sent_origin hsent h.sent with hstate | ⟨hstate, -⟩ | ⟨hstate, -⟩ | hfailed
    · exact .inl hstate
    · exact .inr hstate
    · exact .inr hstate
    · exact absurd hfailed hnot
  have heq : status o.engine = ⟨.cancelled, true⟩ := heq
  rcases hevolves.sent_origin (by rw [heq]) h.sent with hstate | ⟨-, hsame⟩ |
    ⟨-, hbefore, hmessage⟩ | hfailed
  · rw [heq] at hstate
    cases hstate
  · obtain ⟨before, crossing, between, hhistory, hcrossed, hbetween⟩ :=
      h.crossed (hsame.trans heq)
    refine ⟨before, crossing, between ++ [⟨s.engine, inbound, o.update, o.engine⟩], ?_, hcrossed,
      fun entry hentry => ?_⟩
    · simp [Session.record, hhistory]
    rcases List.mem_append.mp hentry with hentry | hentry
    · exact hbetween entry hentry
    rw [List.mem_singleton.mp hentry]
    simp [heq]
  · exact ⟨s.history, _, [], rfl, ⟨hbefore, hmessage, heq⟩, by simp⟩
  · exact absurd hfailed hnot

/-- A call that is not interrupted keeps what the session settled. -/
theorem Settles.record (hsettles : Settles status version s t)
    (h : Uninterrupted status version t) (hnew : Uninterrupted status version (t.record inbound o))
    (hevolves : Evolves (inbound.bind (decodeFrame version)) (status t.engine)
      (status o.engine)) : Settles status version s (t.record inbound o) := by
  have hkept (hfinal : IsFinal (status t.engine).state) :
      (status o.engine).state = (status t.engine).state := by
    rw [hevolves.of_terminal_clear hfinal.terminal (h.final_clear hfinal)]
  refine ⟨hnew.reported, fun hfinal => ?_, fun hcancelled hne => ?_⟩
  · have hsame := hsettles.final hfinal
    rw [← hsame] at hfinal ⊢
    exact hkept hfinal
  by_cases hstill : (status t.engine).state = .cancelled
  · -- the call that leaves the cancelled state is given the answer to the own cancel
    have hterm : isTerminal (status t.engine).state = true := hstill ▸ rfl
    rcases hevolves.of_terminal hterm with ⟨hstate, -⟩ | ⟨hsent, hmessage, hterm', -⟩
    · exact absurd (hstate.trans hstill) hne
    have heq : status t.engine = ⟨.cancelled, true⟩ := by rw [← hstill, ← hsent]
    obtain ⟨before, crossing, between, hhistory, hcrossed, hbetween⟩ := h.crossed heq
    refine ⟨isFinal_of_terminal hterm' hne, before, crossing, between,
      ⟨t.engine, inbound, o.update, o.engine⟩, [], ?_, hcrossed, hbetween, ⟨heq, hmessage⟩,
      by simp⟩
    simp [Session.record, hhistory]
  obtain ⟨hfinal, before, crossing, between, answer, after, hhistory, hcrossed, hbetween,
    hanswered, hafter⟩ := hsettles.cancelled hcancelled hstill
  have hsame := hkept hfinal
  refine ⟨?_, before, crossing, between, answer,
    after ++ [⟨t.engine, inbound, o.update, o.engine⟩], ?_, hcrossed, hbetween, hanswered,
    fun entry hentry => ?_⟩
  · show IsFinal (status o.engine).state
    rw [hsame]
    exact hfinal
  · simp [Session.record, hhistory]
  show _ = (status o.engine).state
  rw [hsame]
  rcases List.mem_append.mp hentry with hentry | hentry
  · exact hafter entry hentry
  rw [List.mem_singleton.mp hentry]
  exact hsame

/-- One action on a session: a call, or a change of what is shared with others. -/
inductive Acts (status : Engine → Status) (version : Version) (s : Session Engine) :
    Session Engine → Prop
  | call {inbound : Option Bytes} {o : Outcome Engine} (hreport : o.update.state = (status o.engine).state)
      (hevolves : ((status s.engine).cancelSent = true →
          (status s.engine).state = .cancelling ∨ (status s.engine).state = .cancelled) →
        Evolves (inbound.bind (decodeFrame version)) (status s.engine) (status o.engine)) :
      Acts status version s (s.record inbound o)
  | interfere {shared} : Acts status version s { s with shared := shared }

theorem Acts.history_isPrefix (h : Acts status version s t) : s.history <+: t.history := by
  cases h with
  | call => exact List.prefix_append _ _
  | interfere => exact List.prefix_rfl

section Runs

variable {α : Type} {step : Session Engine → α → Session Engine} {P : Session Engine → Prop}

theorem uninterrupted_run (hP : ∀ s a, P s → P (step s a))
    (hacts : ∀ s a, P s → Acts status version s (step s a)) (hs : P s)
    (hinit : Uninterrupted status version s) (actions : List α)
    (hnot : ∀ o ∈ (Runs.run step s actions).history, ¬ Interrupted status version o) :
    Uninterrupted status version (Runs.run step s actions) := by
  induction actions using List.reverseRecOn with
  | nil => exact hinit
  | append_singleton earlier action ih =>
    rw [Runs.run_append] at hnot ⊢
    have hact := hacts (Runs.run step s earlier) action (Runs.run_invariant_all hP hs earlier)
    have hold := ih fun o ho => hnot o (hact.history_isPrefix.subset ho)
    simp only [Runs.run_cons, Runs.run_nil] at hnot ⊢
    generalize step (Runs.run step s earlier) action = next at hact hnot ⊢
    cases hact with
    | call hreport hevolves =>
      exact hold.record hreport (hevolves hold.sent) (hnot _ (List.mem_append_right _ (by simp)))
    | interfere => exact ⟨hold.reported, hold.sent, hold.crossed⟩

/-- Without an interrupted cancel every outcome is settled. -/
theorem settles_run (hP : ∀ s a, P s → P (step s a))
    (hacts : ∀ s a, P s → Acts status version s (step s a)) (hs : P s)
    (hinit : Uninterrupted status version s) (actions later : List α)
    (hnot : ∀ o ∈ (Runs.run step s (actions ++ later)).history, ¬ Interrupted status version o) :
    Settles status version (Runs.run step s actions) (Runs.run step s (actions ++ later)) := by
  induction later using List.reverseRecOn with
  | nil =>
    rw [List.append_nil] at hnot ⊢
    exact ⟨(uninterrupted_run hP hacts hs hinit actions hnot).reported, fun _ => rfl,
      fun hstate hne => absurd hstate hne⟩
  | append_singleton earlier action ih =>
    have hnew := uninterrupted_run hP hacts hs hinit _ hnot
    rw [← List.append_assoc, Runs.run_append] at hnot hnew ⊢
    have hact := hacts (Runs.run step s (actions ++ earlier)) action
      (Runs.run_invariant_all hP hs _)
    have hbefore : ∀ o ∈ (Runs.run step s (actions ++ earlier)).history,
        ¬ Interrupted status version o := fun o ho => hnot o (hact.history_isPrefix.subset ho)
    have hold := uninterrupted_run hP hacts hs hinit _ hbefore
    have hsettles := ih hbefore
    simp only [Runs.run_cons, Runs.run_nil] at hnew ⊢
    generalize step (Runs.run step s (actions ++ earlier)) action = next at hact hnew ⊢
    cases hact with
    | call hreport hevolves => exact hsettles.record hold hnew (hevolves hold.sent)
    | interfere => exact ⟨hsettles.reported, hsettles.final, hsettles.cancelled⟩

end Runs

end Finality

/-- A status that is not terminal ends without an unanswered cancel. -/
theorem Evolves.ends {message : Option Message} {x : Status} {state : TransferState}
    (hlive : isTerminal x.state = false) (hclear : x.Active → x.cancelSent = false)
    (hterm : isTerminal state = true) : Evolves message x ⟨state, false⟩ := by
  by_cases hcancelling : x.state = .cancelling
  · cases x
    cases hcancelling
    exact .ended hterm
  · exact .active ⟨hlive, hcancelling⟩ (hclear ⟨hlive, hcancelling⟩) state

end XnnTransfer.Transfer
