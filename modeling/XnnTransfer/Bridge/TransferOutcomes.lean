import Mathlib.Data.Fintype.Basic
import XnnTransfer.Bridge.TransferEvents

/-!
# Cancellation and outcomes at the transfer bridge

The network owner passes the updates of a core to `Apply` while the API thread is in the
middle of a command. An update that the core made before it saw a cancel can then come
after the record is cancelling, and the bridge applies it. An update with the outcome of
a transfer can come while the record is still offered, or before `Send` has made the
record, and the bridge refuses it for good. Without such updates a cancelling record goes
on to an end, and every outcome arrives.
-/

namespace XnnTransfer.Bridge

open Protocol Transfer Histories

/-- The transfer is being cancelled or is over. -/
def RecordState.winding : RecordState → Bool
  | .cancelling => true
  | state => state.terminal

theorem RecordState.winding_iff {state : RecordState} :
    state.winding = true ↔ state = .cancelling ∨ state.terminal = true := by
  cases state <;> simp [winding, terminal]

/-- The update with which a core ends a transfer. -/
def isFinal (update : TransferUpdate) : Bool := update.terminal && isTerminal update.state

theorem publicState_terminal {update : TransferUpdate} (h : isFinal update = true) :
    (publicState update.state).terminal = true := by
  have hstate := (Bool.and_eq_true _ _ ▸ h : _ ∧ _).2
  generalize update.state = state at hstate
  cases state <;> first | rfl | cases hstate

/-- The call passes the end of the transfer to the bridge. -/
def Request.passesFinal (transferId : Bytes) : Request → Bool
  | .apply other update _ => decide (other = transferId) && isFinal update
  | _ => false

/-- The thread waits to apply the end of the transfer. -/
def Phase.appliesFinal (transferId : Bytes) : Phase → Bool
  | .working (.apply other update _) => decide (other = transferId) && isFinal update
  | _ => false

/-- What the thread does once it has `mutation_mutex_`. -/
def Phase.work? : Phase → Option Work
  | .working work => some work
  | _ => none

/-- The count is one that the record can take with the update. -/
def countFits (record : Record) (update : TransferUpdate) (transferredBytes : Nat) : Bool :=
  decide (record.transferredBytes ≤ transferredBytes) &&
    decide (transferredBytes ≤ record.totalBytes) &&
    (decide (publicState update.state ≠ .completed) ||
      decide (transferredBytes = record.totalBytes))

namespace TransferBridge

theorem refusesError_of_final {update : TransferUpdate} (h : isFinal update = true) :
    refusesError update = false := by
  have hstate := publicState_terminal h
  unfold refusesError publicError
  generalize publicState update.state = state at hstate
  cases state with
  | completed | cancelled | rejected => rfl
  | failed => cases update.error <;> rfl
  | _ => cases hstate

/-- After the end of a transfer is applied in time, a record of it is terminal. -/
theorem apply_final {bridge : TransferBridge} {transferId : Bytes} {update : TransferUpdate}
    {transferredBytes : Nat} (hopen : bridge.updatesOpen = true) (hfinal : isFinal update = true)
    (htimely : ∀ record, bridge.find transferId = some record →
      record.state ≠ .offered ∧ countFits record update transferredBytes = true)
    {record : Record}
    (hfind : (apply transferId update transferredBytes bridge).1.find transferId = some record) :
    record.state.terminal = true := by
  have hterminal := publicState_terminal hfinal
  unfold apply at hfind
  rw [if_neg (by simp [hopen])] at hfind
  split at hfind
  next hnone =>
    rw [hnone] at hfind
    cases hfind
  rename_i old hold
  obtain ⟨hoffered, hfits⟩ := htimely old hold
  obtain rfl := (FirstMatch.mem_of_lookup hold).2
  split at hfind
  next hrefused =>
    rw [hold] at hfind
    obtain rfl := Option.some.inj hfind
    by_contra hlive
    simp only [countFits, Bool.and_eq_true, Bool.or_eq_true, decide_eq_true_eq] at hfits
    obtain ⟨⟨hmin, hmax⟩, hcomplete⟩ := hfits
    have hflag : update.terminal = true := (Bool.and_eq_true _ _ ▸ hfinal : _ ∧ _).1
    have hcount : refusesCount old transferredBytes = false := by
      simp [refusesCount, hoffered, Bool.eq_false_of_not_eq_true hlive, hmin, hmax]
    have hstate : refusesState old update transferredBytes = false := by
      have hlate : publicState update.state ≠ .offered := by
        intro heq
        rw [heq] at hterminal
        cases hterminal
      rcases hcomplete with hincomplete | hequal
      · simp [refusesState, hlate, hincomplete, hterminal, hflag]
      · simp [refusesState, hlate, hequal, hterminal, hflag]
    rw [hcount, hstate, refusesError_of_final hfinal] at hrefused
    cases hrefused
  · have hsame : (updatedRecord old update transferredBytes).transferId = old.transferId := rfl
    have hamended : (bridge.amend (updatedRecord old update transferredBytes)).find
        old.transferId = some (updatedRecord old update transferredBytes) :=
      (find_amend hold hsame old.transferId).trans (if_pos rfl)
    obtain rfl := Option.some.inj (hamended.symm.trans hfind)
    exact hterminal

end TransferBridge

namespace TransferThreads

variable {τ : Type*}

/-! ### Cancellation -/

/-- The action applies an update to a cancelling record that would revive it. -/
def appliesStale (threads : TransferThreads τ) : Action τ → Bool
  | .proceed thread =>
    match threads.phases thread with
    | .working (.apply transferId update _) =>
      threads.mutationOwner.isNone &&
        (threads.bridge.find transferId).any (fun record => record.state = .cancelling) &&
        !(publicState update.state).winding
    | _ => false
  | _ => false

/-- Records that were winding up still are. -/
def Winds (bridge bridge' : TransferBridge) : Prop :=
  ∀ transferId record, bridge.find transferId = some record → record.state.winding = true →
    ∃ later, bridge'.find transferId = some later ∧ later.state.winding = true

variable {bridge bridge' : TransferBridge} {transferId : Bytes}

theorem Winds.of_find (h : bridge'.find = bridge.find) : Winds bridge bridge' := by
  intro transferId record hfind hwinding
  exact ⟨record, h ▸ hfind, hwinding⟩

theorem Winds.trans {first second third : TransferBridge} (h : Winds first second)
    (h' : Winds second third) : Winds first third := by
  intro transferId record hfind hwinding
  obtain ⟨later, hlater, hstill⟩ := h transferId record hfind hwinding
  exact h' transferId later hlater hstill

theorem winds_abandon (h : bridge.Lawful) : Winds bridge bridge.abandon.1 := by
  intro transferId record hfind hwinding
  rw [TransferBridge.find_abandon h.distinct, hfind, Option.bind_some]
  have hlate : record.state ≠ .offered := by
    intro heq
    rw [heq] at hwinding
    cases hwinding
  unfold TransferBridge.abandoned
  rw [if_neg hlate]
  split
  · exact ⟨record, rfl, hwinding⟩
  · exact ⟨_, rfl, rfl⟩

/-- A change keeps the records that wind up, if it does not apply a stale update. -/
theorem winds_mutation {work : Work} {event : EventPayload} (h : bridge.Lawful)
    (hmutation : TransferBridge.Mutation bridge work bridge' event)
    (hfresh : ∀ transferId update transferredBytes record,
      work = .apply transferId update transferredBytes → bridge.find transferId = some record →
      record.state = .cancelling → (publicState update.state).winding = true) :
    Winds bridge bridge' := by
  intro transferId record hfind hwinding
  by_cases hterminal : record.state.terminal = true
  · exact ⟨record, (hmutation.follows h transferId record hfind).1 hterminal, hwinding⟩
  have hcancelling : record.state = .cancelling :=
    (RecordState.winding_iff.mp hwinding).resolve_right hterminal
  cases hmutation with
  | @inserted new inserts identified fresh room =>
    rw [TransferBridge.find_insert fresh]
    split
    next heq =>
      rw [heq, fresh] at hfind
      cases hfind
    · exact ⟨record, hfind, hwinding⟩
  | @amended old changed found amends =>
    rw [TransferBridge.find_amend found amends.transferId]
    split
    next heq =>
      rw [heq, found] at hfind
      obtain rfl := Option.some.inj hfind
      refine ⟨changed, rfl, ?_⟩
      cases amends with
      | accepted offered =>
        rw [offered] at hcancelling
        cases hcancelling
      | cancelled live fresh => rfl
      | applied count state => exact hfresh _ _ _ old rfl found hcancelling
    · exact ⟨record, hfind, hwinding⟩
  | @removed old found offered =>
    rw [TransferBridge.find_remove h.distinct]
    split
    next heq =>
      rw [heq, found] at hfind
      obtain rfl := Option.some.inj hfind
      rw [offered] at hcancelling
      cases hcancelling
    · exact ⟨record, hfind, hwinding⟩

variable [DecidableEq τ] {canonical : Bytes → Bool} {threads threads' : TransferThreads τ}
  {action : Action τ} {marks : List (Mark τ)}

theorem find_of_records (h : bridge'.records = bridge.records) : bridge'.find = bridge.find := by
  unfold TransferBridge.find
  rw [h]

theorem Turn.winds (h : Orderly canonical threads)
    (hturn : Turn canonical threads action threads' marks)
    (hfresh : threads.appliesStale action = false) : Winds threads.bridge threads'.bridge := by
  cases hturn with
  | moves before after active available same | returns active settled same =>
    exact .of_find (find_of_records same.1)
  | @mutates thread work bridge event reply acts working free mutation =>
    have hsame := find_of_records (unreserve_same threads.bridge work).1
    refine (Winds.of_find hsame).trans (winds_mutation (lawful_unreserve h.lawful work) mutation ?_)
    rintro transferId update transferredBytes record rfl hfind hcancelling
    rw [hsame] at hfind
    rw [acts] at hfresh
    simpa [appliesStale, working, free, hfind, hcancelling] using hfresh
  | abandons abandoning free => exact winds_abandon h.lawful
  | _ => exact .of_find rfl

/-- A record that is cancelling stays so or comes to its end, as long as no update is applied
to it that the core has made before it has seen the cancel. -/
theorem run_winds (canonical : Bytes → Bool) (earlier later : List (Action τ))
    (hfresh : Runs.Admits (step canonical) (fun threads action =>
      threads.appliesStale action = false) {} (earlier ++ later)) (transferId : Bytes)
    (record : Record) (hfind : (after canonical earlier).bridge.find transferId = some record)
    (hcancelling : record.state = .cancelling) :
    ∃ record', (after canonical (earlier ++ later)).bridge.find transferId = some record' ∧
      (record'.state = .cancelling ∨ record'.state.terminal = true) := by
  have hadmits := (Runs.admits_append.mp hfresh).2
  have hrun : Orderly canonical (Runs.run (step canonical) (after canonical earlier) later) ∧
      Winds (after canonical earlier).bridge
        (Runs.run (step canonical) (after canonical earlier) later).bridge := by
    refine Runs.run_invariant (P := fun threads => Orderly canonical threads ∧
      Winds (after canonical earlier).bridge threads.bridge) ?_
      ⟨orderly_after canonical earlier, .of_find rfl⟩ hadmits
    rintro threads action ⟨horderly, hwinds⟩ hok
    exact ⟨horderly.step action, hwinds.trans ((horderly.turn action).winds horderly hok)⟩
  obtain ⟨record', hfind', hwinding⟩ := hrun.2 transferId record hfind (hcancelling ▸ rfl)
  refine ⟨record', ?_, RecordState.winding_iff.mp hwinding⟩
  rw [after, Runs.run_append]
  exact hfind'

/-- A transfer is started and is running. -/
def sendRunning : List (Action Bool) :=
  [.call true (.send [47] true), .proceed true,
    .answer true (.started { status := .ok, transferId := [1], totalBytes := 5 }),
    .proceed true, .proceed true, .call false (.apply [1] { state := .sendingFile } 1),
    .proceed false, .proceed false]

/-- It is cancelled, while the next update of the core is on its way to the bridge. -/
def cancelOvertakes : List (Action Bool) :=
  sendRunning ++ [.call true (.command .cancel [1]), .proceed true,
    .call false (.apply [1] { state := .sendingFile } 2), .answer true (.status .ok),
    .proceed true, .proceed true]

theorem run_winds_cancelOvertakes :
    ((after (fun _ => true) cancelOvertakes).bridge.find [1]).map Record.state =
      some .cancelling ∧
    ∃ record, (after (fun _ => true) (cancelOvertakes ++
        [.call true (.apply [1] { state := .cancelled, terminal := true } 2), .proceed true])
          ).bridge.find [1] = some record ∧
      (record.state = .cancelling ∨ record.state.terminal = true) :=
  ⟨by decide +kernel,
    run_winds (fun _ => true) cancelOvertakes _ (by decide +kernel) [1]
      ⟨[1], .outgoing, .cancelling, .none, 5, 1, []⟩ (by decide +kernel) rfl⟩

/-- The update that was on its way makes the cancelling record running again. -/
theorem cancelling_record_revives :
    ((after (fun _ => true) cancelOvertakes).bridge.find [1]).map Record.state =
      some .cancelling ∧
    ((after (fun _ => true) (cancelOvertakes ++ [.proceed false, .proceed false])).bridge.find
      [1]).map Record.state = some .running := by
  constructor <;> decide +kernel

/-! ### Outcomes -/

/-- The end of the transfer has been passed to `Apply`. -/
def passedFinal (trace : List (Mark τ)) (transferId : Bytes) : Bool :=
  trace.any fun mark =>
    match mark with
    | .called _ request => request.passesFinal transferId
    | _ => false

/-- A thread still waits to apply the end of the transfer. -/
def Waiting (threads : TransferThreads τ) (transferId : Bytes) : Prop :=
  ∃ thread, (threads.phases thread).appliesFinal transferId = true

/-- The end of a transfer is not applied while the record is offered, and with a count that
fits; no record is made after the end of its transfer was applied. -/
def TimelyWork (trace : List (Mark τ)) (threads : TransferThreads τ) : Work → Prop
  | .send result =>
    passedFinal trace result.transferId = true → Waiting threads result.transferId
  | .offer _ offer =>
    passedFinal trace offer.transferId = true → Waiting threads offer.transferId
  | .apply transferId update transferredBytes =>
    isFinal update = true → (threads.bridge.find transferId).all (fun record =>
      decide (record.state ≠ .offered) && countFits record update transferredBytes) = true
  | .command _ _ => True

/-- There is no shutdown, and what is done under `mutation_mutex_` is timely. -/
def Timely (trace : List (Mark τ)) (threads : TransferThreads τ) : Action τ → Prop
  | .call _ request => request ≠ .shutdown
  | .proceed thread => ∀ work ∈ (threads.phases thread).work?,
      threads.mutationOwner = none → TimelyWork trace threads work
  | _ => True

/-! A thread that waits for `mutation_mutex_` waits until it gets it. -/

theorem become_phases_of_ne {thread other : τ} (hother : other ≠ thread) (phase : Phase)
    (threads : TransferThreads τ) :
    (threads.become thread phase).phases other = threads.phases other :=
  Function.update_of_ne hother ..

theorem proceed_phases_of_ne {thread other : τ} (hother : other ≠ thread) :
    (threads.proceed canonical thread).1.phases other = threads.phases other := by
  unfold proceed
  split
  · split
    · rfl
    · split <;> exact become_phases_of_ne hother _ _
  · split
    · rfl
    · split <;> exact become_phases_of_ne hother _ _
  · split
    · rfl
    · unfold conclude
      split <;> exact become_phases_of_ne hother _ _
  · split <;> exact become_phases_of_ne hother _ _
  · split
    · rfl
    · split <;> exact become_phases_of_ne hother _ _
  · split
    · rfl
    · exact become_phases_of_ne hother _ _
  · exact become_phases_of_ne hother _ _
  · exact become_phases_of_ne hother _ _
  · rfl

theorem answered_phases_of_ne {thread other : τ} (hother : other ≠ thread) (answer : Answer) :
    (threads.answered thread answer).1.phases other = threads.phases other := by
  unfold answered
  cases answer with
  | started result =>
    dsimp only
    split
    · exact become_phases_of_ne hother _ _
    · rfl
  | status status =>
    dsimp only
    split
    · split <;> exact become_phases_of_ne hother _ _
    · exact become_phases_of_ne hother _ _
    · exact become_phases_of_ne hother _ _
    · rfl

theorem step_phases_of_working {thread : τ} {work : Work}
    (hphase : threads.phases thread = .working work)
    (hwaits : action = .proceed thread → threads.mutationOwner ≠ none) :
    (threads.step canonical action).phases thread = .working work := by
  unfold step
  cases action with
  | call other request =>
    simp only [act]
    by_cases hother : thread = other
    · rw [← hother, hphase]
      exact hphase
    split
    · split
      · exact hphase
      · exact (become_phases_of_ne hother _ _).trans hphase
    · exact hphase
  | proceed other =>
    by_cases hother : thread = other
    · subst hother
      have htaken := Option.isSome_iff_ne_none.mpr (hwaits rfl)
      simp only [act, proceed, hphase, htaken, if_true]
    · exact (proceed_phases_of_ne hother).trans hphase
  | answer other answer =>
    by_cases hother : thread = other
    · subst hother
      cases answer <;> simp only [act, answered, hphase]
    · exact (answered_phases_of_ne hother answer).trans hphase
  | snapshot expectedRevision offset present => exact hphase

/-- A record comes to be only under `mutation_mutex_`, by `Send` or by an offer. -/
theorem Turn.appears (h : Orderly canonical threads)
    (hturn : Turn canonical threads action threads' marks) {record : Record}
    (hnone : threads.bridge.find transferId = none)
    (hsome : threads'.bridge.find transferId = some record) :
    ∃ thread work new, action = .proceed thread ∧ threads.phases thread = .working work ∧
      threads.mutationOwner = none ∧ TransferBridge.Inserts work new ∧
      new.transferId = transferId := by
  have habsurd : ∀ {bridge : TransferBridge}, bridge.find transferId = none →
      bridge.find transferId = some record → False := by
    intro bridge hnone hsome
    rw [hnone] at hsome
    cases hsome
  cases hturn with
  | moves before after active available same | returns active settled same =>
    exact (habsurd hnone ((congrFun (find_of_records same.1) _).symm.trans hsome)).elim
  | @mutates thread work bridge event reply acts working free mutation =>
    rw [← find_of_records (unreserve_same threads.bridge work).1] at hnone
    replace hsome : bridge.find transferId = some record := hsome
    have hdistinct := (lawful_unreserve h.lawful work).distinct
    cases mutation with
    | @inserted new inserts identified fresh room =>
      refine ⟨thread, work, new, acts, working, free, inserts, ?_⟩
      by_contra hother
      rw [TransferBridge.find_insert fresh, if_neg (Ne.symm hother)] at hsome
      exact habsurd hnone hsome
    | @amended old changed found amends =>
      rw [TransferBridge.find_amend found amends.transferId] at hsome
      split at hsome
      next heq =>
        rw [heq, found] at hnone
        cases hnone
      · exact (habsurd hnone hsome).elim
    | @removed old found offered =>
      rw [TransferBridge.find_remove hdistinct] at hsome
      split at hsome
      · cases hsome
      · exact (habsurd hnone hsome).elim
  | abandons abandoning free =>
    replace hsome : threads.bridge.abandon.1.find transferId = some record := hsome
    rw [TransferBridge.find_abandon h.lawful.distinct, hnone] at hsome
    cases hsome
  | _ => exact (habsurd hnone hsome).elim

theorem begin_shutting {request : Request} {phase : Phase}
    (h : request.begin canonical = .ok phase) (hrequest : request ≠ .shutdown) :
    phase.shutting = false := by
  cases request with
  | send | applyIncomingOffer =>
    simp only [Request.begin] at h
    split at h <;> cases h
    rfl
  | shutdown => exact absurd rfl hrequest
  | command | apply => cases h; rfl

/-- Without a call of `Shutdown` the bridge stays open. -/
theorem Turn.stays_open (hturn : Turn canonical threads action threads' marks)
    (hunshut : ∀ thread, (threads.phases thread).shutting = false)
    (hcall : ∀ thread request, action = .call thread request → request ≠ .shutdown) :
    threads'.bridge.updatesOpen = threads.bridge.updatesOpen ∧
      ∀ thread, (threads'.phases thread).shutting = false := by
  have hbecome : ∀ {thread : τ} {phase : Phase}, phase.shutting = false →
      ∀ other, (Function.update threads.phases thread phase other).shutting = false := by
    intro thread phase hphase other
    by_cases hother : other = thread
    · rw [hother, Function.update_self]
      exact hphase
    rw [Function.update_of_ne hother]
    exact hunshut other
  cases hturn with
  | begins acts idle begun free =>
    exact ⟨rfl, hbecome (begin_shutting begun (hcall _ _ acts))⟩
  | @moves thread bridge phase before after active available same course =>
    obtain ⟨hphase, hopen⟩ := course (hunshut thread)
    exact ⟨hopen, hbecome hphase⟩
  | returns active settled same opened => exact ⟨opened, hbecome rfl⟩
  | @mutates thread work bridge event reply acts working free mutation =>
    exact ⟨mutation.same.2.trans (unreserve_same threads.bridge work).2.2, hbecome rfl⟩
  | publishes publishing => exact ⟨rfl, hbecome rfl⟩
  | @abandons thread abandoning free =>
    have hthread := hunshut thread
    rw [abandoning] at hthread
    cases hthread
  | @flushes thread event rest flushing =>
    have hthread := hunshut thread
    rw [flushing] at hthread
    cases hthread
  | _ => exact ⟨rfl, hunshut⟩

/-- Where the ends of the transfers have got to. -/
structure Delivered (canonical : Bytes → Bool) (trace : List (Mark τ))
    (threads : TransferThreads τ) : Prop where
  orderly : Orderly canonical threads
  opened : threads.bridge.updatesOpen = true
  unshut : ∀ thread, (threads.phases thread).shutting = false
  delivered : ∀ transferId, passedFinal trace transferId = true →
    Waiting threads transferId ∨
      ∀ record, threads.bridge.find transferId = some record → record.state.terminal = true

/-- The end of a transfer that is passed to the bridge waits to be applied. -/
theorem Turn.passes (hturn : Turn canonical threads action threads' marks)
    (hpassed : passedFinal marks transferId = true) : Waiting threads' transferId := by
  cases hturn with
  | @refused thread request outcome idle refused =>
    cases request with
    | apply other update transferredBytes => cases refused
    | _ => cases hpassed
  | @begins thread request phase acts idle begun free =>
    cases request with
    | apply other update transferredBytes =>
      cases begun
      refine ⟨thread, ?_⟩
      simpa [become, passedFinal, Request.passesFinal, Phase.appliesFinal] using hpassed
    | _ => cases hpassed
  | @abandons thread abandoning free =>
    simp [passedFinal] at hpassed
  | _ => cases hpassed

variable {trace : List (Mark τ)}

theorem Delivered.waiting (h : Delivered canonical trace threads)
    (htimely : Timely trace threads action) (hwaiting : Waiting threads transferId) :
    Waiting (threads.step canonical action) transferId ∨
      ∀ record, (threads.step canonical action).bridge.find transferId = some record →
        record.state.terminal = true := by
  obtain ⟨thread, hfinal⟩ := hwaiting
  cases hphase : threads.phases thread with
  | working work =>
    cases work with
    | apply other update transferredBytes =>
      rw [hphase] at hfinal
      obtain ⟨hsame, hend⟩ : other = transferId ∧ isFinal update = true := by
        simpa [Phase.appliesFinal] using hfinal
      subst hsame
      by_cases hacts : action = .proceed thread → threads.mutationOwner ≠ none
      · refine .inl ⟨thread, ?_⟩
        rw [step_phases_of_working hphase hacts]
        exact hfinal
      obtain ⟨rfl, hfree⟩ : action = .proceed thread ∧ threads.mutationOwner = none := by
        simpa using hacts
      refine .inr fun record hfind => ?_
      have hbridge (result : TransferBridge × Ending) :
          (threads.conclude thread result).1.bridge = result.1 := by
        obtain ⟨bridge, ending⟩ := result
        cases ending <;> rfl
      simp only [step, act, proceed, hphase, hfree, Option.isSome_none, Bool.false_eq_true,
        if_false, hbridge] at hfind
      refine TransferBridge.apply_final h.opened hend (fun old hold => ?_) hfind
      have hall := htimely (.apply other update transferredBytes) (hphase ▸ rfl) hfree hend
      rw [hold] at hall
      simpa using hall
    | _ => rw [hphase] at hfinal; cases hfinal
  | _ => rw [hphase] at hfinal; cases hfinal

theorem Delivered.step (h : Delivered canonical trace threads)
    (htimely : Timely trace threads action) :
    Delivered canonical (trace ++ threads.marks canonical action)
      (threads.step canonical action) := by
  have hturn := h.orderly.turn action
  have hcall : ∀ thread request, action = .call thread request → request ≠ .shutdown := by
    rintro thread request rfl
    exact htimely
  obtain ⟨hopen, hunshut⟩ := hturn.stays_open h.unshut hcall
  refine ⟨h.orderly.step action, hopen.trans h.opened, hunshut, fun transferId hpassed => ?_⟩
  rw [passedFinal, List.any_append, Bool.or_eq_true] at hpassed
  rcases hpassed with hpassed | hpassed
  swap
  · exact .inl (hturn.passes hpassed)
  rcases h.delivered transferId hpassed with hwaiting | hsettled
  · exact h.waiting htimely hwaiting
  -- A record that comes to be now finds the end of its transfer still waiting.
  cases hold : threads.bridge.find transferId with
  | some old =>
    refine .inr fun record hfind => ?_
    have hterminal := hsettled old hold
    have hsame := ((hturn.log h.orderly).1.follows transferId old hold).1 hterminal
    obtain rfl := Option.some.inj (hsame.symm.trans hfind)
    exact hterminal
  | none =>
    cases hnew : (threads.step canonical action).bridge.find transferId with
    | none => exact .inr fun record hfind => by cases hfind
    | some record =>
      obtain ⟨thread, work, new, rfl, hphase, hfree, hinserts, hid⟩ :=
        hturn.appears h.orderly hold hnew
      have hwork : TimelyWork trace threads work :=
        htimely work (hphase ▸ rfl) hfree
      subst hid
      rw [← hnew]
      refine h.waiting htimely ?_
      cases hinserts with
      | started | offered => exact hwork hpassed

theorem delivered_after (canonical : Bytes → Bool) (actions : List (Action τ))
    (htimely : Along (fun before action =>
      Timely (observed canonical before) (after canonical before) action) actions) :
    Delivered canonical (observed canonical actions) (after canonical actions) := by
  induction actions using List.reverseRecOn with
  | nil => exact ⟨orderly_initial canonical, rfl, fun _ => rfl, nofun⟩
  | append_singleton actions last ih =>
    obtain ⟨hbefore, hlast⟩ := along_concat.mp htimely
    rw [observed, Runs.emitted_concat, after, Runs.run_append]
    exact (ih hbefore).step hlast

/-- The end of every transfer that was passed to `Apply` shows in its record once no call is
in progress, as long as the ends come in time: not while the record is offered, and not
before it is made. -/
theorem run_delivers (canonical : Bytes → Bool) (actions : List (Action τ))
    (htimely : Along (fun before action =>
      Timely (observed canonical before) (after canonical before) action) actions)
    (hquiet : (after canonical actions).Quiet) (transferId : Bytes)
    (hpassed : passedFinal (observed canonical actions) transferId = true) (record : Record)
    (hfind : (after canonical actions).bridge.find transferId = some record) :
    record.state.terminal = true := by
  have hdelivered := (delivered_after canonical actions htimely).delivered transferId hpassed
  rcases hdelivered with ⟨thread, hwaiting⟩ | hterminal
  · rw [hquiet thread] at hwaiting
    cases hwaiting
  · exact hterminal record hfind

section Deciding

variable [Fintype τ]

instance decidableWaiting (threads : TransferThreads τ) (transferId : Bytes) :
    Decidable (Waiting threads transferId) :=
  inferInstanceAs (Decidable (∃ _, _ = true))

instance decidableQuiet (threads : TransferThreads τ) : Decidable threads.Quiet :=
  inferInstanceAs (Decidable (∀ thread, threads.phases thread = .idle))

instance decidableTimelyWork (trace : List (Mark τ)) (threads : TransferThreads τ) :
    (work : Work) → Decidable (TimelyWork trace threads work)
  | .send _ => inferInstanceAs (Decidable (_ = true → Waiting _ _))
  | .offer _ _ => inferInstanceAs (Decidable (_ = true → Waiting _ _))
  | .apply _ _ _ => inferInstanceAs (Decidable (_ = true → _ = true))
  | .command _ _ => inferInstanceAs (Decidable True)

instance decidableTimely (trace : List (Mark τ)) (threads : TransferThreads τ) :
    (action : Action τ) → Decidable (Timely trace threads action)
  | .call _ request => inferInstanceAs (Decidable (request ≠ .shutdown))
  | .proceed thread => inferInstanceAs (Decidable (∀ work ∈ (threads.phases thread).work?,
      threads.mutationOwner = none → TimelyWork trace threads work))
  | .answer _ _ => inferInstanceAs (Decidable True)
  | .snapshot _ _ _ => inferInstanceAs (Decidable True)

end Deciding

/-- The transfer that is running comes to its end. -/
def sendCompletes : List (Action Bool) :=
  sendRunning ++ [.call false (.apply [1] { state := .completed, terminal := true } 5),
    .proceed false, .proceed false]

theorem run_delivers_sendCompletes :
    passedFinal (observed (fun _ => true) sendCompletes) [1] = true ∧
    ∃ record, (after (fun _ => true) sendCompletes).bridge.find [1] = some record ∧
      record.state.terminal = true :=
  ⟨by decide +kernel, ⟨[1], .outgoing, .completed, .none, 5, 5, []⟩, by decide +kernel,
    run_delivers (fun _ => true) sendCompletes (by decide +kernel) (by decide +kernel) [1]
      (by decide +kernel) _ (by decide +kernel)⟩

/-- The peer cancels a transfer that it has offered, before the user decides. -/
def offerWithdrawn : List (Action Bool) :=
  let offer : IncomingOffer :=
    { transferId := [2], relativePath := [97], fileSize := 7, displayName := [97] }
  [.call false (.applyIncomingOffer [] offer), .proceed false, .proceed false,
    .call false (.apply [2] { state := .cancelled, error := .cancelled, terminal := true } 0),
    .proceed false]

/-- The transfer fails in the core while `Send` is about to make its record. -/
def sendFailsEarly : List (Action Bool) :=
  [.call true (.send [47] true), .proceed true,
    .answer true (.started { status := .ok, transferId := [1], totalBytes := 5 }),
    .call false (.apply [1] { state := .failed, error := .timeout, terminal := true } 0),
    .proceed false, .proceed true, .proceed true]

/-- The end of the transfer was passed to the bridge, no call is in progress, and the record
is offered or queued for good. -/
theorem final_update_is_lost :
    (passedFinal (observed (fun _ => true) offerWithdrawn) [2] = true ∧
      (after (fun _ => true) offerWithdrawn).Quiet ∧
      ((after (fun _ => true) offerWithdrawn).bridge.find [2]).map Record.state =
        some .offered) ∧
    passedFinal (observed (fun _ => true) sendFailsEarly) [1] = true ∧
      (after (fun _ => true) sendFailsEarly).Quiet ∧
      ((after (fun _ => true) sendFailsEarly).bridge.find [1]).map Record.state =
        some .queued := by
  refine ⟨⟨?_, ?_, ?_⟩, ?_, ?_, ?_⟩ <;> decide +kernel

end TransferThreads

end XnnTransfer.Bridge
