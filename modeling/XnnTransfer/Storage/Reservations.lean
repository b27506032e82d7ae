import Mathlib.Algebra.Group.Prod
import Mathlib.Algebra.Ring.Nat
import Mathlib.Data.List.Infix
import XnnTransfer.Library.Shares
import XnnTransfer.Storage.Transaction

/-!
# The reservation of a receive transaction

What the methods of a `ReceiveTransaction` do to the `TemporaryBudget` they share
with others. A reservation is taken in `Begin`; from there it comes to exactly one
of two ends: it is given back, or it is written off because nobody knows what
became of the temporary file.

## Implementation notes

A method holds the transaction's lock until it returns, but methods of different
transactions run side by side and meet at the budget. Only `Begin` goes to the
budget twice, before and after it asks the platform for a file, so it is taken in
two steps here and other transactions may come in between; every other method goes
there at most once and is one step.
-/

namespace XnnTransfer.Storage

open Shares

/-- The call to the budget that a transaction made when its reservation changed. -/
inductive BudgetCall
  | reserve (bytes : Nat)
  | release (bytes : Nat)
  | markUnresolved (bytes : Nat)
  deriving DecidableEq, Repr

namespace TemporaryBudget

/-- What one successful call leaves of the budget. -/
def apply (budget : TemporaryBudget) : BudgetCall → TemporaryBudget
  | .reserve bytes => (budget.tryReserve bytes).2
  | .release bytes => budget.release bytes
  | .markUnresolved bytes => budget.markUnresolved bytes

/-- What the calls leave of the budget. -/
def replay (budget : TemporaryBudget) (calls : List BudgetCall) : TemporaryBudget :=
  calls.foldl apply budget

/-- The books of a budget, for what is held and what was left behind. -/
structure Books (limit : Nat) (budget : TemporaryBudget) (shares : Nat × Nat) : Prop where
  machine : limit < 2 ^ 64
  cap : budget.limitBytes = limit
  reserved : budget.reservedBytes = shares.1 + shares.2
  unresolved : budget.unresolvedBytes = shares.2
  bounded : budget.reservedBytes ≤ limit

variable {budget : TemporaryBudget} {limit bytes : Nat}

theorem updates_tryReserve (h : (budget.tryReserve bytes).1 = true) :
    Updates (Books limit) budget (0, 0) (budget.tryReserve bytes).2 (bytes, 0) := by
  intro frame hbooks
  obtain ⟨hmachine, hcap, hreserved, hunresolved, hbounded⟩ := hbooks
  unfold tryReserve at h ⊢
  split at h
  · cases h
  rename_i hroom
  rw [if_neg hroom]
  simp only [Prod.fst_add, Prod.snd_add] at hreserved hunresolved
  refine ⟨hmachine, hcap, ?_, ?_, ?_⟩ <;> simp only [Prod.fst_add, Prod.snd_add] <;> omega

theorem tryReserve_refused (h : (budget.tryReserve bytes).1 = false) :
    (budget.tryReserve bytes).2 = budget := by
  unfold tryReserve at h ⊢
  split
  · rfl
  rename_i hroom
  rw [if_neg hroom] at h
  cases h

/-- A reservation that is held can be given back: there is nothing to subtract from but
what was reserved. -/
theorem le_reserved {frame : Nat × Nat} (h : Books limit budget ((bytes, 0) + frame)) :
    bytes ≤ budget.reservedBytes := by
  rw [h.reserved]
  simp only [Prod.fst_add]
  omega

theorem updates_release :
    Updates (Books limit) budget (bytes, 0) (budget.release bytes) (0, 0) := by
  intro frame hbooks
  have hle := le_reserved hbooks
  obtain ⟨hmachine, hcap, hreserved, hunresolved, hbounded⟩ := hbooks
  simp only [Prod.fst_add, Prod.snd_add, zero_add] at hreserved hunresolved
  have hafter := Transfer.sub64_eq hle (lt_of_le_of_lt hbounded hmachine)
  rw [release, hafter]
  refine ⟨hmachine, hcap, ?_, ?_, ?_⟩ <;> simp only [Prod.fst_add, Prod.snd_add] <;> omega

theorem updates_markUnresolved :
    Updates (Books limit) budget (bytes, 0) (budget.markUnresolved bytes) (0, bytes) := by
  intro frame hbooks
  obtain ⟨hmachine, hcap, hreserved, hunresolved, hbounded⟩ := hbooks
  simp only [Prod.fst_add, Prod.snd_add, zero_add] at hreserved hunresolved
  have hroom : budget.unresolvedBytes + bytes < 2 ^ 64 := by omega
  have hafter := Transfer.add64_eq hroom
  rw [markUnresolved, hafter]
  refine ⟨hmachine, hcap, ?_, ?_, hbounded⟩ <;> simp only [Prod.fst_add, Prod.snd_add] <;> omega

end TemporaryBudget

/-- The transaction ended without knowing what became of its temporary file. -/
def TransactionState.unresolved (state : TransactionState) : Bool :=
  state = .cleanupUnresolved ∨ state = .outcomeUncertain

/-- The transaction is over. -/
def TransactionState.settled (state : TransactionState) : Bool :=
  state = .committed ∨ state = .aborted ∨ state.unresolved

namespace ReceiveTransaction

variable (backend : Backend) (tx : ReceiveTransaction) (budget : TemporaryBudget)

/-- `Begin` up to the call to the platform: the transaction, the budget, and whether the
method goes on. -/
def reserve : ReceiveTransaction × TemporaryBudget × Bool :=
  if tx.state ≠ .created then (tx, budget, false)
  else
    let (reserved, budget) := budget.tryReserve tx.request.declaredSize
    if reserved = false then
      ({ tx with state := .aborted, terminalResult := { error := .temporaryBudgetExceeded } },
        budget, false)
    else ({ tx with reservationHeld := true }, budget, true)

/-- `Begin` from the call to the platform on. -/
def openTemporary : TransactionStep :=
  let (error, handle) := backend.createTemporary tx.request.path tx.request.declaredSize
  let calls := [.createTemporary tx.request.path tx.request.declaredSize error handle]
  if error ≠ .none ∨ handle = 0 then
    let platformError := if error = .none then .ioFailure else error
    if handle ≠ 0 then
      after calls
        (failAndCleanup backend { tx with temporary := handle, temporaryOpen := true } budget
          (errorForPlatform platformError .openFailed) platformError)
    else
      let (released, budget) := tx.releaseReservation budget
      let result : TransactionResult :=
        { error := errorForPlatform platformError .openFailed
          platformError := platformError }
      { result := result
        transaction := { released with state := .aborted, terminalResult := result }
        budget := budget
        calls := calls }
  else
    { transaction := { tx with temporary := handle, temporaryOpen := true, state := .receiving }
      budget := budget
      calls := calls }

variable {backend tx budget}

/-- A reservation came to its end: it was given back, or it was written off with the
file. -/
inductive Settles (request : ValidatedReceiveRequest) (budget : TemporaryBudget) :
    ReceiveTransaction → TemporaryBudget → Prop
  | released {tx : ReceiveTransaction} (same : tx.request = request)
      (held : tx.reservationHeld = false) (state : tx.state = .committed ∨ tx.state = .aborted) :
      Settles request budget tx (budget.release request.declaredSize)
  | unresolved {tx : ReceiveTransaction} (same : tx.request = request)
      (held : tx.reservationHeld = false) (state : tx.state.unresolved = true) :
      Settles request budget tx (budget.markUnresolved request.declaredSize)

theorem Settles.ended {request : ValidatedReceiveRequest} {budget' : TemporaryBudget}
    (h : Settles request budget tx budget') :
    tx.reservationHeld = false ∧ tx.state.settled = true := by
  cases h with
  | released _ hheld hstate => exact ⟨hheld, by rcases hstate with h | h <;> rw [h] <;> rfl⟩
  | unresolved _ hheld hstate => exact ⟨hheld, by simp [TransactionState.settled, hstate]⟩

theorem failAndCleanup_settles (hheld : tx.reservationHeld = true) (error : TransactionError)
    (platformError : PlatformError) :
    Settles tx.request budget (failAndCleanup backend tx budget error platformError).transaction
      (failAndCleanup backend tx budget error platformError).budget := by
  simp only [failAndCleanup, releaseReservation_eq, hheld, if_true]
  split
  · split
    · exact .unresolved rfl rfl rfl
    · exact .released rfl rfl (.inr rfl)
  · exact .released rfl rfl (.inr rfl)

/-- What a step leaves of a transaction that held its reservation: it goes on receiving and
the budget is as it was, or the reservation came to its end. -/
def Proceeds (tx : ReceiveTransaction) (budget : TemporaryBudget) (step : TransactionStep) :
    Prop :=
  (step.transaction.request = tx.request ∧ step.transaction.reservationHeld = true ∧
      step.transaction.state = .receiving ∧ step.budget = budget) ∨
    Settles tx.request budget step.transaction step.budget

theorem openTemporary_proceeds (hheld : tx.reservationHeld = true) :
    Proceeds tx budget (openTemporary backend tx budget) := by
  simp only [openTemporary, releaseReservation_eq]
  split
  · right
    split
    · generalize (backend.createTemporary tx.request.path tx.request.declaredSize).2 = handle
      exact @failAndCleanup_settles backend { tx with temporary := handle, temporaryOpen := true }
        budget hheld _ _
    · exact .released rfl rfl (.inr rfl)
  · exact .inl ⟨rfl, hheld, rfl, rfl⟩

theorem write_proceeds (hstate : tx.state = .receiving) (hheld : tx.reservationHeld = true)
    (data : Bytes) : Proceeds tx budget (write backend tx budget data) := by
  simp only [write, hstate, ne_eq, not_true_eq_false, if_false]
  split
  · exact .inr (failAndCleanup_settles hheld _ _)
  split
  · exact .inl ⟨rfl, hheld, hstate, rfl⟩
  split
  · exact .inr (failAndCleanup_settles hheld _ _)
  split
  · exact .inr (failAndCleanup_settles hheld _ _)
  · exact .inl ⟨rfl, hheld, rfl, rfl⟩

theorem sealAndCommit_proceeds (hstate : tx.state = .receiving)
    (hheld : tx.reservationHeld = true) :
    Proceeds tx budget (sealAndCommit backend tx budget) := by
  right
  simp only [sealAndCommit, hstate, ne_eq, not_true_eq_false, if_false]
  split
  · exact failAndCleanup_settles hheld _ _
  split
  · exact failAndCleanup_settles hheld _ _
  split
  · exact failAndCleanup_settles hheld _ _
  simp only [commit, releaseReservation_eq, hheld, if_true]
  split
  · exact .released rfl rfl (.inl rfl)
  · exact .unresolved rfl rfl rfl
  · exact failAndCleanup_settles hheld _ _

end ReceiveTransaction

/-- A transaction among those that share the budget. -/
structure Party where
  transaction : ReceiveTransaction
  /-- `Begin` has reserved and the platform has not answered yet. -/
  opening : Bool := false
  destroyed : Bool := false
  deriving DecidableEq, Repr

/-- A step of a method, with what the platform and the verifier answer during it. -/
inductive Method
  | reserve
  | openTemporary (backend : Backend)
  | write (data : Bytes) (backend : Backend)
  | sealAndCommit (backend : Backend)
  | abort (backend : Backend)
  | destroy (backend : Backend)

namespace Party

def size (party : Party) : Nat := party.transaction.request.declaredSize

def held (party : Party) : Bool := party.transaction.reservationHeld

/-- What the transaction contributes to the reserved bytes by holding its reservation. -/
def heldBytes (party : Party) : Nat := if party.held then party.size else 0

/-- What the transaction contributes to the unresolved bytes. -/
def unresolvedBytes (party : Party) : Nat :=
  if party.transaction.state.unresolved then party.size else 0

def share (party : Party) : Nat × Nat := (party.heldBytes, party.unresolvedBytes)

/-- No method of the transaction is under way and the transaction is there. -/
def free (party : Party) : Bool := !party.opening && !party.destroyed

/-- The party after the last step of a method. -/
def leave (party : Party) (step : TransactionStep) : Party × TemporaryBudget :=
  ({ party with transaction := step.transaction, opening := false }, step.budget)

def act (party : Party) (budget : TemporaryBudget) : Method → Party × TemporaryBudget
  | .openTemporary backend =>
    if party.opening then party.leave (party.transaction.openTemporary backend budget)
    else (party, budget)
  | .reserve =>
    if party.free then
      let (reserved, budget, goesOn) := party.transaction.reserve budget
      ({ party with transaction := reserved, opening := goesOn }, budget)
    else (party, budget)
  | .write data backend =>
    if party.free then party.leave (party.transaction.write backend budget data)
    else (party, budget)
  | .sealAndCommit backend =>
    if party.free then party.leave (party.transaction.sealAndCommit backend budget)
    else (party, budget)
  | .abort backend =>
    if party.free then party.leave (party.transaction.abort backend budget)
    else (party, budget)
  -- the destructor aborts and ignores the result
  | .destroy backend =>
    if party.free then
      { party with destroyed := true }.leave (party.transaction.abort backend budget)
    else (party, budget)

/-- The call to the budget between two moments of a transaction, read off its
reservation. -/
def budgetCall (before after : Party) : List BudgetCall :=
  if before.held = after.held then []
  else if after.held then [.reserve before.size]
  else if after.transaction.state.unresolved then [.markUnresolved before.size]
  else [.release before.size]

/-- A reservation is held while the transaction opens its file and while it receives. -/
structure Sound (party : Party) : Prop where
  held : party.held = true ↔ party.opening = true ∨ party.transaction.state = .receiving
  opening : party.opening = true → party.transaction.state = .created

theorem Sound.not_held {party : Party} (h : party.Sound)
    (hsettled : party.transaction.state.settled = true) : party.held = false := by
  rw [Bool.eq_false_iff, ne_eq, h.held]
  rintro (hopening | hstate)
  · rw [h.opening hopening] at hsettled
    cases hsettled
  rw [hstate] at hsettled
  cases hsettled

/-- What a step of a method can do to the reservation and to the budget. -/
inductive Turn (party : Party) (budget : TemporaryBudget) : Party → TemporaryBudget → Prop
  | kept {party' : Party} (size : party'.size = party.size) (held : party'.held = party.held)
      (final : party.transaction.state.settled = true → party'.transaction = party.transaction)
      (origin : party'.transaction.state.settled = true →
        party'.transaction.state = party.transaction.state ∨
          party.transaction.state = .created ∧ party'.transaction.state = .aborted) :
      Turn party budget party' budget
  | reserved {party' : Party} (size : party'.size = party.size)
      (before : party.transaction.state = .created)
      (accepted : (budget.tryReserve party.size).1 = true) (held : party.held = false)
      (held' : party'.held = true) (after : party'.transaction.state = .created) :
      Turn party budget party' (budget.tryReserve party.size).2
  | settled {party' : Party} {budget' : TemporaryBudget} (held : party.held = true)
      (settles : ReceiveTransaction.Settles party.transaction.request budget party'.transaction
        budget') : Turn party budget party' budget'

variable {party party' : Party} {budget budget' : TemporaryBudget} {limit : Nat}

theorem Turn.refl (party : Party) (budget : TemporaryBudget) : Turn party budget party budget :=
  .kept rfl rfl (fun _ => rfl) (fun _ => .inl rfl)

/-- A turn after which the party is sound. -/
def Takes (party : Party) (budget : TemporaryBudget) (outcome : Party × TemporaryBudget) : Prop :=
  Turn party budget outcome.1 outcome.2 ∧ outcome.1.Sound

/-- The last step of a method that held the reservation. -/
theorem Takes.proceeds {step : TransactionStep} (hheld : party.held = true)
    (hstate : party.transaction.state.settled = false)
    (h : party.transaction.Proceeds budget step) : party.Takes budget (party.leave step) := by
  rcases h with ⟨hrequest, hheld', hreceiving, hbudget⟩ | hsettles
  · constructor
    · rw [show (party.leave step).2 = budget from hbudget]
      refine .kept (congrArg ValidatedReceiveRequest.declaredSize hrequest) (hheld'.trans hheld.symm) ?_ ?_
      · intro hsettled
        rw [hstate] at hsettled
        cases hsettled
      intro hsettled
      rw [show (party.leave step).1.transaction.state = .receiving from hreceiving] at hsettled
      cases hsettled
    · exact ⟨iff_of_true hheld' (.inr hreceiving), by simp [leave]⟩
  refine ⟨.settled hheld hsettles, ?_, by simp [leave]⟩
  obtain ⟨hfree, hended⟩ := hsettles.ended
  refine iff_of_false (by simp [held, leave, hfree]) ?_
  rintro (hopening | hreceiving)
  · cases hopening
  rw [show step.transaction.state = .receiving from hreceiving] at hended
  cases hended

/-- A method that only looks at the state leaves the reservation alone. -/
theorem Takes.unchanged {step : TransactionStep} (h : party.Sound) (hfree : party.opening = false)
    (htransaction : step.transaction = party.transaction) (hbudget : step.budget = budget) :
    party.Takes budget (party.leave step) := by
  have hsame : party.leave step = (party, budget) := by
    cases party
    cases hfree
    simp_all [leave]
  rw [hsame]
  exact ⟨.refl party budget, h⟩

/-- Whether a transaction is destroyed matters neither to its reservation nor to the
budget. -/
theorem Turn.destroyed (h : Turn party budget party' budget') :
    Turn party budget { party' with destroyed := true } budget' := by
  cases h with
  | kept hsize hheld hfinal horigin => exact .kept hsize hheld hfinal horigin
  | reserved hsize hbefore haccepted hheld hheld' hafter =>
    exact .reserved hsize hbefore haccepted hheld hheld' hafter
  | settled hheld hsettles => exact .settled hheld hsettles

theorem opening_of_free (h : party.free = true) : party.opening = false := by
  simp only [free, Bool.and_eq_true, Bool.not_eq_true'] at h
  exact h.1

/-- `Abort`, called by the user or by the destructor. -/
theorem turn_abort (h : party.Sound) (hfree : party.opening = false) (backend : Backend) :
    party.Takes budget (party.leave (party.transaction.abort backend budget)) := by
  cases hstate : party.transaction.state with
  | receiving =>
    have hheld := h.held.mpr (.inr hstate)
    refine Takes.proceeds hheld (hstate ▸ rfl) (.inr ?_)
    simp only [ReceiveTransaction.abort, hstate]
    exact ReceiveTransaction.failAndCleanup_settles hheld _ _
  | created =>
    have hnot : party.held = false := by
      rw [Bool.eq_false_iff, ne_eq, h.held]
      simp [hfree, hstate]
    simp only [ReceiveTransaction.abort, hstate, leave]
    refine ⟨.kept rfl rfl ?_ fun _ => .inr ⟨hstate, rfl⟩, ?_, by simp⟩
    · intro hsettled
      rw [hstate] at hsettled
      cases hsettled
    · exact iff_of_false (Bool.eq_false_iff.mp hnot) (by simp)
  | committed | aborted | cleanupUnresolved | outcomeUncertain =>
    refine Takes.unchanged h hfree ?_ ?_ <;> simp only [ReceiveTransaction.abort, hstate]

theorem turn_reserve (h : party.Sound) (hfree : party.opening = false) :
    party.Takes budget
      ({ party with
        transaction := (party.transaction.reserve budget).1
        opening := (party.transaction.reserve budget).2.2 },
        (party.transaction.reserve budget).2.1) := by
  have hnot : party.transaction.state = .created → party.held = false := by
    intro hstate
    rw [Bool.eq_false_iff, ne_eq, h.held]
    simp [hfree, hstate]
  unfold ReceiveTransaction.reserve
  split
  · have hsame : { party with transaction := party.transaction, opening := false } = party := by
      rw [← hfree]
    simp only
    rw [hsame]
    exact ⟨.refl party budget, h⟩
  rename_i hstate
  have hstate : party.transaction.state = .created := not_not.mp hstate
  dsimp only
  split
  · rename_i hrefused
    refine ⟨?_, ?_, by simp⟩
    · rw [TemporaryBudget.tryReserve_refused hrefused]
      refine .kept rfl rfl ?_ fun _ => .inr ⟨hstate, rfl⟩
      intro hsettled
      rw [hstate] at hsettled
      cases hsettled
    · exact iff_of_false (Bool.eq_false_iff.mp (hnot hstate)) (by simp)
  rename_i haccepted
  refine ⟨?_, ?_, fun _ => hstate⟩
  · exact .reserved rfl hstate (Bool.eq_true_of_not_eq_false haccepted) (hnot hstate) rfl hstate
  · exact iff_of_true rfl (.inl rfl)

/-- Every step of a method is a turn, and the party stays sound. -/
theorem turn_act (h : party.Sound) (budget : TemporaryBudget) (method : Method) :
    party.Takes budget (party.act budget method) := by
  cases method with
  | reserve =>
    simp only [act]
    split
    · exact turn_reserve h (opening_of_free ‹_›)
    · exact ⟨.refl party budget, h⟩
  | openTemporary backend =>
    simp only [act]
    split
    · rename_i hopening
      have hheld := h.held.mpr (.inl hopening)
      exact Takes.proceeds hheld (by rw [h.opening hopening]; rfl)
        (ReceiveTransaction.openTemporary_proceeds hheld)
    · exact ⟨.refl party budget, h⟩
  | write data backend =>
    simp only [act]
    split
    · by_cases hstate : party.transaction.state = .receiving
      · have hheld := h.held.mpr (.inr hstate)
        exact Takes.proceeds hheld (hstate ▸ rfl)
          (ReceiveTransaction.write_proceeds hstate hheld data)
      refine Takes.unchanged h (opening_of_free ‹_›) ?_ ?_ <;>
        simp only [ReceiveTransaction.write, ne_eq, hstate, not_false_eq_true, if_true]
    · exact ⟨.refl party budget, h⟩
  | sealAndCommit backend =>
    simp only [act]
    split
    · by_cases hstate : party.transaction.state = .receiving
      · have hheld := h.held.mpr (.inr hstate)
        exact Takes.proceeds hheld (hstate ▸ rfl)
          (ReceiveTransaction.sealAndCommit_proceeds hstate hheld)
      refine Takes.unchanged h (opening_of_free ‹_›) ?_ ?_ <;>
        simp only [ReceiveTransaction.sealAndCommit, ne_eq, hstate, not_false_eq_true, if_true]
    · exact ⟨.refl party budget, h⟩
  | abort backend =>
    simp only [act]
    split
    · exact turn_abort h (opening_of_free ‹_›) backend
    · exact ⟨.refl party budget, h⟩
  | destroy backend =>
    simp only [act]
    split
    · have habort := @turn_abort party budget h (opening_of_free ‹_›) backend
      exact ⟨habort.1.destroyed, habort.2.held, habort.2.opening⟩
    · exact ⟨.refl party budget, h⟩

/-- A state that only a settled transaction can have is not entered while the reservation
is kept. -/
theorem unresolved_eq_of_kept
    (hfinal : party.transaction.state.settled = true → party'.transaction = party.transaction)
    (horigin : party'.transaction.state.settled = true →
      party'.transaction.state = party.transaction.state ∨
        party.transaction.state = .created ∧ party'.transaction.state = .aborted) :
    party'.transaction.state.unresolved = party.transaction.state.unresolved := by
  by_cases hsettled : party.transaction.state.settled = true
  · rw [hfinal hsettled]
  by_cases hsettled' : party'.transaction.state.settled = true
  · rcases horigin hsettled' with hsame | ⟨hbefore, hafter⟩
    · rw [hsame]
    rw [hbefore, hafter]
    rfl
  simp only [TransactionState.settled, decide_eq_true_eq, not_or] at hsettled hsettled'
  rw [Bool.eq_false_of_not_eq_true hsettled.2.2, Bool.eq_false_of_not_eq_true hsettled'.2.2]

/-- The books stay right whatever the other transactions hold. -/
theorem Turn.updates (h : Turn party budget party' budget') (hsound : party.Sound) :
    Updates (TemporaryBudget.Books limit) budget party.share budget' party'.share := by
  cases h with
  | kept hsize hheld hfinal horigin =>
    have hsame : party'.share = party.share := by
      simp only [share, heldBytes, unresolvedBytes, hsize, hheld,
        unresolved_eq_of_kept hfinal horigin]
    rw [hsame]
    exact .refl
  | reserved hsize hbefore haccepted hheld hheld' hafter =>
    have hshare : party.share = (0, 0) := by
      simp [share, heldBytes, unresolvedBytes, hheld, hbefore, TransactionState.unresolved]
    have hshare' : party'.share = (party.size, 0) := by
      simp [share, heldBytes, unresolvedBytes, hheld', hafter, hsize, TransactionState.unresolved]
    rw [hshare, hshare']
    exact TemporaryBudget.updates_tryReserve haccepted
  | settled hheld hsettles =>
    have hunsettled : party.transaction.state.unresolved = false := by
      rw [Bool.eq_false_iff]
      intro hunresolved
      have := hsound.not_held (by simp [TransactionState.settled, hunresolved])
      cases hheld.symm.trans this
    have hshare : party.share = (party.size, 0) := by
      simp [share, heldBytes, unresolvedBytes, hheld, hunsettled]
    rw [hshare]
    cases hsettles with
    | released hsame hheld' hstate =>
      have hshare' : party'.share = (0, 0) := by
        rcases hstate with hstate | hstate <;>
          simp [share, heldBytes, unresolvedBytes, held, hheld', hstate,
            TransactionState.unresolved]
      rw [hshare']
      exact TemporaryBudget.updates_release
    | unresolved hsame hheld' hstate =>
      have hshare' : party'.share = (0, party.size) := by
        simp [share, heldBytes, unresolvedBytes, held, hheld', hstate, size, hsame]
      rw [hshare']
      exact TemporaryBudget.updates_markUnresolved

theorem budgetCall_released (hheld : party.held = true) (hheld' : party'.held = false)
    (hstate : party'.transaction.state = .committed ∨ party'.transaction.state = .aborted) :
    party.budgetCall party' = [.release party.size] := by
  have hresolved : party'.transaction.state.unresolved = false := by
    rcases hstate with h | h <;> rw [h] <;> rfl
  simp [budgetCall, hheld, hheld', hresolved]

theorem budgetCall_unresolved (hheld : party.held = true) (hheld' : party'.held = false)
    (hstate : party'.transaction.state.unresolved = true) :
    party.budgetCall party' = [.markUnresolved party.size] := by
  simp [budgetCall, hheld, hheld', hstate]

/-- The budget after a step is what the recorded call leaves of it. -/
theorem Turn.replay (h : Turn party budget party' budget') :
    budget' = budget.replay (party.budgetCall party') := by
  cases h with
  | kept _ hheld => simp [budgetCall, hheld, TemporaryBudget.replay]
  | reserved _ _ _ hheld hheld' =>
    simp [budgetCall, hheld, hheld', TemporaryBudget.replay, TemporaryBudget.apply]
  | settled hheld hsettles =>
    cases hsettles with
    | released _ hheld' hstate =>
      rw [budgetCall_released hheld hheld' hstate]
      rfl
    | unresolved _ hheld' hstate =>
      rw [budgetCall_unresolved hheld hheld' hstate]
      rfl

/-- A reservation that is given back was held, so the budget has it. -/
theorem Turn.released_le (h : Turn party budget party' budget') {before : List BudgetCall}
    {bytes : Nat} {frame : Nat × Nat}
    (hbooks : TemporaryBudget.Books limit budget (party.share + frame))
    (hcall : before ++ [.release bytes] <+: party.budgetCall party') :
    before = [] ∧ bytes ≤ budget.reservedBytes := by
  cases h with
  | kept _ hheld => simp [budgetCall, hheld] at hcall
  | reserved _ _ _ hheld hheld' =>
    have hmem := hcall.subset (List.mem_append_right before (List.mem_singleton_self _))
    simp [budgetCall, hheld, hheld'] at hmem
  | settled hheld hsettles =>
    cases hsettles with
    | released hsame hheld' hstate =>
      rw [budgetCall_released hheld hheld' hstate] at hcall
      obtain ⟨rest, hrest⟩ := hcall
      cases before with
      | cons call others => simp at hrest
      | nil =>
        simp only [List.nil_append, List.singleton_append, List.cons.injEq,
          BudgetCall.release.injEq] at hrest
        have hshare : party.share = (party.size, 0) + (0, party.unresolvedBytes) := by
          simp [share, heldBytes, hheld]
        rw [hshare, add_assoc] at hbooks
        exact ⟨rfl, hrest.1 ▸ TemporaryBudget.le_reserved hbooks⟩
    | unresolved hsame hheld' hstate =>
      have hmem := hcall.subset (List.mem_append_right before (List.mem_singleton_self _))
      rw [budgetCall_unresolved hheld hheld' hstate] at hmem
      simp at hmem

/-- The calls to the budget that a transaction has made, by what became of its
reservation: none, the reservation alone, or the reservation and the one call that
ended it. -/
inductive Traced (party : Party) : List BudgetCall → Prop
  | untouched (held : party.held = false)
      (state : party.transaction.state = .created ∨ party.transaction.state = .aborted) :
      Traced party []
  | holding (held : party.held = true) : Traced party [.reserve party.size]
  | released (held : party.held = false)
      (state : party.transaction.state = .committed ∨ party.transaction.state = .aborted) :
      Traced party [.reserve party.size, .release party.size]
  | unresolved (held : party.held = false) (state : party.transaction.state.unresolved = true) :
      Traced party [.reserve party.size, .markUnresolved party.size]

theorem Turn.traced (h : Turn party budget party' budget') (hsound : party'.Sound)
    {calls : List BudgetCall} (hcalls : party.Traced calls) :
    party'.Traced (calls ++ party.budgetCall party') := by
  cases h with
  | kept hsize hheld hfinal horigin =>
    have hunresolved := unresolved_eq_of_kept hfinal horigin
    rw [show party.budgetCall party' = [] by simp [budgetCall, hheld], List.append_nil]
    cases hcalls with
    | untouched hfree hstate =>
      refine .untouched (hheld.trans hfree) ?_
      by_cases hsettled : party'.transaction.state.settled = true
      · rcases horigin hsettled with hsame | ⟨-, hafter⟩
        · rwa [hsame]
        · exact .inr hafter
      have hidle : party'.transaction.state ≠ .receiving := fun hreceiving =>
        absurd (hsound.held.mpr (.inr hreceiving)) (by simp [hheld, hfree])
      cases hstate' : party'.transaction.state <;>
        simp_all [TransactionState.settled, TransactionState.unresolved]
    | holding hholds =>
      rw [← hsize]
      exact .holding (hheld.trans hholds)
    | released hfree hstate =>
      have hsettled : party.transaction.state.settled = true := by
        rcases hstate with h | h <;> rw [h] <;> rfl
      rw [← hsize]
      exact .released (hheld.trans hfree) (by rwa [hfinal hsettled])
    | unresolved hfree hstate =>
      rw [← hsize]
      exact .unresolved (hheld.trans hfree) (hunresolved.trans hstate)
  | reserved hsize hbefore haccepted hheld hheld' hafter =>
    have hcall : party.budgetCall party' = [.reserve party.size] := by
      simp [budgetCall, hheld, hheld']
    rw [hcall]
    cases hcalls with
    | untouched => exact hsize ▸ .holding hheld'
    | holding hholds => cases hheld.symm.trans hholds
    | released _ hstate => rcases hstate with h | h <;> rw [hbefore] at h <;> cases h
    | unresolved _ hstate =>
      rw [hbefore] at hstate
      cases hstate
  | settled hheld hsettles =>
    have hcalls : calls = [.reserve party.size] := by
      cases hcalls with
      | holding => rfl
      | untouched hfree | released hfree | unresolved hfree =>
        cases hheld.symm.trans hfree
    subst hcalls
    cases hsettles with
    | released hsame hfree hstate =>
      have hsize : party'.size = party.size :=
        congrArg ValidatedReceiveRequest.declaredSize hsame
      rw [budgetCall_released hheld hfree hstate, ← hsize]
      exact .released hfree hstate
    | unresolved hsame hfree hstate =>
      have hsize : party'.size = party.size :=
        congrArg ValidatedReceiveRequest.declaredSize hsame
      rw [budgetCall_unresolved hheld hfree hstate, ← hsize]
      exact .unresolved hfree hstate

/-- A transaction that is over stays as it is. -/
theorem Turn.final (h : Turn party budget party' budget') (hsound : party.Sound)
    (hsettled : party.transaction.state.settled = true) :
    party'.transaction = party.transaction := by
  cases h with
  | kept _ _ hfinal _ => exact hfinal hsettled
  | reserved _ hbefore =>
    rw [hbefore] at hsettled
    cases hsettled
  | settled hheld => exact absurd (hheld.symm.trans (hsound.not_held hsettled)) (by decide)

end Party

end XnnTransfer.Storage
