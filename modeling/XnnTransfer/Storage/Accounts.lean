import XnnTransfer.Library.Histories
import XnnTransfer.Library.Runs
import XnnTransfer.Storage.Reservations

/-!
# The accounts of a temporary budget

Any number of receive transactions share one `TemporaryBudget`. The budget
subtracts without looking in `Release`, so it is right only because of what all
the transactions together hold: every byte reserved is held by one of them or was
left behind by one that could not say what became of its file.

## Implementation notes

A destroyed transaction stays in the list, where no method reaches it, because what
it left unresolved stays in the books.
-/

namespace XnnTransfer.Storage

open Histories Shares

/-- A budget and the transactions that were created with it. -/
structure Accounts where
  budget : TemporaryBudget
  parties : List Party := []

/-- A transaction is created, or a step of a method of one is taken. -/
inductive Operation
  | create (request : ValidatedReceiveRequest)
  | act (index : Nat) (method : Method)

namespace Accounts

def opened (limit : Nat) : Accounts := { budget := { limitBytes := limit } }

def step (accounts : Accounts) : Operation → Accounts
  | .create request =>
    { accounts with parties := accounts.parties ++ [{ transaction := { request := request } }] }
  | .act index method =>
    match accounts.parties[index]? with
    | none => accounts
    | some party =>
      let (party, budget) := party.act accounts.budget method
      { accounts with budget := budget, parties := accounts.parties.set index party }

/-- The calls to the budget that an operation makes, with the transaction that makes
them. -/
def calls (accounts : Accounts) : Operation → List (Nat × BudgetCall)
  | .create _ => []
  | .act index method =>
    match accounts.parties[index]? with
    | none => []
    | some party =>
      (party.budgetCall (party.act accounts.budget method).1).map fun call => (index, call)

/-- The calls of one transaction. -/
def callsOf (index : Nat) (history : List (Nat × BudgetCall)) : List BudgetCall :=
  (history.filter fun entry => entry.1 = index).map Prod.snd

/-- The budget that the calls of a history leave of a new one. -/
def replayed (limit : Nat) (history : List (Nat × BudgetCall)) : TemporaryBudget :=
  (opened limit).budget.replay (history.map Prod.snd)

/-- No call gives back more than is reserved when it is made. -/
def Covered (limit : Nat) (history : List (Nat × BudgetCall)) : Prop :=
  Along (fun before entry => ∀ bytes, entry.2 = .release bytes →
    bytes ≤ (replayed limit before).reservedBytes) history

variable {limit index : Nat} {history : List (Nat × BudgetCall)} {accounts : Accounts}

theorem callsOf_append (index : Nat) (history more : List (Nat × BudgetCall)) :
    callsOf index (history ++ more) = callsOf index history ++ callsOf index more := by
  simp [callsOf]

theorem callsOf_tagged (index other : Nat) (calls : List BudgetCall) :
    callsOf index (calls.map fun call => (other, call)) = if other = index then calls else [] := by
  induction calls with
  | nil => simp [callsOf]
  | cons call rest ih =>
    by_cases h : other = index
    · simp_all [callsOf]
    · simp_all [callsOf]

/-- What holds of the accounts and of the calls that led to them. -/
structure Audited (limit : Nat) (history : List (Nat × BudgetCall)) (accounts : Accounts) :
    Prop where
  books : TemporaryBudget.Books limit accounts.budget (total Party.share accounts.parties)
  sound : ∀ party ∈ accounts.parties, party.Sound
  replay : accounts.budget = replayed limit history
  covered : Covered limit history
  traced : ∀ (index : Nat) (party : Party), accounts.parties[index]? = some party →
    party.Traced (callsOf index history)
  unborn : ∀ index, accounts.parties.length ≤ index → callsOf index history = []

theorem audited_opened (hlimit : limit < 2 ^ 64) : Audited limit [] (opened limit) where
  books := ⟨hlimit, rfl, rfl, rfl, Nat.zero_le limit⟩
  sound _ hparty := absurd hparty List.not_mem_nil
  replay := rfl
  covered := along_nil _
  traced _ _ hparty := by simp [opened] at hparty
  unborn _ _ := rfl

theorem Audited.create (h : Audited limit history accounts) (request : ValidatedReceiveRequest) :
    Audited limit history (accounts.step (.create request)) := by
  have hsound : Party.Sound { transaction := { request := request } } :=
    ⟨iff_of_false (by simp [Party.held]) (by simp), by simp⟩
  refine ⟨?_, ?_, h.replay, h.covered, ?_, ?_⟩
  · have hbooks := h.books
    rw [← add_zero (total Party.share (accounts.step (.create request)).parties)]
    exact Updates.concat .refl hbooks
  · intro party hparty
    rcases List.mem_append.mp hparty with hold | hnew
    · exact h.sound party hold
    rw [List.mem_singleton.mp hnew]
    exact hsound
  · intro index party hparty
    by_cases hindex : index < accounts.parties.length
    · rw [step, List.getElem?_append_left hindex] at hparty
      exact h.traced index party hparty
    rw [h.unborn index (Nat.le_of_not_lt hindex)]
    rw [step, List.getElem?_append_right (Nat.le_of_not_lt hindex)] at hparty
    obtain rfl := List.mem_singleton.mp (List.mem_of_getElem? hparty)
    exact .untouched rfl (.inl rfl)
  intro index hindex
  simp only [step, List.length_append, List.length_singleton] at hindex
  exact h.unborn index (by omega)

theorem Audited.act (h : Audited limit history accounts) {party : Party}
    (hparty : accounts.parties[index]? = some party) (method : Method) :
    Audited limit
      (history ++
        (party.budgetCall (party.act accounts.budget method).1).map fun call => (index, call))
      ⟨(party.act accounts.budget method).2,
        accounts.parties.set index (party.act accounts.budget method).1⟩ := by
  have hsound := h.sound party (List.mem_of_getElem? hparty)
  obtain ⟨hturn, hsound'⟩ := Party.turn_act hsound accounts.budget method
  generalize party.act accounts.budget method = outcome at hturn hsound' ⊢
  have hlength : index < accounts.parties.length := (List.getElem?_eq_some_iff.mp hparty).1
  refine ⟨?_, ?_, ?_, ?_, ?_, ?_⟩
  · have hbooks := h.books
    rw [← add_zero (total Party.share _)]
    exact (hturn.updates hsound).set hparty hbooks
  · intro other hother
    rcases List.mem_or_eq_of_mem_set hother with hold | rfl
    · exact h.sound other hold
    · exact hsound'
  · rw [hturn.replay, h.replay]
    simp [replayed, TemporaryBudget.replay, List.foldl_append]
  · refine along_append h.covered ?_
    intro before entry hentry bytes hbytes
    obtain ⟨frame, htotal, -⟩ := exists_frame Party.share hparty
    have hcall := hentry.map Prod.snd
    rw [List.map_append, List.map_singleton, hbytes, List.map_map, Function.comp_def,
      List.map_id'] at hcall
    obtain ⟨hfirst, hle⟩ := hturn.released_le (htotal ▸ h.books) hcall
    rw [List.map_eq_nil_iff.mp hfirst, List.append_nil, ← h.replay]
    exact hle
  · intro other party' hparty'
    rw [callsOf_append, callsOf_tagged]
    by_cases hother : index = other
    · subst hother
      rw [List.getElem?_set_self hlength, Option.some.injEq] at hparty'
      subst hparty'
      rw [if_pos rfl]
      exact hturn.traced hsound' (h.traced index party hparty)
    rw [List.getElem?_set_ne hother] at hparty'
    rw [if_neg hother, List.append_nil]
    exact h.traced other party' hparty'
  intro other hother
  rw [List.length_set] at hother
  rw [callsOf_append, callsOf_tagged, if_neg (by omega), List.append_nil]
  exact h.unborn other hother

theorem Audited.step (h : Audited limit history accounts) (operation : Operation) :
    Audited limit (history ++ accounts.calls operation) (accounts.step operation) := by
  cases operation with
  | create request =>
    rw [calls, List.append_nil]
    exact h.create request
  | act index method =>
    unfold calls Accounts.step
    dsimp only
    split
    · rw [List.append_nil]
      exact h
    · exact h.act ‹_› method

/-- A transaction that is over stays as it is through every operation. -/
theorem step_final (h : ∀ party ∈ accounts.parties, party.Sound) {party : Party}
    (hparty : accounts.parties[index]? = some party)
    (hsettled : party.transaction.state.settled = true) (operation : Operation) :
    ∃ party', (accounts.step operation).parties[index]? = some party' ∧
      party'.transaction = party.transaction := by
  have hindex : index < accounts.parties.length := (List.getElem?_eq_some_iff.mp hparty).1
  cases operation with
  | create request =>
    refine ⟨party, ?_, rfl⟩
    rw [step, List.getElem?_append_left hindex, hparty]
  | act other method =>
    unfold step
    dsimp only
    split
    · exact ⟨party, hparty, rfl⟩
    rename_i other' hother
    by_cases hsame : other = index
    · subst hsame
      obtain rfl : other' = party := Option.some.inj (hother.symm.trans hparty)
      have hsound := h other' (List.mem_of_getElem? hother)
      refine ⟨_, List.getElem?_set_self hindex, ?_⟩
      exact (Party.turn_act hsound accounts.budget method).1.final hsound hsettled
    · exact ⟨party, by rw [List.getElem?_set_ne hsame, hparty], rfl⟩

theorem run_final (h : Audited limit history accounts) {party : Party}
    (hparty : accounts.parties[index]? = some party)
    (hsettled : party.transaction.state.settled = true) (more : List Operation) :
    ∃ party', (Runs.run step accounts more).parties[index]? = some party' ∧
      party'.transaction = party.transaction := by
  induction more generalizing accounts history party with
  | nil => exact ⟨party, hparty, rfl⟩
  | cons operation rest ih =>
    obtain ⟨next, hnext, hsame⟩ := step_final h.sound hparty hsettled operation
    obtain ⟨last, hlast, hsame'⟩ := ih (h.step operation) hnext (by rwa [hsame])
    exact ⟨last, hlast, hsame'.trans hsame⟩

theorem total_share (parties : List Party) :
    total Party.share parties =
      ((parties.map Party.heldBytes).sum, (parties.map Party.unresolvedBytes).sum) := by
  induction parties with
  | nil => rfl
  | cons party rest ih => simp [ih, Party.share]

/-- The accounts of a budget balance in every run of any number of transactions. The
reserved bytes are those held by transactions and those left unresolved, and the limit
holds; the budget is what the calls of the run leave of it, and none of them gives back
more than is reserved; every transaction ends its reservation by one call; and what a
transaction that is over contributes never changes. -/
theorem run_accounts (limit : Nat) (hlimit : limit < 2 ^ 64) (operations : List Operation) :
    let accounts := Runs.run step (opened limit) operations
    let history := Runs.emitted step calls (opened limit) operations
    (accounts.budget.limitBytes = limit ∧
      accounts.budget.reservedBytes =
        (accounts.parties.map Party.heldBytes).sum + accounts.budget.unresolvedBytes ∧
      accounts.budget.reservedBytes ≤ limit ∧
      accounts.budget.unresolvedBytes = (accounts.parties.map Party.unresolvedBytes).sum) ∧
    accounts.budget = replayed limit history ∧ Covered limit history ∧
    ∀ (index : Nat) (party : Party), accounts.parties[index]? = some party →
      party.Traced (callsOf index history) ∧
      (party.transaction.state = .committed ∨ party.transaction.state = .aborted →
        party.heldBytes = 0 ∧ party.unresolvedBytes = 0) ∧
      (party.transaction.state.unresolved = true →
        party.heldBytes = 0 ∧ party.unresolvedBytes = party.size) ∧
      (party.transaction.state.settled = true → ∀ more, ∃ party',
        (Runs.run step accounts more).parties[index]? = some party' ∧
          party'.transaction = party.transaction) := by
  intro accounts history
  have haudited : Audited limit history accounts :=
    Runs.run_history_all (P := Audited limit) (fun _ _ operation h => h.step operation)
      (audited_opened hlimit) operations
  obtain ⟨-, hcap, hreserved, hunresolved, hbounded⟩ := haudited.books
  rw [total_share] at hreserved hunresolved
  refine ⟨⟨hcap, ?_, hbounded, hunresolved⟩, haudited.replay, haudited.covered, ?_⟩
  · rw [hreserved, hunresolved]
  intro index party hparty
  have hsound := haudited.sound party (List.mem_of_getElem? hparty)
  have hnot : party.transaction.state.settled = true → party.heldBytes = 0 := by
    intro hsettled
    simp [Party.heldBytes, hsound.not_held hsettled]
  refine ⟨haudited.traced index party hparty, ?_, ?_, run_final haudited hparty⟩
  · rintro (hstate | hstate)
    · exact ⟨hnot (hstate ▸ rfl), by simp [Party.unresolvedBytes, hstate,
        TransactionState.unresolved]⟩
    exact ⟨hnot (hstate ▸ rfl), by simp [Party.unresolvedBytes, hstate,
      TransactionState.unresolved]⟩
  intro hstate
  exact ⟨hnot (by simp [TransactionState.settled, hstate]), by simp [Party.unresolvedBytes, hstate]⟩

/-- A platform that opens a file and reports an uncertain outcome of its rename. -/
def uncertainPlatform : Backend where
  createTemporary _ _ := (.none, 1)
  writeTemporary _ data := ⟨.none, data.length⟩
  flushTemporary _ := .none
  commitTemporary _ _ := ⟨.outcomeUncertain, .ioFailure⟩
  cleanupTemporary _ := .ioFailure
  updateVerifier _ := true
  sealVerifier := true

/-- Two files of four bytes: the commit of the first is uncertain, the second does not fit
while both are reserved and is never begun again. -/
def twoFiles : List Operation :=
  [.create ⟨⟨[0x61], [[0x61]]⟩, 4⟩, .create ⟨⟨[0x62], [[0x62]]⟩, 4⟩, .act 0 .reserve,
    .act 1 .reserve, .act 0 (.openTemporary uncertainPlatform),
    .act 0 (.write [1, 2, 3, 4] uncertainPlatform), .act 0 (.sealAndCommit uncertainPlatform),
    .act 0 (.destroy uncertainPlatform), .act 1 (.abort uncertainPlatform)]

theorem run_accounts_twoFiles :
    (Runs.run step (opened 7) twoFiles).budget = replayed 7 [(0, .reserve 4),
      (0, .markUnresolved 4)] ∧
    (Runs.run step (opened 7) twoFiles).budget.reservedBytes = 4 ∧
    (Runs.run step (opened 7) twoFiles).budget.unresolvedBytes = 4 :=
  ⟨(run_accounts 7 (by decide) twoFiles).2.1.trans (by decide), by decide, by decide⟩

end Accounts

end XnnTransfer.Storage
