import TransferLedger.Proofs.Store.Move
import TransferLedger.Proofs.Decimal.Sums

/-! A transaction alone on its rows: each of its calls changes only its own state and the id
counters, so a commit publishes its rows and records over the store as it was, and a rollback gives
that store back. -/

namespace TransferLedger

namespace Store

/-- The store with one more open transaction, after all the others. -/
def adjoin (s : Store) (tx : OpenTx) : Store := { s with openTxs := s.openTxs ++ [tx] }

theorem begin_eq_adjoin (s : Store) :
    s.begin.1 = ({ s with nextTx := s.nextTx + 1 } : Store).adjoin { id := s.nextTx } := rfl

section Adjoin

variable {s : Store} {tx : OpenTx}

@[simp] theorem adjoin_accounts : (s.adjoin tx).accounts = s.accounts := rfl
@[simp] theorem adjoin_account? : (s.adjoin tx).account? = s.account? := rfl
@[simp] theorem adjoin_hasAccount : (s.adjoin tx).hasAccount = s.hasAccount := rfl
@[simp] theorem adjoin_nextEntry : (s.adjoin tx).nextEntry = s.nextEntry := rfl
@[simp] theorem adjoin_nextTransfer : (s.adjoin tx).nextTransfer = s.nextTransfer := rfl

theorem filter_adjoin (fresh : ∀ u ∈ s.openTxs, u.id ≠ tx.id) :
    (s.adjoin tx).openTxs.filter (·.id != tx.id) = s.openTxs := by
  simp only [adjoin, List.filter_append]
  rw [List.filter_eq_self.mpr fun u member => by simp [fresh u member]]
  simp

theorem tx?_adjoin (fresh : ∀ u ∈ s.openTxs, u.id ≠ tx.id) :
    (s.adjoin tx).tx? tx.id = some tx := by
  simp only [tx?, adjoin, List.find?_append]
  rw [List.find?_eq_none.mpr fun u member => by simpa using fresh u member]
  simp

theorem modifyTx_adjoin (fresh : ∀ u ∈ s.openTxs, u.id ≠ tx.id) (f : OpenTx → OpenTx) :
    (s.adjoin tx).modifyTx tx.id f = s.adjoin (f tx) := by
  have others : (s.openTxs.map fun u => if u.id = tx.id then f u else u) = s.openTxs := by
    conv => rhs; rw [← List.map_id s.openTxs]
    exact List.map_congr_left fun u member => by simp [fresh u member]
  simp [modifyTx, adjoin, others]

theorem heldRow?_adjoin (fresh : ∀ u ∈ s.openTxs, u.id ≠ tx.id) (id : AccountId) :
    (s.adjoin tx).heldRow? tx.id id = tx.held.find? (·.id == id) :=
  heldRow?_of_tx? (tx?_adjoin fresh) id

theorem otherHolder?_adjoin {id : AccountId} (free : ∀ u ∈ s.openTxs, id ∉ u.heldIds) :
    (s.adjoin tx).otherHolder? tx.id id = none := by
  refine otherHolder?_eq_none.mpr fun u member other => ?_
  rcases List.mem_append.mp member with old | new
  · exact free u old
  · exact absurd (by rw [List.mem_singleton.mp new]) other

theorem lockRow_adjoin_held (fresh : ∀ u ∈ s.openTxs, u.id ≠ tx.id) {id : AccountId}
    {row : Account} (held : tx.held.find? (·.id == id) = some row) :
    (s.adjoin tx).lockRow tx.id id = .granted (s.adjoin tx) row := by
  simp [lockRow, heldRow?_adjoin fresh, held]

theorem lockRow_adjoin_free (fresh : ∀ u ∈ s.openTxs, u.id ≠ tx.id) {id : AccountId}
    (unheld : tx.held.find? (·.id == id) = none) (free : ∀ u ∈ s.openTxs, id ∉ u.heldIds) :
    (s.adjoin tx).lockRow tx.id id =
      match s.account? id with
      | none => .absent
      | some row => .granted (s.adjoin { tx with held := tx.held ++ [row] }) row := by
  unfold lockRow
  rw [heldRow?_adjoin fresh, unheld, adjoin_account?]
  cases s.account? id with
  | none => rfl
  | some row => simp [otherHolder?_adjoin free, modifyTx_adjoin fresh]

theorem viewRow_adjoin (fresh : ∀ u ∈ s.openTxs, u.id ≠ tx.id) (id : AccountId) :
    (s.adjoin tx).viewRow tx.id id = (tx.held.find? (·.id == id)).or (s.account? id) := by
  unfold viewRow
  rw [heldRow?_adjoin fresh]
  cases tx.held.find? (·.id == id) <;> rfl

theorem recordTransfer_adjoin (fresh : ∀ u ∈ s.openTxs, u.id ≠ tx.id)
    {fromId toId : AccountId} {amount : Decimal} (hasFrom : s.hasAccount fromId = true)
    (hasTo : s.hasAccount toId = true)
    (positive : amount.le Decimal.zero = false) :
    (s.adjoin tx).recordTransfer tx.id fromId toId amount =
      .ok (({ s with nextTransfer := s.nextTransfer + 1 } : Store).adjoin
          { tx with transfers := tx.transfers ++ [⟨s.nextTransfer, fromId, toId, amount⟩] },
        ⟨s.nextTransfer, fromId, toId, amount⟩) := by
  have moved := modifyTx_adjoin (s := { s with nextTransfer := s.nextTransfer + 1 }) fresh
    fun tx => { tx with transfers := tx.transfers ++ [⟨s.nextTransfer, fromId, toId, amount⟩] }
  simp only [recordTransfer, ensureExists, adjoin_hasAccount, hasFrom, hasTo, positive]
  exact congrArg (fun s' => Except.ok (s', _)) moved

theorem recordEntry_adjoin (fresh : ∀ u ∈ s.openTxs, u.id ≠ tx.id) {accountId : AccountId}
    {amount : Decimal} (present : s.hasAccount accountId = true) :
    (s.adjoin tx).recordEntry tx.id accountId amount =
      .ok (({ s with nextEntry := s.nextEntry + 1 } : Store).adjoin
          { tx with entries := tx.entries ++ [⟨s.nextEntry, accountId, amount⟩] },
        ⟨s.nextEntry, accountId, amount⟩) := by
  have moved := modifyTx_adjoin (s := { s with nextEntry := s.nextEntry + 1 }) fresh
    fun tx => { tx with entries := tx.entries ++ [⟨s.nextEntry, accountId, amount⟩] }
  simp only [recordEntry, ensureExists, adjoin_hasAccount, present]
  exact congrArg (fun s' => Except.ok (s', _)) moved

theorem stageBalances_adjoin (fresh : ∀ u ∈ s.openTxs, u.id ≠ tx.id)
    (updates : List (AccountId × Decimal)) :
    (s.adjoin tx).stageBalances tx.id updates =
      s.adjoin { tx with held := tx.held.map (restage updates) } := by
  rw [stageBalances_eq, modifyTx_adjoin fresh]

theorem commit_adjoin (fresh : ∀ u ∈ s.openTxs, u.id ≠ tx.id) :
    (s.adjoin tx).commit tx.id = { s with
      accounts := s.accounts.map fun row => (tx.held.find? (·.id == row.id)).getD row
      entries := s.entries ++ tx.entries
      transfers := s.transfers ++ tx.transfers } := by
  rw [commit_of_tx? (tx?_adjoin fresh), filter_adjoin fresh]
  rfl

theorem discard_adjoin (fresh : ∀ u ∈ s.openTxs, u.id ≠ tx.id) :
    (s.adjoin tx).discard tx.id = s := by
  unfold discard
  rw [filter_adjoin fresh]
  rfl

end Adjoin

/-! ## The balance update of a transaction alone -/

section Balances

variable {fromId toId : AccountId} {amount : Decimal}

theorem balanceDelta_debit (apart : fromId ≠ toId) (nonzero : amount.mantissa ≠ 0) :
    balanceDelta fromId toId fromId amount = some amount.neg := by
  simp [balanceDelta, apart, Decimal.sub?, Decimal.zero, Decimal.isZero, nonzero]

theorem balanceDelta_credit (apart : fromId ≠ toId) :
    balanceDelta fromId toId toId amount = some amount := by
  simp [balanceDelta, Ne.symm apart, Decimal.add?, Decimal.zero, Decimal.isZero]

theorem balanceDelta_self {id : AccountId} (nonzero : amount.mantissa ≠ 0) :
    balanceDelta id id id amount = some ⟨0, amount.scale, false, by decide⟩ := by
  simp [balanceDelta, Decimal.sub?, Decimal.zero, Decimal.isZero, nonzero,
    Decimal.add?_neg_self nonzero]

theorem restage_swap {a c : AccountId} (apart : a ≠ c) (x y : Decimal) :
    restage [(c, y), (a, x)] = restage [(a, x), (c, y)] := by
  funext row
  by_cases first : row.id = a
  · simp [restage, first, Ne.symm apart]
  · by_cases second : row.id = c
    · simp [restage, second, apart]
    · simp [restage, Ne.symm first, Ne.symm second]

variable {s : Store} {tx : OpenTx}

theorem moveAlong_nil (t : TxId) (s : Store) (updates : List (AccountId × Decimal)) :
    moveAlong t fromId toId amount s [] updates =
      .done (s.stageBalances t updates) (.ok updates.length) := by
  rw [moveAlong]

theorem moveAlong_held (fresh : ∀ u ∈ s.openTxs, u.id ≠ tx.id) {id : AccountId}
    {row : Account} {delta balance : Decimal} (rest : List AccountId)
    (updates : List (AccountId × Decimal))
    (held : tx.held.find? (·.id == id) = some row)
    (changes : balanceDelta fromId toId id amount = some delta)
    (added : row.balance.add? delta = some balance) (unsigned : balance.lt Decimal.zero = false) :
    moveAlong tx.id fromId toId amount (s.adjoin tx) (id :: rest) updates =
      moveAlong tx.id fromId toId amount (s.adjoin tx) rest (updates ++ [(id, balance)]) := by
  rw [moveAlong, lockRow_adjoin_held fresh held]
  simp [changes, added, unsigned]

theorem moveAlong_held_overflow (fresh : ∀ u ∈ s.openTxs, u.id ≠ tx.id) {id : AccountId}
    {row : Account} {delta : Decimal} (rest : List AccountId)
    (updates : List (AccountId × Decimal)) (held : tx.held.find? (·.id == id) = some row)
    (changes : balanceDelta fromId toId id amount = some delta)
    (overflow : row.balance.add? delta = none) :
    moveAlong tx.id fromId toId amount (s.adjoin tx) (id :: rest) updates =
      .panicked "Addition overflowed" := by
  rw [moveAlong, lockRow_adjoin_held fresh held]
  simp [changes, overflow]

section Apart

variable {fromRow toRow : Account} {debited : Decimal}
  (fresh : ∀ u ∈ s.openTxs, u.id ≠ tx.id) (apart : fromId ≠ toId)
  (nonzero : amount.mantissa ≠ 0)
  (heldFrom : tx.held.find? (·.id == fromId) = some fromRow)
  (heldTo : tx.held.find? (·.id == toId) = some toRow)
  (debit : fromRow.balance.sub? amount = some debited)
  (debitUnsigned : debited.lt Decimal.zero = false)
include fresh apart nonzero heldFrom heldTo debit debitUnsigned

/-- A transfer between two held rows whose new balances pass stages both. -/
theorem moveBalances_adjoin_apart {credited : Decimal}
    (credit : toRow.balance.add? amount = some credited)
    (creditUnsigned : credited.lt Decimal.zero = false) :
    (s.adjoin tx).moveBalances tx.id fromId toId amount =
      .done
        (s.adjoin { tx with held := tx.held.map (restage [(fromId, debited), (toId, credited)]) })
        (.ok 2) := by
  have debitAdded : fromRow.balance.add? amount.neg = some debited := by
    rw [Decimal.add?_neg nonzero, debit]
  have stage := stageBalances_adjoin (s := s) fresh
  unfold moveBalances updateOrder
  rw [if_neg apart]
  split
  · rw [moveAlong_held fresh _ _ heldFrom (balanceDelta_debit apart nonzero) debitAdded
      debitUnsigned, moveAlong_held fresh _ _ heldTo (balanceDelta_credit apart) credit
      creditUnsigned, moveAlong_nil, stage]
    rfl
  · rw [moveAlong_held fresh _ _ heldTo (balanceDelta_credit apart) credit creditUnsigned,
      moveAlong_held fresh _ _ heldFrom (balanceDelta_debit apart nonzero) debitAdded
      debitUnsigned, moveAlong_nil, stage]
    simp [restage_swap apart]

theorem moveBalances_adjoin_overflow (credit : toRow.balance.add? amount = none) :
    (s.adjoin tx).moveBalances tx.id fromId toId amount = .panicked "Addition overflowed" := by
  have debitAdded : fromRow.balance.add? amount.neg = some debited := by
    rw [Decimal.add?_neg nonzero, debit]
  unfold moveBalances updateOrder
  rw [if_neg apart]
  split
  · rw [moveAlong_held fresh _ _ heldFrom (balanceDelta_debit apart nonzero) debitAdded
      debitUnsigned, moveAlong_held_overflow fresh _ _ heldTo (balanceDelta_credit apart) credit]
  · rw [moveAlong_held_overflow fresh _ _ heldTo (balanceDelta_credit apart) credit]

end Apart

/-- A transfer from a held row to itself stages its balance unchanged. -/
theorem moveBalances_adjoin_self (fresh : ∀ u ∈ s.openTxs, u.id ≠ tx.id) {id : AccountId}
    {row : Account} (nonzero : amount.mantissa ≠ 0)
    (held : tx.held.find? (·.id == id) = some row)
    (funded : row.balance.mantissa ≠ 0) (unsigned : row.balance.lt Decimal.zero = false) :
    (s.adjoin tx).moveBalances tx.id id id amount =
      .done (s.adjoin { tx with held := tx.held.map (restage [(id, row.balance)]) }) (.ok 1) := by
  have kept : row.balance.add? ⟨0, amount.scale, false, by decide⟩ = some row.balance := by
    simp [Decimal.add?, Decimal.isZero, funded]
  unfold moveBalances updateOrder
  rw [if_pos rfl, moveAlong_held fresh _ _ held (balanceDelta_self nonzero) kept unsigned,
    moveAlong_nil, stageBalances_adjoin fresh]
  rfl

end Balances

end Store

end TransferLedger
