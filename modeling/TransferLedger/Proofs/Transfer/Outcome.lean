import TransferLedger.Proofs.Transfer.Runs
import TransferLedger.Proofs.Transfer.Plan
import TransferLedger.Proofs.Store.Solvent

/-! What a transfer does when nothing fails: a decision table refuses a missing sender, short funds
or a missing recipient and leaves the ledger as it was, and otherwise the amount moves and the
records commit, unless the credit overflows. -/

namespace TransferLedger

namespace Amount

theorem coveredBy_of_not_lt {a : Amount} {balance : Decimal}
    (funded : balance.lt a.value = false) : a.coveredBy balance = true := by
  rw [coveredBy, Decimal.le_eq_not_lt, funded]
  rfl

theorem coveredBy_of_lt {a : Amount} {balance : Decimal} (short : balance.lt a.value = true) :
    a.coveredBy balance = false := by
  rw [coveredBy, Decimal.le_eq_not_lt, short]
  rfl

theorem mantissa_ne_zero (a : Amount) : a.value.mantissa ≠ 0 :=
  Decimal.mantissa_ne_zero_of_pos a.le_zero_eq_false

end Amount

namespace Store

def lockedRows (s : Store) (fromId toId : AccountId) : List Account :=
  (updateOrder fromId toId).filterMap s.account?

theorem find?_filterMap_account? (s : Store) (id : AccountId) :
    ∀ ids : List AccountId,
      (ids.filterMap s.account?).find? (·.id == id) = if id ∈ ids then s.account? id else none
  | [] => by simp
  | a :: rest => by
    rw [List.filterMap_cons]
    cases found : s.account? a with
    | none =>
      rw [find?_filterMap_account? s id rest]
      by_cases here : id = a
      · subst here
        simp [found]
      · simp [here]
    | some row =>
      have named : row.id = a := (account?_eq_some found).2
      rw [List.find?_cons, find?_filterMap_account? s id rest]
      by_cases here : id = a
      · subst here
        simp [named, found]
      · have differ : (a == id) = false := beq_eq_false_iff_ne.mpr (Ne.symm here)
        simp [named, here, differ]

theorem find?_lockedRows (s : Store) (fromId toId id : AccountId) :
    (s.lockedRows fromId toId).find? (·.id == id) =
      if id = fromId ∨ id = toId then s.account? id else none := by
  simp only [lockedRows, find?_filterMap_account?, mem_updateOrder]

theorem find?_toList_account? (s : Store) {a id : AccountId} (apart : a ≠ id) :
    (s.account? a).toList.find? (·.id == id) = none := by
  cases found : s.account? a with
  | none => rfl
  | some row => simp [(account?_eq_some found).2, apart]

theorem filterMap_account?_pair (s : Store) (a c : AccountId) :
    [a, c].filterMap s.account? = (s.account? a).toList ++ (s.account? c).toList := by
  cases first : s.account? a <;> cases second : s.account? c <;>
    simp [first, second]

theorem lockedRows_self (s : Store) (id : AccountId) :
    s.lockedRows id id = (s.account? id).toList := by
  cases found : s.account? id <;> simp [lockedRows, updateOrder, found]

theorem lockedRows_apart (s : Store) {fromId toId : AccountId} (apart : fromId ≠ toId) :
    s.lockedRows fromId toId = (s.account? (canonicalOrder fromId toId).1).toList ++
      (s.account? (canonicalOrder fromId toId).2).toList := by
  unfold lockedRows updateOrder canonicalOrder
  rw [if_neg apart]
  by_cases order : fromId ≤ toId
  · rw [if_pos (Int.lt_iff_le_and_ne.mpr ⟨order, apart⟩), if_pos order,
      filterMap_account?_pair]
  · rw [if_neg (fun below => order (Int.le_of_lt below)), if_neg order, filterMap_account?_pair]

theorem find?_restaged (s : Store) (fromId toId id : AccountId)
    (balances : List (AccountId × Decimal)) :
    ((s.lockedRows fromId toId).map (restage balances)).find? (·.id == id) =
      if id = fromId ∨ id = toId then (s.account? id).map (restage balances) else none := by
  have keeps : ((·.id == id) ∘ restage balances) = (·.id == id) := by
    funext row
    simp
  rw [List.find?_map, keeps, find?_lockedRows]
  split <;> rfl

theorem restage_debited {fromId toId : AccountId} {row : Account} (named : row.id = fromId)
    (debited credited : Decimal) :
    restage [(fromId, debited), (toId, credited)] row = { row with balance := debited } := by
  simp [restage, named]

theorem restage_credited {fromId toId : AccountId} {row : Account} (named : row.id = toId)
    (apart : fromId ≠ toId) (debited credited : Decimal) :
    restage [(fromId, debited), (toId, credited)] row = { row with balance := credited } := by
  have differ : (fromId == toId) = false := beq_eq_false_iff_ne.mpr apart
  simp [restage, named, differ]

theorem restage_same {row : Account} {id : AccountId} (named : row.id = id) :
    restage [(id, row.balance)] row = row := by
  subst named
  simp [restage]

/-- The receipt of a transfer that moved money: its record and entries with the next ids, and
both rows as they end up. -/
def receiptFor (s : Store) (p : TransferParams) (fromAccount toAccount : Account) :
    TransferReceipt where
  transfer := ⟨s.nextTransfer, p.fromAccountId, p.toAccountId, p.amount.value⟩
  fromAccount := fromAccount
  toAccount := toAccount
  fromEntry := ⟨s.nextEntry, p.fromAccountId, p.amount.debit⟩
  toEntry := ⟨s.nextEntry + 1, p.toAccountId, p.amount.credit⟩

/-- The store after a transfer that moved money: both rows replaced, the record and its two
entries committed after the others, and the id counters past them. -/
def afterTransfer (s : Store) (p : TransferParams) (fromAccount toAccount : Account) : Store :=
  let receipt := s.receiptFor p fromAccount toAccount
  { s with
    accounts := s.accounts.map fun row =>
      if row.id = p.fromAccountId then fromAccount
      else if row.id = p.toAccountId then toAccount else row
    entries := s.entries ++ [receipt.fromEntry, receipt.toEntry]
    transfers := s.transfers ++ [receipt.transfer]
    nextEntry := s.nextEntry + 2
    nextTransfer := s.nextTransfer + 1
    nextTx := s.nextTx + 1 }

/-- A transfer's transaction once its record and entries are made: the rows it locked, its
record and its two entries. -/
def transferTx (s : Store) (t : TxId) (p : TransferParams) : OpenTx where
  id := t
  held := s.lockedRows p.fromAccountId p.toAccountId
  transfers := [⟨s.nextTransfer, p.fromAccountId, p.toAccountId, p.amount.value⟩]
  entries := [⟨s.nextEntry, p.fromAccountId, p.amount.debit⟩,
    ⟨s.nextEntry + 1, p.toAccountId, p.amount.credit⟩]

def recorded (s : Store) (t : TxId) (p : TransferParams) : Store :=
  ({ s with nextEntry := s.nextEntry + 2, nextTransfer := s.nextTransfer + 1 } : Store).adjoin
    (s.transferTx t p)

def staged (s : Store) (t : TxId) (p : TransferParams) (balances : List (AccountId × Decimal)) :
    Store :=
  ({ s with nextEntry := s.nextEntry + 2, nextTransfer := s.nextTransfer + 1 } : Store).adjoin
    { s.transferTx t p with
      held := (s.lockedRows p.fromAccountId p.toAccountId).map (restage balances) }

theorem find?_transferTx {s : Store} {t : TxId} {p : TransferParams} {id : AccountId}
    (side : id = p.fromAccountId ∨ id = p.toAccountId) {row : Account}
    (found : s.account? id = some row) :
    (s.transferTx t p).held.find? (·.id == id) = some row := by
  rw [transferTx, find?_lockedRows, if_pos side, found]

section Staged

variable {s : Store} {t : TxId} (fresh : ∀ u ∈ s.openTxs, u.id ≠ t) {p : TransferParams}
include fresh

theorem viewRow_staged (balances : List (AccountId × Decimal)) {id : AccountId}
    (side : id = p.fromAccountId ∨ id = p.toAccountId) {row : Account}
    (found : s.account? id = some row) :
    (s.staged t p balances).viewRow t id = some (restage balances row) := by
  have seen : (s.staged t p balances).viewRow (s.transferTx t p).id id = _ :=
    viewRow_adjoin fresh id
  refine seen.trans ?_
  rw [find?_restaged, if_pos side, found]
  rfl

variable {fromRow : Account} (found : s.account? p.fromAccountId = some fromRow)
include found

theorem moveBalances_recorded_apart (apart : p.fromAccountId ≠ p.toAccountId) {toRow : Account}
    (foundTo : s.account? p.toAccountId = some toRow) {debited credited : Decimal}
    (debit : fromRow.balance.sub? p.amount.value = some debited)
    (debitUnsigned : debited.lt Decimal.zero = false)
    (credit : toRow.balance.add? p.amount.value = some credited)
    (creditUnsigned : credited.lt Decimal.zero = false) :
    (s.recorded t p).moveBalances t p.fromAccountId p.toAccountId p.amount.value =
      .done (s.staged t p [(p.fromAccountId, debited), (p.toAccountId, credited)]) (.ok 2) :=
  moveBalances_adjoin_apart
    (s := { s with nextEntry := s.nextEntry + 2, nextTransfer := s.nextTransfer + 1 })
    fresh apart p.amount.mantissa_ne_zero
    (find?_transferTx (.inl rfl) found) (find?_transferTx (.inr rfl) foundTo)
    debit debitUnsigned credit creditUnsigned

theorem moveBalances_recorded_overflow (apart : p.fromAccountId ≠ p.toAccountId)
    {toRow : Account} (foundTo : s.account? p.toAccountId = some toRow) {debited : Decimal}
    (debit : fromRow.balance.sub? p.amount.value = some debited)
    (debitUnsigned : debited.lt Decimal.zero = false)
    (credit : toRow.balance.add? p.amount.value = none) :
    (s.recorded t p).moveBalances t p.fromAccountId p.toAccountId p.amount.value =
      .panicked "Addition overflowed" :=
  moveBalances_adjoin_overflow
    (s := { s with nextEntry := s.nextEntry + 2, nextTransfer := s.nextTransfer + 1 })
    fresh apart p.amount.mantissa_ne_zero
    (find?_transferTx (.inl rfl) found) (find?_transferTx (.inr rfl) foundTo)
    debit debitUnsigned credit

theorem moveBalances_recorded_self (same : p.fromAccountId = p.toAccountId)
    (funded : fromRow.balance.mantissa ≠ 0) (unsigned : fromRow.balance.lt Decimal.zero = false) :
    (s.recorded t p).moveBalances t p.fromAccountId p.toAccountId p.amount.value =
      .done (s.staged t p [(p.fromAccountId, fromRow.balance)]) (.ok 1) := by
  have held : (s.transferTx t p).held.find? (·.id == p.fromAccountId) = some fromRow :=
    find?_transferTx (.inl rfl) found
  rw [← same]
  exact moveBalances_adjoin_self
    (s := { s with nextEntry := s.nextEntry + 2, nextTransfer := s.nextTransfer + 1 })
    fresh p.amount.mantissa_ne_zero held funded unsigned

end Staged

theorem commit_staged {s : Store} {t : TxId} (fresh : ∀ u ∈ s.openTxs, u.id ≠ t)
    {p : TransferParams} (balances : List (AccountId × Decimal)) {fromRow toRow : Account}
    (found : s.account? p.fromAccountId = some fromRow)
    (foundTo : s.account? p.toAccountId = some toRow) :
    (s.staged t p balances).commit t = { s with
      accounts := s.accounts.map fun row =>
        if row.id = p.fromAccountId then restage balances fromRow
        else if row.id = p.toAccountId then restage balances toRow else row
      entries := s.entries ++ [⟨s.nextEntry, p.fromAccountId, p.amount.debit⟩,
        ⟨s.nextEntry + 1, p.toAccountId, p.amount.credit⟩]
      transfers := s.transfers ++ [⟨s.nextTransfer, p.fromAccountId, p.toAccountId, p.amount.value⟩]
      nextEntry := s.nextEntry + 2
      nextTransfer := s.nextTransfer + 1 } := by
  have committed : (s.staged t p balances).commit (s.transferTx t p).id = _ := commit_adjoin fresh
  refine committed.trans ?_
  congr 1
  refine List.map_congr_left fun row _ => ?_
  simp only [find?_restaged]
  by_cases sender : row.id = p.fromAccountId
  · rw [if_pos (.inl sender), if_pos sender, sender, found]
    rfl
  · by_cases recipient : row.id = p.toAccountId
    · rw [if_pos (.inr recipient), if_neg sender, if_pos recipient, recipient, foundTo]
      rfl
    · rw [if_neg (not_or.mpr ⟨sender, recipient⟩), if_neg sender, if_neg recipient]
      rfl

end Store

namespace Backend

open Store

variable {b : Backend} {s : Store} {t : TxId}

theorem RunsTo.lock_free (noConflicts : b.injection.conflicts = 0)
    (fresh : ∀ u ∈ s.openTxs, u.id ≠ t) {held : List Account} {id : AccountId}
    (unheld : held.find? (·.id == id) = none) (free : ∀ u ∈ s.openTxs, id ∉ u.heldIds)
    (current : b.store = s.adjoin { id := t, held }) :
    b.RunsTo t (TxScript.lock id) (s.adjoin { id := t, held := held ++ (s.account? id).toList })
      (.finished (.ok (s.account? id))) := by
  have locked : b.store.lockRow t id = _ := current ▸ lockRow_adjoin_free fresh unheld free
  cases found : s.account? id with
  | none =>
    rw [found] at locked
    simpa [current] using RunsTo.lock_absent noConflicts locked
  | some row =>
    rw [found] at locked
    exact RunsTo.lock noConflicts locked

theorem lockAccounts_runs (noConflicts : b.injection.conflicts = 0)
    (fresh : ∀ u ∈ s.openTxs, u.id ≠ t) {fromId toId : AccountId}
    (free : ∀ u ∈ s.openTxs, fromId ∉ u.heldIds ∧ toId ∉ u.heldIds)
    (current : b.store = s.adjoin { id := t }) :
    b.RunsTo t (lockAccounts fromId toId) (s.adjoin { id := t, held := s.lockedRows fromId toId })
      (.finished (.ok ⟨s.account? fromId, s.account? toId⟩)) := by
  unfold lockAccounts
  split
  · rename_i same
    subst same
    rw [lockedRows_self, TxScript.bind_eq]
    refine RunsTo.bind (RunsTo.lock_free noConflicts fresh (by simp)
      (fun u member => (free u member).1) current) fun events notes => ?_
    exact RunsTo.pure _
  · rename_i apart
    rw [lockedRows_apart s apart]
    unfold canonicalOrder
    by_cases order : fromId ≤ toId
    · simp only [order, if_true, TxScript.bind_eq]
      refine RunsTo.bind (RunsTo.lock_free noConflicts fresh (by simp)
        (fun u member => (free u member).1) current) fun events notes => ?_
      refine RunsTo.bind (RunsTo.lock_free (b := { b with store := _, events, notes })
        noConflicts fresh (find?_toList_account? s apart) (fun u member => (free u member).2)
        rfl) fun events notes => ?_
      exact RunsTo.pure _
    · simp only [order, if_false, TxScript.bind_eq]
      refine RunsTo.bind (RunsTo.lock_free noConflicts fresh (by simp)
        (fun u member => (free u member).2) current) fun events notes => ?_
      refine RunsTo.bind (RunsTo.lock_free (b := { b with store := _, events, notes })
        noConflicts fresh (find?_toList_account? s (Ne.symm apart))
        (fun u member => (free u member).1) rfl) fun events notes => ?_
      rw [if_neg (Ne.symm apart)]
      exact RunsTo.pure _

/-- With both accounts there and a positive amount, a transfer makes its record, its debit and
its credit in its transaction, with the next ids. -/
theorem runTransfer_records {β : Type} {p : TransferParams}
    (fresh : ∀ u ∈ s.openTxs, u.id ≠ t)
    (current : b.store = s.adjoin { id := t, held := s.lockedRows p.fromAccountId p.toAccountId })
    (hasFrom : s.hasAccount p.fromAccountId = true) (hasTo : s.hasAccount p.toAccountId = true)
    {rest : TransferRecord → Entry → Entry → TxScript β} {s' : Store} {e : Ending β}
    (after : ∀ events notes,
      ({ b with store := s.recorded t p, events, notes } : Backend).RunsTo t
        (rest ⟨s.nextTransfer, p.fromAccountId, p.toAccountId, p.amount.value⟩
          ⟨s.nextEntry, p.fromAccountId, p.amount.debit⟩
          ⟨s.nextEntry + 1, p.toAccountId, p.amount.credit⟩) s' e) :
    b.RunsTo t ((TxScript.newTransfer p.fromAccountId p.toAccountId p.amount.value).bind
      fun transfer => (TxScript.newEntry p.fromAccountId p.amount.debit).bind
        fun fromEntry => (TxScript.newEntry p.toAccountId p.amount.credit).bind
          fun toEntry => rest transfer fromEntry toEntry) s' e := by
  have made : b.store.recordTransfer t p.fromAccountId p.toAccountId p.amount.value = _ :=
    current ▸ recordTransfer_adjoin fresh hasFrom hasTo p.amount.le_zero_eq_false
  refine RunsTo.bind (RunsTo.newTransfer made) fun events notes => ?_
  refine RunsTo.bind (RunsTo.newEntry
    (recordEntry_adjoin (s := { s with nextTransfer := s.nextTransfer + 1 }) fresh hasFrom))
    fun events notes => ?_
  refine RunsTo.bind (RunsTo.newEntry (recordEntry_adjoin
    (s := { s with nextTransfer := s.nextTransfer + 1, nextEntry := s.nextEntry + 1 }) fresh
    hasTo)) fun events notes => ?_
  exact after events notes

/-! ## The transfer script, row by row of the decision table -/

section Script

variable {β : Type} {p : TransferParams} (noConflicts : b.injection.conflicts = 0)
  (fresh : ∀ u ∈ s.openTxs, u.id ≠ t)
  (free : ∀ u ∈ s.openTxs, p.fromAccountId ∉ u.heldIds ∧ p.toAccountId ∉ u.heldIds)
include noConflicts fresh free

theorem runTransfer_locked (current : b.store = s.adjoin { id := t })
    {rest : LockedAccounts → TxScript β} {s' : Store} {e : Ending β}
    (after : ∀ events notes,
      ({ b with store := s.adjoin { id := t, held := s.lockedRows p.fromAccountId p.toAccountId },
                events, notes } : Backend).RunsTo t
        (rest ⟨s.account? p.fromAccountId, s.account? p.toAccountId⟩) s' e) :
    b.RunsTo t ((TxScript.emit (.stageReached p .started)).bind fun _ =>
      (lockAccounts p.fromAccountId p.toAccountId).bind fun locked =>
        (TxScript.emit (.stageReached p .accountsLocked)).bind fun _ => rest locked) s' e := by
  refine RunsTo.bind (RunsTo.emit _) fun events notes => ?_
  refine RunsTo.bind (lockAccounts_runs (b := { b with store := _, events, notes }) noConflicts
    fresh free current) fun events notes => ?_
  exact RunsTo.bind (RunsTo.emit _) fun events notes => after events notes

theorem runTransfer_no_sender (current : b.store = s.adjoin { id := t })
    (missing : s.account? p.fromAccountId = none) :
    b.RunsTo t (runTransfer p)
      (s.adjoin { id := t, held := s.lockedRows p.fromAccountId p.toAccountId })
      (.finished (.error (.accountNotFound p.fromAccountId))) := by
  unfold runTransfer
  simp only [TxScript.bind_eq]
  refine runTransfer_locked noConflicts fresh free current fun events notes => ?_
  simp only [missing]
  exact RunsTo.throw _

theorem runTransfer_short (current : b.store = s.adjoin { id := t }) {fromRow : Account}
    (found : s.account? p.fromAccountId = some fromRow)
    (short : fromRow.balance.lt p.amount.value = true) :
    b.RunsTo t (runTransfer p)
      (s.adjoin { id := t, held := s.lockedRows p.fromAccountId p.toAccountId })
      (.finished (.error (.insufficientFunds p.fromAccountId p.amount.value fromRow.balance))) := by
  have uncovered : p.amount.coveredBy fromRow.balance = false := Amount.coveredBy_of_lt short
  unfold runTransfer
  simp only [TxScript.bind_eq]
  refine runTransfer_locked noConflicts fresh free current fun events notes => ?_
  simp only [found, uncovered, Bool.not_false, if_true]
  exact RunsTo.bind_error (RunsTo.throw _)

theorem runTransfer_no_recipient (current : b.store = s.adjoin { id := t }) {fromRow : Account}
    (found : s.account? p.fromAccountId = some fromRow)
    (funded : fromRow.balance.lt p.amount.value = false)
    (missing : s.account? p.toAccountId = none) :
    b.RunsTo t (runTransfer p)
      (s.adjoin { id := t, held := s.lockedRows p.fromAccountId p.toAccountId })
      (.finished (.error (.accountNotFound p.toAccountId))) := by
  have covered : p.amount.coveredBy fromRow.balance = true := Amount.coveredBy_of_not_lt funded
  unfold runTransfer
  simp only [TxScript.bind_eq]
  refine runTransfer_locked noConflicts fresh free current fun events notes => ?_
  simp only [found, covered, missing, Bool.not_true, Bool.false_eq_true, if_false,
    Option.isNone_none, if_true]
  exact RunsTo.bind_error (RunsTo.throw _)

section Funded

variable (current : b.store = s.adjoin { id := t }) {fromRow toRow : Account}
  (found : s.account? p.fromAccountId = some fromRow)
  (foundTo : s.account? p.toAccountId = some toRow)
  (funded : fromRow.balance.lt p.amount.value = false)
include current found foundTo funded

theorem runTransfer_moved_apart (reported : b.faults.underReport = false)
    (apart : p.fromAccountId ≠ p.toAccountId) {debited credited : Decimal}
    (debit : fromRow.balance.sub? p.amount.value = some debited)
    (debitUnsigned : debited.lt Decimal.zero = false)
    (credit : toRow.balance.add? p.amount.value = some credited)
    (creditUnsigned : credited.lt Decimal.zero = false) :
    b.RunsTo t (runTransfer p)
      (s.staged t p [(p.fromAccountId, debited), (p.toAccountId, credited)])
      (.finished (.ok (s.receiptFor p { fromRow with balance := debited }
        { toRow with balance := credited }))) := by
  have covered : p.amount.coveredBy fromRow.balance = true := Amount.coveredBy_of_not_lt funded
  have hasFrom : s.hasAccount p.fromAccountId = true := hasAccount_of_account? found
  have hasTo : s.hasAccount p.toAccountId = true := hasAccount_of_account? foundTo
  have twoRows : (if p.isSelfTransfer = true then 1 else 2) = 2 := by
    simp [TransferParams.isSelfTransfer, apart]
  unfold runTransfer
  simp only [TxScript.bind_eq]
  refine runTransfer_locked noConflicts fresh free current fun events notes => ?_
  simp only [found, foundTo, covered, Bool.not_true, Bool.false_eq_true, if_false,
    Option.isNone_some]
  refine RunsTo.bind (RunsTo.emit _) fun events notes => ?_
  refine runTransfer_records fresh rfl hasFrom hasTo fun events notes => ?_
  refine RunsTo.bind (RunsTo.emit _) fun events notes => ?_
  refine RunsTo.bind (RunsTo.move (b := { b with store := _, events, notes }) reported
    (moveBalances_recorded_apart fresh found apart foundTo debit debitUnsigned credit
      creditUnsigned)) fun events notes => ?_
  simp only [twoRows, ne_eq, not_true_eq_false, if_false]
  refine RunsTo.bind (RunsTo.emit _) fun events notes => ?_
  refine RunsTo.bind (RunsTo.read _) fun events notes => ?_
  simp only [viewRow_staged fresh _ (.inl rfl) found,
    restage_debited (account?_eq_some found).2]
  refine RunsTo.bind (RunsTo.read _) fun events notes => ?_
  simp only [viewRow_staged fresh _ (.inr rfl) foundTo,
    restage_credited (account?_eq_some foundTo).2 apart]
  exact RunsTo.pure _

theorem runTransfer_overflow (apart : p.fromAccountId ≠ p.toAccountId) {debited : Decimal}
    (debit : fromRow.balance.sub? p.amount.value = some debited)
    (debitUnsigned : debited.lt Decimal.zero = false)
    (overflow : toRow.balance.add? p.amount.value = none) :
    b.RunsTo t (runTransfer p) (s.recorded t p) (.panicked "Addition overflowed") := by
  have covered : p.amount.coveredBy fromRow.balance = true := Amount.coveredBy_of_not_lt funded
  have hasFrom : s.hasAccount p.fromAccountId = true := hasAccount_of_account? found
  have hasTo : s.hasAccount p.toAccountId = true := hasAccount_of_account? foundTo
  unfold runTransfer
  simp only [TxScript.bind_eq]
  refine runTransfer_locked noConflicts fresh free current fun events notes => ?_
  simp only [found, foundTo, covered, Bool.not_true, Bool.false_eq_true, if_false,
    Option.isNone_some]
  refine RunsTo.bind (RunsTo.emit _) fun events notes => ?_
  refine runTransfer_records fresh rfl hasFrom hasTo fun events notes => ?_
  refine RunsTo.bind (RunsTo.emit _) fun events notes => ?_
  exact RunsTo.bind_panicked (RunsTo.move_panicked
    (moveBalances_recorded_overflow fresh found apart foundTo debit debitUnsigned overflow))

end Funded

theorem runTransfer_moved_self (current : b.store = s.adjoin { id := t })
    (reported : b.faults.underReport = false) (same : p.fromAccountId = p.toAccountId)
    {fromRow : Account} (found : s.account? p.fromAccountId = some fromRow)
    (funded : fromRow.balance.lt p.amount.value = false)
    (unsigned : fromRow.balance.lt Decimal.zero = false) :
    b.RunsTo t (runTransfer p) (s.staged t p [(p.fromAccountId, fromRow.balance)])
      (.finished (.ok (s.receiptFor p fromRow fromRow))) := by
  have foundTo : s.account? p.toAccountId = some fromRow := same ▸ found
  have named : fromRow.id = p.fromAccountId := (account?_eq_some found).2
  have covered : p.amount.coveredBy fromRow.balance = true := Amount.coveredBy_of_not_lt funded
  have hasFrom : s.hasAccount p.fromAccountId = true := hasAccount_of_account? found
  have hasTo : s.hasAccount p.toAccountId = true := same ▸ hasFrom
  have oneRow : (if p.isSelfTransfer = true then 1 else 2) = 1 := by
    simp [TransferParams.isSelfTransfer, same]
  unfold runTransfer
  simp only [TxScript.bind_eq]
  refine runTransfer_locked noConflicts fresh free current fun events notes => ?_
  simp only [found, foundTo, covered, Bool.not_true, Bool.false_eq_true, if_false,
    Option.isNone_some]
  refine RunsTo.bind (RunsTo.emit _) fun events notes => ?_
  refine runTransfer_records fresh rfl hasFrom hasTo fun events notes => ?_
  refine RunsTo.bind (RunsTo.emit _) fun events notes => ?_
  refine RunsTo.bind (RunsTo.move (b := { b with store := _, events, notes }) reported
    (moveBalances_recorded_self fresh found same
      (Decimal.mantissa_ne_zero_of_covers p.amount.le_zero_eq_false funded) unsigned))
    fun events notes => ?_
  simp only [oneRow, ne_eq, not_true_eq_false, if_false]
  refine RunsTo.bind (RunsTo.emit _) fun events notes => ?_
  refine RunsTo.bind (RunsTo.read _) fun events notes => ?_
  simp only [viewRow_staged fresh _ (.inl rfl) found, restage_same named]
  refine RunsTo.bind (RunsTo.read _) fun events notes => ?_
  simp only [viewRow_staged fresh _ (.inr rfl) foundTo, restage_same named]
  exact RunsTo.pure _

end Script

end Backend

/-! ## The decision table -/

/-- How a transfer over a committed ledger ends when nothing fails and no other transaction holds
its rows: refused with an error, done with both rows as they end up, or stopped because the
recipient's balance overflows. -/
inductive TransferVerdict where
  | refused (error : TransferError)
  | moved (fromAccount toAccount : Account)
  | overflowed

namespace Store

/-- The decision table of a transfer over the committed ledger: a missing sender, then a balance
below the amount (an equal one suffices), then a missing recipient refuse it, in this order;
otherwise the sender is debited and the recipient credited, and a transfer to oneself leaves the
row as it is. -/
def verdict (s : Store) (p : TransferParams) : TransferVerdict :=
  match s.account? p.fromAccountId with
  | none => .refused (.accountNotFound p.fromAccountId)
  | some fromRow =>
    if fromRow.balance.lt p.amount.value then
      .refused (.insufficientFunds p.fromAccountId p.amount.value fromRow.balance)
    else
      match s.account? p.toAccountId with
      | none => .refused (.accountNotFound p.toAccountId)
      | some toRow =>
        if p.fromAccountId = p.toAccountId then .moved fromRow fromRow
        else
          match fromRow.balance.sub? p.amount.value, toRow.balance.add? p.amount.value with
          | some debited, some credited =>
            .moved { fromRow with balance := debited } { toRow with balance := credited }
          | _, _ => .overflowed

end Store

namespace TransferVerdict

/-- What a call answers when it follows a verdict over the committed ledger `s`: a refusal ends
in its error and leaves the ledger and the open transactions as they were; a transfer that moved
money ends in its receipt and has committed it; an overflow stops the program. -/
def Answers (s : Store) (p : TransferParams) :
    TransferVerdict → Backend × Ending TransferReceipt → Prop
  | .refused e, (b', ending) =>
    ending = .finished (.error e) ∧ b'.store = { s with nextTx := s.nextTx + 1 }
  | .moved fromAccount toAccount, (b', ending) =>
    ending = .finished (.ok (s.receiptFor p fromAccount toAccount)) ∧
      b'.store = s.afterTransfer p fromAccount toAccount
  | .overflowed, (_, ending) => ending = .panicked "Addition overflowed"

end TransferVerdict

namespace TransferService

open Store Backend

/-- A transfer on a reachable ledger, through a backend that injects nothing, with no other
transaction holding the rows of its accounts, answers as its decision table says, whichever of its
accounts is locked first and however many retries the service allows. Refusals name the missing
sender, then the sender with its requested amount and available balance, then the missing
recipient, and leave the ledger as it was; a transfer that moves money commits its record, the
debit and the credit with the next ids and the two rows with their new balances, and returns them
in its receipt; a credit beyond the decimal range stops the program. -/
theorem execute_answers_verdict (svc : TransferService) {b : Backend} {p : TransferParams}
    (reached : Reachable b.store) (quiet : b.Quiet)
    (unlocked : ∀ tx ∈ b.store.openTxs, p.fromAccountId ∉ tx.heldIds ∧ p.toAccountId ∉ tx.heldIds) :
    (b.store.verdict p).Answers b.store p (svc.execute b p) := by
  have fresh : ∀ u ∈ ({ b.store with nextTx := b.store.nextTx + 1 } : Store).openTxs,
      u.id ≠ b.store.nextTx := fun u member => Nat.ne_of_lt (reached.sound.txsBelow u member)
  have begun : (b.withStore b.store.begin.1).store =
      ({ b.store with nextTx := b.store.nextTx + 1 } : Store).adjoin { id := b.store.nextTx } :=
    begin_eq_adjoin b.store
  have noConflicts : (b.withStore b.store.begin.1).injection.conflicts = 0 := quiet.conflicts
  unfold Store.verdict
  cases found : b.store.account? p.fromAccountId with
  | none =>
    obtain ⟨b', executed, stored⟩ := execute_refused svc quiet rfl
      (runTransfer_no_sender noConflicts fresh unlocked begun found)
    rw [executed]
    exact ⟨rfl, by rw [stored, discard_adjoin fresh]⟩
  | some fromRow =>
    have named : fromRow.id = p.fromAccountId := (account?_eq_some found).2
    dsimp only
    by_cases short : fromRow.balance.lt p.amount.value = true
    · rw [if_pos short]
      obtain ⟨b', executed, stored⟩ := execute_refused svc quiet rfl
        (runTransfer_short noConflicts fresh unlocked begun found short)
      rw [executed]
      exact ⟨rfl, by rw [stored, discard_adjoin fresh]⟩
    have funded : fromRow.balance.lt p.amount.value = false := by simpa using short
    rw [if_neg short]
    cases foundTo : b.store.account? p.toAccountId with
    | none =>
      obtain ⟨b', executed, stored⟩ := execute_refused svc quiet rfl
        (runTransfer_no_recipient noConflicts fresh unlocked begun found funded foundTo)
      rw [executed]
      exact ⟨rfl, by rw [stored, discard_adjoin fresh]⟩
    | some toRow =>
      dsimp only
      by_cases same : p.fromAccountId = p.toAccountId
      · rw [if_pos same]
        obtain ⟨b', executed, stored⟩ := execute_done svc quiet
          (runTransfer_moved_self noConflicts fresh unlocked begun quiet.underReport same
            found funded (reached.solvent.account? found))
        rw [executed]
        refine ⟨rfl, ?_⟩
        rw [stored, commit_staged fresh _ found (same ▸ found), restage_same named]
        rfl
      rw [if_neg same]
      have covered : p.amount.value.le fromRow.balance = true := by
        rw [Decimal.le_eq_not_lt, funded]
        rfl
      obtain ⟨debited, debit, debitUnsigned⟩ :=
        Decimal.sub?_of_covered p.amount.le_zero_eq_false covered
      rw [debit]
      cases credit : toRow.balance.add? p.amount.value with
      | none =>
        obtain ⟨b', executed⟩ := execute_panicked svc quiet
          (runTransfer_overflow noConflicts fresh unlocked begun found foundTo funded same
            debit debitUnsigned credit)
        rw [executed]
        rfl
      | some credited =>
        have amountUnsigned : p.amount.value.lt Decimal.zero = false :=
          (Decimal.lt_zero_eq_false_iff _).mpr
            (.inl ((Decimal.le_zero_eq_false_iff _).mp p.amount.le_zero_eq_false).1)
        obtain ⟨b', executed, stored⟩ := execute_done svc quiet
          (runTransfer_moved_apart noConflicts fresh unlocked begun found foundTo funded
            quiet.underReport same debit debitUnsigned credit
            (Decimal.add?_not_negative (reached.solvent.account? foundTo) amountUnsigned credit))
        rw [executed]
        refine ⟨rfl, ?_⟩
        rw [stored, commit_staged fresh _ found foundTo, restage_debited named,
          restage_credited (account?_eq_some foundTo).2 same]
        rfl

def fundedPair : Store where
  accounts := [⟨1, "a", .ofInt64 100, .usd⟩, ⟨2, "b", .ofInt64 0, .usd⟩]
  nextAccount := 3

theorem funded_transfer_answers_verdict :
    ∃ p : TransferParams, p.fromAccountId = 1 ∧ p.toAccountId = 2 ∧
      p.amount.value = ⟨60, 0, false, by decide⟩ ∧
      Reachable fundedPair ∧ ({ store := fundedPair } : Backend).Quiet ∧
      (∀ tx ∈ fundedPair.openTxs, p.fromAccountId ∉ tx.heldIds ∧ p.toAccountId ∉ tx.heldIds) ∧
      (fundedPair.verdict p).Answers fundedPair p
        (({} : TransferService).execute { store := fundedPair } p) := by
  have opened : Reachable
      { accounts := [⟨1, "a", ⟨100, 0, false, by decide⟩, .usd⟩], nextAccount := 2 } :=
    .step (.createAccount "a" ⟨100, 0, false, by decide⟩ .usd) .empty
      ⟨(fun _ noTx => by cases noTx), rfl⟩
  have reached : Reachable fundedPair :=
    .step (.createAccount "b" ⟨0, 0, false, by decide⟩ .usd) opened
      ⟨(fun _ noTx => by cases noTx), rfl⟩
  have quiet : ({ store := fundedPair } : Backend).Quiet := ⟨rfl, rfl, rfl, rfl, by decide⟩
  have unlocked : ∀ tx ∈ fundedPair.openTxs,
      (1 : AccountId) ∉ tx.heldIds ∧ (2 : AccountId) ∉ tx.heldIds := fun _ member => by
    cases member
  refine ⟨⟨1, 2, ⟨⟨60, 0, false, by decide⟩, by decide⟩⟩, rfl, rfl, rfl, reached,
      quiet, unlocked, ?_⟩
  exact execute_answers_verdict {} reached quiet unlocked

/-- A recipient that holds the largest balance the decimal range has cannot be credited one more
unit: the transfer stops the program in its balance update instead of answering. -/
theorem credit_overflow_stops_transfer :
    (({} : TransferService).execute
      { store :=
          { accounts := [⟨1, "a", ⟨79228162514264337593543950335, 0, false, by decide⟩, .usd⟩,
              ⟨2, "b", ⟨100, 0, false, by decide⟩, .usd⟩]
            nextAccount := 3 } }
      ⟨2, 1, ⟨⟨1, 0, false, by decide⟩, by decide⟩⟩).2 = .panicked "Addition overflowed" := by
  rfl

end TransferService

end TransferLedger
