import TransferLedger.Proofs.Transfer.Interference
import TransferLedger.Proofs.Transfer.Conservation

/-! Transfers one after another, and what a transfer's script is sure of under any interleaving: it
ends with a receipt only where the decision table of the current ledger moves money, and is refused
only where the table refuses. -/

namespace TransferLedger

def TransferParams.fields (p : TransferParams) : AccountId × AccountId × Decimal :=
  (p.fromAccountId, p.toAccountId, p.amount.value)

namespace Store

/-- The committed ledger with the ids of transfers and entries left out: the accounts, and each
transfer and entry, in commit order, by what it moves. -/
def books (s : Store) :
    List Account × List (AccountId × AccountId × Decimal) × List (AccountId × Decimal) :=
  (s.accounts, s.transfers.map TransferRecord.fields, s.entries.map Entry.side)

/-- A transfer run alone on the committed ledger, when its decision table lets it move money. -/
def moveAlone? (s : Store) (p : TransferParams) : Option Store :=
  match s.verdict p with
  | .moved fromAccount toAccount => some (s.afterTransfer p fromAccount toAccount)
  | .refused _ | .overflowed => none

/-- Transfers run one after another on the committed ledger, each alone and each moving money. -/
def serialRun (s : Store) : List TransferParams → Option Store
  | [] => some s
  | p :: ps => (s.moveAlone? p).bind fun s' => s'.serialRun ps

variable {s s' : Store} {p : TransferParams} {t : TxId}

theorem serialRun_append (s : Store) (ps : List TransferParams) (p : TransferParams) :
    s.serialRun (ps ++ [p]) = (s.serialRun ps).bind fun s' => s'.moveAlone? p := by
  induction ps generalizing s with
  | nil => simp [serialRun]
  | cons q rest ih =>
    simp only [List.cons_append, serialRun, Option.bind_assoc, ih]

theorem verdict_congr (sameFrom : s'.account? p.fromAccountId = s.account? p.fromAccountId)
    (sameTo : s'.account? p.toAccountId = s.account? p.toAccountId) :
    s'.verdict p = s.verdict p := by
  unfold verdict
  rw [sameFrom, sameTo]

theorem verdict_of_books (same : s'.books = s.books) : s'.verdict p = s.verdict p := by
  have accounts := account?_of_accounts (congrArg Prod.fst same)
  exact verdict_congr (by rw [accounts]) (by rw [accounts])

theorem afterTransfer_books (same : s'.books = s.books) (fromAccount toAccount : Account) :
    (s'.afterTransfer p fromAccount toAccount).books =
      (s.afterTransfer p fromAccount toAccount).books := by
  simp only [books, Prod.mk.injEq] at same
  obtain ⟨accounts, transfers, entries⟩ := same
  simp [books, afterTransfer, receiptFor, accounts, transfers, entries, TransferRecord.fields,
    Entry.side]

/-- Where the script of transfer `p` in transaction `t` may fail with `e`: when `e` refuses the
request, the transaction holds the rows of the transfer's accounts that exist, and the decision
table of the committed ledger refuses the transfer with `e`. -/
def Refuses (s : Store) (t : TxId) (p : TransferParams) (e : TransferError) : Prop :=
  e.isClientError = true →
    s.Holds t { locked := updateOrder p.fromAccountId p.toAccountId } ∧ s.verdict p = .refused e

/-- Where the script of transfer `p` in transaction `t` may end with receipt `v`: the decision
table of the committed ledger moves money with the rows of `v`, which the transaction holds as
its only rows, with the transfer's record and its two entries. -/
def Ready (s : Store) (t : TxId) (p : TransferParams) (v : TransferReceipt) : Prop :=
  s.verdict p = .moved v.fromAccount v.toAccount ∧
  ∃ staged, s.Holds t ⟨updateOrder p.fromAccountId p.toAccountId, staged, [v.transfer],
      [v.fromEntry, v.toEntry]⟩ ∧
    (s.account? p.fromAccountId).map (restage staged) = some v.fromAccount ∧
    (s.account? p.toAccountId).map (restage staged) = some v.toAccount ∧
    v.transfer.fields = (p.fromAccountId, p.toAccountId, p.amount.value) ∧
    v.fromEntry.side = (p.fromAccountId, p.amount.debit) ∧
    v.toEntry.side = (p.toAccountId, p.amount.credit)

section Stable

variable {p : TransferParams} {t : TxId}

theorem Holds.verdict_eq {s s' : Store} {g : Holding} (holds : s.Holds t g)
    (relied : Rely t s s') (locked : g.locked = updateOrder p.fromAccountId p.toAccountId) :
    s'.verdict p = s.verdict p :=
  verdict_congr (holds.account?_eq relied (locked ▸ mem_updateOrder_from _ _))
    (holds.account?_eq relied (locked ▸ mem_updateOrder_to _ _))

theorem Refuses.stable (e : TransferError) : Stable t (·.Refuses t p e) := by
  intro s s' relied refuses client
  obtain ⟨holds, refused⟩ := refuses client
  exact ⟨Holds.stable relied holds, (holds.verdict_eq relied rfl).trans refused⟩

theorem Ready.stable (v : TransferReceipt) : Stable t (·.Ready t p v) := by
  intro s s' relied ready
  obtain ⟨moved, staged, holds, stagedFrom, stagedTo, records⟩ := ready
  refine ⟨(holds.verdict_eq relied rfl).trans moved, staged, Holds.stable relied holds, ?_, ?_,
    records⟩
  · rw [holds.account?_eq relied (mem_updateOrder_from _ _)]
    exact stagedFrom
  · rw [holds.account?_eq relied (mem_updateOrder_to _ _)]
    exact stagedTo

end Stable

theorem restage_of_mem {news : List (AccountId × Decimal)} (distinct : (news.map (·.1)).Nodup)
    {id : AccountId} {balance : Decimal} (member : (id, balance) ∈ news) {row : Account}
    (named : row.id = id) : restage news row = { row with balance } := by
  have found : news.find? (·.1 == row.id) = some (id, balance) := by
    rw [named]
    exact find?_key_of_mem distinct member
  simp only [restage, found]

theorem staged_of_mem {fromId toId : AccountId} {amount : Decimal}
    {news : List (AccountId × Decimal)} (keys : news.map (·.1) = updateOrder fromId toId)
    (computed : ∀ q ∈ news, ∃ row delta, s.account? q.1 = some row ∧
      balanceDelta fromId toId q.1 amount = some delta ∧ row.balance.add? delta = some q.2)
    {id : AccountId} (mine : id ∈ updateOrder fromId toId) {row : Account}
    (found : s.account? id = some row) {delta : Decimal}
    (change : balanceDelta fromId toId id amount = some delta) :
    ∃ balance, row.balance.add? delta = some balance ∧ restage news row = { row with balance } := by
  obtain ⟨q, member, named⟩ := List.mem_map.mp (keys ▸ mine)
  obtain ⟨row', delta', found', change', added⟩ := computed q member
  rw [named, found] at found'
  rw [named, change] at change'
  cases found'
  cases change'
  refine ⟨q.2, added, restage_of_mem (keys ▸ updateOrder_nodup fromId toId) member ?_⟩
  rw [(account?_eq_some found).2, named]

theorem ready_of_staged {news : List (AccountId × Decimal)} {record : TransferRecord}
    {fromEntry toEntry : Entry}
    (holds : s.Holds t ⟨updateOrder p.fromAccountId p.toAccountId, news, [record],
      [fromEntry, toEntry]⟩)
    {fromRow toRow : Account} (foundFrom : s.account? p.fromAccountId = some fromRow)
    (foundTo : s.account? p.toAccountId = some toRow)
    (funded : fromRow.balance.lt p.amount.value = false)
    (keys : news.map (·.1) = updateOrder p.fromAccountId p.toAccountId)
    (computed : ∀ q ∈ news, ∃ row delta, s.account? q.1 = some row ∧
      balanceDelta p.fromAccountId p.toAccountId q.1 p.amount.value = some delta ∧
      row.balance.add? delta = some q.2)
    (recorded : ∃ n, record = ⟨n, p.fromAccountId, p.toAccountId, p.amount.value⟩)
    (debited : ∃ n, fromEntry = ⟨n, p.fromAccountId, p.amount.debit⟩)
    (credited : ∃ n, toEntry = ⟨n, p.toAccountId, p.amount.credit⟩) :
    s.Ready t p ⟨record, restage news fromRow, restage news toRow, fromEntry, toEntry⟩ := by
  have nonzero := p.amount.mantissa_ne_zero
  have fromMine := mem_updateOrder_from p.fromAccountId p.toAccountId
  have toMine := mem_updateOrder_to p.fromAccountId p.toAccountId
  obtain ⟨n, rfl⟩ := recorded
  obtain ⟨m, rfl⟩ := debited
  obtain ⟨k, rfl⟩ := credited
  refine ⟨?_, news, holds, by simp [foundFrom], by simp [foundTo], rfl, rfl, rfl⟩
  simp only [verdict, foundFrom, funded, Bool.false_eq_true, if_false, foundTo]
  by_cases same : p.fromAccountId = p.toAccountId
  · rw [if_pos same]
    rw [← same, foundFrom] at foundTo
    cases foundTo
    have change : balanceDelta p.fromAccountId p.toAccountId p.fromAccountId p.amount.value =
        some ⟨0, p.amount.value.scale, false, by decide⟩ := by
      rw [← same]
      exact balanceDelta_self nonzero
    obtain ⟨balance, added, staged⟩ := staged_of_mem keys computed fromMine foundFrom change
    have kept : fromRow.balance.add? ⟨0, p.amount.value.scale, false, by decide⟩ =
        some fromRow.balance := by
      simp [Decimal.add?, Decimal.isZero,
        Decimal.mantissa_ne_zero_of_covers p.amount.le_zero_eq_false funded]
    rw [kept, Option.some.injEq] at added
    subst added
    simp [staged]
  · rw [if_neg same]
    obtain ⟨debit, subtracted, stagedFrom⟩ := staged_of_mem keys computed fromMine foundFrom
      (balanceDelta_debit same nonzero)
    obtain ⟨credit, added, stagedTo⟩ := staged_of_mem keys computed toMine foundTo
      (balanceDelta_credit same)
    rw [Decimal.add?_neg nonzero] at subtracted
    rw [subtracted, added, stagedFrom, stagedTo]

/-- Committing a transaction that is ready publishes what the transfer run alone on the committed
ledger would: both rows as staged, the record and its two entries. -/
theorem Ready.commit_books {v : TransferReceipt} (sound : Sound s) (ready : s.Ready t p v) :
    (s.commit t).books = (s.afterTransfer p v.fromAccount v.toAccount).books := by
  obtain ⟨-, staged, holds, stagedFrom, stagedTo, recorded, debited, credited⟩ := ready
  have lookup := holds.heldRow?
  simp only [heldRow?_of_tx? holds] at lookup
  rw [commit_of_tx? holds]
  simp only [books, afterTransfer, receiptFor, List.map_append, List.map_cons, List.map_nil,
    Prod.mk.injEq]
  refine ⟨List.map_congr_left fun row member => ?_, by rw [recorded]; rfl,
    by rw [debited, credited]; rfl⟩
  rw [lookup row.id, account?_of_mem sound member]
  by_cases isFrom : row.id = p.fromAccountId
  · rw [if_pos (isFrom ▸ mem_updateOrder_from _ _), if_pos isFrom]
    rw [← isFrom, account?_of_mem sound member] at stagedFrom
    simp [stagedFrom]
  · by_cases isTo : row.id = p.toAccountId
    · rw [if_pos (isTo ▸ mem_updateOrder_to _ _), if_neg isFrom, if_pos isTo]
      rw [← isTo, account?_of_mem sound member] at stagedTo
      simp [stagedTo]
    · rw [if_neg (fun mine => (mem_updateOrder.mp mine).elim isFrom isTo), if_neg isFrom,
        if_neg isTo]
      rfl

end Store

open Store TxScript in
theorem runTransfer_sure (p : TransferParams) {t : TxId} {s : Store}
    (fresh : s.Holds t { locked := [] }) :
    (runTransfer p).Sure t (fun v s => s.Ready t p v) (fun e s => s.Refuses t p e) s := by
  have failed : ∀ e (s' : Store), s'.Refuses t p (.infrastructure e) := fun _ _ never => by
    cases never
  unfold runTransfer
  simp only [TxScript.bind_eq, sure_bind, sure_emit]
  refine sure_lockAccounts fresh fun s₁ sound₁ holds₁ => ?_
  rw [sure_bind, sure_emit]
  cases foundFrom : s₁.account? p.fromAccountId with
  | none =>
    simp only [sure_throw]
    exact fun _ => ⟨holds₁, by simp [verdict, foundFrom]⟩
  | some fromRow =>
  by_cases short : fromRow.balance.lt p.amount.value = true
  · have uncovered : p.amount.coveredBy fromRow.balance = false := Amount.coveredBy_of_lt short
    simp only [uncovered, Bool.not_false, if_true, throw_bind, sure_throw]
    exact fun _ => ⟨holds₁, by simp [verdict, foundFrom, short]⟩
  have funded : fromRow.balance.lt p.amount.value = false := by simpa using short
  have covered : p.amount.coveredBy fromRow.balance = true := Amount.coveredBy_of_not_lt funded
  cases foundTo : s₁.account? p.toAccountId with
  | none =>
    simp only [covered, Bool.not_true, Bool.false_eq_true, if_false, Option.isNone_none, if_true,
      throw_bind, sure_throw]
    exact fun _ => ⟨holds₁, by simp [verdict, foundFrom, funded, foundTo]⟩
  | some toRow =>
  simp only [covered, Bool.not_true, Bool.false_eq_true, if_false, Option.isNone_some]
  have fromMine := mem_updateOrder_from p.fromAccountId p.toAccountId
  have toMine := mem_updateOrder_to p.fromAccountId p.toAccountId
  rw [sure_bind, sure_emit, sure_bind]
  refine sure_newTransfer holds₁ failed fun s₂ record _ recorded _ holds₂ kept₂ => ?_
  rw [sure_bind]
  refine sure_newEntry holds₂ failed fun s₃ fromEntry _ debited holds₃ kept₃ => ?_
  rw [sure_bind]
  refine sure_newEntry holds₃ failed fun s₄ toEntry _ credited holds₄ kept₄ => ?_
  have same₄ : ∀ x ∈ updateOrder p.fromAccountId p.toAccountId, s₄.account? x = s₁.account? x :=
    fun x mine => by rw [kept₄ x mine, kept₃ x mine, kept₂ x mine]
  rw [sure_bind, sure_emit, sure_bind]
  refine sure_move holds₄ (by simp [same₄ _ fromMine, foundFrom])
    (by simp [same₄ _ toMine, foundTo]) failed
    fun s₅ affected news _ holds₅ keys computed kept₅ => ?_
  by_cases mismatch : affected ≠ if p.isSelfTransfer then 1 else 2
  · rw [if_pos mismatch, throw_bind, sure_throw]
    exact fun never => by cases never
  rw [if_neg mismatch]
  rw [sure_bind, sure_emit, sure_bind]
  refine sure_read fromMine holds₅ fun s₆ _ holds₆ kept₆ => ?_
  simp only [kept₅ _ fromMine, same₄ _ fromMine, foundFrom, Option.map_some]
  rw [sure_bind]
  refine sure_read toMine holds₆ fun s₇ _ holds₇ kept₇ => ?_
  simp only [kept₆ _ toMine, kept₅ _ toMine, same₄ _ toMine, foundTo, Option.map_some, sure_pure]
  have same₇ : ∀ x ∈ updateOrder p.fromAccountId p.toAccountId, s₇.account? x = s₄.account? x :=
    fun x mine => by rw [kept₇ x mine, kept₆ x mine, kept₅ x mine]
  refine ready_of_staged holds₇ (by rw [same₇ _ fromMine, same₄ _ fromMine]; exact foundFrom)
    (by rw [same₇ _ toMine, same₄ _ toMine]; exact foundTo) funded keys
    (fun q member => ?_) recorded debited credited
  rw [same₇ q.1 (keys ▸ List.mem_map_of_mem member)]
  exact computed q member

end TransferLedger
