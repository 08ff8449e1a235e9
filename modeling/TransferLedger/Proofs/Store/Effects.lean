import TransferLedger.Ledger.Store

/-! What each store operation changes. Readers outside transactions see the committed ledger:
accounts, entries and transfers. Only a commit and a new account change it; every other operation
touches at most the state of one open transaction and the id counters. -/

namespace TransferLedger

/-- The committed rows and records: what a reader outside every transaction sees. -/
structure Ledger where
  accounts : List Account
  entries : List Entry
  transfers : List TransferRecord
  deriving DecidableEq

/-- The committed rows with a transaction's held rows written over them, and its records appended:
what a commit of that transaction publishes. -/
def Ledger.publish (l : Ledger) (tx : OpenTx) : Ledger :=
  ⟨l.accounts.map fun row => (tx.held.find? (·.id == row.id)).getD row,
    l.entries ++ tx.entries, l.transfers ++ tx.transfers⟩

def OpenTx.heldIds (tx : OpenTx) : List AccountId := tx.held.map (·.id)

namespace Store

def ledger (s : Store) : Ledger := ⟨s.accounts, s.entries, s.transfers⟩

theorem tx?_eq_some {s : Store} {t : TxId} {tx : OpenTx} (found : s.tx? t = some tx) :
    tx ∈ s.openTxs ∧ tx.id = t := by
  simp only [tx?] at found
  exact ⟨List.mem_of_find?_eq_some found, by simpa using List.find?_some found⟩

theorem account?_eq_some {s : Store} {id : AccountId} {row : Account}
    (found : s.account? id = some row) : row ∈ s.accounts ∧ row.id = id := by
  simp only [account?] at found
  exact ⟨List.mem_of_find?_eq_some found, by simpa using List.find?_some found⟩

theorem hasAccount_iff (s : Store) (id : AccountId) :
    s.hasAccount id = true ↔ ∃ row ∈ s.accounts, row.id = id := by
  simp [hasAccount]

theorem account?_isSome (s : Store) (id : AccountId) :
    (s.account? id).isSome = s.hasAccount id :=
  List.isSome_find?

theorem hasAccount_of_account? {s : Store} {id : AccountId} {row : Account}
    (found : s.account? id = some row) : s.hasAccount id = true := by
  rw [← account?_isSome, found]
  rfl

/-! ## Changing one transaction -/

section ModifyTx

variable {s : Store} {t u : TxId} {f : OpenTx → OpenTx}

@[simp] theorem modifyTx_accounts : (s.modifyTx t f).accounts = s.accounts := rfl
@[simp] theorem modifyTx_entries : (s.modifyTx t f).entries = s.entries := rfl
@[simp] theorem modifyTx_transfers : (s.modifyTx t f).transfers = s.transfers := rfl
@[simp] theorem modifyTx_nextAccount : (s.modifyTx t f).nextAccount = s.nextAccount := rfl
@[simp] theorem modifyTx_nextEntry : (s.modifyTx t f).nextEntry = s.nextEntry := rfl
@[simp] theorem modifyTx_nextTransfer : (s.modifyTx t f).nextTransfer = s.nextTransfer := rfl
@[simp] theorem modifyTx_nextTx : (s.modifyTx t f).nextTx = s.nextTx := rfl
@[simp] theorem modifyTx_ledger : (s.modifyTx t f).ledger = s.ledger := rfl
@[simp] theorem modifyTx_account? : (s.modifyTx t f).account? = s.account? := rfl

theorem modifyTx_openTxs :
    (s.modifyTx t f).openTxs = s.openTxs.map fun tx => if tx.id == t then f tx else tx := rfl

theorem modifyTx_ids (keeps : ∀ tx, (f tx).id = tx.id) :
    (s.modifyTx t f).openTxs.map (·.id) = s.openTxs.map (·.id) := by
  simp only [modifyTx_openTxs, List.map_map]
  apply List.map_congr_left
  intro tx _
  by_cases same : tx.id = t <;> simp [same, keeps]

theorem find?_update (txs : List OpenTx) (keeps : ∀ tx, (f tx).id = tx.id) (u : TxId) :
    (txs.map fun tx => if tx.id == t then f tx else tx).find? (·.id == u) =
      (txs.find? (·.id == u)).map fun tx => if tx.id == t then f tx else tx := by
  have congr : ((fun tx : OpenTx => tx.id == u) ∘ fun tx => if tx.id == t then f tx else tx) =
      fun tx => tx.id == u := by
    funext tx
    by_cases same : tx.id = t <;> simp [same, keeps]
  rw [List.find?_map, congr]

theorem tx?_modifyTx_self (keeps : ∀ tx, (f tx).id = tx.id) :
    (s.modifyTx t f).tx? t = (s.tx? t).map f := by
  simp only [tx?, modifyTx_openTxs, find?_update _ keeps]
  cases found : s.openTxs.find? (·.id == t) with
  | none => rfl
  | some tx => simp [(by simpa using List.find?_some found : tx.id = t)]

end ModifyTx

/-! ## Requests that touch one transaction -/

/-- `after` differs from `before` only in the state of transaction `t`, which keeps its id, and in
the counters of record ids, which only grow: the committed ledger, the account and transaction
counters and every other transaction stay as they were. -/
structure Touches (t : TxId) (before after : Store) : Prop where
  ledger : after.ledger = before.ledger
  nextAccount : after.nextAccount = before.nextAccount
  nextTx : after.nextTx = before.nextTx
  nextEntry : before.nextEntry ≤ after.nextEntry
  nextTransfer : before.nextTransfer ≤ after.nextTransfer
  openTxs : ∃ g : OpenTx → OpenTx, (∀ tx, (g tx).id = tx.id) ∧
    after.openTxs = before.openTxs.map fun tx => if tx.id == t then g tx else tx

namespace Touches

variable {t : TxId} {s₁ s₂ s₃ : Store}

theorem refl (s : Store) (t : TxId) : Touches t s s :=
  ⟨rfl, rfl, rfl, Nat.le_refl _, Nat.le_refl _, ⟨id, fun _ => rfl, by simp⟩⟩

theorem trans (first : Touches t s₁ s₂) (second : Touches t s₂ s₃) : Touches t s₁ s₃ := by
  obtain ⟨g₁, keeps₁, eq₁⟩ := first.openTxs
  obtain ⟨g₂, keeps₂, eq₂⟩ := second.openTxs
  refine ⟨second.ledger.trans first.ledger, second.nextAccount.trans first.nextAccount,
    second.nextTx.trans first.nextTx, Nat.le_trans first.nextEntry second.nextEntry,
    Nat.le_trans first.nextTransfer second.nextTransfer,
    ⟨g₂ ∘ g₁, fun tx => by simp [keeps₁, keeps₂], ?_⟩⟩
  rw [eq₂, eq₁, List.map_map]
  apply List.map_congr_left
  intro tx _
  by_cases same : tx.id = t <;> simp [same, keeps₁]

theorem modifyTx {f : OpenTx → OpenTx} (s : Store) (keeps : ∀ tx, (f tx).id = tx.id) :
    Touches t s (s.modifyTx t f) :=
  ⟨rfl, rfl, rfl, Nat.le_refl _, Nat.le_refl _, ⟨f, keeps, rfl⟩⟩

theorem ids (touches : Touches t s₁ s₂) : s₂.openTxs.map (·.id) = s₁.openTxs.map (·.id) := by
  obtain ⟨g, keeps, eq⟩ := touches.openTxs
  rw [eq, List.map_map]
  apply List.map_congr_left
  intro tx _
  by_cases same : tx.id = t <;> simp [same, keeps]

theorem isOpen (touches : Touches t s₁ s₂) (u : TxId) : s₂.isOpen u = s₁.isOpen u := by
  have := congrArg (fun ids => ids.any (· == u)) touches.ids
  simpa [Store.isOpen, List.any_map, Function.comp_def] using this

theorem tx?_other {u : TxId} (touches : Touches t s₁ s₂) (other : u ≠ t) :
    s₂.tx? u = s₁.tx? u := by
  obtain ⟨g, keeps, eq⟩ := touches.openTxs
  simp only [tx?, eq, find?_update _ keeps]
  cases found : s₁.openTxs.find? (·.id == u) with
  | none => rfl
  | some tx => simp [(by simpa using List.find?_some found : tx.id = u), other]

end Touches

/-! ## Taking row locks -/

theorem lockRow_granted {s s' : Store} {t : TxId} {id : AccountId} {row : Account}
    (granted : s.lockRow t id = .granted s' row) :
    (s.heldRow? t id = some row ∧ s' = s) ∨
    (s.heldRow? t id = none ∧ s.account? id = some row ∧ s.otherHolder? t id = none ∧
      s' = s.modifyTx t fun tx => { tx with held := tx.held ++ [row] }) := by
  unfold lockRow at granted
  cases held : s.heldRow? t id with
  | some staged =>
    simp only [held, LockGrant.granted.injEq] at granted
    exact .inl ⟨by rw [granted.2], granted.1.symm⟩
  | none =>
    simp only [held] at granted
    cases committed : s.account? id with
    | none => simp [committed] at granted
    | some found =>
      cases holder : s.otherHolder? t id with
      | some _ => simp [committed, holder] at granted
      | none =>
        simp only [committed, holder, LockGrant.granted.injEq] at granted
        obtain ⟨rfl, rfl⟩ := granted
        exact .inr ⟨rfl, rfl, rfl, rfl⟩

theorem lockRow_touches {s s' : Store} {t : TxId} {id : AccountId} {row : Account}
    (granted : s.lockRow t id = .granted s' row) : Touches t s s' := by
  rcases lockRow_granted granted with ⟨_, rfl⟩ | ⟨_, _, _, rfl⟩
  · exact Touches.refl _ t
  · exact Touches.modifyTx _ fun _ => rfl

/-! ## Records -/

theorem recordTransfer_ok {s s' : Store} {t : TxId} {fromId toId : AccountId} {amount : Decimal}
    {record : TransferRecord} (made : s.recordTransfer t fromId toId amount = .ok (s', record)) :
    s.hasAccount fromId ∧ s.hasAccount toId ∧ amount.le Decimal.zero = false ∧
      record = ⟨s.nextTransfer, fromId, toId, amount⟩ ∧
      s' = ({ s with nextTransfer := s.nextTransfer + 1 } : Store).modifyTx t
        fun tx => { tx with transfers := tx.transfers ++ [record] } := by
  unfold recordTransfer ensureExists at made
  by_cases hasFrom : s.hasAccount fromId <;> by_cases hasTo : s.hasAccount toId <;>
    cases positive : amount.le Decimal.zero <;>
    simp [hasFrom, hasTo, positive, bind, Except.bind, throw, throwThe, MonadExceptOf.throw, pure,
      Except.pure] at made
  obtain ⟨rfl, rfl⟩ := made
  exact ⟨hasFrom, hasTo, rfl, rfl, rfl⟩

theorem recordEntry_ok {s s' : Store} {t : TxId} {accountId : AccountId} {amount : Decimal}
    {entry : Entry} (made : s.recordEntry t accountId amount = .ok (s', entry)) :
    s.hasAccount accountId ∧ entry = ⟨s.nextEntry, accountId, amount⟩ ∧
      s' = ({ s with nextEntry := s.nextEntry + 1 } : Store).modifyTx t
        fun tx => { tx with entries := tx.entries ++ [entry] } := by
  unfold recordEntry ensureExists at made
  by_cases hasAccount : s.hasAccount accountId <;>
    simp [hasAccount, bind, Except.bind, pure, Except.pure] at made
  obtain ⟨rfl, rfl⟩ := made
  exact ⟨hasAccount, rfl, rfl⟩

theorem createAccount_ok {s s' : Store} {owner : String} {balance : Decimal} {currency : Currency}
    {account : Account} (created : s.createAccount owner balance currency = .ok (s', account)) :
    balance.lt Decimal.zero = false ∧ account = ⟨s.nextAccount, owner, balance, currency⟩ ∧
      s' = { s with accounts := s.accounts ++ [account], nextAccount := s.nextAccount + 1 } := by
  unfold createAccount at created
  split at created
  · cases created
  · rename_i notNegative
    cases created
    exact ⟨Bool.eq_false_iff.mpr notNegative, rfl, rfl⟩

theorem recordTransfer_touches {s s' : Store} {t : TxId} {fromId toId : AccountId}
    {amount : Decimal} {record : TransferRecord}
    (made : s.recordTransfer t fromId toId amount = .ok (s', record)) : Touches t s s' := by
  obtain ⟨-, -, -, -, rfl⟩ := recordTransfer_ok made
  exact (⟨rfl, rfl, rfl, Nat.le_refl _, Nat.le_succ _, ⟨id, fun _ => rfl, by simp⟩⟩ :
    Touches t s { s with nextTransfer := s.nextTransfer + 1 }).trans
    (Touches.modifyTx _ fun _ => rfl)

theorem recordEntry_touches {s s' : Store} {t : TxId} {accountId : AccountId} {amount : Decimal}
    {entry : Entry} (made : s.recordEntry t accountId amount = .ok (s', entry)) :
    Touches t s s' := by
  obtain ⟨-, -, rfl⟩ := recordEntry_ok made
  exact (⟨rfl, rfl, rfl, Nat.le_succ _, Nat.le_refl _, ⟨id, fun _ => rfl, by simp⟩⟩ :
    Touches t s { s with nextEntry := s.nextEntry + 1 }).trans (Touches.modifyTx _ fun _ => rfl)

/-! ## The balance update -/

theorem stageBalances_touches (s : Store) (t : TxId) (updates : List (AccountId × Decimal)) :
    Touches t s (s.stageBalances t updates) :=
  Touches.modifyTx s fun _ => rfl

/-- Every store a balance update reaches, finished or waiting part-way, comes from its start by
granted row locks of `t` and at most one staging of balances at the end: it keeps whatever those
two keep. -/
theorem moveAlong_induction {t : TxId} {fromId toId : AccountId} {amount : Decimal}
    (P : Store → Prop)
    (lock : ∀ {s s' : Store} {id : AccountId} {row : Account}, P s →
      s.lockRow t id = .granted s' row → P s')
    (stage : ∀ {s : Store} (updates : List (AccountId × Decimal)), P s →
      P (s.stageBalances t updates)) :
    ∀ {s s' : Store} {ids : List AccountId} {updates : List (AccountId × Decimal)}, P s →
      ((∃ r, moveAlong t fromId toId amount s ids updates = .done s' r) ∨
        moveAlong t fromId toId amount s ids updates = .waiting s') → P s'
  | s, s', [], updates, start, result => by
    simp only [moveAlong, StoreStep.done.injEq, exists_and_left, exists_eq', and_true,
      reduceCtorEq, or_false] at result
    subst result
    exact stage updates start
  | s, s', id :: rest, updates, start, result => by
    simp only [moveAlong] at result
    split at result
    · exact moveAlong_induction P lock stage start result
    · simp only [reduceCtorEq, exists_false, StoreStep.waiting.injEq, false_or] at result
      subst result
      exact start
    · rename_i locked row granted
      have first := lock start granted
      split at result
      · simp at result
      · split at result
        · simp at result
        · split at result
          · simp only [StoreStep.done.injEq, exists_and_left, exists_eq', and_true,
              reduceCtorEq, or_false] at result
            subst result
            exact first
          · exact moveAlong_induction P lock stage first result

theorem moveBalances_touches {s s' : Store} {t : TxId} {fromId toId : AccountId}
    {amount : Decimal}
    (result : (∃ r, s.moveBalances t fromId toId amount = .done s' r) ∨
      s.moveBalances t fromId toId amount = .waiting s') : Touches t s s' :=
  moveAlong_induction (Touches t s) (fun touches granted => touches.trans (lockRow_touches granted))
    (fun updates touches => touches.trans (stageBalances_touches _ t updates)) (Touches.refl s t)
    result

/-! ## Beginning and ending transactions -/

@[simp] theorem begin_ledger (s : Store) : s.begin.1.ledger = s.ledger := rfl

theorem mem_begin_openTxs (s : Store) (tx : OpenTx) :
    tx ∈ s.begin.1.openTxs ↔ tx ∈ s.openTxs ∨ tx = { id := s.nextTx } := by
  simp [begin]
@[simp] theorem discard_ledger (s : Store) (t : TxId) : (s.discard t).ledger = s.ledger := rfl

theorem commit_ledger {s : Store} {t : TxId} {tx : OpenTx} (found : s.tx? t = some tx) :
    (s.commit t).ledger = s.ledger.publish tx := by
  simp [commit, found, ledger, Ledger.publish]

theorem commit_of_tx? {s : Store} {t : TxId} {tx : OpenTx} (found : s.tx? t = some tx) :
    s.commit t = { s with
      accounts := s.accounts.map fun row => (tx.held.find? (·.id == row.id)).getD row
      entries := s.entries ++ tx.entries
      transfers := s.transfers ++ tx.transfers
      openTxs := s.openTxs.filter (·.id != t) } := by
  simp [commit, found]

theorem commit_openTxs {s : Store} {t : TxId} {tx : OpenTx} (found : s.tx? t = some tx) :
    (s.commit t).openTxs = (s.discard t).openTxs := by
  simp [commit, found, discard]

end Store

end TransferLedger
