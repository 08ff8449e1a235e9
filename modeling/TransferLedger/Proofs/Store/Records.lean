import TransferLedger.Proofs.Store.History

/-! What each call does, one case per outcome, and why every transfer the store holds moves a
positive amount between two existing accounts. -/

namespace TransferLedger

def OpenTx.records (tx : OpenTx) : TxId × List TransferRecord × List Entry :=
  (tx.id, tx.transfers, tx.entries)

namespace Store

/-- What a call that completes did, one case per outcome of the store function it runs. -/
inductive Handles (s : Store) : Request → Store → Prop
  | created {owner : String} {balance : Decimal} {currency : Currency} {s' : Store}
      {account : Account} : s.createAccount owner balance currency = .ok (s', account) →
      Handles s (.createAccount owner balance currency) s'
  | createRefused {owner : String} {balance : Decimal} {currency : Currency} {e : InfraError} :
      s.createAccount owner balance currency = .error e →
      Handles s (.createAccount owner balance currency) s
  | begin : Handles s .begin s.begin.1
  | granted {t : TxId} {id : AccountId} {s' : Store} {row : Account} :
      s.lockRow t id = .granted s' row → Handles s (.lock t id) s'
  | notGranted {t : TxId} {id : AccountId} :
      s.lockRow t id = .absent ∨ s.lockRow t id = .waiting → Handles s (.lock t id) s
  | read {t : TxId} {id : AccountId} : Handles s (.read t id) s
  | transfer {t : TxId} {fromId toId : AccountId} {amount : Decimal} {s' : Store}
      {record : TransferRecord} : s.recordTransfer t fromId toId amount = .ok (s', record) →
      Handles s (.recordTransfer t fromId toId amount) s'
  | transferRefused {t : TxId} {fromId toId : AccountId} {amount : Decimal} {e : InfraError} :
      s.recordTransfer t fromId toId amount = .error e →
      Handles s (.recordTransfer t fromId toId amount) s
  | entry {t : TxId} {accountId : AccountId} {amount : Decimal} {s' : Store} {entry : Entry} :
      s.recordEntry t accountId amount = .ok (s', entry) →
      Handles s (.recordEntry t accountId amount) s'
  | entryRefused {t : TxId} {accountId : AccountId} {amount : Decimal} {e : InfraError} :
      s.recordEntry t accountId amount = .error e → Handles s (.recordEntry t accountId amount) s
  | move {t : TxId} {fromId toId : AccountId} {amount : Decimal} {s' : Store} :
      (∃ r, s.moveBalances t fromId toId amount = .done s' r) ∨
        s.moveBalances t fromId toId amount = .waiting s' →
      Handles s (.move t fromId toId amount) s'
  | commit {t : TxId} : Handles s (.commit t) (s.commit t)
  | rollback {t : TxId} : Handles s (.rollback t) (s.discard t)

variable {s s' : Store}

theorem handles {r : Request} (handled : s.handle r = some s') : Handles s r s' := by
  cases r with
  | createAccount owner balance currency =>
    cases created : s.createAccount owner balance currency with
    | ok result =>
      simp only [handle, created, Option.some.injEq] at handled
      subst handled
      exact .created created
    | error e =>
      simp only [handle, created, Option.some.injEq] at handled
      subst handled
      exact .createRefused created
  | begin =>
    cases handled
    exact .begin
  | lock t id =>
    cases granted : s.lockRow t id with
    | granted s₁ row =>
      simp only [handle, granted, Option.some.injEq] at handled
      subst handled
      exact .granted granted
    | absent | waiting =>
      simp only [handle, granted, Option.some.injEq] at handled
      subst handled
      exact .notGranted (by simp [granted])
  | read t id =>
    cases handled
    exact .read
  | recordTransfer t fromId toId amount =>
    cases made : s.recordTransfer t fromId toId amount with
    | ok result =>
      simp only [handle, made, Option.some.injEq] at handled
      subst handled
      exact .transfer made
    | error e =>
      simp only [handle, made, Option.some.injEq] at handled
      subst handled
      exact .transferRefused made
  | recordEntry t accountId amount =>
    cases made : s.recordEntry t accountId amount with
    | ok result =>
      simp only [handle, made, Option.some.injEq] at handled
      subst handled
      exact .entry made
    | error e =>
      simp only [handle, made, Option.some.injEq] at handled
      subst handled
      exact .entryRefused made
  | move t fromId toId amount =>
    cases moved : s.moveBalances t fromId toId amount with
    | done s₁ result =>
      simp only [handle, moved, Option.some.injEq] at handled
      subst handled
      exact .move (.inl ⟨result, moved⟩)
    | waiting s₁ =>
      simp only [handle, moved, Option.some.injEq] at handled
      subst handled
      exact .move (.inr moved)
    | panicked message => simp [handle, moved] at handled
  | commit t =>
    cases handled
    exact .commit
  | rollback t =>
    cases handled
    exact .rollback

/-! ## Locks and balance updates keep records -/

def SameRecords (before after : Store) : Prop :=
  after.openTxs.map OpenTx.records = before.openTxs.map OpenTx.records

namespace SameRecords

variable {s₁ s₂ s₃ : Store}

theorem refl (s : Store) : SameRecords s s := rfl

theorem trans (first : SameRecords s₁ s₂) (second : SameRecords s₂ s₃) : SameRecords s₁ s₃ :=
  Eq.trans second first

theorem modifyTx {t : TxId} {f : OpenTx → OpenTx} (s : Store)
    (keeps : ∀ tx, (f tx).records = tx.records) : SameRecords s (s.modifyTx t f) := by
  simp only [SameRecords, modifyTx_openTxs, List.map_map]
  apply List.map_congr_left
  intro tx _
  by_cases same : tx.id = t <;> simp [same, keeps]

theorem tx? (same : SameRecords s₁ s₂) (u : TxId) :
    (s₂.tx? u).map OpenTx.records = (s₁.tx? u).map OpenTx.records := by
  have lookup : ∀ s : Store, (s.openTxs.map OpenTx.records).find? (·.1 == u) =
      (s.tx? u).map OpenTx.records := fun s => by
    rw [List.find?_map]
    rfl
  rw [← lookup, ← lookup, same]

theorem mem (same : SameRecords s₁ s₂) {tx' : OpenTx} (member : tx' ∈ s₂.openTxs) :
    ∃ tx ∈ s₁.openTxs, tx.records = tx'.records := by
  have listed : tx'.records ∈ s₁.openTxs.map OpenTx.records := by
    rw [← same]
    exact List.mem_map_of_mem member
  simpa using listed

end SameRecords

theorem lockRow_sameRecords {t : TxId} {id : AccountId} {row : Account}
    (granted : s.lockRow t id = .granted s' row) : SameRecords s s' := by
  rcases lockRow_granted granted with ⟨_, rfl⟩ | ⟨_, _, _, rfl⟩
  · exact SameRecords.refl _
  · exact SameRecords.modifyTx _ fun _ => rfl

theorem moveBalances_sameRecords {t : TxId} {fromId toId : AccountId} {amount : Decimal}
    (result : (∃ r, s.moveBalances t fromId toId amount = .done s' r) ∨
      s.moveBalances t fromId toId amount = .waiting s') : SameRecords s s' :=
  moveAlong_induction (SameRecords s)
    (fun same granted => same.trans (lockRow_sameRecords granted))
    (fun _ same => same.trans (SameRecords.modifyTx _ fun _ => rfl)) (SameRecords.refl s) result

/-! ## Records pass the checks -/

theorem hasAccount_commit (s : Store) (t : TxId) (id : AccountId) :
    (s.commit t).hasAccount id = s.hasAccount id := by
  unfold Store.commit
  split
  · rfl
  · simp [hasAccount, List.any_map, Function.comp_def, Sound.publish_id]

theorem hasAccount_of_created {owner : String} {balance : Decimal} {currency : Currency}
    {account : Account} (created : s.createAccount owner balance currency = .ok (s', account))
    {id : AccountId} (existed : s.hasAccount id = true) : s'.hasAccount id = true := by
  obtain ⟨-, -, rfl⟩ := createAccount_ok created
  simp only [hasAccount] at existed ⊢
  simp [existed]

/-- Every transfer the store holds moves a positive amount, and a pending one names two accounts
that exist. -/
structure Checked (s : Store) : Prop where
  committed : ∀ record ∈ s.transfers, record.amount.le Decimal.zero = false
  pending : ∀ tx ∈ s.openTxs, ∀ record ∈ tx.transfers, record.amount.le Decimal.zero = false ∧
    s.hasAccount record.fromAccountId = true ∧ s.hasAccount record.toAccountId = true

namespace Checked

theorem empty : Checked {} := ⟨by simp, by simp⟩

theorem keepRecords {t : TxId} (checked : Checked s) (touches : Touches t s s')
    (same : SameRecords s s') : Checked s' := by
  have ledger := touches.ledger
  simp only [Store.ledger, Ledger.mk.injEq] at ledger
  obtain ⟨accounts, -, transfers⟩ := ledger
  refine ⟨fun record member => checked.committed record (transfers ▸ member), ?_⟩
  intro tx' member' record recorded
  obtain ⟨tx, member, records⟩ := same.mem member'
  have mine : record ∈ tx.transfers := by
    simp only [OpenTx.records, Prod.mk.injEq] at records
    exact records.2.1 ▸ recorded
  simpa [hasAccount, accounts] using checked.pending tx member record mine

theorem step (checked : Checked s) {r : Request} (stepped : Step s r s') : Checked s' := by
  obtain ⟨opened, handled⟩ := stepped
  cases handles handled with
  | created created =>
    have unchanged : s'.transfers = s.transfers ∧ s'.openTxs = s.openTxs := by
      obtain ⟨-, -, rfl⟩ := createAccount_ok created
      exact ⟨rfl, rfl⟩
    refine ⟨unchanged.1 ▸ checked.committed, fun tx member record recorded => ?_⟩
    obtain ⟨positive, hasFrom, hasTo⟩ := checked.pending tx (unchanged.2 ▸ member) record recorded
    exact ⟨positive, hasAccount_of_created created hasFrom, hasAccount_of_created created hasTo⟩
  | createRefused | notGranted | read | transferRefused | entryRefused => exact checked
  | begin =>
    refine ⟨checked.committed, fun tx member record recorded => ?_⟩
    rw [mem_begin_openTxs] at member
    rcases member with member | rfl
    · exact checked.pending tx member record recorded
    · simp at recorded
  | granted granted =>
    exact checked.keepRecords (lockRow_touches granted) (lockRow_sameRecords granted)
  | move result =>
    exact checked.keepRecords (moveBalances_touches result) (moveBalances_sameRecords result)
  | transfer made =>
    obtain ⟨hasFrom, hasTo, positive, rfl, rfl⟩ := recordTransfer_ok made
    refine ⟨checked.committed, fun tx' member' record recorded => ?_⟩
    obtain ⟨tx, member, rfl⟩ := mem_modifyTx.mp member'
    split at recorded
    · rcases List.mem_append.mp recorded with old | new
      · exact checked.pending tx member record old
      · obtain rfl := List.mem_singleton.mp new
        exact ⟨positive, hasFrom, hasTo⟩
    · exact checked.pending tx member record recorded
  | entry made =>
    obtain ⟨-, rfl, rfl⟩ := recordEntry_ok made
    refine ⟨checked.committed, fun tx' member' record recorded => ?_⟩
    obtain ⟨tx, member, rfl⟩ := mem_modifyTx.mp member'
    split at recorded
    · exact checked.pending tx member record recorded
    · exact checked.pending tx member record recorded
  | @commit t =>
    cases found : s.tx? t with
    | none => simpa [Store.commit, found] using checked
    | some tx₀ =>
      have member₀ := (tx?_eq_some found).1
      rw [commit_of_tx? found]
      refine ⟨fun record member => ?_, fun tx member record recorded => ?_⟩
      · rcases List.mem_append.mp member with old | new
        · exact checked.committed record old
        · exact (checked.pending tx₀ member₀ record new).1
      · have still := hasAccount_commit s t
        rw [commit_of_tx? found] at still
        obtain ⟨positive, hasFrom, hasTo⟩ :=
          checked.pending tx (List.mem_of_mem_filter member) record recorded
        exact ⟨positive, (still _).trans hasFrom, (still _).trans hasTo⟩
  | rollback =>
    refine ⟨checked.committed, fun tx member record recorded => ?_⟩
    exact checked.pending tx (List.mem_of_mem_filter member) record recorded

end Checked

theorem Reachable.checked {s : Store} (reached : Reachable s) : Checked s := by
  induction reached with
  | empty => exact Checked.empty
  | step r _ stepped checked => exact checked.step stepped

end Store

end TransferLedger
