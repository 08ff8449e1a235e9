import TransferLedger.Proofs.Store.Records
import TransferLedger.Proofs.Decimal.Sums

/-! Balances never go below zero: in every reachable store no committed balance and no held balance
is negative, and no read returns one. -/

namespace TransferLedger

namespace Store

/-- No balance below zero: neither a committed one nor one that an open transaction holds. -/
structure Solvent (s : Store) : Prop where
  committed : ∀ c ∈ s.accounts, c.balance.lt Decimal.zero = false
  staged : ∀ tx ∈ s.openTxs, ∀ row ∈ tx.held, row.balance.lt Decimal.zero = false

namespace Solvent

variable {s s' : Store} {t : TxId}

theorem empty : Solvent {} := ⟨by simp, by simp⟩

theorem modifyTx (solvent : Solvent s) {f : OpenTx → OpenTx}
    (held : ∀ tx ∈ s.openTxs, tx.id = t → ∀ row ∈ (f tx).held,
      row.balance.lt Decimal.zero = false) :
    Solvent (s.modifyTx t f) := by
  refine ⟨solvent.committed, fun tx' member' row mine => ?_⟩
  obtain ⟨tx, member, rfl⟩ := mem_modifyTx.mp member'
  split at mine
  · exact held tx member ‹_› row mine
  · exact solvent.staged tx member row mine

theorem createAccount (solvent : Solvent s) {owner : String} {balance : Decimal}
    {currency : Currency} {account : Account}
    (created : s.createAccount owner balance currency = .ok (s', account)) : Solvent s' := by
  obtain ⟨unsigned, rfl, rfl⟩ := createAccount_ok created
  refine ⟨fun c member => ?_, solvent.staged⟩
  rcases List.mem_append.mp member with old | new
  · exact solvent.committed c old
  · rw [List.mem_singleton.mp new]
    exact unsigned

theorem begin (solvent : Solvent s) : Solvent s.begin.1 := by
  refine ⟨solvent.committed, fun tx member row held => ?_⟩
  rw [mem_begin_openTxs] at member
  rcases member with old | rfl
  · exact solvent.staged tx old row held
  · simp at held

theorem lockRow (solvent : Solvent s) {id : AccountId} {row : Account}
    (granted : s.lockRow t id = .granted s' row) : Solvent s' := by
  rcases lockRow_granted granted with ⟨_, rfl⟩ | ⟨-, found, -, rfl⟩
  · exact solvent
  refine solvent.modifyTx fun tx member _ held mine => ?_
  rcases List.mem_append.mp mine with old | new
  · exact solvent.staged tx member held old
  · rw [List.mem_singleton.mp new]
    exact solvent.committed row (account?_eq_some found).1

theorem locks (solvent : Solvent s) (locks : Locks t s s') : Solvent s' := by
  induction locks with
  | refl => exact solvent
  | grant granted _ rest => exact rest (solvent.lockRow granted)

theorem stageBalances (solvent : Solvent s) {updates : List (AccountId × Decimal)}
    (checked : ∀ p ∈ updates, p.2.lt Decimal.zero = false) :
    Solvent (s.stageBalances t updates) := by
  rw [stageBalances_eq]
  refine solvent.modifyTx fun tx member _ row staged => ?_
  obtain ⟨old, held, rfl⟩ := List.mem_map.mp staged
  unfold restage
  split
  · rename_i id balance update
    exact checked (id, balance) (List.mem_of_find?_eq_some update)
  · exact solvent.staged tx member old held

theorem moveBalances (sound : Sound s) (solvent : Solvent s) (opened : s.isOpen t = true)
    {fromId toId : AccountId} {amount : Decimal}
    (result : (∃ r, s.moveBalances t fromId toId amount = .done s' r) ∨
      s.moveBalances t fromId toId amount = .waiting s') : Solvent s' := by
  have spec : MoveOutcome t fromId toId amount s (updateOrder fromId toId) []
      (s.moveBalances t fromId toId amount) := moveBalances_spec sound opened
  rcases result with ⟨r, moved⟩ | waits
  · rw [moved] at spec
    cases r with
    | ok n =>
      obtain ⟨s₁, news, locks, -, computed, rfl, -⟩ := spec
      refine (solvent.locks locks).stageBalances fun p member => ?_
      obtain ⟨-, -, -, -, -, checked⟩ := computed p (by simpa using member)
      exact checked
    | error e => exact solvent.locks spec
  · rw [waits] at spec
    exact solvent.locks spec

theorem commit (solvent : Solvent s) (t : TxId) : Solvent (s.commit t) := by
  cases found : s.tx? t with
  | none => simpa [Store.commit, found] using solvent
  | some tx₀ =>
    rw [commit_of_tx? found]
    refine ⟨fun c published => ?_,
      fun tx member => solvent.staged tx (List.mem_of_mem_filter member)⟩
    obtain ⟨row, committed, rfl⟩ := List.mem_map.mp published
    cases held : tx₀.held.find? (·.id == row.id) with
    | none => exact solvent.committed row committed
    | some staged =>
      exact solvent.staged tx₀ (tx?_eq_some found).1 staged (List.mem_of_find?_eq_some held)

theorem discard (solvent : Solvent s) (t : TxId) : Solvent (s.discard t) :=
  ⟨solvent.committed, fun tx member => solvent.staged tx (List.mem_of_mem_filter member)⟩

/-- Every call keeps a sound store solvent. -/
theorem step (sound : Sound s) (solvent : Solvent s) {r : Request} (stepped : Step s r s') :
    Solvent s' := by
  obtain ⟨opened, handled⟩ := stepped
  cases handles handled with
  | created created => exact solvent.createAccount created
  | createRefused | notGranted | read | transferRefused | entryRefused => exact solvent
  | begin => exact solvent.begin
  | granted granted => exact solvent.lockRow granted
  | transfer made =>
    obtain ⟨-, -, -, -, rfl⟩ := recordTransfer_ok made
    exact (⟨solvent.committed, solvent.staged⟩ :
      Solvent { s with nextTransfer := s.nextTransfer + 1 }).modifyTx
        fun tx member _ => solvent.staged tx member
  | entry made =>
    obtain ⟨-, -, rfl⟩ := recordEntry_ok made
    exact (⟨solvent.committed, solvent.staged⟩ :
      Solvent { s with nextEntry := s.nextEntry + 1 }).modifyTx
        fun tx member _ => solvent.staged tx member
  | @move t _ _ _ _ result => exact solvent.moveBalances sound (opened t rfl) result
  | commit => exact solvent.commit _
  | rollback => exact solvent.discard _

theorem account? (solvent : Solvent s) {id : AccountId} {row : Account}
    (found : s.account? id = some row) : row.balance.lt Decimal.zero = false :=
  solvent.committed row (account?_eq_some found).1

theorem viewRow (solvent : Solvent s) {id : AccountId} {row : Account}
    (seen : s.viewRow t id = some row) : row.balance.lt Decimal.zero = false := by
  unfold Store.viewRow at seen
  cases held : s.heldRow? t id with
  | none =>
    rw [held] at seen
    exact solvent.account? seen
  | some staged =>
    rw [held, Option.some.injEq] at seen
    subst seen
    obtain ⟨tx, found, mine⟩ := Option.bind_eq_some_iff.mp held
    exact solvent.staged tx (tx?_eq_some found).1 _ (List.mem_of_find?_eq_some mine)

theorem lockRow_row (solvent : Solvent s) {id : AccountId} {row : Account}
    (granted : s.lockRow t id = .granted s' row) : row.balance.lt Decimal.zero = false := by
  rcases lockRow_granted granted with ⟨held, -⟩ | ⟨-, found, -⟩
  · have seen : s.viewRow t id = some row := by simp [Store.viewRow, held]
    exact solvent.viewRow seen
  · exact solvent.account? found

end Solvent

theorem Reachable.solvent {s : Store} (reached : Reachable s) : Solvent s := by
  induction reached with
  | empty => exact Solvent.empty
  | step r reached stepped solvent => exact solvent.step reached.sound stepped

/-- In every store that calls reach, whoever made the calls, in any interleaving and with any
account ids and amounts, no balance is below zero: no committed balance, no balance an open
transaction holds, and none that a read returns, whether a plain read of the committed rows, a
read inside a transaction or a read for update. -/
theorem Reachable.balances_nonnegative {s : Store} (reached : Reachable s) :
    (∀ c ∈ s.accounts, c.balance.lt Decimal.zero = false) ∧
    (∀ tx ∈ s.openTxs, ∀ row ∈ tx.held, row.balance.lt Decimal.zero = false) ∧
    (∀ id row, s.account? id = some row → row.balance.lt Decimal.zero = false) ∧
    (∀ t id row, s.viewRow t id = some row → row.balance.lt Decimal.zero = false) ∧
    (∀ t id s' row, s.lockRow t id = .granted s' row → row.balance.lt Decimal.zero = false) := by
  have solvent := reached.solvent
  exact ⟨solvent.committed, solvent.staged, fun _ _ found => solvent.account? found,
    fun _ _ _ seen => solvent.viewRow seen, fun _ _ _ _ granted => solvent.lockRow_row granted⟩

theorem no_negative_balance_after_refused_move :
    ∃ h s, runFrom {} [.createAccount "a" ⟨100, 0, false, by decide⟩ .usd,
        .createAccount "b" ⟨0, 0, false, by decide⟩ .usd, .begin, .move 0 1 2
            ⟨60, 0, false, by decide⟩,
        .move 0 1 2 ⟨50, 0, false, by decide⟩, .begin, .read 1 1, .commit 0] = some (h, s) ∧
      Reachable s ∧
      ((∀ c ∈ s.accounts, c.balance.lt Decimal.zero = false) ∧
        (∀ tx ∈ s.openTxs, ∀ row ∈ tx.held, row.balance.lt Decimal.zero = false) ∧
        (∀ id row, s.account? id = some row → row.balance.lt Decimal.zero = false) ∧
        (∀ t id row, s.viewRow t id = some row → row.balance.lt Decimal.zero = false) ∧
        (∀ t id s' row, s.lockRow t id = .granted s' row →
          row.balance.lt Decimal.zero = false)) := by
  obtain ⟨h, s, ran⟩ : ∃ h s, runFrom {} [.createAccount "a" ⟨100, 0, false, by decide⟩ .usd,
      .createAccount "b" ⟨0, 0, false, by decide⟩ .usd, .begin, .move 0 1 2
          ⟨60, 0, false, by decide⟩,
      .move 0 1 2 ⟨50, 0, false, by decide⟩, .begin, .read 1 1, .commit 0] = some (h, s) :=
    ⟨_, _, by rfl⟩
  have reached : Reachable s := (Run.empty.runFrom ran).reachable
  exact ⟨h, s, ran, reached, Reachable.balances_nonnegative reached⟩

end Store

end TransferLedger
