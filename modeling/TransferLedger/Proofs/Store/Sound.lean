import Mathlib.Data.List.Nodup
import TransferLedger.Proofs.Store.Effects

/-! Client calls on the store and the states they reach. Every reachable store is sound: ids are
distinct and fresh, and each row lock is held once, by one transaction, with its committed row. -/

namespace TransferLedger

/-- A call a client makes: a method of the store, or a method of one of its open
transactions. Store-level reads are left out, as they change nothing. -/
inductive Request where
  | createAccount (owner : String) (balance : Decimal) (currency : Currency)
  | begin
  | lock (t : TxId) (id : AccountId)
  | read (t : TxId) (id : AccountId)
  | recordTransfer (t : TxId) (fromId toId : AccountId) (amount : Decimal)
  | recordEntry (t : TxId) (accountId : AccountId) (amount : Decimal)
  | move (t : TxId) (fromId toId : AccountId) (amount : Decimal)
  | commit (t : TxId)
  | rollback (t : TxId)

namespace Request

def tx? : Request → Option TxId
  | .createAccount .. | .begin => none
  | .lock t _ | .read t _ | .recordTransfer t .. | .recordEntry t .. | .move t .. | .commit t
  | .rollback t => some t

end Request

namespace Store

/-- What a call does to the store; `none` when it stops the program. A refused call changes
nothing, and so does a lock that has to wait. -/
def handle (s : Store) : Request → Option Store
  | .createAccount owner balance currency =>
    match s.createAccount owner balance currency with
    | .ok (s', _) => some s'
    | .error _ => some s
  | .begin => some s.begin.1
  | .lock t id =>
    match s.lockRow t id with
    | .granted s' _ => some s'
    | _ => some s
  | .read _ _ => some s
  | .recordTransfer t fromId toId amount =>
    match s.recordTransfer t fromId toId amount with
    | .ok (s', _) => some s'
    | .error _ => some s
  | .recordEntry t accountId amount =>
    match s.recordEntry t accountId amount with
    | .ok (s', _) => some s'
    | .error _ => some s
  | .move t fromId toId amount =>
    match s.moveBalances t fromId toId amount with
    | .done s' _ => some s'
    | .waiting s' => some s'
    | .panicked _ => none
  | .commit t => some (s.commit t)
  | .rollback t => some (s.discard t)

def Step (s : Store) (r : Request) (s' : Store) : Prop :=
  (∀ t, r.tx? = some t → s.isOpen t = true) ∧ s.handle r = some s'

/-- The stores that calls reach from the empty store, in any order. -/
inductive Reachable : Store → Prop where
  | empty : Reachable {}
  | step {s s' : Store} (r : Request) : Reachable s → Step s r s' → Reachable s'

/-- What every reachable store satisfies. -/
structure Sound (s : Store) : Prop where
  accountIds : (s.accounts.map (·.id)).Nodup
  accountsBelow : ∀ row ∈ s.accounts, row.id < s.nextAccount
  txIds : (s.openTxs.map (·.id)).Nodup
  txsBelow : ∀ tx ∈ s.openTxs, tx.id < s.nextTx
  heldOnce : ∀ tx ∈ s.openTxs, tx.heldIds.Nodup
  exclusive : ∀ tx ∈ s.openTxs, ∀ tx' ∈ s.openTxs, tx.id ≠ tx'.id →
    ∀ id ∈ tx.heldIds, id ∉ tx'.heldIds
  heldCommitted : ∀ tx ∈ s.openTxs, ∀ row ∈ tx.held,
    ∃ c ∈ s.accounts, { c with balance := row.balance } = row

theorem sound_empty : Sound {} where
  accountIds := List.nodup_nil
  accountsBelow := by simp
  txIds := List.nodup_nil
  txsBelow := by simp
  heldOnce := by simp
  exclusive := by simp
  heldCommitted := by simp

/-! ## Looking up open transactions -/

theorem find?_key_of_mem {α κ : Type} [BEq κ] [LawfulBEq κ] {key : α → κ} {rows : List α}
    (distinct : (rows.map key).Nodup) {row : α} (member : row ∈ rows) :
    rows.find? (fun x => key x == key row) = some row := by
  cases found : rows.find? (fun x => key x == key row) with
  | none => exact absurd (List.find?_eq_none.mp found row member) (by simp)
  | some other =>
    have same : key other = key row := by simpa using List.find?_some found
    rw [List.inj_on_of_nodup_map distinct (List.mem_of_find?_eq_some found) member same]

theorem mem_modifyTx {s : Store} {t : TxId} {f : OpenTx → OpenTx} {tx' : OpenTx} :
    tx' ∈ (s.modifyTx t f).openTxs ↔ ∃ tx ∈ s.openTxs, (if tx.id = t then f tx else tx) = tx' := by
  simp [modifyTx_openTxs]

theorem tx?_of_mem {s : Store} (sound : Sound s) {tx : OpenTx} (member : tx ∈ s.openTxs) :
    s.tx? tx.id = some tx :=
  find?_key_of_mem sound.txIds member

theorem isOpen_iff {s : Store} {t : TxId} : s.isOpen t = true ↔ ∃ tx ∈ s.openTxs, tx.id = t := by
  simp [isOpen]

theorem tx?_of_isOpen {s : Store} (sound : Sound s) {t : TxId} (opened : s.isOpen t = true) :
    ∃ tx ∈ s.openTxs, tx.id = t ∧ s.tx? t = some tx := by
  obtain ⟨tx, member, rfl⟩ := isOpen_iff.mp opened
  exact ⟨tx, member, rfl, tx?_of_mem sound member⟩

theorem heldRow?_of_tx? {s : Store} {t : TxId} {tx : OpenTx} (found : s.tx? t = some tx)
    (id : AccountId) : s.heldRow? t id = tx.held.find? (·.id == id) := by
  simp [heldRow?, found]

theorem otherHolder?_eq_none {s : Store} {t : TxId} {id : AccountId} :
    s.otherHolder? t id = none ↔ ∀ tx ∈ s.openTxs, tx.id ≠ t → id ∉ tx.heldIds := by
  simp [otherHolder?, OpenTx.heldIds, List.find?_eq_none]

theorem id_notMem_heldIds {s : Store} (sound : Sound s) {tx : OpenTx} (member : tx ∈ s.openTxs)
    {id : AccountId} (none : s.heldRow? tx.id id = none) : id ∉ tx.heldIds := by
  rw [heldRow?_of_tx? (tx?_of_mem sound member)] at none
  simpa [OpenTx.heldIds, List.find?_eq_none] using none

theorem mem_modifyTx_of_mem {s : Store} (sound : Sound s) {tx₀ : OpenTx}
    (member₀ : tx₀ ∈ s.openTxs) {f : OpenTx → OpenTx} {tx' : OpenTx} :
    tx' ∈ (s.modifyTx tx₀.id f).openTxs ↔ tx' = f tx₀ ∨ (tx' ∈ s.openTxs ∧ tx'.id ≠ tx₀.id) := by
  rw [mem_modifyTx]
  constructor
  · rintro ⟨tx, member, rfl⟩
    by_cases same : tx.id = tx₀.id
    · rw [List.inj_on_of_nodup_map sound.txIds member member₀ same]
      exact .inl (if_pos rfl)
    · exact .inr ⟨by simpa [same] using member, by simp [same]⟩
  · rintro (rfl | ⟨member, other⟩)
    · exact ⟨tx₀, member₀, if_pos rfl⟩
    · exact ⟨tx', member, if_neg other⟩

/-! ## Each call keeps the store sound -/

namespace Sound

variable {s : Store}

theorem createAccount (sound : Sound s) {owner : String} {balance : Decimal}
    {currency : Currency} {s' : Store} {account : Account}
    (created : s.createAccount owner balance currency = .ok (s', account)) : Sound s' := by
  obtain ⟨-, rfl, rfl⟩ := createAccount_ok created
  refine { sound with
    accountIds := ?_
    accountsBelow := ?_
    heldCommitted := ?_ }
  · rw [List.map_append, List.map_singleton, ← List.concat_eq_append]
    refine sound.accountIds.concat fun old => ?_
    obtain ⟨row, member, same⟩ := List.mem_map.mp old
    exact Int.ne_of_lt (sound.accountsBelow row member) same
  · intro row member
    have below : ∀ row ∈ s.accounts, row.id < s.nextAccount := sound.accountsBelow
    show row.id < ((s.nextAccount + 1 : Nat) : Int)
    unfold AccountId at *
    rcases List.mem_append.mp member with old | fresh
    · have := below row old
      omega
    · rw [List.mem_singleton.mp fresh]
      show (s.nextAccount : Int) < ((s.nextAccount + 1 : Nat) : Int)
      omega
  · intro tx member row held
    obtain ⟨c, committed, same⟩ := sound.heldCommitted tx member row held
    exact ⟨c, List.mem_append_left _ committed, same⟩

theorem begin (sound : Sound s) : Sound s.begin.1 := by
  refine { sound with
    txIds := ?_
    txsBelow := ?_
    heldOnce := ?_
    exclusive := ?_
    heldCommitted := ?_ }
  all_goals simp only [Store.begin, List.mem_append, List.mem_singleton]
  · rw [List.map_append, List.map_singleton, ← List.concat_eq_append]
    refine sound.txIds.concat fun old => ?_
    obtain ⟨tx, member, same⟩ := List.mem_map.mp old
    exact Nat.ne_of_lt (sound.txsBelow tx member) same
  · rintro tx (old | rfl)
    · exact Nat.lt_succ_of_lt (sound.txsBelow tx old)
    · exact Nat.lt_succ_self _
  · rintro tx (old | rfl)
    · exact sound.heldOnce tx old
    · simp [OpenTx.heldIds]
  · rintro tx (old | rfl) tx' (old' | rfl) distinct id held
    · exact sound.exclusive tx old tx' old' distinct id held
    all_goals simp [OpenTx.heldIds] at held ⊢
  · rintro tx (old | rfl) row held
    · exact sound.heldCommitted tx old row held
    · simp at held

theorem modifyTx (sound : Sound s) {tx₀ : OpenTx} (member₀ : tx₀ ∈ s.openTxs)
    {f : OpenTx → OpenTx} (keepsId : ∀ tx, (f tx).id = tx.id)
    (heldOnce : (f tx₀).heldIds.Nodup)
    (exclusive : ∀ tx ∈ s.openTxs, tx.id ≠ tx₀.id → ∀ id ∈ (f tx₀).heldIds, id ∉ tx.heldIds)
    (committed : ∀ row ∈ (f tx₀).held, ∃ c ∈ s.accounts, { c with balance := row.balance } = row) :
    Sound (s.modifyTx tx₀.id f) := by
  have cases := fun tx' => @mem_modifyTx_of_mem s sound tx₀ member₀ f tx'
  refine ⟨sound.accountIds, sound.accountsBelow, ?_, ?_, ?_, ?_, ?_⟩
  · rw [modifyTx_ids keepsId]
    exact sound.txIds
  · intro tx' member'
    rcases (cases tx').mp member' with rfl | ⟨old, -⟩
    · rw [keepsId]
      exact sound.txsBelow tx₀ member₀
    · exact sound.txsBelow tx' old
  · intro tx' member'
    rcases (cases tx').mp member' with rfl | ⟨old, -⟩
    · exact heldOnce
    · exact sound.heldOnce tx' old
  · intro u memberU v memberV distinct id held
    rcases (cases u).mp memberU with rfl | ⟨oldU, otherU⟩ <;>
      rcases (cases v).mp memberV with rfl | ⟨oldV, otherV⟩
    · exact absurd rfl distinct
    · exact exclusive v oldV otherV id held
    · exact fun new => exclusive u oldU otherU id new held
    · exact sound.exclusive u oldU v oldV distinct id held
  · intro tx' member' row held
    rcases (cases tx').mp member' with rfl | ⟨old, -⟩
    · exact committed row held
    · exact sound.heldCommitted tx' old row held

theorem rebalance (sound : Sound s) {tx₀ : OpenTx} (member₀ : tx₀ ∈ s.openTxs)
    {f : OpenTx → OpenTx} (keepsId : ∀ tx, (f tx).id = tx.id)
    (keepsRows : (f tx₀).heldIds = tx₀.heldIds)
    (rebalances : ∀ row' ∈ (f tx₀).held, ∃ row ∈ tx₀.held,
      { row with balance := row'.balance } = row') : Sound (s.modifyTx tx₀.id f) := by
  refine sound.modifyTx member₀ keepsId ?_ ?_ ?_
  · rw [keepsRows]
    exact sound.heldOnce tx₀ member₀
  · intro tx member other id held
    rw [keepsRows] at held
    exact sound.exclusive tx₀ member₀ tx member (Ne.symm other) id held
  · intro row' held'
    obtain ⟨row, held, rebalanced⟩ := rebalances row' held'
    obtain ⟨c, member, copy⟩ := sound.heldCommitted tx₀ member₀ row held
    refine ⟨c, member, ?_⟩
    rw [← rebalanced, ← copy]

theorem keepHeld (sound : Sound s) {tx₀ : OpenTx} (member₀ : tx₀ ∈ s.openTxs)
    {f : OpenTx → OpenTx} (keepsId : ∀ tx, (f tx).id = tx.id)
        (keepsHeld : (f tx₀).held = tx₀.held) :
    Sound (s.modifyTx tx₀.id f) :=
  sound.rebalance member₀ keepsId (by rw [OpenTx.heldIds, keepsHeld]; rfl)
    fun row held => ⟨row, keepsHeld ▸ held, rfl⟩

theorem counters (sound : Sound s) (entry transfer : Nat) :
    Sound { s with nextEntry := entry, nextTransfer := transfer } :=
  { sound with }

theorem lockRow (sound : Sound s) {t : TxId} (opened : s.isOpen t = true) {id : AccountId}
    {s' : Store} {row : Account} (granted : s.lockRow t id = .granted s' row) : Sound s' := by
  rcases lockRow_granted granted with ⟨_, rfl⟩ | ⟨notHeld, found, noHolder, rfl⟩
  · exact sound
  obtain ⟨tx₀, member₀, rfl, -⟩ := tx?_of_isOpen sound opened
  obtain ⟨committed, sameId⟩ := account?_eq_some found
  have grown : ({ tx₀ with held := tx₀.held ++ [row] } : OpenTx).heldIds = tx₀.heldIds ++ [id] := by
    simp [OpenTx.heldIds, sameId]
  refine sound.modifyTx member₀ (fun _ => rfl) ?_ ?_ ?_
  · rw [grown, ← List.concat_eq_append]
    exact (sound.heldOnce tx₀ member₀).concat (id_notMem_heldIds sound member₀ notHeld)
  · intro tx member other a fresh mine
    rw [grown, List.mem_append, List.mem_singleton] at fresh
    rcases fresh with old | rfl
    · exact sound.exclusive tx₀ member₀ tx member (Ne.symm other) a old mine
    · exact otherHolder?_eq_none.mp noHolder tx member other mine
  · intro held' member'
    rcases List.mem_append.mp member' with old | fresh
    · exact sound.heldCommitted tx₀ member₀ held' old
    · rw [List.mem_singleton.mp fresh]
      exact ⟨row, committed, rfl⟩

theorem recordTransfer (sound : Sound s) {t : TxId} (opened : s.isOpen t = true)
    {fromId toId : AccountId} {amount : Decimal} {s' : Store} {record : TransferRecord}
    (made : s.recordTransfer t fromId toId amount = .ok (s', record)) : Sound s' := by
  obtain ⟨-, -, -, -, rfl⟩ := recordTransfer_ok made
  obtain ⟨tx₀, member₀, rfl, -⟩ := tx?_of_isOpen sound opened
  refine (sound.counters s.nextEntry (s.nextTransfer + 1)).keepHeld member₀ (fun _ => ?_) ?_ <;>
    rfl

theorem recordEntry (sound : Sound s) {t : TxId} (opened : s.isOpen t = true)
    {accountId : AccountId} {amount : Decimal} {s' : Store} {entry : Entry}
    (made : s.recordEntry t accountId amount = .ok (s', entry)) : Sound s' := by
  obtain ⟨-, -, rfl⟩ := recordEntry_ok made
  obtain ⟨tx₀, member₀, rfl, -⟩ := tx?_of_isOpen sound opened
  refine (sound.counters (s.nextEntry + 1) s.nextTransfer).keepHeld member₀ (fun _ => ?_) ?_ <;>
    rfl

theorem stageBalances (sound : Sound s) {t : TxId} (opened : s.isOpen t = true)
    (updates : List (AccountId × Decimal)) : Sound (s.stageBalances t updates) := by
  obtain ⟨tx₀, member₀, rfl, -⟩ := tx?_of_isOpen sound opened
  refine sound.rebalance member₀ (fun _ => rfl) ?_ ?_
  · simp only [OpenTx.heldIds, List.map_map]
    apply List.map_congr_left
    intro row _
    simp only [Function.comp_apply]
    split <;> rfl
  · intro row' held'
    obtain ⟨row, held, rfl⟩ := List.mem_map.mp held'
    refine ⟨row, held, ?_⟩
    split <;> rfl

theorem moveBalances (sound : Sound s) {t : TxId} (opened : s.isOpen t = true)
    {fromId toId : AccountId} {amount : Decimal} {s' : Store}
    (result : (∃ r, s.moveBalances t fromId toId amount = .done s' r) ∨
      s.moveBalances t fromId toId amount = .waiting s') : Sound s' :=
  -- the transaction stays open along the way, as every step touches only its own state
  (moveAlong_induction (fun s => Sound s ∧ s.isOpen t = true)
    (fun ⟨sound, opened⟩ granted =>
      ⟨sound.lockRow opened granted, ((lockRow_touches granted).isOpen t).trans opened⟩)
    (fun updates ⟨sound, opened⟩ =>
      ⟨sound.stageBalances opened updates,
          ((stageBalances_touches _ t updates).isOpen t).trans opened⟩)
    ⟨sound, opened⟩ result).1

theorem close (sound : Sound s) (t : TxId) {accounts : List Account} {entries : List Entry}
    {transfers : List TransferRecord} (ids : accounts.map (·.id) = s.accounts.map (·.id))
    (committed : ∀ tx ∈ s.openTxs, tx.id ≠ t → ∀ row ∈ tx.held,
      ∃ c ∈ accounts, { c with balance := row.balance } = row) :
    Sound { s with accounts, entries, transfers, openTxs := s.openTxs.filter (·.id != t) } where
  accountIds := ids ▸ sound.accountIds
  accountsBelow := by
    intro row member
    have : row.id ∈ s.accounts.map (·.id) := ids ▸ List.mem_map_of_mem member
    obtain ⟨old, member', same⟩ := List.mem_map.mp this
    exact same ▸ sound.accountsBelow old member'
  txIds := (List.filter_sublist.map _).nodup sound.txIds
  txsBelow tx member := sound.txsBelow tx (List.mem_of_mem_filter member)
  heldOnce tx member := sound.heldOnce tx (List.mem_of_mem_filter member)
  exclusive tx member tx' member' :=
    sound.exclusive tx (List.mem_of_mem_filter member) tx' (List.mem_of_mem_filter member')
  heldCommitted := by
    intro tx member row held
    obtain ⟨old, other⟩ := List.mem_filter.mp member
    exact committed tx old (by simpa using other) row held

theorem discard (sound : Sound s) (t : TxId) : Sound (s.discard t) :=
  sound.close t rfl fun tx member _ => sound.heldCommitted tx member

theorem publish_id (held : List Account) (row : Account) :
    ((held.find? (·.id == row.id)).getD row).id = row.id := by
  cases found : held.find? (·.id == row.id) with
  | none => rfl
  | some staged => simpa using List.find?_some found

theorem find?_held_eq_none (sound : Sound s) {tx₀ tx : OpenTx} (member₀ : tx₀ ∈ s.openTxs)
    (member : tx ∈ s.openTxs) (other : tx.id ≠ tx₀.id) {row : Account} (held : row ∈ tx.held) :
    tx₀.held.find? (·.id == row.id) = none := by
  refine List.find?_eq_none.mpr fun staged held₀ same => ?_
  have theirs : row.id ∈ tx₀.heldIds := by
    rw [← beq_iff_eq.mp same]
    exact List.mem_map_of_mem held₀
  exact sound.exclusive tx₀ member₀ tx member (Ne.symm other) row.id theirs
    (List.mem_map_of_mem held)

theorem commit (sound : Sound s) (t : TxId) : Sound (s.commit t) := by
  cases found : s.tx? t with
  | none => simpa [Store.commit, found] using sound
  | some tx₀ =>
    obtain ⟨member₀, rfl⟩ := tx?_eq_some found
    simp only [Store.commit, found]
    refine sound.close tx₀.id ?_ ?_
    · simp only [List.map_map]
      exact List.map_congr_left fun row _ => publish_id tx₀.held row
    · intro tx member other row held
      obtain ⟨c, committed, copy⟩ := sound.heldCommitted tx member row held
      refine ⟨_, List.mem_map_of_mem committed, ?_⟩
      have notHeld := sound.find?_held_eq_none member₀ member other held
      rw [← congrArg Account.id copy] at notHeld
      rw [notHeld]
      exact copy

/-- Every call keeps the store sound. -/
theorem step (sound : Sound s) {r : Request} {s' : Store} (stepped : Step s r s') : Sound s' := by
  obtain ⟨opened, handled⟩ := stepped
  cases r with
  | createAccount owner balance currency =>
    simp only [handle] at handled
    split at handled <;> cases handled
    · exact sound.createAccount ‹_›
    · exact sound
  | begin =>
    cases handled
    exact sound.begin
  | lock t id =>
    simp only [handle] at handled
    split at handled <;> cases handled
    · exact sound.lockRow (opened t rfl) ‹_›
    all_goals exact sound
  | read t id =>
    cases handled
    exact sound
  | recordTransfer t fromId toId amount =>
    simp only [handle] at handled
    split at handled <;> cases handled
    · exact sound.recordTransfer (opened t rfl) ‹_›
    · exact sound
  | recordEntry t accountId amount =>
    simp only [handle] at handled
    split at handled <;> cases handled
    · exact sound.recordEntry (opened t rfl) ‹_›
    · exact sound
  | move t fromId toId amount =>
    simp only [handle] at handled
    split at handled <;> cases handled
    · exact sound.moveBalances (opened t rfl) (.inl ⟨_, ‹_›⟩)
    · exact sound.moveBalances (opened t rfl) (.inr ‹_›)
  | commit t =>
    cases handled
    exact sound.commit t
  | rollback t =>
    cases handled
    exact sound.discard t

end Sound

theorem Reachable.sound {s : Store} (reached : Reachable s) : Sound s := by
  induction reached with
  | empty => exact sound_empty
  | step r _ stepped sound => exact sound.step stepped

end Store

end TransferLedger
