import TransferLedger.Proofs.Transfer.Deadlock
import TransferLedger.Proofs.Transfer.Outcome
import TransferLedger.Proofs.Store.Isolation

/-! What a transaction can count on while others run. `Rely` says that others change neither its
state nor the rows it holds, `Sure` is the weakest precondition of a script under it, and `Holds`
describes a transfer's transaction part-way. -/

namespace TransferLedger

namespace Store

/-- What transaction `t` counts on from the calls of others, from store `s` to store `s'`: the
store stays sound, `t`'s state is as it was, the committed row of each account whose lock `t`
holds is as it was, and a missing account stays missing. -/
structure Rely (t : TxId) (s s' : Store) : Prop where
  sound : Sound s'
  own : s'.tx? t = s.tx? t
  held : ∀ id ∈ s.heldIds t, s'.account? id = s.account? id
  missing : ∀ id, s.account? id = none → s'.account? id = none

/-- A property of stores that the calls of others keep, as far as transaction `t` counts on. -/
def Stable (t : TxId) (P : Store → Prop) : Prop :=
  ∀ ⦃s s' : Store⦄, Rely t s s' → P s → P s'

variable {s s' s₁ s₂ : Store} {t u : TxId}

theorem heldIds_of_tx? (same : s'.tx? t = s.tx? t) : s'.heldIds t = s.heldIds t := by
  simp only [heldIds, same]

namespace Rely

theorem refl (sound : Sound s) : Rely t s s := ⟨sound, rfl, fun _ _ => rfl, fun _ none => none⟩

theorem trans (first : Rely t s s₁) (second : Rely t s₁ s₂) : Rely t s s₂ where
  sound := second.sound
  own := second.own.trans first.own
  held id mine := by
    rw [second.held id (by rw [heldIds_of_tx? first.own]; exact mine)]
    exact first.held id mine
  missing id none := second.missing id (first.missing id none)

end Rely

theorem account?_commit_of_tx? {v : TxId} {tx : OpenTx} (found : s.tx? v = some tx)
    (id : AccountId) : (s.commit v).account? id =
      (s.account? id).map fun row => (tx.held.find? (·.id == row.id)).getD row := by
  simp only [account?, commit_of_tx? found, find?_publish]

theorem account?_commit_of_unheld {v : TxId} {id : AccountId} (unheld : id ∉ s.heldIds v) :
    (s.commit v).account? id = s.account? id := by
  cases found : s.tx? v with
  | none => simp [commit, found]
  | some tx =>
    have notHeld : tx.held.find? (·.id == id) = none := by
      refine List.find?_eq_none.mpr fun row mine named => unheld ?_
      rw [mem_heldIds found]
      exact List.mem_map.mpr ⟨row, mine, by simpa using named⟩
    rw [account?_commit_of_tx? found]
    cases row : s.account? id with
    | none => rfl
    | some c =>
      have named : c.id = id := (account?_eq_some row).2
      simp [named, notHeld]

theorem account?_commit_of_missing {v : TxId} {id : AccountId} (missing : s.account? id = none) :
    (s.commit v).account? id = none := by
  have same : ((s.commit v).account? id).isSome = (s.account? id).isSome := by
    rw [account?_isSome, account?_isSome, hasAccount_commit]
  rw [← Option.not_isSome_iff_eq_none, same, Option.not_isSome_iff_eq_none]
  exact missing

theorem Handles.ledger_or_commit {r : Request} (handled : Handles s r s')
    (noCreate : ∀ owner balance currency, r ≠ .createAccount owner balance currency) :
    s'.ledger = s.ledger ∨ ∃ v, r = .commit v ∧ s' = s.commit v := by
  cases handled with
  | created _ | createRefused _ => exact absurd rfl (noCreate _ _ _)
  | begin | notGranted _ | read | transferRefused _ | entryRefused _ | rollback => exact .inl rfl
  | granted granted => exact .inl (lockRow_touches granted).ledger
  | transfer made => exact .inl (recordTransfer_touches made).ledger
  | entry made => exact .inl (recordEntry_touches made).ledger
  | move result => exact .inl (moveBalances_touches result).ledger
  | commit => exact .inr ⟨_, rfl, rfl⟩

theorem account?_of_accounts (same : s'.accounts = s.accounts) : s'.account? = s.account? := by
  funext id
  simp only [account?, same]

theorem account?_of_ledger (same : s'.ledger = s.ledger) : s'.account? = s.account? :=
  account?_of_accounts (congrArg Ledger.accounts same)

theorem Step.rely {r : Request} (sound : Sound s) (stepped : Step s r s')
    (opened : s.isOpen t = true) (other : r.tx? ≠ some t)
    (noCreate : ∀ owner balance currency, r ≠ .createAccount owner balance currency) :
    Rely t s s' := by
  obtain ⟨tx, -, -, found⟩ := tx?_of_isOpen sound opened
  have handled := handles stepped.2
  have own := (handled.tx?_of_other other found).trans found.symm
  rcases handled.ledger_or_commit noCreate with same | ⟨v, rfl, rfl⟩
  · have accounts := account?_of_ledger same
    exact ⟨sound.step stepped, own, fun id _ => by rw [accounts],
      fun id missing => by rw [accounts]; exact missing⟩
  · have apart : t ≠ v := fun same => other (by rw [same]; rfl)
    exact ⟨sound.step stepped, own,
      fun id mine => account?_commit_of_unheld (sound.heldIds_apart apart mine),
      fun id missing => account?_commit_of_missing missing⟩

end Store

namespace TxScript

variable {α β : Type} {t : TxId}

/-- Whatever other transactions do meanwhile, as far as transaction `t` counts on, every answer
the store gives to the script's next request leads to a script that satisfies this again, and
the script ends with `v` only in a store where `post v` holds and fails with `e` only where
`refused e` holds. A balance update never has to wait. -/
def Sure (t : TxId) (post : α → Store → Prop) (refused : TransferError → Store → Prop) :
    TxScript α → Store → Prop
  | .pure v, s => post v s
  | .fail e, s => refused e s
  | .lockForUpdate id next, s => ∀ s₁, Store.Rely t s s₁ →
      (s₁.lockRow t id = .absent → Sure t post refused (next (.ok none)) s₁) ∧
      ∀ s' row, s₁.lockRow t id = .granted s' row →
        Sure t post refused (next (.ok (some row))) s'
  | .view id next, s => ∀ s₁, Store.Rely t s s₁ →
      Sure t post refused (next (.ok (s₁.viewRow t id))) s₁
  | .recordTransfer fromId toId amount next, s => ∀ s₁, Store.Rely t s s₁ →
      (∀ s' record, s₁.recordTransfer t fromId toId amount = .ok (s', record) →
        Sure t post refused (next (.ok record)) s') ∧
      ∀ e, s₁.recordTransfer t fromId toId amount = .error e →
        Sure t post refused (next (.error e)) s₁
  | .recordEntry accountId amount next, s => ∀ s₁, Store.Rely t s s₁ →
      (∀ s' entry, s₁.recordEntry t accountId amount = .ok (s', entry) →
        Sure t post refused (next (.ok entry)) s') ∧
      ∀ e, s₁.recordEntry t accountId amount = .error e →
        Sure t post refused (next (.error e)) s₁
  | .moveBalances fromId toId amount next, s => ∀ s₁, Store.Rely t s s₁ →
      (∀ s' r, s₁.moveBalances t fromId toId amount = .done s' r →
        Sure t post refused (next r) s') ∧
      ∀ s', s₁.moveBalances t fromId toId amount ≠ .waiting s'
  | .log _ next, s => Sure t post refused next s
  | .note _ next, s => Sure t post refused next s

variable {post : α → Store → Prop} {refused : TransferError → Store → Prop}

theorem sure_bind (k : TxScript α) (f : α → TxScript β) {post : β → Store → Prop} :
    ∀ s, (k.bind f).Sure t post refused s ↔
      k.Sure t (fun v => (f v).Sure t post refused) refused s := by
  induction k with
  | pure v | fail e => intro s; rfl
  | lockForUpdate _ _ ih | view _ _ ih | recordTransfer _ _ _ _ ih | recordEntry _ _ _ ih
  | moveBalances _ _ _ _ ih =>
    intro s
    simp only [bind, Sure, ih]
  | log _ _ ih | note _ _ ih =>
    intro s
    simp only [bind, Sure, ih]

theorem Sure.rely (postStable : ∀ v, Store.Stable t (post v))
    (refusedStable : ∀ e, Store.Stable t (refused e)) {k : TxScript α} :
    ∀ {s s' : Store}, k.Sure t post refused s → Store.Rely t s s' → k.Sure t post refused s' := by
  induction k with
  | pure v => exact fun sure relied => postStable v relied sure
  | fail e => exact fun sure relied => refusedStable e relied sure
  | lockForUpdate _ _ _ | view _ _ _ | recordTransfer _ _ _ _ _ | recordEntry _ _ _ _
  | moveBalances _ _ _ _ _ =>
    exact fun sure relied s₁ relied₁ => sure s₁ (relied.trans relied₁)
  | log _ _ ih | note _ _ ih => exact fun sure relied => ih sure relied

/-- Each request the store serves keeps a script sure. -/
theorem Served.sure {s s' : Store} (sound : Store.Sound s) {k k' : TxScript α} {r : Request}
    (served : k.Served s t r s' k') (sure : k.Sure t post refused s) :
    k'.Sure t post refused s' := by
  have now := Store.Rely.refl (t := t) sound
  cases served with
  | absent absent => exact (sure s now).1 absent
  | granted granted => exact (sure s now).2 _ _ granted
  | view => exact sure s now
  | transfer made => exact (sure s now).1 _ _ made
  | transferRefused refusal => exact (sure s now).2 _ refusal
  | entry made => exact (sure s now).1 _ _ made
  | entryRefused refusal => exact (sure s now).2 _ refusal
  | move moved => exact (sure s now).1 _ _ moved
  | moveWaits waits => exact absurd waits ((sure s now).2 _)

theorem Sure.quietNext {s : Store} {k k' : TxScript α} (sure : k.Sure t post refused s)
    (next : k.quietNext? = some k') : k'.Sure t post refused s := by
  cases k with
  | log _ rest | note _ rest =>
    cases next
    exact sure
  | _ => cases next

end TxScript

/-- How far a transaction of a transfer has got, read against the committed ledger: the accounts
it has locked, in the order it locked them, the new balances it has staged, and the records it
has made. -/
structure Holding where
  locked : List AccountId
  staged : List (AccountId × Decimal) := []
  transfers : List TransferRecord := []
  entries : List Entry := []

namespace Store

/-- Transaction `t` holds what `g` says: the committed rows of the accounts of `g.locked` that
exist, in that order and with the balances `g.staged`, and the records of `g`. -/
def Holds (s : Store) (t : TxId) (g : Holding) : Prop :=
  s.tx? t = some
    { id := t, held := (g.locked.filterMap s.account?).map (restage g.staged)
      transfers := g.transfers, entries := g.entries }

@[simp] theorem restage_nil : restage [] = id := by
  funext row
  simp [restage]

@[simp] theorem account?_modifyTx (s : Store) (t : TxId) (f : OpenTx → OpenTx) :
    (s.modifyTx t f).account? = s.account? := rfl

variable {s s' : Store} {t : TxId} {g : Holding}

theorem Holds.mem_heldIds (holds : s.Holds t g) {id : AccountId} {row : Account}
    (mine : id ∈ g.locked) (found : s.account? id = some row) : id ∈ s.heldIds t := by
  rw [Store.mem_heldIds holds]
  refine List.mem_map.mpr ⟨restage g.staged row, ?_, by simp [(account?_eq_some found).2]⟩
  exact List.mem_map_of_mem (List.mem_filterMap.mpr ⟨id, mine, found⟩)

theorem Holds.account?_eq (holds : s.Holds t g) (relied : Rely t s s') {id : AccountId}
    (mine : id ∈ g.locked) : s'.account? id = s.account? id := by
  cases found : s.account? id with
  | none => exact relied.missing id found
  | some row => rw [relied.held id (holds.mem_heldIds mine found), found]

theorem Holds.stable : Stable t (·.Holds t g) := by
  intro s s' relied holds
  have same : g.locked.filterMap s'.account? = g.locked.filterMap s.account? :=
    List.filterMap_congr fun id mine => holds.account?_eq relied mine
  unfold Holds
  rw [relied.own, same]
  exact holds

theorem Holds.heldRow? (holds : s.Holds t g) (id : AccountId) :
    s.heldRow? t id = if id ∈ g.locked then (s.account? id).map (restage g.staged) else none := by
  have keeps : ((·.id == id) ∘ restage g.staged) = (·.id == id) := by
    funext row
    simp
  rw [heldRow?_of_tx? holds, List.find?_map, keeps, find?_filterMap_account?]
  split <;> rfl

theorem Holds.viewRow (holds : s.Holds t g) {id : AccountId} (mine : id ∈ g.locked) :
    s.viewRow t id = (s.account? id).map (restage g.staged) := by
  unfold Store.viewRow
  rw [holds.heldRow? id, if_pos mine]
  cases s.account? id <;> rfl

theorem Holds.isOpen (holds : s.Holds t g) : s.isOpen t = true := by
  obtain ⟨member, named⟩ := tx?_eq_some holds
  exact isOpen_iff.mpr ⟨_, member, named⟩

/-! ## The transaction's own requests -/

section Own

variable {ids : List AccountId} {transfers : List TransferRecord} {entries : List Entry}
  {id fromId toId : AccountId} {amount : Decimal}

theorem Holds.lockRow (holds : s.Holds t ⟨ids, [], transfers, entries⟩) (unlocked : id ∉ ids) :
    (s.lockRow t id = .absent →
      s.account? id = none ∧ s.Holds t ⟨ids ++ [id], [], transfers, entries⟩) ∧
    ∀ s' row, s.lockRow t id = .granted s' row →
      s.account? id = some row ∧ s'.accounts = s.accounts ∧
        s'.Holds t ⟨ids ++ [id], [], transfers, entries⟩ := by
  have unheld : s.heldRow? t id = none := by rw [holds.heldRow? id, if_neg unlocked]
  refine ⟨fun absent => ?_, fun s' row granted => ?_⟩
  · have missing : s.account? id = none := by
      rw [← Option.not_isSome_iff_eq_none, account?_isSome, lockRow_absent absent]
      decide
    refine ⟨missing, ?_⟩
    unfold Holds at holds ⊢
    simpa [List.filterMap_append, missing] using holds
  · rcases lockRow_granted granted with ⟨held, -⟩ | ⟨-, found, -, rfl⟩
    · rw [unheld] at held
      cases held
    refine ⟨found, rfl, ?_⟩
    unfold Holds
    rw [tx?_modifyTx_of (f := fun tx => { tx with held := tx.held ++ [row] }) holds fun _ => rfl]
    simp [List.filterMap_append, found]

theorem Holds.recordTransfer (holds : s.Holds t g) {record : TransferRecord}
    (made : s.recordTransfer t fromId toId amount = .ok (s', record)) :
    record = ⟨s.nextTransfer, fromId, toId, amount⟩ ∧ amount.le Decimal.zero = false ∧
      s'.accounts = s.accounts ∧ s'.Holds t { g with transfers := g.transfers ++ [record] } := by
  obtain ⟨-, -, positive, named, rfl⟩ := recordTransfer_ok made
  refine ⟨named, positive, rfl, ?_⟩
  unfold Holds
  rw [tx?_modifyTx_of (s := { s with nextTransfer := s.nextTransfer + 1 })
    (f := fun tx => { tx with transfers := tx.transfers ++ [record] }) holds fun _ => rfl]
  rfl

theorem Holds.recordEntry (holds : s.Holds t g) {entry : Entry}
    (made : s.recordEntry t id amount = .ok (s', entry)) :
    entry = ⟨s.nextEntry, id, amount⟩ ∧ s'.accounts = s.accounts ∧
      s'.Holds t { g with entries := g.entries ++ [entry] } := by
  obtain ⟨-, named, rfl⟩ := recordEntry_ok made
  refine ⟨named, rfl, ?_⟩
  unfold Holds
  rw [tx?_modifyTx_of (s := { s with nextEntry := s.nextEntry + 1 })
    (f := fun tx => { tx with entries := tx.entries ++ [entry] }) holds fun _ => rfl]
  rfl

theorem lockRow_of_find? {tx : OpenTx} (found : s.tx? t = some tx) {row : Account}
    (seen : tx.held.find? (·.id == id) = some row) : s.lockRow t id = .granted s row := by
  simp [lockRow, heldRow?_of_tx? found, seen]

theorem moveAlong_held_ok {tx : OpenTx} (found : s.tx? t = some tx) {n : Nat} :
    ∀ (ids : List AccountId) (updates : List (AccountId × Decimal)),
      (∀ id ∈ ids, id ∈ tx.heldIds) →
      moveAlong t fromId toId amount s ids updates = .done s' (.ok n) →
      ∃ news : List (AccountId × Decimal), news.map (·.1) = ids ∧
        s' = s.stageBalances t (updates ++ news) ∧
        ∀ q ∈ news, ∃ row delta, tx.held.find? (·.id == q.1) = some row ∧
          balanceDelta fromId toId q.1 amount = some delta ∧ row.balance.add? delta = some q.2
  | [], updates, _, moved => by
    rw [moveAlong] at moved
    cases moved
    exact ⟨[], rfl, by simp, by simp⟩
  | id :: rest, updates, held, moved => by
    obtain ⟨row, seen⟩ : ∃ row, tx.held.find? (·.id == id) = some row := by
      obtain ⟨row, mine, named⟩ := List.mem_map.mp (held id List.mem_cons_self)
      exact Option.isSome_iff_exists.mp (List.find?_isSome.mpr ⟨row, mine, by simp [named]⟩)
    have granted := lockRow_of_find? found seen
    cases changes : balanceDelta fromId toId id amount with
    | none => simp [moveAlong, granted, changes] at moved
    | some delta =>
      cases added : row.balance.add? delta with
      | none => simp [moveAlong, granted, changes, added] at moved
      | some balance =>
        by_cases negative : balance.lt Decimal.zero = true
        · simp [moveAlong, granted, changes, added, negative] at moved
        have next : moveAlong t fromId toId amount s rest (updates ++ [(id, balance)]) =
            .done s' (.ok n) := by
          simpa [moveAlong, granted, changes, added, negative] using moved
        obtain ⟨news, keys, staged, computed⟩ := moveAlong_held_ok found rest _
          (fun id' later => held id' (List.mem_cons_of_mem _ later)) next
        refine ⟨(id, balance) :: news, by simp [keys], by simpa using staged, ?_⟩
        rintro q (_ | ⟨_, later⟩)
        · exact ⟨row, delta, seen, changes, added⟩
        · exact computed q later

theorem Holds.moveBalances
    (holds : s.Holds t ⟨updateOrder fromId toId, [], transfers, entries⟩)
    (hasFrom : (s.account? fromId).isSome) (hasTo : (s.account? toId).isSome) :
    (∀ s', s.moveBalances t fromId toId amount ≠ .waiting s') ∧
    ∀ s' n, s.moveBalances t fromId toId amount = .done s' (.ok n) →
      ∃ news : List (AccountId × Decimal), news.map (·.1) = updateOrder fromId toId ∧
        s' = s.stageBalances t news ∧
        s'.Holds t ⟨updateOrder fromId toId, news, transfers, entries⟩ ∧
        ∀ q ∈ news, ∃ row delta, s.account? q.1 = some row ∧
          balanceDelta fromId toId q.1 amount = some delta ∧ row.balance.add? delta = some q.2 := by
  have locked : ∀ id ∈ updateOrder fromId toId, (s.account? id).isSome :=
    forall_mem_updateOrder hasFrom hasTo
  have held : ∀ id ∈ updateOrder fromId toId, id ∈ OpenTx.heldIds
      { id := t, held := ((updateOrder fromId toId).filterMap s.account?).map (restage []),
        transfers, entries } := by
    intro id mine
    obtain ⟨row, found⟩ := Option.isSome_iff_exists.mp (locked id mine)
    exact (Store.mem_heldIds holds id).mp (holds.mem_heldIds mine found)
  refine ⟨fun s' => moveBalances_of_held_ne_waiting holds
    (held _ (mem_updateOrder_from _ _)) (held _ (mem_updateOrder_to _ _)),
    fun s' n moved => ?_⟩
  obtain ⟨news, keys, staged, computed⟩ := moveAlong_held_ok holds _ [] held moved
  rw [List.nil_append] at staged
  subst staged
  refine ⟨news, keys, rfl, ?_, fun q member => ?_⟩
  · unfold Holds
    have staged := tx?_modifyTx_of (f := fun tx => { tx with held := tx.held.map (restage news) })
      holds fun _ => rfl
    rw [stageBalances_eq, staged]
    simp
  · obtain ⟨row, delta, seen, changes, added⟩ := computed q member
    have lookup := holds.heldRow? q.1
    rw [heldRow?_of_tx? holds, seen, if_pos (keys ▸ List.mem_map_of_mem member)] at lookup
    obtain ⟨committed, found, same⟩ := Option.map_eq_some_iff.mp lookup.symm
    rw [restage_nil, id] at same
    exact ⟨committed, delta, found, changes, same ▸ added⟩

end Own

end Store

/-! ## A transfer's requests under `Sure` -/

namespace TxScript

open Store (updateOrder balanceDelta restage)

variable {β : Type} {t : TxId} {refused : TransferError → Store → Prop} {s : Store}
  {ids : List AccountId} {transfers : List TransferRecord} {entries : List Entry} {g : Holding}
  {id fromId toId : AccountId} {amount : Decimal}

@[simp] theorem sure_emit (e : LogEvent) {post : Unit → Store → Prop} :
    (emit e).Sure t post refused s ↔ post () s := Iff.rfl

@[simp] theorem sure_throw (e : TransferError) {post : β → Store → Prop} :
    (throw e : TxScript β).Sure t post refused s ↔ refused e s := Iff.rfl

@[simp] theorem sure_pure (v : β) {post : β → Store → Prop} :
    (Pure.pure v : TxScript β).Sure t post refused s ↔ post v s := Iff.rfl

/-- A read for update of an account the transaction has not locked answers its committed row, or
nothing for a missing account; the transaction holds the row from then on, and the committed rows
of the accounts it locked before are as they were. -/
theorem sure_lock (unlocked : id ∉ ids) {post : Option Account → Store → Prop}
    (holds : s.Holds t ⟨ids, [], transfers, entries⟩)
    (after : ∀ s', Store.Sound s' → s'.Holds t ⟨ids ++ [id], [], transfers, entries⟩ →
      (∀ x ∈ ids, s'.account? x = s.account? x) → post (s'.account? id) s') :
    (lock id).Sure t post refused s := by
  intro s₁ relied
  have holds₁ := Store.Holds.stable relied holds
  have kept : ∀ x ∈ ids, s₁.account? x = s.account? x := fun x mine => holds.account?_eq relied mine
  refine ⟨fun absent => ?_, fun s' row granted => ?_⟩
  · obtain ⟨missing, holds'⟩ := (holds₁.lockRow unlocked).1 absent
    show post none s₁
    rw [← missing]
    exact after s₁ relied.sound holds' kept
  · obtain ⟨found, accounts, holds'⟩ := (holds₁.lockRow unlocked).2 s' row granted
    have same := Store.account?_of_accounts accounts
    show post (some row) s'
    rw [← found, ← same]
    exact after s' (relied.sound.lockRow holds₁.isOpen granted) holds'
      fun x mine => by rw [same]; exact kept x mine

theorem sure_lockAccounts {post : LockedAccounts → Store → Prop}
    (fresh : s.Holds t { locked := [] })
    (after : ∀ s', Store.Sound s' → s'.Holds t { locked := updateOrder fromId toId } →
      post ⟨s'.account? fromId, s'.account? toId⟩ s') :
    (lockAccounts fromId toId).Sure t post refused s := by
  unfold lockAccounts
  split
  · rename_i same
    subst same
    rw [bind_eq, sure_bind]
    refine sure_lock List.not_mem_nil fresh fun s' sound' holds' _ => ?_
    exact after s' sound' (by simpa [updateOrder] using holds')
  · rename_i apart
    unfold canonicalOrder
    by_cases order : fromId ≤ toId
    · simp only [order, if_true, bind_eq, sure_bind]
      refine sure_lock List.not_mem_nil fresh fun s₁ _ holds₁ _ => ?_
      rw [sure_bind]
      refine sure_lock (by simpa using Ne.symm apart) holds₁ fun s₂ sound₂ holds₂ kept => ?_
      rw [sure_pure, ← kept fromId (by simp)]
      have below : fromId < toId := Int.lt_iff_le_and_ne.mpr ⟨order, apart⟩
      exact after s₂ sound₂ (by simpa [updateOrder, apart, below] using holds₂)
    · simp only [order, if_false, bind_eq, sure_bind]
      refine sure_lock List.not_mem_nil fresh fun s₁ _ holds₁ _ => ?_
      rw [sure_bind]
      refine sure_lock (by simpa using apart) holds₁ fun s₂ sound₂ holds₂ kept => ?_
      rw [sure_pure, if_neg (Ne.symm apart), ← kept toId (by simp)]
      have above : ¬ fromId < toId := fun below => order (Int.le_of_lt below)
      exact after s₂ sound₂ (by simpa [updateOrder, apart, above] using holds₂)

theorem sure_newTransfer {post : TransferRecord → Store → Prop} (holds : s.Holds t g)
    (failed : ∀ e s', refused (.infrastructure e) s')
    (after : ∀ s' record, Store.Sound s' → (∃ n, record = ⟨n, fromId, toId, amount⟩) →
      amount.le Decimal.zero = false → s'.Holds t { g with transfers := g.transfers ++ [record] } →
      (∀ x ∈ g.locked, s'.account? x = s.account? x) → post record s') :
    (newTransfer fromId toId amount).Sure t post refused s := by
  intro s₁ relied
  have holds₁ := Store.Holds.stable relied holds
  refine ⟨fun s' record made => ?_, fun e _ => failed e s₁⟩
  obtain ⟨named, positive, accounts, holds'⟩ := holds₁.recordTransfer made
  refine after s' record (relied.sound.recordTransfer holds₁.isOpen made) ⟨_, named⟩ positive holds'
    fun x mine => ?_
  rw [Store.account?_of_accounts accounts]
  exact holds.account?_eq relied mine

theorem sure_newEntry {post : Entry → Store → Prop} (holds : s.Holds t g)
    (failed : ∀ e s', refused (.infrastructure e) s')
    (after : ∀ s' entry, Store.Sound s' → (∃ n, entry = ⟨n, id, amount⟩) →
      s'.Holds t { g with entries := g.entries ++ [entry] } →
      (∀ x ∈ g.locked, s'.account? x = s.account? x) → post entry s') :
    (newEntry id amount).Sure t post refused s := by
  intro s₁ relied
  have holds₁ := Store.Holds.stable relied holds
  refine ⟨fun s' entry made => ?_, fun e _ => failed e s₁⟩
  obtain ⟨named, accounts, holds'⟩ := holds₁.recordEntry made
  refine after s' entry (relied.sound.recordEntry holds₁.isOpen made) ⟨_, named⟩ holds'
    fun x mine => ?_
  rw [Store.account?_of_accounts accounts]
  exact holds.account?_eq relied mine

theorem sure_move {post : Nat → Store → Prop}
    (holds : s.Holds t ⟨updateOrder fromId toId, [], transfers, entries⟩)
    (hasFrom : (s.account? fromId).isSome) (hasTo : (s.account? toId).isSome)
    (failed : ∀ e s', refused (.infrastructure e) s')
    (after : ∀ s' n (news : List (AccountId × Decimal)), Store.Sound s' →
      s'.Holds t ⟨updateOrder fromId toId, news, transfers, entries⟩ →
      news.map (·.1) = updateOrder fromId toId →
      (∀ q ∈ news, ∃ row delta, s.account? q.1 = some row ∧
        balanceDelta fromId toId q.1 amount = some delta ∧ row.balance.add? delta = some q.2) →
      (∀ x ∈ updateOrder fromId toId, s'.account? x = s.account? x) → post n s') :
    (move fromId toId amount).Sure t post refused s := by
  intro s₁ relied
  have holds₁ := Store.Holds.stable relied holds
  have kept : ∀ x ∈ updateOrder fromId toId, s₁.account? x = s.account? x :=
    fun x mine => holds.account?_eq relied mine
  have hasFrom₁ : (s₁.account? fromId).isSome := by
    rw [kept fromId (Store.mem_updateOrder_from _ _)]
    exact hasFrom
  have hasTo₁ : (s₁.account? toId).isSome := by
    rw [kept toId (Store.mem_updateOrder_to _ _)]
    exact hasTo
  have moves : (∀ s', s₁.moveBalances t fromId toId amount ≠ .waiting s') ∧ _ :=
    holds₁.moveBalances hasFrom₁ hasTo₁
  obtain ⟨never, moved⟩ := moves
  refine ⟨fun s' r done => ?_, never⟩
  cases r with
  | error e => exact failed e s'
  | ok n =>
    obtain ⟨news, keys, rfl, holds', computed⟩ := moved s' n done
    refine after _ n news (relied.sound.stageBalances holds₁.isOpen news) holds' keys
      (fun q member => ?_) kept
    obtain ⟨row, delta, found, changes, added⟩ := computed q member
    rw [kept q.1 (keys ▸ List.mem_map_of_mem member)] at found
    exact ⟨row, delta, found, changes, added⟩

theorem sure_read (mine : id ∈ g.locked) {post : Option Account → Store → Prop}
    (holds : s.Holds t g)
    (after : ∀ s', Store.Sound s' → s'.Holds t g → (∀ x ∈ g.locked, s'.account? x = s.account? x) →
      post ((s.account? id).map (restage g.staged)) s') :
    (read id).Sure t post refused s := by
  intro s₁ relied
  have holds₁ := Store.Holds.stable relied holds
  have kept : ∀ x ∈ g.locked, s₁.account? x = s.account? x :=
    fun x mine => holds.account?_eq relied mine
  show post (s₁.viewRow t id) s₁
  rw [holds₁.viewRow mine, kept id mine]
  exact after s₁ relied.sound holds₁ kept

end TxScript

end TransferLedger
