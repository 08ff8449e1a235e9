import TransferLedger.Proofs.Transfer.World
import TransferLedger.Proofs.Store.Isolation

/-! Double-entry bookkeeping under any interleaving of transfer attempts: committed entries are
exactly the debit and credit of each committed transfer, and each committed balance is its opening
balance with every committed change added in commit order, rounded as the store rounds. -/

namespace TransferLedger

namespace Store

/-- The change a balance update of `amount` from `fromId` to `toId` makes to account `id`: the
delta the store adds to its balance when the account is on either side, none otherwise. -/
def changes (fromId toId : AccountId) (amount : Decimal) (id : AccountId) : List Decimal :=
  if id = fromId ∨ id = toId then [(balanceDelta fromId toId id amount).getD Decimal.zero] else []

end Store

def TransferRecord.fields (r : TransferRecord) : AccountId × AccountId × Decimal :=
  (r.fromAccountId, r.toAccountId, r.amount)

def Entry.side (e : Entry) : AccountId × Decimal := (e.accountId, e.amount)

def TransferRecord.sides (r : TransferRecord) : List (AccountId × Decimal) :=
  [(r.fromAccountId, r.amount.neg), (r.toAccountId, r.amount)]

def TransferRecord.changesTo (id : AccountId) (records : List TransferRecord) : List Decimal :=
  records.flatMap fun r => Store.changes r.fromAccountId r.toAccountId r.amount id

namespace Effect

def transfer? : Effect → Option (AccountId × AccountId × Decimal)
  | .transfer fromId toId amount => some (fromId, toId, amount)
  | .entry .. | .move .. => none

def entry? : Effect → Option (AccountId × Decimal)
  | .entry accountId amount => some (accountId, amount)
  | .transfer .. | .move .. => none

def changes (id : AccountId) : Effect → List Decimal
  | .move fromId toId amount => Store.changes fromId toId amount id
  | .transfer .. | .entry .. => []

end Effect

namespace Request

theorem deltas_events_other (s : Store) {r : Request} {t : TxId} (other : r.tx? ≠ some t)
    (id : AccountId) : (r.events s).deltas t id = [] := by
  cases r with
  | createAccount owner balance currency =>
    simp only [events]
    split <;> simp [History.deltas]
  | move v fromId toId amount =>
    have apart : v ≠ t := by simpa [tx?] using other
    simp only [events]
    split <;> simp [History.deltas, apart]
  | _ => simp [events, History.deltas]

theorem commits_events (s : Store) {r : Request} (notCommit : ∀ v, r ≠ .commit v) :
    (r.events s).commits = [] := by
  cases r with
  | createAccount owner balance currency =>
    simp only [events]
    split <;> simp [History.commits]
  | move v fromId toId amount =>
    simp only [events]
    split <;> simp [History.commits]
  | commit v => exact absurd rfl (notCommit v)
  | _ => simp [events, History.commits]

end Request

/-- Transaction `t` holds exactly the changes `done`: its transfer records and its entries are
those `done` makes, and the history holds the balance changes of its update. -/
def Pending (h : History) (s : Store) (t : TxId) (done : List Effect) : Prop :=
  ∃ tx, s.tx? t = some tx ∧
    tx.transfers.map TransferRecord.fields = done.filterMap Effect.transfer? ∧
    tx.entries.map Entry.side = done.filterMap Effect.entry? ∧
    ∀ id, h.deltas t id = done.flatMap (Effect.changes id)

/-- Transaction `t` holds whole transfers: its entries are the debit and the credit of each of its
transfer records, and the history holds exactly the balance changes of those records. -/
def Settled (h : History) (s : Store) (t : TxId) : Prop :=
  ∃ tx, s.tx? t = some tx ∧
    tx.entries.map Entry.side = tx.transfers.flatMap TransferRecord.sides ∧
    ∀ id, h.deltas t id = TransferRecord.changesTo id tx.transfers

namespace Pending

variable {h : History} {s s' : Store} {t : TxId} {done : List Effect}

theorem frame {h' : History} (pending : Pending h s t done)
    (records : (s'.tx? t).map OpenTx.records = (s.tx? t).map OpenTx.records)
    (quiet : ∀ id, h'.deltas t id = []) : Pending (h ++ h') s' t done := by
  obtain ⟨tx, found, transfers, entries, deltas⟩ := pending
  rw [found] at records
  obtain ⟨tx', found', same⟩ := Option.map_eq_some_iff.mp records
  simp only [OpenTx.records, Prod.mk.injEq] at same
  obtain ⟨-, sameTransfers, sameEntries⟩ := same
  refine ⟨tx', found', sameTransfers ▸ transfers, sameEntries ▸ entries, fun id => ?_⟩
  rw [History.deltas_append, quiet, List.append_nil, deltas]

theorem recordTransfer {fromId toId : AccountId} {amount : Decimal} {record : TransferRecord}
    (pending : Pending h s t done)
    (made : s.recordTransfer t fromId toId amount = .ok (s', record)) :
    Pending h s' t (done ++ [.transfer fromId toId amount]) := by
  obtain ⟨tx, found, transfers, entries, deltas⟩ := pending
  obtain ⟨-, -, -, rfl, rfl⟩ := Store.recordTransfer_ok made
  refine ⟨{ tx with transfers := tx.transfers ++ [⟨s.nextTransfer, fromId, toId, amount⟩] }, ?_,
    ?_, by simp [entries, Effect.entry?], fun id => by simp [deltas, Effect.changes]⟩
  · rw [Store.tx?_modifyTx_self]
    · exact congrArg (Option.map _) found
    · intro
      rfl
  · simp [transfers, TransferRecord.fields, Effect.transfer?]

theorem recordEntry {accountId : AccountId} {amount : Decimal} {entry : Entry}
    (pending : Pending h s t done)
    (made : s.recordEntry t accountId amount = .ok (s', entry)) :
    Pending h s' t (done ++ [.entry accountId amount]) := by
  obtain ⟨tx, found, transfers, entries, deltas⟩ := pending
  obtain ⟨-, rfl, rfl⟩ := Store.recordEntry_ok made
  refine ⟨{ tx with entries := tx.entries ++ [⟨s.nextEntry, accountId, amount⟩] }, ?_,
    by simp [transfers, Effect.transfer?], ?_, fun id => by simp [deltas, Effect.changes]⟩
  · rw [Store.tx?_modifyTx_self]
    · exact congrArg (Option.map _) found
    · intro
      rfl
  · simp [entries, Entry.side, Effect.entry?]

theorem moved {fromId toId : AccountId} {amount : Decimal} {n : Nat}
    (pending : Pending h s t done) (hasFrom : s.hasAccount fromId = true)
    (hasTo : s.hasAccount toId = true)
    (moved : s.moveBalances t fromId toId amount = .done s' (.ok n)) :
    Pending (h ++ (Request.move t fromId toId amount).events s) s' t
      (done ++ [.move fromId toId amount]) := by
  obtain ⟨tx, found, transfers, entries, deltas⟩ := pending
  have same := (Store.moveBalances_sameRecords (.inl ⟨_, moved⟩)).tx? t
  rw [found] at same
  obtain ⟨tx', found', sameRecords⟩ := Option.map_eq_some_iff.mp same
  simp only [OpenTx.records, Prod.mk.injEq] at sameRecords
  obtain ⟨-, sameTransfers, sameEntries⟩ := sameRecords
  have updated : (Store.updateOrder fromId toId).filter s.hasAccount =
      Store.updateOrder fromId toId :=
    List.filter_eq_self.mpr (Store.forall_mem_updateOrder hasFrom hasTo)
  refine ⟨tx', found', by simp [sameTransfers, transfers, Effect.transfer?],
    by simp [sameEntries, entries, Effect.entry?], fun id => ?_⟩
  simp only [Request.events, moved, updated, History.deltas_append,
    History.deltas_moved t _ _ (Store.updateOrder_nodup fromId toId), deltas,
    List.flatMap_append, List.flatMap_singleton, Effect.changes, Store.changes,
    Store.mem_updateOrder]
  simp

theorem settled_nil (pending : Pending h s t []) : Settled h s t := by
  obtain ⟨tx, found, transfers, entries, deltas⟩ := pending
  have noTransfers : tx.transfers = [] := by simpa using transfers
  have noEntries : tx.entries = [] := by simpa using entries
  exact ⟨tx, found, by simp [noTransfers, noEntries],
    fun id => by simp [deltas id, noTransfers, TransferRecord.changesTo]⟩

theorem settled_planned {p : TransferParams} (pending : Pending h s t (planned p)) :
    Settled h s t := by
  obtain ⟨tx, found, transfers, entries, deltas⟩ := pending
  have recorded : (planned p).filterMap Effect.transfer? =
      [(p.fromAccountId, p.toAccountId, p.amount.value)] := rfl
  have sides : (planned p).filterMap Effect.entry? =
      [(p.fromAccountId, p.amount.debit), (p.toAccountId, p.amount.credit)] := rfl
  rw [recorded] at transfers
  rw [sides] at entries
  obtain ⟨record, single, fields⟩ := List.map_eq_singleton_iff.mp transfers
  simp only [TransferRecord.fields, Prod.mk.injEq] at fields
  obtain ⟨sameFrom, sameTo, sameAmount⟩ := fields
  refine ⟨tx, found, ?_, fun id => ?_⟩
  · simp [entries, single, TransferRecord.sides, sameFrom, sameTo, sameAmount, Amount.debit,
      Amount.credit]
  · simp [deltas id, single, planned, Effect.changes, TransferRecord.changesTo, sameFrom, sameTo,
      sameAmount]

theorem other {r : Request} (pending : Pending h s t done) (handled : Store.Handles s r s')
    (other : r.tx? ≠ some t) : Pending (h ++ r.events s) s' t done := by
  obtain ⟨tx, found, rest⟩ := pending
  exact Pending.frame ⟨tx, found, rest⟩ (by rw [handled.tx?_of_other other found, found])
    (Request.deltas_events_other s other)

theorem begun {s : Store} (tracks : Store.Tracks h s) : Pending h s.begin.1 s.nextTx [] :=
  ⟨{ id := s.nextTx }, Store.tx?_begin tracks.sound, rfl, rfl,
    fun id => by simp [tracks.unbegun s.nextTx (Nat.le_refl _) id]⟩

theorem hasAccounts (pending : Pending h s t done) (checked : Store.Checked s)
    {fromId toId : AccountId} {amount : Decimal} (recorded : .transfer fromId toId amount ∈ done) :
    s.hasAccount fromId = true ∧ s.hasAccount toId = true := by
  obtain ⟨tx, found, transfers, -, -⟩ := pending
  have listed : (fromId, toId, amount) ∈ tx.transfers.map TransferRecord.fields := by
    rw [transfers]
    exact List.mem_filterMap.mpr ⟨_, recorded, rfl⟩
  obtain ⟨record, mine, fields⟩ := List.mem_map.mp listed
  obtain ⟨-, hasFrom, hasTo⟩ := checked.pending tx (Store.tx?_eq_some found).1 record mine
  simp only [TransferRecord.fields, Prod.mk.injEq] at fields
  rw [← fields.1, ← fields.2.1]
  exact ⟨hasFrom, hasTo⟩

end Pending

theorem transfer_mem_of_planned {p : TransferParams} {done rest : List Effect}
    {fromId toId : AccountId} {amount : Decimal}
    (whole : done ++ .move fromId toId amount :: rest = planned p) :
    .transfer fromId toId amount ∈ done := by
  rcases done with _ | ⟨x, _ | ⟨y, _ | ⟨z, _ | ⟨u, more⟩⟩⟩⟩ <;>
    simp [planned] at whole
  obtain ⟨rfl, -, -, ⟨rfl, rfl, rfl⟩, -⟩ := whole
  simp

theorem TransferRecord.length_flatMap_sides (records : List TransferRecord) :
    (records.flatMap TransferRecord.sides).length = 2 * records.length := by
  induction records with
  | nil => rfl
  | cons record rest ih =>
    simp only [List.flatMap_cons, List.length_append, ih, List.length_cons]
    simp [TransferRecord.sides]
    omega

namespace Effect

theorem consume_ok {e : Effect} {β : Type} {v : β} {plan rest : List Effect}
    (consumed : e.consume (.ok v) plan = some rest) : plan = e :: rest := by
  cases plan with
  | nil => cases consumed
  | cons e' rest' =>
    simp only [consume] at consumed
    split at consumed
    · rename_i same
      cases consumed
      rw [same]
    · cases consumed

theorem consume_error {e : Effect} {β : Type} {err : InfraError} {plan rest : List Effect}
    (consumed : e.consume (.error err : Except InfraError β) plan = some rest) : rest = plan := by
  cases consumed
  rfl

end Effect

namespace Store

variable {h : History} {s s' : Store} {r : Request} {t : TxId}

theorem Touches.records (touches : Touches t s s') :
    s'.entries = s.entries ∧ s'.transfers = s.transfers := by
  have ledger := touches.ledger
  simp only [Store.ledger, Ledger.mk.injEq] at ledger
  exact ⟨ledger.2.1, ledger.2.2⟩

theorem Handles.records (handled : Handles s r s') (notCommit : ∀ v, r ≠ .commit v) :
    s'.entries = s.entries ∧ s'.transfers = s.transfers := by
  cases handled with
  | created created =>
    obtain ⟨-, -, rfl⟩ := createAccount_ok created
    exact ⟨rfl, rfl⟩
  | createRefused | notGranted | read | transferRefused | entryRefused | begin | rollback =>
    exact ⟨rfl, rfl⟩
  | granted granted => exact (lockRow_touches granted).records
  | transfer made => exact (recordTransfer_touches made).records
  | entry made => exact (recordEntry_touches made).records
  | move result => exact (moveBalances_touches result).records
  | commit => exact absurd rfl (notCommit _)

theorem published_events (tracks : Tracks h s) (stepped : Step s r s')
    (notCommit : ∀ v, r ≠ .commit v) (id : AccountId) :
    (h ++ r.events s).published id = h.published id := by
  refine History.published_append_of_pending (Request.commits_events s notCommit)
    (fun t committed id' => Request.deltas_events_other s (fun named => ?_) id') id
  obtain ⟨tx, member, rfl⟩ := isOpen_iff.mp (stepped.1 t named)
  exact tracks.openUncommitted tx member committed

theorem isOpen_commit_self (s : Store) (t : TxId) : (s.commit t).isOpen t = false := by
  cases found : s.tx? t with
  | none =>
    simp only [commit, found]
    simpa [tx?, isOpen, List.find?_eq_none] using found
  | some tx => simp [commit_openTxs found, isOpen, discard]

theorem isOpen_discard_self (s : Store) (t : TxId) : (s.discard t).isOpen t = false := by
  simp [isOpen, discard]

theorem Handles.isOpen_before (handled : Handles s r s') {u : TxId} (opened : s'.isOpen u = true) :
    s.isOpen u = true ∨ (r = .begin ∧ u = s.nextTx) := by
  cases handled with
  | created created =>
    obtain ⟨-, -, rfl⟩ := createAccount_ok created
    exact .inl opened
  | createRefused | notGranted | read | transferRefused | entryRefused => exact .inl opened
  | begin =>
    have listed : (s.openTxs ++ [({ id := s.nextTx } : OpenTx)]).any (·.id == u) = true := opened
    simp only [List.any_append, List.any_cons, List.any_nil, Bool.or_false, Bool.or_eq_true,
      beq_iff_eq] at listed
    rcases listed with old | new
    · exact .inl old
    · exact .inr ⟨rfl, new.symm⟩
  | granted granted => exact .inl (((lockRow_touches granted).isOpen u).symm.trans opened)
  | transfer made => exact .inl (((recordTransfer_touches made).isOpen u).symm.trans opened)
  | entry made => exact .inl (((recordEntry_touches made).isOpen u).symm.trans opened)
  | move result => exact .inl (((moveBalances_touches result).isOpen u).symm.trans opened)
  | @commit v =>
    cases found : s.tx? v with
    | none =>
      rw [show s.commit v = s by simp [Store.commit, found]] at opened
      exact .inl opened
    | some tx =>
      obtain ⟨tx', member, rfl⟩ := isOpen_iff.mp opened
      rw [commit_openTxs found] at member
      exact .inl (isOpen_iff.mpr ⟨tx', List.mem_of_mem_filter member, rfl⟩)
  | rollback =>
    obtain ⟨tx', member, rfl⟩ := isOpen_iff.mp opened
    exact .inl (isOpen_iff.mpr ⟨tx', List.mem_of_mem_filter member, rfl⟩)

end Store

theorem Settled.commit {h : History} {s : Store} {t : TxId} (settled : Settled h s t)
    (entries : s.entries.map Entry.side = s.transfers.flatMap TransferRecord.sides)
    (published : ∀ id, h.published id = TransferRecord.changesTo id s.transfers) :
    (s.commit t).entries.map Entry.side = (s.commit t).transfers.flatMap TransferRecord.sides ∧
      ∀ id, (h ++ [Event.committed t]).published id =
        TransferRecord.changesTo id (s.commit t).transfers := by
  obtain ⟨tx, found, sides, deltas⟩ := settled
  rw [Store.commit_of_tx? found]
  refine ⟨by simp [entries, sides], fun id => ?_⟩
  rw [History.published_commit, published, deltas]
  simp [TransferRecord.changesTo]

namespace TxScript

variable {α : Type} {h : History} {s s' : Store} {t : TxId} {k k' : TxScript α} {r : Request}
  {post : α → List Effect → Prop} {done rest : List Effect}

theorem follows_quietNext (follows : k.follows post rest) (next : k.quietNext? = some k') :
    k'.follows post rest := by
  cases k with
  | log _ more | note _ more =>
    cases next
    exact follows
  | _ => cases next

theorem Served.pending (served : k.Served s t r s' k') (pending : Pending h s t done)
    (follows : k.follows post rest)
    (present : ∀ {fromId toId amount next}, k = .moveBalances fromId toId amount next →
      s.hasAccount fromId = true ∧ s.hasAccount toId = true) :
    ∃ done' rest', done' ++ rest' = done ++ rest ∧ Pending (h ++ r.events s) s' t done' ∧
      k'.follows post rest' := by
  cases served with
  | absent _ => exact ⟨done, rest, rfl, pending.frame rfl fun _ => rfl, follows _⟩
  | granted granted =>
    exact ⟨done, rest, rfl, pending.frame ((Store.lockRow_sameRecords granted).tx? t)
      fun _ => rfl, follows _⟩
  | view => exact ⟨done, rest, rfl, pending.frame rfl fun _ => rfl, follows _⟩
  | @transfer fromId toId amount next s' record made =>
    obtain ⟨rest', consumed, after⟩ := follows (.ok record)
    refine ⟨done ++ [.transfer fromId toId amount], rest', ?_, ?_, after⟩
    · simp [Effect.consume_ok consumed]
    · simpa [Request.events] using pending.recordTransfer made
  | transferRefused _ =>
    obtain ⟨rest', consumed, after⟩ := follows (.error _)
    rw [Effect.consume_error consumed] at after
    exact ⟨done, rest, rfl, pending.frame rfl fun _ => rfl, after⟩
  | @entry accountId amount next s' entry made =>
    obtain ⟨rest', consumed, after⟩ := follows (.ok entry)
    refine ⟨done ++ [.entry accountId amount], rest', ?_, ?_, after⟩
    · simp [Effect.consume_ok consumed]
    · simpa [Request.events] using pending.recordEntry made
  | entryRefused _ =>
    obtain ⟨rest', consumed, after⟩ := follows (.error _)
    rw [Effect.consume_error consumed] at after
    exact ⟨done, rest, rfl, pending.frame rfl fun _ => rfl, after⟩
  | @move fromId toId amount next s' result moved =>
    obtain ⟨rest', consumed, after⟩ := follows result
    cases result with
    | ok n =>
      obtain ⟨hasFrom, hasTo⟩ := present rfl
      refine ⟨done ++ [.move fromId toId amount], rest', ?_,
        pending.moved hasFrom hasTo moved, after⟩
      simp [Effect.consume_ok consumed]
    | error e =>
      rw [Effect.consume_error consumed] at after
      refine ⟨done, rest, rfl, pending.frame
        ((Store.moveBalances_sameRecords (.inl ⟨_, moved⟩)).tx? t) fun id => ?_, after⟩
      simp [Request.events, moved, History.deltas]
  | moveWaits waits =>
    refine ⟨done, rest, rfl, pending.frame
      ((Store.moveBalances_sameRecords (.inr waits)).tx? t) fun id => ?_, follows⟩
    simp [Request.events, waits, History.deltas]

end TxScript

namespace World

/-- The books of a world: the committed entries are the debit and the credit of each committed
transfer, the committed balance changes of every account are those of the committed transfers,
an attempt holds the first changes of its transfer's plan while its script makes the rest, and a
transaction of another client holds none. -/
structure Booked (h : History) (w : World) : Prop where
  entries : w.store.entries.map Entry.side = w.store.transfers.flatMap TransferRecord.sides
  published : ∀ id, h.published id = TransferRecord.changesTo id w.store.transfers
  attempts : ∀ a ∈ w.attempts, ∃ done rest, done ++ rest = planned a.params ∧
    Pending h w.store a.tx done ∧ a.script.follows (fun _ rest => rest = []) rest
  clients : ∀ t, w.store.isOpen t = true → (∀ a ∈ w.attempts, a.tx ≠ t) →
    Pending h w.store t []

namespace Booked

variable {h h' : History} {w : World} {s' : Store}

theorem start : Booked [] ⟨{}, []⟩ :=
  ⟨rfl, fun _ => rfl, by simp, fun t opened => by simp [Store.isOpen] at opened⟩

theorem setScript (booked : Booked h w) (distinct : (w.attempts.map (·.tx)).Nodup)
    {a : Attempt} (member : a ∈ w.attempts) {k : TxScript TransferReceipt}
    (entries : s'.entries.map Entry.side = s'.transfers.flatMap TransferRecord.sides)
    (published : ∀ id, h'.published id = TransferRecord.changesTo id s'.transfers)
    (others : ∀ t, t ≠ a.tx → ∀ {done}, Pending h w.store t done → Pending h' s' t done)
    (opens : ∀ t, s'.isOpen t = true → w.store.isOpen t = true)
    (acting : ∃ done rest, done ++ rest = planned a.params ∧ Pending h' s' a.tx done ∧
      k.follows (fun _ rest => rest = []) rest) :
    Booked h' (w.setScript s' a.tx k) := by
  refine ⟨entries, published, forall_setScript distinct member acting fun b memberB other => ?_,
    fun t opened notAttempt => ?_⟩
  · obtain ⟨done, rest, whole, pending, follows⟩ := booked.attempts b memberB
    exact ⟨done, rest, whole, others b.tx other pending, follows⟩
  · have notAttempt' := not_attempt_of_setScript notAttempt
    exact others t (fun same => notAttempt' a member same.symm)
      (booked.clients t (opens t opened) notAttempt')

theorem retire (booked : Booked h w) {t : TxId}
    (entries : s'.entries.map Entry.side = s'.transfers.flatMap TransferRecord.sides)
    (published : ∀ id, h'.published id = TransferRecord.changesTo id s'.transfers)
    (others : ∀ u, u ≠ t → ∀ {done}, Pending h w.store u done → Pending h' s' u done)
    (opens : ∀ u, s'.isOpen u = true → w.store.isOpen u = true ∧ u ≠ t) :
    Booked h' (w.retire s' t) := by
  refine ⟨entries, published, forall_retire fun b memberB other => ?_,
    fun u opened notAttempt => ?_⟩
  · obtain ⟨done, rest, whole, pending, follows⟩ := booked.attempts b memberB
    exact ⟨done, rest, whole, others b.tx other pending, follows⟩
  · obtain ⟨wasOpen, other⟩ := opens u opened
    have notAttempt' := not_attempt_of_retire other notAttempt
    exact others u other (booked.clients u wasOpen notAttempt')

theorem ledger_step {s s' : Store} {r : Request} (tracks : Store.Tracks h s)
    (stepped : Store.Step s r s')
    (entries : s.entries.map Entry.side = s.transfers.flatMap TransferRecord.sides)
    (published : ∀ id, h.published id = TransferRecord.changesTo id s.transfers)
    (settled : ∀ v, r = .commit v → Settled h s v) :
    s'.entries.map Entry.side = s'.transfers.flatMap TransferRecord.sides ∧
      ∀ id, (h ++ r.events s).published id = TransferRecord.changesTo id s'.transfers := by
  have handled := Store.handles stepped.2
  by_cases committing : ∃ v, r = .commit v
  · obtain ⟨v, rfl⟩ := committing
    cases handled
    exact (settled v rfl).commit entries published
  · have notCommit : ∀ v, r ≠ .commit v := fun v same => committing ⟨v, same⟩
    obtain ⟨entriesSame, transfersSame⟩ := handled.records notCommit
    refine ⟨by rw [entriesSame, transfersSame]; exact entries, fun id => ?_⟩
    rw [Store.published_events tracks stepped notCommit, transfersSame]
    exact published id

theorem client {creates : Bool} (booked : Booked h w) (tracks : Store.Tracks h w.store)
    {r : Request} (stepped : Store.Step w.store r s') (byClient : r.ByClient creates)
    (notAttempt : ∀ a ∈ w.attempts, r.tx? ≠ some a.tx) :
    Booked (h ++ r.events w.store) ⟨s', w.attempts⟩ := by
  have handled := Store.handles stepped.2
  have clientOf : ∀ t, r.tx? = some t → ∀ a ∈ w.attempts, a.tx ≠ t :=
    fun t mine a member same => notAttempt a member (same ▸ mine)
  obtain ⟨entries, published⟩ := ledger_step tracks stepped booked.entries booked.published
    fun v named => (booked.clients v (stepped.1 v (by rw [named]; rfl))
      (clientOf v (by rw [named]; rfl))).settled_nil
  refine ⟨entries, published, fun a member => ?_, fun t opened notAttempt' => ?_⟩
  · obtain ⟨done, rest, whole, pending, follows⟩ := booked.attempts a member
    exact ⟨done, rest, whole, pending.other handled (notAttempt a member), follows⟩
  by_cases mine : r.tx? = some t
  · have pending := booked.clients t (stepped.1 t mine) notAttempt'
    cases handled with
    | granted granted =>
      exact pending.frame ((Store.lockRow_sameRecords granted).tx? t) fun _ => rfl
    | notGranted _ | read => exact pending.frame rfl fun _ => rfl
    | commit =>
      simp only [Request.tx?, Option.some.injEq] at mine
      subst mine
      simp [Store.isOpen_commit_self] at opened
    | rollback =>
      simp only [Request.tx?, Option.some.injEq] at mine
      subst mine
      simp [Store.isOpen_discard_self] at opened
    | created _ | createRefused _ | begin => simp [Request.tx?] at mine
    | transfer _ | transferRefused _ | entry _ | entryRefused _ | move _ => cases byClient
  · rcases handled.isOpen_before opened with wasOpen | ⟨rfl, rfl⟩
    · exact (booked.clients t wasOpen notAttempt').other handled mine
    · cases handled
      simpa [Request.events] using Pending.begun tracks

theorem begin (booked : Booked h w) (tracks : Store.Tracks h w.store) (p : TransferParams) :
    Booked h ⟨w.store.begin.1, w.attempts ++ [⟨w.store.nextTx, p, runTransfer p⟩]⟩ := by
  have handled : Store.Handles w.store .begin w.store.begin.1 := .begin
  have kept : ∀ {t done}, Pending h w.store t done → Pending h w.store.begin.1 t done :=
    fun pending => by simpa [Request.events] using pending.other handled (by simp [Request.tx?])
  refine ⟨booked.entries, booked.published, fun a member => ?_, fun t opened notAttempt => ?_⟩
  · rcases List.mem_append.mp member with old | new
    · obtain ⟨done, rest, whole, pending, follows⟩ := booked.attempts a old
      exact ⟨done, rest, whole, kept pending, follows⟩
    · rw [List.mem_singleton.mp new]
      exact ⟨[], planned p, rfl, Pending.begun tracks, runTransfer_follows p⟩
  · rcases handled.isOpen_before opened with wasOpen | ⟨-, rfl⟩
    · exact kept (booked.clients t wasOpen fun a member =>
        notAttempt a (List.mem_append_left _ member))
    · exact absurd rfl (notAttempt _ (List.mem_append_right _ (List.mem_singleton_self _)))

theorem serve (booked : Booked h w) (consistent : Consistent h w) {a : Attempt}
    (member : a ∈ w.attempts) {r : Request} {k : TxScript TransferReceipt}
    (served : a.script.Served w.store a.tx r s' k) :
    Booked (h ++ r.events w.store) (w.setScript s' a.tx k) := by
  have tracks := consistent.run.tracks
  have stepped := served.step (consistent.opened a member)
  have handled := Store.handles stepped.2
  obtain ⟨entries, published⟩ := ledger_step tracks stepped booked.entries booked.published
    fun v same => absurd same (served.keeps v).1
  obtain ⟨done, rest, whole, pending, follows⟩ := booked.attempts a member
  have present : ∀ {fromId toId amount next}, a.script = .moveBalances fromId toId amount next →
      w.store.hasAccount fromId = true ∧ w.store.hasAccount toId = true := by
    intro fromId toId amount next script
    rw [script] at follows
    obtain ⟨rest', consumed, -⟩ := follows (.ok 0)
    rw [Effect.consume_ok consumed] at whole
    exact pending.hasAccounts consistent.run.reachable.checked (transfer_mem_of_planned whole)
  obtain ⟨done', rest', same, pending', follows'⟩ := served.pending pending follows present
  refine booked.setScript consistent.distinct member entries published
    (fun t other _ pending => pending.other handled (by rw [served.tx?]; simpa using Ne.symm other))
    (fun t opened => (handled.isOpen_before opened).resolve_right fun opening => ?_)
    ⟨done', rest', same.trans whole, pending', follows'⟩
  have named := served.tx?
  rw [opening.1] at named
  cases named

theorem pass (booked : Booked h w) (distinct : (w.attempts.map (·.tx)).Nodup) {a : Attempt}
    (member : a ∈ w.attempts) {k : TxScript TransferReceipt} (next : a.script.quietNext? = some k) :
    Booked h (w.setScript w.store a.tx k) := by
  obtain ⟨done, rest, whole, pending, follows⟩ := booked.attempts a member
  exact booked.setScript distinct member booked.entries booked.published
    (fun _ _ _ pending => pending) (fun _ opened => opened)
    ⟨done, rest, whole, pending, TxScript.follows_quietNext follows next⟩

theorem conflict (booked : Booked h w) (distinct : (w.attempts.map (·.tx)).Nodup)
    {a : Attempt} (member : a ∈ w.attempts) {id : AccountId}
    {next : Except InfraError (Option Account) → TxScript TransferReceipt}
    (script : a.script = .lockForUpdate id next) (e : InfraError) :
    Booked h (w.setScript w.store a.tx (next (.error e))) := by
  obtain ⟨done, rest, whole, pending, follows⟩ := booked.attempts a member
  rw [script] at follows
  exact booked.setScript distinct member booked.entries booked.published
    (fun _ _ _ pending => pending) (fun _ opened => opened) ⟨done, rest, whole, pending, follows _⟩

theorem miscount (booked : Booked h w) (consistent : Consistent h w) {a : Attempt}
    (member : a ∈ w.attempts) {fromId toId : AccountId} {amount : Decimal}
    {next : Except InfraError Nat → TxScript TransferReceipt} {n : Nat}
    (script : a.script = .moveBalances fromId toId amount next)
    (moved : w.store.moveBalances a.tx fromId toId amount = .done s' (.ok n)) :
    Booked (h ++ (Request.move a.tx fromId toId amount).events w.store)
      (w.setScript s' a.tx (next (.ok (n - 1)))) := by
  have tracks := consistent.run.tracks
  have stepped : Store.Step w.store (.move a.tx fromId toId amount) s' :=
    ⟨fun u named => by cases named; exact consistent.opened a member, by simp [Store.handle, moved]⟩
  have handled := Store.handles stepped.2
  obtain ⟨entries, published⟩ := ledger_step tracks stepped booked.entries booked.published
    fun v same => by cases same
  obtain ⟨done, rest, whole, pending, follows⟩ := booked.attempts a member
  rw [script] at follows
  obtain ⟨rest', consumed, after⟩ := follows (.ok (n - 1))
  rw [Effect.consume_ok consumed] at whole
  obtain ⟨hasFrom, hasTo⟩ :=
    pending.hasAccounts consistent.run.reachable.checked (transfer_mem_of_planned whole)
  refine booked.setScript consistent.distinct member entries published
    (fun t other _ pending => pending.other handled (by simpa [Request.tx?] using Ne.symm other))
    (fun t opened => (handled.isOpen_before opened).resolve_right fun opening => by cases opening.1)
    ⟨done ++ [.move fromId toId amount], rest', by simpa using whole,
      pending.moved hasFrom hasTo moved, after⟩

theorem commit (booked : Booked h w) (consistent : Consistent h w) {a : Attempt}
    (member : a ∈ w.attempts) {v : TransferReceipt} (script : a.script = .pure v) :
    Booked (h ++ (Request.commit a.tx).events w.store) (w.retire (w.store.commit a.tx) a.tx) := by
  have tracks := consistent.run.tracks
  have stepped : Store.Step w.store (.commit a.tx) (w.store.commit a.tx) :=
    ⟨fun u named => by cases named; exact consistent.opened a member, rfl⟩
  obtain ⟨done, rest, whole, pending, follows⟩ := booked.attempts a member
  rw [script] at follows
  have finished : rest = [] := follows
  rw [finished, List.append_nil] at whole
  rw [whole] at pending
  obtain ⟨entries, published⟩ := ledger_step tracks stepped booked.entries booked.published
    fun _ same => by cases same; exact pending.settled_planned
  exact booked.retire entries published
    (fun u other _ pending => pending.other .commit (by simpa [Request.tx?] using Ne.symm other))
    fun u opened => ⟨(Store.Handles.commit.isOpen_before opened).resolve_right
      (fun opening => by cases opening.1),
      (fun same => by rw [same, Store.isOpen_commit_self] at opened; cases opened)⟩

theorem abort (booked : Booked h w) (t : TxId) : Booked h (w.retire (w.store.discard t) t) := by
  have handled : Store.Handles w.store (.rollback t) (w.store.discard t) := .rollback
  exact booked.retire booked.entries booked.published
    (fun u other _ pending => by
      simpa [Request.events] using
        pending.other handled (by simpa [Request.tx?] using Ne.symm other))
    fun u opened =>
        ⟨(handled.isOpen_before opened).resolve_right (fun opening => by cases opening.1),
      (fun same => by rw [same, Store.isOpen_discard_self] at opened; cases opened)⟩

end Booked

variable {faulty creates : Bool} {h : History} {w : World}

/-- Every world reached from the empty store keeps the books. -/
theorem Run.booked (run : World.Run faulty creates {} h w) : Booked h w := by
  induction run with
  | start => exact Booked.start
  | client run stepped _ notAttempt ih =>
    exact ih.client (run.consistent Store.Run.empty).run.tracks stepped ‹_› notAttempt
  | begin p run ih => exact ih.begin (run.consistent Store.Run.empty).run.tracks p
  | serve run member served ih => exact ih.serve (run.consistent Store.Run.empty) member served
  | pass run member next ih => exact ih.pass (run.consistent Store.Run.empty).distinct member next
  | conflict e _ run member script ih =>
    exact ih.conflict (run.consistent Store.Run.empty).distinct member script e
  | miscount _ run member script moved ih =>
    exact ih.miscount (run.consistent Store.Run.empty) member script moved
  | commit run member script ih => exact ih.commit (run.consistent Store.Run.empty) member script
  | abort run member ih => exact ih.abort _

/-- Double-entry bookkeeping under any interleaving of transfer attempts with other clients, with
any faults, from the empty store: every committed transfer moves a positive amount; the committed
entries are exactly the debit and the credit of each committed transfer, in commit order, so
there are twice as many entries as transfers; and each committed balance is its account's
opening balance with the change of each committed transfer that touches it added in commit
order, each addition rounded as the store rounds it. -/
theorem Run.double_entry (run : World.Run faulty creates {} h w) :
    (∀ r ∈ w.store.transfers, r.amount.le Decimal.zero = false) ∧
    w.store.entries.map Entry.side = w.store.transfers.flatMap TransferRecord.sides ∧
    w.store.entries.length = 2 * w.store.transfers.length ∧
    ∀ c ∈ w.store.accounts, ∃ b, h.opening c.id = some b ∧
      applyDeltas b (TransferRecord.changesTo c.id w.store.transfers) = some c.balance := by
  have consistent := run.consistent Store.Run.empty
  have booked := run.booked
  refine ⟨consistent.run.reachable.checked.committed, booked.entries, ?_, fun c member => ?_⟩
  · rw [← TransferRecord.length_flatMap_sides, ← booked.entries, List.length_map]
  · obtain ⟨b, opened, added⟩ := consistent.run.tracks.committed c member
    exact ⟨b, opened, booked.published c.id ▸ added⟩

theorem committed_transfer_books :
    ∃ h w, World.Run false true {} h w ∧ w.store.transfers.length = 1 ∧
      ((∀ r ∈ w.store.transfers, r.amount.le Decimal.zero = false) ∧
        w.store.entries.map Entry.side = w.store.transfers.flatMap TransferRecord.sides ∧
        w.store.entries.length = 2 * w.store.transfers.length ∧
        ∀ c ∈ w.store.accounts, ∃ b, h.opening c.id = some b ∧
          applyDeltas b (TransferRecord.changesTo c.id w.store.transfers) = some c.balance) := by
  have first : World.Run false true {} _ _ :=
    World.Run.client (r := .createAccount "a" ⟨100, 0, false, by decide⟩ .usd) World.Run.start
      ⟨(fun _ noTx => by cases noTx), rfl⟩ rfl (fun _ member => by cases member)
  have second := World.Run.client (r := .createAccount "b" ⟨100, 0, false, by decide⟩ .usd) first
    ⟨(fun _ noTx => by cases noTx), rfl⟩ rfl (fun _ member => by cases member)
  have begun := World.Run.begin ⟨1, 2, ⟨⟨5, 0, false, by decide⟩, by decide⟩⟩ second
  have started := World.Run.pass begun List.mem_cons_self rfl
  have lockedFrom := World.Run.serve started List.mem_cons_self (TxScript.Served.granted rfl)
  have lockedTo := World.Run.serve lockedFrom List.mem_cons_self (TxScript.Served.granted rfl)
  have locked := World.Run.pass lockedTo List.mem_cons_self rfl
  have verified := World.Run.pass locked List.mem_cons_self rfl
  have recorded := World.Run.serve verified List.mem_cons_self (TxScript.Served.transfer rfl)
  have debited := World.Run.serve recorded List.mem_cons_self (TxScript.Served.entry rfl)
  have credited := World.Run.serve debited List.mem_cons_self (TxScript.Served.entry rfl)
  have written := World.Run.pass credited List.mem_cons_self rfl
  have moved := World.Run.serve written List.mem_cons_self (TxScript.Served.move rfl)
  have updated := World.Run.pass moved List.mem_cons_self rfl
  have readFrom := World.Run.serve updated List.mem_cons_self TxScript.Served.view
  have readTo := World.Run.serve readFrom List.mem_cons_self TxScript.Served.view
  have run := World.Run.commit readTo List.mem_cons_self rfl
  exact ⟨_, _, run, rfl, Run.double_entry run⟩

end World

namespace TransferService

/-- A committed balance need not be its opening balance plus its entries: a credit of 1 to a
balance that uses the whole mantissa at scale 28 is rounded to scale 27. The account ends at
8.922816251426433759354395034, while its opening balance 7.9228162514264337593543950335 plus its
one entry of 1 is 8.9228162514264337593543950335. -/
theorem credit_rounds_committed_balance :
    (({} : TransferService).execute
        { store :=
            { accounts := [⟨1, "a", ⟨79228162514264337593543950335, 28, false, by decide⟩, .usd⟩,
                ⟨2, "b", ⟨100, 0, false, by decide⟩, .usd⟩], nextAccount := 3 } }
        ⟨2, 1, ⟨⟨1, 0, false, by decide⟩, by decide⟩⟩).1.store.account? 1 =
      some ⟨1, "a", ⟨8922816251426433759354395034, 27, false, by decide⟩, .usd⟩ ∧
    (({} : TransferService).execute
        { store :=
            { accounts := [⟨1, "a", ⟨79228162514264337593543950335, 28, false, by decide⟩, .usd⟩,
                ⟨2, "b", ⟨100, 0, false, by decide⟩, .usd⟩], nextAccount := 3 } }
        ⟨2, 1, ⟨⟨1, 0, false, by decide⟩, by decide⟩⟩).1.store.entriesOf 1 =
            [⟨2, 1, ⟨1, 0, false, by decide⟩⟩] :=
  ⟨rfl, rfl⟩

end TransferService

end TransferLedger
