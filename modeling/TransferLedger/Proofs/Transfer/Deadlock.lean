import TransferLedger.Proofs.Transfer.World

/-! Transfer attempts never deadlock: each takes its two row locks in ascending id order, so along a
chain of waiting attempts the ids asked for climb and the waits-for relation has no cycle. -/

namespace TransferLedger

namespace Store

variable {s s' : Store} {t u : TxId} {tx : OpenTx}

theorem mem_heldIds (found : s.tx? t = some tx) (id : AccountId) :
    id ∈ s.heldIds t ↔ id ∈ tx.heldIds := by
  simp [heldIds, found, List.mem_mergeSort, OpenTx.heldIds]

theorem heldIds_of_closed (closed : s.tx? t = none) : s.heldIds t = [] := by
  simp [heldIds, closed]

theorem Sound.heldIds_apart (sound : Sound s) (apart : t ≠ u) {id : AccountId}
    (held : id ∈ s.heldIds t) : id ∉ s.heldIds u := by
  cases found : s.tx? t with
  | none => simp [heldIds_of_closed found] at held
  | some tx =>
    cases found' : s.tx? u with
    | none => simp [heldIds_of_closed found']
    | some tx' =>
      rw [mem_heldIds found']
      obtain ⟨member, rfl⟩ := tx?_eq_some found
      obtain ⟨member', rfl⟩ := tx?_eq_some found'
      exact sound.exclusive tx member tx' member' apart id ((mem_heldIds found id).mp held)

/-! ## Balance updates over held rows -/

theorem lockRow_of_held (found : s.tx? t = some tx) {id : AccountId} (held : id ∈ tx.heldIds) :
    ∃ row, s.lockRow t id = .granted s row := by
  obtain ⟨row, mine, rfl⟩ := List.mem_map.mp held
  cases seen : tx.held.find? (·.id == row.id) with
  | none => exact absurd (List.find?_eq_none.mp seen row mine) (by simp)
  | some row' => exact ⟨row', by simp [lockRow, heldRow?_of_tx? found, seen]⟩

theorem moveAlong_of_held (found : s.tx? t = some tx) {fromId toId : AccountId}
    {amount : Decimal} (ids : List AccountId) (updates : List (AccountId × Decimal))
    (held : ∀ id ∈ ids, id ∈ tx.heldIds) :
    moveAlong t fromId toId amount s ids updates = .panicked "Addition overflowed" ∨
      (∃ r, moveAlong t fromId toId amount s ids updates = .done s r) ∨
      ∃ staged r, moveAlong t fromId toId amount s ids updates = .done
          (s.stageBalances t staged) r := by
  induction ids generalizing updates with
  | nil => exact .inr (.inr ⟨updates, _, by rw [moveAlong]⟩)
  | cons id rest ih =>
    obtain ⟨row, granted⟩ := lockRow_of_held found (held id List.mem_cons_self)
    cases changes : balanceDelta fromId toId id amount with
    | none => exact .inl (by simp [moveAlong, granted, changes])
    | some delta =>
      cases added : row.balance.add? delta with
      | none => exact .inl (by simp [moveAlong, granted, changes, added])
      | some balance =>
        by_cases negative : balance.lt Decimal.zero = true
        · exact .inr (.inl (by simp [moveAlong, granted, changes, added, negative]))
        · have next := ih (updates ++ [(id, balance)])
            fun id' later => held id' (List.mem_cons_of_mem _ later)
          simpa [moveAlong, granted, changes, added, negative] using next

variable {fromId toId : AccountId} {amount : Decimal}

theorem moveBalances_of_held_ne_waiting (found : s.tx? t = some tx)
    (hasFrom : fromId ∈ tx.heldIds) (hasTo : toId ∈ tx.heldIds) :
    s.moveBalances t fromId toId amount ≠ .waiting s' := by
  intro waits
  have held : ∀ id ∈ updateOrder fromId toId, id ∈ tx.heldIds :=
    forall_mem_updateOrder hasFrom hasTo
  unfold moveBalances at waits
  rcases moveAlong_of_held found _ [] held with ended | ⟨r, ended⟩ | ⟨staged, r, ended⟩ <;>
    rw [ended] at waits <;> cases waits

theorem moveBalances_of_held_done (found : s.tx? t = some tx)
    (hasFrom : fromId ∈ tx.heldIds) (hasTo : toId ∈ tx.heldIds) {r : Except InfraError Nat}
    (moved : s.moveBalances t fromId toId amount = .done s' r) :
    ∃ tx', s'.tx? t = some tx' ∧ tx'.heldIds = tx.heldIds := by
  have held : ∀ id ∈ updateOrder fromId toId, id ∈ tx.heldIds :=
    forall_mem_updateOrder hasFrom hasTo
  unfold moveBalances at moved
  rcases moveAlong_of_held found _ [] held with ended | ⟨r', ended⟩ | ⟨staged, r', ended⟩ <;>
    rw [ended] at moved
  · cases moved
  · cases moved
    exact ⟨tx, found, rfl⟩
  · cases moved
    rw [stageBalances_eq]
    exact ⟨_, tx?_modifyTx_of found fun _ => rfl, by simp [OpenTx.heldIds]⟩

end Store

def TransferParams.accounts (p : TransferParams) : List AccountId :=
  [p.fromAccountId, p.toAccountId]

namespace TxScript

variable {α β : Type}

def afterLock (held : List AccountId) (id : AccountId) :
    Except InfraError (Option Account) → List AccountId
  | .ok (some _) => held ++ [id]
  | .ok none | .error _ => held

/-- Whatever the store answers, the script asks for row locks of `own` only, each above every
lock it holds, and updates balances of rows it holds only; when it ends with a value `v`,
`post v` holds of the locks it then holds. `held` are the locks it holds now, in the order
taken. -/
def LocksUpward (own : List AccountId) :
    TxScript α → (α → List AccountId → Prop) → List AccountId → Prop
  | .pure v, post, held => post v held
  | .fail _, _, _ => True
  | .lockForUpdate id next, post, held =>
    id ∈ own ∧ (∀ lower ∈ held, lower < id) ∧
      ∀ r, LocksUpward own (next r) post (afterLock held id r)
  | .view _ next, post, held => ∀ r, LocksUpward own (next r) post held
  | .recordTransfer _ _ _ next, post, held => ∀ r, LocksUpward own (next r) post held
  | .recordEntry _ _ next, post, held => ∀ r, LocksUpward own (next r) post held
  | .moveBalances fromId toId _ next, post, held =>
    fromId ∈ held ∧ toId ∈ held ∧ ∀ r, LocksUpward own (next r) post held
  | .log _ next, post, held | .note _ next, post, held => LocksUpward own next post held

/-- The row locks the next request of a script asks for: the row a read for update names, and
the rows a balance update changes. -/
def asks : TxScript α → List AccountId
  | .lockForUpdate id _ => [id]
  | .moveBalances fromId toId _ _ => Store.updateOrder fromId toId
  | _ => []

variable {own : List AccountId}

theorem locksUpward_bind (k : TxScript α) (f : α → TxScript β)
    (post : β → List AccountId → Prop) :
    ∀ held, (k.bind f).LocksUpward own post held ↔
      k.LocksUpward own (fun v rest => (f v).LocksUpward own post rest) held := by
  induction k with
  | pure v | fail e => intro held; rfl
  | lockForUpdate _ _ ih | view _ _ ih | recordTransfer _ _ _ _ ih | recordEntry _ _ _ ih
  | moveBalances _ _ _ _ ih =>
    intro held
    simp only [bind, LocksUpward, ih]
  | log _ _ ih | note _ _ ih =>
    intro held
    simp only [bind, LocksUpward, ih]

variable {post : α → List AccountId → Prop} {held : List AccountId}

@[simp] theorem locksUpward_emit (e : LogEvent) {post : Unit → List AccountId → Prop} :
    (emit e).LocksUpward own post held ↔ post () held := Iff.rfl

theorem locksUpward_orFail (r : Except InfraError α) (ok : ∀ v, post v held) :
    (orFail r).LocksUpward own post held := by
  cases r with
  | error e => trivial
  | ok v => exact ok v

theorem locksUpward_lock {id : AccountId} {post : Option Account → List AccountId → Prop}
    (mine : id ∈ own) (above : ∀ lower ∈ held, lower < id)
    (ok : ∀ row, post row (afterLock held id (.ok row))) : (lock id).LocksUpward own post held := by
  refine ⟨mine, above, fun r => ?_⟩
  cases r with
  | error e => trivial
  | ok row => exact ok row

theorem locksUpward_read (id : AccountId) {post : Option Account → List AccountId → Prop}
    (ok : ∀ row, post row held) : (read id).LocksUpward own post held :=
  fun r => locksUpward_orFail r ok

theorem locksUpward_newTransfer {fromId toId : AccountId} {amount : Decimal}
    {post : TransferRecord → List AccountId → Prop} (ok : ∀ record, post record held) :
    (newTransfer fromId toId amount).LocksUpward own post held :=
  fun r => locksUpward_orFail r ok

theorem locksUpward_newEntry {accountId : AccountId} {amount : Decimal}
    {post : Entry → List AccountId → Prop} (ok : ∀ entry, post entry held) :
    (newEntry accountId amount).LocksUpward own post held :=
  fun r => locksUpward_orFail r ok

theorem locksUpward_move {fromId toId : AccountId} {amount : Decimal}
    {post : Nat → List AccountId → Prop} (hasFrom : fromId ∈ held) (hasTo : toId ∈ held)
    (ok : ∀ count, post count held) : (move fromId toId amount).LocksUpward own post held :=
  ⟨hasFrom, hasTo, fun r => locksUpward_orFail r ok⟩

theorem LocksUpward.quietNext {k k' : TxScript α} (upward : k.LocksUpward own post held)
    (next : k.quietNext? = some k') : k'.LocksUpward own post held := by
  cases k with
  | log _ rest | note _ rest =>
    cases next
    exact upward
  | _ => cases next

theorem LocksUpward.asks {k : TxScript α} (upward : k.LocksUpward own post held)
    (mine : ∀ id ∈ held, id ∈ own) {id : AccountId} (asked : id ∈ k.asks) :
    id ∈ own ∧ (id ∈ held ∨ ∀ lower ∈ held, lower < id) := by
  cases k with
  | lockForUpdate id' next =>
    obtain rfl := List.mem_singleton.mp asked
    exact ⟨upward.1, .inr upward.2.1⟩
  | moveBalances fromId toId amount next =>
    have holds : id ∈ held := Store.forall_mem_updateOrder upward.1 upward.2.1 id asked
    exact ⟨mine id holds, .inl holds⟩
  | _ => simp [TxScript.asks] at asked

end TxScript

open TxScript

theorem lockAccounts_locksUpward (fromId toId : AccountId)
    {post : LockedAccounts → List AccountId → Prop}
    (ok : ∀ locked held, (locked.fromAccount.isSome → fromId ∈ held) →
      (locked.toAccount.isSome → toId ∈ held) → post locked held) :
    (lockAccounts fromId toId).LocksUpward [fromId, toId] post [] := by
  unfold lockAccounts
  split
  · rename_i same
    subst same
    rw [bind_eq, locksUpward_bind]
    refine locksUpward_lock (by simp) (by simp) fun row => ok _ _ ?_ ?_ <;>
      cases row <;> simp [afterLock]
  · rename_i apart
    unfold canonicalOrder
    by_cases order : fromId ≤ toId
    · have below : fromId < toId := Int.lt_iff_le_and_ne.mpr ⟨order, apart⟩
      simp only [order, if_true, bind_eq, locksUpward_bind]
      refine locksUpward_lock (by simp) (by simp) fun fromRow =>
        locksUpward_lock (by simp) ?_ fun toRow => ?_
      · cases fromRow <;> simp [afterLock, below]
      · refine ok _ _ ?_ ?_ <;> cases fromRow <;> cases toRow <;> simp [afterLock]
    · have below : toId < fromId := Int.not_le.mp order
      simp only [order, if_false, bind_eq, locksUpward_bind]
      refine locksUpward_lock (by simp) (by simp) fun toRow =>
        locksUpward_lock (by simp) ?_ fun fromRow => ?_
      · cases toRow <;> simp [afterLock, below]
      · rw [if_neg (Ne.symm apart)]
        refine ok _ _ ?_ ?_ <;> cases fromRow <;> cases toRow <;> simp [afterLock]

theorem runTransfer_locksUpward (p : TransferParams) :
    (runTransfer p).LocksUpward p.accounts (fun _ _ => True) [] := by
  simp only [runTransfer, bind_eq, locksUpward_bind, locksUpward_emit, throw_bind]
  apply lockAccounts_locksUpward
  rintro ⟨_ | fromAccount, _ | toAccount⟩ held hasFrom hasTo
  · trivial
  · trivial
  · dsimp only
    split
    · trivial
    · trivial
  dsimp only
  split
  · trivial
  simp only [Option.isNone_some, Bool.false_eq_true, if_false, locksUpward_bind,
    locksUpward_emit]
  refine locksUpward_newTransfer fun transfer => locksUpward_newEntry fun fromEntry =>
    locksUpward_newEntry fun toEntry =>
      locksUpward_move (hasFrom rfl) (hasTo rfl) fun affected => ?_
  by_cases mismatch : affected ≠ if p.isSelfTransfer then 1 else 2
  · rw [if_pos mismatch]
    trivial
  rw [if_neg mismatch]
  simp only [locksUpward_bind, locksUpward_emit]
  refine locksUpward_read _ fun fromRow => ?_
  rcases fromRow with _ | fromRow
  · trivial
  simp only [locksUpward_bind]
  refine locksUpward_read _ fun toRow => ?_
  rcases toRow with _ | toRow
  · trivial
  trivial

namespace TxScript

variable {α : Type} {s s' : Store} {t : TxId} {own : List AccountId}
  {post : α → List AccountId → Prop} {k k' : TxScript α} {r : Request} {tx : OpenTx}

theorem Served.locksUpward (found : s.tx? t = some tx) (mine : ∀ id ∈ tx.heldIds, id ∈ own)
    (upward : k.LocksUpward own post tx.heldIds) (served : k.Served s t r s' k') :
    ∃ tx', s'.tx? t = some tx' ∧ (∀ id ∈ tx'.heldIds, id ∈ own) ∧
      k'.LocksUpward own post tx'.heldIds := by
  cases served with
  | absent _ => exact ⟨tx, found, mine, upward.2.2 (.ok none)⟩
  | @granted id next s' row granted =>
    obtain ⟨asked, above, rest⟩ := upward
    rcases Store.lockRow_granted granted with ⟨held, -⟩ | ⟨-, committed, -, rfl⟩
    · -- a row it held already would lie below itself
      rw [Store.heldRow?_of_tx? found] at held
      have same : row.id = id := by simpa using List.find?_some held
      have holds : id ∈ tx.heldIds :=
        same ▸ List.mem_map_of_mem (List.mem_of_find?_eq_some held)
      exact absurd (above id holds) (Int.lt_irrefl id)
    · have same : row.id = id := (Store.account?_eq_some committed).2
      have grown : ({ tx with held := tx.held ++ [row] } : OpenTx).heldIds =
          tx.heldIds ++ [id] := by
        simp [OpenTx.heldIds, same]
      refine ⟨_, Store.tx?_modifyTx_of found fun _ => rfl, ?_, ?_⟩
      · rw [grown]
        intro id' member
        rcases List.mem_append.mp member with old | new
        · exact mine id' old
        · rw [List.mem_singleton.mp new]
          exact asked
      · rw [grown]
        exact rest (.ok (some row))
  | view => exact ⟨tx, found, mine, upward _⟩
  | transfer made =>
    obtain ⟨-, -, -, -, rfl⟩ := Store.recordTransfer_ok made
    exact ⟨_, Store.tx?_modifyTx_of found fun _ => rfl, mine, upward _⟩
  | transferRefused _ => exact ⟨tx, found, mine, upward _⟩
  | entry made =>
    obtain ⟨-, -, rfl⟩ := Store.recordEntry_ok made
    exact ⟨_, Store.tx?_modifyTx_of found fun _ => rfl, mine, upward _⟩
  | entryRefused _ => exact ⟨tx, found, mine, upward _⟩
  | move moved =>
    obtain ⟨hasFrom, hasTo, rest⟩ := upward
    obtain ⟨tx', found', same⟩ := Store.moveBalances_of_held_done found hasFrom hasTo moved
    exact ⟨tx', found', same ▸ mine, same ▸ rest _⟩
  | moveWaits waits =>
    exact absurd waits (Store.moveBalances_of_held_ne_waiting found upward.1 upward.2.1)

end TxScript

/-- Attempt `a` in store `s`: its transaction is open and holds rows of the transfer's own two
accounts only, and what is left of its script locks upward from the rows it holds. -/
def Attempt.Upward (s : Store) (a : Attempt) : Prop :=
  ∃ tx, s.tx? a.tx = some tx ∧ (∀ id ∈ tx.heldIds, id ∈ a.params.accounts) ∧
    a.script.LocksUpward a.params.accounts (fun _ _ => True) tx.heldIds

namespace Attempt.Upward

variable {s s' : Store} {a : Attempt}

theorem frame (upward : a.Upward s)
    (kept : ∀ {tx}, s.tx? a.tx = some tx → s'.tx? a.tx = some tx) : a.Upward s' := by
  obtain ⟨tx, found, mine, rest⟩ := upward
  exact ⟨tx, kept found, mine, rest⟩

theorem held (upward : a.Upward s) {id : AccountId} (holds : id ∈ s.heldIds a.tx) :
    id ∈ a.params.accounts := by
  obtain ⟨tx, found, mine, -⟩ := upward
  exact mine id ((Store.mem_heldIds found id).mp holds)

theorem asks (upward : a.Upward s) {id : AccountId} (asked : id ∈ a.script.asks) :
    id ∈ a.params.accounts ∧
      (id ∈ s.heldIds a.tx ∨ ∀ lower ∈ s.heldIds a.tx, lower < id) := by
  obtain ⟨tx, found, mine, rest⟩ := upward
  simp only [Store.mem_heldIds found]
  exact rest.asks mine asked

theorem move_ne_waiting (upward : a.Upward s) {fromId toId : AccountId} {amount : Decimal}
    {next : Except InfraError Nat → TxScript TransferReceipt}
    (script : a.script = .moveBalances fromId toId amount next) :
    s.moveBalances a.tx fromId toId amount ≠ .waiting s' := by
  obtain ⟨tx, found, -, rest⟩ := upward
  rw [script] at rest
  exact Store.moveBalances_of_held_ne_waiting found rest.1 rest.2.1

end Attempt.Upward

namespace World

variable {faulty creates : Bool} {start : Store} {h₀ h : History} {w : World}

section Frame

variable (upward : ∀ a ∈ w.attempts, a.Upward w.store)
include upward

theorem upward_setScript (distinct : (w.attempts.map (·.tx)).Nodup) {a : Attempt}
    (member : a ∈ w.attempts) {s' : Store} {k : TxScript TransferReceipt}
    (others : ∀ b ∈ w.attempts, b.tx ≠ a.tx →
      ∀ {tx}, w.store.tx? b.tx = some tx → s'.tx? b.tx = some tx)
    (moved : ({ a with script := k } : Attempt).Upward s') :
    ∀ b ∈ (w.setScript s' a.tx k).attempts, b.Upward s' :=
  forall_setScript distinct member moved fun b memberB other =>
    (upward b memberB).frame (others b memberB other)

theorem upward_retire {t : TxId} {s' : Store}
    (others : ∀ b ∈ w.attempts, b.tx ≠ t →
      ∀ {tx}, w.store.tx? b.tx = some tx → s'.tx? b.tx = some tx) :
    ∀ b ∈ (w.retire s' t).attempts, b.Upward s' :=
  forall_retire fun b memberB other => (upward b memberB).frame (others b memberB other)

end Frame

/-- In every world reached from a reachable store, whatever the faults and the other clients,
every attempt in flight locks upward. -/
theorem Run.upward (base : Store.Run h₀ start) (run : World.Run faulty creates start h w) :
    ∀ a ∈ w.attempts, a.Upward w.store := by
  induction run with
  | start => simp
  | client _ stepped _ notAttempt ih =>
    exact fun a member => (ih a member).frame
      ((Store.handles stepped.2).tx?_of_other (notAttempt a member))
  | @begin h w p run ih =>
    have sound := (run.consistent base).run.reachable.sound
    intro a member
    rcases List.mem_append.mp member with old | new
    · exact (ih a old).frame (Store.Handles.begin.tx?_of_other (by simp [Request.tx?]))
    · rw [List.mem_singleton.mp new]
      exact ⟨{ id := w.store.nextTx }, Store.tx?_begin sound, by simp [OpenTx.heldIds],
        runTransfer_locksUpward p⟩
  | @serve h w a r s' k run member served ih =>
    obtain ⟨tx, found, mine, rest⟩ := ih a member
    refine upward_setScript ih (run.consistent base).distinct member
      (fun b _ other _ foundB => served.handles.tx?_of_other ?_ foundB)
      (served.locksUpward found mine rest)
    rw [served.tx?]
    simpa using Ne.symm other
  | @pass h w a k run member next ih =>
    obtain ⟨tx, found, mine, rest⟩ := ih a member
    exact upward_setScript ih (run.consistent base).distinct member
      (fun _ _ _ _ kept => kept) ⟨tx, found, mine, rest.quietNext next⟩
  | @conflict h w a id next e _ run member script ih =>
    obtain ⟨tx, found, mine, rest⟩ := ih a member
    rw [script] at rest
    exact upward_setScript ih (run.consistent base).distinct member
      (fun _ _ _ _ kept => kept) ⟨tx, found, mine, rest.2.2 (.error e)⟩
  | @miscount h w a fromId toId amount next s' n _ run member script moved ih =>
    obtain ⟨tx, found, mine, rest⟩ := ih a member
    rw [script] at rest
    obtain ⟨hasFrom, hasTo, after⟩ := rest
    obtain ⟨tx', found', same⟩ := Store.moveBalances_of_held_done found hasFrom hasTo moved
    refine upward_setScript ih (run.consistent base).distinct member
      (fun b _ other _ foundB => (Store.Handles.move (.inl ⟨_, moved⟩)).tx?_of_other ?_ foundB)
      ⟨tx', found', same ▸ mine, same ▸ after _⟩
    simpa [Request.tx?] using Ne.symm other
  | @commit h w a v run member _ ih =>
    exact upward_retire ih fun b _ other _ found =>
      Store.Handles.commit.tx?_of_other (by simpa [Request.tx?] using Ne.symm other) found
  | @abort h w a run member ih =>
    exact upward_retire ih fun b _ other _ found =>
      Store.Handles.rollback.tx?_of_other (by simpa [Request.tx?] using Ne.symm other) found

/-! ## Waiting for locks -/

/-- Attempt `a` waits for attempt `b`: the next request of `a` asks for a row lock that `b`'s
transaction holds. -/
def WaitsFor (w : World) (a b : Attempt) : Prop :=
  a ∈ w.attempts ∧ b ∈ w.attempts ∧ a.tx ≠ b.tx ∧
    ∃ id ∈ a.script.asks, id ∈ w.store.heldIds b.tx

section Waits

variable (upward : ∀ a ∈ w.attempts, a.Upward w.store) (sound : Store.Sound w.store)
include upward sound

theorem blocked_below {a : Attempt} (member : a ∈ w.attempts) {id : AccountId}
    (asked : id ∈ a.script.asks) {u : TxId} (other : u ≠ a.tx) (held : id ∈ w.store.heldIds u) :
    id ∈ a.params.accounts ∧ ∀ lower ∈ w.store.heldIds a.tx, lower < id := by
  obtain ⟨own, order⟩ := (upward a member).asks asked
  exact ⟨own, order.resolve_left (sound.heldIds_apart other held)⟩

theorem WaitsFor.climbs {a b : Attempt} (waits : w.WaitsFor a b) :
    ∃ id, id ∈ w.store.heldIds b.tx ∧ ∀ lower ∈ w.store.heldIds a.tx, lower < id := by
  obtain ⟨member, -, apart, id, asked, held⟩ := waits
  exact ⟨id, held, (blocked_below upward sound member asked (Ne.symm apart) held).2⟩

theorem waitsFor_chain_climbs {a c : Attempt} (chain : Relation.TransGen w.WaitsFor a c) :
    ∃ id, (∀ lower ∈ w.store.heldIds a.tx, lower < id) ∧
      ∃ top ∈ w.store.heldIds c.tx, id ≤ top := by
  induction chain with
  | single waits =>
    obtain ⟨id, held, below⟩ := waits.climbs upward sound
    exact ⟨id, below, id, held, Int.le_refl id⟩
  | tail _ waits ih =>
    obtain ⟨id, below, top, held, climbed⟩ := ih
    obtain ⟨id', held', below'⟩ := waits.climbs upward sound
    exact ⟨id, below, id', held', Int.le_trans climbed (Int.le_of_lt (below' top held))⟩

/-- No attempt waits, through other attempts, for itself. -/
theorem not_waitsFor_cycle (a : Attempt) : ¬ Relation.TransGen w.WaitsFor a a := by
  intro cycle
  obtain ⟨id, below, top, held, climbed⟩ := waitsFor_chain_climbs upward sound cycle
  exact absurd (below top held) (Int.not_lt.mpr climbed)

theorem exists_unblocked_holder (waiting : ∃ a b, w.WaitsFor a b) :
    ∃ b ∈ w.attempts, w.store.heldIds b.tx ≠ [] ∧ ∀ c, ¬ w.WaitsFor b c := by
  obtain ⟨a, b, -, memberB, -, id, -, heldB⟩ := waiting
  cases top : (w.attempts.flatMap fun a => w.store.heldIds a.tx).max? with
  | none =>
    have some : id ∈ w.attempts.flatMap fun a => w.store.heldIds a.tx :=
      List.mem_flatMap.mpr ⟨b, memberB, heldB⟩
    simp [List.max?_eq_none_iff.mp top] at some
  | some m =>
    obtain ⟨highest, greatest⟩ := List.max?_eq_some_iff.mp top
    obtain ⟨holder, member, holds⟩ := List.mem_flatMap.mp highest
    refine ⟨holder, member, List.ne_nil_of_mem holds, fun c waits => ?_⟩
    obtain ⟨id', held', below'⟩ := waits.climbs upward sound
    have atMost : id' ≤ m := greatest id' (List.mem_flatMap.mpr ⟨c, waits.2.1, held'⟩)
    exact absurd (below' m holds) (Int.not_lt.mpr atMost)

theorem WaitsFor.shared {a b : Attempt} (waits : w.WaitsFor a b) :
    ∃ id ∈ a.params.accounts, id ∈ b.params.accounts := by
  obtain ⟨member, memberB, apart, id, asked, held⟩ := waits
  exact ⟨id, (blocked_below upward sound member asked (Ne.symm apart) held).1,
    (upward b memberB).held held⟩

end Waits

/-- Row locks never deadlock transfer attempts. In every world reached from a reachable store,
with any faults and any other clients: an attempt that asks for a lock another transaction
holds asks for one of its own two accounts and holds only locks of lower ids; its balance update
never waits; no attempt waits for itself through other attempts; when some attempt waits, an
attempt that holds locks waits for none; and an attempt waits only for an attempt that shares
one of its accounts. -/
theorem Run.lock_waits_acyclic (base : Store.Run h₀ start)
    (run : World.Run faulty creates start h w) :
    (∀ a ∈ w.attempts, ∀ id ∈ a.script.asks, ∀ u, u ≠ a.tx → id ∈ w.store.heldIds u →
      id ∈ a.params.accounts ∧ ∀ lower ∈ w.store.heldIds a.tx, lower < id) ∧
    (∀ a ∈ w.attempts, ∀ fromId toId amount next,
      a.script = .moveBalances fromId toId amount next →
        ∀ s', w.store.moveBalances a.tx fromId toId amount ≠ .waiting s') ∧
    (∀ a, ¬ Relation.TransGen w.WaitsFor a a) ∧
    ((∃ a b, w.WaitsFor a b) →
      ∃ b ∈ w.attempts, w.store.heldIds b.tx ≠ [] ∧ ∀ c, ¬ w.WaitsFor b c) ∧
    (∀ a b, w.WaitsFor a b → ∃ id ∈ a.params.accounts, id ∈ b.params.accounts) := by
  have upward := run.upward base
  have sound := (run.consistent base).run.reachable.sound
  exact ⟨fun a member _ asked _ other held => blocked_below upward sound member asked other held,
    fun a member _ _ _ _ script _ => (upward a member).move_ne_waiting script,
    not_waitsFor_cycle upward sound, exists_unblocked_holder upward sound,
    fun _ _ waits => waits.shared upward sound⟩

theorem opposite_transfers_wait_in_order :
    ∃ h w, Store.Run [] {} ∧ World.Run false true {} h w ∧ (∃ a b, w.WaitsFor a b) ∧
      (∀ a ∈ w.attempts, ∀ id ∈ a.script.asks, ∀ u, u ≠ a.tx → id ∈ w.store.heldIds u →
        id ∈ a.params.accounts ∧ ∀ lower ∈ w.store.heldIds a.tx, lower < id) ∧
      (∀ a ∈ w.attempts, ∀ fromId toId amount next,
        a.script = .moveBalances fromId toId amount next →
          ∀ s', w.store.moveBalances a.tx fromId toId amount ≠ .waiting s') ∧
      (∀ a, ¬ Relation.TransGen w.WaitsFor a a) ∧
      ((∃ a b, w.WaitsFor a b) →
        ∃ b ∈ w.attempts, w.store.heldIds b.tx ≠ [] ∧ ∀ c, ¬ w.WaitsFor b c) ∧
      (∀ a b, w.WaitsFor a b → ∃ id ∈ a.params.accounts, id ∈ b.params.accounts) := by
  have first : World.Run false true {} _ _ :=
    World.Run.client (r := .createAccount "a" ⟨100, 0, false, by decide⟩ .usd) World.Run.start
      ⟨(fun _ noTx => by cases noTx), rfl⟩ rfl (fun _ member => by cases member)
  have second := World.Run.client (r := .createAccount "b" ⟨100, 0, false, by decide⟩ .usd) first
    ⟨(fun _ noTx => by cases noTx), rfl⟩ rfl (fun _ member => by cases member)
  have forward := World.Run.begin ⟨1, 2, ⟨⟨5, 0, false, by decide⟩, by decide⟩⟩ second
  have backward := World.Run.begin ⟨2, 1, ⟨⟨7, 0, false, by decide⟩, by decide⟩⟩ forward
  have started := World.Run.pass backward
    (List.mem_append_left _ (List.mem_append_right _ (List.mem_singleton_self _))) rfl
  have locked := World.Run.serve started
    (List.mem_map_of_mem (List.mem_append_left _ (List.mem_append_right _
      (List.mem_singleton_self _)))) (TxScript.Served.granted rfl)
  have run := World.Run.pass locked
    (List.mem_map_of_mem (List.mem_map_of_mem (List.mem_append_right _
      (List.mem_singleton_self _)))) rfl
  refine ⟨_, _, Store.Run.empty, run, ?_, Run.lock_waits_acyclic Store.Run.empty run⟩
  exact ⟨_, _, List.mem_map_of_mem (List.mem_map_of_mem (List.mem_map_of_mem
      (List.mem_append_right _ (List.mem_singleton_self _)))),
    List.mem_map_of_mem (List.mem_map_of_mem (List.mem_map_of_mem
      (List.mem_append_left _ (List.mem_append_right _ (List.mem_singleton_self _))))),
    by decide, 1, by decide, (Store.mem_heldIds rfl 1).mpr (by decide)⟩

end World

end TransferLedger
