import TransferLedger.Proofs.Store.Sound

/-! The balance update of a transaction: rows are visited in ascending id order, and nothing is
staged until every new balance has passed. -/

namespace TransferLedger

namespace Store

variable {s s' : Store} {t : TxId}

/-! ## Granted locks -/

theorem lockRow_absent {id : AccountId} (absent : s.lockRow t id = .absent) :
    s.hasAccount id = false := by
  unfold lockRow at absent
  split at absent
  · cases absent
  · split at absent
    · rename_i missing
      rw [← account?_isSome, missing]
      rfl
    · split at absent <;> cases absent

theorem Sound.hasAccount_of_held (sound : Sound s) {tx : OpenTx} (member : tx ∈ s.openTxs)
    {row : Account} (held : row ∈ tx.held) : s.hasAccount row.id = true := by
  obtain ⟨c, committed, copy⟩ := sound.heldCommitted tx member row held
  exact (hasAccount_iff s row.id).mpr ⟨c, committed, by rw [← copy]⟩

theorem hasAccount_of_granted (sound : Sound s) (opened : s.isOpen t = true) {id : AccountId}
    {row : Account} (granted : s.lockRow t id = .granted s' row) : s.hasAccount id = true := by
  rcases lockRow_granted granted with ⟨held, -⟩ | ⟨-, found, -⟩
  · obtain ⟨tx, member, rfl, lookup⟩ := tx?_of_isOpen sound opened
    rw [heldRow?_of_tx? lookup] at held
    have same : row.id = id := by simpa using List.find?_some held
    exact same ▸ sound.hasAccount_of_held member (List.mem_of_find?_eq_some held)
  · exact hasAccount_of_account? found

theorem heldRow?_granted (sound : Sound s) (opened : s.isOpen t = true) {id id' : AccountId}
    {row : Account} (granted : s.lockRow t id = .granted s' row) :
    s'.heldRow? t id' = (s.heldRow? t id').or (if id = id' then some row else none) := by
  obtain ⟨tx, -, rfl, lookup⟩ := tx?_of_isOpen sound opened
  rcases lockRow_granted granted with ⟨held, rfl⟩ | ⟨-, found, -, rfl⟩
  · by_cases same : id = id'
    · subst same
      simp [held]
    · simp [same]
  · have keeps : ∀ tx : OpenTx, ({ tx with held := tx.held ++ [row] } : OpenTx).id = tx.id :=
      fun _ => rfl
    have sameId := (account?_eq_some found).2
    simp only [heldRow?, tx?_modifyTx_self keeps, lookup, Option.map_some, Option.bind_some,
      List.find?_append, List.find?_cons, List.find?_nil, sameId]
    by_cases same : id = id'
    · simp [same]
    · simp [same, beq_eq_false_iff_ne.mpr same]

theorem heldRow?_of_granted (sound : Sound s) (opened : s.isOpen t = true) {id : AccountId}
    {row : Account} (granted : s.lockRow t id = .granted s' row) : s'.heldRow? t id = some row := by
  rw [heldRow?_granted sound opened granted]
  rcases lockRow_granted granted with ⟨held, -⟩ | ⟨held, -⟩ <;> simp [held]

theorem hasAccount_of_touches {u : TxId} (touches : Touches u s s') :
    s'.hasAccount = s.hasAccount := by
  have same : s'.accounts = s.accounts := congrArg Ledger.accounts touches.ledger
  funext id
  simp only [hasAccount, same]

/-! ## Staging -/

def restage (updates : List (AccountId × Decimal)) (row : Account) : Account :=
  match updates.find? (·.1 == row.id) with
  | some (_, balance) => { row with balance }
  | none => row

theorem stageBalances_eq (s : Store) (t : TxId) (updates : List (AccountId × Decimal)) :
    s.stageBalances t updates =
      s.modifyTx t fun tx => { tx with held := tx.held.map (restage updates) } := rfl

@[simp] theorem restage_id (updates : List (AccountId × Decimal)) (row : Account) :
    (restage updates row).id = row.id := by
  unfold restage
  split <;> rfl

theorem updateOrder_nodup (fromId toId : AccountId) : (updateOrder fromId toId).Nodup := by
  unfold updateOrder
  split
  · exact List.nodup_singleton _
  · rename_i distinct
    split
    · simpa using distinct
    · simpa [eq_comm] using distinct

theorem mem_updateOrder {fromId toId id : AccountId} :
    id ∈ updateOrder fromId toId ↔ id = fromId ∨ id = toId := by
  unfold updateOrder
  split
  · rename_i same
    subst same
    simp
  · split <;> simp [or_comm]

theorem mem_updateOrder_from (fromId toId : AccountId) : fromId ∈ updateOrder fromId toId :=
  mem_updateOrder.mpr (.inl rfl)

theorem mem_updateOrder_to (fromId toId : AccountId) : toId ∈ updateOrder fromId toId :=
  mem_updateOrder.mpr (.inr rfl)

theorem forall_mem_updateOrder {P : AccountId → Prop} {fromId toId : AccountId} (ofFrom : P fromId)
    (ofTo : P toId) : ∀ id ∈ updateOrder fromId toId, P id := by
  intro id member
  rcases mem_updateOrder.mp member with rfl | rfl
  · exact ofFrom
  · exact ofTo

/-! ## Runs of granted locks -/

/-- `after` is reached from `before` by row locks granted to transaction `t`. -/
inductive Locks (t : TxId) : Store → Store → Prop where
  | refl (s : Store) : Locks t s s
  | grant {s s₁ s₂ : Store} {id : AccountId} {row : Account} :
      s.lockRow t id = .granted s₁ row → Locks t s₁ s₂ → Locks t s s₂

namespace Locks

theorem touches (locks : Locks t s s') : Touches t s s' := by
  induction locks with
  | refl s => exact Touches.refl s t
  | grant granted _ rest => exact (lockRow_touches granted).trans rest

theorem sound (locks : Locks t s s') (sound : Sound s) (opened : s.isOpen t = true) :
    Sound s' := by
  induction locks with
  | refl s => exact sound
  | grant granted _ rest =>
    exact rest (sound.lockRow opened granted) (((lockRow_touches granted).isOpen t).trans opened)

theorem heldRow? (locks : Locks t s s') (sound : Sound s) (opened : s.isOpen t = true)
    {id : AccountId} {row : Account} (held : s.heldRow? t id = some row) :
    s'.heldRow? t id = some row := by
  induction locks with
  | refl s => exact held
  | grant granted _ rest =>
    refine rest (sound.lockRow opened granted)
        (((lockRow_touches granted).isOpen t).trans opened) ?_
    rw [heldRow?_granted sound opened granted, held]
    rfl

end Locks

/-! ## What a balance update ends in -/

/-- What a balance update that still has `ids` to visit, with the new balances `updates` computed
so far, ends in from store `s`. A success locks the existing rows among `ids`, computes each new
balance from the transaction's own row, finds none negative and stages them all; a refusal or a
wait leaves only the locks it took; an overflow stops the program. -/
def MoveOutcome (t : TxId) (fromId toId : AccountId) (amount : Decimal) (s : Store)
    (ids : List AccountId) (updates : List (AccountId × Decimal)) : StoreStep Nat → Prop
  | .done s' (.ok n) => ∃ s₁ news, Locks t s s₁ ∧ news.map (·.1) = ids.filter s.hasAccount ∧
      (∀ p ∈ news, ∃ row delta, s₁.heldRow? t p.1 = some row ∧
        balanceDelta fromId toId p.1 amount = some delta ∧ row.balance.add? delta = some p.2 ∧
        p.2.lt Decimal.zero = false) ∧
      s' = s₁.stageBalances t (updates ++ news) ∧ n = (updates ++ news).length
  | .done s' (.error _) => Locks t s s'
  | .waiting s' => Locks t s s'
  | .panicked _ => True

section Outcome

variable {fromId toId : AccountId} {amount : Decimal} {id : AccountId}
  {rest : List AccountId} {updates : List (AccountId × Decimal)}

theorem MoveOutcome.skip (missing : s.hasAccount id = false) :
    ∀ {r : StoreStep Nat}, MoveOutcome t fromId toId amount s rest updates r →
      MoveOutcome t fromId toId amount s (id :: rest) updates r
  | .done _ (.ok _), ⟨s₁, news, locks, ids, computed, staged, counted⟩ =>
    ⟨s₁, news, locks, by rw [List.filter_cons_of_neg (by simp [missing]), ids], computed, staged,
      counted⟩
  | .done _ (.error _), locks => locks
  | .waiting _, locks => locks
  | .panicked _, _ => trivial

theorem MoveOutcome.grant (sound : Sound s) (opened : s.isOpen t = true) {s₂ : Store}
    {row : Account} {delta balance : Decimal} (granted : s.lockRow t id = .granted s₂ row)
    (change : balanceDelta fromId toId id amount = some delta)
    (added : row.balance.add? delta = some balance) (kept : balance.lt Decimal.zero = false) :
    ∀ {r : StoreStep Nat}, MoveOutcome t fromId toId amount s₂ rest (updates ++ [(id, balance)]) r →
      MoveOutcome t fromId toId amount s (id :: rest) updates r
  | .done _ (.ok _), ⟨s₁, news, locks, ids, computed, staged, counted⟩ => by
    have sound₂ := sound.lockRow opened granted
    have opened₂ := ((lockRow_touches granted).isOpen t).trans opened
    refine ⟨s₁, (id, balance) :: news, .grant granted locks, ?_, ?_, ?_, ?_⟩
    · rw [List.filter_cons_of_pos (hasAccount_of_granted sound opened granted),
        ← hasAccount_of_touches (lockRow_touches granted), ← ids]
      rfl
    · rintro p (_ | ⟨_, member⟩)
      · exact ⟨row, delta, locks.heldRow? sound₂ opened₂ (heldRow?_of_granted sound opened granted),
          change, added, kept⟩
      · exact computed p member
    · rw [staged, List.append_assoc]
      rfl
    · rw [counted, List.append_assoc]
      rfl
  | .done _ (.error _), locks => Locks.grant granted locks
  | .waiting _, locks => Locks.grant granted locks
  | .panicked _, _ => trivial

/-- The balance update of an open transaction of a sound store ends as `MoveOutcome` says. -/
theorem moveAlong_spec : ∀ {s : Store} (ids : List AccountId)
    (updates : List (AccountId × Decimal)),
    Sound s → s.isOpen t = true →
      MoveOutcome t fromId toId amount s ids updates (moveAlong t fromId toId amount s ids updates)
  | s, [], updates, _, _ => by
    simp only [moveAlong, MoveOutcome]
    exact ⟨s, [], .refl s, rfl, by simp, by simp, by simp⟩
  | s, id :: rest, updates, sound, opened => by
    simp only [moveAlong]
    split
    · rename_i absent
      exact MoveOutcome.skip (lockRow_absent absent) (moveAlong_spec rest updates sound opened)
    · exact Locks.refl s
    · rename_i s₂ row granted
      split
      · exact trivial
      · rename_i delta change
        split
        · exact trivial
        · rename_i balance added
          split
          · exact Locks.grant granted (.refl _)
          · rename_i kept
            exact MoveOutcome.grant sound opened granted change added (Bool.eq_false_iff.mpr kept)
              (moveAlong_spec rest _ (sound.lockRow opened granted)
                (((lockRow_touches granted).isOpen t).trans opened))

theorem moveBalances_spec (sound : Sound s) (opened : s.isOpen t = true) :
    MoveOutcome t fromId toId amount s (updateOrder fromId toId) []
      (s.moveBalances t fromId toId amount) :=
  moveAlong_spec _ _ sound opened

end Outcome

end Store

end TransferLedger
