import TransferLedger.Proofs.Store.Alone
import TransferLedger.Proofs.Store.History

/-! The balance update as the one statement over two rows it stands for: every new balance is
computed from the rows as they were when the update began, and the first row that fails decides the
outcome. -/

namespace TransferLedger

namespace Store

variable {s s' : Store} {t : TxId} {fromId toId : AccountId} {amount : Decimal}

def updatedRows (s : Store) (fromId toId : AccountId) : List AccountId :=
  (updateOrder fromId toId).filter s.hasAccount

/-- The balance that an update of `amount` from `fromId` to `toId` gives account `id`: the
transaction's own balance of it with the update's change added; `none` when the sum overflows. -/
def newBalance? (s : Store) (t : TxId) (fromId toId : AccountId) (amount : Decimal)
    (id : AccountId) : Option Decimal :=
  (s.viewRow t id).bind fun row => (balanceDelta fromId toId id amount).bind row.balance.add?

def newBalances (s : Store) (t : TxId) (fromId toId : AccountId) (amount : Decimal)
    (ids : List AccountId) : List (AccountId × Decimal) :=
  ids.filterMap fun id => (s.newBalance? t fromId toId amount id).map (id, ·)

/-- The new balance of an account passes the update's check: it is computed and not negative. -/
def Passes (s : Store) (t : TxId) (fromId toId : AccountId) (amount : Decimal)
    (id : AccountId) : Prop :=
  ∃ b, s.newBalance? t fromId toId amount id = some b ∧ b.lt Decimal.zero = false

def Free (s : Store) (t : TxId) (ids : List AccountId) : Prop :=
  ∀ id ∈ ids, s.heldRow? t id = none → s.otherHolder? t id = none

instance (s : Store) (t : TxId) (ids : List AccountId) : Decidable (s.Free t ids) :=
  inferInstanceAs (Decidable (∀ id ∈ ids, s.heldRow? t id = none → s.otherHolder? t id = none))

theorem balanceDelta_units (fromId toId id : AccountId) (amount : Decimal) :
    ∃ d, balanceDelta fromId toId id amount = some d ∧ d.scale ≤ amount.scale ∧
      d.unitsAt amount.scale = (if id = toId then amount.unitsAt amount.scale else 0) -
        (if id = fromId then amount.unitsAt amount.scale else 0) := by
  have vanishes : ∀ d : Decimal, d.mantissa = 0 → ∀ k, d.unitsAt k = 0 := by
    intro d zeroed k
    simp [Decimal.unitsAt, zeroed]
  by_cases zeroed : amount.mantissa = 0
  · -- a zero amount is its own change, whichever side the row is on
    have units := vanishes amount zeroed amount.scale
    by_cases debited : id = fromId <;> by_cases credited : id = toId <;>
      simp [balanceDelta, debited, credited, Decimal.sub?, Decimal.add?, Decimal.isZero, zeroed,
        Decimal.zero, units, vanishes]
  · by_cases debited : id = fromId <;> by_cases credited : id = toId
    · subst debited
      subst credited
      simp [balanceDelta, Decimal.sub?, Decimal.zero, Decimal.isZero, zeroed,
        Decimal.add?_neg_self zeroed, vanishes]
    · subst debited
      simp [balanceDelta, credited, Decimal.sub?, Decimal.zero, Decimal.isZero, zeroed,
        Decimal.unitsAt_neg]
    · subst credited
      simp [balanceDelta, debited, Decimal.add?, Decimal.zero, Decimal.isZero]
    · simp [balanceDelta, debited, credited, Decimal.zero, vanishes]

/-! ## The rows visited -/

theorem mem_updatedRows {id : AccountId} :
    id ∈ s.updatedRows fromId toId ↔ (id = fromId ∨ id = toId) ∧ s.hasAccount id = true := by
  simp [updatedRows, mem_updateOrder]

theorem updatedRows_ascending (s : Store) (fromId toId : AccountId) :
    (s.updatedRows fromId toId).Pairwise (· < ·) := by
  apply List.Pairwise.filter
  unfold updateOrder
  split
  · simp
  · split
    · simpa
    · rename_i apart below
      simpa using Std.lt_of_le_of_ne (Int.not_lt.mp below) (Ne.symm apart)

/-! ## Locks keep what a transaction sees -/

theorem otherHolder?_modifyTx {f : OpenTx → OpenTx} (keeps : ∀ tx, (f tx).id = tx.id)
    (id : AccountId) : (s.modifyTx t f).otherHolder? t id = s.otherHolder? t id := by
  have same : ((fun tx : OpenTx => tx.id != t && tx.held.any (·.id == id)) ∘
      fun tx => if tx.id == t then f tx else tx) =
      fun tx => tx.id != t && tx.held.any (·.id == id) := by
    funext tx
    by_cases mine : tx.id = t <;> simp [mine, keeps]
  simp only [otherHolder?, modifyTx_openTxs, List.find?_map, same, Option.map_map]
  cases found : s.openTxs.find? (fun tx => tx.id != t && tx.held.any (·.id == id)) with
  | none => rfl
  | some tx => by_cases mine : tx.id = t <;> simp [mine, keeps]

theorem viewRow_of_granted {id : AccountId} {row : Account}
    (granted : s.lockRow t id = .granted s' row) :
    s.viewRow t id = some row ∧ ∀ id', s'.viewRow t id' = s.viewRow t id' := by
  rcases lockRow_granted granted with ⟨held, rfl⟩ | ⟨unheld, found, -, rfl⟩
  · exact ⟨by simp [viewRow, held], fun _ => rfl⟩
  refine ⟨by simp [viewRow, unheld, found], fun id' => ?_⟩
  have sameId := (account?_eq_some found).2
  have keeps : ∀ tx : OpenTx, ({ tx with held := tx.held ++ [row] } : OpenTx).id = tx.id :=
    fun _ => rfl
  cases lookup : s.tx? t with
  | none => simp [viewRow, heldRow?, tx?_modifyTx_self keeps, lookup]
  | some tx =>
    have notHeld : tx.held.find? (·.id == id) = none := by
      rwa [heldRow?_of_tx? lookup] at unheld
    by_cases same : id' = id
    · subst same
      simp [viewRow, heldRow?, tx?_modifyTx_self keeps, lookup, notHeld, sameId, found]
    · simp [viewRow, heldRow?, tx?_modifyTx_self keeps, lookup, sameId, Ne.symm same]

theorem otherHolder?_of_granted {id : AccountId} {row : Account}
    (granted : s.lockRow t id = .granted s' row) (id' : AccountId) :
    s'.otherHolder? t id' = s.otherHolder? t id' := by
  rcases lockRow_granted granted with ⟨-, rfl⟩ | ⟨-, -, -, rfl⟩
  · rfl
  · exact otherHolder?_modifyTx (f := fun tx => { tx with held := tx.held ++ [row] })
      (fun _ => rfl) id'

namespace Locks

theorem trans {s₁ s₂ s₃ : Store} (first : Locks t s₁ s₂) (second : Locks t s₂ s₃) :
    Locks t s₁ s₃ := by
  induction first with
  | refl => exact second
  | grant granted _ ih => exact .grant granted (ih second)

theorem viewRow (locks : Locks t s s') (id : AccountId) : s'.viewRow t id = s.viewRow t id := by
  induction locks with
  | refl => rfl
  | grant granted _ ih => rw [ih, (viewRow_of_granted granted).2]

theorem otherHolder? (locks : Locks t s s') (id : AccountId) :
    s'.otherHolder? t id = s.otherHolder? t id := by
  induction locks with
  | refl => rfl
  | grant granted _ ih => rw [ih, otherHolder?_of_granted granted]

end Locks

/-! ## One visit of the update loop -/

section Visit

variable {id : AccountId} {rest : List AccountId} {updates : List (AccountId × Decimal)}

theorem lockRow_of_free (found : s.hasAccount id = true)
    (free : s.heldRow? t id = none → s.otherHolder? t id = none) :
    ∃ s₂ row, s.lockRow t id = .granted s₂ row := by
  unfold lockRow
  cases held : s.heldRow? t id with
  | some row => exact ⟨s, row, rfl⟩
  | none =>
    obtain ⟨row, committed⟩ := Option.isSome_iff_exists.mp ((account?_isSome s id).trans found)
    exact ⟨s.modifyTx t fun tx => { tx with held := tx.held ++ [row] }, row,
      by simp [committed, free held]⟩

theorem lockRow_of_missing (sound : Sound s) (opened : s.isOpen t = true)
    (missing : s.hasAccount id = false) : s.lockRow t id = .absent := by
  cases asked : s.lockRow t id with
  | absent => rfl
  | granted s₂ row =>
    rw [hasAccount_of_granted sound opened asked] at missing
    cases missing
  | waiting =>
    have uncommitted : s.account? id = none := by
      rw [← Option.not_isSome_iff_eq_none, account?_isSome, missing]
      decide
    unfold lockRow at asked
    split at asked <;> simp_all

theorem moveAlong_skip (absent : s.lockRow t id = .absent) :
    moveAlong t fromId toId amount s (id :: rest) updates =
      moveAlong t fromId toId amount s rest updates := by
  rw [moveAlong, absent]

theorem moveAlong_computed {s₂ : Store} {row : Account} {b : Decimal}
    (granted : s.lockRow t id = .granted s₂ row)
    (computed : s.newBalance? t fromId toId amount id = some b) :
    moveAlong t fromId toId amount s (id :: rest) updates =
      if b.lt Decimal.zero then
        .done s₂ (.error (.constraint ("balance of account " ++ toString id ++ " would become " ++
          b.render)))
      else moveAlong t fromId toId amount s₂ rest (updates ++ [(id, b)]) := by
  simp only [newBalance?, (viewRow_of_granted granted).1, Option.bind_some] at computed
  obtain ⟨delta, change, added⟩ := Option.bind_eq_some_iff.mp computed
  rw [moveAlong, granted]
  simp only [change, added]

theorem moveAlong_pass {s₂ : Store} {row : Account} {b : Decimal}
    (granted : s.lockRow t id = .granted s₂ row)
    (computed : s.newBalance? t fromId toId amount id = some b)
    (kept : b.lt Decimal.zero = false) :
    moveAlong t fromId toId amount s (id :: rest) updates =
      moveAlong t fromId toId amount s₂ rest (updates ++ [(id, b)]) := by
  rw [moveAlong_computed granted computed, if_neg (ne_true_of_eq_false kept)]

theorem moveAlong_refuse {s₂ : Store} {row : Account} {b : Decimal}
    (granted : s.lockRow t id = .granted s₂ row)
    (computed : s.newBalance? t fromId toId amount id = some b)
    (negative : b.lt Decimal.zero = true) :
    moveAlong t fromId toId amount s (id :: rest) updates =
      .done s₂ (.error (.constraint ("balance of account " ++ toString id ++ " would become " ++
        b.render))) := by
  rw [moveAlong_computed granted computed, if_pos negative]

theorem moveAlong_overflow {s₂ : Store} {row : Account}
    (granted : s.lockRow t id = .granted s₂ row)
    (overflow : s.newBalance? t fromId toId amount id = none) :
    moveAlong t fromId toId amount s (id :: rest) updates = .panicked "Addition overflowed" := by
  simp only [newBalance?, (viewRow_of_granted granted).1, Option.bind_some] at overflow
  rw [moveAlong, granted]
  cases change : balanceDelta fromId toId id amount with
  | none => rfl
  | some delta =>
    rw [change, Option.bind_some] at overflow
    simp [overflow]

end Visit

/-! ## Runs of passing rows -/

theorem moveAlong_passing (rest : List AccountId) (pre : List AccountId) :
    ∀ {s : Store} (updates : List (AccountId × Decimal)), Sound s → s.isOpen t = true →
      s.Free t pre → (∀ id ∈ pre, s.hasAccount id = true → s.Passes t fromId toId amount id) →
      ∃ s₁, Locks t s s₁ ∧
        (∀ id, (s₁.heldRow? t id).isSome ↔
          (s.heldRow? t id).isSome ∨ (id ∈ pre ∧ s.hasAccount id = true)) ∧
        moveAlong t fromId toId amount s (pre ++ rest) updates =
          moveAlong t fromId toId amount s₁ rest
            (updates ++ s.newBalances t fromId toId amount (pre.filter s.hasAccount)) := by
  induction pre with
  | nil =>
    intro s updates _ _ _ _
    exact ⟨s, .refl s, by simp, by simp [newBalances]⟩
  | cons id pre ih =>
    intro s updates sound opened free passing
    by_cases found : s.hasAccount id = true
    · obtain ⟨s₂, row, granted⟩ := lockRow_of_free found (free id List.mem_cons_self)
      obtain ⟨b, computed, kept⟩ := passing id List.mem_cons_self found
      have held : ∀ id', s₂.heldRow? t id' =
          (s.heldRow? t id').or (if id = id' then some row else none) := fun _ =>
        heldRow?_granted sound opened granted
      have accounts := hasAccount_of_touches (lockRow_touches granted)
      have balances : s₂.newBalance? t fromId toId amount = s.newBalance? t fromId toId amount := by
        funext id'
        simp [newBalance?, (viewRow_of_granted granted).2]
      obtain ⟨s₁, locks, heldAfter, ran⟩ := ih (updates ++ [(id, b)]) (sound.lockRow opened granted)
        (((lockRow_touches granted).isOpen t).trans opened)
        (fun id' member unheld => by
          rw [otherHolder?_of_granted granted]
          rw [held id', Option.or_eq_none_iff] at unheld
          exact free id' (List.mem_cons_of_mem _ member) unheld.1)
        (fun id' member found' => by
          rw [accounts] at found'
          unfold Passes
          rw [balances]
          exact passing id' (List.mem_cons_of_mem _ member) found')
      refine ⟨s₁, .grant granted locks, fun id' => ?_, ?_⟩
      · rw [heldAfter id', held id', accounts]
        by_cases same : id = id'
        · subst same
          simp [found]
        · simp [same, Ne.symm same]
      · have news : s₂.newBalances t fromId toId amount = s.newBalances t fromId toId amount := by
          funext ids
          simp [newBalances, balances]
        rw [List.cons_append, moveAlong_pass granted computed kept, ran, accounts, news,
          List.filter_cons_of_pos found]
        simp [newBalances, computed]
    · have missing : s.hasAccount id = false := by simpa using found
      obtain ⟨s₁, locks, heldAfter, ran⟩ := ih updates sound opened
        (fun id' member => free id' (List.mem_cons_of_mem _ member))
        (fun id' member => passing id' (List.mem_cons_of_mem _ member))
      refine ⟨s₁, locks, fun id' => ?_, ?_⟩
      · rw [heldAfter id']
        by_cases same : id = id'
        · subst same
          simp [missing]
        · simp [Ne.symm same]
      · rw [List.cons_append, moveAlong_skip (lockRow_of_missing sound opened missing), ran,
          List.filter_cons_of_neg found]

/-! ## Staging -/

theorem heldRow?_id {id : AccountId} {row : Account} (held : s.heldRow? t id = some row) :
    row.id = id := by
  obtain ⟨tx, -, lookup⟩ := Option.bind_eq_some_iff.mp held
  simpa using List.find?_some lookup

theorem heldRow?_stageBalances (updates : List (AccountId × Decimal)) (id : AccountId) :
    (s.stageBalances t updates).heldRow? t id = (s.heldRow? t id).map (restage updates) := by
  have keeps : ∀ tx : OpenTx, ({ tx with held := tx.held.map (restage updates) } : OpenTx).id =
      tx.id := fun _ => rfl
  have sameId : ((fun row : Account => row.id == id) ∘ restage updates) = fun row =>
      row.id == id := by
    funext row
    simp
  have lookup : ∀ held : List Account, (held.map (restage updates)).find? (·.id == id) =
      (held.find? (·.id == id)).map (restage updates) := by
    intro held
    rw [List.find?_map, sameId]
  rw [stageBalances_eq, heldRow?, tx?_modifyTx_self keeps, heldRow?]
  cases s.tx? t with
  | none => rfl
  | some tx => simp [lookup]

theorem find?_newBalances (ids : List AccountId) (id : AccountId) :
    (s.newBalances t fromId toId amount ids).find? (·.1 == id) =
      if id ∈ ids then (s.newBalance? t fromId toId amount id).map (id, ·) else none := by
  induction ids with
  | nil => simp [newBalances]
  | cons id' ids ih =>
    cases computed : s.newBalance? t fromId toId amount id' with
    | none =>
      have skip : s.newBalances t fromId toId amount (id' :: ids) =
          s.newBalances t fromId toId amount ids := by
        simp [newBalances, computed]
      rw [skip, ih]
      by_cases same : id' = id
      · subst same
        simp [computed]
      · simp [Ne.symm same]
    | some b =>
      have keep : s.newBalances t fromId toId amount (id' :: ids) =
          (id', b) :: s.newBalances t fromId toId amount ids := by
        simp [newBalances, computed]
      rw [keep, List.find?_cons, ih]
      by_cases same : id' = id
      · subst same
        simp [computed]
      · rw [beq_eq_false_iff_ne.mpr same]
        simp [Ne.symm same]

theorem length_newBalances {ids : List AccountId}
    (computed : ∀ id ∈ ids, (s.newBalance? t fromId toId amount id).isSome) :
    (s.newBalances t fromId toId amount ids).length = ids.length := by
  induction ids with
  | nil => rfl
  | cons id ids ih =>
    obtain ⟨b, found⟩ := Option.isSome_iff_exists.mp (computed id List.mem_cons_self)
    simp [newBalances, found, ← ih (fun id' member => computed id' (List.mem_cons_of_mem _ member)),
      newBalances]

/-! ## What the whole update does -/

theorem updatedRows_split {pre post : List AccountId} {id : AccountId}
    (rows : s.updatedRows fromId toId = pre ++ id :: post) :
    ∃ before after, updateOrder fromId toId = before ++ id :: after ∧
      before.filter s.hasAccount = pre ∧ s.hasAccount id = true := by
  obtain ⟨l₁, l₂, whole, front, back⟩ := List.filter_eq_append_iff.mp rows
  obtain ⟨m₁, m₂, rest, passed, found, -⟩ := List.filter_eq_cons_iff.mp back
  refine ⟨l₁ ++ m₁, m₂, by rw [whole, rest, List.append_assoc], ?_, found⟩
  rw [List.filter_append, front, List.filter_eq_nil_iff.mpr passed, List.append_nil]

section Outcomes

variable (sound : Sound s) (opened : s.isOpen t = true) (free : s.Free t (updateOrder fromId toId))
include sound opened free

theorem moveBalances_of_passes
    (passing : ∀ id ∈ s.updatedRows fromId toId, s.Passes t fromId toId amount id) :
    ∃ s', s.moveBalances t fromId toId amount = .done s' (.ok (s.updatedRows fromId toId).length) ∧
      Touches t s s' ∧
      ∀ id, s'.heldRow? t id =
        if id ∈ s.updatedRows fromId toId then
          (s.viewRow t id).bind fun row =>
            (s.newBalance? t fromId toId amount id).map fun balance => { row with balance }
        else s.heldRow? t id := by
  obtain ⟨s₁, locks, heldAfter, ran⟩ := moveAlong_passing [] (updateOrder fromId toId) [] sound
    opened free fun id member found => passing id (List.mem_filter.mpr ⟨member, found⟩)
  have counted : (s.newBalances t fromId toId amount (s.updatedRows fromId toId)).length =
      (s.updatedRows fromId toId).length := length_newBalances fun id member => by
    obtain ⟨b, computed, -⟩ := passing id member
    simp [computed]
  refine ⟨s₁.stageBalances t (s.newBalances t fromId toId amount (s.updatedRows fromId toId)), ?_,
    locks.touches.trans (stageBalances_touches _ _ _), fun id => ?_⟩
  · rw [moveBalances, ← List.append_nil (updateOrder fromId toId), ran, moveAlong,
      List.nil_append, ← updatedRows, counted]
  rw [heldRow?_stageBalances]
  by_cases visited : id ∈ s.updatedRows fromId toId
  · obtain ⟨row, seen⟩ : ∃ row, s₁.heldRow? t id = some row := by
      apply Option.isSome_iff_exists.mp
      exact (heldAfter id).mpr (.inr (List.mem_filter.mp visited))
    have sameView : s.viewRow t id = some row := by
      rw [← locks.viewRow id]
      simp [viewRow, seen]
    obtain ⟨b, computed, -⟩ := passing id visited
    simp [seen, sameView, visited, restage, find?_newBalances, computed, heldRow?_id seen]
  · have sameHeld : s₁.heldRow? t id = s.heldRow? t id := by
      cases before : s.heldRow? t id with
      | some row => exact locks.heldRow? sound opened before
      | none =>
        apply Option.not_isSome_iff_eq_none.mp
        rw [heldAfter id, before]
        simpa [updatedRows] using visited
    rw [sameHeld, if_neg visited]
    cases before : s.heldRow? t id with
    | none => rfl
    | some row => simp [restage, find?_newBalances, heldRow?_id before, visited]

theorem moveBalances_reaches {pre post : List AccountId} {id : AccountId}
    (rows : s.updatedRows fromId toId = pre ++ id :: post)
    (passing : ∀ id' ∈ pre, s.Passes t fromId toId amount id') :
    ∃ s₁ s₂ row after updates, Locks t s s₁ ∧ s₁.lockRow t id = .granted s₂ row ∧
      (∀ id', (s₂.heldRow? t id').isSome ↔ (s.heldRow? t id').isSome ∨ id' ∈ pre ++ [id]) ∧
      s₁.newBalance? t fromId toId amount id = s.newBalance? t fromId toId amount id ∧
      s.moveBalances t fromId toId amount = moveAlong t fromId toId amount s₁
          (id :: after) updates := by
  obtain ⟨before, after, order, front, found⟩ := updatedRows_split rows
  have inOrder : id ∈ updateOrder fromId toId := by simp [order]
  obtain ⟨s₁, locks, heldAfter, ran⟩ := moveAlong_passing (id :: after) before [] sound opened
    (fun id' member => free id' (by simp [order, member]))
    (fun id' member found' => passing id'
        (by rw [← front]; exact List.mem_filter.mpr ⟨member, found'⟩))
  have sound₁ := locks.sound sound opened
  have opened₁ := (locks.touches.isOpen t).trans opened
  have accounts := hasAccount_of_touches locks.touches
  have unheld : s₁.heldRow? t id = none → s₁.otherHolder? t id = none := by
    intro none₁
    rw [locks.otherHolder?]
    apply free id inOrder
    cases before' : s.heldRow? t id with
    | none => rfl
    | some row => rw [locks.heldRow? sound opened before'] at none₁; cases none₁
  obtain ⟨s₂, row, granted⟩ := lockRow_of_free (by rw [accounts]; exact found) unheld
  refine ⟨s₁, s₂, row, after, _, locks, granted, fun id' => ?_, ?_, by
      rw [moveBalances, order, ran]⟩
  · rw [heldRow?_granted sound₁ opened₁ granted, Option.isSome_or, Bool.or_eq_true, heldAfter id',
      ← front]
    by_cases same : id = id'
    · subst same
      simp
    · simp [same, Ne.symm same, List.mem_filter]
  · simp [newBalance?, locks.viewRow]

theorem moveBalances_of_overflow {pre post : List AccountId} {id : AccountId}
    (rows : s.updatedRows fromId toId = pre ++ id :: post)
    (passing : ∀ id' ∈ pre, s.Passes t fromId toId amount id')
    (overflow : s.newBalance? t fromId toId amount id = none) :
    s.moveBalances t fromId toId amount = .panicked "Addition overflowed" := by
  obtain ⟨s₁, s₂, row, after, updates, -, granted, -, balance, ran⟩ :=
    moveBalances_reaches sound opened free rows passing
  rw [ran, moveAlong_overflow granted (balance.trans overflow)]

theorem moveBalances_of_negative {pre post : List AccountId} {id : AccountId} {b : Decimal}
    (rows : s.updatedRows fromId toId = pre ++ id :: post)
    (passing : ∀ id' ∈ pre, s.Passes t fromId toId amount id')
    (computed : s.newBalance? t fromId toId amount id = some b)
    (negative : b.lt Decimal.zero = true) :
    ∃ s', s.moveBalances t fromId toId amount =
        .done s' (.error (.constraint ("balance of account " ++ toString id ++ " would become " ++
          b.render))) ∧
      Touches t s s' ∧ (∀ id', s'.viewRow t id' = s.viewRow t id') ∧
      ∀ id', (s'.heldRow? t id').isSome ↔ (s.heldRow? t id').isSome ∨ id' ∈ pre ++ [id] := by
  obtain ⟨s₁, s₂, row, after, updates, locks, granted, held, balance, ran⟩ :=
    moveBalances_reaches sound opened free rows passing
  refine ⟨s₂, by rw [ran, moveAlong_refuse granted (balance.trans computed) negative],
    locks.touches.trans (lockRow_touches granted), fun id' => ?_, held⟩
  rw [(viewRow_of_granted granted).2, locks.viewRow]

end Outcomes

/-- What a balance update does when no other transaction holds one of its rows, as the one
statement over both rows it stands for. It visits the existing accounts among its two ends, once
each and in ascending id order, and gives each the transaction's own balance with the update's
exact change added in decimal arithmetic. If every new balance is computed and none is negative,
all are staged and the update counts the rows; otherwise the first row that fails decides: an
overflowing sum stops the program, and a negative balance refuses the update, which leaves every
row the transaction sees as it was and has only taken the locks of the rows it visited. -/
structure OneStatement (s : Store) (t : TxId) (fromId toId : AccountId) (amount : Decimal) :
    Prop where
  ascending : (s.updatedRows fromId toId).Pairwise (· < ·)
  rows : ∀ id, id ∈ s.updatedRows fromId toId ↔ (id = fromId ∨ id = toId) ∧ s.hasAccount id = true
  change : ∀ id, ∃ d, balanceDelta fromId toId id amount = some d ∧ d.scale ≤ amount.scale ∧
    d.unitsAt amount.scale = (if id = toId then amount.unitsAt amount.scale else 0) -
      (if id = fromId then amount.unitsAt amount.scale else 0)
  stages : (∀ id ∈ s.updatedRows fromId toId, s.Passes t fromId toId amount id) →
    ∃ s', s.moveBalances t fromId toId amount = .done s' (.ok (s.updatedRows fromId toId).length) ∧
      Touches t s s' ∧
      ∀ id, s'.heldRow? t id =
        if id ∈ s.updatedRows fromId toId then
          (s.viewRow t id).bind fun row =>
            (s.newBalance? t fromId toId amount id).map fun balance => { row with balance }
        else s.heldRow? t id
  overflows : ∀ pre id post, s.updatedRows fromId toId = pre ++ id :: post →
    (∀ id' ∈ pre, s.Passes t fromId toId amount id') →
    s.newBalance? t fromId toId amount id = none →
    s.moveBalances t fromId toId amount = .panicked "Addition overflowed"
  refuses : ∀ pre id post b, s.updatedRows fromId toId = pre ++ id :: post →
    (∀ id' ∈ pre, s.Passes t fromId toId amount id') →
    s.newBalance? t fromId toId amount id = some b → b.lt Decimal.zero = true →
    ∃ s', s.moveBalances t fromId toId amount =
        .done s' (.error (.constraint ("balance of account " ++ toString id ++ " would become " ++
          b.render))) ∧
      Touches t s s' ∧ (∀ id', s'.viewRow t id' = s.viewRow t id') ∧
      ∀ id', (s'.heldRow? t id').isSome ↔ (s.heldRow? t id').isSome ∨ id' ∈ pre ++ [id]

/-- The balance update of an open transaction of a sound store, on rows no other transaction
holds, acts as one statement. -/
theorem moveBalances_acts_as_one_statement (sound : Sound s) (opened : s.isOpen t = true)
    (free : s.Free t (updateOrder fromId toId)) : s.OneStatement t fromId toId amount where
  ascending := updatedRows_ascending s fromId toId
  rows _ := mem_updatedRows
  change id := balanceDelta_units fromId toId id amount
  stages := moveBalances_of_passes sound opened free
  overflows _ _ _ rows passing := moveBalances_of_overflow sound opened free rows passing
  refuses _ _ _ _ rows passing := moveBalances_of_negative sound opened free rows passing

theorem move_between_two_rows_acts_as_one_statement :
    ∃ s : Store, runFrom {} [.createAccount "a" ⟨100, 0, false, by decide⟩ .usd,
        .createAccount "b" ⟨0, 0, false, by decide⟩ .usd, .begin] =
        some ([.opened 1 ⟨100, 0, false, by decide⟩, .opened 2 ⟨0, 0, false, by decide⟩], s) ∧
      Sound s ∧ s.isOpen 0 = true ∧ s.Free 0 (updateOrder 2 1) ∧
      s.OneStatement 0 2 1 ⟨60, 0, false, by decide⟩ := by
  have ran : runFrom {} [.createAccount "a" ⟨100, 0, false, by decide⟩ .usd,
      .createAccount "b" ⟨0, 0, false, by decide⟩ .usd, .begin] =
      some ([.opened 1 ⟨100, 0, false, by decide⟩, .opened 2 ⟨0, 0, false, by decide⟩],
        { accounts :=
            [⟨1, "a", ⟨100, 0, false, by decide⟩, .usd⟩, ⟨2, "b", ⟨0, 0, false, by decide⟩, .usd⟩]
          nextAccount := 3
          openTxs := [{ id := 0 }]
          nextTx := 1 }) := rfl
  have sound := (Run.empty.runFrom ran).reachable.sound
  refine ⟨_, ran, sound, rfl, by decide, moveBalances_acts_as_one_statement sound rfl (by decide)⟩

/-- An update that credits one to a balance at the largest mantissa stops the program, although
its new balance would not be negative. -/
theorem credit_at_largest_balance_stops_update :
    ∃ h s, runFrom {}
        [.createAccount "a" ⟨79228162514264337593543950335, 0, false, by decide⟩ .usd, .begin] =
        some (h, s) ∧
      s.viewRow 0 1 = some ⟨1, "a", ⟨79228162514264337593543950335, 0, false, by decide⟩, .usd⟩ ∧
      s.moveBalances 0 2 1 ⟨1, 0, false, by decide⟩ = .panicked "Addition overflowed" :=
  ⟨_, _, rfl, rfl, rfl⟩

end Store

end TransferLedger
