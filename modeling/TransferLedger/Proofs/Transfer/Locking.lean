import TransferLedger.Proofs.Transfer.Deadlock
import TransferLedger.Proofs.Store.Isolation
import TransferLedger.Proofs.Store.Update

/-! Taking the locks of a transfer's two accounts: it ends exactly when no other transaction holds
either lock, reads the lower id first, and answers the accounts in transfer direction. -/

namespace TransferLedger

theorem canonicalOrder_eq_min_max (a b : AccountId) : canonicalOrder a b = (min a b, max a b) := by
  unfold canonicalOrder
  split
  · rename_i order
    rw [Int.min_eq_left order, Int.max_eq_right order]
  · rename_i order
    have reversed : b ≤ a := Int.le_of_lt (Int.lt_of_not_ge order)
    rw [Int.min_eq_right reversed, Int.max_eq_left reversed]

theorem eq_either_iff_eq_min_or_max {a b c : Int} :
    (c = a ∨ c = b) ↔ (c = min a b ∨ c = max a b) := by
  constructor <;> intro either <;> omega

theorem min_ne_max {a b : Int} (apart : a ≠ b) : min a b ≠ max a b := by
  omega

namespace Request

/-- The reads for update that taking a transfer's locks makes in transaction `t`: the lower id
first, and one read for a self-transfer. -/
def transferLocks (t : TxId) (fromId toId : AccountId) : List Request :=
  if fromId = toId then [.lock t fromId] else [.lock t (min fromId toId), .lock t (max fromId toId)]

end Request

namespace TxScript

variable {α : Type} {s s₁ s₂ s' : Store} {t : TxId} {k k₁ k₂ : TxScript α} {r r₁ r₂ : Request}

/-- `k.ServedAlong t s calls s' k'`: served by the store alone, script `k` of transaction `t`
makes the calls `calls` in order, which take the store from `s` to `s'` and leave the script at
`k'`; the events it reports and the items it hands out pass unseen. -/
inductive ServedAlong (t : TxId) : Store → TxScript α → List Request → Store → TxScript α → Prop
  | nil (s : Store) (k : TxScript α) : ServedAlong t s k [] s k
  | call {s s₁ s' : Store} {k k₁ k' : TxScript α} {r : Request} {calls : List Request} :
      Served s t k r s₁ k₁ → ServedAlong t s₁ k₁ calls s' k' →
        ServedAlong t s k (r :: calls) s' k'
  | quiet {s s' : Store} {k k₁ k' : TxScript α} {calls : List Request} :
      k.quietNext? = some k₁ → ServedAlong t s k₁ calls s' k' →
        ServedAlong t s k calls s' k'

theorem Served.unique (first : Served s t k r₁ s₁ k₁) (second : Served s t k r₂ s₂ k₂) :
    r₁ = r₂ ∧ s₁ = s₂ ∧ k₁ = k₂ := by
  cases first <;> cases second <;> simp_all

theorem Served.quietNext? (served : Served s t k r s₁ k₁) : k.quietNext? = none := by
  cases served <;> rfl

theorem not_served_pure {v : α} : ¬ Served s t (.pure v) r s₁ k₁ := nofun

theorem ServedAlong.unique {calls₁ calls₂ : List Request} {v₁ v₂ : α}
    (first : ServedAlong t s k calls₁ s₁ (.pure v₁))
    (second : ServedAlong t s k calls₂ s₂ (.pure v₂)) :
    calls₁ = calls₂ ∧ s₁ = s₂ ∧ v₁ = v₂ := by
  generalize ended : (TxScript.pure v₁ : TxScript α) = k' at first
  -- on the first run, taking the second apart one step at a time beside it
  induction first generalizing calls₂ s₂ with
  | nil s k =>
    subst ended
    cases second with
    | nil => exact ⟨rfl, rfl, rfl⟩
    | call served _ => exact absurd served not_served_pure
    | quiet next _ => cases next
  | call served _ ih =>
    cases second with
    | nil => exact absurd served not_served_pure
    | call served₂ rest₂ =>
      obtain ⟨rfl, rfl, rfl⟩ := Served.unique served served₂
      obtain ⟨rfl, rfl, rfl⟩ := ih rest₂ ended
      exact ⟨rfl, rfl, rfl⟩
    | quiet next₂ _ =>
      rw [served.quietNext?] at next₂
      cases next₂
  | quiet next _ ih =>
    cases second with
    | nil => cases next
    | call served₂ _ =>
      rw [served₂.quietNext?] at next
      cases next
    | quiet next₂ rest₂ =>
      rw [next] at next₂
      cases next₂
      exact ih rest₂ ended

theorem Served.lockForUpdate_inv {id : AccountId}
    {next : Except InfraError (Option Account) → TxScript α}
    (served : Served s t (.lockForUpdate id next) r s₁ k₁) :
    r = .lock t id ∧ ((s.lockRow t id = .absent ∧ s₁ = s ∧ k₁ = next (.ok none)) ∨
      ∃ row, s.lockRow t id = .granted s₁ row ∧ k₁ = next (.ok (some row))) := by
  cases served with
  | absent absent => exact ⟨rfl, .inl ⟨absent, rfl, rfl⟩⟩
  | granted granted => exact ⟨rfl, .inr ⟨_, granted, rfl⟩⟩

theorem Served.lockForUpdate_next {id : AccountId}
    {next : Except InfraError (Option Account) → TxScript α}
    (served : Served s t (.lockForUpdate id next) r s₁ k₁) :
    s.lockRow t id ≠ .waiting ∧ ∃ row, k₁ = next (.ok row) := by
  obtain ⟨-, ⟨absent, -, rfl⟩ | ⟨row, granted, rfl⟩⟩ := served.lockForUpdate_inv
  · exact ⟨by rw [absent]; nofun, _, rfl⟩
  · exact ⟨by rw [granted]; nofun, _, rfl⟩

theorem ServedAlong.of_lockForUpdate {id : AccountId}
    {next : Except InfraError (Option Account) → TxScript α} {calls : List Request} {v : α}
    (run : ServedAlong t s (.lockForUpdate id next) calls s' (.pure v)) :
    ∃ s₁ k₁ rest, calls = .lock t id :: rest ∧
      Served s t (.lockForUpdate id next) (.lock t id) s₁ k₁ ∧
      ServedAlong t s₁ k₁ rest s' (.pure v) := by
  cases run with
  | call served rest =>
    obtain ⟨rfl, -⟩ := served.lockForUpdate_inv
    exact ⟨_, _, _, rfl, served, rest⟩
  | quiet next _ => cases next

end TxScript

namespace Store

open TxScript

variable {α : Type} {s s₁ s' : Store} {t : TxId} {id : AccountId}

theorem mem_heldIds_iff (s : Store) (t : TxId) (id : AccountId) :
    id ∈ s.heldIds t ↔ (s.heldRow? t id).isSome := by
  cases found : s.tx? t with
  | none => simp [heldIds_of_closed found, heldRow?, found]
  | some tx => simp [mem_heldIds found, heldRow?_of_tx? found, OpenTx.heldIds]

theorem viewRow_of_absent (absent : s.lockRow t id = .absent) : s.viewRow t id = none := by
  unfold lockRow at absent
  unfold viewRow
  split at absent
  · cases absent
  · rename_i unheld
    split at absent
    · rename_i missing
      simp [missing]
    · split at absent <;> cases absent

theorem viewRow_eq_none_iff (sound : Sound s) (opened : s.isOpen t = true) (id : AccountId) :
    s.viewRow t id = none ↔ s.hasAccount id = false := by
  constructor
  · intro unseen
    unfold viewRow at unseen
    split at unseen
    · cases unseen
    · rw [← account?_isSome, unseen]
      rfl
  · intro missing
    exact viewRow_of_absent (lockRow_of_missing sound opened missing)

theorem hasAccount_of_otherHolder? (sound : Sound s) {u : TxId}
    (holder : s.otherHolder? t id = some u) : s.hasAccount id = true := by
  obtain ⟨tx, found, -⟩ := Option.map_eq_some_iff.mp holder
  have mine := List.find?_some found
  simp only [Bool.and_eq_true, List.any_eq_true, beq_iff_eq] at mine
  obtain ⟨-, row, held, rfl⟩ := mine
  exact sound.hasAccount_of_held (List.mem_of_find?_eq_some found) held

theorem served_lock (sound : Sound s) (opened : s.isOpen t = true)
    (free : s.heldRow? t id = none → s.otherHolder? t id = none) (f : Option Account → TxScript α) :
    ∃ s₁, Served s t ((lock id).bind f) (.lock t id) s₁ (f (s.viewRow t id)) ∧ Locks t s s₁ ∧
      ∀ id', (s₁.heldRow? t id').isSome ↔
        (s.heldRow? t id').isSome ∨ (id' = id ∧ s.hasAccount id = true) := by
  by_cases found : s.hasAccount id = true
  · obtain ⟨s₁, row, granted⟩ := lockRow_of_free found free
    refine ⟨s₁, ?_, .grant granted (.refl s₁), fun id' => ?_⟩
    · rw [(viewRow_of_granted granted).1]
      exact .granted granted
    · rw [heldRow?_granted sound opened granted]
      by_cases same : id = id'
      · subst same
        simp [found]
      · simp [same, Ne.symm same]
  · have missing : s.hasAccount id = false := by simpa using found
    have absent := lockRow_of_missing sound opened missing
    refine ⟨s, ?_, .refl s, fun id' => by simp [missing]⟩
    rw [viewRow_of_absent absent]
    exact .absent absent

theorem lockRow_waiting_of_served {other : AccountId}
    {next : Except InfraError (Option Account) → TxScript α} {r : Request} {k₁ : TxScript α}
    (sound : Sound s) (opened : s.isOpen t = true) (apart : other ≠ id)
    (waiting : s.lockRow t id = .waiting)
    (served : Served s t (.lockForUpdate other next) r s₁ k₁) :
    s₁.lockRow t id = .waiting := by
  obtain ⟨-, ⟨-, rfl, -⟩ | ⟨row, granted, -⟩⟩ := served.lockForUpdate_inv
  · exact waiting
  obtain ⟨unheld, found, held⟩ := lockRow_eq_waiting.mp waiting
  refine lockRow_eq_waiting.mpr ⟨?_, ?_, ?_⟩
  · rw [heldRow?_granted sound opened granted, unheld]
    simp [apart]
  · rw [hasAccount_of_touches (lockRow_touches granted)]
    exact found
  · rw [otherHolder?_of_granted granted]
    exact held

theorem served_two_locks (sound : Sound s) (opened : s.isOpen t = true) {a b : AccountId}
    (freeA : s.heldRow? t a = none → s.otherHolder? t a = none)
    (freeB : s.heldRow? t b = none → s.otherHolder? t b = none)
    (g : Option Account → Option Account → TxScript α) :
    ∃ s', ((lock a).bind fun first => (lock b).bind (g first)).ServedAlong t s
        [.lock t a, .lock t b] s' (g (s.viewRow t a) (s.viewRow t b)) ∧ Locks t s s' ∧
      ∀ id, (s'.heldRow? t id).isSome ↔
        (s.heldRow? t id).isSome ∨ ((id = a ∨ id = b) ∧ s.hasAccount id = true) := by
  obtain ⟨s₁, first, locks₁, held₁⟩ := served_lock sound opened freeA _
  have sound₁ := locks₁.sound sound opened
  have opened₁ := (locks₁.touches.isOpen t).trans opened
  have freeB₁ : s₁.heldRow? t b = none → s₁.otherHolder? t b = none := by
    intro unheld
    rw [locks₁.otherHolder?]
    apply freeB
    rw [← Option.not_isSome_iff_eq_none] at unheld ⊢
    exact fun held => unheld ((held₁ b).mpr (.inl held))
  obtain ⟨s₂, second, locks₂, held₂⟩ := served_lock sound₁ opened₁ freeB₁ (g (s.viewRow t a))
  have accounts := hasAccount_of_touches locks₁.touches
  refine ⟨s₂, .call first (.call second ?_), locks₁.trans locks₂, fun id => ?_⟩
  · rw [locks₁.viewRow]
    exact .nil _ _
  · rw [held₂ id, held₁ id, accounts]
    constructor
    · rintro ((held | ⟨rfl, found⟩) | ⟨rfl, found⟩)
      · exact .inl held
      · exact .inr ⟨.inl rfl, found⟩
      · exact .inr ⟨.inr rfl, found⟩
    · rintro (held | ⟨rfl | rfl, found⟩)
      · exact .inl (.inl held)
      · exact .inl (.inr ⟨rfl, found⟩)
      · exact .inr ⟨rfl, found⟩

variable {fromId toId : AccountId}

/-- With no other transaction holding the lock of either account, taking a transfer's locks reads
both accounts for update in lock order, answers each as the transaction sees it in transfer
direction, and takes the locks of those that exist. -/
theorem lockAccounts_served (sound : Sound s) (opened : s.isOpen t = true)
    (free : s.Free t [fromId, toId]) :
    ∃ s', (lockAccounts fromId toId).ServedAlong t s (Request.transferLocks t fromId toId) s'
        (.pure ⟨s.viewRow t fromId, s.viewRow t toId⟩) ∧ Locks t s s' ∧
      ∀ id, (s'.heldRow? t id).isSome ↔
        (s.heldRow? t id).isSome ∨ ((id = fromId ∨ id = toId) ∧ s.hasAccount id = true) := by
  unfold lockAccounts Request.transferLocks
  split
  · rename_i same
    subst same
    obtain ⟨s₁, served, locks, held⟩ :=
      served_lock sound opened (free fromId (by simp)) fun row =>
        TxScript.pure (⟨row, row⟩ : LockedAccounts)
    refine ⟨s₁, .call served (.nil _ _), locks, fun id => ?_⟩
    rw [held id]
    by_cases same : id = fromId <;> simp [same]
  · rename_i apart
    rw [canonicalOrder_eq_min_max]
    have freeOf : ∀ id, (id = min fromId toId ∨ id = max fromId toId) →
        s.heldRow? t id = none → s.otherHolder? t id = none := fun id either =>
      free id (by simpa using eq_either_iff_eq_min_or_max.mpr either)
    obtain ⟨s', run, locks, held⟩ := served_two_locks sound opened (freeOf _ (.inl rfl))
      (freeOf _ (.inr rfl)) fun first second => TxScript.pure
        (if min fromId toId = fromId then (⟨first, second⟩ : LockedAccounts) else ⟨second, first⟩)
    have direction : (TxScript.pure (if min fromId toId = fromId then
          (⟨s.viewRow t (min fromId toId), s.viewRow t (max fromId toId)⟩ : LockedAccounts)
        else ⟨s.viewRow t (max fromId toId), s.viewRow t (min fromId toId)⟩) : TxScript _) =
        .pure (⟨s.viewRow t fromId, s.viewRow t toId⟩ : LockedAccounts) := by
      rw [Int.min_def, Int.max_def]
      by_cases order : fromId ≤ toId
      · simp [order]
      · simp [order, Ne.symm apart]
    rw [direction] at run
    refine ⟨s', run, locks, fun id => ?_⟩
    rw [held id, ← eq_either_iff_eq_min_or_max]

theorem lockAccounts_waits (sound : Sound s) (opened : s.isOpen t = true)
    (blocked : ¬ s.Free t [fromId, toId]) {calls : List Request} {v : LockedAccounts} :
    ¬ (lockAccounts fromId toId).ServedAlong t s calls s' (.pure v) := by
  obtain ⟨id, member, waiting⟩ : ∃ id, (id = fromId ∨ id = toId) ∧ s.lockRow t id = .waiting := by
    simp only [Free, not_forall] at blocked
    obtain ⟨id, member, unheld, held⟩ := blocked
    obtain ⟨u, holder⟩ := Option.ne_none_iff_exists'.mp held
    exact ⟨id, by simpa using member,
      lockRow_eq_waiting.mpr ⟨unheld, hasAccount_of_otherHolder? sound holder, held⟩⟩
  intro run
  unfold lockAccounts at run
  split at run
  · rename_i same
    subst same
    obtain ⟨s₁, k₁, rest, -, served, -⟩ := run.of_lockForUpdate
    have same : id = fromId := by simpa using member
    subst same
    exact served.lockForUpdate_next.1 waiting
  · rename_i apart
    rw [canonicalOrder_eq_min_max] at run
    obtain ⟨s₁, k₁, rest, -, first, run₁⟩ := run.of_lockForUpdate
    obtain ⟨unwaited, row, rfl⟩ := first.lockForUpdate_next
    rcases eq_either_iff_eq_min_or_max.mp member with rfl | rfl
    · exact unwaited waiting
    · obtain ⟨_, _, _, -, second, -⟩ := run₁.of_lockForUpdate
      exact second.lockForUpdate_next.1
        (lockRow_waiting_of_served sound opened (min_ne_max apart) waiting first)

/-- What taking the locks of a transfer's two accounts does in transaction `t` of store `s`,
served by the store alone. -/
structure TakesTransferLocks (s : Store) (t : TxId) (fromId toId : AccountId) : Prop where
  ends : (∃ calls s' v, (lockAccounts fromId toId).ServedAlong t s calls s' (.pure v)) ↔
    s.Free t [fromId, toId]
  run : ∀ calls s' v, (lockAccounts fromId toId).ServedAlong t s calls s' (.pure v) →
    calls = Request.transferLocks t fromId toId ∧ v = ⟨s.viewRow t fromId, s.viewRow t toId⟩ ∧
      Touches t s s' ∧
      ∀ id, id ∈ s'.heldIds t ↔
        id ∈ s.heldIds t ∨ ((id = fromId ∨ id = toId) ∧ s.hasAccount id = true)
  missing : ∀ id, s.viewRow t id = none ↔ s.hasAccount id = false

/-- In an open transaction of a sound store, taking a transfer's locks, served by the store
alone, ends exactly when no other transaction holds one of the two locks; it then reads the
accounts for update in lock order, once for a self-transfer, answers each account as the
transaction sees it in transfer direction, `none` exactly for a missing one, and adds the locks
of the existing accounts among the two to those the transaction held. -/
theorem lockAccounts_takes_transfer_locks (sound : Sound s) (opened : s.isOpen t = true)
    (fromId toId : AccountId) : s.TakesTransferLocks t fromId toId where
  ends := by
    constructor
    · rintro ⟨calls, s', v, run⟩
      by_contra blocked
      exact lockAccounts_waits sound opened blocked run
    · intro free
      obtain ⟨s', run, -, -⟩ := lockAccounts_served sound opened free
      exact ⟨_, s', _, run⟩
  run calls s' v ended := by
    by_cases free : s.Free t [fromId, toId]
    · -- the store serves the script in one way, which is the run built for free locks
      obtain ⟨s₁, built, locks, held⟩ := lockAccounts_served sound opened free
      obtain ⟨rfl, rfl, rfl⟩ := ServedAlong.unique ended built
      refine ⟨rfl, rfl, locks.touches, fun id => ?_⟩
      rw [mem_heldIds_iff, mem_heldIds_iff, held id]
    · exact absurd ended (lockAccounts_waits sound opened free)
  missing := viewRow_eq_none_iff sound opened

theorem crossed_transfer_takes_both_locks :
    ∃ s : Store, runFrom {} [.createAccount "a" ⟨100, 0, false, by decide⟩ .usd,
        .createAccount "b" ⟨0, 0, false, by decide⟩ .usd, .begin] =
        some ([.opened 1 ⟨100, 0, false, by decide⟩, .opened 2 ⟨0, 0, false, by decide⟩], s) ∧
      Sound s ∧ s.isOpen 0 = true ∧ s.TakesTransferLocks 0 2 1 := by
  have ran : runFrom {} [.createAccount "a" ⟨100, 0, false, by decide⟩ .usd,
      .createAccount "b" ⟨0, 0, false, by decide⟩ .usd, .begin] =
      some ([.opened 1 ⟨100, 0, false, by decide⟩, .opened 2 ⟨0, 0, false, by decide⟩],
        { accounts :=
            [⟨1, "a", ⟨100, 0, false, by decide⟩, .usd⟩, ⟨2, "b", ⟨0, 0, false, by decide⟩, .usd⟩]
          nextAccount := 3
          openTxs := [{ id := 0 }]
          nextTx := 1 }) := rfl
  have sound := (Run.empty.runFrom ran).reachable.sound
  exact ⟨_, ran, sound, rfl, lockAccounts_takes_transfer_locks sound rfl 2 1⟩

end Store

end TransferLedger
