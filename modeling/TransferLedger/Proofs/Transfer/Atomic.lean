import TransferLedger.Transfer.Coordinator
import TransferLedger.Proofs.Store.History

/-! A unit of work is all or nothing: afterwards the open transactions are those before, and the
committed ledger is the one before with the transaction's state published once, or unchanged. -/

namespace TransferLedger

namespace Backend

open Store

variable {α : Type} {b b' : Backend} {t : TxId}

/-- What running a script changes: the store only in transaction `t`, and not the faults or
the clock. -/
structure Keeps (t : TxId) (b b' : Backend) : Prop where
  store : Touches t b.store b'.store
  faults : b'.faults = b.faults
  clock : b'.clock = b.clock
  horizon : b'.horizon = b.horizon

namespace Keeps

theorem refl (b : Backend) (t : TxId) : Keeps t b b :=
  ⟨Touches.refl _ t, rfl, rfl, rfl⟩

theorem trans {b₁ b₂ b₃ : Backend} (first : Keeps t b₁ b₂) (second : Keeps t b₂ b₃) :
    Keeps t b₁ b₃ :=
  ⟨first.store.trans second.store, second.faults.trans first.faults,
    second.clock.trans first.clock, second.horizon.trans first.horizon⟩

theorem withStore {s : Store} (touches : Touches t b.store s) : Keeps t b (b.withStore s) :=
  ⟨touches, rfl, rfl, rfl⟩

end Keeps

theorem run_keeps (direct : Bool) (script : TxScript α) :
    ∀ {b b' : Backend} {e : Ending α}, b.run t direct script = (b', e) → Keeps t b b' := by
  induction script with
  | pure a | fail err =>
    intro b b' e ran
    simp only [run, Prod.mk.injEq] at ran
    rw [← ran.1]
    exact Keeps.refl b t
  | lockForUpdate id next ih =>
    intro b b' e ran
    simp only [run] at ran
    split at ran
    · have rest := ih _ ran
      exact ⟨rest.store, rest.faults, rest.clock, rest.horizon⟩
    · split at ran
      · exact ih _ ran
      · rename_i s row granted
        exact (Keeps.withStore (lockRow_touches granted)).trans (ih _ ran)
      · simp only [Prod.mk.injEq] at ran
        rw [← ran.1]
        exact Keeps.refl b t
  | view id next ih =>
    intro b b' e ran
    exact ih _ ran
  | recordTransfer fromId toId amount next ih =>
    intro b b' e ran
    simp only [run] at ran
    split at ran
    · rename_i s record made
      exact (Keeps.withStore (recordTransfer_touches made)).trans (ih _ ran)
    · exact ih _ ran
  | recordEntry accountId amount next ih =>
    intro b b' e ran
    simp only [run] at ran
    split at ran
    · rename_i s entry made
      exact (Keeps.withStore (recordEntry_touches made)).trans (ih _ ran)
    · exact ih _ ran
  | moveBalances fromId toId amount next ih =>
    intro b b' e ran
    simp only [run] at ran
    split at ran
    · rename_i s result moved
      exact (Keeps.withStore (moveBalances_touches (.inl ⟨result, moved⟩))).trans (ih _ ran)
    · rename_i s moved
      simp only [Prod.mk.injEq] at ran
      rw [← ran.1]
      exact Keeps.withStore (moveBalances_touches (.inr moved))
    · simp only [Prod.mk.injEq] at ran
      rw [← ran.1]
      exact Keeps.refl b t
  | log event next ih | note item next ih =>
    intro b b' e ran
    have rest := ih ran
    exact ⟨rest.store, rest.faults, rest.clock, rest.horizon⟩

/-! ## Begin, commit and rollback -/

theorem waitUntil_some {time : Duration} (waited : b.waitUntil time = some b') :
    b'.store = b.store ∧ b'.faults = b.faults := by
  unfold waitUntil at waited
  split at waited
  · cases waited
    exact ⟨rfl, rfl⟩
  · cases waited

theorem waitFor_some {span : Duration} (waited : b.waitFor span = some b') :
    b'.store = b.store ∧ b'.faults = b.faults :=
  waitUntil_some waited

variable {deadline : Option Duration} {b₁ : Backend}

theorem openTx_ok (opened : b.openTx deadline = (b₁, .finished (.ok t))) :
    b₁.store = b.store.begin.1 ∧ t = b.store.nextTx ∧ b₁.faults = b.faults := by
  unfold openTx at opened
  dsimp only at opened
  split at opened
  · split at opened <;> simp at opened
  · split at opened
    · simp at opened
    · rename_i b₂ waited
      obtain ⟨store, faults⟩ := waitFor_some waited
      split at opened
      · simp at opened
      · simp only [Prod.mk.injEq, Ending.finished.injEq, Except.ok.injEq] at opened
        obtain ⟨rfl, rfl⟩ := opened
        exact ⟨by rw [← store]; rfl, by rw [← store]; rfl, faults⟩

theorem openTx_error {e : TransferError} (failed : b.openTx deadline = (b₁, .finished (.error e))) :
    b₁.store = b.store := by
  unfold openTx at failed
  dsimp only at failed
  split at failed
  · split at failed
    · rename_i b₂ waited
      simp only [Prod.mk.injEq] at failed
      rw [← failed.1]
      exact (waitFor_some waited).1
    · simp at failed
  · split at failed
    · simp at failed
    · rename_i b₂ waited
      obtain ⟨store, -⟩ := waitFor_some waited
      split at failed
      · simp only [Prod.mk.injEq] at failed
        rw [← failed.1]
        exact store
      · simp at failed

theorem finish_ok {v : α} {outcome : Except TransferError α}
    (finished : b.finish t (.ok v) = (b', .finished outcome)) :
    b'.store = b.store.commit t ∧
      (outcome = .ok v ∨ outcome = .error (.infrastructure (.commitFailed lostCommit))) := by
  dsimp only [finish] at finished
  split at finished
  · simp at finished
  · rename_i b₂ waited
    obtain ⟨store, -⟩ := waitFor_some waited
    split at finished
    · simp only [Prod.mk.injEq, Ending.finished.injEq] at finished
      obtain ⟨rfl, rfl⟩ := finished
      exact ⟨by simp [emit, withStore, store], .inr rfl⟩
    · simp only [Prod.mk.injEq, Ending.finished.injEq] at finished
      obtain ⟨rfl, rfl⟩ := finished
      exact ⟨by simp [withStore, store], .inl rfl⟩

theorem finish_error {err : TransferError} {outcome : Except TransferError α}
    (finished : b.finish t (.error err) = (b', .finished outcome)) :
    b'.store = b.store.discard t ∧ ∃ e, outcome = .error e := by
  dsimp only [finish] at finished
  split at finished
  all_goals
    simp only [Prod.mk.injEq, Ending.finished.injEq] at finished
    obtain ⟨rfl, rfl⟩ := finished
    exact ⟨rfl, _, rfl⟩

theorem execTx_finished {work : TxScript α} {outcome : Except TransferError α}
    (ran : b.execTx deadline work = (b', .finished outcome)) :
    (∃ e, b.openTx deadline = (b', .finished (.error e)) ∧ outcome = .error e) ∨
    ∃ b₁ t, b.openTx deadline = (b₁, .finished (.ok t)) ∧ ∃ b₂,
      (∃ result, b₁.run t false work = (b₂, .finished result) ∧
        b₂.finish t result = (b', .finished outcome)) ∨
      (b₁.run t false work = (b₂, .stalled) ∧ b'.store = b₂.store.discard t ∧
        ∃ e, outcome = .error e) := by
  unfold execTx at ran
  simp only at ran
  split at ran
  · rename_i b₁ e opened
    simp only [Prod.mk.injEq, Ending.finished.injEq] at ran
    obtain ⟨rfl, rfl⟩ := ran
    exact .inl ⟨e, opened, rfl⟩
  · rename_i b₁ t opened
    refine .inr ⟨b₁, t, opened, ?_⟩
    split at ran
    · rename_i b₂ result worked
      exact ⟨b₂, .inl ⟨result, worked, ran⟩⟩
    · rename_i b₂ stalled
      -- only a deadline ends a wait on a lock
      split at ran
      · split at ran
        · rename_i b₃ waited
          simp only [Prod.mk.injEq, Ending.finished.injEq] at ran
          obtain ⟨rfl, rfl⟩ := ran
          exact ⟨b₂, .inr ⟨stalled, by simp [withStore, (waitUntil_some waited).1], _, rfl⟩⟩
        · simp at ran
      · simp at ran
    · simp at ran
  · simp at ran
  · simp at ran

theorem commit_nextAccount (s : Store) (t : TxId) : (s.commit t).nextAccount = s.nextAccount := by
  unfold Store.commit
  split <;> rfl

theorem tx?_of_open {s : Store} (opened : s.isOpen t = true) : ∃ tx, s.tx? t = some tx :=
  Option.isSome_iff_exists.mp (List.isSome_find?.trans opened)

theorem discard_after_begin {s s₂ : Store} (sound : Sound s)
    (touches : Touches s.nextTx s.begin.1 s₂) : (s₂.discard s.nextTx).openTxs = s.openTxs := by
  obtain ⟨g, keeps, eq⟩ := touches.openTxs
  have older : ∀ tx ∈ s.openTxs, tx.id ≠ s.nextTx := fun tx member =>
    Nat.ne_of_lt (sound.txsBelow tx member)
  have unchanged : (s.openTxs.map fun tx => if tx.id == s.nextTx then g tx else tx)
      = s.openTxs := by
    conv => rhs; rw [← List.map_id s.openTxs]
    exact List.map_congr_left fun tx member => by simp [older tx member]
  simp only [Store.discard, eq, Store.begin, List.map_append, unchanged, List.filter_append]
  rw [List.filter_eq_self.mpr fun tx member => by simp [older tx member]]
  simp [keeps]

/-- The begin and the script of a unit of work succeeded with `v`, leaving `x` as the state of its
transaction to commit. -/
def Buffered (b : Backend) (deadline : Option Duration) (work : TxScript α) (v : α)
    (x : OpenTx) : Prop :=
  ∃ b₁ t b₂, b.openTx deadline = (b₁, .finished (.ok t)) ∧
    b₁.run t false work = (b₂, .finished (.ok v)) ∧ b₂.store.tx? t = some x

/-- A unit of work on a reachable store, with any faults and any deadline, is all or nothing: when
its begin and its script succeed, the commit publishes the transaction's state once and the
outcome is the script's value or a lost commit confirmation; otherwise the committed ledger is
unchanged and the outcome is an error. Either way the transaction is closed and the open
transactions are those before. -/
theorem execTx_all_or_nothing {work : TxScript α} {outcome : Except TransferError α}
    (reached : Store.Reachable b.store)
    (executed : b.execTx deadline work = (b', .finished outcome)) :
    b'.store.openTxs = b.store.openTxs ∧ b'.store.nextAccount = b.store.nextAccount ∧
    ((∃ v x, Buffered b deadline work v x ∧ b'.store.ledger = b.store.ledger.publish x ∧
        (outcome = .ok v ∨ outcome = .error (.infrastructure (.commitFailed lostCommit)))) ∨
      ((∀ v x, ¬ Buffered b deadline work v x) ∧ b'.store.ledger = b.store.ledger ∧
        ∃ e, outcome = .error e)) := by
  have sound := reached.sound
  rcases execTx_finished executed with ⟨e, opened, rfl⟩ | ⟨b₁, t, opened, b₂, ended⟩
  · have same := openTx_error opened
    refine ⟨by rw [same], by rw [same], .inr ⟨?_, by rw [same], e, rfl⟩⟩
    rintro v x ⟨b₁, t, b₂, opened', -⟩
    rw [opened] at opened'
    simp at opened'
  obtain ⟨begun, rfl, -⟩ := openTx_ok opened
  have worked : ∀ {e : Ending α}, b₁.run b.store.nextTx false work = (b₂, e) →
      Touches b.store.nextTx b.store.begin.1 b₂.store := fun worked =>
    begun ▸ (run_keeps false work worked).store
  have ledger : ∀ {e : Ending α}, b₁.run b.store.nextTx false work = (b₂, e) →
      b₂.store.ledger = b.store.ledger := fun ran => (worked ran).ledger
  have counter : ∀ {e : Ending α}, b₁.run b.store.nextTx false work = (b₂, e) →
      b₂.store.nextAccount = b.store.nextAccount := fun ran => (worked ran).nextAccount
  have unbuffered : ∀ {e : Ending α}, b₁.run b.store.nextTx false work = (b₂, e) →
      (∀ v, e ≠ .finished (.ok v)) → ∀ v x, ¬ Buffered b deadline work v x := by
    rintro e ran failed v x ⟨b₃, t', b₄, opened', ran', -⟩
    rw [opened] at opened'
    simp only [Prod.mk.injEq, Ending.finished.injEq, Except.ok.injEq] at opened'
    obtain ⟨rfl, rfl⟩ := opened'
    rw [ran] at ran'
    exact failed v (Prod.mk.inj ran').2
  rcases ended with ⟨result, ran, finished⟩ | ⟨ran, dropped, e, rfl⟩
  · cases result with
    | ok v =>
      obtain ⟨committed, outcomeIs⟩ := finish_ok finished
      have opened₂ : b₂.store.isOpen b.store.nextTx = true :=
        ((worked ran).isOpen _).trans (by simp [Store.begin, Store.isOpen])
      obtain ⟨x, found⟩ := tx?_of_open opened₂
      refine ⟨?_, ?_, .inl ⟨v, x, ⟨b₁, _, b₂, opened, ran, found⟩, ?_, outcomeIs⟩⟩
      · rw [committed, commit_openTxs found]
        exact discard_after_begin sound (worked ran)
      · rw [committed, commit_nextAccount]
        exact counter ran
      · rw [committed, commit_ledger found, ledger ran]
    | error err =>
      obtain ⟨discarded, failed⟩ := finish_error finished
      refine ⟨?_, ?_, .inr ⟨unbuffered ran (fun v same => by cases same), ?_, failed⟩⟩
      · rw [discarded]
        exact discard_after_begin sound (worked ran)
      · rw [discarded]
        exact counter ran
      · rw [discarded, discard_ledger]
        exact ledger ran
  · -- the deadline passed while the script waited: the transaction is dropped
    refine ⟨?_, ?_, .inr ⟨unbuffered ran (fun v same => by cases same), ?_, e, rfl⟩⟩
    · rw [dropped]
      exact discard_after_begin sound (worked ran)
    · rw [dropped]
      exact counter ran
    · rw [dropped, discard_ledger]
      exact ledger ran

theorem entry_unit_all_or_nothing :
    ∃ s b' outcome,
      (∃ h, Store.runFrom {} [.createAccount "a" ⟨100, 0, false, by decide⟩ .usd] = some (h, s)) ∧
      Store.Reachable s ∧
      ({ store := s } : Backend).execTx none (TxScript.newEntry 1 ⟨3, 0, false, by decide⟩) =
        (b', .finished outcome) ∧
      b'.store.openTxs = s.openTxs ∧ b'.store.nextAccount = s.nextAccount ∧
      ((∃ v x, Buffered { store := s } none (TxScript.newEntry 1 ⟨3, 0, false, by decide⟩) v x ∧
          b'.store.ledger = s.ledger.publish x ∧
          (outcome = .ok v ∨ outcome = .error (.infrastructure (.commitFailed lostCommit)))) ∨
        ((∀ v x, ¬ Buffered { store := s } none
            (TxScript.newEntry 1 ⟨3, 0, false, by decide⟩) v x) ∧
          b'.store.ledger = s.ledger ∧ ∃ e, outcome = .error e)) := by
  have computed : Store.runFrom {} [.createAccount "a" ⟨100, 0, false, by decide⟩ .usd] =
      some ([.opened 1 ⟨100, 0, false, by decide⟩],
        { accounts := [⟨1, "a", ⟨100, 0, false, by decide⟩, .usd⟩], nextAccount := 2 }) := rfl
  have reached := (Store.Run.empty.runFrom computed).reachable
  obtain ⟨b', outcome, executed⟩ : ∃ b' outcome,
      Backend.execTx
        { store := { accounts := [⟨1, "a", ⟨100, 0, false, by decide⟩, .usd⟩], nextAccount := 2 } }
        none (TxScript.newEntry 1 ⟨3, 0, false, by decide⟩) = (b', .finished outcome) :=
    ⟨_, _, by rfl⟩
  exact ⟨_, b', outcome, ⟨_, computed⟩, reached, executed, execTx_all_or_nothing reached executed⟩

/-- A script that fails with a commit failure of its own ends in an outcome that reads as a failed
commit, yet its entry was rolled back and nothing was published. -/
theorem work_commit_failure_publishes_nothing :
    ∃ h s b', Store.runFrom {} [.createAccount "a" ⟨100, 0, false, by decide⟩ .usd] = some (h, s) ∧
      ({ store := s } : Backend).execTx none
          (do let _ ← TxScript.newEntry 1 ⟨3, 0, false, by decide⟩
              (TxScript.throw (.infrastructure (.commitFailed (.constraint "x"))) :
                  TxScript Unit)) =
        (b', .finished (.error (.infrastructure (.commitFailed (.constraint "x"))))) ∧
      b'.store.entries = [] :=
  ⟨_, _, _, rfl, rfl, rfl⟩

end Backend

end TransferLedger
