import TransferLedger.Proofs.Transfer.Atomic
import TransferLedger.Proofs.Transfer.Runs

/-! The retry loop of the transfer service: an attempt tried again after a lock conflict published
nothing, so a whole call publishes at most one transaction. -/

namespace TransferLedger

namespace Backend

variable {α : Type} {b : Backend}

def Committed : Ending α → Prop
  | .finished (.ok _) => True
  | .finished (.error e) => e = .infrastructure (.commitFailed lostCommit)
  | _ => False

@[simp] theorem emit_store (event : LogEvent) : (b.emit event).store = b.store := rfl

theorem openTx_ledger (b : Backend) (deadline : Option Duration) :
    (b.openTx deadline).1.store.ledger = b.store.ledger := by
  unfold openTx
  dsimp only
  split
  · split
    · rename_i b₁ waited
      rw [(waitFor_some waited).1]
    · rfl
  · split
    · rfl
    · rename_i b₁ waited
      have same := (waitFor_some waited).1
      split
      · simp [same]
      · simp [withStore, same]

theorem finish_ledger (b : Backend) (t : TxId) (outcome : Except TransferError α) :
    (b.finish t outcome).1.store.ledger = b.store.ledger ∨
      ∃ x, (b.finish t outcome).1.store.ledger = b.store.ledger.publish x ∧
        Committed (b.finish t outcome).2 := by
  cases outcome with
  | error err =>
    left
    dsimp only [finish]
    split <;> simp [withStore]
  | ok v =>
    dsimp only [finish]
    split
    · exact .inl rfl
    · rename_i b₁ waited
      have same := (waitFor_some waited).1
      cases found : b₁.store.tx? t with
      | none =>
        left
        rw [same] at found
        have unchanged : b.store.commit t = b.store := by simp [Store.commit, found]
        split <;> simp [withStore, unchanged, same]
      | some x =>
        right
        refine ⟨x, ?_⟩
        have published : (b₁.store.commit t).ledger = b.store.ledger.publish x := by
          rw [Store.commit_ledger found, same]
        split <;> simp [withStore, published, Committed]

theorem execTx_ledger (b : Backend) (deadline : Option Duration) (work : TxScript α) :
    (b.execTx deadline work).1.store.ledger = b.store.ledger ∨
      ∃ x, (b.execTx deadline work).1.store.ledger = b.store.ledger.publish x ∧
        Committed (b.execTx deadline work).2 := by
  have opened := openTx_ledger b deadline
  unfold execTx
  dsimp only
  split
  · rename_i b₁ e began
    rw [began] at opened
    exact .inl opened
  · rename_i b₁ t began
    rw [began] at opened
    split
    · rename_i b₂ outcome ran
      have kept := (run_keeps false work ran).store.ledger
      rcases finish_ledger b₂ t outcome with same | ⟨x, published, committed⟩
      · exact .inl (by rw [same, kept, opened])
      · exact .inr ⟨x, by rw [published, kept, opened], committed⟩
    · rename_i b₂ ran
      have kept := (run_keeps false work ran).store.ledger
      left
      split
      · split
        · rename_i b₃ waited
          simp [withStore, (waitUntil_some waited).1, kept, opened]
        · simp [kept, opened]
      · simp [kept, opened]
    · rename_i b₂ message ran
      exact .inl (by simp [(run_keeps false work ran).store.ledger, opened])
  · rename_i b₁ began
    rw [began] at opened
    exact .inl opened
  · rename_i b₁ message began
    rw [began] at opened
    exact .inl opened

end Backend

namespace TransferService

open Backend

variable {svc : TransferService} {p : TransferParams}

/-- An ending the service tries again after: a failure on a lock conflict. -/
def AsksRetry (e : Ending TransferReceipt) : Prop :=
  ∃ err, e = .finished (.error err) ∧ err.isLockConflict = true

theorem not_committed_of_asksRetry {e : Ending TransferReceipt} (asks : AsksRetry e) :
    ¬ Committed e := by
  obtain ⟨err, rfl, conflict⟩ := asks
  intro committed
  simp only [Committed] at committed
  subst committed
  simp [TransferError.isLockConflict] at conflict

theorem attempt_ledger (svc : TransferService) (b : Backend) (p : TransferParams) :
    (svc.attempt b p).1.store.ledger = b.store.ledger ∨
      ∃ x, (svc.attempt b p).1.store.ledger = b.store.ledger.publish x ∧
        Committed (svc.attempt b p).2 := by
  have unit := execTx_ledger b (some svc.timeout) (runTransfer p)
  rcases ran : b.execTx (some svc.timeout) (runTransfer p) with ⟨b₁, outcome | _ | message⟩ <;>
    rw [ran] at unit <;> simpa [attempt, ran] using unit

theorem ledger_of_conflict {b b₁ : Backend} {e : TransferError}
    (attempted : svc.attempt b p = (b₁, .finished (.error e)))
        (conflict : e.isLockConflict = true) :
    b₁.store.ledger = b.store.ledger := by
  have unchanged := (attempt_ledger svc b p).resolve_right fun ⟨_, _, committed⟩ =>
    not_committed_of_asksRetry (by rw [attempted]; exact ⟨e, rfl, conflict⟩) committed
  rwa [attempted] at unchanged

/-- `svc.Retries p k b n b'`: a call that has retried `k` times stands at `b` before its next
attempt; its next `n` attempts each fail on a lock conflict and are each followed by the logged
pause before the next retry, which leaves it at `b'`. -/
inductive Retries (svc : TransferService) (p : TransferParams) :
    Nat → Backend → Nat → Backend → Prop
  | none (k : Nat) (b : Backend) : Retries svc p k b 0 b
  | retry {k n : Nat} {b b₁ b₂ b' : Backend} {e : TransferError} :
      svc.attempt b p = (b₁, .finished (.error e)) → e.isLockConflict = true →
      (b₁.emit (retryEvent p e (k + 1) svc.maxRetries)).waitFor (backoff (k + 1)) = some b₂ →
      Retries svc p (k + 1) b₂ n b' → Retries svc p k b (n + 1) b'

theorem Retries.ledger {k n : Nat} {b b' : Backend} (retried : svc.Retries p k b n b') :
    b'.store.ledger = b.store.ledger := by
  induction retried with
  | none => rfl
  | retry attempted conflict paused _ ih =>
    rw [ih, (waitFor_some paused).1, emit_store]
    exact ledger_of_conflict attempted conflict

theorem executeWithin_retries (svc : TransferService) (p : TransferParams) :
    ∀ (left : Nat) (b : Backend), left ≤ svc.maxRetries →
      ∃ n b₀, svc.Retries p (svc.maxRetries - left) b n b₀ ∧ n ≤ left ∧
        ((svc.executeWithin p left b = svc.attempt b₀ p ∧
            (n = left ∨ ¬ AsksRetry (svc.attempt b₀ p).2)) ∨
          ((svc.executeWithin p left b).2 = .stalled ∧
            (svc.executeWithin p left b).1.store.ledger = b₀.store.ledger)) := by
  intro left
  -- on the retries left; the chain counts the retries made, the limit less those left
  induction left with
  | zero =>
    intro b _
    refine ⟨0, b, .none _ b, Nat.le_refl _, .inl ⟨?_, .inl rfl⟩⟩
    unfold executeWithin
    split <;> simp_all
  | succ left ih =>
    intro b within
    rcases attempted : svc.attempt b p with ⟨b₁, ending⟩
    by_cases asks : AsksRetry ending
    · obtain ⟨err, rfl, conflict⟩ := asks
      have kept := ledger_of_conflict attempted conflict
      have numbered : svc.maxRetries - (left + 1) + 1 = svc.maxRetries - left := by omega
      unfold executeWithin
      rw [attempted]
      dsimp only
      rw [if_pos conflict]
      cases paused : (b₁.emit (retryEvent p err (svc.maxRetries - left) svc.maxRetries)).waitFor
          (backoff (svc.maxRetries - left)) with
      | none =>
        exact ⟨0, b, .none _ b, Nat.zero_le _, .inr ⟨rfl, kept⟩⟩
      | some b₂ =>
        obtain ⟨n, b₀, retried, bound, final⟩ := ih b₂ (by omega)
        refine ⟨n + 1, b₀, .retry attempted conflict (by rw [numbered]; exact paused)
          (by rw [numbered]; exact retried), by omega, ?_⟩
        rcases final with ⟨ran, last⟩ | stalled
        · exact .inl ⟨ran, last.imp (fun used => by omega) id⟩
        · exact .inr stalled
    · have final : ∀ err, ending = .finished (.error err) → err.isLockConflict = false :=
        fun err same => Bool.eq_false_iff.mpr fun conflict => asks ⟨err, same, conflict⟩
      refine ⟨0, b, .none _ b, Nat.zero_le _, .inl ⟨?_, .inr (by rw [attempted]; exact asks)⟩⟩
      rw [executeWithin_final _ attempted final, attempted]

/-- A call of the service makes at most one attempt more than its retry limit. Every attempt but
the last failed on a lock conflict while retries were left, and published nothing; the call ends
with the last attempt's own ending, unless the pause before a retry never ends. So the committed
ledger changes by at most one published transaction, and only when the last attempt's commit
ran. -/
theorem execute_bounded_retries_publish_once (svc : TransferService) (b : Backend)
    (p : TransferParams) :
    ∃ n b₀, svc.Retries p 0 b n b₀ ∧ n ≤ svc.maxRetries ∧ b₀.store.ledger = b.store.ledger ∧
      ((svc.execute b p = svc.attempt b₀ p ∧
          (n = svc.maxRetries ∨ ¬ AsksRetry (svc.attempt b₀ p).2)) ∨
        ((svc.execute b p).2 = .stalled ∧ (svc.execute b p).1.store.ledger = b.store.ledger)) ∧
      ((svc.execute b p).1.store.ledger = b.store.ledger ∨
        ∃ x, (svc.execute b p).1.store.ledger = b.store.ledger.publish x ∧
          Committed (svc.execute b p).2) := by
  obtain ⟨n, b₀, retried, bound, final⟩ :=
    executeWithin_retries svc p svc.maxRetries b (Nat.le_refl _)
  rw [Nat.sub_self] at retried
  have kept := retried.ledger
  refine ⟨n, b₀, retried, bound, kept, ?_, ?_⟩
  · rcases final with ⟨ran, last⟩ | ⟨stalled, ledger⟩
    · exact .inl ⟨ran, last⟩
    · exact .inr ⟨stalled, ledger.trans kept⟩
  · rcases final with ⟨ran, -⟩ | ⟨-, ledger⟩
    · rw [execute, ran]
      rcases attempt_ledger svc b₀ p with same | ⟨x, published, committed⟩
      · exact .inl (same.trans kept)
      · exact .inr ⟨x, by rw [published, kept], committed⟩
    · exact .inl (ledger.trans kept)

end TransferService

end TransferLedger
