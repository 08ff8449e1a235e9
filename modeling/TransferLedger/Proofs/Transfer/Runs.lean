import TransferLedger.Proofs.Store.Alone
import TransferLedger.Transfer.Service

/-! Runs of units of work on a backend that injects nothing, put together from one lemma per
request: a unit of work begins at once, then commits after a success or rolls back after a failure.
-/

namespace TransferLedger

namespace Backend

variable {α β : Type} {b : Backend} {t : TxId}

/-- A backend that injects nothing: no store fault, no lock conflict, no failed or slow begin,
and a clock that has not passed the horizon. -/
structure Quiet (b : Backend) : Prop where
  faults : b.faults = {}
  conflicts : b.injection.conflicts = 0
  beginFailures : b.injection.beginFailures = 0
  beginDelay : b.injection.beginDelay = 0
  inTime : b.clock.nanos ≤ b.horizon.nanos

/-- Script `k`, run in transaction `t` through both layers, ends with `e` and leaves store `s'`;
the backend changes in nothing else but the events and items the script reports. -/
def RunsTo (b : Backend) (t : TxId) (k : TxScript α) (s' : Store) (e : Ending α) : Prop :=
  ∃ events notes, b.run t false k = ({ b with store := s', events, notes }, e)

theorem run_bind (direct : Bool) (k : TxScript α) (f : α → TxScript β) :
    ∀ b : Backend, b.run t direct (k.bind f) =
      match b.run t direct k with
      | (b', .finished (.ok a)) => b'.run t direct (f a)
      | (b', .finished (.error e)) => (b', .finished (.error e))
      | (b', .stalled) => (b', .stalled)
      | (b', .panicked m) => (b', .panicked m) := by
  induction k with
  | pure a | fail e => intro b; rfl
  | lockForUpdate id next ih =>
    intro b
    simp only [TxScript.bind, run]
    by_cases conflict : (!direct && decide (0 < b.injection.conflicts)) = true
    · simp only [conflict, if_true]
      exact ih _ _
    · simp only [conflict, Bool.false_eq_true, if_false]
      cases b.store.lockRow t id with
      | absent => exact ih _ _
      | granted s row => exact ih _ _
      | waiting => rfl
  | view id next ih => intro b; exact ih _ _
  | recordTransfer fromId toId amount next ih =>
    intro b
    simp only [TxScript.bind, run]
    cases b.store.recordTransfer t fromId toId amount with
    | ok made => exact ih _ _
    | error e => exact ih _ _
  | recordEntry accountId amount next ih =>
    intro b
    simp only [TxScript.bind, run]
    cases b.store.recordEntry t accountId amount with
    | ok made => exact ih _ _
    | error e => exact ih _ _
  | moveBalances fromId toId amount next ih =>
    intro b
    simp only [TxScript.bind, run]
    cases b.store.moveBalances t fromId toId amount with
    | done s result => exact ih _ _
    | waiting s => rfl
    | panicked message => rfl
  | log event next ih | note item next ih => intro b; exact ih _

namespace RunsTo

variable {k : TxScript α} {f : α → TxScript β} {s₁ s₂ : Store}

theorem bind {a : α} {e : Ending β} (first : b.RunsTo t k s₁ (.finished (.ok a)))
    (rest : ∀ events notes,
      ({ b with store := s₁, events, notes } : Backend).RunsTo t (f a) s₂ e) :
    b.RunsTo t (k.bind f) s₂ e := by
  obtain ⟨events, notes, ran⟩ := first
  obtain ⟨events', notes', ranRest⟩ := rest events notes
  exact ⟨events', notes', by rw [run_bind, ran]; exact ranRest⟩

theorem bind_error {err : TransferError} (first : b.RunsTo t k s₁ (.finished (.error err))) :
    b.RunsTo t (k.bind f) s₁ (.finished (.error err)) := by
  obtain ⟨events, notes, ran⟩ := first
  exact ⟨events, notes, by rw [run_bind, ran]⟩

theorem bind_panicked {message : String} (first : b.RunsTo t k s₁ (.panicked message)) :
    b.RunsTo t (k.bind f) s₁ (.panicked message) := by
  obtain ⟨events, notes, ran⟩ := first
  exact ⟨events, notes, by rw [run_bind, ran]⟩

theorem pure (a : α) : b.RunsTo t (TxScript.pure a) b.store (.finished (.ok a)) :=
  ⟨b.events, b.notes, rfl⟩

theorem throw (e : TransferError) :
    b.RunsTo t (TxScript.throw e : TxScript α) b.store (.finished (.error e)) :=
  ⟨b.events, b.notes, rfl⟩

theorem emit (event : LogEvent) : b.RunsTo t (TxScript.emit event) b.store (.finished (.ok ())) :=
  ⟨b.events ++ [event], b.notes, rfl⟩

variable (noConflicts : b.injection.conflicts = 0) {id : AccountId}
include noConflicts

theorem lock {row : Account} (granted : b.store.lockRow t id = .granted s₁ row) :
    b.RunsTo t (TxScript.lock id) s₁ (.finished (.ok (some row))) := by
  refine ⟨b.events, b.notes, ?_⟩
  simp [TxScript.lock, run, noConflicts, granted, TxScript.orFail, withStore]

theorem lock_absent (absent : b.store.lockRow t id = .absent) :
    b.RunsTo t (TxScript.lock id) b.store (.finished (.ok none)) := by
  refine ⟨b.events, b.notes, ?_⟩
  simp [TxScript.lock, run, noConflicts, absent, TxScript.orFail]

end RunsTo

theorem RunsTo.read (id : AccountId) :
    b.RunsTo t (TxScript.read id) b.store (.finished (.ok (b.store.viewRow t id))) :=
  ⟨b.events, b.notes, rfl⟩

theorem RunsTo.newTransfer {fromId toId : AccountId} {amount : Decimal} {s' : Store}
    {record : TransferRecord}
    (made : b.store.recordTransfer t fromId toId amount = .ok (s', record)) :
    b.RunsTo t (TxScript.newTransfer fromId toId amount) s' (.finished (.ok record)) := by
  refine ⟨b.events, b.notes, ?_⟩
  simp [TxScript.newTransfer, run, made, TxScript.orFail, withStore]

theorem RunsTo.newEntry {accountId : AccountId} {amount : Decimal} {s' : Store} {entry : Entry}
    (made : b.store.recordEntry t accountId amount = .ok (s', entry)) :
    b.RunsTo t (TxScript.newEntry accountId amount) s' (.finished (.ok entry)) := by
  refine ⟨b.events, b.notes, ?_⟩
  simp [TxScript.newEntry, run, made, TxScript.orFail, withStore]

theorem RunsTo.move (reported : b.faults.underReport = false) {fromId toId : AccountId}
    {amount : Decimal} {s' : Store} {n : Nat}
    (moved : b.store.moveBalances t fromId toId amount = .done s' (.ok n)) :
    b.RunsTo t (TxScript.move fromId toId amount) s' (.finished (.ok n)) := by
  refine ⟨b.events, b.notes, ?_⟩
  simp [TxScript.move, run, moved, reported, TxScript.orFail, withStore]

theorem RunsTo.move_panicked {fromId toId : AccountId} {amount : Decimal} {message : String}
    (stopped : b.store.moveBalances t fromId toId amount = .panicked message) :
    b.RunsTo t (TxScript.move fromId toId amount) b.store (.panicked message) := by
  refine ⟨b.events, b.notes, ?_⟩
  simp [TxScript.move, run, stopped]

/-! ## Units of work on a quiet backend -/

namespace Quiet

theorem update (quiet : b.Quiet) (s : Store) (events : List LogEvent) (notes : List Json) :
    ({ b with store := s, events, notes } : Backend).Quiet :=
  ⟨quiet.faults, quiet.conflicts, quiet.beginFailures, quiet.beginDelay, quiet.inTime⟩

theorem withStore (quiet : b.Quiet) (s : Store) : (b.withStore s).Quiet :=
  ⟨quiet.faults, quiet.conflicts, quiet.beginFailures, quiet.beginDelay, quiet.inTime⟩

theorem underReport (quiet : b.Quiet) : b.faults.underReport = false := by rw [quiet.faults]
theorem failCommit (quiet : b.Quiet) : b.faults.failCommit = false := by rw [quiet.faults]
theorem failRollback (quiet : b.Quiet) : b.faults.failRollback = false := by rw [quiet.faults]
theorem commitDelay (quiet : b.Quiet) : b.faults.commitDelay = 0 := by rw [quiet.faults]

theorem waitFor_zero (quiet : b.Quiet) : b.waitFor ⟨0⟩ = some b := by
  simp [waitFor, waitUntil, quiet.inTime]

theorem openTx (quiet : b.Quiet) (deadline : Option Duration) :
    b.openTx deadline = (b.withStore b.store.begin.1, .finished (.ok b.store.nextTx)) := by
  have noDelay : Duration.ofMillis b.injection.beginDelay = ⟨0⟩ := by
    simp [Duration.ofMillis, quiet.beginDelay]
  unfold Backend.openTx
  cases deadline <;> simp [noDelay, quiet.waitFor_zero, quiet.beginFailures, Store.begin]

theorem finish_ok (quiet : b.Quiet) (v : α) :
    b.finish t (.ok v) = (b.withStore (b.store.commit t), .finished (.ok v)) := by
  simp [finish, Duration.ofMillis, quiet.commitDelay, quiet.waitFor_zero, Backend.withStore,
    quiet.failCommit]

theorem finish_error (quiet : b.Quiet) (e : TransferError) :
    b.finish t (.error e : Except TransferError α) =
      (b.withStore (b.store.discard t), .finished (.error e)) := by
  simp [finish, Backend.withStore, quiet.failRollback]

variable (quiet : b.Quiet) (deadline : Option Duration) {k : TxScript α} {s' : Store}
include quiet

theorem execTx_ok {v : α}
    (ran : (b.withStore b.store.begin.1).RunsTo b.store.nextTx k s' (.finished (.ok v))) :
    ∃ b', b.execTx deadline k = (b', .finished (.ok v)) ∧
      b'.store = s'.commit b.store.nextTx := by
  obtain ⟨events, notes, ran⟩ := ran
  refine ⟨Backend.withStore { b with store := s', events, notes } (s'.commit b.store.nextTx), ?_,
    rfl⟩
  simp only [execTx, quiet.openTx, ran]
  exact ((quiet.withStore _).update s' events notes).finish_ok v

theorem execTx_error {e : TransferError}
    (ran : (b.withStore b.store.begin.1).RunsTo b.store.nextTx k s' (.finished (.error e))) :
    ∃ b', b.execTx deadline k = (b', .finished (.error e)) ∧
      b'.store = s'.discard b.store.nextTx := by
  obtain ⟨events, notes, ran⟩ := ran
  refine ⟨Backend.withStore { b with store := s', events, notes } (s'.discard b.store.nextTx), ?_,
    rfl⟩
  simp only [execTx, quiet.openTx, ran]
  exact ((quiet.withStore _).update s' events notes).finish_error e

theorem execTx_panicked {message : String}
    (ran : (b.withStore b.store.begin.1).RunsTo b.store.nextTx k s' (.panicked message)) :
    (b.execTx deadline k).2 = .panicked message := by
  obtain ⟨events, notes, ran⟩ := ran
  simp only [execTx, quiet.openTx, ran]

end Quiet

end Backend

namespace TransferService

variable {svc : TransferService} {b b' : Backend} {p : TransferParams}

theorem attempt_finished {outcome : Except TransferError TransferReceipt}
    (ran : b.execTx (some svc.timeout) (runTransfer p) = (b', .finished outcome)) :
    svc.attempt b p = (b'.emit (outcomeEvent p outcome), .finished outcome) := by
  simp [attempt, ran]

theorem attempt_panicked {message : String}
    (ran : (b.execTx (some svc.timeout) (runTransfer p)).2 = .panicked message) :
    ∃ b', svc.attempt b p = (b', .panicked message) := by
  cases executed : b.execTx (some svc.timeout) (runTransfer p) with
  | mk b' ending =>
    rw [executed] at ran
    cases ran
    exact ⟨b', by simp [attempt, executed]⟩

theorem executeWithin_final {e : Ending TransferReceipt} (left : Nat)
    (attempted : svc.attempt b p = (b', e))
    (final : ∀ err, e = .finished (.error err) → err.isLockConflict = false) :
    svc.executeWithin p left b = (b', e) := by
  unfold executeWithin
  rw [attempted]
  cases e with
  | finished outcome =>
    cases outcome with
    | ok receipt => cases left <;> rfl
    | error err => cases left <;> simp [final err rfl]
  | stalled | panicked _ => cases left <;> rfl

variable (svc)

/-- A transfer whose script, run in a quiet backend, fails with an error that is no lock conflict
is refused with that error, and its transaction rolls back. -/
theorem execute_refused (quiet : b.Quiet) {e : TransferError}
    (notConflict : e.isLockConflict = false)
    {s' : Store} (ran : (b.withStore b.store.begin.1).RunsTo b.store.nextTx (runTransfer p) s'
      (.finished (.error e))) :
    ∃ b', svc.execute b p = (b', .finished (.error e)) ∧
      b'.store = s'.discard b.store.nextTx := by
  obtain ⟨b', executed, stored⟩ := quiet.execTx_error (some svc.timeout) ran
  exact ⟨_, executeWithin_final svc.maxRetries (attempt_finished executed)
    (fun _ same => by cases same; exact notConflict), stored⟩

theorem execute_done (quiet : b.Quiet) {r : TransferReceipt} {s' : Store}
    (ran : (b.withStore b.store.begin.1).RunsTo b.store.nextTx (runTransfer p) s'
      (.finished (.ok r))) :
    ∃ b', svc.execute b p = (b', .finished (.ok r)) ∧ b'.store = s'.commit b.store.nextTx := by
  obtain ⟨b', executed, stored⟩ := quiet.execTx_ok (some svc.timeout) ran
  exact ⟨_, executeWithin_final svc.maxRetries (attempt_finished executed)
    (fun _ same => by cases same), stored⟩

theorem execute_panicked (quiet : b.Quiet) {message : String} {s' : Store}
    (ran : (b.withStore b.store.begin.1).RunsTo b.store.nextTx (runTransfer p) s'
      (.panicked message)) :
    ∃ b', svc.execute b p = (b', .panicked message) := by
  obtain ⟨b', attempted⟩ : ∃ b', svc.attempt b p = (b', .panicked message) :=
    attempt_panicked (quiet.execTx_panicked (some svc.timeout) ran)
  exact ⟨b', executeWithin_final svc.maxRetries attempted (fun _ same => by cases same)⟩

end TransferService

end TransferLedger
