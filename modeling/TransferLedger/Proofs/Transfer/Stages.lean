import TransferLedger.Proofs.Transfer.Atomic
import TransferLedger.Proofs.Transfer.Plan

/-! The stages a transfer attempt logs: a prefix of the five progress stages, then one closing
stage, with all five logged exactly when the attempt's transaction was published. -/

namespace TransferLedger

namespace Stage

/-- The stages an attempt passes before it closes, in order. -/
def progress : List Stage :=
  [.started, .accountsLocked, .fundsVerified, .recordsWritten, .balancesUpdated]

def closing {α : Type} : Except TransferError α → Stage
  | .ok _ => .committed
  | .error _ => .rolledBack

def ofName? (name : String) : Option Stage := all.find? (·.name == name)

@[simp] theorem ofName?_name (s : Stage) : ofName? s.name = some s := by
  cases s <;> rfl

end Stage

namespace LogEvent

def stage? (event : LogEvent) : Option Stage :=
  match event.fields.lookup "stage" with
  | some (.text name) => Stage.ofName? name
  | _ => none

def stages (events : List LogEvent) : List Stage := events.filterMap stage?

@[simp] theorem stages_nil : stages [] = [] := rfl

@[simp] theorem stages_append (events events' : List LogEvent) :
    stages (events ++ events') = stages events ++ stages events' :=
  List.filterMap_append

@[simp] theorem stages_cons (event : LogEvent) (events : List LogEvent) :
    stages (event :: events) = event.stage?.toList ++ stages events := by
  cases reported : event.stage? <;> simp [stages, reported]

@[simp] theorem stageReached_stage? (p : TransferParams) (stage : Stage) :
    (stageReached p stage).stage? = some stage := by
  simp [stage?, stageReached, List.lookup_cons]

end LogEvent

@[simp] theorem TransferService.outcomeEvent_stage? (p : TransferParams)
    (outcome : Except TransferError TransferReceipt) :
    (TransferService.outcomeEvent p outcome).stage? = some (Stage.closing outcome) := by
  cases outcome <;>
    simp [LogEvent.stage?, TransferService.outcomeEvent, TransferService.outcomeFields,
      List.lookup_cons, Stage.closing]

/-- How a run ended, read against the stages it logged: `done v` after a value `v`, `cut` after a
failure, a wait that never ends or a stop of the program. -/
def Ending.Meets {α : Type} (cut : List Stage → Prop) (done : α → List Stage → Prop) :
    Ending α → List Stage → Prop
  | .finished (.ok v), logged => done v logged
  | .finished (.error _), logged | .stalled, logged | .panicked _, logged => cut logged

namespace TxScript

variable {α β : Type} {cut : List Stage → Prop}

/-- Whatever the store answers, the stages the script logs after `reached` meet `cut` wherever it
can end early (at a request that may wait or stop the program, and at a failure) and `done v`
where it ends with `v`. -/
def Stages (cut : List Stage → Prop) (done : α → List Stage → Prop) :
    TxScript α → List Stage → Prop
  | .pure v, reached => done v reached
  | .fail _, reached => cut reached
  | .lockForUpdate _ next, reached => cut reached ∧ ∀ r, Stages cut done (next r) reached
  | .view _ next, reached => ∀ r, Stages cut done (next r) reached
  | .recordTransfer _ _ _ next, reached => ∀ r, Stages cut done (next r) reached
  | .recordEntry _ _ next, reached => ∀ r, Stages cut done (next r) reached
  | .moveBalances _ _ _ next, reached => cut reached ∧ ∀ r, Stages cut done (next r) reached
  | .log event next, reached => Stages cut done next (reached ++ event.stage?.toList)
  | .note _ next, reached => Stages cut done next reached

theorem stages_bind (k : TxScript α) (f : α → TxScript β) (done : β → List Stage → Prop) :
    ∀ reached, (k.bind f).Stages cut done reached ↔
      k.Stages cut (fun v logged => (f v).Stages cut done logged) reached := by
  induction k with
  | pure v | fail e => intro reached; rfl
  | lockForUpdate _ _ ih | view _ _ ih | recordTransfer _ _ _ _ ih | recordEntry _ _ _ ih
  | moveBalances _ _ _ _ ih =>
    intro reached
    simp only [bind, Stages, ih]
  | log _ _ ih | note _ _ ih =>
    intro reached
    simp only [bind, Stages, ih]

variable {done : α → List Stage → Prop} {reached : List Stage}

@[simp] theorem stages_emit (event : LogEvent) {done : Unit → List Stage → Prop} :
    (emit event).Stages cut done reached ↔ done () (reached ++ event.stage?.toList) := Iff.rfl

theorem stages_throw (e : TransferError) (stop : cut reached) :
    (throw e : TxScript α).Stages cut done reached := stop

theorem stages_orFail (r : Except InfraError α) (stop : cut reached) (ok : ∀ v, done v reached) :
    (orFail r).Stages cut done reached := by
  cases r with
  | error e => exact stop
  | ok v => exact ok v

theorem stages_lock (id : AccountId) {done : Option Account → List Stage → Prop}
    (stop : cut reached) (ok : ∀ row, done row reached) : (lock id).Stages cut done reached :=
  ⟨stop, fun r => stages_orFail r stop ok⟩

theorem stages_read (id : AccountId) {done : Option Account → List Stage → Prop}
    (stop : cut reached) (ok : ∀ row, done row reached) : (read id).Stages cut done reached :=
  fun r => stages_orFail r stop ok

theorem stages_newTransfer {fromId toId : AccountId} {amount : Decimal}
    {done : TransferRecord → List Stage → Prop} (stop : cut reached)
    (ok : ∀ record, done record reached) :
    (newTransfer fromId toId amount).Stages cut done reached :=
  fun r => stages_orFail r stop ok

theorem stages_newEntry {accountId : AccountId} {amount : Decimal}
    {done : Entry → List Stage → Prop} (stop : cut reached) (ok : ∀ entry, done entry reached) :
    (newEntry accountId amount).Stages cut done reached :=
  fun r => stages_orFail r stop ok

theorem stages_move {fromId toId : AccountId} {amount : Decimal} {done : Nat → List Stage → Prop}
    (stop : cut reached) (ok : ∀ count, done count reached) :
    (move fromId toId amount).Stages cut done reached :=
  ⟨stop, fun r => stages_orFail r stop ok⟩

end TxScript

open TxScript

theorem lockAccounts_stages (fromId toId : AccountId) {cut : List Stage → Prop}
    {done : LockedAccounts → List Stage → Prop} {reached : List Stage} (stop : cut reached)
    (ok : ∀ locked, done locked reached) : (lockAccounts fromId toId).Stages cut done reached := by
  unfold lockAccounts
  split
  · rw [bind_eq, stages_bind]
    exact stages_lock _ stop fun _ => ok _
  · simp only [bind_eq, stages_bind]
    exact stages_lock _ stop fun _ => stages_lock _ stop fun _ => ok _

theorem runTransfer_stages (p : TransferParams) :
    (runTransfer p).Stages (· <+: Stage.progress) (fun _ logged => logged = Stage.progress) [] := by
  simp only [runTransfer, bind_eq, stages_bind, stages_emit, LogEvent.stageReached_stage?,
    Option.toList_some, List.nil_append]
  refine lockAccounts_stages _ _ (by decide) fun locked => ?_
  rcases locked with ⟨_ | fromAccount, toAccount⟩
  · exact stages_throw _ (by decide)
  dsimp only
  split
  · exact stages_throw _ (by decide)
  split
  · exact stages_throw _ (by decide)
  simp only [stages_bind, stages_emit, LogEvent.stageReached_stage?, Option.toList_some]
  refine stages_newTransfer (by decide) fun transfer => stages_newEntry (by decide) fun fromEntry =>
    stages_newEntry (by decide) fun toEntry => ?_
  refine stages_move (by decide) fun affected => ?_
  by_cases mismatch : affected ≠ if p.isSelfTransfer then 1 else 2
  · rw [if_pos mismatch]
    exact stages_throw _ (by decide)
  rw [if_neg mismatch]
  simp only [stages_bind, stages_emit, LogEvent.stageReached_stage?, Option.toList_some]
  refine stages_read _ (by decide) fun fromRow => ?_
  rcases fromRow with _ | fromRow
  · exact stages_throw _ (by decide)
  simp only [stages_bind]
  refine stages_read _ (by decide) fun toRow => ?_
  rcases toRow with _ | toRow
  · exact stages_throw _ (by decide)
  rfl

namespace Backend

variable {α : Type} {b b' : Backend} {t : TxId} {cut : List Stage → Prop}
  {done : α → List Stage → Prop}

theorem waitUntil_events {time : Duration} (waited : b.waitUntil time = some b') :
    b'.events = b.events := by
  unfold waitUntil at waited
  split at waited
  · cases waited
    rfl
  · cases waited

theorem openTx_events (b : Backend) (deadline : Option Duration) :
    (b.openTx deadline).1.events = b.events := by
  unfold openTx
  dsimp only
  split
  · split
    · rename_i b₁ waited
      exact waitUntil_events waited
    · rfl
  · split
    · rfl
    · rename_i b₁ waited
      have same := waitUntil_events waited
      split
      · exact same
      · exact same

theorem finish_events (b : Backend) (t : TxId) (outcome : Except TransferError α) :
    ∃ extra, (b.finish t outcome).1.events = b.events ++ extra ∧ LogEvent.stages extra = [] := by
  cases outcome with
  | ok v =>
    dsimp only [finish]
    split
    · exact ⟨[], by simp⟩
    · rename_i b₁ waited
      have same := waitUntil_events waited
      split
      · exact ⟨[_], by simp [emit, withStore, same]; rfl,
          by simp [LogEvent.stage?, List.lookup_cons]⟩
      · exact ⟨[], by simp [withStore, same]⟩
  | error err =>
    dsimp only [finish]
    split
    · exact ⟨[_], by simp [emit, withStore]; rfl, by simp [LogEvent.stage?, List.lookup_cons]⟩
    · exact ⟨[], by simp [withStore]⟩

theorem run_stages (direct : Bool) (k : TxScript α) :
    ∀ {b b' : Backend} {e : Ending α} {reached : List Stage}, k.Stages cut done reached →
      b.run t direct k = (b', e) →
      ∃ logged, b'.events = b.events ++ logged ∧
        e.Meets cut done (reached ++ LogEvent.stages logged) := by
  -- on the script; only a logged event adds to the events, and to the stages reached
  induction k with
  | pure a | fail err =>
    intro b b' e reached reports ran
    simp only [run, Prod.mk.injEq] at ran
    obtain ⟨rfl, rfl⟩ := ran
    exact ⟨[], by simp, by simpa [Ending.Meets, TxScript.Stages] using reports⟩
  | lockForUpdate id next ih =>
    intro b b' e reached reports ran
    simp only [run] at ran
    split at ran
    · exact (ih _ (reports.2 _) ran :)
    · split at ran
      · exact ih _ (reports.2 _) ran
      · exact (ih _ (reports.2 _) ran :)
      · simp only [Prod.mk.injEq] at ran
        obtain ⟨rfl, rfl⟩ := ran
        exact ⟨[], by simp, by simpa [Ending.Meets] using reports.1⟩
  | view id next ih =>
    intro b b' e reached reports ran
    exact ih _ (reports _) ran
  | recordTransfer fromId toId amount next ih =>
    intro b b' e reached reports ran
    simp only [run] at ran
    split at ran
    · exact (ih _ (reports _) ran :)
    · exact ih _ (reports _) ran
  | recordEntry accountId amount next ih =>
    intro b b' e reached reports ran
    simp only [run] at ran
    split at ran
    · exact (ih _ (reports _) ran :)
    · exact ih _ (reports _) ran
  | moveBalances fromId toId amount next ih =>
    intro b b' e reached reports ran
    simp only [run] at ran
    split at ran
    · exact (ih _ (reports.2 _) ran :)
    · simp only [Prod.mk.injEq] at ran
      obtain ⟨rfl, rfl⟩ := ran
      exact ⟨[], by simp [withStore], by simpa [Ending.Meets] using reports.1⟩
    · simp only [Prod.mk.injEq] at ran
      obtain ⟨rfl, rfl⟩ := ran
      exact ⟨[], by simp, by simpa [Ending.Meets] using reports.1⟩
  | log event next ih =>
    intro b b' e reached reports ran
    obtain ⟨logged, events, meets⟩ := ih reports ran
    exact ⟨event :: logged, by simp [events, emit], by simpa using meets⟩
  | note item next ih =>
    intro b b' e reached reports ran
    exact (ih reports ran :)

variable {deadline : Option Duration} {work : TxScript α} {b₁ b₂ : Backend}

theorem not_buffered_of_begin {e : TransferError}
    (failed : b.openTx deadline = (b₁, .finished (.error e))) :
    ∀ v x, ¬ Buffered b deadline work v x := by
  rintro v x ⟨b₃, t', b₄, opened, -⟩
  rw [failed] at opened
  simp at opened

theorem not_buffered_of_run {e : Ending α} (opened : b.openTx deadline = (b₁, .finished (.ok t)))
    (ran : b₁.run t false work = (b₂, e)) (unfinished : ∀ v, e ≠ .finished (.ok v)) :
    ∀ v x, ¬ Buffered b deadline work v x := by
  rintro v x ⟨b₃, t', b₄, opened', ran', -⟩
  rw [opened] at opened'
  simp only [Prod.mk.injEq, Ending.finished.injEq, Except.ok.injEq] at opened'
  obtain ⟨rfl, rfl⟩ := opened'
  rw [ran] at ran'
  exact unfinished v (Prod.mk.inj ran').2

theorem buffered_of_run {v : α} (opened : b.openTx deadline = (b₁, .finished (.ok t)))
    (ran : b₁.run t false work = (b₂, .finished (.ok v))) :
    ∃ x, Buffered b deadline work v x ∧ b₂.store.tx? t = some x ∧
      b₂.store.ledger = b.store.ledger := by
  obtain ⟨begun, rfl, -⟩ := openTx_ok opened
  have worked := (run_keeps false work ran).store
  rw [begun] at worked
  have stillOpen : b₂.store.isOpen b.store.nextTx = true :=
    (worked.isOpen _).trans (by simp [Store.begin, Store.isOpen])
  obtain ⟨x, found⟩ := tx?_of_open stillOpen
  exact ⟨x, ⟨b₁, _, b₂, opened, ran, found⟩, found, worked.ledger⟩

theorem execTx_events_of_stalled {outcome : Except TransferError α}
    (opened : b.openTx deadline = (b₁, .finished (.ok t)))
    (ran : b₁.run t false work = (b₂, .stalled))
    (executed : b.execTx deadline work = (b', .finished outcome)) : b'.events = b₂.events := by
  simp only [execTx, opened, ran] at executed
  split at executed
  · split at executed
    · rename_i b₃ waited
      simp only [Prod.mk.injEq] at executed
      rw [← executed.1, withStore, waitUntil_events waited]
    · simp at executed
  · simp at executed

/-- A unit of work that finishes either ran its script to a value, whose stages then meet `done`,
and published its transaction's state with the commit, or published nothing, failed, and logged
stages that meet `cut`. -/
theorem execTx_stages {outcome : Except TransferError α} (reports : work.Stages cut done [])
    (idle : cut []) (executed : b.execTx deadline work = (b', .finished outcome)) :
    ∃ logged, b'.events = b.events ++ logged ∧
      ((∃ v x, Buffered b deadline work v x ∧ done v (LogEvent.stages logged) ∧
          b'.store.ledger = b.store.ledger.publish x ∧
          (outcome = .ok v ∨ outcome = .error (.infrastructure (.commitFailed lostCommit)))) ∨
        ((∀ v x, ¬ Buffered b deadline work v x) ∧ cut (LogEvent.stages logged) ∧
          b'.store.ledger = b.store.ledger ∧ ∃ e, outcome = .error e)) := by
  have began := openTx_events b deadline
  rcases execTx_finished executed with ⟨e, opened, rfl⟩ | ⟨b₁, t, opened, b₂, ended⟩
  · rw [opened] at began
    exact ⟨[], by simpa using began, .inr ⟨not_buffered_of_begin opened, by simpa using idle,
      by rw [openTx_error opened], e, rfl⟩⟩
  rw [opened] at began
  dsimp only at began
  have kept : ∀ {e : Ending α}, b₁.run t false work = (b₂, e) →
      b₂.store.ledger = b.store.ledger := fun ran => by
    obtain ⟨begun, -, -⟩ := openTx_ok opened
    rw [(run_keeps false work ran).store.ledger, begun, Store.begin_ledger]
  rcases ended with ⟨result, ran, finished⟩ | ⟨ran, dropped, e, rfl⟩
  · obtain ⟨logged, events, meets⟩ := run_stages false work reports ran
    obtain ⟨extra, closed, quiet⟩ := finish_events b₂ t result
    rw [finished] at closed
    have allLogged : b'.events = b.events ++ (logged ++ extra) := by
      rw [closed, events, began, List.append_assoc]
    cases result with
    | ok v =>
      obtain ⟨committed, outcomeIs⟩ := finish_ok finished
      obtain ⟨x, buffered, found, ledger⟩ := buffered_of_run opened ran
      refine ⟨logged ++ extra, allLogged,
        .inl ⟨v, x, buffered, by simpa [quiet, Ending.Meets] using meets, ?_, outcomeIs⟩⟩
      rw [committed, Store.commit_ledger found, ledger]
    | error err =>
      obtain ⟨discarded, failed⟩ := finish_error finished
      refine ⟨logged ++ extra, allLogged, .inr ⟨not_buffered_of_run opened ran (by simp),
        by simpa [quiet, Ending.Meets] using meets, ?_, failed⟩⟩
      rw [discarded, Store.discard_ledger, kept ran]
  · obtain ⟨logged, events, meets⟩ := run_stages false work reports ran
    refine ⟨logged, by rw [execTx_events_of_stalled opened ran executed, events, began],
      .inr ⟨not_buffered_of_run opened ran (by simp), by simpa [Ending.Meets] using meets, ?_, e,
        rfl⟩⟩
    rw [dropped, Store.discard_ledger, kept ran]

end Backend

namespace TransferService

open Backend

variable {svc : TransferService} {b b' : Backend} {p : TransferParams}
  {outcome : Except TransferError TransferReceipt}

theorem attempt_eq_finished (attempted : svc.attempt b p = (b', .finished outcome)) :
    ∃ b₁, b.execTx (some svc.timeout) (runTransfer p) = (b₁, .finished outcome) ∧
      b' = b₁.emit (outcomeEvent p outcome) := by
  rcases executed : b.execTx (some svc.timeout) (runTransfer p) with
    ⟨b₁, outcome' | _ | message⟩ <;> simp only [attempt, executed, Prod.mk.injEq] at attempted
  · obtain ⟨rfl, same⟩ := attempted
    cases same
    exact ⟨b₁, rfl, rfl⟩
  · cases attempted.2
  · cases attempted.2

/-- Every attempt of a transfer that returns, whatever the faults and the deadline, logs a prefix
of the stages before closing and then exactly one closing stage: committed for a receipt, rolled
back for a failure. If its script ended with a receipt, the commit published the transaction's
buffered state, all five stages were logged, and the outcome is the receipt or the commit's lost
confirmation, which closes as rolled back although the transaction was published. Otherwise
nothing was published and the attempt failed and closed as rolled back. -/
theorem attempt_logs_stages (svc : TransferService) (b : Backend) (p : TransferParams)
    (attempted : svc.attempt b p = (b', .finished outcome)) :
    ∃ logged, b'.events = b.events ++ logged ∧
      ((∃ v x, Buffered b (some svc.timeout) (runTransfer p) v x ∧
          b'.store.ledger = b.store.ledger.publish x ∧
          LogEvent.stages logged = Stage.progress ++ [Stage.closing outcome] ∧
          (outcome = .ok v ∨ outcome = .error (.infrastructure (.commitFailed lostCommit)))) ∨
        ((∀ v x, ¬ Buffered b (some svc.timeout) (runTransfer p) v x) ∧
          b'.store.ledger = b.store.ledger ∧ (∃ e, outcome = .error e) ∧
          ∃ reached, reached <+: Stage.progress ∧
            LogEvent.stages logged = reached ++ [Stage.rolledBack])) := by
  obtain ⟨b₁, executed, rfl⟩ := attempt_eq_finished attempted
  obtain ⟨logged, events, ended⟩ :=
    execTx_stages (runTransfer_stages p) List.nil_prefix executed
  refine ⟨logged ++ [outcomeEvent p outcome], by simp [Backend.emit, events], ?_⟩
  rcases ended with ⟨v, x, buffered, all, published, outcomeIs⟩ |
    ⟨unbuffered, reached, unchanged, e, rfl⟩
  · exact .inl ⟨v, x, buffered, published, by simp [all], outcomeIs⟩
  · exact .inr ⟨unbuffered, unchanged, ⟨e, rfl⟩, _, reached, by simp [Stage.closing]⟩

theorem funded_attempt_logs_stages :
    ∃ b b' outcome,
      b = ({ store := { accounts := [⟨1, "a", ⟨100, 0, false, by decide⟩, .usd⟩,
                                     ⟨2, "b", ⟨100, 0, false, by decide⟩, .usd⟩]
                        nextAccount := 3 } } : Backend) ∧
      ({} : TransferService).attempt b ⟨1, 2, ⟨⟨1, 0, false, by decide⟩, by decide⟩⟩ =
          (b', .finished outcome) ∧
      ∃ logged, b'.events = b.events ++ logged ∧
        ((∃ v x, Buffered b (some ({} : TransferService).timeout)
              (runTransfer ⟨1, 2, ⟨⟨1, 0, false, by decide⟩, by decide⟩⟩) v x ∧
            b'.store.ledger = b.store.ledger.publish x ∧
            LogEvent.stages logged = Stage.progress ++ [Stage.closing outcome] ∧
            (outcome = .ok v ∨ outcome = .error (.infrastructure (.commitFailed lostCommit)))) ∨
          ((∀ v x, ¬ Buffered b (some ({} : TransferService).timeout)
              (runTransfer ⟨1, 2, ⟨⟨1, 0, false, by decide⟩, by decide⟩⟩) v x) ∧
            b'.store.ledger = b.store.ledger ∧ (∃ e, outcome = .error e) ∧
            ∃ reached, reached <+: Stage.progress ∧
              LogEvent.stages logged = reached ++ [Stage.rolledBack])) := by
  obtain ⟨b', outcome, attempted⟩ : ∃ b' outcome, ({} : TransferService).attempt
      { store := { accounts := [⟨1, "a", ⟨100, 0, false, by decide⟩, .usd⟩,
          ⟨2, "b", ⟨100, 0, false, by decide⟩, .usd⟩], nextAccount := 3 } }
      ⟨1, 2, ⟨⟨1, 0, false, by decide⟩, by decide⟩⟩ = (b', .finished outcome) :=
    ⟨_, _, by rfl⟩
  exact ⟨_, b', outcome, rfl, attempted, attempt_logs_stages _ _ _ attempted⟩

/-- With commits that publish and then report a failure, a funded transfer publishes its record,
yet its attempt logs all five stages and closes as rolled back. -/
theorem lost_confirmation_closes_rolled_back :
    ∃ b', ({} : TransferService).execute
        { store := { accounts := [⟨1, "a", ⟨100, 0, false, by decide⟩, .usd⟩,
            ⟨2, "b", ⟨100, 0, false, by decide⟩, .usd⟩], nextAccount := 3 }
          faults := { failCommit := true } } ⟨1, 2, ⟨⟨1, 0, false, by decide⟩, by decide⟩⟩ =
        (b', .finished (.error (.infrastructure (.commitFailed lostCommit)))) ∧
      b'.store.transfers = [⟨1, 1, 2, ⟨1, 0, false, by decide⟩⟩] ∧
      LogEvent.stages b'.events = Stage.progress ++ [.rolledBack] :=
  ⟨_, rfl, rfl, by decide⟩

end TransferService

end TransferLedger
