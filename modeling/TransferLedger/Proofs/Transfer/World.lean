import TransferLedger.Proofs.Transfer.Plan
import TransferLedger.Proofs.Store.Records

/-! Transfer attempts and other clients side by side on one store, served one request at a time in
any order; a run of a world is a run of its store. -/

namespace TransferLedger

/-- A transfer attempt in flight: its transaction, its request and what is left of its script. -/
structure Attempt where
  tx : TxId
  params : TransferParams
  script : TxScript TransferReceipt

/-- A store with the transfer attempts in flight on it. Open transactions of no attempt belong to
other clients. -/
structure World where
  store : Store
  attempts : List Attempt

namespace TxScript

variable {α : Type}

/-- The store serves the next request of a script in transaction `t`: the call it is, the store
after it, and the rest of the script given the store's answer. A balance update that has to wait
keeps the locks it took and leaves the script where it was; a lock that has to wait is no step. -/
inductive Served (s : Store) (t : TxId) : TxScript α → Request → Store → TxScript α → Prop
  | absent {id : AccountId} {next : Except InfraError (Option Account) → TxScript α} :
      s.lockRow t id = .absent →
      Served s t (.lockForUpdate id next) (.lock t id) s (next (.ok none))
  | granted {id : AccountId} {next : Except InfraError (Option Account) → TxScript α}
      {s' : Store} {row : Account} : s.lockRow t id = .granted s' row →
      Served s t (.lockForUpdate id next) (.lock t id) s' (next (.ok (some row)))
  | view {id : AccountId} {next : Except InfraError (Option Account) → TxScript α} :
      Served s t (.view id next) (.read t id) s (next (.ok (s.viewRow t id)))
  | transfer {fromId toId : AccountId} {amount : Decimal}
      {next : Except InfraError TransferRecord → TxScript α} {s' : Store}
      {record : TransferRecord} : s.recordTransfer t fromId toId amount = .ok (s', record) →
      Served s t (.recordTransfer fromId toId amount next) (.recordTransfer t fromId toId amount)
        s' (next (.ok record))
  | transferRefused {fromId toId : AccountId} {amount : Decimal}
      {next : Except InfraError TransferRecord → TxScript α} {e : InfraError} :
      s.recordTransfer t fromId toId amount = .error e →
      Served s t (.recordTransfer fromId toId amount next) (.recordTransfer t fromId toId amount)
        s (next (.error e))
  | entry {accountId : AccountId} {amount : Decimal} {next : Except InfraError Entry → TxScript α}
      {s' : Store} {entry : Entry} : s.recordEntry t accountId amount = .ok (s', entry) →
      Served s t (.recordEntry accountId amount next) (.recordEntry t accountId amount) s'
        (next (.ok entry))
  | entryRefused {accountId : AccountId} {amount : Decimal}
      {next : Except InfraError Entry → TxScript α} {e : InfraError} :
      s.recordEntry t accountId amount = .error e →
      Served s t (.recordEntry accountId amount next) (.recordEntry t accountId amount) s
        (next (.error e))
  | move {fromId toId : AccountId} {amount : Decimal} {next : Except InfraError Nat → TxScript α}
      {s' : Store} {result : Except InfraError Nat} :
      s.moveBalances t fromId toId amount = .done s' result →
      Served s t (.moveBalances fromId toId amount next) (.move t fromId toId amount) s'
        (next result)
  | moveWaits {fromId toId : AccountId} {amount : Decimal}
      {next : Except InfraError Nat → TxScript α} {s' : Store} :
      s.moveBalances t fromId toId amount = .waiting s' →
      Served s t (.moveBalances fromId toId amount next) (.move t fromId toId amount) s'
        (.moveBalances fromId toId amount next)

def quietNext? : TxScript α → Option (TxScript α)
  | .log _ next | .note _ next => some next
  | _ => none

variable {s s' : Store} {t : TxId} {k k' : TxScript α} {r : Request}

theorem Served.tx? (served : Served s t k r s' k') : r.tx? = some t := by
  cases served <;> rfl

theorem Served.keeps (served : Served s t k r s' k') (v : TxId) :
    r ≠ .commit v ∧ r ≠ .rollback v := by
  cases served <;> simp

theorem Served.handles (served : Served s t k r s' k') : Store.Handles s r s' := by
  cases served with
  | absent absent => exact .notGranted (.inl absent)
  | granted granted => exact .granted granted
  | view => exact .read
  | transfer made => exact .transfer made
  | transferRefused refused => exact .transferRefused refused
  | entry made => exact .entry made
  | entryRefused refused => exact .entryRefused refused
  | move moved => exact .move (.inl ⟨_, moved⟩)
  | moveWaits waits => exact .move (.inr waits)

theorem Served.step (opened : s.isOpen t = true) (served : Served s t k r s' k') :
    Store.Step s r s' := by
  refine ⟨fun u named => ?_, ?_⟩
  · rw [served.tx?, Option.some.injEq] at named
    exact named ▸ opened
  · cases served <;> simp [Store.handle, *]

end TxScript

namespace Request

/-- The calls of a client other than a transfer attempt: transactions that begin, read, lock,
commit and roll back, and new accounts when `creates` allows them. -/
def ByClient (creates : Bool) : Request → Prop
  | .createAccount .. => creates = true
  | .begin | .lock .. | .read .. | .commit _ | .rollback _ => True
  | .recordTransfer .. | .recordEntry .. | .move .. => False

end Request

namespace World

def setScript (w : World) (s : Store) (t : TxId) (k : TxScript TransferReceipt) : World :=
  ⟨s, w.attempts.map fun a => if a.tx = t then { a with script := k } else a⟩

def retire (w : World) (s : Store) (t : TxId) : World :=
  ⟨s, w.attempts.filter (·.tx != t)⟩

variable {w : World} {s : Store} {t : TxId} {k : TxScript TransferReceipt}

@[simp] theorem setScript_store : (w.setScript s t k).store = s := rfl
@[simp] theorem retire_store : (w.retire s t).store = s := rfl

@[simp] theorem setScript_txs : (w.setScript s t k).attempts.map (·.tx) =
    w.attempts.map (·.tx) := by
  simp only [setScript, List.map_map]
  apply List.map_congr_left
  intro a _
  by_cases same : a.tx = t <;> simp [same]

theorem mem_setScript {a' : Attempt} :
    a' ∈ (w.setScript s t k).attempts ↔
      ∃ a ∈ w.attempts, (if a.tx = t then { a with script := k } else a) = a' := by
  simp [setScript]

theorem mem_retire {a' : Attempt} : a' ∈ (w.retire s t).attempts ↔ a' ∈ w.attempts ∧ a'.tx ≠ t := by
  simp [retire]

theorem forall_setScript {P : Attempt → Prop} (distinct : (w.attempts.map (·.tx)).Nodup)
    {a : Attempt} (member : a ∈ w.attempts) (acting : P { a with script := k })
    (others : ∀ b ∈ w.attempts, b.tx ≠ a.tx → P b) :
    ∀ b ∈ (w.setScript s a.tx k).attempts, P b := by
  intro b' member'
  obtain ⟨b, memberB, rfl⟩ := mem_setScript.mp member'
  by_cases same : b.tx = a.tx
  · rw [if_pos same]
    obtain rfl := List.inj_on_of_nodup_map distinct memberB member same
    exact acting
  · rw [if_neg same]
    exact others b memberB same

theorem forall_retire {P : Attempt → Prop} (others : ∀ b ∈ w.attempts, b.tx ≠ t → P b) :
    ∀ b ∈ (w.retire s t).attempts, P b := by
  intro b member
  obtain ⟨memberB, other⟩ := mem_retire.mp member
  exact others b memberB other

theorem not_attempt_of_setScript {u : TxId}
    (notAttempt : ∀ b ∈ (w.setScript s t k).attempts, b.tx ≠ u) : ∀ b ∈ w.attempts, b.tx ≠ u := by
  intro b member
  by_cases mine : b.tx = t
  · exact notAttempt { b with script := k } (mem_setScript.mpr ⟨b, member, if_pos mine⟩)
  · exact notAttempt b (mem_setScript.mpr ⟨b, member, if_neg mine⟩)

theorem not_attempt_of_retire {u : TxId} (other : u ≠ t)
    (notAttempt : ∀ b ∈ (w.retire s t).attempts, b.tx ≠ u) : ∀ b ∈ w.attempts, b.tx ≠ u := by
  intro b member same
  by_cases retired : b.tx = t
  · exact other (same ▸ retired)
  · exact notAttempt b (mem_retire.mpr ⟨member, retired⟩) same

end World

/-- The worlds reached from store `start` with no attempt in flight, each with the balance history
of the store calls made since. -/
inductive World.Run (faulty creates : Bool) (start : Store) : History → World → Prop
  | start : World.Run faulty creates start [] ⟨start, []⟩
  /-- A call of another client, on a transaction of no attempt. -/
  | client {h : History} {w : World} {r : Request} {s' : Store} :
      World.Run faulty creates start h w → Store.Step w.store r s' → r.ByClient creates →
      (∀ a ∈ w.attempts, r.tx? ≠ some a.tx) →
      World.Run faulty creates start (h ++ r.events w.store) ⟨s', w.attempts⟩
  /-- A new attempt begins its transaction. -/
  | begin {h : History} {w : World} (p : TransferParams) :
      World.Run faulty creates start h w →
      World.Run faulty creates start h
        ⟨w.store.begin.1, w.attempts ++ [⟨w.store.nextTx, p, runTransfer p⟩]⟩
  | serve {h : History} {w : World} {a : Attempt} {r : Request} {s' : Store}
      {k : TxScript TransferReceipt} :
      World.Run faulty creates start h w → a ∈ w.attempts → a.script.Served w.store a.tx r s' k →
      World.Run faulty creates start (h ++ r.events w.store) (w.setScript s' a.tx k)
  /-- An attempt reports an event or hands out an item. -/
  | pass {h : History} {w : World} {a : Attempt} {k : TxScript TransferReceipt} :
      World.Run faulty creates start h w → a ∈ w.attempts → a.script.quietNext? = some k →
      World.Run faulty creates start h (w.setScript w.store a.tx k)
  /-- An injected lock conflict answers a lock-for-update read. -/
  | conflict {h : History} {w : World} {a : Attempt} {id : AccountId}
      {next : Except InfraError (Option Account) → TxScript TransferReceipt} (e : InfraError) :
      faulty = true → World.Run faulty creates start h w → a ∈ w.attempts →
      a.script = .lockForUpdate id next →
      World.Run faulty creates start h (w.setScript w.store a.tx (next (.error e)))
  /-- A balance update that reports one row less than it changed. -/
  | miscount {h : History} {w : World} {a : Attempt} {fromId toId : AccountId} {amount : Decimal}
      {next : Except InfraError Nat → TxScript TransferReceipt} {s' : Store} {n : Nat} :
      faulty = true → World.Run faulty creates start h w → a ∈ w.attempts →
      a.script = .moveBalances fromId toId amount next →
      w.store.moveBalances a.tx fromId toId amount = .done s' (.ok n) →
      World.Run faulty creates start (h ++ (Request.move a.tx fromId toId amount).events w.store)
        (w.setScript s' a.tx (next (.ok (n - 1))))
  | commit {h : History} {w : World} {a : Attempt} {v : TransferReceipt} :
      World.Run faulty creates start h w → a ∈ w.attempts → a.script = .pure v →
      World.Run faulty creates start (h ++ (Request.commit a.tx).events w.store)
        (w.retire (w.store.commit a.tx) a.tx)
  /-- An attempt is rolled back, or dropped after its deadline. -/
  | abort {h : History} {w : World} {a : Attempt} :
      World.Run faulty creates start h w → a ∈ w.attempts →
      World.Run faulty creates start h (w.retire (w.store.discard a.tx) a.tx)

namespace Store

variable {s s' : Store} {r : Request} {t u : TxId} {tx : OpenTx}

theorem Handles.isOpen (handled : Handles s r s') (opened : s.isOpen u = true)
    (keeps : ∀ v, r = .commit v ∨ r = .rollback v → v ≠ u) : s'.isOpen u = true := by
  cases handled with
  | created created =>
    obtain ⟨-, -, rfl⟩ := createAccount_ok created
    exact opened
  | createRefused | notGranted | read | transferRefused | entryRefused => exact opened
  | begin => simpa [Store.isOpen, Store.begin] using Or.inl opened
  | granted granted => exact ((lockRow_touches granted).isOpen u).trans opened
  | transfer made => exact ((recordTransfer_touches made).isOpen u).trans opened
  | entry made => exact ((recordEntry_touches made).isOpen u).trans opened
  | move result => exact ((moveBalances_touches result).isOpen u).trans opened
  | @commit v =>
    have other := keeps v (.inl rfl)
    cases found : s.tx? v with
    | none => simpa [Store.commit, found] using opened
    | some tx =>
      rw [commit_of_tx? found]
      obtain ⟨tx', member, rfl⟩ := isOpen_iff.mp opened
      exact isOpen_iff.mpr ⟨tx', List.mem_filter.mpr ⟨member, by simpa using Ne.symm other⟩, rfl⟩
  | @rollback v =>
    have other := keeps v (.inr rfl)
    obtain ⟨tx', member, rfl⟩ := isOpen_iff.mp opened
    exact isOpen_iff.mpr ⟨tx', List.mem_filter.mpr ⟨member, by simpa using Ne.symm other⟩, rfl⟩

theorem tx?_modifyTx_of {f : OpenTx → OpenTx} (found : s.tx? t = some tx)
    (keeps : ∀ tx, (f tx).id = tx.id) : (s.modifyTx t f).tx? t = some (f tx) := by
  rw [tx?_modifyTx_self keeps, found]
  rfl

theorem tx?_discard_other (other : u ≠ t) : (s.discard t).tx? u = s.tx? u := by
  simp only [tx?, discard, List.find?_filter]
  congr 1
  funext tx
  by_cases same : tx.id = u
  · simp [same, other]
  · simp [same]

theorem tx?_commit_other (other : u ≠ t) : (s.commit t).tx? u = s.tx? u := by
  cases found : s.tx? t with
  | none => simp [commit, found]
  | some tx =>
    unfold tx?
    rw [commit_openTxs found]
    exact tx?_discard_other other

theorem Handles.tx?_of_other (handled : Handles s r s') (other : r.tx? ≠ some u)
    (found : s.tx? u = some tx) : s'.tx? u = some tx := by
  cases handled with
  | created created =>
    obtain ⟨-, -, rfl⟩ := createAccount_ok created
    exact found
  | createRefused | notGranted | read | transferRefused | entryRefused => exact found
  | begin =>
    simp only [tx?, Store.begin, List.find?_append] at found ⊢
    rw [found]
    rfl
  | granted granted =>
    rw [(lockRow_touches granted).tx?_other (by simpa [Request.tx?, eq_comm] using other)]
    exact found
  | transfer made =>
    rw [(recordTransfer_touches made).tx?_other (by simpa [Request.tx?, eq_comm] using other)]
    exact found
  | entry made =>
    rw [(recordEntry_touches made).tx?_other (by simpa [Request.tx?, eq_comm] using other)]
    exact found
  | move result =>
    rw [(moveBalances_touches result).tx?_other (by simpa [Request.tx?, eq_comm] using other)]
    exact found
  | commit =>
    rw [tx?_commit_other (by simpa [Request.tx?, eq_comm] using other)]
    exact found
  | rollback =>
    rw [tx?_discard_other (by simpa [Request.tx?, eq_comm] using other)]
    exact found

theorem tx?_begin (sound : Sound s) : s.begin.1.tx? s.nextTx = some { id := s.nextTx } := by
  have unused : s.openTxs.find? (·.id == s.nextTx) = none :=
    List.find?_eq_none.mpr fun tx member => by simpa using Nat.ne_of_lt (sound.txsBelow tx member)
  simp [tx?, Store.begin, List.find?_append, unused]

end Store

namespace World

/-- A world's store is reached by the calls of its run, and its attempts run in distinct open
transactions. -/
structure Consistent (h : History) (w : World) : Prop where
  run : Store.Run h w.store
  opened : ∀ a ∈ w.attempts, w.store.isOpen a.tx = true
  distinct : (w.attempts.map (·.tx)).Nodup

variable {faulty creates : Bool} {start : Store} {h₀ h : History} {w : World}

theorem extend {s s' : Store} {r : Request} (run : Store.Run (h₀ ++ h) s)
    (stepped : Store.Step s r s') : Store.Run (h₀ ++ (h ++ r.events s)) s' := by
  rw [← List.append_assoc]
  exact run.step r stepped

theorem extend_quiet {s s' : Store} {r : Request} (run : Store.Run (h₀ ++ h) s)
    (stepped : Store.Step s r s') (quiet : r.events s = []) : Store.Run (h₀ ++ h) s' := by
  simpa [quiet] using run.step r stepped

theorem Consistent.setScript {h' : History} (consistent : Consistent h w) {s' : Store}
    {t : TxId} {k : TxScript TransferReceipt} (run : Store.Run h' s')
    (kept : ∀ a ∈ w.attempts, s'.isOpen a.tx = true) :
    Consistent h' (w.setScript s' t k) := by
  refine ⟨run, fun a' member' => ?_, by simpa using consistent.distinct⟩
  obtain ⟨a, member, rfl⟩ := mem_setScript.mp member'
  split <;> exact kept a member

theorem Consistent.retire {h' : History} (consistent : Consistent h w) {s' : Store} {t : TxId}
    (run : Store.Run h' s') (kept : ∀ a ∈ w.attempts, a.tx ≠ t → s'.isOpen a.tx = true) :
    Consistent h' (w.retire s' t) := by
  refine ⟨run, fun a member => ?_, ?_⟩
  · obtain ⟨member, other⟩ := mem_retire.mp member
    exact kept a member other
  · exact (List.filter_sublist.map _).nodup consistent.distinct

theorem Run.consistent (base : Store.Run h₀ start) (run : World.Run faulty creates start h w) :
    Consistent (h₀ ++ h) w := by
  induction run with
  | start => exact ⟨by simpa using base, by simp, by simp⟩
  | client _ stepped _ notAttempt ih =>
    refine ⟨extend ih.run stepped, fun a member => ?_, ih.distinct⟩
    refine (Store.handles stepped.2).isOpen (ih.opened a member) fun v named same => ?_
    subst same
    rcases named with rfl | rfl <;> exact notAttempt a member rfl
  | @begin h w p _ ih =>
    have sound := ih.run.reachable.sound
    refine ⟨extend_quiet (r := .begin) ih.run ⟨by simp [Request.tx?], rfl⟩ rfl, ?_, ?_⟩
    · intro a member
      simp only [List.mem_append, List.mem_singleton] at member
      rcases member with member | rfl
      · exact Store.Handles.begin.isOpen (ih.opened a member) fun v named => by
          rcases named with named | named <;> cases named
      · simp [Store.isOpen, Store.begin]
    · rw [List.map_append, List.map_singleton]
      refine List.nodup_append.mpr ⟨ih.distinct, List.nodup_singleton _, ?_⟩
      intro u old v new
      obtain ⟨a, member, rfl⟩ := List.mem_map.mp old
      obtain rfl := List.mem_singleton.mp new
      obtain ⟨tx, open_, same⟩ := Store.isOpen_iff.mp (ih.opened a member)
      rw [← same]
      exact Nat.ne_of_lt (sound.txsBelow tx open_)
  | serve _ member served ih =>
    have stepped := served.step (ih.opened _ member)
    refine ih.setScript (extend ih.run stepped) fun a' member' => ?_
    refine (Store.handles stepped.2).isOpen (ih.opened a' member') fun v named => ?_
    rcases named with named | named
    · exact absurd named (served.keeps v).1
    · exact absurd named (served.keeps v).2
  | pass _ _ _ ih => exact ih.setScript ih.run ih.opened
  | conflict _ _ _ _ _ ih => exact ih.setScript ih.run ih.opened
  | @miscount h w a fromId toId amount next s' n _ _ member _ moved ih =>
    have stepped : Store.Step w.store (.move a.tx fromId toId amount) s' :=
      ⟨fun u named => by cases named; exact ih.opened a member, by simp [Store.handle, moved]⟩
    refine ih.setScript (extend ih.run stepped) fun a' member' => ?_
    refine (Store.handles stepped.2).isOpen (ih.opened a' member') fun v named => ?_
    rcases named with named | named <;> cases named
  | @commit h w a v _ member _ ih =>
    have stepped : Store.Step w.store (.commit a.tx) (w.store.commit a.tx) :=
      ⟨fun u named => by cases named; exact ih.opened a member, rfl⟩
    refine ih.retire (extend ih.run stepped) fun a' member' other => ?_
    refine Store.Handles.commit.isOpen (ih.opened a' member') fun u named => ?_
    rcases named with named | named <;> cases named
    exact Ne.symm other
  | @abort h w a _ member ih =>
    have stepped : Store.Step w.store (.rollback a.tx) (w.store.discard a.tx) :=
      ⟨fun u named => by cases named; exact ih.opened a member, rfl⟩
    refine ih.retire (extend_quiet ih.run stepped rfl) fun a' member' other => ?_
    refine Store.Handles.rollback.isOpen (ih.opened a' member') fun u named => ?_
    rcases named with named | named <;> cases named
    exact Ne.symm other

end World

end TransferLedger
