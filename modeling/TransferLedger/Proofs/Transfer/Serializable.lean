import TransferLedger.Proofs.Transfer.Serial

/-! Transfers under any interleaving are serializable: the transfers committed so far, run one after
another in commit order from the first store, reach the world's accounts and records. The proof is
an invariant of the world, with each attempt's script `Sure` of its ending. -/

namespace TransferLedger

def TransferReceipt.content (v : TransferReceipt) :
    Account × Account × (AccountId × AccountId × Decimal) × (AccountId × Decimal) ×
      (AccountId × Decimal) :=
  (v.fromAccount, v.toAccount, v.transfer.fields, v.fromEntry.side, v.toEntry.side)

namespace Store

variable {s s' : Store} {t : TxId} {ids : List AccountId}

theorem books_of_ledger (same : s'.ledger = s.ledger) : s'.books = s.books := by
  have accounts : s'.accounts = s.accounts := congrArg Ledger.accounts same
  have entries : s'.entries = s.entries := congrArg Ledger.entries same
  have transfers : s'.transfers = s.transfers := congrArg Ledger.transfers same
  simp only [books, accounts, entries, transfers]

theorem Holds.account?_commit {g : Holding} (holds : s.Holds t g) {id : AccountId}
    (mine : id ∈ g.locked) : (s.commit t).account? id = (s.account? id).map (restage g.staged) := by
  have lookup := holds.heldRow? id
  rw [heldRow?_of_tx? holds, if_pos mine] at lookup
  rw [account?_commit_of_tx? holds]
  cases found : s.account? id with
  | none => rfl
  | some row =>
    have named : row.id = id := (account?_eq_some found).2
    rw [Option.map_some, Option.map_some, named, lookup, found]
    rfl

theorem Holds.commit_ledger (sound : Sound s) (holds : s.Holds t { locked := ids }) :
    (s.commit t).ledger = s.ledger := by
  have lookup := holds.heldRow?
  simp only [heldRow?_of_tx? holds] at lookup
  rw [Store.commit_ledger holds]
  simp only [ledger, Ledger.publish, List.append_nil, Ledger.mk.injEq, and_true]
  refine (List.map_congr_left fun row member => ?_).trans (List.map_id _)
  rw [lookup row.id, account?_of_mem sound member]
  split <;> rfl

theorem Holds.lockRow_unstaged (holds : s.Holds t { locked := ids }) {id : AccountId}
    {row : Account} (granted : s.lockRow t id = .granted s' row) :
    ∃ ids', s'.Holds t { locked := ids' } := by
  rcases lockRow_granted granted with ⟨-, rfl⟩ | ⟨unheld, found, -, -⟩
  · exact ⟨ids, holds⟩
  · have unlocked : id ∉ ids := fun mine => by
      rw [holds.heldRow? id, if_pos mine, found] at unheld
      cases unheld
    exact ⟨ids ++ [id], ((holds.lockRow unlocked).2 s' row granted).2.2⟩

theorem holds_begin (sound : Sound s) : s.begin.1.Holds s.nextTx { locked := [] } :=
  tx?_begin sound

theorem Holds.byClient {r : Request} (holds : s.Holds t { locked := ids })
    (handled : Handles s r s') (byClient : r.ByClient false) (mine : r.tx? = some t)
    (opened : s'.isOpen t = true) : ∃ ids', s'.Holds t { locked := ids' } := by
  cases handled with
  | granted granted =>
    simp only [Request.tx?, Option.some.injEq] at mine
    subst mine
    exact holds.lockRow_unstaged granted
  | notGranted _ | read => exact ⟨ids, holds⟩
  | commit =>
    simp only [Request.tx?, Option.some.injEq] at mine
    subst mine
    simp [isOpen_commit_self] at opened
  | rollback =>
    simp only [Request.tx?, Option.some.injEq] at mine
    subst mine
    simp [isOpen_discard_self] at opened
  | created _ | createRefused _ | begin => simp [Request.tx?] at mine
  | transfer _ | transferRefused _ | entry _ | entryRefused _ | move _ => cases byClient

/-- Committing transaction `t` of store `s`, with receipt `v`, is transfer `p` run next in a
serial run that stands at `serial`: the decision table there moves money with the rows of `v`,
and `v` is the receipt it gives up to ids; the commit appends the one record of `v`, leaves the
books that run leaves, and makes the rows of `v` the committed rows of both accounts. -/
structure CommitsNext (serial s : Store) (t : TxId) (p : TransferParams) (v : TransferReceipt) :
    Prop where
  moved : serial.verdict p = .moved v.fromAccount v.toAccount
  receipt : v.content = (serial.receiptFor p v.fromAccount v.toAccount).content
  appended : (s.commit t).transfers = s.transfers ++ [v.transfer]
  books : (s.commit t).books = (serial.afterTransfer p v.fromAccount v.toAccount).books
  fromRow : (s.commit t).account? p.fromAccountId = some v.fromAccount
  toRow : (s.commit t).account? p.toAccountId = some v.toAccount

variable {p : TransferParams} {v : TransferReceipt} {serial : Store}

theorem CommitsNext.fields (next : serial.CommitsNext s t p v) : v.transfer.fields = p.fields :=
  congrArg (fun c => c.2.2.1) next.receipt

theorem CommitsNext.moveAlone (next : serial.CommitsNext s t p v) :
    serial.moveAlone? p = some (serial.afterTransfer p v.fromAccount v.toAccount) := by
  rw [moveAlone?, next.moved]

theorem Ready.commitsNext (sound : Sound s) (ready : s.Ready t p v)
    (same : serial.books = s.books) : serial.CommitsNext s t p v := by
  obtain ⟨moved, staged, holds, stagedFrom, stagedTo, recorded, debited, credited⟩ := ready
  refine ⟨(verdict_of_books same).trans moved, ?_, by rw [commit_of_tx? holds],
    (Ready.commit_books sound ⟨moved, staged, holds, stagedFrom, stagedTo, recorded, debited,
      credited⟩).trans (afterTransfer_books same _ _).symm, ?_, ?_⟩
  · rw [TransferReceipt.content, recorded, debited, credited]
    rfl
  · rw [holds.account?_commit (mem_updateOrder_from _ _)]
    exact stagedFrom
  · rw [holds.account?_commit (mem_updateOrder_to _ _)]
    exact stagedTo

/-- Replaying from `start` the transfers committed on `s` since, as requests with their accounts and
amounts, each run alone and one after another in commit order, reaches `serial`, which has the
books of `s`. -/
def Replays (start s serial : Store) : Prop :=
  ∃ later ps, s.transfers = start.transfers ++ later ∧
    later.map TransferRecord.fields = ps.map TransferParams.fields ∧
    start.serialRun ps = some serial ∧ serial.books = s.books

variable {start : Store}

theorem Replays.books (replays : Replays start s serial) : serial.books = s.books := by
  obtain ⟨-, -, -, -, -, books⟩ := replays
  exact books

theorem Replays.of_ledger (replays : Replays start s serial) (same : s'.ledger = s.ledger) :
    Replays start s' serial := by
  obtain ⟨later, ps, transfers, fields, ran, books⟩ := replays
  refine ⟨later, ps, ?_, fields, ran, books.trans (books_of_ledger same).symm⟩
  rw [← transfers]
  exact congrArg Ledger.transfers same

theorem Replays.commit (replays : Replays start s serial) (next : serial.CommitsNext s t p v) :
    Replays start (s.commit t) (serial.afterTransfer p v.fromAccount v.toAccount) := by
  obtain ⟨later, ps, transfers, fields, ran, -⟩ := replays
  refine ⟨later ++ [v.transfer], ps ++ [p], ?_, ?_, ?_, next.books.symm⟩
  · rw [next.appended, transfers, List.append_assoc]
  · rw [List.map_append, List.map_append, fields, List.map_singleton, List.map_singleton,
      next.fields]
  · rw [serialRun_append, ran]
    exact next.moveAlone

end Store

def Attempt.Sure (a : Attempt) (s : Store) : Prop :=
  a.script.Sure a.tx (fun v s => s.Ready a.tx a.params v) (fun e s => s.Refuses a.tx a.params e) s

theorem Attempt.Sure.rely {a : Attempt} {s s' : Store} (sure : a.Sure s)
    (relied : Store.Rely a.tx s s') : a.Sure s' :=
  TxScript.Sure.rely (fun v => Store.Ready.stable v) (fun e => Store.Refuses.stable e) sure relied

namespace World

/-- How world `w` stands to the serial store `serial`: the transfers committed since `start`,
run one after another from `start` in commit order, reach `serial`, whose books are the world's;
each attempt about to commit commits as its transfer runs next from `serial`; and each attempt
that failed as the request's own fault is refused the same way there. -/
structure SerialAt (start : Store) (w : World) (serial : Store) : Prop where
  replays : Store.Replays start w.store serial
  committing : ∀ a ∈ w.attempts, ∀ v, a.script = .pure v →
    serial.CommitsNext w.store a.tx a.params v
  refused : ∀ a ∈ w.attempts, ∀ e, a.script = .fail e → e.isClientError = true →
    serial.verdict a.params = .refused e

/-- The invariant of a world run from `start`: the transfers committed since replay from `start`
to a store with the world's books, each attempt's script is sure of its ending, and every other
open transaction holds committed rows as they are and made no records. -/
structure Serializes (start : Store) (w : World) : Prop where
  serial : ∃ serial, Store.Replays start w.store serial
  attempts : ∀ a ∈ w.attempts, a.Sure w.store
  clients : ∀ u, w.store.isOpen u = true → (∀ a ∈ w.attempts, a.tx ≠ u) →
    ∃ ids, w.store.Holds u { locked := ids }

namespace Serializes

variable {start s' : Store} {h : History} {w : World}

theorem serial_of_ledger (inv : Serializes start w) (same : s'.ledger = w.store.ledger) :
    ∃ serial, Store.Replays start s' serial := by
  obtain ⟨serial, replays⟩ := inv.serial
  exact ⟨serial, replays.of_ledger same⟩

theorem setScript (inv : Serializes start w) (consistent : Consistent h w) {a : Attempt}
    (member : a ∈ w.attempts) {k : TxScript TransferReceipt} (same : s'.ledger = w.store.ledger)
    (others : ∀ u, w.store.isOpen u = true → u ≠ a.tx → Store.Rely u w.store s')
    (opens : ∀ u, s'.isOpen u = true → w.store.isOpen u = true)
    (acting : ({ a with script := k } : Attempt).Sure s') :
    Serializes start (w.setScript s' a.tx k) := by
  refine ⟨inv.serial_of_ledger same, forall_setScript consistent.distinct member acting
      fun b memberB other => (inv.attempts b memberB).rely
        (others b.tx (consistent.opened b memberB) other),
    fun u opened notAttempt => ?_⟩
  · have notAttempt' := not_attempt_of_setScript notAttempt
    obtain ⟨ids, holds⟩ := inv.clients u (opens u opened) notAttempt'
    exact ⟨ids, Store.Holds.stable
      (others u (opens u opened) fun same => notAttempt' a member same.symm) holds⟩

theorem retire (inv : Serializes start w) (consistent : Consistent h w) {t : TxId} {r : Request}
    (stepped : Store.Step w.store r s') (ends : r = .commit t ∨ r = .rollback t)
    (closed : s'.isOpen t = false) (serial : ∃ serial, Store.Replays start s' serial) :
    Serializes start (w.retire s' t) := by
  have handled := Store.handles stepped.2
  have named : r.tx? = some t := by rcases ends with rfl | rfl <;> rfl
  have others : ∀ u, w.store.isOpen u = true → u ≠ t → Store.Rely u w.store s' :=
    fun u opened other => Store.Step.rely consistent.run.reachable.sound stepped opened
      (by rw [named]; simpa using Ne.symm other)
      fun _ _ _ same => by rcases ends with rfl | rfl <;> cases same
  have opens : ∀ u, s'.isOpen u = true → w.store.isOpen u = true ∧ u ≠ t := by
    intro u opened
    refine ⟨(handled.isOpen_before opened).resolve_right fun opening => ?_, fun same => ?_⟩
    · rcases ends with rfl | rfl <;> cases opening.1
    · rw [same, closed] at opened
      cases opened
  refine ⟨serial, forall_retire fun b memberB other =>
      (inv.attempts b memberB).rely (others b.tx (consistent.opened b memberB) other),
    fun u opened notAttempt => ?_⟩
  obtain ⟨wasOpen, other⟩ := opens u opened
  obtain ⟨ids, holds⟩ := inv.clients u wasOpen (not_attempt_of_retire other notAttempt)
  exact ⟨ids, Store.Holds.stable (others u wasOpen other) holds⟩

theorem client (inv : Serializes start w) (consistent : Consistent h w) {r : Request}
    (stepped : Store.Step w.store r s') (byClient : r.ByClient false)
    (notAttempt : ∀ a ∈ w.attempts, r.tx? ≠ some a.tx) : Serializes start ⟨s', w.attempts⟩ := by
  have sound := consistent.run.reachable.sound
  have handled := Store.handles stepped.2
  have noCreate : ∀ owner balance currency, r ≠ .createAccount owner balance currency :=
    fun _ _ _ same => by
      subst same
      exact Bool.false_ne_true byClient
  have rely : ∀ u, w.store.isOpen u = true → r.tx? ≠ some u → Store.Rely u w.store s' :=
    fun u opened other => Store.Step.rely sound stepped opened other noCreate
  have same : s'.ledger = w.store.ledger := by
    rcases handled.ledger_or_commit noCreate with same | ⟨v, rfl, rfl⟩
    · exact same
    · obtain ⟨ids, holds⟩ := inv.clients v (stepped.1 v rfl)
        fun a member named => notAttempt a member (by rw [named]; rfl)
      exact holds.commit_ledger sound
  refine ⟨inv.serial_of_ledger same,
    fun a member => (inv.attempts a member).rely (rely a.tx (consistent.opened a member)
      (notAttempt a member)), fun u opened notAttempt' => ?_⟩
  by_cases mine : r.tx? = some u
  · obtain ⟨ids, holds⟩ := inv.clients u (stepped.1 u mine) notAttempt'
    exact holds.byClient handled byClient mine opened
  · rcases handled.isOpen_before opened with wasOpen | ⟨rfl, rfl⟩
    · obtain ⟨ids, holds⟩ := inv.clients u wasOpen notAttempt'
      exact ⟨ids, Store.Holds.stable (rely u wasOpen mine) holds⟩
    · cases handled
      exact ⟨[], Store.holds_begin sound⟩

theorem begin (inv : Serializes start w) (consistent : Consistent h w) (p : TransferParams) :
    Serializes start ⟨w.store.begin.1, w.attempts ++ [⟨w.store.nextTx, p, runTransfer p⟩]⟩ := by
  have sound := consistent.run.reachable.sound
  have stepped : Store.Step w.store .begin w.store.begin.1 := ⟨by simp [Request.tx?], rfl⟩
  have handled := Store.handles stepped.2
  have rely : ∀ u, w.store.isOpen u = true → Store.Rely u w.store w.store.begin.1 :=
    fun u opened => Store.Step.rely sound stepped opened (by simp [Request.tx?])
      fun _ _ _ same => by cases same
  refine ⟨inv.serial, fun a member => ?_, fun u opened notAttempt => ?_⟩
  · rcases List.mem_append.mp member with old | new
    · exact (inv.attempts a old).rely (rely a.tx (consistent.opened a old))
    · rw [List.mem_singleton.mp new]
      exact runTransfer_sure p (Store.holds_begin sound)
  · rcases handled.isOpen_before opened with wasOpen | ⟨-, rfl⟩
    · obtain ⟨ids, holds⟩ := inv.clients u wasOpen fun a member =>
        notAttempt a (List.mem_append_left _ member)
      exact ⟨ids, Store.Holds.stable (rely u wasOpen) holds⟩
    · exact absurd rfl (notAttempt _ (List.mem_append_right _ (List.mem_singleton_self _)))

theorem serve (inv : Serializes start w) (consistent : Consistent h w) {a : Attempt}
    (member : a ∈ w.attempts) {r : Request} {k : TxScript TransferReceipt}
    (served : a.script.Served w.store a.tx r s' k) : Serializes start (w.setScript s' a.tx k) := by
  have sound := consistent.run.reachable.sound
  have stepped := served.step (consistent.opened a member)
  have handled := Store.handles stepped.2
  have noCreate : ∀ owner balance currency, r ≠ .createAccount owner balance currency :=
    fun _ _ _ same => by
      have named := served.tx?
      rw [same] at named
      cases named
  refine inv.setScript consistent member ?_
    (fun u opened other => Store.Step.rely sound stepped opened
      (by rw [served.tx?]; simpa using Ne.symm other) noCreate)
    (fun u opened => (handled.isOpen_before opened).resolve_right fun opening => ?_)
    (served.sure sound (inv.attempts a member))
  · rcases handled.ledger_or_commit noCreate with same | ⟨v, named, -⟩
    · exact same
    · exact absurd named (served.keeps v).1
  · have named := served.tx?
    rw [opening.1] at named
    cases named

theorem pass (inv : Serializes start w) (consistent : Consistent h w) {a : Attempt}
    (member : a ∈ w.attempts) {k : TxScript TransferReceipt} (next : a.script.quietNext? = some k) :
    Serializes start (w.setScript w.store a.tx k) :=
  inv.setScript consistent member rfl
    (fun _ _ _ => Store.Rely.refl consistent.run.reachable.sound) (fun _ opened => opened)
    ((inv.attempts a member).quietNext next)

theorem ready (inv : Serializes start w) {a : Attempt} (member : a ∈ w.attempts)
    {v : TransferReceipt} (script : a.script = .pure v) : w.store.Ready a.tx a.params v := by
  have sure := inv.attempts a member
  rw [Attempt.Sure, script] at sure
  exact sure

theorem refuses (inv : Serializes start w) {a : Attempt} (member : a ∈ w.attempts)
    {e : TransferError} (script : a.script = .fail e) : w.store.Refuses a.tx a.params e := by
  have sure := inv.attempts a member
  rw [Attempt.Sure, script] at sure
  exact sure

theorem commit (inv : Serializes start w) (consistent : Consistent h w) {a : Attempt}
    (member : a ∈ w.attempts) {v : TransferReceipt} (script : a.script = .pure v) :
    Serializes start (w.retire (w.store.commit a.tx) a.tx) := by
  have stepped : Store.Step w.store (.commit a.tx) (w.store.commit a.tx) :=
    ⟨fun u named => by cases named; exact consistent.opened a member, rfl⟩
  obtain ⟨serial, replays⟩ := inv.serial
  have next := (inv.ready member script).commitsNext consistent.run.reachable.sound replays.books
  exact inv.retire consistent stepped (.inl rfl) (Store.isOpen_commit_self _ _)
    ⟨_, replays.commit next⟩

theorem abort (inv : Serializes start w) (consistent : Consistent h w) {a : Attempt}
    (member : a ∈ w.attempts) : Serializes start (w.retire (w.store.discard a.tx) a.tx) := by
  have stepped : Store.Step w.store (.rollback a.tx) (w.store.discard a.tx) :=
    ⟨fun u named => by cases named; exact consistent.opened a member, rfl⟩
  exact inv.retire consistent stepped (.inr rfl) (Store.isOpen_discard_self _ _)
    (inv.serial_of_ledger rfl)

end Serializes

variable {start : Store} {h₀ h : History} {w : World}

/-- Every world run from a reachable store with no open transaction, with no fault and no new
account, keeps the invariant. -/
theorem Run.serializes (base : Store.Run h₀ start) (idle : start.openTxs = [])
    (run : World.Run false false start h w) : Serializes start w := by
  induction run with
  | start =>
    refine ⟨⟨start, [], [], by simp, rfl, rfl, rfl⟩, fun _ member => (by cases member),
      fun u opened => ?_⟩
    simp [Store.isOpen, idle] at opened
  | client run stepped byClient notAttempt ih =>
    exact ih.client (run.consistent base) stepped byClient notAttempt
  | begin p run ih => exact ih.begin (run.consistent base) p
  | serve run member served ih => exact ih.serve (run.consistent base) member served
  | pass run member next ih => exact ih.pass (run.consistent base) member next
  | conflict _ faulty => cases faulty
  | miscount faulty => cases faulty
  | commit run member script ih => exact ih.commit (run.consistent base) member script
  | abort run member ih => exact ih.abort (run.consistent base) member

/-- Serializability of transfers. From a reachable store with no open transaction, under any
interleaving of transfer attempts with clients that read and lock but write nothing, with no fault
injected and no account created, and with attempts rolled back or dropped at any time: the
transfers committed so far, run alone one after another in commit order from the first store,
reach a store with the world's accounts and records up to their ids; each attempt about to commit
publishes what its transfer does run next in that order, with the receipt it gets there and the
rows of its receipt as the committed rows of both accounts; and each attempt that failed because
an account is missing or short of funds is refused the same way there. -/
theorem Run.serializable (base : Store.Run h₀ start) (idle : start.openTxs = [])
    (run : World.Run false false start h w) : ∃ serial, SerialAt start w serial := by
  have inv := run.serializes base idle
  have sound := (run.consistent base).run.reachable.sound
  obtain ⟨serial, replays⟩ := inv.serial
  have books := replays.books
  refine ⟨serial, replays, fun a member v script => ?_, fun a member e script client => ?_⟩
  · exact (inv.ready member script).commitsNext sound books
  · rw [Store.verdict_of_books books]
    exact ((inv.refuses member script) client).2

theorem second_transfer_refused_after_first :
    ∃ h₀ h w, Store.Run h₀ TransferService.fundedPair ∧ TransferService.fundedPair.openTxs = [] ∧
      World.Run false false TransferService.fundedPair h w ∧
      (∃ a ∈ w.attempts, a.script = .fail
          (.insufficientFunds 1 ⟨50, 0, false, by decide⟩ ⟨40, 0, false, by decide⟩)) ∧
      ∃ serial, SerialAt TransferService.fundedPair w serial := by
  have opened : Store.Run _
      { accounts := [⟨1, "a", ⟨100, 0, false, by decide⟩, .usd⟩], nextAccount := 2 } :=
    .step (.createAccount "a" ⟨100, 0, false, by decide⟩ .usd) .empty
        ⟨(fun _ noTx => by cases noTx), rfl⟩
  have base : Store.Run _ TransferService.fundedPair :=
    .step (.createAccount "b" ⟨0, 0, false, by decide⟩ .usd) opened
        ⟨(fun _ noTx => by cases noTx), rfl⟩
  have started :
      World.Run false false TransferService.fundedPair [] ⟨TransferService.fundedPair, []⟩ := .start
  have begunA := World.Run.begin ⟨1, 2, ⟨⟨60, 0, false, by decide⟩, by decide⟩⟩ started
  have begunB := World.Run.begin ⟨1, 2, ⟨⟨50, 0, false, by decide⟩, by decide⟩⟩ begunA
  have startedA := World.Run.pass begunB List.mem_cons_self rfl
  have startedB := World.Run.pass startedA (List.mem_cons_of_mem _ List.mem_cons_self) rfl
  have lockedFrom := World.Run.serve startedB List.mem_cons_self (TxScript.Served.granted rfl)
  have lockedTo := World.Run.serve lockedFrom List.mem_cons_self (TxScript.Served.granted rfl)
  have locked := World.Run.pass lockedTo List.mem_cons_self rfl
  have verified := World.Run.pass locked List.mem_cons_self rfl
  have recorded := World.Run.serve verified List.mem_cons_self (TxScript.Served.transfer rfl)
  have debited := World.Run.serve recorded List.mem_cons_self (TxScript.Served.entry rfl)
  have credited := World.Run.serve debited List.mem_cons_self (TxScript.Served.entry rfl)
  have written := World.Run.pass credited List.mem_cons_self rfl
  have moved := World.Run.serve written List.mem_cons_self (TxScript.Served.move rfl)
  have updated := World.Run.pass moved List.mem_cons_self rfl
  have readFrom := World.Run.serve updated List.mem_cons_self TxScript.Served.view
  have readTo := World.Run.serve readFrom List.mem_cons_self TxScript.Served.view
  have committed := World.Run.commit readTo List.mem_cons_self rfl
  have secondFrom := World.Run.serve committed List.mem_cons_self (TxScript.Served.granted rfl)
  have secondTo := World.Run.serve secondFrom List.mem_cons_self (TxScript.Served.granted rfl)
  have run := World.Run.pass secondTo List.mem_cons_self rfl
  exact ⟨_, _, _, base, rfl, run, ⟨_, List.mem_cons_self, rfl⟩, Run.serializable base rfl run⟩

end World

end TransferLedger
