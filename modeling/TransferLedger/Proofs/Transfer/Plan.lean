import TransferLedger.Transfer.Service

/-! The changes a unit of work makes to its transaction, whatever the store answers: `follows` is
the weakest precondition of making a plan's changes in order, and a transfer follows the plan of its
record, its two entries and its balance update. -/

namespace TransferLedger

/-- A change a request makes to its transaction when it succeeds. -/
inductive Effect where
  | transfer (fromId toId : AccountId) (amount : Decimal)
  | entry (accountId : AccountId) (amount : Decimal)
  | move (fromId toId : AccountId) (amount : Decimal)
  deriving DecidableEq, Repr

namespace Effect

def consume (e : Effect) {β : Type} : Except InfraError β → List Effect → Option (List Effect)
  | .ok _, e' :: rest => if e' = e then some rest else none
  | .ok _, [] => none
  | .error _, plan => some plan

end Effect

namespace TxScript

variable {α β : Type}

/-- Whatever the store answers, the changes the script makes are the next ones of `plan`, in
order, and when it ends with a value `v`, `post v` holds of what is left of the plan. -/
def follows : TxScript α → (α → List Effect → Prop) → List Effect → Prop
  | .pure v, post, plan => post v plan
  | .fail _, _, _ => True
  | .lockForUpdate _ next, post, plan => ∀ r, follows (next r) post plan
  | .view _ next, post, plan => ∀ r, follows (next r) post plan
  | .recordTransfer fromId toId amount next, post, plan =>
    ∀ r, ∃ rest, (Effect.transfer fromId toId amount).consume r plan = some rest ∧
      follows (next r) post rest
  | .recordEntry accountId amount next, post, plan =>
    ∀ r, ∃ rest, (Effect.entry accountId amount).consume r plan = some rest ∧
      follows (next r) post rest
  | .moveBalances fromId toId amount next, post, plan =>
    ∀ r, ∃ rest, (Effect.move fromId toId amount).consume r plan = some rest ∧
      follows (next r) post rest
  | .log _ next, post, plan => follows next post plan
  | .note _ next, post, plan => follows next post plan

theorem bind_eq (k : TxScript α) (f : α → TxScript β) : k >>= f = k.bind f := rfl

@[simp] theorem throw_bind (e : TransferError) (f : α → TxScript β) :
    (throw e : TxScript α).bind f = throw e := rfl

theorem follows_bind (k : TxScript α) (f : α → TxScript β) (post : β → List Effect → Prop) :
    ∀ plan, (k.bind f).follows post plan ↔
      k.follows (fun v rest => (f v).follows post rest) plan := by
  induction k with
  | pure v | fail e => intro plan; rfl
  | lockForUpdate _ _ ih | view _ _ ih | recordTransfer _ _ _ _ ih | recordEntry _ _ _ ih
  | moveBalances _ _ _ _ ih =>
    intro plan
    simp only [bind, follows, ih]
  | log _ _ ih | note _ _ ih =>
    intro plan
    simp only [bind, follows, ih]

variable {post : α → List Effect → Prop} {plan : List Effect}

@[simp] theorem follows_emit (e : LogEvent) {post : Unit → List Effect → Prop} :
    (emit e).follows post plan ↔ post () plan := Iff.rfl

theorem follows_orFail (r : Except InfraError α) (ok : ∀ v, post v plan) :
    (orFail r).follows post plan := by
  cases r with
  | error e => trivial
  | ok v => exact ok v

theorem follows_lock (id : AccountId) {post : Option Account → List Effect → Prop}
    (ok : ∀ row, post row plan) : (lock id).follows post plan :=
  fun r => follows_orFail r ok

theorem follows_read (id : AccountId) {post : Option Account → List Effect → Prop}
    (ok : ∀ row, post row plan) : (read id).follows post plan :=
  fun r => follows_orFail r ok

theorem consume_step {e : Effect} {post : β → List Effect → Prop} {rest : List Effect}
    (r : Except InfraError β) (ok : ∀ v, post v rest) :
    ∃ rest', e.consume r (e :: rest) = some rest' ∧ (orFail r).follows post rest' := by
  cases r with
  | ok v => exact ⟨rest, by simp [Effect.consume], ok v⟩
  | error err => exact ⟨_, rfl, trivial⟩

theorem follows_newTransfer {fromId toId : AccountId} {amount : Decimal}
    {post : TransferRecord → List Effect → Prop} {rest : List Effect}
    (ok : ∀ record, post record rest) :
    (newTransfer fromId toId amount).follows post (.transfer fromId toId amount :: rest) :=
  fun r => consume_step r ok

theorem follows_newEntry {accountId : AccountId} {amount : Decimal}
    {post : Entry → List Effect → Prop} {rest : List Effect} (ok : ∀ entry, post entry rest) :
    (newEntry accountId amount).follows post (.entry accountId amount :: rest) :=
  fun r => consume_step r ok

theorem follows_move {fromId toId : AccountId} {amount : Decimal}
    {post : Nat → List Effect → Prop} {rest : List Effect} (ok : ∀ count, post count rest) :
    (move fromId toId amount).follows post (.move fromId toId amount :: rest) :=
  fun r => consume_step r ok

end TxScript

open TxScript

theorem lockAccounts_follows (fromId toId : AccountId) {post : LockedAccounts → List Effect → Prop}
    {plan : List Effect} (ok : ∀ locked, post locked plan) :
    (lockAccounts fromId toId).follows post plan := by
  unfold lockAccounts
  split
  · rw [bind_eq, follows_bind]
    exact follows_lock _ fun _ => ok _
  · simp only [bind_eq, follows_bind]
    exact follows_lock _ fun _ => follows_lock _ fun _ => ok _

/-- The changes a transfer makes, in order: its record, the debit entry, the credit entry and
the balance update. -/
def planned (p : TransferParams) : List Effect :=
  [.transfer p.fromAccountId p.toAccountId p.amount.value, .entry p.fromAccountId p.amount.debit,
    .entry p.toAccountId p.amount.credit, .move p.fromAccountId p.toAccountId p.amount.value]

theorem runTransfer_follows (p : TransferParams) :
    (runTransfer p).follows (fun _ rest => rest = []) (planned p) := by
  simp only [runTransfer, bind_eq, follows_bind, follows_emit, throw_bind]
  apply lockAccounts_follows
  rintro ⟨_ | fromAccount, toAccount⟩
  · trivial
  dsimp only
  split
  · trivial
  split
  · trivial
  simp only [planned, follows_bind, follows_emit]
  refine follows_newTransfer fun transfer => follows_newEntry fun fromEntry =>
    follows_newEntry fun toEntry => follows_move fun affected => ?_
  by_cases mismatch : affected ≠ if p.isSelfTransfer then 1 else 2
  · rw [if_pos mismatch]
    trivial
  rw [if_neg mismatch]
  simp only [follows_bind, follows_emit]
  refine follows_read _ fun fromRow => ?_
  rcases fromRow with _ | fromRow
  · trivial
  simp only [follows_bind]
  refine follows_read _ fun toRow => ?_
  rcases toRow with _ | toRow
  · trivial
  rfl

end TransferLedger
