import TransferLedger.Proofs.Store.Move

/-! The balance history of a store: accounts opened, changes made by successful balance updates
inside transactions, and commits, oldest first. -/

namespace TransferLedger

/-- What a call did to balances. -/
inductive Event where
  | opened (id : AccountId) (balance : Decimal)
  | moved (t : TxId) (id : AccountId) (delta : Decimal)
  | committed (t : TxId)

namespace Event

@[simp] def openingOf (id : AccountId) : Event → Option Decimal
  | .opened id' balance => if id' = id then some balance else none
  | .moved .. | .committed _ => none

@[simp] def deltaOf (t : TxId) (id : AccountId) : Event → Option Decimal
  | .moved t' id' delta => if t' = t ∧ id' = id then some delta else none
  | .opened .. | .committed _ => none

@[simp] def committedTx : Event → Option TxId
  | .committed t => some t
  | .opened .. | .moved .. => none

end Event

abbrev History := List Event

namespace History

def opening (h : History) (id : AccountId) : Option Decimal :=
  h.findSome? (Event.openingOf id)

def deltas (h : History) (t : TxId) (id : AccountId) : List Decimal :=
  h.filterMap (Event.deltaOf t id)

def commits (h : History) : List TxId :=
  h.filterMap Event.committedTx

/-- The changes committed to account `id`, transaction by transaction in commit order. -/
def published (h : History) (id : AccountId) : List Decimal :=
  h.commits.flatMap fun t => h.deltas t id

section Append

variable (h h' : History) (t : TxId) (id : AccountId)

@[simp] theorem opening_append : opening (h ++ h') id = (opening h id).or (opening h' id) :=
  List.findSome?_append

@[simp] theorem deltas_append : deltas (h ++ h') t id = deltas h t id ++ deltas h' t id :=
  List.filterMap_append

@[simp] theorem commits_append : commits (h ++ h') = commits h ++ commits h' :=
  List.filterMap_append

@[simp] theorem opening_singleton (e : Event) : opening [e] id = e.openingOf id := by
  simp only [opening, List.findSome?_cons, List.findSome?_nil]
  split <;> simp_all

@[simp] theorem deltas_singleton (e : Event) : deltas [e] t id = (e.deltaOf t id).toList := by
  simp only [deltas, List.filterMap_cons, List.filterMap_nil]
  split <;> simp_all

@[simp] theorem commits_singleton (e : Event) : commits [e] = e.committedTx.toList := by
  simp only [commits, List.filterMap_cons, List.filterMap_nil]
  split <;> simp_all

end Append

theorem published_append_of_pending {h h' : History} (noCommit : h'.commits = [])
    (pending : ∀ t ∈ h.commits, ∀ id, h'.deltas t id = []) (id : AccountId) :
    published (h ++ h') id = published h id := by
  simp only [published, commits_append, noCommit, List.append_nil, deltas_append]
  exact List.flatMap_congr fun t committed => by rw [pending t committed id, List.append_nil]

theorem published_commit (h : History) (t : TxId) (id : AccountId) :
    published (h ++ [.committed t]) id = published h id ++ deltas h t id := by
  have noDeltas : ∀ u, deltas [.committed t] u id = [] := fun _ => rfl
  have committed : commits [.committed t] = [t] := rfl
  simp only [published, commits_append, deltas_append, noDeltas, committed, List.append_nil,
    List.flatMap_append, List.flatMap_singleton]

theorem deltas_moved (t : TxId) (g : AccountId → Decimal) :
    ∀ (ids : List AccountId), ids.Nodup → ∀ u id,
      deltas (ids.map fun i => .moved t i (g i)) u id =
        if u = t ∧ id ∈ ids then [g id] else []
  | [], _, u, id => by simp [deltas]
  | i :: rest, distinct, u, id => by
    have fresh : i ∉ rest := (List.nodup_cons.mp distinct).1
    rw [List.map_cons, ← List.singleton_append, deltas_append,
      deltas_moved t g rest (List.nodup_cons.mp distinct).2 u id, deltas_singleton]
    by_cases mine : u = t
    · by_cases here : i = id
      · subst here
        simp [mine, fresh]
      · simp [mine, here, Ne.symm here]
    · have other : ¬t = u := fun same => mine same.symm
      simp [mine, other]

end History

namespace Request

/-- The balance events of a call made on store `s`: a new account, one change per existing
account of a successful balance update, or a commit. -/
def events (s : Store) : Request → History
  | .createAccount owner balance currency =>
    match s.createAccount owner balance currency with
    | .ok (_, account) => [.opened account.id account.balance]
    | .error _ => []
  | .move t fromId toId amount =>
    match s.moveBalances t fromId toId amount with
    | .done _ (.ok _) => ((Store.updateOrder fromId toId).filter s.hasAccount).map fun id =>
        .moved t id ((Store.balanceDelta fromId toId id amount).getD Decimal.zero)
    | _ => []
  | .commit t => [.committed t]
  | .begin | .lock .. | .read .. | .recordTransfer .. | .recordEntry .. | .rollback _ => []

end Request

namespace Store

/-- The stores that calls reach from the empty store, in any order, each with the history of
balance events of the calls that reached it. -/
inductive Run : History → Store → Prop where
  | empty : Run [] {}
  | step {h : History} {s s' : Store} (r : Request) : Run h s → Step s r s' →
      Run (h ++ r.events s) s'

/-- Makes calls one after another from store `s`, with the history of what they did; `none` if
a call names a transaction that is not open, or stops the program. -/
def runFrom (s : Store) : List Request → Option (History × Store)
  | [] => some ([], s)
  | r :: rest =>
    if r.tx?.all s.isOpen then
      match s.handle r with
      | some s' => (runFrom s' rest).map fun (h, s'') => (r.events s ++ h, s'')
      | none => none
    else none

theorem Run.runFrom {h : History} {s : Store} (run : Run h s) :
    ∀ {requests : List Request} {h' : History} {s' : Store},
      s.runFrom requests = some (h', s') → Run (h ++ h') s'
  | [], h', s', ran => by
    simp only [Store.runFrom, Option.some.injEq, Prod.mk.injEq] at ran
    obtain ⟨rfl, rfl⟩ := ran
    simpa using run
  | r :: rest, h', s', ran => by
    simp only [Store.runFrom] at ran
    split at ran
    · rename_i guard
      split at ran
      · rename_i s₁ handled
        obtain ⟨⟨h₁, s₂⟩, rest_ran, same⟩ := Option.map_eq_some_iff.mp ran
        simp only [Prod.mk.injEq] at same
        obtain ⟨rfl, rfl⟩ := same
        have opened : ∀ t, r.tx? = some t → s.isOpen t = true := by
          intro t named
          simpa [named] using guard
        have next := Run.step r run ⟨opened, handled⟩
        simpa using next.runFrom rest_ran
      · cases ran
    · cases ran

theorem Run.reachable {h : History} {s : Store} (run : Run h s) : Reachable s := by
  induction run with
  | empty => exact .empty
  | step r _ stepped reached => exact .step r reached stepped

end Store

/-- A balance with each delta added in turn, as the store adds them; `none` on overflow. -/
def applyDeltas (balance : Decimal) (deltas : List Decimal) : Option Decimal :=
  deltas.foldlM Decimal.add? balance

@[simp] theorem applyDeltas_nil (balance : Decimal) : applyDeltas balance [] = some balance := rfl

theorem applyDeltas_append (balance : Decimal) (first rest : List Decimal) :
    applyDeltas balance (first ++ rest) = (applyDeltas balance first).bind
        (applyDeltas · rest) := by
  simp [applyDeltas, List.foldlM_append]

end TransferLedger
