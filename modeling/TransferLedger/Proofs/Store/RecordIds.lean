import TransferLedger.Proofs.Store.Records

/-! Ids of entries and transfers are used once: among committed records, among an open
transaction's, and across the two. The listings of an account follow commit order. -/

namespace TransferLedger

/-- The two kinds of records whose ids a counter draws. -/
inductive RecordKind where
  | entry
  | transfer

namespace RecordKind

def committed : RecordKind → Store → List Nat
  | .entry, s => s.entries.map (·.id)
  | .transfer, s => s.transfers.map (·.id)

def pending : RecordKind → OpenTx → List Nat
  | .entry, tx => tx.entries.map (·.id)
  | .transfer, tx => tx.transfers.map (·.id)

def next : RecordKind → Store → Nat
  | .entry, s => s.nextEntry
  | .transfer, s => s.nextTransfer

@[simp] theorem pending_begin (k : RecordKind) (t : TxId) : k.pending { id := t } = [] := by
  cases k <;> rfl

theorem committed_commit (k : RecordKind) {s : Store} {t : TxId} {tx : OpenTx}
    (found : s.tx? t = some tx) : k.committed (s.commit t) = k.committed s ++ k.pending tx := by
  rw [Store.commit_of_tx? found]
  cases k <;> simp [committed, pending]

end RecordKind

namespace Store

/-- Every id a counter has drawn names one record: the committed ids are distinct, so are the ids
of each open transaction's records, no pending id is committed or pending in another transaction,
and all are below the counter. -/
structure Numbered (k : RecordKind) (s : Store) : Prop where
  committedOnce : (k.committed s).Nodup
  pendingOnce : ∀ tx ∈ s.openTxs, (k.pending tx).Nodup
  apart : ∀ tx ∈ s.openTxs, ∀ i ∈ k.pending tx, i ∉ k.committed s
  exclusive : ∀ tx ∈ s.openTxs, ∀ tx' ∈ s.openTxs, tx.id ≠ tx'.id →
    ∀ i ∈ k.pending tx, i ∉ k.pending tx'
  committedBelow : ∀ i ∈ k.committed s, i < k.next s
  pendingBelow : ∀ tx ∈ s.openTxs, ∀ i ∈ k.pending tx, i < k.next s

namespace Numbered

variable {k : RecordKind} {s s' : Store}

theorem empty (k : RecordKind) : Numbered k {} := by
  cases k <;> exact ⟨List.nodup_nil, by simp, by simp [RecordKind.committed], by simp,
    by simp [RecordKind.committed], by simp⟩

theorem frame (numbered : Numbered k s) (committed : k.committed s' = k.committed s)
    (grows : k.next s ≤ k.next s')
    (kept : ∀ tx' ∈ s'.openTxs, k.pending tx' = [] ∨
      ∃ tx ∈ s.openTxs, tx.id = tx'.id ∧ k.pending tx = k.pending tx') : Numbered k s' := by
  refine ⟨committed ▸ numbered.committedOnce, fun tx' member' => ?_,
    fun tx' member' i mine => ?_, fun u' memberU v' memberV distinct => ?_,
    fun i below => ?_, fun tx' member' i mine => ?_⟩
  · rcases kept tx' member' with none | ⟨tx, member, -, same⟩
    · simp [none]
    · exact same ▸ numbered.pendingOnce tx member
  · rw [committed]
    rcases kept tx' member' with none | ⟨tx, member, -, same⟩
    · simp [none] at mine
    · exact numbered.apart tx member i (same ▸ mine)
  · rcases kept u' memberU with none | ⟨u, member, sameU, pendingU⟩
    · simp [none]
    rcases kept v' memberV with none | ⟨v, member', sameV, pendingV⟩
    · simp [none]
    rw [← pendingU, ← pendingV]
    exact numbered.exclusive u member v member' (by rwa [sameU, sameV])
  · rw [committed] at below
    exact Nat.lt_of_lt_of_le (numbered.committedBelow i below) grows
  · rcases kept tx' member' with none | ⟨tx, member, -, same⟩
    · simp [none] at mine
    · exact Nat.lt_of_lt_of_le (numbered.pendingBelow tx member i (same ▸ mine)) grows

theorem modifyTx (numbered : Numbered k s) {t : TxId} {f : OpenTx → OpenTx}
    (keepsId : ∀ tx, (f tx).id = tx.id) (keepsPending : ∀ tx, k.pending (f tx) = k.pending tx) :
    Numbered k (s.modifyTx t f) := by
  have committed : k.committed (s.modifyTx t f) = k.committed s := by cases k <;> rfl
  have next : k.next (s.modifyTx t f) = k.next s := by cases k <;> rfl
  refine numbered.frame committed (Nat.le_of_eq next.symm) fun tx' member' => .inr ?_
  obtain ⟨tx, member, rfl⟩ := mem_modifyTx.mp member'
  refine ⟨tx, member, ?_, ?_⟩ <;> split <;> simp [keepsId, keepsPending]

theorem draw (numbered : Numbered k s) {s₀ : Store} {t : TxId} {f : OpenTx → OpenTx}
    (keepsId : ∀ tx, (f tx).id = tx.id)
    (drawn : ∀ tx, k.pending (f tx) = k.pending tx ++ [k.next s])
    (committed₀ : k.committed s₀ = k.committed s) (counted₀ : k.next s₀ = k.next s + 1)
    (txs₀ : s₀.openTxs = s.openTxs) : Numbered k (s₀.modifyTx t f) := by
  have committed : k.committed (s₀.modifyTx t f) = k.committed s := by
    rw [← committed₀]
    cases k <;> rfl
  have counted : k.next (s₀.modifyTx t f) = k.next s + 1 := by
    rw [← counted₀]
    cases k <;> rfl
  have txs : (s₀.modifyTx t f).openTxs = (s.modifyTx t f).openTxs := by
    simp only [modifyTx_openTxs, txs₀]
  have fresh : ∀ tx ∈ s.openTxs, k.next s ∉ k.pending tx := fun tx member mine =>
    Nat.lt_irrefl _ (numbered.pendingBelow tx member _ mine)
  have after : ∀ tx' ∈ (s₀.modifyTx t f).openTxs, ∃ tx ∈ s.openTxs, tx.id = tx'.id ∧
      ∀ i, i ∈ k.pending tx' ↔ i ∈ k.pending tx ∨ (tx.id = t ∧ i = k.next s) := by
    intro tx' member'
    rw [txs] at member'
    obtain ⟨tx, member, rfl⟩ := mem_modifyTx.mp member'
    refine ⟨tx, member, by split <;> simp [keepsId], fun i => ?_⟩
    by_cases mine : tx.id = t <;> simp [mine, drawn]
  refine ⟨committed ▸ numbered.committedOnce, fun tx' member' => ?_,
    fun tx' member' i pendingI => ?_, fun u' memberU v' memberV distinct i inU inV => ?_,
    fun i below => ?_, fun tx' member' i pendingI => ?_⟩
  · rw [txs] at member'
    obtain ⟨tx, member, rfl⟩ := mem_modifyTx.mp member'
    split
    · rw [drawn, ← List.concat_eq_append]
      exact (numbered.pendingOnce tx member).concat (fresh tx member)
    · exact numbered.pendingOnce tx member
  · obtain ⟨tx, member, -, ids⟩ := after tx' member'
    rw [committed]
    rcases (ids i).mp pendingI with old | ⟨-, rfl⟩
    · exact numbered.apart tx member i old
    · exact fun committedI => Nat.lt_irrefl _ (numbered.committedBelow _ committedI)
  · obtain ⟨u, memberU₀, sameU, idsU⟩ := after u' memberU
    obtain ⟨v, memberV₀, sameV, idsV⟩ := after v' memberV
    have apart : u.id ≠ v.id := by rwa [sameU, sameV]
    rcases (idsU i).mp inU with oldU | ⟨isU, newU⟩ <;>
      rcases (idsV i).mp inV with oldV | ⟨isV, newV⟩
    · exact numbered.exclusive u memberU₀ v memberV₀ apart i oldU oldV
    · exact fresh u memberU₀ (newV ▸ oldU)
    · exact fresh v memberV₀ (newU ▸ oldV)
    · exact apart (isU.trans isV.symm)
  · rw [counted]
    rw [committed] at below
    exact Nat.lt_succ_of_lt (numbered.committedBelow i below)
  · obtain ⟨tx, member, -, ids⟩ := after tx' member'
    rw [counted]
    rcases (ids i).mp pendingI with old | ⟨-, rfl⟩
    · exact Nat.lt_succ_of_lt (numbered.pendingBelow tx member i old)
    · exact Nat.lt_succ_self _

theorem commit (numbered : Numbered k s) (t : TxId) : Numbered k (s.commit t) := by
  cases found : s.tx? t with
  | none => simpa [Store.commit, found] using numbered
  | some tx₀ =>
    obtain ⟨member₀, rfl⟩ := tx?_eq_some found
    have committed := k.committed_commit found
    have next : k.next (s.commit tx₀.id) = k.next s := by
      cases k <;> simp [RecordKind.next, commit_of_tx? found]
    have remaining : ∀ {tx}, tx ∈ (s.commit tx₀.id).openTxs → tx ∈ s.openTxs ∧ tx.id ≠ tx₀.id := by
      intro tx member
      rw [commit_of_tx? found] at member
      simpa using List.mem_filter.mp member
    refine ⟨?_, fun tx member => numbered.pendingOnce tx (remaining member).1,
      fun tx member i mine => ?_, fun u memberU v memberV =>
        numbered.exclusive u (remaining memberU).1 v (remaining memberV).1,
      fun i published => ?_, fun tx member i mine => ?_⟩
    · rw [committed]
      refine List.nodup_append.mpr ⟨numbered.committedOnce, numbered.pendingOnce tx₀ member₀, ?_⟩
      intro i old j new same
      subst same
      exact numbered.apart tx₀ member₀ i new old
    · obtain ⟨old, other⟩ := remaining member
      rw [committed, List.mem_append, not_or]
      exact ⟨numbered.apart tx old i mine,
        numbered.exclusive tx old tx₀ member₀ other i mine⟩
    · rw [next]
      rw [committed, List.mem_append] at published
      rcases published with old | new
      · exact numbered.committedBelow i old
      · exact numbered.pendingBelow tx₀ member₀ i new
    · rw [next]
      exact numbered.pendingBelow tx (remaining member).1 i mine

theorem discard (numbered : Numbered k s) (t : TxId) : Numbered k (s.discard t) := by
  refine numbered.frame (by cases k <;> rfl) (by cases k <;> exact Nat.le_refl _)
    fun tx member => .inr ⟨tx, List.mem_of_mem_filter member, rfl, rfl⟩

theorem keepRecords {t : TxId} (numbered : Numbered k s) (touches : Touches t s s')
    (same : SameRecords s s') : Numbered k s' := by
  have ledger := touches.ledger
  simp only [Store.ledger, Ledger.mk.injEq] at ledger
  refine numbered.frame ?_ ?_ fun tx' member' => .inr ?_
  · cases k <;> simp [RecordKind.committed, ledger]
  · cases k
    · exact touches.nextEntry
    · exact touches.nextTransfer
  · obtain ⟨tx, member, records⟩ := same.mem member'
    simp only [OpenTx.records, Prod.mk.injEq] at records
    obtain ⟨sameId, sameTransfers, sameEntries⟩ := records
    refine ⟨tx, member, sameId, ?_⟩
    cases k <;> simp [RecordKind.pending, sameTransfers, sameEntries]

/-- Every call keeps every drawn id naming one record. -/
theorem step (numbered : Numbered k s) {r : Request} (stepped : Step s r s') : Numbered k s' := by
  obtain ⟨-, handled⟩ := stepped
  cases handles handled with
  | created created =>
    obtain ⟨-, -, rfl⟩ := createAccount_ok created
    exact numbered.frame (by cases k <;> rfl) (by cases k <;> exact Nat.le_refl _)
      fun tx member => .inr ⟨tx, member, rfl, rfl⟩
  | createRefused | notGranted | read | transferRefused | entryRefused => exact numbered
  | begin =>
    refine numbered.frame (by cases k <;> rfl) (by cases k <;> exact Nat.le_refl _)
      fun tx member => ?_
    rw [mem_begin_openTxs] at member
    rcases member with old | rfl
    · exact .inr ⟨tx, old, rfl, rfl⟩
    · exact .inl (k.pending_begin _)
  | granted granted =>
    exact numbered.keepRecords (lockRow_touches granted) (lockRow_sameRecords granted)
  | move result =>
    exact numbered.keepRecords (moveBalances_touches result) (moveBalances_sameRecords result)
  | transfer made =>
    obtain ⟨-, -, -, rfl, rfl⟩ := recordTransfer_ok made
    cases k with
    | transfer =>
      refine numbered.draw (fun _ => rfl) (fun tx => ?_) rfl rfl rfl
      simp [RecordKind.pending, RecordKind.next]
    | entry =>
      refine Numbered.modifyTx ?_ (fun _ => rfl) fun _ => rfl
      exact numbered.frame rfl (Nat.le_refl _) fun tx member => .inr ⟨tx, member, rfl, rfl⟩
  | entry made =>
    obtain ⟨-, rfl, rfl⟩ := recordEntry_ok made
    cases k with
    | entry =>
      refine numbered.draw (fun _ => rfl) (fun tx => ?_) rfl rfl rfl
      simp [RecordKind.pending, RecordKind.next]
    | transfer =>
      refine Numbered.modifyTx ?_ (fun _ => rfl) fun _ => rfl
      exact numbered.frame rfl (Nat.le_refl _) fun tx member => .inr ⟨tx, member, rfl, rfl⟩
  | commit => exact numbered.commit _
  | rollback => exact numbered.discard _

end Numbered

theorem Reachable.numbered {s : Store} (reached : Reachable s) (k : RecordKind) : Numbered k s := by
  induction reached with
  | empty => exact Numbered.empty k
  | step r _ stepped numbered => exact numbered.step stepped

/-- However transactions interleave, commit and roll back, no two committed entries share an id
and no two committed transfers do, so no listing of an account names an id twice. -/
theorem Reachable.committed_ids_distinct {s : Store} (reached : Reachable s) :
    (s.entries.map (·.id)).Nodup ∧ (s.transfers.map (·.id)).Nodup ∧
      ∀ a, ((s.entriesOf a).map (·.id)).Nodup ∧ ((s.transfersOf a).map (·.id)).Nodup := by
  have entries : (s.entries.map (·.id)).Nodup := (reached.numbered .entry).committedOnce
  have transfers : (s.transfers.map (·.id)).Nodup := (reached.numbered .transfer).committedOnce
  exact ⟨entries, transfers, fun a =>
    ⟨(List.filter_sublist.map _).nodup entries, (List.filter_sublist.map _).nodup transfers⟩⟩

theorem committed_ids_distinct_after_crossed_commits :
    ∃ h s, runFrom {} [.createAccount "a" ⟨100, 0, false, by decide⟩ .usd,
        .createAccount "b" ⟨100, 0, false, by decide⟩ .usd, .begin, .begin, .recordEntry 0 1
            ⟨1, 0, false, by decide⟩,
        .recordTransfer 0 1 2 ⟨1, 0, false, by decide⟩, .recordEntry 1 1 ⟨2, 0, false, by decide⟩,
        .recordTransfer 1 2 1 ⟨2, 0, false, by decide⟩, .commit 1, .commit 0] = some (h, s) ∧
      Reachable s ∧
      ((s.entries.map (·.id)).Nodup ∧ (s.transfers.map (·.id)).Nodup ∧
        ∀ a, ((s.entriesOf a).map (·.id)).Nodup ∧ ((s.transfersOf a).map (·.id)).Nodup) := by
  obtain ⟨h, s, ran⟩ : ∃ h s, runFrom {} [.createAccount "a" ⟨100, 0, false, by decide⟩ .usd,
      .createAccount "b" ⟨100, 0, false, by decide⟩ .usd, .begin, .begin, .recordEntry 0 1
          ⟨1, 0, false, by decide⟩,
      .recordTransfer 0 1 2 ⟨1, 0, false, by decide⟩, .recordEntry 1 1 ⟨2, 0, false, by decide⟩,
      .recordTransfer 1 2 1 ⟨2, 0, false, by decide⟩, .commit 1, .commit 0] =
        some (h, s) := ⟨_, _, rfl⟩
  have reached : Reachable s := (Run.empty.runFrom ran).reachable
  exact ⟨h, s, ran, reached, Reachable.committed_ids_distinct reached⟩

/-- The same run lists the account's entries and transfers in commit order, which is not id
order: the second transaction's records, made later, come first. -/
theorem listings_follow_commit_order :
    ∃ h s, runFrom {} [.createAccount "a" ⟨100, 0, false, by decide⟩ .usd,
        .createAccount "b" ⟨100, 0, false, by decide⟩ .usd, .begin, .begin, .recordEntry 0 1
            ⟨1, 0, false, by decide⟩,
        .recordTransfer 0 1 2 ⟨1, 0, false, by decide⟩, .recordEntry 1 1 ⟨2, 0, false, by decide⟩,
        .recordTransfer 1 2 1 ⟨2, 0, false, by decide⟩, .commit 1, .commit 0] = some (h, s) ∧
      (s.entriesOf 1).map (·.id) = [2, 1] ∧ (s.transfersOf 1).map (·.id) = [2, 1] :=
  ⟨_, _, rfl, rfl, rfl⟩

end Store

end TransferLedger
