import TransferLedger.Proofs.Store.Records

/-! Row locks and read-committed isolation for any clients of the store: along every run a held row
is its committed row with the transaction's own deltas added, and a committed balance is the opening
balance with the committed deltas added in commit order. -/

namespace TransferLedger

namespace Store

/-- What a run's history says of the store it reached. -/
structure Tracks (h : History) (s : Store) : Prop where
  sound : Sound s
  staged : ∀ tx ∈ s.openTxs, ∀ row ∈ tx.held, ∃ c, s.account? row.id = some c ∧
    { c with balance := row.balance } = row ∧
    applyDeltas c.balance (h.deltas tx.id row.id) = some row.balance
  unheld : ∀ tx ∈ s.openTxs, ∀ id, id ∉ tx.heldIds → h.deltas tx.id id = []
  committed : ∀ c ∈ s.accounts, ∃ b, h.opening c.id = some b ∧
    applyDeltas b (h.published c.id) = some c.balance
  openUncommitted : ∀ tx ∈ s.openTxs, tx.id ∉ h.commits
  commitsBelow : ∀ t ∈ h.commits, t < s.nextTx
  unbegun : ∀ t, s.nextTx ≤ t → ∀ id, h.deltas t id = []
  unopened : ∀ id : AccountId, s.nextAccount ≤ id → h.opening id = none ∧ ∀ t, h.deltas t id = []

theorem tracks_empty : Tracks [] {} where
  sound := sound_empty
  staged := by simp
  unheld := by simp
  committed := by simp
  openUncommitted := by simp
  commitsBelow := by simp [History.commits]
  unbegun := by simp [History.deltas]
  unopened := by simp [History.opening, History.deltas]

theorem account?_of_mem {s : Store} (sound : Sound s) {c : Account} (member : c ∈ s.accounts) :
    s.account? c.id = some c :=
  find?_key_of_mem sound.accountIds member

theorem find?_publish (accounts held : List Account) (id : AccountId) :
    (accounts.map fun row => (held.find? (·.id == row.id)).getD row).find? (·.id == id) =
      (accounts.find? (·.id == id)).map fun row => (held.find? (·.id == row.id)).getD row := by
  have keeps : ((fun row : Account => row.id == id) ∘
      fun row => (held.find? (·.id == row.id)).getD row) = fun row => row.id == id := by
    funext row
    simp [Sound.publish_id]
  rw [List.find?_map, keeps]

theorem deltas_moves (t : TxId) (g : AccountId → Decimal) (news : List (AccountId × Decimal))
    (distinct : (news.map (·.1)).Nodup) (u : TxId) (id : AccountId) :
    History.deltas (news.map fun p => .moved t p.1 (g p.1)) u id =
      if u = t then ((news.find? (·.1 == id)).map fun p => g p.1).toList else [] := by
  have keys : (news.map fun p => Event.moved t p.1 (g p.1)) =
      (news.map (·.1)).map fun i => .moved t i (g i) := by
    rw [List.map_map]
    rfl
  rw [keys, History.deltas_moved t g _ distinct]
  by_cases mine : u = t
  · cases found : news.find? (·.1 == id) with
    | none =>
      have absent : id ∉ news.map (·.1) := fun listed => by
        obtain ⟨q, member, named⟩ := List.mem_map.mp listed
        exact List.find?_eq_none.mp found q member (beq_iff_eq.mpr named)
      simp [mine, absent]
    | some p =>
      have named : p.1 = id := by simpa using List.find?_some found
      have present : id ∈ news.map (·.1) :=
        named ▸ List.mem_map_of_mem (List.mem_of_find?_eq_some found)
      simp [mine, present, named]
  · simp [mine]

namespace Tracks

variable {h : History} {s s' : Store} {t : TxId}

theorem modifyTx {h' : History} (tracks : Tracks h s) {tx₀ : OpenTx} (member₀ : tx₀ ∈ s.openTxs)
    {f : OpenTx → OpenTx} (keepsId : ∀ tx, (f tx).id = tx.id) (sound : Sound (s.modifyTx tx₀.id f))
    (others : ∀ u, u ≠ tx₀.id → ∀ id, h'.deltas u id = h.deltas u id)
    (opening : h'.opening = h.opening) (commits : h'.commits = h.commits)
    (staged : ∀ row ∈ (f tx₀).held, ∃ c, s.account? row.id = some c ∧
      { c with balance := row.balance } = row ∧
      applyDeltas c.balance (h'.deltas tx₀.id row.id) = some row.balance)
    (unheld : ∀ id, id ∉ (f tx₀).heldIds → h'.deltas tx₀.id id = []) :
    Tracks h' (s.modifyTx tx₀.id f) := by
  have cases := fun tx' => @mem_modifyTx_of_mem s tracks.sound tx₀ member₀ f tx'
  have published : ∀ id, h'.published id = h.published id := by
    intro id
    simp only [History.published, commits]
    exact List.flatMap_congr fun u committed =>
      others u (fun same => tracks.openUncommitted tx₀ member₀ (same ▸ committed)) id
  refine ⟨sound, ?_, ?_, ?_, ?_, ?_, ?_, ?_⟩
  · intro tx member row held
    rcases (cases tx).mp member with rfl | ⟨old, other⟩
    · rw [keepsId, modifyTx_account?]
      exact staged row held
    · rw [others tx.id other]
      exact tracks.staged tx old row held
  · intro tx member id notHeld
    rcases (cases tx).mp member with rfl | ⟨old, other⟩
    · rw [keepsId]
      exact unheld id notHeld
    · rw [others tx.id other]
      exact tracks.unheld tx old id notHeld
  · intro c member
    rw [opening, published]
    exact tracks.committed c member
  · intro tx member
    rw [commits]
    rcases (cases tx).mp member with rfl | ⟨old, -⟩
    · rw [keepsId]
      exact tracks.openUncommitted tx₀ member₀
    · exact tracks.openUncommitted tx old
  · rw [commits]
    exact tracks.commitsBelow
  · intro u later id
    have other : u ≠ tx₀.id :=
      Nat.ne_of_gt (Nat.lt_of_lt_of_le (tracks.sound.txsBelow tx₀ member₀) later)
    rw [others u other]
    exact tracks.unbegun u later id
  · intro id later
    refine ⟨opening ▸ (tracks.unopened id later).1, fun u => ?_⟩
    by_cases same : u = tx₀.id
    · subst same
      -- an id at or above the account counter is no account, so no transaction holds it
      refine unheld id fun held => ?_
      obtain ⟨row, member, rfl⟩ := List.mem_map.mp held
      obtain ⟨c, found, -⟩ := staged row member
      obtain ⟨committed, sameId⟩ := account?_eq_some found
      have below := tracks.sound.accountsBelow c committed
      have : s.nextAccount ≤ row.id := later
      unfold AccountId at *
      omega
    · rw [others u same]
      exact (tracks.unopened id later).2 u

theorem keepHeld (tracks : Tracks h s) {tx₀ : OpenTx} (member₀ : tx₀ ∈ s.openTxs)
    {f : OpenTx → OpenTx} (keepsId : ∀ tx, (f tx).id = tx.id)
        (keepsHeld : (f tx₀).held = tx₀.held) :
    Tracks h (s.modifyTx tx₀.id f) :=
  tracks.modifyTx member₀ keepsId (tracks.sound.keepHeld member₀ keepsId keepsHeld)
    (fun _ _ _ => rfl) rfl rfl (keepsHeld ▸ tracks.staged tx₀ member₀)
    (fun id notHeld => tracks.unheld tx₀ member₀ id (by rwa [OpenTx.heldIds, ← keepsHeld]))

theorem counters (tracks : Tracks h s) (entry transfer : Nat) :
    Tracks h { s with nextEntry := entry, nextTransfer := transfer } :=
  { tracks with sound := tracks.sound.counters entry transfer }

theorem lockRow (tracks : Tracks h s) (opened : s.isOpen t = true) {id : AccountId}
    {row : Account} (granted : s.lockRow t id = .granted s' row) : Tracks h s' := by
  rcases lockRow_granted granted with ⟨_, rfl⟩ | ⟨notHeld, found, -, rfl⟩
  · exact tracks
  obtain ⟨tx₀, member₀, rfl, -⟩ := tx?_of_isOpen tracks.sound opened
  have fresh := id_notMem_heldIds tracks.sound member₀ notHeld
  have sameId := (account?_eq_some found).2
  refine tracks.modifyTx member₀ (fun _ => rfl) (tracks.sound.lockRow opened granted)
    (fun _ _ _ => rfl) rfl rfl ?_ ?_
  · intro r held
    rcases List.mem_append.mp held with old | new
    · exact tracks.staged tx₀ member₀ r old
    · rw [List.mem_singleton.mp new, sameId, tracks.unheld tx₀ member₀ id fresh]
      exact ⟨row, found, rfl, rfl⟩
  · intro id' notHeld'
    refine tracks.unheld tx₀ member₀ id' fun old => notHeld' ?_
    simp only [OpenTx.heldIds, List.map_append]
    exact List.mem_append_left _ old

theorem recordTransfer (tracks : Tracks h s) (opened : s.isOpen t = true)
    {fromId toId : AccountId} {amount : Decimal} {record : TransferRecord}
    (made : s.recordTransfer t fromId toId amount = .ok (s', record)) : Tracks h s' := by
  obtain ⟨-, -, -, -, rfl⟩ := recordTransfer_ok made
  obtain ⟨tx₀, member₀, rfl, -⟩ := tx?_of_isOpen tracks.sound opened
  refine (tracks.counters s.nextEntry (s.nextTransfer + 1)).keepHeld member₀ (fun _ => ?_) ?_ <;>
    rfl

theorem recordEntry (tracks : Tracks h s) (opened : s.isOpen t = true) {accountId : AccountId}
    {amount : Decimal} {entry : Entry} (made : s.recordEntry t accountId amount = .ok (s', entry)) :
    Tracks h s' := by
  obtain ⟨-, -, rfl⟩ := recordEntry_ok made
  obtain ⟨tx₀, member₀, rfl, -⟩ := tx?_of_isOpen tracks.sound opened
  refine (tracks.counters (s.nextEntry + 1) s.nextTransfer).keepHeld member₀ (fun _ => ?_) ?_ <;>
    rfl

theorem locks (tracks : Tracks h s) (opened : s.isOpen t = true) (locks : Locks t s s') :
    Tracks h s' := by
  induction locks with
  | refl => exact tracks
  | grant granted _ rest =>
    exact rest (tracks.lockRow opened granted) (((lockRow_touches granted).isOpen t).trans opened)

theorem createAccount (tracks : Tracks h s) {owner : String} {balance : Decimal}
    {currency : Currency} {account : Account}
    (created : s.createAccount owner balance currency = .ok (s', account)) :
    Tracks (h ++ [.opened account.id account.balance]) s' := by
  have sound := tracks.sound.createAccount created
  obtain ⟨-, rfl, rfl⟩ := createAccount_ok created
  obtain ⟨unopened, untouched⟩ := tracks.unopened s.nextAccount (Int.le_refl _)
  have sameDeltas : ∀ u id, History.deltas (h ++ [.opened s.nextAccount balance]) u id =
      h.deltas u id := by simp
  have published : ∀ id, History.published (h ++ [.opened s.nextAccount balance]) id =
      h.published id :=
    History.published_append_of_pending (by simp) (by simp)
  have lookup : ∀ {id c}, s.account? id = some c →
      (s.accounts ++ [({ id := s.nextAccount, owner, balance, currency } : Account)]).find?
        (·.id == id) =
        some c := by
    intro id c found
    rw [List.find?_append, show s.accounts.find? (·.id == id) = some c from found]
    rfl
  refine ⟨sound, ?_, ?_, ?_, ?_, ?_, ?_, ?_⟩
  · intro tx member row held
    obtain ⟨c, found, copy, added⟩ := tracks.staged tx member row held
    exact ⟨c, lookup found, copy, by rw [sameDeltas]; exact added⟩
  · intro tx member id notHeld
    rw [sameDeltas]
    exact tracks.unheld tx member id notHeld
  · intro c member
    rw [published]
    rcases List.mem_append.mp member with old | new
    · obtain ⟨b, opening, added⟩ := tracks.committed c old
      exact ⟨b, by simp [opening], added⟩
    · rw [List.mem_singleton.mp new]
      have untouched : h.published s.nextAccount = [] :=
        List.flatMap_eq_nil_iff.mpr fun u _ => untouched u
      exact ⟨balance, by simp [unopened], by rw [untouched]; rfl⟩
  · simpa using tracks.openUncommitted
  · simpa using tracks.commitsBelow
  · intro u later id
    rw [sameDeltas]
    exact tracks.unbegun u later id
  · intro id later
    have above : ((s.nextAccount + 1 : Nat) : Int) ≤ id := later
    have fresh : (s.nextAccount : AccountId) ≤ id := by
      unfold AccountId at *
      omega
    have other : (s.nextAccount : AccountId) ≠ id := by
      unfold AccountId at *
      omega
    refine ⟨by simp [(tracks.unopened id fresh).1, other], fun u => ?_⟩
    rw [sameDeltas]
    exact (tracks.unopened id fresh).2 u

theorem begin (tracks : Tracks h s) : Tracks h s.begin.1 := by
  refine ⟨tracks.sound.begin, ?_, ?_, tracks.committed, ?_, ?_, ?_, tracks.unopened⟩
  all_goals simp only [Store.begin, List.mem_append, List.mem_singleton]
  · rintro tx (old | rfl) row held
    · exact tracks.staged tx old row held
    · simp at held
  · rintro tx (old | rfl) id notHeld
    · exact tracks.unheld tx old id notHeld
    · exact tracks.unbegun s.nextTx (Nat.le_refl _) id
  · rintro tx (old | rfl)
    · exact tracks.openUncommitted tx old
    · exact fun committed => Nat.lt_irrefl _ (tracks.commitsBelow _ committed)
  · intro u committed
    exact Nat.lt_succ_of_lt (tracks.commitsBelow u committed)
  · intro u later id
    exact tracks.unbegun u (Nat.le_of_succ_le later) id

theorem discard (tracks : Tracks h s) (t : TxId) : Tracks h (s.discard t) := by
  have old : ∀ {tx}, tx ∈ (s.discard t).openTxs → tx ∈ s.openTxs :=
    fun member => List.mem_of_mem_filter member
  exact ⟨tracks.sound.discard t, fun tx member => tracks.staged tx (old member),
    fun tx member => tracks.unheld tx (old member), tracks.committed,
    fun tx member => tracks.openUncommitted tx (old member), tracks.commitsBelow, tracks.unbegun,
    tracks.unopened⟩

theorem commit (tracks : Tracks h s) (opened : s.isOpen t = true) :
    Tracks (h ++ [.committed t]) (s.commit t) := by
  obtain ⟨tx₀, member₀, rfl, found⟩ := tx?_of_isOpen tracks.sound opened
  have sound := tracks.sound.commit tx₀.id
  rw [commit_of_tx? found] at sound ⊢
  have sameDeltas : ∀ u id, History.deltas (h ++ [.committed tx₀.id]) u id = h.deltas u id := by
    simp
  have sameOpening : ∀ id, History.opening (h ++ [.committed tx₀.id]) id = h.opening id := by
    simp
  have remaining : ∀ {tx}, tx ∈ s.openTxs.filter (·.id != tx₀.id) →
      tx ∈ s.openTxs ∧ tx.id ≠ tx₀.id := by
    intro tx member
    simpa using List.mem_filter.mp member
  refine ⟨sound, ?_, ?_, ?_, ?_, ?_, ?_, ?_⟩
  · intro tx member row held
    obtain ⟨old, other⟩ := remaining member
    obtain ⟨c, found', copy, added⟩ := tracks.staged tx old row held
    refine ⟨c, ?_, copy, by rw [sameDeltas]; exact added⟩
    have notHeld := tracks.sound.find?_held_eq_none member₀ old other held
    rw [← (account?_eq_some found').2] at notHeld
    show (s.accounts.map _).find? (·.id == row.id) = some c
    rw [find?_publish, show s.accounts.find? (·.id == row.id) = some c from found']
    simp [notHeld]
  · intro tx member id notHeld
    rw [sameDeltas]
    exact tracks.unheld tx (remaining member).1 id notHeld
  · intro c' member
    obtain ⟨c, old, rfl⟩ := List.mem_map.mp member
    obtain ⟨b, opening, added⟩ := tracks.committed c old
    refine ⟨b, by rw [Sound.publish_id, sameOpening]; exact opening, ?_⟩
    rw [Sound.publish_id, History.published_commit, applyDeltas_append, added, Option.bind_some]
    cases held : tx₀.held.find? (·.id == c.id) with
    | none =>
      have notHeld : c.id ∉ tx₀.heldIds := by
        intro mine
        obtain ⟨x, held', same⟩ := List.mem_map.mp mine
        exact List.find?_eq_none.mp held x held' (by simp [same])
      rw [tracks.unheld tx₀ member₀ c.id notHeld]
      rfl
    | some r =>
      have mine := List.mem_of_find?_eq_some held
      have sameId : r.id = c.id := by simpa using List.find?_some held
      obtain ⟨c₀, found', -, staged⟩ := tracks.staged tx₀ member₀ r mine
      rw [sameId, account?_of_mem tracks.sound old] at found'
      cases found'
      rw [← sameId]
      exact staged
  · intro tx member
    obtain ⟨old, other⟩ := remaining member
    simp only [History.commits_append, History.commits_singleton, Event.committedTx,
      Option.toList_some, List.mem_append, List.mem_singleton, not_or]
    exact ⟨tracks.openUncommitted tx old, other⟩
  · intro u committed
    simp only [History.commits_append, History.commits_singleton, Event.committedTx,
      Option.toList_some, List.mem_append, List.mem_singleton] at committed
    rcases committed with old | rfl
    · exact tracks.commitsBelow u old
    · exact tracks.sound.txsBelow _ member₀
  · intro u later id
    rw [sameDeltas]
    exact tracks.unbegun u later id
  · intro id later
    rw [sameOpening]
    refine ⟨(tracks.unopened id later).1, fun u => ?_⟩
    rw [sameDeltas]
    exact (tracks.unopened id later).2 u

theorem stage (tracks : Tracks h s) (opened : s.isOpen t = true)
    {news : List (AccountId × Decimal)} {g : AccountId → Decimal}
    (distinct : (news.map (·.1)).Nodup)
    (computed : ∀ p ∈ news, ∃ row, s.heldRow? t p.1 = some row ∧
      row.balance.add? (g p.1) = some p.2) :
    Tracks (h ++ news.map fun p => .moved t p.1 (g p.1)) (s.stageBalances t news) := by
  obtain ⟨tx₀, member₀, rfl, found⟩ := tx?_of_isOpen tracks.sound opened
  have moves := deltas_moves tx₀.id g news distinct
  have heldOf : ∀ p ∈ news, ∃ row ∈ tx₀.held, row.id = p.1 ∧ row.balance.add? (g p.1)
      = some p.2 := by
    intro p member
    obtain ⟨row, held, added⟩ := computed p member
    rw [heldRow?_of_tx? found] at held
    exact ⟨row, List.mem_of_find?_eq_some held, by simpa using List.find?_some held, added⟩
  have sound := tracks.sound.stageBalances opened news
  rw [stageBalances_eq] at sound ⊢
  refine tracks.modifyTx member₀ (fun _ => rfl) sound ?_ ?_ ?_ ?_ ?_
  · intro u other id
    rw [History.deltas_append, moves, if_neg other, List.append_nil]
  · funext id
    have unopened : History.opening (news.map fun p => .moved tx₀.id p.1 (g p.1)) id = none :=
      List.findSome?_eq_none_iff.mpr fun e member => by
        obtain ⟨p, -, rfl⟩ := List.mem_map.mp member
        rfl
    rw [History.opening_append, unopened, Option.or_none]
  · simp [History.commits, List.filterMap_map]
  · intro row' held'
    obtain ⟨r, held, rfl⟩ := List.mem_map.mp held'
    obtain ⟨c, found', copy, added⟩ := tracks.staged tx₀ member₀ r held
    rw [History.deltas_append, moves, if_pos rfl, restage_id]
    refine ⟨c, found', ?_⟩
    cases update : news.find? (·.1 == r.id) with
    | none =>
      simp only [restage, update, Option.map_none, Option.toList_none, List.append_nil]
      exact ⟨copy, added⟩
    | some p =>
      obtain ⟨row, mine, sameId, applied⟩ := heldOf p (List.mem_of_find?_eq_some update)
      have pid : p.1 = r.id := by simpa using List.find?_some update
      obtain rfl : row = r :=
        List.inj_on_of_nodup_map (tracks.sound.heldOnce tx₀ member₀) mine held (sameId.trans pid)
      simp only [restage, update, Option.map_some, Option.toList_some]
      refine ⟨by rw [← copy], ?_⟩
      rw [applyDeltas_append, added, Option.bind_some]
      simpa [applyDeltas] using applied
  · intro id notHeld
    have notHeld₀ : id ∉ tx₀.heldIds := by
      simpa [OpenTx.heldIds, List.map_map, Function.comp_def] using notHeld
    have untouched : news.find? (·.1 == id) = none := by
      refine List.find?_eq_none.mpr fun p member same => notHeld₀ ?_
      obtain ⟨row, held, sameId, -⟩ := heldOf p member
      rw [← beq_iff_eq.mp same, ← sameId]
      exact List.mem_map_of_mem held
    rw [History.deltas_append, moves, if_pos rfl, untouched, tracks.unheld tx₀ member₀ id notHeld₀]
    rfl

theorem moveBalances (tracks : Tracks h s) (opened : s.isOpen t = true) {fromId toId : AccountId}
    {amount : Decimal}
    (handled : s.handle (.move t fromId toId amount) = some s') :
    Tracks (h ++ (Request.move t fromId toId amount).events s) s' := by
  have spec : MoveOutcome t fromId toId amount s (updateOrder fromId toId) []
      (s.moveBalances t fromId toId amount) := moveBalances_spec tracks.sound opened
  cases result : s.moveBalances t fromId toId amount with
  | done s₁ outcome =>
    simp only [handle, result, Option.some.injEq] at handled
    subst handled
    rw [result] at spec
    cases outcome with
    | ok n =>
      obtain ⟨s₂, news, locks, ids, computed, rfl, -⟩ := spec
      have opened₂ := (locks.touches.isOpen t).trans opened
      simp only [Request.events, result]
      rw [← ids, List.map_map, Function.comp_def, List.nil_append]
      refine (tracks.locks opened locks).stage
        (g := fun id => (balanceDelta fromId toId id amount).getD Decimal.zero) opened₂
        (ids ▸ (updateOrder_nodup fromId toId).filter _) fun p member => ?_
      obtain ⟨row, delta, held, change, added, -⟩ := computed p member
      exact ⟨row, held, by rw [change]; exact added⟩
    | error e =>
      simp only [Request.events, result, List.append_nil]
      exact tracks.locks opened spec
  | waiting s₁ =>
    simp only [handle, result, Option.some.injEq] at handled
    subst handled
    rw [result] at spec
    simp only [Request.events, result, List.append_nil]
    exact tracks.locks opened spec
  | panicked message => simp [handle, result] at handled

/-- Every call keeps the account, with the call's events appended. -/
theorem step (tracks : Tracks h s) {r : Request} (stepped : Step s r s') :
    Tracks (h ++ r.events s) s' := by
  obtain ⟨opened, handled⟩ := stepped
  cases handles handled with
  | created created =>
    simp only [Request.events, created]
    exact tracks.createAccount created
  | createRefused refused =>
    simp only [Request.events, refused, List.append_nil]
    exact tracks
  | @move t _ _ _ _ _ => exact tracks.moveBalances (opened t rfl) handled
  | @commit t => exact tracks.commit (opened t rfl)
  | notGranted | read | transferRefused | entryRefused =>
    simp only [Request.events, List.append_nil]
    exact tracks
  | begin =>
    simp only [Request.events, List.append_nil]
    exact tracks.begin
  | @granted t _ _ _ granted =>
    simp only [Request.events, List.append_nil]
    exact tracks.lockRow (opened t rfl) granted
  | @transfer t _ _ _ _ _ made =>
    simp only [Request.events, List.append_nil]
    exact tracks.recordTransfer (opened t rfl) made
  | @entry t _ _ _ _ made =>
    simp only [Request.events, List.append_nil]
    exact tracks.recordEntry (opened t rfl) made
  | @rollback t =>
    simp only [Request.events, List.append_nil]
    exact tracks.discard t

end Tracks

/-! ## What a transaction sees -/

section Views

variable {s : Store}

theorem heldRow?_eq_none_iff (sound : Sound s) {tx : OpenTx} (member : tx ∈ s.openTxs)
    {id : AccountId} : s.heldRow? tx.id id = none ↔ id ∉ tx.heldIds := by
  rw [heldRow?_of_tx? (tx?_of_mem sound member)]
  simp [OpenTx.heldIds, List.find?_eq_none]

theorem heldRow?_of_held (sound : Sound s) {tx : OpenTx} (member : tx ∈ s.openTxs)
    {row : Account} (held : row ∈ tx.held) : s.heldRow? tx.id row.id = some row := by
  rw [heldRow?_of_tx? (tx?_of_mem sound member)]
  exact find?_key_of_mem (sound.heldOnce tx member) held

theorem viewRow_held (sound : Sound s) {tx : OpenTx} (member : tx ∈ s.openTxs) {row : Account}
    (held : row ∈ tx.held) : s.viewRow tx.id row.id = some row := by
  simp [viewRow, heldRow?_of_held sound member held]

theorem lockRow_held (sound : Sound s) {tx : OpenTx} (member : tx ∈ s.openTxs) {row : Account}
    (held : row ∈ tx.held) : s.lockRow tx.id row.id = .granted s row := by
  simp [lockRow, heldRow?_of_held sound member held]

theorem viewRow_unheld (sound : Sound s) {tx : OpenTx} (member : tx ∈ s.openTxs) {id : AccountId}
    (notHeld : id ∉ tx.heldIds) : s.viewRow tx.id id = s.account? id := by
  simp [viewRow, (heldRow?_eq_none_iff sound member).mpr notHeld]

theorem lockRow_eq_waiting {t : TxId} {id : AccountId} :
    s.lockRow t id = .waiting ↔
      s.heldRow? t id = none ∧ s.hasAccount id = true ∧ s.otherHolder? t id ≠ none := by
  unfold lockRow
  rw [← account?_isSome]
  cases s.heldRow? t id <;> cases s.account? id <;> cases s.otherHolder? t id <;> simp

theorem held_iff_others_wait (sound : Sound s) {tx : OpenTx} (member : tx ∈ s.openTxs)
    (id : AccountId) : id ∈ tx.heldIds ↔ ∀ t, t ≠ tx.id → s.lockRow t id = .waiting := by
  constructor
  · intro held t other
    obtain ⟨row, mine, rfl⟩ := List.mem_map.mp held
    refine lockRow_eq_waiting.mpr ⟨?_, sound.hasAccount_of_held member mine, fun none => ?_⟩
    · cases found : s.tx? t with
      | none => simp [heldRow?, found]
      | some tx' =>
        obtain ⟨member', rfl⟩ := tx?_eq_some found
        exact (heldRow?_eq_none_iff sound member').mpr
          (sound.exclusive tx member tx' member' (Ne.symm other) _ held)
    · exact otherHolder?_eq_none.mp none tx member (Ne.symm other) held
  · intro waiting
    have fresh : s.nextTx ≠ tx.id := Nat.ne_of_gt (sound.txsBelow tx member)
    obtain ⟨-, -, holder⟩ := lockRow_eq_waiting.mp (waiting s.nextTx fresh)
    simp only [Ne, otherHolder?_eq_none, not_forall, not_not] at holder
    obtain ⟨tx', member', -, held'⟩ := holder
    by_cases same : tx'.id = tx.id
    · rwa [← List.inj_on_of_nodup_map sound.txIds member' member same]
    · have unheld := (heldRow?_eq_none_iff sound member').mp
        (lockRow_eq_waiting.mp (waiting tx'.id same)).1
      exact absurd held' unheld

end Views

/-- Along every run the store keeps the account of its history. -/
theorem Run.tracks {h : History} {s : Store} (run : Run h s) : Tracks h s := by
  induction run with
  | empty => exact tracks_empty
  | step r _ stepped tracks => exact tracks.step stepped

/-- Row locks and read-committed isolation, as a store's history accounts for them. -/
structure Isolated (h : History) (s : Store) : Prop where
  /-- A transaction holds an account's row lock exactly when every other transaction that asks
  for it has to wait. -/
  locks : ∀ tx ∈ s.openTxs, ∀ id, id ∈ tx.heldIds ↔ ∀ t, t ≠ tx.id → s.lockRow t id = .waiting
  exclusive : ∀ tx ∈ s.openTxs, ∀ tx' ∈ s.openTxs, tx.id ≠ tx'.id →
    ∀ id ∈ tx.heldIds, id ∉ tx'.heldIds
  /-- A held row is the committed row with the transaction's deltas added to its balance one
  after another, and the transaction reads it with or without asking for the lock. -/
  staged : ∀ tx ∈ s.openTxs, ∀ row ∈ tx.held, ∃ c, s.account? row.id = some c ∧
    { c with balance := row.balance } = row ∧
    applyDeltas c.balance (h.deltas tx.id row.id) = some row.balance ∧
    s.viewRow tx.id row.id = some row ∧ s.lockRow tx.id row.id = .granted s row
  readsCommitted : ∀ tx ∈ s.openTxs, ∀ id, id ∉ tx.heldIds → s.viewRow tx.id id = s.account? id
  /-- A committed balance is the opening balance with the deltas of the committed transactions
  added one after another, in commit order. -/
  published : ∀ c ∈ s.accounts, ∃ b, h.opening c.id = some b ∧
    applyDeltas b (h.published c.id) = some c.balance

/-- Every run of calls, by any clients in any interleaving, keeps row locks exclusive and reads
committed: a transaction sees its own staged rows and otherwise the committed ones, and no commit
overwrites another's change. -/
theorem Run.isolation {h : History} {s : Store} (run : Run h s) : Isolated h s := by
  have tracks := run.tracks
  have sound := tracks.sound
  refine ⟨fun tx member id => held_iff_others_wait sound member id, sound.exclusive, ?_,
    fun tx member id notHeld => viewRow_unheld sound member notHeld, tracks.committed⟩
  intro tx member row held
  obtain ⟨c, found, copy, added⟩ := tracks.staged tx member row held
  exact ⟨c, found, copy, added, viewRow_held sound member held, lockRow_held sound member held⟩

theorem isolation_after_two_updates :
    ∃ h s, runFrom {} [.createAccount "a" ⟨100, 0, false, by decide⟩ .usd,
        .createAccount "b" ⟨100, 0, false, by decide⟩ .usd, .begin, .move 0 2 1
            ⟨1, 0, false, by decide⟩,
        .move 0 1 2 ⟨3, 0, false, by decide⟩] = some (h, s) ∧
      s.heldRow? 0 1 = some ⟨1, "a", ⟨98, 0, false, by decide⟩, .usd⟩ ∧ Run h s ∧ Isolated h s := by
  obtain ⟨h, s, ran, held⟩ : ∃ h s, runFrom {} [.createAccount "a" ⟨100, 0, false, by decide⟩ .usd,
      .createAccount "b" ⟨100, 0, false, by decide⟩ .usd, .begin, .move 0 2 1
          ⟨1, 0, false, by decide⟩,
      .move 0 1 2 ⟨3, 0, false, by decide⟩] = some (h, s) ∧
      s.heldRow? 0 1 = some ⟨1, "a", ⟨98, 0, false, by decide⟩, .usd⟩ :=
    ⟨_, _, rfl, by decide⟩
  have run : Run h s := by simpa using Run.empty.runFrom ran
  exact ⟨h, s, ran, held, run, run.isolation⟩

/-- Rounded additions need not cancel: a transaction credits one unit to an account whose balance
uses the whole mantissa and debits it again, so its deltas to the account sum to zero, yet the row
it holds has another balance than the committed row. -/
theorem staged_balance_rounds :
    ∃ h s, runFrom {}
        [.createAccount "a" ⟨79228162514264337593543950335, 28, false, by decide⟩ .usd,
        .createAccount "b" ⟨100, 0, false, by decide⟩ .usd, .begin, .move 0 2 1
            ⟨1, 0, false, by decide⟩,
        .move 0 1 2 ⟨1, 0, false, by decide⟩] = some (h, s) ∧
      h.deltas 0 1 = [⟨1, 0, false, by decide⟩, ⟨1, 0, true, by decide⟩] ∧
      s.account? 1 = some ⟨1, "a", ⟨79228162514264337593543950335, 28, false, by decide⟩, .usd⟩ ∧
      s.heldRow? 0 1 = some ⟨1, "a", ⟨7922816251426433759354395034, 27, false, by decide⟩, .usd⟩ :=
  ⟨_, _, rfl, by decide, by decide, by decide⟩

end Store

end TransferLedger
