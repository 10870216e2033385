import P2pstream.Semantics.StreamCapacity

/-! The waiter queues keep their meaning under every queue function, and what each
function does to the order in which dispatch visits the keys.
-/
namespace P2pstream.StreamCapacityQueues
open Library Library.RoundRobin AList List Kernel.StreamCapacity.Manager
open Kernel.StreamCapacity Semantics.StreamCapacity

theorem mem_turn (m : Manager) (key : String) : key ∈ turn m ↔ key ∈ m.queueKeys := mem_rotate

variable {m : Manager} {back front : List Waiter} {q : QueueState} {waiter : Waiter}

theorem turn_nodup (line : Line (queueState m)) : (turn m).Nodup := nodup_rotate.mpr line.distinct

theorem line_remove (line : Line q) (held : queueOf q.queues waiter.queueKey = front ++ waiter :: back)
    {keys : List String} {cursor : Nat} (inside : CursorInside keys cursor) (status : WaiterStatus)
    (settled : status ≠ .queued) (distinct : keys.Nodup)
    (kept : ∀ key, key ∈ keys ↔ key ∈ q.queueKeys ∧ (key = waiter.queueKey → front ++ back ≠ [])) :
    Line { q with
      queues := put q.queues waiter.queueKey (front ++ back), queueKeys := keys, nextQueueKey := cursor,
      waiters := q.waiters - 1, waiterStatus := q.waiterStatus.insert waiter.id status } := by
  have perm : (waiting q.queues).Perm (waiter :: waiting (put q.queues waiter.queueKey (front ++ back))) := by
    have whole := waiting_perm q.queues waiter.queueKey
    rw [held] at whole
    rw [waiting_put]
    refine whole.trans ?_
    simp
  have ids := perm.map Waiter.id
  have once := ids.nodup_iff.mp line.once
  rw [map_cons,nodup_cons] at once
  have subset : ∀ other ∈ waiting (put q.queues waiter.queueKey (front ++ back)), other ∈ waiting q.queues :=
    fun other mem => perm.mem_iff.mpr (mem_cons_of_mem _ mem)
  have present : waiter.queueKey ∈ q.queues := by
    by_contra absent
    have none := lookup_eq_none.mpr absent
    simp [queueOf,Table.getD,none] at held
  refine ⟨inside,distinct,?_,?_,?_,?_,?_,once.2,?_,?_⟩
  · intro key
    rw [kept,line.listed,mem_put]
    by_cases same : key = waiter.queueKey
    · subst same
      simp [present]
    · simp [same]
  · intro key mem
    rw [queueOf_put]
    rcases (mem_put ..).mp mem with ⟨rfl,some⟩ | ⟨different,old⟩
    · simpa using some
    · simpa [different] using line.occupied key old
  · intro key other mem
    rw [queueOf_put] at mem
    split at mem
    · rename_i same
      subst same
      apply line.owned
      rw [held]
      simp only [mem_append,mem_cons] at mem ⊢
      tauto
    · exact line.owned key other mem
  · exact fun other mem => line.named other (subset other mem)
  · have size := perm.length_eq
    have count := line.counted
    simp only [length_cons] at size
    simp only
    omega
  · intro id
    by_cases same : id = waiter.id
    · subst same
      simp only [lookup_insert,Option.some.injEq]
      exact iff_of_false settled once.1
    · rw [lookup_insert_ne same,line.status,ids.mem_iff]
      simp [same]
  · intro id mem
    rcases (mem_insert _).mp mem with rfl | old
    · apply line.allocated
      rw [← lookup_isSome,(line.status waiter.id).mpr]
      · rfl
      · exact ids.mem_iff.mpr (.head _)
    · exact line.allocated id old

theorem listed_iff (line : Line q) (key : String) : key ∈ q.queueKeys ↔ queueOf q.queues key ≠ [] := by
  rw [line.listed]
  constructor
  · exact line.occupied key
  · intro some
    by_contra absent
    exact some (by simp [queueOf,Table.getD,lookup_eq_none.mpr absent])

theorem queue_listed (line : Line (queueState m)) (key : String) : key ∈ m.queueKeys ↔ m.queue key ≠ [] := listed_iff line key

theorem queued_listed (line : Line (queueState m)) (mem : waiter ∈ m.queuedWaiters) :
    waiter.queueKey ∈ m.queueKeys ∧ waiter ∈ m.queue waiter.queueKey := by
  obtain ⟨key,held⟩ := (mem_waiting m.queues waiter).mp mem
  have own : waiter.queueKey = key := line.owned key waiter held
  subst own
  refine ⟨(listed_iff line waiter.queueKey).mpr ?_,held⟩
  exact ne_nil_of_mem held

theorem lineLimits_congr {other : Manager} (limits : LineLimits m) (queues : other.queues = m.queues)
    (config : other.config = m.config) : LineLimits other := by
  have queue (key : String) : other.queue key = m.queue key := by simp only [queue,queues]
  have queued : other.queuedWaiters = m.queuedWaiters := by simp only [queuedWaiters,queues]
  constructor
  · intro key
    rw [queue,config]
    exact limits.perKey key
  · rw [queued,config]
    exact limits.publics
  · rw [queued,config]
    exact limits.control

/-- The keys after a waiter of `key` joins. -/
def keysWith (q : QueueState) (key : String) : List String :=
  if (queueOf q.queues key).isEmpty then q.queueKeys ++ [key] else q.queueKeys

theorem mem_keysWith (line : Line q) (key other : String) :
    other ∈ keysWith q key ↔ other = key ∨ other ∈ q.queueKeys := by
  unfold keysWith
  split
  · simp [or_comm]
  · rename_i occupied
    have old : key ∈ q.queueKeys := (listed_iff line key).mpr (by simpa using occupied)
    constructor
    · exact Or.inr
    · rintro (rfl | mem)
      · exact old
      · exact mem

theorem keysWith_nodup (line : Line q) (key : String) : (keysWith q key).Nodup := by
  unfold keysWith
  split
  · rename_i empty
    have absent : key ∉ q.queueKeys := by
      rw [listed_iff line]
      simpa using empty
    rw [nodup_append_comm]
    exact nodup_cons.mpr ⟨absent,line.distinct⟩
  · exact line.distinct

theorem cursor_keysWith (line : Line q) (key : String) : CursorInside (keysWith q key) q.nextQueueKey := by
  unfold keysWith
  split
  · rcases line.cursor with _ | ⟨none,zero⟩
    · left
      simp
      omega
    · left
      simp [none,zero]
  · exact line.cursor

theorem line_join (line : Line q) (waiter : Waiter) (fresh : waiter.id = q.nextWaiterID)
    (named : waiter.queueKey ≠ "" ∧ waiter.sessionKey ≠ "") :
    Line { q with
      queues := put q.queues waiter.queueKey (queueOf q.queues waiter.queueKey ++ [waiter])
      queueKeys := keysWith q waiter.queueKey, waiters := q.waiters + 1
      waiterStatus := q.waiterStatus.insert waiter.id .queued, nextWaiterID := q.nextWaiterID + 1 } := by
  have perm : (waiting (put q.queues waiter.queueKey (queueOf q.queues waiter.queueKey ++ [waiter]))).Perm
      (waiter :: waiting q.queues) := by
    rw [waiting_put]
    refine List.Perm.trans ?_ ((waiting_perm q.queues waiter.queueKey).symm.cons waiter)
    simp
  have ids := perm.map Waiter.id
  have unused : waiter.id ∉ (waiting q.queues).map Waiter.id := by
    intro mem
    have found := (line.status waiter.id).mpr mem
    have small := line.allocated waiter.id (lookup_isSome.mp (by rw [found]; rfl))
    omega
  refine ⟨cursor_keysWith line _,keysWith_nodup line _,?_,?_,?_,?_,?_,?_,?_,?_⟩
  · intro key
    rw [mem_keysWith line,mem_put,line.listed]
    by_cases same : key = waiter.queueKey <;> simp [same]
  · intro key mem
    rw [queueOf_put]
    rcases (mem_put ..).mp mem with ⟨rfl,_⟩ | ⟨different,old⟩
    · simp
    · simpa [different] using line.occupied key old
  · intro key other mem
    rw [queueOf_put] at mem
    split at mem
    · rename_i same
      subst same
      rcases mem_append.mp mem with old | last
      · exact line.owned _ other old
      · rw [mem_singleton.mp last]
    · exact line.owned key other mem
  · intro other mem
    rcases mem_cons.mp (perm.mem_iff.mp mem) with rfl | old
    · exact named
    · exact line.named other old
  · have size := perm.length_eq
    have count := line.counted
    simp only [length_cons] at size ⊢
    omega
  · apply ids.nodup_iff.mpr
    rw [map_cons,nodup_cons]
    exact ⟨unused,line.once⟩
  · intro id
    rw [ids.mem_iff]
    by_cases same : id = waiter.id
    · subst same
      simp
    · rw [lookup_insert_ne same,line.status id]
      simp [same]
  · intro id mem
    rcases (mem_insert _).mp mem with rfl | old
    · exact fresh ▸ Nat.lt_succ_self _
    · exact Nat.lt_succ_of_lt (line.allocated id old)

theorem queueState_newWaiter (m : Manager) (ctx : Nat) (c : CapacityClass) (queueKey sessionKey : String) :
    queueState (m.newWaiter ctx c queueKey sessionKey).1 = { queueState m with
      queues := put m.queues queueKey (queueOf m.queues queueKey ++ [(m.newWaiter ctx c queueKey sessionKey).2])
      queueKeys := keysWith (queueState m) queueKey
      waiters := m.waiters + 1
      waiterStatus := m.waiterStatus.insert m.nextWaiterID .queued
      nextWaiterID := m.nextWaiterID + 1 } := by
  simp [queueState,newWaiter,enqueueLocked,setStatus,put,keysWith,queue,queueOf]

theorem cursorAfterErase_inside (keys : List String) (index cursor : Nat) :
    CursorInside keys (cursorAfterErase keys.length index cursor) := by
  unfold CursorInside cursorAfterErase
  cases keys with
  | nil => simp
  | cons =>
    left
    generalize (if index < cursor then cursor - 1 else cursor) = shifted
    simp only
    split
    · simp
    · omega

theorem removeQueueKeyAt_eq (m : Manager) (index : Nat) : m.removeQueueKeyAtLocked index = { m with
      queueKeys := m.queueKeys.eraseIdx index
      nextQueueKey := cursorAfterErase (m.queueKeys.eraseIdx index).length index m.nextQueueKey } := by
  unfold removeQueueKeyAtLocked cursorAfterErase
  cases left : m.queueKeys.eraseIdx index <;> simp

theorem cursor_key (line : Line (queueState m)) {key : String} {rest : List String} (now : turn m = key :: rest) :
    m.queueKeys[m.nextQueueKey]? = some key := by
  rcases line.cursor with bound | ⟨none,_⟩
  · have first := head?_rotate bound
    simp only [queueState] at first
    rw [← first]
    change (turn m).head? = some key
    rw [now]
    rfl
  · have empty : turn m = [] := rotate_eq_nil_iff.mpr none
    rw [now] at empty
    cases empty

def turnAfterPop (key : String) (rest : List String) (emptied advance : Bool) : List String :=
  if emptied then rest else if advance then rest ++ [key] else key :: rest

def without (m : Manager) (key : String) (items : List Waiter) (keys : List String) (cursor : Nat) : Manager :=
  { m with queues := put m.queues key items, queueKeys := keys, nextQueueKey := cursor, waiters := m.waiters - 1 }

@[simp] theorem books_without (m : Manager) (key : String) (items : List Waiter) (keys : List String) (cursor : Nat) :
    books (without m key items keys cursor) = books m := by
  unfold books without
  rfl

@[simp] theorem environment_without (m : Manager) (key : String) (items : List Waiter) (keys : List String)
    (cursor : Nat) : environment (without m key items keys cursor) = environment m := by
  unfold environment resources without
  rfl

@[simp] theorem books_setStatus (m : Manager) (id : Nat) (status : WaiterStatus) :
    books (m.setStatus id status) = books m := by
  unfold books setStatus
  rfl

@[simp] theorem environment_setStatus (m : Manager) (id : Nat) (status : WaiterStatus) :
    environment (m.setStatus id status) = environment m := by
  unfold environment resources setStatus
  rfl

@[simp] theorem books_recordRejection (m : Manager) (constraint : Constraint) :
    books (m.recordRejectionLocked constraint) = books m := by
  unfold books recordRejectionLocked
  rfl

@[simp] theorem environment_recordRejection (m : Manager) (constraint : Constraint) :
    environment (m.recordRejectionLocked constraint) = environment m := by
  unfold environment resources recordRejectionLocked
  rfl

@[simp] theorem environment_grant (m : Manager) (c : CapacityClass) (queueKey sessionKey : String) :
    environment (m.grantLocked c queueKey sessionKey).1 = environment m := by
  unfold environment resources grantLocked
  rfl

theorem pop_eq (line : Line (queueState m)) {key : String} {rest : List String} (now : turn m = key :: rest)
    (held : m.queue key = front ++ waiter :: back) (advance : Bool) :
    ∃ keys cursor, m.popQueueEntryLocked m.nextQueueKey front.length advance = without m key (front ++ back) keys cursor ∧
      CursorInside keys cursor ∧ keys.rotate cursor = turnAfterPop key rest (front ++ back).isEmpty advance := by
  have found := cursor_key line now
  have bound : m.nextQueueKey < m.queueKeys.length := (List.getElem?_eq_some_iff.mp found).1
  have erased : (m.queue key).eraseIdx front.length = front ++ back := by
    rw [held]
    simp [eraseIdx_append_of_length_le]
  have current : m.queueKeys.getD m.nextQueueKey "" = key := by
    rw [getD_eq_getElem?_getD,found]
    rfl
  unfold popQueueEntryLocked
  simp only [current,erased]
  by_cases emptied : (front ++ back).isEmpty
  · obtain ⟨_,after,order,first,left⟩ := rotate_eraseIdx m.queueKeys m.nextQueueKey m.nextQueueKey key bound found
    rw [first rfl] at order left
    refine ⟨_,_,?_,cursorAfterErase_inside (m.queueKeys.eraseIdx m.nextQueueKey) m.nextQueueKey m.nextQueueKey,?_⟩
    · rw [removeQueueKeyAt_eq]
      simp [without,put,emptied]
    · rw [left]
      have same : after = rest := by
        unfold turn at now
        rw [now] at order
        exact (cons.inj order).2.symm
      simp [turnAfterPop,emptied,same]
  · refine ⟨m.queueKeys,if advance then (m.nextQueueKey + 1) % m.queueKeys.length else m.nextQueueKey,?_,?_,?_⟩
    · simp only [without,put,if_neg emptied]
    · left
      split
      · exact Nat.mod_lt _ (by omega)
      · exact bound
    · simp only [turnAfterPop,if_neg emptied]
      split
      · exact rotate_succ m.queueKeys m.nextQueueKey key rest now
      · exact now

theorem queue_once (line : Line (queueState m)) (key : String) : ((m.queue key).map Waiter.id).Nodup := by
  have whole := (waiting_perm m.queues key).map Waiter.id
  have once := whole.nodup_iff.mp line.once
  rw [map_append] at once
  exact (nodup_append.mp once).1

theorem find_waiter {items : List Waiter} (once : (items.map Waiter.id).Nodup) (mem : waiter ∈ items) :
    ∃ front back, items = front ++ waiter :: back ∧
      items.findIdx? (fun candidate => candidate.id = waiter.id) = some front.length := by
  obtain ⟨front,back,rfl⟩ := append_of_mem mem
  refine ⟨front,back,rfl,?_⟩
  rw [map_append,nodup_append] at once
  have absent : ∀ candidate ∈ front, candidate.id ≠ waiter.id := by
    intro candidate early
    exact once.2.2 candidate.id (mem_map_of_mem early) waiter.id (.head _)
  rw [findIdx?_append,findIdx?_eq_none_iff.mpr (by simpa using absent)]
  simp [findIdx?_cons]

theorem removeWaiter_eq (line : Line (queueState m)) (mem : waiter ∈ m.queue waiter.queueKey) :
    ∃ front back keys cursor before after, m.queue waiter.queueKey = front ++ waiter :: back ∧
      m.removeWaiterLocked waiter = without m waiter.queueKey (front ++ back) keys cursor ∧
      CursorInside keys cursor ∧ turn m = before ++ waiter.queueKey :: after ∧
      keys.rotate cursor = if (front ++ back).isEmpty then before ++ after else turn m := by
  obtain ⟨front,back,held,index⟩ := find_waiter (queue_once line waiter.queueKey) mem
  have listed : waiter.queueKey ∈ m.queueKeys := by
    apply (listed_iff line waiter.queueKey).mpr
    change m.queue waiter.queueKey ≠ []
    simp [held]
  have erased : (m.queue waiter.queueKey).eraseIdx front.length = front ++ back := by
    rw [held]
    simp [eraseIdx_append_of_length_le]
  obtain ⟨keyIndex,keyFound⟩ : ∃ keyIndex, m.queueKeys.findIdx? (· = waiter.queueKey) = some keyIndex := by
    rw [← Option.isSome_iff_exists]
    simpa using listed
  have keyAt : m.queueKeys[keyIndex]? = some waiter.queueKey := by
    obtain ⟨bound,here,_⟩ := findIdx?_eq_some_iff_getElem.mp keyFound
    rw [List.getElem?_eq_getElem bound]
    simpa using here
  have bound : m.nextQueueKey < m.queueKeys.length := by
    rcases line.cursor with bound | ⟨none,_⟩
    · exact bound
    · simp only [queueState] at none
      simp [none] at listed
  obtain ⟨before,after,order,_,left⟩ := rotate_eraseIdx m.queueKeys keyIndex m.nextQueueKey waiter.queueKey bound keyAt
  unfold removeWaiterLocked
  simp only [index,erased]
  by_cases emptied : (front ++ back).isEmpty
  · refine ⟨front,back,_,_,before,after,held,?_,cursorAfterErase_inside (m.queueKeys.eraseIdx keyIndex) keyIndex
      m.nextQueueKey,order,?_⟩
    · simp only [emptied,keyFound,removeQueueKeyAt_eq]
      simp [without,put,emptied]
    · rw [left,if_pos emptied]
  · refine ⟨front,back,m.queueKeys,m.nextQueueKey,before,after,held,?_,Or.inl bound,order,?_⟩
    · simp only [without,put,if_neg emptied]
      simp [emptied]
    · rw [if_neg emptied]
      rfl

theorem line_removeWaiter (line : Line (queueState m)) (mem : waiter ∈ m.queuedWaiters) (status : WaiterStatus)
    (settled : status ≠ .queued) : Line (queueState ((m.removeWaiterLocked waiter).setStatus waiter.id status)) := by
  obtain ⟨front,back,keys,cursor,before,after,held,removed,inside,order,rotated⟩ :=
    removeWaiter_eq line (queued_listed line mem).2
  have distinct := turn_nodup line
  have listed (key : String) := mem_turn m key
  rw [order] at distinct listed
  have split := nodup_middle.mp distinct
  obtain ⟨fresh,rest⟩ := nodup_cons.mp split
  have kept : keys.Nodup ∧ ∀ key, key ∈ keys ↔ key ∈ m.queueKeys ∧ (key = waiter.queueKey → front ++ back ≠ []) := by
    constructor
    · rw [← nodup_rotate,rotated]
      split
      · exact rest
      · rw [order]
        exact distinct
    · intro _
      rw [← mem_rotate,rotated,← listed]
      split
      · rename_i emptied
        simp only [isEmpty_iff.mp emptied,ne_eq,not_true_eq_false,imp_false,mem_append,mem_cons]
        rw [mem_append] at fresh
        constructor
        · intro present
          exact ⟨by tauto,fun same => fresh (same ▸ present)⟩
        · tauto
      · rename_i occupied
        rw [order]
        have some : front ++ back ≠ [] := by simpa using occupied
        simp only [some,ne_eq,not_false_eq_true,implies_true,and_true]
  rw [removed]
  exact line_remove line held inside status settled kept.1 kept.2

end P2pstream.StreamCapacityQueues
