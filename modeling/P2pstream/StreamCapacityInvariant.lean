import P2pstream.StreamCapacityDispatch
import P2pstream.StreamCapacityResources
import P2pstream.Kernel.StreamCapacityValidation

/-! The ledger invariant of the stream-capacity manager over every interleaving:
counters, queues, limits and external totals stay consistent, and the manager's
own self-check never fails.
-/
namespace P2pstream.StreamCapacityInvariant
open Library Library.RoundRobin Table AList Kernel.StreamCapacity.Manager
open Kernel.AdaptiveMemory Kernel.StreamCapacity Semantics.StreamCapacity
open StreamCapacityLedger StreamCapacityQueues StreamCapacityDispatch
open StreamCapacitySteps AdaptiveAdmission

/-- Admission under adaptive control rests on a covered snapshot and external
totals that are not negative. -/
structure Backed (r : Resources) : Prop where
  covered : r.adaptiveMemory.isSome = true → r.resourceSnapshot.rejectNew = false → Covered r.resourceSnapshot
  bytes : 0 ≤ r.adaptiveExternalBytes
  fds : 0 ≤ r.adaptiveExternalFDs

/-- A grant was decided by `canGrantLocked` and a reservation by the checks of
`tryReserveAdaptiveResourceMode`, both on backed resources. -/
def Decided : Event → Prop
  | .grant decided lease _ left =>
    decided.canGrantLocked lease.capacityClass lease.sessionKey = true ∧ 0 ≤ decided.usedTotal ∧
      left.usedTotal = decided.usedTotal + 1 ∧ resources left = resources decided ∧ Backed (resources decided)
  | .reserve decided left =>
    ∃ r, Reserves decided r ∧ left = reservedManager decided r ∧ 0 ≤ decided.usedTotal ∧ Backed (resources decided)
  | _ => True

def GrantsWithinLimits : Event → Prop
  | .grant _ _ _ left => WithinLimits left
  | _ => True

variable {m : Manager} {waiter : Waiter} {expired : Waiter → Bool} {s : System}

theorem lineLimits_without (limits : LineLimits m) {key : String} {front back : List Waiter}
    (held : m.queue key = front ++ waiter :: back) (keys : List String) (cursor : Nat) :
    LineLimits (without m key (front ++ back) keys cursor) := by
  have perm : (waiting m.queues).Perm (waiter :: waiting (put m.queues key (front ++ back))) := by
    have whole := waiting_perm m.queues key
    rw [show queueOf m.queues key = front ++ waiter :: back from held] at whole
    rw [waiting_put]
    exact whole.trans (by simp)
  have fewer (select : Waiter → Bool) :
      (waiting (put m.queues key (front ++ back))).countP select ≤ (waiting m.queues).countP select := by
    rw [perm.countP_eq,List.countP_cons]
    omega
  have publics := fewer fun waiter => waiter.capacityClass ≠ .trustedHealth
  have control := fewer fun waiter => waiter.capacityClass = .trustedHealth
  constructor
  · intro other
    change ((queueOf (put m.queues key (front ++ back)) other).length : Int) ≤ m.config.maxWaitersPerKey
    rw [queueOf_put]
    split
    · have old := limits.perKey key
      rw [held] at old
      simp only [List.length_append,List.length_cons] at old ⊢
      omega
    · exact limits.perKey other
  · have old := limits.publics
    exact (Int.ofNat_le.mpr publics).trans old
  · have old := limits.control
    exact (Int.ofNat_le.mpr control).trans old

theorem service_environment (line : Line (queueState m)) (s : Service expired m) : environment s.outcome.1 = environment m := by
  obtain ⟨_,_,_,⟨_,_,_,done⟩ | ⟨_,_,_,_,leaves,done⟩⟩ := service_cases line s
  · rw [done]
    simp
  · rw [done,leaves]
    simp [granting]

theorem usedTotal_nonneg (ledger : Ledger (books m)) : 0 ≤ m.usedTotal := by
  have counted : m.usedTotal = _ := ledger.accounts.total
  omega

theorem regular_service (regular : Regular m) (s : Service expired m) :
    Regular s.outcome.1 ∧ (Backed (resources m) → Decided s.outcome.2) := by
  have line := line_service regular.line s
  have config : s.outcome.1.config = m.config := congrArg Environment.config (service_environment regular.line s)
  have named := (regular.line.named s.waiter (service_member s)).2
  obtain ⟨keys,cursor,_,⟨_,_,_,done⟩ | ⟨_,able,_,left,leaves,done⟩⟩ := service_cases regular.line s
  · rw [done] at line config ⊢
    exact ⟨⟨config ▸ regular.config,by simpa using regular.ledger,line⟩,fun _ => trivial⟩
  · rw [done] at line config ⊢
    -- The waiter is popped before the grant; books and environment are those it was decided on.
    have ledger := ledger_grant (m := without m s.key (s.front ++ s.back) keys cursor) (by simpa using regular.ledger)
      s.waiter.capacityClass s.waiter.queueKey s.waiter.sessionKey named
    have same : environment left = environment m := by
      rw [leaves]
      simp [granting]
    have counted : left.usedTotal = m.usedTotal + 1 := by
      rw [leaves]
      rfl
    refine ⟨⟨config ▸ regular.config,?_,line⟩,fun backed => ⟨able,usedTotal_nonneg regular.ledger,counted,
      congrArg Environment.resources same,backed⟩⟩
    rw [leaves]
    simpa [granting] using ledger

theorem limits_service (sound : Sound m) (s : Service expired m) :
    WithinLimits s.outcome.1 ∧ LineLimits s.outcome.1 ∧ GrantsWithinLimits s.outcome.2 := by
  obtain ⟨keys,cursor,_,⟨_,_,_,done⟩ | ⟨_,able,_,left,leaves,done⟩⟩ := service_cases sound.line s
  all_goals
    have queueLimits := lineLimits_without sound.lineLimits s.held keys cursor
    rw [done]
  · exact ⟨limits_congr sound.limits (by simp) (by simp),lineLimits_congr queueLimits rfl rfl,trivial⟩
  · have popped : books (without m s.key (s.front ++ s.back) keys cursor) = books m ∧
        environment (without m s.key (s.front ++ s.back) keys cursor) = environment m := by simp
    have room := room_congr (canGrant_room able) popped.1 popped.2
    have limits := limits_congr sound.limits popped.1 popped.2
    have within : WithinLimits left := by
      rw [leaves]
      exact limits_congr (limits_grant limits room s.waiter.queueKey) (by simp [granting]) (by simp [granting])
    refine ⟨within,?_,within⟩
    rw [leaves]
    exact lineLimits_congr queueLimits rfl rfl

theorem regular_dispatch (err : Nat → Waiter → Bool) (regular : Regular m) (backed : Backed (resources m)) :
    Regular (dispatchLocked err m).1 ∧ environment (dispatchLocked err m).1 = environment m ∧
      (∀ event ∈ (dispatchLocked err m).2, Decided event) ∧
      (m.adaptiveSampling ≤ 0 → Settled (dispatchLocked err m).1) := by
  have serve (expired : Waiter → Bool) (n : Manager) (s : Service expired n) (holds : Regular n ∧ environment n = environment m) :
      (Regular s.outcome.1 ∧ environment s.outcome.1 = environment m) ∧ Decided s.outcome.2 := by
    have same : resources n = resources m := congrArg Environment.resources holds.2
    obtain ⟨kept,seen⟩ := regular_service holds.1 s
    exact ⟨⟨kept,(service_environment holds.1.line s).trans holds.2⟩,seen (same ▸ backed)⟩
  obtain ⟨holds,seen,settled⟩ := dispatch_rule_each (fun n holds => holds.1.line)
    (fun _ cursor holds inside => ⟨{ holds.1 with line := { holds.1.line with cursor := inside } },holds.2⟩)
    serve ⟨regular,rfl⟩
  exact ⟨holds.1,holds.2,seen,settled⟩

theorem sound_dispatch (err : Nat → Waiter → Bool) (sound : Sound m) : Sound (dispatchLocked err m).1 ∧
      ∀ event ∈ (dispatchLocked err m).2, GrantsWithinLimits event := by
  have move (n : Manager) (cursor : Nat) (holds : Sound n) (inside : CursorInside n.queueKeys cursor) :
      Sound (atCursor n cursor) :=
    ⟨{ holds with line := { holds.line with cursor := inside } },limits_congr holds.limits rfl rfl,
      lineLimits_congr holds.lineLimits rfl rfl⟩
  have serve (expired : Waiter → Bool) (n : Manager) (s : Service expired n) (holds : Sound n) :
      Sound s.outcome.1 ∧ GrantsWithinLimits s.outcome.2 := by
    obtain ⟨limits,lineLimits,seen⟩ := limits_service holds s
    exact ⟨⟨(regular_service holds.toRegular s).1,limits,lineLimits⟩,seen⟩
  obtain ⟨kept,seen,_⟩ := dispatch_rule_each (fun _ holds => holds.line) move serve sound
  exact ⟨kept,seen⟩

/-- What the callers promise. A session that holds leases is registered already
and keeps at least its limit; descriptor reservations fit in an `int64` where
descriptors are not measured. -/
def CallersPromise (s : System) : Input → Prop
  | .registerSession sessionKey limit =>
    0 < getD s.manager.totalBySession sessionKey 0 → ∃ old, s.manager.sessionLimits.lookup sessionKey = some old ∧
        old ≤ min (max 1 limit) s.manager.config.totalStreams
  | .reserve r =>
    0 < s.manager.resourceSnapshot.fdLimit ∨ s.manager.adaptiveExternalFDs + r.fileDescriptors ≤ maxInt64
  | _ => True

theorem line_setStatus (line : Line (queueState m)) {waiter : Nat} {lease : Option Nat}
    (held : m.waiterStatus.lookup waiter = some (.granted lease)) :
    Line (queueState (m.setStatus waiter (.granted none))) := by
  refine { line with status := ?_, allocated := ?_ }
  · intro id
    by_cases same : id = waiter
    · subst same
      have idle := (line.status id).not.mp (by simp [queueState,held])
      simp only [queueState,setStatus,lookup_insert,Option.some.injEq,reduceCtorEq,false_iff]
      exact idle
    · simp only [queueState,setStatus,lookup_insert_ne same]
      exact line.status id
  · intro id mem
    rcases (mem_insert _).mp mem with rfl | old
    · exact line.allocated id (lookup_isSome.mp (by simp [queueState,held]))
    · exact line.allocated id old

theorem regular_immediate (regular : Regular s.manager) (backed : Backed (resources s.manager)) {events : List Event}
    (change : Immediate s m events) :
    Regular m ∧ environment m = environment s.manager ∧ ∀ event ∈ events, Decided event := by
  cases change with
  | unchanged => exact ⟨regular,rfl,by simp⟩
  | rejected => exact ⟨{ regular with ledger := by simpa using regular.ledger },by simp,by simp⟩
  | granted c queueKey sessionKey named _ _ able =>
    refine ⟨{ regular with ledger := ledger_grant regular.ledger c queueKey sessionKey named.2 },by simp,?_⟩
    intro _ mem
    rw [List.mem_singleton.mp mem]
    exact ⟨able,usedTotal_nonneg regular.ledger,rfl,congrArg Environment.resources (environment_grant ..),backed⟩
  | collected _ _ held =>
    exact ⟨⟨regular.config,by simpa using regular.ledger,line_setStatus regular.line held⟩,by simp,by simp⟩

theorem limits_immediate (sound : Sound s.manager) {events : List Event} (change : Immediate s m events) :
    WithinLimits m ∧ LineLimits m ∧ ∀ event ∈ events, GrantsWithinLimits event := by
  cases change with
  | unchanged => exact ⟨sound.limits,sound.lineLimits,by simp⟩
  | rejected | collected =>
    exact ⟨limits_congr sound.limits (by simp) (by simp),lineLimits_congr sound.lineLimits rfl rfl,by simp⟩
  | granted _ queueKey _ _ _ _ able =>
    have within := limits_grant sound.limits (canGrant_room able) queueKey
    refine ⟨within,lineLimits_congr sound.lineLimits rfl rfl,?_⟩
    intro _ mem
    rw [List.mem_singleton.mp mem]
    exact within

theorem health_split (items : List Waiter) : items.countP (fun waiter => waiter.capacityClass ≠ .trustedHealth) +
      items.countP (fun waiter => waiter.capacityClass = .trustedHealth) = items.length := by
  have split := List.length_eq_countP_add_countP (l := items) fun waiter => decide (waiter.capacityClass = .trustedHealth)
  simp only [decide_eq_true_eq] at split
  rw [split,Nat.add_comm]

theorem newWaiter_perm (m : Manager) (ctx : Nat) (c : CapacityClass) (queueKey sessionKey : String) :
    (m.newWaiter ctx c queueKey sessionKey).1.queuedWaiters.Perm
      ((m.newWaiter ctx c queueKey sessionKey).2 :: m.queuedWaiters) := by
  have queues := (QueueState.mk.inj (queueState_newWaiter m ctx c queueKey sessionKey)).1
  change (waiting (m.newWaiter ctx c queueKey sessionKey).1.queues).Perm (_ :: waiting m.queues)
  rw [queues,waiting_put]
  refine List.Perm.trans ?_ ((waiting_perm m.queues queueKey).symm.cons _)
  simp

theorem lineLimits_join (sound : Sound m) {ctx : Nat} {c : CapacityClass} {queueKey sessionKey : String}
    (room : m.queueLimitReached c = false) (keyRoom : ((m.queue queueKey).length : Int) < m.config.maxWaitersPerKey) :
    LineLimits (m.newWaiter ctx c queueKey sessionKey).1 := by
  have queues := (QueueState.mk.inj (queueState_newWaiter m ctx c queueKey sessionKey)).1
  have queued := newWaiter_perm m ctx c queueKey sessionKey
  have counted : m.waiters = m.queuedWaiters.length := sound.line.counted
  have split := health_split m.queuedWaiters
  have publics := sound.lineLimits.publics
  have control := sound.lineLimits.control
  unfold queueLimitReached waiterCountForClassLocked at room
  refine ⟨?_,?_,?_⟩
  · intro key
    change ((queueOf (m.newWaiter ctx c queueKey sessionKey).1.queues key).length : Int) ≤ m.config.maxWaitersPerKey
    rw [queues,queueOf_put]
    split
    · have free : ((queueOf m.queues queueKey).length : Int) < m.config.maxWaitersPerKey := keyRoom
      simp only [List.length_append,List.length_singleton]
      omega
    · exact sound.lineLimits.perKey key
  all_goals
    rw [queued.countP_eq,List.countP_cons]
    simp only [newWaiter]
    generalize m.queuedWaiters.countP (fun waiter => waiter.capacityClass ≠ .trustedHealth) = publicCount
      at split publics ⊢
    by_cases health : c = .trustedHealth
  · simp only [health,ne_eq,not_true_eq_false,decide_false,Bool.false_eq_true,if_false]
    exact publics
  · rw [if_neg health,decide_eq_false_iff_not] at room
    simp only [ne_eq,health,not_false_eq_true,decide_true,if_true]
    change ((publicCount + 1 : Nat) : Int) ≤ m.config.maxWaiters
    omega
  · subst health
    simp only [if_true,decide_eq_false_iff_not] at room
    change ((_ + 1 : Nat) : Int) ≤ max 1 m.config.controlStreams
    omega
  · simp only [health,decide_false,Bool.false_eq_true,if_false]
    exact control

theorem books_newWaiter (m : Manager) (ctx : Nat) (c : CapacityClass) (queueKey sessionKey : String) :
    books (m.newWaiter ctx c queueKey sessionKey).1 = books m := by
  rfl

theorem environment_newWaiter (m : Manager) (ctx : Nat) (c : CapacityClass) (queueKey sessionKey : String) :
    environment (m.newWaiter ctx c queueKey sessionKey).1 = environment m := by
  rfl

theorem removed_frame (line : Line (queueState m)) (mem : waiter ∈ m.queuedWaiters) (constraint : Constraint) :
    books ((m.removeWaiterLocked waiter).setStatus waiter.id (.canceled constraint)) = books m ∧
      environment ((m.removeWaiterLocked waiter).setStatus waiter.id (.canceled constraint)) = environment m := by
  obtain ⟨_,_,_,_,_,_,_,removed,_,_,_⟩ := removeWaiter_eq line (queued_listed line mem).2
  rw [removed]
  simp

theorem sessionLimit_congr {other : Manager} {session : String}
    (negotiated : other.sessionLimits.lookup session = m.sessionLimits.lookup session)
    (config : other.config = m.config) : other.sessionLimitLocked session = m.sessionLimitLocked session := by
  have limit : getD other.sessionLimits session 0 = getD m.sessionLimits session 0 := by
    unfold getD
    rw [negotiated]
  unfold sessionLimitLocked
  rw [limit,config]

theorem limits_register (sound : Sound m) {sessionKey : String} (named : sessionKey ≠ "") (limit : Int)
    (promised : 0 < getD m.totalBySession sessionKey 0 → ∃ old, m.sessionLimits.lookup sessionKey = some old ∧
      old ≤ min (max 1 limit) m.config.totalStreams) :
    WithinLimits (registeredManager m sessionKey limit) := by
  unfold registeredManager
  obtain ⟨_,_⟩ := config_bounds sound.config
  refine { sound.limits with sessions := ?_, negotiated := ?_ }
  · intro session mem
    by_cases same : session = sessionKey
    · subst same
      have idle : getD m.totalBySession session 0 ≤ min (max 1 limit) m.config.totalStreams := by
        by_cases busy : 0 < getD m.totalBySession session 0
        · obtain ⟨old,negotiated,_⟩ := promised busy
          obtain ⟨_,_,_,registered⟩ := sound.limits.negotiated session old negotiated
          have held := sound.limits.sessions session registered
          simp only [sessionLimitLocked,getD,negotiated,Option.getD_some] at held
          simp only [getD]
          split at held <;> omega
        · omega
      simp only [sessionLimitLocked,getD,lookup_insert,Option.getD_some] at idle ⊢
      split <;> omega
    · have registered := (mem_insert _).mp mem |>.resolve_left same
      exact (sound.limits.sessions session registered).trans
        (Int.le_of_eq (sessionLimit_congr (lookup_insert_ne same).symm rfl))
  · intro session negotiated found
    rcases of_lookup_insert found with ⟨rfl,rfl⟩ | ⟨_,found⟩
    · exact ⟨named,by omega,by simp,(mem_insert _).mpr (Or.inl rfl)⟩
    · obtain ⟨nonempty,low,high,registered⟩ := sound.limits.negotiated session negotiated found
      exact ⟨nonempty,low,high,(mem_insert _).mpr (Or.inr registered)⟩

theorem limits_unregister (sound : Sound m) (sessionKey : String) : WithinLimits { m with
      registeredSessions := m.registeredSessions.erase sessionKey
      sessionLimits := m.sessionLimits.erase sessionKey } := by
  refine { sound.limits with sessions := ?_, negotiated := ?_ }
  · intro session mem
    obtain ⟨other,registered⟩ := mem_erase.mp mem
    exact (sound.limits.sessions session registered).trans
      (Int.le_of_eq (sessionLimit_congr (lookup_erase_ne other).symm rfl))
  · intro session negotiated found
    obtain ⟨other,found⟩ := of_lookup_erase found
    obtain ⟨nonempty,low,high,registered⟩ := sound.limits.negotiated session negotiated found
    exact ⟨nonempty,low,high,mem_erase.mpr ⟨other,registered⟩⟩

theorem regular_prepared (regular : Regular s.manager) {input : Input} (prepared : Prepared s input m) :
    Regular m ∧ resources m = resources s.manager := by
  cases prepared with
  | joined ctx c queueKey sessionKey joins =>
    have sameBooks := books_newWaiter s.manager ctx c queueKey sessionKey
    have same := environment_newWaiter s.manager ctx c queueKey sessionKey
    refine ⟨⟨regular.config,sameBooks ▸ regular.ledger,?_⟩,congrArg Environment.resources same⟩
    rw [queueState_newWaiter]
    exact line_join regular.line (s.manager.newWaiter ctx c queueKey sessionKey).2 rfl joins.named
  | removed _ constraint _ _ mem =>
    have recorded : Line (queueState (s.manager.recordRejectionLocked constraint)) := regular.line
    obtain ⟨sameBooks,same⟩ := removed_frame recorded mem constraint
    have line := line_removeWaiter recorded mem (.canceled constraint) (by simp)
    refine ⟨⟨?_,sameBooks ▸ regular.ledger,line⟩,congrArg Environment.resources same⟩
    exact (congrArg validateAgentStreamCapacityConfig (congrArg Environment.config same)).trans regular.config
  | moved _ _ _ _ found later =>
    have ledger := ledger_move regular.ledger found later
    rw [move_eq] at ledger ⊢
    exact ⟨{ regular with ledger := ledger },rfl⟩
  | dropped _ _ found =>
    have ledger := ledger_drop regular.ledger found
    rw [drop_eq] at ledger ⊢
    exact ⟨{ regular with ledger := ledger },rfl⟩
  | registered | unregistered =>
    exact ⟨{ regular with },rfl⟩

theorem limits_prepared (sound : Sound s.manager) {input : Input} (promised : CallersPromise s input)
    (prepared : Prepared s input m) : WithinLimits m ∧ LineLimits m := by
  cases prepared with
  | joined _ _ _ _ joins =>
    exact ⟨limits_congr sound.limits (books_newWaiter ..) (environment_newWaiter ..),
      lineLimits_join sound joins.room joins.keyRoom⟩
  | removed _ constraint _ _ mem =>
    have recorded : Sound (s.manager.recordRejectionLocked constraint) :=
      ⟨{ sound with ledger := by simpa using sound.ledger },limits_congr sound.limits (by simp) (by simp),
        lineLimits_congr sound.lineLimits rfl rfl⟩
    obtain ⟨sameBooks,same⟩ := removed_frame recorded.line mem constraint
    refine ⟨limits_congr recorded.limits sameBooks same,?_⟩
    obtain ⟨_,_,keys,cursor,_,_,held,removed,_⟩ := removeWaiter_eq recorded.line (queued_listed recorded.line mem).2
    rw [removed]
    exact lineLimits_congr (lineLimits_without recorded.lineLimits held keys cursor) rfl rfl
  | moved _ _ lease state =>
    rw [move_eq]
    have freed := getD_freed sound.ledger lease
    exact ⟨limits_mono sound.limits rfl rfl rfl (le_refl _) (le_refl _) (le_refl _) (le_refl _) (fun s => (freed s).1)
      (fun s => (freed s).2) (fun _ => le_refl _) (fun _ => le_refl _),lineLimits_congr sound.lineLimits rfl rfl⟩
  | dropped _ lease =>
    have limits := limits_drop sound.ledger sound.limits lease
    rw [drop_eq] at limits ⊢
    exact ⟨limits,lineLimits_congr sound.lineLimits rfl rfl⟩
  | registered _ limit named =>
    exact ⟨limits_register sound named limit promised,lineLimits_congr sound.lineLimits rfl rfl⟩
  | unregistered sessionKey =>
    exact ⟨limits_unregister sound sessionKey,lineLimits_congr sound.lineLimits rfl rfl⟩

end P2pstream.StreamCapacityInvariant
