import P2pstream.StreamCapacityInvariant

/-! The self-check `validateInvariantsLocked` passes on every sound manager whose
external totals account for its outstanding reservations.
-/
namespace P2pstream.StreamCapacityValidation
open Library Library.RoundRobin Table List
open Kernel.AdaptiveMemory Kernel.StreamCapacity Semantics.StreamCapacity
open StreamCapacityResources

theorem require_ok {ok : Prop} [Decidable ok] {violation : Violation} (holds : ok) :
    require ok violation = .ok () := if_pos holds

theorem requireAll_ok {α : Type} {items : List α} {check : α → Except Violation Unit}
    (each : ∀ item ∈ items, check item = .ok ()) : requireAll items check = .ok () := by
  induction items with
  | nil => rfl
  | cons item _ ih =>
    have first := each item (.head _)
    have later := ih fun other mem => each other (mem_cons_of_mem _ mem)
    unfold requireAll at later ⊢
    rw [foldlM_cons,first]
    exact later

theorem then_ok {first : Except Violation Unit} {next : Unit → Except Violation Unit}
    (passed : first = .ok ()) (rest : next () = .ok ()) : (first >>= next) = .ok () := by
  rw [passed]
  exact rest

theorem class_states (leases : List Lease) (c : CapacityClass) :
    (leases.countP fun lease => lease.capacityClass = c ∧ lease.state = .opening) +
      (leases.countP fun lease => lease.capacityClass = c ∧ lease.state = .live) +
      (leases.countP fun lease => lease.capacityClass = c ∧ lease.state = .closing) =
      leases.countP fun lease => lease.capacityClass = c := by
  induction leases with
  | nil => rfl
  | cons lease _ ih =>
    simp only [countP_cons] at ih ⊢
    rw [← ih]
    by_cases same : lease.capacityClass = c <;> cases state : lease.state <;> simp [same] <;> omega

theorem count_classes (leases : List Lease) :
    leases.countP isPublic = (leases.countP fun lease => lease.capacityClass = .publicPooled) +
      (leases.countP fun lease => lease.capacityClass = .publicOneShot) ∧
    leases.length = leases.countP isPublic + leases.countP fun lease => lease.capacityClass = .trustedHealth := by
  induction leases with
  | nil => exact ⟨rfl,rfl⟩
  | cons lease _ ih =>
    obtain ⟨_,c,_,_,_⟩ := lease
    simp only [length_cons,countP_cons,isPublic] at ih ⊢
    cases c <;> simp [CapacityClass.isPublic] <;> omega

theorem opening_class (leases : List Lease) (c : CapacityClass) :
    ((leases.filter isOpening).countP fun lease => lease.capacityClass = c) =
      leases.countP fun lease => lease.capacityClass = c ∧ lease.state = .opening := by
  rw [countP_filter]
  apply countP_congr
  intro _ _
  simp [isOpening]

theorem length_sessionsOf (select : Lease → Bool) (leases : List Lease) :
    (sessionsOf select leases).length = leases.countP select := by
  simp [sessionsOf,countP_eq_length_filter]

theorem statesOfClass_eq {m : Manager} (ledger : Ledger (books m)) (c : CapacityClass) :
    m.statesOfClass c = (values m.activeLeases).countP fun lease => lease.capacityClass = c := by
  have states (state : LeaseState) : m.stateByClass c state =
      (values m.activeLeases).countP fun lease => lease.capacityClass = c ∧ lease.state = state :=
    ledger.accounts.states c state
  unfold Manager.statesOfClass
  rw [states,states,states,← class_states]
  rfl

section Stages

variable {m : Manager}

theorem split_total (ledger : Ledger (books m)) : m.usedTotal = m.usedPublic + m.usedControl := by
  have total : m.usedTotal = _ := ledger.accounts.total
  have publics : m.usedPublic = _ := ledger.accounts.publics
  have control : m.usedControl = _ := ledger.accounts.control
  rw [total,publics,control,(count_classes _).2]
  rfl

theorem validateUsage_ok (sound : Sound m) : m.validateUsage = .ok () := by
  have total : m.usedTotal = _ := sound.ledger.accounts.total
  have publics : m.usedPublic = _ := sound.ledger.accounts.publics
  have pooled : m.usedPooled = _ := sound.ledger.accounts.pooled
  have control : m.usedControl = _ := sound.ledger.accounts.control
  unfold Manager.validateUsage
  rw [sound.config]
  refine then_ok (require_ok ⟨?_,sound.limits.total⟩) (then_ok (require_ok ⟨?_,sound.limits.publics⟩)
    (then_ok (require_ok ⟨?_,sound.limits.pooled⟩) (then_ok (require_ok ⟨?_,sound.limits.control⟩)
      (require_ok (split_total sound.ledger)))))
  all_goals omega

theorem validateStates_ok (ledger : Ledger (books m)) : m.validateStates = .ok () := by
  have total : m.usedTotal = _ := ledger.accounts.total
  have publics : m.usedPublic = _ := ledger.accounts.publics
  have pooled : m.usedPooled = _ := ledger.accounts.pooled
  have control : m.usedControl = _ := ledger.accounts.control
  have oneShot := statesOfClass_eq ledger .publicOneShot
  have pooledStates := (statesOfClass_eq ledger .publicPooled).trans pooled.symm
  have controlStates := (statesOfClass_eq ledger .trustedHealth).trans control.symm
  have publicStates : m.statesOfClass .publicPooled + m.statesOfClass .publicOneShot = m.usedPublic := by
    rw [publics,(count_classes _).1,pooledStates,oneShot]
    rw [pooled]
    rfl
  have all : m.totalStates = m.usedTotal := by
    unfold Manager.totalStates
    rw [publicStates,controlStates,split_total ledger]
  refine then_ok (requireAll_ok fun c _ => requireAll_ok fun state _ => require_ok ?_)
    (then_ok (require_ok ⟨all,?_⟩) (then_ok (require_ok pooledStates) (then_ok (require_ok publicStates)
      (require_ok controlStates))))
  · have states : m.stateByClass c state = _ := ledger.accounts.states c state
    omega
  · rw [all,total]
    exact congrArg Nat.cast (length_values m.activeLeases)

theorem session_entry {table : Table String Int} {select : Lease → Bool} {leases : List Lease}
    (tallied : Table.Tallies table (sessionsOf select leases)) (named : ∀ lease ∈ leases, lease.sessionKey ≠ "")
    {entry : Sigma fun _ : String => Int} (mem : entry ∈ table.entries) :
    entry.1 ≠ "" ∧ 1 ≤ entry.2 ∧ entry.2 = getD table entry.1 0 := by
  obtain ⟨value,present⟩ := tallied.value_eq entry mem
  obtain ⟨lease,selected,same⟩ := mem_map.mp present
  refine ⟨same ▸ named lease (mem_filter.mp selected).1,?_,?_⟩
  · have positive := count_pos_iff.mpr present
    omega
  · rw [tallied.getD_eq,value]

theorem opening_totals (ledger : Ledger (books m)) :
    m.publicOpeningStates = (values m.activeLeases).countP (fun lease => isOpening lease && isPublic lease) ∧
      m.totalOpenings = (values m.activeLeases).countP isOpening := by
  have states (c : CapacityClass) : m.stateByClass c .opening =
      (values m.activeLeases).countP fun lease => lease.capacityClass = c ∧ lease.state = .opening :=
    ledger.accounts.states c .opening
  obtain ⟨publics,all⟩ := count_classes ((values m.activeLeases).filter isOpening)
  have openPublic : ((values m.activeLeases).filter isOpening).countP isPublic =
      (values m.activeLeases).countP fun lease => isOpening lease && isPublic lease := by
    rw [countP_filter]
    simp only [Bool.and_comm]
  rw [opening_class,opening_class,openPublic] at publics
  rw [opening_class,openPublic,← countP_eq_length_filter] at all
  have publicStates : m.publicOpeningStates =
      (values m.activeLeases).countP fun lease => isOpening lease && isPublic lease := by
    unfold Manager.publicOpeningStates
    rw [states,states,publics]
    rfl
  refine ⟨publicStates,?_⟩
  unfold Manager.totalOpenings
  rw [publicStates,states,all]
  rfl

theorem validateSessions_ok (sound : Sound m) : m.validateSessions = .ok () := by
  have accounts := sound.ledger.accounts
  have openings : Table.Tallies m.openingBySession _ := accounts.openings
  have publicOpenings : Table.Tallies m.publicOpeningBySession _ := accounts.publicOpenings
  have publicSessions : Table.Tallies m.publicBySession _ := accounts.publicSessions
  have sessions : Table.Tallies m.totalBySession _ := accounts.sessions
  have named := accounts.named
  obtain ⟨publicStates,openingStates⟩ := opening_totals sound.ledger
  have total : m.usedTotal = _ := accounts.total
  have publics : m.usedPublic = _ := accounts.publics
  refine then_ok (requireAll_ok ?_) (then_ok (require_ok ?_) (then_ok (requireAll_ok ?_) (then_ok (require_ok ?_)
    (then_ok (requireAll_ok ?_) (then_ok (require_ok ?_) (then_ok (requireAll_ok ?_) (then_ok (require_ok ?_)
      (requireAll_ok ?_))))))))
  · intro entry mem
    obtain ⟨nonempty,positive,value⟩ := session_entry openings named mem
    exact require_ok ⟨nonempty,positive,value ▸ sound.limits.openings entry.1⟩
  · rw [openings.sum_values,length_sessionsOf,openingStates]
    rfl
  · intro entry mem
    obtain ⟨nonempty,positive,value⟩ := session_entry publicOpenings named mem
    refine require_ok ⟨nonempty,positive,value ▸ sound.limits.publicOpenings entry.1,?_⟩
    rw [value,publicOpenings.getD_eq,openings.getD_eq]
    exact Int.ofNat_le.mpr (((monotone_filter_right _ (by simp +contextual)).map Lease.sessionKey).count_le entry.1)
  · rw [publicOpenings.sum_values,length_sessionsOf,publicStates]
    rfl
  · intro entry mem
    obtain ⟨nonempty,positive,value⟩ := session_entry publicSessions named mem
    exact require_ok ⟨nonempty,positive,value ▸ sound.limits.publicSessions entry.1⟩
  · rw [publicSessions.sum_values,length_sessionsOf,publics]
  · intro entry mem
    obtain ⟨nonempty,positive,value⟩ := session_entry sessions named mem
    have bound : entry.2 ≤ m.config.totalStreams := by
      refine Int.le_trans ?_ sound.limits.total
      rw [value,sessions.getD_eq,total]
      refine Int.ofNat_le.mpr ((count_le_length ..).trans (Nat.le_of_eq ?_))
      simp [length_sessionsOf]
    refine then_ok (require_ok ⟨nonempty,positive,bound⟩) (require_ok fun registered => ?_)
    rw [value]
    exact sound.limits.sessions entry.1 (AList.lookup_isSome.mp registered)
  · rw [sessions.sum_values,length_sessionsOf,total]
    simp
  · intro entry mem
    obtain ⟨nonempty,low,high,registered⟩ := sound.limits.negotiated entry.1 entry.2 (lookup_of_mem_entries _ entry mem)
    exact then_ok (require_ok ⟨nonempty,low,high⟩) (require_ok (AList.lookup_isSome.mpr registered))

theorem validateLeases_ok (ledger : Ledger (books m)) : m.validateLeases = .ok () := by
  have balance : m.grantedCount = m.releasedCount + (values m.activeLeases).length := ledger.accounts.balance
  refine then_ok (requireAll_ok ?_) (then_ok (require_ok ?_) (require_ok ?_))
  · intro entry mem
    exact require_ok (ledger.numbered entry.1 entry.2 (lookup_of_mem_entries _ entry mem)).1
  · intro c _ state _
    exact (ledger.accounts.states c state).symm
  · rw [length_values] at balance
    omega

theorem foldl_saturatingAdd (amounts : List Int) (start : Int) (nonneg : ∀ amount ∈ amounts, 0 ≤ amount)
    (fits : start + amounts.sum ≤ maxInt64) : amounts.foldl saturatingAddInt64 start = start + amounts.sum := by
  induction amounts generalizing start with
  | nil => simp
  | cons amount rest ih =>
    have here := nonneg amount (.head _)
    have later : ∀ other ∈ rest, 0 ≤ other := fun other mem => nonneg other (mem_cons_of_mem _ mem)
    have restNonneg := sum_nonneg later
    rw [sum_cons] at fits ⊢
    rw [foldl_cons,saturatingAdd_exact here (by omega),ih _ later (by omega)]
    omega

theorem sum_owners (amount : Reservation → Int) (rs : List Reservation) :
    (Owner.all.map fun owner => ((rs.filter fun r => r.owner = owner).map amount).sum).sum = (rs.map amount).sum := by
  induction rs with
  | nil => rfl
  | cons r _ ih =>
    obtain ⟨owner,_,_,_⟩ := r
    rw [map_cons,sum_cons,← ih]
    cases owner <;> simp [Owner.all] <;> omega

theorem owner_totals {amounts : Owner → Int} {total : Int} (amount : Reservation → Int) (rs : List Reservation)
    (owned : ∀ owner, amounts owner = ((rs.filter fun r => r.owner = owner).map amount).sum)
    (counted : total = (rs.map amount).sum) (nonneg : ∀ r ∈ rs, 0 ≤ amount r) (fits : total ≤ maxInt64) :
    (∀ owner, 0 ≤ amounts owner) ∧ Owner.all.foldl (fun sum owner => saturatingAddInt64 sum (amounts owner)) 0 = total := by
  have each : ∀ owner, 0 ≤ amounts owner := by
    intro owner
    rw [owned]
    apply sum_nonneg
    intro value mem
    obtain ⟨r,selected,rfl⟩ := mem_map.mp mem
    exact nonneg r (mem_filter.mp selected).1
  have sum : (Owner.all.map amounts).sum = total := by
    rw [counted,← sum_owners]
    exact congrArg sum (map_congr_left fun owner _ => owned owner)
  refine ⟨each,?_⟩
  rw [← foldl_map,foldl_saturatingAdd]
  · omega
  · intro _ mem
    obtain ⟨owner,_,rfl⟩ := mem_map.mp mem
    exact each owner
  · omega

theorem validateOwners_ok {rs : List Reservation} (externals : Externals m rs) : m.validateOwners = .ok () := by
  obtain ⟨ownerBytes,bytes⟩ := owner_totals Reservation.memoryBytes rs externals.ownerBytes externals.bytes
    (fun r mem => (externals.nonneg r mem).1) externals.fits.1
  obtain ⟨ownerFDs,fds⟩ := owner_totals Reservation.fileDescriptors rs externals.ownerFDs externals.fds
    (fun r mem => (externals.nonneg r mem).2) externals.fits.2
  exact then_ok (requireAll_ok fun owner _ => require_ok ⟨ownerBytes owner,ownerFDs owner,externals.counts owner⟩)
    (require_ok ⟨bytes,fds⟩)

theorem validateQueueKeys_ok (sound : Sound m) {seen keys : List String} (listed : ∀ key ∈ keys, key ∈ m.queueKeys)
    (distinct : keys.Nodup) (fresh : ∀ key ∈ keys, key ∉ seen) : m.validateQueueKeys seen keys = .ok () := by
  induction keys generalizing seen with
  | nil => rfl
  | cons key _ ih =>
    obtain ⟨first,remaining⟩ := nodup_cons.mp distinct
    have present := listed key (.head _)
    have occupied : m.queue key ≠ [] := sound.line.occupied key ((sound.line.listed key).mp present)
    have held (waiter : Waiter) (mem : waiter ∈ m.queue key) : waiter ∈ m.queuedWaiters :=
      (mem_waiting m.queues waiter).mpr ⟨key,mem⟩
    have named : key ≠ "" := by
      obtain ⟨waiter,mem⟩ := exists_mem_of_ne_nil _ occupied
      have own : waiter.queueKey = key := sound.line.owned key waiter mem
      exact own ▸ (sound.line.named waiter (held waiter mem)).1
    refine then_ok (require_ok named) (then_ok (require_ok (fresh key (.head _)))
      (then_ok (require_ok ⟨occupied,sound.lineLimits.perKey key⟩) (then_ok (requireAll_ok ?_) ?_)))
    · intro waiter mem
      refine require_ok ⟨sound.line.owned key waiter mem,(sound.line.status waiter.id).mpr ?_⟩
      exact mem_map_of_mem (held waiter mem)
    · apply ih (fun other mem => listed other (mem_cons_of_mem _ mem)) remaining
      intro other mem
      have unseen := fresh other (mem_cons_of_mem _ mem)
      rintro (_ | _)
      · exact first mem
      · exact unseen ‹_›

theorem validateQueues_ok (sound : Sound m) : m.validateQueues = .ok () := by
  have sameKeys : m.queueKeys.Perm m.queues.keys := by
    apply (perm_ext_iff_of_nodup sound.line.distinct m.queues.keys_nodup).mpr
    intro key
    exact sound.line.listed key
  have queued : m.waitersInTurn.Perm m.queuedWaiters := flatMap_perm_waiting m.queues sameKeys
  have counted : m.waiters = m.queuedWaiters.length := sound.line.counted
  have publics := sound.lineLimits.publics
  have control := sound.lineLimits.control
  have split := StreamCapacityInvariant.health_split m.queuedWaiters
  refine then_ok (validateQueueKeys_ok sound (fun _ mem => mem) sound.line.distinct (by simp))
    (then_ok (require_ok ?_) (then_ok (require_ok ?_) (then_ok (require_ok ?_) (require_ok ?_))))
  · rw [sameKeys.length_eq]
    exact length_map ..
  · rw [queued.length_eq,queued.countP_eq]
    exact ⟨counted.symm,by omega,control⟩
  · rcases sound.line.cursor with inside | ⟨_,front⟩
    · intro none
      have inside : m.nextQueueKey < m.queueKeys.length := inside
      omega
    · exact fun _ => front
  · rcases sound.line.cursor with inside | ⟨none,_⟩
    · exact fun _ => inside
    · intro some
      have none : m.queueKeys = [] := none
      simp [none] at some

theorem validateInvariants_ok (sound : Sound m) {rs : List Reservation} (externals : Externals m rs) :
    m.validateInvariantsLocked = .ok () := by
  exact then_ok (validateUsage_ok sound) (then_ok (validateOwners_ok externals) (then_ok (validateStates_ok sound.ledger)
    (then_ok (validateSessions_ok sound) (then_ok (validateLeases_ok sound.ledger) (validateQueues_ok sound)))))

end Stages

end P2pstream.StreamCapacityValidation
