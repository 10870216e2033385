import P2pstream.Semantics.StreamCapacity
import P2pstream.Library.Checks

/-! The lease counters account for the active leases after every grant, state
change and release, and a grant keeps the configured limits.
-/
namespace P2pstream.StreamCapacityLedger
open Library Table List Kernel.StreamCapacity.Manager Int
open Kernel.StreamCapacity Semantics.StreamCapacity

theorem sessionsOf_cons (select : Lease → Bool) (lease : Lease) (leases : List Lease) :
    sessionsOf select (lease :: leases) =
      if select lease then lease.sessionKey :: sessionsOf select leases else sessionsOf select leases := by
  unfold sessionsOf
  rw [filter_cons]
  split <;> rfl

variable {leases : List Lease} {lease : Lease} {m other : Manager} {c : CapacityClass} {sessionKey : String}

theorem accounts_perm {b : Books} {others : List Lease} (accounts : Accounts b leases) (perm : leases.Perm others) :
    Accounts b others := by
  have sessions (select : Lease → Bool) : (sessionsOf select leases).Perm (sessionsOf select others) :=
    (perm.filter select).map _
  constructor
  · rw [accounts.total,perm.length_eq]
  · rw [accounts.publics,perm.countP_eq]
  · rw [accounts.pooled,perm.countP_eq]
  · rw [accounts.control,perm.countP_eq]
  · intro _ _
    rw [accounts.states,perm.countP_eq]
  · exact accounts.openings.perm (sessions _)
  · exact accounts.publicOpenings.perm (sessions _)
  · exact accounts.publicSessions.perm (sessions _)
  · exact accounts.sessions.perm (sessions _)
  · exact fun lease mem => accounts.named lease (perm.mem_iff.mpr mem)
  · rw [accounts.balance,perm.length_eq]

theorem countP_held (lease : Lease) (leases : List Lease) (c : CapacityClass) (state : LeaseState) :
    ((lease :: leases).countP fun lease => lease.capacityClass = c ∧ lease.state = state : Nat) =
      (leases.countP fun lease => lease.capacityClass = c ∧ lease.state = state : Nat) +
        (if c = lease.capacityClass ∧ state = lease.state then 1 else 0 : Int) := by
  by_cases here : c = lease.capacityClass ∧ state = lease.state
  · simp [here]
  · have elsewhere : ¬ (lease.capacityClass = c ∧ lease.state = state) := fun same => here ⟨same.1.symm,same.2.symm⟩
    simp [here,elsewhere]

variable {counts : CapacityClass → LeaseState → Int} {t : Table String Int} {keys : List String} {state : LeaseState}
  {id : Nat}

theorem bump_count
    (counted : ∀ c state, counts c state = leases.countP fun lease => lease.capacityClass = c ∧ lease.state = state)
    (lease : Lease) :
    ∀ c state, bump counts lease.capacityClass lease.state 1 c state =
      (lease :: leases).countP fun lease => lease.capacityClass = c ∧ lease.state = state := by
  intro _ _
  rw [countP_held,← counted]
  unfold bump
  split <;> simp

theorem unbump_count
    (counted : ∀ c state, counts c state = (lease :: leases).countP fun lease => lease.capacityClass = c ∧ lease.state = state) :
    ∀ c state, bump counts lease.capacityClass lease.state (-1) c state =
      leases.countP fun lease => lease.capacityClass = c ∧ lease.state = state := by
  intro _ _
  unfold bump
  rw [counted,countP_held]
  split <;> simp

theorem tallies_add (tallied : Table.Tallies t keys) (select : Bool) (key : String) :
    Table.Tallies (if select then increment t key else t) (if select then key :: keys else keys) := by
  split
  · exact tallied.increment key
  · exact tallied

theorem tallies_drop {select : Bool} {key : String} (tallied : Table.Tallies t (if select then key :: keys else keys)) :
    Table.Tallies (if select then decrement t key else t) keys := by
  split at tallied
  · rename_i selected
    simpa [selected] using tallied.decrement
  · rename_i other
    simpa [other] using tallied

theorem accounts_grant (accounts : Accounts (books m) leases) (c : CapacityClass) (queueKey sessionKey : String)
    (named : sessionKey ≠ "") :
    Accounts (books (m.grantLocked c queueKey sessionKey).1) ((m.grantLocked c queueKey sessionKey).2 :: leases) := by
  have total := accounts.total
  have publics := accounts.publics
  have pooled := accounts.pooled
  have control := accounts.control
  have balance := accounts.balance
  constructor
  · simp only [books,grantLocked,length_cons] at total ⊢
    omega
  · simp only [books,grantLocked,countP_cons,isPublic] at publics ⊢
    cases c <;> simp [CapacityClass.isPublic,publics]
  · simp only [books,grantLocked,countP_cons] at pooled ⊢
    cases c <;> simp [pooled]
  · simp only [books,grantLocked,countP_cons] at control ⊢
    cases c <;> simp [control]
  · exact bump_count accounts.states (m.grantLocked c queueKey sessionKey).2
  · exact accounts.openings.increment sessionKey
  · rw [sessionsOf_cons]
    simpa [isOpening,isPublic,grantLocked,books] using
      tallies_add accounts.publicOpenings c.isPublic sessionKey
  · rw [sessionsOf_cons]
    exact tallies_add accounts.publicSessions c.isPublic sessionKey
  · exact accounts.sessions.increment sessionKey
  · intro lease mem
    rcases mem_cons.mp mem with rfl | old
    · exact named
    · exact accounts.named lease old
  · simp only [books,grantLocked,length_cons] at balance ⊢
    omega

/-- The manager after a lease has left its state: an opening lease frees the
opening of its session. -/
def freed (m : Manager) (lease : Lease) : Manager :=
  if lease.state = .opening then m.releaseSessionOpeningLocked lease.capacityClass lease.sessionKey else m

theorem opening_freed (accounts : Accounts (books m) (lease :: leases)) :
    Table.Tallies (freed m lease).openingBySession (sessionsOf isOpening leases) ∧
      Table.Tallies (freed m lease).publicOpeningBySession
        (sessionsOf (fun l => isOpening l && isPublic l) leases) := by
  have openings := accounts.openings
  have publicOpenings := accounts.publicOpenings
  rw [sessionsOf_cons] at openings publicOpenings
  unfold freed
  by_cases opening : lease.state = .opening
  · simp only [isOpening,isPublic,opening,decide_true,Bool.true_and,if_true] at openings publicOpenings ⊢
    exact ⟨openings.decrement,tallies_drop publicOpenings⟩
  · simp only [isOpening,opening,decide_false,Bool.false_and,Bool.false_eq_true,if_false] at openings publicOpenings ⊢
    exact ⟨openings,publicOpenings⟩

theorem move_eq (m : Manager) (lease : Lease) (state : LeaseState) : m.moveLease lease state = { m with
      openingBySession := (freed m lease).openingBySession
      publicOpeningBySession := (freed m lease).publicOpeningBySession
      stateByClass := bump (bump m.stateByClass lease.capacityClass lease.state (-1)) lease.capacityClass state 1
      activeLeases := m.activeLeases.insert lease.id { lease with state } } := by
  unfold moveLease freed
  split <;> rfl

theorem accounts_move (accounts : Accounts (books m) (lease :: leases)) (later : state ≠ .opening) :
    Accounts (books (m.moveLease lease state)) ({ lease with state } :: leases) := by
  obtain ⟨openings,publicOpenings⟩ := opening_freed accounts
  rw [move_eq]
  constructor
  · exact accounts.total
  · exact accounts.publics
  · exact accounts.pooled
  · exact accounts.control
  · exact bump_count (unbump_count accounts.states) { lease with state }
  · rw [sessionsOf_cons]
    simpa [books,isOpening,later] using openings
  · rw [sessionsOf_cons]
    simpa [books,isOpening,later] using publicOpenings
  · have kept := accounts.publicSessions
    rw [sessionsOf_cons] at kept ⊢
    exact kept
  · have kept := accounts.sessions
    exact kept
  · intro other mem
    rcases mem_cons.mp mem with rfl | old
    · exact accounts.named lease (.head _)
    · exact accounts.named other (mem_cons_of_mem _ old)
  · exact accounts.balance

theorem drop_eq (m : Manager) (lease : Lease) : m.dropLease lease = { m with
      usedTotal := m.usedTotal - 1
      usedPublic := if lease.capacityClass.isPublic then m.usedPublic - 1 else m.usedPublic
      usedPooled := if lease.capacityClass = .publicPooled then m.usedPooled - 1 else m.usedPooled
      usedControl := if lease.capacityClass = .trustedHealth then m.usedControl - 1 else m.usedControl
      openingBySession := (freed m lease).openingBySession
      publicOpeningBySession := (freed m lease).publicOpeningBySession
      publicBySession := if lease.capacityClass.isPublic then decrement m.publicBySession lease.sessionKey
        else m.publicBySession
      totalBySession := decrement m.totalBySession lease.sessionKey
      stateByClass := bump m.stateByClass lease.capacityClass lease.state (-1)
      activeLeases := m.activeLeases.erase lease.id
      releasedCount := m.releasedCount + 1 } := by
  unfold dropLease freed
  split <;> rfl

theorem accounts_drop (accounts : Accounts (books m) (lease :: leases)) : Accounts (books (m.dropLease lease)) leases := by
  obtain ⟨openings,publicOpenings⟩ := opening_freed accounts
  have publicSessions := accounts.publicSessions
  have sessions := accounts.sessions
  rw [sessionsOf_cons] at publicSessions sessions
  have total : m.usedTotal = (lease :: leases).length := accounts.total
  have publics : m.usedPublic = (lease :: leases).countP isPublic := accounts.publics
  have pooled : m.usedPooled = (lease :: leases).countP _ := accounts.pooled
  have control : m.usedControl = (lease :: leases).countP _ := accounts.control
  have balance : m.grantedCount = m.releasedCount + (lease :: leases).length := accounts.balance
  rw [length_cons] at total balance
  rw [drop_eq]
  refine ⟨?_,?_,?_,?_,unbump_count accounts.states,openings,publicOpenings,tallies_drop publicSessions,
    sessions.decrement,fun other mem => accounts.named other (mem_cons_of_mem _ mem),?_⟩
  · simp only [books]
    omega
  · cases isPublicLease : lease.capacityClass.isPublic <;> simp_all [books,isPublic]
  · by_cases isPooled : lease.capacityClass = .publicPooled <;> simp_all [books]
  · by_cases isControl : lease.capacityClass = .trustedHealth <;> simp_all [books]
  · simp only [books]
    omega

theorem ledger_grant (ledger : Ledger (books m)) (c : CapacityClass) (queueKey sessionKey : String)
    (named : sessionKey ≠ "") : Ledger (books (m.grantLocked c queueKey sessionKey).1) := by
  have fresh : m.activeLeases.lookup (m.nextLeaseID + 1) = none :=
    absent_of_below fun id lease found => Nat.lt_succ_of_le (ledger.numbered id lease found).2
  constructor
  · have accounts := accounts_grant ledger.accounts c queueKey sessionKey named
    have values := values_insert_fresh m.activeLeases (m.nextLeaseID + 1)
      (m.grantLocked c queueKey sessionKey).2 fresh
    exact accounts_perm accounts (List.Perm.of_eq values.symm)
  · intro id lease found
    rcases of_lookup_insert found with ⟨rfl,rfl⟩ | ⟨_,found⟩
    · exact ⟨rfl,Nat.le_refl _⟩
    · obtain ⟨same,bound⟩ := ledger.numbered id lease found
      exact ⟨same,Nat.le_succ_of_le bound⟩

section

variable (ledger : Ledger (books m)) (found : m.activeLeases.lookup id = some lease)
include ledger found

theorem ledger_move (later : state ≠ .opening) : Ledger (books (m.moveLease lease state)) := by
  obtain ⟨rfl,bound⟩ := ledger.numbered id lease found
  constructor
  · have accounts := accounts_perm ledger.accounts (values_perm_erase m.activeLeases lease.id lease found)
    have moved := accounts_move accounts later
    rw [move_eq] at moved ⊢
    exact accounts_perm moved (List.Perm.of_eq (values_insert ..).symm)
  · rw [move_eq]
    exact forall_insert ledger.numbered ⟨rfl,bound⟩

theorem ledger_drop : Ledger (books (m.dropLease lease)) := by
  obtain ⟨rfl,_⟩ := ledger.numbered id lease found
  constructor
  · have accounts := accounts_perm ledger.accounts (values_perm_erase m.activeLeases lease.id lease found)
    have dropped := accounts_drop accounts
    rw [drop_eq] at dropped ⊢
    exact dropped
  · intro other entry present
    rw [drop_eq] at present ⊢
    exact ledger.numbered other entry (of_lookup_erase present).2

end

structure Room (m : Manager) (c : CapacityClass) (sessionKey : String) : Prop where
  total : m.usedTotal < m.config.totalStreams
  session : getD m.totalBySession sessionKey 0 < m.sessionLimitLocked sessionKey
  opening : getD m.openingBySession sessionKey 0 < m.config.maxOpeningPerSession
  publics : c.isPublic = true → m.usedPublic < m.config.publicStreams ∧
    getD m.publicBySession sessionKey 0 < m.config.publicStreams ∧
    getD m.publicOpeningBySession sessionKey 0 < m.publicOpeningLimitPerSessionLocked
  pooled : c = .publicPooled → m.usedPooled < m.config.pooledStreams
  control : c = .trustedHealth → m.usedControl < m.config.controlStreams

theorem config_bounds {c : CapacityConfig} (valid : validateAgentStreamCapacityConfig c = none) :
    1 ≤ c.totalStreams ∧ 0 ≤ c.publicStreams ∧ 0 ≤ c.controlStreams ∧ 0 ≤ c.maxWaiters ∧
      0 ≤ c.maxWaitersPerKey ∧ 1 ≤ c.maxOpeningPerSession ∧ 0 ≤ c.reservedPublicForOtherSessions := by
  simp only [validateAgentStreamCapacityConfig,Checks.refuse_eq_none] at valid
  omega

theorem publicSessionLimit_le (sessionKey : String) :
    m.publicSessionLimitLocked sessionKey ≤ m.config.publicStreams := by
  unfold publicSessionLimitLocked
  split
  · exact le_refl _
  · split
    · exact le_refl _
    · omega

theorem canGrant_room (able : m.canGrantLocked c sessionKey) : Room m c sessionKey := by
  unfold canGrantLocked at able
  split at able
  · cases able
  · rename_i free
    simp only [not_or,not_le] at free
    obtain ⟨_,total,session,opening⟩ := free
    have bound := publicSessionLimit_le (m := m) sessionKey
    refine ⟨by simpa using total,by simpa using session,by simpa using opening,?_,?_,?_⟩
    all_goals
      cases c <;> simp only [CapacityClass.isPublic,publicAllows,Bool.and_eq_true,decide_eq_true_eq] at able ⊢
    all_goals
      intros
      first | contradiction | omega

section

variable (limits : WithinLimits m)
include limits

theorem limits_grant (room : Room m c sessionKey) (queueKey : String) :
    WithinLimits (m.grantLocked c queueKey sessionKey).1 := by
  have step (bound : String → Int) {t : Table String Int} (below : ∀ session, getD t session 0 ≤ bound session)
      (free : getD t sessionKey 0 < bound sessionKey) (session : String) :
      getD (increment t sessionKey) session 0 ≤ bound session := by
    rw [getD_increment]
    by_cases same : session = sessionKey
    · subst same
      omega
    · simpa [same] using below session
  refine ⟨?_,?_,?_,?_,?_,?_,?_,?_,limits.negotiated⟩
  · have free := room.total
    simp only [grantLocked]
    omega
  · have old := limits.publics
    simp only [grantLocked]
    split
    · rename_i isPublic
      have free := (room.publics isPublic).1
      omega
    · exact old
  · have old := limits.pooled
    simp only [grantLocked]
    split
    · rename_i isPooled
      have free := room.pooled isPooled
      omega
    · exact old
  · have old := limits.control
    simp only [grantLocked]
    split
    · rename_i isControl
      have free := room.control isControl
      omega
    · exact old
  · exact step (fun _ => m.config.maxOpeningPerSession) limits.openings room.opening
  · intro session
    change getD (if c.isPublic then _ else _) session 0 ≤ m.publicOpeningLimitPerSessionLocked
    split
    · rename_i isPublic
      exact step (fun _ => m.publicOpeningLimitPerSessionLocked) limits.publicOpenings
        (room.publics isPublic).2.2 session
    · exact limits.publicOpenings session
  · intro session
    change getD (if c.isPublic then _ else _) session 0 ≤ m.config.publicStreams
    split
    · rename_i isPublic
      exact step (fun _ => m.config.publicStreams) limits.publicSessions (room.publics isPublic).2.1 session
    · exact limits.publicSessions session
  · intro session registered
    change getD (increment m.totalBySession sessionKey) session 0 ≤ m.sessionLimitLocked session
    rw [getD_increment]
    have old := limits.sessions session registered
    by_cases same : session = sessionKey
    · subst same
      have free := room.session
      omega
    · simpa [same] using old

theorem limits_mono {less : Manager} (config : less.config = m.config)
    (registered : less.registeredSessions = m.registeredSessions) (negotiated : less.sessionLimits = m.sessionLimits)
    (total : less.usedTotal ≤ m.usedTotal) (publics : less.usedPublic ≤ m.usedPublic)
    (pooled : less.usedPooled ≤ m.usedPooled) (control : less.usedControl ≤ m.usedControl)
    (openings : ∀ s, getD less.openingBySession s 0 ≤ getD m.openingBySession s 0)
    (publicOpenings : ∀ s, getD less.publicOpeningBySession s 0 ≤ getD m.publicOpeningBySession s 0)
    (publicSessions : ∀ s, getD less.publicBySession s 0 ≤ getD m.publicBySession s 0)
    (sessions : ∀ s, getD less.totalBySession s 0 ≤ getD m.totalBySession s 0) : WithinLimits less := by
  have opening : less.publicOpeningLimitPerSessionLocked = m.publicOpeningLimitPerSessionLocked := by
    simp only [publicOpeningLimitPerSessionLocked,config]
  have session (s : String) : less.sessionLimitLocked s = m.sessionLimitLocked s := by
    simp only [sessionLimitLocked,config,negotiated]
  refine ⟨?_,?_,?_,?_,?_,?_,?_,?_,?_⟩
  · rw [config]
    exact total.trans limits.total
  · rw [config]
    exact publics.trans limits.publics
  · rw [config]
    exact pooled.trans limits.pooled
  · rw [config]
    exact control.trans limits.control
  · intro s
    rw [config]
    exact (openings s).trans (limits.openings s)
  · intro s
    rw [opening]
    exact (publicOpenings s).trans (limits.publicOpenings s)
  · intro s
    rw [config]
    exact (publicSessions s).trans (limits.publicSessions s)
  · intro s present
    rw [session]
    exact (sessions s).trans (limits.sessions s (registered ▸ present))
  · intro s limit found
    rw [negotiated] at found
    rw [config,registered]
    exact limits.negotiated s limit found

theorem limits_books (sameBooks : books other = books m) (config : other.config = m.config)
    (registered : other.registeredSessions = m.registeredSessions) (negotiated : other.sessionLimits = m.sessionLimits) :
    WithinLimits other := by
  obtain ⟨total,publics,pooled,control,_⟩ := Books.mk.inj sameBooks
  have table (f : Books → Table String Int) (s : String) :
      getD (f (books other)) s 0 ≤ getD (f (books m)) s 0 := by rw [sameBooks]
  exact limits_mono limits config registered negotiated total.le publics.le pooled.le control.le
    (table Books.openingBySession) (table Books.publicOpeningBySession) (table Books.publicBySession)
    (table Books.totalBySession)

theorem limits_congr (sameBooks : books other = books m)
    (same : environment other = environment m) : WithinLimits other :=
  limits_books limits sameBooks (congrArg Environment.config same) (congrArg Environment.registeredSessions same)
    (congrArg Environment.sessionLimits same)

end

theorem room_congr (room : Room m c sessionKey) (sameBooks : books other = books m)
    (sameEnvironment : environment other = environment m) : Room other c sessionKey := by
  obtain ⟨config,_,negotiated,_⟩ := Environment.mk.inj sameEnvironment
  have opening : other.publicOpeningLimitPerSessionLocked = m.publicOpeningLimitPerSessionLocked := by
    simp only [publicOpeningLimitPerSessionLocked,config]
  have session : other.sessionLimitLocked sessionKey = m.sessionLimitLocked sessionKey := by
    simp only [sessionLimitLocked,config,negotiated]
  obtain ⟨total,publics,pooled,control,_,openings,publicOpenings,publicSessions,sessions,_⟩ := Books.mk.inj sameBooks
  constructor
  · rw [total,config]
    exact room.total
  · rw [sessions,session]
    exact room.session
  · rw [openings,config]
    exact room.opening
  · rw [publics,config,publicSessions,publicOpenings,opening]
    exact room.publics
  · rw [pooled,config]
    exact room.pooled
  · rw [control,config]
    exact room.control

theorem getD_freed (ledger : Ledger (books m)) (lease : Lease) (session : String) :
    getD (freed m lease).openingBySession session 0 ≤ getD m.openingBySession session 0 ∧
      getD (freed m lease).publicOpeningBySession session 0 ≤ getD m.publicOpeningBySession session 0 := by
  have openings := ledger.accounts.openings.nonneg lease.sessionKey
  have publicOpenings := ledger.accounts.publicOpenings.nonneg lease.sessionKey
  unfold freed
  split
  · refine ⟨getD_decrement_le _ _ session openings,?_⟩
    simp only [releaseSessionOpeningLocked]
    split
    · exact getD_decrement_le _ _ session publicOpenings
    · exact le_refl _
  · exact ⟨le_refl _,le_refl _⟩

theorem limits_drop (ledger : Ledger (books m)) (limits : WithinLimits m) (lease : Lease) :
    WithinLimits (m.dropLease lease) := by
  have less (select : Prop) [Decidable select] (count : Int) : (if select then count - 1 else count) ≤ count := by
    split <;> omega
  have publicSessions := ledger.accounts.publicSessions.nonneg lease.sessionKey
  have sessions := ledger.accounts.sessions.nonneg lease.sessionKey
  rw [drop_eq]
  refine limits_mono limits rfl rfl rfl ?_ (less _ _) (less _ _) (less _ _)
    (fun s => (getD_freed ledger lease s).1) (fun s => (getD_freed ledger lease s).2) ?_
    (fun s => getD_decrement_le _ _ s sessions)
  · simp only
    omega
  · intro s
    split
    · exact getD_decrement_le _ _ s publicSessions
    · exact le_refl _

end P2pstream.StreamCapacityLedger
