import P2pstream.StreamCapacityValidation

/-! The stream-capacity system over runs. One step preserves the consistency of
the manager with its callers' leases, reservations and refreshes; so does every
run, which is every interleaving of the operations.
-/
namespace P2pstream.StreamCapacityRuns
open Library Library.RoundRobin Library.Transitions Table AList Int Kernel.StreamCapacity.Manager
open Kernel.AdaptiveMemory Kernel.StreamCapacity Semantics.StreamCapacity
open StreamCapacityLedger StreamCapacityQueues
open StreamCapacitySteps StreamCapacityResources AdaptiveAdmission StreamCapacityInvariant

def samples (current : Option Nat) (refresh : Refresh) : Bool := refresh.sampling && current = some refresh.controller

/-- What holds in every run: ledger and line, the sampling count of the refreshes
in flight, and snapshots that come from samples. -/
structure Orderly (s : System) : Prop where
  regular : Regular s.manager
  bytes : 0 ≤ s.manager.adaptiveExternalBytes ∧ s.manager.adaptiveExternalBytes ≤ maxInt64
  fds : 0 ≤ s.manager.adaptiveExternalFDs ∧ s.manager.adaptiveExternalFDs ≤ maxInt64
  reserved : ∀ r ∈ values s.reservations, 0 ≤ r.memoryBytes ∧ 0 ≤ r.fileDescriptors
  covered : s.manager.adaptiveMemory.isSome = true → s.manager.resourceSnapshot.rejectNew = false →
    Covered s.manager.resourceSnapshot
  sampling : s.manager.adaptiveSampling = (values s.refreshes).countP (samples s.manager.adaptiveMemory)
  tickets : ∀ id ∈ s.refreshes, id < s.nextRefresh
  controllers : ∀ id controller, s.controllers.lookup id = some controller → Remembers controller
  taken : ∀ id refresh next, s.refreshes.lookup id = some refresh → refresh.next = some next →
    next.rejectNew = false → Measured next

/-- What holds when the callers keep their promises: the limits, and external
totals that account for the outstanding reservations. -/
structure Consistent (s : System) : Prop extends Orderly s where
  limits : WithinLimits s.manager
  lineLimits : LineLimits s.manager
  externals : Externals s.manager (values s.reservations)
  handles : ∀ handle ∈ s.reservations, handle < s.nextReservation

variable {s : System} {config : CapacityConfig} {m start : Manager} {r : Reservation} {id : Nat} {refresh : Refresh}
  {events : List Event}

theorem Consistent.sound (consistent : Consistent s) : Sound s.manager :=
  ⟨consistent.regular,consistent.limits,consistent.lineLimits⟩

theorem new_ok (made : newAgentStreamCapacityManager config = .ok start) :
    validateAgentStreamCapacityConfig config = none ∧ start = emptyManager config := by
  unfold newAgentStreamCapacityManager at made
  split at made
  · cases made
  · exact ⟨‹_›,(Except.ok.inj made).symm⟩

theorem limits_initial (valid : validateAgentStreamCapacityConfig config = none) : WithinLimits (emptyManager config) := by
  obtain ⟨_,publics,control,_,_,_,_⟩ := config_bounds valid
  have pooled : 0 ≤ config.pooledStreams := by
    simp only [validateAgentStreamCapacityConfig,Checks.refuse_eq_none] at valid
    omega
  have zero (session : String) : getD (∅ : Table String Int) session 0 = 0 := by simp [getD]
  refine ⟨?_,publics,pooled,control,?_,?_,?_,?_,?_⟩
  · change 0 ≤ config.totalStreams
    omega
  · intro session
    change getD ∅ session 0 ≤ config.maxOpeningPerSession
    rw [zero]
    omega
  · intro session
    change getD ∅ session 0 ≤ _
    rw [zero]
    unfold publicOpeningLimitPerSessionLocked emptyManager
    simp only
    split
    · omega
    · split <;> omega
  · intro session
    change getD ∅ session 0 ≤ config.publicStreams
    exact publics
  · intro session mem
    exact absurd mem (notMem_empty session)
  · intro _ _ found
    exact absurd found (by simp [emptyManager])

section

variable (made : newAgentStreamCapacityManager config = .ok start)
include made

theorem orderly_initial : Orderly (System.initial start) := by
  obtain ⟨valid,rfl⟩ := new_ok made
  have fits : (0 : Int) ≤ 0 ∧ (0 : Int) ≤ maxInt64 := by decide
  have ledger : Ledger (books (emptyManager config)) :=
    ⟨⟨rfl,rfl,rfl,rfl,fun _ _ => rfl,.empty,.empty,.empty,.empty,by simp [books,emptyManager,values],rfl⟩,
      by simp [books,emptyManager]⟩
  have line : Line (queueState (emptyManager config)) := by
    refine ⟨Or.inr ⟨rfl,rfl⟩,List.nodup_nil,?_,?_,?_,?_,rfl,List.nodup_nil,?_,?_⟩ <;>
      simp [queueState,emptyManager,queueOf,waiting,getD,values]
  refine ⟨⟨valid,ledger,line⟩,fits,fits,?_,?_,rfl,?_,?_,?_⟩ <;> simp [System.initial,emptyManager,values]

theorem consistent_initial : Consistent (System.initial start) := by
  have orderly := orderly_initial made
  obtain ⟨valid,rfl⟩ := new_ok made
  obtain ⟨_,_,_,waiters,perKey,_,_⟩ := config_bounds valid
  have fits : (0 : Int) ≤ maxInt64 ∧ (0 : Int) ≤ maxInt64 := by decide
  have lineLimits : LineLimits (emptyManager config) := by
    refine ⟨?_,waiters,?_⟩
    · intro _
      simpa [queue,emptyManager,getD] using perKey
    · change (0 : Int) ≤ max 1 config.controlStreams
      omega
  refine ⟨orderly,limits_initial valid,lineLimits,?_,by simp [System.initial]⟩
  exact ⟨rfl,rfl,fun _ => rfl,fun _ => rfl,by simp [System.initial,values],fits,fun _ => le_refl _,le_refl _⟩

end

variable {rs : List Reservation} {handle controller : Nat} {next : Snapshot} {input : Input} {inputs : List Input}
  {final : System}

theorem externals_congr {other : Manager} (externals : Externals m rs) (same : resources other = resources m) :
    Externals other rs := by
  obtain ⟨_,_,_,bytes,fds,legacy,ownerBytes,ownerFDs,counts⟩ := Resources.mk.inj same
  exact ⟨bytes.trans externals.bytes,fds.trans externals.fds,fun owner => ownerBytes ▸ externals.ownerBytes owner,
    fun owner => ownerFDs ▸ externals.ownerFDs owner,externals.nonneg,bytes ▸ fds ▸ externals.fits,
    fun owner => counts ▸ externals.counts owner,legacy ▸ externals.legacy⟩

theorem externals_nonneg (externals : Externals m rs) : 0 ≤ m.adaptiveExternalBytes ∧ 0 ≤ m.adaptiveExternalFDs := by
  rw [externals.bytes,externals.fds]
  constructor <;> apply List.sum_nonneg <;> intro amount mem <;> obtain ⟨r,held,rfl⟩ := List.mem_map.mp mem
  · exact (externals.nonneg r held).1
  · exact (externals.nonneg r held).2

theorem orderly_backed (orderly : Orderly s) : Backed (resources s.manager) :=
  ⟨orderly.covered,orderly.bytes.1,orderly.fds.1⟩

theorem orderly_settle (orderly : Orderly s) (regular : Regular m) (same : resources m = resources s.manager) :
    Orderly { s with manager := m } := by
  obtain ⟨adaptive,snapshot,sampling,bytes,fds,_⟩ := Resources.mk.inj same
  refine { orderly with regular := regular, bytes := ?_, fds := ?_, covered := ?_, sampling := ?_ }
  · exact bytes ▸ orderly.bytes
  · exact fds ▸ orderly.fds
  · rw [adaptive,snapshot]
    exact orderly.covered
  · rw [adaptive,sampling]
    exact orderly.sampling

theorem orderly_dispatch (orderly : Orderly s) (err : Nat → Waiter → Bool) :
    Orderly { s with manager := (dispatchLocked err s.manager).1 } ∧
      ∀ event ∈ (dispatchLocked err s.manager).2, Decided event := by
  obtain ⟨regular,same,seen,_⟩ := regular_dispatch err orderly.regular (orderly_backed orderly)
  exact ⟨orderly_settle orderly regular (congrArg Environment.resources same),seen⟩

theorem saturatingAdd_bounded {left : Int} (right : Int) (old : 0 ≤ left ∧ left ≤ maxInt64) :
    0 ≤ saturatingAddInt64 left right ∧ saturatingAddInt64 left right ≤ maxInt64 := by
  refine ⟨saturatingAdd_nonneg right old.1,?_⟩
  unfold saturatingAddInt64
  split
  · exact old.2
  · split <;> omega

section

variable (orderly : Orderly s)
include orderly

theorem orderly_reserved (reserves : Reserves s.manager r) : Orderly (withReservation s r) := by
  refine { orderly with
    regular := { orderly.regular with }, bytes := saturatingAdd_bounded _ orderly.bytes
    fds := saturatingAdd_bounded _ orderly.fds, reserved := ?_ }
  intro other mem
  rcases List.mem_cons.mp mem with rfl | old
  · exact ⟨reserves.bytes,reserves.descriptors⟩
  · exact orderly.reserved other (mem_values_of_erase _ _ _ old)

theorem orderly_unreserved (found : s.reservations.lookup handle = some r) : Orderly { s with
      reservations := s.reservations.erase handle, manager := unreservedManager s.manager r } := by
  obtain ⟨_,_⟩ := orderly.reserved r (mem_values_of_lookup _ _ _ found)
  have oldBytes := orderly.bytes
  have oldFDs := orderly.fds
  refine { orderly with regular := { orderly.regular with }, bytes := ?_, fds := ?_, reserved := ?_ }
  · simp only [unreservedManager]
    omega
  · simp only [unreservedManager]
    omega
  · exact fun other mem => orderly.reserved other (mem_values_of_erase _ _ _ mem)

theorem orderly_created (config : Config) (accepted : config.validate = none) (fdSampler : Bool) :
    Orderly (withController s { config, accepted, fdSampler }) := by
  refine { orderly with controllers := forall_insert orderly.controllers ?_ }
  intro sampledBefore
  cases sampledBefore

theorem orderly_started (force sampling : Bool)
    (current : s.manager.adaptiveMemory = some controller) (maximum inUse : Int) :
    Orderly (withRefresh s ⟨controller,force,sampling,maximum,inUse,none⟩) := by
  have fresh : s.refreshes.lookup s.nextRefresh = none := by
    apply lookup_eq_none.mpr
    intro mem
    exact Nat.lt_irrefl _ (orderly.tickets _ mem)
  have counted := orderly.sampling
  refine { orderly with regular := { orderly.regular with }, sampling := ?_, tickets := ?_, taken := ?_ }
  · rw [values_insert_fresh _ _ _ fresh]
    cases sampling <;> simp [samples,current,counted]
  · intro id mem
    rcases (mem_insert _).mp mem with rfl | old
    · exact Nat.lt_succ_self _
    · exact Nat.lt_succ_of_lt (orderly.tickets id old)
  · intro id refresh next found
    rcases of_lookup_insert found with ⟨rfl,rfl⟩ | ⟨_,found⟩
    · simp
    · exact orderly.taken id refresh next found

theorem orderly_sampled {source : Controller} (sample : Sample)
    (inFlight : s.refreshes.lookup id = some refresh) (known : s.controllers.lookup refresh.controller = some source) :
    Orderly (withSample s id refresh source sample) := by
  obtain ⟨remembers,measured⟩ := snapshotAt_measured (orderly.controllers _ source known) sample refresh.maximum
    refresh.inUse refresh.force
  refine { orderly with sampling := ?_, tickets := ?_, controllers := forall_insert orderly.controllers remembers, taken := ?_ }
  · have counted := orderly.sampling
    rw [(values_perm_erase s.refreshes id refresh inFlight).countP_eq,List.countP_cons] at counted
    rw [values_insert,List.countP_cons]
    exact counted
  · intro other mem
    rcases (mem_insert _).mp mem with rfl | old
    · exact orderly.tickets other (lookup_isSome.mp (by simp [inFlight]))
    · exact orderly.tickets other old
  · intro other entry next found done
    rcases of_lookup_insert found with ⟨rfl,rfl⟩ | ⟨_,found⟩
    · exact Option.some.inj done ▸ measured
    · exact orderly.taken other entry next found done

theorem finished_sampling (inFlight : s.refreshes.lookup id = some refresh) :
    s.manager.adaptiveSampling = (values (s.refreshes.erase id)).countP (samples s.manager.adaptiveMemory) +
      if samples s.manager.adaptiveMemory refresh then 1 else 0 := by
  rw [orderly.sampling,(values_perm_erase s.refreshes id refresh inFlight).countP_eq,List.countP_cons]
  push_cast
  rfl

theorem erased_taken (id : Nat) : ∀ other refresh next,
    (s.refreshes.erase id).lookup other = some refresh → refresh.next = some next → next.rejectNew = false → Measured next := by
  intro other refresh next found
  exact orderly.taken other refresh next (of_lookup_erase found).2

theorem orderly_published (inFlight : s.refreshes.lookup id = some refresh)
    (current : s.manager.adaptiveMemory = some refresh.controller) (taken : refresh.next = some next) :
    Orderly { s with
      refreshes := s.refreshes.erase id, manager := publishedManager s.manager refresh next } := by
  have measured := orderly.taken id refresh next inFlight taken
  have counted := finished_sampling orderly inFlight
  have tickets : ∀ other ∈ s.refreshes.erase id, other < s.nextRefresh :=
    fun other mem => orderly.tickets other (mem_erase.mp mem).2
  have remaining : (if refresh.sampling then s.manager.adaptiveSampling - 1 else s.manager.adaptiveSampling) =
      (values (s.refreshes.erase id)).countP (samples s.manager.adaptiveMemory) := by
    cases busy : refresh.sampling <;> simp [samples,busy,current] at counted ⊢ <;> omega
  -- The snapshot is replaced or kept; the sampling count falls in either case.
  have finished (snapshot : Snapshot) (sampling : Int) (covered : snapshot.rejectNew = false → Covered snapshot)
      (left : sampling = (values (s.refreshes.erase id)).countP (samples s.manager.adaptiveMemory)) :
      Orderly { s with
        refreshes := s.refreshes.erase id
        manager := { s.manager with resourceSnapshot := snapshot, adaptiveSampling := sampling } } :=
    { orderly with
      regular := { orderly.regular with }, covered := fun _ => covered, sampling := left, tickets
      taken := erased_taken orderly id }
  have adaptive : s.manager.adaptiveMemory.isSome := by simp [current]
  have kept := finished s.manager.resourceSnapshot _ (orderly.covered adaptive) remaining
  have replaced (m : Manager) := finished (m.publishedSnapshot next) _ (published_covered m measured) remaining
  unfold publishedManager
  cases busy : refresh.sampling <;> simp only [busy,if_true,Bool.false_eq_true,if_false] at kept replaced ⊢ <;> split
  · exact replaced _
  · exact kept
  · exact replaced _
  · exact kept

theorem orderly_transition {next : System}
    (transition : Transition s input next events) : Orderly next ∧ ∀ event ∈ events, Decided event := by
  have backed := orderly_backed orderly
  cases transition with
  | immediate _ _ _ change =>
    obtain ⟨regular,same,seen⟩ := regular_immediate orderly.regular backed change
    exact ⟨orderly_settle orderly regular (congrArg Environment.resources same),seen⟩
  | dispatched _ _ prepared =>
    obtain ⟨regular,same⟩ := regular_prepared orderly.regular prepared
    exact orderly_dispatch (orderly_settle orderly regular same) s.err
  | ended =>
    exact ⟨{ orderly with },by simp⟩
  | reserved r reserves =>
    refine ⟨orderly_reserved orderly reserves,?_⟩
    intro _ mem
    rw [List.mem_singleton.mp mem]
    exact ⟨r,reserves,rfl,usedTotal_nonneg orderly.regular.ledger,backed⟩
  | unreserved _ _ found => exact orderly_dispatch (orderly_unreserved orderly found) s.err
  | created config accepted fdSampler => exact ⟨orderly_created orderly config accepted fdSampler,by simp⟩
  | enabled _ _ free =>
    refine ⟨{ orderly with regular := { orderly.regular with }, covered := ?_, sampling := ?_ },by simp⟩
    · intro _ accepting
      cases accepting
    · symm
      rw [natCast_eq_zero,List.countP_eq_zero]
      intro refresh mem
      simp [samples,Ne.symm (free refresh mem)]
  | started force _ _ _ sampling current =>
    exact ⟨orderly_started orderly force sampling current _ _,by simp⟩
  | sampled _ _ _ sample inFlight known => exact ⟨orderly_sampled orderly sample inFlight known,by simp⟩
  | stale id _ inFlight replaced =>
    refine ⟨{ orderly with
      sampling := ?_
      tickets := fun other mem => orderly.tickets other (mem_erase.mp mem).2
      taken := erased_taken orderly id },by simp⟩
    have counted := finished_sampling orderly inFlight
    simpa [samples,replaced] using counted
  | published _ _ _ inFlight current taken =>
    exact orderly_dispatch (orderly_published orderly inFlight current taken) s.err

end

theorem reserve_fits (backed : Backed (resources m)) (reserves : Reserves m r) (total : 0 ≤ m.usedTotal)
    (promised : 0 < m.resourceSnapshot.fdLimit ∨ m.adaptiveExternalFDs + r.fileDescriptors ≤ maxInt64) :
    m.adaptiveExternalBytes + r.memoryBytes ≤ maxInt64 ∧ m.adaptiveExternalFDs + r.fileDescriptors ≤ maxInt64 := by
  have covered : Covered m.resourceSnapshot := backed.covered reserves.adaptive reserves.accepting
  have externalBytes : 0 ≤ m.adaptiveExternalBytes := backed.bytes
  have externalFDs : 0 ≤ m.adaptiveExternalFDs := backed.fds
  have control : 0 ≤ m.unusedProtectedControl := le_max_left ..
  obtain ⟨_,fds⟩ := limit_covered covered (saturatingAdd_nonneg _ externalBytes)
    (saturatingAdd_nonneg _ externalFDs) (Int.add_nonneg total control) reserves.fits
  have charged := Int.mul_nonneg (Int.add_nonneg total control) (Int.le_of_lt covered.charge)
  have chargedFD := Int.mul_nonneg (Int.add_nonneg total control) covered.chargeFD
  have headroom := covered.headroom
  constructor
  · exact saturatingAdd_small reserves.bytes (by omega)
  · rcases promised with measured | fits
    · have headroomFD := covered.descriptors measured
      exact saturatingAdd_small reserves.descriptors (by omega)
    · exact fits

section

variable (consistent : Consistent s)
include consistent

theorem consistent_adapted {t : System} (orderly : Orderly t)
    (sameBooks : books t.manager = books s.manager) (queues : t.manager.queues = s.manager.queues)
    (config : t.manager.config = s.manager.config)
    (registered : t.manager.registeredSessions = s.manager.registeredSessions)
    (negotiated : t.manager.sessionLimits = s.manager.sessionLimits)
    (externals : Externals t.manager (values t.reservations))
    (handles : ∀ handle ∈ t.reservations, handle < t.nextReservation) : Consistent t :=
  ⟨orderly,limits_books consistent.limits sameBooks config registered negotiated,
    lineLimits_congr consistent.lineLimits queues config,externals,handles⟩

theorem consistent_settle (sound : Sound m)
    (same : resources m = resources s.manager) : Consistent { s with manager := m } := by
  exact ⟨orderly_settle consistent.toOrderly sound.toRegular same,sound.limits,sound.lineLimits,
    externals_congr consistent.externals same,consistent.handles⟩

theorem consistent_dispatch (err : Nat → Waiter → Bool) :
    Consistent { s with manager := (dispatchLocked err s.manager).1 } ∧
      ∀ event ∈ (dispatchLocked err s.manager).2, GrantsWithinLimits event := by
  obtain ⟨_,same,_⟩ := regular_dispatch err consistent.regular (orderly_backed consistent.toOrderly)
  obtain ⟨sound,seen⟩ := sound_dispatch err consistent.sound
  exact ⟨consistent_settle consistent sound (congrArg Environment.resources same),seen⟩

theorem consistent_reserved (reserves : Reserves s.manager r) (promised : CallersPromise s (.reserve r)) :
    Consistent (withReservation s r) := by
  obtain ⟨bytes,fds⟩ := reserve_fits (orderly_backed consistent.toOrderly) reserves
    (usedTotal_nonneg consistent.regular.ledger) promised
  have fresh : s.reservations.lookup s.nextReservation = none := by
    apply lookup_eq_none.mpr
    intro mem
    exact Nat.lt_irrefl _ (consistent.handles _ mem)
  refine consistent_adapted consistent (orderly_reserved consistent.toOrderly reserves) rfl rfl rfl rfl rfl ?_ ?_
  · rw [values_insert_fresh _ _ _ fresh]
    exact externals_reserve consistent.externals r reserves.bytes reserves.descriptors bytes fds
  · intro handle mem
    rcases (mem_insert _).mp mem with rfl | old
    · exact Nat.lt_succ_self _
    · exact Nat.lt_succ_of_lt (consistent.handles handle old)

theorem consistent_unreserved (found : s.reservations.lookup handle = some r) : Consistent { s with
      reservations := s.reservations.erase handle, manager := unreservedManager s.manager r } := by
  have outstanding := externals_perm consistent.externals (values_perm_erase s.reservations handle r found)
  exact consistent_adapted consistent (orderly_unreserved consistent.toOrderly found) rfl rfl rfl rfl rfl
    (externals_release outstanding) fun other mem => consistent.handles other (mem_erase.mp mem).2

theorem consistent_published
    (inFlight : s.refreshes.lookup id = some refresh) (current : s.manager.adaptiveMemory = some refresh.controller)
    (taken : refresh.next = some next) :
    Consistent { s with
      refreshes := s.refreshes.erase id, manager := publishedManager s.manager refresh next } := by
  have orderly := orderly_published consistent.toOrderly inFlight current taken
  have same : ∃ snapshot sampling, publishedManager s.manager refresh next =
      { s.manager with resourceSnapshot := snapshot, adaptiveSampling := sampling } := by
    unfold publishedManager
    cases refresh.sampling <;> simp only [if_true,Bool.false_eq_true,if_false] <;> split <;> exact ⟨_,_,rfl⟩
  obtain ⟨_,_,same⟩ := same
  rw [same] at orderly ⊢
  exact consistent_adapted consistent orderly rfl rfl rfl rfl rfl { consistent.externals with } consistent.handles

theorem consistent_transition {next : System}
    (promised : CallersPromise s input) (transition : Transition s input next events) :
    Consistent next ∧ ∀ event ∈ events, GrantsWithinLimits event := by
  have orderly := (orderly_transition consistent.toOrderly transition).1
  cases transition with
  | immediate _ _ _ change =>
    obtain ⟨regular,same,_⟩ := regular_immediate consistent.regular (orderly_backed consistent.toOrderly) change
    obtain ⟨limits,lineLimits,seen⟩ := limits_immediate consistent.sound change
    exact ⟨consistent_settle consistent ⟨regular,limits,lineLimits⟩ (congrArg Environment.resources same),seen⟩
  | dispatched _ _ prepared =>
    obtain ⟨regular,same⟩ := regular_prepared consistent.regular prepared
    obtain ⟨limits,lineLimits⟩ := limits_prepared consistent.sound promised prepared
    exact consistent_dispatch (consistent_settle consistent ⟨regular,limits,lineLimits⟩ same) s.err
  | reserved _ reserves =>
    refine ⟨consistent_reserved consistent reserves promised,?_⟩
    intro _ mem
    rw [List.mem_singleton.mp mem]
    trivial
  | unreserved _ _ found => exact consistent_dispatch (consistent_unreserved consistent found) s.err
  | published _ _ _ inFlight current taken =>
    exact consistent_dispatch (consistent_published consistent inFlight current taken) s.err
  | _ =>
    exact ⟨consistent_adapted consistent orderly rfl rfl rfl rfl rfl { consistent.externals with } consistent.handles,by simp⟩

end

theorem orderly_run (made : newAgentStreamCapacityManager config = .ok start)
    (ran : run System.step (System.initial start) inputs = some (final,events)) :
    Orderly final ∧ ∀ event ∈ events, Decided event := by
  refine run_always ?_ (orderly_initial made) ran
  intro _ _ _ _ orderly ok
  exact orderly_transition orderly (step_transition ok)

structure Nonnegative (m : Manager) : Prop where
  used : 0 ≤ m.usedTotal ∧ 0 ≤ m.usedPublic ∧ 0 ≤ m.usedPooled ∧ 0 ≤ m.usedControl
  states : ∀ c state, 0 ≤ m.stateByClass c state
  sessions : ∀ session, 0 ≤ getD m.openingBySession session 0 ∧
    0 ≤ getD m.publicOpeningBySession session 0 ∧ 0 ≤ getD m.publicBySession session 0 ∧
    0 ≤ getD m.totalBySession session 0
  waiters : 0 ≤ m.waiters
  sampling : 0 ≤ m.adaptiveSampling
  external : 0 ≤ m.adaptiveExternalBytes ∧ 0 ≤ m.adaptiveExternalFDs ∧ 0 ≤ m.legacyStreamSupplementBytes
  owners : ∀ owner, 0 ≤ m.adaptiveExternalBytesByOwner owner ∧ 0 ≤ m.adaptiveExternalFDsByOwner owner ∧
    0 ≤ m.adaptiveExternalReservationsByOwner owner

theorem consistent_nonnegative (consistent : Consistent s) : Nonnegative s.manager := by
  have accounts := consistent.regular.ledger.accounts
  have externals := consistent.externals
  have total : s.manager.usedTotal = _ := accounts.total
  have publics : s.manager.usedPublic = _ := accounts.publics
  have pooled : s.manager.usedPooled = _ := accounts.pooled
  have control : s.manager.usedControl = _ := accounts.control
  have waiters : s.manager.waiters = _ := consistent.regular.line.counted
  have sampling := consistent.sampling
  obtain ⟨bytes,fds⟩ := externals_nonneg externals
  have owned (amount : Reservation → Int) (nonneg : ∀ r ∈ values s.reservations, 0 ≤ amount r) (owner : Owner) :
      0 ≤ (((values s.reservations).filter fun r => r.owner = owner).map amount).sum := by
    apply List.sum_nonneg
    intro _ mem
    obtain ⟨r,held,rfl⟩ := List.mem_map.mp mem
    exact nonneg r (List.mem_filter.mp held).1
  refine ⟨by omega,?_,?_,by omega,by omega,⟨bytes,fds,externals.legacy⟩,?_⟩
  · intro c state
    have counted : s.manager.stateByClass c state = _ := accounts.states c state
    omega
  · exact fun session => ⟨accounts.openings.nonneg session,accounts.publicOpenings.nonneg session,
      accounts.publicSessions.nonneg session,accounts.sessions.nonneg session⟩
  · intro owner
    rw [externals.ownerBytes,externals.ownerFDs]
    exact ⟨owned _ (fun r held => (externals.nonneg r held).1) owner,
      owned _ (fun r held => (externals.nonneg r held).2) owner,externals.counts owner⟩

/-- After every run the ledger equals the account of the outstanding leases and
reservations, every queued waiter stands in exactly one queue, the rotation lists
exactly the nonempty queues, no counter is negative, no grant exceeded a limit and
the manager's own check passes. -/
theorem ledger_consistent (config : CapacityConfig) (start : Manager)
    (made : newAgentStreamCapacityManager config = .ok start)
    (inputs : List Input) (promised : Meets System.step CallersPromise (System.initial start) inputs)
    (final : System) (events : List Event)
    (ran : run System.step (System.initial start) inputs = some (final,events)) :
    Ledger (books final.manager) ∧ Line (queueState final.manager) ∧ WithinLimits final.manager ∧
      LineLimits final.manager ∧ Externals final.manager (values final.reservations) ∧
      Nonnegative final.manager ∧ (∀ event ∈ events, GrantsWithinLimits event) ∧
      final.manager.validateInvariantsLocked = .ok () := by
  obtain ⟨consistent,within⟩ := run_invariant (fun _ _ _ _ consistent promised ok =>
    consistent_transition consistent promised (step_transition ok)) (consistent_initial made) promised ran
  exact ⟨consistent.regular.ledger,consistent.regular.line,consistent.limits,consistent.lineLimits,
    consistent.externals,consistent_nonnegative consistent,within,
    StreamCapacityValidation.validateInvariants_ok consistent.sound consistent.externals⟩

def smallConfig : CapacityConfig := ⟨2,1,1,1,4,2,2,0⟩

def promised (s : System) : Input → Bool
  | .registerSession sessionKey _ => getD s.manager.totalBySession sessionKey 0 ≤ 0
  | .reserve r => s.manager.adaptiveExternalFDs + r.fileDescriptors ≤ maxInt64
  | _ => true

theorem promised_sound (s : System) (input : Input) (checked : promised s input) : CallersPromise s input := by
  cases input with
  | registerSession =>
    intro _
    simp only [promised,decide_eq_true_eq] at checked
    omega
  | reserve => exact Or.inr (by simpa [promised] using checked)
  | _ => trivial

/-- A registered session takes the stream, a second caller waits and is served on release. -/
theorem ledger_consistent_served : ∃ final events, run System.step (System.initial (emptyManager smallConfig))
        [.registerSession "s" 2,.acquire 0 .publicOneShot "a" "s",.acquire 1 .publicOneShot "b" "s",.release 1] =
        some (final,events) ∧ events.length = 2 ∧ final.manager.validateInvariantsLocked = .ok () := by
  have checked : checks System.step promised (System.initial (emptyManager smallConfig))
      [.registerSession "s" 2,.acquire 0 .publicOneShot "a" "s",.acquire 1 .publicOneShot "b" "s",.release 1] := by
    decide
  obtain ⟨_,_,_,_,_,_,_,passed⟩ := ledger_consistent smallConfig _ rfl _ (meets_of_checks promised_sound checked) _ _ rfl
  exact ⟨_,_,rfl,rfl,passed⟩

end P2pstream.StreamCapacityRuns
