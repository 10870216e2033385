import P2pstream.Kernel.StreamCapacitySystem
import P2pstream.StreamCapacityLedger

/-! Inversion of the system's step function. Every step is one transition of the
inductive judgment below; invariants are proved by cases on it and never unfold
the operations again.
-/
namespace P2pstream.StreamCapacitySteps
open Library Kernel.AdaptiveMemory Kernel.StreamCapacity.Manager
open Kernel.StreamCapacity Semantics.StreamCapacity

/-- A caller of `acquire` that is neither granted at once nor refused. -/
structure Joins (s : System) (ctx : Nat) (c : CapacityClass) (queueKey sessionKey : String) : Prop where
  named : queueKey ≠ "" ∧ sessionKey ≠ ""
  running : s.expired ctx = false
  sampled : s.manager.adaptiveSampling ≤ 0
  enabled : s.manager.classEnabledLocked c = true
  blocked : s.manager.hasCompetingWaiterLocked c = true ∨ s.manager.canGrantLocked c sessionKey = false
  room : s.manager.queueLimitReached c = false
  keyRoom : ((s.manager.queue queueKey).length : Int) < s.manager.config.maxWaitersPerKey

inductive Immediate (s : System) : Manager → List Event → Prop where
  | unchanged : Immediate s s.manager []
  | rejected (constraint) : Immediate s (s.manager.recordRejectionLocked constraint) []
  | granted (c queueKey sessionKey) (named : queueKey ≠ "" ∧ sessionKey ≠ "")
      (sampled : s.manager.adaptiveSampling ≤ 0) (uncontested : s.manager.hasCompetingWaiterLocked c = false)
      (able : s.manager.canGrantLocked c sessionKey = true) :
      Immediate s (s.manager.grantLocked c queueKey sessionKey).1
        [.grant s.manager (s.manager.grantLocked c queueKey sessionKey).2 none
          (s.manager.grantLocked c queueKey sessionKey).1]
  | collected (waiter lease) (held : s.manager.waiterStatus.lookup waiter = some (.granted lease)) :
      Immediate s (s.manager.setStatus waiter (.granted none)) []

inductive Prepared (s : System) : Input → Manager → Prop where
  | joined (ctx c queueKey sessionKey) (joins : Joins s ctx c queueKey sessionKey) :
      Prepared s (.acquire ctx c queueKey sessionKey) (s.manager.newWaiter ctx c queueKey sessionKey).1
  | removed (waiter constraint) (ended : s.expired waiter.ctx = true)
      (queued : s.manager.waiterStatus.lookup waiter.id = some .queued) (mem : waiter ∈ s.manager.queuedWaiters) :
      Prepared s (.cancelWaiter waiter) (((s.manager.recordRejectionLocked constraint).removeWaiterLocked
        waiter).setStatus waiter.id (.canceled constraint))
  | moved (input id lease state) (found : s.manager.activeLeases.lookup id = some lease) (later : state ≠ .opening)
      (marks : input = .markLive id ∨ input = .markClosing id) : Prepared s input (s.manager.moveLease lease state)
  | dropped (id lease) (found : s.manager.activeLeases.lookup id = some lease) :
      Prepared s (.release id) (s.manager.dropLease lease)
  | registered (sessionKey limit) (named : sessionKey ≠ "") :
      Prepared s (.registerSession sessionKey limit) (registeredManager s.manager sessionKey limit)
  | unregistered (sessionKey) (named : sessionKey ≠ "") :
      Prepared s (.unregisterSession sessionKey) (unregisteredManager s.manager sessionKey)

structure Reserves (m : Manager) (r : Reservation) : Prop where
  sampled : m.adaptiveSampling ≤ 0
  adaptive : m.adaptiveMemory.isSome = true
  bytes : 0 ≤ r.memoryBytes
  descriptors : 0 ≤ r.fileDescriptors
  accepting : m.resourceSnapshot.rejectNew = false
  usage : m.resourceSnapshot.usage.valid = true
  charge : 0 < m.resourceSnapshot.streamChargeByte
  fits : m.usedTotal + m.unusedProtectedControl ≤ m.resourceSnapshot.admissionLimitWithExternal
    (saturatingAddInt64 m.adaptiveExternalBytes r.memoryBytes)
    (saturatingAddInt64 m.adaptiveExternalFDs r.fileDescriptors)

abbrev withReservation (s : System) (r : Reservation) : System := { s with
    manager := reservedManager s.manager r, nextReservation := s.nextReservation + 1
    reservations := s.reservations.insert s.nextReservation r }

abbrev withController (s : System) (source : Controller) : System := { s with
    nextController := s.nextController + 1, controllers := s.controllers.insert s.nextController source }

abbrev withRefresh (s : System) (refresh : Refresh) : System := { s with
    manager := { s.manager with
      adaptiveSampling := if refresh.sampling then s.manager.adaptiveSampling + 1 else s.manager.adaptiveSampling }
    nextRefresh := s.nextRefresh + 1
    refreshes := s.refreshes.insert s.nextRefresh refresh }

abbrev withSample (s : System) (id : Nat) (refresh : Refresh) (source : Controller) (sample : Sample) : System := { s with
    controllers := s.controllers.insert refresh.controller
      (source.snapshotAt sample refresh.maximum refresh.inUse refresh.force).1
    refreshes := s.refreshes.insert id { refresh with
      next := some (source.snapshotAt sample refresh.maximum refresh.inUse refresh.force).2 } }

inductive Transition (s : System) : Input → System → List Event → Prop where
  | immediate (input m events) (change : Immediate s m events) : Transition s input { s with manager := m } events
  | dispatched (input m) (prepared : Prepared s input m) :
      Transition s input { s with manager := (dispatchLocked s.err m).1 } (dispatchLocked s.err m).2
  | ended (input ended late) : Transition s input { s with ended := ended ++ s.ended, late } []
  | reserved (r) (reserves : Reserves s.manager r) :
      Transition s (.reserve r) (withReservation s r) [.reserve s.manager (reservedManager s.manager r)]
  | unreserved (handle r) (found : s.reservations.lookup handle = some r) :
      Transition s (.releaseReservation handle) { s with
          reservations := s.reservations.erase handle
          manager := (dispatchLocked s.err (unreservedManager s.manager r)).1 }
        (dispatchLocked s.err (unreservedManager s.manager r)).2
  | created (config) (accepted : config.validate = none) (fdSampler) :
      Transition s (.newController config fdSampler) (withController s { config, accepted, fdSampler }) []
  | enabled (controller) (replaced : s.manager.adaptiveMemory ≠ some controller)
      (free : ∀ refresh ∈ Table.values s.refreshes, refresh.controller ≠ controller) :
      Transition s (.enable controller) { s with manager := { s.manager with
        adaptiveMemory := some controller, resourceSnapshot := { rejectNew := true }, adaptiveSampling := 0 } } []
  | started (force checked now controller sampling) (current : s.manager.adaptiveMemory = some controller) :
      Transition s (.refreshStart force checked now) (withRefresh s
        ⟨controller,force,sampling,maxAdaptiveConcurrentStreamsLimit,s.manager.usedTotal,none⟩) []
  | sampled (id refresh source sample) (inFlight : s.refreshes.lookup id = some refresh)
      (known : s.controllers.lookup refresh.controller = some source) :
      Transition s (.refreshSample id sample) (withSample s id refresh source sample) []
  | stale (id refresh) (inFlight : s.refreshes.lookup id = some refresh)
      (replaced : s.manager.adaptiveMemory ≠ some refresh.controller) :
      Transition s (.refreshFinish id) { s with refreshes := s.refreshes.erase id } []
  | published (id refresh next) (inFlight : s.refreshes.lookup id = some refresh)
      (current : s.manager.adaptiveMemory = some refresh.controller) (taken : refresh.next = some next) :
      Transition s (.refreshFinish id) { s with
          refreshes := s.refreshes.erase id
          manager := (dispatchLocked s.err (publishedManager s.manager refresh next)).1 }
        (dispatchLocked s.err (publishedManager s.manager refresh next)).2

variable {c : CapacityClass} {s next : System} {sessionKey : String} {m : Manager} {events : List Event}

theorem acquire_transition {ctx : Nat} {queueKey : String}
    (free : ¬ (s.manager.adaptiveSampling > 0 ∧ ¬ s.expired ctx)) :
    Transition s (.acquire ctx c queueKey sessionKey)
      { s with manager := (s.manager.acquire s.expired s.err ctx c queueKey sessionKey).1 }
      (s.manager.acquire s.expired s.err ctx c queueKey sessionKey).2.2 := by
  unfold acquire
  by_cases noKey : queueKey = ""
  · simp only [if_pos noKey]
    exact .immediate _ _ _ .unchanged
  by_cases noSession : sessionKey = ""
  · simp only [if_neg noKey,if_pos noSession]
    exact .immediate _ _ _ .unchanged
  by_cases ended : s.expired ctx
  · simp only [if_neg noKey,if_neg noSession,if_pos ended]
    exact .immediate _ _ _ .unchanged
  have sampled : s.manager.adaptiveSampling ≤ 0 := by
    by_contra busy
    exact free ⟨by omega,ended⟩
  simp only [if_neg noKey,if_neg noSession,if_neg ended]
  by_cases enabled : s.manager.classEnabledLocked c
  · by_cases fast : (!s.manager.hasCompetingWaiterLocked c && s.manager.canGrantLocked c sessionKey)
    · simp only [enabled,fast]
      rw [Bool.and_eq_true,Bool.not_eq_true'] at fast
      exact .immediate _ _ _ (.granted c queueKey sessionKey ⟨noKey,noSession⟩ sampled fast.1 fast.2)
    · by_cases full : s.manager.queueLimitReached c
      · simp only [enabled,fast,full]
        exact .immediate _ _ _ (.rejected _)
      · by_cases keyFull : ((s.manager.queue queueKey).length : Int) ≥ s.manager.config.maxWaitersPerKey
        · simp only [enabled,fast,full,if_pos keyFull]
          exact .immediate _ _ _ (.rejected _)
        · simp only [enabled,fast,full,if_neg keyFull]
          refine .dispatched _ _ (.joined ctx c queueKey sessionKey ?_)
          refine ⟨⟨noKey,noSession⟩,by simpa using ended,sampled,enabled,?_,by simpa using full,by omega⟩
          cases contested : s.manager.hasCompetingWaiterLocked c
          · right
            simpa [contested] using fast
          · exact Or.inl rfl
  · simp only [enabled]
    exact .immediate _ _ _ (.rejected _)

/-- The two tests of an admission read the same limits: whatever the grant test
refuses for is a constraint the diagnosis can name. -/
theorem canGrant_iff : m.canGrantLocked c sessionKey ↔ ∀ constraint, ¬ Fails m c sessionKey constraint := by
  constructor
  · intro able constraint
    unfold canGrantLocked publicAllows at able
    cases constraint <;> cases c <;> simp only [Fails,CapacityClass.isPublic] <;> grind
  · intro free
    have pressure := free .resourcePressure
    have total := free .totalBudget
    have session := free .sessionBudget
    have opening := free .sessionOpeningLimit
    have publics := free .publicBudget
    have pooled := free .pooledBudget
    have control := free .controlBudget
    simp only [Fails] at *
    unfold canGrantLocked publicAllows
    cases c <;> simp only [CapacityClass.isPublic] at * <;> grind

-- The diagnosis tests an adaptive limit only below the configured one, which it tests next.
theorem refuses_fails (refused : m.adaptiveRefuses c) (unpressed : m.adaptivePressure c = false) :
    m.config.totalStreams ≤ m.usedTotal ∨ c.isPublic ∧ m.config.publicStreams ≤ m.usedPublic := by
  unfold adaptiveRefuses at refused
  unfold adaptivePressure at unpressed
  cases c <;> grind [CapacityClass.isPublic]

theorem waitTurn_canGrant (turn : m.blockingConstraintLocked c sessionKey = .waitTurn) :
    m.canGrantLocked c sessionKey := by
  refine canGrant_iff.mpr fun constraint _ => ?_
  have pressed := refuses_fails (m := m) (c := c)
  unfold blockingConstraintLocked publicConstraint at turn
  cases constraint <;> cases c <;> grind [Fails,CapacityClass.isPublic]

theorem blocking_fails (blocked : m.blockingConstraintLocked c sessionKey ≠ .waitTurn) :
    Fails m c sessionKey (m.blockingConstraintLocked c sessionKey) := by
  have refuses (pressed : m.adaptivePressure c) : m.adaptiveRefuses c := by
    unfold adaptivePressure at pressed
    unfold adaptiveRefuses
    grind
  revert blocked
  unfold blockingConstraintLocked publicConstraint
  cases c <;> grind [Fails,CapacityClass.isPublic]

theorem canGrant_waitTurn : m.canGrantLocked c sessionKey ↔ m.blockingConstraintLocked c sessionKey = .waitTurn := by
  refine ⟨fun able => ?_,waitTurn_canGrant⟩
  by_contra blocked
  exact canGrant_iff.mp able _ (blocking_fails blocked)

/-- The two ways in agree on whether there is capacity, and what a refusal names
is a limit that is reached. -/
theorem grant_test_matches_diagnosis (m : Manager) (c : CapacityClass) (queueKey sessionKey : String) :
    (m.canGrantLocked c sessionKey = true ↔ m.blockingConstraintLocked c sessionKey = .waitTurn) ∧
      (m.blockingConstraintLocked c sessionKey ≠ .waitTurn → Fails m c sessionKey (m.blockingConstraintLocked c sessionKey)) ∧
      (∀ constraint, Fails m c sessionKey constraint → m.canGrantLocked c sessionKey = false) ∧
      ∀ expired err ctx, expired ctx = false → ∀ id, (m.acquire expired err ctx c queueKey sessionKey).2.1 = .lease id ↔
          (m.tryAcquire c queueKey sessionKey).2.1 = .lease id := by
  refine ⟨canGrant_waitTurn,blocking_fails,fun constraint fails => ?_,fun expired err ctx live id => ?_⟩
  · by_contra able
    exact canGrant_iff.mp (by simpa using able) constraint fails
  · have same : m.canGrantLocked c sessionKey ↔ m.blockingConstraintLocked c sessionKey = .waitTurn := canGrant_waitTurn
    unfold acquire tryAcquire
    grind

/-- Without control streams a health probe is refused for that budget, and a visitor is let in either way. -/
theorem grant_test_matches_diagnosis_visitor : (emptyManager ⟨2,1,1,0,4,2,2,0⟩).canGrantLocked .trustedHealth "s" = false ∧
    ((emptyManager ⟨2,1,1,0,4,2,2,0⟩).tryAcquire .publicOneShot "a" "s").2.1 = .lease 1 := by
  obtain ⟨_,named,refused,_⟩ := grant_test_matches_diagnosis (emptyManager ⟨2,1,1,0,4,2,2,0⟩) .trustedHealth "a" "s"
  obtain ⟨_,_,_,same⟩ := grant_test_matches_diagnosis (emptyManager ⟨2,1,1,0,4,2,2,0⟩) .publicOneShot "a" "s"
  exact ⟨refused _ (named (by decide)),(same (fun _ => false) (fun _ _ => false) 0 rfl 1).mp (by decide)⟩

theorem tryAcquire_transition {queueKey : String} (sampled : ¬ s.manager.adaptiveSampling > 0) :
    Transition s (.tryAcquire c queueKey sessionKey)
      { s with manager := (s.manager.tryAcquire c queueKey sessionKey).1 }
      (s.manager.tryAcquire c queueKey sessionKey).2.2 := by
  unfold tryAcquire
  by_cases noKey : queueKey = ""
  · simp only [if_pos noKey]
    exact .immediate _ _ _ .unchanged
  by_cases noSession : sessionKey = ""
  · simp only [if_neg noKey,if_pos noSession]
    exact .immediate _ _ _ .unchanged
  simp only [if_neg noKey,if_neg noSession]
  by_cases enabled : s.manager.classEnabledLocked c
  · cases contested : s.manager.hasCompetingWaiterLocked c with
    | true =>
      simp only [enabled]
      exact .immediate _ _ _ (.rejected _)
    | false =>
      by_cases turn : s.manager.blockingConstraintLocked c sessionKey = .waitTurn
      · simp only [enabled,turn]
        exact .immediate _ _ _ (.granted c queueKey sessionKey ⟨noKey,noSession⟩ (by omega) contested
          (waitTurn_canGrant turn))
      · simp only [enabled,if_pos turn]
        exact .immediate _ _ _ (.rejected _)
  · simp only [enabled]
    exact .immediate _ _ _ (.rejected _)

theorem cancelWaiter_transition {waiter : Waiter} (ended : s.expired waiter.ctx) (holds : s.holdsWaiter waiter) :
    Transition s (.cancelWaiter waiter) { s with manager := (s.manager.cancelWaiter s.err waiter).1 }
      (s.manager.cancelWaiter s.err waiter).2 := by
  unfold cancelWaiter
  cases status : s.manager.waiterStatus.lookup waiter.id with
  | none => exact .immediate _ _ _ .unchanged
  | some current =>
    cases current with
    | queued =>
      have mem : waiter ∈ s.manager.queuedWaiters := by simpa [System.holdsWaiter,status] using holds
      exact .dispatched _ _ (.removed waiter _ ended status mem)
    | granted lease => exact .immediate _ _ _ (.collected waiter.id lease status)
    | canceled => exact .immediate _ _ _ .unchanged

theorem reserve_cases (m : Manager) (r : Reservation) (sampled : m.adaptiveSampling ≤ 0) :
    (∃ result, result ≠ .reserved ∧ m.tryReserveAdaptiveResourceMode r = (m,result,[])) ∨
      (Reserves m r ∧ m.tryReserveAdaptiveResourceMode r =
        (reservedManager m r,.reserved,[.reserve m (reservedManager m r)])) := by
  unfold tryReserveAdaptiveResourceMode
  split
  · exact Or.inl ⟨.unconstrained,by simp,rfl⟩
  rename_i adaptive
  split
  · exact Or.inl ⟨.refused,by simp,rfl⟩
  rename_i valid
  simp only
  split
  · exact Or.inl ⟨.refused,by simp,rfl⟩
  · rename_i fits
    simp only [not_or,not_lt,not_le,Bool.not_eq_true,Bool.not_eq_false] at valid
    obtain ⟨bytes,descriptors,accepting,usage,charge⟩ := valid
    refine Or.inr ⟨⟨sampled,?_,bytes,descriptors,accepting,usage,charge,by omega⟩,rfl⟩
    cases present : m.adaptiveMemory <;> simp_all

theorem reserve_transition {r : Reservation} (ok : s.step (.reserve r) = some (next,events)) :
    Transition s (.reserve r) next events := by
  simp only [System.step] at ok
  split at ok
  · cases ok
  · rename_i sampled
    rcases reserve_cases s.manager r (by omega) with ⟨result,refused,outcome⟩ | ⟨reserves,outcome⟩
    · rw [outcome] at ok
      cases result <;> simp only [Option.some.injEq,Prod.mk.injEq,System.settle] at ok
      case reserved => exact absurd rfl refused
      all_goals
        obtain ⟨rfl,rfl⟩ := ok
        exact .immediate _ _ _ .unchanged
    · rw [outcome] at ok
      obtain ⟨rfl,rfl⟩ := ok
      exact .reserved r reserves

theorem refreshStart_transition {force : Bool} {checked now : Int}
    (ok : s.step (.refreshStart force checked now) = some (next,events)) :
    Transition s (.refreshStart force checked now) next events := by
  simp only [System.step] at ok
  rcases begun : s.manager.refreshStart force checked now with ⟨_,_ | _⟩ <;> rw [begun] at ok <;> cases ok <;>
    unfold refreshStart at begun <;> split at begun
  · cases begun
    exact .immediate _ _ _ .unchanged
  · dsimp only at begun
    split at begun <;> cases begun
    exact .immediate _ _ _ .unchanged
  · cases begun
  · rename_i controller adaptive
    dsimp only at begun
    split at begun <;> cases begun
    exact .started force checked now controller _ adaptive

theorem refreshFinish_transition {id : Nat} (ok : s.step (.refreshFinish id) = some (next,events)) :
    Transition s (.refreshFinish id) next events := by
  simp only [System.step] at ok
  split at ok
  · rename_i refresh inFlight
    split at ok
    · rename_i snapshot taken
      obtain ⟨rfl,rfl⟩ := ok
      unfold refreshFinish
      by_cases current : s.manager.adaptiveMemory = some refresh.controller
      · rw [if_neg (not_not.mpr current)]
        exact .published id refresh snapshot inFlight current taken
      · rw [if_pos current]
        exact .stale id refresh inFlight current
    · cases ok
  · cases ok

theorem step_transition {input : Input} (ok : s.step input = some (next,events)) : Transition s input next events := by
  cases input with
  | acquire =>
    simp only [System.step] at ok
    split at ok
    · cases ok
    · rename_i free
      cases ok
      exact acquire_transition free
  | tryAcquire =>
    simp only [System.step] at ok
    split at ok
    · cases ok
    · rename_i sampled
      cases ok
      exact tryAcquire_transition sampled
  | endContext ctx =>
    cases ok
    exact .ended _ [ctx] s.late
  | endLate late =>
    cases ok
    exact .ended _ [] late
  | cancelWaiter =>
    simp only [System.step] at ok
    split at ok
    · rename_i held
      cases ok
      exact cancelWaiter_transition held.1 held.2
    · cases ok
  | waiterReady waiter =>
    cases ok
    unfold waiterReady
    split
    · rename_i lease status
      split
      · exact .immediate _ _ _ (.collected waiter.id (some lease) status)
      · exact .immediate _ _ _ .unchanged
    · exact .immediate _ _ _ .unchanged
  | markLive id =>
    cases ok
    cases found : s.manager.activeLeases.lookup id with
    | none => exact .immediate _ _ _ .unchanged
    | some lease =>
      simp only
      split
      · exact .dispatched _ _ (.moved _ id lease .live found (by simp) (Or.inl rfl))
      · exact .immediate _ _ _ .unchanged
  | markClosing id =>
    cases ok
    cases found : s.manager.activeLeases.lookup id with
    | none => exact .immediate _ _ _ .unchanged
    | some lease =>
      simp only
      split
      · exact .immediate _ _ _ .unchanged
      · exact .dispatched _ _ (.moved _ id lease .closing found (by simp) (Or.inr rfl))
  | release id =>
    cases ok
    cases found : s.manager.activeLeases.lookup id with
    | none => exact .immediate _ _ _ .unchanged
    | some lease => exact .dispatched _ _ (.dropped id lease found)
  | registerSession sessionKey limit =>
    cases ok
    unfold registerSessionWithLimit
    split
    · exact .immediate _ _ _ .unchanged
    · exact .dispatched _ _ (.registered sessionKey limit ‹_›)
  | unregisterSession sessionKey =>
    cases ok
    unfold unregisterSession
    split
    · exact .immediate _ _ _ .unchanged
    · exact .dispatched _ _ (.unregistered sessionKey ‹_›)
  | reserve => exact reserve_transition ok
  | releaseReservation handle =>
    simp only [System.step] at ok
    split at ok
    · cases ok
    · rename_i r found
      cases ok
      exact .unreserved handle r found
  | newController config fdSampler =>
    simp only [System.step] at ok
    split at ok
    · rename_i accepted
      cases ok
      exact .created config accepted fdSampler
    · cases ok
  | enable controller =>
    simp only [System.step] at ok
    split at ok
    · rename_i may
      cases ok
      unfold enableAdaptiveMemory
      split
      · exact .immediate _ _ _ .unchanged
      · rename_i replaced
        refine .enabled controller replaced ?_
        simp only [System.mayEnable,replaced,decide_false,Bool.false_or,Bool.and_eq_true,List.all_eq_true,
          decide_eq_true_eq] at may
        exact may.2
    · cases ok
  | refreshStart => exact refreshStart_transition ok
  | refreshSample id sample =>
    simp only [System.step] at ok
    split at ok
    · rename_i controller force sampling maximum inUse inFlight
      split at ok
      · cases ok
      · rename_i source known
        cases ok
        exact .sampled id _ source sample inFlight known
    · cases ok
  | refreshFinish => exact refreshFinish_transition ok

end P2pstream.StreamCapacitySteps
