import P2pstream.StreamCapacityRuns

/-! No lost wake-ups. Every operation that can make a waiter eligible ends in a
dispatch, dispatch terminates and leaves nobody eligible, and the operations that
do not dispatch only make grants harder.
-/
namespace P2pstream.StreamCapacityWakeup
open Library Library.RoundRobin Library.Transitions Table List Int Kernel.StreamCapacity.Manager
open Kernel.AdaptiveMemory Kernel.StreamCapacity Semantics.StreamCapacity
open StreamCapacityDispatch StreamCapacitySteps
open AdaptiveAdmission StreamCapacityInvariant StreamCapacityRuns

/-- A manager in which every grant is at least as hard as in another. -/
structure Tighter (m more : Manager) : Prop where
  config : more.config = m.config
  registered : more.registeredSessions = m.registeredSessions
  negotiated : more.sessionLimits = m.sessionLimits
  queues : more.queues = m.queues
  adaptive : m.adaptiveMemory.isSome = true → more.adaptiveMemory.isSome = true
  rejects : m.resourceSnapshot.rejectNew = true → more.resourceSnapshot.rejectNew = true
  limit : more.adaptiveEffectiveAdmissionLimitLocked ≤ m.adaptiveEffectiveAdmissionLimitLocked
  total : m.usedTotal ≤ more.usedTotal
  publics : m.usedPublic ≤ more.usedPublic
  pooled : m.usedPooled ≤ more.usedPooled
  control : m.usedControl ≤ more.usedControl
  openings : ∀ session, getD m.openingBySession session 0 ≤ getD more.openingBySession session 0
  publicOpenings : ∀ session, getD m.publicOpeningBySession session 0 ≤ getD more.publicOpeningBySession session 0
  publicSessions : ∀ session, getD m.publicBySession session 0 ≤ getD more.publicBySession session 0
  sessions : ∀ session, getD m.totalBySession session 0 ≤ getD more.totalBySession session 0

variable {m more : Manager} {s : System} {index position : Nat}

section

variable (tighter : Tighter m more)
include tighter

theorem publicLimit_mono : more.adaptivePublicLimitLocked ≤ m.adaptivePublicLimitLocked := by
  have limit := tighter.limit
  have nonneg : 0 ≤ more.adaptiveEffectiveAdmissionLimitLocked := le_max_left ..
  unfold adaptivePublicLimitLocked adaptiveProtectedControlLocked
  rw [tighter.config]
  simp only
  split_ifs <;> omega

theorem adaptiveRefuses_mono {c : CapacityClass} (refuses : m.adaptiveRefuses c) : more.adaptiveRefuses c := by
  have publicLimit := publicLimit_mono tighter
  have limit := tighter.limit
  have total := tighter.total
  have publics := tighter.publics
  unfold adaptiveRefuses at refuses ⊢
  simp only [Bool.and_eq_true,Bool.or_eq_true,decide_eq_true_eq,ge_iff_le] at refuses ⊢
  refine ⟨tighter.adaptive refuses.1,?_⟩
  rcases refuses.2 with (rejected | full) | ⟨isPublic,_⟩
  · exact Or.inl (Or.inl (tighter.rejects rejected))
  · exact Or.inl (Or.inr (by omega))
  · exact Or.inr ⟨isPublic,by omega⟩

theorem publicAllows_mono {sessionKey : String}
    (allows : more.publicAllows sessionKey) : m.publicAllows sessionKey := by
  have publics := tighter.publics
  have publicSessions := tighter.publicSessions sessionKey
  have publicOpenings := tighter.publicOpenings sessionKey
  unfold publicAllows publicOpeningLimitPerSessionLocked at allows ⊢
  have limit : more.publicSessionLimitLocked sessionKey = m.publicSessionLimitLocked sessionKey := by
    unfold publicSessionLimitLocked hasPublicWaiterForOtherSessionLocked queuedWaiters
    rw [tighter.config,tighter.registered,tighter.queues]
  rw [tighter.config,limit] at allows
  simp only [Bool.and_eq_true,decide_eq_true_eq] at allows ⊢
  omega

theorem canGrant_mono {c : CapacityClass} {sessionKey : String}
    (able : more.canGrantLocked c sessionKey) : m.canGrantLocked c sessionKey := by
  have total := tighter.total
  have sessions := tighter.sessions sessionKey
  have openings := tighter.openings sessionKey
  have limit : more.sessionLimitLocked sessionKey = m.sessionLimitLocked sessionKey := by
    unfold sessionLimitLocked
    rw [tighter.config,tighter.negotiated]
  unfold canGrantLocked at able ⊢
  rw [tighter.config] at able
  split at able
  · cases able
  rename_i free
  rw [if_neg]
  · cases c with
    | publicPooled =>
      have pooled := tighter.pooled
      simp only [Bool.and_eq_true,decide_eq_true_eq] at able ⊢
      exact ⟨publicAllows_mono tighter able.1,by omega⟩
    | publicOneShot => exact publicAllows_mono tighter able
    | trustedHealth =>
      have control := tighter.control
      simp only [decide_eq_true_eq] at able ⊢
      omega
  · rintro (refuses | full | full | _)
    · exact free (Or.inl (adaptiveRefuses_mono tighter refuses))
    all_goals exact free (by omega)

end

theorem tighter_grant (m : Manager) (c : CapacityClass) (queueKey sessionKey : String) :
    Tighter m (m.grantLocked c queueKey sessionKey).1 := by
  have raised (select : Prop) [Decidable select] (count : Int) : count ≤ if select then count + 1 else count := by
    split <;> omega
  have step (t : Table String Int) (session : String) :
      getD t session 0 ≤ getD (increment t sessionKey) session 0 := by
    rw [getD_increment]
    split <;> omega
  have stepIf (select : Prop) [Decidable select] (t : Table String Int) (session : String) :
      getD t session 0 ≤ getD (if select then increment t sessionKey else t) session 0 := by
    split
    · exact step t session
    · exact le_refl _
  exact ⟨rfl,rfl,rfl,rfl,id,id,le_refl _,le_add_one (le_refl _),raised _ _,raised _ _,raised _ _,step _,
    stepIf _ _,stepIf _ _,step _⟩

theorem saturatingAdd_grows {left : Int} (bounded : left ≤ maxInt64) (right : Int) :
    left ≤ saturatingAddInt64 left right := by
  unfold saturatingAddInt64
  split
  · exact le_refl _
  · split <;> omega

theorem tighter_reserved (orderly : Orderly s) {r : Reservation} (reserves : Reserves s.manager r) :
    Tighter s.manager (reservedManager s.manager r) := by
  have covered := orderly.covered reserves.adaptive reserves.accepting
  have limit := limit_antitone covered (saturatingAdd_grows orderly.bytes.2 r.memoryBytes)
    (saturatingAdd_grows orderly.fds.2 r.fileDescriptors)
  refine ⟨rfl,rfl,rfl,rfl,id,id,?_,le_refl _,le_refl _,le_refl _,le_refl _,fun _ => le_refl _,
    fun _ => le_refl _,fun _ => le_refl _,fun _ => le_refl _⟩
  unfold adaptiveEffectiveAdmissionLimitLocked reservedManager
  simp only
  omega

/-- While nothing is being sampled, no queued waiter with a live context is eligible. -/
def Quiet (s : System) : Prop :=
  s.manager.adaptiveSampling ≤ 0 → ∀ waiter ∈ s.manager.queuedWaiters, s.expired waiter.ctx = false →
    s.manager.canGrantLocked waiter.capacityClass waiter.sessionKey = false

theorem quiet_dispatch (orderly : Orderly s) (err : Nat → Waiter → Bool) :
    Quiet { s with manager := (dispatchLocked err s.manager).1 } := by
  obtain ⟨_,same,_,settled⟩ := regular_dispatch err orderly.regular
    ⟨orderly.covered,orderly.bytes.1,orderly.fds.1⟩
  have sampling : (dispatchLocked err s.manager).1.adaptiveSampling = s.manager.adaptiveSampling :=
    congrArg (fun e => e.resources.adaptiveSampling) same
  exact fun idle waiter mem _ => settled (sampling ▸ idle) waiter mem

theorem quiet_tighter {t : System} (quiet : Quiet s) (tighter : Tighter s.manager t.manager)
    (sampling : t.manager.adaptiveSampling ≤ 0 → s.manager.adaptiveSampling ≤ 0)
    (ended : ∀ ctx, t.expired ctx = false → s.expired ctx = false) : Quiet t := by
  intro idle waiter mem running
  have queued : waiter ∈ s.manager.queuedWaiters := by
    unfold queuedWaiters at mem ⊢
    rwa [tighter.queues] at mem
  have blocked := quiet (sampling idle) waiter queued (ended waiter.ctx running)
  by_contra able
  rw [canGrant_mono tighter (by simpa using able)] at blocked
  cases blocked

theorem tighter_same (sameBooks : books more = books m) (same : environment more = environment m)
    (queues : more.queues = m.queues) : Tighter m more := by
  obtain ⟨config,registered,negotiated,same⟩ := Environment.mk.inj same
  obtain ⟨adaptive,snapshot,_,bytes,fds,_⟩ := Resources.mk.inj same
  obtain ⟨total,publics,pooled,control,_⟩ := Books.mk.inj sameBooks
  have table (f : Books → Table String Int) (session : String) :
      getD (f (books m)) session 0 ≤ getD (f (books more)) session 0 := by rw [sameBooks]
  refine ⟨config,registered,negotiated,queues,by rw [adaptive]; exact id,by rw [snapshot]; exact id,?_,total.ge,publics.ge,
    pooled.ge,control.ge,table Books.openingBySession,table Books.publicOpeningBySession,table Books.publicBySession,
    table Books.totalBySession⟩
  unfold adaptiveEffectiveAdmissionLimitLocked
  rw [snapshot,bytes,fds]

theorem tighter_sampling (m : Manager) (sampling : Int) : Tighter m { m with adaptiveSampling := sampling } := by
  constructor <;> first | rfl | exact id | exact le_refl _ | exact fun _ => le_refl _

theorem quiet_immediate (quiet : Quiet s) {events : List Event} (change : Immediate s m events) :
    Quiet { s with manager := m } := by
  cases change with
  | unchanged => exact quiet
  | granted c queueKey sessionKey =>
    exact quiet_tighter quiet (tighter_grant s.manager c queueKey sessionKey) id fun _ => id
  | rejected | collected =>
    exact quiet_tighter quiet (tighter_same (by simp) (by simp) rfl) id fun _ => id

theorem quiet_transition {next : System} {input : Input} {events : List Event} (orderly : Orderly s) (quiet : Quiet s)
    (transition : Transition s input next events) : Quiet next := by
  cases transition with
  | immediate _ _ _ change => exact quiet_immediate quiet change
  | dispatched _ _ prepared =>
    obtain ⟨regular,same⟩ := regular_prepared orderly.regular prepared
    exact quiet_dispatch (orderly_settle orderly regular same) s.err
  | ended =>
    refine quiet_tighter quiet (tighter_same rfl rfl rfl) id ?_
    intro _ running
    simp only [System.expired,mem_append,decide_eq_false_iff_not,not_or] at running ⊢
    exact running.2
  | reserved _ reserves =>
    exact quiet_tighter quiet (tighter_reserved orderly reserves) id fun _ => id
  | unreserved _ _ found => exact quiet_dispatch (orderly_unreserved orderly found) s.err
  | created | sampled | stale => exact quiet
  | enabled => exact fun _ _ _ _ => if_pos (.inl (by simp [adaptiveRefuses]))
  | started _ _ _ _ sampling =>
    cases sampling with
    | true =>
      -- Sampling in progress postpones every dispatch until it is published.
      intro idle
      have counted := orderly.sampling
      simp only [if_true] at idle
      omega
    | false => exact quiet_tighter quiet (tighter_sampling s.manager _) id fun _ => id
  | published _ _ _ inFlight current taken =>
    exact quiet_dispatch (orderly_published orderly inFlight current taken) s.err

def backlog (m : Manager) : Nat := m.queuedWaiters.length + m.queueKeys.length

theorem backlog_removeKey (m : Manager) (inside : index < m.queueKeys.length) :
    backlog (m.removeQueueKeyAtLocked index) + 1 = backlog m := by
  have size := length_eraseIdx_of_lt inside
  have same : (m.removeQueueKeyAtLocked index).queuedWaiters = m.queuedWaiters ∧
      (m.removeQueueKeyAtLocked index).queueKeys = m.queueKeys.eraseIdx index := by
    unfold removeQueueKeyAtLocked
    simp only
    split <;> exact ⟨rfl,rfl⟩
  unfold backlog
  rw [same.1,same.2]
  omega

theorem length_waiting_put (m : Manager) (key : String) (inside : position < (m.queue key).length) :
    (waiting (put m.queues key ((m.queue key).eraseIdx position))).length + 1 = m.queuedWaiters.length := by
  have before := (waiting_perm m.queues key).length_eq
  have size := length_eraseIdx_of_lt inside
  rw [waiting_put,length_append,size]
  rw [length_append] at before
  change _ = (waiting m.queues).length
  change position < (queueOf m.queues key).length at inside
  change (queueOf m.queues key).length - 1 + _ + 1 = _
  omega

theorem backlog_pop (m : Manager) (advance : Bool) (listed : index < m.queueKeys.length)
    (inside : position < (m.queue (m.queueKeys.getD index "")).length) :
    backlog (m.popQueueEntryLocked index position advance) < backlog m := by
  have size := length_waiting_put m (m.queueKeys.getD index "") inside
  unfold popQueueEntryLocked
  by_cases emptied : ((m.queue (m.queueKeys.getD index "")).eraseIdx position).isEmpty
  · rw [if_pos emptied]
    rw [put,if_pos emptied] at size
    have removed := backlog_removeKey { m with
      waiters := m.waiters - 1, queues := m.queues.erase (m.queueKeys.getD index "") } listed
    have entries : ({ m with
        waiters := m.waiters - 1, queues := m.queues.erase (m.queueKeys.getD index "") } : Manager).queuedWaiters.length
          + 1 = m.queuedWaiters.length := size
    unfold backlog at removed ⊢
    simp only at removed entries ⊢
    omega
  · rw [if_neg emptied]
    rw [put,if_neg emptied] at size
    unfold backlog
    change (waiting (m.queues.insert (m.queueKeys.getD index "")
      ((m.queue (m.queueKeys.getD index "")).eraseIdx position))).length + m.queueKeys.length < _
    omega

theorem backlog_scan (expired : Waiter → Bool) {remaining : Nat} {left : Manager} {event : Event}
    (keys : remaining ≤ m.queueKeys.length) (pass : scanKeys expired remaining m = (left,some event)) :
    backlog left < backlog m := by
  induction remaining generalizing m with
  | zero => cases pass
  | succ remaining ih =>
    have cursor : ∃ start, start < m.queueKeys.length ∧
        (if m.nextQueueKey ≥ m.queueKeys.length then { m with nextQueueKey := 0 } else m) = atCursor m start := by
      split
      · exact ⟨0,by omega,rfl⟩
      · exact ⟨m.nextQueueKey,by omega,rfl⟩
    obtain ⟨start,inside,moved⟩ := cursor
    rw [scanKeys,moved] at pass
    split at pass
    · cases pass
      have removed := backlog_removeKey (atCursor m start) inside
      change backlog ((atCursor m start).removeQueueKeyAtLocked start) < backlog (atCursor m start)
      omega
    · split at pass
      · rename_i position waiter found
        cases pass
        obtain ⟨front,back,held,_,_⟩ := firstReady_some found
        have within : position < ((atCursor m start).queue ((atCursor m start).queueKeys.getD start "")).length := by
          have held' : (atCursor m start).queue ((atCursor m start).queueKeys.getD start "") = front ++ waiter :: back := held
          rw [held']
          simp only [length_append,length_cons]
          omega
        change backlog ((atCursor m start).serveWaiter expired start position waiter).1 < backlog (atCursor m start)
        unfold serveWaiter
        split
        · exact backlog_pop ((atCursor m start).recordRejectionLocked _) false inside within
        · exact backlog_pop (atCursor m start) true inside within
      · have later : remaining ≤ m.queueKeys.length := by omega
        have less := ih (m := { atCursor m start with
          nextQueueKey := (start + 1) % (atCursor m start).queueKeys.length }) later pass
        exact less

/-- Dispatch terminates on every manager: its loop makes at most one pass for each
queued waiter and key, and more fuel does not change its result. -/
theorem dispatchLoop_terminates (err : Nat → Waiter → Bool) (fuel : Nat) (m : Manager) (enough : backlog m < fuel) :
    ∃ outcome, ∀ extra, dispatchLoop err (fuel + extra) m = some outcome := by
  induction fuel generalizing err m with
  | zero => omega
  | succ _ ih =>
    by_cases busy : m.waiters > 0 ∧ m.queueKeys.length > 0
    · cases pass : scanKeys (err 0) m.queueKeys.length m with
      | mk left progress =>
        cases progress with
        | none =>
          refine ⟨(left,[]),fun extra => ?_⟩
          rw [Nat.succ_add,dispatchLoop,if_pos busy,pass]
        | some event =>
          have less := backlog_scan (err 0) (Nat.le_refl _) pass
          obtain ⟨outcome,finishes⟩ := ih (fun pass => err (pass + 1)) left (by omega)
          refine ⟨(outcome.1,event :: outcome.2),fun extra => ?_⟩
          rw [Nat.succ_add,dispatchLoop,if_pos busy,pass]
          simp [finishes extra]
    · refine ⟨(m,[]),fun extra => ?_⟩
      rw [Nat.succ_add,dispatchLoop,if_neg busy]

/-- Dispatch always terminates, and after every run no queued waiter with a live
context is eligible while nothing is being sampled. -/
theorem no_lost_wakeup (config : CapacityConfig) (start : Manager) (made : newAgentStreamCapacityManager config = .ok start)
    (inputs : List Input) (final : System) (events : List Event)
    (ran : run System.step (System.initial start) inputs = some (final,events)) :
    (∀ err m, ∃ outcome, ∀ fuel, m.dispatchFuel ≤ fuel → dispatchLoop err fuel m = some outcome) ∧
      (final.manager.adaptiveSampling = 0 → ∀ waiter ∈ final.manager.queuedWaiters, final.expired waiter.ctx = false →
        final.manager.canGrantLocked waiter.capacityClass waiter.sessionKey = false) := by
  constructor
  · intro err m
    obtain ⟨outcome,finishes⟩ := dispatchLoop_terminates err m.dispatchFuel m (Nat.lt_succ_self _)
    refine ⟨outcome,fun fuel enough => ?_⟩
    obtain ⟨extra,rfl⟩ := Nat.exists_eq_add_of_le enough
    exact finishes extra
  · have empty : Quiet (System.initial start) := by
      obtain ⟨_,rfl⟩ := new_ok made
      exact fun _ _ mem => absurd mem not_mem_nil
    obtain ⟨_,quiet⟩ : Orderly final ∧ Quiet final := by
      refine run_kept (motive := fun s => Orderly s ∧ Quiet s) ?_ ⟨orderly_initial made,empty⟩ ran
      intro _ _ _ _ holds ok
      have transition := step_transition ok
      exact ⟨(orderly_transition holds.1 transition).1,quiet_transition holds.1 holds.2 transition⟩
    exact fun idle => quiet (le_of_eq idle)

/-- The second caller waits for the only public stream and is not eligible. -/
theorem no_lost_wakeup_waiting : ∃ final events, run System.step (System.initial (emptyManager smallConfig))
        [.acquire 0 .publicOneShot "a" "s",.acquire 1 .publicOneShot "b" "t"] = some (final,events) ∧
      ∃ waiter ∈ final.manager.queuedWaiters, final.expired waiter.ctx = false ∧
        final.manager.canGrantLocked waiter.capacityClass waiter.sessionKey = false := by
  obtain ⟨_,asleep⟩ := no_lost_wakeup smallConfig _ rfl
    [.acquire 0 .publicOneShot "a" "s",.acquire 1 .publicOneShot "b" "t"] _ _ rfl
  exact ⟨_,_,rfl,⟨0,.publicOneShot,"b","t",1⟩,.head _,rfl,asleep rfl _ (.head _) rfl⟩

end P2pstream.StreamCapacityWakeup
