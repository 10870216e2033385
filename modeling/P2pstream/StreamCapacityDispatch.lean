import P2pstream.StreamCapacityQueues

/-! `dispatchLocked` as a sequence of services. One pass either serves the first
key in the rotation with a waiter to act on, or finds none; the loop stops after
at most as many services as there are waiters, in a ledger where no queued waiter
can be granted.
-/
namespace P2pstream.StreamCapacityDispatch
open Library.RoundRobin List Kernel.StreamCapacity.Manager
open Kernel.StreamCapacity Semantics.StreamCapacity
open StreamCapacityQueues

/-- Dispatch acts on a waiter whose context has ended or that can be granted. -/
def Ready (expired : Waiter → Bool) (m : Manager) (waiter : Waiter) : Prop :=
  expired waiter = true ∨ m.canGrantLocked waiter.capacityClass waiter.sessionKey = true

def atCursor (m : Manager) (cursor : Nat) : Manager := { m with nextQueueKey := cursor }

theorem firstReady_atCursor (expired : Waiter → Bool) (m : Manager) (cursor index : Nat) (key : String) :
    (atCursor m cursor).firstReady expired index ((atCursor m cursor).queue key) =
      m.firstReady expired index (m.queue key) := by
  change (atCursor m cursor).firstReady expired index (m.queue key) = _
  generalize m.queue key = items
  induction items generalizing index with
  | nil => rfl
  | cons _ _ ih =>
    unfold firstReady
    rw [ih]
    rfl

variable {expired : Waiter → Bool} {m : Manager} {cursor : Nat}

theorem firstReady_none {index : Nat} {items : List Waiter} (none : m.firstReady expired index items = none) :
    ∀ waiter ∈ items, ¬ Ready expired m waiter := by
  induction items generalizing index with
  | nil => simp
  | cons _ _ ih =>
    unfold firstReady at none
    split at none
    · cases none
    · rename_i idle
      intro other mem
      rcases mem_cons.mp mem with rfl | later
      · simpa [Ready] using idle
      · exact ih none other later

theorem firstReady_some {index position : Nat} {items : List Waiter} {waiter : Waiter}
    (found : m.firstReady expired index items = some (position,waiter)) :
    ∃ front back, items = front ++ waiter :: back ∧ position = index + front.length ∧
      Ready expired m waiter ∧ ∀ other ∈ front, ¬ Ready expired m other := by
  induction items generalizing index with
  | nil => simp [firstReady] at found
  | cons first rest ih =>
    unfold firstReady at found
    split at found
    · rename_i ready
      obtain ⟨rfl,rfl⟩ := found
      exact ⟨[],rest,rfl,rfl,by simpa [Ready] using ready,by simp⟩
    · rename_i idle
      obtain ⟨front,back,rfl,rfl,ready,skipped⟩ := ih found
      refine ⟨first :: front,back,rfl,?_,ready,?_⟩
      · simp only [length_cons]
        omega
      · intro other mem
        rcases mem_cons.mp mem with rfl | later
        · simpa [Ready] using idle
        · exact skipped other later

/-- One service of dispatch: the first waiter to act on of the first key in the
rotation that has one. -/
structure Service (expired : Waiter → Bool) (m : Manager) where
  before : List String
  key : String
  after : List String
  cursor : Nat
  front : List Waiter
  waiter : Waiter
  back : List Waiter
  order : turn m = before ++ key :: after
  skipped : ∀ other ∈ before, ∀ waiter ∈ m.queue other, ¬ Ready expired m waiter
  inside : CursorInside m.queueKeys cursor
  rotated : turn (atCursor m cursor) = key :: (after ++ before)
  held : m.queue key = front ++ waiter :: back
  passed : ∀ other ∈ front, ¬ Ready expired m other
  ready : Ready expired m waiter

def Service.outcome {expired : Waiter → Bool} {m : Manager} (s : Service expired m) : Manager × Event :=
  (atCursor m s.cursor).serveWaiter expired s.cursor s.front.length s.waiter

structure Idle (expired : Waiter → Bool) (m : Manager) (cursor : Nat) : Prop where
  nobody : ∀ key ∈ turn m, ∀ waiter ∈ m.queue key, ¬ Ready expired m waiter
  inside : CursorInside m.queueKeys cursor
  rotated : turn (atCursor m cursor) = turn m

theorem scan_from (expired : Waiter → Bool) (line : Line (queueState m)) (ahead passed : List String)
    (cursor : Nat) (inside : CursorInside m.queueKeys cursor) (whole : turn m = passed ++ ahead)
    (order : turn (atCursor m cursor) = ahead ++ passed)
    (idle : ∀ key ∈ passed, ∀ waiter ∈ m.queue key, ¬ Ready expired m waiter) :
    (∃ s : Service expired m, scanKeys expired ahead.length (atCursor m cursor) = (s.outcome.1,some s.outcome.2)) ∨
      ∃ last, scanKeys expired ahead.length (atCursor m cursor) = (atCursor m last,none) ∧ Idle expired m last := by
  -- The induction follows the pass: `passed` grows by the key at the cursor.
  induction ahead generalizing passed cursor with
  | nil =>
    right
    refine ⟨cursor,rfl,?_,inside,?_⟩
    · rw [whole]
      simpa using idle
    · rw [order,whole]
      simp
  | cons key rest ih =>
    have found : m.queueKeys[cursor]? = some key := cursor_key (m := atCursor m cursor) { line with cursor := inside } order
    have bound := (List.getElem?_eq_some_iff.mp found).1
    have current : m.queueKeys.getD cursor "" = key := by
      rw [getD_eq_getElem?_getD,found]
      rfl
    have listed : key ∈ m.queueKeys := by
      rw [← mem_turn,whole]
      simp
    have occupied : (m.queue key).isEmpty = false := by
      have some : m.queue key ≠ [] := line.occupied key ((line.listed key).mp listed)
      simpa using some
    have within : ¬ (atCursor m cursor).nextQueueKey ≥ (atCursor m cursor).queueKeys.length := by
      simpa [atCursor] using bound
    have here : (atCursor m cursor).queueKeys.getD (atCursor m cursor).nextQueueKey "" = key := current
    have some : ¬ ((atCursor m cursor).queue key).isEmpty := by
      change ¬ (m.queue key).isEmpty
      simp [occupied]
    rw [length_cons,scanKeys]
    simp only [if_neg within,here,if_neg some,firstReady_atCursor]
    cases found : m.firstReady expired 0 (m.queue key) with
    | some pair =>
      obtain ⟨_,waiter⟩ := pair
      obtain ⟨front,back,held,rfl,ready,skipped⟩ := firstReady_some found
      left
      refine ⟨⟨passed,key,rest,cursor,front,waiter,back,whole,idle,inside,order,held,skipped,ready⟩,?_⟩
      simp [Service.outcome,atCursor]
    | none =>
      apply ih (passed ++ [key])
      · left
        exact Nat.mod_lt _ (by omega)
      · rw [whole]
        simp
      · have next := rotate_succ m.queueKeys cursor key (rest ++ passed) order
        simpa [turn,atCursor] using next
      · intro other mem
        rcases mem_append.mp mem with early | last
        · exact idle other early
        · rw [mem_singleton.mp last]
          exact firstReady_none found

theorem service_key (line : Line (queueState m)) (s : Service expired m) : s.waiter.queueKey = s.key := by
  apply line.owned
  change s.waiter ∈ m.queue s.key
  rw [s.held]
  simp

theorem service_member (s : Service expired m) : s.waiter ∈ m.queuedWaiters := by
  apply (mem_waiting m.queues s.waiter).mpr
  refine ⟨s.key,?_⟩
  change s.waiter ∈ m.queue s.key
  rw [s.held]
  simp

def granting {expired : Waiter → Bool} {m : Manager} (s : Service expired m) (keys : List String) (cursor : Nat) :
    Manager × Lease :=
  (without m s.key (s.front ++ s.back) keys cursor).grantLocked s.waiter.capacityClass s.waiter.queueKey
    s.waiter.sessionKey

section

variable (line : Line (queueState m)) (s : Service expired m)
include line s

theorem service_cases : ∃ keys cursor, CursorInside keys cursor ∧ ((expired s.waiter ∧
        keys.rotate cursor = turnAfterPop s.key (s.after ++ s.before) (s.front ++ s.back).isEmpty false ∧
        ∃ constraint, s.outcome = ((without (m.recordRejectionLocked constraint) s.key (s.front ++ s.back) keys
          cursor).setStatus s.waiter.id (.canceled constraint),.expire s.waiter)) ∨
      (expired s.waiter = false ∧ m.canGrantLocked s.waiter.capacityClass s.waiter.sessionKey ∧
        keys.rotate cursor = turnAfterPop s.key (s.after ++ s.before) (s.front ++ s.back).isEmpty true ∧
        ∃ left, left = (granting s keys cursor).1.setStatus s.waiter.id (.granted (some (granting s keys cursor).2.id)) ∧
          s.outcome = (left,.grant (atCursor m s.cursor) (granting s keys cursor).2 (some s.waiter) left))) := by
  by_cases ended : expired s.waiter
  · set constraint := (atCursor m s.cursor).blockingConstraintLocked s.waiter.capacityClass s.waiter.sessionKey
      with blocked
    have moved : Line (queueState ((atCursor m s.cursor).recordRejectionLocked constraint)) := { line with cursor := s.inside }
    obtain ⟨keys,cursor,popped,inside,order⟩ := pop_eq moved s.rotated s.held false
    refine ⟨keys,cursor,inside,Or.inl ⟨ended,order,constraint,?_⟩⟩
    unfold Service.outcome serveWaiter
    rw [if_pos ended]
    have poppedHere : ((atCursor m s.cursor).recordRejectionLocked constraint).popQueueEntryLocked s.cursor
        s.front.length false = without (m.recordRejectionLocked constraint) s.key (s.front ++ s.back) keys cursor :=
      popped
    simp only [← blocked,poppedHere]
  · have moved : Line (queueState (atCursor m s.cursor)) := { line with cursor := s.inside }
    obtain ⟨keys,cursor,popped,inside,order⟩ := pop_eq moved s.rotated s.held true
    have able : m.canGrantLocked s.waiter.capacityClass s.waiter.sessionKey := s.ready.resolve_left ended
    refine ⟨keys,cursor,inside,Or.inr ⟨by simpa using ended,able,order,_,rfl,?_⟩⟩
    have poppedHere : (atCursor m s.cursor).popQueueEntryLocked s.cursor s.front.length true =
        without m s.key (s.front ++ s.back) keys cursor := popped
    unfold Service.outcome serveWaiter
    rw [if_neg ended]
    simp only [poppedHere]
    rfl

theorem service_turn (emptied advance : Bool)
    {keys : List String} (order : keys.rotate cursor = turnAfterPop s.key (s.after ++ s.before) emptied advance) :
    keys.Nodup ∧ ∀ key, key ∈ keys ↔ key ∈ m.queueKeys ∧ (key = s.key → emptied = false) := by
  have distinct := turn_nodup line
  rw [s.order] at distinct
  have rest : (s.key :: (s.after ++ s.before)).Nodup := by
    have swap : (s.before ++ s.key :: s.after).Perm (s.key :: (s.after ++ s.before)) := (perm_append_comm).trans (by simp)
    exact swap.nodup_iff.mp distinct
  have fresh := (nodup_cons.mp rest).1
  have perm : (turnAfterPop s.key (s.after ++ s.before) emptied advance).Perm
      (if emptied then s.after ++ s.before else s.key :: (s.after ++ s.before)) := by
    unfold turnAfterPop
    cases emptied with
    | true => simp
    | false =>
      cases advance with
      | false => simp
      | true => exact perm_append_singleton s.key (s.after ++ s.before)
  constructor
  · rw [← nodup_rotate,order,perm.nodup_iff]
    split
    · exact (nodup_cons.mp rest).2
    · exact rest
  · intro _
    rw [← mem_rotate,order,perm.mem_iff,← mem_turn m,s.order]
    cases emptied with
    | false =>
      simp
      tauto
    | true =>
      simp only [mem_append] at fresh
      simp only [if_true,mem_append,mem_cons]
      constructor
      · intro mem
        exact ⟨by tauto,fun same => absurd (same ▸ mem) fresh⟩
      · tauto

theorem line_service : Line (queueState s.outcome.1) := by
  have own := service_key line s
  have held : queueOf (queueState m).queues s.waiter.queueKey = s.front ++ s.waiter :: s.back := by
    rw [own]
    exact s.held
  obtain ⟨keys,cursor,inside,⟨_,order,constraint,done⟩ | ⟨_,_,order,_,leaves,done⟩⟩ := service_cases line s
  all_goals
    obtain ⟨distinct,kept⟩ := service_turn line s _ _ order
    have kept' : ∀ key, key ∈ keys ↔ key ∈ (queueState m).queueKeys ∧ (key = s.waiter.queueKey → s.front ++ s.back ≠ []) := by
      intro key
      rw [kept key,own]
      simp [queueState]
    rw [done]
  · have result := line_remove line held inside (.canceled constraint) (by simp) distinct kept'
    rw [own] at result
    exact result
  · have result := line_remove line held inside (.granted (some (granting s keys cursor).2.id)) (by simp) distinct kept'
    rw [own] at result
    rw [leaves]
    exact result

theorem service_waiters : s.outcome.1.waiters = m.waiters - 1 := by
  obtain ⟨_,_,_,⟨_,_,_,done⟩ | ⟨_,_,_,_,leaves,done⟩⟩ := service_cases line s
  · rw [done]
    rfl
  · rw [done,leaves]
    rfl

end

/-- No queued waiter can be granted. -/
def Settled (m : Manager) : Prop :=
  ∀ waiter ∈ m.queuedWaiters, m.canGrantLocked waiter.capacityClass waiter.sessionKey = false

/-- An invariant of the loop over the events it has produced and the manager, whatever the
contexts are at its looks. -/
structure Rule (err : Nat → Waiter → Bool) (invariant : List Event → Manager → Prop) : Prop where
  line : ∀ seen m, invariant seen m → Line (queueState m)
  move : ∀ seen m cursor, invariant seen m → CursorInside m.queueKeys cursor → turn (atCursor m cursor) = turn m →
    invariant seen (atCursor m cursor)
  serve : ∀ pass seen m (s : Service (err pass) m), invariant seen m → invariant (seen ++ [s.outcome.2]) s.outcome.1

theorem settled_idle (line : Line (queueState m)) (idle : Idle expired m cursor) : Settled (atCursor m cursor) := by
  intro waiter mem
  obtain ⟨listed,held⟩ := queued_listed line mem
  have unready := idle.nobody waiter.queueKey ((mem_turn m waiter.queueKey).mpr listed) waiter held
  exact Bool.eq_false_iff.mpr (unready ∘ .inr)

theorem settled_empty (line : Line (queueState m)) (nobody : ¬ (m.waiters > 0 ∧ m.queueKeys.length > 0)) : Settled m := by
  intro _ mem
  have counted : m.waiters = m.queuedWaiters.length := line.counted
  have some : 0 < m.queuedWaiters.length := length_pos_of_mem mem
  exact absurd ⟨by omega,length_pos_of_mem (queued_listed line mem).1⟩ nobody

variable {err : Nat → Waiter → Bool}

theorem dispatchLoop_rule {invariant : List Event → Manager → Prop} (rule : Rule err invariant) (fuel : Nat)
    (seen : List Event) (m : Manager) (holds : invariant seen m) (enough : m.queuedWaiters.length < fuel) :
    ∃ left events, dispatchLoop err fuel m = some (left,events) ∧ invariant (seen ++ events) left ∧ Settled left := by
  induction fuel generalizing err seen m with
  | zero => omega
  | succ _ ih =>
    have line := rule.line seen m holds
    by_cases busy : m.waiters > 0 ∧ m.queueKeys.length > 0
    · have pass := scan_from (err 0) line (turn m) [] m.nextQueueKey line.cursor (by simp) (by simp [turn,atCursor]) (by simp)
      rw [turn,length_rotate,show atCursor m m.nextQueueKey = m from rfl] at pass
      rcases pass with ⟨s,pass⟩ | ⟨last,pass,idle⟩
      · have before : m.waiters = m.queuedWaiters.length := line.counted
        have after : s.outcome.1.waiters = s.outcome.1.queuedWaiters.length := (line_service line s).counted
        have fewer := service_waiters line s
        obtain ⟨left,events,finishes,kept,settled⟩ := ih { rule with serve := fun pass => rule.serve (pass + 1) }
          (seen ++ [s.outcome.2]) s.outcome.1 (rule.serve 0 seen m s holds) (by omega)
        refine ⟨left,s.outcome.2 :: events,?_,by simpa using kept,settled⟩
        rw [dispatchLoop,if_pos busy,pass]
        simp [finishes]
      · refine ⟨atCursor m last,[],?_,?_,settled_idle line idle⟩
        · rw [dispatchLoop,if_pos busy,pass]
        · simpa using rule.move seen m last holds idle.inside idle.rotated
    · refine ⟨m,[],?_,by simpa using holds,settled_empty line busy⟩
      rw [dispatchLoop,if_neg busy]

theorem dispatch_rule {invariant : List Event → Manager → Prop} (rule : Rule err invariant) (seen : List Event)
    (holds : invariant seen m) :
    invariant (seen ++ (dispatchLocked err m).2) (dispatchLocked err m).1 ∧
      (m.adaptiveSampling ≤ 0 → Settled (dispatchLocked err m).1) := by
  unfold dispatchLocked
  split
  · exact ⟨by simpa using holds,by omega⟩
  · obtain ⟨_,_,finishes,kept,settled⟩ := dispatchLoop_rule rule m.dispatchFuel seen m holds
      (by unfold dispatchFuel; omega)
    rw [finishes]
    exact ⟨kept,fun _ => settled⟩

theorem dispatch_rule_each {invariant : Manager → Prop} {observed : Event → Prop}
    (line : ∀ m, invariant m → Line (queueState m))
    (move : ∀ m cursor, invariant m → CursorInside m.queueKeys cursor → invariant (atCursor m cursor))
    (serve : ∀ expired m (s : Service expired m), invariant m → invariant s.outcome.1 ∧ observed s.outcome.2)
    (holds : invariant m) :
    invariant (dispatchLocked err m).1 ∧ (∀ event ∈ (dispatchLocked err m).2, observed event) ∧
      (m.adaptiveSampling ≤ 0 → Settled (dispatchLocked err m).1) := by
  have rule : Rule err fun seen m => invariant m ∧ ∀ event ∈ seen, observed event := by
    refine ⟨fun _ m holds => line m holds.1,fun _ m cursor holds inside _ => ⟨move m cursor holds.1 inside,holds.2⟩,?_⟩
    intro pass seen m s holds
    obtain ⟨kept,now⟩ := serve (err pass) m s holds.1
    refine ⟨kept,?_⟩
    intro event mem
    rcases mem_append.mp mem with old | new
    · exact holds.2 event old
    · rw [mem_singleton.mp new]
      exact now
  obtain ⟨⟨kept,seen⟩,settled⟩ := dispatch_rule rule [] ⟨holds,by simp⟩
  exact ⟨kept,by simpa using seen,settled⟩

end P2pstream.StreamCapacityDispatch
