import P2pstream.StreamCapacityRuns

/-! Bounded bypass between queue keys. A key that joins the rotation is appended
to the key list, not to the turn; with the cursor inside the list it stands ahead
of keys that wait longer, and a key that empties and returns overtakes them. Fair
dispatch holds in runs where keys join with the cursor at the front and where no
dispatch drops a waiter, because its context has ended or ends meanwhile.
-/
namespace P2pstream.StreamCapacityFairness
open Library Library.RoundRobin Library.Transitions List Kernel.StreamCapacity.Manager
open Kernel.AdaptiveMemory Kernel.StreamCapacity Semantics.StreamCapacity
open StreamCapacityLedger StreamCapacityQueues StreamCapacityDispatch
open StreamCapacitySteps
open StreamCapacityInvariant StreamCapacityRuns

/-- What a run shows: the events of every step and the manager it leaves. -/
inductive Moment where
  | event (event : Event)
  | state (m : Manager)

def moments (step : List Event × System) : List Moment := step.1.map .event ++ [.state step.2.manager]

def timeline (steps : List (List Event × System)) : List Moment := steps.flatMap moments

def Moment.servedKey : Moment → Option String
  | .event (.grant _ _ (some waiter) _) => some waiter.queueKey
  | _ => none

def Moment.waits (key : String) : Moment → Bool
  | .event (.grant decided _ _ left) => !(decided.queue key).isEmpty && !(left.queue key).isEmpty
  | .event (.reserve decided left) => !(decided.queue key).isEmpty && !(left.queue key).isEmpty
  | .event _ => true
  | .state m => !(m.queue key).isEmpty

def headEligible (m : Manager) (key : String) : Bool := match m.queue key with
  | [] => false
  | waiter :: _ => m.canGrantLocked waiter.capacityClass waiter.sessionKey

/-- The head of the key's queue could have been granted when the grant was made. -/
def Moment.eligible (key : String) : Moment → Bool
  | .event (.grant decided _ _ _) => headEligible decided key
  | _ => true

/-- Between two consecutive dispatch grants to one key, every other key that waits
throughout and is eligible at every grant is served. -/
def Fair (past : List Moment) : Prop := ∀ (served waiting : String) (before between after : List Moment) (first last : Moment),
    past = before ++ first :: (between ++ last :: after) → waiting ≠ served →
    first.servedKey = some served → last.servedKey = some served →
    (∀ moment ∈ between, moment.servedKey ≠ some served) →
    (∀ moment ∈ first :: (between ++ [last]), moment.waits waiting = true) →
    (∀ moment ∈ between ++ [last], moment.eligible waiting = true) →
    ∃ moment ∈ between, moment.servedKey = some waiting

def mayDispatch : Input → Bool
  | .acquire .. | .cancelWaiter .. | .markLive .. | .markClosing .. | .release .. | .registerSession ..
  | .unregisterSession .. | .releaseReservation .. | .refreshFinish .. => true
  | _ => false

/-- A caller joins a key without waiters only while the cursor is at the front, and no look
of the dispatch finds the context of a waiter ended. -/
structure InTurn (s : System) (input : Input) : Prop where
  joins : ∀ ctx c queueKey sessionKey, input = .acquire ctx c queueKey sessionKey →
    Joins s ctx c queueKey sessionKey → s.manager.queue queueKey = [] → s.manager.nextQueueKey = 0
  prompt : mayDispatch input = true → ∀ waiter ∈ s.manager.queuedWaiters, ∀ pass, s.err pass waiter = true →
    input = .cancelWaiter waiter
  running : ∀ ctx c queueKey sessionKey, input = .acquire ctx c queueKey sessionKey →
    ∀ pass, (pass,s.manager.nextWaiterID) ∉ s.late

variable {moment : Moment}

section Watch

variable (served waiting : String)

/-- Whether `waiting` still waits for its turn since the last grant to `served`. -/
def watch (pending : Prop) (moment : Moment) : Prop := moment.waits waiting = true ∧ (moment.servedKey = some served ∨
    (pending ∧ moment.servedKey ≠ some waiting ∧ moment.eligible waiting = true))

def Pending (past : List Moment) : Prop := past.foldl (watch served waiting) False

/-- A grant to `served` while `waiting` could have been granted. -/
def overtakes (moment : Moment) : Bool := moment.servedKey = some served && moment.waits waiting && moment.eligible waiting

def NeverOvertaken (past : List Moment) : Prop :=
  ∀ before moment after, past = before ++ moment :: after → Pending served waiting before →
    overtakes served waiting moment = false

/-- `waiting` is in the rotation and `served` does not come before it. -/
def Ahead (m : Manager) : Prop := ∃ front back, turn m = front ++ waiting :: back ∧ served ∉ front

variable {served waiting}

theorem pending_append (past : List Moment) (moment : Moment) :
    Pending served waiting (past ++ [moment]) ↔ watch served waiting (Pending served waiting past) moment := by
  unfold Pending
  rw [foldl_append]
  rfl

theorem neverOvertaken_append {past : List Moment} (never : NeverOvertaken served waiting past)
    (now : Pending served waiting past → overtakes served waiting moment = false) :
    NeverOvertaken served waiting (past ++ [moment]) :=
  judged_append.mpr ⟨never,by simpa using now⟩

theorem pending_interval {before between : List Moment} {first : Moment}
    (served_first : first.servedKey = some served) (waits : ∀ moment ∈ first :: between, moment.waits waiting)
    (eligible : ∀ moment ∈ between, moment.eligible waiting)
    (unserved : ∀ moment ∈ between, moment.servedKey ≠ some waiting) :
    Pending served waiting (before ++ first :: between) := by
  induction between using reverseRecOn with
  | nil =>
    rw [pending_append]
    exact ⟨waits first (.head _),Or.inl served_first⟩
  | append_singleton between moment ih =>
    have inside : moment ∈ between ++ [moment] := by simp
    have earlier : Pending served waiting (before ++ first :: between) := by
      apply ih
      · intro other mem
        exact waits other (by simp only [mem_cons,mem_append] at mem ⊢; tauto)
      · exact fun other mem => eligible other (mem_append_left _ mem)
      · exact fun other mem => unserved other (mem_append_left _ mem)
    rw [← cons_append,← append_assoc,pending_append]
    exact ⟨waits moment (mem_cons_of_mem _ inside),Or.inr ⟨earlier,unserved moment inside,eligible moment inside⟩⟩

end Watch

theorem fair_of_neverOvertaken {past : List Moment}
    (never : ∀ served waiting, waiting ≠ served → NeverOvertaken served waiting past) : Fair past := by
  intro served waiting before between after first last split different served_first served_last _ waits eligible
  by_contra none
  have unserved : ∀ moment ∈ between, moment.servedKey ≠ some waiting := by
    intro moment mem grants
    exact none ⟨moment,mem,grants⟩
  have pending : Pending served waiting (before ++ first :: between) := by
    apply pending_interval served_first ?_ (fun moment mem => eligible moment (mem_append_left _ mem)) unserved
    intro moment mem
    exact waits moment (by simp only [mem_cons,mem_append] at mem ⊢; tauto)
  have safe := never served waiting different (before ++ first :: between) last after (by simp [split]) pending
  have overtaken : overtakes served waiting last := by
    simp [overtakes,served_last,waits last (by simp),eligible last (by simp)]
  rw [safe] at overtaken
  cases overtaken

variable {front back before after : List String} {key : String} {waiter : Waiter}

section Service

variable {served waiting : String}

theorem split_apart (different : waiting ≠ key) (order : front ++ waiting :: back = before ++ key :: after) :
    (∃ rest, before = front ++ waiting :: rest) ∨ ∃ rest, front = before ++ key :: rest ∧ after = rest ++ waiting :: back := by
  rcases append_eq_append_iff.mp order with ⟨rest,rfl,tail⟩ | ⟨rest,rfl,tail⟩
  · cases rest with
    | nil => exact absurd (cons.inj tail).1 different
    | cons _ rest => exact .inl ⟨rest,by rw [(cons.inj tail).1]⟩
  · cases rest with
    | nil => exact absurd (cons.inj tail).1.symm different
    | cons _ rest => exact .inr ⟨rest,by rw [(cons.inj tail).1],(cons.inj tail).2⟩

variable {expired : Waiter → Bool} {m : Manager}

theorem ready_head (s : Service expired m) (eligible : headEligible m waiting) : waiting ∉ s.before := by
  intro passed
  unfold headEligible at eligible
  cases queue : m.queue waiting with
  | nil => simp [queue] at eligible
  | cons head =>
    rw [queue] at eligible
    exact s.skipped waiting passed head (by simp [queue]) (Or.inr eligible)

theorem ahead_after_served (line : Line (queueState m)) (s : Service expired m) (own : s.key = served)
    (different : waiting ≠ served) (waits : m.queue waiting ≠ []) (emptied : Bool) :
    ∃ front back, turnAfterPop s.key (s.after ++ s.before) emptied true = front ++ waiting :: back ∧ served ∉ front := by
  have listed : waiting ∈ s.after ++ s.before := by
    have mem := (mem_turn m waiting).mpr ((queue_listed line waiting).mpr waits)
    rw [s.order,own] at mem
    simp only [mem_append,mem_cons,different,false_or] at mem ⊢
    exact mem.symm
  have absent : served ∉ s.after ++ s.before := by
    have distinct := turn_nodup line
    rw [s.order,own] at distinct
    have swap : (s.before ++ served :: s.after).Perm (served :: (s.after ++ s.before)) := (perm_append_comm).trans (by simp)
    exact (nodup_cons.mp (swap.nodup_iff.mp distinct)).1
  obtain ⟨front,back,split⟩ := append_of_mem listed
  have clear : served ∉ front := fun mem => absent (by rw [split]; simp [mem])
  unfold turnAfterPop
  rw [split]
  cases emptied with
  | true => exact ⟨front,back,rfl,clear⟩
  | false => exact ⟨front,back ++ [s.key],by simp,clear⟩

theorem ahead_after_other (s : Service expired m) (different : waiting ≠ s.key) (ahead : Ahead served waiting m)
    (kept : waiting ∉ s.before) (emptied : Bool) :
    ∃ front back, turnAfterPop s.key (s.after ++ s.before) emptied true = front ++ waiting :: back ∧ served ∉ front := by
  obtain ⟨_,rest,order,absent⟩ := ahead
  rw [s.order] at order
  rcases split_apart different order.symm with ⟨_,before⟩ | ⟨start,rfl,split⟩
  · simp [before] at kept
  have clear : served ∉ start := fun mem => absent (by simp [mem])
  unfold turnAfterPop
  rw [split]
  cases emptied with
  | true => exact ⟨start,rest ++ s.before,by simp,clear⟩
  | false => exact ⟨start,rest ++ s.before ++ [s.key],by simp,clear⟩

/-- Nobody was overtaken so far, and a pending key is ahead of the served one. -/
structure Watched (served waiting : String) (past : List Moment) (m : Manager) : Prop where
  never : NeverOvertaken served waiting past
  ahead : Pending served waiting past → m.queue waiting ≠ [] → Ahead served waiting m

theorem overtakes_false (other : moment.servedKey ≠ some served) : overtakes served waiting moment = false := by
  simp [overtakes,other]

variable {past : List Moment}

theorem watched_granted (different : waiting ≠ served) (line : Line (queueState m)) (s : Service expired m)
    (watched : Watched served waiting past m) {lease : Lease} {left : Manager} (emptied : Bool)
    (order : turn left = turnAfterPop s.key (s.after ++ s.before) emptied true) :
    Watched served waiting (past ++ [.event (.grant (atCursor m s.cursor) lease (some s.waiter) left)]) left := by
  have own := service_key line s
  have key : (Moment.event (.grant (atCursor m s.cursor) lease (some s.waiter) left)).servedKey = some s.key :=
    congrArg some own
  constructor
  · apply neverOvertaken_append watched.never
    intro pending
    by_contra overtaken
    simp only [overtakes,Bool.not_eq_false,Bool.and_eq_true,decide_eq_true_eq,key,Option.some.injEq,Moment.waits,
      Moment.eligible,Bool.not_eq_true',isEmpty_eq_false_iff] at overtaken
    obtain ⟨⟨same,waits,_⟩,eligible⟩ := overtaken
    -- The waiting key is ahead, so the pass met it first and would have served it.
    obtain ⟨front,back,now,absent⟩ := watched.ahead pending waits
    rw [s.order,same] at now
    apply ready_head s eligible
    rcases split_apart different now.symm with ⟨_,split⟩ | ⟨_,rfl,_⟩
    · simp [split]
    · simp at absent
  · intro pending _
    rw [pending_append] at pending
    unfold watch at pending
    rw [key] at pending
    simp only [Moment.waits,Bool.and_eq_true,Bool.not_eq_true',isEmpty_eq_false_iff,Option.some.injEq,ne_eq,
      Moment.eligible] at pending
    obtain ⟨⟨waits,_⟩,same | ⟨earlier,other,eligible⟩⟩ := pending
    · obtain ⟨front,back,now,clear⟩ := ahead_after_served line s same different waits emptied
      exact ⟨front,back,order.trans now,clear⟩
    · obtain ⟨front,back,now,clear⟩ := ahead_after_other s (Ne.symm other) (watched.ahead earlier waits)
        (ready_head s eligible) emptied
      exact ⟨front,back,order.trans now,clear⟩

theorem queued_service (line : Line (queueState m)) (s : Service expired m)
    (mem : waiter ∈ s.outcome.1.queuedWaiters) : waiter ∈ m.queuedWaiters := by
  have inside : waiter ∈ waiting (put m.queues s.key (s.front ++ s.back)) := by
    obtain ⟨_,_,_,⟨_,_,_,done⟩ | ⟨_,_,_,_,leaves,done⟩⟩ := service_cases line s
    · rw [done] at mem
      exact mem
    · rw [done,leaves] at mem
      exact mem
  rw [waiting_put] at inside
  have whole := waiting_perm m.queues s.key
  rw [show queueOf m.queues s.key = s.front ++ s.waiter :: s.back from s.held] at whole
  refine whole.mem_iff.mpr ?_
  simp only [mem_append,mem_cons] at inside ⊢
  tauto

theorem watched_dispatch (different : waiting ≠ served) (line : Line (queueState m)) (err : Nat → Waiter → Bool)
    (prompt : ∀ waiter ∈ m.queuedWaiters, ∀ pass, err pass waiter = false) (watched : Watched served waiting past m) :
    Watched served waiting (past ++ (dispatchLocked err m).2.map .event) (dispatchLocked err m).1 := by
  have rule : Rule err fun seen n => Line (queueState n) ∧ (∀ waiter ∈ n.queuedWaiters, ∀ pass, err pass waiter = false) ∧
      Watched served waiting (past ++ seen.map .event) n := by
    refine ⟨fun _ _ holds => holds.1,?_,?_⟩
    · intro seen n cursor holds inside same
      obtain ⟨line,prompt,watched⟩ := holds
      refine ⟨{ line with cursor := inside },prompt,watched.never,fun pending waits => ?_⟩
      obtain ⟨front,back,order,absent⟩ := watched.ahead pending waits
      exact ⟨front,back,same.trans order,absent⟩
    · intro pass _ _ s holds
      obtain ⟨line,prompt,watched⟩ := holds
      refine ⟨line_service line s,fun waiter mem => prompt waiter (queued_service line s mem),?_⟩
      obtain ⟨_,_,_,⟨ended,_⟩ | ⟨_,_,order,_,leaves,done⟩⟩ := service_cases line s
      · rw [prompt s.waiter (service_member s) pass] at ended
        cases ended
      · rw [done,map_append,← append_assoc]
        refine watched_granted different line s watched (s.front ++ s.back).isEmpty ?_
        rw [leaves]
        exact order
  obtain ⟨⟨_,_,kept⟩,_⟩ := dispatch_rule rule [] ⟨line,prompt,by simpa using watched⟩
  simpa using kept

end Service

section Steps

variable {served waiting : String} {past : List Moment} {s : System}

variable {m : Manager}

variable {other : Manager} {input : Input} {events : List Event}

theorem watched_congr (watched : Watched served waiting past m)
    (same : queueState other = queueState m) : Watched served waiting past other := by
  obtain ⟨queues,keys,cursor,_⟩ := QueueState.mk.inj same
  refine ⟨watched.never,fun pending waits => ?_⟩
  unfold queue at waits
  rw [queues] at waits
  unfold Ahead turn
  rw [keys,cursor]
  exact watched.ahead pending waits

theorem watched_idle (watched : Watched served waiting past m) (moment : Moment)
    (idle : moment.servedKey = none) : Watched served waiting (past ++ [moment]) m := by
  constructor
  · exact neverOvertaken_append watched.never fun _ => overtakes_false (by simp [idle])
  · intro pending
    rw [pending_append] at pending
    obtain ⟨_,now | ⟨earlier,_,_⟩⟩ := pending
    · rw [idle] at now
      cases now
    · exact watched.ahead earlier

theorem turn_joined {ctx : Nat} {c : CapacityClass} {queueKey sessionKey : String}
    (front : m.queue queueKey = [] → m.nextQueueKey = 0) :
    turn (m.newWaiter ctx c queueKey sessionKey).1 = turn m ∨
      turn (m.newWaiter ctx c queueKey sessionKey).1 = turn m ++ [queueKey] := by
  obtain ⟨_,keys,cursor,_⟩ := QueueState.mk.inj (queueState_newWaiter m ctx c queueKey sessionKey)
  change _ = m.nextQueueKey at cursor
  unfold turn
  rw [keys,cursor]
  by_cases fresh : m.queue queueKey = []
  · right
    rw [front fresh]
    have empty : (queueOf (queueState m).queues queueKey).isEmpty := by
      change (m.queue queueKey).isEmpty
      simp [fresh]
    unfold keysWith
    rw [if_pos empty,rotate_zero,rotate_zero]
    rfl
  · left
    have occupied : ¬ (queueOf (queueState m).queues queueKey).isEmpty := by
      change ¬ (m.queue queueKey).isEmpty
      simp [fresh]
    unfold keysWith
    rw [if_neg occupied]
    rfl

theorem ahead_joined (ahead : Ahead served waiting m)
    (order : turn other = turn m ∨ turn other = turn m ++ [key]) : Ahead served waiting other := by
  obtain ⟨front,back,now,absent⟩ := ahead
  rcases order with same | longer
  · exact ⟨front,back,same.trans now,absent⟩
  · exact ⟨front,back ++ [key],by rw [longer,now]; simp,absent⟩

section

variable (line : Line (queueState m)) (mem : waiter ∈ m.queuedWaiters) (status : WaiterStatus)
include line mem status

theorem removed_queued {other : Waiter}
    (queued : other ∈ ((m.removeWaiterLocked waiter).setStatus waiter.id status).queuedWaiters) :
    other ∈ m.queuedWaiters ∧ other ≠ waiter := by
  obtain ⟨front,back,_,_,_,_,held,removed,_,_,_⟩ := removeWaiter_eq line (queued_listed line mem).2
  have inside : other ∈ waiting (put m.queues waiter.queueKey (front ++ back)) := by
    rw [removed] at queued
    exact queued
  have whole : (waiting m.queues).Perm
      (waiter :: waiting (put m.queues waiter.queueKey (front ++ back))) := by
    have perm := waiting_perm m.queues waiter.queueKey
    rw [show queueOf m.queues waiter.queueKey = front ++ waiter :: back from held] at perm
    rw [waiting_put]
    exact perm.trans (by simp)
  refine ⟨whole.mem_iff.mpr (mem_cons_of_mem _ inside),?_⟩
  rintro rfl
  have once := (whole.map Waiter.id).nodup_iff.mp line.once
  exact (nodup_cons.mp once).1 (mem_map_of_mem inside)

theorem watched_removed (watched : Watched served waiting past m)
    (waits : Pending served waiting past → m.queue waiting ≠ []) :
    Watched served waiting past ((m.removeWaiterLocked waiter).setStatus waiter.id status) := by
  obtain ⟨front,back,keys,cursor,before,after,held,removed,_,order,rotated⟩ :=
    removeWaiter_eq line (queued_listed line mem).2
  refine ⟨watched.never,fun pending later => ?_⟩
  obtain ⟨start,rest,now,absent⟩ := watched.ahead pending (waits pending)
  have left : turn ((m.removeWaiterLocked waiter).setStatus waiter.id status) =
      if (front ++ back).isEmpty then before ++ after else turn m := by
    rw [removed]
    exact rotated
  unfold Ahead
  rw [left]
  split
  · rename_i emptied
    have different : waiting ≠ waiter.queueKey := by
      rintro rfl
      apply later
      rw [removed]
      change queueOf (put m.queues waiter.queueKey (front ++ back)) waiter.queueKey = []
      rw [queueOf_put,if_pos rfl]
      exact isEmpty_iff.mp emptied
    rw [order] at now
    rcases split_apart different now.symm with ⟨_,split⟩ | ⟨_,rfl,later⟩
    · exact ⟨start,_,by rw [split,append_assoc,cons_append],absent⟩
    · refine ⟨_,rest,by rw [later,append_assoc],?_⟩
      intro mem
      apply absent
      simp only [mem_append,mem_cons] at mem ⊢
      tauto
  · exact ⟨start,rest,now,absent⟩

end

theorem watched_prepared (regular : Regular s.manager) (inTurn : InTurn s input)
    (watched : Watched served waiting past s.manager)
    (waits : Pending served waiting past → s.manager.queue waiting ≠ []) (prepared : Prepared s input m) :
    Watched served waiting past m ∧ ∀ waiter ∈ m.queuedWaiters, ∀ pass, s.err pass waiter = false := by
  have prompt (dispatches : mayDispatch input) (waiter : Waiter) (mem : waiter ∈ s.manager.queuedWaiters)
      (other : input ≠ .cancelWaiter waiter) (pass : Nat) : s.err pass waiter = false := by
    by_contra ended
    exact other (inTurn.prompt dispatches waiter mem pass (by simpa using ended))
  cases prepared with
  | joined ctx c queueKey sessionKey joins =>
    constructor
    · refine ⟨watched.never,fun pending _ => ?_⟩
      exact ahead_joined (watched.ahead pending (waits pending))
        (turn_joined fun fresh => inTurn.joins ctx c queueKey sessionKey rfl joins fresh)
    · intro waiter mem
      rcases mem_cons.mp ((newWaiter_perm s.manager ctx c queueKey sessionKey).mem_iff.mp mem) with rfl | old
      · intro pass
        have later := inTurn.running ctx c queueKey sessionKey rfl pass
        rw [System.err,Bool.or_eq_false_iff,decide_eq_false_iff_not]
        exact ⟨joins.running,later⟩
      · exact prompt rfl waiter old (by simp)
  | removed _ constraint _ _ mem =>
    have line : Line (queueState (s.manager.recordRejectionLocked constraint)) := regular.line
    have recorded : Watched served waiting past (s.manager.recordRejectionLocked constraint) := watched_congr watched rfl
    refine ⟨watched_removed line mem _ recorded waits,?_⟩
    intro other later
    obtain ⟨old,different⟩ := removed_queued line mem _ later
    exact prompt rfl other old (by simpa using Ne.symm different)
  | moved _ _ _ _ _ _ marks =>
    rw [move_eq]
    refine ⟨watched_congr watched rfl,fun waiter mem => ?_⟩
    rcases marks with rfl | rfl <;> exact prompt rfl waiter mem (by simp)
  | dropped =>
    rw [drop_eq]
    exact ⟨watched_congr watched rfl,fun waiter mem => prompt rfl waiter mem (by simp)⟩
  | registered | unregistered =>
    exact ⟨watched_congr watched rfl,fun waiter mem => prompt rfl waiter mem (by simp)⟩

theorem watched_immediate (watched : Watched served waiting past s.manager)
    (change : Immediate s m events) : Watched served waiting (past ++ events.map .event) m := by
  cases change with
  | unchanged => simpa using watched
  | rejected constraint =>
    have same : Watched served waiting past (s.manager.recordRejectionLocked constraint) := watched_congr watched rfl
    simpa using same
  | granted c queueKey sessionKey =>
    have same : Watched served waiting past (s.manager.grantLocked c queueKey sessionKey).1 := watched_congr watched rfl
    exact watched_idle same (.event (.grant _ _ none _)) rfl
  | collected =>
    refine ⟨by simpa using watched.never,?_⟩
    simpa [Ahead,turn,setStatus,queue] using watched.ahead

theorem publishedManager_queues (m : Manager) (refresh : Refresh) (next : Snapshot) :
    queueState (publishedManager m refresh next) = queueState m := by
  unfold publishedManager
  cases refresh.sampling <;> simp only [if_true,Bool.false_eq_true,if_false] <;> split <;> rfl

theorem watched_transition {next : System} (different : waiting ≠ served)
    (orderly : Orderly s) (inTurn : InTurn s input) (watched : Watched served waiting past s.manager)
    (waits : Pending served waiting past → s.manager.queue waiting ≠ []) (transition : Transition s input next events) :
    Watched served waiting (past ++ events.map .event) next.manager := by
  have prompt (dispatches : mayDispatch input) (other : ∀ waiter, input ≠ .cancelWaiter waiter) :
      ∀ waiter ∈ s.manager.queuedWaiters, ∀ pass, s.err pass waiter = false := by
    intro waiter mem pass
    by_contra ended
    exact other waiter (inTurn.prompt dispatches waiter mem pass (by simpa using ended))
  cases transition with
  | immediate _ _ _ change => exact watched_immediate watched change
  | dispatched _ _ prepared =>
    obtain ⟨kept,running⟩ := watched_prepared orderly.regular inTurn watched waits prepared
    exact watched_dispatch different (regular_prepared orderly.regular prepared).1.line s.err running kept
  | reserved r =>
    have same : Watched served waiting past (reservedManager s.manager r) := watched_congr watched rfl
    exact watched_idle same (.event (.reserve ..)) rfl
  | unreserved _ r =>
    have line : Line (queueState (unreservedManager s.manager r)) := orderly.regular.line
    exact watched_dispatch different line s.err (prompt rfl (by simp)) (watched_congr watched rfl)
  | published _ refresh next =>
    have same := publishedManager_queues s.manager refresh next
    refine watched_dispatch different (same ▸ orderly.regular.line) s.err ?_ (watched_congr watched same)
    intro waiter mem
    refine prompt rfl (by simp) waiter ?_
    have queues : (publishedManager s.manager refresh next).queues = s.manager.queues := congrArg QueueState.queues same
    unfold queuedWaiters at mem ⊢
    rwa [queues] at mem
  | _ =>
    rw [map_nil,append_nil]
    exact watched_congr watched rfl

end Steps

/-- In every run whose steps are in turn, dispatch is fair between keys. -/
theorem dispatch_fair_in_turn (config : CapacityConfig) (start : Manager)
    (made : newAgentStreamCapacityManager config = .ok start)
    (inputs : List Input) (inTurn : Meets System.step InTurn (System.initial start) inputs)
    (steps : List (List Event × System)) (ran : trace System.step (System.initial start) inputs = some steps) :
    Fair (timeline steps) := by
  apply fair_of_neverOvertaken
  intro served waiting different
  let follows (past : List (List Event × System)) (s : System) : Prop := Orderly s ∧
    Watched served waiting (timeline past) s.manager ∧ (Pending served waiting (timeline past) → s.manager.queue waiting ≠ [])
  have begins : follows [] (System.initial start) := by
    refine ⟨orderly_initial made,⟨?_,False.elim⟩,False.elim⟩
    intro _ _ _ empty
    simp [timeline] at empty
  obtain ⟨_,_,watched,_⟩ : ∃ final, follows ([] ++ steps) final := by
    refine trace_invariant ?_ begins inTurn ran
    intro past _ _ next events holds inTurn ok
    obtain ⟨orderly,watched,waits⟩ := holds
    have transition := step_transition ok
    have stepped := watched_transition different orderly inTurn watched waits transition
    have snoc : timeline (past ++ [(events,next)]) = timeline past ++ events.map .event ++ [.state next.manager] := by
      simp [timeline,moments]
    unfold follows
    rw [snoc]
    refine ⟨(orderly_transition orderly transition).1,watched_idle stepped (.state next.manager) rfl,?_⟩
    intro pending
    rw [pending_append] at pending
    simpa [Moment.waits] using pending.1
  simpa using watched.never

def inTurn (s : System) (input : Input) : Bool := (match input with
    | .acquire _ _ queueKey _ => !(s.manager.queue queueKey).isEmpty || s.manager.nextQueueKey = 0
    | _ => true) && s.late = [] && s.manager.queuedWaiters.all fun waiter => !s.expired waiter.ctx

theorem inTurn_sound (s : System) (input : Input) (checked : inTurn s input) : InTurn s input := by
  simp only [inTurn,Bool.and_eq_true,all_eq_true,Bool.not_eq_true',decide_eq_true_eq] at checked
  obtain ⟨⟨joins,punctual⟩,running⟩ := checked
  refine ⟨?_,?_,by simp [punctual]⟩
  · rintro _ _ _ _ rfl _ fresh
    simpa [fresh] using joins
  · intro _ waiter mem pass ended
    simp [System.err,running waiter mem,punctual] at ended

/-- Between its two grants `A` lets `X` pass. -/
theorem dispatch_fair_in_turn_alternating : ∃ steps, trace System.step (System.initial (emptyManager smallConfig))
      [.acquire 0 .publicOneShot "H" "H",.acquire 1 .publicOneShot "A" "A",.acquire 2 .publicOneShot "A" "A",
        .acquire 3 .publicOneShot "X" "X",.release 1,.release 2,.release 3] = some steps ∧
      Fair (timeline steps) := by
  have checked : checks System.step inTurn (System.initial (emptyManager smallConfig))
      [.acquire 0 .publicOneShot "H" "H",.acquire 1 .publicOneShot "A" "A",.acquire 2 .publicOneShot "A" "A",
        .acquire 3 .publicOneShot "X" "X",.release 1,.release 2,.release 3] := by decide
  exact ⟨_,rfl,dispatch_fair_in_turn smallConfig _ rfl _ (meets_of_checks inTurn_sound checked) _ rfl⟩

/-- The moment at `start` and the one `length` moments later are consecutive grants
to `served`; `waiting` waits and is eligible all along and is never served. -/
def bypassedAt (served waiting : String) (start length : Nat) (past : List Moment) : Bool := match past.drop start with
  | [] => false
  | first :: rest =>
    match rest.drop length with
    | [] => false
    | last :: _ =>
      waiting ≠ served && first.servedKey = some served && last.servedKey = some served &&
        (rest.take length).all (fun moment => moment.servedKey ≠ some served && moment.servedKey ≠ some waiting) &&
        (first :: (rest.take length ++ [last])).all fun moment => moment.waits waiting && moment.eligible waiting

theorem bypassedAt_unfair {served waiting : String} {start length : Nat} {past : List Moment}
    (bypassed : bypassedAt served waiting start length past) : ¬ Fair past := by
  intro fair
  unfold bypassedAt at bypassed
  split at bypassed
  · cases bypassed
  rename_i first rest fromFirst
  split at bypassed
  · cases bypassed
  rename_i last after fromLast
  simp only [ne_eq,decide_not,Bool.and_eq_true,Bool.not_eq_true',decide_eq_false_iff_not,decide_eq_true_eq,
    all_eq_true] at bypassed
  obtain ⟨⟨⟨⟨different,servedFirst⟩,servedLast⟩,between⟩,waits⟩ := bypassed
  have split : past = past.take start ++ first :: (rest.take length ++ last :: after) := by
    rw [← fromLast,take_append_drop,← fromFirst,take_append_drop]
  obtain ⟨moment,mem,serves⟩ := fair served waiting _ _ _ first last split different servedFirst servedLast
    (fun moment mem => (between moment mem).1) (fun moment mem => (waits moment mem).1)
    (fun moment mem => (waits moment (mem_cons_of_mem _ mem)).2)
  exact (between moment mem).2 serves

def bypassConfig : CapacityConfig := ⟨1,1,1,0,9,3,1,0⟩

/-- A holder, two callers of `A`, and the keys `X` and `Y` that empty and return.
The last two releases and returns can be repeated for ever. -/
def bypassRun : List Input :=
  [.acquire 0 .publicOneShot "H" "H",.acquire 1 .publicOneShot "A" "A",.acquire 2 .publicOneShot "A" "A",
    .acquire 3 .publicOneShot "X" "X",.acquire 4 .publicOneShot "Y" "Y",.release 1,.release 2,
    .acquire 5 .publicOneShot "X" "X",.release 3,.acquire 6 .publicOneShot "Y" "Y",.release 4]

/-- `X` is granted twice while the second caller of `A` waits and is eligible. -/
theorem dispatch_bypasses : ∃ start, newAgentStreamCapacityManager bypassConfig = .ok start ∧
    ∃ steps, trace System.step (System.initial start) bypassRun = some steps ∧
      bypassedAt "X" "A" 8 5 (timeline steps) = true ∧ ¬ Fair (timeline steps) := by
  have bypassed : ∃ steps, trace System.step (System.initial (emptyManager bypassConfig)) bypassRun = some steps ∧
      bypassedAt "X" "A" 8 5 (timeline steps) := ⟨_,rfl,by decide⟩
  obtain ⟨steps,ran,bypassed⟩ := bypassed
  exact ⟨_,rfl,steps,ran,bypassed,bypassedAt_unfair bypassed⟩

end P2pstream.StreamCapacityFairness
