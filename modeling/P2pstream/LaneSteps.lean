import P2pstream.Library.Checks
import P2pstream.Semantics.TunnelLanes

/-! Every input of the lane owners makes one of the steps, and each operation does one of
a few things.
-/
namespace P2pstream.LaneSteps
open Library Kernel.TunnelLanes Semantics.TunnelLanes Checks Kernel.TunnelLanes.LaneOwners

variable {g next : LaneOwners} {owner : Nat} {o o' : LaneOwner} {lane : Int} {slot : LaneOwnerSlot}
  {events : List Event}

def retained (o : LaneOwner) : List GrowthLease := (o.growth.map Growth.releases).getD []

/-- The leases that `Close` has still to take off the counters. -/
def unsettled : Closing → List GrowthLease
  | .releasing pending => pending
  | .refunded lease pending => lease :: pending
  | _ => []

def leases (o : LaneOwner) : List GrowthLease := retained o ++ unsettled o.closing

def inSlot : Closing → Bool
  | .removed _ => false
  | .done => false
  | _ => true

/-- An owner that is not removed is listed by the slot of its lane, and so is the one that serves. -/
structure Placed (g : LaneOwners) : Prop where
  mem : ∀ owner o, g.owners.lookup owner = some o → inSlot o.closing = true →
    ∃ slot, g.lanes.lookup o.lane = some slot ∧ owner ∈ slot.owners ∧ ∀ lease ∈ leases o, lease.slot = slot.id
  served : ∀ lane slot owner, g.lanes.lookup lane = some slot → slot.serving = some owner →
    ∃ o, g.owners.lookup owner = some o

theorem acquire_cases (g : LaneOwners) (lane : Int) (id replaces : String) (reserved : Int) (admitted : Bool) :
    g.acquire lane id replaces reserved admitted = (none,g,[]) ∨
    (∃ slot, g.lanes.lookup lane = some slot ∧ slot.owners.length < 2 ∧
      g.acquire lane id replaces reserved admitted = (some g.nextOwner,enter g lane slot id,[])) ∨
    (g.lanes.lookup lane = none ∧ g.acquire lane id replaces reserved admitted =
      (some g.nextOwner,enter (prepay g lane reserved) lane (newSlot g reserved) id,
        [.reserved g.nextReservation reserved])) := by
  unfold acquire
  split
  · exact .inl rfl
  cases found : g.lanes.lookup lane with
  | some slot =>
    simp only [slotFor,found]
    split
    · rename_i joins
      refine .inr (.inl ⟨slot,rfl,?_,rfl⟩)
      by_contra full
      simp [mayJoin,Nat.not_lt.mp full] at joins
    · exact .inl rfl
  | none =>
    simp only [slotFor,found]
    by_cases refused : replaces ≠ "" ∨ ¬ admitted
    · rw [if_pos refused]
      exact .inl rfl
    · have joins : (prepay g lane reserved).mayJoin (newSlot g reserved) replaces reserved := by
        have alone : replaces = "" := by
          by_contra other
          exact refused (.inl other)
        simp [mayJoin,newSlot,alone]
      rw [if_neg refused]
      exact .inr (.inr ⟨trivial,if_pos joins⟩)

variable {admitted : Bool} {epoch : Nat}

theorem publish_cases {expected old : Option Nat} {idleOnly : Bool}
    (ok : g.publish owner expected epoch idleOnly = some (old,next)) :
    ∃ o slot, g.owners.lookup owner = some o ∧ g.closed = false ∧ o.closed = false ∧
      g.lanes.lookup o.lane = some slot ∧
      (idleOnly → slot.serving = expected ∧ g.unchanged slot.serving epoch) ∧
      ((slot.serving = some owner ∧ old = none ∧ next = g) ∨
        (slot.serving ≠ some owner ∧ old = slot.serving ∧
          next = ((g.retire slot.serving).setSlot o.lane { slot with serving := some owner }).setOwner owner
            { o with state := .serving })) := by
  unfold publish at ok
  cases found : g.owners.lookup owner with
  | none => simp [found] at ok
  | some o =>
    cases at_lane : g.lanes.lookup o.lane with
    | none => simp [found,at_lane] at ok
    | some slot =>
      simp only [found,at_lane,Option.bind_eq_bind,Option.bind_some,Option.bind_eq_some_iff,Option.guard_eq_some'] at ok
      obtain ⟨_,unfenced,_,checked,result⟩ := ok
      simp only [Bool.not_eq_true] at unfenced
      refine ⟨o,slot,rfl,unfenced.1,unfenced.2.1,at_lane,checked,?_⟩
      split at result
      · rename_i itself
        simp only [pure_some,Prod.mk.injEq] at result
        exact .inl ⟨itself,result.1.symm,result.2.symm⟩
      · rename_i other
        simp only [pure_some,Prod.mk.injEq] at result
        exact .inr ⟨other,result.1.symm,result.2.symm⟩

theorem touches_conclude {quiet now : Int} {empty attached drained : Bool} :
    Touches o (g.conclude o quiet epoch empty attached drained now).1 := by
  unfold conclude
  split
  · refine ⟨rfl,rfl,rfl,rfl,rfl,rfl,?_,fun counted => counted⟩
    change o.activity ≤ if o.idleSince.isSome then o.activity + 1 else o.activity
    split <;> omega
  · exact ⟨rfl,rfl,rfl,rfl,rfl,rfl,le_refl _,fun counted => counted⟩

theorem touches_finishOpen {stream : Option Nat} (pinned : 0 < o.pinned) : Touches o (g.finishOpen o stream) := by
  have opens : o.openingCount = o.pinned + o.finishing →
      o.openingCount = ((o.pinned - 1 : Nat) : Int) + ((o.finishing + 1 : Nat) : Int) := by omega
  unfold finishOpen
  cases stream with
  | none => exact ⟨rfl,rfl,rfl,rfl,rfl,rfl,le_refl _,opens⟩
  | some =>
    simp only
    split <;> exact ⟨rfl,rfl,rfl,rfl,rfl,rfl,le_refl _,opens⟩

theorem touches_openFinished (finishing : 0 < o.finishing) : Touches o (openFinished o) := by
  refine ⟨rfl,rfl,rfl,rfl,rfl,rfl,Nat.le_succ _,fun counted => ?_⟩
  change o.openingCount - 1 = (o.pinned : Int) + ((o.finishing - 1 : Nat) : Int)
  omega

theorem touches_endStream {stream : Nat} : Touches o (endStream o stream) :=
  ⟨rfl,rfl,rfl,rfl,rfl,rfl,Nat.le_succ _,fun counted => counted⟩

theorem beginOpen_cases (begun : g.beginOpen o = some o') :
    o.state = .serving ∧ o.activity < o'.activity ∧ Touches o o' := by
  unfold beginOpen at begun
  split at begun
  · cases begun
  · rename_i allowed
    cases begun
    simp only [not_or,not_not] at allowed
    refine ⟨allowed.2.2,Nat.lt_succ_self _,rfl,rfl,rfl,rfl,rfl,rfl,Nat.le_succ _,fun counted => ?_⟩
    change o.openingCount + 1 = ((o.pinned + 1 : Nat) : Int) + o.finishing
    omega

theorem unseen_nil (call owner : Nat) : Event.observed call owner ∉ ([] : List Event) :=
  nofun

theorem unseen_published (publishing : Option Nat) (old : Option Nat) (owner : Nat) (call other : Nat) :
    Event.observed call other ∉ publishedEvents publishing old owner := by
  cases publishing <;> cases old <;> simp [publishedEvents]

theorem publish_step {expected old : Option Nat} {idleOnly : Bool} (placed : Placed g)
    (call : Option Nat) (ok : g.publish owner expected epoch idleOnly = some (old,next)) :
    LaneStep g (publishedEvents call old owner) next ∧ next.calls = g.calls ∧ next.nextCall = g.nextCall := by
  obtain ⟨o,slot,found,_,unfenced,at_lane,_,⟨_,rfl,rfl⟩ | ⟨other,rfl,rfl⟩⟩ := publish_cases ok
  · exact ⟨.republished call owner,rfl,rfl⟩
  cases serving : slot.serving with
  | none => exact ⟨.published call found unfenced at_lane serving,rfl,rfl⟩
  | some old =>
    obtain ⟨served,foundOld⟩ := placed.served o.lane slot old at_lane serving
    have different : owner ≠ old := fun same => other (same ▸ serving)
    simp only [retire,foundOld]
    exact ⟨.replaced call found unfenced at_lane serving foundOld different,rfl,rfl⟩

theorem closeStep_step (placed : Placed g) (found : g.owners.lookup owner = some o)
    (ok : g.closeStep owner o = some (next,events)) :
    LaneStep g events next ∧ (∀ call other, Event.observed call other ∉ events) ∧ next.calls = g.calls ∧
      next.nextCall = g.nextCall := by
  unfold closeStep at ok
  split at ok
  case h_2 stage =>
    split at ok <;> cases ok
    exact ⟨.joined found stage,unseen_nil,rfl,rfl⟩
  all_goals rename_i stage
  all_goals cases ok
  · exact ⟨.fenced found stage,unseen_nil,rfl,rfl⟩
  · exact ⟨.released found stage,unseen_nil,rfl,rfl⟩
  · exact ⟨.refunded found stage,by simp,rfl,rfl⟩
  · obtain ⟨slot,at_lane,_⟩ := placed.mem owner o found (by rw [stage]; rfl)
    unfold remove
    simp only [at_lane]
    by_cases alone : slot.owners.erase owner = []
    · rw [if_pos alone]
      exact ⟨.emptied found stage at_lane alone,unseen_nil,rfl,rfl⟩
    · rw [if_neg alone]
      exact ⟨.left found stage at_lane alone,unseen_nil,rfl,rfl⟩
  · obtain ⟨slot,at_lane,_,theirs⟩ := placed.mem owner o found (by rw [stage]; rfl)
    unfold settle
    simp only [at_lane,theirs _ (List.mem_append_right _ (by rw [stage]; exact .head _)),if_true]
    exact ⟨.settled found stage at_lane,unseen_nil,rfl,rfl⟩
  · exact ⟨.finished found stage,by cases ‹Option Nat› <;> simp,rfl,rfl⟩

theorem step_cases {input : Input} (placed : Placed g) (ok : g.step input = some (next,events)) :
    ∃ middle calls nextCall, LaneStep g events middle ∧ CallStep g middle events calls nextCall ∧
      next = { middle with calls, nextCall } := by
  cases input with
  | acquire lane id replaces reserved admitted =>
    obtain ⟨rfl,rfl⟩ := Prod.mk.inj (Option.some.inj ok)
    rcases acquire_cases g lane id replaces reserved admitted with same | ⟨_,found,room,joined⟩ | ⟨absent,joined⟩
    · rw [same]
      exact ⟨_,_,_,.quiet,.keep unseen_nil,rfl⟩
    · rw [joined]
      exact ⟨_,_,_,.entered found room id,.keep unseen_nil,rfl⟩
    · rw [joined]
      exact ⟨_,_,_,.opened absent id reserved,.keep (by simp),rfl⟩
  | attach _ session =>
    simp only [step,Option.map_eq_some_iff,Prod.mk.injEq] at ok
    obtain ⟨o,found,rfl,rfl⟩ := ok
    unfold attach
    split
    · exact ⟨_,_,_,.quiet,.keep unseen_nil,rfl⟩
    · rename_i free
      simp only [not_or,Option.not_isSome_iff_eq_none] at free
      exact ⟨_,_,_,.attached found free.2.2 session,.keep unseen_nil,rfl⟩
  | grow _ bytes admitted =>
    simp only [step,bind_some] at ok
    obtain ⟨o,found,_,attached,result⟩ := ok
    unfold grow at result
    cases at_lane : g.lanes.lookup o.lane with
    | none =>
      simp only [at_lane] at result
      cases result
      exact ⟨_,_,_,.quiet,.keep unseen_nil,rfl⟩
    | some slot =>
      simp only [at_lane] at result
      split at result <;> cases result
      · exact ⟨_,_,_,.quiet,.keep unseen_nil,rfl⟩
      · rename_i granted
        simp only [not_or,Int.not_lt,Bool.not_eq_true] at granted
        obtain ⟨_,_,unfenced,_,positive,_,_,_⟩ := granted
        exact ⟨_,_,_,.grown found attached at_lane unfenced positive (by omega) (by omega),.keep (by simp),rfl⟩
  | publish owner =>
    simp only [step] at ok
    split at ok
    · cases ok
      exact ⟨_,_,_,.quiet,.keep unseen_nil,rfl⟩
    · rename_i published
      cases ok
      obtain ⟨step,calls,nextCall⟩ := publish_step placed none published
      exact ⟨_,_,_,step,.keep (unseen_published none _ owner),by rw [← calls,← nextCall]⟩
  | publishWhenIdle owner quiet =>
    simp only [step] at ok
    split at ok
    · cases ok
      exact ⟨_,_,_,.quiet,.keep unseen_nil,rfl⟩
    · rename_i stage chosen
      cases ok
      unfold choose at chosen
      simp only [bind_some] at chosen
      obtain ⟨_,_,_,_,_,_,result⟩ := chosen
      split at result <;> cases result
      · exact ⟨_,_,_,.quiet,.vacant owner,rfl⟩
      · exact ⟨_,_,_,.quiet,.choose (some owner) _ quiet,rfl⟩
  | idleFor owner quiet =>
    simp only [step,Option.map_eq_some_iff,Prod.mk.injEq] at ok
    obtain ⟨_,_,rfl,rfl⟩ := ok
    exact ⟨_,_,_,.quiet,.choose none owner quiet,rfl⟩
  | observe call =>
    simp only [step,bind_some] at ok
    obtain ⟨stage,chosen,ok⟩ := ok
    cases stage with
    | chosen _ old =>
      simp only [bind_some] at ok
      obtain ⟨o,found,result⟩ := ok
      cases result
      exact ⟨_,_,_,.observe call old,.observe chosen found,rfl⟩
    | observing | ready => exact nomatch ok
  | conclude call =>
    simp only [step,bind_some] at ok
    obtain ⟨stage,observing,ok⟩ := ok
    cases stage with
    | chosen | ready => exact nomatch ok
    | observing =>
      simp only [bind_some] at ok
      obtain ⟨o,found,result⟩ := ok
      split at result
      · cases result
        exact ⟨_,_,_,.touch found touches_conclude,.conclude _ observing,rfl⟩
      · cases result
        exact ⟨_,_,_,.touch found touches_conclude,.finish call unseen_nil,rfl⟩
  | publishIdle call =>
    simp only [step,bind_some] at ok
    obtain ⟨stage,_,ok⟩ := ok
    cases stage with
    | chosen | observing => exact nomatch ok
    | ready owner =>
      simp only at ok
      split at ok
      · cases ok
        exact ⟨_,_,_,.quiet,.finish call unseen_nil,rfl⟩
      · rename_i published
        cases ok
        obtain ⟨step,calls,nextCall⟩ := publish_step placed (some call) published
        refine ⟨_,_,_,step,.finish call (unseen_published (some call) _ owner),?_⟩
        rw [← calls,← nextCall]
        rfl
  | beginOpen =>
    simp only [step,bind_some] at ok
    obtain ⟨o,found,result⟩ := ok
    split at result
    · cases result
      exact ⟨_,_,_,.quiet,.keep unseen_nil,rfl⟩
    · rename_i opened
      cases result
      obtain ⟨serving,raised,touches⟩ := beginOpen_cases opened
      exact ⟨_,_,_,.begin found serving raised touches,.keep (by simp),rfl⟩
  | finishOpen =>
    simp only [step,bind_some,Option.guard_eq_some'] at ok
    obtain ⟨o,found,_,pinned,result⟩ := ok
    cases result
    exact ⟨_,_,_,.touch found (touches_finishOpen pinned),.keep unseen_nil,rfl⟩
  | openFinished =>
    simp only [step,bind_some,Option.guard_eq_some'] at ok
    obtain ⟨o,found,_,finishing,result⟩ := ok
    cases result
    exact ⟨_,_,_,.touch found (touches_openFinished finishing),.keep unseen_nil,rfl⟩
  | endStream =>
    simp only [step,Option.map_eq_some_iff,Prod.mk.injEq] at ok
    obtain ⟨o,found,rfl,rfl⟩ := ok
    exact ⟨_,_,_,.touch found touches_endStream,.keep unseen_nil,rfl⟩
  | acknowledgeOpeningFence =>
    simp only [step,bind_some] at ok
    obtain ⟨_,_,_,_,result⟩ := ok
    cases result
    exact ⟨_,_,_,.quiet,.keep unseen_nil,rfl⟩
  | closeOwner =>
    simp only [step,bind_some] at ok
    obtain ⟨_,found,closing⟩ := ok
    obtain ⟨step,unseen,calls,nextCall⟩ := closeStep_step placed found closing
    exact ⟨_,_,_,step,.keep unseen,by rw [← calls,← nextCall]⟩
  | close =>
    cases ok
    exact ⟨_,_,_,.fence,.keep unseen_nil,rfl⟩

end P2pstream.LaneSteps
