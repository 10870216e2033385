import P2pstream.LaneOwnership

/-! The reservations behind tunnel lanes over every interleaving. Each one is held by one
slot or one owner, and handing it back takes it out of there.
-/
namespace P2pstream.LaneReservations
open Library Library.Transitions Kernel.TunnelLanes Semantics.TunnelLanes Table Kernel.TunnelLanes.LaneOwners List Option
open LaneSteps LaneOwnership

variable {g next : LaneOwners} {owner id : Nat} {o o' : LaneOwner} {lane : Int} {slot : LaneOwnerSlot}
  {events past : List Event}

/-- The leases whose reservation `Close` has still to hand back. -/
def unrefunded : Closing → List GrowthLease
  | .releasing pending => pending
  | .refunded _ pending => pending
  | _ => []

/-- The prepaid reservation of a lane that `Close` has still to hand back. -/
def baseline : Closing → Option Nat
  | .removed release => release
  | _ => none

def ownerReservations (o : LaneOwner) : List Nat :=
  (retained o ++ unrefunded o.closing).map GrowthLease.reservation ++ (baseline o.closing).toList

def ownerHolds (id : Nat) (o : LaneOwner) : Int := (ownerReservations o).count id

def slotHolds (id : Nat) (slot : LaneOwnerSlot) : Int := if slot.release = id then 1 else 0

def holds (id : Nat) (g : LaneOwners) : Int := total (slotHolds id) g.lanes + total (ownerHolds id) g.owners

def grants (id : Nat) (past : List Event) : Int := past.countP fun event => match event with
    | .reserved reservation _ => reservation = id
    | _ => false

def refunds (id : Nat) (past : List Event) : Int := past.count (.released id)

structure Balanced (past : List Event) (g : LaneOwners) : Prop where
  balance : ∀ id, grants id past = holds id g + refunds id past
  once : ∀ id, grants id past = if id < g.nextReservation then 1 else 0

theorem holds_setOwner (found : g.owners.lookup owner = some o) :
    holds id (g.setOwner owner o') = holds id g - ownerHolds id o + ownerHolds id o' := by
  unfold holds
  change total _ g.lanes + total _ (g.owners.insert owner o') = _
  rw [total_insert _ _ found]
  omega

theorem holds_kept (found : g.owners.lookup owner = some o) (same : ownerReservations o' = ownerReservations o) :
    holds id (g.setOwner owner o') = holds id g := by
  rw [holds_setOwner found,ownerHolds,ownerHolds,same]
  omega

theorem holds_setSlot {slot' : LaneOwnerSlot} (at_lane : g.lanes.lookup lane = some slot)
    (same : slot'.release = slot.release) : holds id (g.setSlot lane slot') = holds id g := by
  unfold holds
  change total _ (g.lanes.insert lane slot') + total _ g.owners = _
  rw [total_insert _ _ at_lane]
  unfold slotHolds
  omega

theorem holds_setBoth {slot' : LaneOwnerSlot} (at_lane : g.lanes.lookup lane = some slot) (same : slot'.release = slot.release)
    (found : g.owners.lookup owner = some o) :
    holds id ((g.setSlot lane slot').setOwner owner o') = holds id g - ownerHolds id o + ownerHolds id o' := by
  rw [← holds_setSlot at_lane same]
  exact holds_setOwner found

theorem newcomer_holds (sound : Sound g) (name : String) (id : Nat) :
    total (ownerHolds id) (g.owners.insert g.nextOwner { lane, id := name }) = total (ownerHolds id) g.owners := by
  rw [total_insert_fresh _ _ sound.unknown]
  exact zero_add _

theorem holds_serve (found : g.owners.lookup owner = some o) (at_lane : g.lanes.lookup o.lane = some slot) :
    holds id (serve g owner o slot) = holds id g := (holds_setBoth at_lane rfl found).trans (sub_add_cancel _ _)

theorem holds_nonneg : 0 ≤ holds id g := by
  have slots := total_nonneg (slotHolds id) g.lanes fun _ _ _ => by
    unfold slotHolds
    split <;> omega
  have owners := total_nonneg (ownerHolds id) g.owners fun _ _ _ => Int.natCast_nonneg _
  unfold holds
  omega

inductive Plain : Event → Prop where
  | published (owner : Nat) : Plain (.published owner)
  | observed (call owner : Nat) : Plain (.observed call owner)
  | replaced (call old owner : Nat) : Plain (.replaced call old owner)
  | began (owner : Nat) : Plain (.began owner)

theorem plain_one {event : Event} (plain : Plain event) : ∀ other ∈ [event], Plain other := by
  intro _ mem
  rw [mem_singleton.mp mem]
  exact plain

theorem plain_published (call old : Option Nat) (owner : Nat) :
    ∀ event ∈ publishedEvents call old owner, Plain event := by
  cases call with
  | none => exact plain_one (.published owner)
  | some call =>
    cases old with
    | none => exact plain_one (.published owner)
    | some old =>
      intro event mem
      rcases mem_cons.mp mem with rfl | later
      · exact .replaced call old owner
      · exact plain_one (.published owner) event later

theorem grants_append : grants id (past ++ events) = grants id past + grants id events := by
  simp [grants,countP_append]

theorem refunds_append : refunds id (past ++ events) = refunds id past + refunds id events := by
  simp [refunds,count_append]

theorem grants_plain (plain : ∀ event ∈ events, Plain event) : grants id events = 0 := by
  have none : events.countP (fun event => match event with
      | .reserved reservation _ => decide (reservation = id)
      | _ => false) = 0 := by
    apply countP_eq_zero.mpr
    intro event mem
    cases plain event mem <;> simp
  exact congrArg Nat.cast none

theorem refunds_plain (plain : ∀ event ∈ events, Plain event) : refunds id events = 0 := by
  have none : events.count (.released id) = 0 := by
    apply count_eq_zero.mpr
    intro mem
    cases plain _ mem
  exact congrArg Nat.cast none

theorem Balanced.keep (balanced : Balanced past g) (plain : ∀ event ∈ events, Plain event)
    (same : ∀ id, holds id next = holds id g) (count : next.nextReservation = g.nextReservation) :
    Balanced (past ++ events) next := by
  refine ⟨fun id => ?_,fun id => ?_⟩
  · rw [grants_append,refunds_append,grants_plain plain,refunds_plain plain,same]
    have before := balanced.balance id
    omega
  · rw [grants_append,grants_plain plain,count]
    exact balanced.once id

variable {bytes : Int}

section

variable (balanced : Balanced past g)
include balanced

theorem Balanced.admit (more : ∀ id, holds id next = holds id g + if g.nextReservation = id then 1 else 0)
    (count : next.nextReservation = g.nextReservation + 1) :
    Balanced (past ++ [.reserved g.nextReservation bytes]) next := by
  have granted (id : Nat) : grants id [.reserved g.nextReservation bytes] = if g.nextReservation = id then 1 else 0 := by
    by_cases same : g.nextReservation = id <;> simp [grants,same]
  have refunded (id : Nat) : refunds id [.reserved g.nextReservation bytes] = 0 := by simp [refunds]
  refine ⟨fun id => ?_,fun id => ?_⟩
  · rw [grants_append,refunds_append,granted,refunded,more]
    have before := balanced.balance id
    omega
  · rw [grants_append,granted,balanced.once id]
    split_ifs <;> omega

theorem Balanced.refund {reservation : Nat}
    (less : ∀ id, holds id next = holds id g - if reservation = id then 1 else 0)
    (count : next.nextReservation = g.nextReservation) : Balanced (past ++ [.released reservation]) next := by
  have granted (id : Nat) : grants id [.released reservation] = 0 := by simp [grants]
  have refunded (id : Nat) : refunds id [.released reservation] = if reservation = id then 1 else 0 := by
    by_cases same : reservation = id <;> simp [refunds,same]
  refine ⟨fun id => ?_,fun id => ?_⟩
  · rw [grants_append,refunds_append,granted,refunded,less]
    have before := balanced.balance id
    omega
  · rw [grants_append,count]
    exact balanced.once id

theorem balanced_entered (sound : Sound g) (found : g.lanes.lookup lane = some slot) (name : String) :
    Balanced (past ++ []) (enter g lane slot name) := by
  refine balanced.keep nofun (fun id => ?_) rfl
  change total (slotHolds id) (g.lanes.insert lane _) + total (ownerHolds id) (g.owners.insert g.nextOwner _) = _
  rw [newcomer_holds sound,total_insert _ _ found]
  change _ - slotHolds id slot + slotHolds id slot + _ = _
  rw [sub_add_cancel]
  rfl

theorem balanced_opened (sound : Sound g) (absent : g.lanes.lookup lane = none) (name : String) (reserved : Int) :
    Balanced (past ++ [.reserved g.nextReservation reserved])
      (enter (prepay g lane reserved) lane (newSlot g reserved) name) := by
  refine balanced.admit (fun id => ?_) rfl
  change total (slotHolds id) ((g.lanes.insert lane (newSlot g reserved)).insert lane
    { newSlot g reserved with owners := g.nextOwner :: (newSlot g reserved).owners }) +
      total (ownerHolds id) (g.owners.insert g.nextOwner _) = _
  rw [newcomer_holds sound,AList.insert_insert,total_insert_fresh _ _ absent]
  unfold holds
  change (if g.nextReservation = id then 1 else 0) + _ + _ = _
  omega

theorem balanced_grown {growth : Growth} (found : g.owners.lookup owner = some o) (attached : o.growth = some growth)
    (at_lane : g.lanes.lookup o.lane = some slot) (unclosed : o.closing = .no) :
    Balanced (past ++ [.reserved g.nextReservation bytes])
      { (g.setSlot o.lane { slot with growth := slot.growth + bytes }).setOwner owner
          (lend o growth ⟨slot.id,bytes,g.nextReservation⟩) with
        growth := g.growth + bytes
        nextReservation := g.nextReservation + 1 } := by
  refine balanced.admit (fun id => ?_) rfl
  have lent : ownerHolds id (lend o growth ⟨slot.id,bytes,g.nextReservation⟩) =
      ownerHolds id o + if g.nextReservation = id then 1 else 0 := by
    simp only [ownerHolds,ownerReservations,retained,lend,attached,unclosed,unrefunded,baseline,map_some,
      getD_some,append_nil,map_append,map_cons,map_nil,toList_none,count_append,
      count_singleton,beq_iff_eq]
    split_ifs <;> simp
  refine (holds_setBoth at_lane rfl found).trans ?_
  omega

theorem balanced_touch (found : g.owners.lookup owner = some o)
    (touches : Touches o o') (plain : ∀ event ∈ events, Plain event) : Balanced (past ++ events) (g.setOwner owner o') := by
  have same : ownerReservations o' = ownerReservations o := by
    unfold ownerReservations retained
    rw [touches.growth,touches.closing]
  exact balanced.keep plain (fun _ => holds_kept found same) rfl

theorem balanced_replaced {served : LaneOwner} {old : Nat} (found : g.owners.lookup owner = some o)
    (at_lane : g.lanes.lookup o.lane = some slot) (other : g.owners.lookup old = some served) (different : owner ≠ old)
    (plain : ∀ event ∈ events, Plain event) :
    Balanced (past ++ events) (serve (g.setOwner old { served with state := .draining }) owner o slot) := by
  refine balanced.keep plain (fun id => ?_) rfl
  have drained : holds id (g.setOwner old { served with state := .draining }) = holds id g := holds_kept other rfl
  rw [← drained]
  exact holds_serve (g := g.setOwner old { served with state := .draining })
    (lookup_setOwner.mpr (.inr ⟨different,found⟩)) at_lane

theorem Balanced.advance (found : g.owners.lookup owner = some o)
    (same : ownerReservations o' = ownerReservations o) : Balanced (past ++ []) (g.setOwner owner o') :=
  balanced.keep nofun (fun _ => holds_kept found same) rfl

theorem balanced_emptied (found : g.owners.lookup owner = some o) (stage : o.closing = .releasing [])
    (retains : retained o = []) (at_lane : g.lanes.lookup o.lane = some slot) :
    Balanced (past ++ []) { g.setOwner owner (leave o (some slot.release)) with lanes := g.lanes.erase o.lane } := by
  refine balanced.keep nofun (fun id => ?_) rfl
  have before : ownerHolds id o = 0 := by simp [ownerHolds,ownerReservations,retains,stage,unrefunded,baseline]
  have after : ownerHolds id (leave o (some slot.release)) = slotHolds id slot := by
    change ((((retained o ++ []).map GrowthLease.reservation ++ [slot.release]).count id : Nat) : Int) = _
    by_cases same : slot.release = id <;> simp [retains,slotHolds,same]
  have split := total_erase (slotHolds id) g.lanes at_lane
  change total (slotHolds id) (g.lanes.erase o.lane) +
    total (ownerHolds id) (g.owners.insert owner (leave o (some slot.release))) = _
  rw [total_insert _ _ found]
  unfold holds
  omega

theorem balanced_refunded {lease : GrowthLease} {rest : List GrowthLease} (found : g.owners.lookup owner = some o)
    (stage : o.closing = .releasing (lease :: rest)) (retains : retained o = []) :
    Balanced (past ++ [.released lease.reservation]) (g.setOwner owner { o with closing := .refunded lease rest }) := by
  refine balanced.refund (fun id => ?_) rfl
  have gives : ownerHolds id o = ownerHolds id { o with closing := .refunded lease rest } +
      if lease.reservation = id then 1 else 0 := by
    have after : ownerReservations { o with closing := .refunded lease rest } = rest.map GrowthLease.reservation := by
      change (retained o ++ rest).map GrowthLease.reservation ++ [] = _
      rw [retains,nil_append,append_nil]
    have before : ownerReservations o = lease.reservation :: rest.map GrowthLease.reservation := by
      simp [ownerReservations,retains,stage,unrefunded,baseline]
    rw [ownerHolds,before,ownerHolds,after,count_cons]
    simp only [beq_iff_eq]
    split_ifs <;> simp
  rw [holds_setOwner found]
  omega

theorem balanced_finished {release : Option Nat} (found : g.owners.lookup owner = some o)
    (stage : o.closing = .removed release) (retains : retained o = []) :
    Balanced (past ++ (release.map Event.released).toList) (g.setOwner owner { o with closing := .done }) := by
  have before : ownerReservations o = release.toList := by simp [ownerReservations,retains,stage,unrefunded,baseline]
  have after : ownerReservations { o with closing := .done } = [] := by
    change (retained o ++ []).map GrowthLease.reservation ++ [] = []
    rw [retains]
    rfl
  cases release with
  | none => exact balanced.advance found (after.trans before.symm)
  | some reservation =>
    refine balanced.refund (fun id => ?_) rfl
    have gives : ownerHolds id o = if reservation = id then 1 else 0 := by
      by_cases same : reservation = id <;> simp [ownerHolds,before,same]
    have none : ownerHolds id { o with closing := .done } = 0 := by
      rw [ownerHolds,after]
      rfl
    rw [holds_setOwner found]
    omega

end

theorem balanced_lane (balanced : Balanced past g) (sound : Sound g) (step : LaneStep g events next) :
    Balanced (past ++ events) next := by
  have gone {owner : Nat} {o : LaneOwner} (found : g.owners.lookup owner = some o) (released : hasReleased o.closing) :
      retained o = [] := (sound.fit owner o found).released released
  cases step with
  | quiet | fence => exact balanced.keep nofun (fun _ => rfl) rfl
  | observe call owner => exact balanced.keep (plain_one (.observed call owner)) (fun _ => rfl) rfl
  | entered found _ id => exact balanced_entered balanced sound found id
  | opened absent id reserved => exact balanced_opened balanced sound absent id reserved
  | attached found free session =>
    refine balanced.advance found ?_
    rw [ownerReservations,ownerReservations,retained_withSession,sound.detached found free]
    rfl
  | grown found attached at_lane unfenced =>
    exact balanced_grown balanced found attached at_lane ((sound.fit _ _ found).unclosed unfenced)
  | republished call owner => exact balanced.keep (plain_published call none owner) (fun _ => rfl) rfl
  | published call found _ at_lane =>
    exact balanced.keep (plain_published call none _) (fun _ => holds_serve found at_lane) rfl
  | replaced call found _ at_lane _ other different =>
    exact balanced_replaced balanced found at_lane other different (plain_published call _ _)
  | touch found touches => exact balanced_touch balanced found touches nofun
  | begin found _ _ touches => exact balanced_touch balanced found touches (plain_one (.began _))
  | fenced found stage | joined found stage =>
    refine balanced.advance found ?_
    simp [ownerReservations,retained,stage,unrefunded,baseline]
  | released found stage =>
    refine balanced.advance found ?_
    simp only [ownerReservations,retained,releases_closing,stage,unrefunded,baseline,nil_append,append_nil]
  | refunded found stage => exact balanced_refunded balanced found stage (gone found (by rw [stage]; rfl))
  | settled found stage at_lane =>
    refine balanced.keep nofun (fun id => (holds_setBoth at_lane rfl found).trans ?_) rfl
    simp [ownerHolds,ownerReservations,retained,stage,unrefunded,baseline]
  | emptied found stage at_lane => exact balanced_emptied balanced found stage (gone found (by rw [stage]; rfl)) at_lane
  | left found stage at_lane =>
    refine balanced.keep nofun (fun id => (holds_setBoth at_lane rfl found).trans ?_) rfl
    simp [ownerHolds,ownerReservations,retained,leave,stage,unrefunded,baseline]
  | finished found stage => exact balanced_finished balanced found stage (gone found (by rw [stage]; rfl))

structure Ledger (past : List Event) (g : LaneOwners) : Prop where
  sound : Sound g
  occupied : Occupied g
  balanced : Balanced past g

theorem ledger_initial : Ledger [] initial := ⟨sound_initial,nofun,fun _ => rfl,fun _ => rfl⟩

theorem ledger_step {input : Input} (ledger : Ledger past g) (ok : g.step input = some (next,events)) :
    Ledger (past ++ events) next := by
  obtain ⟨_,_,_,step,_,rfl⟩ := step_cases ledger.sound.places ok
  have balanced := balanced_lane ledger.balanced ledger.sound step
  have occupied := occupied_lane ledger.occupied step
  exact ⟨(sound_lane ledger.sound step).agrees ⟨rfl,rfl,rfl,rfl⟩,occupied,balanced.balance,balanced.once⟩

theorem run_ledger {inputs : List Input} (ran : run step initial inputs = some (g,events)) : Ledger events g := by
  have holds : Ledger ([] ++ events) g :=
    run_history (fun _ _ _ _ _ ledger _ taken => ledger_step ledger taken) ledger_initial (meets_true _ _) ran
  exact holds

/-- `Close` of every owner has returned. -/
def AllClosed (g : LaneOwners) : Prop := ∀ owner o, g.owners.lookup owner = some o → o.closing = .done

theorem Ledger.settled (ledger : Ledger past g) (closed : AllClosed g) : holds id g = 0 := by
  have lanes : total (slotHolds id) g.lanes = 0 := by
    apply total_eq_zero
    intro lane slot found
    obtain ⟨owner,listed⟩ := exists_mem_of_ne_nil _ (ledger.occupied lane slot found)
    obtain ⟨o,present,_,inside⟩ := (ledger.sound.slots lane slot found).owned owner listed
    rw [closed owner o present] at inside
    cases inside
  have owners : total (ownerHolds id) g.owners = 0 := by
    apply total_eq_zero
    intro owner o present
    have done := closed owner o present
    have retains : retained o = [] := (ledger.sound.fit owner o present).released (by rw [done]; rfl)
    simp [ownerHolds,ownerReservations,retains,done,unrefunded,baseline]
  rw [holds,lanes,owners,add_zero]

def servers (g : LaneOwners) (slot : LaneOwnerSlot) : List Nat :=
  slot.owners.filter fun owner => (g.owners.lookup owner).any fun o => o.state = .serving

theorem servers_le (slotted : Slotted g lane slot) : (servers g slot).length ≤ 1 := by
  have named : ∀ owner ∈ servers g slot, slot.serving = some owner := by
    intro owner mem
    obtain ⟨listed,serves⟩ := mem_filter.mp mem
    cases found : g.owners.lookup owner with
    | none => simp [found] at serves
    | some o =>
      simp only [found,any_some,decide_eq_true_eq] at serves
      exact (slotted.serving owner).mpr ⟨listed,o,found,serves⟩
  have nodup : (servers g slot).Nodup := slotted.nodup.filter _
  match found : servers g slot with
  | [] | [_] => simp
  | first :: second :: rest =>
    rw [found] at named nodup
    have same : first = second := some.inj ((named first mem_cons_self).symm.trans (named second (by simp)))
    subst same
    simp at nodup

theorem refunded_of_grants (once : grants id past ≤ 1) (granted : Event.reserved id bytes ∈ past) :
    grants id past = 1 := by
  have positive : 0 < grants id past := by
    apply Int.natCast_pos.mpr
    apply countP_pos_iff.mpr
    exact ⟨_,granted,by simp⟩
  omega

/-- Over every interleaving: two owners a lane at most and one that serves, counters that
are the sums of what is outstanding and stay within their limits, a failed acquisition
that leaves no trace, and reservations that are handed back at most once, and exactly
once when every owner is closed. -/
theorem lane_ledger {inputs : List Input} (ran : run step initial inputs = some (g,events)) :
    (∀ lane slot, g.lanes.lookup lane = some slot →
      slot.owners.length ≤ 2 ∧ (servers g slot).length ≤ 1 ∧ 0 ≤ slot.growth ∧ slot.growth ≤ laneLimit) ∧
    g.growth = total LaneOwnerSlot.growth g.lanes ∧ g.growth = total charge g.owners ∧
    g.growth ≤ aggregateGenerationGrowthBytes ∧
    (∀ lane name replaces reserved admitted, (g.acquire lane name replaces reserved admitted).1 = none →
      (g.acquire lane name replaces reserved admitted).2 = (g,[])) ∧
    (∀ id, refunds id events ≤ 1) ∧
    (AllClosed g → ∀ id bytes, Event.reserved id bytes ∈ events → refunds id events = 1) := by
  have ledger := run_ledger ran
  have once (id : Nat) : grants id events ≤ 1 := by
    rw [ledger.balanced.once id]
    split <;> omega
  refine ⟨fun lane slot found => ?_,ledger.sound.lanes,ledger.sound.total,ledger.sound.limit,?_,fun id => ?_,?_⟩
  · have slotted := ledger.sound.slots lane slot found
    refine ⟨slotted.pair,servers_le slotted,?_,slotted.limit⟩
    rw [slotted.growth]
    apply total_nonneg
    intro owner o present
    unfold chargeOn
    split
    · exact (ledger.sound.fit owner o present).charge_nonneg
    · exact le_refl _
  · intro lane name replaces reserved admitted failed
    rcases acquire_cases g lane name replaces reserved admitted with same | ⟨_,_,_,joined⟩ | ⟨_,joined⟩
    · rw [same]
    all_goals
      rw [joined] at failed
      cases failed
  · have balance := ledger.balanced.balance id
    have held : 0 ≤ holds id g := holds_nonneg
    have granted := once id
    omega
  · intro closed id _ granted
    have balance := ledger.balanced.balance id
    rw [ledger.settled closed,refunded_of_grants (once id) granted] at balance
    omega

/-- One owner grows, is published and closes: both reservations come back. -/
def labLane : List Input :=
  [.acquire 1 "a" "" 100 true,.attach 0 ⟨0,true⟩,.grow 0 5120 true,.publish 0] ++ replicate 7 (.closeOwner 0)

theorem lane_ledger_closed : ∃ g events, run step initial labLane = some (g,events) ∧
    AllClosed g ∧ refunds 0 events = 1 ∧ refunds 1 events = 1 := by
  have ended : ((run step initial labLane).map fun ran =>
      ((values ran.1.owners).all fun o => o.closing = .done,ran.2)) =
        some (true,[.reserved 0 100,.reserved 1 5120,.published 0,.released 1,.released 0]) := by decide +kernel
  obtain ⟨⟨g,_⟩,ran,result⟩ := map_eq_some_iff.mp ended
  obtain ⟨finished,rfl⟩ := Prod.mk.inj result
  have closed : AllClosed g := by
    intro _ o present
    exact of_decide_eq_true (all_eq_true.mp finished o (mem_values_of_lookup _ _ _ present))
  have exact_once := (lane_ledger ran).2.2.2.2.2.2 closed
  exact ⟨g,_,ran,closed,exact_once 0 100 (by simp),exact_once 1 5120 (by simp)⟩

end P2pstream.LaneReservations
