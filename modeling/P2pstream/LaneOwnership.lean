import P2pstream.LaneSteps

/-! Ownership of tunnel lanes over every interleaving: at most two owners a lane and one
of them serving, growth counters that are sums of outstanding leases within their limits,
and reservations that are released exactly once.
-/
namespace P2pstream.LaneOwnership
open Library Kernel.TunnelLanes Semantics.TunnelLanes Kernel.TunnelLanes.LaneOwners AList Table List
open LaneSteps

variable {g next : LaneOwners} {owner : Nat} {o o' : LaneOwner} {lane : Int} {slot : LaneOwnerSlot}
  {events past : List Event}

def charge (o : LaneOwner) : Int := ((leases o).map GrowthLease.bytes).sum

def chargeOn (lane : Int) (o : LaneOwner) : Int := if o.lane = lane then charge o else 0

/-- `Release` has taken the leases. -/
def hasReleased : Closing → Bool
  | .no => false
  | .fenced => false
  | .joined => false
  | _ => true

structure Fit (o : LaneOwner) : Prop where
  fenced : o.closed = true ↔ o.closing ≠ .no
  unattached : o.session = none → o.growth = none
  released : hasReleased o.closing = true → retained o = []
  bytes : ∀ lease ∈ leases o, 0 ≤ lease.bytes
  opens : o.openingCount = o.pinned + o.finishing

theorem Fit.gone (fit : Fit o) (absent : inSlot o.closing = false) : leases o = [] := by
  have empty : retained o = [] := by
    apply fit.released
    cases stage : o.closing <;> simp_all [inSlot,hasReleased]
  cases stage : o.closing <;> simp_all [leases,unsettled,inSlot]

theorem Fit.charge_nonneg (fit : Fit o) : 0 ≤ charge o := by
  apply sum_nonneg
  intro _ mem
  obtain ⟨lease,held,rfl⟩ := mem_map.mp mem
  exact fit.bytes lease held

theorem Fit.charge_gone (fit : Fit o) (absent : inSlot o.closing = false) : charge o = 0 := by
  rw [charge,fit.gone absent]
  rfl

structure Slotted (g : LaneOwners) (lane : Int) (slot : LaneOwnerSlot) : Prop where
  nodup : slot.owners.Nodup
  pair : slot.owners.length ≤ 2
  owned : ∀ owner ∈ slot.owners, ∃ o, g.owners.lookup owner = some o ∧ o.lane = lane ∧ inSlot o.closing = true
  serving : ∀ owner, slot.serving = some owner ↔ owner ∈ slot.owners ∧ ∃ o, g.owners.lookup owner = some o ∧ o.state = .serving
  growth : slot.growth = Table.total (chargeOn lane) g.owners
  limit : slot.growth ≤ laneLimit

structure Sound (g : LaneOwners) : Prop where
  fresh : ∀ owner o, g.owners.lookup owner = some o → owner < g.nextOwner
  fit : ∀ owner o, g.owners.lookup owner = some o → Fit o
  mem : ∀ owner o, g.owners.lookup owner = some o → inSlot o.closing = true →
    ∃ slot, g.lanes.lookup o.lane = some slot ∧ owner ∈ slot.owners ∧ ∀ lease ∈ leases o, lease.slot = slot.id
  slots : ∀ lane slot, g.lanes.lookup lane = some slot → Slotted g lane slot
  total : g.growth = Table.total charge g.owners
  lanes : g.growth = Table.total LaneOwnerSlot.growth g.lanes
  limit : g.growth ≤ aggregateGenerationGrowthBytes

theorem sound_initial : Sound initial where
  fresh := fun _ _ found => nomatch found
  fit := fun _ _ found => nomatch found
  mem := fun _ _ found => nomatch found
  slots := fun _ _ found => nomatch found
  total := rfl
  lanes := rfl
  limit := by decide

structure Agrees (g next : LaneOwners) : Prop where
  owners : next.owners = g.owners
  lanes : next.lanes = g.lanes
  growth : next.growth = g.growth
  nextOwner : next.nextOwner = g.nextOwner

theorem Slotted.owners {g next : LaneOwners} (slotted : Slotted g lane slot) (same : next.owners = g.owners) :
    Slotted next lane slot := by
  obtain ⟨nodup,pair,owned,serving,growth,limit⟩ := slotted
  rw [← same] at owned serving growth
  exact ⟨nodup,pair,owned,serving,growth,limit⟩

theorem Sound.agrees (sound : Sound g) (agrees : Agrees g next) : Sound next := by
  obtain ⟨owners,lanes,growth,nextOwner⟩ := agrees
  refine ⟨?_,?_,?_,?_,?_,?_,?_⟩
  · rw [owners,nextOwner]
    exact sound.fresh
  · rw [owners]
    exact sound.fit
  · rw [owners,lanes]
    exact sound.mem
  · intro lane slot found
    rw [lanes] at found
    exact (sound.slots lane slot found).owners owners
  · rw [growth,owners]
    exact sound.total
  · rw [growth,lanes]
    exact sound.lanes
  · rw [growth]
    exact sound.limit

theorem lookup_setOwner {key : Nat} {found : LaneOwner} : (g.setOwner owner o').owners.lookup key = some found ↔
      (key = owner ∧ found = o') ∨ (key ≠ owner ∧ g.owners.lookup key = some found) := by
  by_cases same : key = owner
  · subst same
    simp [setOwner,lookup_insert,eq_comm]
  · simp [setOwner,lookup_insert_ne same,same]

variable {slot' : LaneOwnerSlot} {id : String} {admitted : Bool} {growth : Growth} {lease : GrowthLease}

theorem lookup_setSlot {key : Int} {found : LaneOwnerSlot} : (g.setSlot lane slot').lanes.lookup key = some found ↔
      (key = lane ∧ found = slot') ∨ (key ≠ lane ∧ g.lanes.lookup key = some found) := by
  by_cases same : key = lane
  · subst same
    simp [setSlot,lookup_insert,eq_comm]
  · simp [setSlot,lookup_insert_ne same,same]

theorem Slotted.setOwner (slotted : Slotted g lane slot) (found : g.owners.lookup owner = some o)
    (home : o'.lane = o.lane) (stays : inSlot o.closing → inSlot o'.closing)
    (same : slot'.owners = slot.owners)
    (names : ∀ key ∈ slot.owners,
      slot'.serving = some key ↔ (key = owner ∧ o'.state = .serving) ∨ (key ≠ owner ∧ slot.serving = some key))
    (inside : ∀ key, slot'.serving = some key → key ∈ slot.owners)
    (held : slot'.growth = slot.growth - chargeOn lane o + chargeOn lane o') (limit : slot'.growth ≤ laneLimit) :
    Slotted (g.setOwner owner o') lane slot' := by
  refine ⟨same ▸ slotted.nodup,same ▸ slotted.pair,?_,?_,?_,limit⟩
  · intro key listed
    obtain ⟨other,present,there,inside⟩ := slotted.owned key (same ▸ listed)
    by_cases itself : key = owner
    · subst itself
      cases found.symm.trans present
      exact ⟨o',lookup_setOwner.mpr (.inl ⟨rfl,rfl⟩),home.trans there,stays inside⟩
    · exact ⟨other,lookup_setOwner.mpr (.inr ⟨itself,present⟩),there,inside⟩
  · intro key
    rw [same]
    by_cases listed : key ∈ slot.owners
    · rw [names key listed,slotted.serving key]
      by_cases itself : key = owner
      · subst itself
        simp [lookup_setOwner,listed]
      · simp [lookup_setOwner,listed,itself]
    · simp [listed,mt (inside key) listed]
  · rw [slotted.growth] at held
    change slot'.growth = Table.total (chargeOn lane) (g.owners.insert owner o')
    rw [total_insert _ _ found,held]

theorem Slotted.elsewhere (slotted : Slotted g lane slot) (unlisted : owner ∉ slot.owners)
    (charged : Table.total (chargeOn lane) (g.owners.insert owner o') = Table.total (chargeOn lane) g.owners) :
    Slotted (g.setOwner owner o') lane slot := by
  have apart {key : Nat} (listed : key ∈ slot.owners) : key ≠ owner := fun same => unlisted (same ▸ listed)
  refine ⟨slotted.nodup,slotted.pair,?_,?_,slotted.growth.trans charged.symm,slotted.limit⟩
  · intro key listed
    obtain ⟨other,present,there,inside⟩ := slotted.owned key listed
    exact ⟨other,lookup_setOwner.mpr (.inr ⟨apart listed,present⟩),there,inside⟩
  · intro key
    rw [slotted.serving key]
    apply and_congr_right
    intro listed
    simp [lookup_setOwner,apart listed]

theorem Slotted.setElsewhere (slotted : Slotted g lane slot) (found : g.owners.lookup owner = some o)
    (home : o'.lane = o.lane) (different : o.lane ≠ lane) : Slotted (g.setOwner owner o') lane slot := by
  refine slotted.elsewhere (fun listed => ?_) ?_
  · obtain ⟨_,present,there,_⟩ := slotted.owned owner listed
    cases found.symm.trans present
    exact different there
  · rw [total_insert _ _ found]
    simp [chargeOn,home,different]

/-- An update of one slot keeps the place of the owners that it still lists. -/
theorem Sound.placed {key : Nat} {other : LaneOwner} (sound : Sound g) (at_lane : g.lanes.lookup lane = some slot)
    (kept : slot'.id = slot.id) (stored : g.owners.lookup key = some other) (inside : inSlot other.closing)
    (lists : key ∈ slot.owners → key ∈ slot'.owners) :
    ∃ there, (g.setSlot lane slot').lanes.lookup other.lane = some there ∧ key ∈ there.owners ∧
      ∀ lease ∈ leases other, lease.slot = there.id := by
  obtain ⟨there,present,mem,charged⟩ := sound.mem key other stored inside
  by_cases here : other.lane = lane
  · rw [here] at present
    cases at_lane.symm.trans present
    exact ⟨slot',lookup_setSlot.mpr (.inl ⟨here,rfl⟩),lists mem,kept ▸ charged⟩
  · exact ⟨there,lookup_setSlot.mpr (.inr ⟨here,present⟩),mem,charged⟩

theorem Sound.change {amount : Int} (sound : Sound g) (found : g.owners.lookup owner = some o)
    (at_lane : g.lanes.lookup o.lane = some slot) (listed : owner ∈ slot.owners) (fit : Fit o')
    (home : o'.lane = o.lane) (stays : inSlot o.closing → inSlot o'.closing)
    (same : slot'.owners = slot.owners) (kept : slot'.id = slot.id)
    (names : ∀ key ∈ slot.owners,
      slot'.serving = some key ↔ (key = owner ∧ o'.state = .serving) ∨ (key ≠ owner ∧ slot.serving = some key))
    (inside : ∀ key, slot'.serving = some key → key ∈ slot.owners) (held : charge o' = charge o + amount)
    (theirs : ∀ lease ∈ leases o', lease.slot = slot.id) (growth : slot'.growth = slot.growth + amount)
    (lanes : slot'.growth ≤ laneLimit) (limit : g.growth + amount ≤ aggregateGenerationGrowthBytes) :
    Sound { (g.setSlot o.lane slot').setOwner owner o' with growth := g.growth + amount } := by
  refine ⟨forall_insert sound.fresh (sound.fresh owner o found),forall_insert sound.fit fit,?_,?_,?_,?_,limit⟩
  · intro key other present within
    rcases lookup_setOwner.mp present with ⟨rfl,rfl⟩ | ⟨_,elsewhere⟩
    · exact ⟨slot',lookup_setSlot.mpr (.inl ⟨home,rfl⟩),same ▸ listed,kept ▸ theirs⟩
    · exact sound.placed at_lane kept elsewhere within fun mem => same ▸ mem
  · intro key other present
    rcases lookup_setSlot.mp present with ⟨rfl,rfl⟩ | ⟨different,elsewhere⟩
    · have costs : other.growth = slot.growth - chargeOn o.lane o + chargeOn o.lane o' := by
        simp only [chargeOn,home,if_true]
        omega
      have slotted := sound.slots o.lane slot at_lane
      exact (slotted.setOwner found home stays same names inside costs lanes).owners rfl
    · exact ((sound.slots key other elsewhere).setElsewhere found home (Ne.symm different)).owners rfl
  · change g.growth + amount = Table.total charge (g.owners.insert owner o')
    rw [total_insert _ _ found,sound.total]
    omega
  · change g.growth + amount = Table.total LaneOwnerSlot.growth (g.lanes.insert o.lane slot')
    rw [total_insert _ _ at_lane,sound.lanes]
    omega

theorem Slotted.keeps (slotted : Slotted g lane slot) (found : g.owners.lookup owner = some o)
    (state : o'.state = o.state) (key : Nat) (listed : key ∈ slot.owners) : slot.serving = some key ↔
      (key = owner ∧ o'.state = .serving) ∨ (key ≠ owner ∧ slot.serving = some key) := by
  by_cases itself : key = owner
  · subst itself
    simp [slotted.serving,listed,found,state]
  · simp [itself]

theorem Sound.charged {amount : Int} (sound : Sound g) (found : g.owners.lookup owner = some o)
    (at_lane : g.lanes.lookup o.lane = some slot) (listed : owner ∈ slot.owners) (fit : Fit o') (home : o'.lane = o.lane)
    (state : o'.state = o.state) (stays : inSlot o.closing → inSlot o'.closing)
    (held : charge o' = charge o + amount) (theirs : ∀ lease ∈ leases o', lease.slot = slot.id)
    (lanes : slot.growth + amount ≤ laneLimit) (limit : g.growth + amount ≤ aggregateGenerationGrowthBytes) :
    Sound { (g.setSlot o.lane { slot with growth := slot.growth + amount }).setOwner owner o' with
      growth := g.growth + amount } := by
  have slotted := sound.slots o.lane slot at_lane
  exact sound.change found at_lane listed fit home stays rfl rfl (slotted.keeps found state)
    (fun key serves => ((slotted.serving key).mp serves).1) held theirs rfl lanes limit

theorem Sound.setOwner (sound : Sound g) (found : g.owners.lookup owner = some o) (fit : Fit o') (home : o'.lane = o.lane)
    (state : o'.state = o.state) (held : leases o' = leases o) (stays : inSlot o'.closing = inSlot o.closing) :
    Sound (g.setOwner owner o') := by
  have charged : charge o' = charge o := by rw [charge,held,charge]
  refine ⟨forall_insert sound.fresh (sound.fresh owner o found),forall_insert sound.fit fit,
    forall_insert sound.mem ?_,?_,?_,sound.lanes,sound.limit⟩
  · rw [home,held,stays]
    exact sound.mem owner o found
  · intro lane slot at_lane
    have slotted := sound.slots lane slot at_lane
    have costs : slot.growth = slot.growth - chargeOn lane o + chargeOn lane o' := by
      simp [chargeOn,home,charged]
    exact slotted.setOwner found home (fun inside => stays ▸ inside) rfl (slotted.keeps found state)
      (fun key serves => ((slotted.serving key).mp serves).1) costs slotted.limit
  · change g.growth = Table.total charge (g.owners.insert owner o')
    rw [total_insert _ _ found,sound.total]
    omega

theorem Sound.unowned (sound : Sound g) (absent : g.lanes.lookup lane = none) :
    Table.total (chargeOn lane) g.owners = 0 := by
  apply total_eq_zero
  intro key other found
  by_cases home : other.lane = lane
  · cases inside : inSlot other.closing with
    | false => simp [chargeOn,(sound.fit key other found).charge_gone inside]
    | true =>
      obtain ⟨_,present,_⟩ := sound.mem key other found inside
      rw [home,absent] at present
      cases present
  · exact if_neg home

theorem Sound.prepaid (sound : Sound g) (absent : g.lanes.lookup lane = none) (empty : slot.owners = [])
    (idle : slot.serving = none) (zero : slot.growth = 0) : Sound (g.setSlot lane slot) := by
  refine ⟨sound.fresh,sound.fit,?_,?_,sound.total,?_,sound.limit⟩
  · intro key other found inside
    obtain ⟨home,present,listed⟩ := sound.mem key other found inside
    refine ⟨home,lookup_setSlot.mpr (.inr ⟨?_,present⟩),listed⟩
    intro same
    rw [same,absent] at present
    cases present
  · intro key found present
    rcases lookup_setSlot.mp present with ⟨rfl,rfl⟩ | ⟨_,elsewhere⟩
    · refine ⟨by simp [empty],by simp [empty],by simp [empty],by simp [empty,idle],?_,by rw [zero]; decide⟩
      rw [zero]
      exact (sound.unowned absent).symm
    · exact (sound.slots key found elsewhere).owners rfl
  · change g.growth = Table.total LaneOwnerSlot.growth (g.lanes.insert lane slot)
    rw [total_insert_fresh _ _ absent,zero,zero_add]
    exact sound.lanes

theorem Slotted.enrolled (slotted : Slotted g lane slot) (unknown : g.owners.lookup owner = none)
    (uncharged : charge o' = 0) : Slotted (g.setOwner owner o') lane slot := by
  refine slotted.elsewhere (fun listed => ?_) ?_
  · obtain ⟨_,owned,_⟩ := slotted.owned owner listed
    cases unknown.symm.trans owned
  · rw [total_insert_fresh _ _ unknown]
    simp [chargeOn,uncharged]

theorem Slotted.joined (slotted : Slotted g lane slot) (room : slot.owners.length < 2) (absent : owner ∉ slot.owners)
    (found : g.owners.lookup owner = some o) (home : o.lane = lane) (inside : inSlot o.closing)
    (state : o.state ≠ .serving) : Slotted g lane { slot with owners := owner :: slot.owners } := by
  refine ⟨nodup_cons.mpr ⟨absent,slotted.nodup⟩,?_,?_,?_,slotted.growth,slotted.limit⟩
  · rw [length_cons]
    omega
  · intro key listed
    rcases mem_cons.mp listed with rfl | listed
    · exact ⟨o,found,home,inside⟩
    · exact slotted.owned key listed
  · intro key
    rw [slotted.serving key]
    constructor
    · rintro ⟨listed,serving⟩
      exact ⟨mem_cons_of_mem _ listed,serving⟩
    · rintro ⟨listed,other,owned,serving⟩
      rcases mem_cons.mp listed with rfl | listed
      · cases found.symm.trans owned
        exact absurd serving state
      · exact ⟨listed,other,owned,serving⟩

theorem Sound.unknown (sound : Sound g) : g.owners.lookup g.nextOwner = none := Table.absent_of_below sound.fresh

theorem Sound.join (sound : Sound g) (found : g.lanes.lookup lane = some slot) (room : slot.owners.length < 2) :
    Sound (enter g lane slot id) := by
  have unknown := sound.unknown
  have uncharged : charge { lane, id } = 0 := rfl
  have absent : g.nextOwner ∉ slot.owners := by
    intro listed
    obtain ⟨_,owned,_⟩ := (sound.slots lane slot found).owned _ listed
    cases unknown.symm.trans owned
  refine ⟨forall_insert (fun key other present => Nat.lt_succ_of_lt (sound.fresh key other present))
    (Nat.lt_succ_self _),forall_insert sound.fit ⟨by simp,fun _ => rfl,nofun,nofun,rfl⟩,
    forall_insert (fun key other present inside => sound.placed found rfl present inside (mem_cons_of_mem _))
      fun _ => ⟨_,lookup_setSlot.mpr (.inl ⟨rfl,rfl⟩),mem_cons_self,nofun⟩,?_,?_,?_,sound.limit⟩
  · intro key other present
    rcases lookup_setSlot.mp present with ⟨rfl,rfl⟩ | ⟨_,elsewhere⟩
    · have slotted : Slotted (g.setOwner g.nextOwner { lane := key, id }) key slot :=
        (sound.slots key slot found).enrolled unknown uncharged
      have place := lookup_insert (a := g.nextOwner) (b := ({ lane := key, id } : LaneOwner)) g.owners
      exact (slotted.joined room absent place rfl rfl (by simp)).owners rfl
    · have slotted : Slotted (g.setOwner g.nextOwner { lane, id }) key other :=
        (sound.slots key other elsewhere).enrolled unknown uncharged
      exact slotted.owners rfl
  · change g.growth = Table.total charge (g.owners.insert g.nextOwner { lane, id })
    rw [total_insert_fresh _ _ unknown,uncharged,zero_add]
    exact sound.total
  · change g.growth = Table.total LaneOwnerSlot.growth (g.lanes.insert lane { slot with owners := g.nextOwner :: slot.owners })
    rw [total_insert _ _ found,sound.lanes]
    exact (sub_add_cancel _ _).symm

def Occupied (g : LaneOwners) : Prop := ∀ lane slot, g.lanes.lookup lane = some slot → slot.owners ≠ []

theorem Sound.opened (sound : Sound g) (absent : g.lanes.lookup lane = none) (id : String) (reserved : Int) :
    Sound (enter (prepay g lane reserved) lane (newSlot g reserved) id) := by
  have empty : Sound (g.setSlot lane (newSlot g reserved)) := sound.prepaid absent rfl rfl rfl
  have prepaid : Sound (prepay g lane reserved) := empty.agrees ⟨rfl,rfl,rfl,rfl⟩
  exact prepaid.join (lookup_setSlot.mpr (.inl ⟨rfl,rfl⟩)) Nat.two_pos

theorem Occupied.setSlot (occupied : Occupied g) (inhabited : slot'.owners ≠ [])
    (lanes : next.lanes = g.lanes.insert lane slot') : Occupied next := by
  unfold Occupied
  rw [lanes]
  exact forall_insert occupied inhabited

theorem leases_lend (attached : o.growth = some growth) (unclosed : o.closing = .no) :
    leases (lend o growth lease) = leases o ++ [lease] := by
  simp [leases,retained,lend,attached,unclosed,unsettled]

theorem Fit.lend (fit : Fit o) (attached : o.growth = some growth) (unclosed : o.closing = .no)
    (nonneg : 0 ≤ lease.bytes) : Fit (lend o growth lease) := by
  refine ⟨fit.fenced,fun unattached => ?_,fun released => ?_,?_,fit.opens⟩
  · exact nomatch attached.symm.trans (fit.unattached unattached)
  · change hasReleased o.closing at released
    rw [unclosed] at released
    cases released
  · rw [leases_lend attached unclosed]
    intro held mem
    rcases mem_append.mp mem with before | new
    · exact fit.bytes held before
    · rw [mem_singleton.mp new]
      exact nonneg

theorem Fit.unclosed (fit : Fit o) (unfenced : o.closed = false) : o.closing = .no := by
  by_contra begun
  exact nomatch unfenced.symm.trans (fit.fenced.mpr begun)

theorem Sound.grown {bytes : Int} (sound : Sound g) (found : g.owners.lookup owner = some o)
    (attached : o.growth = some growth) (at_lane : g.lanes.lookup o.lane = some slot) (unfenced : o.closed = false)
    (positive : 0 ≤ bytes) (lanes : slot.growth + bytes ≤ laneLimit)
    (group : g.growth + bytes ≤ aggregateGenerationGrowthBytes) :
    Sound { (g.setSlot o.lane { slot with growth := slot.growth + bytes }).setOwner owner
      (lend o growth ⟨slot.id,bytes,g.nextReservation⟩) with growth := g.growth + bytes } := by
  have unclosed := (sound.fit owner o found).unclosed unfenced
  obtain ⟨_,there,listed,theirs⟩ := sound.mem owner o found (by simp [unclosed,inSlot])
  cases at_lane.symm.trans there
  have slots : ∀ lease ∈ leases (lend o growth ⟨slot.id,bytes,g.nextReservation⟩), lease.slot = slot.id := by
    rw [leases_lend attached unclosed]
    intro lease mem
    rcases mem_append.mp mem with before | new
    · exact theirs lease before
    · rw [mem_singleton.mp new]
  have lent : charge (lend o growth ⟨slot.id,bytes,g.nextReservation⟩) = charge o + bytes := by
    rw [charge,leases_lend attached unclosed,charge]
    simp
  exact sound.charged found at_lane listed ((sound.fit owner o found).lend attached unclosed positive) rfl rfl
    (fun inside => inside) lent slots lanes group

theorem Sound.role {state : LaneOwnerState} {serving : Option Nat} (sound : Sound g)
    (found : g.owners.lookup owner = some o) (inside : inSlot o.closing) (home : o.lane = lane)
    (at_lane : g.lanes.lookup lane = some slot)
    (names : ∀ key, serving = some key ↔ (key = owner ∧ state = .serving) ∨ (key ≠ owner ∧ slot.serving = some key)) :
    Sound ((g.setSlot lane { slot with serving }).setOwner owner { o with state }) := by
  subst home
  obtain ⟨_,there,listed,theirs⟩ := sound.mem owner o found inside
  cases at_lane.symm.trans there
  have slotted := sound.slots o.lane slot at_lane
  have fit := sound.fit owner o found
  have held : charge { o with state } = charge o + 0 := (add_zero _).symm
  have limit : g.growth + 0 ≤ aggregateGenerationGrowthBytes := (add_zero g.growth).symm ▸ sound.limit
  have named : ∀ key, serving = some key → key ∈ slot.owners := by
    intro key serves
    rcases (names key).mp serves with ⟨rfl,_⟩ | ⟨_,before⟩
    · exact listed
    · exact ((slotted.serving key).mp before).1
  have changed : Sound { (g.setSlot o.lane { slot with serving }).setOwner owner { o with state } with
      growth := g.growth + 0 } :=
    sound.change found at_lane listed { fit with } rfl (fun inside => inside)
      rfl rfl (fun key _ => names key) named held theirs (add_zero _).symm slotted.limit limit
  exact changed.agrees ⟨rfl,rfl,(add_zero _).symm,rfl⟩

section

variable (sound : Sound g) (found : g.owners.lookup owner = some o) (unfenced : o.closed = false)
  (at_lane : g.lanes.lookup o.lane = some slot)
include sound found unfenced at_lane

theorem Sound.published (vacant : slot.serving = none) : Sound (serve g owner o slot) := by
  have inside : inSlot o.closing := by rw [(sound.fit owner o found).unclosed unfenced]; rfl
  apply sound.role found inside rfl at_lane
  intro key
  simp [vacant,eq_comm]

/-- First the old owner drains and nobody serves, then the new owner serves. -/
theorem Sound.replaced {old : Nat} {served : LaneOwner} (serving : slot.serving = some old)
    (other : g.owners.lookup old = some served) (different : owner ≠ old) :
    Sound (serve (g.setOwner old { served with state := .draining }) owner o slot) := by
  have slotted := sound.slots o.lane slot at_lane
  obtain ⟨_,again,home,inside⟩ := slotted.owned old ((slotted.serving old).mp serving).1
  cases other.symm.trans again
  have vacant : Sound ((g.setSlot o.lane { slot with serving := none }).setOwner old { served with state := .draining }) := by
    apply sound.role other inside home at_lane
    intro _
    simp only [reduceCtorEq,and_false,false_or,false_iff,not_and,serving,Option.some.injEq]
    exact fun apart same => apart same.symm
  exact (vacant.published (lookup_setOwner.mpr (.inr ⟨different,found⟩)) unfenced (lookup_setSlot.mpr (.inl ⟨rfl,rfl⟩))
    rfl).agrees ⟨rfl,(insert_insert ..).symm,rfl,rfl⟩

end

theorem Sound.settled {pending : List GrowthLease} (sound : Sound g) (found : g.owners.lookup owner = some o)
    (stage : o.closing = .refunded lease pending) (at_lane : g.lanes.lookup o.lane = some slot) :
    Sound { (g.setSlot o.lane { slot with growth := slot.growth + -lease.bytes }).setOwner owner
      { o with closing := .releasing pending } with growth := g.growth + -lease.bytes } := by
  have fit := sound.fit owner o found
  have none : retained o = [] := fit.released (by rw [stage]; rfl)
  have held : leases o = lease :: pending := by
    rw [leases,none,stage]
    rfl
  have left : leases { o with closing := .releasing pending } = pending := by
    change retained o ++ pending = pending
    rw [none,nil_append]
  obtain ⟨_,there,listed,theirs⟩ := sound.mem owner o found (by rw [stage]; rfl)
  cases at_lane.symm.trans there
  rw [held] at theirs
  have slotted := sound.slots o.lane slot at_lane
  have nonneg : 0 ≤ lease.bytes := fit.bytes lease (held ▸ mem_cons_self)
  have fit' : Fit { o with closing := .releasing pending } := by
    refine ⟨?_,fit.unattached,fun _ => none,?_,fit.opens⟩
    · have closed := fit.fenced.mpr (by rw [stage]; simp)
      simp [closed]
    · rw [left]
      exact fun other mem => fit.bytes other (held ▸ mem_cons_of_mem _ mem)
  have cost : charge { o with closing := .releasing pending } = charge o + -lease.bytes := by
    rw [charge,left,charge,held,map_cons,sum_cons]
    omega
  have limits : slot.growth + -lease.bytes ≤ laneLimit ∧ g.growth + -lease.bytes ≤ aggregateGenerationGrowthBytes := by
    have lane := slotted.limit
    have group := sound.limit
    omega
  have slots : ∀ other ∈ leases { o with closing := .releasing pending }, other.slot = slot.id := by
    rw [left]
    exact fun other mem => theirs other (mem_cons_of_mem _ mem)
  exact sound.charged found at_lane listed fit' rfl rfl (fun _ => rfl) cost slots limits.1 limits.2

theorem Sound.empties (sound : Sound g) (at_lane : g.lanes.lookup lane = some slot)
    (found : g.owners.lookup owner = some o) (holds : leases o = []) (alone : slot.owners.erase owner = []) :
    slot.growth = 0 := by
  have slotted := sound.slots lane slot at_lane
  rw [slotted.growth]
  apply total_eq_zero
  intro key other present
  by_cases home : other.lane = lane
  · rw [chargeOn,if_pos home]
    cases inside : inSlot other.closing with
    | false => exact (sound.fit key other present).charge_gone inside
    | true =>
      obtain ⟨_,there,listed,_⟩ := sound.mem key other present inside
      rw [home,at_lane,Option.some.injEq] at there
      subst there
      by_cases itself : key = owner
      · subst itself
        cases found.symm.trans present
        rw [charge,holds]
        rfl
      · have left : key ∈ slot.owners.erase owner := (mem_erase_of_ne itself).mpr listed
        rw [alone] at left
        cases left
  · exact if_neg home

theorem Fit.leaves (fit : Fit o) (baseline : Option Nat) (stage : o.closing = .releasing []) :
    Fit (leave o baseline) ∧ leases o = [] ∧ leases (leave o baseline) = [] := by
  have none : retained o = [] := fit.released (by rw [stage]; rfl)
  have empty : leases (leave o baseline) = [] := by
    change retained o ++ [] = []
    rw [none,nil_append]
  have closed : o.closed := fit.fenced.mpr (by rw [stage]; simp)
  refine ⟨⟨?_,fit.unattached,fun _ => none,?_,fit.opens⟩,?_,empty⟩
  · simp [leave,closed]
  · rw [empty]
    exact nofun
  · rw [leases,none,stage]
    rfl

theorem Slotted.left (slotted : Slotted g lane slot) (found : g.owners.lookup owner = some o)
    (same : chargeOn lane o' = chargeOn lane o) : Slotted (g.setOwner owner o') lane (without slot owner) := by
  refine ⟨slotted.nodup.erase _,(length_erase_le ..).trans slotted.pair,?_,?_,?_,slotted.limit⟩
  · intro key inside
    obtain ⟨apart,before⟩ := (slotted.nodup.mem_erase_iff).mp inside
    obtain ⟨other,owned,home,within⟩ := slotted.owned key before
    exact ⟨other,lookup_setOwner.mpr (.inr ⟨apart,owned⟩),home,within⟩
  · intro key
    have serves := slotted.serving key
    by_cases itself : key = owner
    · subst itself
      by_cases serving : slot.serving = some key <;> simp [without,slotted.nodup.mem_erase_iff,serving]
    · have served : (without slot owner).serving = some key ↔ slot.serving = some key := by
        by_cases serving : slot.serving = some owner <;> simp [without,serving,Ne.symm itself]
      rw [served,serves]
      simp [without,slotted.nodup.mem_erase_iff,itself,lookup_setOwner]
  · change slot.growth = Table.total (chargeOn lane) (g.owners.insert owner o')
    rw [total_insert _ _ found,slotted.growth]
    omega

section

variable (sound : Sound g) (found : g.owners.lookup owner = some o)
include sound found

theorem Sound.leaves (baseline : Option Nat) (stage : o.closing = .releasing [])
    (owners : next.owners = g.owners.insert owner (leave o baseline)) (counter : next.nextOwner = g.nextOwner)
    (growth : next.growth = g.growth)
    (mem : ∀ key other, key ≠ owner → g.owners.lookup key = some other → inSlot other.closing →
      ∃ slot, next.lanes.lookup other.lane = some slot ∧ key ∈ slot.owners ∧ ∀ lease ∈ leases other, lease.slot = slot.id)
    (slots : ∀ lane slot, next.lanes.lookup lane = some slot → (lane ≠ o.lane ∧ g.lanes.lookup lane = some slot) ∨
      Slotted (g.setOwner owner (leave o baseline)) lane slot)
    (lanes : g.growth = Table.total LaneOwnerSlot.growth next.lanes) : Sound next := by
  obtain ⟨fit,before,after⟩ := (sound.fit owner o found).leaves baseline stage
  refine ⟨?_,?_,?_,fun lane slot present => ?_,?_,growth.trans lanes,growth ▸ sound.limit⟩
  · rw [owners,counter]
    exact forall_insert sound.fresh (sound.fresh owner o found)
  · rw [owners]
    exact forall_insert sound.fit fit
  · rw [owners]
    intro key other present inside
    rcases of_lookup_insert present with ⟨rfl,rfl⟩ | ⟨different,elsewhere⟩
    · cases inside
    · exact mem key other different elsewhere inside
  · rcases slots lane slot present with ⟨different,elsewhere⟩ | slotted
    · have slotted : Slotted (g.setOwner owner (leave o baseline)) lane slot :=
        (sound.slots lane slot elsewhere).setElsewhere found rfl (Ne.symm different)
      exact slotted.owners owners
    · exact slotted.owners owners
  · rw [growth,owners,total_insert _ _ found,sound.total]
    simp [charge,before,after]

section

variable (stage : o.closing = .releasing []) (at_lane : g.lanes.lookup o.lane = some slot)
include stage at_lane

theorem Sound.emptied (alone : slot.owners.erase owner = []) :
    Sound { g.setOwner owner (leave o (some slot.release)) with lanes := g.lanes.erase o.lane } := by
  have left {key : Nat} (different : key ≠ owner) (mem : key ∈ slot.owners) : False := by
    have kept := (mem_erase_of_ne different).mpr mem
    rw [alone] at kept
    cases kept
  refine sound.leaves found (some slot.release) stage rfl rfl rfl ?_ (fun _ _ present => .inl (of_lookup_erase present)) ?_
  · intro key other different elsewhere inside
    obtain ⟨there,at_there,mem,theirs⟩ := sound.mem key other elsewhere inside
    refine ⟨there,(lookup_erase_ne fun here => ?_).trans at_there,mem,theirs⟩
    rw [here,at_lane,Option.some.injEq] at at_there
    exact left different (at_there ▸ mem)
  · have zero := sound.empties at_lane found ((sound.fit owner o found).leaves none stage).2.1 alone
    have split := total_erase LaneOwnerSlot.growth g.lanes at_lane
    rw [← sound.lanes,zero,zero_add] at split
    exact split

theorem Sound.left : Sound ((g.setSlot o.lane (without slot owner)).setOwner owner (leave o none)) := by
  obtain ⟨_,before,after⟩ := (sound.fit owner o found).leaves none stage
  refine sound.leaves found none stage rfl rfl rfl ?_ (fun key other present => ?_) ?_
  · intro _ _ different elsewhere inside
    exact sound.placed at_lane rfl elsewhere inside (mem_erase_of_ne different).mpr
  · rcases lookup_setSlot.mp present with ⟨rfl,rfl⟩ | elsewhere
    · refine .inr ((sound.slots o.lane slot at_lane).left found ?_)
      rw [chargeOn,charge,after,chargeOn,charge,before]
      rfl
    · exact .inl elsewhere
  · change g.growth = Table.total LaneOwnerSlot.growth (g.lanes.insert o.lane _)
    rw [total_insert _ _ at_lane,sound.lanes]
    exact (sub_add_cancel _ _).symm

end

theorem Sound.advance (home : o'.lane = o.lane)
    (state : o'.state = o.state) (held : leases o' = leases o) (stays : inSlot o'.closing = inSlot o.closing)
    (closed : o'.closed) (begun : o'.closing ≠ .no) (unattached : o'.session = none → o'.growth = none)
    (released : hasReleased o'.closing → retained o' = []) (opens : o'.openingCount = o'.pinned + o'.finishing) :
    Sound (g.setOwner owner o') := by
  have bytes : ∀ lease ∈ leases o', 0 ≤ lease.bytes := by
    rw [held]
    exact (sound.fit owner o found).bytes
  exact sound.setOwner found ⟨by simp [closed,begun],unattached,released,bytes,opens⟩ home state held stays

end

theorem leases_touched (touches : Touches o o') : leases o' = leases o := by
  rw [LaneSteps.leases,retained,touches.growth,touches.closing]
  rfl

theorem Sound.touched (sound : Sound g) (found : g.owners.lookup owner = some o) (touches : Touches o o') :
    Sound (g.setOwner owner o') := by
  have fit := sound.fit owner o found
  have held := leases_touched touches
  refine sound.setOwner found ⟨?_,?_,?_,?_,touches.opens fit.opens⟩ touches.lane touches.state held (by rw [touches.closing])
  · rw [touches.closed,touches.closing]
    exact fit.fenced
  · rw [touches.session,touches.growth]
    exact fit.unattached
  · rw [touches.closing,retained,touches.growth]
    exact fit.released
  · rw [held]
    exact fit.bytes

theorem retained_withSession (o : LaneOwner) (session : Session) : retained (withSession o session) = [] := by
  unfold retained withSession
  cases session.aggregateFlowControlEnabled <;> rfl

theorem Sound.detached (sound : Sound g) (found : g.owners.lookup owner = some o) (free : o.session = none) :
    retained o = [] := by
  simp [retained,(sound.fit owner o found).unattached free]

theorem Sound.attached (sound : Sound g) (found : g.owners.lookup owner = some o) (free : o.session = none)
    (session : Session) : Sound (g.setOwner owner (withSession o session)) := by
  have fit := sound.fit owner o found
  have held : leases (withSession o session) = leases o := by
    rw [leases,leases,retained_withSession,sound.detached found free]
    rfl
  exact sound.setOwner found ⟨fit.fenced,nofun,fun _ => retained_withSession o session,held ▸ fit.bytes,fit.opens⟩ rfl rfl held rfl

theorem releases_closing (growth : Option Growth) :
    ((growth.map fun _ => ({ closing := true } : Growth)).map Growth.releases).getD [] = [] := by
  cases growth <;> rfl

theorem sound_lane (sound : Sound g) (step : LaneStep g events next) : Sound next := by
  cases step with
  | quiet | observe | republished => exact sound
  | fence => exact sound.agrees ⟨rfl,rfl,rfl,rfl⟩
  | entered found room => exact sound.join found room
  | opened absent id reserved => exact sound.opened absent id reserved
  | attached found free session => exact sound.attached found free session
  | grown found attached at_lane unfenced positive lane group =>
    exact (sound.grown found attached at_lane unfenced positive lane group).agrees ⟨rfl,rfl,rfl,rfl⟩
  | published _ found unfenced at_lane vacant => exact sound.published found unfenced at_lane vacant
  | replaced _ found unfenced at_lane serving other different =>
    exact sound.replaced found unfenced at_lane serving other different
  | touch found touches | begin found _ _ touches => exact sound.touched found touches
  | fenced found stage =>
    have fit := sound.fit _ _ found
    refine sound.advance found rfl rfl ?_ ?_ rfl (by simp) fit.unattached nofun fit.opens
    · simp [leases,retained,stage,unsettled]
    · simp [stage,inSlot]
  | joined found stage =>
    have fit := sound.fit _ _ found
    refine sound.advance found rfl rfl ?_ ?_ (fit.fenced.mpr (by simp [stage])) (by simp) fit.unattached nofun fit.opens
    · simp [leases,retained,stage,unsettled]
    · simp [stage,inSlot]
  | released found stage =>
    have fit := sound.fit _ _ found
    refine sound.advance found rfl rfl ?_ ?_ (fit.fenced.mpr (by simp [stage])) (by simp) (fun unattached => ?_)
      (fun _ => releases_closing _) fit.opens
    · simp only [leases,retained,releases_closing,stage,unsettled,nil_append,append_nil]
    · simp [stage,inSlot]
    · simp [fit.unattached unattached]
  | settled found stage at_lane => exact sound.settled found stage at_lane
  | emptied found stage at_lane alone => exact sound.emptied found stage at_lane alone
  | left found stage at_lane => exact sound.left found stage at_lane
  | refunded found stage | finished found stage =>
    have fit := sound.fit _ _ found
    refine sound.advance found rfl rfl ?_ ?_ (fit.fenced.mpr (by simp [stage])) (by simp) fit.unattached
      (fun _ => fit.released (by simp [stage,hasReleased])) fit.opens
    · simp [leases,retained,stage,unsettled]
    · simp [stage,inSlot]

theorem Sound.places (sound : Sound g) : Placed g := by
  refine ⟨sound.mem,fun lane slot owner found serving => ?_⟩
  obtain ⟨_,o,present,_⟩ := ((sound.slots lane slot found).serving owner).mp serving
  exact ⟨o,present⟩

theorem Occupied.lanes (occupied : Occupied g) (lanes : next.lanes = g.lanes) : Occupied next := by
  unfold Occupied
  rwa [lanes]

theorem occupied_lane (occupied : Occupied g) (step : LaneStep g events next) : Occupied next := by
  cases step with
  | quiet | observe | republished => exact occupied
  | entered => exact occupied.setSlot (cons_ne_nil _ _) rfl
  | opened => exact occupied.setSlot (cons_ne_nil _ _) (insert_insert ..)
  | grown _ _ at_lane | published _ _ _ at_lane | replaced _ _ _ at_lane | settled _ _ at_lane =>
    have inhabited := occupied _ _ at_lane
    exact occupied.setSlot (by exact inhabited) rfl
  | emptied => exact fun key other present => occupied key other (of_lookup_erase present).2
  | left _ _ _ others => exact occupied.setSlot others rfl
  | _ => exact occupied.lanes rfl

end P2pstream.LaneOwnership
