import P2pstream.Library.Checks
import P2pstream.AgentCapacityLedger

/-! The sections of the agent's runtime: what each of them does to the counters, and when it admits.
-/
namespace P2pstream.AgentCapacitySteps
open Library Kernel.AdaptiveMemory Kernel.AgentCapacity Semantics.AgentCapacity Checks Prod

variable {r r' : Runtime} {s next : System} {sample : Sample} {events : List Event}

/-- Two runtimes with the same counters; controller, limits and rejections may differ. -/
structure SameCounters (r r' : Runtime) : Prop where
  inUse : r'.inUse = r.inUse
  controlInUse : r'.controlInUse = r.controlInUse
  controlReservedSlots : r'.controlReservedSlots = r.controlReservedSlots
  booked : booked r' = booked r

namespace SameCounters

theorem refl (r : Runtime) : SameCounters r r := ⟨rfl,rfl,rfl,rfl⟩

theorem holdings (same : SameCounters s.runtime r) : holdings { s with runtime := r } = holdings s := by
  unfold Semantics.AgentCapacity.holdings
  rw [same.inUse,same.controlInUse,same.controlReservedSlots,same.booked]

end SameCounters

variable {force granted : Bool} {resource : Option Snapshot} {bytes slots : Int} {session session' : ControlSession}
  {id : Nat}

theorem sample_same (ran : r.sample sample force = (r',resource)) : ∃ controller, r' = { r with controller } := by
  unfold Runtime.sample at ran
  split at ran
  · cases ran
    exact ⟨r.controller,rfl⟩
  · cases ran
    exact ⟨_,rfl⟩

theorem sample_none (ran : r.sample sample force = (r',none)) : r.controller = none ∧ r' = r := by
  unfold Runtime.sample at ran
  split at ran
  · rename_i absent
    exact ⟨absent,(mk.inj ran).1.symm⟩
  · cases (mk.inj ran).2

theorem snapshot_same (r : Runtime) (sample : Sample) (force : Bool) :
    ∃ controller, (r.snapshotLockedWithForce sample force).1 = { r with controller } := by
  unfold Runtime.snapshotLockedWithForce
  split
  · rename_i ran
    exact sample_same ran
  · rename_i ran
    exact sample_same ran

theorem finish_same (r : Runtime) (sample : Sample) (signalled : Bool) :
    SameCounters r (r.finishActiveRelease sample signalled).1 := by
  simp only [Runtime.finishActiveRelease]
  split
  · obtain ⟨_,same⟩ := snapshot_same { r with scavengeNeeded := signalled } sample false
    rw [same]
    exact ⟨rfl,rfl,rfl,rfl⟩
  · exact ⟨rfl,rfl,rfl,rfl⟩

def AdmitsStream (r : Runtime) (resource : Snapshot) : Prop := resource.rejectNew = false ∧
    r.inUse < max 0 (resource.admissionLimitWithExternal (r.windowBytes + r.sessionBytes) 0 - r.controlReservedSlots)

theorem tryAcquire_cases {snapshot : CapacitySnapshot} (ran : r.tryAcquire sample = (r',snapshot,granted)) :
    ∃ sampled, r.sample sample false = (sampled,snapshot.resource) ∧
      ((granted = false ∧ SameCounters r r' ∧ r'.controller = sampled.controller) ∨
        (granted ∧ r' = { sampled with inUse := sampled.inUse + 1 } ∧ sampled.actualInUse < sampled.maximum ∧
          ∀ resource, snapshot.resource = some resource → AdmitsStream sampled resource)) := by
  cases taken : r.sample sample false with
  | mk sampled resource =>
    cases looked : r.snapshotLockedWithForce sample false with
    | mk left view =>
      -- The snapshot shows the sampled resource and its limit on ordinary streams.
      have seen : left = sampled ∧ view.resource = resource ∧ ∀ snapshot, resource = some snapshot →
          view.ordinaryAdmissionLimit ≤ sampled.ordinaryResourceLimit snapshot := by
        unfold Runtime.snapshotLockedWithForce at looked
        rw [taken] at looked
        cases resource with
        | none =>
          cases looked
          exact ⟨rfl,rfl,fun _ never => (nomatch never)⟩
        | some =>
          cases looked
          refine ⟨rfl,rfl,fun other same => ?_⟩
          cases same
          exact min_le_left _ _
      obtain ⟨rfl,shown,limited⟩ := seen
      unfold Runtime.tryAcquire at ran
      rw [looked] at ran
      dsimp only at ran
      split at ran
      · cases ran
        refine ⟨_,by rw [← shown],.inl ⟨rfl,?_,by split <;> rfl⟩⟩
        obtain ⟨_,rfl⟩ := sample_same taken
        split <;> exact ⟨rfl,rfl,rfl,rfl⟩
      · rename_i free
        cases ran
        refine ⟨_,by rw [← shown],.inr ⟨rfl,rfl,by omega,fun snapshot same => ?_⟩⟩
        have limit := limited snapshot (shown.symm.trans same)
        unfold Runtime.ordinaryResourceLimit at limit
        split at limit
        · omega
        · rename_i accepts
          exact ⟨by simpa using accepts,by omega⟩

theorem proposedExternal_spec {proposed : Int} (ok : r.proposedExternal bytes = some proposed) :
    0 ≤ bytes ∧ 0 ≤ r.windowBytes ∧ 0 ≤ r.sessionBytes ∧ proposed = r.windowBytes + r.sessionBytes + bytes := by
  unfold Runtime.proposedExternal at ok
  split_ifs at ok
  cases ok
  exact ⟨by omega,by omega,by omega,rfl⟩

def AdmitsBytes (r : Runtime) (resource : Snapshot) (bytes slots : Int) : Prop :=
  resource.rejectNew = false ∧ r.chargedAdmissions + slots ≤
    resource.admissionLimitWithExternal (r.windowBytes + r.sessionBytes + bytes) 0

theorem tryReserveReceive_cases {owner : Owner}
    (ran : r.tryReserveOwnedReceiveResource sample bytes owner = (r',resource,granted)) :
    ∃ sampled, r.sample sample false = (sampled,resource) ∧
      ((resource = none ∧ granted ∧ r' = sampled) ∨ (granted = false ∧ r' = sampled) ∨
        ∃ snapshot, resource = some snapshot ∧ granted ∧ r' = sampled.charge owner bytes ∧ 0 ≤ bytes ∧
          AdmitsBytes sampled snapshot bytes 0) := by
  unfold Runtime.tryReserveOwnedReceiveResource at ran
  cases taken : r.sample sample false with
  | mk _ seen =>
    rw [taken] at ran
    cases seen with
    | none =>
      cases ran
      exact ⟨_,rfl,.inl ⟨rfl,rfl,rfl⟩⟩
    | some snapshot =>
      dsimp only at ran
      split at ran
      · cases ran
        exact ⟨_,rfl,.inr (.inl ⟨rfl,rfl⟩)⟩
      · rename_i proposed ok
        obtain ⟨nonneg,_,_,rfl⟩ := proposedExternal_spec ok
        split at ran
        · cases ran
          exact ⟨_,rfl,.inr (.inl ⟨rfl,rfl⟩)⟩
        · rename_i admitted
          cases ran
          rw [not_or,Bool.not_eq_true] at admitted
          exact ⟨_,rfl,.inr (.inr ⟨snapshot,rfl,rfl,rfl,nonneg,admitted.1,by omega⟩)⟩

theorem tryReserveSession_cases (ran : r.tryReserveControlSession sample bytes slots = (r',resource,granted)) :
    (granted = false ∧ r' = r) ∨ ∃ sampled, r.sample sample false = (sampled,resource) ∧
      ((granted = false ∧ r' = sampled) ∨ (granted ∧ 0 ≤ bytes ∧ 1 ≤ slots ∧ r' = { sampled with
          sessionBytes := sampled.sessionBytes + bytes
          legacyControlSupplementBytes := sampled.legacyControlSupplementBytes + bytes
          controlReservedSlots := sampled.controlReservedSlots + slots } ∧
        ∀ snapshot, resource = some snapshot → AdmitsBytes sampled snapshot bytes slots)) := by
  unfold Runtime.tryReserveControlSession at ran
  split at ran
  · obtain ⟨rfl,rest⟩ := mk.inj ran
    exact .inl ⟨(mk.inj rest).2.symm,rfl⟩
  · rename_i accepted
    split at ran
    · obtain ⟨rfl,rest⟩ := mk.inj ran
      exact .inl ⟨(mk.inj rest).2.symm,rfl⟩
    · rename_i proposed ok
      obtain ⟨nonneg,_,_,rfl⟩ := proposedExternal_spec ok
      dsimp only at ran
      split at ran
      · obtain ⟨rfl,rest⟩ := mk.inj ran
        exact .inl ⟨(mk.inj rest).2.symm,rfl⟩
      · cases taken : r.sample sample false with
        | mk sampled =>
          rw [taken] at ran
          obtain ⟨_,same⟩ := sample_same taken
          have charged : sampled.chargedAdmissions = r.chargedAdmissions := by rw [same]; rfl
          have external : sampled.windowBytes + sampled.sessionBytes = r.windowBytes + r.sessionBytes := by rw [same]
          split at ran
          · cases ran
            exact .inr ⟨_,rfl,.inl ⟨rfl,rfl⟩⟩
          · rename_i admitted
            cases ran
            refine .inr ⟨_,rfl,.inr ⟨rfl,nonneg,by omega,rfl,fun snapshot same => ?_⟩⟩
            subst same
            simp only [Option.any_some,Bool.or_eq_true,decide_eq_true_eq,not_or,Bool.not_eq_true,not_lt] at admitted
            unfold AdmitsBytes
            rw [charged,external]
            exact admitted

theorem booked_charge (r : Runtime) (owner : Owner) (bytes : Int) (account : Account) :
    booked (r.charge owner bytes) account = booked r account + if account.takes owner then bytes else 0 := by
  cases owner <;> cases account <;> simp [Runtime.charge,booked,Account.takes]

theorem charge_counters (r : Runtime) (owner : Owner) (bytes : Int) :
    (r.charge owner bytes).inUse = r.inUse ∧ (r.charge owner bytes).controlInUse = r.controlInUse ∧
      (r.charge owner bytes).controlReservedSlots = r.controlReservedSlots ∧
      (r.charge owner bytes).controller = r.controller := by
  cases owner <;> exact ⟨rfl,rfl,rfl,rfl⟩

theorem booked_sample (ran : r.sample sample force = (r',resource)) : SameCounters r r' := by
  obtain ⟨_,rfl⟩ := sample_same ran
  exact ⟨rfl,rfl,rfl,rfl⟩

theorem effect_quiet (same : SameCounters s.runtime r) : Effect (holdings s) (holdings { s with runtime := r }) := by
  rw [same.holdings]
  exact .quiet

theorem holdings_charge (same : SameCounters s.runtime r) (owner : Owner) (bytes : Int)
    (charges : Table Nat Charge) (composites : Table Nat Composite) (nextLease : Nat) :
    holdings { s with runtime := r.charge owner bytes, charges, composites, nextLease } = { holdings s with
        booked := (holdings s).book (fun account => account.takes owner) bytes
        charges
        nextLease } := by
  obtain ⟨inUse,controlInUse,slots,_⟩ := charge_counters r owner bytes
  unfold holdings
  simp only [inUse,controlInUse,slots,same.inUse,same.controlInUse,same.controlReservedSlots,Holdings.mk.injEq,
    true_and,and_true]
  funext account
  rw [booked_charge,Holdings.book,same.booked]

theorem reserve_cases {owner : Owner} (ran : s.reserve owner bytes sample = (next,granted,events)) :
    ∃ r resource, s.runtime.sample sample false = (r,resource) ∧
      ((next = { s with runtime := r } ∧ events = [] ∧ (granted → s.runtime.controller = none)) ∨
        ∃ snapshot, resource = some snapshot ∧ granted ∧ 0 ≤ bytes ∧ AdmitsBytes r snapshot bytes 0 ∧ next = { s with
            runtime := r.charge owner bytes
            charges := s.charges.insert s.nextLease { owner, bytes }
            nextLease := s.nextLease + 1 } ∧
          events = [.receive bytes resource (r.charge owner bytes)]) := by
  unfold System.reserve at ran
  split at ran
  · rename_i runtime given reserved
    cases ran
    obtain ⟨sampled,taken,outcome⟩ := tryReserveReceive_cases reserved
    have absent := (sample_none taken).1
    rcases outcome with ⟨_,_,rfl⟩ | ⟨_,rfl⟩ | ⟨snapshot,never,_⟩
    · exact ⟨_,_,taken,.inl ⟨rfl,rfl,fun _ => absent⟩⟩
    · exact ⟨_,_,taken,.inl ⟨rfl,rfl,fun _ => absent⟩⟩
    · cases never
  · rename_i runtime snapshot reserved
    cases ran
    obtain ⟨sampled,taken,⟨never,_⟩ | ⟨_,rfl⟩ | ⟨_,_,never,_⟩⟩ := tryReserveReceive_cases reserved
    · cases never
    · exact ⟨_,_,taken,.inl ⟨rfl,rfl,nofun⟩⟩
    · cases never
  · rename_i runtime snapshot reserved
    cases ran
    obtain ⟨_,taken,⟨never,_⟩ | ⟨never,_⟩ | ⟨_,same,_,rfl,nonneg,admitted⟩⟩ := tryReserveReceive_cases reserved
    · cases never
    · cases never
    · cases same
      exact ⟨_,_,taken,.inr ⟨_,rfl,rfl,nonneg,admitted,rfl,rfl⟩⟩

/-- What the sections of an admission do, from the runtime they sampled. -/
inductive Admission (r : Runtime) (resource : Option Snapshot) : List Event → Prop where
  | refused : Admission r resource []
  | stream (admitted : ∀ snapshot, resource = some snapshot → AdmitsStream r snapshot) :
      Admission r resource [.stream resource { r with inUse := r.inUse + 1 }]
  | session {bytes slots : Int} (nonneg : 0 ≤ bytes) (positive : 1 ≤ slots)
      (admitted : ∀ snapshot, resource = some snapshot → AdmitsBytes r snapshot bytes slots) :
      Admission r resource [.session resource { r with
        sessionBytes := r.sessionBytes + bytes
        legacyControlSupplementBytes := r.legacyControlSupplementBytes + bytes
        controlReservedSlots := r.controlReservedSlots + slots }]
  | receive (owner) {bytes} (nonneg : 0 ≤ bytes)
      (admitted : ∀ snapshot, resource = some snapshot → AdmitsBytes r snapshot bytes 0) :
      Admission r resource [.receive bytes resource (r.charge owner bytes)]

/-- The sample an admission consults, unless the controller still has one. -/
def consulted : Input → Option Sample
  | .acquire sample => some sample
  | .reserveSession _ _ sample => some sample
  | .reserve _ _ sample => some sample
  | .reserveAggregate _ _ sample => some sample
  | .reserveMetadata _ sample => some sample
  | _ => none

def Samples (r r' : Runtime) : Prop := r'.controller = r.controller ∨ ∃ c inUse sample force, r.controller = some c ∧
    r'.controller = some (c.snapshotAt sample maxAdaptiveConcurrentStreamsLimit inUse force).1

theorem samples_of_sample {force : Bool} {resource : Option Snapshot} (ran : r.sample sample force = (r',resource)) :
    Samples r r' := by
  unfold Runtime.sample at ran
  split at ran
  · obtain ⟨rfl,_⟩ := mk.inj ran
    exact .inl rfl
  · rename_i c present
    obtain ⟨rfl,_⟩ := mk.inj ran
    exact .inr ⟨c,_,sample,force,present,rfl⟩

theorem snapshot_samples (r : Runtime) (sample : Sample) (force : Bool) :
    Samples r (r.snapshotLockedWithForce sample force).1 := by
  unfold Runtime.snapshotLockedWithForce
  split
  · rename_i ran
    exact samples_of_sample ran
  · rename_i ran
    exact samples_of_sample ran

theorem finish_samples (r : Runtime) (sample : Sample) (signalled : Bool) :
    Samples r (r.finishActiveRelease sample signalled).1 := by
  simp only [Runtime.finishActiveRelease]
  split
  · exact snapshot_samples { r with scavengeNeeded := signalled } sample false
  · exact .inl rfl

/-- Calls of `tryReserveAggregateSessionResource`: at most one of them moves, and one that failed has
given back what it took. -/
def Calls (s next : System) : Prop :=
  next.composites = s.composites ∨ ∃ id composite, next.composites = s.composites.insert id composite ∧
    (id ∈ s.composites ∨ id < next.nextLease) ∧ ∀ pool, composite = .failed pool → Gone (holdings next) (.charge pool)

/-- All that one section does. -/
structure Outcome (s : System) (input : Input) (next : System) (events : List Event) : Prop where
  effect : Effect (holdings s) (holdings next)
  calls : Calls s next
  admission : (∃ sample r resource, consulted input = some sample ∧ s.runtime.sample sample false = (r,resource) ∧
      next.runtime.controller = r.controller ∧ Admission r resource events) ∨
    (events = [] ∧ Samples s.runtime next.runtime)
  refused : (consulted input).isSome = true → events = [] → holdings next = holdings s

namespace Outcome

theorem quiet {input : Input} (same : SameCounters s.runtime r) (samples : Samples s.runtime r) :
    Outcome s input { s with runtime := r } [] :=
  ⟨effect_quiet same,.inl rfl,.inr ⟨rfl,samples⟩,fun _ _ => same.holdings⟩

theorem still {input : Input} (effect : Effect (holdings s) (holdings next))
    (samples : Samples s.runtime next.runtime) (same : next.composites = s.composites)
    (other : consulted input = none) : Outcome s input next [] :=
  ⟨effect,.inl same,.inr ⟨rfl,samples⟩,fun asks => by simp [other] at asks⟩

end Outcome

theorem effect_releaseCharge {lease : Nat} {charge : Charge} (found : s.charges.lookup lease = some charge) :
    Effect (holdings s) (holdings (s.releaseCharge lease charge)) := by
  unfold System.releaseCharge
  split
  · exact .quiet
  · rename_i held
    rw [holdings_charge (.refl s.runtime)]
    exact .discharge found (by simpa using held)

theorem effect_releaseStream {stream : Nat} {lease : StreamLease} (found : s.streams.lookup stream = some lease)
    (sample : Sample) (signalled : Bool) : Effect (holdings s) (holdings (s.releaseStream stream lease sample signalled)) := by
  unfold System.releaseStream
  split
  · exact .quiet
  · rename_i held
    obtain ⟨inUse,control,slots,books⟩ := finish_same
      { s.runtime with inUse := if s.runtime.inUse > 0 then s.runtime.inUse - 1 else s.runtime.inUse } sample signalled
    have released : Effect (holdings s) _ := .release found (by simpa using held)
    unfold holdings at released ⊢
    rw [inUse,control,slots,books]
    exact released

theorem effect_releaseControl {control : Nat} {lease : ControlLease}
    (found : s.controls.lookup control = some lease) (owner : s.sessions.lookup lease.session = some session)
    (sample : Sample) (signalled : Bool) :
    Effect (holdings s) (holdings (s.releaseControl control lease session sample signalled)) := by
  unfold System.releaseControl
  split
  · exact .quiet
  · rename_i held
    obtain ⟨inUse,controlInUse,slots,books⟩ := finish_same { s.runtime with
      controlInUse := if s.runtime.controlInUse > 0 then s.runtime.controlInUse - 1 else s.runtime.controlInUse } sample signalled
    have released : Effect (holdings s) _ := .releaseControl found (by simpa using held) owner
    unfold holdings at released ⊢
    rw [inUse,controlInUse,slots,books]
    exact released

theorem booked_session (r : Runtime) (bytes slots maximum : Int) (account : Account) : booked { r with
      maximum
      sessionBytes := r.sessionBytes + bytes
      legacyControlSupplementBytes := r.legacyControlSupplementBytes + bytes
      controlReservedSlots := slots } account = booked r account + if account.takesSessions then bytes else 0 := by
  cases account <;> simp [booked,Account.takesSessions]

theorem holdings_session (same : SameCounters s.runtime r) (bytes slots maximum : Int)
    (sessions : Table Nat ControlSession) (nextLease : Nat) :
    holdings { s with
      runtime := { r with
        maximum
        sessionBytes := r.sessionBytes + bytes
        legacyControlSupplementBytes := r.legacyControlSupplementBytes + bytes
        controlReservedSlots := slots }
      sessions
      nextLease } =
      { holdings s with
        controlReservedSlots := slots
        booked := (holdings s).book Account.takesSessions bytes
        sessions
        nextLease } := by
  have books := funext (booked_session r bytes slots maximum)
  unfold holdings
  rw [books,same.inUse,same.controlInUse,same.booked]
  rfl

theorem effect_activate {maximum : Int} (found : s.sessions.lookup id = some session)
    (ran : session.activate s.runtime maximum bytes slots = some (session',r)) :
    Effect (holdings s) (holdings { s with runtime := r, sessions := s.sessions.insert id session' }) ∧
      r.controller = s.runtime.controller := by
  unfold ControlSession.activate at ran
  split_ifs at ran with bad refused _
  cases ran
  rw [not_or,Bool.not_eq_true] at refused
  have activated : Effect (holdings s) _ := .activate found refused.1 (show 0 ≤ bytes by omega) (show 1 ≤ slots by omega)
  have same := holdings_session (.refl s.runtime) (-(session.bytes - bytes))
    (s.runtime.controlReservedSlots - (session.slots - slots)) (agentTunnelCapacityMaximumInt maximum)
    (s.sessions.insert id { session with bytes, slots }) s.nextLease
  exact ⟨same ▸ activated,rfl⟩

theorem effect_releaseSession (found : s.sessions.lookup id = some session)
    (ran : session.release s.runtime = some (session',r)) :
    Effect (holdings s) (holdings { s with runtime := r, sessions := s.sessions.insert id session' }) ∧
      r.controller = s.runtime.controller := by
  unfold ControlSession.release at ran
  split_ifs at ran with refused
  cases ran
  rw [not_or,Bool.not_eq_true,not_not] at refused
  have released : Effect (holdings s) _ := .releaseSession found refused.1 refused.2
  have same := holdings_session (.refl s.runtime) (-session.bytes)
    (s.runtime.controlReservedSlots - session.slots) s.runtime.maximum
    (s.sessions.insert id { session with released := true }) s.nextLease
  exact ⟨same ▸ released,rfl⟩

/-- A reservation of receive memory, with what its caller does to the calls in progress. -/
theorem outcome_reserve {owner : Owner} {input : Input}
    (ran : s.reserve owner bytes sample = (next,granted,events)) (asks : consulted input = some sample)
    (composites : Table Nat Composite) (nextLease : Nat) (kept : events = [] → nextLease = next.nextLease)
    (later : next.nextLease ≤ nextLease) (calls : Calls s { next with composites, nextLease }) :
    Outcome s input { next with composites, nextLease } events := by
  obtain ⟨r,resource,looked,⟨rfl,rfl,_⟩ | ⟨_,rfl,_,nonneg,admitted,rfl,rfl⟩⟩ := reserve_cases ran
  · obtain rfl := kept rfl
    have same := booked_sample looked
    exact ⟨effect_quiet same,calls,.inl ⟨sample,r,resource,asks,looked,rfl,.refused⟩,fun _ _ => same.holdings⟩
  · refine ⟨?_,calls,.inl ⟨sample,r,_,asks,looked,(charge_counters r owner bytes).2.2.2,.receive owner nonneg ?_⟩,nofun⟩
    · rw [holdings_charge (booked_sample looked)]
      exact .charge nonneg (Nat.lt_of_lt_of_le (Nat.lt_succ_self _) later)
    · rintro _ ⟨⟩
      exact admitted

theorem reserve_composites {owner : Owner} (ran : s.reserve owner bytes sample = (next,granted,events)) :
    next.composites = s.composites ∧ s.nextLease ≤ next.nextLease := by
  obtain ⟨_,_,_,⟨rfl,_⟩ | ⟨_,_,_,_,_,rfl,_⟩⟩ := reserve_cases ran
  · exact ⟨rfl,Nat.le_refl _⟩
  · exact ⟨rfl,Nat.le_succ _⟩

theorem releaseCharge_frame (s : System) (lease : Nat) (charge : Charge) :
    (s.releaseCharge lease charge).runtime.controller = s.runtime.controller ∧
      (s.releaseCharge lease charge).composites = s.composites := by
  unfold System.releaseCharge
  split
  · exact ⟨rfl,rfl⟩
  · exact ⟨(charge_counters s.runtime charge.owner (-charge.bytes)).2.2.2,rfl⟩

theorem step_outcome {input : Input} (taken : s.step input = some (next,events)) : Outcome s input next events := by
  cases input with
  | setMaximum =>
    cases taken
    refine .quiet ?_ (.inl ?_) <;> unfold Runtime.setMaximum <;> split
    · exact ⟨rfl,rfl,rfl,rfl⟩
    · exact ⟨rfl,rfl,rfl,rfl⟩
    · rfl
    · rfl
  | snapshot force sample =>
    cases taken
    obtain ⟨controller,same⟩ := snapshot_same s.runtime sample force
    refine .quiet ?_ (snapshot_samples _ _ _)
    rw [same]
    exact ⟨rfl,rfl,rfl,rfl⟩
  | acquire sample =>
    simp only [System.step] at taken
    split at taken <;> rename_i ran <;> cases taken <;>
      obtain ⟨sampled,looked,⟨never,same,kept⟩ | ⟨never,rfl,_,admitted⟩⟩ := tryAcquire_cases ran <;> cases never
    · refine ⟨?_,.inl rfl,.inl ⟨sample,sampled,_,rfl,looked,rfl,.stream admitted⟩,nofun⟩
      obtain ⟨controller,rfl⟩ := sample_same looked
      exact .acquire
    · exact ⟨effect_quiet same,.inl rfl,.inl ⟨sample,sampled,_,rfl,looked,kept,.refused⟩,fun _ _ => same.holdings⟩
  | release _ sample signalled =>
    simp only [System.step,bind_some,pure_pair] at taken
    obtain ⟨lease,found,rfl,rfl⟩ := taken
    refine .still (effect_releaseStream found sample signalled) ?_ ?_ rfl <;> unfold System.releaseStream <;> split
    · exact .inl rfl
    · exact finish_samples { s.runtime with inUse := _ } sample signalled
    · rfl
    · rfl
  | reserveSession bytes slots sample =>
    simp only [System.step] at taken
    split at taken <;> rename_i ran <;> cases taken <;>
      rcases tryReserveSession_cases ran with ⟨never,rfl⟩ | ⟨sampled,looked,⟨never,rfl⟩ | ⟨never,nonneg,positive,rfl,admitted⟩⟩ <;>
      cases never
    · have same := booked_sample looked
      refine ⟨?_,.inl rfl,.inl ⟨sample,sampled,_,rfl,looked,rfl,.session nonneg positive admitted⟩,nofun⟩
      rw [holdings_session same bytes (sampled.controlReservedSlots + slots) sampled.maximum,same.controlReservedSlots]
      exact .reserveSession nonneg positive
    · exact .quiet (.refl _) (.inl rfl)
    · have same := booked_sample looked
      exact ⟨effect_quiet same,.inl rfl,.inl ⟨sample,_,_,rfl,looked,rfl,.refused⟩,fun _ _ => same.holdings⟩
  | activate =>
    simp only [System.step,bind_some] at taken
    obtain ⟨session,found,taken⟩ := taken
    split at taken
    · cases taken
      exact .quiet (.refl _) (.inl rfl)
    · rename_i ran
      cases taken
      obtain ⟨effect,kept⟩ := effect_activate found ran
      exact .still effect (.inl kept) rfl rfl
  | acquireControl =>
    simp only [System.step,bind_some] at taken
    obtain ⟨session,found,taken⟩ := taken
    unfold ControlSession.tryAcquire at taken
    split_ifs at taken with refused <;> cases taken
    · exact .quiet ⟨rfl,rfl,rfl,rfl⟩ (.inl rfl)
    · rw [not_or,Bool.not_eq_true] at refused
      exact .still (.acquireControl found refused.1) (.inl rfl) rfl rfl
  | releaseControl _ sample signalled =>
    simp only [System.step,bind_some,pure_pair] at taken
    obtain ⟨lease,found,session,owner,rfl,rfl⟩ := taken
    refine .still (effect_releaseControl found owner sample signalled) ?_ ?_ rfl <;> unfold System.releaseControl <;> split
    · exact .inl rfl
    · exact finish_samples { s.runtime with controlInUse := _ } sample signalled
    · rfl
    · rfl
  | releaseSession =>
    simp only [System.step,bind_some] at taken
    obtain ⟨_,found,taken⟩ := taken
    split at taken
    · cases taken
      exact .quiet (.refl _) (.inl rfl)
    · rename_i ran
      cases taken
      obtain ⟨effect,kept⟩ := effect_releaseSession found ran
      exact .still effect (.inl kept) rfl rfl
  | reserve owner bytes sample =>
    rcases ran : s.reserve owner bytes sample with ⟨middle,granted,given⟩
    simp only [System.step,ran] at taken
    cases taken
    exact outcome_reserve ran rfl next.composites next.nextLease (fun _ => rfl) (Nat.le_refl _)
      (.inl (reserve_composites ran).1)
  | releaseCharge lease =>
    simp only [System.step,bind_some,guard_some,pure_pair] at taken
    obtain ⟨charge,found,_,rfl,rfl⟩ := taken
    obtain ⟨controller,same⟩ := releaseCharge_frame s lease charge
    exact .still (effect_releaseCharge found) (.inl controller) same rfl
  | reserveAggregate poolBytes metadataBytes sample =>
    rcases ran : s.reserve .aggregateInitialPool poolBytes sample with ⟨middle,granted,given⟩
    have same := (reserve_composites ran).1
    simp only [System.step,ran] at taken
    split at taken <;> rename_i pooled <;> cases taken
    · refine outcome_reserve ran rfl _ _ (fun refused => ?_) (Nat.le_succ _) (.inr ⟨_,.pooled s.nextLease metadataBytes,
        by rw [← same]; rfl,.inr (Nat.lt_succ_self _),nofun⟩)
      obtain ⟨_,_,_,⟨_,_,absent⟩ | ⟨_,_,_,_,_,_,rfl⟩⟩ := reserve_cases ran
      · rw [absent pooled.1] at pooled
        cases pooled.2
      · cases refused
    · exact outcome_reserve ran rfl next.composites next.nextLease (fun _ => rfl) (Nat.le_refl _) (.inl same)
  | reserveMetadata id sample =>
    simp only [System.step,bind_some] at taken
    obtain ⟨composite,call,taken⟩ := taken
    cases composite with
    | pooled pool metadataBytes =>
      rcases ran : s.reserve .aggregateSessionMetadata metadataBytes sample with ⟨middle,_,_⟩
      simp only [ran] at taken
      cases taken
      refine outcome_reserve ran rfl _ middle.nextLease (fun _ => rfl) (Nat.le_refl _) (.inr ⟨id,_,
        by rw [← (reserve_composites ran).1],.inl (AList.lookup_isSome.mp (by rw [call]; rfl)),fun pool failed => ?_⟩)
      split at failed <;> cases failed
    | _ => cases taken
  | undoAggregate id =>
    simp only [System.step,bind_some] at taken
    obtain ⟨composite,call,taken⟩ := taken
    cases composite with
    | undoing pool =>
      simp only [bind_some,pure_pair] at taken
      obtain ⟨charge,found,rfl,rfl⟩ := taken
      obtain ⟨controller,same⟩ := releaseCharge_frame s pool charge
      refine ⟨effect_releaseCharge found,.inr ⟨id,.failed pool,?_,.inl (AList.lookup_isSome.mp (by rw [call]; rfl)),?_⟩,
        .inr ⟨rfl,.inl controller⟩,nofun⟩
      · unfold System.setComposite
        rw [same]
      · rintro _ ⟨⟩
        unfold System.releaseCharge
        split
        · rename_i done
          exact ⟨_,found,done⟩
        · exact ⟨_,AList.lookup_insert _,rfl⟩
    | _ => cases taken
  | recordPressureRejection | scavenged =>
    cases taken
    exact .quiet ⟨rfl,rfl,rfl,rfl⟩ (.inl rfl)

end P2pstream.AgentCapacitySteps
