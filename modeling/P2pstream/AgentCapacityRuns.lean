import P2pstream.AgentCapacitySteps

/-! Runs of the agent's runtime: in every interleaving the ledger is conserved, a release runs once
and a reservation that fails leaves nothing behind.
-/
namespace P2pstream.AgentCapacityRuns
open Library Kernel.AdaptiveMemory Kernel.AgentCapacity Semantics.AgentCapacity Checks Table AList Transitions
open AgentCapacityLedger AgentCapacitySteps

variable {s next : System} {input : Input} {events : List Event}

/-- Calls of `tryReserveAggregateSessionResource` are numbered like leases, and one that failed has
given back what it took. -/
structure Undone (s : System) : Prop where
  numbered : ∀ id composite, s.composites.lookup id = some composite → id < s.nextLease
  released : ∀ id pool, s.composites.lookup id = some (.failed pool) → Gone (holdings s) (.charge pool)

variable {sample : Sample} {metadataBytes : Int}

structure Sound (s : System) : Prop where
  conserved : Conserved (holdings s)
  formed : WellFormed (holdings s)
  undone : Undone s

theorem nextLease_effect {h h' : Holdings} (effect : Effect h h') : h.nextLease ≤ h'.nextLease := by
  cases effect with
  | charge _ later => exact later.le
  | acquire | reserveSession | acquireControl => exact Nat.le_succ _
  | _ => exact Nat.le_refl _

theorem undone_step (formed : WellFormed (holdings s)) (undone : Undone s) (taken : s.step input = some (next,events)) :
    Undone next := by
  obtain ⟨effect,calls,_,_⟩ := step_outcome taken
  have grows : s.nextLease ≤ next.nextLease := nextLease_effect effect
  have numbered (id : Nat) (composite : Composite) (found : s.composites.lookup id = some composite) :
      id < next.nextLease := (undone.numbered id composite found).trans_le grows
  have released (id pool : Nat) (found : s.composites.lookup id = some (.failed pool)) :
      Gone (holdings next) (.charge pool) := gone_effect formed effect (undone.released id pool found)
  rcases calls with same | ⟨id,_,inserted,below,failed⟩
  · exact ⟨same ▸ numbered,same ▸ released⟩
  · have below : id < next.nextLease := by
      rcases below with known | below
      · obtain ⟨old,found⟩ := Option.isSome_iff_exists.mp (lookup_isSome.mpr known)
        exact numbered id old found
      · exact below
    refine ⟨inserted ▸ forall_insert numbered below,fun other pool found => ?_⟩
    rw [inserted] at found
    rcases of_lookup_insert found with ⟨rfl,same⟩ | ⟨_,found⟩
    · exact failed pool same
    · exact released other pool found

theorem sound_step (sound : Sound s) (taken : s.step input = some (next,events)) : Sound next :=
  let effect := (step_outcome taken).effect
  ⟨conserved_effect sound.conserved sound.formed effect,wellFormed_effect sound.formed effect,
    undone_step sound.formed sound.undone taken⟩

theorem sound_initial (maximum : Int) (adaptive : Bool) (controller : Option Controller) (fdSampler : Bool) :
    Sound (.initial (.new maximum adaptive controller fdSampler)) := by
  have empty {α : Type} {P : Nat → α → Prop} (id : Nat) (a : α) (found : (∅ : Table Nat α).lookup id = some a) : P id a :=
    nomatch found
  refine ⟨⟨rfl,rfl,rfl,fun account => ?_⟩,⟨⟨empty,empty,empty,empty⟩,empty,empty,empty,empty⟩,empty,nofun⟩
  cases account <;> rfl

structure NonNegative (h : Holdings) : Prop where
  inUse : 0 ≤ h.inUse
  controlInUse : 0 ≤ h.controlInUse
  controlReservedSlots : 0 ≤ h.controlReservedSlots
  booked : ∀ account, 0 ≤ h.booked account

theorem alive_nonneg {released : Bool} {amount : Int} (nonneg : 0 ≤ amount) : 0 ≤ alive released amount := by
  unfold alive
  split
  · exact Int.le_refl 0
  · exact nonneg

theorem Sound.nonNegative (sound : Sound s) : NonNegative (holdings s) := by
  obtain ⟨⟨inUse,controlInUse,slots,booked⟩,formed,_⟩ := sound
  refine ⟨?_,?_,?_,fun account => ?_⟩
  · rw [inUse]
    exact total_nonneg _ _ fun _ _ _ => alive_nonneg (by decide)
  · rw [controlInUse]
    exact total_nonneg _ _ fun _ _ _ => alive_nonneg (by decide)
  · rw [slots]
    exact total_nonneg _ _ fun id session found => alive_nonneg (formed.sessions id session found).2
  · have charges : 0 ≤ heldCharges account (holdings s).charges :=
      total_nonneg _ _ fun id charge found => alive_nonneg (formed.charges id charge found)
    have sessions : 0 ≤ heldSessionBytes (holdings s).sessions :=
      total_nonneg _ _ fun id session found => alive_nonneg (formed.sessions id session found).1
    rw [booked account]
    split <;> omega

def releaseInput (sample : Sample) (signalled : Bool) : Lease → Input
  | .stream id => .release id sample signalled
  | .session id => .releaseSession id
  | .control id => .releaseControl id sample signalled
  | .charge id => .releaseCharge id

theorem release_again {lease : Lease} {signalled : Bool} (gone : Gone (holdings s) lease)
    (taken : s.step (releaseInput sample signalled lease) = some (next,events)) : next = s := by
  cases lease with
  | stream id =>
    obtain ⟨lease,found,done⟩ := gone
    have found : s.streams.lookup id = some lease := found
    simp only [releaseInput,System.step,found,Option.bind_eq_bind,Option.bind_some,pure_some,
      Prod.mk.injEq] at taken
    rw [← taken.1,System.releaseStream,if_pos done]
  | session id =>
    obtain ⟨session,found,done⟩ := gone
    have found : s.sessions.lookup id = some session := found
    have refused : session.release s.runtime = none := if_pos (Or.inl done)
    simp only [releaseInput,System.step,found,refused,Option.bind_eq_bind,Option.bind_some,
      pure_some,Prod.mk.injEq] at taken
    exact taken.1.symm
  | control id =>
    obtain ⟨lease,found,done⟩ := gone
    have found : s.controls.lookup id = some lease := found
    simp only [releaseInput,System.step,found,Option.bind_eq_bind,Option.bind_some,Option.bind_eq_some_iff,pure_pair] at taken
    obtain ⟨_,_,rfl,_⟩ := taken
    rw [System.releaseControl,if_pos done]
  | charge id =>
    obtain ⟨charge,found,done⟩ := gone
    have found : s.charges.lookup id = some charge := found
    simp only [releaseInput,System.step,found,Option.bind_eq_bind,Option.bind_some,Option.bind_eq_some_iff,pure_pair] at taken
    obtain ⟨_,_,rfl,_⟩ := taken
    rw [System.releaseCharge,if_pos done]

theorem gone_run {inputs : List Input} {lease : Lease} (sound : Sound s) (gone : Gone (holdings s) lease)
    (ran : run System.step s inputs = some (next,events)) : Gone (holdings next) lease :=
  (run_kept (motive := fun s => Sound s ∧ Gone (holdings s) lease) (fun _ _ _ _ before taken =>
    ⟨sound_step before.1 taken,gone_effect before.1.formed (step_outcome taken).effect before.2⟩) ⟨sound,gone⟩ ran).2

def reserves : Input → Bool
  | .acquire _ => true
  | .reserveSession _ _ _ => true
  | .reserve _ _ _ => true
  | .reserveAggregate _ _ _ => true
  | .reserveMetadata _ _ => true
  | _ => false

theorem refused_unchanged (reserving : reserves input) (taken : s.step input = some (next,[])) :
    holdings next = holdings s := by
  refine (step_outcome taken).refused ?_ rfl
  cases input <;> first | rfl | cases reserving

theorem metadata_refused {id pool : Nat} (call : s.composites.lookup id = some (.pooled pool metadataBytes))
    (taken : s.step (.reserveMetadata id sample) = some (next,events)) {undo : Nat}
    (undoing : next.composites.lookup id = some (.undoing undo)) :
    undo = pool ∧ next.charges = s.charges ∧ SameCounters s.runtime next.runtime := by
  rcases ran : s.reserve .aggregateSessionMetadata metadataBytes sample with ⟨_,_,_⟩
  simp only [System.step,call,ran,Option.bind_eq_bind,Option.bind_some,pure_pair] at taken
  obtain ⟨rfl,rfl⟩ := taken
  simp only [System.setComposite,lookup_insert,Option.some.injEq] at undoing
  obtain ⟨_,_,looked,⟨rfl,_⟩ | ⟨_,_,rfl,_⟩⟩ := reserve_cases ran
  · split at undoing
    · cases undoing
    · exact ⟨(Composite.undoing.inj undoing).symm,rfl,booked_sample looked⟩
  · cases undoing

theorem pool_reserved (undone : Undone s) {poolBytes : Int}
    (taken : s.step (.reserveAggregate poolBytes metadataBytes sample) = some (next,events)) {composite : Composite}
    (call : next.composites.lookup (s.nextLease + 1) = some composite) :
    composite = .pooled s.nextLease metadataBytes ∧
      next.charges.lookup s.nextLease = some { owner := .aggregateInitialPool, bytes := poolBytes } ∧
      ∃ r, SameCounters s.runtime r ∧ next.runtime = r.charge .aggregateInitialPool poolBytes := by
  rcases ran : s.reserve .aggregateInitialPool poolBytes sample with ⟨_,_,_⟩
  simp only [System.step,ran] at taken
  split at taken <;> rename_i pooled <;> cases taken
  · obtain ⟨r,_,looked,⟨_,_,absent⟩ | ⟨_,_,_,_,_,rfl,_⟩⟩ := reserve_cases ran
    · exact absurd pooled.2 (by simp [absent pooled.1])
    · simp only [System.setComposite,lookup_insert,Option.some.injEq] at call
      exact ⟨call.symm,lookup_insert _,r,booked_sample looked,rfl⟩
  · -- Without a call of this number the next part has nothing to go on with.
    rw [(reserve_composites ran).1] at call
    have below := undone.numbered _ _ call
    omega

theorem aggregate_undone (undone : Undone s) {poolBytes : Int} {first second : Sample}
    (ran : run System.step s [.reserveAggregate poolBytes metadataBytes first,.reserveMetadata (s.nextLease + 1) second,
      .undoAggregate (s.nextLease + 1)] = some (next,events)) :
    SameCounters s.runtime next.runtime := by
  obtain ⟨_,_,_,pooled,rest,_⟩ := run_cons ran
  obtain ⟨two,_,_,refused,rest,_⟩ := run_cons rest
  obtain ⟨_,_,_,undo,rest,_⟩ := run_cons rest
  cases rest
  -- The calls in progress, read backwards from the section that undoes the first part.
  simp only [System.step,bind_some] at undo
  obtain ⟨composite,undoing,undo⟩ := undo
  cases composite with
  | undoing =>
    simp only [bind_some,pure_pair] at undo
    obtain ⟨_,held,rfl,rfl⟩ := undo
    have again := refused
    simp only [System.step,bind_some] at again
    obtain ⟨_,found,_⟩ := again
    obtain ⟨rfl,reserved,r,before,runtime⟩ := pool_reserved undone pooled found
    obtain ⟨rfl,same,after⟩ := metadata_refused found refused undoing
    rw [same,reserved] at held
    cases held
    obtain ⟨inUse,controlInUse,slots,_⟩ := charge_counters two.runtime .aggregateInitialPool (-poolBytes)
    obtain ⟨inUse',controlInUse',slots',_⟩ := charge_counters r .aggregateInitialPool poolBytes
    rw [runtime] at after
    refine ⟨?_,?_,?_,funext fun account => ?_⟩
    · exact inUse.trans (after.inUse.trans (inUse'.trans before.inUse))
    · exact controlInUse.trans (after.controlInUse.trans (controlInUse'.trans before.controlInUse))
    · exact slots.trans (after.controlReservedSlots.trans (slots'.trans before.controlReservedSlots))
    · calc booked (two.runtime.charge .aggregateInitialPool (-poolBytes)) account
          = booked two.runtime account + _ := booked_charge ..
        _ = booked (r.charge .aggregateInitialPool poolBytes) account + _ := by rw [after.booked]
        _ = booked s.runtime account := by
          rw [booked_charge,before.booked]
          split <;> omega
  | _ => cases undo

/-- Conservation of the agent's ledger over every interleaving of reservations, activations and
releases. -/
theorem agent_ledger_conserved (maximum : Int) (adaptive : Bool) (controller : Option Controller) (fdSampler : Bool)
    (inputs : List Input) (s : System) (events : List Event)
    (reached : run System.step (.initial (.new maximum adaptive controller fdSampler)) inputs = some (s,events)) :
    Conserved (holdings s) ∧ NonNegative (holdings s) ∧ (∀ lease, Gone (holdings s) lease →
        (∀ sample signalled next events, s.step (releaseInput sample signalled lease) = some (next,events) → next = s) ∧
        ∀ inputs next events, run System.step s inputs = some (next,events) → Gone (holdings next) lease) ∧
      (∀ input next, reserves input = true → s.step input = some (next,[]) → holdings next = holdings s) ∧
      (∀ id pool, s.composites.lookup id = some (.failed pool) → Gone (holdings s) (.charge pool)) ∧
      ∀ poolBytes metadataBytes first second next events,
        run System.step s [.reserveAggregate poolBytes metadataBytes first,
          .reserveMetadata (s.nextLease + 1) second,.undoAggregate (s.nextLease + 1)] = some (next,events) →
        SameCounters s.runtime next.runtime := by
  have sound : Sound s := run_kept (fun _ _ _ _ => sound_step) (sound_initial ..) reached
  refine ⟨sound.conserved,sound.nonNegative,?_,?_,sound.undone.released,?_⟩
  · intro _ gone
    exact ⟨fun _ _ _ _ taken => release_again gone taken,fun _ _ _ ran => gone_run sound gone ran⟩
  · intro _ next reserving taken
    exact refused_unchanged reserving taken
  · intro _ _ _ _ _ _ ran
    exact aggregate_undone sound.undone ran

theorem sample_memory : (9000000 : Int) ≤ maxInt64 := by decide

theorem sample_descriptors : (1000 : Int) ≤ maxInt64 := by decide

def roomySample (now : Int) : Sample where
  now
  usages := .ok [⟨0,9000000,sample_memory⟩]
  descriptors := .ok ⟨10,1000,sample_descriptors⟩
  percent := fun _ _ => 0

/-- A session with one control stream, two ordinary streams of which one is released twice, and an
aggregate reservation whose metadata no longer fits. -/
def mixedInputs : List Input :=
  [.reserveSession 500000 2 (roomySample 0),.activate 0 32 300000 1,.acquireControl 0,.acquire (roomySample 1),
    .acquire (roomySample 2),.release 2 (roomySample 3) false,.release 2 (roomySample 4) true,
    .reserve .streamGrowth 700000 (roomySample 5),.reserveAggregate 1000000 9000000 (roomySample 6),
    .reserveMetadata 6 (roomySample 7),.undoAggregate 6]

theorem agent_ledger_conserved_mixed :
    ∃ s events, run System.step (.initial (.new 64 true none true)) mixedInputs = some (s,events) ∧
      (s.runtime.inUse,s.runtime.controlInUse,s.runtime.controlReservedSlots,s.runtime.sessionBytes,
        s.runtime.windowBytes) = (1,1,1,300000,700000) ∧ Conserved (holdings s) := by
  have counted : (run System.step (.initial (.new 64 true none true)) mixedInputs).map (fun outcome =>
      (outcome.1.runtime.inUse,outcome.1.runtime.controlInUse,outcome.1.runtime.controlReservedSlots,
        outcome.1.runtime.sessionBytes,outcome.1.runtime.windowBytes)) = some (1,1,1,300000,700000) := by
    decide +kernel
  obtain ⟨⟨s,events⟩,reached,amounts⟩ := Option.map_eq_some_iff.mp counted
  exact ⟨s,events,reached,amounts,(agent_ledger_conserved 64 true none true mixedInputs s events reached).1⟩

/-- In every run a session counts its unfinished control streams, and has none once it is returned. -/
theorem control_sessions_exact {maximum : Int} {adaptive : Bool} {controller : Option Controller} {fdSampler : Bool}
    {inputs : List Input} {key : Nat} {session : ControlSession}
    (reached : run System.step (.initial (.new maximum adaptive controller fdSampler)) inputs = some (s,events))
    (found : s.sessions.lookup key = some session) :
    session.active = heldControlsOf key s.controls ∧ (session.released → heldControlsOf key s.controls = 0) := by
  have sound : Sound s := run_kept (fun _ _ _ _ => sound_step) (sound_initial ..) reached
  have active := sound.formed.active _ _ found
  exact ⟨active,fun released => active.symm.trans (sound.formed.idle _ _ found released)⟩

theorem control_sessions_exact_mixed : ∃ s events,
    run System.step (.initial (.new 64 true none true)) mixedInputs = some (s,events) ∧
      ∀ id session, s.sessions.lookup id = some session → session.active = heldControlsOf id s.controls := by
  have runs : (run System.step (.initial (.new 64 true none true)) mixedInputs).isSome := by decide +kernel
  obtain ⟨⟨s,events⟩,reached⟩ := Option.isSome_iff_exists.mp runs
  exact ⟨s,events,reached,fun _ _ found => (control_sessions_exact reached found).1⟩

end P2pstream.AgentCapacityRuns
