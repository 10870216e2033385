import P2pstream.UpdaterRollbackSteps

/-! Whole runs of the activator and of bootstrap, cut off anywhere, and the host over any
sequence of them.
-/
namespace P2pstream.UpdaterRuns
open Library Library.Durable Kernel.SignedPayloads List Option Transitions
open Kernel.AgentUpdates (AssignmentAction AssignmentAuthorization Bytes unixMilli)
open Kernel.Updater Semantics.Updater UpdaterRecords UpdaterInvariant
open UpdaterSteps UpdaterActivationSteps UpdaterRollbackSteps

variable {t : Trust} {s : Setting} {h : Host}

structure Manageable (s : Setting) (h : Host) : Prop where
  timed : Timed s h
  journal : ∀ journal, h.rollbackJournal = some journal →
    Unconsumed h.toRoot journal.command → Unexpired s journal.authorization
  rollback : ∀ request, h.rollbackClaim = some (some request) ∨ h.staging.rollback = some (some request) → Steady s request
  activation : ∀ ready, h.activationClaim = some (some ready) ∨ h.staging.ready = some (some ready) → Free h.toRoot ready

structure Claimed (s : Setting) (h next : Host) : Prop where
  root : next.toRoot = h.toRoot
  now : next.now = h.now
  manageable : Manageable s h → Manageable s next

theorem Claimed.trans {a b c : Host} (first : Claimed s a b) (second : Claimed s b c) : Claimed s a c :=
  ⟨second.root.trans first.root,second.now.trans first.now,second.manageable ∘ first.manageable⟩

theorem runs_claim {other : Setting} (claims : other.scope.claims) {claim : Action Unit}
    (either : claim = claimRollback ∨ claim = claimActivation) :
    Runs (other.world t) none h claim (fun _ next => Claimed s h next) (fun _ => other.calm = false) := by
  rcases either with rfl | rfl
  all_goals
    refine runs_get ?_
    split_ifs
    · exact runs_pure ⟨rfl,rfl,id⟩
    refine runs_last_write (.quiet (le_refl _) rfl ⟨.inr (.inr claims),.inr (.inr claims)⟩ .wrote)
      (fun rough => ⟨rough,rough⟩) ⟨rfl,rfl,fun manageable =>
        ⟨⟨manageable.timed.clock,manageable.timed.now⟩,manageable.journal,?_,?_⟩⟩
    all_goals rintro _ (claimed | staged)
  · exact manageable.rollback _ (.inr claimed)
  · cases staged
  · exact manageable.activation _ (.inl claimed)
  · exact manageable.activation _ (.inr staged)
  · exact manageable.rollback _ (.inl claimed)
  · exact manageable.rollback _ (.inr staged)
  · exact manageable.activation _ (.inr claimed)
  · cases staged

structure Unrestricted (s : Setting) (r : Root) : Prop where
  activation : ∀ record, s.scope.activation record
  rollback : ∀ record, s.scope.rollback record
  unmoved : ∀ sequence, Unconsumed r sequence → s.scope.unmoved sequence
  claims : s.scope.claims

variable {next : Host} {narrow wide : Scope} {trace : List (HostEvent × Host)}

theorem Claimed.sound (claimed : Claimed s h next) (sound : Sound t h.now h.toRoot) : Sound t next.now next.toRoot := by
  rw [claimed.now,claimed.root]
  exact sound

theorem Claimed.unrestricted (claimed : Claimed s h next) (unrestricted : Unrestricted s h.toRoot) :
    Unrestricted s next.toRoot := claimed.root ▸ unrestricted

section

variable (sound : Sound t h.now h.toRoot)
include sound

theorem runs_rollback_command (idle : h.journal = none) (unrestricted : Unrestricted s h.toRoot) :
    Runs (s.still.world t) (some (turning t s.scope)) h (runClaimedRollback t) (fun _ next => Clear next)
      (fun next => s.calm → Manageable s h → Clear next) := by
  have ran := runs_runClaimedRollback (s := s.still) sound idle fun request _ => unrestricted.rollback request
  refine runs_mono (runs_still ran) (fun _ _ clear => clear) fun _ ended calm manageable => ?_
  refine ended calm ⟨manageable.timed.clock,manageable.timed.now⟩ ⟨manageable.journal,fun request _ claimed => ?_⟩
  exact manageable.rollback request (.inl claimed)

theorem runs_activation_command (quiet : h.rollbackJournal = none) (unrestricted : Unrestricted s h.toRoot) :
    Runs (s.still.world t) (some (turning t s.scope)) h (runClaimedActivation t) (fun _ next => Clear next)
      (fun next => s.calm → Manageable s h → Clear next) := by
  refine runs_mono (runs_runClaimedActivation sound quiet (fun ready _ => unrestricted.activation ready.authorization)
    unrestricted.unmoved) (fun _ _ clear => clear) fun _ ended calm manageable => ?_
  exact (ended calm).2 fun ready claimed => ⟨manageable.timed,manageable.activation ready (.inl claimed)⟩

/-- A whole run makes the steps of the judgments, moves the host on behalf of at most one
activation, and leaves no journal if it returns. -/
theorem runs_runActivator (unrestricted : Unrestricted s h.toRoot) :
    Runs (s.still.world t) (some (turning t s.scope)) h (runActivator t) (fun _ next => Clear next)
      (fun next => s.calm → Manageable s h → Clear next) := by
  have loud {h next : Host} (rough : s.calm = false) (calm : s.calm) : Manageable s h → Clear next :=
    absurd (rough.symm.trans calm) (by simp)
  have claim {h : Host} {program : Action Unit} := @runs_claim t s h s.still unrestricted.claims program
  refine runs_get ?_
  cases rolling : h.rollbackJournal with
  | some => exact runs_rollback_command sound (sound.quiet rolling) unrestricted
  | none =>
    cases pending : h.journal with
    | some => exact runs_activation_command sound rolling unrestricted
    | none =>
      refine runs_bind (claim (.inl rfl)) ?_ fun _ rough => loud rough
      intro _ first claimed
      have sound := claimed.sound sound
      have unrestricted := claimed.unrestricted unrestricted
      have idle : first.journal = none := by rw [claimed.root,pending]
      refine runs_get ?_
      split_ifs
      · exact runs_mono (runs_rollback_command sound idle unrestricted) (fun _ _ clear => clear)
          fun _ ended calm manageable => ended calm (claimed.manageable manageable)
      refine runs_bind (claim (.inr rfl)) ?_ fun _ rough => loud rough
      intro _ _ activation
      refine runs_bind (claim (.inl rfl)) ?_ fun _ rough => loud rough
      intro _ third late
      have taken := activation.trans late
      have quiet : third.rollbackJournal = none := by rw [taken.root,claimed.root,rolling]
      have idle : third.journal = none := by rw [taken.root,idle]
      have sound := taken.sound sound
      have unrestricted := taken.unrestricted unrestricted
      have manageable (before : Manageable s h) : Manageable s third := taken.manageable (claimed.manageable before)
      refine runs_get ?_
      split_ifs
      · exact runs_mono (runs_rollback_command sound idle unrestricted) (fun _ _ clear => clear)
          fun _ ended calm before => ended calm (manageable before)
      · exact runs_mono (runs_activation_command sound quiet unrestricted) (fun _ _ clear => clear)
          fun _ ended calm before => ended calm (manageable before)
      · exact runs_pure ⟨idle,quiet⟩

end

theorem runs_bootstrapHost {options : BootstrapOptions} (admitted : s.scope.bootstrap)
    (pins : s.scope.pins h.toRoot (bootstrapVersionFloor options) !options.reenroll) :
    Runs (s.world t) none h (bootstrapHost t options) (fun _ _ => True) (fun _ => True) := by
  refine runs_check (fun _ => trivial) fun version => runs_check (fun _ => trivial) fun tunnel => ?_
  have valid : validRelease t (bootstrapVersionFloor options) := by
    unfold bootstrapVersionFloor
    cases existing : options.existingTunnel with
    | none => exact validRelease_of_channel version
    | some =>
      rw [existing] at tunnel
      simp only [Bool.and_eq_true] at tunnel
      exact tunnel.1
  have pinned : Runs (s.world t) none h (pinBootstrapState t (bootstrapVersionFloor options) !options.reenroll)
      (fun _ _ => True) (fun _ => True) := by
    refine runs_get (runs_require (fun _ => trivial) fun floor loaded => ?_)
    exact runs_last_write (.own (.pinFloor floor _ _ loaded valid admitted pins)) (fun _ => ⟨trivial,trivial⟩) trivial
  have described (build commit : String) (between : Host) :
      Runs (s.world t) none between (pinBootstrapSlotMetadata t build commit) (fun _ _ => True) (fun _ => True) := by
    refine runs_get (runs_require (fun _ => trivial) fun target linked => runs_check (fun _ => trivial) fun _ => ?_)
    refine runs_require (fun _ => trivial) fun _ _ => runs_require (fun _ => trivial) fun _ _ => ?_
    refine runs_check (fun _ => trivial) fun size => runs_check (fun _ => trivial) fun _ => ?_
    refine runs_check (fun _ => trivial) fun accepted => ?_
    simp only [Bool.and_eq_true,decide_eq_true_eq] at size
    have current : between.current = some target := (filter_eq_some_iff.mp linked).1
    cases absent : between.metadata with
    | some => exact runs_last_check (fun _ => trivial) fun _ => trivial
    | none =>
      exact runs_last_write (.own (.pinMetadata _ absent current (bootstrapSlot_attestable accepted size.2) admitted))
        (fun _ => ⟨trivial,trivial⟩) trivial
  refine runs_question fun _ => runs_check (fun _ => trivial) fun _ => ?_
  refine runs_bind pinned (fun _ _ _ => ?_) fun _ _ => trivial
  refine runs_question fun _ => runs_check (fun _ => trivial) fun _ => ?_
  split_ifs
  · exact runs_pure trivial
  · split
    · exact described _ _ _
    · exact described _ _ _

/-- A run from this state: only commands that were not consumed may still move the host. -/
def starting (r : Root) : Scope := { everything with unmoved := Unconsumed r }

theorem widens_everything (scope : Scope) : Widens scope everything :=
  ⟨fun _ _ => trivial,fun _ _ => trivial,fun _ _ => trivial,fun _ => trivial,fun _ => trivial,fun _ _ _ _ => trivial,
    fun _ => trivial⟩

def anyhow (scope : Scope) : Setting := ⟨scope,false,fun _ => True⟩

theorem permits_anyhow (scope : Scope) (oracle : Oracle) : Permits ((anyhow scope).world t) oracle :=
  ⟨fun impossible => absurd impossible Bool.false_ne_true,fun _ _ => trivial⟩

theorem effected_follows {allowed : Host → HostEvent → Host → Prop} {pivot : Option (Pivot Host HostEvent)}
    (follows : Follows allowed pivot h trace) (cut : Option Nat) : Follows allowed pivot h (effected cut trace) := by
  cases cut with
  | none => exact follows
  | some count => exact follows_take follows count

theorem activator_follows (sound : Sound t h.now h.toRoot) (oracle : Oracle) (cut : Option Nat) :
    Follows (HostStep t (starting h.toRoot).still) (some (turning t (starting h.toRoot))) h
      (effected cut (runActivator t h oracle).trace) := by
  have unrestricted : Unrestricted (anyhow (starting h.toRoot)) h.toRoot :=
    ⟨fun _ => trivial,fun _ => trivial,fun _ unconsumed => unconsumed,trivial⟩
  exact effected_follows (runs_runActivator sound unrestricted oracle (permits_anyhow _ oracle)).1 cut

theorem bootstrap_follows (options : BootstrapOptions) (oracle : Oracle) (cut : Option Nat) :
    Follows (HostStep t everything.still) none h (effected cut (bootstrapHost t options h oracle).trace) :=
  effected_follows (runs_bootstrapHost (s := anyhow everything.still) trivial trivial oracle (permits_anyhow _ oracle)).1 cut

theorem activator_chain (sound : Sound t h.now h.toRoot) (oracle : Oracle) (cut : Option Nat) :
    Chain (HostStep t everything) h (effected cut (runActivator t h oracle).trace) := by
  refine (activator_follows sound oracle cut).chain (hostStep_mono (widens_everything _)) ?_ ?_
  · rintro _ ⟨⟩
    exact hostStep_mono (widens_everything _)
  · rintro _ ⟨⟩ turn
    exact hostStep_mono (widens_everything _)

theorem step_cases (sound : Sound t h.now h.toRoot) {input : Input} (taken : step t h input = some (next,trace)) :
    (next.toRoot = h.toRoot ∧ h.now ≤ next.now ∧ trace = []) ∨
      (next = lastState h trace ∧ Chain (HostStep t everything) h trace) := by
  cases input with
  | worker =>
    cases taken
    exact .inl ⟨rfl,le_refl _,rfl⟩
  | elapse time =>
    cases taken
    exact .inl ⟨rfl,Int.le_add_of_nonneg_right (Int.natCast_nonneg time),rfl⟩
  | activator oracle cut =>
    cases taken
    exact .inr ⟨rfl,activator_chain sound oracle cut⟩
  | bootstrap options oracle cut =>
    cases taken
    exact .inr ⟨rfl,(bootstrap_follows options oracle cut).chain (hostStep_mono (widens_everything _)) nofun nofun⟩

/-- A host some time after its installation, whatever happened to it. -/
def Reachable (t : Trust) (h : Host) : Prop :=
  ∃ now current slot inputs events, 0 < unixMilli now ∧ slot.executable.isSome = true ∧
    run (step t) (fresh now current slot) inputs = some (h,events)

theorem reachable_clock (reachable : Reachable t h) : Sound t h.now h.toRoot ∧ 0 < unixMilli h.now := by
  obtain ⟨now,current,slot,_,events,clock,whole,ran⟩ := reachable
  let kept (h : Host) : Prop := Sound t h.now h.toRoot ∧ 0 < unixMilli h.now
  refine run_kept (motive := kept) ?_ ⟨sound_fresh whole,clock⟩ ran
  intro _ _ _ _ ⟨sound,clock⟩ taken
  rcases step_cases sound taken with ⟨root,later,_⟩ | ⟨rfl,chain⟩
  · refine ⟨?_,clock.trans_le (unixMilli_mono later)⟩
    rw [root]
    exact sound.later later
  · refine chain_invariant (motive := kept) ?_ ⟨sound,clock⟩ chain
    intro _ _ _ ⟨sound,clock⟩ step
    refine ⟨sound_step sound step,?_⟩
    cases step with
    | quiet later => exact clock.trans_le (unixMilli_mono later)
    | root same =>
      rw [same]
      exact clock

theorem reachable_sound (reachable : Reachable t h) : Sound t h.now h.toRoot := (reachable_clock reachable).1

section Laboratory

def after (t : Trust) (h : Host) (inputs : List Input) : Host :=
  inputs.foldl (fun h input => ((step t h input).map Prod.fst).getD h) h

theorem run_after (h : Host) (inputs : List Input) :
    ∃ events, run (step t) h inputs = some (after t h inputs,events) := by
  induction inputs generalizing h with
  | nil => exact ⟨[],rfl⟩
  | cons input _ ih =>
    have total : ∃ next events, step t h input = some (next,events) := by
      cases input <;> exact ⟨_,_,rfl⟩
    obtain ⟨next,events,taken⟩ := total
    obtain ⟨later,ran⟩ := ih next
    refine ⟨events ++ later,?_⟩
    simp only [run,taken,ran,after,foldl_cons,map_some,getD_some]

/-- Stands in for the hash function: short texts that differ have different digests. -/
def labHash (data : Bytes) : Bytes :=
  let number := data.foldl (fun number byte => 257 * number + byte.toNat + 1) 0
  UInt8.ofNat number :: UInt8.ofNat (number / 256) :: replicate 30 1

def labSign (key payload : Bytes) : Bytes := key ++ labHash payload

def labAuthorityKey : Bytes := replicate 32 2

def labActivatorKey : Bytes := replicate 32 3

def labManifestFile : Bytes := [1]

def labArtifact : Bytes := [1,2,3]

/-- The digest of the executable found at the bootstrap. -/
def labDigest : String := hexText (replicate 32 1)

def labVersion (version : String) : Int :=
  ((P2pstream.Library.Encoding.text version).foldl (fun number byte => 256 * number + byte.toNat) 0 : Nat)

def labManifest : Manifest where
  schemaVersion := 1
  channel := "stable"
  version := "v1.1.0"
  commit := String.ofList (replicate 40 'a')
  sequence := 1
  publishedAt := 0
  expiresAt := 1000000000000000000
  minimumSafeVersion := "v1.0.0"
  securityEpoch := 1
  server := ⟨"v1.0.0","v2.0.0"⟩
  updater := ⟨"v1.0.0","v2.0.0"⟩
  protocolMin := 1
  protocolMax := 1
  artifacts := [⟨"linux","amd64","p2pstream_v1.1.0_linux_amd64",3,hexText (labHash labArtifact)⟩]

def labTrust : Trust where
  semverIsValid := fun _ => true
  semverBuild := fun _ => ""
  semverPrerelease := fun _ => ""
  semverCompare := fun a b => labVersion a - labVersion b
  semverCompare_trans := fun _ _ _ _ _ => by omega
  sha256 := labHash
  sha256_length := fun _ => by simp [labHash]
  verify := fun key payload signature => signature = labSign key payload
  decodeManifest := fun data => if data = labManifestFile then some labManifest else none
  authority := { keyID := hexText (labHash labAuthorityKey), epoch := 1, publicKey := labAuthorityKey }
  agentPublicID := "agent"
  channel := "stable"
  activatorPublicKey := labActivatorKey
  activatorPublicKey_length := rfl
  sign := labSign labActivatorKey
  sign_length := fun _ => by simp [labSign,labActivatorKey,labHash]
  verify_sign := fun _ => decide_eq_true rfl
  architecture := .amd64
  updaterVersion := "v1.0.0"
  protocolVersion := 1

def labAuthorization (sequence : Int) (action : AssignmentAction) : AssignmentAuthorization where
  agentPublicID := "agent"
  assignmentID := 1
  campaignID := 1
  generation := 1
  action := action
  commandSequence := sequence
  nonce := replicate 32 7
  issuedAtUnixMillis := 1000
  expiresAtUnixMillis := 2000
  authorityKeyID := hexText (labHash labAuthorityKey)
  authorityEpoch := 1
  serverVersion := "v1.0.0"
  manifestSHA256 := hexText (labHash labManifestFile)
  targetVersion := "v1.1.0"
  targetCommit := String.ofList (replicate 40 'a')
  releaseSequence := 1
  securityEpoch := 1
  os := "linux"
  arch := "amd64"
  artifactName := "p2pstream_v1.1.0_linux_amd64"
  artifactSize := 3
  artifactSHA256 := hexText (labHash labArtifact)

def labPayload (sequence : Int) (action : AssignmentAction) : Bytes :=
  (assignmentAuthorizationPayload labTrust.semverIsValid (labAuthorization sequence action)).getD []

def labRecord (sequence : Int) (action : AssignmentAction) : AuthorizationRecord where
  authorization := labAuthorization sequence action
  canonicalPayload := labPayload sequence action
  signature := labSign labAuthorityKey (labPayload sequence action)

def labReady (sequence : Int) : Ready where
  authorization := labRecord sequence .activate
  agentPublicID := "agent"
  assignmentID := 1
  generation := 1
  nonce := replicate 32 7
  version := "v1.1.0"
  commit := String.ofList (replicate 40 'a')
  manifestSHA := hexText (labHash labManifestFile)
  sequence := 1
  securityEpoch := 1
  artifactName := "p2pstream_v1.1.0_linux_amd64"
  artifactSize := 3
  artifactSHA := hexText (labHash labArtifact)
  serverVersion := "v1.0.0"

def labSlot : Slot where
  published := true
  owned := true
  executable := some { published := true, size := 5, sha256 := labDigest }

def labHost : Host := fresh 1200000000 (bootstrapSlotName labDigest) labSlot

def labBootstrap (version : String) : Input := .bootstrap ⟨version,String.ofList (replicate 40 'b'),none,false⟩ {} none

def labStage (sequence : Int) : Input :=
  .worker { ready := some (some (labReady sequence)), manifest := some labManifestFile, artifact := some labArtifact }

def labRequestRollback (sequence : Int) : Input := .worker { rollback := some (some (labRecord sequence .rollback)) }

theorem lab_reachable (inputs : List Input) : Reachable labTrust (after labTrust labHost inputs) := by
  obtain ⟨events,ran⟩ := run_after labHost inputs
  exact ⟨_,_,_,inputs,events,by decide,rfl,ran⟩

end Laboratory

end P2pstream.UpdaterRuns
