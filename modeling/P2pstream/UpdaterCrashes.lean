import P2pstream.UpdaterRecovery

/-! An activation that is cut off anywhere, and whose recovery is cut off again any number
of times. Without a journal the host is always in one of two states: as it was, or
with the release activated.
-/
namespace P2pstream.UpdaterCrashes
open Library Library.Checks Library.Durable Option List Prod
open Kernel.AgentUpdates (SignedReceipt)
open Kernel.Updater Semantics.Updater UpdaterRecords UpdaterInvariant
open UpdaterSteps UpdaterActivationSteps UpdaterRuns UpdaterRecovery

variable {t : Trust} {h start : Host} {before r r' : Root} {record : AuthorizationRecord} {ready : Ready}

/-- The recovery slot of the last activation, when that made the target current already. -/
def RecoverySlot (before : Root) (target : String) (slot : SlotMetadata) : Prop :=
  before.current = some target ∧ slot.target ≠ target ∧ ∃ done, before.lastActivation = some done ∧ done.previousSlot = slot

def Origin (before : Root) (target : String) (slot : SlotMetadata) : Prop :=
  (before.current = some slot.target ∧ before.metadata = some slot) ∨ RecoverySlot before target slot

structure Untouched (before r : Root) : Prop where
  floor : r.floor = before.floor
  counter : r.counter = before.counter
  last : r.lastActivation = before.lastActivation
  previous : r.previous = before.previous

/-- The link and its description are as they were, or lead back to the recovery slot. -/
structure Restored (before : Root) (record : AuthorizationRecord) (r : Root) : Prop where
  journal : r.journal = none
  link : (r.current = before.current ∧ r.metadata = before.metadata) ∨
    ∃ slot, RecoverySlot before record.authorization.targetVersion slot ∧ r.current = some slot.target ∧ r.metadata = some slot
  untouched : Untouched before r

inductive Activated (t : Trust) (before : Root) (record : AuthorizationRecord) (r : Root) : Prop where
  | intro (journal receipt) (idle : r.journal = none) (written : Written t journal)
      (authorization : journal.authorization = record)
      (origin : Origin before record.authorization.targetVersion journal.previousSlot)
      (attests : Attests t receipt record)
      (counted : receipt.value.rootActionCounter = loadRootActionCounter before + 1)
      (current : r.current = some record.authorization.targetVersion)
      (metadata : r.metadata = some (activatedSlot t journal receipt.value))
      (floor : r.floor = some (activatedFloor journal receipt.value))
      (counter : r.counter = some (loadRootActionCounter before + 1))
      (last : r.lastActivation = some (completedActivation t journal receipt))
      (previous : r.previous = some journal.previousSlot)

def switches : HostEvent → Bool
  | .switched .. => true
  | _ => false

/-- The link was not written, and a command that was consumed was refused all the same. -/
structure Idle (sequence : Int) (shown : List HostEvent) : Prop where
  unswitched : shown.any switches = false
  refused : .consumed sequence ∈ shown → .refused sequence ∈ shown

/-- Exactly one of the two; the current slot is there and is the one described. A restored host
that has the target current found it so, and nothing was done. -/
structure Settled (t : Trust) (before : Root) (record : AuthorizationRecord) (shown : List HostEvent) (r : Root) : Prop where
  outcome : Xor (Restored before record r) (Activated t before record r)
  idle : Restored before record r → r.current = some record.authorization.targetVersion →
    Idle record.authorization.commandSequence shown
  available : ∀ target, r.current = some target → slotAvailable r target = true
  described : ∀ slot, r.metadata = some slot → r.current = some slot.target

theorem counter_next (counter : r.counter = some (loadRootActionCounter before + 1)) : r.counter ≠ before.counter := by
  intro same
  have counted : loadRootActionCounter before = loadRootActionCounter before + 1 := by
    conv_lhs => unfold loadRootActionCounter
    rw [← same,counter]
    rfl
  omega

theorem Activated.counted (activated : Activated t before record r) : r.counter ≠ before.counter := by
  obtain @⟨_,_,_,_,_,_,_,_,_,_,_,counter⟩ := activated
  exact counter_next counter

theorem Activated.not_restored (activated : Activated t before record r) : ¬ Restored before record r :=
  fun restored => activated.counted restored.untouched.counter

def attempting (record : AuthorizationRecord) : Scope where
  activation := (· = record)
  rollback := fun _ => False
  unmoved := fun _ => True
  moved := True
  bootstrap := False
  pins := fun _ _ _ => False
  claims := False

/-- How far the activation has come since `before`. -/
inductive Trial (t : Trust) (before : Root) (record : AuthorizationRecord) (r : Root) : Prop where
  | restored (restored : Restored before record r)
  | pending (journal) (found : r.journal = some journal) (phase : journal.phase ≠ .healthy)
      (authorization : journal.authorization = record)
      (origin : Origin before record.authorization.targetVersion journal.previousSlot)
      (untouched : Untouched before r)
      (metadata : r.metadata = before.metadata ∨ r.metadata = some journal.previousSlot)
  | healthy {journal receipt} (healthy : Healthy r journal receipt) (authorization : journal.authorization = record)
      (origin : Origin before record.authorization.targetVersion journal.previousSlot)
      (counted : receipt.value.rootActionCounter = loadRootActionCounter before + 1)
  | activated (activated : Activated t before record r) (consumed : ¬ Unconsumed r record.authorization.commandSequence)

variable {journal : ActivationJournal}

theorem candidate_target (written : Written t journal) :
    journal.candidateTarget = journal.authorization.authorization.targetVersion := by
  rw [written.candidate,← written.version]

section

variable (trial : Trial t before record r)
include trial

theorem Trial.unfinished (found : r.journal = some journal) (phase : journal.phase ≠ .healthy) :
    journal.authorization = record ∧ Origin before record.authorization.targetVersion journal.previousSlot ∧
      Untouched before r ∧ (r.metadata = before.metadata ∨ r.metadata = some journal.previousSlot) := by
  cases trial with
  | restored restored => exact absent found restored.journal
  | pending _ found' _ authorization origin untouched metadata =>
    cases found.symm.trans found'
    exact ⟨authorization,origin,untouched,metadata⟩
  | healthy healthy =>
    cases found.symm.trans healthy.found
    exact absurd healthy.phase phase
  | activated activated =>
    obtain @⟨_,_,idle⟩ := activated
    exact absent found idle

theorem Trial.finished {receipt : SignedReceipt} (healthy : Healthy r journal receipt) :
    journal.authorization = record ∧ Origin before record.authorization.targetVersion journal.previousSlot ∧
      receipt.value.rootActionCounter = loadRootActionCounter before + 1 := by
  cases trial with
  | restored restored => exact absent healthy.found restored.journal
  | pending _ found phase =>
    cases healthy.found.symm.trans found
    exact absurd healthy.phase phase
  | healthy other authorization origin counted =>
    cases healthy.found.symm.trans other.found
    cases healthy.attested.symm.trans other.attested
    exact ⟨authorization,origin,counted⟩
  | activated activated =>
    obtain @⟨_,_,idle⟩ := activated
    exact absent healthy.found idle

theorem Trial.authorized (found : r.journal = some journal) : journal.authorization = record := by
  cases trial with
  | restored restored => exact absent found restored.journal
  | pending _ found' _ authorization =>
    cases found.symm.trans found'
    exact authorization
  | healthy healthy authorization =>
    cases found.symm.trans healthy.found
    exact authorization
  | activated activated =>
    obtain @⟨_,_,idle⟩ := activated
    exact absent found idle

theorem Trial.settled (idle : r.journal = none) : Xor (Restored before record r) (Activated t before record r) := by
  cases trial with
  | restored restored => exact .inl ⟨restored,fun activated => activated.not_restored restored⟩
  | pending _ found => exact absent found idle
  | healthy healthy => exact absent healthy.found idle
  | activated activated => exact .inr ⟨activated,activated.not_restored⟩

theorem Trial.frame (slots : Table String Slot) : Trial t before record { r with slots := slots } := by
  cases trial with
  | restored restored =>
    exact .restored { restored with untouched := { restored.untouched with } }
  | pending journal found phase authorization origin untouched metadata =>
    exact .pending journal found phase authorization origin
      { untouched with } metadata
  | healthy healthy authorization origin counted => exact .healthy { healthy with } authorization origin counted
  | activated activated consumed =>
    obtain ⟨journal,receipt,idle,written,authorization,origin,attests,counted,current,metadata,floor,counter,last,
      previous⟩ := activated
    exact .activated ⟨journal,receipt,idle,written,authorization,origin,attests,counted,current,metadata,floor,counter,
      last,previous⟩ consumed

theorem Trial.prepared (idle : r.journal = none)
    (phase : journal.phase = .prepared) (written : Written t journal) (authorization : journal.authorization = record)
    (recorded : Recorded r journal) (unconsumed : Unconsumed r journal.command) :
    Trial t before record { r with journal := some journal } := by
  have candidate : journal.candidateTarget = record.authorization.targetVersion := authorization ▸ candidate_target written
  have distinct : journal.previousSlot.target ≠ record.authorization.targetVersion := by
    rw [← written.target,← candidate]
    exact written.distinct
  have unhealthy : journal.phase ≠ .healthy := by simp [phase]
  cases trial with
  | pending _ found => exact absent found idle
  | healthy healthy => exact absent healthy.found idle
  | activated _ consumed => exact absurd (authorization ▸ unconsumed) consumed
  | restored restored =>
    obtain ⟨_,link,untouched⟩ := restored
    have same : Untouched before { r with journal := some journal } := { untouched with }
    cases recorded with
    | current current metadata =>
      rw [written.target] at current
      rcases link with ⟨linked,described⟩ | ⟨slot,recovery,_,described⟩
      · exact .pending journal rfl unhealthy authorization (.inl ⟨linked.symm.trans current,described.symm.trans metadata⟩)
          same (.inl described)
      · cases described.symm.trans metadata
        exact .pending journal rfl unhealthy authorization (.inr recovery) same (.inr metadata)
    | reactivation current described _ _ done last recovery =>
      rw [candidate] at current
      rcases link with ⟨linked,described⟩ | ⟨_,⟨_,away,_⟩,linked,_⟩
      · exact .pending journal rfl unhealthy authorization
          (.inr ⟨linked.symm.trans current,distinct,done,untouched.last.symm.trans last,recovery⟩) same (.inl described)
      · exact absurd (some.inj (linked.symm.trans current)) away

theorem Trial.dropped (found : r.journal = some journal) (phase : journal.phase ≠ .healthy)
    (link : (r.current = before.current ∧ r.metadata = before.metadata) ∨
      (r.current = some journal.previousSlot.target ∧ r.metadata = some journal.previousSlot)) :
    Trial t before record { r with journal := none } := by
  obtain ⟨_,origin,untouched,_⟩ := trial.unfinished found phase
  refine .restored ⟨rfl,?_,{ untouched with }⟩
  rcases link with same | ⟨current,metadata⟩
  · exact .inl same
  rcases origin with ⟨linked,described⟩ | recovery
  · exact .inl ⟨current.trans linked.symm,metadata.trans described.symm⟩
  · exact .inr ⟨_,recovery,current,metadata⟩

theorem Trial.abandoned (found : r.journal = some journal)
    (phase : journal.phase = .prepared) (written : Written t journal) (recorded : Recorded r journal) :
    Trial t before record { r with journal := none } := by
  have unhealthy : journal.phase ≠ .healthy := by simp [phase]
  obtain ⟨authorization,origin,_,place⟩ := trial.unfinished found unhealthy
  have candidate : journal.candidateTarget = record.authorization.targetVersion := authorization ▸ candidate_target written
  refine trial.dropped found unhealthy ?_
  cases recorded with
  | current current metadata => exact .inr ⟨written.target ▸ current,metadata⟩
  | reactivation current described metadata target =>
    have away : described ≠ journal.previousSlot := by
      rintro rfl
      exact written.distinct (written.target.trans target)
    have same : r.metadata = before.metadata := by
      refine place.resolve_right fun restored => ?_
      exact away (some.inj (metadata.symm.trans restored))
    rcases origin with ⟨_,was⟩ | ⟨linked,_⟩
    · exact absurd (some.inj (metadata.symm.trans (same.trans was))) away
    · rw [candidate] at current
      exact .inl ⟨current.trans linked.symm,same⟩

theorem Trial.moved {next : ActivationJournal}
    (found : r.journal = some journal) (phase : journal.phase ≠ .healthy) (written : r'.journal = some next)
    (phase' : next.phase ≠ .healthy) (authorization : next.authorization = journal.authorization)
    (slot : next.previousSlot = journal.previousSlot) (same : Untouched r r')
    (described : r'.metadata = r.metadata ∨ r'.metadata = some journal.previousSlot) : Trial t before record r' := by
  obtain ⟨authorized,origin,untouched,place⟩ := trial.unfinished found phase
  refine .pending next written phase' (authorization.trans authorized) (slot ▸ origin) ?_ ?_
  · exact ⟨same.floor.trans untouched.floor,same.counter.trans untouched.counter,same.last.trans untouched.last,
      same.previous.trans untouched.previous⟩
  · rw [slot]
    rcases described with same | restored
    · rw [same]
      exact place
    · exact .inr restored

end

theorem trial_root {now : Int} {event : HostEvent} (sound : Sound t now r) (quiet : r.rollbackJournal = none)
    (trial : Trial t before record r) (step : RootStep t (attempting record) now r event r') :
    r'.rollbackJournal = none ∧ Trial t before record r' := by
  have recorded {journal : ActivationJournal} {receipt : SignedReceipt} {next : Root}
      (healthy : Healthy r journal receipt) (kept : next.journal = r.journal) : Trial t before record next := by
    obtain ⟨authorization,origin,counted⟩ := trial.finished healthy
    exact .healthy ⟨kept.trans healthy.found,healthy.phase,healthy.attested⟩ authorization origin counted
  cases step with
  | prepare _ _ idle _ phase _ written admitted recorded unconsumed =>
    exact ⟨quiet,trial.prepared idle phase written admitted recorded unconsumed⟩
  | consume journal found phase | switch journal found phase =>
    have unhealthy : journal.phase ≠ .healthy := by simp [phase]
    exact ⟨quiet,trial.moved found unhealthy found unhealthy rfl rfl ⟨rfl,rfl,rfl,rfl⟩ (.inl rfl)⟩
  | install => exact ⟨quiet,trial.frame _⟩
  | markSwitched _ found phase =>
    exact ⟨quiet,trial.moved found (by simp [phase]) rfl (by simp) rfl rfl ⟨rfl,rfl,rfl,rfl⟩ (.inl rfl)⟩
  | restore _ found phase =>
    exact ⟨quiet,trial.moved found phase found phase rfl rfl ⟨rfl,rfl,rfl,rfl⟩ (.inl rfl)⟩
  | restoreMetadata _ found phase =>
    exact ⟨quiet,trial.moved found phase found phase rfl rfl ⟨rfl,rfl,rfl,rfl⟩ (.inr rfl)⟩
  | forget journal found phase current metadata =>
    rw [(sound.pending journal found).written.target] at current
    exact ⟨quiet,trial.dropped found phase (.inr ⟨current,metadata⟩)⟩
  | abandon journal found phase recorded =>
    exact ⟨quiet,trial.abandoned found phase (sound.pending journal found).written recorded⟩
  | markHealthy _ receipt found phase _ issued =>
    obtain ⟨authorization,origin,untouched,_⟩ := trial.unfinished found (by simp [phase])
    have counters : loadRootActionCounter r = loadRootActionCounter before := by
      unfold loadRootActionCounter
      rw [untouched.counter]
    exact ⟨quiet,.healthy ⟨rfl,rfl,rfl⟩ authorization origin (counters ▸ issued.next)⟩
  | recordActivation healthy | countActivation healthy | persistFloor healthy | recordPrevious healthy
  | recordMetadata healthy => exact ⟨quiet,recorded healthy rfl⟩
  | complete healthy last counter floor previous metadata =>
    obtain ⟨rfl,origin,counted⟩ := trial.finished healthy
    have pending := sound.pending _ healthy.found
    have current := (pending.attested healthy.phase).1
    refine ⟨quiet,.activated ⟨_,_,rfl,pending.written,rfl,origin,(pending.receipted healthy).1.attests,counted,
      candidate_target pending.written ▸ current,metadata,floor,counted ▸ counter,last,previous⟩ ?_⟩
    exact not_unconsumed (pending.consumed (by simp [healthy.phase]))
  | prepareRollback _ _ _ _ _ _ admitted => exact admitted.elim
  | consumeRollback _ found | switchRollback _ found | markRollbackSwitched _ found | restoreRollback _ found
  | forgetRollback _ found | markCompleted _ _ found => exact absent found quiet
  | countRollback completed | recordResult completed | recordRollback completed | completeRollback completed =>
    exact absent completed.found quiet
  | prune => exact ⟨quiet,trial.frame _⟩
  | pinFloor _ _ _ _ _ admitted | pinMetadata _ _ _ _ admitted => exact admitted.elim

/-- What the steps shown so far say about the host. -/
structure Told (before : Root) (record : AuthorizationRecord) (shown : List HostEvent) (r : Root) : Prop where
  spent : shown.any forward = true → ¬ Unconsumed r record.authorization.commandSequence
  linked : shown.any forward = false → r.current = some record.authorization.targetVersion → shown.any switches = false
  prepared : shown.any forward = false → r.counter = before.counter ∧
    ∀ journal, r.journal = some journal → journal.phase = .prepared
  idle : r.journal = none → r.current = some record.authorization.targetVersion → r.counter = before.counter →
    Idle record.authorization.commandSequence shown

theorem any_append_one {shown : List HostEvent} {event : HostEvent} {p : HostEvent → Bool} :
    (shown ++ [event]).any p = (shown.any p || p event) := by simp

theorem Idle.append {shown : List HostEvent} {event : HostEvent} {sequence : Int} (idle : Idle sequence shown)
    (still : switches event = false) (unconsumed : event ≠ .consumed sequence) : Idle sequence (shown ++ [event]) := by
  refine ⟨by rw [any_append_one,idle.unswitched,still]; rfl,fun consumed => ?_⟩
  rcases mem_append.mp consumed with earlier | last
  · exact mem_append_left _ (idle.refused earlier)
  · exact absurd (mem_singleton.mp last).symm unconsumed

section

variable {shown : List HostEvent} {event : HostEvent} {scope : Scope} {now : Int}

theorem any_forward (shown : List HostEvent) (back : forward event = false) : (shown ++ [event]).any forward = shown.any forward := by
  rw [any_append_one,back,Bool.or_false]

/-- A step that neither switches nor consumes. -/
theorem Told.plain (told : Told before record shown r) (plain : forward event = false ∧ switches event = false)
    (unconsumed : Unconsumed r' record.authorization.commandSequence → Unconsumed r record.authorization.commandSequence)
    (current : r'.current = r.current)
    (prepared : shown.any forward = false → r'.counter = before.counter ∧
      ∀ journal, r'.journal = some journal → journal.phase = .prepared)
    (idle : r'.journal = none → r'.current = some record.authorization.targetVersion → r'.counter = before.counter →
      Idle record.authorization.commandSequence (shown ++ [event])) : Told before record (shown ++ [event]) r' := by
  have same := any_forward shown plain.1
  refine ⟨?_,?_,?_,idle⟩
  · rw [same]
    exact fun moved still => told.spent moved (unconsumed still)
  · rw [same,current,any_append_one,plain.2,Bool.or_false]
    exact told.linked
  · rw [same]
    exact prepared

theorem Told.quiet (told : Told before record shown r) (quiet : Quiet event) : Told before record (shown ++ [event]) r := by
  have plain : forward event = false ∧ switches event = false ∧ event ≠ .consumed record.authorization.commandSequence := by
    cases quiet <;> exact ⟨rfl,rfl,nofun⟩
  exact told.plain ⟨plain.1,plain.2.1⟩ id rfl told.prepared fun idle current counter =>
    (told.idle idle current counter).append plain.2.1 plain.2.2

theorem told_root (sound : Sound t now r) (quiet : r.rollbackJournal = none) (trial : Trial t before record r)
    (told : Told before record shown r) (narrow : Widens scope (attempting record))
    (fresh : scope.unmoved record.authorization.commandSequence → shown.any forward = false)
    (moved : scope.moved → shown.any forward = true) (step : RootStep t scope now r event r') :
    Told before record (shown ++ [event]) r' := by
  have away {journal : ActivationJournal} (found : r.journal = some journal) :
      some journal.previousTarget ≠ some record.authorization.targetVersion := by
    have written := (sound.pending journal found).written
    rw [← trial.authorized found,← candidate_target written]
    exact fun same => written.distinct (some.inj same)
  have unready {journal : ActivationJournal} {motive : Prop} (found : r.journal = some journal)
      (phase : journal.phase ≠ .prepared) (still : shown.any forward = false) : motive :=
    absurd ((told.prepared still).2 journal found) phase
  cases step with
  | prepare _ _ _ _ phase =>
    refine told.plain ⟨rfl,rfl⟩ id rfl (fun still => ⟨(told.prepared still).1,fun _ same => ?_⟩) nofun
    cases same
    exact phase
  | consume journal found =>
    obtain rfl := trial.authorized found
    have written := (sound.pending journal found).written
    have loads := consumed_loads (r := r) written.signed written.digest
    refine ⟨fun _ => not_unconsumed ⟨_,loads,rfl,rfl⟩,?_,?_,absent found⟩
    · rw [any_forward _ rfl]
      intro still linked
      rw [any_append_one,told.linked still linked]
      rfl
    · rw [any_forward _ rfl]
      exact told.prepared
  | install | prune =>
    exact told.plain ⟨rfl,rfl⟩ id rfl told.prepared fun idle current counter =>
      (told.idle idle current counter).append rfl nofun
  | switch _ found _ consumed =>
    have switched {event : HostEvent} (ahead : forward event) (back : (shown ++ [event]).any forward = false) : False := by
      simp [ahead] at back
    refine ⟨fun _ => ?_,fun back => (switched rfl back).elim,fun back => (switched rfl back).elim,absent found⟩
    rw [← trial.authorized found]
    exact not_unconsumed consumed
  | markSwitched _ _ _ _ _ moves =>
    exact told.plain ⟨rfl,rfl⟩ id rfl (fun still => absurd ((moved moves).symm.trans still) (by simp)) nofun
  | restore _ found =>
    refine ⟨?_,fun _ linked => absurd linked (away found),?_,absent found⟩
    · rw [any_forward _ rfl]
      exact told.spent
    · rw [any_forward _ rfl]
      exact told.prepared
  | restoreMetadata _ found => exact told.plain ⟨rfl,rfl⟩ id rfl told.prepared (absent found)
  | forget _ found _ current =>
    exact told.plain ⟨rfl,rfl⟩ id rfl (fun still => ⟨(told.prepared still).1,by simp⟩)
      fun _ linked => absurd (current.symm.trans linked) (away found)
  | abandon _ found _ _ unmoved =>
    obtain rfl := trial.authorized found
    refine told.plain ⟨rfl,rfl⟩ id rfl (fun still => ⟨(told.prepared still).1,by simp⟩) fun _ linked _ => ⟨?_,by simp⟩
    rw [any_append_one,told.linked (fresh unmoved) linked]
    rfl
  | markHealthy _ _ found phase => exact told.plain ⟨rfl,rfl⟩ id rfl (unready found (by simp [phase])) nofun
  | recordActivation healthy | countActivation healthy | persistFloor healthy | recordPrevious healthy
  | recordMetadata healthy =>
    exact told.plain ⟨rfl,rfl⟩ id rfl (unready healthy.found (by simp [healthy.phase])) (absent healthy.found)
  | complete healthy _ counter =>
    obtain ⟨_,_,counted⟩ := trial.finished healthy
    exact told.plain ⟨rfl,rfl⟩ id rfl (unready healthy.found (by simp [healthy.phase]))
      fun _ _ same => absurd same (counter_next (counted ▸ counter))
  | prepareRollback _ _ _ _ _ _ admitted => exact (narrow.rollback _ admitted).elim
  | consumeRollback _ found | switchRollback _ found | markRollbackSwitched _ found | restoreRollback _ found
  | forgetRollback _ found | markCompleted _ _ found => exact absent found quiet
  | countRollback completed | recordResult completed | recordRollback completed | completeRollback completed =>
    exact absent completed.found quiet
  | pinFloor _ _ _ _ _ admitted | pinMetadata _ _ _ _ admitted => exact (narrow.bootstrap admitted).elim

end

structure Trying (t : Trust) (start : Host) (ready : Ready) (shown : List HostEvent) (h : Host) : Prop where
  sound : Sound t h.now h.toRoot
  quiet : h.rollbackJournal = none
  claim : ∀ other, h.activationClaim = some (some other) → other = ready
  trial : Trial t start.toRoot ready.authorization h.toRoot
  told : Told start.toRoot ready.authorization shown h.toRoot

variable {shown : List HostEvent} {scope : Scope} {event : HostEvent} {next : Host} {trace : List (HostEvent × Host)}

section

variable (trying : Trying t start ready shown h) (narrow : Widens scope (attempting ready.authorization))
include trying

theorem forward_of_frozen (frozen : ∀ sequence, ¬ scope.unmoved sequence) (step : HostStep t scope h event next) :
    forward event = false := by
  cases step with
  | quiet _ _ _ quiet => cases quiet <;> rfl
  | root _ _ step =>
    generalize next.toRoot = r' at step
    cases step with
    | switch _ _ _ _ _ unmoved => exact absurd unmoved (frozen _)
    | switchRollback _ found => cases found.symm.trans trying.quiet
    | _ => rfl

include narrow

theorem trying_step (fresh : scope.unmoved ready.authorization.authorization.commandSequence → shown.any forward = false)
    (moved : scope.moved → shown.any forward = true) (step : HostStep t scope h event next) :
    Trying t start ready (shown ++ [event]) next := by
  have sound := sound_step trying.sound step
  have claim (claims : Claims scope h next) : ∀ other, next.activationClaim = some (some other) → other = ready := by
    intro other claimed
    rcases claims.activation with same | dropped | none
    · exact trying.claim other (same.symm.trans claimed)
    · cases claimed.symm.trans dropped
    · exact (narrow.claims none).elim
  cases step with
  | quiet _ same claims quiet =>
    exact ⟨sound,same ▸ trying.quiet,claim claims,same ▸ trying.trial,same ▸ trying.told.quiet quiet⟩
  | root _ claims step =>
    obtain ⟨quiet,trial⟩ := trial_root trying.sound trying.quiet trying.trial (rootStep_mono narrow step)
    exact ⟨sound,quiet,claim claims,trial,
      told_root trying.sound trying.quiet trying.trial trying.told narrow fresh moved step⟩

/-- Steps in a scope that no longer moves the host, after a switch where they complete one. -/
theorem trying_chain (frozen : ∀ sequence, ¬ scope.unmoved sequence) (moved : scope.moved → shown.any forward = true)
    (chain : Chain (HostStep t scope) h trace) :
    Trying t start ready (shown ++ trace.map fst) (lastState h trace) ∧
      (shown ++ trace.map fst).any forward = shown.any forward := by
  induction trace generalizing shown h with
  | nil =>
    rw [map_nil,append_nil]
    exact ⟨trying,rfl⟩
  | cons entry _ ih =>
    have back := forward_of_frozen trying frozen chain.1
    have same := any_forward shown back
    have next := trying_step trying narrow (fun unmoved => absurd unmoved (frozen _)) moved chain.1
    have rest := ih next (fun done => same.trans (moved done)) chain.2
    rw [same,append_assoc] at rest
    exact rest

end

/-- A run from `begun`. -/
def attemptingFrom (record : AuthorizationRecord) (begun : Root) : Scope :=
  { attempting record with unmoved := Unconsumed begun, moved := False }

theorem widens_attempting {unmoved : Int → Prop} {moved : Prop} :
    Widens { attempting record with unmoved := unmoved, moved := moved } (attempting record) :=
  ⟨fun _ => id,fun _ => id,fun _ _ => trivial,fun _ => trivial,id,fun _ _ _ => id,id⟩

theorem trying_follows (trying : Trying t start ready shown h)
    (follows : Follows (HostStep t (attemptingFrom ready.authorization h.toRoot).still)
      (some (turning t (attemptingFrom ready.authorization h.toRoot))) h trace) :
    Trying t start ready (shown ++ trace.map fst) (lastState h trace) := by
  rcases follows with chain | ⟨_,⟨⟩,front,event,next,rest,rfl,chain,turned,tail⟩
  · exact (trying_chain trying widens_attempting (fun _ => id) False.elim chain).1
  obtain ⟨before,same⟩ := trying_chain trying widens_attempting (fun _ => id) False.elim chain
  -- A command that was unconsumed when the run began has not switched yet.
  have fresh (unconsumed : Unconsumed h.toRoot ready.authorization.authorization.commandSequence) :
      (shown ++ front.map fst).any forward = false := by
    rw [same]
    exact Bool.eq_false_iff.mpr fun moved => trying.told.spent moved unconsumed
  have turn := trying_step before widens_attempting fresh False.elim turned
  have moved (ahead : forward event) : (shown ++ front.map fst ++ [event]).any forward = true := by simp [ahead]
  have after := (trying_chain turn widens_attempting (fun _ => id) moved tail).1
  rw [lastState_append]
  simpa [lastState] using after

def meanwhile (h : Host) (staging : Staging) (time : Nat) : Host := { h with staging := staging, now := h.now + time }

/-- What becomes of a host when runs are cut off anywhere, with the steps that took effect. Runs
start only in the states named. -/
inductive Interrupted (t : Trust) (runs : Host → Prop) (start : Host) : List HostEvent → Host → Prop where
  | begun : Interrupted t runs start [] start
  | elapsed {shown : List HostEvent} {h : Host} (earlier : Interrupted t runs start shown h) (staging : Staging) (time : Nat) :
      Interrupted t runs start shown (meanwhile h staging time)
  | cut {shown : List HostEvent} {h : Host} (earlier : Interrupted t runs start shown h) (starts : runs h) (oracle : Oracle)
      (cut : Option Nat) :
      Interrupted t runs start (shown ++ (effected cut (runActivator t h oracle).trace).map fst)
        (lastState h (effected cut (runActivator t h oracle).trace))

def Undisturbed (h : Host) : Prop := h.journal.isSome = true ∨ (h.rollbackClaim = none ∧ h.staging.rollback = none ∧
    (h.activationClaim.isSome = true ∨ h.staging.ready = none))

theorem activator_activates (quiet : h.rollbackJournal = none) (undisturbed : Undisturbed h) (oracle : Oracle) :
    runActivator t h oracle = runClaimedActivation t h oracle ∨
      (h.journal = none ∧ runActivator t h oracle = ⟨[],h,oracle,some ()⟩) := by
  rcases undisturbed with recovers | ⟨rollback,staged,activation⟩
  · refine .inl ?_
    simp [runActivator,bind,Program.bind,Durable.get,quiet,recovers]
  · cases journal : h.journal with
    | some =>
      refine .inl ?_
      simp [runActivator,bind,Program.bind,Durable.get,quiet,journal]
    | none =>
      cases claim : h.activationClaim with
      | some =>
        refine .inl ?_
        simp [runActivator,claimRollback,claimActivation,runClaimedCommand,bind,Program.bind,pure,Program.pure,Durable.get,
          quiet,journal,rollback,staged,claim]
      | none =>
        refine .inr ⟨rfl,?_⟩
        have idle : h.staging.ready = none := activation.resolve_left (by simp [claim])
        simp [runActivator,claimRollback,claimActivation,runClaimedCommand,bind,Program.bind,pure,Program.pure,Durable.get,
          quiet,journal,rollback,staged,claim,idle]

section

variable (trying : Trying t start ready shown h)
include trying

theorem Trying.admitted (other : Ready) (claimed : h.activationClaim = some (some other)) :
    (attemptingFrom ready.authorization h.toRoot).activation other.authorization := by
  rw [trying.claim other claimed]
  exact rfl

theorem runs_attempt (calm : Bool) :
    Runs ((Setting.still ⟨attemptingFrom ready.authorization h.toRoot,calm,fun _ => True⟩).world t)
      (some (turning t (attemptingFrom ready.authorization h.toRoot))) h (runClaimedActivation t) (fun _ next => Clear next)
      (fun next => calm → next.activationClaim = none ∧ (h.activationClaim = none → Clear next)) := by
  refine runs_mono (runs_runClaimedActivation (s := ⟨attemptingFrom ready.authorization h.toRoot,calm,fun _ => True⟩)
    trying.sound trying.quiet trying.admitted fun _ => id) (fun _ _ clear => clear) fun _ failed quiet => ?_
  obtain ⟨dropped,clear⟩ := failed quiet
  exact ⟨dropped,fun idle => clear fun _ claimed => (nomatch claimed.symm.trans idle)⟩

theorem trying_run (undisturbed : Undisturbed h) (oracle : Oracle) (cut : Option Nat) :
    Trying t start ready (shown ++ (effected cut (runActivator t h oracle).trace).map fst)
      (lastState h (effected cut (runActivator t h oracle).trace)) := by
  rcases activator_activates trying.quiet undisturbed oracle with same | ⟨_,same⟩
  · rw [same]
    have permits := permits_anyhow (t := t) (attemptingFrom ready.authorization h.toRoot).still oracle
    exact trying_follows trying (effected_follows (runs_attempt trying false oracle permits).1 cut)
  · have nothing : effected cut (runActivator t h oracle).trace = [] := by
      rw [same]
      cases cut <;> simp [effected]
    rw [nothing,map_nil,append_nil]
    exact trying

theorem Trying.meanwhile (staging : Staging) (time : Nat) : Trying t start ready shown (meanwhile h staging time) :=
  { trying with sound := trying.sound.later (Int.le_add_of_nonneg_right (Int.natCast_nonneg time)) }

theorem Trying.settled (idle : h.journal = none) : Settled t start.toRoot ready.authorization shown h.toRoot where
  outcome := trying.trial.settled idle
  idle restored current := trying.told.idle idle current restored.untouched.counter
  available := trying.sound.slots.current
  described := trying.sound.described idle trying.quiet

theorem calm_run {oracle : Oracle} (undisturbed : Undisturbed h) (calm : Calm oracle) :
    Trying t start ready (shown ++ (runActivator t h oracle).trace.map fst) (runActivator t h oracle).state ∧
      ((runActivator t h oracle).state.journal = none ∨
        (h.activationClaim.isSome ∧ (runActivator t h oracle).state.activationClaim = none)) := by
  have next := trying_run trying undisturbed oracle none
  rcases activator_activates trying.quiet undisturbed oracle with same | ⟨idle,same⟩
  · have permits : Permits ((Setting.still ⟨attemptingFrom ready.authorization h.toRoot,true,fun _ => True⟩).world t) oracle :=
      ⟨fun _ => ⟨calm.faults,calm.answers⟩,fun _ _ => trivial⟩
    obtain ⟨_,last,_,ends⟩ := runs_attempt trying true oracle permits
    rw [same] at next ⊢
    rw [last]
    refine ⟨next,?_⟩
    rw [← last]
    cases result : (runClaimedActivation t h oracle).result with
    | some =>
      rw [result] at ends
      exact .inl ends.journal
    | none =>
      rw [result] at ends
      obtain ⟨dropped,clear⟩ := ends rfl
      cases claim : h.activationClaim with
      | none => exact .inl (clear claim).journal
      | some => exact .inr ⟨rfl,dropped⟩
  · rw [same,map_nil,append_nil]
    exact ⟨trying,.inl idle⟩

end

def shownBy (t : Trust) (shown : List HostEvent) (h : Host) (oracle : Oracle) : List HostEvent :=
  shown ++ (runActivator t h oracle).trace.map fst

theorem trying_interrupted (reachable : Reachable t start) (clear : Clear start)
    (claimed : start.activationClaim = some (some ready)) (interrupted : Interrupted t Undisturbed start shown h) :
    Trying t start ready shown h := by
  induction interrupted with
  | begun =>
    refine ⟨reachable_sound reachable,clear.rollback,fun other same => ?_,?_,nofun,fun _ _ => rfl,fun _ => ?_,?_⟩
    · exact some.inj (some.inj (same.symm.trans claimed))
    · exact .restored ⟨clear.journal,.inl ⟨rfl,rfl⟩,⟨rfl,rfl,rfl,rfl⟩⟩
    · exact ⟨rfl,fun _ found => absent found clear.journal⟩
    · exact fun _ _ _ => ⟨rfl,nofun⟩
  | elapsed _ staging time trying => exact trying.meanwhile staging time
  | cut _ undisturbed oracle cut trying => exact trying_run trying undisturbed oracle cut

/-- Wherever an activation and its recoveries are cut off, the current slot is there; as
soon as no journal is left, the host is restored or activated, never both; and a calm
run gets there, or the next one does. -/
theorem activation_restored_or_activated (reachable : Reachable t start) (clear : Clear start)
    (claimed : start.activationClaim = some (some ready)) (interrupted : Interrupted t Undisturbed start shown h) :
    (∀ target, h.current = some target → slotAvailable h.toRoot target = true) ∧
      (h.journal = none → Settled t start.toRoot ready.authorization shown h.toRoot) ∧
      (Undisturbed h → ∀ oracle, Calm oracle →
        Settled t start.toRoot ready.authorization (shownBy t shown h oracle) (runActivator t h oracle).state.toRoot ∨
          ∀ staging time later, Undisturbed (meanwhile (runActivator t h oracle).state staging time) → Calm later →
            Settled t start.toRoot ready.authorization
              (shownBy t (shownBy t shown h oracle) (meanwhile (runActivator t h oracle).state staging time) later)
              (runActivator t (meanwhile (runActivator t h oracle).state staging time) later).state.toRoot) := by
  have trying := trying_interrupted reachable clear claimed interrupted
  refine ⟨trying.sound.slots.current,trying.settled,fun undisturbed oracle calm => ?_⟩
  obtain ⟨first,idle | ⟨_,dropped⟩⟩ := calm_run trying undisturbed calm
  · exact .inl (first.settled idle)
  refine .inr fun staging time _ undisturbed' calm' => ?_
  obtain ⟨last,idle | ⟨claim,_⟩⟩ := calm_run (first.meanwhile staging time) undisturbed' calm'
  · exact last.settled idle
  · have none : (meanwhile (runActivator t h oracle).state staging time).activationClaim = none := dropped
    rw [none] at claim
    cases claim

def labClaimed : Host := after labTrust labHost [labBootstrap "v1.0.0",labStage 1,.activator {} (some 1)]

theorem lab_start {h : Host} (start : h.journal.isNone ∧ h.rollbackJournal.isNone ∧ h.rollbackClaim.isNone ∧
    h.staging.rollback.isNone ∧ h.activationClaim = some (some ready)) :
    Clear h ∧ Undisturbed h ∧ h.activationClaim = some (some ready) := by
  simp only [isNone_iff_eq_none] at start
  obtain ⟨journal,rollback,idle,staged,claimed⟩ := start
  exact ⟨⟨journal,rollback⟩,.inr ⟨idle,staged,.inl (by rw [claimed]; rfl)⟩,claimed⟩

theorem labClaimed_start :
    Clear labClaimed ∧ Undisturbed labClaimed ∧ labClaimed.activationClaim = some (some (labReady 1)) :=
  lab_start (by decide +kernel)

def labShown : List HostEvent := (effected (some 8) (runActivator labTrust labClaimed {}).trace).map fst

def labSwitched : Host := lastState labClaimed (effected (some 8) (runActivator labTrust labClaimed {}).trace)

theorem activation_restored_or_activated_switched : labSwitched.journal.isSome = true ∧ labSwitched.current = some "v1.1.0" ∧
      (Settled labTrust labClaimed.toRoot (labRecord 1 .activate) (shownBy labTrust labShown labSwitched {})
          (runActivator labTrust labSwitched {}).state.toRoot ∨
        ∀ staging time later, Undisturbed (meanwhile (runActivator labTrust labSwitched {}).state staging time) → Calm later →
          Settled labTrust labClaimed.toRoot (labRecord 1 .activate) (shownBy labTrust (shownBy labTrust labShown labSwitched {})
              (meanwhile (runActivator labTrust labSwitched {}).state staging time) later)
            (runActivator labTrust (meanwhile (runActivator labTrust labSwitched {}).state staging time) later).state.toRoot) := by
  obtain ⟨clear,undisturbed,claimed⟩ := labClaimed_start
  have cut : labSwitched.journal.isSome ∧ labSwitched.current = some "v1.1.0" := by decide +kernel
  have interrupted : Interrupted labTrust Undisturbed labClaimed labShown labSwitched := .cut .begun undisturbed {} (some 8)
  refine ⟨cut.1,cut.2,?_⟩
  exact (activation_restored_or_activated (lab_reachable _) clear claimed interrupted).2.2 (.inl cut.1) {} ⟨rfl,rfl⟩

def labReclaimed : Host :=
  after labTrust labHost [labBootstrap "v1.0.0",labStage 1,.activator {} none,labStage 2,.activator {} (some 1)]

theorem labReclaimed_start :
    Clear labReclaimed ∧ Undisturbed labReclaimed ∧ labReclaimed.activationClaim = some (some (labReady 2)) :=
  lab_start (by decide +kernel)

/-- The command expires between its check and its consumption; cut off once the journal is removed. -/
def labRefused : Host := lastState labReclaimed (effected (some 7)
    (runActivator labTrust labReclaimed { readings := [1200000000,1200000000,1200000000,2200000000] }).trace)

/-- A refused command leaves its target current where it was current before: neither does
the recorded recovery slot become current, nor is anything counted. -/
theorem refused_reactivation_changes_nothing : ¬ ∀ (t : Trust) (start h : Host) (ready : Ready) (shown : List HostEvent)
    (oracle : Oracle), Reachable t start → Clear start → start.activationClaim = some (some ready) →
    Interrupted t Undisturbed start shown h → Undisturbed h → Calm oracle →
      (∃ slot, Origin start.toRoot ready.authorization.authorization.targetVersion slot ∧
        slot.target ≠ ready.authorization.authorization.targetVersion ∧
        (runActivator t h oracle).state.journal = none ∧
        (runActivator t h oracle).state.current = some slot.target ∧
        (runActivator t h oracle).state.metadata = some slot ∧
        Untouched start.toRoot (runActivator t h oracle).state.toRoot) ∨
      Activated t start.toRoot ready.authorization (runActivator t h oracle).state.toRoot := by
  intro claim
  obtain ⟨clear,undisturbed,claimed⟩ := labReclaimed_start
  have reached : labReclaimed.counter = some 1 ∧ (labRefused.rollbackClaim = none ∧ labRefused.staging.rollback = none ∧
      labRefused.activationClaim.isSome) ∧ (runActivator labTrust labRefused {}).state.current = some "v1.1.0" ∧
      (runActivator labTrust labRefused {}).state.counter = some 1 := by decide +kernel
  obtain ⟨counted,refused,ended⟩ := reached
  have interrupted : Interrupted labTrust Undisturbed labReclaimed _ labRefused := .cut .begun undisturbed _ (some 7)
  rcases claim labTrust labReclaimed labRefused (labReady 2) _ {} (lab_reachable _) clear claimed interrupted
    (.inr ⟨refused.1,refused.2.1,.inl refused.2.2⟩) ⟨rfl,rfl⟩ with ⟨slot,_,away,_,current,_⟩ | activated
  · exact away (some.inj (current.symm.trans ended.1))
  · obtain @⟨_,_,_,_,_,_,_,_,_,_,_,counter⟩ := activated
    have one : loadRootActionCounter labReclaimed.toRoot = 1 := by
      unfold loadRootActionCounter
      rw [counted]
      rfl
    rw [one] at counter
    cases ended.2.symm.trans counter

/-- The host after `Activate` was cut off, or failed, and its recovery ran later. -/
def recovered (t : Trust) (start : Host) (oracle : Oracle) (cut : Option Nat) (staging : Staging) (time : Nat)
    (later : Oracle) : Host :=
  (recoverActivation t (meanwhile (lastState start (effected cut (activate t start oracle).trace)) staging time) later).state

/-- An activation that did not switch leaves the slot that was current or, where the target was
current already, the recovery slot recorded for it; it never activates. -/
theorem unswitched_activation_restored {oracle later : Oracle} {cut : Option Nat} (reachable : Reachable t start)
    (clear : Clear start) (claimed : start.activationClaim = some (some ready))
    (unswitched : ∀ entry ∈ effected cut (activate t start oracle).trace, forward entry.1 = false)
    (calm : Calm later) (staging : Staging) (time : Nat) :
    Restored start.toRoot ready.authorization (recovered t start oracle cut staging time later).toRoot ∧
      ¬ Activated t start.toRoot ready.authorization (recovered t start oracle cut staging time later).toRoot ∧
      (∀ target, (recovered t start oracle cut staging time later).current = some target →
        slotAvailable (recovered t start oracle cut staging time later).toRoot target = true) ∧
      (start.current ≠ some ready.authorization.authorization.targetVersion →
        (recovered t start oracle cut staging time later).current = start.current ∧
        (recovered t start oracle cut staging time later).metadata = start.metadata) := by
  have trying := trying_interrupted reachable clear claimed .begun
  have runs := runs_activate (s := anyhow (attemptingFrom ready.authorization start.toRoot)) trying.sound trying.quiet
    trying.admitted fun _ => id
  have stopped := trying_follows trying (effected_follows (runs oracle (permits_anyhow _ oracle)).1 cut)
  have reached := stopped.meanwhile staging time
  obtain ⟨follows,last,_,ends⟩ := runs_recoverActivation (t := t)
    (s := ⟨(attemptingFrom ready.authorization start.toRoot).still,true,fun _ => True⟩)
    reached.sound later ⟨fun _ => ⟨calm.faults,calm.answers⟩,fun _ _ => trivial⟩
  have idle : (recovered t start oracle cut staging time later).journal = none := by
    split at ends
    · exact ends.journal
    · exact (ends rfl).journal
  unfold recovered at idle ⊢
  rw [last] at idle ⊢
  obtain ⟨trying,same⟩ := trying_chain reached widens_attempting (fun _ => id) False.elim (follows_none.mp follows)
  have still := (trying.told.prepared (same.trans (by simpa using unswitched))).1
  have settled := trying.settled idle
  have unactivated := fun activated : Activated t start.toRoot ready.authorization _ => activated.counted still
  have restored := (settled.outcome.resolve_right fun other => unactivated other.1).1
  refine ⟨restored,unactivated,settled.available,fun other => ?_⟩
  rcases restored.link with same | ⟨_,⟨current,_⟩,_⟩
  · exact same
  · exact absurd current other

theorem unswitched_activation_restored_consumed :
    ((lastState labClaimed (effected (some 6) (activate labTrust labClaimed {}).trace)).commandFloor.map CommandFloor.sequence =
      some 1) ∧ (recovered labTrust labClaimed {} (some 6) {} 0 {}).current = labClaimed.current := by
  obtain ⟨clear,_,claimed⟩ := labClaimed_start
  have reached : labClaimed.current ≠ some (labReady 1).authorization.authorization.targetVersion ∧
      (∀ entry ∈ effected (some 6) (activate labTrust labClaimed {}).trace, forward entry.1 = false) ∧
      (lastState labClaimed (effected (some 6) (activate labTrust labClaimed {}).trace)).commandFloor.map CommandFloor.sequence =
        some 1 := by decide +kernel
  obtain ⟨other,cut,consumed⟩ := reached
  have reachable : Reachable labTrust labClaimed := lab_reachable _
  have calm : Calm {} := ⟨rfl,rfl⟩
  exact ⟨consumed,((unswitched_activation_restored reachable clear claimed cut calm {} 0).2.2.2 other).1⟩

/-- The journal of a reinstallation records the recovery slot of the release, so recovery
leaves the release even before the switch. -/
theorem unswitched_reactivation_leaves : ¬ ∀ (t : Trust) (start : Host) (ready : Ready) (oracle later : Oracle)
    (cut : Option Nat) (staging : Staging) (time : Nat), Reachable t start → Clear start →
    start.activationClaim = some (some ready) →
    (∀ entry ∈ effected cut (activate t start oracle).trace, forward entry.1 = false) → Calm later →
      (recovered t start oracle cut staging time later).current = start.current := by
  intro claim
  obtain ⟨clear,_,claimed⟩ := labReclaimed_start
  have reached : (∀ entry ∈ effected (some 7) (activate labTrust labReclaimed {}).trace, forward entry.1 = false) ∧
      (recovered labTrust labReclaimed {} (some 7) {} 0 {}).current ≠ labReclaimed.current := by decide +kernel
  obtain ⟨cut,left⟩ := reached
  exact left (claim labTrust labReclaimed _ {} {} (some 7) {} 0 (lab_reachable _) clear claimed cut ⟨rfl,rfl⟩)

end P2pstream.UpdaterCrashes
