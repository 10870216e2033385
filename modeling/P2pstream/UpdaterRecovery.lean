import P2pstream.UpdaterRuns

/-! One calm activator run gets rid of every journal, except that of a rollback whose
command expired before it was consumed.
-/
namespace P2pstream.UpdaterRecovery
open Library.Durable Kernel.SignedPayloads Option List
open Kernel.AgentUpdates (unixMilli)
open Kernel.Updater Semantics.Updater UpdaterSteps
open UpdaterActivationSteps UpdaterRuns

variable {t : Trust} {h : Host} {oracle : Oracle}

structure Calm (oracle : Oracle) : Prop where
  faults : oracle.faults = []
  answers : oracle.answers = []

def readings (h : Host) (oracle : Oracle) : List Int := h.now :: oracle.readings

def calmly (scope : Scope) (h : Host) (oracle : Oracle) : Setting := ⟨scope,true,(· ∈ readings h oracle)⟩

theorem permits_calmly (scope : Scope) (calm : Calm oracle) : Permits ((calmly scope h oracle).world t) oracle :=
  ⟨fun _ => ⟨calm.faults,calm.answers⟩,fun _ mem => mem_cons_of_mem _ mem⟩

/-- The run can deal with what it finds: its clock shows canonical times, a journalled
rollback that was not consumed has not expired, a requested one does not expire midway,
and no broken slot directory stands in the way of a new activation. -/
structure Dealable (h : Host) (oracle : Oracle) : Prop where
  clock : ∀ now ∈ readings h oracle, validUnixMillis (unixMilli now) = true
  journalled : ∀ journal, h.rollbackJournal = some journal →
    Unconsumed h.toRoot journal.command →
    ∀ now ∈ readings h oracle, unixMilli now < journal.authorization.authorization.expiresAtUnixMillis
  requested : ∀ request, h.rollbackClaim = some (some request) ∨ h.staging.rollback = some (some request) →
    (∀ now ∈ readings h oracle, unixMilli now < request.authorization.expiresAtUnixMillis) ∨
      ∀ now ∈ readings h oracle, request.authorization.expiresAtUnixMillis ≤ unixMilli now
  staged : ∀ ready, h.activationClaim = some (some ready) ∨ h.staging.ready = some (some ready) →
    ∀ slot, h.slots.lookup ready.version = some slot →
      validateExistingSlot slot ⟨ready.artifactName,ready.artifactSize,ready.artifactSHA⟩ = true

theorem manageable (dealable : Dealable h oracle) (scope : Scope) : Manageable (calmly scope h oracle) h :=
  ⟨⟨dealable.clock,mem_cons_self⟩,dealable.journalled,dealable.requested,dealable.staged⟩

/-- A rollback cut off before its command was consumed is carried out by the next run. -/
def labUnconsumed : List Input :=
  [labBootstrap "v1.0.0",labStage 1,.activator {} none,labRequestRollback 2,.activator {} (some 4)]

/-- The same rollback a second later. -/
def labExpired : Host := after labTrust labHost (labUnconsumed ++ [.elapse 1000000000])

end P2pstream.UpdaterRecovery
