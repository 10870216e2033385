import P2pstream.UpdaterRuns

/-! Commands that were consumed before are delivered again. A run that finds only such
commands changes nothing of root's, and publishes nothing but a receipt on record.
-/
namespace P2pstream.UpdaterDeliveries
open Library.Durable
open Kernel.AgentUpdates (AssignmentAction)
open Kernel.Updater Semantics.Updater UpdaterSteps UpdaterActivationSteps
open UpdaterRollbackSteps UpdaterRuns

variable {t : Trust} {h : Host} {about : AuthorizationRecord → Prop}

/-- Root's state is kept, and only receipts on record of the commands named are published. -/
structure Echoes (about : AuthorizationRecord → Prop) (h next : Host) : Prop where
  root : next.toRoot = h.toRoot
  receipt : next.staging.receipt = h.staging.receipt ∨ ∃ done, h.lastActivation = some done ∧
    about done.authorization ∧ next.staging.receipt = some (some done.receipt)
  result : next.staging.rollbackResult = h.staging.rollbackResult ∨ ∃ result, h.lastRollback = some result ∧
    about result.authorization ∧ next.staging.rollbackResult = some (some result)

theorem Echoes.refl (h : Host) : Echoes about h h := ⟨rfl,.inl rfl,.inl rfl⟩

theorem Echoes.trans {a b c : Host} (first : Echoes about a b) (second : Echoes about b c) : Echoes about a c := by
  have last : b.lastActivation = a.lastActivation := by rw [first.root]
  have result : b.lastRollback = a.lastRollback := by rw [first.root]
  refine ⟨second.root.trans first.root,?_,?_⟩
  · rcases second.receipt with same | published
    · rw [same]
      exact first.receipt
    · rw [last] at published
      exact .inr published
  · rcases second.result with same | published
    · rw [same]
      exact first.result
    · rw [result] at published
      exact .inr published

/-- Every command that waits was consumed before, and its receipt is one of those named. -/
structure Spent (about : AuthorizationRecord → Prop) (h : Host) : Prop where
  activation : ∀ ready, h.activationClaim = some (some ready) ∨ h.staging.ready = some (some ready) →
    ¬ Unconsumed h.toRoot ready.authorization.authorization.commandSequence ∧
      ∀ record, sameAssignmentAuthorizationRecord record ready.authorization = true → about record
  rollback : ∀ request, h.rollbackClaim = some (some request) ∨ h.staging.rollback = some (some request) →
    ¬ Unconsumed h.toRoot request.authorization.commandSequence ∧
      ∀ record, sameAssignmentAuthorizationRecord record request = true → about record

abbrev echoWorld (about : AuthorizationRecord → Prop) : World Host HostEvent where
  calm := false
  admits := fun _ => True
  allowed := fun h _ next => Echoes about h next

theorem suits_echo : Suits (echoWorld about) := ⟨fun _ _ _ => ⟨rfl,.inl rfl,.inl rfl⟩,fun h _ _ => .refl h,
    fun _ _ cleared => ⟨cleared.root,.inl cleared.receipt,.inl cleared.result⟩⟩

abbrev Echoing (about : AuthorizationRecord → Prop) (h : Host) (program : Action Unit) : Prop :=
  Runs (echoWorld about) none h program (fun _ _ => True) (fun _ => True)

theorem echoing_activate (clear : Clear h) (spent : Spent about h) : Echoing about h (activate t) := by
  refine runs_clock suits_echo fun started _ _ => ?_
  have recovered : Runs (echoWorld about) none { h with now := started } (recoverActivation t)
      (fun _ next => next = { h with now := started }) (fun _ => True) := by
    refine runs_get ?_
    rw [clear.journal]
    exact runs_pure rfl
  refine runs_bind recovered ?_ fun _ _ => trivial
  rintro _ _ rfl
  refine runs_get (runs_require (fun _ => trivial) fun _ _ => ?_)
  cases claimed : h.activationClaim with
  | none => exact runs_pure trivial
  | some =>
    refine runs_require (fun _ => trivial) fun ready parsed => runs_check (fun _ => trivial) fun _ => ?_
    obtain ⟨consumed,named⟩ := spent.activation ready (.inl (claimed.trans (congrArg some parsed)))
    refine runs_require (fun _ => trivial) fun floor loaded => ?_
    rw [if_neg fun below => consumed ⟨floor,loaded,below⟩]
    refine runs_check (fun _ => trivial) fun _ => ?_
    refine runs_mono (runs_replayCompletedActivation (s := anyhow everything) suits_echo rfl ?_) (fun _ _ _ => trivial)
      fun _ _ => trivial
    exact fun _ done _ last same => ⟨rfl,.inr ⟨done,last,named _ same,rfl⟩,.inl rfl⟩

theorem echoing_failure (action : AssignmentAction) (h : Host) :
    Echoing about h (quarantineActivationFailure action >>= fun _ => fail) :=
  runs_bind (runs_quarantine suits_echo) (fun _ _ _ => runs_fail trivial) fun _ _ => trivial

section

variable (clear : Clear h) (spent : Spent about h)
include clear spent

theorem echoing_runClaimedActivation : Echoing about h (runClaimedActivation t) := by
  refine runs_attempt (echoing_activate clear spent) (fun _ _ _ => runs_pure trivial) fun between _ => ?_
  exact echoing_failure .activate between

theorem echoing_runClaimedRollback : Echoing about h (runClaimedRollback t) := by
  have path : Echoing about h (rollbackFromPath t) := by
    refine runs_get ?_
    rw [clear.rollback]
    refine runs_require (fun _ => trivial) fun _ claimed => runs_require (fun _ => trivial) fun request parsed => ?_
    obtain ⟨consumed,named⟩ := spent.rollback request (.inl (claimed.trans (congrArg some parsed)))
    refine runs_require (fun _ => trivial) fun floor loaded => ?_
    rw [if_neg fun below => consumed ⟨floor,loaded,below⟩]
    refine runs_check (fun _ => trivial) fun _ => ?_
    refine runs_mono (runs_replayCompletedRollback (s := anyhow everything) suits_echo rfl ?_) (fun _ _ _ => trivial)
      fun _ _ => trivial
    exact fun _ result _ last same => ⟨rfl,.inl rfl,.inr ⟨result,last,named _ same,rfl⟩⟩
  refine runs_attempt path (fun _ _ _ => runs_pure trivial) fun between _ => ?_
  exact echoing_failure .rollback between

theorem echoing_claim {claim : Action Unit} (either : claim = claimRollback ∨ claim = claimActivation) :
    Runs (echoWorld about) none h claim (fun _ next => Clear next ∧ Spent about next) (fun _ => True) := by
  rcases either with rfl | rfl
  all_goals
    refine runs_get ?_
    split_ifs
    · exact runs_pure ⟨clear,spent⟩
    refine runs_last_write ⟨rfl,.inl rfl,.inl rfl⟩ (fun _ => ⟨trivial,trivial⟩) ⟨⟨clear.journal,clear.rollback⟩,?_⟩
  · refine ⟨spent.activation,?_⟩
    rintro request (claimed | impossible)
    · exact spent.rollback request (.inr claimed)
    · cases impossible
  · refine ⟨?_,spent.rollback⟩
    rintro ready (claimed | impossible)
    · exact spent.activation ready (.inr claimed)
    · cases impossible

theorem echoing_runActivator : Echoing about h (runActivator t) := by
  refine runs_get ?_
  rw [clear.rollback,clear.journal]
  refine runs_bind (echoing_claim clear spent (.inl rfl)) ?_ fun _ _ => trivial
  rintro _ _ ⟨clear,spent⟩
  refine runs_get ?_
  split_ifs
  · exact echoing_runClaimedRollback clear spent
  refine runs_bind (echoing_claim clear spent (.inr rfl)) ?_ fun _ _ => trivial
  rintro _ _ ⟨clear,spent⟩
  refine runs_bind (echoing_claim clear spent (.inl rfl)) ?_ fun _ _ => trivial
  rintro _ _ ⟨clear,spent⟩
  refine runs_get ?_
  split_ifs
  · exact echoing_runClaimedRollback clear spent
  · exact echoing_runClaimedActivation clear spent
  · exact runs_pure trivial

theorem activator_echoes (oracle : Oracle) (cut : Option Nat) :
    Echoes about h (lastState h (effected cut (runActivator t h oracle).trace)) := by
  have permits : Permits (echoWorld about) oracle := ⟨nofun,fun _ _ => trivial⟩
  have chain := follows_none.mp (effected_follows (echoing_runActivator (t := t) clear spent oracle permits).1 cut)
  exact chain_invariant (motive := Echoes about h) (fun _ _ _ first second => first.trans second) (.refl h) chain

end

end P2pstream.UpdaterDeliveries
