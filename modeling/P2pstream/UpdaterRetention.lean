import P2pstream.UpdaterRuns

/-! Pruning removes no slot that a record names, so the slot a rollback or a recovery
switches to is still on disk.
-/
namespace P2pstream.UpdaterRetention
open Library.Durable
open Kernel.Updater Semantics.Updater UpdaterInvariant UpdaterSteps
open UpdaterRuns UpdaterRecords

variable {t : Trust} {h : Host}

def Retains (h : Host) (_ : HostEvent) (next : Host) : Prop :=
  ∀ target slot, Named h.toRoot target → h.slots.lookup target = some slot → next.slots.lookup target = some slot

variable {event : HostEvent} {scope : Scope}

theorem retains_root {now : Int} {r r' : Root} (step : RootStep t scope now r event r') {target : String}
    {slot : Slot} (named : Named r target) (found : r.slots.lookup target = some slot) :
    r'.slots.lookup target = some slot := by
  cases step with
  | install name _ absent =>
    have ne : target ≠ name := by
      rintro rfl
      cases found.symm.trans absent
    exact (AList.lookup_insert_ne ne).trans found
  | prune _ _ kept others => exact (others target (kept target named)).trans found
  | _ => exact found

theorem retains_step {next : Host} (step : HostStep t scope h event next) : Retains h event next := by
  intro _ _ named found
  cases step with
  | quiet _ same =>
    rw [same]
    exact found
  | root _ _ step => exact retains_root step named found

theorem pruning_retains (oracle : Oracle) (cut : Option Nat) {target : String} (named : Named h.toRoot target) :
    (lastState h (effected cut (pruneObsoleteSlots t h oracle).trace)).slots.lookup target = h.slots.lookup target := by
  let w : World Host HostEvent := ⟨false,fun _ => True,fun h _ next => Prunes h next⟩
  have permits : Permits w oracle := ⟨fun impossible => absurd impossible Bool.false_ne_true,fun _ _ => trivial⟩
  have ran : Runs w none h (pruneObsoleteSlots t) (fun _ next => Pruned (anyhow everything) h next)
      (Pruned (anyhow everything) h) := runs_pruning rfl fun _ _ prunes => prunes
  have chain : Chain w.allowed h (effected cut (pruneObsoleteSlots t h oracle).trace) := by
    have whole := follows_none.mp (ran oracle permits).1
    cases cut with
    | none => exact whole
    | some count => exact chain_take whole count
  -- Along the steps of pruning no record changes, so the same slots stay named.
  refine (chain_invariant (motive := fun next => Named next.toRoot target ∧
    next.slots.lookup target = h.slots.lookup target) ?_ ⟨named,rfl⟩ chain).2
  rintro state _ next ⟨named,same⟩ ⟨root,_,free,others⟩
  refine ⟨?_,(others target (free target named)).trans same⟩
  have records : state.toRoot = { next.toRoot with slots := state.slots } := by rw [root]
  rw [records] at named
  exact named_slots named

theorem switched_available {next : Host} (sound : Sound t h.now h.toRoot) (step : HostStep t scope h event next)
    (sequence : Int) (forward : Bool) (target : String) (switched : event = .switched sequence forward target) :
    slotAvailable next.toRoot target := by
  have after := sound_step sound step
  subst switched
  cases step with
  | quiet _ _ _ quiet => exact nomatch quiet
  | root _ _ step =>
    refine after.slots.current target ?_
    cases change : next.toRoot
    rw [change] at step
    cases step <;> rfl

/-- Whatever happened to a host: pruning leaves every named slot as it was, no durable
step of an activator run drops one, and the slots to come back to are installed when a
recovery or a rollback starts and when `current` is switched to them. -/
theorem named_slots_retained (reachable : Reachable t h) : (∀ oracle cut target, Named h.toRoot target →
      (lastState h (effected cut (pruneObsoleteSlots t h oracle).trace)).slots.lookup target = h.slots.lookup target) ∧
    (∀ oracle, Chain Retains h (runActivator t h oracle).trace) ∧
    (∀ journal, h.journal = some journal → slotAvailable h.toRoot journal.previousTarget = true) ∧
    (∀ journal, h.rollbackJournal = some journal →
      slotAvailable h.toRoot journal.fromSlot.target = true ∧ slotAvailable h.toRoot journal.toSlot.target = true) ∧
    (∀ slot, h.previous = some slot → slotAvailable h.toRoot slot.target = true) ∧
    (∀ oracle, ∀ entry ∈ (runActivator t h oracle).trace, ∀ sequence forward target,
      entry.1 = .switched sequence forward target → slotAvailable entry.2.toRoot target = true) := by
  have sound := reachable_sound reachable
  refine ⟨fun oracle cut target named => pruning_retains oracle cut named,fun oracle => ?_,fun journal found => ?_,
    fun journal found => ?_,fun slot found => ?_,fun oracle => ?_⟩
  · exact chain_mono (fun _ _ _ => retains_step) (activator_chain sound oracle none)
  · exact (sound.pending journal found).available
  · exact (sound.rolling journal found).available
  · exact (sound.slots.previous slot found).2
  · exact chain_always (motive := fun h => Sound t h.now h.toRoot) (fun _ _ _ => sound_step)
      (fun _ _ _ => switched_available) sound (activator_chain sound oracle none)

/-- After an activation the previous slot is still there for a rollback. -/
theorem named_slots_retained_activated :
    (after labTrust labHost [labBootstrap "v1.0.0",labStage 1,.activator {} none]).previous.map SlotMetadata.target =
        some "bootstrap-0101010101010101" ∧
      ∀ slot, (after labTrust labHost [labBootstrap "v1.0.0",labStage 1,.activator {} none]).previous = some slot →
        slotAvailable (after labTrust labHost [labBootstrap "v1.0.0",labStage 1,.activator {} none]).toRoot slot.target =
          true :=
  ⟨by decide +kernel,(named_slots_retained (lab_reachable _)).2.2.2.2.1⟩

/-- Wherever a host was cut off: one journal at most is left, the link is at one of its two ends, and the counter
stays below the command until that is attested. -/
theorem journals_recoverable (reachable : Reachable t h) : (h.journal = none ∨ h.rollbackJournal = none) ∧
    (∀ journal, h.journal = some journal →
      (h.current = some journal.previousTarget ∨ h.current = some journal.candidateTarget) ∧
      (journal.phase ≠ .healthy → loadRootActionCounter h.toRoot < journal.command) ∧
      (journal.phase = .healthy → ∃ receipt, journal.receipt = some receipt ∧ Attests t receipt journal.authorization)) ∧
    (∀ journal, h.rollbackJournal = some journal →
      (h.current = some journal.fromSlot.target ∨ h.current = some journal.toSlot.target) ∧
      (journal.phase ≠ .completed → loadRootActionCounter h.toRoot < journal.command) ∧
      (journal.phase = .completed → ∃ receipt, journal.receipt = some receipt ∧ Attests t receipt journal.authorization)) ∧
    (h.journal = none → h.rollbackJournal = none → ∀ slot, h.metadata = some slot → h.current = some slot.target) := by
  have sound := reachable_sound reachable
  refine ⟨sound.exclusive,fun journal found => ?_,fun journal found => ?_,sound.described⟩
  · have pending := sound.pending journal found
    refine ⟨pending.place,pending.uncounted,fun phase => ?_⟩
    obtain ⟨_,receipt,attested,receipted,_⟩ := pending.attested phase
    exact ⟨receipt,attested,receipted.attests⟩
  · have rolling := sound.rolling journal found
    refine ⟨rolling.place,fun phase => (rolling.uncounted phase).1,fun phase => ?_⟩
    obtain ⟨_,receipt,attested,receipted⟩ := rolling.attested phase
    exact ⟨receipt,attested,receipted.attests⟩

theorem journals_recoverable_cut :
    let h := after labTrust labHost [labBootstrap "v1.0.0",labStage 1,.activator {} (some 8)]
    h.journal.isSome ∧ ∀ journal, h.journal = some journal →
      h.current = some journal.previousTarget ∨ h.current = some journal.candidateTarget :=
  ⟨by decide +kernel,fun journal found => ((journals_recoverable (lab_reachable _)).2.1 journal found).1⟩

end P2pstream.UpdaterRetention
