import P2pstream.StreamCapacityRuns

/-! Adaptive admission never overcommits the headroom of the published sample,
neither by streams nor by external reservations, in any order of grants,
releases, reservations and refreshes.
-/
namespace P2pstream.StreamCapacityHeadroom
open Library.Transitions
open Kernel.AdaptiveMemory Kernel.StreamCapacity Semantics.StreamCapacity
open StreamCapacityResources AdaptiveAdmission StreamCapacityInvariant
open StreamCapacityRuns

/-- Streams and external owners together fit in the headroom of the published
snapshot, in bytes and, where they are measured, in descriptors. -/
def Affordable (m : Manager) : Prop :=
  m.usedTotal * m.resourceSnapshot.streamChargeByte + m.adaptiveExternalBytes ≤ m.resourceSnapshot.headroomToHardByte ∧
    (0 < m.resourceSnapshot.fdLimit →
      m.usedTotal * m.resourceSnapshot.streamChargeFD + m.adaptiveExternalFDs ≤ m.resourceSnapshot.fdHeadroomToHard)

/-- What an admission leaves behind is affordable under adaptive control. -/
def WithinHeadroom : Event → Prop
  | .grant _ _ _ left => left.adaptiveMemory.isSome = true → Affordable left
  | .reserve _ left => left.adaptiveMemory.isSome = true → Affordable left
  | _ => True

theorem decided_withinHeadroom {event : Event} (decided : Decided event) : WithinHeadroom event := by
  cases event with
  | grant before lease _ left =>
    intro adaptive
    obtain ⟨able,total,counted,same,backed⟩ := decided
    obtain ⟨enabled,snapshot,_,bytes,fds,_⟩ := Resources.mk.inj same
    rw [enabled] at adaptive
    have accepts : before.adaptiveRefuses lease.capacityClass = false := by
      by_contra refuses
      unfold Manager.canGrantLocked at able
      rw [if_pos (Or.inl (by simpa using refuses))] at able
      cases able
    unfold Manager.adaptiveRefuses Manager.adaptiveEffectiveAdmissionLimitLocked at accepts
    simp only [adaptive,Bool.true_and,Bool.or_eq_false_iff,decide_eq_false_iff_not] at accepts
    obtain ⟨⟨accepting,_⟩,_⟩ := accepts
    have covered : Covered before.resourceSnapshot := backed.covered adaptive accepting
    unfold Affordable
    rw [counted,snapshot,bytes,fds]
    exact limit_covered covered backed.bytes backed.fds (by omega) (by omega)
  | reserve before =>
    intro _
    obtain ⟨r,reserves,rfl,total,backed⟩ := decided
    have covered : Covered before.resourceSnapshot := backed.covered reserves.adaptive reserves.accepting
    have control : 0 ≤ before.unusedProtectedControl := Int.le_max_left ..
    have fits : before.usedTotal ≤ before.resourceSnapshot.admissionLimitWithExternal
        (saturatingAddInt64 before.adaptiveExternalBytes r.memoryBytes)
        (saturatingAddInt64 before.adaptiveExternalFDs r.fileDescriptors) := by
      have limit := reserves.fits
      omega
    exact limit_covered covered (saturatingAdd_nonneg _ backed.bytes) (saturatingAdd_nonneg _ backed.fds) total fits
  | expire | dropKey => trivial

/-- Right after every grant and every external reservation of every run, streams
and external owners fit in the headroom of the snapshot published last. -/
theorem headroom_never_overcommitted (config : CapacityConfig) (start : Manager)
    (made : newAgentStreamCapacityManager config = .ok start) (inputs : List Input) (final : System)
    (events : List Event) (ran : run System.step (System.initial start) inputs = some (final,events)) :
    ∀ event ∈ events, WithinHeadroom event :=
  fun event mem => decided_withinHeadroom ((orderly_run made ran).2 event mem)

def idleSample : Sample where
  now := 0
  usages := .ok [⟨0,2000000,by decide⟩]
  descriptors := .ok ⟨10,100,by decide⟩
  percent := fun _ _ => 0

def sampledInputs : List Input := [.newController ⟨70,90,50,1000,262144,.serverStream,0,5000⟩ true,.enable 0,
    .refreshStart true 0 0,.refreshSample 0 idleSample,.refreshFinish 0,.acquire 0 .publicOneShot "a" "s",
    .reserve ⟨.publicConnection,1000,1,false⟩]

/-- A sampled controller admits one stream and one external connection. -/
theorem headroom_never_overcommitted_sampled : ∃ final events,
      run System.step (System.initial (emptyManager ⟨20,10,10,4,4,2,4,0⟩)) sampledInputs = some (final,events) ∧
      events.length = 2 ∧ ∀ event ∈ events, WithinHeadroom event := by
  have within := headroom_never_overcommitted ⟨20,10,10,4,4,2,4,0⟩ _ rfl sampledInputs _ _ rfl
  exact ⟨_,_,rfl,rfl,within⟩

end P2pstream.StreamCapacityHeadroom
