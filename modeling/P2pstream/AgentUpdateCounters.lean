import P2pstream.Library.Checks
import P2pstream.Semantics.AgentUpdates
import P2pstream.Kernel.AgentUpdateCalls

/-! The counters of an identity along the transactions of the control plane: a report is acknowledged,
or accepted under a counter above the stored one.
-/
namespace P2pstream.AgentUpdateCounters
open Library Kernel.AgentUpdates Checks Table List System

variable {p : Primitives} {s next : System} {events : List Event}

def Enrolled (s : System) : Prop := ∀ agent identity, s.identities.lookup agent = some identity → identity.agentID = agent

structure Rises (old new : Identity) : Prop where
  agent : new.agentID = old.agentID
  updater : new.updaterKeyID = old.updaterKeyID
  activator : new.activatorKeyID = old.activatorKeyID
  counter : old.lastCounter ≤ new.lastCounter
  root : old.lastRootActionCounter ≤ new.lastRootActionCounter

theorem Rises.refl (identity : Identity) : Rises identity identity := ⟨rfl,rfl,rfl,le_refl _,le_refl _⟩

theorem Rises.trans {a b c : Identity} (first : Rises a b) (second : Rises b c) : Rises a c :=
  ⟨second.agent.trans first.agent,second.updater.trans first.updater,second.activator.trans first.activator,
    first.counter.trans second.counter,first.root.trans second.root⟩

inductive Counted (s next : System) : Prop where
  | same (identities : next.identities = s.identities)
  | risen (old new) (stored : s.identities.lookup old.agentID = some old) (rises : Rises old new)
      (identities : next.identities = s.identities.insert new.agentID new)

/-- What a transaction does to the identities: nothing, a rise, or an enrollment. -/
inductive Identified (s next : System) : Input → Prop where
  | counted (input) (counted : Counted s next) : Identified s next input
  | enrolled (identity) (enrolled : s.enroll identity = some next) : Identified s next (.enroll identity)

def storedReceipts (agent : Nat) (events : List Event) : List Int := events.filterMap fun event => match event with
    | .receiptStored identity _ _ receipt _ _ =>
      if identity.agentID = agent then some receipt.value.rootActionCounter else none
    | _ => none

variable {agent : Nat} {now : Int} {identity : Identity} {row : Assignment} {m : Report} {input : Input}

theorem kept_identities (identities : next.identities = s.identities) : Enrolled s → Identified s next input :=
  fun _ => .counted _ (.same identities)

theorem enabled_stored (enrolled : Enrolled s) (found : s.enabledIdentity agent = some identity) :
    s.identities.lookup identity.agentID = some identity := by
  have stored := (Option.filter_eq_some_iff.mp found).1
  rw [enrolled agent identity stored]
  exact stored

theorem commanded (found : s.enabledIdentity agent = some identity) {sequence : Int}
    (identities : next.identities = s.identities.insert identity.agentID { identity with lastCommandSequence := sequence }) :
    Enrolled s → Identified s next input := by
  intro enrolled
  exact .counted _ (.risen identity { identity with lastCommandSequence := sequence } (enabled_stored enrolled found)
    ⟨rfl,rfl,rfl,le_refl _,le_refl _⟩ identities)

theorem acknowledged_counted {counter : Int} (stored : s.identities.lookup identity.agentID = some identity)
    (above : identity.lastCounter ≤ counter) : Counted s (s.setIdentity { identity with lastCounter := counter }) :=
  .risen identity { identity with lastCounter := counter } stored ⟨rfl,rfl,rfl,above,le_refl _⟩ rfl

theorem consume_spec {counter : Int} (ok : s.consumeAgentUpdaterCounter agent counter = some next) :
    ∃ identity, s.enabledIdentity agent = some identity ∧ identity.lastCounter < counter ∧
      s.setIdentity { identity with lastCounter := counter } = next := by
  unfold consumeAgentUpdaterCounter at ok
  simp only [bind_some,guard_some,pure_some] at ok
  exact ok

theorem authenticated_stored (enrolled : Enrolled s) (found : s.authenticateAgentUpdaterRequest p m = some identity) :
    s.identities.lookup identity.agentID = some identity := by
  obtain ⟨agent,stored⟩ := lookup_of_mem_values _ (mem_of_find?_eq_some found)
  rw [enrolled agent identity stored]
  exact stored

theorem consumeCounters_spec {counted : Identity} {receipt : Option SignedReceipt}
    (ok : consumeCounters identity m receipt = some counted) :
    identity.lastCounter < m.counter ∧ Rises identity counted ∧ counted.lastCounter = m.counter ∧
      ∀ signed, receipt = some signed → identity.lastRootActionCounter < signed.value.rootActionCounter ∧
        counted.lastRootActionCounter = signed.value.rootActionCounter := by
  unfold consumeCounters at ok
  split_ifs at ok with above
  cases receipt with
  | none =>
    cases ok
    exact ⟨above,⟨rfl,rfl,rfl,above.le,le_refl _⟩,rfl,fun _ never => (nomatch never)⟩
  | some =>
    dsimp only at ok
    split_ifs at ok with valid
    cases ok
    refine ⟨above,⟨rfl,rfl,rfl,above.le,valid.2.2.le⟩,rfl,fun other same => ?_⟩
    cases same
    exact ⟨valid.2.2,rfl⟩

/-- The identity of the agent is still enrolled under the same keys, with no counter below the old one. -/
def Risen (s : System) (agent : Nat) (next : System) : Prop :=
  ∀ old, s.identities.lookup agent = some old → ∃ new, next.identities.lookup agent = some new ∧ Rises old new

theorem Risen.of_eq (same : next.identities.lookup agent = s.identities.lookup agent) : Risen s agent next := by
  intro old stored
  exact ⟨old,same.trans stored,.refl old⟩

theorem Risen.trans {middle : System} (first : Risen s agent middle) (second : Risen middle agent next) :
    Risen s agent next := by
  intro old stored
  obtain ⟨between,here,low⟩ := first old stored
  obtain ⟨new,there,high⟩ := second between here
  exact ⟨new,there,low.trans high⟩

theorem Counted.risen_at (counted : Counted s next) (agent : Nat) : Risen s agent next := by
  cases counted with
  | same identities => exact .of_eq (by rw [identities])
  | risen _ new stored rises identities =>
    by_cases here : agent = new.agentID
    · intro _ found
      rw [here,rises.agent,stored] at found
      cases found
      refine ⟨new,?_,rises⟩
      rw [identities,here]
      exact AList.lookup_insert _
    · apply Risen.of_eq
      rw [identities]
      exact AList.lookup_insert_ne here

theorem Counted.enrolled (counted : Counted s next) (enrolled : Enrolled s) : Enrolled next := by
  cases counted with
  | same identities =>
    unfold Enrolled
    rw [identities]
    exact enrolled
  | risen _ _ _ _ identities =>
    unfold Enrolled
    rw [identities]
    exact forall_insert enrolled rfl

theorem enroll_written (ok : s.enroll identity = some next) :
    ∃ new, next.identities = s.identities.insert identity.agentID new ∧ new.agentID = identity.agentID := by
  unfold enroll at ok
  split at ok
  · split at ok
    all_goals
      cases ok
      exact ⟨_,rfl,rfl⟩
  · cases ok

theorem Identified.enrolled_next (identified : Identified s next input) (enrolled : Enrolled s) : Enrolled next := by
  cases identified with
  | counted _ counted => exact counted.enrolled enrolled
  | enrolled _ ok =>
    obtain ⟨_,identities,here⟩ := enroll_written ok
    unfold Enrolled
    rw [identities]
    exact forall_insert enrolled here

def enrolls (agent : Nat) : Input → Bool
  | .enroll identity => identity.agentID = agent
  | _ => false

theorem Identified.risen_at (identified : Identified s next input) (kept : enrolls agent input = false) :
    Risen s agent next := by
  cases identified with
  | counted _ counted => exact counted.risen_at agent
  | enrolled identity ok =>
    obtain ⟨_,identities,_⟩ := enroll_written ok
    have other : agent ≠ identity.agentID := by
      rintro rfl
      simp [enrolls] at kept
    apply Risen.of_eq
    rw [identities]
    exact AList.lookup_insert_ne other

end P2pstream.AgentUpdateCounters
