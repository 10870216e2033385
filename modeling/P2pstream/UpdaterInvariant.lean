import P2pstream.UpdaterRecords

/-! What holds of a host after any number of durable steps, whoever made them and
wherever they were cut off: the two journals exclude each other, a journal matches the
command floor, the counter and the current slot, and every slot a recovery goes back
to is installed.
-/
namespace P2pstream.UpdaterInvariant
open Library Library.Checks Kernel.SignedPayloads Option Bool
open Kernel.AgentUpdates (AssignmentAction SignedReceipt maxSigningClockSkew unixMilli)
open Kernel.Updater Semantics.Updater UpdaterRecords

variable {t : Trust} {scope : Scope} {now after : Int} {r r' : Root} {event : HostEvent}

variable {digest target : String} {authorization : AuthorizationRecord} {receipt : SignedReceipt}
  {journal : RollbackJournal}

theorem not_unconsumed {sequence : Int} (consumed : Consumed r sequence digest) : ¬ Unconsumed r sequence := by
  rintro ⟨_,loaded,_⟩
  obtain ⟨_,loaded',_,_⟩ := consumed
  cases loaded.symm.trans loaded'
  omega

/-- Recorded slots can be attested, and those to come back to are installed. -/
structure Slots (t : Trust) (r : Root) : Prop where
  current : ∀ target, r.current = some target → slotAvailable r target = true
  metadata : ∀ slot, r.metadata = some slot → Attestable t slot
  previous : ∀ slot, r.previous = some slot → Attestable t slot ∧ slotAvailable r slot.target = true
  last : ∀ done, r.lastActivation = some done →
    Attestable t done.previousSlot ∧ slotAvailable r done.previousSlot.target = true ∧
      Attestable t done.activatedSlot ∧ slotAvailable r done.activatedSlot.target = true

structure Receipted (t : Trust) (now : Int) (r : Root) (authorization : AuthorizationRecord) (receipt : SignedReceipt) :
    Prop where
  attests : Attests t receipt authorization
  completed : receipt.value.completedAtUnixMillis ≤ unixMilli (now + maxSigningClockSkew)
  counter : receipt.value.rootActionCounter = loadRootActionCounter r + 1 ∨
    receipt.value.rootActionCounter = loadRootActionCounter r
  bound : receipt.value.rootActionCounter ≤ authorization.authorization.commandSequence

structure Pending (t : Trust) (now : Int) (r : Root) (journal : ActivationJournal) : Prop where
  written : Written t journal
  attestable : Attestable t journal.previousSlot
  available : slotAvailable r journal.previousTarget = true
  place : r.current = some journal.previousTarget ∨ r.current = some journal.candidateTarget
  ordered : (Unconsumed r journal.command ∧ journal.phase = .prepared) ∨
    Consumed r journal.command journal.authorizationSHA
  uncounted : journal.phase ≠ .healthy → loadRootActionCounter r < journal.command
  attested : journal.phase = .healthy → r.current = some journal.candidateTarget ∧
    ∃ receipt, journal.receipt = some receipt ∧ Receipted t now r journal.authorization receipt ∧
      receipt.value.resultKind = .release ∧
      receipt.value.resultManifestSHA256 = journal.authorization.authorization.manifestSHA256

structure Rolling (t : Trust) (now : Int) (r : Root) (journal : RollbackJournal) : Prop where
  requested : Requested t journal
  attestable : Attestable t journal.fromSlot ∧ Attestable t journal.toSlot
  available : slotAvailable r journal.fromSlot.target = true ∧ slotAvailable r journal.toSlot.target = true
  place : r.current = some journal.fromSlot.target ∨ r.current = some journal.toSlot.target
  ordered : (Unconsumed r journal.command ∧ journal.phase = .prepared ∧
      r.current = some journal.fromSlot.target) ∨
    Consumed r journal.command journal.authorizationSHA
  issued : journal.authorization.authorization.issuedAtUnixMillis ≤ unixMilli (now + maxSigningClockSkew)
  uncounted : journal.phase ≠ .completed →
    loadRootActionCounter r < journal.command ∧ r.metadata = some journal.fromSlot
  attested : journal.phase = .completed → r.current = some journal.toSlot.target ∧
    ∃ receipt, journal.receipt = some receipt ∧ Receipted t now r journal.authorization receipt

def Counted (r : Root) : Prop := 0 ≤ loadRootActionCounter r ∧
  ∃ floor, loadRootCommandFloor r = some floor ∧ loadRootActionCounter r ≤ floor.sequence

structure Sound (t : Trust) (now : Int) (r : Root) : Prop where
  exclusive : r.journal = none ∨ r.rollbackJournal = none
  counted : Counted r
  slots : Slots t r
  pending : ∀ journal, r.journal = some journal → Pending t now r journal
  rolling : ∀ journal, r.rollbackJournal = some journal → Rolling t now r journal
  described : r.journal = none → r.rollbackJournal = none → ∀ slot, r.metadata = some slot → r.current = some slot.target

theorem Receipted.later (receipted : Receipted t now r authorization receipt) (le : now ≤ after) :
    Receipted t after r authorization receipt :=
  { receipted with completed := receipted.completed.trans (unixMilli_mono (by omega)) }

theorem Sound.later (sound : Sound t now r) (le : now ≤ after) : Sound t after r := by
  refine ⟨sound.exclusive,sound.counted,sound.slots,fun journal found => ?_,fun journal found => ?_,sound.described⟩
  · refine { sound.pending journal found with attested := fun phase => ?_ }
    obtain ⟨current,receipt,attested,receipted,result⟩ := (sound.pending journal found).attested phase
    exact ⟨current,receipt,attested,receipted.later le,result⟩
  · have rolling := sound.rolling journal found
    refine { rolling with issued := rolling.issued.trans (unixMilli_mono (by omega)), attested := fun phase => ?_ }
    obtain ⟨current,receipt,attested,receipted⟩ := rolling.attested phase
    exact ⟨current,receipt,attested,receipted.later le⟩

theorem Pending.frame {journal : ActivationJournal} (pending : Pending t now r journal)
    (current : r'.current = r.current) (floors : loadRootCommandFloor r' = loadRootCommandFloor r)
    (counters : loadRootActionCounter r' = loadRootActionCounter r)
    (available : slotAvailable r' journal.previousTarget) : Pending t now r' journal := by
  refine ⟨pending.written,pending.attestable,available,?_,?_,?_,?_⟩
  · rw [current]
    exact pending.place
  · unfold Unconsumed Consumed
    rw [floors]
    exact pending.ordered
  · rw [counters]
    exact pending.uncounted
  · intro phase
    obtain ⟨place,receipt,attested,receipted,result⟩ := pending.attested phase
    refine ⟨current.trans place,receipt,attested,{ receipted with counter := ?_ },result⟩
    rw [counters]
    exact receipted.counter

theorem Rolling.frame (rolling : Rolling t now r journal) (current : r'.current = r.current)
    (floors : loadRootCommandFloor r' = loadRootCommandFloor r) (counters : loadRootActionCounter r' = loadRootActionCounter r)
    (metadata : r'.metadata = r.metadata ∨ journal.phase = .completed)
    (available : slotAvailable r' journal.fromSlot.target ∧ slotAvailable r' journal.toSlot.target) :
    Rolling t now r' journal := by
  refine ⟨rolling.requested,rolling.attestable,available,?_,?_,rolling.issued,?_,?_⟩
  · rw [current]
    exact rolling.place
  · unfold Unconsumed Consumed
    rw [floors,current]
    exact rolling.ordered
  · intro phase
    rw [counters]
    rcases metadata with same | completed
    · rw [same]
      exact rolling.uncounted phase
    · exact absurd completed phase
  · intro phase
    obtain ⟨place,receipt,attested,receipted⟩ := rolling.attested phase
    refine ⟨current.trans place,receipt,attested,{ receipted with counter := ?_ }⟩
    rw [counters]
    exact receipted.counter

theorem Sound.frame (sound : Sound t now r) (journal : r'.journal = r.journal)
    (rollback : r'.rollbackJournal = r.rollbackJournal) (current : r'.current = r.current)
    (floors : loadRootCommandFloor r' = loadRootCommandFloor r) (counters : loadRootActionCounter r' = loadRootActionCounter r)
    (metadata : r'.metadata = r.metadata ∨ ∀ journal, r.rollbackJournal = some journal → journal.phase = .completed)
    (available : ∀ target, Named r target → slotAvailable r target → slotAvailable r' target)
    (slots : Slots t r')
    (described : r'.journal = none → r'.rollbackJournal = none → ∀ slot, r'.metadata = some slot →
      r'.current = some slot.target) : Sound t now r' := by
  refine ⟨?_,?_,slots,fun pending found => ?_,fun rolling found => ?_,described⟩
  · rw [journal,rollback]
    exact sound.exclusive
  · unfold Counted
    rw [counters,floors]
    exact sound.counted
  · rw [journal] at found
    have before := sound.pending pending found
    exact before.frame current floors counters (available _ (.journalPrevious found) before.available)
  · rw [rollback] at found
    have before := sound.rolling rolling found
    refine before.frame current floors counters (metadata.imp_right fun completed => completed rolling found) ?_
    exact ⟨available _ (.rollbackFrom found) before.available.1,available _ (.rollbackTo found) before.available.2⟩

theorem available_of_lookup (same : r'.slots.lookup target = r.slots.lookup target)
    (available : slotAvailable r target) : slotAvailable r' target := by
  unfold slotAvailable at available ⊢
  rw [same]
  exact available

theorem available_insert {name : String} {slot : Slot} (absent : r.slots.lookup name = none)
    (available : slotAvailable r target) :
    slotAvailable { r with slots := r.slots.insert name slot } target := by
  refine available_of_lookup ?_ available
  have ne : target ≠ name := by
    rintro rfl
    simp [slotAvailable,absent] at available
  exact AList.lookup_insert_ne ne

theorem Slots.reinstalled {slots : Table String Slot} (ok : Slots t r)
    (available : ∀ target, Named r target → slotAvailable r target →
      slotAvailable { r with slots := slots } target) : Slots t { r with slots := slots } := by
  refine ⟨fun target found => ?_,ok.metadata,fun slot found => ?_,fun done found => ?_⟩
  · exact available _ (.current found) (ok.current target found)
  · obtain ⟨attestable,there⟩ := ok.previous slot found
    exact ⟨attestable,available _ (.previous found) there⟩
  · obtain ⟨before,thereBefore,activated,there⟩ := ok.last done found
    exact ⟨before,available _ (.activationPrevious found) thereBefore,activated,available _ (.activated found) there⟩

theorem Slots.relinked (ok : Slots t r) (available : slotAvailable r target) :
    Slots t { r with current := some target } := by
  refine { ok with current := ?_ }
  rintro _ ⟨⟩
  exact available

theorem Slots.described {slot : SlotMetadata} (ok : Slots t r) (attestable : Attestable t slot) :
    Slots t { r with metadata := some slot } := by
  refine { ok with metadata := ?_ }
  rintro _ ⟨⟩
  exact attestable

theorem Sound.idle (sound : Sound t now r) {journal : ActivationJournal} (found : r.journal = some journal) :
    r.rollbackJournal = none :=
  sound.exclusive.resolve_left (absent found)

theorem Sound.quiet (sound : Sound t now r) (found : r.rollbackJournal = some journal) : r.journal = none :=
  sound.exclusive.resolve_right (absent found)

section

variable {journal : ActivationJournal}

theorem Pending.consumed (pending : Pending t now r journal) (phase : journal.phase ≠ .prepared) :
    Consumed r journal.command journal.authorizationSHA := by
  rcases pending.ordered with ⟨_,prepared⟩ | consumed
  · exact absurd prepared phase
  · exact consumed

theorem Pending.receipted (pending : Pending t now r journal) (healthy : Healthy r journal receipt) :
    Receipted t now r journal.authorization receipt ∧ receipt.value.resultKind = .release ∧
      receipt.value.resultManifestSHA256 = journal.authorization.authorization.manifestSHA256 := by
  obtain ⟨_,_,attested,result⟩ := pending.attested healthy.phase
  cases healthy.attested.symm.trans attested
  exact result

theorem Sound.activating (found : r.journal = some journal) (quiet : r.rollbackJournal = none) (counted : Counted r)
    (slots : Slots t r) (pending : Pending t now r journal) : Sound t now r := by
  refine ⟨.inr quiet,counted,slots,fun other same => ?_,fun _ rolling => absent rolling quiet,fun idle => absent found idle⟩
  rw [← some.inj (found.symm.trans same)]
  exact pending

theorem Sound.journalled (sound : Sound t now r) (quiet : r.rollbackJournal = none)
    (pending : Pending t now r journal) : Sound t now { r with journal := some journal } := by
  refine .activating rfl quiet sound.counted ?_ (pending.frame rfl rfl rfl pending.available)
  exact { sound.slots with }

theorem Sound.closed (sound : Sound t now r) (quiet : r.rollbackJournal = none)
    (described : ∀ slot, r.metadata = some slot → r.current = some slot.target) :
    Sound t now { r with journal := none } :=
  ⟨.inl rfl,sound.counted,{ sound.slots with },fun _ found => absent found rfl,fun _ found => absent found quiet,
    fun _ _ => described⟩

theorem prepared_pending (sound : Sound t now r)
    (phase : journal.phase = .prepared) (written : Written t journal) (recorded : Recorded r journal)
    (unconsumed : Unconsumed r journal.command) : Pending t now r journal := by
  obtain ⟨_,present,loaded,below⟩ := sound.counted
  obtain ⟨_,loaded',above⟩ := unconsumed
  cases loaded.symm.trans loaded'
  have slot : Attestable t journal.previousSlot ∧ slotAvailable r journal.previousTarget := by
    cases recorded with
    | current current metadata => exact ⟨sound.slots.metadata _ metadata,sound.slots.current _ current⟩
    | reactivation _ _ _ _ done last same =>
      obtain ⟨attestable,available,_⟩ := sound.slots.last done last
      rw [written.target]
      rw [same] at attestable available
      exact ⟨attestable,available⟩
  refine ⟨written,slot.1,slot.2,?_,.inl ⟨⟨present,loaded,above⟩,phase⟩,fun _ => below.trans_lt above,?_⟩
  · cases recorded with
    | current current => exact .inl current
    | reactivation current => exact .inr current
  · intro healthy
    cases phase.symm.trans healthy

theorem consumed_loads {record : AuthorizationRecord} {action : AssignmentAction} (signed : Signed t action record)
    (digested : authorizationDigest t record.authorization = some digest) :
    loadRootCommandFloor { r with commandFloor := some ⟨record.authorization.commandSequence,digest⟩ } =
      some ⟨record.authorization.commandSequence,digest⟩ := by
  have sequence := (valid_interval (signed_valid signed)).2
  simp only [positive,and_eq_true,decide_eq_true_eq] at sequence
  have nonzero : record.authorization.commandSequence ≠ 0 := by omega
  simp [loadRootCommandFloor,nonzero,digest_pattern digested]

theorem Sound.moved (sound : Sound t now r) (found : r.journal = some journal)
    (phase : journal.phase ≠ .healthy) (place : target = journal.previousTarget ∨ target = journal.candidateTarget)
    (available : slotAvailable r target) : Sound t now { r with current := some target } := by
  have pending := sound.pending journal found
  refine .activating found (sound.idle found) sound.counted (sound.slots.relinked available) ?_
  exact { pending with place := place.imp (congrArg some) (congrArg some), attested := fun healthy => absurd healthy phase }

theorem written_advance (written : Written t journal) (phase : ActivationPhase)
    (receipt : Option SignedReceipt) : Written t { journal with phase := phase, receipt := receipt } :=
  { written with }

theorem Pending.switched (pending : Pending t now r journal) (phase : journal.phase = .prepared)
    (consumed : Consumed r journal.command journal.authorizationSHA) :
    Pending t now r { journal with phase := .switched } :=
  ⟨written_advance pending.written .switched journal.receipt,pending.attestable,pending.available,pending.place,.inr consumed,
    fun _ => pending.uncounted (by simp [phase]),nofun⟩

theorem issued_receipted (issued : Issued t now r authorization receipt)
    (uncounted : loadRootActionCounter r < authorization.authorization.commandSequence) :
    Receipted t now r authorization receipt := by
  obtain ⟨attests,completed,_⟩ := receipt_iff.mp issued.verified
  refine ⟨attests,completed,.inl issued.next,?_⟩
  rw [issued.next]
  omega

theorem Pending.healthy (pending : Pending t now r journal)
    (phase : journal.phase = .switched) (current : r.current = some journal.candidateTarget)
    (issued : Issued t now r journal.authorization receipt) (kind : receipt.value.resultKind = .release)
    (manifest : receipt.value.resultManifestSHA256 = journal.authorization.authorization.manifestSHA256) :
    Pending t now r { journal with phase := .healthy, receipt := some receipt } := by
  have receipted := issued_receipted issued (pending.uncounted (by simp [phase]))
  refine ⟨written_advance pending.written .healthy (some receipt),pending.attestable,pending.available,pending.place,
    .inr (pending.consumed (by simp [phase])),fun other => absurd rfl other,
    fun _ => ⟨current,receipt,rfl,receipted,kind,manifest⟩⟩

end

theorem counted_receipt (receipted : Receipted t now r authorization receipt)
    (consumed : Consumed r authorization.authorization.commandSequence digest) :
    Counted { r with counter := some receipt.value.rootActionCounter } := by
  have valid := attests_valid receipted.attests
  simp only [validateRootActionReceipt,positive,and_eq_true,decide_eq_true_eq] at valid
  have counted : 0 ≤ receipt.value.rootActionCounter := by omega
  obtain ⟨floor,loaded,sequence,_⟩ := consumed
  exact ⟨counted,floor,loaded,sequence ▸ receipted.bound⟩

theorem Receipted.counted (receipted : Receipted t now r authorization receipt) :
    Receipted t now { r with counter := some receipt.value.rootActionCounter } authorization receipt :=
  { receipted with counter := .inr rfl }

theorem Sound.rollingBack (found : r.rollbackJournal = some journal) (idle : r.journal = none) (counted : Counted r)
    (slots : Slots t r) (rolling : Rolling t now r journal) : Sound t now r := by
  refine ⟨.inl idle,counted,slots,fun _ busy => absent busy idle,fun other same => ?_,fun _ quiet => absent found quiet⟩
  rw [← some.inj (found.symm.trans same)]
  exact rolling

theorem Sound.rolled (sound : Sound t now r) (idle : r.journal = none) (rolling : Rolling t now r journal) :
    Sound t now { r with rollbackJournal := some journal } := by
  refine .rollingBack rfl idle sound.counted ?_ (rolling.frame rfl rfl rfl (.inl rfl) rolling.available)
  exact { sound.slots with }

theorem Sound.unrolled (sound : Sound t now r) (idle : r.journal = none)
    (described : ∀ slot, r.metadata = some slot → r.current = some slot.target) :
    Sound t now { r with rollbackJournal := none } :=
  ⟨.inl idle,sound.counted,{ sound.slots with },fun _ found => absent found idle,fun _ found => absent found rfl,
    fun _ _ => described⟩

theorem Rolling.unconsumed (rolling : Rolling t now r journal)
    (unconsumed : Unconsumed r journal.command) : journal.phase = .prepared := by
  rcases rolling.ordered with ⟨_,prepared,_⟩ | consumed
  · exact prepared
  · exact absurd unconsumed (not_unconsumed consumed)

theorem Sound.movedRollback (sound : Sound t now r) (found : r.rollbackJournal = some journal)
    (phase : journal.phase ≠ .completed)
    (consumed : Consumed r journal.command journal.authorizationSHA)
    (place : target = journal.fromSlot.target ∨ target = journal.toSlot.target) :
    Sound t now { r with current := some target } := by
  have rolling := sound.rolling journal found
  have available : slotAvailable r target := by
    rcases place with rfl | rfl
    · exact rolling.available.1
    · exact rolling.available.2
  refine .rollingBack found (sound.quiet found) sound.counted (sound.slots.relinked available) ?_
  exact { rolling with
    place := place.imp (congrArg some) (congrArg some)
    ordered := .inr consumed
    attested := fun completed => absurd completed phase }

theorem requested_advance (requested : Requested t journal) (phase : RollbackPhase)
    (receipt : Option SignedReceipt) (attested : phase = .completed → receipt ≠ none) :
    Requested t { journal with phase := phase, receipt := receipt } := by
  refine { requested with valid := ?_ }
  have valid := requested.valid
  simp only [validateRollbackJournal,and_eq_true,not_eq_true',and_eq_false_iff,decide_eq_false_iff_not]
    at valid ⊢
  refine ⟨valid.1,?_⟩
  by_cases completed : phase = .completed
  · exact .inr (attested completed)
  · exact .inl completed

section

variable (rolling : Rolling t now r journal)
include rolling

theorem Rolling.consumed (phase : journal.phase ≠ .prepared) :
    Consumed r journal.command journal.authorizationSHA := by
  rcases rolling.ordered with ⟨_,prepared,_⟩ | consumed
  · exact absurd prepared phase
  · exact consumed

theorem Rolling.switched (phase : journal.phase = .prepared)
    (consumed : Consumed r journal.command journal.authorizationSHA) :
    Rolling t now r { journal with phase := .switched } :=
  { rolling with
    requested := requested_advance rolling.requested .switched journal.receipt nofun
    ordered := .inr consumed
    uncounted := fun _ => rolling.uncounted (by simp [phase])
    attested := nofun }

theorem Rolling.completed (phase : journal.phase = .switched)
    (current : r.current = some journal.toSlot.target) (issued : Issued t now r journal.authorization receipt) :
    Rolling t now r { journal with phase := .completed, receipt := some receipt } :=
  have receipted := issued_receipted issued (rolling.uncounted (by simp [phase])).1
  { rolling with
    requested := requested_advance rolling.requested .completed (some receipt) (fun _ => by simp)
    ordered := .inr (rolling.consumed (by simp [phase]))
    uncounted := fun other => absurd rfl other
    attested := fun _ => ⟨current,receipt,rfl,receipted⟩ }

theorem Rolling.receipted (completed : Completed r journal receipt) : Receipted t now r journal.authorization receipt := by
  obtain ⟨_,_,attested,receipted⟩ := rolling.attested completed.phase
  cases completed.attested.symm.trans attested
  exact receipted

end

theorem sound_root (sound : Sound t now r) (step : RootStep t scope now r event r') : Sound t now r' := by
  cases step with
  | prepare _ _ _ quiet phase _ written _ recorded unconsumed =>
    exact sound.journalled quiet (prepared_pending sound phase written recorded unconsumed)
  | consume journal found phase =>
    have pending := sound.pending journal found
    have loads := consumed_loads (r := r) pending.written.signed pending.written.digest
    have uncounted := pending.uncounted (by simp [phase])
    refine .activating found (sound.idle found) ⟨sound.counted.1,_,loads,uncounted.le⟩ { sound.slots with } ?_
    refine { pending with ordered := .inr ⟨_,loads,rfl,rfl⟩, uncounted := fun _ => uncounted, attested := ?_ }
    intro healthy
    cases phase.symm.trans healthy
  | install _ _ absent =>
    exact sound.frame rfl rfl rfl rfl rfl (.inl rfl) (fun _ _ available => available_insert absent available)
      (sound.slots.reinstalled fun _ _ available => available_insert absent available) sound.described
  | switch _ found phase _ available =>
    exact sound.moved found (by simp [phase]) (.inr rfl) available
  | markSwitched journal found phase consumed =>
    exact sound.journalled (sound.idle found) ((sound.pending journal found).switched phase consumed)
  | restore journal found phase =>
    exact sound.moved found phase (.inl rfl) (sound.pending journal found).available
  | restoreMetadata journal found =>
    exact sound.frame rfl rfl rfl rfl rfl (.inr fun _ other => absent other (sound.idle found))
      (fun _ _ available => available) (sound.slots.described (sound.pending journal found).attestable)
      fun idle => absent found idle
  | forget journal found _ current metadata =>
    refine sound.closed (sound.idle found) fun slot same => ?_
    rw [← some.inj (metadata.symm.trans same),← (sound.pending journal found).written.target]
    exact current
  | abandon journal found _ recorded =>
    refine sound.closed (sound.idle found) fun slot same => ?_
    cases recorded with
    | current current metadata =>
      rw [← some.inj (metadata.symm.trans same),← (sound.pending journal found).written.target]
      exact current
    | reactivation current _ metadata target =>
      rw [← some.inj (metadata.symm.trans same),target]
      exact current
  | complete healthy _ _ _ _ metadata =>
    refine sound.closed (sound.idle healthy.found) fun slot same => ?_
    rw [← some.inj (metadata.symm.trans same)]
    exact ((sound.pending _ healthy.found).attested healthy.phase).1
  | markHealthy journal _ found phase current issued kind manifest =>
    exact sound.journalled (sound.idle found) ((sound.pending journal found).healthy phase current issued kind manifest)
  | recordActivation healthy =>
    have pending := sound.pending _ healthy.found
    obtain ⟨receipted,kind,_⟩ := pending.receipted healthy
    refine sound.frame rfl rfl rfl rfl rfl (.inl rfl) (fun _ _ available => available) ?_ sound.described
    refine { sound.slots with last := ?_ }
    rintro _ ⟨⟩
    have previous := pending.available
    rw [pending.written.target] at previous
    exact ⟨pending.attestable,previous,activatedSlot_attestable pending.written receipted.attests kind,
      sound.slots.current _ (pending.attested healthy.phase).1⟩
  | countActivation healthy =>
    have pending := sound.pending _ healthy.found
    obtain ⟨receipted,result⟩ := pending.receipted healthy
    have counted := counted_receipt receipted (pending.consumed (by simp [healthy.phase]))
    refine .activating healthy.found (sound.idle healthy.found) counted { sound.slots with } ?_
    exact { pending with
      uncounted := fun unhealthy => absurd healthy.phase unhealthy
      attested := fun phase => ⟨(pending.attested phase).1,_,healthy.attested,receipted.counted,result⟩ }
  | persistFloor | recordRollback | pinFloor =>
    exact sound.frame rfl rfl rfl rfl rfl (.inl rfl) (fun _ _ available => available)
      { sound.slots with } sound.described
  | recordPrevious healthy =>
    have pending := sound.pending _ healthy.found
    refine sound.frame rfl rfl rfl rfl rfl (.inl rfl) (fun _ _ available => available) ?_ sound.described
    refine { sound.slots with previous := ?_ }
    rintro _ ⟨⟩
    have available := pending.available
    rw [pending.written.target] at available
    exact ⟨pending.attestable,available⟩
  | recordMetadata healthy =>
    have pending := sound.pending _ healthy.found
    obtain ⟨receipted,kind,_⟩ := pending.receipted healthy
    exact sound.frame rfl rfl rfl rfl rfl (.inr fun _ other => absent other (sound.idle healthy.found))
      (fun _ _ available => available)
      (sound.slots.described (activatedSlot_attestable pending.written receipted.attests kind))
      fun idle => absent healthy.found idle
  | prepareRollback journal idle _ phase _ requested _ current metadata leading available unconsumed issued =>
    obtain ⟨_,_,loaded,_⟩ := sound.counted
    obtain ⟨_,loaded',_⟩ := id unconsumed
    cases loaded.symm.trans loaded'
    have fromSlot := sound.slots.metadata _ metadata
    have toSlot : Attestable t journal.toSlot := by
      unfold Leading at leading
      split_ifs at leading
      · exact (sound.slots.previous _ leading).1
      · rw [leading]
        exact fromSlot
    exact sound.rolled idle ⟨requested,⟨fromSlot,toSlot⟩,⟨sound.slots.current _ current,available⟩,.inl current,
      .inl ⟨unconsumed,phase,current⟩,issued,fun _ => ⟨by omega,metadata⟩,fun completed => (nomatch phase.symm.trans completed)⟩
  | consumeRollback journal found unconsumed =>
    have rolling := sound.rolling journal found
    have loads := consumed_loads (r := r) rolling.requested.signed rolling.requested.digest
    have prepared := rolling.unconsumed unconsumed
    have uncounted := rolling.uncounted (by simp [prepared])
    refine .rollingBack found (sound.quiet found) ⟨sound.counted.1,_,loads,uncounted.1.le⟩ { sound.slots with } ?_
    refine { rolling with ordered := .inr ⟨_,loads,rfl,rfl⟩, uncounted := fun _ => uncounted, attested := ?_ }
    intro completed
    cases prepared.symm.trans completed
  | switchRollback _ found phase consumed =>
    exact sound.movedRollback found phase consumed (.inr rfl)
  | markRollbackSwitched journal found phase consumed =>
    exact sound.rolled (sound.quiet found) ((sound.rolling journal found).switched phase consumed)
  | restoreRollback journal found phase =>
    exact sound.movedRollback found (by simp [phase]) ((sound.rolling journal found).consumed (by simp [phase]))
      (.inl rfl)
  | forgetRollback journal found phase current =>
    refine sound.unrolled (sound.quiet found) fun slot same => ?_
    have metadata := ((sound.rolling journal found).uncounted (by simp [phase])).2
    rw [← some.inj (metadata.symm.trans same)]
    exact current
  | completeRollback completed _ metadata =>
    refine sound.unrolled (sound.quiet completed.found) fun slot same => ?_
    rw [← some.inj (metadata.symm.trans same)]
    exact ((sound.rolling _ completed.found).attested completed.phase).1
  | markCompleted journal _ found phase current issued =>
    exact sound.rolled (sound.quiet found) ((sound.rolling journal found).completed phase current issued)
  | countRollback completed =>
    have rolling := sound.rolling _ completed.found
    have receipted := rolling.receipted completed
    have counted := counted_receipt receipted (rolling.consumed (by simp [completed.phase]))
    refine .rollingBack completed.found (sound.quiet completed.found) counted { sound.slots with } ?_
    exact { rolling with
      uncounted := fun unfinished => absurd completed.phase unfinished
      attested := fun phase => ⟨(rolling.attested phase).1,_,completed.attested,receipted.counted⟩ }
  | recordResult completed =>
    refine sound.frame rfl rfl rfl rfl rfl (.inr fun _ same => ?_) (fun _ _ available => available)
      (sound.slots.described (sound.rolling _ completed.found).attestable.2)
      fun _ quiet => absent completed.found quiet
    rw [← some.inj (completed.found.symm.trans same)]
    exact completed.phase
  | prune _ slots kept others =>
    have available : ∀ target, Named r target → slotAvailable r target →
        slotAvailable { r with slots := slots } target :=
      fun target named => available_of_lookup (others target (kept target named))
    exact sound.frame rfl rfl rfl rfl rfl (.inl rfl) available (sound.slots.reinstalled available) sound.described
  | pinMetadata slot absent current attestable =>
    refine sound.frame rfl rfl rfl rfl rfl (.inr fun journal found => ?_) (fun _ _ available => available)
      (sound.slots.described attestable) ?_
    · -- An unfinished rollback keeps the description of its slot, so there was one.
      by_contra unfinished
      exact absurd (absent.symm.trans ((sound.rolling journal found).uncounted unfinished).2) (by simp)
    · rintro _ _ _ ⟨⟩
      exact current

theorem sound_step {h next : Host} (sound : Sound t h.now h.toRoot) (step : HostStep t scope h event next) :
    Sound t next.now next.toRoot := by
  cases step with
  | quiet le same =>
    rw [same]
    exact sound.later le
  | root same _ step =>
    rw [same]
    exact sound_root sound step

theorem sound_fresh {current : String} {slot : Slot} (whole : slot.executable.isSome) :
    Sound t now (fresh now current slot).toRoot := by
  refine ⟨.inl rfl,⟨le_refl _,{},rfl,le_refl _⟩,⟨?_,?_,?_,?_⟩,?_,?_,fun _ _ => ?_⟩
  · rintro _ ⟨⟩
    simp only [slotAvailable,fresh,AList.lookup_insert,whole]
  all_goals exact fun _ impossible => nomatch impossible

end P2pstream.UpdaterInvariant
