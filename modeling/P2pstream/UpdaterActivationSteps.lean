import P2pstream.UpdaterInvariant
import P2pstream.UpdaterSteps

/-! Activation and its recovery as steps of the judgments. In a calm world recovery
always gets rid of the journal; a new activation does unless it cannot install its slot
or sign its receipt.
-/
namespace P2pstream.UpdaterActivationSteps
open Library Library.Durable Kernel.SignedPayloads Bool
open Kernel.AgentUpdates (AssignmentAction SignedReceipt unixMilli)
open Kernel.Updater Semantics.Updater UpdaterRecords UpdaterInvariant
open UpdaterSteps

variable {t : Trust} {s : Setting} {h : Host}

theorem runs_sound {α : Type} {program : Action α} {done : α → Host → Prop} {failed : Host → Prop}
    (sound : Sound t h.now h.toRoot) (runs : Runs (s.world t) none h program done failed) :
    Runs (s.world t) none h program (fun value next => done value next ∧ Sound t next.now next.toRoot)
      (fun next => failed next ∧ Sound t next.now next.toRoot) :=
  runs_invariant (motive := fun h => Sound t h.now h.toRoot) (fun _ _ _ => sound_step) sound runs

structure Recovered (s : Setting) (h next : Host) : Prop where
  journal : next.journal = none
  rollback : next.rollbackJournal = h.rollbackJournal
  commandFloor : next.commandFloor = h.commandFloor
  time : Later s h.now next.now
  claim : next.activationClaim = h.activationClaim ∨ next.activationClaim = none
  shrunk : s.calm = true → ∀ name slot, next.slots.lookup name = some slot → h.slots.lookup name = some slot

variable {journal : ActivationJournal} {now : Int} {r : Root} {ready : Ready} {release : VerifiedRelease}

theorem runs_restorePrevious (found : h.journal = some journal) (phase : journal.phase ≠ .healthy)
    (valid : validSlotTarget t journal.previousTarget) :
    Runs (s.world t) none h (restorePrevious t journal) (fun _ next => Recovered s h next)
      (fun _ => s.calm = false) := by
  refine runs_checked_write_bind (fun invalid => (nomatch invalid.symm.trans valid))
    (fun _ => .own (.restore journal found phase)) (fun rough => ⟨rough,rough⟩) fun _ => ?_
  refine runs_restartAndCheck fun _ well => runs_check (fun unwell => ?_) fun _ => ?_
  · cases calm : s.calm with
    | false => rfl
    | true => exact absurd (unwell.symm.trans (well calm)) (by simp)
  refine runs_write (.own (.restoreMetadata journal found phase rfl)) (fun rough => ⟨rough,rough⟩) ?_
  refine runs_last_write (.own (.forget journal found phase rfl rfl)) (fun rough => ⟨rough,rough⟩) ?_
  exact ⟨rfl,rfl,rfl,.refl _,.inl rfl,fun _ _ _ found => found⟩

/-- A receipt passes its checks again over the counter before it. -/
theorem receipted_again {authorization : AuthorizationRecord} {receipt : SignedReceipt}
    (receipted : Receipted t now r authorization receipt) : receipt.value.rootActionCounter ≠ 0 ∧
      receipt.value.rootActionCounter = counterBefore (loadRootActionCounter r) receipt.value + 1 ∧
      ∀ after, now ≤ after → verifyRootActionReceiptRecord t receipt authorization
        (counterBefore (loadRootActionCounter r) receipt.value) after := by
  have before : counterBefore (loadRootActionCounter r) receipt.value = receipt.value.rootActionCounter - 1 := by
    unfold counterBefore
    rcases receipted.counter with _ | same <;> omega
  have valid := attests_valid receipted.attests
  simp only [validateRootActionReceipt,positive,and_eq_true,decide_eq_true_eq] at valid
  refine ⟨by omega,by omega,fun after le => receipt_iff.mpr ⟨receipted.attests,?_,?_⟩⟩
  · exact receipted.completed.trans (unixMilli_mono (Int.add_le_add_right le _))
  · exact before ▸ Int.sub_one_lt_of_le (le_refl receipt.value.rootActionCounter)

theorem runs_persistHealthyActivation (sound : Sound t h.now h.toRoot) (found : h.journal = some journal)
    (phase : journal.phase = .healthy) :
    Runs (s.world t) none h (persistHealthyActivation t journal) (fun _ next => Recovered s h next)
      (fun next => s.calm → Recovered s h next) := by
  obtain ⟨_,receipt,attested,receipted,_⟩ := (sound.pending journal found).attested phase
  obtain ⟨counted,fits,accepted⟩ := receipted_again receipted
  have healthy : Healthy h.toRoot journal receipt := ⟨found,phase,attested⟩
  unfold persistHealthyActivation
  rw [attested]
  refine runs_require nofun fun _ same => ?_
  cases same
  refine runs_get (runs_check (fun wrong => ?_) fun _ => runs_readClock fun _ later => ?_)
  · simp [counted,← fits] at wrong
  refine runs_check (fun rejected => (nomatch rejected.symm.trans (accepted _ later.le))) fun _ => ?_
  refine runs_write (.own (.recordActivation healthy)) loud ?_
  refine runs_write (.quiet (le_refl _) rfl (.same rfl rfl) .wrote) loud ?_
  refine runs_write (.own (.countActivation { healthy with } fits)) loud ?_
  refine runs_write (.own (.persistFloor { healthy with })) loud ?_
  refine runs_write (.own (.recordPrevious { healthy with })) loud ?_
  refine runs_write (.own (.recordMetadata { healthy with })) loud ?_
  refine runs_tidy suits_world (tidy_clearClaim _) (fun _ rough _ => never_calm rough) fun cleared tidied => ?_
  have kept : Kept s _ cleared := tidied.kept
  have root : cleared.toRoot = { h.toRoot with
      lastActivation := some (completedActivation t journal receipt)
      counter := some receipt.value.rootActionCounter
      floor := some (activatedFloor journal receipt.value)
      previous := some journal.previousSlot
      metadata := some (activatedSlot t journal receipt.value) } := kept.root
  have journalled : cleared.journal = some journal := by rw [root,found]
  refine runs_write (.own (.complete ⟨journalled,phase,attested⟩ (by rw [root]) (by rw [root]) (by rw [root])
    (by rw [root]) (by rw [root]))) loud ?_
  have ended {next : Host} (pruned : Pruned s { cleared with journal := none } next) : Recovered s h next := by
    have last : next.toRoot = { cleared.toRoot with journal := none, slots := next.slots } := pruned.root
    refine ⟨by rw [last],by rw [last,root],by rw [last,root],later.trans (kept.time.trans pruned.time),?_,?_⟩
    · rcases pruned.claim with same | none
      · rw [same]
        exact kept.claim
      · exact .inr none
    · intro calm name slot present
      have slots : cleared.slots = h.slots := by rw [root]
      rw [← slots]
      exact pruned.shrunk calm name slot present
  exact runs_mono runs_pruneObsoleteSlots (fun _ _ pruned => ended pruned) fun _ pruned _ => ended pruned

theorem pending_targets (pending : Pending t now r journal) :
    validSlotTarget t journal.previousTarget ∧ validSlotTarget t journal.candidateTarget := by
  have previous := pending.written.previous
  simp only [validateSlotMetadata,and_eq_true] at previous
  rw [pending.written.target,pending.written.candidate]
  exact ⟨previous.1.1.1.1.1.1,validSlotTarget_of_release pending.written.valid⟩

theorem runs_recoverActivation (sound : Sound t h.now h.toRoot) :
    Runs (s.world t) none h (recoverActivation t) (fun _ next => Recovered s h next)
      (fun next => s.calm → Recovered s h next) := by
  refine runs_get ?_
  cases found : h.journal with
  | none => exact runs_pure ⟨found,rfl,rfl,.refl _,.inl rfl,fun _ _ _ present => present⟩
  | some journal =>
    have pending := sound.pending journal found
    obtain ⟨previous,candidate⟩ := pending_targets pending
    refine runs_check (fun invalid => ?_) fun _ => ?_
    · simp [previous,candidate,pending.written.valid] at invalid
    have restore (phase : journal.phase ≠ .healthy) : Runs (s.world t) none h (restorePrevious t journal)
        (fun _ next => Recovered s h next) (fun next => s.calm → Recovered s h next) :=
      runs_mono (runs_restorePrevious found phase previous) (fun _ _ recovered => recovered)
        fun _ => never_calm
    cases phase : journal.phase with
    | healthy => exact runs_persistHealthyActivation sound found phase
    | prepared | switched => exact restore (by simp [phase])

variable {w : World Host HostEvent} {next : Host} {artifact : P2pstream.Kernel.AgentUpdates.Bytes} {target : String}
  {slot : SlotMetadata} {action : AssignmentAction} {floor : Floor} {started : Int}

theorem runs_replayCompletedActivation {floor : CommandFloor} (suits : Suits w) (admits : w.admits = s.admits)
    (publish : ∀ between done, between.toRoot = h.toRoot → between.lastActivation = some done →
      sameAssignmentAuthorizationRecord done.authorization ready.authorization →
      w.allowed between .wrote { between with staging := { between.staging with receipt := some (some done.receipt) } }) :
    Runs w none h (replayCompletedActivation t ready floor) (fun _ next => Kept s h next) (Kept s h) := by
  have refl := Kept.refl (s := s) h
  refine runs_require (fun _ => refl) fun _ _ => runs_check (fun _ => refl) fun _ => runs_get ?_
  refine runs_require (fun _ => refl) fun done last => runs_check (fun _ => refl) fun matching => ?_
  refine runs_check (fun _ => refl) fun _ => runs_check (fun _ => refl) fun _ => ?_
  refine runs_clock suits fun now le admitted => ?_
  have read : Kept s h { h with now := now } := kept_now ⟨le,admits ▸ admitted⟩
  refine runs_check (fun _ => read) fun _ => runs_require (fun _ => read) fun _ _ => ?_
  refine runs_require (fun _ => read) fun _ _ => runs_check (fun _ => read) fun _ => ?_
  simp only [and_eq_true] at matching
  have published : Kept s h { h with now := now, staging := { h.staging with receipt := some (some done.receipt) } } :=
    ⟨rfl,read.time,.inl rfl,.inl rfl⟩
  refine runs_write (publish { h with now := now } done rfl last matching.1.1) (fun _ => ⟨read,published⟩) ?_
  refine runs_mono (tidy_clearClaim _ w suits _) (fun _ _ cleared => published.trans cleared.kept) ?_
  rintro _ ⟨_,cleared⟩
  exact published.trans cleared.kept

theorem Recovered.before {between : Host} (recovered : Recovered s between next)
    (rollback : between.rollbackJournal = h.rollbackJournal) (commandFloor : between.commandFloor = h.commandFloor)
    (time : Later s h.now between.now) (claim : between.activationClaim = h.activationClaim)
    (slots : between.slots = h.slots) : Recovered s h next :=
  ⟨recovered.journal,recovered.rollback.trans rollback,recovered.commandFloor.trans commandFloor,
    time.trans recovered.time,claim ▸ recovered.claim,slots ▸ recovered.shrunk⟩

structure Candidate (t : Trust) (journal : ActivationJournal) (release : VerifiedRelease) : Prop where
  target : journal.candidateTarget = release.version
  manifest : release.manifestSHA256 = journal.authorization.authorization.manifestSHA256
  attestable : Attestable t (releaseSlotMetadata t release)

theorem Candidate.signable (candidate : Candidate t journal release) (pending : Pending t now r journal) :
    Signable t journal.authorization journal.authorizationSHA (releaseSlotMetadata t release) := by
  refine ⟨?_,pending.written.digest,candidate.attestable,nofun⟩
  rw [signed_action pending.written.signed]
  exact pending.written.signed

def Advances (t : Trust) (r : Root) (journal : ActivationJournal) : Prop :=
  ∃ floor, loadFloor t r = some floor ∧ FloorLE t floor (journalFloor journal)

section

variable (sound : Sound t h.now h.toRoot) (found : h.journal = some journal) (phase : journal.phase = .switched)
  (current : h.current = some journal.candidateTarget) (candidate : Candidate t journal release)
  (advances : Advances t h.toRoot journal)
include sound found phase current candidate advances

theorem runs_completeActivation :
    Runs (s.world t) none h (completeActivation t journal release) (fun _ next => Recovered s h next)
      (fun next => s.calm → Able s h → Recovered s h next) := by
  have pending := sound.pending journal found
  obtain ⟨previous,target⟩ := pending_targets pending
  refine runs_bind runs_createReceipt ?_ ?_
  · rintro receipt signed ⟨same,later,issued,kind,manifest⟩
    have root : signed.toRoot = h.toRoot := by rw [same]
    have claim : signed.activationClaim = h.activationClaim := by rw [same]
    have step : HostStep t s.scope signed .wrote
        { signed with journal := some { journal with phase := .healthy, receipt := some receipt } } := by
      refine .own (.markHealthy journal receipt (by rw [root,found]) phase (by rw [root,current]) ?_ kind
        (manifest.trans candidate.manifest) ?_)
      · rw [root]
        exact issued
      · rw [root]
        exact advances
    refine runs_checked_write_bind (fun invalid => by simp [previous,target] at invalid) (fun _ => step)
      loud fun _ => ?_
    have soundSigned : Sound t signed.now signed.toRoot := by
      rw [root]
      exact sound.later later.le
    have back {next : Host} (recovered : Recovered s
        { signed with journal := some { journal with phase := .healthy, receipt := some receipt } } next) :
        Recovered s h next :=
      recovered.before (by simp [root]) (by simp [root]) later claim (by simp [root])
    exact runs_mono (runs_persistHealthyActivation (sound_step soundSigned step) rfl rfl) (fun _ _ recovered => back recovered)
      fun _ recovered calm _ => back (recovered calm)
  · rintro _ ⟨_,_,unable⟩ calm able
    exact absurd (candidate.signable pending) (unable calm able)

theorem runs_checkCandidate :
    Runs (s.world t) none h (checkCandidate t journal release) (fun _ next => Recovered s h next)
      (fun next => s.calm → Able s h → Recovered s h next) := by
  refine runs_restartAndCheck fun healthy well => ?_
  cases healthy with
  | true => exact runs_completeActivation sound found phase current candidate advances
  | false =>
    have rough : s.calm = false := by
      cases calm : s.calm with
      | false => rfl
      | true => exact absurd (well calm) (by simp)
    have restored := runs_restorePrevious (s := s) found (by simp [phase]) (pending_targets (sound.pending journal found)).1
    exact runs_bind restored (fun _ _ _ => runs_fail (never_calm rough)) fun _ _ => never_calm rough

end

theorem runs_switchToCandidate (sound : Sound t h.now h.toRoot)
    (found : h.journal = some journal) (phase : journal.phase = .prepared) (candidate : Candidate t journal release)
    (consumed : Consumed h.toRoot journal.command journal.authorizationSHA)
    (unmoved : s.scope.unmoved journal.command)
    (advances : Advances t h.toRoot journal) (verified : verifyArtifact t artifact release.artifact) :
    Runs (s.still.world t) (some (turning t s.scope)) h (switchToCandidate t journal release artifact)
      (fun _ next => next.journal = none ∧ next.rollbackJournal = h.rollbackJournal)
      (fun next => s.calm → Installable h.toRoot release → Able s h →
        next.journal = none ∧ next.rollbackJournal = h.rollbackJournal) := by
  have pending := sound.pending journal found
  obtain ⟨previous,target⟩ := pending_targets pending
  have installed := runs_sound sound (runs_installSlot (s := s.still) verified)
  refine runs_bind installed ?_ ?_
  · rintro _ grown ⟨⟨⟨same,slots⟩,available⟩,soundGrown⟩
    have root : grown.toRoot = { h.toRoot with slots := grown.slots } := by rw [same]
    have journalled : grown.journal = some journal := by rw [root,found]
    have ready : Consumed grown.toRoot journal.command journal.authorizationSHA := by
      rw [root]
      exact consumed
    have turn : HostStep t s.scope grown
        (.switched journal.command true journal.candidateTarget)
        { grown with current := some journal.candidateTarget } :=
      .own (.switch journal journalled phase ready (candidate.target ▸ available) unmoved)
    refine runs_assoc (runs_check (fun invalid => nomatch invalid.symm.trans target) fun _ => ?_)
    refine runs_turn_bind turn loud ?_
    have soundTurned := sound_step soundGrown turn
    let since := s.since (.switched journal.command true journal.candidateTarget)
    have marked : Runs (since.world t) none { grown with current := some journal.candidateTarget }
        (writeJournal t { journal with phase := .switched })
        (fun _ next => next = { grown with
            current := some journal.candidateTarget
            journal := some { journal with phase := .switched } } ∧ Sound t next.now next.toRoot)
        (fun next => s.calm = false ∧ ∃ left, next.journal = some left ∧ left.phase ≠ .healthy ∧
          left.authorization = journal.authorization ∧ left.previousTarget = journal.previousTarget) := by
      have step : HostStep t since.scope { grown with current := some journal.candidateTarget } .wrote { grown with
          current := some journal.candidateTarget
          journal := some { journal with phase := .switched } } :=
        .own (.markSwitched journal journalled phase ready rfl rfl)
      refine runs_checked_write (fun invalid => by simp [previous,target] at invalid) (fun _ => step) (fun rough => ?_)
        fun _ => ⟨rfl,sound_step soundTurned step⟩
      exact ⟨⟨rough,journal,journalled,by simp [phase],rfl,rfl⟩,⟨rough,_,rfl,by simp,rfl,rfl⟩⟩
    refine runs_attempt marked ?_ ?_
    · rintro _ _ ⟨rfl,soundMarked⟩
      have candidate' : Candidate t { journal with phase := .switched } release := { candidate with }
      have rollback : grown.rollbackJournal = h.rollbackJournal := by rw [root]
      have advances' : Advances t { grown.toRoot with
          current := some journal.candidateTarget
          journal := some { journal with phase := .switched } } { journal with phase := .switched } := by
        rw [root]
        exact advances
      refine runs_mono (runs_checkCandidate (s := since) soundMarked rfl rfl rfl candidate' advances') ?_ ?_
      · rintro _ next recovered
        exact ⟨recovered.journal,recovered.rollback.trans rollback⟩
      · intro next recovered calm _ able
        have ableMarked : Able s grown := able.kept (by rw [same]; exact .refl _) (by rw [root])
        have ended := recovered calm { ableMarked with }
        exact ⟨ended.journal,ended.rollback.trans rollback⟩
    · rintro between ⟨rough,left,journalled,phase,authorization,restored⟩
      have loud {next : Host} (calm : s.calm) : Installable h.toRoot release → Able s h →
          next.journal = none ∧ next.rollbackJournal = h.rollbackJournal := absurd (rough.symm.trans calm) (by simp)
      have back : Runs (since.world t) none between
          (switchCurrent t journal.authorization.authorization.commandSequence false journal.previousTarget)
          (fun _ _ => True) (fun _ => True) := by
        rw [← authorization,← restored]
        exact runs_checked_write (fun _ => trivial) (fun _ => .own (.restore left journalled phase))
          (fun _ => ⟨trivial,trivial⟩) fun _ => trivial
      exact runs_attempt back (fun _ _ _ => runs_fail loud) fun _ _ => runs_fail loud
  · rintro _ ⟨⟨_,blocked⟩,_⟩ calm free
    exact absurd free (blocked calm)

structure Prepared (t : Trust) (s : Setting) (h : Host) (journal : ActivationJournal) (release : VerifiedRelease) : Prop where
  idle : h.journal = none
  quiet : h.rollbackJournal = none
  phase : journal.phase = .prepared
  unattested : journal.receipt = none
  written : Written t journal
  admitted : s.scope.activation journal.authorization
  recorded : Recorded h.toRoot journal
  unconsumed : Unconsumed h.toRoot journal.command
  advances : Advances t h.toRoot journal
  unmoved : s.scope.unmoved journal.command
  candidate : Candidate t journal release

structure Clear (h : Host) : Prop where
  journal : h.journal = none
  rollback : h.rollbackJournal = none

theorem runs_executeActivation (sound : Sound t h.now h.toRoot)
    (prepared : Prepared t s h journal release) (verified : verifyArtifact t artifact release.artifact) :
    Runs (s.still.world t) (some (turning t s.scope)) h (executeActivation t journal release artifact)
      (fun _ next => Clear next)
      (fun next => s.calm → Installable h.toRoot release → Able s h → Clear next) := by
  obtain ⟨floor,loaded,advances⟩ := prepared.advances
  have step : HostStep t s.still.scope h .wrote { h with journal := some journal } :=
    .own (.prepare journal floor prepared.idle prepared.quiet prepared.phase prepared.unattested prepared.written
      prepared.admitted prepared.recorded prepared.unconsumed loaded advances)
  have soundWritten := sound_step sound step
  obtain ⟨previous,target⟩ := pending_targets (soundWritten.pending journal rfl)
  refine runs_checked_write_bind (fun invalid => by simp [previous,target] at invalid) (fun _ => step)
    loud fun _ => ?_
  refine runs_readClock fun now later => ?_
  have consume : HostStep t s.still.scope { h with journal := some journal, now := now }
      (.consumed journal.command)
      (consumedBy { h with journal := some journal, now := now } journal.authorization journal.authorizationSHA) :=
    .own (.consume journal rfl prepared.phase prepared.unconsumed)
  refine runs_attempt (runs_consume prepared.written.digest fun _ => consume) ?_ ?_
  · rintro _ _ ⟨rfl,rfl⟩
    have loads := consumed_loads (r := { h.toRoot with journal := some journal }) prepared.written.signed
      prepared.written.digest
    have soundRead : Sound t now { h.toRoot with journal := some journal } := soundWritten.later later.le
    have soundConsumed := sound_step soundRead consume
    refine runs_check (fun impossible => by simp at impossible) fun _ => ?_
    refine runs_mono (runs_switchToCandidate soundConsumed rfl prepared.phase prepared.candidate
      ⟨_,loads,rfl,rfl⟩ prepared.unmoved prepared.advances verified) ?_ ?_
    · rintro _ next ⟨journal,rollback⟩
      exact ⟨journal,rollback.trans prepared.quiet⟩
    · intro next ended calm free able
      have ableConsumed : Able s (consumedBy { h with journal := some journal, now := now }
        journal.authorization journal.authorizationSHA) :=
        able.kept ⟨later.le,later.admitted⟩ rfl
      obtain ⟨journal,rollback⟩ := ended calm free ableConsumed
      exact ⟨journal,rollback.trans prepared.quiet⟩
  · -- The refused command leaves the journal to be removed; a write that failed late leaves it consumed.
    rintro between failed
    have root : between.journal = some journal ∧ between.rollbackJournal = none ∧ Recorded between.toRoot journal := by
      have recorded : ∀ commandFloor, Recorded { h.toRoot with journal := some journal, commandFloor := commandFloor } journal := by
        intro _
        cases prepared.recorded with
        | current current metadata => exact .current current metadata
        | reactivation current described metadata target done last slot =>
          exact .reactivation current described metadata target done last slot
      rcases failed with ⟨rfl,_⟩ | ⟨_,rfl⟩
      · exact ⟨rfl,prepared.quiet,recorded h.commandFloor⟩
      · exact ⟨rfl,prepared.quiet,recorded _⟩
    have removed : Runs (s.still.world t) (some (turning t s.scope)) between (removeJournal (.refused journal.command))
        (fun _ next => Clear next) (fun _ => s.calm = false) :=
      runs_turn (.own (.abandon journal root.1 prepared.phase root.2.2 prepared.unmoved)) (fun rough => ⟨rough,rough⟩)
        ⟨rfl,root.2.1⟩
    refine runs_bind_turned still_since (attempt_alone removed) ?_ fun _ impossible => impossible.elim
    rintro _ _ (⟨_,_,clear⟩ | ⟨_,rough⟩)
    · exact runs_fail fun _ _ _ => clear
    · exact runs_fail (never_calm rough)

theorem currentTarget_eq (found : currentTarget t h.toRoot = some target) :
    h.current = some target := (Option.filter_eq_some_iff.mp found).1

theorem runs_recordedPreviousSlot {candidate : String} : Runs (s.world t) none h (recordedPreviousSlot t candidate)
      (fun slot next => next = { h with now := next.now } ∧ Later s h.now next.now ∧
        validateSlotMetadata t slot ∧ slot.target ≠ candidate ∧
        ((h.current = some slot.target ∧ h.metadata = some slot) ∨
          (h.current = some candidate ∧ (∃ described, h.metadata = some described ∧ described.target = candidate) ∧
            ∃ done, h.lastActivation = some done ∧ done.previousSlot = slot)))
      (Kept s h) := by
  refine runs_get (runs_require (fun _ => .refl h) fun _ found => ?_)
  refine runs_require (fun _ => .refl h) fun slot described => ?_
  have linked := currentTarget_eq found
  obtain ⟨metadata,valid⟩ := Option.filter_eq_some_iff.mp described
  simp only [and_eq_true,decide_eq_true_eq] at valid
  obtain ⟨valid,target⟩ := valid
  split_ifs with same
  · refine runs_readClock fun _ later => runs_last_require (fun _ => kept_now later) fun _ ok => ?_
    simp only [reactivationSlot,Checks.bind_some,Checks.guard_some,Checks.pure_some] at ok
    obtain ⟨done,last,⟨_,_,_,_,_,distinct⟩,_,recordedValid,rfl⟩ := ok
    rw [target,same] at distinct
    exact ⟨rfl,later,recordedValid,distinct,.inr ⟨same ▸ linked,⟨slot,metadata,target.trans same⟩,done,last,rfl⟩⟩
  · refine runs_pure ⟨rfl,.refl _,valid,?_,.inl ⟨target ▸ linked,metadata⟩⟩
    rw [target]
    exact same

structure Timed (s : Setting) (h : Host) : Prop where
  clock : ∀ now, s.admits now → validUnixMillis (unixMilli now) = true
  now : s.admits h.now

def Free (r : Root) (ready : Ready) : Prop := ∀ slot, r.slots.lookup ready.version = some slot →
    validateExistingSlot slot ⟨ready.artifactName,ready.artifactSize,ready.artifactSHA⟩ = true

theorem journal_written {digest : String} {manifest : P2pstream.Kernel.AgentUpdates.Bytes}
    (released : verifyRelease t manifest floor ready.serverVersion started = some release)
    (checked : validateRelease t release)
    (same : authorizationMatchesRelease t ready.authorization.authorization release ready.serverVersion)
    (signed : Signed t .activate ready.authorization)
    (digested : authorizationDigest t ready.authorization.authorization = some digest)
    (valid : validateSlotMetadata t slot) (distinct : slot.target ≠ release.version) :
    Written t (activationJournal ready release slot digest) ∧
      FloorLE t floor (journalFloor (activationJournal ready release slot digest)) ∧
      Candidate t (activationJournal ready release slot digest) release := by
  have attestable := releaseSlot_attestable (signed_valid signed) checked same
  obtain ⟨stable,advances⟩ := verifyRelease_advances released
    (activationJournal ready release slot digest).authorization.authorization.manifestSHA256
  simp only [validateRelease,and_eq_true,decide_eq_true_eq] at checked
  simp only [authorizationMatchesRelease,and_eq_true,decide_eq_true_eq] at same
  have version : validRelease t release.version := by tauto
  have manifestSame : ready.authorization.authorization.manifestSHA256 = release.manifestSHA256 := by tauto
  exact ⟨⟨rfl,version,rfl,valid,distinct,signed,digested,by tauto,by tauto,by tauto,stable⟩,advances,
    ⟨rfl,manifestSame.symm,attestable⟩⟩

theorem runs_activateReady (sound : Sound t h.now h.toRoot) (clear : Clear h) (loaded : loadFloor t h.toRoot = some floor)
    (unconsumed : Unconsumed h.toRoot ready.authorization.authorization.commandSequence)
    (admitted : s.scope.activation ready.authorization)
    (unmoved : s.scope.unmoved ready.authorization.authorization.commandSequence) :
    Runs (s.still.world t) (some (turning t s.scope)) h (activateReady t ready floor started)
      (fun _ next => Clear next)
      (fun next => s.calm → Timed s h → Free h.toRoot ready → Clear next) := by
  refine runs_get (runs_require (fun _ _ _ _ => clear) fun _ _ => ?_)
  refine runs_require (fun _ _ _ _ => clear) fun release released => ?_
  refine runs_check (fun _ _ _ _ => clear) fun checked => runs_check (fun _ _ _ _ => clear) fun matched => ?_
  refine runs_check (fun _ _ _ _ => clear) fun _ => runs_check (fun _ _ _ _ => clear) fun same => ?_
  refine runs_readClock fun now later => ?_
  have clearRead : Clear { h with now := now } := ⟨clear.journal,clear.rollback⟩
  refine runs_check (fun _ _ _ _ => clearRead) fun verified => ?_
  have signed := (verified_iff.mp verified).1
  refine runs_question fun _ => runs_check (fun _ _ _ _ => clearRead) fun _ => ?_
  refine runs_require (fun _ _ _ _ => clearRead) fun _ _ => ?_
  refine runs_check (fun _ _ _ _ => clearRead) fun intact => ?_
  refine runs_bind runs_recordedPreviousSlot ?_ ?_
  · rintro slot next ⟨eq,more,valid,distinct,recorded⟩
    have root : next.toRoot = h.toRoot := by rw [eq]
    have clearNext : Clear next := ⟨by rw [root]; exact clear.journal,by rw [root]; exact clear.rollback⟩
    refine runs_require (fun _ _ _ _ => clearNext) fun digest digested => ?_
    obtain ⟨written,advances,candidate⟩ := journal_written released checked same signed digested valid distinct
    have time : Later s h.now next.now := ⟨later.le.trans more.le,more.admitted ∘ later.admitted⟩
    have soundNext : Sound t next.now next.toRoot := by
      rw [root]
      exact sound.later time.le
    have prepared : Prepared t s next (activationJournal ready release slot digest) release := by
      refine ⟨clearNext.journal,clearNext.rollback,rfl,rfl,written,admitted,?_,?_,⟨floor,?_,advances⟩,unmoved,candidate⟩
      · rw [root]
        rcases recorded with ⟨current,metadata⟩ | ⟨current,⟨described,metadata,target⟩,done,last,done'⟩
        · exact .current current metadata
        · exact .reactivation current described metadata target done last done'
      · rw [root]
        exact unconsumed
      · rw [root]
        exact loaded
    refine runs_mono (runs_executeActivation soundNext prepared intact) (fun _ _ ended => ended) ?_
    intro _ ended calm timed free
    refine ended calm ?_ ?_
    · intro existing present
      simp only [readyMatchesRelease,and_eq_true,decide_eq_true_eq] at matched
      obtain ⟨⟨⟨⟨_,_⟩,_⟩,size⟩,sha⟩ := matched
      have version : ready.version = release.version := by tauto
      rw [root,← version] at present
      have valid := free existing present
      rw [size,sha] at valid
      exact valid
    · obtain ⟨least,_,loaded,_⟩ := soundNext.counted
      obtain ⟨_,loaded',_⟩ := unconsumed
      rw [← root] at loaded'
      cases loaded.symm.trans loaded'
      have sequence := (valid_interval (signed_valid signed)).2
      simp only [positive,and_eq_true,decide_eq_true_eq] at sequence
      exact ⟨timed.clock,time.admitted timed.now,least,by omega⟩
  · intro _ kept _ _ _
    exact ⟨by rw [kept.root]; exact clear.journal,by rw [kept.root]; exact clear.rollback⟩

theorem Clear.kept (clear : Clear h) (kept : Kept s h next) : Clear next := by
  refine ⟨?_,?_⟩
  · rw [kept.root]
    exact clear.journal
  · rw [kept.root]
    exact clear.rollback

theorem runs_activate (sound : Sound t h.now h.toRoot) (quiet : h.rollbackJournal = none)
    (admitted : ∀ ready, h.activationClaim = some (some ready) → s.scope.activation ready.authorization)
    (unmoved : ∀ sequence, Unconsumed h.toRoot sequence → s.scope.unmoved sequence) :
    Runs (s.still.world t) (some (turning t s.scope)) h (activate t) (fun _ next => Clear next)
      (fun next => s.calm →
        (∀ ready, h.activationClaim = some (some ready) → Timed s h ∧ Free h.toRoot ready) → Clear next) := by
  refine runs_readClock fun started later => ?_
  have soundRead : Sound t started h.toRoot := sound.later later.le
  refine runs_bind (runs_sound soundRead (runs_recoverActivation soundRead)) ?_ ?_
  · rintro _ between ⟨recovered,soundNext⟩
    have clear : Clear between := ⟨recovered.journal,recovered.rollback.trans quiet⟩
    have floors : loadRootCommandFloor between.toRoot = loadRootCommandFloor h.toRoot := by
      unfold loadRootCommandFloor
      rw [recovered.commandFloor]
    refine runs_get (runs_require (fun _ _ _ => clear) fun _ loaded => ?_)
    cases claimed : between.activationClaim with
    | none => exact runs_pure clear
    | some =>
      refine runs_require (fun _ _ _ => clear) fun ready parsed => ?_
      have claim : h.activationClaim = some (some ready) := by
        rw [← parsed,← claimed]
        rcases recovered.claim with same | none
        · exact same.symm
        · cases claimed.symm.trans none
      refine runs_check (fun _ _ _ => clear) fun _ => runs_require (fun _ _ _ => clear) fun commandFloor present => ?_
      split_ifs with below
      · have unconsumed : Unconsumed between.toRoot ready.authorization.authorization.commandSequence :=
          ⟨commandFloor,present,below⟩
        refine runs_mono (runs_activateReady soundNext clear loaded unconsumed (admitted ready claim)
          (unmoved _ ⟨commandFloor,floors ▸ present,below⟩)) (fun _ _ ended => ended) ?_
        intro _ ended calm feasible
        obtain ⟨timed,free⟩ := feasible ready claim
        refine ended calm ⟨timed.clock,recovered.time.admitted (later.admitted timed.now)⟩ ?_
        exact fun slot present => free slot (recovered.shrunk calm _ _ present)
      · refine runs_check (fun _ _ _ => clear) fun _ => ?_
        refine runs_mono (runs_still (runs_replayCompletedActivation suits_world rfl
          fun _ _ _ _ _ => .quiet (le_refl _) rfl (.same rfl rfl) .wrote)) (fun _ _ kept => clear.kept kept) ?_
        exact fun _ kept _ _ => clear.kept kept
  · rintro _ ⟨recovered,_⟩ calm _
    exact ⟨(recovered calm).journal,(recovered calm).rollback.trans quiet⟩

theorem runs_quarantine (suits : Suits w) : Runs w none h (quarantineActivationFailure action)
      (fun _ next => Cleared h next ∧ (action = .activate → next.activationClaim = none))
      (fun next => w.calm = false ∧ Cleared h next) := by
  have remove (between : Host) (cleared : Cleared h between) : Runs w none between (removeClaim action)
      (fun _ next => Cleared h next ∧ (action = .activate → next.activationClaim = none))
      (fun next => w.calm = false ∧ Cleared h next) := by
    cases action with
    | activate =>
      have removed : Cleared between { between with activationClaim := none } := ⟨rfl,rfl,rfl,rfl,.inr rfl,.inl rfl⟩
      exact runs_last_write (suits.cleared _ _ removed) (fun rough => ⟨⟨rough,cleared⟩,⟨rough,cleared.trans removed⟩⟩)
        ⟨cleared.trans removed,fun _ => rfl⟩
    | rollback =>
      refine runs_mono (tidy_removeRollbackClaim w suits between)
        (fun _ _ removed => ⟨cleared.trans removed,nofun⟩) ?_
      exact fun _ broken => ⟨broken.1,cleared.trans broken.2⟩
  refine runs_get (runs_write (suits.stays h _ .wrote) (fun rough => ⟨⟨rough,.refl h⟩,⟨rough,.refl h⟩⟩) ?_)
  split_ifs
  · exact remove h (.refl h)
  all_goals
    refine runs_tidy suits (tidy_staging (fun _ => rfl) fun _ => rfl) (fun _ rough cleared => ⟨rough,cleared⟩) ?_
    exact fun reported cleared => remove reported cleared

theorem runs_runClaimedActivation (sound : Sound t h.now h.toRoot) (quiet : h.rollbackJournal = none)
    (admitted : ∀ ready, h.activationClaim = some (some ready) → s.scope.activation ready.authorization)
    (unmoved : ∀ sequence, Unconsumed h.toRoot sequence → s.scope.unmoved sequence) :
    Runs (s.still.world t) (some (turning t s.scope)) h (runClaimedActivation t) (fun _ next => Clear next)
      (fun next => s.calm → next.activationClaim = none ∧
        ((∀ ready, h.activationClaim = some (some ready) → Timed s h ∧ Free h.toRoot ready) → Clear next)) := by
  refine runs_bind_turned still_since (attempt_alone (runs_activate sound quiet admitted unmoved)) ?_ (fun _ impossible => impossible.elim)
  rintro _ _ (⟨_,rfl,clear⟩ | ⟨rfl,stopped⟩)
  · exact runs_pure clear
  refine runs_bind (runs_quarantine suits_world) (fun _ _ dropped => runs_fail fun calm => ?_) fun _ broken calm => ?_
  · exact ⟨dropped.2 rfl,fun feasible => (stopped calm feasible).kept (s := s) dropped.1.kept⟩
  · cases broken.1.symm.trans calm

end P2pstream.UpdaterActivationSteps
