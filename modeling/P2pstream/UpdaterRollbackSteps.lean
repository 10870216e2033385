import P2pstream.UpdaterActivationSteps

/-! Rollback and its recovery as steps of the judgments. In a calm world a rollback ends
without a journal unless its command expires before it is consumed or its receipt
cannot be signed.
-/
namespace P2pstream.UpdaterRollbackSteps
open Library Library.Durable Kernel.SignedPayloads Bool Option
open Kernel.AgentUpdates (AssignmentAuthorization SignedReceipt maxSigningClockSkew unixMilli)
open Kernel.Updater Semantics.Updater UpdaterRecords UpdaterInvariant
open UpdaterSteps UpdaterActivationSteps

variable {t : Trust} {s : Setting} {h : Host} {journal : RollbackJournal}

def Unexpired (s : Setting) (record : AuthorizationRecord) : Prop :=
  ∀ now, s.admits now → unixMilli now < record.authorization.expiresAtUnixMillis

theorem runs_finishRollback (sound : Sound t h.now h.toRoot) (found : h.rollbackJournal = some journal)
    (phase : journal.phase = .completed) :
    Runs (s.world t) none h (finishRollback t journal) (fun _ next => Clear next)
      (fun next => s.calm → Clear next) := by
  obtain ⟨_,receipt,attested,receipted⟩ := (sound.rolling journal found).attested phase
  obtain ⟨counted,fits,accepted⟩ := receipted_again receipted
  have idle := sound.quiet found
  have completed : Completed h.toRoot journal receipt := ⟨found,phase,attested⟩
  unfold finishRollback
  rw [attested]
  refine runs_require nofun fun _ same => ?_
  cases same
  refine runs_get (runs_assoc (runs_check (fun wrong => ?_) fun _ => runs_assoc (runs_readClock fun _ later => ?_)))
  · simp [counted,← fits] at wrong
  refine runs_assoc (runs_check (fun rejected => (nomatch rejected.symm.trans (accepted _ later.le))) fun _ => ?_)
  refine runs_assoc (runs_write (.own (.countRollback completed fits)) loud ?_)
  refine runs_assoc (runs_write (.own (.recordResult { completed with })) loud ?_)
  refine runs_assoc (runs_write (.own (.recordRollback { completed with })) loud ?_)
  refine runs_write (.quiet (le_refl _) rfl (.same rfl rfl) .wrote) loud ?_
  refine runs_tidy suits_world (tidy_clearSuperseded _) (fun _ rough _ => never_calm rough) fun _ kept => ?_
  refine runs_tidy suits_world (tidy_removeRequest _) (fun _ rough _ => never_calm rough) fun second more => ?_
  have last : second.toRoot = { h.toRoot with
      counter := some receipt.value.rootActionCounter
      metadata := some journal.toSlot
      lastRollback := some ⟨journal.authorization,receipt⟩ } := more.root.trans kept.root
  refine runs_write (.own (.completeRollback ⟨by rw [last,found],phase,attested⟩ (by rw [last]) (by rw [last])
    (by rw [last]))) loud ?_
  have ended {next : Host} (pruned : Pruned s { second with rollbackJournal := none } next) : Clear next := by
    have final : next.toRoot = { second.toRoot with rollbackJournal := none, slots := next.slots } := pruned.root
    exact ⟨by rw [final,last]; exact idle,by rw [final]⟩
  exact runs_mono runs_pruneObsoleteSlots (fun _ _ pruned => ended pruned) fun _ pruned _ => ended pruned

section

variable (sound : Sound t h.now h.toRoot) (found : h.rollbackJournal = some journal)
include sound found

theorem able_of_rolling (phase : journal.phase ≠ .completed) (timed : Timed s h) : Able s h := by
  have rolling := sound.rolling journal found
  have sequence := (valid_interval (signed_valid rolling.requested.signed)).2
  have uncounted := (rolling.uncounted phase).1
  simp only [positive,and_eq_true,decide_eq_true_eq,RollbackJournal.command] at sequence uncounted
  exact ⟨timed.clock,timed.now,sound.counted.1,by omega⟩

theorem runs_completeRollback (phase : journal.phase = .switched) (current : h.current = some journal.toSlot.target) :
    Runs (s.world t) none h (completeRollback t journal) (fun _ next => Clear next)
      (fun next => s.calm → Timed s h → Clear next) := by
  have rolling := sound.rolling journal found
  refine runs_bind runs_createReceipt ?_ ?_
  · rintro receipt signed ⟨same,later,issued,_,_⟩
    have root : signed.toRoot = h.toRoot := by rw [same]
    have step : HostStep t s.scope signed .wrote
        { signed with rollbackJournal := some { journal with phase := .completed, receipt := some receipt } } := by
      refine .own (.markCompleted journal receipt (by rw [root,found]) phase (by rw [root,current]) ?_)
      rw [root]
      exact issued
    refine runs_checked_write_bind (fun invalid => ?_) (fun _ => step)
      loud fun _ => ?_
    · have valid := rolling.requested.valid
      simp only [validateRollbackJournal,and_eq_true] at valid
      simp [validateRollbackJournal,valid.1] at invalid
    have soundSigned : Sound t signed.now signed.toRoot := by
      rw [root]
      exact sound.later later.le
    exact runs_mono (runs_finishRollback (sound_step soundSigned step) rfl rfl) (fun _ _ clear => clear)
      fun _ clear calm _ => clear calm
  · rintro _ ⟨_,_,unable⟩ calm timed
    have action := signed_action rolling.requested.signed
    refine (unable calm (able_of_rolling sound found (by simp [phase]) timed) ⟨?_,rolling.requested.digest,
      rolling.attestable.2,fun _ => action⟩).elim
    rw [action]
    exact rolling.requested.signed

end

theorem runs_restoreFromSlot (found : h.rollbackJournal = some journal) (phase : journal.phase = .switched) :
    Runs (s.world t) none h (restoreFromSlot t journal) (fun _ _ => False) (fun _ => True) := by
  refine runs_checked_write_bind (fun _ => trivial) (fun _ => .own (.restoreRollback journal found phase))
    (fun _ => ⟨trivial,trivial⟩) fun _ => ?_
  refine runs_restartAndCheck fun _ _ => runs_check (fun _ => trivial) fun _ => ?_
  exact runs_write (.own (.forgetRollback journal found phase rfl)) (fun _ => ⟨trivial,trivial⟩) (runs_fail trivial)

section

variable (sound : Sound t h.now h.toRoot) (found : h.rollbackJournal = some journal)
include sound found

theorem runs_ensureToSlot (phase : journal.phase ≠ .completed)
    (consumed : Consumed h.toRoot journal.command journal.authorizationSHA) :
    Runs (s.world t) none h (ensureToSlot t journal)
      (fun _ next => next = { h with current := some journal.toSlot.target }) (fun _ => s.calm = false) := by
  have rolling := sound.rolling journal found
  have source := rolling.attestable.1.valid
  have result := rolling.attestable.2.valid
  simp only [validateSlotMetadata,and_eq_true] at source result
  replace source := source.1.1.1.1.1.1
  replace result := result.1.1.1.1.1.1
  have linked : ∃ target, currentTarget t h.toRoot = some target ∧
      (target = journal.fromSlot.target ∨ target = journal.toSlot.target) := by
    rcases rolling.place with place | place
    · exact ⟨_,filter_eq_some_iff.mpr ⟨place,source⟩,.inl rfl⟩
    · exact ⟨_,filter_eq_some_iff.mpr ⟨place,result⟩,.inr rfl⟩
  obtain ⟨target,present,expected⟩ := linked
  have current : h.current = some target := (filter_eq_some_iff.mp present).1
  refine runs_get ?_
  rw [present]
  refine runs_require (by simp) fun _ same => ?_
  cases same
  refine runs_check (fun unexpected => ?_) fun _ => ?_
  · simp only [or_eq_false_iff,decide_eq_false_iff_not] at unexpected
    exact absurd expected (not_or.mpr unexpected)
  split_ifs with there
  · refine runs_pure ?_
    rw [← there,← current]
  · have distinct : journal.fromSlot.target ≠ journal.toSlot.target := by
      rcases expected with rfl | rfl
      · exact there
      · exact absurd rfl there
    have fromCurrent : h.current = some journal.fromSlot.target := by
      rcases expected with rfl | rfl
      · exact current
      · exact absurd rfl there
    exact runs_checked_write (fun invalid => absurd result (by simp [invalid]))
      (fun _ => .own (.switchRollback journal found phase consumed fromCurrent distinct)) (fun rough => ⟨rough,rough⟩) fun _ => rfl

theorem runs_checkRollback (phase : journal.phase = .switched) :
    Runs (s.world t) none h (checkRollback t journal) (fun _ next => Clear next)
      (fun next => s.calm → Timed s h → Clear next) := by
  have consumed := (sound.rolling journal found).consumed (by simp [phase])
  refine runs_bind (runs_sound sound (runs_ensureToSlot sound found (by simp [phase]) consumed)) ?_ ?_
  · rintro _ _ ⟨rfl,soundThere⟩
    refine runs_restartAndCheck fun healthy well => ?_
    cases healthy with
    | true =>
      refine runs_mono (runs_completeRollback soundThere found phase rfl) (fun _ _ clear => clear) ?_
      exact fun _ clear calm timed => clear calm ⟨timed.clock,timed.now⟩
    | false =>
      have rough : s.calm → False := fun calm => absurd (well calm) (by simp)
      exact runs_mono (runs_restoreFromSlot found phase) (fun _ _ impossible => impossible.elim)
        fun _ _ calm => (rough calm).elim
  · rintro _ ⟨rough,_⟩ calm
    cases rough.symm.trans calm

end

theorem valid_switched (requested : Requested t journal) :
    validateRollbackJournal t { journal with phase := .switched } := by
  have valid := requested.valid
  simp only [validateRollbackJournal,and_eq_true] at valid ⊢
  exact ⟨valid.1,by simp⟩

section

variable (sound : Sound t h.now h.toRoot) (found : h.rollbackJournal = some journal)
include sound found

theorem runs_switchRollback (phase : journal.phase = .prepared)
    (consumed : Consumed h.toRoot journal.command journal.authorizationSHA) :
    Runs (s.world t) none h (switchRollback t journal) (fun _ next => Clear next)
      (fun next => s.calm → Timed s h → Clear next) := by
  refine runs_bind (runs_sound sound (runs_ensureToSlot sound found (by simp [phase]) consumed)) ?_ ?_
  · rintro _ _ ⟨rfl,soundThere⟩
    have step : HostStep t s.scope { h with current := some journal.toSlot.target } .wrote { h with
        current := some journal.toSlot.target
        rollbackJournal := some { journal with phase := .switched } } :=
      .own (.markRollbackSwitched journal found phase consumed rfl)
    refine runs_checked_write_bind (fun invalid => ?_) (fun _ => step)
      loud fun _ => ?_
    · exact absurd (invalid.symm.trans (valid_switched (sound.rolling journal found).requested)) (by simp)
    refine runs_mono (runs_checkRollback (sound_step soundThere step) rfl rfl) (fun _ _ clear => clear) ?_
    exact fun _ clear calm timed => clear calm ⟨timed.clock,timed.now⟩
  · rintro _ ⟨rough,_⟩ calm
    cases rough.symm.trans calm

theorem runs_ensureAuthorizationConsumed :
    Runs (s.world t) none h (ensureAuthorizationConsumed t journal.authorization journal.authorizationSHA)
      (fun _ next => next.toRoot = { h.toRoot with commandFloor := next.commandFloor } ∧ Later s h.now next.now ∧
        Consumed next.toRoot journal.command journal.authorizationSHA)
      (fun _ => s.calm → Timed s h →
        ¬ (Unconsumed h.toRoot journal.command → Unexpired s journal.authorization)) := by
  have rolling := sound.rolling journal found
  obtain ⟨_,floor,loaded,_⟩ := sound.counted
  have reached : floor.sequence < journal.command ∨
      (floor.sequence = journal.command ∧ floor.authorizationSHA256 = journal.authorizationSHA) := by
    rcases rolling.ordered with ⟨⟨other,loaded',below⟩,_⟩ | ⟨_,loaded',consumed⟩
    · cases loaded.symm.trans loaded'
      exact .inl below
    · cases loaded.symm.trans loaded'
      exact .inr consumed
  refine runs_get ?_
  rw [loaded]
  refine runs_require nofun fun _ same => ?_
  cases same
  dsimp only
  split_ifs with consumed
  · have digest : floor.authorizationSHA256 = journal.authorizationSHA := by
      rcases reached with below | reached
      · exact absurd consumed (Int.ne_of_lt below)
      · exact reached.2
    refine runs_last_check (fun rejected => ?_) fun _ => ⟨rfl,.refl _,floor,loaded,consumed,digest⟩
    have signed := rolling.requested.signed
    unfold Signed at signed
    simp [digest,signed] at rejected
  · have below : floor.sequence < journal.command := by
      rcases reached with below | reached
      · exact below
      · exact absurd reached.1 consumed
    have unconsumed : Unconsumed h.toRoot journal.command := ⟨floor,loaded,below⟩
    refine runs_check (fun above => by simp [below] at above) fun _ => runs_readClock fun now later => ?_
    have step : HostStep t s.scope { h with now := now } (.consumed journal.command)
        (consumedBy { h with now := now } journal.authorization journal.authorizationSHA) :=
      .own (.consumeRollback journal found unconsumed)
    refine runs_bind (runs_consume rolling.requested.digest fun _ => step) ?_ ?_
    · rintro _ _ ⟨rfl,rfl⟩
      refine runs_last_check (fun impossible => by simp at impossible) fun _ => ⟨rfl,later,?_⟩
      exact ⟨_,consumed_loads rolling.requested.signed rolling.requested.digest,rfl,rfl⟩
    · rintro _ (⟨rfl,refused⟩ | ⟨rough,rfl⟩) calm timed unexpired
      · have issued := rolling.issued.trans (unixMilli_mono (Int.add_le_add_right later.le maxSigningClockSkew))
        have verified := verified_iff.mpr
          ⟨rolling.requested.signed,issued,unexpired unconsumed now (later.admitted timed.now),below⟩
        exact absurd ((refused calm floor loaded).symm.trans verified) (by simp)
      · cases rough.symm.trans calm

theorem runs_continueRollback : Runs (s.world t) none h (continueRollback t journal) (fun _ next => Clear next)
      (fun next => s.calm → Timed s h →
        (Unconsumed h.toRoot journal.command → Unexpired s journal.authorization) →
        Clear next) := by
  refine runs_bind (runs_sound sound (runs_ensureAuthorizationConsumed sound found)) ?_ ?_
  · rintro _ next ⟨⟨root,later,consumed⟩,soundNext⟩
    have journalled : next.rollbackJournal = some journal := by rw [root,found]
    have timedNext (timed : Timed s h) : Timed s next := ⟨timed.clock,later.admitted timed.now⟩
    cases phase : journal.phase with
    | prepared =>
      exact runs_mono (runs_switchRollback soundNext journalled phase consumed) (fun _ _ clear => clear)
        fun _ clear calm timed _ => clear calm (timedNext timed)
    | switched =>
      exact runs_mono (runs_checkRollback soundNext journalled phase) (fun _ _ clear => clear)
        fun _ clear calm timed _ => clear calm (timedNext timed)
    | completed =>
      exact runs_mono (runs_finishRollback soundNext journalled phase) (fun _ _ clear => clear)
        fun _ clear calm _ _ => clear calm
  · rintro _ ⟨stopped,_⟩ calm timed unexpired
    exact absurd unexpired (stopped calm timed)

end

theorem runs_replayCompletedRollback {w : World Host HostEvent} {authorization : AuthorizationRecord} {floor : CommandFloor}
    (suits : Suits w) (admits : w.admits = s.admits)
    (publish : ∀ between result, between.toRoot = h.toRoot → between.lastRollback = some result →
      sameAssignmentAuthorizationRecord result.authorization authorization →
      w.allowed between .wrote { between with staging := { between.staging with rollbackResult := some (some result) } }) :
    Runs w none h (replayCompletedRollback t authorization floor) (fun _ next => Kept s h next) (Kept s h) := by
  have refl := Kept.refl (s := s) h
  refine runs_require (fun _ => refl) fun _ _ => runs_check (fun _ => refl) fun _ => runs_get ?_
  refine runs_require (fun _ => refl) fun result last => runs_check (fun _ => refl) fun matching => ?_
  refine runs_check (fun _ => refl) fun _ => runs_check (fun _ => refl) fun _ => ?_
  refine runs_clock suits fun now le admitted => ?_
  have read : Kept s h { h with now := now } := kept_now ⟨le,admits ▸ admitted⟩
  refine runs_check (fun _ => read) fun _ => runs_require (fun _ => read) fun _ _ => ?_
  refine runs_require (fun _ => read) fun _ _ => runs_check (fun _ => read) fun _ => ?_
  -- The record is written back as it is.
  have same : { h with now := now, lastRollback := some result } = { h with now := now } := by rw [← last]
  have step : w.allowed { h with now := now } .wrote { h with now := now, lastRollback := some result } := by
    rw [same]
    exact suits.stays _ _ .wrote
  refine runs_write step (fun _ => ⟨read,same ▸ read⟩) ?_
  rw [same]
  have published : Kept s h { h with now := now, staging := { h.staging with rollbackResult := some (some result) } } :=
    ⟨rfl,read.time,.inl rfl,.inl rfl⟩
  refine runs_write (publish { h with now := now } result rfl last matching) (fun _ => ⟨read,published⟩) ?_
  refine runs_tidy suits (tidy_clearSuperseded _) (fun _ _ cleared => published.trans cleared.kept) fun _ cleared => ?_
  refine runs_mono (tidy_removeRequest _ w suits _) (fun _ _ more => published.trans (cleared.trans more).kept) ?_
  rintro _ ⟨_,more⟩
  exact published.trans (cleared.trans more).kept

theorem runs_rollbackResultSlot {a : AssignmentAuthorization} {slot : SlotMetadata} :
    Runs (s.world t) none h (rollbackResultSlot t a slot)
      (fun result next => next = { h with now := next.now } ∧ Later s h.now next.now ∧
        Leading h.toRoot a slot result) (Kept s h) := by
  unfold rollbackResultSlot Leading
  split_ifs
  · refine runs_get (runs_readClock fun _ later => runs_last_require (fun _ => kept_now later) fun _ ok => ?_)
    simp only [previousSlotForRollback,Checks.bind_some,Checks.pure_some] at ok
    obtain ⟨_,_,_,_,_,_,_,_,_,recorded,_,_,rfl⟩ := ok
    exact ⟨rfl,later,recorded⟩
  · exact runs_pure ⟨rfl,.refl _,rfl⟩

/-- A command that is not expired throughout the run, or is from its start. -/
def Steady (s : Setting) (record : AuthorizationRecord) : Prop :=
  Unexpired s record ∨ ∀ now, s.admits now → record.authorization.expiresAtUnixMillis ≤ unixMilli now

theorem runs_startRollback {request : AuthorizationRecord} (sound : Sound t h.now h.toRoot) (clear : Clear h)
    (unconsumed : Unconsumed h.toRoot request.authorization.commandSequence) (admitted : s.scope.rollback request) :
    Runs (s.world t) none h (startRollback t request) (fun _ next => Clear next)
      (fun next => s.calm → Timed s h → Steady s request → Clear next) := by
  refine runs_readClock fun now later => ?_
  have clearRead : Clear { h with now := now } := ⟨clear.journal,clear.rollback⟩
  refine runs_check (fun _ _ _ _ => clearRead) fun verified => ?_
  obtain ⟨signed,issued,valid,_⟩ := verified_iff.mp verified
  refine runs_get (runs_require (fun _ _ _ _ => clearRead) fun current linked => ?_)
  refine runs_require (fun _ _ _ _ => clearRead) fun slot described => ?_
  have place : h.current = some current := (filter_eq_some_iff.mp linked).1
  obtain ⟨metadata,target⟩ := filter_eq_some_iff.mp described
  simp only [and_eq_true,decide_eq_true_eq] at target
  refine runs_bind runs_rollbackResultSlot ?_ fun next kept _ _ _ => clearRead.kept kept
  rintro result next ⟨same,more,leading⟩
  have root : next.toRoot = h.toRoot := by rw [same]
  have time : Later s h.now next.now := later.trans more
  have clearNext : Clear next := ⟨by rw [root]; exact clear.journal,by rw [root]; exact clear.rollback⟩
  have soundNext : Sound t next.now next.toRoot := by
    rw [root]
    exact sound.later time.le
  refine runs_check (fun _ _ _ _ => clearNext) fun available => ?_
  refine runs_require (fun _ _ _ _ => clearNext) fun digest digested => ?_
  have step (accepted : validateRollbackJournal t (rollbackJournal request digest slot result)) :
      HostStep t s.scope next .wrote
        { next with rollbackJournal := some (rollbackJournal request digest slot result) } := by
    refine .own (.prepareRollback _ clearNext.journal clearNext.rollback rfl rfl ⟨accepted,signed,digested⟩ admitted
      ?_ ?_ ?_ ?_ ?_ ?_)
    · rw [root,place]
      exact congrArg some target.2.symm
    · rw [root]
      exact metadata
    · rw [root]
      exact leading
    · rw [root]
      exact available
    · rw [root]
      exact unconsumed
    · exact issued.trans (unixMilli_mono (Int.add_le_add_right more.le _))
  refine runs_checked_write_bind (fun _ _ _ _ => clearNext) step
    (fun rough => ⟨fun _ _ _ => clearNext,never_calm rough⟩) fun accepted => ?_
  refine runs_mono (runs_continueRollback (sound_step soundNext (step accepted)) rfl) (fun _ _ clear => clear) ?_
  intro _ ended calm timed steady
  refine ended calm ⟨timed.clock,time.admitted timed.now⟩ fun _ => ?_
  rcases steady with unexpired | expired
  · exact unexpired
  · exact absurd (expired now (later.admitted timed.now)) (not_le.mpr valid)

structure Lasting (s : Setting) (h : Host) : Prop where
  journal : ∀ journal, h.rollbackJournal = some journal →
    Unconsumed h.toRoot journal.command → Unexpired s journal.authorization
  claim : ∀ request, h.rollbackJournal = none → h.rollbackClaim = some (some request) → Steady s request

section

variable (sound : Sound t h.now h.toRoot) (idle : h.journal = none)
  (admitted : ∀ request, h.rollbackClaim = some (some request) → s.scope.rollback request)
include sound idle admitted

theorem runs_rollbackFromPath : Runs (s.world t) none h (rollbackFromPath t) (fun _ next => Clear next)
      (fun next => s.calm → Timed s h → Lasting s h → Clear next) := by
  refine runs_get ?_
  cases found : h.rollbackJournal with
  | some journal =>
    refine runs_check (fun invalid => ?_) fun _ => ?_
    · exact absurd (invalid.symm.trans (sound.rolling journal found).requested.valid) (by simp)
    · exact runs_mono (runs_continueRollback sound found) (fun _ _ clear => clear)
        fun _ ended calm timed lasting => ended calm timed (lasting.journal journal found)
  | none =>
    have clear : Clear h := ⟨idle,found⟩
    refine runs_require (fun _ _ _ _ => clear) fun _ claimed => ?_
    refine runs_require (fun _ _ _ _ => clear) fun request parsed => ?_
    rw [parsed] at claimed
    refine runs_require (fun _ _ _ _ => clear) fun floor loaded => ?_
    split_ifs with below
    · refine runs_mono (runs_startRollback sound clear ⟨floor,loaded,below⟩ (admitted request claimed))
        (fun _ _ clear => clear) ?_
      exact fun _ ended calm timed lasting => ended calm timed (lasting.claim request found claimed)
    · refine runs_check (fun _ _ _ _ => clear) fun _ => ?_
      exact runs_mono (runs_replayCompletedRollback suits_world rfl
        fun _ _ _ _ _ => .quiet (le_refl _) rfl (.same rfl rfl) .wrote) (fun _ _ kept => clear.kept kept)
        fun _ kept _ _ _ => clear.kept kept

theorem runs_runClaimedRollback : Runs (s.world t) none h (runClaimedRollback t) (fun _ next => Clear next)
      (fun next => s.calm → Timed s h → Lasting s h → Clear next) := by
  refine runs_attempt (runs_rollbackFromPath sound idle admitted) (fun _ _ clear => runs_pure clear) ?_
  intro _ stopped
  refine runs_bind (runs_quarantine suits_world) (fun _ _ dropped => runs_fail fun calm timed lasting => ?_)
    fun _ broken calm => ?_
  · exact (stopped calm timed lasting).kept (s := s) dropped.1.kept
  · cases broken.1.symm.trans calm

end

end P2pstream.UpdaterRollbackSteps
