import P2pstream.UpdaterRecords

/-! The building blocks of the activator make only the steps of the judgments. Each
statement also says what is known when its block returns, and that a block fails in a
calm world only for the reason named.
-/
namespace P2pstream.UpdaterSteps
open Library Library.Durable Kernel.SignedPayloads Checks AList
open Kernel.AgentUpdates (AssignmentAction maxInt64 unixMilli)
open Kernel.Updater Semantics.Updater UpdaterRecords

structure Setting where
  scope : Scope
  calm : Bool
  admits : Int → Prop

abbrev Setting.world (t : Trust) (s : Setting) : World Host HostEvent where
  calm := s.calm
  admits := s.admits
  allowed := HostStep t s.scope

abbrev Setting.still (s : Setting) : Setting := { s with scope := s.scope.still }

abbrev Setting.since (s : Setting) (turn : HostEvent) : Setting := { s with scope := s.scope.since turn }

/-- A run moves the host on behalf of one activation at most, or gives one up. -/
abbrev turning (t : Trust) (scope : Scope) : Pivot Host HostEvent where
  turn := HostStep t scope
  after turn := HostStep t (scope.since turn)

variable {t : Trust} {s : Setting} {h next : Host} {narrow wide : Scope} {α : Type} {done : α → Host → Prop}
  {failed : Host → Prop} {pivot : Option (Pivot Host HostEvent)}

structure Widens (narrow wide : Scope) : Prop where
  activation : ∀ record, narrow.activation record → wide.activation record
  rollback : ∀ record, narrow.rollback record → wide.rollback record
  unmoved : ∀ sequence, narrow.unmoved sequence → wide.unmoved sequence
  moved : narrow.moved → wide.moved
  bootstrap : narrow.bootstrap → wide.bootstrap
  pins : ∀ r version advance, narrow.pins r version advance → wide.pins r version advance
  claims : narrow.claims → wide.claims

theorem rootStep_mono (widens : Widens narrow wide) {now : Int} {r r' : Root} {event : HostEvent}
    (step : RootStep t narrow now r event r') : RootStep t wide now r event r' := by
  cases step with
  | prepare journal floor idle quiet phase unattested written admitted recorded unconsumed loaded advances =>
    exact .prepare journal floor idle quiet phase unattested written (widens.activation _ admitted) recorded unconsumed
      loaded advances
  | switch journal found phase consumed available unmoved =>
    exact .switch journal found phase consumed available (widens.unmoved _ unmoved)
  | markSwitched journal found phase consumed current moved =>
    exact .markSwitched journal found phase consumed current (widens.moved moved)
  | abandon journal found phase recorded unmoved => exact .abandon journal found phase recorded (widens.unmoved _ unmoved)
  | markHealthy => apply RootStep.markHealthy <;> assumption
  | complete => apply RootStep.complete <;> assumption
  | prepareRollback journal idle quiet phase unattested requested admitted current metadata leading available unconsumed
      issued =>
    exact .prepareRollback journal idle quiet phase unattested requested (widens.rollback _ admitted) current metadata
      leading available unconsumed issued
  | markRollbackSwitched => apply RootStep.markRollbackSwitched <;> assumption
  | markCompleted => apply RootStep.markCompleted <;> assumption
  | completeRollback => apply RootStep.completeRollback <;> assumption
  | pinFloor floor version advance loaded valid admitted pins =>
    exact .pinFloor floor version advance loaded valid (widens.bootstrap admitted) (widens.pins _ _ _ pins)
  | pinMetadata slot absent current attestable admitted =>
    exact .pinMetadata slot absent current attestable (widens.bootstrap admitted)
  | _ => constructor <;> assumption

theorem claims_mono (widens : Widens narrow wide) {h : Host} (claims : Claims narrow h next) : Claims wide h next :=
  ⟨claims.activation.imp_right (.imp_right widens.claims),claims.rollback.imp_right (.imp_right widens.claims)⟩

theorem hostStep_mono (widens : Widens narrow wide) (h : Host) (event : HostEvent) (next : Host)
    (step : HostStep t narrow h event next) : HostStep t wide h event next := by
  cases step with
  | quiet le same claims quiet => exact .quiet le same (claims_mono widens claims) quiet
  | root same claims step => exact .root same (claims_mono widens claims) (rootStep_mono widens step)

theorem still_since {scope : Scope} : ∀ pivot ∈ some (turning t scope), ∀ turn h event next,
    HostStep t scope.still h event next → pivot.after turn h event next := by
  rintro _ ⟨⟩ turn
  exact hostStep_mono ⟨fun _ => id,fun _ => id,fun _ => id,False.elim,id,fun _ _ _ => id,id⟩

structure Later (s : Setting) (now later : Int) : Prop where
  le : now ≤ later
  admitted : s.admits now → s.admits later

structure Kept (s : Setting) (h next : Host) : Prop where
  root : next.toRoot = h.toRoot
  time : Later s h.now next.now
  claim : next.activationClaim = h.activationClaim ∨ next.activationClaim = none
  rollbackClaim : next.rollbackClaim = h.rollbackClaim ∨ next.rollbackClaim = none

theorem Later.refl (now : Int) : Later s now now := ⟨le_refl _,id⟩

theorem Later.trans {a b c : Int} (first : Later s a b) (second : Later s b c) : Later s a c :=
  ⟨first.le.trans second.le,second.admitted ∘ first.admitted⟩

theorem Kept.refl (h : Host) : Kept s h h := ⟨rfl,.refl _,.inl rfl,.inl rfl⟩

theorem kept_or_dropped {α : Type} {first second third : Option α} (left : second = first ∨ second = none)
    (right : third = second ∨ third = none) : third = first ∨ third = none := by
  rcases right with rfl | dropped
  · exact left
  · exact .inr dropped

variable {a b c : Host} {now : Int} {slots : Table String Slot} {slot : SlotMetadata} {name digest : String}

theorem Kept.trans (first : Kept s a b) (second : Kept s b c) : Kept s a c :=
  ⟨second.root.trans first.root,first.time.trans second.time,kept_or_dropped first.claim second.claim,
    kept_or_dropped first.rollbackClaim second.rollbackClaim⟩

variable {next : Host} {target : String} {names : List String}

theorem Kept.step (kept : Kept s h next) : HostStep t s.scope h .wrote next :=
  .quiet kept.time.le kept.root ⟨kept.claim.imp_right .inl,kept.rollbackClaim.imp_right .inl⟩ .wrote

theorem kept_now (later : Later s h.now now) : Kept s h { h with now := now } := ⟨rfl,later,.inl rfl,.inl rfl⟩

structure Cleared (h next : Host) : Prop where
  root : next.toRoot = h.toRoot
  now : next.now = h.now
  receipt : next.staging.receipt = h.staging.receipt
  result : next.staging.rollbackResult = h.staging.rollbackResult
  claim : next.activationClaim = h.activationClaim ∨ next.activationClaim = none
  rollbackClaim : next.rollbackClaim = h.rollbackClaim ∨ next.rollbackClaim = none

theorem Cleared.refl (h : Host) : Cleared h h := ⟨rfl,rfl,rfl,rfl,.inl rfl,.inl rfl⟩

theorem Cleared.trans (first : Cleared a b) (second : Cleared b c) : Cleared a c :=
  ⟨second.root.trans first.root,second.now.trans first.now,second.receipt.trans first.receipt,
    second.result.trans first.result,kept_or_dropped first.claim second.claim,
    kept_or_dropped first.rollbackClaim second.rollbackClaim⟩

theorem Cleared.kept (cleared : Cleared h next) : Kept s h next := { cleared with time := cleared.now ▸ .refl _ }

/-- Worlds in which the clock is read, questions are asked and commands are cleared up. -/
structure Suits (w : World Host HostEvent) : Prop where
  read : ∀ h reading, w.admits reading → w.allowed h .tick { h with now := max h.now reading }
  stays : ∀ h event, Quiet event → w.allowed h event h
  cleared : ∀ h next, Cleared h next → w.allowed h .wrote next

theorem suits_world : Suits (s.world t) :=
  ⟨fun _ _ _ => .quiet (le_max_left ..) rfl (.same rfl rfl) .tick,fun _ _ quiet => .quiet (le_refl _) rfl (.same rfl rfl) quiet,
    fun _ _ cleared => Kept.step cleared.kept⟩

variable {w : World Host HostEvent}

theorem runs_clock {next : Int → Action α} (suits : Suits w)
    (tail : ∀ now, h.now ≤ now → (w.admits h.now → w.admits now) → Runs w pivot { h with now := now } (next now) done failed) :
    Runs w pivot h (readClock >>= next) done failed := by
  refine runs_assoc (runs_wait (suits.stays h _ .tick) (fun reading => suits.read h reading) (tail h.now (le_refl _) id)
    fun reading admitted => tail _ (le_max_left ..) fun before => ?_)
  rcases max_choice h.now reading with same | same
  · exact same.symm ▸ before
  · exact same.symm ▸ admitted

theorem runs_readClock {next : Int → Action α}
    (tail : ∀ now, Later s h.now now → Runs (s.world t) pivot { h with now := now } (next now) done failed) :
    Runs (s.world t) pivot h (readClock >>= next) done failed :=
  runs_clock suits_world fun now le admitted => tail now ⟨le,admitted⟩

theorem runs_restartAndCheck {next : Bool → Action α}
    (tail : ∀ healthy, (s.calm = true → healthy = true) → Runs (s.world t) pivot h (next healthy) done failed) :
    Runs (s.world t) pivot h (restartAndCheck >>= next) done failed := by
  have asked : ∀ answer, HostStep t s.scope h (.asked answer) h := fun answer => .quiet (le_refl _) rfl (.same rfl rfl) (.asked answer)
  refine runs_assoc (runs_ask asked fun restarted yes => ?_)
  cases restarted with
  | false => exact tail false yes
  | true => exact runs_ask asked tail

theorem runs_question {next : Bool → Action α} (tail : ∀ answer, Runs (s.world t) pivot h (next answer) done failed) :
    Runs (s.world t) pivot h (choose .asked >>= next) done failed :=
  runs_choose (fun answer => .quiet (le_refl _) rfl (.same rfl rfl) (.asked answer)) tail

def Tidy (program : Action Unit) : Prop :=
  ∀ w, Suits w → ∀ h, Runs w none h program (fun _ next => Cleared h next) (fun next => w.calm = false ∧ Cleared h next)

theorem tidy_pure : Tidy (pure ()) := fun _ _ h => runs_pure (.refl h)

theorem tidy_write {change : Host → Host} (cleared : ∀ h, Cleared h (change h)) : Tidy (write .wrote change) :=
  fun _ suits h => runs_last_write (suits.cleared _ _ (cleared h)) (fun rough => ⟨⟨rough,.refl h⟩,⟨rough,cleared h⟩⟩) (cleared h)

theorem tidy_get {next : Host → Action Unit} (tail : ∀ h, Tidy (next h)) : Tidy (get >>= next) :=
  fun w suits h => runs_get (tail h w suits h)

theorem tidy_choose {next : Bool → Action Unit} (tail : ∀ answer, Tidy (next answer)) : Tidy (choose .asked >>= next) :=
  fun w suits h => runs_choose (fun answer => suits.stays h _ (.asked answer)) fun answer => tail answer w suits h

theorem tidy_bind {first : Action Unit} {next : Unit → Action Unit} (head : Tidy first) (tail : Tidy (next ())) :
    Tidy (first >>= next) := by
  intro w suits h
  refine runs_bind (head w suits h) (fun _ between cleared => ?_) (fun _ broken => broken)
  refine runs_mono (tail w suits between) (fun _ _ more => cleared.trans more) ?_
  rintro _ ⟨rough,more⟩
  exact ⟨rough,cleared.trans more⟩

theorem runs_tidy {program : Action Unit} {next : Unit → Action α} (suits : Suits w) (tidy : Tidy program)
    (fails : ∀ after, w.calm = false → Cleared h after → failed after)
    (tail : ∀ after, Cleared h after → Runs w pivot after (next ()) done failed) :
    Runs w pivot h (program >>= next) done failed :=
  runs_bind (tidy w suits h) (fun _ after cleared => tail after cleared) fun after broken => fails after broken.1 broken.2

theorem tidy_staging {staging : Host → Staging} (receipt : ∀ h, (staging h).receipt = h.staging.receipt)
    (result : ∀ h, (staging h).rollbackResult = h.staging.rollbackResult) :
    Tidy (write .wrote fun h => { h with staging := staging h }) :=
  tidy_write fun h => ⟨rfl,rfl,receipt h,result h,.inl rfl,.inl rfl⟩

theorem tidy_removeLiveReady : Tidy removeLiveReady := tidy_staging (fun _ => rfl) fun _ => rfl

theorem tidy_removeActivationClaim : Tidy removeActivationClaim := tidy_write fun _ => ⟨rfl,rfl,rfl,rfl,.inr rfl,.inl rfl⟩

theorem tidy_removeRollbackClaim : Tidy removeRollbackClaim := tidy_write fun _ => ⟨rfl,rfl,rfl,rfl,.inl rfl,.inr rfl⟩

theorem tidy_removeOldClaim (expected : AuthorizationRecord) : Tidy (removeOldClaim expected) := by
  refine tidy_get fun _ => ?_
  split
  · split_ifs
    · exact tidy_removeActivationClaim
    · exact tidy_pure
  · exact tidy_pure

theorem tidy_clearStaged : Tidy clearStaged := by
  refine tidy_bind tidy_removeLiveReady (tidy_bind ?_ (tidy_bind ?_ ?_))
  all_goals exact tidy_staging (fun _ => rfl) fun _ => rfl

section

variable (expected : AuthorizationRecord)
include expected

theorem tidy_clearClaimedCandidate : Tidy (clearClaimedCandidate expected) := by
  refine tidy_get fun _ => ?_
  split
  · split_ifs
    · exact tidy_bind tidy_clearStaged tidy_removeActivationClaim
    · exact tidy_removeActivationClaim
    · exact tidy_removeActivationClaim
  · exact tidy_removeActivationClaim

theorem tidy_clearClaim : Tidy (clearClaimIfMatchingAuthorization expected) := by
  refine tidy_choose fun _ => tidy_get fun _ => ?_
  split_ifs
  · split
    · split_ifs
      · exact tidy_clearClaimedCandidate expected
      · exact tidy_pure
    · exact tidy_pure
  · exact tidy_removeOldClaim expected

theorem tidy_clearLive : Tidy (clearLiveIfMatchingAuthorization expected) := by
  refine tidy_choose fun _ => tidy_get fun _ => ?_
  split_ifs
  · exact tidy_clearStaged
  · exact tidy_removeLiveReady
  · exact tidy_pure

theorem tidy_removeRequest : Tidy (removeMatchingRollbackRequest expected) := by
  refine tidy_get fun _ => ?_
  split
  · split_ifs
    · exact tidy_removeRollbackClaim
    · exact tidy_pure
  · exact tidy_pure

end

theorem tidy_clearSuperseded (authorization : AuthorizationRecord) :
    Tidy (clearSupersededActivationForRollback authorization) := by
  refine tidy_bind (tidy_get fun h => ?_) (tidy_get fun _ => ?_)
  · split
    · split_ifs
      · exact tidy_removeActivationClaim
      · exact tidy_pure
    · exact tidy_pure
  · split
    · split_ifs
      · exact tidy_clearLive _
      · exact tidy_pure
    · exact tidy_pure

theorem named_slots {r : Root} (named : Named { r with slots := slots } target) : Named r target := by
  cases named with
  | current found => exact .current found
  | previous found => exact .previous found
  | journalPrevious found => exact .journalPrevious found
  | journalCandidate found => exact .journalCandidate found
  | rollbackFrom found => exact .rollbackFrom found
  | rollbackTo found => exact .rollbackTo found
  | activationPrevious found => exact .activationPrevious found
  | activated found => exact .activated found

theorem retainSlotTarget_eq (retained : retainSlotTarget t target = some names) : names = [target] := by
  simp only [retainSlotTarget,bind_some,pure_some] at retained
  exact retained.choose_spec.2.symm

theorem retainSlotMetadata_eq (retained : retainSlotMetadata t slot = some names) : names = [slot.target] := by
  simp only [retainSlotMetadata,bind_some] at retained
  obtain ⟨_,_,retained⟩ := retained
  exact retainSlotTarget_eq retained

theorem named_retained (retained : retainedSlotNames t h = some names) (named : Named h.toRoot target) : target ∈ names := by
  simp only [retainedSlotNames,bind_some,pure_some] at retained
  obtain ⟨linked,link,_,current,_,previous,_,activation,_,rollback,_,completed,rfl⟩ := retained
  cases named with
  | current found =>
    have same : target = linked := by
      obtain ⟨same,_⟩ := Option.filter_eq_some_iff.mp link
      exact Option.some.inj (found.symm.trans same)
    simp [retainSlotTarget_eq current,same]
  | previous found =>
    rw [found] at previous
    simp [retainSlotMetadata_eq previous]
  | journalPrevious found | journalCandidate found =>
    rw [found] at activation
    simp only [retainOptionalActivationJournal,bind_some,pure_some] at activation
    obtain ⟨_,first,_,second,_,_,rfl⟩ := activation
    simp [retainSlotTarget_eq first,retainSlotTarget_eq second]
  | rollbackFrom found | rollbackTo found =>
    rw [found] at rollback
    simp only [retainOptionalRollbackJournal,bind_some,pure_some] at rollback
    obtain ⟨_,_,_,first,_,second,rfl⟩ := rollback
    simp [retainSlotMetadata_eq first,retainSlotMetadata_eq second]
  | activationPrevious found | activated found =>
    rw [found] at completed
    simp only [retainOptionalCompletedActivation,bind_some,pure_some] at completed
    obtain ⟨_,first,_,second,rfl⟩ := completed
    simp [retainSlotMetadata_eq first,retainSlotMetadata_eq second]

structure Pruned (s : Setting) (h next : Host) : Prop where
  root : next.toRoot = { h.toRoot with slots := next.slots }
  time : Later s h.now next.now
  claim : next.activationClaim = h.activationClaim ∨ next.activationClaim = none
  named : ∀ target, Named h.toRoot target → next.slots.lookup target = h.slots.lookup target
  shrunk : s.calm = true → ∀ name slot, next.slots.lookup name = some slot → h.slots.lookup name = some slot

theorem Pruned.refl (h : Host) : Pruned s h h := ⟨rfl,.refl _,.inl rfl,fun _ _ => rfl,fun _ _ _ found => found⟩

theorem Pruned.change {between : Host} (pruned : Pruned s h between)
    (free : ∀ target, Named h.toRoot target → target ≠ name)
    (others : ∀ other, other ≠ name → slots.lookup other = between.slots.lookup other)
    (gone : s.calm → slots.lookup name = none) : Pruned s h { between with slots := slots } := by
  refine ⟨?_,pruned.time,pruned.claim,fun target named => ?_,fun calm other slot found => ?_⟩
  · rw [pruned.root]
  · exact (others target (free target named)).trans (pruned.named target named)
  · refine pruned.shrunk calm other slot ?_
    by_cases same : other = name
    · subst same
      exact absurd (found.symm.trans (gone calm)) (by simp)
    · exact (others other same).symm.trans found

structure Prunes (h next : Host) : Prop where
  root : next = { h with slots := next.slots }
  one : ∃ name, (∀ target, Named h.toRoot target → target ≠ name) ∧
    ∀ other, other ≠ name → next.slots.lookup other = h.slots.lookup other

theorem Prunes.step (prunes : Prunes h next) : HostStep t s.scope h .wrote next := by
  obtain ⟨name,free,others⟩ := prunes.one
  have now : next.now = h.now := by rw [prunes.root]
  have root : next.toRoot = { h.toRoot with slots := next.slots } := by rw [prunes.root]
  refine .root now (.same (by rw [prunes.root]) (by rw [prunes.root])) ?_
  rw [root]
  exact .prune name next.slots free others

section Pruning

variable {w : World Host HostEvent} (calm : w.calm = s.calm) (steps : ∀ h next, Prunes h next → w.allowed h .wrote next)

variable {between : Host}

theorem prunes_slots (root : between.toRoot = { h.toRoot with slots := between.slots })
    (free : ∀ target, Named h.toRoot target → target ≠ name)
    (others : ∀ other, other ≠ name → slots.lookup other = between.slots.lookup other) :
    Prunes between { between with slots := slots } := by
  refine ⟨rfl,name,fun target named => free target ?_,others⟩
  rw [root] at named
  exact named_slots named

include calm steps

theorem runs_securelyRemoveSlot (pruned : Pruned s h between) (free : ∀ target, Named h.toRoot target → target ≠ name) :
    Runs w none between (securelyRemoveSlot name) (fun _ next => Pruned s h next) (Pruned s h) := by
  have erased (slots : Table String Slot) : ∀ other, other ≠ name → (slots.erase name).lookup other = slots.lookup other :=
    fun other ne => lookup_erase_ne ne
  refine runs_get (runs_require (fun _ => pruned) fun _ found => runs_check (fun _ => pruned) fun _ => ?_)
  split_ifs
  · have emptied : ∀ other, other ≠ name → (emptiedSlots between.slots name).lookup other = between.slots.lookup other := by
      intro other ne
      simp only [emptiedSlots,found]
      exact lookup_insert_ne ne
    -- The emptied directory is only seen when a write fails.
    have middle (rough : w.calm = false) : Pruned s h { between with slots := emptiedSlots between.slots name } :=
      pruned.change free emptied fun quiet => absurd (rough.symm.trans (calm.trans quiet)) (by simp)
    have last := pruned.change free (fun other ne => (erased _ other ne).trans (emptied other ne))
      fun _ => lookup_erase ..
    have root : { between.toRoot with slots := emptiedSlots between.slots name } =
        { h.toRoot with slots := emptiedSlots between.slots name } := by rw [pruned.root]
    exact runs_write (steps _ _ (prunes_slots pruned.root free emptied)) (fun rough => ⟨pruned,middle rough⟩)
      (runs_last_write (steps _ _ (prunes_slots root free (erased _))) (fun rough => ⟨middle rough,last⟩) last)
  · have last := pruned.change free (erased _) fun _ => lookup_erase ..
    exact runs_last_write (steps _ _ (prunes_slots pruned.root free (erased _))) (fun _ => ⟨pruned,last⟩) last

theorem runs_removeObsoleteSlots {retained names : List String} (pruned : Pruned s h between)
    (kept : ∀ target, Named h.toRoot target → target ∈ retained) :
    Runs w none between (removeObsoleteSlots t retained names) (fun _ next => Pruned s h next) (Pruned s h) := by
  induction names generalizing between with
  | nil => exact runs_pure pruned
  | cons name _ ih =>
    unfold removeObsoleteSlots
    split_ifs with obsolete
    · have free : ∀ target, Named h.toRoot target → target ≠ name := by
        rintro target named rfl
        simp [kept target named] at obsolete
      exact runs_bind (runs_securelyRemoveSlot calm steps pruned free) (fun _ _ more => ih more) fun _ broken => broken
    · exact ih pruned

theorem runs_pruning : Runs w none h (pruneObsoleteSlots t) (fun _ next => Pruned s h next) (Pruned s h) := by
  refine runs_get (runs_require (fun _ => .refl h) fun _ found => ?_)
  exact runs_removeObsoleteSlots calm steps (.refl h) fun _ named => named_retained found named

end Pruning

theorem runs_pruneObsoleteSlots : Runs (s.world t) none h (pruneObsoleteSlots t) (fun _ next => Pruned s h next) (Pruned s h) :=
  runs_pruning rfl fun _ _ prunes => prunes.step

def Refused (t : Trust) (r : Root) (record : AuthorizationRecord) (action : AssignmentAction) (now : Int) : Prop :=
  ∀ floor, loadRootCommandFloor r = some floor → verifyAssignmentAuthorizationRecord t record action now floor.sequence = false

abbrev consumedBy (h : Host) (record : AuthorizationRecord) (digest : String) : Host :=
  { h with commandFloor := some ⟨record.authorization.commandSequence,digest⟩ }

theorem runs_consume {record : AuthorizationRecord} {action : AssignmentAction}
    (digested : authorizationDigest t record.authorization = some digest)
    (step : Unconsumed h.toRoot record.authorization.commandSequence →
      HostStep t s.scope h (.consumed record.authorization.commandSequence) (consumedBy h record digest)) :
    Runs (s.world t) none h (consumeAssignmentAuthorization t record action now)
      (fun value next => value = digest ∧ next = consumedBy h record digest)
      (fun next => (next = h ∧ (s.calm → Refused t h.toRoot record action now)) ∨
        (s.calm = false ∧ next = consumedBy h record digest)) := by
  refine runs_get (runs_require (fun unreadable => .inl ⟨rfl,fun _ floor found => ?_⟩) fun floor loaded => ?_)
  · cases found.symm.trans unreadable
  refine runs_check (fun refused => .inl ⟨rfl,fun _ other found => ?_⟩) fun verified => ?_
  · rw [← Option.some.inj (loaded.symm.trans found)]
    exact refused
  rw [digested]
  have unconsumed : Unconsumed h.toRoot record.authorization.commandSequence := ⟨floor,loaded,(verified_iff.mp verified).2.2.2⟩
  refine runs_require nofun fun _ same => ?_
  cases same
  refine runs_write (step unconsumed) (fun rough => ⟨.inl ⟨rfl,fun calm => ?_⟩,.inr ⟨rough,rfl⟩⟩) (runs_pure ⟨rfl,rfl⟩)
  cases rough.symm.trans calm

structure Grown (h next : Host) : Prop where
  root : next = { h with slots := next.slots }
  slots : ∀ name slot, h.slots.lookup name = some slot → next.slots.lookup name = some slot

def Installable (h : Root) (release : VerifiedRelease) : Prop :=
  ∀ slot, h.slots.lookup release.version = some slot → validateExistingSlot slot release.artifact = true

theorem available_of_valid {slot : Slot} {artifact : ReleaseArtifact} (valid : validateExistingSlot slot artifact) :
    slot.executable.isSome := by
  unfold validateExistingSlot at valid
  cases found : slot.executable with
  | none => simp [found] at valid
  | some => rfl

theorem runs_installSlot {release : VerifiedRelease} {artifact : P2pstream.Kernel.AgentUpdates.Bytes}
    (verified : verifyArtifact t artifact release.artifact) :
    Runs (s.world t) none h (installSlot t release artifact)
      (fun _ next => Grown h next ∧ slotAvailable next.toRoot release.version)
      (fun next => Grown h next ∧ (s.calm → ¬ Installable h.toRoot release)) := by
  have unchanged : Grown h h := ⟨rfl,fun _ _ found => found⟩
  refine runs_get ?_
  cases found : h.slots.lookup release.version with
  | some slot =>
    refine runs_last_check (fun invalid => ⟨unchanged,fun _ free => ?_⟩) fun valid => ⟨unchanged,?_⟩
    · exact absurd (invalid.symm.trans (free slot found)) (by simp)
    · simp [slotAvailable,found,available_of_valid valid]
  | none =>
    simp only [verifyArtifact,Bool.and_eq_true,decide_eq_true_eq] at verified
    refine runs_check (fun mismatch => ?_) fun _ => ?_
    · simp [verified.1.2,verified.2] at mismatch
    have added : Grown h { h with slots := h.slots.insert release.version (installedSlot release.artifact) } := by
      refine ⟨rfl,fun name slot present => ?_⟩
      have ne : name ≠ release.version := by
        rintro rfl
        cases present.symm.trans found
      exact (lookup_insert_ne ne).trans present
    refine runs_last_write (.own (.install _ _ found rfl)) (fun rough => ?_) ⟨added,?_⟩
    · have loud (calm : s.calm) : ¬ Installable h.toRoot release := absurd (rough.symm.trans calm) (by simp)
      exact ⟨⟨unchanged,loud⟩,⟨added,loud⟩⟩
    · simp [slotAvailable,installedSlot]

structure Able (s : Setting) (h : Host) : Prop where
  clock : ∀ now, s.admits now → validUnixMillis (unixMilli now) = true
  now : s.admits h.now
  least : 0 ≤ loadRootActionCounter h.toRoot
  most : loadRootActionCounter h.toRoot < maxInt64

theorem Able.kept (able : Able s h) (time : Later s h.now next.now) (counter : next.counter = h.counter) : Able s next := by
  have counters : loadRootActionCounter next.toRoot = loadRootActionCounter h.toRoot := by
    unfold loadRootActionCounter
    rw [counter]
  exact ⟨able.clock,time.admitted able.now,counters ▸ able.least,counters ▸ able.most⟩

theorem runs_createReceipt {authorization : AuthorizationRecord} :
    Runs (s.world t) none h (createRootActionReceipt t authorization digest slot)
      (fun receipt next => next = { h with now := next.now } ∧ Later s h.now next.now ∧
        Issued t next.now h.toRoot authorization receipt ∧ receipt.value.resultKind = slot.resultKind ∧
        receipt.value.resultManifestSHA256 = slot.manifestSHA256)
      (fun next => next = { h with now := next.now } ∧ Later s h.now next.now ∧
        (s.calm → Able s h → ¬ Signable t authorization digest slot)) := by
  refine runs_check (fun invalid => ⟨rfl,.refl _,fun _ _ able => ?_⟩) fun _ => ?_
  · cases invalid.symm.trans able.attestable.valid
  refine runs_require (fun undigested => ⟨rfl,.refl _,fun _ _ able => ?_⟩) fun _ digested => ?_
  · cases undigested.symm.trans able.digested
  refine runs_check (fun other => ⟨rfl,.refl _,fun _ _ able => ?_⟩) fun _ => ?_
  · rw [able.digested] at digested
    simp [Option.some.inj digested] at other
  refine runs_get (runs_check (fun full => ⟨rfl,.refl _,fun _ able _ => ?_⟩) fun _ => ?_)
  · have most := able.most
    simp only [maxInt64] at most
    simp at full
    omega
  refine runs_readClock fun completed later => ?_
  refine runs_require (fun unpayable => ⟨rfl,later,fun _ able signable => ?_⟩) fun _ payable => ?_
  · obtain ⟨_,payable,_⟩ := issue signable able.least able.most (able.clock _ (later.admitted able.now)) (le_refl completed)
    cases unpayable.symm.trans payable
  refine runs_readClock fun _ more => ?_
  refine runs_check (fun rejected => ⟨rfl,later.trans more,fun _ able signable => ?_⟩) fun accepted => ?_
  · obtain ⟨payload',payable',accepted⟩ := issue signable able.least able.most (able.clock _ (later.admitted able.now)) more.le
    cases payable.symm.trans payable'
    cases rejected.symm.trans accepted
  exact runs_pure ⟨rfl,later.trans more,⟨rfl,accepted⟩,rfl,rfl⟩

end P2pstream.UpdaterSteps
