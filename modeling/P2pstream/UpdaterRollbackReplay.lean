import P2pstream.UpdaterRollbackSteps

/-! Where a rollback ends while nothing fails and the clock stands still. Every durable
step on the way leads to the same end, so the run can be taken up again anywhere.
-/
namespace P2pstream.UpdaterRollbackReplay
open Library Library.Durable Kernel.SignedPayloads Option
open Kernel.AgentUpdates (SignedReceipt unixMilli)
open Kernel.Updater Semantics.Updater UpdaterRecords UpdaterInvariant
open UpdaterSteps UpdaterRollbackSteps

variable {t : Trust} {h : Host} {journal : RollbackJournal} {α : Type} {done : α → Host → Prop}
  {failed : Host → Prop}

/-- What pruning leaves when nothing fails; it stops at a slot that is not root's. -/
def prunedSlots (t : Trust) (retained : List String) : List String → Table String Slot → Table String Slot
  | [],slots => slots
  | name :: names,slots =>
    if validSlotTarget t name && !retained.contains name then
      match slots.lookup name with
      | none => slots
      | some slot =>
        if slot.owned then
          prunedSlots t retained names
            (if slot.executable.isSome then (emptiedSlots slots name).erase name else slots.erase name)
        else slots
    else prunedSlots t retained names slots

def prunedRoot (t : Trust) (h : Host) : Root := match retainedSlotNames t h with
  | none => h.toRoot
  | some retained => { h.toRoot with slots := prunedSlots t retained h.slots.keys h.slots }

/-- The receipt of the journal or, before it is completed, the one signed now. -/
def dueReceipt (t : Trust) (h : Host) (journal : RollbackJournal) : Option SignedReceipt :=
  if journal.phase = .completed then journal.receipt
  else
    let value := rootActionReceipt t journal.authorization.authorization journal.authorizationSHA journal.toSlot
      (loadRootActionCounter h.toRoot + 1) h.now
    (rootActionReceiptPayload t.semverIsValid value).map fun payload => ⟨value,payload,t.sign payload⟩

def recorded (r : Root) (journal : RollbackJournal) (receipt : SignedReceipt) : Root := { r with
  current := some journal.toSlot.target
  metadata := some journal.toSlot
  counter := some receipt.value.rootActionCounter
  lastRollback := some ⟨journal.authorization,receipt⟩
  commandFloor := some ⟨journal.command,journal.authorizationSHA⟩
  rollbackJournal := none }

def concluded (h : Host) (journal : RollbackJournal) (receipt : SignedReceipt) : Host := { h with
  toRoot := recorded h.toRoot journal receipt
  staging := { h.staging with rollbackResult := some (some ⟨journal.authorization,receipt⟩) } }

def ending (t : Trust) (h : Host) : Option Root := do
  let journal ← h.rollbackJournal
  let receipt ← dueReceipt t h journal
  pure (prunedRoot t (concluded h journal receipt))

structure Heads (t : Trust) (h next : Host) : Prop where
  present : h.rollbackJournal.isSome = true
  now : next.now = h.now
  command : next.rollbackJournal.map RollbackJournal.authorization = h.rollbackJournal.map RollbackJournal.authorization
  ending : ending t next = ending t h

def Leads (t : Trust) (h next : Host) : Prop := next.rollbackJournal.isSome = true → Heads t h next

abbrev stillWorld (t : Trust) : World Host HostEvent where
  calm := true
  admits := fun _ => False
  allowed := fun h _ next => Leads t h next

theorem never_rough {failed : Prop} (rough : (stillWorld t).calm = false) : failed := nomatch rough

theorem runs_stillClock {next : Int → Action α} (tail : Runs (stillWorld t) none h (next h.now) done failed) :
    Runs (stillWorld t) none h (readClock >>= next) done failed := by
  have stays : Leads t h h := fun present => ⟨present,rfl,rfl,rfl⟩
  exact runs_assoc (runs_wait stays (fun _ impossible => impossible.elim) tail fun _ impossible => impossible.elim)

variable {next : Host} {other : RollbackJournal}

theorem leads_without (gone : next.rollbackJournal = none) : Leads t h next := by
  intro present
  rw [gone] at present
  cases present

theorem runs_pruned {retained names : List String} (gone : h.rollbackJournal = none) :
    Runs (stillWorld t) none h (removeObsoleteSlots t retained names)
      (fun _ next => next.toRoot = { h.toRoot with slots := prunedSlots t retained names h.slots })
      (fun next => next.toRoot = { h.toRoot with slots := prunedSlots t retained names h.slots }) := by
  induction names generalizing h with
  | nil => exact runs_pure rfl
  | cons name _ ih =>
    unfold removeObsoleteSlots prunedSlots
    split_ifs with obsolete
    · have removed : Runs (stillWorld t) none h (securelyRemoveSlot name)
          (fun _ next => ∃ slot, h.slots.lookup name = some slot ∧ slot.owned ∧ next = { h with
            slots := if slot.executable.isSome then (emptiedSlots h.slots name).erase name else h.slots.erase name })
          (fun next => next = h ∧ ∀ slot, h.slots.lookup name = some slot → slot.owned = false) := by
        have without (state : Host) (slots : Table String Slot) : Leads t state { h with slots := slots } := leads_without gone
        refine runs_get (runs_require (fun none => ⟨rfl,fun slot found => ?_⟩) fun slot found => ?_)
        · cases found.symm.trans none
        refine runs_check (fun foreign => ⟨rfl,fun other same => ?_⟩) fun owned => ?_
        · rw [← some.inj (found.symm.trans same)]
          exact foreign
        split_ifs with whole
        · refine runs_write (without _ _) never_rough ?_
          refine runs_last_write (without _ _) never_rough ⟨slot,found,owned,?_⟩
          rw [if_pos whole]
        · refine runs_last_write (without _ _) never_rough ⟨slot,found,owned,?_⟩
          rw [if_neg whole]
      refine runs_bind removed ?_ ?_
      · rintro _ _ ⟨slot,found,owned,rfl⟩
        simp only [found,owned,if_true]
        exact ih gone
      · rintro _ ⟨same,foreign⟩
        rw [same]
        cases found : h.slots.lookup name with
        | none => rfl
        | some slot =>
          simp only [foreign slot found]
          rfl
    · exact ih gone

theorem runs_prunedRoot (gone : h.rollbackJournal = none) :
    Runs (stillWorld t) none h (pruneObsoleteSlots t) (fun _ next => next.toRoot = prunedRoot t h)
      (fun next => next.toRoot = prunedRoot t h) := by
  unfold pruneObsoleteSlots prunedRoot
  refine runs_get (runs_require (fun none => ?_) fun _ found => ?_)
  · rw [none]
  · rw [found]
    exact runs_pruned gone

theorem prunedRoot_congr (root : next.toRoot = h.toRoot) (receipt : next.staging.receipt = h.staging.receipt)
    (result : next.staging.rollbackResult = h.staging.rollbackResult) : prunedRoot t next = prunedRoot t h := by
  have names : retainedSlotNames t next = retainedSlotNames t h := by
    unfold retainedSlotNames
    rw [root,receipt,result]
  unfold prunedRoot
  rw [names,root]

theorem heads_congr (found : h.rollbackJournal = some journal) (found' : next.rollbackJournal = some other)
    (time : next.now = h.now) (due : dueReceipt t next other = dueReceipt t h journal)
    (root : ∀ receipt, recorded next.toRoot other receipt = recorded h.toRoot journal receipt)
    (authorization : other.authorization = journal.authorization) (receipt : next.staging.receipt = h.staging.receipt) :
    Heads t h next := by
  refine ⟨by rw [found]; rfl,time,?_,?_⟩
  · rw [found,found',map_some,map_some,authorization]
  unfold ending
  rw [found,found']
  simp only [bind_eq_bind,bind_some]
  congr 1
  funext signed
  refine congrArg some (prunedRoot_congr (root signed) receipt ?_)
  show some (some (RollbackRecord.mk other.authorization signed)) = some (some ⟨journal.authorization,signed⟩)
  rw [authorization]

theorem leads_cleared (cleared : Cleared h next) : Leads t h next := by
  intro present
  have same : next.rollbackJournal = h.rollbackJournal := congrArg Root.rollbackJournal cleared.root
  obtain ⟨_,found⟩ := isSome_iff_exists.mp present
  refine heads_congr (same ▸ found) found cleared.now ?_ (fun _ => ?_) rfl cleared.receipt
  · unfold dueReceipt
    rw [cleared.root,cleared.now]
  · rw [cleared.root]

theorem suits_still : Suits (stillWorld t) :=
  ⟨fun _ _ impossible => impossible.elim,fun h _ _ => leads_cleared (.refl h),fun _ _ => leads_cleared⟩

abbrev Reaches (t : Trust) (h : Host) (program : Action Unit) : Prop :=
  Runs (stillWorld t) none h program (fun _ next => ending t h = some next.toRoot)
    (fun next => next.rollbackJournal = none → ending t h = some next.toRoot)

theorem reaches_from {program : Action Unit} (same : ending t next = ending t h) (reaches : Reaches t next program) :
    Runs (stillWorld t) none next program (fun _ last => ending t h = some last.toRoot)
      (fun last => last.rollbackJournal = none → ending t h = some last.toRoot) :=
  same ▸ reaches

theorem journalled {r : Root} (found : h.rollbackJournal = some journal) (gone : h.rollbackJournal = none) :
    ending t h = some r := absurd (found.symm.trans gone) (by simp)

theorem reaches_finishRollback (found : h.rollbackJournal = some journal)
    (phase : journal.phase = .completed) (current : h.current = some journal.toSlot.target)
    (floor : h.commandFloor = some ⟨journal.command,journal.authorizationSHA⟩) :
    Reaches t h (finishRollback t journal) := by
  refine runs_require (fun _ => journalled found) fun receipt attested => runs_get ?_
  have ended : ending t h = some (prunedRoot t (concluded h journal receipt)) := by
    simp [ending,found,dueReceipt,phase,attested]
  -- From here on the receipt is fixed, and only what it overwrites is written.
  have leads {state next : Host} (found : state.rollbackJournal = some journal) (kept : next.rollbackJournal = some journal)
      (root : ∀ receipt, recorded next.toRoot journal receipt = recorded state.toRoot journal receipt)
      (time : next.now = state.now) (published : next.staging.receipt = state.staging.receipt) : Leads t state next := by
    refine fun _ => heads_congr found kept time ?_ root rfl published
    simp only [dueReceipt,phase,if_true]
  refine runs_assoc (runs_check (fun _ => journalled found) fun _ => runs_assoc (runs_stillClock ?_))
  refine runs_assoc (runs_check (fun _ => journalled found) fun _ => ?_)
  refine runs_assoc (runs_write (leads found found (fun _ => rfl) rfl rfl) never_rough ?_)
  refine runs_assoc (runs_write (leads found found (fun _ => rfl) rfl rfl) never_rough ?_)
  refine runs_assoc (runs_write (leads found found (fun _ => rfl) rfl rfl) never_rough ?_)
  refine runs_write (leads found found (fun _ => rfl) rfl rfl) never_rough ?_
  refine runs_tidy suits_still (tidy_clearSuperseded _) (fun _ => never_rough) fun _ cleared => ?_
  refine runs_tidy suits_still (tidy_removeRequest _) (fun _ => never_rough) fun second more => ?_
  have both := cleared.trans more
  refine runs_write (leads_without rfl) never_rough ?_
  have same : prunedRoot t { second with rollbackJournal := none } = prunedRoot t (concluded h journal receipt) := by
    refine prunedRoot_congr ?_ both.receipt both.result
    show { second.toRoot with rollbackJournal := none } = recorded h.toRoot journal receipt
    rw [both.root,recorded,← current,← floor]
  refine runs_mono (runs_prunedRoot rfl) (fun _ next last => ?_) fun _ last _ => ?_
  · rw [ended,← same,last]
  · rw [ended,← same,last]

theorem runs_dueReceipt (phase : journal.phase ≠ .completed) : Runs (stillWorld t) none h
      (createRootActionReceipt t journal.authorization journal.authorizationSHA journal.toSlot)
      (fun receipt next => next = h ∧ dueReceipt t h journal = some receipt) (fun next => next = h) := by
  refine runs_check (fun _ => rfl) fun _ => runs_require (fun _ => rfl) fun _ _ => runs_check (fun _ => rfl) fun _ => ?_
  refine runs_get (runs_check (fun _ => rfl) fun _ => runs_stillClock ?_)
  refine runs_require (fun _ => rfl) fun _ payable => runs_stillClock (runs_check (fun _ => rfl) fun _ => ?_)
  refine runs_pure ⟨rfl,?_⟩
  simp only [dueReceipt,if_neg phase,payable,map_some]

theorem runs_leadingJournal (leads : Leads t h { h with rollbackJournal := some other }) :
    Runs (stillWorld t) none h (writeRollbackJournal t other)
      (fun _ next => next = { h with rollbackJournal := some other }) (fun next => next = h) := by
  exact runs_check (fun _ => rfl) fun _ => runs_last_write leads never_rough rfl

section

variable (found : h.rollbackJournal = some journal)
include found

theorem reaches_completeRollback (phase : journal.phase = .switched) (current : h.current = some journal.toSlot.target)
    (floor : h.commandFloor = some ⟨journal.command,journal.authorizationSHA⟩) :
    Reaches t h (completeRollback t journal) := by
  refine runs_bind (runs_dueReceipt (by simp [phase])) ?_ fun _ same gone => journalled found (same ▸ gone)
  rintro receipt _ ⟨same,due⟩
  rw [same]
  have leads : Leads t h { h with rollbackJournal := some { journal with phase := .completed, receipt := some receipt } } := by
    refine fun _ => heads_congr found rfl rfl ?_ (fun _ => rfl) rfl rfl
    rw [due]
    simp only [dueReceipt,if_true]
  refine runs_bind (runs_leadingJournal leads) ?_ fun _ same gone => journalled found (same ▸ gone)
  rintro _ _ rfl
  exact reaches_from (leads rfl).ending (reaches_finishRollback rfl rfl current floor)

theorem leads_unsigned {phase : RollbackPhase}
    (kept : next.rollbackJournal = some { journal with phase := phase }) (before : journal.phase ≠ .completed)
    (after : phase ≠ .completed) (counter : next.counter = h.counter) (time : next.now = h.now)
    (root : ∀ receipt, recorded next.toRoot journal receipt = recorded h.toRoot journal receipt)
    (receipt : next.staging.receipt = h.staging.receipt) : Leads t h next := by
  refine fun _ => heads_congr found kept time ?_ root rfl receipt
  simp only [dueReceipt,if_neg before,if_neg after,loadRootActionCounter,counter,time]

theorem runs_leadingSlot (phase : journal.phase ≠ .completed) : Runs (stillWorld t) none h (ensureToSlot t journal)
      (fun _ next => next = { h with current := some journal.toSlot.target }) (fun next => next = h) := by
  refine runs_get (runs_require (fun _ => rfl) fun _ linked => runs_check (fun _ => rfl) fun _ => ?_)
  split_ifs with there
  · refine runs_pure ?_
    have present := (filter_eq_some_iff.mp linked).1
    rw [← there,← present]
  · refine runs_check (fun _ => rfl) fun _ => runs_last_write ?_ never_rough rfl
    exact leads_unsigned found found phase phase rfl rfl (fun _ => rfl) rfl

theorem reaches_checkRollback (phase : journal.phase = .switched)
    (floor : h.commandFloor = some ⟨journal.command,journal.authorizationSHA⟩) :
    Reaches t h (checkRollback t journal) := by
  have unsigned : journal.phase ≠ .completed := by simp [phase]
  refine runs_bind (runs_leadingSlot found unsigned) ?_ fun _ same gone => journalled found (same ▸ gone)
  rintro _ _ rfl
  have leads : Leads t h { h with current := some journal.toSlot.target } :=
    leads_unsigned found found unsigned unsigned rfl rfl (fun _ => rfl) rfl
  have same := (leads (by rw [found]; rfl)).ending
  have stays (state : Host) (_ : Bool) : Leads t state state := fun present => ⟨present,rfl,rfl,rfl⟩
  refine runs_assoc (runs_ask (stays _) fun _ well => ?_)
  rw [well rfl]
  refine runs_ask (stays _) fun _ well => ?_
  rw [well rfl]
  exact reaches_from same (reaches_completeRollback found phase rfl floor)

theorem reaches_switchRollback (phase : journal.phase = .prepared)
    (floor : h.commandFloor = some ⟨journal.command,journal.authorizationSHA⟩) :
    Reaches t h (switchRollback t journal) := by
  have unsigned : journal.phase ≠ .completed := by simp [phase]
  refine runs_bind (runs_leadingSlot found unsigned) ?_ fun _ same gone => journalled found (same ▸ gone)
  rintro _ _ rfl
  have away : RollbackPhase.switched ≠ .completed := by simp
  have leads (state : Host) (found : state.rollbackJournal = some journal) (counter : state.counter = h.counter)
      (time : state.now = h.now) (receipt : state.staging.receipt = h.staging.receipt)
      (root : ∀ receipt, recorded h.toRoot journal receipt = recorded state.toRoot journal receipt) :
      Leads t state { h with
        current := some journal.toSlot.target, rollbackJournal := some { journal with phase := .switched } } :=
    leads_unsigned found rfl unsigned away counter.symm time.symm root receipt.symm
  have marked := leads { h with current := some journal.toSlot.target } found rfl rfl rfl fun _ => rfl
  refine runs_bind (runs_leadingJournal marked) ?_ ?_
  · rintro _ _ rfl
    exact reaches_from (leads h found rfl rfl rfl (fun _ => rfl) rfl).ending (reaches_checkRollback rfl rfl floor)
  · rintro _ rfl gone
    exact journalled found gone

end

theorem floor_of_loaded {r : Root} {floor : CommandFloor} (loaded : loadRootCommandFloor r = some floor)
    (positive : 0 < floor.sequence) : r.commandFloor = some floor := by
  unfold loadRootCommandFloor at loaded
  cases present : r.commandFloor with
  | none =>
    rw [present] at loaded
    rw [← some.inj loaded] at positive
    exact absurd positive (by decide)
  | some =>
    simp only [present,ite_none_right_eq_some] at loaded
    exact loaded.2

section

variable (found : h.rollbackJournal = some journal) (signed : Signed t .rollback journal.authorization)
include found signed

theorem runs_leadingCommand (leads : ∀ digest, Leads t h (consumedBy h journal.authorization digest)) :
    Runs (stillWorld t) none h (ensureAuthorizationConsumed t journal.authorization journal.authorizationSHA)
      (fun _ next => next = consumedBy h journal.authorization journal.authorizationSHA)
      (fun next => next.rollbackJournal = some journal) := by
  have sequence := (valid_interval (signed_valid signed)).2
  simp only [positive,Bool.and_eq_true,decide_eq_true_eq] at sequence
  refine runs_get (runs_require (fun _ => found) fun _ loaded => ?_)
  dsimp only
  split_ifs with consumed
  · refine runs_last_check (fun _ => found) fun same => ?_
    simp only [Bool.and_eq_true,decide_eq_true_eq] at same
    have present := floor_of_loaded loaded (by omega)
    unfold consumedBy
    rw [← consumed,← same.1,← present]
  · refine runs_check (fun _ => found) fun _ => runs_stillClock ?_
    refine runs_assoc (runs_get (runs_assoc (runs_require (fun _ => found) fun _ _ => ?_)))
    refine runs_assoc (runs_check (fun _ => found) fun _ => runs_assoc (runs_require (fun _ => found) fun digest _ => ?_))
    refine runs_assoc (runs_write (leads digest) never_rough (runs_last_check (fun _ => found) fun same => ?_))
    simp only [decide_eq_true_eq] at same
    rw [same]

theorem reaches_continueRollback (there : journal.phase = .completed → h.current = some journal.toSlot.target) :
    Reaches t h (continueRollback t journal) := by
  have leads (digest : String) : Leads t h (consumedBy h journal.authorization digest) := by
    refine fun _ => heads_congr found found rfl ?_ (fun _ => rfl) rfl rfl
    rfl
  refine runs_bind (runs_leadingCommand found signed leads) ?_ fun _ kept gone => absurd (kept.symm.trans gone) (by simp)
  rintro _ _ rfl
  have same : ending t (consumedBy h journal.authorization journal.authorizationSHA) = ending t h := by
    refine (leads _ ?_).ending
    rw [found]
    rfl
  cases phase : journal.phase with
  | prepared => exact reaches_from same (reaches_switchRollback found phase rfl)
  | switched => exact reaches_from same (reaches_checkRollback found phase rfl)
  | completed => exact reaches_from same (reaches_finishRollback found phase (there phase) rfl)

end

/-- Nothing fails, the service is healthy, and the clock stands still. -/
structure Still (oracle : Oracle) : Prop where
  faults : oracle.faults = []
  answers : oracle.answers = []
  readings : oracle.readings = []

structure Valid (h : Host) (record : AuthorizationRecord) : Prop where
  clock : validUnixMillis (unixMilli h.now) = true
  unexpired : unixMilli h.now < record.authorization.expiresAtUnixMillis

variable {oracle : Oracle}

theorem permits_still (still : Still oracle) : Permits (stillWorld t) oracle := by
  refine ⟨fun _ => ⟨still.faults,still.answers⟩,fun reading read => ?_⟩
  rw [still.readings] at read
  cases read

theorem reaches (sound : Sound t h.now h.toRoot) (found : h.rollbackJournal = some journal) :
    Reaches t h (continueRollback t journal) := by
  have rolling := sound.rolling journal found
  exact reaches_continueRollback found rolling.requested.signed fun phase => (rolling.attested phase).1

theorem permits_calm (still : Still oracle) : Permits ((Setting.mk everything true (· = h.now)).world t) oracle := by
  refine ⟨fun _ => ⟨still.faults,still.answers⟩,fun reading read => ?_⟩
  rw [still.readings] at read
  cases read

section

variable (sound : Sound t h.now h.toRoot) (found : h.rollbackJournal = some journal) (still : Still oracle)
  (valid : Valid h journal.authorization)
include sound found still valid

theorem continueRollback_ends : ending t h = some (continueRollback t journal h oracle).state.toRoot := by
  obtain ⟨_,_,_,ends⟩ := reaches sound found oracle (permits_still still)
  obtain ⟨_,_,_,clears⟩ := runs_continueRollback sound found oracle (permits_calm still)
  cases result : (continueRollback t journal h oracle).result with
  | some =>
    rw [result] at ends
    exact ends
  | none =>
    rw [result] at ends clears
    refine ends (clears rfl ⟨?_,rfl⟩ fun _ => ?_).rollback
    · rintro _ rfl
      exact valid.clock
    · rintro _ rfl
      exact valid.unexpired

theorem continueRollback_again (count : Nat)
    (cut : next = lastState h ((continueRollback t journal h oracle).trace.take count))
    (left : next.rollbackJournal = some other) {again : Oracle} (still' : Still again) :
    (continueRollback t other next again).state.toRoot = (continueRollback t journal h oracle).state.toRoot := by
  have chain := chain_take (follows_none.mp (reaches sound found oracle (permits_still still)).1) count
  have steps := chain_take (follows_none.mp (runs_continueRollback sound found oracle (permits_calm (h := h) still)).1) count
  have kept : Sound t next.now next.toRoot := by
    rw [cut]
    exact chain_invariant (motive := fun h => Sound t h.now h.toRoot) (fun _ _ _ => sound_step) sound steps
  have heads : next.rollbackJournal.isSome → Heads t h next := by
    rw [cut]
    refine chain_invariant (motive := fun next => next.rollbackJournal.isSome → Heads t h next) ?_
      (fun present => ⟨present,rfl,rfl,rfl⟩) chain
    intro _ _ _ earlier leads present
    have last : Heads t _ _ := leads present
    have first := earlier last.present
    exact ⟨first.present,last.now.trans first.now,last.command.trans first.command,last.ending.trans first.ending⟩
  obtain ⟨_,now,command,same⟩ := heads (by rw [left]; rfl)
  rw [left,found] at command
  have command : other.authorization = journal.authorization := some.inj command
  have valid' : Valid next other.authorization := by
    rw [command]
    exact ⟨now ▸ valid.clock,now ▸ valid.unexpired⟩
  have ends := continueRollback_ends kept left still' valid'
  rw [same,continueRollback_ends sound found still valid] at ends
  exact (some.inj ends).symm

end

end P2pstream.UpdaterRollbackReplay
