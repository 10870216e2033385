import P2pstream.UpdaterRuns

/-! The release floor: every floor the updater writes can be read back and lies above
the earlier ones, as long as bootstrap raises the version of a floor without a release
only, and not past a healthy activation that is still to be persisted.
-/
namespace P2pstream.UpdaterFloor
open Library.Durable Library.Transitions List Option Bool Prod
open Kernel.AgentUpdates (RootActionReceipt)
open Kernel.SignedPayloads Kernel.Updater Semantics.Updater UpdaterRecords
open UpdaterSteps UpdaterInvariant UpdaterRuns

variable {t : Trust} {now : Int} {r r' : Root} {h : Host}

theorem versionLE_trans {a b c : String} (first : VersionLE t a b) (second : VersionLE t b c) : VersionLE t a c := by
  rcases first with rfl | rfl | ⟨nonempty,above⟩
  · exact second
  · exact .inr (.inl rfl)
  · rcases second with rfl | rfl | ⟨highest,higher⟩
    · exact .inr (.inr ⟨nonempty,above⟩)
    · exact absurd rfl nonempty
    · exact .inr (.inr ⟨highest,t.semverCompare_trans _ _ _ higher above⟩)

theorem floorLE_refl (floor : Floor) : FloorLE t floor floor := ⟨le_refl _,le_refl _,.inl rfl,.inl rfl⟩

theorem floorLE_trans {a b c : Floor} (first : FloorLE t a b) (second : FloorLE t b c) : FloorLE t a c :=
  ⟨first.sequence.trans second.sequence,first.securityEpoch.trans second.securityEpoch,
    versionLE_trans first.minimumSafeVersion second.minimumSafeVersion,versionLE_trans first.version second.version⟩

variable {floor : Floor} {past : List HostEvent}

theorem loadFloor_readable (loaded : loadFloor t r = some floor) : readableFloor t floor := by
  unfold loadFloor at loaded
  cases found : r.floor with
  | none =>
    rw [found] at loaded
    cases loaded
    simp [readableFloor]
  | some =>
    simp only [found,ite_none_right_eq_some,some.injEq] at loaded
    obtain ⟨readable,rfl⟩ := loaded
    exact readable

theorem loadFloor_written (readable : readableFloor t floor) :
    loadFloor t { r with floor := some floor } = some floor := by
  simp [loadFloor,readable]

variable {journal : ActivationJournal} {version : String} {advance : Bool} {event : HostEvent}
  {trace : List (HostEvent × Host)}

theorem journalFloor_readable (written : Written t journal) : readableFloor t (journalFloor journal) := by
  have valid := signed_valid written.signed
  simp only [validateAssignmentAuthorization,positive,and_eq_true,decide_eq_true_eq,written.sequence,
    written.securityEpoch] at valid
  have manifest : hexDigestPattern journal.authorization.authorization.manifestSHA256 := by tauto
  have nonempty : journal.authorization.authorization.manifestSHA256 ≠ "" := by
    intro empty
    rw [empty] at manifest
    exact absurd manifest (by decide)
  have minimum : validRelease t journal.minimumSafeVersion := (and_eq_true .. ▸ written.minimum).1
  have version := version_ne written.valid
  have sequence : journal.sequence ≠ 0 := by omega
  have epoch : journal.securityEpoch ≠ 0 := by omega
  simp [readableFloor,journalFloor,written.valid,minimum,manifest,nonempty,version,sequence,epoch]

/-- A bootstrap that raises the version does so before any release was activated, and
not past a healthy activation. -/
def Pinnable (t : Trust) (r : Root) (version : String) (advance : Bool) : Prop :=
  ∀ floor, loadFloor t r = some floor → advance = true → floor.version = "" ∨ 0 < t.semverCompare version floor.version →
    (floor.sequence = 0 ∧ floor.securityEpoch = 0) ∧
      ∀ journal, r.journal = some journal → journal.phase = .healthy → VersionLE t version journal.version

theorem pinnedFloor_cases (pinnable : Pinnable t r version advance)
    (loaded : loadFloor t r = some floor) (valid : validRelease t version) :
    readableFloor t (pinnedFloor t floor version advance) ∧ FloorLE t floor (pinnedFloor t floor version advance) ∧
      ∀ journal, r.journal = some journal → journal.phase = .healthy → FloorLE t floor (journalFloor journal) →
        FloorLE t (pinnedFloor t floor version advance) (journalFloor journal) := by
  have readable := loadFloor_readable loaded
  unfold pinnedFloor
  split_ifs with raised
  · simp only [and_eq_true,or_eq_true,decide_eq_true_eq] at raised
    obtain ⟨⟨sequence,epoch⟩,pending⟩ := pinnable floor loaded raised.1 raised.2
    refine ⟨?_,⟨le_refl _,le_refl _,.inl rfl,?_⟩,fun journal found phase below => ?_⟩
    · simp only [readableFloor,and_eq_true] at readable
      simp [readableFloor,valid,sequence,epoch,readable.1.1.2]
    · rcases raised.2 with empty | above
      · exact .inr (.inl empty)
      · exact .inr (.inr ⟨version_ne valid,above.le⟩)
    · exact { below with version := pending journal found phase }
  · exact ⟨readable,floorLE_refl floor,fun _ _ _ below => below⟩

def floorsOf (events : List HostEvent) : List Floor := events.filterMap fun
    | .persistedFloor floor => some floor
    | _ => none

/-- The floors written so far are readable, in order, and below the present one, which
lies below any healthy activation. -/
structure Ledger (t : Trust) (past : List HostEvent) (r : Root) : Prop where
  readable : ∀ floor ∈ floorsOf past, readableFloor t floor = true
  ordered : (floorsOf past).Pairwise (FloorLE t)
  present : ∃ floor, loadFloor t r = some floor ∧ (∀ earlier ∈ floorsOf past, FloorLE t earlier floor) ∧
    ∀ journal, r.journal = some journal → journal.phase = .healthy → FloorLE t floor (journalFloor journal)

theorem Ledger.frame (ledger : Ledger t past r) (silent : floorsOf [event] = []) (floor : r'.floor = r.floor)
    (journal : ∀ journal, r'.journal = some journal → journal.phase = .healthy → r.journal = some journal ∨
      ∃ floor, loadFloor t r = some floor ∧ FloorLE t floor (journalFloor journal)) :
    Ledger t (past ++ [event]) r' := by
  have floors : floorsOf (past ++ [event]) = floorsOf past := by
    unfold floorsOf at silent ⊢
    rw [filterMap_append,silent,append_nil]
  obtain ⟨present,loaded,above,pending⟩ := ledger.present
  have loads : loadFloor t r' = loadFloor t r := by
    unfold loadFloor
    rw [floor]
  refine ⟨floors ▸ ledger.readable,floors ▸ ledger.ordered,present,loads.trans loaded,floors ▸ above,?_⟩
  intro other found phase
  rcases journal other found phase with same | ⟨_,loaded',below⟩
  · exact pending other same phase
  · rw [some.inj (loaded.symm.trans loaded')]
    exact below

theorem Ledger.write {next : Floor} (ledger : Ledger t past r) (loaded : loadFloor t r = some floor)
    (readable : readableFloor t next) (above : FloorLE t floor next)
    (pending : ∀ journal, r.journal = some journal → journal.phase = .healthy → FloorLE t next (journalFloor journal)) :
    Ledger t (past ++ [.persistedFloor next]) { r with floor := some next } := by
  have floors : floorsOf (past ++ [.persistedFloor next]) = floorsOf past ++ [next] := by
    unfold floorsOf
    rw [filterMap_append]
    rfl
  obtain ⟨_,loaded',below,_⟩ := ledger.present
  cases loaded.symm.trans loaded'
  have under : ∀ earlier ∈ floorsOf past, FloorLE t earlier next := fun earlier mem => floorLE_trans (below earlier mem) above
  refine ⟨?_,?_,next,loadFloor_written readable,?_,pending⟩
  · rw [floors]
    intro each mem
    rcases mem_append.mp mem with mem | mem
    · exact ledger.readable each mem
    · rw [mem_singleton.mp mem]
      exact readable
  · rw [floors]
    refine pairwise_append.mpr ⟨ledger.ordered,pairwise_singleton _ _,?_⟩
    intro earlier mem _ single
    rw [mem_singleton.mp single]
    exact under earlier mem
  · rw [floors]
    intro earlier mem
    rcases mem_append.mp mem with mem | mem
    · exact under earlier mem
    · rw [mem_singleton.mp mem]
      exact floorLE_refl next

def orderly (t : Trust) : Scope := { everything with pins := Pinnable t }

theorem ledger_root (sound : Sound t now r) (ledger : Ledger t past r)
    (step : RootStep t (orderly t) now r event r') : Ledger t (past ++ [event]) r' := by
  cases step with
  | prepare _ _ _ _ phase =>
    refine ledger.frame rfl rfl fun other found healthy => ?_
    cases found
    exact absurd (phase.symm.trans healthy) (by decide)
  | markSwitched =>
    refine ledger.frame rfl rfl fun other same healthy => ?_
    cases same
    cases healthy
  | markHealthy _ _ _ _ _ _ _ _ advances =>
    refine ledger.frame rfl rfl fun other same _ => ?_
    cases same
    exact .inr advances
  | forget | abandon | complete => exact ledger.frame rfl rfl fun _ impossible => nomatch impossible
  | @persistFloor journal _ healthy =>
    have pending := sound.pending journal healthy.found
    obtain ⟨_,_,manifest⟩ := pending.receipted healthy
    obtain ⟨_,loaded,_,below⟩ := ledger.present
    rw [show activatedFloor journal _ = journalFloor journal by simp [activatedFloor,journalFloor,manifest]]
    refine ledger.write loaded (journalFloor_readable pending.written) (below journal healthy.found healthy.phase) ?_
    intro _ same _
    cases healthy.found.symm.trans same
    exact floorLE_refl _
  | pinFloor _ _ _ loaded valid _ pins =>
    obtain ⟨_,loaded',_,below⟩ := ledger.present
    cases loaded.symm.trans loaded'
    obtain ⟨readable,above,pending⟩ := pinnedFloor_cases pins loaded valid
    exact ledger.write loaded readable above fun journal found phase =>
      pending journal found phase (below journal found phase)
  | _ => exact ledger.frame rfl rfl fun _ found _ => .inl found

theorem ledger_chain {past : List (HostEvent × Host)} (sound : Sound t h.now h.toRoot)
    (ledger : Ledger t (past.map fst) h.toRoot) (chain : Chain (HostStep t (orderly t)) h trace) :
    Sound t (lastState h trace).now (lastState h trace).toRoot ∧
      Ledger t ((past ++ trace).map fst) (lastState h trace).toRoot := by
  refine chain_history (motive := fun past h => Sound t h.now h.toRoot ∧ Ledger t (past.map fst) h.toRoot) ?_
    ⟨sound,ledger⟩ chain
  rintro past _ event _ ⟨sound,ledger⟩ step
  refine ⟨sound_step sound step,?_⟩
  rw [map_append]
  cases step with
  | quiet _ same _ quiet =>
    have silent : floorsOf [event] = [] := by cases quiet <;> rfl
    rw [same]
    exact ledger.frame silent rfl fun _ found _ => .inl found
  | root _ _ step => exact ledger_root sound ledger step

theorem widens_orderly {scope : Scope} (pins : scope.pins = Pinnable t) : Widens scope (orderly t) := by
  refine ⟨fun _ _ => trivial,fun _ _ => trivial,fun _ _ => trivial,fun _ => trivial,fun _ => trivial,?_,fun _ => trivial⟩
  rw [pins]
  exact fun _ _ _ => id

theorem activator_orderly (sound : Sound t h.now h.toRoot) (oracle : Oracle) (cut : Option Nat) :
    Chain (HostStep t (orderly t)) h (effected cut (runActivator t h oracle).trace) := by
  have unrestricted : Unrestricted (anyhow { starting h.toRoot with pins := Pinnable t }) h.toRoot :=
    ⟨fun _ => trivial,fun _ => trivial,fun _ unconsumed => unconsumed,trivial⟩
  have follows := effected_follows (runs_runActivator sound unrestricted oracle (permits_anyhow _ oracle)).1 cut
  refine follows.chain (hostStep_mono (widens_orderly rfl)) ?_ ?_
  · rintro _ ⟨⟩
    exact hostStep_mono (widens_orderly rfl)
  · rintro _ ⟨⟩ turn
    exact hostStep_mono (widens_orderly rfl)

/-- The condition on an input: a bootstrap that raises the version finds a floor without
a release and no healthy activation of a lower version. -/
def PinsInOrder (t : Trust) (h : Host) : Input → Prop
  | .bootstrap options _ _ => Pinnable t h.toRoot (bootstrapVersionFloor options) !options.reenroll
  | _ => True

theorem ledger_step {past : List (HostEvent × Host)} {input : Input} {next : Host}
    (sound : Sound t h.now h.toRoot) (ledger : Ledger t (past.map fst) h.toRoot)
    (pins : PinsInOrder t h input) (taken : step t h input = some (next,trace)) :
    Sound t next.now next.toRoot ∧ Ledger t ((past ++ trace).map fst) next.toRoot := by
  cases input with
  | worker =>
    cases taken
    rw [append_nil]
    exact ⟨sound,ledger⟩
  | elapse time =>
    cases taken
    rw [append_nil]
    exact ⟨sound.later (Int.le_add_of_nonneg_right (Int.natCast_nonneg time)),ledger⟩
  | activator oracle cut =>
    cases taken
    exact ledger_chain sound ledger (activator_orderly sound oracle cut)
  | bootstrap _ oracle cut =>
    cases taken
    have ran := runs_bootstrapHost (t := t) (s := anyhow (orderly t)) trivial pins oracle (permits_anyhow _ oracle)
    exact ledger_chain sound ledger (follows_none.mp (effected_follows ran.1 cut))

/-- In every run in which bootstrap pins in order, every floor that is persisted can be
read back and none lies below an earlier one. -/
theorem floors_readable_and_monotone {now : Int} {current : String} {slot : Slot} {inputs : List Input} {final : Host}
    {events : List (HostEvent × Host)} (whole : slot.executable.isSome = true)
    (ordered : Meets (step t) (PinsInOrder t) (fresh now current slot) inputs)
    (ran : run (step t) (fresh now current slot) inputs = some (final,events)) :
    (∀ floor ∈ floorsOf (events.map fst), readableFloor t floor = true) ∧
      (floorsOf (events.map fst)).Pairwise (FloorLE t) := by
  have empty : Ledger t (([] : List (HostEvent × Host)).map fst) (fresh now current slot).toRoot := by
    refine ⟨?_,.nil,{},rfl,?_,?_⟩
    · exact fun _ mem => nomatch mem
    · exact fun _ mem => nomatch mem
    · exact fun _ impossible => nomatch impossible
  obtain ⟨_,ledger⟩ := run_history (motive := fun past h => Sound t h.now h.toRoot ∧ Ledger t (past.map fst) h.toRoot)
    (fun _ _ _ _ _ holds pins taken => ledger_step holds.1 holds.2 pins taken) ⟨sound_fresh whole,empty⟩ ordered ran
  exact ⟨ledger.readable,ledger.ordered⟩

def pinnable (t : Trust) (r : Root) (version : String) (advance : Bool) : Bool := match loadFloor t r with
  | none => true
  | some floor =>
    !(advance && (floor.version = "" || decide (0 < t.semverCompare version floor.version))) ||
      (floor.sequence = 0 && floor.securityEpoch = 0 && r.journal.isNone)

theorem pinnable_sound (checked : pinnable t r version advance) : Pinnable t r version advance := by
  intro _ loaded advances raised
  simp only [pinnable,loaded,advances,Bool.true_and,or_eq_true,not_eq_true',and_eq_true,
    or_eq_false_iff,decide_eq_false_iff_not,decide_eq_true_eq,isNone_iff_eq_none] at checked
  rcases checked with ⟨named,low⟩ | ⟨⟨sequence,epoch⟩,idle⟩
  · exact absurd raised (not_or.mpr ⟨named,low⟩)
  · refine ⟨⟨sequence,epoch⟩,fun journal found _ => ?_⟩
    cases found.symm.trans idle

def pinsInOrder (t : Trust) (h : Host) : Input → Bool
  | .bootstrap options _ _ => pinnable t h.toRoot (bootstrapVersionFloor options) !options.reenroll
  | _ => true

theorem pinsInOrder_sound (h : Host) (input : Input) (checked : pinsInOrder t h input) : PinsInOrder t h input := by
  cases input with
  | bootstrap => exact pinnable_sound checked
  | _ => trivial

/-- Bootstrap twice, then activate: three floors, in order. -/
theorem floors_readable_and_monotone_bootstrapped : ∃ final events, run (step labTrust) labHost
        [labBootstrap "v1.0.0",labBootstrap "v1.0.1",labStage 1,.activator {} none] = some (final,events) ∧
      (floorsOf (events.map fst)).map Floor.version = ["v1.0.0","v1.0.1","v1.1.0"] ∧
      (floorsOf (events.map fst)).Pairwise (FloorLE labTrust) := by
  have checked : checks (step labTrust) (pinsInOrder labTrust) labHost
      [labBootstrap "v1.0.0",labBootstrap "v1.0.1",labStage 1,.activator {} none] := by decide +kernel
  have versions : ((run (step labTrust) labHost
      [labBootstrap "v1.0.0",labBootstrap "v1.0.1",labStage 1,.activator {} none]).map fun ran =>
        (floorsOf (ran.2.map fst)).map Floor.version) = some ["v1.0.0","v1.0.1","v1.1.0"] := by decide +kernel
  obtain ⟨events,ran⟩ := run_after labHost
    [labBootstrap "v1.0.0",labBootstrap "v1.0.1",labStage 1,.activator {} none]
  rw [ran] at versions
  exact ⟨_,events,ran,some.inj versions,(floors_readable_and_monotone rfl (meets_of_checks pinsInOrder_sound checked) ran).2⟩

/-- A newer bootstrap after an activation drops the manifest pin and keeps the sequence. -/
theorem newer_bootstrap_unreadable : ¬ ∀ (t : Trust) (now : Int) (current : String) (slot : Slot) (inputs : List Input)
    (final : Host) (events : List (HostEvent × Host)), slot.executable.isSome = true →
      run (step t) (fresh now current slot) inputs = some (final,events) →
      (∀ floor ∈ floorsOf (events.map fst), readableFloor t floor = true) ∧
        (floorsOf (events.map fst)).Pairwise (FloorLE t) := by
  intro claim
  have unreadable : ((run (step labTrust) labHost
      [labBootstrap "v1.0.0",labStage 1,.activator {} none,labBootstrap "v1.2.0"]).map fun ran =>
        (floorsOf (ran.2.map fst)).all (readableFloor labTrust)) = some false := by decide +kernel
  obtain ⟨events,ran⟩ := run_after labHost
    [labBootstrap "v1.0.0",labStage 1,.activator {} none,labBootstrap "v1.2.0"]
  rw [ran] at unreadable
  have readable := all_eq_true.mpr (claim labTrust _ _ labSlot _ _ events rfl ran).1
  exact absurd (readable.symm.trans (some.inj unreadable)) (by simp)

end P2pstream.UpdaterFloor
