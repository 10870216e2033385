import P2pstream.UpdaterCrashes
import P2pstream.UpdaterRollbackReplay

/-! A rollback that is cut off anywhere, and whose recovery is cut off again any number of
times. Without a journal the host still runs what it ran, or was rolled back with one
receipt on record.
-/
namespace P2pstream.UpdaterRollbackCrashes
open Library Library.Checks Library.Durable Kernel.SignedPayloads Option
open Kernel.AgentUpdates (SignedReceipt unixMilli)
open Kernel.Updater Semantics.Updater UpdaterRecords UpdaterInvariant
open UpdaterSteps UpdaterActivationSteps UpdaterRollbackSteps UpdaterRuns
open UpdaterRecovery UpdaterCrashes UpdaterRollbackReplay

variable {t : Trust} {h start : Host} {before r r' : Root} {request : AuthorizationRecord} {receipt : SignedReceipt}
  {signed : Option SignedReceipt}

structure Stays (before r : Root) : Prop where
  journal : r.rollbackJournal = none
  current : r.current = before.current
  metadata : r.metadata = before.metadata
  counter : r.counter = before.counter
  last : r.lastRollback = before.lastRollback

/-- The slot the rollback leads to is current, and its receipt is on record. -/
inductive RolledBack (t : Trust) (before : Root) (request : AuthorizationRecord) (receipt : SignedReceipt) (r : Root) :
    Prop where
  | intro (fromSlot toSlot) (described : before.metadata = some fromSlot)
      (leading : Leading before request.authorization fromSlot toSlot) (journal : r.rollbackJournal = none)
      (current : r.current = some toSlot.target) (metadata : r.metadata = some toSlot)
      (counter : r.counter = some (loadRootActionCounter before + 1)) (last : r.lastRollback = some ⟨request,receipt⟩)
      (attests : Attests t receipt request)
      (counted : receipt.value.rootActionCounter = loadRootActionCounter before + 1)

theorem RolledBack.not_stays (rolled : RolledBack t before request receipt r) : ¬ Stays before r := by
  intro stays
  obtain @⟨_,_,_,_,_,_,_,counter⟩ := rolled
  have counted : loadRootActionCounter before = loadRootActionCounter before + 1 := by
    conv_lhs => unfold loadRootActionCounter
    rw [← stays.counter,counter]
    rfl
  omega

def rollingBack (request : AuthorizationRecord) : Scope where
  activation := fun _ => False
  rollback := (· = request)
  unmoved := fun _ => False
  moved := False
  bootstrap := False
  pins := fun _ _ _ => False
  claims := False

structure Aside (before r : Root) : Prop where
  journal : r.journal = none
  previous : r.previous = before.previous

structure Aims (before : Root) (request : AuthorizationRecord) (journal : RollbackJournal) : Prop where
  authorization : journal.authorization = request
  current : before.current = some journal.fromSlot.target
  metadata : before.metadata = some journal.fromSlot
  leading : Leading before request.authorization journal.fromSlot journal.toSlot

/-- How far the rollback has come since `before`, and the receipt once it is on record. -/
inductive Turn (t : Trust) (before : Root) (request : AuthorizationRecord) (r : Root) : Option SignedReceipt → Prop where
  | stays (stays : Stays before r) : Turn t before request r none
  | rolling (journal) (found : r.rollbackJournal = some journal) (phase : journal.phase ≠ .completed)
      (aims : Aims before request journal) (counter : r.counter = before.counter)
      (last : r.lastRollback = before.lastRollback) : Turn t before request r none
  | completed {journal receipt} (completed : Completed r journal receipt) (aims : Aims before request journal)
      (counted : receipt.value.rootActionCounter = loadRootActionCounter before + 1) :
      Turn t before request r (some receipt)
  | rolledBack (receipt : SignedReceipt) (rolled : RolledBack t before request receipt r)
      (consumed : ¬ Unconsumed r request.authorization.commandSequence) : Turn t before request r (some receipt)

variable {journal : RollbackJournal}

section

variable (turn : Turn t before request r signed)
include turn

theorem Turn.unfinished (found : r.rollbackJournal = some journal) (phase : journal.phase ≠ .completed) :
    signed = none ∧ Aims before request journal ∧ r.counter = before.counter ∧ r.lastRollback = before.lastRollback := by
  cases turn with
  | stays stays => exact absent found stays.journal
  | rolling _ found' _ aims counter last =>
    cases found.symm.trans found'
    exact ⟨rfl,aims,counter,last⟩
  | completed completed =>
    cases found.symm.trans completed.found
    exact absurd completed.phase phase
  | rolledBack _ rolled =>
    obtain @⟨_,_,_,_,idle⟩ := rolled
    exact absent found idle

theorem Turn.finished (completed : Completed r journal receipt) :
    signed = some receipt ∧ Aims before request journal ∧
      receipt.value.rootActionCounter = loadRootActionCounter before + 1 := by
  cases turn with
  | stays stays => exact absent completed.found stays.journal
  | rolling _ found phase =>
    cases completed.found.symm.trans found
    exact absurd completed.phase phase
  | completed other aims counted =>
    cases completed.found.symm.trans other.found
    cases completed.attested.symm.trans other.attested
    exact ⟨rfl,aims,counted⟩
  | rolledBack _ rolled =>
    obtain @⟨_,_,_,_,idle⟩ := rolled
    exact absent completed.found idle

theorem Turn.settled (idle : r.rollbackJournal = none) :
    Xor (Stays before r) (∃ receipt, RolledBack t before request receipt r) := by
  cases turn with
  | stays stays => exact .inl ⟨stays,fun ⟨_,rolled⟩ => rolled.not_stays stays⟩
  | rolling _ found => exact absent found idle
  | completed completed => exact absent completed.found idle
  | rolledBack receipt rolled => exact .inr ⟨⟨receipt,rolled⟩,rolled.not_stays⟩

end

def Goes (t : Trust) (before : Root) (request : AuthorizationRecord) (signed : Option SignedReceipt) (r : Root) : Prop :=
  ∃ signed', Turn t before request r signed' ∧ ∀ receipt, signed = some receipt → signed' = some receipt

theorem Turn.goes (turn : Turn t before request r' signed) : Goes t before request signed r' :=
  ⟨signed,turn,fun _ same => same⟩

section

variable (turn : Turn t before request r signed)
include turn

theorem Turn.frame (slots : Table String Slot) : Goes t before request signed { r with slots := slots } := by
  apply Turn.goes
  cases turn with
  | stays stays => exact .stays { stays with }
  | rolling journal found phase aims counter last => exact .rolling journal found phase aims counter last
  | completed completed aims counted => exact .completed { completed with } aims counted
  | rolledBack receipt rolled consumed =>
    obtain ⟨fromSlot,toSlot,described,leading,journal,current,metadata,counter,last,attests,counted⟩ := rolled
    exact .rolledBack receipt ⟨fromSlot,toSlot,described,leading,journal,current,metadata,counter,last,attests,counted⟩
      consumed

theorem Turn.prepared (aside : Aside before r)
    (quiet : r.rollbackJournal = none) (phase : journal.phase = .prepared) (authorization : journal.authorization = request)
    (current : r.current = some journal.fromSlot.target) (metadata : r.metadata = some journal.fromSlot)
    (leading : Leading r journal.authorization.authorization journal.fromSlot journal.toSlot)
    (unconsumed : Unconsumed r journal.command) :
    Goes t before request signed { r with rollbackJournal := some journal } := by
  apply Turn.goes
  cases turn with
  | rolling _ found => exact absent found quiet
  | completed completed => exact absent completed.found quiet
  | rolledBack _ _ consumed => exact absurd (authorization ▸ unconsumed) consumed
  | stays stays =>
    refine .rolling journal rfl (by simp [phase]) ⟨authorization,?_,?_,?_⟩ stays.counter stays.last
    · exact stays.current.symm.trans current
    · exact stays.metadata.symm.trans metadata
    · rw [authorization] at leading
      unfold Leading at leading ⊢
      rw [← aside.previous]
      exact leading

theorem Turn.moved {next : RollbackJournal}
    (found : r.rollbackJournal = some journal) (phase : journal.phase ≠ .completed)
    (written : r'.rollbackJournal = some next) (phase' : next.phase ≠ .completed)
    (same : next = { journal with phase := next.phase }) (counter : r'.counter = r.counter)
    (last : r'.lastRollback = r.lastRollback) : Goes t before request signed r' := by
  apply Turn.goes
  obtain ⟨rfl,aims,counted,recorded⟩ := turn.unfinished found phase
  refine .rolling next written phase' ?_ (counter.trans counted) (last.trans recorded)
  rw [same]
  exact { aims with }

theorem Turn.recorded (completed : Completed r journal receipt) (kept : r'.rollbackJournal = r.rollbackJournal) :
    Goes t before request signed r' := by
  apply Turn.goes
  obtain ⟨rfl,aims,counted⟩ := turn.finished completed
  exact .completed ⟨kept.trans completed.found,completed.phase,completed.attested⟩ aims counted

end

theorem turn_root {now : Int} {event : HostEvent} (sound : Sound t now r) (aside : Aside before r)
    (turn : Turn t before request r signed) (step : RootStep t (rollingBack request) now r event r') :
    Aside before r' ∧ Goes t before request signed r' := by
  cases step with
  | prepare _ _ _ _ _ _ _ admitted => exact admitted.elim
  | consume _ found | switch _ found | markSwitched _ found | restore _ found | restoreMetadata _ found
  | forget _ found | abandon _ found | markHealthy _ _ found => exact absent found aside.journal
  | recordActivation healthy | countActivation healthy | persistFloor healthy | recordPrevious healthy
  | recordMetadata healthy | complete healthy => exact absent healthy.found aside.journal
  | install | prune => exact ⟨{ aside with },turn.frame _⟩
  | prepareRollback _ _ quiet phase _ _ admitted current metadata leading _ unconsumed =>
    refine ⟨{ aside with },turn.prepared aside quiet phase admitted current metadata leading unconsumed⟩
  | consumeRollback journal found unconsumed =>
    have prepared := (sound.rolling journal found).unconsumed unconsumed
    have unfinished : journal.phase ≠ .completed := by simp [prepared]
    exact ⟨{ aside with },turn.moved found unfinished found unfinished rfl rfl rfl⟩
  | switchRollback _ found phase =>
    exact ⟨{ aside with },turn.moved found phase found phase rfl rfl rfl⟩
  | markRollbackSwitched journal found phase =>
    have unfinished : journal.phase ≠ .completed := by simp [phase]
    have switched : RollbackPhase.switched ≠ .completed := by simp
    exact ⟨{ aside with },turn.moved found unfinished rfl switched rfl rfl rfl⟩
  | restoreRollback journal found phase =>
    have unfinished : journal.phase ≠ .completed := by simp [phase]
    exact ⟨{ aside with },turn.moved found unfinished found unfinished rfl rfl rfl⟩
  | forgetRollback journal found phase current =>
    have unfinished : journal.phase ≠ .completed := by simp [phase]
    obtain ⟨rfl,aims,counter,last⟩ := turn.unfinished found unfinished
    have metadata := ((sound.rolling journal found).uncounted unfinished).2
    refine ⟨{ aside with },Turn.goes (.stays ⟨rfl,?_,?_,counter,last⟩)⟩
    · exact current.trans aims.current.symm
    · exact metadata.trans aims.metadata.symm
  | markCompleted _ receipt found phase _ issued =>
    obtain ⟨rfl,aims,counter,_⟩ := turn.unfinished found (by simp [phase])
    have counters : loadRootActionCounter r = loadRootActionCounter before := by
      unfold loadRootActionCounter
      rw [counter]
    refine ⟨{ aside with },some receipt,?_,fun _ impossible => nomatch impossible⟩
    exact .completed ⟨rfl,rfl,rfl⟩ { aims with } (counters ▸ issued.next)
  | countRollback completed | recordResult completed | recordRollback completed =>
    exact ⟨{ aside with },turn.recorded completed rfl⟩
  | completeRollback completed counter metadata last =>
    refine ⟨{ aside with },Turn.goes ?_⟩
    obtain ⟨rfl,aims,counted⟩ := turn.finished completed
    have rolling := sound.rolling _ completed.found
    have current := (rolling.attested completed.phase).1
    obtain ⟨rfl,_,described,leading⟩ := aims
    refine .rolledBack _ ⟨_,_,described,leading,rfl,current,metadata,counted ▸ counter,last,
      (rolling.receipted completed).attests,counted⟩ ?_
    exact not_unconsumed (rolling.consumed (by simp [completed.phase]))
  | pinFloor _ _ _ _ _ admitted | pinMetadata _ _ _ _ admitted => exact admitted.elim

structure Turning (t : Trust) (start : Host) (request : AuthorizationRecord) (signed : Option SignedReceipt) (h : Host) :
    Prop where
  sound : Sound t h.now h.toRoot
  aside : Aside start.toRoot h.toRoot
  claim : ∀ other, h.rollbackClaim = some (some other) → other = request
  goes : Goes t start.toRoot request signed h.toRoot

theorem turning_step {event : HostEvent} {next : Host} (turning : Turning t start request signed h)
    (step : HostStep t (rollingBack request) h event next) : Turning t start request signed next := by
  have sound := sound_step turning.sound step
  have claim (claims : Claims (rollingBack request) h next) :
      ∀ other, next.rollbackClaim = some (some other) → other = request := by
    intro other claimed
    rcases claims.rollback with same | dropped | none
    · exact turning.claim other (same.symm.trans claimed)
    · exact absent claimed dropped
    · exact none.elim
  cases step with
  | quiet _ same claims => exact ⟨sound,same ▸ turning.aside,claim claims,same ▸ turning.goes⟩
  | root _ claims step =>
    obtain ⟨_,turn,kept⟩ := turning.goes
    obtain ⟨aside,last,turn',kept'⟩ := turn_root turning.sound turning.aside turn step
    exact ⟨sound,aside,claim claims,last,turn',fun receipt same => kept' receipt (kept receipt same)⟩

def Unhindered (h : Host) : Prop := h.rollbackJournal.isSome = true ∨ h.rollbackClaim.isSome = true ∨
    (h.staging.rollback = none ∧ h.activationClaim = none ∧ h.staging.ready = none)

theorem activator_rollsBack (idle : h.journal = none) (unhindered : Unhindered h) (oracle : Oracle) :
    runActivator t h oracle = runClaimedRollback t h oracle ∨
      (h.rollbackJournal = none ∧ runActivator t h oracle = ⟨[],h,oracle,some ()⟩) := by
  cases found : h.rollbackJournal with
  | some =>
    refine .inl ?_
    simp [runActivator,bind,Program.bind,Durable.get,found]
  | none =>
    cases claim : h.rollbackClaim with
    | some =>
      refine .inl ?_
      simp [runActivator,claimRollback,bind,Program.bind,pure,Program.pure,Durable.get,found,idle,claim]
    | none =>
      refine .inr ⟨rfl,?_⟩
      have empty : h.staging.rollback = none ∧ h.activationClaim = none ∧ h.staging.ready = none :=
        (unhindered.resolve_left (by simp [found])).resolve_left (by simp [claim])
      simp [runActivator,claimRollback,claimActivation,runClaimedCommand,bind,Program.bind,pure,Program.pure,Durable.get,
        found,idle,claim,empty]

section

variable (turning : Turning t start request signed h)
include turning

theorem runs_turn (calm : Bool) (admits : Int → Prop) :
    Runs ((Setting.mk (rollingBack request) calm admits).world t) none h (runClaimedRollback t) (fun _ next => Clear next)
      (fun next => calm → Timed ⟨rollingBack request,calm,admits⟩ h → Lasting ⟨rollingBack request,calm,admits⟩ h →
        Clear next) := by
  refine runs_runClaimedRollback turning.sound turning.aside.journal ?_
  intro other claimed
  rw [turning.claim other claimed]
  exact rfl

theorem turning_run (unhindered : Unhindered h) (oracle : Oracle)
    (cut : Option Nat) : Turning t start request signed (lastState h (effected cut (runActivator t h oracle).trace)) := by
  rcases activator_rollsBack turning.aside.journal unhindered oracle with same | ⟨_,same⟩
  · rw [same]
    have ran := runs_turn turning false (fun _ => True) oracle (permits_anyhow (rollingBack request) oracle)
    have chain := follows_none.mp (effected_follows ran.1 cut)
    exact chain_invariant (motive := Turning t start request signed) (fun _ _ _ => turning_step) turning chain
  · rw [same]
    cases cut with
    | none => exact turning
    | some =>
      rw [effected,List.take_nil]
      exact turning

theorem turning_meanwhile (staging : Staging) (time : Nat) :
    Turning t start request signed (meanwhile h staging time) :=
  { turning with sound := turning.sound.later (Int.le_add_of_nonneg_right (Int.natCast_nonneg time)) }

theorem turning_interrupted {shown : List HostEvent} {next : Host}
    (interrupted : Interrupted t Unhindered h shown next) : Turning t start request signed next := by
  induction interrupted with
  | begun => exact turning
  | elapsed _ staging time turning => exact turning_meanwhile turning staging time
  | cut _ unhindered oracle cut turning => exact turning_run turning unhindered oracle cut

end

structure Decided (t : Trust) (before : Root) (request : AuthorizationRecord) (r : Root) : Prop where
  journal : r.rollbackJournal = none
  outcome : Xor (Stays before r) (∃ receipt, RolledBack t before request receipt r)
  available : ∀ target, r.current = some target → slotAvailable r target = true

def Persisted (t : Trust) (before : Root) (request : AuthorizationRecord) (receipt : SignedReceipt) (r : Root) : Prop :=
  (∃ journal, r.rollbackJournal = some journal ∧ journal.phase = .completed ∧ journal.receipt = some receipt) ∨
    RolledBack t before request receipt r

theorem Turn.of_persisted (turn : Turn t before request r signed) (persisted : Persisted t before request receipt r) :
    signed = some receipt := by
  rcases persisted with ⟨_,found,phase,attested⟩ | rolled
  · exact (turn.finished ⟨found,phase,attested⟩).1
  · have ended := rolled
    obtain @⟨_,_,_,_,idle,_,_,_,last⟩ := ended
    cases turn with
    | stays stays => exact absurd stays rolled.not_stays
    | rolling _ found => exact absent found idle
    | completed completed => exact absent completed.found idle
    | rolledBack _ rolled' =>
      obtain @⟨_,_,_,_,_,_,_,_,last'⟩ := rolled'
      exact congrArg (some ∘ RollbackRecord.receipt) (some.inj (last'.symm.trans last))

theorem Turn.persisted (turn : Turn t before request r (some receipt)) : Persisted t before request receipt r := by
  cases turn with
  | completed completed => exact .inl ⟨_,completed.found,completed.phase,completed.attested⟩
  | rolledBack _ rolled => exact .inr rolled

def ValidThroughout (h : Host) (oracle : Oracle) (request : AuthorizationRecord) : Prop :=
  ∀ now ∈ readings h oracle, validUnixMillis (unixMilli now) = true ∧ unixMilli now < request.authorization.expiresAtUnixMillis

section

variable (turning : Turning t start request signed h)
include turning

theorem Turning.decided (idle : h.rollbackJournal = none) : Decided t start.toRoot request h.toRoot := by
  obtain ⟨_,turn,_⟩ := turning.goes
  exact ⟨idle,turn.settled idle,turning.sound.slots.current⟩

theorem Turning.aims {journal : RollbackJournal}
    (found : h.rollbackJournal = some journal) : Aims start.toRoot request journal := by
  obtain ⟨_,turn,_⟩ := turning.goes
  cases phase : journal.phase with
  | completed =>
    obtain ⟨_,_,attested,_⟩ := (turning.sound.rolling journal found).attested phase
    exact (turn.finished ⟨found,phase,attested⟩).2.1
  | prepared | switched => exact (turn.unfinished found (by simp [phase])).2.1

theorem calm_turn {oracle : Oracle} (unhindered : Unhindered h)
    (calm : Calm oracle) (valid : ValidThroughout h oracle request) :
    Decided t start.toRoot request (runActivator t h oracle).state.toRoot := by
  have next := turning_run turning unhindered oracle none
  rcases activator_rollsBack turning.aside.journal unhindered oracle with same | ⟨idle,same⟩
  · obtain ⟨_,last,_,ends⟩ := runs_turn turning true (· ∈ readings h oracle) oracle (permits_calmly (rollingBack request) calm)
    have timed : Timed ⟨rollingBack request,true,(· ∈ readings h oracle)⟩ h :=
      ⟨fun now read => (valid now read).1,List.mem_cons_self⟩
    have lasting : Lasting ⟨rollingBack request,true,(· ∈ readings h oracle)⟩ h := by
      refine ⟨fun journal found _ now read => ?_,fun other _ claimed => .inl fun now read => ?_⟩
      · rw [(turning.aims found).authorization]
        exact (valid now read).2
      · rw [turning.claim other claimed]
        exact (valid now read).2
    have clear : Clear (runClaimedRollback t h oracle).state := by
      cases result : (runClaimedRollback t h oracle).result with
      | some =>
        rw [result] at ends
        exact ends
      | none =>
        rw [result] at ends
        exact ends rfl timed lasting
    rw [same] at next ⊢
    rw [effected,← last] at next
    exact next.decided clear.rollback
  · rw [same]
    exact turning.decided idle

end

/-- Wherever a rollback and its recoveries are cut off, the current slot is there; without
a journal the host stayed what it was or was rolled back, never both; a receipt on
record is never replaced; a calm run while the command is valid gets there; and a
run of `continueRollback` taken up after any of its steps ends as it would have ended. -/
theorem rollback_stays_or_rolls_back {shown : List HostEvent} (reachable : Reachable t start) (clear : Clear start)
    (claimed : start.rollbackClaim = some (some request)) (interrupted : Interrupted t Unhindered start shown h) :
    (∀ target, h.current = some target → slotAvailable h.toRoot target = true) ∧
      (h.rollbackJournal = none → Decided t start.toRoot request h.toRoot) ∧
      (∀ receipt later next, Persisted t start.toRoot request receipt h.toRoot → Interrupted t Unhindered h later next →
        Persisted t start.toRoot request receipt next.toRoot) ∧
      (Unhindered h → ∀ oracle, Calm oracle → ValidThroughout h oracle request →
        Decided t start.toRoot request (runActivator t h oracle).state.toRoot) ∧
      (∀ journal, h.rollbackJournal = some journal → Valid h request → ∀ oracle, Still oracle → ∀ count next other again,
        next = lastState h ((continueRollback t journal h oracle).trace.take count) → next.rollbackJournal = some other →
        Still again →
        (continueRollback t other next again).state.toRoot = (continueRollback t journal h oracle).state.toRoot) := by
  have begun : Turning t start request none start := by
    refine ⟨reachable_sound reachable,⟨clear.journal,rfl⟩,fun other same => ?_,Turn.goes ?_⟩
    · exact some.inj (some.inj (same.symm.trans claimed))
    · exact .stays ⟨clear.rollback,rfl,rfl,rfl,rfl⟩
  have turning := turning_interrupted begun interrupted
  refine ⟨turning.sound.slots.current,turning.decided,?_,fun unhindered _ => calm_turn turning unhindered,?_⟩
  · intro receipt _ _ persisted further
    obtain ⟨_,turn,_⟩ := turning.goes
    obtain rfl := turn.of_persisted persisted
    have onRecord : Turning t start request (some receipt) h := { turning with goes := turn.goes }
    obtain ⟨_,turn',kept⟩ := (turning_interrupted onRecord further).goes
    obtain rfl := kept receipt rfl
    exact turn'.persisted
  · intro _ found valid _ still count _ _ _ cut left still'
    rw [← (turning.aims found).authorization] at valid
    exact continueRollback_again turning.sound found still valid count cut left still'

def labRequested : Host :=
  after labTrust labHost [labBootstrap "v1.0.0",labStage 1,.activator {} none,labRequestRollback 2,.activator {} (some 1)]

def labReturned : Host := lastState labRequested (effected (some 6) (runActivator labTrust labRequested {}).trace)

theorem rollback_stays_or_rolls_back_switched :
    labReturned.rollbackJournal.isSome = true ∧ labReturned.current = labHost.current ∧
      Decided labTrust labRequested.toRoot (labRecord 2 .rollback) (runActivator labTrust labReturned {}).state.toRoot := by
  have start : labRequested.journal.isNone ∧ labRequested.rollbackJournal.isNone ∧
      labRequested.rollbackClaim = some (some (labRecord 2 .rollback)) := by decide +kernel
  have cut : labReturned.rollbackJournal.isSome ∧ labReturned.current = labHost.current ∧
      labReturned.now = 1200000000 := by decide +kernel
  obtain ⟨journal,rollback,claim⟩ := start
  simp only [isNone_iff_eq_none] at journal rollback
  have unhindered : Unhindered labRequested := .inr (.inl (by rw [claim]; rfl))
  have interrupted : Interrupted labTrust Unhindered labRequested _ labReturned := .cut .begun unhindered {} (some 6)
  have reachable : Reachable labTrust labRequested := lab_reachable _
  have valid : ValidThroughout labReturned {} (labRecord 2 .rollback) := by
    intro _ read
    rcases List.mem_cons.mp read with same | impossible
    · rw [same,cut.2.2]
      decide
    · cases impossible
  refine ⟨cut.1,cut.2.1,?_⟩
  exact (rollback_stays_or_rolls_back reachable ⟨journal,rollback⟩ claim interrupted).2.2.2.1 (.inl cut.1) {} ⟨rfl,rfl⟩ valid

end P2pstream.UpdaterRollbackCrashes
