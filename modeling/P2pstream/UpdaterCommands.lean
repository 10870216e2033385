import P2pstream.UpdaterDeliveries

/-! Signed commands over the whole life of a host. The floor of commands and the counter
only rise, the counter counts the commands carried out, and a command switches
forward once, unless a rollback went back in between.
-/
namespace P2pstream.UpdaterCommands
open Library.Checks Library.Durable Library.Transitions List Option
open Kernel.AgentUpdates (SignedReceipt)
open Kernel.Updater Semantics.Updater UpdaterInvariant
open UpdaterSteps UpdaterActivationSteps UpdaterRuns UpdaterDeliveries

variable {t : Trust} {scope : Scope} {now sequence : Int} {r r' : Root} {h next : Host} {event : HostEvent}
  {past : List (HostEvent × Host)}

def floorSequence (r : Root) : Int := ((loadRootCommandFloor r).map CommandFloor.sequence).getD 0

def NotBelow (low high : Root) : Prop :=
  floorSequence low ≤ floorSequence high ∧ loadRootActionCounter low ≤ loadRootActionCounter high

def countedSequence (entry : HostEvent × Host) : Option Int := match entry.1 with
  | .counted sequence _ => some sequence
  | _ => none

def executed (past : List (HostEvent × Host)) : Finset Int := (past.filterMap countedSequence).toFinset

def movedFor (sequence : Int) (entry : HostEvent × Host) : Option Bool := match entry.1 with
  | .switched command forward _ => if command = sequence then some forward else none
  | _ => none

def moves (sequence : Int) (past : List (HostEvent × Host)) : List Bool := past.filterMap (movedFor sequence)

def Activates (sequence : Int) (past : List (HostEvent × Host)) : Prop :=
  ∃ entry ∈ past, movedFor sequence entry = some true ∧ entry.2.journal.isSome = true

def Alternates (moves : List Bool) : Prop := moves.IsChain fun earlier later => earlier = false ∨ later = false

inductive Calmed : HostEvent → Prop where
  | tick : Calmed .tick
  | asked (answer) : Calmed (.asked answer)
  | consumed (sequence : Int) : Calmed (.consumed sequence)
  | back (sequence target) : Calmed (.switched sequence false target)
  | persistedFloor (floor) : Calmed (.persistedFloor floor)
  | refused (sequence : Int) : Calmed (.refused sequence)
  | wrote : Calmed .wrote

theorem executed_uncounted (uncounted : countedSequence (event,next) = none) :
    executed (past ++ [(event,next)]) = executed past := by
  unfold executed
  rw [filterMap_append,filterMap_cons_none uncounted,filterMap_nil,append_nil]

theorem executed_calm (calm : Calmed event) : executed (past ++ [(event,next)]) = executed past :=
  executed_uncounted (by cases calm <;> rfl)

theorem executed_counted {counter : Int} :
    executed (past ++ [(.counted sequence counter,next)]) = insert sequence (executed past) := by
  have counted : countedSequence (.counted sequence counter,next) = some sequence := rfl
  unfold executed
  rw [filterMap_append,filterMap_cons_some counted]
  ext other
  simp

theorem moves_append : moves sequence (past ++ [(event,next)]) =
    moves sequence past ++ (movedFor sequence (event,next)).toList := by
  unfold moves
  rw [filterMap_append]
  cases moved : movedFor sequence (event,next) with
  | none => rw [filterMap_cons_none moved,filterMap_nil,toList_none]
  | some => rw [filterMap_cons_some moved,filterMap_nil,toList_some]

theorem moved_calm (sequence : Int) (next : Host) (calm : Calmed event) :
    movedFor sequence (event,next) = none ∨ movedFor sequence (event,next) = some false := by
  cases calm with
  | back =>
    simp only [movedFor]
    split_ifs
    · exact .inr rfl
    · exact .inl rfl
  | _ => exact .inl rfl

structure Tally (past : List (HostEvent × Host)) (r : Root) (sequence : Int) (finished : Prop)
    (receipt : Option SignedReceipt) : Prop where
  uncounted : ¬ finished → sequence ∉ executed past
  counted : finished → ∀ signed, receipt = some signed →
    (signed.value.rootActionCounter = loadRootActionCounter r ↔ sequence ∈ executed past)

theorem Tally.kept {past' : List (HostEvent × Host)} {finished : Prop} {receipt : Option SignedReceipt}
    (tally : Tally past r sequence finished receipt) (executes : executed past' = executed past)
    (counter : loadRootActionCounter r' = loadRootActionCounter r) : Tally past' r' sequence finished receipt := by
  constructor
  · rw [executes]
    exact tally.uncounted
  · rw [executes,counter]
    exact tally.counted

/-- A rollback in progress: it goes forward again only after it went back. -/
structure Rerun (past : List (HostEvent × Host)) (r : Root) (journal : RollbackJournal) : Prop where
  tally : Tally past r journal.command (journal.phase = .completed) journal.receipt
  back : journal.fromSlot.target ≠ journal.toSlot.target → r.current = some journal.fromSlot.target →
    (moves journal.command past).getLast? ≠ some true
  alone : ¬ Activates journal.command past

structure Account (past : List (HostEvent × Host)) (r : Root) : Prop where
  ordered : past.Pairwise fun earlier later => NotBelow earlier.2.toRoot later.2.toRoot
  below : ∀ entry ∈ past, NotBelow entry.2.toRoot r
  total : loadRootActionCounter r = (executed past).card
  spent : ∀ sequence ∈ executed past, sequence ≤ floorSequence r
  moved : ∀ sequence, true ∈ moves sequence past → sequence ≤ floorSequence r
  apart : ∀ sequence, Alternates (moves sequence past)
  once : ∀ sequence, Activates sequence past → (moves sequence past).count true = 1
  activation : ∀ journal, r.journal = some journal →
    Tally past r journal.command (journal.phase = .healthy) journal.receipt
  rollback : ∀ journal, r.rollbackJournal = some journal → Rerun past r journal

theorem NotBelow.refl (r : Root) : NotBelow r r := ⟨le_refl _,le_refl _⟩

theorem NotBelow.trans {a b c : Root} (first : NotBelow a b) (second : NotBelow b c) : NotBelow a c :=
  ⟨first.1.trans second.1,first.2.trans second.2⟩

theorem activates_append (activates : Activates sequence (past ++ [(event,next)])) :
    Activates sequence past ∨ (movedFor sequence (event,next) = some true ∧ next.journal.isSome) := by
  obtain ⟨entry,mem,moved,present⟩ := activates
  rcases mem_append.mp mem with early | late
  · exact .inl ⟨entry,early,moved,present⟩
  · rw [mem_singleton.mp late] at moved present
    exact .inr ⟨moved,present⟩

theorem not_forward (sequence : Int) (next : Host) (calm : Calmed event) : movedFor sequence (event,next) ≠ some true := by
  intro moved
  rcases moved_calm sequence next calm with none | back
  · cases moved.symm.trans none
  · cases moved.symm.trans back

theorem not_activates (calm : Calmed event) (alone : ¬ Activates sequence past) :
    ¬ Activates sequence (past ++ [(event,next)]) := by
  intro activates
  rcases activates_append activates with early | ⟨moved,_⟩
  · exact alone early
  · exact not_forward sequence next calm moved

/-- An event is added; what it moves forward was consumed and did not go forward last. -/
theorem Account.extend (account : Account past r) (le : NotBelow r next.toRoot)
    (total : loadRootActionCounter next.toRoot = (executed (past ++ [(event,next)])).card)
    (spent : ∀ sequence ∈ executed (past ++ [(event,next)]), sequence ∈ executed past ∨ sequence ≤ floorSequence next.toRoot)
    (forward : ∀ sequence, movedFor sequence (event,next) = some true → sequence ≤ floorSequence next.toRoot ∧
      (moves sequence past).getLast? ≠ some true ∧ (Activates sequence (past ++ [(event,next)]) → true ∉ moves sequence past))
    (activation : ∀ journal, next.journal = some journal →
      Tally (past ++ [(event,next)]) next.toRoot journal.command (journal.phase = .healthy) journal.receipt)
    (rollback : ∀ journal, next.rollbackJournal = some journal → Rerun (past ++ [(event,next)]) next.toRoot journal) :
    Account (past ++ [(event,next)]) next.toRoot := by
  refine ⟨pairwise_append.mpr ⟨account.ordered,pairwise_singleton ..,fun earlier early _ late => ?_⟩,fun entry mem => ?_,total,
    fun sequence mem => ?_,fun sequence mem => ?_,fun sequence => ?_,fun sequence activates => ?_,activation,rollback⟩
  · rw [mem_singleton.mp late]
    exact (account.below earlier early).trans le
  · rcases mem_append.mp mem with early | late
    · exact (account.below entry early).trans le
    · rw [mem_singleton.mp late]
      exact .refl _
  · rcases spent sequence mem with early | below
    · exact (account.spent sequence early).trans le.1
    · exact below
  · rw [moves_append] at mem
    rcases mem_append.mp mem with early | late
    · exact (account.moved sequence early).trans le.1
    · exact (forward sequence (mem_toList.mp late)).1
  · rw [moves_append]
    refine (account.apart sequence).append ?_ fun earlier last later first => ?_
    · cases movedFor sequence (event,next) with
      | none => exact .nil
      | some => exact isChain_singleton _
    · have moved : movedFor sequence (event,next) = some later := mem_toList.mp (mem_of_mem_head? first)
      cases later with
      | false => exact .inr rfl
      | true =>
        cases earlier with
        | false => exact .inl rfl
        | true => exact absurd last (forward sequence moved).2.1
  · rw [moves_append,count_append]
    by_cases moved : movedFor sequence (event,next) = some true
    · rw [count_eq_zero_of_not_mem ((forward sequence moved).2.2 activates),moved]
      rfl
    · rw [count_eq_zero_of_not_mem fun late => moved (mem_toList.mp late)]
      exact account.once sequence ((activates_append activates).resolve_right fun now => moved now.1)

theorem counters_eq (counter : r'.counter = r.counter) : loadRootActionCounter r' = loadRootActionCounter r := by
  unfold loadRootActionCounter
  rw [counter]

theorem Account.calm (account : Account past r) (calm : Calmed event) (floor : floorSequence r ≤ floorSequence next.toRoot)
    (counter : next.counter = r.counter)
    (activation : ∀ journal, next.journal = some journal →
      Tally past r journal.command (journal.phase = .healthy) journal.receipt)
    (rollback : ∀ journal, next.rollbackJournal = some journal → Rerun (past ++ [(event,next)]) next.toRoot journal) :
    Account (past ++ [(event,next)]) next.toRoot := by
  have counters := counters_eq counter
  refine account.extend ⟨floor,counters.ge⟩ ?_ ?_ (fun sequence moved => absurd moved (not_forward sequence next calm))
    (fun journal found => (activation journal found).kept (executed_calm calm) counters) rollback
  · rw [executed_calm calm,counters]
    exact account.total
  · rw [executed_calm calm]
    exact fun _ => .inl

theorem floorSequence_of_loaded {floor : CommandFloor} (loaded : loadRootCommandFloor r = some floor) :
    floorSequence r = floor.sequence := by
  rw [floorSequence,loaded]
  rfl

theorem unconsumed_above (unconsumed : Unconsumed r sequence) : floorSequence r < sequence := by
  obtain ⟨_,loaded,above⟩ := unconsumed
  rw [floorSequence_of_loaded loaded]
  exact above

variable {digest target current : String} {journal : RollbackJournal} {finished finished' : Prop}
  {receipt : Option SignedReceipt} {signed : SignedReceipt} {trace : List (HostEvent × Host)} {slot : Slot}
  {start : Root}

theorem consumed_at (consumed : Consumed r sequence digest) : floorSequence r = sequence := by
  obtain ⟨_,loaded,same,_⟩ := consumed
  rw [floorSequence_of_loaded loaded]
  exact same

structure Alike (r r' : Root) : Prop where
  journal : r'.journal = r.journal
  rollback : r'.rollbackJournal = r.rollbackJournal
  current : r'.current = r.current
  commandFloor : r'.commandFloor = r.commandFloor
  counter : r'.counter = r.counter

theorem floors_eq (commandFloor : r'.commandFloor = r.commandFloor) : floorSequence r' = floorSequence r := by
  unfold floorSequence loadRootCommandFloor
  rw [commandFloor]

theorem Rerun.calm {other : RollbackJournal} (rerun : Rerun past r journal) (calm : Calmed event)
    (tally : Tally past r other.command (other.phase = .completed) other.receipt)
    (counter : r'.counter = r.counter) (command : other.command = journal.command)
    (fromSlot : other.fromSlot = journal.fromSlot) (toSlot : other.toSlot = journal.toSlot)
    (current : r'.current = r.current ∨ movedFor journal.command (event,next) = some false) :
    Rerun (past ++ [(event,next)]) r' other := by
  refine ⟨tally.kept (executed_calm calm) (counters_eq counter),fun distinct linked => ?_,?_⟩
  · rw [command,moves_append]
    rw [fromSlot,toSlot] at distinct
    rw [fromSlot] at linked
    rcases moved_calm journal.command next calm with none | back
    · rcases current with same | moved
      · rw [none,toList_none,append_nil]
        exact rerun.back distinct (same.symm.trans linked)
      · cases moved.symm.trans none
    · rw [back]
      simp
  · rw [command]
    exact not_activates calm rerun.alone

section

variable (account : Account past r) (calm : Calmed event) (root : next.toRoot = r')
include account calm root

theorem Account.alike (alike : Alike r r') : Account (past ++ [(event,next)]) next.toRoot := by
  rw [← root] at alike
  refine account.calm calm (floors_eq alike.commandFloor).ge alike.counter ?_ ?_
  · exact fun journal found => account.activation journal (alike.journal.symm.trans found)
  · intro journal found
    have rerun := account.rollback journal (alike.rollback.symm.trans found)
    exact rerun.calm calm rerun.tally alike.counter rfl rfl rfl (.inl alike.current)

theorem Account.activating (floor : floorSequence r ≤ floorSequence r') (counter : r'.counter = r.counter)
    (quiet : r'.rollbackJournal = none) (activation : ∀ journal, r'.journal = some journal →
      Tally past r journal.command (journal.phase = .healthy) journal.receipt) :
    Account (past ++ [(event,next)]) next.toRoot := by
  rw [← root] at floor counter quiet activation
  exact account.calm calm floor counter activation fun _ found => absent found quiet

theorem Account.rolling (floor : floorSequence r ≤ floorSequence r') (counter : r'.counter = r.counter)
    (idle : r'.journal = none) (rollback : ∀ journal, r'.rollbackJournal = some journal → Rerun (past ++ [(event,next)]) r' journal) :
    Account (past ++ [(event,next)]) next.toRoot := by
  rw [← root] at floor counter idle rollback
  exact account.calm calm floor counter (fun _ found => absent found idle) rollback

end

theorem tally_new (account : Account past r)
    (unconsumed : Unconsumed r sequence) (unfinished : ¬ finished) : Tally past r sequence finished receipt := by
  refine ⟨fun _ mem => ?_,fun finished => absurd finished unfinished⟩
  exact absurd (account.spent sequence mem) (not_le.mpr (unconsumed_above unconsumed))

section

variable (tally : Tally past r sequence finished receipt) (before : ¬ finished)
include tally before

theorem tally_unfinished {receipt' : Option SignedReceipt} (after : ¬ finished') :
    Tally past r sequence finished' receipt' :=
  ⟨fun _ => tally.uncounted before,fun finished => absurd finished after⟩

theorem tally_signed (issued : signed.value.rootActionCounter = loadRootActionCounter r + 1) (after : finished') :
    Tally past r sequence finished' (some signed) := by
  refine ⟨fun unfinished => absurd after unfinished,fun _ other same => ?_⟩
  cases same
  constructor
  · intro _
    omega
  · exact fun mem => absurd mem (tally.uncounted before)

end

theorem Account.counts (account : Account past r)
    (root : next.toRoot = { r with counter := some signed.value.rootActionCounter })
    (fits : signed.value.rootActionCounter = counterBefore (loadRootActionCounter r) signed.value + 1)
    (mem : signed.value.rootActionCounter = loadRootActionCounter r ↔ sequence ∈ executed past)
    (consumed : floorSequence r = sequence)
    (activation : ∀ journal, r.journal = some journal → journal.command = sequence ∧
      journal.phase = .healthy ∧ journal.receipt = some signed)
    (rollback : ∀ journal, r.rollbackJournal = some journal → journal.command = sequence ∧
      journal.phase = .completed ∧ journal.receipt = some signed) :
    Account (past ++ [(.counted sequence signed.value.rootActionCounter,next)]) next.toRoot := by
  have counter : loadRootActionCounter next.toRoot = signed.value.rootActionCounter := by
    rw [root]
    rfl
  have floor : floorSequence next.toRoot = floorSequence r := by
    rw [root]
    rfl
  have steps : signed.value.rootActionCounter = loadRootActionCounter r ∨
      signed.value.rootActionCounter = loadRootActionCounter r + 1 := by
    unfold counterBefore at fits
    split_ifs at fits with same
    · exact .inl same.symm
    · exact .inr fits
  have le : NotBelow r next.toRoot := by
    refine ⟨floor.ge,?_⟩
    omega
  have tally {finished : Prop} (ended : finished) : Tally (past ++ [(.counted sequence signed.value.rootActionCounter,next)])
      next.toRoot sequence finished (some signed) := by
    refine ⟨fun unfinished => absurd ended unfinished,fun _ other other' => ?_⟩
    cases other'
    rw [counter,executed_counted]
    exact ⟨fun _ => Finset.mem_insert_self ..,fun _ => rfl⟩
  refine account.extend le ?_ ?_ (fun _ moved => nomatch moved) ?_ ?_
  · rw [executed_counted,counter]
    rcases steps with again | first
    · rw [Finset.insert_eq_self.mpr (mem.mp again),again]
      exact account.total
    · have new : sequence ∉ executed past := fun early => by
        have := mem.mpr early
        omega
      rw [Finset.card_insert_of_notMem new,first,account.total]
      simp
  · rw [executed_counted,floor]
    intro command command'
    rcases Finset.mem_insert.mp command' with same | early
    · exact .inr (same.trans consumed.symm).le
    · exact .inl early
  · intro journal found
    rw [root] at found
    obtain ⟨rfl,phase,receipt⟩ := activation journal found
    rw [receipt]
    exact tally phase
  · intro journal found
    rw [root] at found
    have rerun := account.rollback journal found
    obtain ⟨rfl,phase,receipt⟩ := rollback journal found
    refine ⟨?_,?_,fun activates => ?_⟩
    · rw [receipt]
      exact tally phase
    · rw [moves_append,root]
      exact (append_nil (moves _ past)).symm ▸ rerun.back
    · exact rerun.alone ((activates_append activates).resolve_right fun moved => (nomatch moved.1))

theorem movedFor_same {forward : Bool} :
    movedFor sequence (.switched sequence forward target,next) = some forward := if_pos rfl

theorem movedFor_other {command : Int} {forward : Bool} (different : command ≠ sequence) :
    movedFor sequence (.switched command forward target,next) = none := if_neg different

theorem Account.forward (account : Account past r)
    (root : next.toRoot = { r with current := some target }) (consumed : floorSequence r = sequence)
    (last : (moves sequence past).getLast? ≠ some true)
    (activation : r.journal ≠ none → true ∉ moves sequence past)
    (rollback : r.journal = none → ¬ Activates sequence past)
    (rerun : ∀ journal, r.rollbackJournal = some journal → r.journal = none ∧
      journal.command = sequence ∧
      journal.toSlot.target = target) :
    Account (past ++ [(.switched sequence true target,next)]) next.toRoot := by
  have floor : floorSequence next.toRoot = floorSequence r := by
    rw [root]
    rfl
  have counter : loadRootActionCounter next.toRoot = loadRootActionCounter r := by
    rw [root]
    rfl
  have executes : executed (past ++ [(.switched sequence true target,next)]) = executed past := executed_uncounted rfl
  have journals : next.journal = r.journal := by rw [root]
  have idles (idle : r.journal = none) {command : Int} (activates : Activates command (past ++ [(.switched sequence true target,next)])) :
      Activates command past := by
    refine (activates_append activates).resolve_right fun ⟨_,present⟩ => ?_
    rw [journals,idle] at present
    cases present
  refine account.extend ⟨floor.ge,counter.ge⟩ ?_ ?_ (fun command moved => ?_)
    (fun journal found => (account.activation journal (journals.symm.trans found)).kept executes counter) fun journal found => ?_
  · rw [executes,counter]
    exact account.total
  · rw [executes]
    exact fun _ => .inl
  · rcases eq_or_ne sequence command with rfl | different
    · exact ⟨(floor.trans consumed).ge,last,fun activates => activation fun idle => rollback idle (idles idle activates)⟩
    · cases moved.symm.trans (movedFor_other different)
  · have running : r.rollbackJournal = some journal := by
      rw [root] at found
      exact found
    obtain ⟨idle,_,leads⟩ := rerun journal running
    obtain ⟨tally,_,alone⟩ := account.rollback journal running
    refine ⟨tally.kept executes counter,fun distinct linked => ?_,fun activates => alone (idles idle activates)⟩
    rw [root] at linked
    exact absurd (leads.trans (some.inj linked)).symm distinct

theorem rising (unconsumed : Unconsumed r sequence)
    (loads : loadRootCommandFloor { r with commandFloor := some ⟨sequence,digest⟩ } = some ⟨sequence,digest⟩) :
    floorSequence r ≤ floorSequence { r with commandFloor := some ⟨sequence,digest⟩ } := by
  rw [floorSequence_of_loaded loads]
  exact (unconsumed_above unconsumed).le

theorem Rerun.new (account : Account past r)
    (unconsumed : Unconsumed r journal.command) (phase : journal.phase = .prepared) :
    Rerun (past ++ [(.wrote,next)]) r' journal := by
  have still : true ∉ moves journal.command past := fun forward =>
    absurd (account.moved _ forward) (not_le.mpr (unconsumed_above unconsumed))
  have tally : Tally past r journal.command (journal.phase = .completed)
      journal.receipt := tally_new account unconsumed (by simp [phase])
  refine ⟨⟨?_,fun completed => (nomatch phase.symm.trans completed)⟩,fun _ _ last => ?_,?_⟩
  · rw [executed_calm .wrote]
    exact tally.uncounted
  · rw [moves_append] at last
    exact still (mem_of_getLast? ((congrArg _ (append_nil _)).symm.trans last))
  · apply not_activates .wrote
    rintro ⟨entry,mem,moved,_⟩
    exact still (mem_filterMap.mpr ⟨entry,mem,moved⟩)

theorem account_root (sound : Sound t now r) (account : Account past r)
    (unmoved : ∀ journal, r.journal = some journal → scope.unmoved journal.command →
      true ∉ moves journal.command past)
    (root : next.toRoot = r') (step : RootStep t scope now r event r') :
    Account (past ++ [(event,next)]) next.toRoot := by
  cases step with
  | prepare _ _ _ quiet phase _ _ _ _ unconsumed =>
    refine account.activating .wrote root le_rfl rfl quiet fun _ found => ?_
    cases found
    exact tally_new account unconsumed (by simp [phase])
  | consume journal found _ unconsumed =>
    have written := (sound.pending journal found).written
    refine account.activating (.consumed _) root (rising unconsumed (consumed_loads written.signed written.digest)) rfl
      (sound.idle found) account.activation
  | install | restoreMetadata | recordActivation | recordPrevious | recordMetadata | recordResult | recordRollback
  | prune | pinMetadata => exact account.alike .wrote root ⟨rfl,rfl,rfl,rfl,rfl⟩
  | switch journal found _ consumed _ allowed =>
    have still := unmoved journal found allowed
    refine account.forward root (consumed_at consumed) (fun last => still (mem_of_getLast? last)) (fun _ => still)
      (absent found) fun _ rolling => absent rolling (sound.idle found)
  | markSwitched journal found phase =>
    refine account.activating .wrote root le_rfl rfl (sound.idle found) fun _ found' => ?_
    cases found'
    exact tally_unfinished (account.activation journal found) (by simp [phase]) (by simp)
  | restore _ found =>
    exact account.activating (.back ..) root le_rfl rfl (sound.idle found) account.activation
  | forget _ found =>
    exact account.activating .wrote root le_rfl rfl (sound.idle found) fun _ gone => absent gone rfl
  | complete healthy =>
    exact account.activating .wrote root le_rfl rfl (sound.idle healthy.found) fun _ gone => absent gone rfl
  | abandon _ found =>
    exact account.activating (.refused _) root le_rfl rfl (sound.idle found) fun _ gone => absent gone rfl
  | markHealthy journal _ found phase _ issued =>
    refine account.activating .wrote root le_rfl rfl (sound.idle found) fun _ found' => ?_
    cases found'
    exact tally_signed (account.activation journal found) (by simp [phase]) issued.next rfl
  | countActivation healthy fits =>
    obtain ⟨found,phase,attested⟩ := healthy
    have consumed := (sound.pending _ found).consumed (by simp [phase])
    refine account.counts root fits ((account.activation _ found).counted phase _ attested) (consumed_at consumed)
      (fun other same => ?_) fun _ rolling => absent rolling (sound.idle found)
    cases found.symm.trans same
    exact ⟨rfl,phase,attested⟩
  | persistFloor | pinFloor => exact account.alike (.persistedFloor _) root ⟨rfl,rfl,rfl,rfl,rfl⟩
  | prepareRollback _ idle _ phase _ _ _ _ _ _ _ unconsumed =>
    refine account.rolling .wrote root le_rfl rfl idle fun _ found => ?_
    cases found
    exact .new account unconsumed phase
  | consumeRollback journal found unconsumed =>
    have requested := (sound.rolling journal found).requested
    refine account.rolling (.consumed _) root (rising unconsumed (consumed_loads requested.signed requested.digest)) rfl
      (sound.quiet found) fun other same => ?_
    have rerun := account.rollback other same
    exact rerun.calm (.consumed _) rerun.tally rfl rfl rfl rfl (.inl rfl)
  | switchRollback journal found _ consumed current distinct =>
    have rerun := account.rollback journal found
    have idle := sound.quiet found
    refine account.forward root (consumed_at consumed) (rerun.back distinct current) (fun busy => absurd idle busy)
      (fun _ => rerun.alone) fun other same => ?_
    cases found.symm.trans same
    exact ⟨idle,rfl,rfl⟩
  | markRollbackSwitched journal found phase =>
    refine account.rolling .wrote root le_rfl rfl (sound.quiet found) fun _ found' => ?_
    cases found'
    have rerun := account.rollback journal found
    exact rerun.calm .wrote (tally_unfinished rerun.tally (by simp [phase]) (by simp)) rfl rfl rfl rfl (.inl rfl)
  | restoreRollback journal found =>
    refine account.rolling (.back ..) root le_rfl rfl (sound.quiet found) fun other same => ?_
    cases found.symm.trans same
    have rerun := account.rollback journal found
    exact rerun.calm (.back ..) rerun.tally rfl rfl rfl rfl (.inr movedFor_same)
  | forgetRollback _ found =>
    exact account.rolling .wrote root le_rfl rfl (sound.quiet found) fun _ gone => absent gone rfl
  | completeRollback completed =>
    exact account.rolling .wrote root le_rfl rfl (sound.quiet completed.found) fun _ gone => absent gone rfl
  | markCompleted journal _ found phase _ issued =>
    refine account.rolling .wrote root le_rfl rfl (sound.quiet found) fun _ found' => ?_
    cases found'
    have rerun := account.rollback journal found
    exact rerun.calm .wrote (tally_signed rerun.tally (by simp [phase]) issued.next rfl) rfl rfl rfl rfl (.inl rfl)
  | countRollback completed fits =>
    obtain ⟨found,phase,attested⟩ := completed
    have consumed := (sound.rolling _ found).consumed (by simp [phase])
    refine account.counts root fits ((account.rollback _ found).tally.counted phase _ attested) (consumed_at consumed)
      (fun _ busy => absent busy (sound.quiet found)) fun _ same => ?_
    cases found.symm.trans same
    exact ⟨rfl,phase,attested⟩

def OnRecord (r : Root) (sequence : Int) : Prop :=
  (∃ record, r.lastActivation = some record ∧ record.authorization.authorization.commandSequence = sequence) ∨
    ∃ record, r.lastRollback = some record ∧ record.authorization.authorization.commandSequence = sequence

/-- The command has succeeded, and its journal is still there to write down what follows from that. -/
def Finishing (r : Root) (sequence : Int) : Prop :=
  (∃ journal, r.journal = some journal ∧ journal.phase = .healthy ∧
      journal.command = sequence) ∨
    ∃ journal, r.rollbackJournal = some journal ∧ journal.phase = .completed ∧
      journal.command = sequence

theorem finishing_root (account : Account past r) (step : RootStep t scope now r event r')
    (finishing : Finishing r sequence) : Finishing r' sequence ∨ sequence ∈ executed past := by
  cases step with
  | prepare _ _ idle quiet | prepareRollback _ idle quiet =>
    rcases finishing with ⟨_,found,_⟩ | ⟨_,found,_⟩
    · cases found.symm.trans idle
    · cases found.symm.trans quiet
  | markSwitched _ found phase | forget _ found phase | abandon _ found phase | markHealthy _ _ found phase =>
    rcases finishing with ⟨_,found',healthy,_⟩ | rolling
    · cases found.symm.trans found'
      simp [healthy] at phase
    · exact .inl (.inr rolling)
  | markRollbackSwitched _ found phase | forgetRollback _ found phase | markCompleted _ _ found phase =>
    rcases finishing with activating | ⟨_,found',completed,_⟩
    · exact .inl (.inl activating)
    · cases found.symm.trans found'
      simp [completed] at phase
  | complete healthy _ counter =>
    rcases finishing with ⟨_,found,phase,rfl⟩ | rolling
    · cases healthy.found.symm.trans found
      refine .inr (((account.activation _ found).counted phase _ healthy.attested).mp ?_)
      simp [loadRootActionCounter,counter]
    · exact .inl (.inr rolling)
  | completeRollback completed counter =>
    rcases finishing with activating | ⟨_,found,phase,rfl⟩
    · exact .inl (.inl activating)
    · cases completed.found.symm.trans found
      refine .inr (((account.rollback _ found).tally.counted phase _ completed.attested).mp ?_)
      simp [loadRootActionCounter,counter]
  | _ => exact .inl finishing

theorem onRecord_root (step : RootStep t scope now r event r') (recorded : OnRecord r' sequence) :
    OnRecord r sequence ∨ Finishing r sequence := by
  cases step with
  | recordActivation healthy =>
    rcases recorded with ⟨_,⟨⟩,same⟩ | rolled
    · exact .inr (.inl ⟨_,healthy.found,healthy.phase,same⟩)
    · exact .inl (.inr rolled)
  | recordRollback completed =>
    rcases recorded with activated | ⟨_,⟨⟩,same⟩
    · exact .inl (.inl activated)
    · exact .inr (.inr ⟨_,completed.found,completed.phase,same⟩)
  | _ => exact .inl recorded

theorem executed_grows (past trace : List (HostEvent × Host)) : executed past ⊆ executed (past ++ trace) := by
  intro sequence mem
  simp only [executed,filterMap_append,List.mem_toFinset,mem_append] at mem ⊢
  exact .inl mem

/-- A command whose result is on record is among those counted, or about to be. -/
structure Books (past : List (HostEvent × Host)) (r : Root) : Prop extends Account past r where
  recorded : ∀ sequence, OnRecord r sequence → Finishing r sequence ∨ sequence ∈ executed past

/-- The activation in progress has not switched, if it is one of the new commands. -/
def Unmoved (new : Int → Prop) (past : List (HostEvent × Host)) (r : Root) : Prop :=
  ∀ journal, r.journal = some journal → new journal.command →
    true ∉ moves journal.command past

theorem forward_early (other : ∀ target, event ≠ .switched sequence true target)
    (forward : true ∈ moves sequence (past ++ [(event,next)])) : true ∈ moves sequence past := by
  rw [moves_append] at forward
  rcases mem_append.mp forward with early | late
  · exact early
  · cases event with
    | switched command _ target =>
      rcases eq_or_ne command sequence with rfl | different
      · rw [movedFor_same,toList_some,mem_singleton] at late
        exact absurd (late ▸ rfl) (other target)
      · rw [movedFor_other different] at late
        cases late
    | _ => exact nomatch late

theorem journal_origin {journal : ActivationJournal} (sound : Sound t now r) (frozen : ∀ sequence, ¬ scope.unmoved sequence)
    (step : RootStep t scope now r event r') (found : r'.journal = some journal) :
    (∀ command target, event ≠ .switched command true target) ∧
      (Unconsumed r journal.command ∨
        ∃ earlier, r.journal = some earlier ∧ journal.command = earlier.command) := by
  cases step with
  | prepare _ _ _ _ _ _ _ _ _ unconsumed =>
    cases found
    exact ⟨by simp,.inl unconsumed⟩
  | switch _ _ _ _ _ allowed => exact absurd allowed (frozen _)
  | markSwitched earlier before | markHealthy earlier _ before =>
    cases found
    exact ⟨by simp,.inr ⟨earlier,before,rfl⟩⟩
  | forget | abandon | complete => exact nomatch found
  | switchRollback _ rolling => exact absent found (sound.quiet rolling)
  | _ => exact ⟨by simp,.inr ⟨journal,found,rfl⟩⟩

theorem unmoved_root {new : Int → Prop} (sound : Sound t now r) (account : Account past r)
    (frozen : ∀ sequence, ¬ scope.unmoved sequence) (unmoved : Unmoved new past r) (root : next.toRoot = r')
    (step : RootStep t scope now r event r') :
    Unmoved new (past ++ [(event,next)]) next.toRoot := by
  intro _ found fresh forward
  rw [root] at found
  obtain ⟨other,unconsumed | ⟨earlier,before,same⟩⟩ := journal_origin sound frozen step found
  · have moved := account.moved _ (forward_early (other _) forward)
    exact absurd moved (not_le.mpr (unconsumed_above unconsumed))
  · rw [same] at fresh forward
    exact unmoved earlier before fresh (forward_early (other _) forward)

theorem quiet_calm (quiet : Quiet event) : Calmed event := by
  cases quiet with
  | tick => exact .tick
  | asked answer => exact .asked answer
  | wrote => exact .wrote

section

variable (sound : Sound t h.now h.toRoot) (books : Books past h.toRoot)
include sound books

theorem books_step (unmoved : Unmoved scope.unmoved past h.toRoot) (step : HostStep t scope h event next) :
    Books (past ++ [(event,next)]) next.toRoot := by
  have counted {sequence : Int} (mem : sequence ∈ executed past) : sequence ∈ executed (past ++ [(event,next)]) :=
    executed_grows past _ mem
  cases step with
  | quiet _ same _ quiet =>
    refine ⟨books.alike (quiet_calm quiet) same ⟨rfl,rfl,rfl,rfl,rfl⟩,?_⟩
    rw [same]
    exact fun sequence recorded => (books.recorded sequence recorded).imp_right counted
  | root _ _ step =>
    refine ⟨account_root sound books.toAccount unmoved rfl step,fun sequence recorded => ?_⟩
    have finishing := (onRecord_root step recorded).elim (books.recorded sequence) .inl
    exact finishing.elim (fun finishing => (finishing_root books.toAccount step finishing).imp_right counted) (.inr ∘ counted)

theorem unmoved_step {new : Int → Prop} (frozen : ∀ sequence, ¬ scope.unmoved sequence)
    (unmoved : Unmoved new past h.toRoot) (step : HostStep t scope h event next) :
    Unmoved new (past ++ [(event,next)]) next.toRoot := by
  cases step with
  | quiet _ same _ quiet =>
    intro journal found fresh forward
    rw [same] at found
    refine unmoved journal found fresh (forward_early (fun _ => ?_) forward)
    cases quiet <;> simp
  | root _ _ step => exact unmoved_root sound books.toAccount frozen unmoved rfl step

theorem books_still {new : Int → Prop} (frozen : ∀ sequence, ¬ scope.unmoved sequence)
    (unmoved : Unmoved new past h.toRoot) (chain : Chain (HostStep t scope) h trace) :
    Sound t (lastState h trace).now (lastState h trace).toRoot ∧ Books (past ++ trace) (lastState h trace).toRoot ∧
      Unmoved new (past ++ trace) (lastState h trace).toRoot := by
  refine chain_history (motive := fun past h => Sound t h.now h.toRoot ∧ Books past h.toRoot ∧ Unmoved new past h.toRoot) ?_
    ⟨sound,books,unmoved⟩ chain
  rintro past h _ _ ⟨sound,books,unmoved⟩ step
  have nothing : Unmoved scope.unmoved past h.toRoot := fun _ _ allowed => absurd allowed (frozen _)
  exact ⟨sound_step sound step,books_step sound books nothing step,unmoved_step sound books frozen unmoved step⟩

theorem books_follows
    (follows : Follows (HostStep t (starting h.toRoot).still) (some (turning t (starting h.toRoot))) h trace) :
    Sound t (lastState h trace).now (lastState h trace).toRoot ∧ Books (past ++ trace) (lastState h trace).toRoot := by
  have unmoved : Unmoved (Unconsumed h.toRoot) past h.toRoot := fun _ _ unconsumed forward =>
    absurd (books.moved _ forward) (not_le.mpr (unconsumed_above unconsumed))
  rcases follows with chain | ⟨_,⟨⟩,front,event,next,_,rfl,chain,turned,tail⟩
  · obtain ⟨sound,books,_⟩ := books_still sound books (fun _ => id) unmoved chain
    exact ⟨sound,books⟩
  · obtain ⟨sound,books,unmoved⟩ := books_still sound books (fun _ => id) unmoved chain
    have books := books_step sound books unmoved turned
    have nothing : Unmoved (fun _ => False) (past ++ front ++ [(event,next)]) next.toRoot := fun _ _ impossible =>
      impossible.elim
    obtain ⟨sound,books,_⟩ := books_still (sound_step sound turned) books (fun _ => id) nothing tail
    rw [lastState_append]
    simp only [append_assoc,singleton_append] at books
    exact ⟨sound,books⟩

theorem books_input {input : Input} (taken : step t h input = some (next,trace)) :
    Sound t next.now next.toRoot ∧ Books (past ++ trace) next.toRoot := by
  cases input with
  | worker =>
    cases taken
    rw [append_nil]
    exact ⟨sound,books⟩
  | elapse time =>
    cases taken
    rw [append_nil]
    exact ⟨sound.later (Int.le_add_of_nonneg_right (Int.natCast_nonneg time)),books⟩
  | activator oracle cut =>
    cases taken
    exact books_follows sound books (activator_follows sound oracle cut)
  | bootstrap options oracle cut =>
    cases taken
    have nothing : Unmoved (fun _ => False) past h.toRoot := fun _ _ impossible => impossible.elim
    obtain ⟨sound,books,_⟩ := books_still sound books (fun _ => id) nothing (follows_none.mp (bootstrap_follows options oracle cut))
    exact ⟨sound,books⟩

end

theorem books_fresh : Books [] (fresh now current slot).toRoot := by
  refine ⟨⟨.nil,?_,rfl,?_,?_,fun _ => .nil,?_,?_,?_⟩,?_⟩
  · exact fun _ mem => nomatch mem
  · exact fun _ mem => nomatch mem
  · exact fun _ mem => nomatch mem
  · rintro _ ⟨_,mem,_⟩
    cases mem
  · exact fun _ absent => nomatch absent
  · exact fun _ absent => nomatch absent
  · rintro _ (⟨_,absent,_⟩ | ⟨_,absent,_⟩) <;> cases absent

theorem run_books {inputs : List Input} {events : List (HostEvent × Host)}
    (whole : slot.executable.isSome) (ran : run (step t) (fresh now current slot) inputs = some (h,events)) :
    Sound t h.now h.toRoot ∧ Books events h.toRoot := by
  exact run_history (motive := fun past h => Sound t h.now h.toRoot ∧ Books past h.toRoot)
    (fun _ _ _ _ _ holds _ taken => books_input holds.1 holds.2 taken) ⟨sound_fresh whole,books_fresh⟩ (meets_true _ _) ran

def namedBy : HostEvent → Option Int
  | .consumed sequence => some sequence
  | .switched sequence _ _ => some sequence
  | .counted sequence _ => some sequence
  | _ => none

def InProgress (r : Root) (sequence : Int) : Prop :=
  (∃ journal, r.journal = some journal ∧ journal.command = sequence) ∨
    ∃ journal, r.rollbackJournal = some journal ∧ journal.command = sequence

def Open (r : Root) (sequence : Int) : Prop := InProgress r sequence ∨ floorSequence r < sequence

theorem named_inProgress (step : RootStep t scope now r event r') (named : namedBy event = some sequence) :
    InProgress r sequence := by
  cases step with
  | consume _ found | switch _ found | restore _ found => exact .inl ⟨_,found,some.inj named⟩
  | countActivation healthy => exact .inl ⟨_,healthy.found,some.inj named⟩
  | consumeRollback _ found | switchRollback _ found | restoreRollback _ found => exact .inr ⟨_,found,some.inj named⟩
  | countRollback completed => exact .inr ⟨_,completed.found,some.inj named⟩
  | _ => exact nomatch named

theorem inProgress_origin (step : RootStep t scope now r event r') (running : InProgress r' sequence) :
    Open r sequence := by
  cases step with
  | prepare _ _ _ quiet _ _ _ _ _ unconsumed =>
    rcases running with ⟨_,found,rfl⟩ | ⟨_,found,_⟩
    · cases found
      exact .inr (unconsumed_above unconsumed)
    · cases found.symm.trans quiet
  | prepareRollback _ idle _ _ _ _ _ _ _ _ _ unconsumed =>
    rcases running with ⟨_,found,_⟩ | ⟨_,found,rfl⟩
    · cases found.symm.trans idle
    · cases found
      exact .inr (unconsumed_above unconsumed)
  | markSwitched earlier before | markHealthy earlier _ before =>
    rcases running with ⟨_,found,rfl⟩ | rolling
    · cases found
      exact .inl (.inl ⟨earlier,before,rfl⟩)
    · exact .inl (.inr rolling)
  | markRollbackSwitched earlier before | markCompleted earlier _ before =>
    rcases running with activating | ⟨_,found,rfl⟩
    · exact .inl (.inl activating)
    · cases found
      exact .inl (.inr ⟨earlier,before,rfl⟩)
  | forget | abandon | complete =>
    rcases running with ⟨_,found,_⟩ | rolling
    · cases found
    · exact .inl (.inr rolling)
  | forgetRollback | completeRollback =>
    rcases running with activating | ⟨_,found,_⟩
    · exact .inl (.inl activating)
    · cases found
  | _ => exact .inl running

theorem floor_root (sound : Sound t now r) (step : RootStep t scope now r event r') :
    floorSequence r ≤ floorSequence r' := by
  cases step with
  | consume journal found _ unconsumed =>
    have written := (sound.pending journal found).written
    exact rising unconsumed (consumed_loads written.signed written.digest)
  | consumeRollback journal found unconsumed =>
    have requested := (sound.rolling journal found).requested
    exact rising unconsumed (consumed_loads requested.signed requested.digest)
  | _ => exact (floors_eq rfl).ge

/-- Since `start`, only commands open at that time were taken up. -/
structure Onwards (start r : Root) : Prop where
  floor : floorSequence start ≤ floorSequence r
  progress : ∀ sequence, InProgress r sequence → Open start sequence

theorem onwards_step (sound : Sound t h.now h.toRoot) (onwards : Onwards start h.toRoot)
    (step : HostStep t scope h event next) : Onwards start next.toRoot := by
  cases step with
  | quiet _ same =>
    rw [same]
    exact onwards
  | root _ _ step =>
    refine ⟨onwards.floor.trans (floor_root sound step),fun sequence running => ?_⟩
    rcases inProgress_origin step running with before | above
    · exact onwards.progress sequence before
    · exact .inr (onwards.floor.trans_lt above)

theorem onwards_named (onwards : Onwards start h.toRoot) (step : HostStep t scope h event next) (sequence : Int)
    (named : namedBy event = some sequence) : Open start sequence := by
  cases step with
  | quiet _ _ _ quiet => cases quiet with
    | tick | asked | wrote => exact nomatch named
  | root _ _ step => exact onwards.progress sequence (named_inProgress step named)

theorem activator_open (sound : Sound t h.now h.toRoot) (oracle : Oracle) (cut : Option Nat) :
    ∀ entry ∈ effected cut (runActivator t h oracle).trace, ∀ sequence, namedBy entry.1 = some sequence →
      Open h.toRoot sequence := by
  exact chain_always (motive := fun next : Host => Sound t next.now next.toRoot ∧ Onwards h.toRoot next.toRoot)
    (fun h event next holds (step : HostStep t everything h event next) =>
      ⟨sound_step holds.1 step,onwards_step holds.1 holds.2 step⟩)
    (fun _ _ _ holds step => onwards_named holds.2 step) ⟨sound,le_refl _,fun _ running => .inl running⟩
    (activator_chain sound oracle cut)

/-- Whatever is delivered, and wherever runs are cut off: the floor of commands and the
counter only rise, and the counter counts the commands carried out, those with a result on
record among them. An activation switches forward once; a rollback only goes forward again
after it went back. Nothing is done about a command that is neither in progress nor above
the floor, and its delivery publishes at most the receipt on record. -/
theorem commands_take_effect_once {current : String} {slot : Slot} {inputs : List Input}
    {events : List (HostEvent × Host)} (whole : slot.executable.isSome = true)
    (ran : run (step t) (fresh now current slot) inputs = some (h,events)) :
    ((events.Pairwise fun earlier later => NotBelow earlier.2.toRoot later.2.toRoot) ∧
      ∀ entry ∈ events, NotBelow entry.2.toRoot h.toRoot) ∧
    loadRootActionCounter h.toRoot = (executed events).card ∧
    (∀ sequence, OnRecord h.toRoot sequence → Finishing h.toRoot sequence ∨ sequence ∈ executed events) ∧
    (∀ sequence, Alternates (moves sequence events)) ∧
    (∀ sequence, Activates sequence events → (moves sequence events).count true = 1) ∧
    ∀ oracle cut, (∀ entry ∈ effected cut (runActivator t h oracle).trace, ∀ sequence, namedBy entry.1 = some sequence →
        Open h.toRoot sequence) ∧
      ∀ about, Clear h → Spent about h → Echoes about h (lastState h (effected cut (runActivator t h oracle).trace)) := by
  obtain ⟨sound,books⟩ := run_books whole ran
  refine ⟨⟨books.ordered,books.below⟩,books.total,books.recorded,books.apart,books.once,fun oracle cut => ⟨?_,?_⟩⟩
  · exact activator_open sound oracle cut
  · exact fun _ clear spent => activator_echoes clear spent oracle cut

/-- A rollback whose result and whose restored slot both fail their checks, then another run. -/
def labRerun : List Input := [labBootstrap "v1.0.0",labStage 1,.activator {} none,labRequestRollback 2,
    .activator { answers := [false,false] } none,.activator {} none]

theorem labRerun_runs : ∃ h events, run (step labTrust) labHost labRerun = some (h,events) ∧
    moves 2 events = [true,false,true] ∧ loadRootActionCounter h.toRoot = 2 := by
  have ended : ((run (step labTrust) labHost labRerun).map fun ran => (moves 2 ran.2,loadRootActionCounter ran.1.toRoot)) =
      some ([true,false,true],2) := by decide +kernel
  obtain ⟨events,ran⟩ := run_after labHost labRerun
  rw [ran,map_some,some.injEq,Prod.mk.injEq] at ended
  exact ⟨_,events,ran,ended⟩

/-- Two commands, one of them carried out on the second try. -/
theorem commands_take_effect_once_rerun : ∃ h events, run (step labTrust) labHost labRerun = some (h,events) ∧
    moves 2 events = [true,false,true] ∧ Alternates (moves 2 events) ∧ (executed events).card = 2 := by
  obtain ⟨h,events,ran,second,counter⟩ := labRerun_runs
  have whole : labSlot.executable.isSome := rfl
  obtain ⟨_,total,_,apart,_⟩ := commands_take_effect_once whole ran
  refine ⟨h,events,ran,second,apart 2,?_⟩
  rw [counter] at total
  exact_mod_cast total.symm

/-- The journal of a rollback is kept when the restored slot fails its check too, and the
next run switches forward for the same command again. -/
theorem failed_rollback_switches_again : ¬ ∀ (t : Trust) (now : Int) (current : String) (slot : Slot)
    (inputs : List Input) (h : Host) (events : List (HostEvent × Host)), slot.executable.isSome = true →
      run (step t) (fresh now current slot) inputs = some (h,events) →
      ∀ sequence, (moves sequence events).count true ≤ 1 := by
  intro claim
  obtain ⟨h,events,ran,second,_⟩ := labRerun_runs
  have once := claim labTrust _ _ labSlot labRerun h events rfl ran 2
  rw [second] at once
  exact absurd once (by decide)

end P2pstream.UpdaterCommands
