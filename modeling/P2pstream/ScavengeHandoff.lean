import P2pstream.Kernel.MemoryScavenge
import P2pstream.Library.Transitions

/-! A pass for every request. A call that finds a worker leaves it a signal. The worker sees the
signal where it is stored while a worker is running, and where a worker that has stopped
takes it only as long as no other has started and looks for it while no release holds it.
-/
namespace P2pstream.ScavengeHandoff
open Library Kernel.MemoryScavenge Option List Transitions

/-- A pass started after every call that began. -/
def Followed (events : List Event) : Prop := ∀ earlier later, events = earlier ++ .began :: later → .pass ∈ later

/-- A signal is stored, and looked for after stopping, in time. -/
def Timely (s : State) : Input → Prop
  | .signal _ => s.scavengeRunning
  | .work worker => s.workers worker = .recheck →
      s.shouldScavenge ≠ some true ∧ (s.scavengeNeeded → s.scavengeRunning = false)
  | _ => True

/-- Some worker will swap the signal before it stops. -/
def Active (s : State) : Prop := ∃ worker, s.workers worker = .free ∨ s.workers worker = .swap ∨ s.workers worker = .stop

/-- A pass is still to start. -/
inductive Due (s : State) : Prop where
  | calling (call) (calls : s.calls call ≠ .idle)
  | starting (worker) (free : s.workers worker = .free)
  | reclaiming (worker) (reclaim : s.workers worker = .reclaim) (stopped : s.scavengeRunning = false)
  | signalled (worker) (needed : s.scavengeNeeded ∨ s.shouldScavenge = some true)
    (looks : s.workers worker = .swap ∨ s.workers worker = .stop ∨ s.workers worker = .recheck)

structure Handed (events : List Event) (s : State) : Prop where
  active : s.scavengeRunning → Active s
  due : Followed events ∨ Due s

variable {past events : List Event} {s next : State}

theorem followed_pass : Followed (past ++ [.pass]) := by
  intro earlier later split
  obtain rfl | ⟨front,last,rfl⟩ := later.eq_nil_or_concat
  · simpa using append_inj_right' split rfl
  · have same : [Event.pass] = [last] := append_inj_right' (split.trans (by simp : _ = (earlier ++ .began :: front) ++ [last])) rfl
    simp_all

variable {worker v : Nat} {later : Worker}

theorem setWorker_other (other : v ≠ worker) : (setWorker s worker later).workers v = s.workers v :=
  Function.update_of_ne other ..

/-- An active worker stays active where only one that was not, or still is, moved. -/
theorem Active.move (active : Active s) (moved : s.workers worker = .recheck ∨ s.workers worker = .reclaim ∨
      s.workers worker = .absent ∨ later = .free ∨ later = .swap ∨ later = .stop) : Active (setWorker s worker later) := by
  obtain ⟨v,stands⟩ := active
  refine ⟨v,?_⟩
  by_cases same : v = worker
  · subst same
    simp only [setWorker,Function.update_self]
    grind
  · rwa [setWorker_other same]

/-- Where only the signal moves, a pass stays due as long as it is not lost. -/
theorem Due.signal (due : Due s) (needed : Bool) (held : Option Bool)
    (kept : s.scavengeNeeded ∨ s.shouldScavenge = some true → needed ∨ held = some true) :
    Due { s with scavengeNeeded := needed, shouldScavenge := held } := by
  rcases due with ⟨call,calls⟩ | ⟨v,free⟩ | ⟨v,reclaim,stopped⟩ | ⟨v,signal,looks⟩
  · exact .calling call calls
  · exact .starting v free
  · exact .reclaiming v reclaim stopped
  · exact .signalled v (kept signal) looks

/-- What is due stays due when a worker that looks for the signal moves on; only the signal itself may be taken. -/
theorem Due.look (due : Due s) {running needed : Bool}
    (looks : s.workers worker = .swap ∨ s.workers worker = .stop ∨ s.workers worker = .recheck)
    (stays : s.scavengeRunning = false → running = false)
    (signal : s.scavengeNeeded ∨ s.shouldScavenge = some true →
      Due (setWorker { s with scavengeRunning := running, scavengeNeeded := needed } worker later)) :
    Due (setWorker { s with scavengeRunning := running, scavengeNeeded := needed } worker later) := by
  rcases due with ⟨call,calls⟩ | ⟨v,free⟩ | ⟨v,reclaim,stopped⟩ | ⟨v,needed,_⟩
  · exact .calling call calls
  · exact .starting v ((setWorker_other (by grind)).trans free)
  · exact .reclaiming v ((setWorker_other (by grind)).trans reclaim) (stays stopped)
  · exact signal needed

theorem handed_work (handed : Handed past s) (timely : Timely s (.work worker))
    (ok : work s worker = some (next,events)) : Handed (past ++ events) next := by
  obtain ⟨active,due⟩ := handed
  unfold work at ok
  cases stands : s.workers worker <;> simp only [stands,some.injEq,Prod.mk.injEq,reduceCtorEq] at ok <;>
    obtain ⟨rfl,rfl⟩ := ok
  case free => exact ⟨fun running => (active running).move (by simp),.inl followed_pass⟩
  all_goals rw [append_nil]
  case swap =>
    refine ⟨fun running => Active.move (s := { s with scavengeNeeded := false }) (active running) (by grind),due.imp_right
      fun due => due.look (.inl stands) id fun signal => ?_⟩
    by_cases needed : s.scavengeNeeded
    · exact .starting worker (by simp [setWorker,needed])
    · -- The release holds the signal and may put it back before the last look.
      exact .signalled worker (.inr (signal.resolve_left needed)) (by simp [setWorker,needed])
  case stop =>
    refine ⟨by simp [setWorker],due.imp_right fun due => due.look (.inr (.inl stands)) (fun _ => rfl) fun signal => ?_⟩
    exact .signalled worker signal (by simp [setWorker])
  case recheck =>
    refine ⟨fun running => Active.move (s := { s with scavengeNeeded := false }) (active running) (.inl stands),due.imp_right
      fun due => due.look (.inr (.inr stands)) id fun signal => ?_⟩
    have ⟨free,stopped⟩ := timely stands
    have needed := signal.resolve_right free
    exact .reclaiming worker (by simp [setWorker,needed]) (stopped needed)
  case reclaim =>
    cases running : s.scavengeRunning with
    | false => exact ⟨fun _ => ⟨worker,by simp [setWorker]⟩,.inr (.starting worker (by simp [setWorker]))⟩
    | true =>
      refine ⟨fun _ => Active.move (s := { s with scavengeRunning := true }) (active running) (by grind),due.imp_right ?_⟩
      rintro (⟨call,calls⟩ | ⟨v,free⟩ | ⟨v,reclaim,stopped⟩ | ⟨v,needed,looks⟩)
      · exact .calling call calls
      · exact .starting v ((setWorker_other (by grind)).trans free)
      · cases running.symm.trans stopped
      · exact .signalled v needed (by rwa [setWorker_other (by grind)])

theorem handed_step {input : Input} (handed : Handed past s) (timely : Timely s input)
    (ok : step s input = some (next,events)) : Handed (past ++ events) next := by
  have ⟨active,due⟩ := handed
  cases input with
  | take =>
    simp only [step,ite_none_right_eq_some,some.injEq,Prod.mk.injEq] at ok
    obtain ⟨unheld,rfl,rfl⟩ := ok
    rw [append_nil]
    exact ⟨active,due.imp_right (·.signal _ _ (by simp [unheld]))⟩
  | drain call =>
    simp only [step] at ok
    split at ok
    · cases ok
    rename_i held
    split_ifs at ok with _ asks <;> cases ok
    · exact ⟨active,.inr (.calling call (by simp [setCall]))⟩
    · rw [append_nil]
      exact ⟨active,due.imp_right (·.signal _ _ (by simp_all))⟩
  | keep =>
    simp only [step] at ok
    split at ok <;> cases ok
    rename_i held
    rw [append_nil]
    exact ⟨active,due.imp_right (·.signal _ _ (by simp [held,or_comm]))⟩
  | request call worker =>
    simp only [step,ite_none_right_eq_some] at ok
    obtain ⟨_,ok⟩ := ok
    split at ok <;> cases ok
    · exact ⟨active,.inr (.calling call (by simp [setCall]))⟩
    · exact ⟨fun _ => ⟨worker,by simp [setWorker]⟩,.inr (.starting worker (by simp [setWorker]))⟩
  | signal call =>
    simp only [step,ite_none_right_eq_some,some.injEq,Prod.mk.injEq] at ok
    obtain ⟨_,rfl,rfl⟩ := ok
    refine ⟨active,.inr ?_⟩
    obtain ⟨v,free | looks⟩ := active timely
    · exact .starting v free
    · exact .signalled v (.inl rfl) (looks.imp_right .inl)
  | work worker => exact handed_work handed timely ok
  | reject =>
    obtain ⟨rfl,rfl⟩ := ok
    rw [append_nil]
    exact ⟨active,due.imp_right (·.signal _ _ (by simp))⟩

instance : ∀ input, Decidable (Timely s input)
  | .signal _ => inferInstanceAs (Decidable (s.scavengeRunning = true))
  | .work worker => inferInstanceAs (Decidable (s.workers worker = .recheck →
      s.shouldScavenge ≠ some true ∧ (s.scavengeNeeded → s.scavengeRunning = false)))
  | .take | .drain .. | .keep | .request .. | .reject => .isTrue trivial

/-- The second call leaves a signal, a release takes it, the worker misses it, and it is back for
the last look. -/
def keptRun : List Input :=
  [.take,.drain 0 true,.request 0 0,.take,.drain 1 true,.request 1 1,.work 0,.signal 1,.take,.work 0,.keep,
    .work 0,.work 0,.work 0,.work 0,.work 0,.work 0,.work 0]

end P2pstream.ScavengeHandoff
