import P2pstream.Kernel.LaneRetirement
import P2pstream.Library.Transitions
import Mathlib.Data.List.Perm.Subperm

/-! The supervisor of a lane keeps two attempts at most, retires one only for a replacement that serves, and
joins what it started.
-/
namespace P2pstream.LaneRetirement
open Kernel.LaneRetirement Supervisor Library.Transitions List Option

variable {past events : List Event} {s next : Supervisor} {attempt : Nat} {attempts : List Nat} {phase : Phase}

/-- Why an attempt may be cancelled: it has ended, the supervisor returns, or its replacement
reported ready before its receive owners were seen drained. -/
inductive Permitted (past : List Event) (attempt : Nat) : Prop where
  | ended (completed : .completed attempt ∈ past)
  | leaving (leaving : .leaving ∈ past)
  | retired (next earlier) (drained : past = earlier ++ [.drained attempt])
    (started : .started next (some attempt) ∈ earlier) (ready : .ready next ∈ earlier)

def Permits (past : List Event) : Event → Prop
  | .cancelled attempt => Permitted past attempt
  | _ => True

/-- What the supervisor knows of its attempts where it waits. -/
def Known (past : List Event) (attempts : List Nat) : Phase → Prop
  | .opening current | .permanent current | .serving current => attempts = [current]
  | .replacing current next => attempts = [current,next] ∧ .started next (some current) ∈ past
  | .draining old current servingEnded =>
    attempts = (if servingEnded then [old] else [old,current]) ∧ .started current (some old) ∈ past ∧ .ready current ∈ past
  | .leaving => .leaving ∈ past
  | .joining attempt => .leaving ∈ past ∧ .cancelled attempt ∈ past ∧ attempts.head? = some attempt
  | .returned => attempts = []

structure Joined (past : List Event) (lane : LaneAttempt) (attempt : Nat) : Prop where
  received : lane.done = .received
  cancelled : .cancelled attempt ∈ past
  completed : .completed attempt ∈ past

structure Sound (past : List Event) (s : Supervisor) : Prop where
  few : s.attempts.length ≤ 2
  distinct : s.attempts.Nodup
  below : ∀ attempt ∈ s.attempts, attempt < s.started
  joined : ∀ attempt < s.started, attempt ∉ s.attempts → Joined past (s.lanes attempt) attempt
  known : Known past s.attempts s.phase
  permitted : Judged Permits past

theorem known_append (events : List Event) (known : Known past attempts phase) : Known (past ++ events) attempts phase := by
  cases phase <;> simp_all [Known]

theorem Joined.append {lane : LaneAttempt} (joined : Joined past lane attempt) (events : List Event) :
    Joined (past ++ events) lane attempt :=
  ⟨joined.received,mem_append_left _ joined.cancelled,mem_append_left _ joined.completed⟩

section

variable (sound : Sound past s)
include sound

theorem Sound.turn (known : Known (past ++ events) s.attempts phase)
    (permitted : Judged (fun before => Permits (past ++ before)) events) : Sound (past ++ events) { s with phase } where
  few := sound.few
  distinct := sound.distinct
  below := sound.below
  joined attempt below free := (sound.joined attempt below free).append _
  known
  permitted := judged_append.mpr ⟨sound.permitted,permitted⟩

/-- The goroutine of an attempt acts, or its `ready` is taken. -/
theorem Sound.set {lane : LaneAttempt}
    (kept : (s.lanes attempt).done = .received → lane.done = .received) : Sound past (s.set attempt lane) := by
  refine { sound with joined := fun other below free => ?_ }
  obtain ⟨received,cancelled,completed⟩ := sound.joined other below free
  refine ⟨?_,cancelled,completed⟩
  by_cases same : other = attempt
  · subst same
    simpa [Supervisor.set] using kept received
  · simpa [Supervisor.set,same] using received

theorem Sound.ready {wait : Int → Phase} (ok : s.takeReady attempt wait = some (next,events))
    (known : ∀ interval, Known (past ++ [.ready attempt]) s.attempts (wait interval)) : Sound (past ++ events) next := by
  simp only [takeReady,map_eq_some_iff] at ok
  obtain ⟨interval,_,⟨⟩⟩ := ok
  exact Sound.turn (s := s.set ..) (sound.set id) (known interval) (by simp [Permits])

section

variable (received : (s.lanes attempt).done = .received)
include received

/-- The completion of an attempt was received, and it is cancelled by then. -/
theorem Sound.join (cancelled : .cancelled attempt ∈ past ++ events) (completed : .completed attempt ∈ events)
    (known : Known (past ++ events) (s.attempts.erase attempt) phase)
    (permitted : Judged (fun before => Permits (past ++ before)) events) :
    Sound (past ++ events) { s with attempts := s.attempts.erase attempt, phase } where
  few := Nat.le_trans length_erase_le sound.few
  distinct := sound.distinct.erase _
  below other mem := sound.below other (mem_of_mem_erase mem)
  joined other below free := by
    by_cases own : other = attempt
    · subst own
      exact ⟨received,cancelled,mem_append_right _ completed⟩
    · exact (sound.joined other below (mt (mem_erase_of_ne own).mpr free)).append _
  known
  permitted := judged_append.mpr ⟨sound.permitted,permitted⟩

theorem Sound.forget (mem : attempt ∈ s.attempts)
    (known : phase = .leaving ∨ Known past (s.attempts.erase attempt) phase) :
    Sound (past ++ (s.forget attempt phase).2) (s.forget attempt phase).1 := by
  have ended : Permitted (past ++ [.completed attempt]) attempt := .ended (by simp)
  refine sound.join received (by simp [Supervisor.forget,mem]) (by simp [Supervisor.forget]) ?_ ?_
  · rcases known with rfl | known
    · simp [Known,Supervisor.forget]
    · exact known_append _ known
  · by_cases leaves : phase = .leaving <;> simpa [Supervisor.forget,mem,leaves,Permits]

theorem sound_ended (ok : s.ended attempt = some (next,events)) : Sound (past ++ events) next := by
  have known := sound.known
  have distinct := sound.distinct
  unfold ended at ok
  cases phase : s.phase with
  | opening | permanent | serving =>
    simp only [phase,ite_none_right_eq_some] at ok
    obtain ⟨rfl,⟨⟩⟩ := ok
    exact sound.forget received (by simp_all [Known]) (.inl rfl)
  | replacing current following =>
    simp only [phase,ite_none_right_eq_some] at ok
    obtain ⟨rfl,⟨⟩⟩ := ok
    exact sound.forget received (by simp_all [Known]) (.inr (by simp_all [Known]))
  | draining old current servingEnded =>
    simp only [phase] at ok
    split at ok
    · next own =>
      cases ok
      refine sound.forget received ?_ ?_
      all_goals cases servingEnded <;> simp_all [Known]
    · simp only [ite_none_right_eq_some] at ok
      obtain ⟨⟨rfl,rfl⟩,⟨⟩⟩ := ok
      exact sound.forget received (by simp_all [Known]) (.inr (by simp_all [Known]))
  | joining current =>
    simp only [phase,ite_none_right_eq_some] at ok
    obtain ⟨rfl,⟨⟩⟩ := ok
    rw [phase] at known
    obtain ⟨leaving,cancelled,first⟩ := known
    obtain ⟨rest,split⟩ := head?_eq_some_iff.mp first
    have erased : s.attempts.erase attempt = s.attempts.tail := by simp [split]
    rw [← erased]
    exact sound.join received (by simp [cancelled]) (by simp) (by simp [Known,leaving]) (by simp [Permits])
  | leaving | returned => simp [phase] at ok

end

theorem sound_step {input : Input} (ok : s.step input = some (next,events)) : Sound (past ++ events) next := by
  have known := sound.known
  cases input with
  | cancel =>
    cases ok
    rw [append_nil]
    exact { sound with }
  | report attempt interval =>
    simp only [Supervisor.step,ite_none_right_eq_some] at ok
    obtain ⟨_,⟨⟩⟩ := ok
    rw [append_nil]
    exact sound.set id
  | finish attempt =>
    simp only [Supervisor.step,ite_none_right_eq_some] at ok
    obtain ⟨⟨_,running⟩,⟨⟩⟩ := ok
    rw [append_nil]
    exact sound.set (by simp [running])
  | ctxDone =>
    simp only [Supervisor.step] at ok
    split at ok
    case h_4 =>
      simp only [ite_none_right_eq_some] at ok
      obtain ⟨_,⟨⟩⟩ := ok
      exact sound.turn (by simp [Known]) (by simp [Permits])
    all_goals cases ok
  | ready =>
    simp only [Supervisor.step] at ok
    split at ok
    · refine sound.ready ok fun interval => ?_
      split <;> simp_all [Known]
    · exact sound.ready ok fun _ => by simp_all [Known]
    · cases ok
  | done attempt =>
    simp only [Supervisor.step,ite_none_left_eq_some] at ok
    exact sound_ended (sound.set fun _ => rfl) (by simp [Supervisor.set]) ok.2
  | timer =>
    simp only [Supervisor.step] at ok
    split at ok
    · next current phase =>
      cases ok
      simp only [phase,Known] at known
      have below := sound.below
      have joined := sound.joined
      simp only [known,mem_singleton,forall_eq] at below joined
      refine ⟨by simp [known],by simp [known,Nat.ne_of_lt below],?_,?_,?_,?_⟩
      · simp [known]
        omega
      · intro other old free
        simp only [known,cons_append,nil_append,mem_cons,not_mem_nil,or_false,not_or] at free
        simp only [Supervisor.set,Function.update_of_ne free.2]
        exact (joined other (Nat.lt_of_le_of_ne (Nat.le_of_lt_succ old) free.2) free.1).append _
      · simp [Known,known]
      · simpa [judged_append,Permits] using sound.permitted
    · cases ok
  | tick drained =>
    simp only [Supervisor.step] at ok
    split at ok
    · next old current _ phase =>
      cases ok
      rw [phase] at known
      have retired : Permitted (past ++ [.drained old]) old := .retired current past rfl known.2.1 known.2.2
      exact sound.turn (known_append _ sound.known) (by cases drained <;> simp [Permits,retired])
    · cases ok
  | next =>
    simp only [Supervisor.step] at ok
    split at ok
    · next empty =>
      cases ok
      exact sound.turn empty (by simp)
    · next attempt _ phase first =>
      cases ok
      rw [phase] at known
      have leaving : Permitted past attempt := .leaving known
      exact sound.turn (by simp_all [Known]) (by simpa [Permits])
    · cases ok

end

/-- An attempt is live while its completion was not received. -/
theorem lane_retirement_joins (inputs : List Input) (final : Supervisor) (events : List Event)
    (ran : run step new inputs = some (final,events)) :
    ((range final.started).filter fun attempt => (final.lanes attempt).done ≠ .received).length ≤ 2 ∧
    (∀ before attempt after, .started 0 none :: events = before ++ .cancelled attempt :: after → Permitted before attempt) ∧
    (final.phase = .returned → ∀ attempt < final.started, Joined events (final.lanes attempt) attempt) := by
  have begun : Sound [.started 0 none] new := by
    refine ⟨by decide,by decide,by decide,?_,rfl,by simp [Permits]⟩
    simp [new,start]
  have sound : Sound (.started 0 none :: events) final :=
    run_history (fun _ _ _ _ _ sound _ ok => sound_step sound ok) begun (meets_true _ _) ran
  refine ⟨?_,fun before attempt after split => sound.permitted before _ after split,fun returned attempt below => ?_⟩
  · refine Nat.le_trans ?_ sound.few
    refine (Nodup.subperm (nodup_range.filter _) fun attempt mem => ?_).length_le
    simp only [mem_filter,mem_range,decide_eq_true_eq] at mem
    by_contra free
    exact mem.2 (sound.joined attempt mem.1 free).received
  · have known := sound.known
    simp only [returned,Known] at known
    obtain ⟨received,cancelled,completed⟩ := sound.joined attempt below (by simp [known])
    exact ⟨received,by simpa using cancelled,by simpa using completed⟩

def exampleInputs : List Input :=
  [.report 0 5,.ready,.timer,.report 1 5,.ready,.tick true,.finish 0,.done 0,.finish 1,.done 1,.next]

/-- The second attempt replaces the first and ends. -/
theorem lane_retirement_joins_replaced : ∃ final events, run step new exampleInputs = some (final,events) ∧
    final.phase = .returned ∧ ∀ attempt < 2, Joined events (final.lanes attempt) attempt := by
  have ends : (run step new exampleInputs).map (fun r => (r.1.phase,r.1.started)) = some (.returned,2) := by decide
  obtain ⟨⟨final,events⟩,ran,shown⟩ := map_eq_some_iff.mp ends
  obtain ⟨returned,started⟩ := Prod.mk.inj shown
  have joins := (lane_retirement_joins _ final events ran).2.2 returned
  exact ⟨final,events,ran,returned,started ▸ joins⟩

end P2pstream.LaneRetirement
