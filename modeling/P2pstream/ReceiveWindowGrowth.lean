import P2pstream.Kernel.ReceiveWindow
import P2pstream.Library.Transitions

/-! A proposal of the controller is bounded by the window it grows, and needs two epochs in a row.
-/
namespace P2pstream.ReceiveWindowGrowth
open Kernel.ReceiveWindow Library.Transitions

variable {rates : Rates} {g next : ReceiveWindowGrowth} {now rtt : Int} {n current maximum proposal : Nat}
  {epoch : Epoch} {past : List Observation}

def Supports (current desired : Nat) : Prop := current * 5 / 4 < desired

structure Bounded (maximum : Nat) (o : Observation) : Prop where
  current : o.current ≤ o.proposal
  maximum : o.proposal ≤ maximum
  doubled : o.proposal ≤ wholeChunks (2 * o.current)

theorem le_wholeChunks (window : Nat) : window ≤ wholeChunks window := by
  unfold wholeChunks
  omega

theorem wholeChunks_mono {small large : Nat} (le : small ≤ large) : wholeChunks small ≤ wholeChunks large := by
  unfold wholeChunks
  omega

/-- What an observation does to the memory of the last epoch, and what it proposes. -/
inductive Observed (previous current maximum : Nat) : Nat → Nat → Epoch → Prop where
  | continued : Observed previous current maximum previous current .continued
  | forgotten (epoch : Epoch) : Observed previous current maximum 0 current epoch
  | kept (desired : Nat) : Observed previous current maximum desired current (.completed desired)
  | proposed (desired : Nat) (within : desired ≤ maximum) (now : Supports current desired) (before : Supports current previous) :
      Observed previous current maximum desired
        (min (wholeChunks (min (min desired previous) (min (current * 2) maximum))) maximum) (.completed desired)

theorem observe_cases (ran : observe rates g now n current maximum rtt = (next,proposal,epoch)) :
    Observed g.previous current maximum next.previous proposal epoch := by
  unfold observe at ran
  cases restarts : g.start.all (now < ·) with
  | true =>
    -- An epoch that has just started cannot end.
    simp only [restarts,if_true,Option.getD_some,sub_self] at ran
    split at ran
    · cases ran
      exact .forgotten _
    rw [if_pos (lt_max_of_lt_left (by decide))] at ran
    cases ran
    exact .forgotten _
  | false =>
    simp only [restarts,Bool.false_eq_true,if_false] at ran
    split at ran
    · cases ran
      exact .forgotten _
    split at ran
    · cases ran
      exact .continued
    split at ran
    · cases ran
      exact .forgotten _
    generalize (if g.rate = 0 then _ else _ : ℚ) = smooth at ran
    split at ran
    · cases ran
      exact .kept _
    next supported =>
      cases ran
      rw [not_or,not_le,not_le] at supported
      exact .proposed _ (Nat.floor_le_of_le (min_le_left _ _)) supported.1 supported.2

theorem Observed.bounded {previous remembered : Nat} (observed : Observed previous current maximum remembered proposal epoch)
    (room : current < maximum) : Bounded maximum ⟨current,proposal,epoch⟩ := by
  have doubled : current ≤ wholeChunks (2 * current) := (by omega : current ≤ 2 * current).trans (le_wholeChunks _)
  cases observed with
  | proposed _ within now before =>
    unfold Supports at now before
    refine ⟨le_min (le_trans ?_ (le_wholeChunks _)) room.le,min_le_right _ _,(min_le_left _ _).trans (wholeChunks_mono ?_)⟩
    all_goals
      dsimp only
      omega
  | _ => exact ⟨le_refl _,room.le,doubled⟩

/-- The epoch before ended with this sample, and only observations inside the present one follow. -/
def Ended (past : List Observation) (desired : Nat) : Prop :=
  ∃ earlier last between, past = earlier ++ last :: between ∧ last.epoch = .completed desired ∧
    ∀ o ∈ between, o.epoch = .continued

/-- A proposal is bounded, and grows only on two epochs in a row that support it. -/
structure Justified (maximum : Nat) (past : List Observation) (o : Observation) : Prop where
  bounded : Bounded maximum o
  twice : o.current < o.proposal → ∃ desired prior, o.epoch = .completed desired ∧ Ended past prior ∧
    Supports o.current desired ∧ Supports o.current prior

structure Remembered (maximum : Nat) (past : List Observation) (c : GrowingConn) : Prop where
  limit : c.maximum = maximum
  previous : 0 < c.growth.previous → Ended past c.growth.previous
  justified : Judged (Justified maximum) past

theorem ended_append {o : Observation} {desired : Nat} (ended : Ended past desired) (continues : o.epoch = .continued) :
    Ended (past ++ [o]) desired := by
  obtain ⟨earlier,last,between,rfl,completed,quiet⟩ := ended
  refine ⟨earlier,last,between ++ [o],by simp,completed,?_⟩
  simpa [or_imp,forall_and] using ⟨quiet,continues⟩

theorem remembered_read {c after : GrowingConn} {r : Read} {events : List Observation} (remembered : Remembered maximum past c)
    (ok : c.growMeasured rates r = some (after,events)) : Remembered maximum (past ++ events) after := by
  unfold GrowingConn.growMeasured at ok
  split at ok
  · cases ok
    rwa [List.append_nil]
  next useful =>
    rcases ran : observe rates c.growth r.now r.n r.current c.maximum r.rtt with ⟨next,proposal,epoch⟩
    simp only [ran,Option.some.injEq,Prod.mk.injEq] at ok
    obtain ⟨rfl,rfl⟩ := ok
    have observed := observe_cases ran
    rw [remembered.limit] at observed useful
    have bounded := observed.bounded (by omega)
    -- A refusal only puts off the next growth.
    have kept {denied : Prop} [Decidable denied] {time : Option Int} :
        (if denied then { next with deniedUntil := time } else next).previous = next.previous := by split <;> rfl
    refine ⟨remembered.limit,?_,judged_append.mpr ⟨remembered.justified,?_⟩⟩
    · intro positive
      simp only [kept] at positive ⊢
      generalize next.previous = left at observed positive
      cases observed with
      | continued => exact ended_append (remembered.previous positive) rfl
      | forgotten => exact absurd positive (lt_irrefl 0)
      | kept | proposed => exact ⟨past,_,[],rfl,rfl,by simp⟩
    · simp only [judged_cons,List.append_nil,judged_nil,and_true]
      refine ⟨bounded,fun grows => ?_⟩
      generalize next.previous = left at observed
      cases observed with
      | proposed _ _ now prior => exact ⟨_,_,rfl,remembered.previous (Nat.zero_lt_of_lt prior),now,prior⟩
      | _ => exact absurd grows (lt_irrefl _)

theorem window_growth_debounced (rates : Rates) (maximum : Nat) (created : Int) (reads : List Read) (final : GrowingConn)
    (observed : List Observation) (ran : run (GrowingConn.growMeasured rates) (.new maximum created) reads = some (final,observed)) :
    ∀ before o after, observed = before ++ o :: after → Justified maximum before o := by
  have begun : Remembered maximum [] (.new maximum created) := ⟨rfl,fun none => absurd none (lt_irrefl 0),by simp⟩
  refine (run_history (fun _ _ _ _ _ remembered _ ok => remembered_read remembered ok) begun (meets_true _ _) ran).justified

def exampleRead (now : Int) : Read := ⟨now,65536,10000000,65536,false,false,false,true⟩

/-- The second of two fast epochs doubles the window. -/
theorem window_growth_debounced_doubles :
    Justified 1048576 [⟨65536,65536,.completed 524288⟩] ⟨65536,131072,.completed 524288⟩ := by
  have observed : (run (GrowingConn.growMeasured exactRates) (.new 1048576 0) [exampleRead 10000000,exampleRead 20000000]).map
      Prod.snd = some [⟨65536,65536,.completed 524288⟩,⟨65536,131072,.completed 524288⟩] := by decide +kernel
  obtain ⟨⟨final,_⟩,ran,rfl⟩ := Option.map_eq_some_iff.mp observed
  exact window_growth_debounced exactRates 1048576 0 _ final _ ran [_] _ [] rfl

end P2pstream.ReceiveWindowGrowth
