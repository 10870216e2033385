import Mathlib.Algebra.BigOperators.Ring.Finset
import Mathlib.Algebra.Order.BigOperators.Group.Finset
import Mathlib.Data.Nat.Count
import Mathlib.Tactic.Linarith
import Mathlib.Tactic.Ring

/-! Smooth rotation: each pick adds every share to its counter and takes the total of the shares
off a greatest one. A period as long as the total brings all counters back to zero.
-/
namespace P2pstream.Library
open Finset

variable {σ ι : Type}

structure Rotation [DecidableEq ι] (ids : Finset ι) (share : ι → ℤ) (counter : σ → ι → ℤ) (pick : σ → ι × σ) : Prop where
  nonempty : ids.Nonempty
  positive : ∀ i ∈ ids, 0 < share i
  mem : ∀ s, (pick s).1 ∈ ids
  greatest : ∀ s, ∀ i ∈ ids, counter s i + share i ≤ counter s (pick s).1 + share (pick s).1
  picked : ∀ s, ∀ i ∈ ids, counter (pick s).2 i = counter s i + share i - if (pick s).1 = i then ∑ j ∈ ids, share j else 0

namespace Rotation

def after (pick : σ → ι × σ) (s : σ) (n : ℕ) : σ := (fun s => (pick s).2)^[n] s

def chosen (pick : σ → ι × σ) (s : σ) (n : ℕ) : ι := (pick (after pick s n)).1

theorem after_succ (pick : σ → ι × σ) (s : σ) (n : ℕ) : after pick s (n + 1) = (pick (after pick s n)).2 :=
  Function.iterate_succ_apply' ..

theorem after_add (pick : σ → ι × σ) (s : σ) (m n : ℕ) : after pick s (m + n) = after pick (after pick s n) m :=
  Function.iterate_add_apply ..

variable [DecidableEq ι] {ids : Finset ι} {share : ι → ℤ} {counter : σ → ι → ℤ} {pick : σ → ι × σ} {s : σ}
variable (rotation : Rotation ids share counter pick)
include rotation

theorem total_pos : 0 < ∑ i ∈ ids, share i := sum_pos rotation.positive rotation.nonempty

/-- The counters add up to zero, so after the shares are added a greatest one is positive. -/
theorem pick_balanced (sum : ∑ i ∈ ids, counter s i = 0) (above : ∀ i ∈ ids, -∑ j ∈ ids, share j < counter s i) :
    ∑ i ∈ ids, counter (pick s).2 i = 0 ∧ ∀ i ∈ ids, -∑ j ∈ ids, share j < counter (pick s).2 i := by
  have positive : 0 < counter s (pick s).1 + share (pick s).1 := by
    by_contra low
    have none := sum_nonpos fun i here => (rotation.greatest s i here).trans (not_lt.mp low)
    rw [sum_add_distrib,sum,zero_add] at none
    exact absurd rotation.total_pos (not_lt.mpr none)
  constructor
  · rw [sum_congr rfl (rotation.picked s),sum_sub_distrib,sum_add_distrib,sum,sum_ite_eq,
      if_pos (rotation.mem s),zero_add,sub_self]
  · intro i here
    have before := above i here
    have added := rotation.positive i here
    rw [rotation.picked s i here]
    split_ifs with same
    · rw [same] at positive
      linarith
    · linarith

theorem after_balanced (start : ∀ i ∈ ids, counter s i = 0) (n : ℕ) :
    ∑ i ∈ ids, counter (after pick s n) i = 0 ∧ ∀ i ∈ ids, -∑ j ∈ ids, share j < counter (after pick s n) i := by
  induction n with
  | zero =>
    refine ⟨sum_eq_zero start,fun i here => ?_⟩
    change _ < counter s i
    linarith [start i here,rotation.total_pos]
  | succ n ih =>
    rw [after_succ]
    exact rotation.pick_balanced ih.1 ih.2

/-- A window of picks adds as many shares, and takes the total off as often as the identifier was chosen. -/
theorem counter_window (t n : ℕ) {i : ι} (here : i ∈ ids) :
    counter (after pick s (t + n)) i = counter (after pick s t) i + n * share i -
      (∑ j ∈ ids, share j) * Nat.count (fun k => chosen pick s (t + k) = i) n := by
  induction n with
  | zero => simp
  | succ n ih =>
    rw [← add_assoc,after_succ,rotation.picked _ i here,ih,Nat.count_succ,chosen]
    split_ifs <;> push_cast <;> ring

/-- At the end of a period the counters are multiples of the total above its negative. -/
theorem counter_period (start : ∀ i ∈ ids, counter s i = 0) {n : ℕ} (period : n = ∑ i ∈ ids, share i) :
    ∀ i ∈ ids, counter (after pick s n) i = 0 := by
  obtain ⟨sum,above⟩ := rotation.after_balanced start n
  refine (sum_eq_zero_iff_of_nonneg fun i here => ?_).mp sum
  have window := rotation.counter_window (s := s) 0 n here
  have above := above i here
  have first : counter (after pick s 0) i = 0 := start i here
  rw [zero_add,first,period,zero_add,← mul_sub] at window
  rw [window] at above ⊢
  have low := lt_of_mul_lt_mul_left ((mul_neg_one _).trans_lt above) rotation.total_pos.le
  exact mul_nonneg rotation.total_pos.le (by omega)

theorem count_window {n : ℕ} (period : n = ∑ i ∈ ids, share i) {t : ℕ} (returned : after pick s (t + n) = after pick s t)
    {i : ι} (here : i ∈ ids) : Nat.count (fun k => chosen pick s (t + k) = i) n = share i := by
  have window := rotation.counter_window (s := s) t n here
  rw [returned,period] at window
  refine mul_left_cancel₀ rotation.total_pos.ne' ?_
  linarith

end Rotation
end P2pstream.Library
