import P2pstream.RateLimitBounds

/-! A sliding window decides by the hits that are still in it, and a refused request learns how
long the oldest of them stays.
-/
namespace P2pstream.SlidingWindow
open Kernel.RateLimits RateLimitBounds List

variable {ρ : Type} {rule : Rule ρ} {s : KeyRuntime} {hits times : List Int} {now t : Int}

/-- A request at one key: the state it leaves, and the times at which requests were allowed. -/
def attempt (rule : Rule ρ) (past : KeyRuntime × List Int) (now : Int) : KeyRuntime × List Int :=
  ((past.1.allow rule now).1,if (past.1.allow rule now).2.allowed then past.2 ++ [now] else past.2)

def presented (rule : Rule ρ) (times : List Int) : KeyRuntime × List Int := times.foldl (attempt rule) ({},[])

/-- The state has given up only hits that no later window holds. -/
structure Exact (rule : Rule ρ) (now : Int) (hits : List Int) (s : KeyRuntime) : Prop where
  past : ∀ hit ∈ hits, hit ≤ now
  sorted : s.slidingHits.Pairwise (· ≤ ·)
  held : ∀ hit ∈ s.slidingHits, hit ≤ now
  bounded : (s.slidingHits.length : Int) ≤ rule.limit
  kept : ∀ t, now ≤ t → (hits.countP fun hit => t - rule.windowMillis < hit) =
    s.slidingHits.countP fun hit => t - rule.windowMillis < hit

theorem Exact.later (exact : Exact rule now hits s) (order : now ≤ t) : Exact rule t hits s where
  past hit mem := (exact.past hit mem).trans order
  sorted := exact.sorted
  held hit mem := (exact.held hit mem).trans order
  bounded := exact.bounded
  kept later after := exact.kept later (order.trans after)

theorem Exact.attempt (exact : Exact rule now hits s) (sliding : rule.algorithm = .slidingWindow) :
    Exact rule now (attempt rule (s,hits) now).2 (attempt rule (s,hits) now).1 := by
  obtain ⟨left,allows⟩ := sliding_eq rule now s exact.sorted
  have same : s.allow rule now = s.allowSlidingWindow rule now := by rw [KeyRuntime.allow,sliding]
  have inside : ∀ hit ∈ s.slidingHits.filter (now - rule.windowMillis < ·), hit ≤ now := fun hit mem =>
    exact.held hit (mem_of_mem_filter mem)
  have sorted := exact.sorted.filter (now - rule.windowMillis < ·)
  unfold SlidingWindow.attempt
  rw [same]
  by_cases allowed : (s.allowSlidingWindow rule now).2.allowed
  · have room := allows.mp allowed
    rw [countP_eq_length_filter] at room
    rw [if_pos allowed] at left ⊢
    have last {list : List Int} (held : ∀ hit ∈ list, hit ≤ now) : ∀ hit ∈ list ++ [now], hit ≤ now := by
      simpa [or_imp,forall_and] using held
    refine ⟨last exact.past,?_,?_,?_,fun later after => ?_⟩
    · rw [left]
      refine pairwise_append.mpr ⟨sorted,pairwise_singleton _ _,fun hit mem other single => ?_⟩
      rw [mem_singleton.mp single]
      exact inside hit mem
    · rw [left]
      exact last inside
    · rw [left,length_append]
      exact Int.add_one_le_of_lt room
    · rw [left,countP_append,countP_append,count_filter after,exact.kept later after]
  · rw [if_neg allowed,append_nil] at left
    rw [if_neg allowed]
    refine ⟨exact.past,?_,?_,?_,fun later after => ?_⟩
    · rwa [left]
    · rwa [left]
    · have shorter := length_filter_le (now - rule.windowMillis < ·) s.slidingHits
      have bounded := exact.bounded
      rw [left]
      omega
    · rw [left,count_filter after,exact.kept later after]

theorem exact_presented (limit : 0 ≤ rule.limit) (sliding : rule.algorithm = .slidingWindow)
    (ordered : times.Pairwise (· ≤ ·)) (latest : ∀ time ∈ times, time ≤ t) :
    Exact rule t (presented rule times).2 (presented rule times).1 := by
  induction times using reverseRecOn generalizing t with
  | nil => exact ⟨nofun,.nil,nofun,limit,fun _ _ => rfl⟩
  | append_singleton _ now ih =>
    obtain ⟨sorted,_,order⟩ := pairwise_append.mp ordered
    have exact := ih sorted fun time mem => order time mem now (.head _)
    unfold presented
    rw [foldl_append]
    exact (exact.attempt sliding).later (latest now (by simp))

/-- A refusal names the wait after which the oldest hit leaves the window. -/
theorem retry_exact (exact : Exact rule t hits s) (limit : 1 ≤ rule.limit)
    (refused : (s.allowSlidingWindow rule t).2.allowed = false) :
    ∃ wait, 0 < wait ∧ (s.allowSlidingWindow rule t).2.retryAfter = wait * millisecond ∧ ∀ later, 0 ≤ later →
      (((s.allowSlidingWindow rule t).1.allowSlidingWindow rule (t + later)).2.allowed ↔ wait ≤ later) := by
  obtain ⟨left,allows⟩ := sliding_eq rule t s exact.sorted
  have full : rule.limit ≤ (s.slidingHits.filter (t - rule.windowMillis < ·)).length := by
    rw [← countP_eq_length_filter]
    by_contra room
    rw [allows.mpr (not_le.mp room)] at refused
    cases refused
  have shorter := length_filter_le (t - rule.windowMillis < ·) s.slidingHits
  have bounded := exact.bounded
  have sorted := exact.sorted.filter (t - rule.windowMillis < ·)
  have inside : ∀ hit ∈ s.slidingHits.filter (t - rule.windowMillis < ·), t - rule.windowMillis < hit := by simp
  rw [if_neg (by simp [refused]),append_nil] at left
  have answer : (s.allowSlidingWindow rule t).2.retryAfter = millisDuration
      ((s.slidingHits.filter (t - rule.windowMillis < ·)).headD 0 + rule.windowMillis - t) := by
    simp only [KeyRuntime.allowSlidingWindow,dropWhile_sorted _ exact.sorted,full,if_true]
  rw [answer]
  have next (later : Int) := (sliding_eq rule (t + later) (s.allowSlidingWindow rule t).1 (left ▸ sorted)).2
  simp only [left] at next
  cases window : s.slidingHits.filter (t - rule.windowMillis < ·) with
  | nil =>
    rw [window] at full
    simp at full
    omega
  | cons first rest =>
    rw [window] at next full sorted inside shorter
    have positive : 0 < first + rule.windowMillis - t := by linarith [inside first (.head _)]
    refine ⟨first + rule.windowMillis - t,positive,?_,fun later _ => ?_⟩
    · exact congrArg (· * millisecond) (if_neg (Int.not_lt.mpr positive))
    rw [next later,countP_cons]
    simp only [length_cons] at full shorter
    by_cases leaves : first + rule.windowMillis - t ≤ later
    · have fewer := countP_le_length (p := fun hit => decide (t + later - rule.windowMillis < hit)) (l := rest)
      have out : ¬ t + later - rule.windowMillis < first := by omega
      simp
      omega
    · have all : rest.countP (fun hit => decide (t + later - rule.windowMillis < hit)) = rest.length := by
        refine countP_eq_length.mpr fun hit mem => ?_
        have order := (pairwise_cons.mp sorted).1 hit mem
        simp
        omega
      simp
      omega

/-- A request is allowed exactly if fewer requests than the limit were allowed in the window that
ends with it, and a refusal reports the smallest wait after which the next one is allowed. -/
theorem sliding_window_exact (rule : Rule ρ) (sliding : rule.algorithm = .slidingWindow) (limit : 1 ≤ rule.limit)
    (times : List Int) (t : Int) (ordered : (times ++ [t]).Pairwise (· ≤ ·)) :
    (((presented rule times).1.allow rule t).2.allowed = true ↔
      ((presented rule times).2.countP fun hit => t - rule.windowMillis < hit ∧ hit ≤ t : Int) < rule.limit) ∧
    (((presented rule times).1.allow rule t).2.allowed = false → ∃ wait, 0 < wait ∧
      ((presented rule times).1.allow rule t).2.retryAfter = wait * millisecond ∧ ∀ later, 0 ≤ later →
        ((((presented rule times).1.allow rule t).1.allow rule (t + later)).2.allowed = true ↔ wait ≤ later)) := by
  obtain ⟨sorted,_,order⟩ := pairwise_append.mp ordered
  have exact : Exact rule t (presented rule times).2 (presented rule times).1 :=
    exact_presented (by omega) sliding sorted fun time mem => order time mem t (.head _)
  have same (s : KeyRuntime) (now : Int) : s.allow rule now = s.allowSlidingWindow rule now := by
    rw [KeyRuntime.allow,sliding]
  simp only [same]
  refine ⟨?_,retry_exact exact limit⟩
  rw [(sliding_eq rule t _ exact.sorted).2,← exact.kept t (le_refl t)]
  have window : (presented rule times).2.countP (fun hit => t - rule.windowMillis < hit ∧ hit ≤ t) =
      (presented rule times).2.countP fun hit => t - rule.windowMillis < hit :=
    countP_congr fun hit mem => by simp [exact.past hit mem]
  rw [window]

def slidingPair : Rule Unit := pairRule .slidingWindow

/-- Exactly a window after the first of two hits, a third request is allowed again. -/
theorem sliding_window_exact_pair : ((presented slidingPair [0,400,999]).1.allow slidingPair 999).2.allowed = false ∧
      ((presented slidingPair [0,400,999]).1.allow slidingPair 1000).2.allowed = true ∧
      ((presented slidingPair [0,400,999]).2.countP fun hit => 1000 - 1000 < hit ∧ hit ≤ 1000 : Int) < 2 := by
  have allowed : ((presented slidingPair [0,400,999]).1.allow slidingPair 1000).2.allowed := by decide +kernel
  exact ⟨by decide +kernel,allowed,(sliding_window_exact slidingPair rfl (by decide) [0,400,999] 1000 (by decide)).1.mp allowed⟩

end P2pstream.SlidingWindow
