import P2pstream.RateLimitPruning

/-! What windows bound. Requests that reach the limiter in the order of their times find every
earlier hit of their window counted; a late one may find its window already given up.
-/
namespace P2pstream.RateLimitBounds
open Kernel.RateLimits RateLimitPruning Kernel.RateLimits.KeyRuntime List Limiter Int

variable {ρ : Type} {rule : Rule ρ} {s : KeyRuntime} {n : Int} {now later : Nat} {hits : List Int}

/-- In every aligned window, or in every interval as long as the window, there are at most as
many hits as the rule allows. -/
def Bounded (rule : Rule ρ) (hits : List Int) : Prop := match rule.algorithm with
  | .fixedWindow => ∀ window, (hits.countP fun hit => hit / rule.windowMillis = window : Int) ≤ rule.limit
  | .slidingWindow => ∀ start, (hits.countP fun hit => start < hit ∧ hit ≤ start + rule.windowMillis : Int) ≤ rule.limit
  | _ => True

def countAt (rule : Rule ρ) (n : Int) (s : KeyRuntime) : Int :=
  if s.fixedWindowStart = n / rule.windowMillis * rule.windowMillis then s.fixedCount else 0

def Tallied (rule : Rule ρ) (now : Nat) (s : KeyRuntime) (hits : List Int) : Prop := match rule.algorithm with
  | .fixedWindow => ∀ n, unixMilli now ≤ n →
      (hits.countP fun hit => hit / rule.windowMillis = n / rule.windowMillis : Int) ≤ countAt rule n s
  | .slidingWindow => s.slidingHits.Pairwise (· ≤ ·) ∧ ∀ n, unixMilli now ≤ n →
      (hits.countP fun hit => n - rule.windowMillis < hit) ≤ s.slidingHits.countP fun hit => n - rule.windowMillis < hit
  | _ => True

theorem bounded_sublist {fewer : List Int} (bounded : Bounded rule hits) (part : fewer.Sublist hits) : Bounded rule fewer := by
  unfold Bounded at bounded ⊢
  split at bounded
  next => exact fun window => le_trans (ofNat_le.mpr part.countP_le) (bounded window)
  next => exact fun start => le_trans (ofNat_le.mpr part.countP_le) (bounded start)
  next => trivial

theorem fixed_eq (rule : Rule ρ) (n : Int) (s : KeyRuntime) : (s.allowFixedWindow rule n).1.fixedCount =
        (if rule.limit ≤ countAt rule n s then countAt rule n s else countAt rule n s + 1) ∧
      ((s.allowFixedWindow rule n).2.allowed ↔ countAt rule n s < rule.limit) := by
  have entered : (s.enterWindow (n / rule.windowMillis * rule.windowMillis)).fixedCount = countAt rule n s := by
    unfold enterWindow countAt
    split_ifs <;> simp_all
  unfold allowFixedWindow
  dsimp only
  rw [entered]
  split_ifs with full
  · exact ⟨entered,by simpa using full⟩
  · exact ⟨by rw [← entered],by simpa using full⟩

/-- A fixed window after a consultation: the count of the time's window is the one stored, with
the hit if there is one. -/
theorem fixed_tallied (positive : 0 < rule.windowMillis) (past : ∀ hit ∈ hits, hit ≤ n)
    (tallied : (hits.countP fun hit => hit / rule.windowMillis = n / rule.windowMillis : Int) ≤ countAt rule n s)
    {after : List Int} (counted : after = if (s.allowFixedWindow rule n).2.allowed then hits ++ [n] else hits)
    {m : Int} (order : n ≤ m) :
    (after.countP fun hit => hit / rule.windowMillis = m / rule.windowMillis : Int) ≤
      countAt rule m (s.allowFixedWindow rule n).1 := by
  obtain ⟨stored,allowed⟩ := fixed_eq rule n s
  have start := fixed_start rule n s
  by_cases same : m / rule.windowMillis = n / rule.windowMillis
  · have here : countAt rule m (s.allowFixedWindow rule n).1 = (s.allowFixedWindow rule n).1.fixedCount := by
      unfold countAt
      rw [start,same,if_pos rfl]
    rw [here,stored,counted,same]
    split_ifs with hit full full
    · exact absurd (allowed.mp hit) (not_lt.mpr full)
    · rw [countP_append]
      simp only [countP_cons_of_pos,countP_nil,decide_true]
      omega
    · exact tallied
    · exact absurd (allowed.mpr (not_le.mp full)) hit
  · have none : after.countP (fun hit => hit / rule.windowMillis = m / rule.windowMillis) = 0 := by
      rw [counted,countP_eq_zero]
      intro hit mem
      have early : hit ≤ n := by
        split_ifs at mem
        · rcases mem_append.mp mem with old | this
          · exact past hit old
          · exact (mem_singleton.mp this).le
        · exact past hit mem
      have before := Int.ediv_le_ediv positive early
      have after := Int.ediv_le_ediv positive order
      simp only [decide_eq_true_eq]
      omega
    have elsewhere : ¬ (s.allowFixedWindow rule n).1.fixedWindowStart = m / rule.windowMillis * rule.windowMillis := by
      rw [start,mul_eq_mul_right_iff (ne_of_gt positive)]
      exact fun equal => same equal.symm
    unfold countAt
    rw [none,if_neg elsewhere]
    simp

theorem dropWhile_sorted (cutoff : Int) {list : List Int} (sorted : list.Pairwise (· ≤ ·)) :
    list.dropWhile (· ≤ cutoff) = list.filter (cutoff < ·) := by
  induction list with
  | nil => rfl
  | cons first _ ih =>
    rw [pairwise_cons] at sorted
    by_cases old : first ≤ cutoff
    · rw [dropWhile_cons_of_pos (by simpa using old),filter_cons_of_neg (by simpa using old)]
      exact ih sorted.2
    · rw [dropWhile_cons_of_neg (by simpa using old)]
      refine (filter_eq_self.mpr fun hit mem => ?_).symm
      rcases mem_cons.mp mem with rfl | later
      · simpa using old
      · have bound := sorted.1 hit later
        exact decide_eq_true (by omega)

theorem sliding_eq (rule : Rule ρ) (n : Int) (s : KeyRuntime) (sorted : s.slidingHits.Pairwise (· ≤ ·)) :
    (s.allowSlidingWindow rule n).1.slidingHits = (s.slidingHits.filter (n - rule.windowMillis < ·) ++
        if (s.allowSlidingWindow rule n).2.allowed then [n] else []) ∧
      ((s.allowSlidingWindow rule n).2.allowed ↔
        (s.slidingHits.countP fun hit => n - rule.windowMillis < hit : Int) < rule.limit) := by
  simp only [allowSlidingWindow,dropWhile_sorted _ sorted,countP_eq_length_filter]
  by_cases full : rule.limit ≤ (s.slidingHits.filter (n - rule.windowMillis < ·)).length
  · simp [full]
  · simp only [full,if_false,if_true,true_and,true_iff]
    exact not_le.mp full

theorem count_filter {m : Int} (order : n ≤ m) (list : List Int) :
    (list.filter (n - rule.windowMillis < ·)).countP (fun hit => m - rule.windowMillis < hit) =
      list.countP fun hit => m - rule.windowMillis < hit := by
  rw [countP_filter]
  apply countP_congr
  intro _ _
  simp only [Bool.and_eq_true,decide_eq_true_eq]
  omega

variable {rules : List (Rule ρ)} {l : Limiter} {key : String}

structure Counts (rule : Rule ρ) (now : Nat) (state : Option KeyRuntime) (hits : List Int) : Prop where
  past : ∀ hit ∈ hits, hit ≤ unixMilli now
  bounded : Bounded rule hits
  tallied : Tallied rule now (state.getD {}) hits
  settled : ∀ s, state = some s → ∃ seen, s.lastSeenAt = some seen ∧ seen ≤ now ∧ Settled rule seen s

theorem counts_none (valid : Validated rule) (now : Nat) : Counts rule now none [] := by
  have limit : 0 ≤ rule.limit := le_trans (by decide) valid.limit
  refine ⟨by simp,?_,?_,by simp⟩
  · unfold Bounded
    split <;> simp [limit]
  · unfold Tallied
    split
    · intro _ _
      simp [countAt]
    · simp
    · trivial

theorem counts_later {state : Option KeyRuntime} (counts : Counts rule now state hits) (le : now ≤ later) :
    Counts rule later state hits := by
  have order := unixMilli_mono le
  refine ⟨fun hit mem => le_trans (counts.past hit mem) order,counts.bounded,?_,fun s found => ?_⟩
  · have tallied := counts.tallied
    unfold Tallied at tallied ⊢
    split at tallied
    next => exact fun n after => tallied n (le_trans order after)
    next => exact ⟨tallied.1,fun n after => tallied.2 n (le_trans order after)⟩
    next => trivial
  · obtain ⟨seen,last,before,settled⟩ := counts.settled s found
    exact ⟨seen,last,before.trans le,settled⟩

theorem counts_idle (valid : Validated rule) (back : outlived rule) (counts : Counts rule now (some s) hits)
    (idle : Limiter.idle now s) : Counts rule now none hits := by
  obtain ⟨seen,last,_,settled⟩ := counts.settled s rfl
  have long : rateLimitIdleStateTTL < (now : Int) - seen := by simpa [Limiter.idle,last] using idle
  have millis := idle_millis long
  have window : 0 < rule.windowMillis := lt_of_lt_of_le (by decide) valid.window
  refine ⟨counts.past,counts.bounded,?_,by simp⟩
  have tallied := counts.tallied
  unfold Settled at settled
  unfold Tallied at tallied ⊢
  split at tallied
  next kind =>
    simp only [kind] at settled
    have short := outlived_window back (.inl kind)
    intro n after
    have start := lt_ediv_add_one_mul_self n window
    rw [add_mul] at start
    have elsewhere : s.fixedWindowStart ≠ n / rule.windowMillis * rule.windowMillis := by omega
    have none := tallied n after
    simp only [Option.getD_some,countAt,if_neg elsewhere] at none
    refine le_trans none ?_
    simp [countAt]
  next kind =>
    simp only [kind] at settled
    have short := outlived_window back (.inr kind)
    refine ⟨by simp,fun n after => ?_⟩
    have none := tallied.2 n after
    have dropped : s.slidingHits.countP (fun hit => n - rule.windowMillis < hit) = 0 := by
      rw [countP_eq_zero]
      intro hit mem
      have old := settled hit mem
      simp only [decide_eq_true_eq]
      omega
    simp only [Option.getD_some,dropped] at none
    simpa using none
  next => trivial

theorem counts_consult (valid : Validated rule) {state : Option KeyRuntime} (counts : Counts rule now state hits)
    (answer : KeyRuntime × AllowResult)
    (asked : answer = allow rule (unixMilli now) { state.getD {} with lastSeenAt := some now }) :
    Counts rule now (some answer.1) (if answer.2.allowed then hits ++ [unixMilli now] else hits) := by
  have window : 0 < rule.windowMillis := lt_of_lt_of_le (by decide) valid.window
  have before : Settled rule now { state.getD {} with lastSeenAt := some now } := by
    cases state with
    | none => exact settled_fresh valid now
    | some s =>
      obtain ⟨_,_,order,settled⟩ := counts.settled s rfl
      exact settled_later settled order
  have tallied : Tallied rule now { state.getD {} with lastSeenAt := some now } hits := counts.tallied
  have last : ({ state.getD {} with lastSeenAt := some now } : KeyRuntime).lastSeenAt = some now := rfl
  generalize ({ state.getD {} with lastSeenAt := some now } : KeyRuntime) = touched at asked before tallied last
  refine ⟨?_,?_,?_,?_⟩
  · intro hit mem
    split_ifs at mem
    · rcases mem_append.mp mem with old | this
      · exact counts.past hit old
      · exact (mem_singleton.mp this).le
    · exact counts.past hit mem
  · split_ifs with allowed
    · have bounded := counts.bounded
      unfold Bounded at bounded ⊢
      unfold Tallied at tallied
      unfold allow at asked
      split at bounded
      next kind =>
        simp only [kind] at asked tallied
        subst asked
        intro window
        have below := (fixed_eq rule _ touched).2.mp allowed
        have here := tallied _ le_rfl
        rw [countP_append]
        by_cases same : unixMilli now / rule.windowMillis = window
        · subst same
          simp only [countP_cons_of_pos,countP_nil,decide_true]
          omega
        · simp only [countP_cons,countP_nil,same,decide_false]
          simpa using bounded window
      next kind =>
        simp only [kind] at asked tallied
        subst asked
        intro start
        have below := (sliding_eq rule _ touched tallied.1).2.mp allowed
        have here := tallied.2 _ le_rfl
        rw [countP_append]
        by_cases inside : start < unixMilli now ∧ unixMilli now ≤ start + rule.windowMillis
        · have fewer : (hits.countP fun hit => start < hit ∧ hit ≤ start + rule.windowMillis) ≤
              hits.countP fun hit => unixMilli now - rule.windowMillis < hit := by
            apply countP_mono_left
            intro _ _ within
            simp only [decide_eq_true_eq] at within ⊢
            omega
          simp only [countP_cons,countP_nil,inside,and_self,decide_true,if_true]
          omega
        · simp only [countP_cons,countP_nil,inside,decide_false]
          simpa using bounded start
      next => trivial
    · exact counts.bounded
  · unfold Tallied at tallied ⊢
    unfold Settled at before
    unfold allow at asked
    split at tallied
    next kind =>
      simp only [kind] at asked
      subst asked
      intro _ order
      exact fixed_tallied window counts.past (tallied _ le_rfl) rfl order
    next kind =>
      simp only [kind] at asked before
      subst asked
      rw [Option.getD_some,(sliding_eq rule _ touched tallied.1).1]
      constructor
      · have kept := tallied.1.filter (unixMilli now - rule.windowMillis < ·)
        split_ifs
        · rw [pairwise_append]
          refine ⟨kept,pairwise_singleton _ _,fun hit mem last this => ?_⟩
          rw [mem_singleton.mp this]
          exact before hit (mem_filter.mp mem).1
        · rwa [append_nil]
      · intro m later
        rw [countP_append,count_filter later]
        have earlier := tallied.2 m later
        split_ifs
        · rw [countP_append]
          omega
        · simpa using earlier
    next => trivial
  · intro _ found
    cases found
    rw [asked]
    exact ⟨now,(allow_seen ..).trans last,le_rfl,settled_allow valid before le_rfl⟩

theorem held_elsewhere (l : Limiter) (now : Nat) {other : Rule ρ} (key key' : String)
    (different : rule.id ≠ other.id) : held (l.consult now other key).1 rule key' = held l rule key' := by
  unfold held consult runtime
  rw [AList.lookup_insert_ne different]

theorem consultAll_elsewhere (now : Nat) (found : List (Rule ρ × String))
    (absent : ∀ candidate ∈ found, rule.id ≠ candidate.1.id) (key' : String) :
    held (l.consultAll now found).1 rule key' = held l rule key' := by
  induction found generalizing l with
  | nil => rfl
  | cons candidate _ ih =>
    obtain ⟨other,key⟩ := candidate
    have here : held (l.consult now other key).1 rule key' = held l rule key' :=
      held_elsewhere l now key key' (absent (other,key) mem_cons_self)
    unfold consultAll
    dsimp only
    split_ifs
    · rw [ih fun candidate later => absent candidate (mem_cons_of_mem _ later)]
      exact here
    · exact here

def Within (l : Limiter) (rule : Rule ρ) (all : List String) : Prop := ∀ key s, held l rule key = some s → key ∈ all

variable {all : List String}

/-- One request: the hit is counted if the rule is consulted for the key and allows it, as it does
when the request passes. -/
theorem counts_consultAll (distinct : (rules.map Rule.id).Nodup) (valid : Validated rule) (listed : rule ∈ rules)
    (few : all.dedup.length ≤ maxRateLimitKeysPerRule) (found : List (Rule ρ × String))
    (separate : (found.map fun candidate => candidate.1.id).Nodup)
    (known : ∀ candidate ∈ found, candidate.1 ∈ rules ∧ (candidate.1 = rule → candidate.2 ∈ all))
    (within : Within l rule all) (counts : Counts rule now (held l rule key) hits) :
    Within (l.consultAll now found).1 rule all ∧ ∃ after, Counts rule now (held (l.consultAll now found).1 rule key) after ∧
      (after = hits ∨ after = hits ++ [unixMilli now]) ∧
      ((l.consultAll now found).2 = none → (rule,key) ∈ found → after = hits ++ [unixMilli now]) := by
  induction found generalizing l hits with
  | nil => exact ⟨within,hits,counts,.inl rfl,by simp⟩
  | cons candidate rest ih =>
    obtain ⟨other,key'⟩ := candidate
    rw [map_cons,nodup_cons] at separate
    obtain ⟨listed',mem⟩ := known (other,key') mem_cons_self
    have later (candidate : Rule ρ × String) (inside : candidate ∈ rest) := known candidate (mem_cons_of_mem _ inside)
    by_cases same : rule.id = other.id
    · obtain rfl := inj_on_of_nodup_map distinct listed listed' same
      have absent : ∀ candidate ∈ rest, rule.id ≠ candidate.1.id := by
        intro candidate inside equal
        exact separate.1 (mem_map.mpr ⟨candidate,inside,equal.symm⟩)
      have roomy := roomy all few (l.runtime rule).keys within (mem rfl)
      have next (k : String) : held (l.consultAll now ((rule,key') :: rest)).1 rule k =
          held (l.consult now rule key').1 rule k := by
        unfold consultAll
        dsimp only
        split_ifs
        · exact consultAll_elsewhere now rest absent k
        · rfl
      have written := held_consult now distinct listed listed roomy
      refine ⟨fun k s stored => ?_,?_⟩
      · rw [next] at stored
        rcases written k with ⟨_,rfl,_⟩ | ⟨_,kept⟩
        · exact mem rfl
        · rw [kept] at stored
          exact within k s stored
      rw [next]
      rcases written key with ⟨_,rfl,stored⟩ | ⟨elsewhere,kept⟩
      · rw [stored]
        refine ⟨_,counts_consult valid counts (consulted l now rule key) rfl,?_,fun passed _ => ?_⟩
        · split_ifs
          · exact .inr rfl
          · exact .inl rfl
        · unfold consultAll at passed
          dsimp only at passed
          split_ifs at passed with allowed
          · exact if_pos allowed
      · rw [kept]
        refine ⟨hits,counts,.inl rfl,fun _ inside => ?_⟩
        rcases mem_cons.mp inside with here | inside
        · exact absurd ⟨rfl,(Prod.mk.inj here).2⟩ elsewhere
        · exact absurd rfl (absent (rule,key) inside)
    · have kept (k : String) : held (l.consult now other key').1 rule k = held l rule k := held_elsewhere l now key' k same
      have before : Within (l.consult now other key').1 rule all := by
        intro k s stored
        rw [kept] at stored
        exact within k s stored
      unfold consultAll
      dsimp only
      split_ifs
      · obtain ⟨contained,after,counted,grown,passed⟩ := ih separate.2 later before (by rw [kept]; exact counts)
        refine ⟨contained,after,counted,grown,fun none inside => passed none ?_⟩
        rcases mem_cons.mp inside with here | inside
        · exact absurd (congrArg Rule.id (Prod.mk.inj here).1) same
        · exact inside
      · refine ⟨before,hits,by rw [kept]; exact counts,.inl rfl,by simp⟩
variable {r : ρ}

theorem candidates_sublist {found : List (Rule ρ × String)} (ok : candidates r rules = .ok found) :
    (found.map Prod.fst).Sublist rules := by
  induction rules generalizing found with
  | nil =>
    cases ok
    exact List.Sublist.refl _
  | cons _ _ ih =>
    unfold candidates at ok
    split_ifs at ok
    · split at ok
      next => cases ok
      next =>
        split at ok
        next => cases ok
        next tail later =>
          cases ok
          split_ifs
          · exact (ih later).cons_cons _
          · exact (ih later).cons _
    · exact (ih ok).cons _

theorem candidate_mem {found : List (Rule ρ × String)} (ok : candidates r rules = .ok found)
    (listed : rule ∈ rules) (enabled : rule.enabled) (matched : rule.evaluateMatch r = some true) :
    (rule,rule.keyHash r) ∈ found := by
  induction rules generalizing found with
  | nil => cases listed
  | cons _ _ ih =>
    unfold candidates at ok
    rcases mem_cons.mp listed with rfl | later
    · rw [if_pos enabled,matched] at ok
      dsimp only at ok
      split at ok
      next => cases ok
      next =>
        cases ok
        exact mem_cons_self
    · split_ifs at ok
      · split at ok
        next => cases ok
        next =>
          split at ok
          next => cases ok
          next tail rest_ok =>
            cases ok
            split_ifs
            · exact mem_cons_of_mem _ (ih rest_ok later)
            · exact ih rest_ok later
      · exact ih ok later

def counted (rule : Rule ρ) (key : String) (r : ρ) : Bool :=
  rule.enabled && rule.evaluateMatch r = some true && rule.keyHash r = key

def passed (rule : Rule ρ) (key : String) : List (ρ × Nat) → List (Option Decision) → List Int
  | (r,now) :: requests,decision :: decisions =>
    (if decision.isNone && counted rule key r then [unixMilli now] else []) ++ passed rule key requests decisions
  | _,_ => []

section

variable (distinct : (rules.map Rule.id).Nodup) (valid : Validated rule) (back : outlived rule)
  (listed : rule ∈ rules) (few : all.dedup.length ≤ maxRateLimitKeysPerRule)
include distinct valid back listed few

theorem counts_evaluate (mem : rule.enabled → rule.evaluateMatch r = some true → rule.keyHash r ∈ all)
    (within : Within l rule all) (counts : Counts rule now (held l rule key) hits) (le : now ≤ later) :
    Within (l.evaluate rules r later).1 rule all ∧
      ∃ after, Counts rule later (held (l.evaluate rules r later).1 rule key) after ∧
        (hits ++ if (l.evaluate rules r later).2.isNone && counted rule key r then [unixMilli later] else []).Sublist
          after := by
  unfold evaluate evaluateWith
  split
  next =>
    refine ⟨within,hits,counts_later counts le,?_⟩
    simp
  next ok =>
    refine ⟨within,hits,counts_later counts le,?_⟩
    have unmatched : counted rule key r = false := by
      by_contra hit
      simp only [counted,Bool.not_eq_false,Bool.and_eq_true,decide_eq_true_eq] at hit
      cases candidate_mem ok listed hit.1.1 hit.1.2
    simp [unmatched]
  next found _ ok =>
    have pruned (k : String) := held_prune l later rule k
    have within' : Within (l.pruneLocked later) rule all := by
      intro k s stored
      rcases pruned k with same | ⟨gone,_⟩
      · rw [same] at stored
        exact within k s stored
      · rw [gone] at stored
        cases stored
    have counts' : Counts rule later (held (l.pruneLocked later) rule key) hits := by
      have moved := counts_later counts le
      rcases pruned key with same | ⟨gone,_,stored,idle⟩
      · rw [same]
        exact moved
      · rw [gone]
        rw [stored] at moved
        exact counts_idle valid back moved idle
    have separate : (found.map fun candidate => candidate.1.id).Nodup := by
      have part := (candidates_sublist ok).map Rule.id
      rw [map_map] at part
      exact part.nodup distinct
    obtain ⟨contained,after,counted',grown,hit⟩ := counts_consultAll distinct valid listed few found separate
      (fun _ inside => by
        obtain ⟨known,enabled,matched,named⟩ := mem_candidates ok inside
        refine ⟨known,fun same => ?_⟩
        subst same
        rw [named]
        exact mem enabled matched) within' counts'
    refine ⟨contained,after,counted',?_⟩
    split_ifs with passes
    · simp only [counted,Bool.and_eq_true,Option.isNone_iff_eq_none,decide_eq_true_eq] at passes
      obtain ⟨none,⟨enabled,matched⟩,named⟩ := passes
      have inside := candidate_mem ok listed enabled matched
      rw [named] at inside
      rw [hit none inside]
    · rw [append_nil]
      rcases grown with rfl | rfl
      · exact List.Sublist.refl _
      · exact sublist_append_left _ _

theorem passed_bounded (requests : List (ρ × Nat))
    (members : ∀ request ∈ requests, rule.enabled → rule.evaluateMatch request.1 = some true →
      rule.keyHash request.1 ∈ all)
    (sorted : (requests.map Prod.snd).Pairwise (· ≤ ·)) (order : ∀ request ∈ requests, now ≤ request.2)
    (within : Within l rule all) (counts : Counts rule now (held l rule key) hits) :
    Bounded rule (hits ++ passed rule key requests (serve rules l requests).2) := by
  induction requests generalizing l hits now with
  | nil =>
    rw [passed,append_nil]
    · exact counts.bounded
    · simp
  | cons request rest ih =>
    obtain ⟨r,time⟩ := request
    rw [map_cons,pairwise_cons] at sorted
    obtain ⟨contained,_,counted',grown⟩ := counts_evaluate distinct valid back listed few
      (members (r,time) mem_cons_self) within counts (order (r,time) mem_cons_self)
    have tail := ih (fun request later => members request (mem_cons_of_mem _ later)) sorted.2
      (fun request later => sorted.1 request.2 (mem_map_of_mem later)) contained counted'
    refine bounded_sublist tail ?_
    change (hits ++ (_ ++ passed rule key rest _)).Sublist _
    rw [← append_assoc]
    exact grown.append_right _

end

/-- Requests that reach the limiter in the order of their times, under a window no longer than
idle keys are kept: the requests of a key that pass are bounded in every window. -/
theorem window_bound (rules : List (Rule ρ)) (requests : List (ρ × Nat)) (rule : Rule ρ) (key : String)
    (distinct : (rules.map Rule.id).Nodup) (listed : rule ∈ rules)
    (accepted : ∃ limit windowMillis burst,
      validatePublicRateLimitRuleInput limit windowMillis burst = .ok (rule.limit,rule.windowMillis,rule.burst))
    (windowed : rule.algorithm = .fixedWindow ∨ rule.algorithm = .slidingWindow)
    (short : rule.windowMillis * millisecond ≤ rateLimitIdleStateTTL)
    (few : (keysOf requests rule).dedup.length ≤ maxRateLimitKeysPerRule)
    (sorted : (requests.map Prod.snd).Pairwise (· ≤ ·)) :
    Bounded rule (passed rule key requests (serve rules .empty requests).2) := by
  obtain ⟨_,_,_,ok⟩ := accepted
  have valid := validated ok
  have back : outlived rule := by
    unfold outlived
    rcases windowed with kind | kind <;> rw [kind] <;> exact decide_eq_true short
  have members : ∀ request ∈ requests, rule.enabled → rule.evaluateMatch request.1 = some true →
      rule.keyHash request.1 ∈ keysOf requests rule := by
    intro request mem enabled matched
    refine mem_map.mpr ⟨request,mem_filter.mpr ⟨mem,?_⟩,rfl⟩
    simp [enabled,matched]
  have empty : Within .empty rule (keysOf requests rule) := by
    intro _ _ stored
    cases stored
  exact passed_bounded distinct valid back listed few requests members sorted (fun _ _ => Nat.zero_le _) empty
    (counts_none valid 0)

/-- Two requests of one window. -/
theorem window_bound_second : Bounded (exampleRule .fixedWindow 1000) (passed (exampleRule .fixedWindow 1000) "client"
      [((),0),((),500000000)] (serve [exampleRule .fixedWindow 1000] .empty [((),0),((),500000000)]).2) := by
  apply window_bound
  · decide
  · exact .head _
  · exact ⟨1,1000,0,rfl⟩
  · exact .inl rfl
  · decide
  · decide
  · decide

def pairRule (algorithm : Algorithm) : Rule Unit := { exampleRule algorithm 1000 with limit := 2 }

/-- Two requests pass, a later one takes the lock, and then a request captured half a second after
the first two. -/
def lateRequests : List (Unit × Nat) := [((),0),((),0),((),1500000000),((),500000000)]

/-- The late request passes as the third of its window, whether the window is fixed or slides. -/
theorem late_request_passes : ¬ Bounded (pairRule .fixedWindow) (passed (pairRule .fixedWindow) "client" lateRequests
        (serve [pairRule .fixedWindow] .empty lateRequests).2) ∧
      ¬ Bounded (pairRule .slidingWindow) (passed (pairRule .slidingWindow) "client" lateRequests
        (serve [pairRule .slidingWindow] .empty lateRequests).2) := by
  have fixed : passed (pairRule .fixedWindow) "client" lateRequests
      (serve [pairRule .fixedWindow] .empty lateRequests).2 = [0,0,1500,500] := by decide +kernel
  have sliding : passed (pairRule .slidingWindow) "client" lateRequests
      (serve [pairRule .slidingWindow] .empty lateRequests).2 = [0,0,1500,500] := by decide +kernel
  constructor
  · intro bounded
    exact absurd (bounded 0) (by decide)
  · intro bounded
    exact absurd (bounded (-1)) (by decide)

end P2pstream.RateLimitBounds
