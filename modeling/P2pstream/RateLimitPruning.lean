import Mathlib.Data.List.TakeWhile
import P2pstream.Kernel.RateLimits

/-! Forgetting idle keys. A key that was idle for longer than the limiter keeps it is dropped
whatever the window of its rule; a rule whose allowance is back by then does not notice.
-/
namespace P2pstream.RateLimitPruning
open Library Kernel.RateLimits Kernel.RateLimits.KeyRuntime AList List Int Limiter Option Table

variable {ρ : Type} {rule : Rule ρ} {s s' s'' : KeyRuntime} {n : Int} {now later : Nat}

/-- The part of a state that the rule's algorithm reads. -/
def view (rule : Rule ρ) (s : KeyRuntime) : KeyRuntime := match rule.algorithm with
  | .fixedWindow => { fixedWindowStart := s.fixedWindowStart, fixedCount := s.fixedCount }
  | .slidingWindow => { slidingHits := s.slidingHits }
  | .tokenBucket =>
    { tokens := s.tokens, tokenLastRefill := s.tokenLastRefill, tokenInitialized := s.tokenInitialized }
  | .leakyBucket =>
    { leakyLevel := s.leakyLevel, leakyLastDrain := s.leakyLastDrain, leakyInitialized := s.leakyInitialized }

/-- What the rule remembers and answers. -/
def response (rule : Rule ρ) (n : Int) (s : KeyRuntime) : KeyRuntime × AllowResult :=
  (view rule (s.allow rule n).1,(s.allow rule n).2)

theorem response_view (rule : Rule ρ) (n : Int) (s : KeyRuntime) : response rule n (view rule s) = response rule n s := by
  unfold response view allow
  cases rule.algorithm with
  | fixedWindow =>
    simp only [allowFixedWindow,enterWindow]
    split_ifs <;> rfl
  | slidingWindow =>
    simp only [allowSlidingWindow]
    split_ifs <;> rfl
  | tokenBucket =>
    simp only [allowTokenBucket,refillTokens]
    split_ifs <;> rfl
  | leakyBucket =>
    simp only [allowLeakyBucket,drainLevel]
    split_ifs <;> rfl

theorem response_congr (same : view rule s = view rule s') : response rule n s = response rule n s' := by
  rw [← response_view,same,response_view]

theorem response_seen (rule : Rule ρ) (n : Int) (s : KeyRuntime) (seen : Option Nat) :
    response rule n { s with lastSeenAt := seen } = response rule n s := by
  apply response_congr
  unfold view
  split <;> rfl

structure Validated (rule : Rule ρ) : Prop where
  limit : 1 ≤ rule.limit
  window : 1000 ≤ rule.windowMillis
  burst : 1 ≤ effectiveRateLimitBurst rule

theorem validated {limit windowMillis burst : Int} (accepted : validatePublicRateLimitRuleInput limit windowMillis burst =
      .ok (rule.limit,rule.windowMillis,rule.burst)) : Validated rule := by
  unfold validatePublicRateLimitRuleInput at accepted
  dsimp only at accepted
  split_ifs at accepted with low window negative high
  all_goals
    obtain ⟨_,_,_⟩ : _ ∧ _ ∧ _ := by simpa using accepted
    refine ⟨by omega,by omega,?_⟩
    unfold effectiveRateLimitBurst
    split_ifs <;> omega

def Settled (rule : Rule ρ) (now : Nat) (s : KeyRuntime) : Prop := match rule.algorithm with
  | .fixedWindow => s.fixedWindowStart ≤ unixMilli now
  | .slidingWindow => ∀ hit ∈ s.slidingHits, hit ≤ unixMilli now
  | .tokenBucket => 0 ≤ s.tokens ∧ s.tokenLastRefill ≤ unixMilli now
  | .leakyBucket => s.leakyLevel ≤ effectiveRateLimitBurst rule ∧ s.leakyLastDrain ≤ unixMilli now ∧
      (s.leakyInitialized = false → s.leakyLevel = 0)

theorem unixMilli_mono (le : now ≤ later) : unixMilli now ≤ unixMilli later := ofNat_le.mpr (Nat.div_le_div_right le)

theorem capacity_nonneg (valid : Validated rule) : (0 : ℚ) ≤ effectiveRateLimitBurst rule := by
  exact_mod_cast le_trans (by decide) valid.burst

theorem settled_fresh (valid : Validated rule) (now : Nat) : Settled rule now {} := by
  have nonneg : 0 ≤ unixMilli now := natCast_nonneg _
  unfold Settled
  split
  · exact nonneg
  · simp
  · exact ⟨le_refl _,nonneg⟩
  · exact ⟨capacity_nonneg valid,nonneg,fun _ => rfl⟩

theorem flow_nonneg (valid : Validated rule) (elapsed : Int) (forward : 0 ≤ elapsed) :
    (0 : ℚ) ≤ elapsed * rule.limit / rule.windowMillis := by
  have limit : (0 : ℚ) ≤ rule.limit := by exact_mod_cast le_trans (by decide) valid.limit
  have window : (0 : ℚ) ≤ rule.windowMillis := by exact_mod_cast le_trans (by decide) valid.window
  positivity

theorem fixed_start (rule : Rule ρ) (n : Int) (s : KeyRuntime) :
    (s.allowFixedWindow rule n).1.fixedWindowStart = n / rule.windowMillis * rule.windowMillis := by
  unfold allowFixedWindow enterWindow
  dsimp only
  split_ifs with moved <;> first | rfl | exact not_not.mp moved

theorem sliding_mem (rule : Rule ρ) (n : Int) (s : KeyRuntime) {hit : Int}
    (mem : hit ∈ (s.allowSlidingWindow rule n).1.slidingHits) : hit ∈ s.slidingHits ∨ hit = n := by
  unfold allowSlidingWindow at mem
  dsimp only at mem
  split_ifs at mem
  · exact .inl ((dropWhile_sublist _).subset mem)
  · rcases mem_append.mp mem with old | this
    · exact .inl ((dropWhile_sublist _).subset old)
    · exact .inr (mem_singleton.mp this)

theorem refill_spec (valid : Validated rule) (tokens : 0 ≤ s.tokens) (order : s.tokenLastRefill ≤ n) :
    0 ≤ (s.refillTokens rule n).tokens ∧ (s.refillTokens rule n).tokenLastRefill = n := by
  unfold refillTokens
  dsimp only
  split_ifs with initialized moved
  · refine ⟨le_min (capacity_nonneg valid) (add_nonneg tokens ?_),rfl⟩
    exact flow_nonneg valid _ (le_max_left _ _)
  · exact ⟨tokens,by omega⟩
  · exact ⟨capacity_nonneg valid,rfl⟩

theorem drain_spec (valid : Validated rule) (level : s.leakyLevel ≤ effectiveRateLimitBurst rule)
    (order : s.leakyLastDrain ≤ n) :
    (s.drainLevel rule n).leakyLevel ≤ effectiveRateLimitBurst rule ∧ (s.drainLevel rule n).leakyLastDrain = n ∧
      (s.drainLevel rule n).leakyInitialized := by
  unfold drainLevel
  dsimp only
  split_ifs with initialized moved
  · refine ⟨max_le (capacity_nonneg valid) (le_trans (sub_le_self _ ?_) level),rfl,initialized⟩
    exact flow_nonneg valid _ (le_max_left _ _)
  · exact ⟨level,by omega,initialized⟩
  · exact ⟨level,rfl,rfl⟩

theorem settled_allow (valid : Validated rule) (settled : Settled rule now s) (le : now ≤ later) :
    Settled rule later (s.allow rule (unixMilli later)).1 := by
  have order := unixMilli_mono le
  unfold Settled at settled ⊢
  unfold allow
  split at settled
  next kind =>
    simp only [kind,fixed_start]
    exact Int.ediv_mul_le _ (ne_of_gt (lt_of_lt_of_le (by decide) valid.window))
  next kind =>
    simp only [kind]
    intro hit mem
    rcases sliding_mem rule _ s mem with old | rfl
    · exact le_trans (settled hit old) order
    · exact le_refl _
  next kind =>
    obtain ⟨level,time⟩ := refill_spec valid settled.1 (le_trans settled.2 order)
    simp only [kind,allowTokenBucket]
    split_ifs with empty
    · exact ⟨level,time.le⟩
    · exact ⟨sub_nonneg.mpr (not_lt.mp empty),time.le⟩
  next kind =>
    obtain ⟨drained,time,used⟩ := drain_spec valid settled.1 (le_trans settled.2.1 order)
    simp only [kind,allowLeakyBucket]
    split_ifs with full
    · exact ⟨drained,time.le,fun unused => nomatch used.symm.trans unused⟩
    · exact ⟨not_lt.mp full,time.le,fun unused => nomatch used.symm.trans unused⟩

/-- The allowance of the rule is back within the time the limiter keeps idle keys. -/
def outlived (rule : Rule ρ) : Bool := match rule.algorithm with
  | .fixedWindow | .slidingWindow => rule.windowMillis * millisecond ≤ rateLimitIdleStateTTL
  | .tokenBucket | .leakyBucket =>
    effectiveRateLimitBurst rule * (rule.windowMillis * millisecond) ≤ rule.limit * rateLimitIdleStateTTL

theorem outlived_window (back : outlived rule)
    (kind : rule.algorithm = .fixedWindow ∨ rule.algorithm = .slidingWindow) : rule.windowMillis ≤ 900000 := by
  have bound : rule.windowMillis * millisecond ≤ rateLimitIdleStateTTL := by
    unfold outlived at back
    rcases kind with kind | kind <;> rw [kind] at back <;> exact of_decide_eq_true back
  unfold millisecond rateLimitIdleStateTTL second at bound
  omega

theorem outlived_bucket (back : outlived rule)
    (kind : rule.algorithm = .tokenBucket ∨ rule.algorithm = .leakyBucket) :
    effectiveRateLimitBurst rule * (rule.windowMillis * millisecond) ≤ rule.limit * rateLimitIdleStateTTL := by
  unfold outlived at back
  rcases kind with kind | kind <;> rw [kind] at back <;> exact of_decide_eq_true back

theorem idle_millis (idle : rateLimitIdleStateTTL < (later : Int) - now) : unixMilli now + 900000 ≤ unixMilli later := by
  unfold rateLimitIdleStateTTL second at idle
  unfold unixMilli
  omega

section

variable (valid : Validated rule)
  (back : effectiveRateLimitBurst rule * (rule.windowMillis * millisecond) ≤ rule.limit * rateLimitIdleStateTTL)
include valid back

theorem flow_capacity {elapsed : Int} (idle : 900000 ≤ elapsed) :
    (effectiveRateLimitBurst rule : ℚ) ≤ elapsed * rule.limit / rule.windowMillis := by
  have window : (0 : ℚ) < rule.windowMillis := by exact_mod_cast lt_of_lt_of_le (by decide) valid.window
  rw [le_div_iff₀ window]
  have scaled : effectiveRateLimitBurst rule * rule.windowMillis ≤ rule.limit * 900000 := by
    unfold millisecond rateLimitIdleStateTTL second at back
    rw [← mul_assoc] at back
    omega
  have grows : rule.limit * 900000 ≤ elapsed * rule.limit := by
    rw [mul_comm elapsed]
    exact mul_le_mul_of_nonneg_left idle (le_trans (by decide) valid.limit)
  exact_mod_cast le_trans scaled grows

theorem refill_idle (tokens : 0 ≤ s.tokens) (idle : s.tokenLastRefill + 900000 ≤ n) :
    (s.refillTokens rule n).tokens = effectiveRateLimitBurst rule ∧ (s.refillTokens rule n).tokenLastRefill = n ∧
      (s.refillTokens rule n).tokenInitialized := by
  have elapsed : 900000 ≤ max 0 (n - s.tokenLastRefill) := le_max_of_le_right (by omega)
  unfold refillTokens
  dsimp only
  rw [if_pos (lt_of_lt_of_le (by decide) elapsed)]
  split_ifs with initialized
  · refine ⟨min_eq_left (le_trans (flow_capacity valid back elapsed) ?_),rfl,initialized⟩
    exact le_add_of_nonneg_left tokens
  · exact ⟨rfl,rfl,rfl⟩

theorem drain_idle
    (level : s.leakyLevel ≤ effectiveRateLimitBurst rule) (known : s.leakyInitialized = false → s.leakyLevel = 0)
    (idle : s.leakyLastDrain + 900000 ≤ n) :
    (s.drainLevel rule n).leakyLevel = 0 ∧ (s.drainLevel rule n).leakyLastDrain = n ∧
      (s.drainLevel rule n).leakyInitialized := by
  have elapsed : 900000 ≤ max 0 (n - s.leakyLastDrain) := le_max_of_le_right (by omega)
  unfold drainLevel
  rw [if_pos (lt_of_lt_of_le (by decide) elapsed)]
  split_ifs with initialized
  · refine ⟨max_eq_left (sub_nonpos.mpr ?_),rfl,initialized⟩
    exact le_trans level (flow_capacity valid back elapsed)
  · exact ⟨known (by simpa using initialized),rfl,rfl⟩

end

theorem sliding_emptied (valid : Validated rule) (dropped : s.slidingHits.dropWhile (· ≤ n - rule.windowMillis) = []) :
    s.allowSlidingWindow rule n = ({ s with slidingHits := [n] },{
      allowed := true
      remaining := max 0 (rule.limit - 1)
      retryAfter := millisDuration rule.windowMillis }) := by
  unfold allowSlidingWindow
  dsimp only
  rw [dropped,if_neg]
  · rfl
  · exact not_le.mpr valid.limit

theorem forgotten (valid : Validated rule) (back : outlived rule) (settled : Settled rule now s)
    (idle : rateLimitIdleStateTTL < (later : Int) - now) :
    response rule (unixMilli later) s = response rule (unixMilli later) {} := by
  have millis := idle_millis idle
  have fresh : (0 : Int) ≤ unixMilli now := natCast_nonneg _
  unfold Settled at settled
  unfold response view allow
  have window : 0 < rule.windowMillis := lt_of_lt_of_le (by decide) valid.window
  split at settled
  next kind =>
    have short := outlived_window back (.inl kind)
    have start : unixMilli later - rule.windowMillis < unixMilli later / rule.windowMillis * rule.windowMillis := by
      have bound := lt_ediv_add_one_mul_self (unixMilli later) window
      rw [add_mul] at bound
      omega
    have entered (s : KeyRuntime) (before : s.fixedWindowStart ≠ unixMilli later / rule.windowMillis * rule.windowMillis) :
        s.enterWindow (unixMilli later / rule.windowMillis * rule.windowMillis) =
          { s with fixedWindowStart := unixMilli later / rule.windowMillis * rule.windowMillis, fixedCount := 0 } :=
      if_pos before
    simp only [kind,allowFixedWindow]
    rw [entered s (by omega),entered {} (by simp only; omega)]
    split_ifs <;> rfl
  next kind =>
    have short := outlived_window back (.inr kind)
    have dropped : s.slidingHits.dropWhile (· ≤ unixMilli later - rule.windowMillis) = [] := by
      rw [dropWhile_eq_nil_iff]
      intro hit mem
      have old := settled hit mem
      exact decide_eq_true (by omega)
    simp only [kind]
    rw [sliding_emptied valid dropped,sliding_emptied valid dropWhile_nil]
  next kind =>
    have back := outlived_bucket back (.inl kind)
    obtain ⟨level,time,used⟩ := refill_idle valid back settled.1 (by omega : s.tokenLastRefill + 900000 ≤ unixMilli later)
    obtain ⟨level',time',used'⟩ := refill_idle (s := {}) (n := unixMilli later) valid back le_rfl (by simp only; omega)
    simp only [kind,allowTokenBucket,level,level']
    split_ifs <;> simp only [level,level',time,time',used,used']
  next kind =>
    have back := outlived_bucket back (.inr kind)
    obtain ⟨level,time,used⟩ :=
      drain_idle valid back settled.1 settled.2.2 (by omega : s.leakyLastDrain + 900000 ≤ unixMilli later)
    obtain ⟨level',time',used'⟩ := drain_idle (s := {}) (n := unixMilli later) valid back (capacity_nonneg valid)
      (fun _ => rfl) (by simp only; omega)
    simp only [kind,allowLeakyBucket,level,level']
    split_ifs <;> simp only [level,level',time,time',used,used']

variable {rules : List (Rule ρ)} {l u : Limiter} {key : String}

def held (l : Limiter) (rule : Rule ρ) (key : String) : Option KeyRuntime := (l.runtime rule).keys.lookup key

theorem held_prune (l : Limiter) (now : Nat) (rule : Rule ρ) (key : String) :
    held (l.pruneLocked now) rule key = held l rule key ∨
      (held (l.pruneLocked now) rule key = none ∧ ∃ s, held l rule key = some s ∧ Limiter.idle now s) := by
  unfold pruneLocked
  split_ifs
  · exact .inl rfl
  · unfold held runtime
    rw [lookup_mapValues]
    cases l.rules.lookup rule.id with
    | none => exact .inl rfl
    | some runtime =>
      change ((if runtime.fingerprint ≠ rule.fingerprint then _ else pruneKeys now runtime).keys.lookup key =
          (if runtime.fingerprint ≠ rule.fingerprint then _ else runtime).keys.lookup key) ∨
        ((if runtime.fingerprint ≠ rule.fingerprint then _ else pruneKeys now runtime).keys.lookup key = none ∧
          ∃ s, (if runtime.fingerprint ≠ rule.fingerprint then _ else runtime).keys.lookup key = some s ∧ _)
      split_ifs
      · exact .inl rfl
      · unfold pruneKeys
        rw [lookup_filterValues]
        cases runtime.keys.lookup key with
        | none => exact .inl rfl
        | some s =>
          cases idle : Limiter.idle now s with
          | false => exact .inl (by simp [idle])
          | true => exact .inr ⟨by simp [idle],s,rfl,idle⟩

def consulted (l : Limiter) (now : Nat) (rule : Rule ρ) (key : String) : KeyRuntime × AllowResult :=
  allow rule (unixMilli now) { (held l rule key).getD {} with lastSeenAt := some now }

theorem runtime_consult (l : Limiter) (now : Nat) (rule : Rule ρ) (key : String) :
    (l.consult now rule key).1.runtime rule = { l.runtime rule with
      keys := (room (l.runtime rule).keys key).insert key (consulted l now rule key).1 } := by
  have printed : (l.runtime rule).fingerprint = rule.fingerprint := by
    unfold runtime
    split
    · rfl
    · split_ifs with changed
      · rfl
      · exact not_not.mp changed
  unfold consult
  rw [runtime]
  simp only [lookup_insert]
  rw [if_neg (not_not.mpr printed)]
  rfl

theorem held_consult (now : Nat) (distinct : (rules.map Rule.id).Nodup) {other : Rule ρ} (listed : rule ∈ rules)
    (listed' : other ∈ rules) (roomy : room (l.runtime rule).keys key = (l.runtime rule).keys) (key' : String) :
    (other = rule ∧ key' = key ∧ held (l.consult now rule key).1 other key' = some (consulted l now rule key).1) ∨
      (¬ (other = rule ∧ key' = key) ∧ held (l.consult now rule key).1 other key' = held l other key') := by
  by_cases same : other.id = rule.id
  · obtain rfl := inj_on_of_nodup_map distinct listed' listed same
    unfold held
    rw [runtime_consult,roomy]
    by_cases here : key' = key
    · subst here
      exact .inl ⟨rfl,rfl,lookup_insert _⟩
    · exact .inr ⟨fun both => here both.2,lookup_insert_ne here⟩
  · refine .inr ⟨fun both => same (by rw [both.1]),?_⟩
    unfold held consult runtime
    rw [lookup_insert_ne same]

theorem roomy (all : List String) (few : all.dedup.length ≤ maxRateLimitKeysPerRule) (table : Table String KeyRuntime)
    (within : ∀ k s, table.lookup k = some s → k ∈ all) (mem : key ∈ all) : room table key = table := by
  unfold room
  rw [if_neg]
  intro ⟨absent,full⟩
  have missing : key ∉ table.entries.keys := lookup_eq_none.mp (isNone_iff_eq_none.mp absent)
  have distinct : (key :: table.entries.keys).Nodup := nodup_cons.mpr ⟨missing,table.nodupKeys⟩
  have subset : key :: table.entries.keys ⊆ all.dedup := by
    intro k found
    rw [mem_dedup]
    rcases mem_cons.mp found with rfl | stored
    · exact mem
    · obtain ⟨s,present⟩ := isSome_iff_exists.mp (lookup_isSome.mpr stored)
      exact within k s present
  have bound := (distinct.subperm subset).length_le
  rw [length_cons,List.keys,length_map] at bound
  omega

/-- The pruned limiter `l` answers like the one that never prunes, `u`, from now on. -/
structure Mirrors (rules : List (Rule ρ)) (keys : Rule ρ → List String) (now : Nat) (l u : Limiter) : Prop where
  known : ∀ rule ∈ rules, ∀ key s, held l rule key = some s →
    (∃ s', held u rule key = some s') ∧ ∃ seen, s.lastSeenAt = some seen ∧ seen ≤ now ∧ Settled rule seen s
  alike : ∀ rule ∈ rules, ∀ key later, now ≤ later →
    response rule (unixMilli later) ((held l rule key).getD {}) = response rule (unixMilli later) ((held u rule key).getD {})
  within : ∀ rule ∈ rules, ∀ key s, held u rule key = some s → key ∈ keys rule

variable {keys : Rule ρ → List String}

theorem mirrors_empty (rules : List (Rule ρ)) (keys : Rule ρ → List String) (now : Nat) :
    Mirrors rules keys now .empty .empty where
  known := by
    intro rule listed key s found
    cases found
  alike := by
    intro rule listed key _ _
    rfl
  within := by
    intro _ _ _ _ found
    cases found

theorem mirrors_prune (valid : ∀ rule ∈ rules, Validated rule) (back : ∀ rule ∈ rules, ∀ key ∈ keys rule, outlived rule)
    (mirrors : Mirrors rules keys now l u) (le : now ≤ later) : Mirrors rules keys later (l.pruneLocked later) u where
  known := by
    intro rule listed key s found
    rcases held_prune l later rule key with same | ⟨gone,_⟩
    · rw [same] at found
      obtain ⟨there,seen,last,before,settled⟩ := mirrors.known rule listed key s found
      exact ⟨there,seen,last,before.trans le,settled⟩
    · rw [gone] at found
      cases found
  alike := by
    intro rule listed key after order
    have alike := mirrors.alike rule listed key after (le.trans order)
    rcases held_prune l later rule key with same | ⟨gone,s,stored,idle⟩
    · rw [same]
      exact alike
    · obtain ⟨⟨_,there⟩,seen,last,_,settled⟩ := mirrors.known rule listed key s stored
      have back := back rule listed key (mirrors.within rule listed key _ there)
      have long : rateLimitIdleStateTTL < (later : Int) - seen := by simpa [Limiter.idle,last] using idle
      have longer : rateLimitIdleStateTTL < (after : Int) - seen := by omega
      rw [stored] at alike
      rw [gone]
      exact (forgotten (valid rule listed) back settled longer).symm.trans alike
  within := mirrors.within

theorem consulted_alike (mirrors : Mirrors rules keys now l u) (listed : rule ∈ rules) (key : String) :
    (consulted l now rule key).2 = (consulted u now rule key).2 ∧
      view rule (consulted l now rule key).1 = view rule (consulted u now rule key).1 := by
  have same := mirrors.alike rule listed key now le_rfl
  rw [← response_seen rule _ _ (some now),← response_seen rule _ ((held u rule key).getD {}) (some now)] at same
  exact (Prod.mk.inj same).symm

theorem allow_seen (rule : Rule ρ) (n : Int) (s : KeyRuntime) : (s.allow rule n).1.lastSeenAt = s.lastSeenAt := by
  unfold allow
  split
  · unfold allowSlidingWindow
    dsimp only
    split_ifs <;> rfl
  · unfold allowTokenBucket refillTokens
    dsimp only
    split_ifs <;> rfl
  · unfold allowLeakyBucket drainLevel
    dsimp only
    split_ifs <;> rfl
  · unfold allowFixedWindow enterWindow
    dsimp only
    split_ifs <;> rfl

theorem settled_later (settled : Settled rule now s) (le : now ≤ later) : Settled rule later s := by
  have order := unixMilli_mono le
  unfold Settled at settled ⊢
  split at settled
  next =>
    exact le_trans settled order
  next =>
    exact fun hit mem => le_trans (settled hit mem) order
  next =>
    exact ⟨settled.1,le_trans settled.2 order⟩
  next =>
    exact ⟨settled.1,le_trans settled.2.1 order,settled.2.2⟩

theorem held_both (distinct : (rules.map Rule.id).Nodup) (mirrors : Mirrors rules keys now l u)
    (listed : rule ∈ rules) (mem : key ∈ keys rule) (few : (keys rule).dedup.length ≤ maxRateLimitKeysPerRule)
    {other : Rule ρ} (listed' : other ∈ rules) (key' : String) :
    (other = rule ∧ key' = key ∧ held (l.consult now rule key).1 other key' = some (consulted l now rule key).1 ∧
        held (u.consult now rule key).1 other key' = some (consulted u now rule key).1) ∨
      (held (l.consult now rule key).1 other key' = held l other key' ∧
        held (u.consult now rule key).1 other key' = held u other key') := by
  have there (k : String) (s : KeyRuntime) (found : held l rule k = some s) : k ∈ keys rule := by
    obtain ⟨⟨s',stored⟩,_⟩ := mirrors.known rule listed k s found
    exact mirrors.within rule listed k s' stored
  have left := held_consult now distinct listed listed' (roomy (keys rule) few _ there mem) key'
  have right := held_consult now distinct listed listed' (roomy (keys rule) few _ (mirrors.within rule listed) mem) key'
  rcases left with ⟨same,here,stored⟩ | ⟨elsewhere,kept⟩
  · rcases right with ⟨_,_,stored'⟩ | ⟨elsewhere,_⟩
    · exact .inl ⟨same,here,stored,stored'⟩
    · exact absurd ⟨same,here⟩ elsewhere
  · rcases right with ⟨same,here,_⟩ | ⟨_,kept'⟩
    · exact absurd ⟨same,here⟩ elsewhere
    · exact .inr ⟨kept,kept'⟩

theorem mirrors_consult (distinct : (rules.map Rule.id).Nodup) (valid : ∀ rule ∈ rules, Validated rule)
    (mirrors : Mirrors rules keys now l u) (listed : rule ∈ rules) (mem : key ∈ keys rule)
    (few : (keys rule).dedup.length ≤ maxRateLimitKeysPerRule) :
    Mirrors rules keys now (l.consult now rule key).1 (u.consult now rule key).1 := by
  have both {other : Rule ρ} (listed' : other ∈ rules) := held_both distinct mirrors listed mem few listed'
  constructor
  · intro other listed' key' s found
    rcases both listed' key' with ⟨rfl,rfl,stored,stored'⟩ | ⟨kept,kept'⟩
    · rw [stored] at found
      cases found
      have before : Settled other now ((held l other key').getD {}) := by
        cases state : held l other key' with
        | none => exact settled_fresh (valid other listed') now
        | some s =>
          obtain ⟨_,_,_,order,settled⟩ := mirrors.known other listed' key' s state
          exact settled_later settled order
      exact ⟨⟨_,stored'⟩,now,allow_seen ..,le_rfl,settled_allow (valid other listed') before le_rfl⟩
    · rw [kept] at found
      rw [kept']
      exact mirrors.known other listed' key' s found
  · intro other listed' key' later order
    rcases both listed' key' with ⟨rfl,rfl,stored,stored'⟩ | ⟨kept,kept'⟩
    · rw [stored,stored']
      exact response_congr (consulted_alike mirrors listed' key').2
    · rw [kept,kept']
      exact mirrors.alike other listed' key' later order
  · intro other listed' key' s found
    rcases both listed' key' with ⟨rfl,rfl,_⟩ | ⟨_,kept'⟩
    · exact mem
    · rw [kept'] at found
      exact mirrors.within other listed' key' s found

theorem mem_candidates {r : ρ} {found : List (Rule ρ × String)} (ok : candidates r rules = .ok found)
    {candidate : Rule ρ × String} (mem : candidate ∈ found) :
    candidate.1 ∈ rules ∧ candidate.1.enabled ∧ candidate.1.evaluateMatch r = some true ∧
      candidate.2 = candidate.1.keyHash r := by
  induction rules generalizing found with
  | nil =>
    cases ok
    cases mem
  | cons _ _ ih =>
    unfold candidates at ok
    split_ifs at ok with enabled
    · split at ok
      next => cases ok
      next matched evaluated =>
        split at ok
        next => cases ok
        next tail later =>
          cases ok
          split_ifs at mem with hit
          · rcases mem_cons.mp mem with rfl | inside
            · exact ⟨mem_cons_self,enabled,by rw [evaluated,hit],rfl⟩
            · exact (ih later inside).imp_left (mem_cons_of_mem _)
          · exact (ih later mem).imp_left (mem_cons_of_mem _)
    · exact (ih ok mem).imp_left (mem_cons_of_mem _)

def keysOf (requests : List (ρ × Nat)) (rule : Rule ρ) : List String :=
  (requests.filter fun request => rule.enabled && rule.evaluateMatch request.1 = some true).map fun request =>
    rule.keyHash request.1

def serveUnpruned (rules : List (Rule ρ)) (l : Limiter) (requests : List (ρ × Nat)) : Limiter × List (Option Decision) :=
  serveWith (fun l _ => l) rules l requests

section

variable (distinct : (rules.map Rule.id).Nodup) (valid : ∀ rule ∈ rules, Validated rule)
  (few : ∀ rule ∈ rules, (keys rule).dedup.length ≤ maxRateLimitKeysPerRule)
include distinct valid few

theorem consultAll_alike (found : List (Rule ρ × String))
    (listed : ∀ candidate ∈ found, candidate.1 ∈ rules ∧ candidate.2 ∈ keys candidate.1)
    (mirrors : Mirrors rules keys now l u) :
    (l.consultAll now found).2 = (u.consultAll now found).2 ∧
      Mirrors rules keys now (l.consultAll now found).1 (u.consultAll now found).1 := by
  induction found generalizing l u with
  | nil => exact ⟨rfl,mirrors⟩
  | cons candidate _ ih =>
    obtain ⟨rule,key⟩ := candidate
    obtain ⟨known,mem⟩ := listed (rule,key) mem_cons_self
    have answers : (l.consult now rule key).2 = (u.consult now rule key).2 := (consulted_alike mirrors known key).1
    have next := mirrors_consult distinct valid mirrors known mem (few rule known)
    unfold consultAll
    dsimp only
    rw [answers]
    split_ifs
    · exact ih (fun candidate later => listed candidate (mem_cons_of_mem _ later)) next
    · exact ⟨rfl,next⟩

variable (back : ∀ rule ∈ rules, ∀ key ∈ keys rule, outlived rule)
include back

theorem evaluate_alike (mirrors : Mirrors rules keys now l u) (le : now ≤ later) {r : ρ}
    (members : ∀ rule ∈ rules, rule.enabled → rule.evaluateMatch r = some true → rule.keyHash r ∈ keys rule) :
    (l.evaluateWith pruneLocked rules r later).2 = (u.evaluateWith (fun l _ => l) rules r later).2 ∧
      ∃ reached ≤ later, Mirrors rules keys reached (l.evaluateWith pruneLocked rules r later).1
        (u.evaluateWith (fun l _ => l) rules r later).1 := by
  unfold evaluateWith
  split
  next => exact ⟨rfl,now,le,mirrors⟩
  next => exact ⟨rfl,now,le,mirrors⟩
  next found _ ok =>
    have listed : ∀ candidate ∈ found, candidate.1 ∈ rules ∧ candidate.2 ∈ keys candidate.1 := by
      intro _ mem
      obtain ⟨known,enabled,matched,named⟩ := mem_candidates ok mem
      rw [named]
      exact ⟨known,members _ known enabled matched⟩
    obtain ⟨answers,next⟩ := consultAll_alike distinct valid few found listed (mirrors_prune valid back mirrors le)
    exact ⟨answers,later,le_rfl,next⟩

theorem serve_alike (requests : List (ρ × Nat))
    (members : ∀ request ∈ requests, ∀ rule ∈ rules, rule.enabled → rule.evaluateMatch request.1 = some true →
      rule.keyHash request.1 ∈ keys rule)
    (sorted : (requests.map Prod.snd).Pairwise (· ≤ ·)) (after : ∀ request ∈ requests, now ≤ request.2)
    (mirrors : Mirrors rules keys now l u) : (serve rules l requests).2 = (serveUnpruned rules u requests).2 := by
  induction requests generalizing l u now with
  | nil => rfl
  | cons request _ ih =>
    obtain ⟨r,time⟩ := request
    rw [map_cons,pairwise_cons] at sorted
    obtain ⟨answers,_,bound,next⟩ := evaluate_alike distinct valid few back mirrors
      (after (r,time) mem_cons_self) (members (r,time) mem_cons_self)
    have tail := ih (fun request later => members request (mem_cons_of_mem _ later)) sorted.2
      (fun request later => bound.trans (sorted.1 request.2 (mem_map_of_mem later))) next
    exact congrArg₂ cons answers tail

end

/-- When the allowance of every enabled rule is back within the time idle keys are kept, every decision
is that of the limiter that never prunes. -/
theorem pruning_transparent (rules : List (Rule ρ)) (requests : List (ρ × Nat)) (distinct : (rules.map Rule.id).Nodup)
    (accepted : ∀ rule ∈ rules, ∃ limit windowMillis burst,
      validatePublicRateLimitRuleInput limit windowMillis burst = .ok (rule.limit,rule.windowMillis,rule.burst))
    (back : ∀ rule ∈ rules, rule.enabled = true → outlived rule = true)
    (few : ∀ rule ∈ rules, (keysOf requests rule).dedup.length ≤ maxRateLimitKeysPerRule)
    (sorted : (requests.map Prod.snd).Pairwise (· ≤ ·)) :
    (serve rules .empty requests).2 = (serveUnpruned rules .empty requests).2 := by
  have valid : ∀ rule ∈ rules, Validated rule := by
    intro rule listed
    obtain ⟨_,_,_,ok⟩ := accepted rule listed
    exact validated ok
  have members : ∀ request ∈ requests, ∀ rule ∈ rules, rule.enabled →
      rule.evaluateMatch request.1 = some true → rule.keyHash request.1 ∈ keysOf requests rule := by
    intro request mem _ _ enabled matched
    refine mem_map.mpr ⟨request,mem_filter.mpr ⟨mem,?_⟩,rfl⟩
    simp [enabled,matched]
  have back : ∀ rule ∈ rules, ∀ key ∈ keysOf requests rule, outlived rule := by
    intro rule listed key mem
    obtain ⟨_,matching,_⟩ := mem_map.mp mem
    have enabled := (mem_filter.mp matching).2
    simp only [Bool.and_eq_true] at enabled
    exact back rule listed enabled.1
  exact serve_alike distinct valid few back requests members sorted (fun _ _ => Nat.zero_le _)
    (mirrors_empty rules (keysOf requests) 0)

/-- One request per window of the given length, for every client under one key. -/
def exampleRule (algorithm : Algorithm) (windowMillis : Int) : Rule Unit where
  id := 1
  enabled := true
  algorithm
  limit := 1
  windowMillis
  burst := 0
  fingerprint := "rule"
  evaluateMatch _ := some true
  keyHash _ := "client"
  responseStatusCode := 429
  responseBody := "Rate limit exceeded\n"

/-- Two requests sixteen minutes apart under fifteen minutes long windows. -/
theorem pruning_transparent_quarter_hour : (serve [exampleRule .slidingWindow 900000] .empty [((),0),((),960 * 1000000000)]).2 =
      (serveUnpruned [exampleRule .slidingWindow 900000] .empty [((),0),((),960 * 1000000000)]).2 := by
  apply pruning_transparent
  · decide
  · intro rule listed
    rw [mem_singleton.mp listed]
    exact ⟨1,900000,0,rfl⟩
  · intro rule listed _
    rw [mem_singleton.mp listed]
    decide
  · intro _ listed
    rw [mem_singleton.mp listed]
    decide
  · decide

/-- Under a window of a day, the second request passes after sixteen minutes because the limiter
has forgotten the first. -/
theorem allowance_regained : validatePublicRateLimitRuleInput 1 86400000 0 = .ok (1,86400000,0) ∧
      (serve [exampleRule .slidingWindow 86400000] .empty [((),0),((),960 * 1000000000)]).2 = [none,none] ∧
      ((serveUnpruned [exampleRule .slidingWindow 86400000] .empty [((),0),((),960 * 1000000000)]).2.map
        isSome) = [false,true] := by
  refine ⟨rfl,?_⟩
  decide +kernel

def Stored (l : Limiter) : Prop :=
  ∀ id runtime, l.rules.lookup id = some runtime → runtime.keys.entries.length ≤ maxRateLimitKeysPerRule

theorem length_found {keys : Table String KeyRuntime} (found : keys.lookup key = some s) :
    keys.entries.length = (keys.erase key).entries.length + 1 := by
  simpa only [length_cons,length_values] using (values_perm_erase _ _ _ found).length_eq

/-- A new key takes the place of the oldest where there is no room. -/
theorem length_room {keys : Table String KeyRuntime} (le : keys.entries.length ≤ maxRateLimitKeysPerRule) :
    ((room keys key).insert key s).entries.length ≤ maxRateLimitKeysPerRule := by
  have fewer (t : Table String KeyRuntime) : (t.erase key).entries.length ≤ t.entries.length := (kerase_sublist _ _).length_le
  have some_key : 1 ≤ maxRateLimitKeysPerRule := by decide
  rw [← length_values,values_insert,length_cons,length_values]
  unfold room
  have left := fewer keys
  split_ifs with full
  · unfold evictOldestRateLimitKey
    split
    · next none =>
      rw [argmin_eq_none.mp none,length_nil] at left
      omega
    · next oldest least =>
      have less := length_found (lookup_of_mem_entries keys oldest (argmin_mem least))
      have left := fewer (keys.erase oldest.1)
      omega
  · cases found : keys.lookup key with
    | none =>
      simp only [found,isNone_none,true_and] at full
      omega
    | some => exact length_found found ▸ le

theorem stored_prune (stored : Stored l) (now : Nat) : Stored (l.pruneLocked now) := by
  unfold pruneLocked
  split_ifs
  · exact stored
  · intro id runtime found
    rw [lookup_mapValues] at found
    obtain ⟨old,present,rfl⟩ := map_eq_some_iff.mp found
    exact (length_filter_le _ _).trans (stored id old present)

theorem stored_consultAll (now : Nat) (found : List (Rule ρ × String)) (stored : Stored l) : Stored (l.consultAll now found).1 := by
  induction found generalizing l with
  | nil => exact stored
  | cons first _ ih =>
    have consulted : Stored (l.consult now first.1 first.2).1 := by
      refine forall_insert stored (length_room ?_)
      unfold runtime
      split
      · exact Nat.zero_le _
      · next present =>
        split_ifs
        · exact Nat.zero_le _
        · exact stored _ _ present
    unfold consultAll
    dsimp only
    split_ifs
    · exact ih consulted
    · exact consulted

/-- Whatever is requested, no rule keeps more keys than its share. -/
theorem keys_bounded (rules : List (Rule ρ)) (requests : List (ρ × Nat)) : Stored (serve rules .empty requests).1 := by
  suffices kept : ∀ l, Stored l → Stored (serve rules l requests).1 from kept .empty fun _ _ found => by cases found
  induction requests with
  | nil => exact fun _ stored => stored
  | cons _ _ ih =>
    intro l stored
    refine ih _ ?_
    split
    · exact stored
    · exact stored
    · exact stored_consultAll _ _ (stored_prune stored _)

end P2pstream.RateLimitPruning
