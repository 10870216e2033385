import P2pstream.Library.Checks
import P2pstream.Kernel.TrafficShaper

/-! The rate of a shaper bucket. What it holds and what it has granted come out of its burst and
of the time it was refilled for; a time that arrives out of order moves the refill back, and the
same interval is credited again.
-/
namespace P2pstream.TrafficShaperBound
open Library Kernel.TrafficShaper Checks List Shaper Transitions

variable {b : ByteTokenBucket} {s next : Shaper} {input : Input} {past events : List Event} {now created : Int}

def lessRefunds (refund : Int → ℚ → ℚ) (past : List Event) : ℚ := (past.map fun event => match event with
    | .granted _ bytes => bytes
    | .refunded _ bytes taken => -refund bytes taken).sum

theorem lessRefunds_append (refund : Int → ℚ → ℚ) (past events : List Event) :
    lessRefunds refund (past ++ events) = lessRefunds refund past + lessRefunds refund events := by
  simp [lessRefunds]

/-- The bytes granted less those refunded. -/
def net (past : List Event) : ℚ := lessRefunds (fun bytes _ => bytes) past

/-- The bytes granted less those the bucket took back. -/
def kept (past : List Event) : ℚ := lessRefunds (fun _ taken => taken) past

def allowance (b : ByteTokenBucket) (created now : Int) : ℚ := b.burstBytes + b.rateBytesPerSecond * ((now - created) / second)

structure Filled (b : ByteTokenBucket) : Prop where
  rate : 0 < b.rateBytesPerSecond
  burst : 0 < b.burstBytes
  tokens : 0 ≤ b.tokens

theorem filled_new {rate burst : Int} (made : newByteTokenBucket rate burst now = some b) :
    Filled b ∧ b.tokens = b.burstBytes ∧ b.lastRefill = now := by
  unfold newByteTokenBucket at made
  split_ifs at made with stopped default
  · have flows : (0 : ℚ) < rate := by exact_mod_cast not_le.mp stopped
    cases made
    exact ⟨⟨flows,flows,flows.le⟩,rfl,rfl⟩
  · have flows : (0 : ℚ) < rate := by exact_mod_cast not_le.mp stopped
    have holds : (0 : ℚ) < burst := by exact_mod_cast not_le.mp default
    cases made
    exact ⟨⟨flows,holds,holds.le⟩,rfl,rfl⟩

theorem refill_spec (filled : Filled b) (order : b.lastRefill ≤ now) :
    Filled (b.refillLocked now) ∧ (b.refillLocked now).lastRefill = now ∧
      (b.refillLocked now).rateBytesPerSecond = b.rateBytesPerSecond ∧
      (b.refillLocked now).burstBytes = b.burstBytes ∧
      (b.refillLocked now).tokens ≤ b.tokens + b.rateBytesPerSecond * ((now - b.lastRefill) / second) := by
  have time : (0 : ℚ) < second := by norm_num [second]
  have elapsed : (0 : ℚ) ≤ (now - b.lastRefill) / second := by
    apply div_nonneg _ time.le
    exact sub_nonneg.mpr (by exact_mod_cast order)
  have inflow := mul_nonneg filled.rate.le elapsed
  unfold ByteTokenBucket.refillLocked
  rw [if_neg (not_lt.mpr order)]
  dsimp only
  split_ifs with same
  · have zero : ((now : ℚ) - b.lastRefill) / second = 0 := le_antisymm same elapsed
    have equal : (now : ℚ) = b.lastRefill := by
      rcases div_eq_zero_iff.mp zero with difference | never
      · exact sub_eq_zero.mp difference
      · exact absurd never time.ne'
    refine ⟨filled,?_,rfl,rfl,by linarith⟩
    exact_mod_cast equal.symm
  · refine ⟨{ filled with tokens := le_min (add_nonneg filled.tokens ?_) filled.burst.le },rfl,rfl,rfl,?_⟩
    · rw [mul_comm]
      exact inflow
    · refine le_trans (min_le_left _ _) ?_
      rw [mul_comm]

/-- What the bucket holds and has given is covered by what it may have given. -/
structure Covered (created : Int) (past : List Event) (s : Shaper) : Prop where
  filled : Filled s.bucket
  balance : s.bucket.tokens + kept past ≤ allowance s.bucket created s.bucket.lastRefill
  nominal : net past ≤ kept past
  refilled : s.bucket.lastRefill ≤ s.clock
  captured : ∀ waiter w now, s.waiters.lookup waiter = some w → w.captured = some now → now ≤ s.clock

def inOrder (s : Shaper) : Input → Bool
  | .lock waiter => ((s.waiters.lookup waiter).bind Waiter.captured).all fun now => s.bucket.lastRefill ≤ now
  | _ => true

theorem spend_spec (filled : Filled b) (order : b.lastRefill ≤ now) {bytes : ℚ} {after : ByteTokenBucket}
    {wait : Option Int} (ran : b.trySpend now bytes = (after,wait)) :
    Filled after ∧ after.lastRefill = now ∧ after.rateBytesPerSecond = b.rateBytesPerSecond ∧ after.burstBytes = b.burstBytes ∧
      after.tokens + (if wait = none then bytes else 0) ≤
        b.tokens + b.rateBytesPerSecond * ((now - b.lastRefill) / second) := by
  obtain ⟨full,time,rate,burst,bound⟩ := refill_spec filled order
  unfold ByteTokenBucket.trySpend at ran
  dsimp only at ran
  split_ifs at ran with enough
  · cases ran
    refine ⟨{ full with tokens := sub_nonneg.mpr enough },time,rate,burst,?_⟩
    simp only [if_true]
    linarith
  · cases ran
    exact ⟨full,time,rate,burst,by simpa using bound⟩

theorem allowance_later {after : ByteTokenBucket} (same : after.rateBytesPerSecond = b.rateBytesPerSecond)
    (burst : after.burstBytes = b.burstBytes) (created last now : Int) :
    allowance after created now = allowance b created last + b.rateBytesPerSecond * ((now - last) / second) := by
  unfold allowance
  rw [same,burst]
  ring

variable {clock : Int}

theorem captured_insert {waiters : Table Nat Waiter} {waiter : Nat} {w : Waiter}
    (before : ∀ id w now, waiters.lookup id = some w → w.captured = some now → now ≤ clock)
    (here : ∀ now, w.captured = some now → now ≤ clock) (id : Nat) (w' : Waiter) (now : Int)
    (found : (waiters.insert waiter w).lookup id = some w') (time : w'.captured = some now) : now ≤ clock := by
  rcases Table.of_lookup_insert found with ⟨rfl,rfl⟩ | ⟨_,found⟩
  · exact here now time
  · exact before id w' now found time

theorem captured_erase {waiters : Table Nat Waiter} (waiter : Nat)
    (before : ∀ id w now, waiters.lookup id = some w → w.captured = some now → now ≤ clock) (id : Nat) (w' : Waiter)
    (now : Int) (found : (waiters.erase waiter).lookup id = some w') (time : w'.captured = some now) : now ≤ clock :=
  before id w' now (Table.of_lookup_erase found).2 time

section

variable (covered : Covered created past s)
include covered

theorem covered_lock {waiter : Nat} {w : Waiter}
    (known : s.waiters.lookup waiter = some w) (time : w.captured = some now) (order : s.bucket.lastRefill ≤ now)
    (ran : s.lock waiter w now = (next,events)) : Covered created (past ++ events) next := by
  have here := covered.captured waiter w now known time
  have forgotten {w : Waiter} (unread : w.captured = none) (now : Int) (read : w.captured = some now) : now ≤ s.clock := by
    rw [unread] at read
    cases read
  unfold lock at ran
  dsimp only at ran
  split at ran
  next bucket wait spent =>
    cases ran
    obtain ⟨filled,last,rate,burst,bound⟩ := spend_spec covered.filled order spent
    rw [append_nil]
    refine ⟨filled,?_,covered.nominal,by simp only [setWaiter]; omega,captured_insert covered.captured (forgotten rfl)⟩
    change bucket.tokens + kept past ≤ allowance bucket created bucket.lastRefill
    have balance := covered.balance
    have later := allowance_later rate burst created s.bucket.lastRefill now
    rw [last]
    simp only [reduceCtorEq,if_false,add_zero] at bound
    linarith
  next bucket spent =>
    cases ran
    obtain ⟨filled,last,rate,burst,bound⟩ := spend_spec covered.filled order spent
    refine ⟨filled,?_,?_,by simp only [setWaiter]; omega,captured_insert covered.captured (forgotten rfl)⟩
    · change bucket.tokens + kept (past ++ [_]) ≤ allowance bucket created bucket.lastRefill
      have balance := covered.balance
      have later := allowance_later rate burst created s.bucket.lastRefill now
      rw [kept,lessRefunds_append,last]
      simp only [if_true] at bound
      simp only [kept,lessRefunds,map_cons,map_nil,sum_cons,sum_nil,add_zero] at balance ⊢
      linarith
    · rw [net,kept,lessRefunds_append,lessRefunds_append]
      exact add_le_add_left covered.nominal _

theorem covered_refund (waiter : Nat) (bytes : Int) :
    Covered created (past ++ if 0 < bytes then
        [.refunded waiter bytes ((s.bucket.refund bytes).tokens - s.bucket.tokens)] else [])
      { s with bucket := s.bucket.refund bytes, waiters := s.waiters.erase waiter } := by
  have balance := covered.balance
  have nominal := covered.nominal
  have filled := covered.filled
  have waiting := captured_erase waiter covered.captured
  by_cases none : bytes ≤ 0
  · have same : s.bucket.refund bytes = s.bucket := if_pos none
    rw [same,if_neg (not_lt.mpr none),append_nil]
    exact ⟨filled,balance,nominal,covered.refilled,waiting⟩
  · have positive : (0 : ℚ) < bytes := by exact_mod_cast not_le.mp none
    have given : s.bucket.refund bytes =
        { s.bucket with tokens := min (s.bucket.tokens + bytes) s.bucket.burstBytes } := if_neg none
    rw [given,if_pos (not_le.mp none)]
    refine ⟨{ filled with tokens := ?_ },?_,?_,covered.refilled,waiting⟩
    · exact le_min (add_nonneg filled.tokens positive.le) filled.burst.le
    · change min (s.bucket.tokens + bytes) s.bucket.burstBytes + kept (past ++ [_]) ≤
        allowance s.bucket created s.bucket.lastRefill
      rw [kept,lessRefunds_append]
      simp only [kept,lessRefunds,map_cons,map_nil,sum_cons,sum_nil,add_zero] at balance ⊢
      linarith
    · have clipped := min_le_left (s.bucket.tokens + bytes) s.bucket.burstBytes
      rw [net,kept,lessRefunds_append,lessRefunds_append]
      simp only [net,kept,lessRefunds,map_cons,map_nil,sum_cons,sum_nil,add_zero] at nominal ⊢
      linarith

theorem covered_step (ordered : inOrder s input)
    (ok : s.step input = some (next,events)) : Covered created (past ++ events) next := by
  have balance := covered.balance
  have nominal := covered.nominal
  cases input with
  | tick elapsed =>
    cases ok
    rw [append_nil]
    have forward : s.clock ≤ s.clock + elapsed := by omega
    exact ⟨covered.filled,balance,nominal,covered.refilled.trans forward,fun id w now found time =>
      (covered.captured id w now found time).trans forward⟩
  | reserve =>
    simp only [step] at ok
    split_ifs at ok
    · cases ok
      rw [append_nil]
      exact ⟨covered.filled,balance,nominal,covered.refilled,captured_insert covered.captured nofun⟩
    · cases ok
      rw [append_nil]
      exact covered
  | capture =>
    simp only [step,bind_some,guard_some,pure_pair] at ok
    obtain ⟨w,known,_,rfl,rfl⟩ := ok
    rw [append_nil]
    refine ⟨covered.filled,balance,nominal,covered.refilled,captured_insert covered.captured fun now read => ?_⟩
    exact (Option.some.inj read).ge
  | lock =>
    simp only [step,bind_some,guard_some,pure_some] at ok
    obtain ⟨w,known,_,now,time,ran⟩ := ok
    have order : s.bucket.lastRefill ≤ now := by simpa [inOrder,known,time] using ordered
    exact covered_lock covered known time order ran
  | cancel =>
    cases ok
    rw [append_nil]
    exact ⟨covered.filled,balance,nominal,covered.refilled,captured_erase _ covered.captured⟩
  | reconcile waiter =>
    simp only [step,bind_some,guard_some,pure_pair] at ok
    obtain ⟨_,_,_,rfl,rfl⟩ := ok
    exact covered_refund covered waiter _

end

def SameRate (b after : ByteTokenBucket) : Prop :=
  after.rateBytesPerSecond = b.rateBytesPerSecond ∧ after.burstBytes = b.burstBytes

theorem sameRate_refill (b : ByteTokenBucket) (now : Int) : SameRate b (b.refillLocked now) := by
  unfold ByteTokenBucket.refillLocked
  dsimp only
  split_ifs <;> exact ⟨rfl,rfl⟩

theorem sameRate_lock (s : Shaper) (waiter : Nat) (w : Waiter) (now : Int) :
    SameRate s.bucket (s.lock waiter w now).1.bucket := by
  have refilled := sameRate_refill s.bucket now
  have spent (bytes : ℚ) : SameRate s.bucket (s.bucket.trySpend now bytes).1 := by
    unfold ByteTokenBucket.trySpend
    dsimp only
    split_ifs <;> exact refilled
  have here := spent (s.bucket.spend w.remaining)
  unfold lock
  dsimp only
  split
  next ran =>
    rw [ran] at here
    exact here
  next ran =>
    rw [ran] at here
    exact here

theorem sameRate_refund (b : ByteTokenBucket) (bytes : Int) : SameRate b (b.refund bytes) := by
  unfold ByteTokenBucket.refund
  split_ifs <;> exact ⟨rfl,rfl⟩

theorem sameRate_step (ok : s.step input = some (next,events)) : SameRate s.bucket next.bucket := by
  cases input with
  | tick | cancel =>
    obtain ⟨rfl,_⟩ := Prod.mk.inj (Option.some.inj ok)
    exact ⟨rfl,rfl⟩
  | reserve =>
    simp only [step] at ok
    split_ifs at ok <;> obtain ⟨rfl,_⟩ := Prod.mk.inj (Option.some.inj ok) <;> exact ⟨rfl,rfl⟩
  | capture =>
    simp only [step,bind_some,guard_some,pure_pair] at ok
    obtain ⟨w,_,_,rfl,_⟩ := ok
    exact ⟨rfl,rfl⟩
  | lock waiter =>
    simp only [step,bind_some,guard_some,pure_some] at ok
    obtain ⟨w,_,_,now,_,ran⟩ := ok
    have same := sameRate_lock s waiter w now
    rwa [ran] at same
  | reconcile =>
    simp only [step,bind_some,guard_some,pure_pair] at ok
    obtain ⟨_,_,_,rfl,_⟩ := ok
    exact sameRate_refund s.bucket _

/-- A bucket that is entered in the order of the times its waiters captured never gives more than
its burst and its rate allow. -/
theorem shaper_bound (rate burst created : Int) (start s : Shaper) (past : List Event) (inputs : List Input)
    (made : initial rate burst created = some start)
    (ordered : Transitions.Meets step (fun s input => inOrder s input = true) start inputs)
    (reached : run step start inputs = some (s,past)) :
    net past ≤ kept past ∧ kept past ≤ (if burst ≤ 0 then rate else burst) + rate * ((s.clock - created) / second : ℚ) := by
  obtain ⟨bucket,new,rfl⟩ := Option.map_eq_some_iff.mp made
  obtain ⟨filled,full,last⟩ := filled_new new
  have begun : Covered created [] ⟨created,bucket,∅,0⟩ := by
    refine ⟨filled,?_,le_refl _,last.le,nofun⟩
    rw [full,last]
    simp [kept,lessRefunds,allowance]
  let history (past : List Event) (s : Shaper) : Prop := Covered created past s ∧ SameRate bucket s.bucket
  have kept : history ([] ++ past) s := by
    refine run_history ?_ ⟨begun,rfl,rfl⟩ ordered reached
    intro _ s _ _ _ holds order ok
    exact ⟨covered_step holds.1 order ok,(sameRate_step ok).1.trans holds.2.1,(sameRate_step ok).2.trans holds.2.2⟩
  obtain ⟨covered,same⟩ := kept
  rw [nil_append] at covered
  have balance := covered.balance
  have tokens := covered.filled.tokens
  have numbers : bucket.rateBytesPerSecond = rate ∧ bucket.burstBytes = (if burst ≤ 0 then rate else burst : Int) := by
    unfold newByteTokenBucket at new
    split_ifs at new
    all_goals
      cases new
      simp_all
  have flows : (0 : ℚ) < rate := by
    rw [← numbers.1]
    exact filled.rate
  have elapsed : ((s.bucket.lastRefill : ℚ) - created) / second ≤ (s.clock - created) / second := by
    apply div_le_div_of_nonneg_right _ (by norm_num [second])
    exact sub_le_sub_right (by exact_mod_cast covered.refilled) _
  have inflow := mul_le_mul_of_nonneg_left elapsed flows.le
  unfold allowance at balance
  rw [same.1,same.2,numbers.1] at balance
  exact ⟨covered.nominal,by linarith⟩

/-- The bytes a run from a new bucket has given, and the time it has come to. -/
def given (rate burst created : Int) (inputs : List Input) : Option (ℚ × Int) := (initial rate burst created).bind fun start =>
    (run step start inputs).map fun reached => (net reached.2,reached.1.clock)

theorem given_run {rate burst created : Int} {inputs : List Input} {bytes : ℚ}
    (ran : given rate burst created inputs = some (bytes,clock)) :
    ∃ start s past, initial rate burst created = some start ∧
      run step start inputs = some (s,past) ∧ net past = bytes ∧ s.clock = clock := by
  obtain ⟨start,made,ran⟩ := Option.bind_eq_some_iff.mp ran
  obtain ⟨⟨s,past⟩,ran,equal⟩ := Option.map_eq_some_iff.mp ran
  obtain ⟨bytes,clock⟩ := Prod.mk.inj equal
  exact ⟨start,s,past,made,ran,bytes,clock⟩

/-- Of two waiters at one byte per second the second reads the clock again after a second. -/
def patientWaiters : List Input :=
  [.reserve 0 1,.reserve 0 1,.capture 0,.lock 0,.capture 1,.lock 1,.tick 1000000000,.capture 1,.lock 1]

theorem shaper_bound_waits : ∃ start s past, initial 1 1 0 = some start ∧
      run step start patientWaiters = some (s,past) ∧ net past = 2 ∧
      net past ≤ (if (1 : Int) ≤ 0 then (1 : Int) else 1 : Int) + (1 : Int) * ((s.clock - (0 : Int)) / second : ℚ) := by
  obtain ⟨start,s,past,made,ran,bytes,_⟩ : ∃ start s past, initial 1 1 0 = some start ∧
      run step start patientWaiters = some (s,past) ∧ net past = 2 ∧ s.clock = 1000000000 :=
    given_run (by decide +kernel)
  have ordered : Transitions.Meets step (fun s input => inOrder s input) start patientWaiters := by
    obtain rfl : _ = start := Option.some.inj made
    exact meets_of_checks (fun _ _ checked => checked) (by decide +kernel)
  obtain ⟨nominal,bound⟩ := shaper_bound 1 1 0 start s past patientWaiters made ordered ran
  exact ⟨start,s,past,made,ran,bytes,nominal.trans bound⟩

/-- Waiters 1 and 3 read the clock at the start and take the lock a second later, each just before
another waiter. -/
def lateWaiters : List Input :=
  [.reserve 0 1,.reserve 0 1,.reserve 0 1,.reserve 0 1,.reserve 0 1,.capture 1,.capture 3,.tick 1000000000,.capture 0,
    .lock 0,.lock 1,.capture 2,.lock 2,.lock 3,.capture 4,.lock 4]

/-- The second is credited again after each late waiter: three bytes are granted where two are
allowed. -/
theorem second_credited_again :
    ∃ start s past, initial 1 1 0 = some start ∧ run step start lateWaiters = some (s,past) ∧
      ¬ net past ≤ 1 + 1 * ((s.clock - (0 : Int)) / second : ℚ) := by
  obtain ⟨start,s,past,made,ran,bytes,clock⟩ : ∃ start s past, initial 1 1 0 = some start ∧
      run step start lateWaiters = some (s,past) ∧ net past = 3 ∧ s.clock = 1000000000 :=
    given_run (by decide +kernel)
  refine ⟨start,s,past,made,ran,?_⟩
  rw [bytes,clock]
  norm_num [second]

end P2pstream.TrafficShaperBound
