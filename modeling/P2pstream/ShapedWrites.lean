import P2pstream.Kernel.ShapedWriter

/-! The account of a shaped writer. A chunk is no longer than the burst of its bucket, so `wait`
takes it in one part and a wait that is cut short has taken nothing; what a chunk takes too much
is given back when the connection has answered.
-/
namespace P2pstream.ShapedWrites
open Library Kernel.ShapedWriter Transitions List Writer
open Kernel.TrafficShaper (ByteTokenBucket Reservation newByteTokenBucket)

def accepted (past : List Event) : Int := (past.map fun event => match event with
    | .accepted bytes => bytes
    | _ => 0).sum

def reported (past : List Event) : Int := (past.map fun event => match event with
    | .returned written => written
    | _ => 0).sum

def charged (past : List Event) : ℚ := (past.map fun event => match event with
    | .spent bytes => bytes
    | .refunded bytes => (-bytes : ℚ)
    | _ => 0).sum

/-- Exempt bytes left and bytes charged are those of `written` bytes. -/
def Settled (allowance written exemptRemaining : Int) (charges : ℚ) : Prop :=
  exemptRemaining = allowance - min written allowance ∧ charges = (written - min written allowance : Int)

/-- A chunk reserved with `exemptRemaining` bytes exempt, within the burst. -/
structure Chunk (burst exemptRemaining : Int) (r : Reservation) : Prop where
  made : r = .of exemptRemaining r.reserved
  present : 0 < r.reserved
  fits : r.reserved ≤ burst

/-- The account where a call stands. -/
def Balanced (burst allowance : Int) (past : List Event) (s : Writer) : Prop :=
  match s.phase with
  | .waiting _ _ r remaining => Settled allowance (accepted past) s.writeExemptRemaining (charged past) ∧
    Chunk burst s.writeExemptRemaining r ∧ remaining = r.charged
  | .reserved _ _ r => Settled allowance (accepted past) (s.writeExemptRemaining + r.exempted) (charged past - r.charged) ∧
    Chunk burst (s.writeExemptRemaining + r.exempted) r
  | _ => Settled allowance (accepted past) s.writeExemptRemaining (charged past)

def written : Phase → Int
  | .idle => 0
  | .head _ written | .waiting _ written _ _ | .reserved _ written _ => written

structure Accounted (burst allowance : Int) (past : List Event) (s : Writer) : Prop where
  reports : reported past + written s.phase = accepted past
  balanced : ∀ b ∈ s.writeBucket, b.burstBytes = burst ∧ Balanced burst allowance past s

variable {burst allowance : Int} {past events : List Event} {s next : Writer} {r : Reservation} {remaining : ℚ}

theorem Chunk.split {exempt : Int} (chunk : Chunk burst exempt r) : r.exempted = max 0 (min r.reserved exempt) ∧
    r.charged = r.reserved - r.exempted ∧ 0 ≤ r.charged := by
  obtain ⟨made,present,_⟩ := chunk
  rw [made]
  simp only [Reservation.of]
  grind

theorem chunkLimit_le {b : ByteTokenBucket} (positive : 0 < burst) (whole : b.burstBytes = burst) :
    0 < chunkLimit b ∧ chunkLimit b ≤ burst := by
  have flows : ¬ b.burstBytes ≤ 0 := by
    rw [whole]
    exact_mod_cast positive.not_ge
  rw [chunkLimit,if_neg flows,whole,Rat.ceil_intCast,maxShapingChunkBytes]
  omega

theorem trySpend_burst (b : ByteTokenBucket) (now : Int) (bytes : ℚ) : (b.trySpend now bytes).1.burstBytes = b.burstBytes := by
  have refilled : (b.refillLocked now).burstBytes = b.burstBytes := by
    unfold ByteTokenBucket.refillLocked
    grind
  unfold ByteTokenBucket.trySpend
  grind

theorem accounted_wait {left done : Int} {b : ByteTokenBucket} (bucket : s.writeBucket = some b) (whole : b.burstBytes = burst)
    (reports : reported past + done = accepted past) (chunk : Chunk burst s.writeExemptRemaining r)
    (parts : remaining = r.charged ∨ remaining = 0)
    (settled : Settled allowance (accepted past) s.writeExemptRemaining (charged past - (r.charged - remaining))) :
    Accounted burst allowance past (s.wait left done r remaining) := by
  unfold Writer.wait
  split_ifs with more
  all_goals
    refine ⟨reports,fun b' mem => ?_⟩
    cases bucket.symm.trans mem
    refine ⟨whole,?_⟩
  · have all : remaining = r.charged := parts.resolve_right more.ne'
    rw [all,sub_self,sub_zero] at settled
    exact ⟨settled,chunk,all⟩
  · have none : remaining = 0 := by
      refine parts.elim (fun all => le_antisymm (not_lt.mp more) ?_) id
      rw [all]
      exact_mod_cast chunk.split.2.2
    rw [none,sub_zero] at settled
    simpa [Balanced] using ⟨settled,chunk⟩

theorem reconcile_settles {n : Int} (counts : 0 ≤ n) (fits : 0 < r.reserved → n ≤ r.reserved)
    (balanced : ∀ b ∈ s.writeBucket, b.burstBytes = burst ∧
      Settled allowance (accepted past) (s.writeExemptRemaining + r.exempted) (charged past - r.charged) ∧
      Chunk burst (s.writeExemptRemaining + r.exempted) r) :
    (accepted (s.reconcile r n).2 = 0 ∧ reported (s.reconcile r n).2 = 0) ∧
    ∀ b ∈ (s.reconcile r n).1.writeBucket, b.burstBytes = burst ∧
      Settled allowance (accepted past + n) (s.reconcile r n).1.writeExemptRemaining (charged past + charged (s.reconcile r n).2) := by
  cases bucket : s.writeBucket with
  | none => simp [reconcile,bucket,accepted,reported]
  | some b =>
    obtain ⟨whole,⟨left,charges⟩,chunk⟩ := balanced b bucket
    obtain ⟨exempted,rest,_⟩ := chunk.split
    have fits := fits chunk.present
    have unused : r.unused n = r.charged - (n - min n r.exempted) ∧ 0 ≤ r.unused n := by
      rw [Reservation.unused,max_eq_left counts,min_eq_left fits]
      omega
    have before : charged past = (accepted past - min (accepted past) allowance + r.charged : Int) := by
      rw [Int.cast_add,← charges,sub_add_cancel]
    simp only [reconcile,bucket,if_neg chunk.present.not_ge]
    have refunds : charged (if 0 < r.unused n then [.refunded (r.unused n)] else []) = (-r.unused n : Int) := by
      split_ifs with more
      · simp [charged]
      · rw [le_antisymm (not_lt.mp more) unused.2]
        rfl
    refine ⟨by split_ifs <;> exact ⟨rfl,rfl⟩,?_⟩
    rintro _ ⟨⟩
    rw [refunds,unused.1,before,← Int.cast_add]
    constructor
    · unfold ByteTokenBucket.refund
      split_ifs <;> exact whole
    · simp only [Settled,Int.cast_inj,max_eq_left counts,min_eq_left fits]
      omega

theorem accounted_step {input : Input} (positive : 0 < burst) (accounted : Accounted burst allowance past s)
    (ok : s.step input = some (next,events)) : Accounted burst allowance (past ++ events) next := by
  obtain ⟨reports,balanced⟩ := accounted
  cases input with
  | others tokens lastRefill lastUsed =>
    cases ok
    rw [append_nil]
    refine ⟨reports,fun b mem => ?_⟩
    obtain ⟨before,held,rfl⟩ := Option.mem_map.mp mem
    exact balanced before held
  | write length =>
    simp only [step] at ok
    split at ok <;> cases ok
    next idle =>
    rw [append_nil]
    simp only [Balanced,written,idle] at balanced reports
    exact ⟨reports,balanced⟩
  | reserve =>
    simp only [step] at ok
    split at ok <;> try cases ok
    next left done head =>
    simp only [Balanced,written,head] at balanced reports
    split_ifs at ok with ended
    · cases ok
      refine ⟨?_,?_⟩
      · simpa [accepted,reported,written] using reports
      · simpa [accepted,charged,Balanced] using balanced
    split at ok <;> cases ok <;> rw [append_nil]
    next bucket => exact ⟨reports,by simp [bucket]⟩
    next b bucket =>
    obtain ⟨whole,settled⟩ := balanced b bucket
    obtain ⟨some,fits⟩ := chunkLimit_le positive whole
    refine accounted_wait bucket whole reports ⟨rfl,?_,?_⟩ (.inl rfl) (by rwa [sub_self,sub_zero]) <;>
      simp only [Reservation.of] <;> omega
  | lock now cancelled =>
    simp only [step] at ok
    split at ok <;> try cases ok
    next left done r remaining b waits bucket =>
    simp only [Balanced,written,waits] at balanced reports
    obtain ⟨whole,settled,chunk,rfl⟩ := balanced b bucket
    have kept := trySpend_burst b now (b.spend r.charged)
    have part : b.spend r.charged = r.charged := by
      obtain ⟨exempted,rest,_⟩ := chunk.split
      have fits : r.charged ≤ burst := by have := chunk.fits; omega
      rw [ByteTokenBucket.spend,whole,if_neg]
      exact fun more => more.2.not_ge (by exact_mod_cast fits)
    split at ok
    · next after spent =>
      cases ok
      rw [spent] at kept
      refine accounted_wait rfl (kept.trans whole) ?_ chunk (.inr (by rw [part,sub_self])) ?_
      · simpa [accepted,reported] using reports
      · simpa [accepted,charged,part] using settled
    · next after _ slept =>
      rw [slept] at kept
      split_ifs at ok <;> cases ok
      · refine ⟨by simpa [accepted,reported,written] using reports,?_⟩
        rintro _ ⟨⟩
        exact ⟨kept.trans whole,by simpa [accepted,charged,Balanced] using settled⟩
      · rw [append_nil]
        refine ⟨by simpa [waits,written] using reports,?_⟩
        rintro _ ⟨⟩
        exact ⟨kept.trans whole,by simpa [waits,Balanced] using ⟨settled,chunk⟩⟩
  | wrote n failed =>
    simp only [step] at ok
    split at ok <;> try cases ok
    next left done r stands =>
    simp only [Balanced,written,stands] at balanced reports
    have counts : 0 ≤ (if 0 ≤ n ∧ n ≤ r.reserved then n else 0) ∧
        (0 < r.reserved → (if 0 ≤ n ∧ n ≤ r.reserved then n else 0) ≤ r.reserved) := by grind
    generalize (if 0 ≤ n ∧ n ≤ r.reserved then n else 0) = n at ok counts
    obtain ⟨⟨silent,mute⟩,settles⟩ := reconcile_settles counts.1 counts.2 balanced
    simp only [accepted,reported] at silent mute
    split_ifs at ok <;> cases ok
    all_goals
      refine ⟨?_,by simpa [accepted,charged,Balanced,silent] using settles⟩
      simp [accepted,reported,written,silent,mute] at reports ⊢
      omega

theorem bucket_step {input : Input} (ok : s.step input = some (next,events)) :
    next.writeBucket.isSome = s.writeBucket.isSome := by
  unfold step Writer.wait reconcile at ok
  grind

theorem accounted_initial (rate burstBytes now exemptBytes : Int) : ∃ burst : Int, 0 < burst ∧
    Accounted burst (max exemptBytes 0) [] (initial rate burstBytes now exemptBytes) ∧
    (initial rate burstBytes now exemptBytes).writeBucket.isSome = decide (0 < rate) := by
  have settled : Settled (max exemptBytes 0) 0 (max exemptBytes 0) 0 := by simp [Settled]
  unfold initial newByteTokenBucket
  split_ifs with stopped default
  · exact ⟨1,by simp,⟨rfl,by simp⟩,by simp [stopped]⟩
  · refine ⟨rate,not_le.mp stopped,⟨rfl,?_⟩,by simpa using stopped⟩
    rintro _ ⟨⟩
    exact ⟨rfl,settled⟩
  · refine ⟨burstBytes,not_le.mp default,⟨rfl,?_⟩,by simpa using stopped⟩
    rintro _ ⟨⟩
    exact ⟨rfl,settled⟩

/-- After every sequence of calls of `Write`: what they reported is what the connection accepted,
and of that the exempt allowance was used first and the bucket charged for the rest. -/
theorem shaped_writes_account (rate burstBytes now exemptBytes : Int) (inputs : List Input)
    (ok : run step (initial rate burstBytes now exemptBytes) inputs = some (s,events)) (idle : s.phase = .idle) :
    reported events = accepted events ∧ (0 < rate →
      max exemptBytes 0 - s.writeExemptRemaining = min (accepted events) (max exemptBytes 0) ∧
      charged events = accepted events - min (accepted events) (max exemptBytes 0)) := by
  obtain ⟨burst,positive,start⟩ := accounted_initial rate burstBytes now exemptBytes
  obtain ⟨⟨reports,balanced⟩,present⟩ := run_history
    (motive := fun past s => Accounted burst (max exemptBytes 0) past s ∧ s.writeBucket.isSome = decide (0 < rate))
    (fun _ _ _ _ _ held _ taken => ⟨accounted_step positive held.1 taken,(bucket_step taken).trans held.2⟩) start
    (meets_true _ inputs) ok
  simp only [idle,written,add_zero,nil_append,Balanced] at reports balanced
  refine ⟨reports,fun flows => ?_⟩
  obtain ⟨b,bucket⟩ := Option.isSome_iff_exists.mp (present.trans (decide_eq_true flows))
  obtain ⟨_,exempt,charges⟩ := balanced b bucket
  exact ⟨by omega,by exact_mod_cast charges⟩

/-- A call of ten bytes, four of them exempt, to a connection that takes six and fails. -/
theorem shaped_writes_account_partial : ∃ s events,
    run step (initial 8 8 0 4) [.write 10,.reserve,.lock 0 false,.wrote 6 true] = some (s,events) ∧
      reported events = accepted events ∧ charged events = accepted events - min (accepted events) 4 ∧ accepted events = 6 := by
  have ok : run step (initial 8 8 0 4) [.write 10,.reserve,.lock 0 false,.wrote 6 true] = some (
      { writeBucket := some ⟨8,8,6,0,0⟩, writeExemptRemaining := 0, phase := .idle },
      [.spent 4,.accepted 6,.returned 6,.refunded 2]) := by decide +kernel
  obtain ⟨reports,account⟩ := shaped_writes_account 8 8 0 4 _ ok rfl
  exact ⟨_,_,ok,reports,(account (by decide)).2,rfl⟩

end P2pstream.ShapedWrites
