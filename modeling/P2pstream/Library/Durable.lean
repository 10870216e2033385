import Mathlib.Data.List.Basic

/-! Programs over durable state. Every step that can be observed after a crash is
recorded with the state it leaves, so a crash is a prefix of the record. A write may
fail before or after it took effect; the answers of a service, the choices of the
environment and the readings of the clock come from an oracle.
-/
namespace P2pstream.Library.Durable
open List

variable {σ ε α β : Type}

inductive Fault where
  | none | early | late
  deriving DecidableEq

/-- Exhausted lists stand for a world without faults that answers yes. -/
structure Oracle where
  faults : List Fault := []
  answers : List Bool := []
  choices : List Bool := []
  readings : List Int := []
  deriving DecidableEq

structure Outcome (σ ε α : Type) where
  trace : List (ε × σ)
  state : σ
  oracle : Oracle
  result : Option α

def Program (σ ε α : Type) : Type := σ → Oracle → Outcome σ ε α

namespace Program

protected def pure (value : α) : Program σ ε α := fun state oracle => ⟨[],state,oracle,some value⟩

protected def bind (first : Program σ ε α) (next : α → Program σ ε β) : Program σ ε β := fun state oracle =>
  let ran := first state oracle
  match ran.result with
  | none => ⟨ran.trace,ran.state,ran.oracle,none⟩
  | some value =>
    let then_ := next value ran.state ran.oracle
    ⟨ran.trace ++ then_.trace,then_.state,then_.oracle,then_.result⟩

instance : Monad (Program σ ε) where
  pure := Program.pure
  bind := Program.bind

end Program

def get : Program σ ε σ := fun state oracle => ⟨[],state,oracle,some state⟩

def fail : Program σ ε α := fun state oracle => ⟨[],state,oracle,none⟩

def check (condition : Bool) : Program σ ε Unit := if condition then pure () else fail

def require : Option α → Program σ ε α
  | none => fail
  | some value => pure value

def write (event : ε) (change : σ → σ) : Program σ ε Unit := fun state oracle =>
  match oracle.faults with
  | .early :: faults => ⟨[],state,{ oracle with faults },none⟩
  | .late :: faults => ⟨[(event,change state)],change state,{ oracle with faults },none⟩
  | .none :: faults => ⟨[(event,change state)],change state,{ oracle with faults },some ()⟩
  | [] => ⟨[(event,change state)],change state,oracle,some ()⟩

def ask (event : Bool → ε) : Program σ ε Bool := fun state oracle =>
  match oracle.answers with
  | answer :: answers => ⟨[(event answer,state)],state,{ oracle with answers },some answer⟩
  | [] => ⟨[(event true,state)],state,oracle,some true⟩

def choose (event : Bool → ε) : Program σ ε Bool := fun state oracle =>
  match oracle.choices with
  | choice :: choices => ⟨[(event choice,state)],state,{ oracle with choices },some choice⟩
  | [] => ⟨[(event true,state)],state,oracle,some true⟩

def wait (event : ε) (advance : Int → σ → σ) : Program σ ε Unit := fun state oracle =>
  match oracle.readings with
  | reading :: readings => ⟨[(event,advance reading state)],advance reading state,{ oracle with readings },some ()⟩
  | [] => ⟨[(event,state)],state,oracle,some ()⟩

def attempt (program : Program σ ε α) : Program σ ε (Option α) := fun state oracle =>
  let ran := program state oracle
  ⟨ran.trace,ran.state,ran.oracle,some ran.result⟩

def lastState (state : σ) : List (ε × σ) → σ
  | [] => state
  | (_,next) :: rest => lastState next rest

def Chain (allowed : σ → ε → σ → Prop) : σ → List (ε × σ) → Prop
  | _,[] => True
  | state,(event,next) :: rest => allowed state event next ∧ Chain allowed next rest

variable {allowed : σ → ε → σ → Prop}

theorem lastState_append (state : σ) (first second : List (ε × σ)) :
    lastState state (first ++ second) = lastState (lastState state first) second := by
  induction first generalizing state with
  | nil => rfl
  | cons entry _ ih => exact ih entry.2

theorem chain_append {state : σ} {first second : List (ε × σ)} (before : Chain allowed state first)
    (after : Chain allowed (lastState state first) second) : Chain allowed state (first ++ second) := by
  induction first generalizing state with
  | nil => exact after
  | cons _ _ ih => exact ⟨before.1,ih before.2 after⟩

variable {trace : List (ε × σ)} {motive broken : σ → Prop} {program first : Program σ ε α}
  {next : α → Program σ ε β} {middle : α → σ → Prop}

variable {loose : σ → ε → σ → Prop} {value : α} {oracle : Oracle} {condition : Bool}

theorem chain_mono (weaker : ∀ state event next, allowed state event next → loose state event next) {state : σ}
    (chain : Chain allowed state trace) : Chain loose state trace := by
  induction trace generalizing state with
  | nil => trivial
  | cons _ _ ih => exact ⟨weaker _ _ _ chain.1,ih chain.2⟩

theorem chain_take {state : σ} (chain : Chain allowed state trace) (count : Nat) : Chain allowed state (trace.take count) := by
  induction trace generalizing state count with
  | nil => simpa using chain
  | cons _ _ ih =>
    cases count with
    | zero => trivial
    | succ count => exact ⟨chain.1,ih chain.2 count⟩

theorem chain_invariant (preserved : ∀ state event next, motive state → allowed state event next → motive next)
    {state : σ} (holds : motive state) (chain : Chain allowed state trace) : motive (lastState state trace) := by
  induction trace generalizing state with
  | nil => exact holds
  | cons entry _ ih => exact ih (preserved state entry.1 entry.2 holds chain.1) chain.2

theorem chain_history {motive : List (ε × σ) → σ → Prop}
    (preserved : ∀ past state event next, motive past state → allowed state event next → motive (past ++ [(event,next)]) next)
    {past : List (ε × σ)} {state : σ} (holds : motive past state) (chain : Chain allowed state trace) :
    motive (past ++ trace) (lastState state trace) := by
  induction trace generalizing past state with
  | nil =>
    rw [append_nil]
    exact holds
  | cons entry _ ih =>
    have tail := ih (preserved past state entry.1 entry.2 holds chain.1) chain.2
    rw [append_assoc] at tail
    exact tail

theorem chain_always {observed : ε → σ → Prop}
    (preserved : ∀ state event next, motive state → allowed state event next → motive next)
    (seen : ∀ state event next, motive state → allowed state event next → observed event next) {state : σ}
    (holds : motive state) (chain : Chain allowed state trace) : ∀ entry ∈ trace, observed entry.1 entry.2 := by
  induction trace generalizing state with
  | nil => simp
  | cons _ _ ih =>
    intro entry mem
    rcases mem_cons.mp mem with rfl | mem
    · exact seen _ _ _ holds chain.1
    · exact ih (preserved _ _ _ holds chain.1) chain.2 entry mem

/-- A step that is taken once at most, and the steps that are allowed once it was taken. -/
structure Pivot (σ ε : Type) where
  turn : σ → ε → σ → Prop
  after : ε → σ → ε → σ → Prop

def Follows (allowed : σ → ε → σ → Prop) (pivot : Option (Pivot σ ε)) (state : σ) (trace : List (ε × σ)) : Prop :=
  Chain allowed state trace ∨ ∃ turning ∈ pivot, ∃ front event next rest, trace = front ++ (event,next) :: rest ∧
    Chain allowed state front ∧ Pivot.turn turning (lastState state front) event next ∧ Chain (Pivot.after turning event) next rest

variable {pivot : Option (Pivot σ ε)}

theorem follows_none {state : σ} : Follows allowed none state trace ↔ Chain allowed state trace := by
  simp [Follows]

private theorem follows_of_chain {state : σ} (follows : Follows allowed none state trace) :
    Follows allowed pivot state trace := .inl (follows_none.mp follows)

theorem follows_take {state : σ} (follows : Follows allowed pivot state trace) (count : Nat) :
    Follows allowed pivot state (trace.take count) := by
  rcases follows with chain | ⟨turn,mem,front,event,next,rest,rfl,chain,turned,tail⟩
  · exact .inl (chain_take chain count)
  · rw [take_append]
    cases left : count - front.length with
    | zero =>
      rw [take_zero,append_nil]
      exact .inl (chain_take chain count)
    | succ more =>
      rw [take_of_length_le (by omega)]
      exact .inr ⟨turn,mem,front,event,next,rest.take more,rfl,chain,turned,chain_take tail more⟩

theorem Follows.chain {state : σ} (follows : Follows allowed pivot state trace)
    (weaker : ∀ state event next, allowed state event next → loose state event next)
    (turns : ∀ turning ∈ pivot, ∀ state event next, Pivot.turn turning state event next → loose state event next)
    (later : ∀ turning ∈ pivot, ∀ turn state event next, Pivot.after turning turn state event next → loose state event next) :
    Chain loose state trace := by
  rcases follows with chain | ⟨pivot,mem,_,turn,_,_,rfl,chain,turned,tail⟩
  · exact chain_mono weaker chain
  · exact chain_append (chain_mono weaker chain) ⟨turns pivot mem _ _ _ turned,chain_mono (later pivot mem turn) tail⟩

/-- What a run is judged by. In a calm world no write fails and the service always
answers yes. -/
structure World (σ ε : Type) where
  calm : Bool
  admits : Int → Prop
  allowed : σ → ε → σ → Prop

def Permits (w : World σ ε) (oracle : Oracle) : Prop :=
  (w.calm = true → oracle.faults = [] ∧ oracle.answers = []) ∧ ∀ reading ∈ oracle.readings, w.admits reading

/-- An outcome whose recorded steps are allowed, and that ended as stated. -/
def Ends (w : World σ ε) (pivot : Option (Pivot σ ε)) (state : σ) (outcome : Outcome σ ε α)
    (done : α → σ → Prop) (failed : σ → Prop) : Prop :=
  Follows w.allowed pivot state outcome.trace ∧ outcome.state = lastState state outcome.trace ∧ Permits w outcome.oracle ∧
    match outcome.result with
    | some value => done value outcome.state
    | none => failed outcome.state

def Runs (w : World σ ε) (pivot : Option (Pivot σ ε)) (state : σ) (program : Program σ ε α)
    (done : α → σ → Prop) (failed : σ → Prop) : Prop :=
  ∀ oracle, Permits w oracle → Ends w pivot state (program state oracle) done failed

variable {w : World σ ε} {state : σ} {done : α → σ → Prop} {failed : σ → Prop}

theorem never_calm {calm : Bool} {failed : Prop} (rough : calm = false) (still : calm) : failed := nomatch rough.symm.trans still

theorem loud {calm : Bool} {first second : Prop} (rough : calm = false) : (calm → first) ∧ (calm → second) :=
  ⟨never_calm rough,never_calm rough⟩

private theorem follows_nil : Follows allowed pivot state [] := .inl trivial

theorem runs_pure (ok : done value state) : Runs w pivot state (pure value : Program σ ε α) done failed :=
  fun _ permits => ⟨follows_nil,rfl,permits,ok⟩

theorem runs_fail (ok : failed state) : Runs w pivot state (fail : Program σ ε α) done failed :=
  fun _ permits => ⟨follows_nil,rfl,permits,ok⟩

theorem runs_mono {done' : α → σ → Prop} {failed' : σ → Prop} (runs : Runs w pivot state program done failed)
    (more : ∀ value next, done value next → done' value next) (fails : ∀ next, failed next → failed' next) :
    Runs w pivot state program done' failed' := by
  intro oracle permits
  obtain ⟨follows,last,rest,ends⟩ := runs oracle permits
  refine ⟨follows,last,rest,?_⟩
  cases outcome : (program state oracle).result with
  | none =>
    rw [outcome] at ends
    exact fails _ ends
  | some =>
    rw [outcome] at ends
    exact more _ _ ends

theorem runs_invariant (preserved : ∀ state event next, motive state → w.allowed state event next → motive next)
    (holds : motive state) (runs : Runs w none state program done failed) :
    Runs w none state program (fun value next => done value next ∧ motive next)
      (fun next => failed next ∧ motive next) := by
  intro oracle permits
  obtain ⟨follows,last,rest,ends⟩ := runs oracle permits
  have kept : motive (program state oracle).state := by
    rw [last]
    exact chain_invariant preserved holds (follows_none.mp follows)
  refine ⟨follows,last,rest,?_⟩
  cases outcome : (program state oracle).result with
  | none | some =>
    rw [outcome] at ends
    exact ⟨ends,kept⟩

theorem runs_still (runs : Runs w none state program done failed) : Runs w pivot state program done failed := by
  intro oracle permits
  obtain ⟨follows,rest⟩ := runs oracle permits
  exact ⟨follows_of_chain follows,rest⟩

private theorem runs_sequence {before after : Option (Pivot σ ε)} {done : β → σ → Prop}
    (stops : ∀ trace, Follows w.allowed before state trace → Follows w.allowed pivot state trace)
    (joins : ∀ front back, Follows w.allowed before state front → Follows w.allowed after (lastState state front) back →
      Follows w.allowed pivot state (front ++ back))
    (head : Runs w before state first middle broken)
    (tail : ∀ value between, middle value between → Runs w after between (next value) done failed)
    (fails : ∀ between, broken between → failed between) : Runs w pivot state (first >>= next) done failed := by
  intro oracle permits
  obtain ⟨follows,last,rest,ends⟩ := head oracle permits
  have sequence : (first >>= next) state oracle = Program.bind first next state oracle := rfl
  rw [sequence,Program.bind]
  cases outcome : (first state oracle).result with
  | none =>
    rw [outcome] at ends
    exact ⟨stops _ follows,last,rest,fails _ ends⟩
  | some value =>
    rw [outcome] at ends
    obtain ⟨follows',last',rest',ends⟩ := tail value _ ends (first state oracle).oracle rest
    refine ⟨joins _ _ follows (last ▸ follows'),?_,rest',ends⟩
    rw [last',lastState_append,last]

theorem runs_bind {done : β → σ → Prop} (head : Runs w none state first middle broken)
    (tail : ∀ value between, middle value between → Runs w pivot between (next value) done failed)
    (fails : ∀ between, broken between → failed between) : Runs w pivot state (first >>= next) done failed := by
  refine runs_sequence (fun _ => follows_of_chain) (fun first second before after => ?_) head tail fails
  have before := follows_none.mp before
  rcases after with after | ⟨turn,mem,front,event,next,rest,rfl,chain,turned,tail⟩
  · exact .inl (chain_append before after)
  · refine .inr ⟨turn,mem,first ++ front,event,next,rest,(append_assoc ..).symm,chain_append before chain,?_,tail⟩
    rw [lastState_append]
    exact turned

theorem runs_bind_turned {done : β → σ → Prop}
    (weaker : ∀ turning ∈ pivot, ∀ turn state event next, w.allowed state event next → Pivot.after turning turn state event next)
    (head : Runs w pivot state first middle broken)
    (tail : ∀ value between, middle value between → Runs w none between (next value) done failed)
    (fails : ∀ between, broken between → failed between) : Runs w pivot state (first >>= next) done failed := by
  refine runs_sequence (fun _ follows => follows) (fun first second before after => ?_) head tail fails
  have after := follows_none.mp after
  rcases before with before | ⟨pivot,mem,front,event,next,rest,rfl,chain,turned,tail⟩
  · exact .inl (chain_append before after)
  · rw [lastState_append] at after
    refine .inr ⟨pivot,mem,front,event,next,rest ++ second,?_,chain,turned,
      chain_append tail (chain_mono (weaker pivot mem event) after)⟩
    simp

section Sequenced

variable {done : β → σ → Prop}

theorem runs_assoc {γ : Type} {first : Program σ ε γ} {middle : γ → Program σ ε α} {next : α → Program σ ε β}
    (runs : Runs w pivot state (first >>= fun value => middle value >>= next) done failed) :
    Runs w pivot state (first >>= middle >>= next) done failed := by
  have same : first >>= middle >>= next = first >>= fun value => middle value >>= next := by
    funext state oracle
    simp only [bind,Program.bind]
    cases (first state oracle).result with
    | none => rfl
    | some value =>
      dsimp only
      cases (middle value (first state oracle).state (first state oracle).oracle).result with
      | none => rfl
      | some => simp only [append_assoc]
  rw [same]
  exact runs

private theorem runs_fail_bind {next : α → Program σ ε β} (fails : failed state) :
    Runs w pivot state (fail >>= next) done failed :=
  fun _ permits => ⟨follows_nil,rfl,permits,fails⟩

theorem runs_get {next : σ → Program σ ε β} (tail : Runs w pivot state (next state) done failed) :
    Runs w pivot state (get >>= next) done failed := tail

variable {next : Unit → Program σ ε β} {event : ε} {change : σ → σ} {broken : σ → Prop} {middle : α → σ → Prop}
  {program : Program σ ε α}

theorem runs_check (fails : condition = false → failed state)
    (tail : condition → Runs w pivot state (next ()) done failed) :
    Runs w pivot state (check condition >>= next) done failed := by
  cases condition with
  | false => exact runs_fail_bind (fails rfl)
  | true => exact tail rfl

theorem runs_require {value : Option α} {next : α → Program σ ε β} (fails : value = none → failed state)
    (tail : ∀ found, value = some found → Runs w pivot state (next found) done failed) :
    Runs w pivot state (require value >>= next) done failed := by
  cases value with
  | none => exact runs_fail_bind (fails rfl)
  | some found => exact tail found rfl

theorem runs_last_check {done : Unit → σ → Prop} (fails : condition = false → failed state)
    (ok : condition → done () state) : Runs w pivot state (check condition) done failed := by
  cases condition with
  | false => exact runs_fail (fails rfl)
  | true => exact runs_pure (ok rfl)

theorem runs_last_require {value : Option β} (fails : value = none → failed state)
    (ok : ∀ found, value = some found → done found state) : Runs w pivot state (require value) done failed := by
  cases value with
  | none => exact runs_fail (fails rfl)
  | some found => exact runs_pure (ok found rfl)

private theorem follows_one {next : σ} (step : w.allowed state event next) :
    Follows w.allowed pivot state [(event,next)] := .inl ⟨step,trivial⟩

/-- A calm oracle has no fault to consume. -/
private theorem permits_rest {fault : Fault} {faults : List Fault} {answers choices : List Bool} {readings : List Int}
    (permits : Permits w ⟨fault :: faults,answers,choices,readings⟩) :
    w.calm = false ∧ Permits w ⟨faults,answers,choices,readings⟩ := by
  cases calm : w.calm with
  | false => exact ⟨rfl,fun still => (nomatch calm.symm.trans still),permits.2⟩
  | true => exact absurd (permits.1 calm).1 (by simp)

private theorem write_alone {done : Unit → σ → Prop} (step : Follows w.allowed pivot state [(event,change state)])
    (fails : w.calm = false → failed state ∧ failed (change state)) (ok : done () (change state)) :
    Runs w pivot state (write event change) done failed := by
  intro oracle permits
  obtain ⟨faults,answers,choices,readings⟩ := oracle
  cases faults with
  | nil => exact ⟨step,rfl,permits,ok⟩
  | cons fault faults =>
    obtain ⟨rough,rest⟩ := permits_rest permits
    cases fault with
    | none => exact ⟨step,rfl,rest,ok⟩
    | early => exact ⟨follows_nil,rfl,rest,(fails rough).1⟩
    | late => exact ⟨step,rfl,rest,(fails rough).2⟩

theorem runs_write (step : w.allowed state event (change state)) (fails : w.calm = false → failed state ∧ failed (change state))
    (tail : Runs w pivot (change state) (next ()) done failed) :
    Runs w pivot state (write event change >>= next) done failed := by
  have alone : Runs w none state (write event change) (fun _ after => after = change state) failed :=
    write_alone (follows_one step) fails rfl
  refine runs_bind alone ?_ fun _ stopped => stopped
  rintro _ _ rfl
  exact tail

theorem runs_last_write {done : Unit → σ → Prop} (step : w.allowed state event (change state))
    (fails : w.calm = false → failed state ∧ failed (change state)) (ok : done () (change state)) :
    Runs w pivot state (write event change) done failed := write_alone (follows_one step) fails ok

theorem runs_checked_write {done : Unit → σ → Prop} (invalid : condition = false → failed state)
    (step : condition → w.allowed state event (change state)) (fails : w.calm = false → failed state ∧ failed (change state))
    (ok : condition → done () (change state)) :
    Runs w pivot state (check condition >>= fun _ => write event change) done failed :=
  runs_check invalid fun accepted => runs_last_write (step accepted) fails (ok accepted)

theorem runs_checked_write_bind (invalid : condition = false → failed state)
    (step : condition → w.allowed state event (change state)) (fails : w.calm = false → failed state ∧ failed (change state))
    (tail : condition → Runs w pivot (change state) (next ()) done failed) :
    Runs w pivot state ((check condition >>= fun _ => write event change) >>= next) done failed :=
  runs_assoc (runs_check invalid fun accepted => runs_write (step accepted) fails (tail accepted))

private theorem follows_turn {pivot : Pivot σ ε} {next : σ} (turned : pivot.turn state event next)
    (rest : Chain (pivot.after event) next trace) : Follows w.allowed (some pivot) state ((event,next) :: trace) :=
  .inr ⟨pivot,rfl,[],event,next,trace,rfl,trivial,turned,rest⟩

theorem runs_turn {pivot : Pivot σ ε} {done : Unit → σ → Prop} (step : pivot.turn state event (change state))
    (fails : w.calm = false → failed state ∧ failed (change state)) (ok : done () (change state)) :
    Runs w (some pivot) state (write event change) done failed := write_alone (follows_turn step trivial) fails ok

/-- Once the turn is taken, the rest runs in the world after it. -/
theorem runs_turn_bind {pivot : Pivot σ ε} (step : pivot.turn state event (change state))
    (fails : w.calm = false → failed state ∧ failed (change state))
    (tail : Runs { w with allowed := pivot.after event } none (change state) (next ()) done failed) :
    Runs w (some pivot) state (write event change >>= next) done failed := by
  have went (oracle : Oracle) (permits : Permits w oracle) : Ends w (some pivot) state
      ⟨(event,change state) :: (next () (change state) oracle).trace,(next () (change state) oracle).state,
        (next () (change state) oracle).oracle,(next () (change state) oracle).result⟩ done failed := by
    obtain ⟨follows,last,rest,ends⟩ := tail oracle permits
    exact ⟨follows_turn step (follows_none.mp follows),last,rest,ends⟩
  intro oracle permits
  obtain ⟨faults,answers,choices,readings⟩ := oracle
  cases faults with
  | nil => exact went _ permits
  | cons fault faults =>
    obtain ⟨rough,rest⟩ := permits_rest permits
    cases fault with
    | none => exact went _ rest
    | early => exact ⟨follows_nil,rfl,rest,(fails rough).1⟩
    | late => exact ⟨follows_turn step trivial,rfl,rest,(fails rough).2⟩

private theorem ask_alone {event : Bool → ε} (step : ∀ answer, w.allowed state (event answer) state) :
    Runs w none state (ask event) (fun answer after => after = state ∧ (w.calm → answer))
      (fun _ => False) := by
  intro oracle permits
  obtain ⟨_,answers,_,_⟩ := oracle
  cases answers with
  | nil => exact ⟨follows_one (step true),rfl,permits,⟨rfl,fun _ => rfl⟩⟩
  | cons answer =>
    have rough : w.calm ≠ true := fun calm => absurd (permits.1 calm).2 (by simp)
    exact ⟨follows_one (step answer),rfl,⟨fun calm => absurd calm rough,permits.2⟩,rfl,fun calm => absurd calm rough⟩

theorem runs_ask {event : Bool → ε} {next : Bool → Program σ ε β} (step : ∀ answer, w.allowed state (event answer) state)
    (tail : ∀ answer, (w.calm = true → answer = true) → Runs w pivot state (next answer) done failed) :
    Runs w pivot state (ask event >>= next) done failed := by
  refine runs_bind (ask_alone step) ?_ (fun _ impossible => impossible.elim)
  rintro answer _ ⟨rfl,yes⟩
  exact tail answer yes

theorem runs_choose {event : Bool → ε} {next : Bool → Program σ ε β} (step : ∀ choice, w.allowed state (event choice) state)
    (tail : ∀ choice, Runs w pivot state (next choice) done failed) :
    Runs w pivot state (choose event >>= next) done failed := by
  have alone : Runs w none state (choose event) (fun _ after => after = state) (fun _ => False) := by
    intro oracle permits
    obtain ⟨_,_,choices,_⟩ := oracle
    cases choices with
    | nil => exact ⟨follows_one (step true),rfl,permits,rfl⟩
    | cons choice => exact ⟨follows_one (step choice),rfl,permits,rfl⟩
  refine runs_bind alone ?_ (fun _ impossible => impossible.elim)
  rintro choice _ rfl
  exact tail choice

theorem runs_wait {advance : Int → σ → σ} (still : w.allowed state event state)
    (step : ∀ reading, w.admits reading → w.allowed state event (advance reading state))
    (unread : Runs w pivot state (next ()) done failed)
    (tail : ∀ reading, w.admits reading → Runs w pivot (advance reading state) (next ()) done failed) :
    Runs w pivot state (wait event advance >>= next) done failed := by
  have alone : Runs w none state (wait event advance)
      (fun _ after => after = state ∨ ∃ reading, w.admits reading ∧ after = advance reading state)
      (fun _ => False) := by
    intro oracle permits
    obtain ⟨faults,answers,choices,readings⟩ := oracle
    cases readings with
    | nil => exact ⟨follows_one still,rfl,permits,.inl rfl⟩
    | cons reading readings =>
      have read : w.admits reading := permits.2 reading (by simp)
      have rest : Permits w ⟨faults,answers,choices,readings⟩ :=
        ⟨permits.1,fun later mem => permits.2 later (by simp [show later ∈ readings from mem])⟩
      exact ⟨follows_one (step reading read),rfl,rest,.inr ⟨reading,read,rfl⟩⟩
  refine runs_bind alone ?_ (fun _ impossible => impossible.elim)
  rintro _ _ (rfl | ⟨reading,read,rfl⟩)
  · exact unread
  · exact tail reading read

theorem attempt_alone (head : Runs w pivot state program middle broken) : Runs w pivot state (attempt program)
      (fun result after => (∃ value, result = some value ∧ middle value after) ∨ (result = none ∧ broken after))
      (fun _ => False) := by
  intro oracle permits
  obtain ⟨follows,last,rest,ends⟩ := head oracle permits
  refine ⟨follows,last,rest,?_⟩
  show (∃ value, (program state oracle).result = some value ∧ _) ∨ _
  cases outcome : (program state oracle).result with
  | none =>
    rw [outcome] at ends
    exact .inr ⟨rfl,ends⟩
  | some value =>
    rw [outcome] at ends
    exact .inl ⟨value,rfl,ends⟩

theorem runs_attempt {next : Option α → Program σ ε β} (head : Runs w none state program middle broken)
    (went : ∀ value between, middle value between → Runs w pivot between (next (some value)) done failed)
    (stopped : ∀ between, broken between → Runs w pivot between (next none) done failed) :
    Runs w pivot state (attempt program >>= next) done failed := by
  refine runs_bind (attempt_alone head) ?_ (fun _ impossible => impossible.elim)
  rintro _ between (⟨value,rfl,holds⟩ | ⟨rfl,holds⟩)
  · exact went value between holds
  · exact stopped between holds

end Sequenced

end P2pstream.Library.Durable
