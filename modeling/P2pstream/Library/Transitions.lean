import Mathlib.Data.List.Basic

/-! Deterministic labelled machines with observable events. An input that is not
enabled has no step; a run is the machine driven by a list of inputs.
-/
namespace P2pstream.Library.Transitions

variable {σ ι ε : Type}

def run (step : σ → ι → Option (σ × List ε)) : σ → List ι → Option (σ × List ε)
  | state,[] => some (state,[])
  | state,input :: rest =>
    match step state input with
    | none => none
    | some (next,events) =>
      match run step next rest with
      | none => none
      | some (final,later) => some (final,events ++ later)

/-- Every input of the run meets a condition in the state it is applied to. -/
def Meets (step : σ → ι → Option (σ × List ε)) (condition : σ → ι → Prop) : σ → List ι → Prop
  | _,[] => True
  | state,input :: rest =>
    condition state input ∧ ∀ next events, step state input = some (next,events) → Meets step condition next rest

variable {step : σ → ι → Option (σ × List ε)}

variable {events : List ε} {final state : σ} {condition : σ → ι → Prop} {inputs : List ι}

theorem run_cons {input : ι} {rest : List ι} (ok : run step state (input :: rest) = some (final,events)) :
    ∃ next first later, step state input = some (next,first) ∧ run step next rest = some (final,later) ∧
      events = first ++ later := by
  simp only [run] at ok
  cases taken : step state input with
  | none => simp [taken] at ok
  | some pair =>
    obtain ⟨next,first⟩ := pair
    cases tail : run step next rest with
    | none => simp [taken,tail] at ok
    | some pair =>
      obtain ⟨_,later⟩ := pair
      simp only [taken,tail,Option.some.injEq,Prod.mk.injEq] at ok
      obtain ⟨rfl,rfl⟩ := ok
      exact ⟨next,first,later,rfl,tail,rfl⟩

theorem run_history {motive : List ε → σ → Prop}
    (preserved : ∀ past state input next events, motive past state → condition state input →
      step state input = some (next,events) → motive (past ++ events) next)
    {past : List ε} (holds : motive past state) (meets : Meets step condition state inputs)
    (ok : run step state inputs = some (final,events)) : motive (past ++ events) final := by
  induction inputs generalizing past state events with
  | nil =>
    obtain ⟨rfl,rfl⟩ := ok
    rwa [List.append_nil]
  | cons input _ ih =>
    obtain ⟨next,first,_,taken,tail,rfl⟩ := run_cons ok
    rw [← List.append_assoc]
    exact ih (preserved past state input next first holds meets.1 taken) (meets.2 next first taken) tail

/-- What every conditioned step preserves holds after every conditioned run, and
what it guarantees of its events holds of every event of the run. -/
theorem run_invariant {motive : σ → Prop} {observed : ε → Prop}
    (preserved : ∀ state input next events, motive state → condition state input →
      step state input = some (next,events) → motive next ∧ ∀ event ∈ events, observed event)
    (holds : motive state) (meets : Meets step condition state inputs)
    (ok : run step state inputs = some (final,events)) : motive final ∧ ∀ event ∈ events, observed event := by
  let history (past : List ε) (state : σ) : Prop := motive state ∧ ∀ event ∈ past, observed event
  suffices kept : history ([] ++ events) final from kept
  refine run_history ?_ ⟨holds,by simp⟩ meets ok
  intro _ state input next events before met taken
  obtain ⟨after,seen⟩ := preserved state input next events before.1 met taken
  refine ⟨after,fun event mem => ?_⟩
  rcases List.mem_append.mp mem with early | late
  · exact before.2 event early
  · exact seen event late

def checks (step : σ → ι → Option (σ × List ε)) (check : σ → ι → Bool) : σ → List ι → Bool
  | _,[] => true
  | state,input :: rest =>
    check state input &&
      match step state input with
      | none => true
      | some (next,_) => checks step check next rest

theorem meets_of_checks {check : σ → ι → Bool} (sound : ∀ state input, check state input → condition state input)
    (checked : checks step check state inputs) : Meets step condition state inputs := by
  induction inputs generalizing state with
  | nil => trivial
  | cons input _ ih =>
    simp only [checks,Bool.and_eq_true] at checked
    refine ⟨sound state input checked.1,fun next events taken => ?_⟩
    rw [taken] at checked
    exact ih checked.2

theorem meets_true (state : σ) (inputs : List ι) : Meets step (fun _ _ => True) state inputs := by
  induction inputs generalizing state with
  | nil => trivial
  | cons _ _ ih => exact ⟨trivial,fun next _ _ => ih next⟩

theorem run_always {motive : σ → Prop} {observed : ε → Prop}
    (preserved : ∀ state input next events, motive state → step state input = some (next,events) →
      motive next ∧ ∀ event ∈ events, observed event)
    (holds : motive state) (ok : run step state inputs = some (final,events)) :
    motive final ∧ ∀ event ∈ events, observed event :=
  run_invariant (fun state input next events kept _ => preserved state input next events kept) holds
    (meets_true state inputs) ok

theorem run_kept {motive : σ → Prop}
    (preserved : ∀ state input next events, motive state → step state input = some (next,events) → motive next)
    (holds : motive state) (ok : run step state inputs = some (final,events)) : motive final :=
  (run_always (fun state input next events kept ok => ⟨preserved state input next events kept ok,fun _ _ => trivial⟩)
    holds ok).1

/-- Every event meets a condition on the events before it. -/
def Judged (judge : List ε → ε → Prop) (past : List ε) : Prop :=
  ∀ before event after, past = before ++ event :: after → judge before event

@[simp] theorem judged_nil {judge : List ε → ε → Prop} : Judged judge [] := by simp [Judged]

@[simp] theorem judged_cons {judge : List ε → ε → Prop} {event : ε} {rest : List ε} :
    Judged judge (event :: rest) ↔ judge [] event ∧ Judged (fun before => judge (event :: before)) rest := by
  refine ⟨fun judged => ⟨judged [] event rest rfl,fun before later after split => ?_⟩,?_⟩
  · exact judged (event :: before) later after (by simp [split])
  rintro ⟨first,judged⟩ (_ | ⟨_,before⟩) later after split
  · cases split
    exact first
  · cases split
    exact judged before later after rfl

theorem judged_append {judge : List ε → ε → Prop} {past events : List ε} :
    Judged judge (past ++ events) ↔ Judged judge past ∧ Judged (fun before => judge (past ++ before)) events := by
  induction past generalizing judge with
  | nil => simp
  | cons _ _ ih => simp [ih,and_assoc]

/-- Drive the machine and keep the events and the state of every step. -/
def trace (step : σ → ι → Option (σ × List ε)) : σ → List ι → Option (List (List ε × σ))
  | _,[] => some []
  | state,input :: rest =>
    match step state input with
    | none => none
    | some (next,events) => (trace step next rest).map fun later => (events,next) :: later

/-- A history invariant: what every conditioned step preserves of the steps taken
so far and the state they led to holds of every conditioned trace. -/
theorem trace_invariant {motive : List (List ε × σ) → σ → Prop}
    (preserved : ∀ past state input next events, motive past state → condition state input →
      step state input = some (next,events) → motive (past ++ [(events,next)]) next)
    {past : List (List ε × σ)} {steps : List (List ε × σ)} (holds : motive past state)
    (meets : Meets step condition state inputs) (ok : trace step state inputs = some steps) :
    ∃ final, motive (past ++ steps) final := by
  induction inputs generalizing past state steps with
  | nil =>
    simp only [trace,Option.some.injEq] at ok
    subst ok
    exact ⟨state,by simpa using holds⟩
  | cons input _ ih =>
    simp only [trace] at ok
    cases taken : step state input with
    | none => simp [taken] at ok
    | some pair =>
      obtain ⟨next,events⟩ := pair
      simp only [taken,Option.map_eq_some_iff] at ok
      obtain ⟨_,tail,rfl⟩ := ok
      obtain ⟨final,kept⟩ := ih (preserved past state input next events holds meets.1 taken)
        (meets.2 next events taken) tail
      exact ⟨final,by simpa using kept⟩

end P2pstream.Library.Transitions
