import Mathlib.Data.List.Induction
import P2pstream.Kernel.PublicWAF

/-! The two timers of an automatic rule. Each runs from an evaluation since which every
evaluation of the rule has agreed with it.
-/
namespace P2pstream.WafHysteresis
open Kernel.PublicWAF Bool Option
open Library.Encoding (Bytes)

variable {w : Rules} {rule : PublicWafRuleConfig} {runtime : PublicWafRuleRuntime} {input : Input} {history : List Input}
  {id : Nat} {fingerprint : Bytes} {pressure : Bool} {first now : Int}

/-- An evaluation of the rule is of this configuration, and sees `pressure`. -/
def Sees (id : Nat) (fingerprint : Bytes) (pressure : Bool) : Input → Prop
  | .evaluate rule seen _ => rule.id = id → rule.fingerprint = fingerprint ∧ seen = pressure
  | .reconcile _ => True

/-- Since an evaluation at `first`, all of the rule saw the same. -/
def Since (id : Nat) (fingerprint : Bytes) (pressure : Bool) (first : Int) (history : List Input) : Prop :=
  ∃ earlier later rule, history = earlier ++ .evaluate rule pressure first :: later ∧ rule.id = id ∧
    rule.fingerprint = fingerprint ∧ ∀ input ∈ later, Sees id fingerprint pressure input

theorem Since.append (since : Since id fingerprint pressure first history) (sees : Sees id fingerprint pressure input) :
    Since id fingerprint pressure first (history ++ [input]) := by
  obtain ⟨earlier,later,rule,rfl,same,known,all⟩ := since
  refine ⟨earlier,later ++ [input],rule,by simp,same,known,?_⟩
  intro each mem
  obtain old | new := List.mem_append.mp mem
  · exact all each old
  · exact List.mem_singleton.mp new ▸ sees

theorem since_now : Since rule.id rule.fingerprint pressure now (history ++ [.evaluate rule pressure now]) :=
  ⟨history,[],rule,rfl,rfl,rfl,by simp⟩

/-- Each running timer started with an evaluation that all later ones agree with. -/
structure Timed (id : Nat) (runtime : PublicWafRuleRuntime) (history : List Input) : Prop where
  pressure : ∀ t, runtime.pressureStartedAt = some t → Since id runtime.fingerprint true t history
  quiet : ∀ t, runtime.quietStartedAt = some t → Since id runtime.fingerprint false t history

/-- A timer goes on from its start, or starts now. -/
theorem started {timer : Option Int} (since : ∀ t, timer = some t → Since rule.id rule.fingerprint pressure t history) :
    Since rule.id rule.fingerprint pressure (timer.getD now) (history ++ [.evaluate rule pressure now]) := by
  cases timer with
  | none => exact since_now
  | some t => exact (since t rfl).append fun _ => ⟨rfl,rfl⟩

theorem timed_update (timed : Timed rule.id runtime history) (same : runtime.fingerprint = rule.fingerprint) :
    Timed rule.id (updateAutomaticActivationLocked runtime rule pressure now) (history ++ [.evaluate rule pressure now]) := by
  obtain ⟨pressured,quieted⟩ := timed
  rw [same] at pressured quieted
  unfold updateAutomaticActivationLocked
  cases pressure with
  | true => exact ⟨by rintro _ ⟨⟩; exact same ▸ started pressured,by simp⟩
  | false =>
    simp only [false_eq_true,if_false]
    split_ifs
    · exact ⟨by simp,by simp⟩
    · exact ⟨by simp,by rintro _ ⟨⟩; exact same ▸ started quieted⟩
    · exact ⟨by simp,fun t running => same ▸ (quieted t running).append fun _ => ⟨rfl,rfl⟩⟩

theorem fingerprint_kept (w : Rules) (id : Nat) (fingerprint : Bytes) : (kept w id fingerprint).fingerprint = fingerprint := by
  unfold kept
  cases known : (w id).filter (·.fingerprint = fingerprint) with
  | none => rfl
  | some => simpa using (filter_eq_some_iff.mp known).2

theorem kept_of_some (known : w id = some runtime) (same : runtime.fingerprint = fingerprint) :
    kept w id fingerprint = runtime := by
  rw [kept,known,filter_some,if_pos (by simpa using same),getD_some]

def Reflects (w : Rules) (history : List Input) : Prop := ∀ id runtime, w id = some runtime → Timed id runtime history

theorem timed_kept (reflects : Reflects w history) : Timed id (kept w id fingerprint) history := by
  unfold kept
  cases known : (w id).filter (·.fingerprint = fingerprint) with
  | none => exact ⟨by simp,by simp⟩
  | some runtime => exact reflects id runtime (filter_eq_some_iff.mp known).1

theorem reflects_step (reflects : Reflects w history) : Reflects (step w input) (history ++ [input]) := by
  intro id runtime known
  cases input with
  | evaluate rule pressure now =>
    by_cases same : id = rule.id
    · subst same
      rw [step,Function.update_self] at known
      cases known
      exact timed_update (timed_kept reflects) (fingerprint_kept w rule.id rule.fingerprint)
    · rw [step,Function.update_of_ne same] at known
      have unseen : ∀ fingerprint pressure', Sees id fingerprint pressure' (.evaluate rule pressure now) :=
        fun _ _ other => absurd other.symm same
      have timed := reflects id runtime known
      exact ⟨fun t running => (timed.pressure t running).append (unseen _ _),
        fun t running => (timed.quiet t running).append (unseen _ _)⟩
  | reconcile keep =>
    obtain ⟨fingerprint,-,rfl⟩ := map_eq_some_iff.mp known
    have timed : Timed id (kept w id fingerprint) history := timed_kept reflects
    exact ⟨fun t running => (timed.pressure t running).append trivial,fun t running => (timed.quiet t running).append trivial⟩

theorem reflects_after (history : List Input) : Reflects (after history) history := by
  induction history using List.reverseRecOn with
  | nil => simp [Reflects,after]
  | append_singleton history input ih =>
    rw [after,List.foldl_concat]
    exact reflects_step ih

def active (w : Rules) (id : Nat) (fingerprint : Bytes) : Bool := (kept w id fingerprint).automaticActive

/-- The input leaves the configuration of the rule, and does not evaluate it. -/
def Leaves (id : Nat) (fingerprint : Bytes) : Input → Prop
  | .evaluate rule _ _ => rule.id ≠ id
  | .reconcile keep => keep id = some fingerprint

theorem kept_leaves (leaves : Leaves id fingerprint input) : kept (step w input) id fingerprint = kept w id fingerprint := by
  cases input with
  | evaluate rule pressure now => simp [kept,step,Function.update_of_ne (Ne.symm leaves)]
  | reconcile keep =>
    exact kept_of_some (congrArg (Option.map (kept w id)) leaves) (fingerprint_kept w id fingerprint)

/-- Protection turns on after pressure at every evaluation for the activation time, and off after
none for the quiet period; what an evaluation sees stops the other timer. -/
theorem automatic_activation_hysteresis (history : List Input) (rule : PublicWafRuleConfig) (pressure : Bool) (now : Int) :
    let w := after history
    let next := step w (.evaluate rule pressure now)
    let past := history ++ [.evaluate rule pressure now]
    let runtime := kept next rule.id rule.fingerprint
    (active w rule.id rule.fingerprint = false → runtime.automaticActive → pressure ∧
      ∃ first, Since rule.id rule.fingerprint true first past ∧ rule.minimumActiveMillis * millisecond ≤ now - first) ∧
    (active w rule.id rule.fingerprint → runtime.automaticActive = false → pressure = false ∧
      ∃ first, Since rule.id rule.fingerprint false first past ∧ rule.quietPeriodMillis * millisecond ≤ now - first) ∧
    (if pressure then runtime.quietStartedAt = none else runtime.pressureStartedAt = none) ∧
    ∀ id fingerprint input, Leaves id fingerprint input → active (step w input) id fingerprint = active w id fingerprint := by
  intro w next past runtime
  have timed : Timed rule.id (runtimeLocked w rule) history := timed_kept (reflects_after history)
  obtain ⟨pressured,quieted⟩ := timed
  rw [runtimeLocked,fingerprint_kept] at pressured quieted
  have updated : runtime = updateAutomaticActivationLocked (runtimeLocked w rule) rule pressure now := by
    refine kept_of_some (Function.update_self ..) ?_
    rw [← fingerprint_kept w rule.id rule.fingerprint]
    dsimp only [updateAutomaticActivationLocked,runtimeLocked]
    split_ifs <;> rfl
  have held : active w rule.id rule.fingerprint = (runtimeLocked w rule).automaticActive := rfl
  rw [updated,held]
  refine ⟨?_,?_,?_,fun _ _ _ leaves => congrArg (·.automaticActive) (kept_leaves leaves)⟩
  · intro off on
    cases pressure with
    | true =>
      simp only [updateAutomaticActivationLocked,off,if_true,Bool.false_or,or_eq_true,decide_eq_true_eq] at on
      obtain unrequired | elapsed := on
      · exact ⟨rfl,now,since_now,by omega⟩
      · exact ⟨rfl,_,started pressured,elapsed⟩
    | false => simp [updateAutomaticActivationLocked,off] at on
  · intro on off
    cases pressure with
    | true => simp [updateAutomaticActivationLocked,on] at off
    | false =>
      simp only [updateAutomaticActivationLocked,on,false_eq_true,if_false,if_true] at off
      split_ifs at off with ended
      obtain unrequired | elapsed := ended
      · exact ⟨rfl,now,since_now,by omega⟩
      · exact ⟨rfl,_,started quieted,elapsed⟩
  · dsimp only [updateAutomaticActivationLocked]
    split_ifs <;> rfl

def labRule : PublicWafRuleConfig := ⟨1,[],5000,60000⟩

/-- Five seconds of pressure turn the protection on. -/
theorem automatic_activation_hysteresis_pressure : active (after [.evaluate labRule true 0]) 1 [] = false ∧
    active (after [.evaluate labRule true 0,.evaluate labRule true 5000000000]) 1 [] = true ∧
    ∃ first, Since 1 [] true first [.evaluate labRule true 0,.evaluate labRule true 5000000000] ∧
      5000 * millisecond ≤ 5000000000 - first := by
  have off : active (after [.evaluate labRule true 0]) 1 [] = false := by decide
  have on : active (after [.evaluate labRule true 0,.evaluate labRule true 5000000000]) 1 [] := by decide
  exact ⟨off,on,((automatic_activation_hysteresis [.evaluate labRule true 0] labRule true 5000000000).1 off on).2⟩

end P2pstream.WafHysteresis
