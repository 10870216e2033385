import P2pstream.LaneOwnership

/-! Idle replacement over every interleaving. The activity of an owner never goes back and
every open raises it, so that an unchanged epoch means that nothing was opened.
-/
namespace P2pstream.LaneReplacement
open Library Library.Transitions Kernel.TunnelLanes Semantics.TunnelLanes Table AList List Option Nat
open LaneSteps LaneOwnership

variable {g next : LaneOwners} {owner changed call old epoch : Nat} {o o' c c' : LaneOwner} {events past : List Event}

structure Carries (events : List Event) (owner : Nat) (o o' : LaneOwner) : Prop where
  activity : o.activity ≤ o'.activity
  began : .began owner ∈ events → o.state = .serving ∧ o.activity < o'.activity
  draining : o.state = .draining → .published owner ∉ events → o'.state = .draining

theorem Carries.refl (unbegun : .began owner ∉ events) : Carries events owner o o :=
  ⟨le_refl _,fun begun => (unbegun begun).elim,fun drains _ => drains⟩

theorem Carries.keeps (unbegun : .began owner ∉ events) (activity : o.activity ≤ o'.activity) (state : o'.state = o.state) :
    Carries events owner o o' :=
  ⟨activity,fun begun => (unbegun begun).elim,fun drains _ => state.trans drains⟩

def Carried (events : List Event) (owner : Nat) (o : LaneOwner) (next : LaneOwners) : Prop :=
  ∃ o', next.owners.lookup owner = some o' ∧ Carries events owner o o'

theorem carried_same (found : g.owners.lookup owner = some o) (unbegun : .began owner ∉ events) : Carried events owner o g :=
  ⟨o,found,.refl unbegun⟩

theorem carried_insert (found : g.owners.lookup owner = some o) (at_change : g.owners.lookup changed = some c)
    (owners : next.owners = g.owners.insert changed c') (carries : Carries events changed c c')
    (unbegun : owner ≠ changed → .began owner ∉ events) : Carried events owner o next := by
  unfold Carried
  rw [owners]
  by_cases same : owner = changed
  · subst same
    cases found.symm.trans at_change
    exact ⟨c',lookup_insert g.owners,carries⟩
  · rw [lookup_insert_ne same]
    exact ⟨o,found,.refl (unbegun same)⟩

theorem unbegun_nil : Event.began owner ∉ ([] : List Event) := nofun

theorem carried_serve {slot : LaneOwnerSlot} (found : g.owners.lookup owner = some o) (at_change : g.owners.lookup changed = some c)
    (unbegun : ∀ key, .began key ∉ events) (shown : .published changed ∈ events) :
    Carried events owner o (serve g changed c slot) :=
  carried_insert found at_change rfl ⟨le_refl _,fun begun => (unbegun changed begun).elim,fun _ hidden => absurd shown hidden⟩
    fun _ => unbegun owner

theorem carried_replaced {served : LaneOwner} {slot : LaneOwnerSlot} (found : g.owners.lookup owner = some o)
    (at_change : g.owners.lookup changed = some c) (other : g.owners.lookup old = some served) (different : changed ≠ old)
    (unbegun : ∀ key, .began key ∉ events) (shown : .published changed ∈ events) :
    Carried events owner o (serve (g.setOwner old { served with state := .draining }) changed c slot) := by
  by_cases same : owner = old
  · subst same
    cases found.symm.trans other
    refine ⟨_,(lookup_insert_ne (Ne.symm different)).trans (lookup_insert _),le_refl _,
      fun begun => (unbegun owner begun).elim,fun _ _ => rfl⟩
  · exact carried_serve (lookup_setOwner.mpr (.inr ⟨same,found⟩)) (lookup_setOwner.mpr (.inr ⟨different,at_change⟩)) unbegun
      shown

theorem published_events (call replaced : Option Nat) (owner : Nat) :
    (∀ key, Event.began key ∉ LaneOwners.publishedEvents call replaced owner) ∧
      .published owner ∈ LaneOwners.publishedEvents call replaced owner := by
  cases call <;> cases replaced <;> simp [LaneOwners.publishedEvents]

theorem carried_lane (sound : Sound g) (step : LaneStep g events next) (found : g.owners.lookup owner = some o) :
    Carried events owner o next := by
  have advance {events : List Event} {changed : Nat} {c : LaneOwner} (at_change : g.owners.lookup changed = some c)
      (c' : LaneOwner) (unbegun : ∀ key, Event.began key ∉ events) (activity : c.activity ≤ c'.activity)
      (state : c'.state = c.state) : Carried events owner o (g.setOwner changed c') :=
    carried_insert found at_change rfl (.keeps (unbegun _) activity state) fun _ => unbegun _
  have stays (lane : Int) (id : String) : (g.owners.insert g.nextOwner { lane, id }).lookup owner = some o := by
    rw [lookup_insert_ne (Nat.ne_of_lt (sound.fresh owner o found))]
    exact found
  cases step with
  | quiet | fence => exact carried_same found unbegun_nil
  | observe => exact carried_same found (by simp)
  | entered _ _ id => exact ⟨o,stays _ id,.refl unbegun_nil⟩
  | opened _ id => exact ⟨o,stays _ id,.refl (by simp)⟩
  | republished => exact carried_same found ((published_events _ _ _).1 owner)
  | published _ at_change => exact carried_serve found at_change (published_events _ _ _).1 (published_events _ _ _).2
  | replaced _ at_change _ _ _ other different =>
    exact carried_replaced found at_change other different (published_events _ _ _).1 (published_events _ _ _).2
  | touch at_change touches => exact advance at_change _ (fun _ => unbegun_nil) touches.activity touches.state
  | begin at_change serving raised touches =>
    refine carried_insert found at_change rfl ⟨touches.activity,fun _ => ⟨serving,raised⟩,?_⟩ (by simp)
    exact fun drains _ => touches.state.trans drains
  | grown at_change | refunded at_change => exact advance at_change _ (by simp) (le_refl _) rfl
  | @finished _ _ release at_change => exact advance at_change _ (by cases release <;> simp) (le_refl _) rfl
  | attached at_change | fenced at_change | joined at_change | released at_change | settled at_change | emptied at_change
  | left at_change => exact advance at_change _ (fun _ => unbegun_nil) (le_refl _) rfl

/-- The call saw the owner at this epoch. While the epoch stands, nothing was opened since. -/
def Watched (past : List Event) (g : LaneOwners) (call old epoch : Nat) : Prop :=
  ∃ o, g.owners.lookup old = some o ∧ epoch ≤ o.activity ∧ ∃ before after,
    past = before ++ .observed call old :: after ∧ (∀ other, .observed call other ∉ before ++ after) ∧
      (o.activity = epoch → .began old ∉ after)

theorem Watched.step (watched : Watched past g call old epoch) (sound : Sound g) (step : LaneStep g events next)
    (unseen : ∀ other, .observed call other ∉ events) : Watched (past ++ events) next call old epoch := by
  obtain ⟨o,found,reached,before,after,rfl,once,unopened⟩ := watched
  obtain ⟨o',present,carries⟩ := carried_lane sound step found
  refine ⟨o',present,reached.trans carries.activity,before,after ++ events,by simp,fun other mem => ?_,fun stands => ?_⟩
  · rw [← append_assoc] at mem
    rcases mem_append.mp mem with early | late
    · exact once other early
    · exact unseen other late
  · have still : o.activity = epoch := le_antisymm (stands ▸ carries.activity) reached
    intro mem
    rcases mem_append.mp mem with early | late
    · exact unopened still early
    · have raised := (carries.began late).2
      omega

def Witnessed (past : List Event) (g : LaneOwners) (call : Nat) : Call → Prop
  | .chosen _ _ _ => ∀ other, .observed call other ∉ past
  | .observing _ old _ epoch _ _ => Watched past g call old epoch
  | .ready _ (some old) epoch => Watched past g call old epoch
  | .ready _ none _ => True

variable {stage : Call}

theorem Witnessed.step (witnessed : Witnessed past g call stage) (sound : Sound g) (step : LaneStep g events next)
    (unseen : ∀ other, .observed call other ∉ events) : Witnessed (past ++ events) next call stage := by
  cases stage with
  | chosen =>
    intro other mem
    rcases mem_append.mp mem with early | late
    · exact witnessed other early
    · exact unseen other late
  | observing => exact Watched.step witnessed sound step unseen
  | ready _ expected =>
    cases expected with
    | none => trivial
    | some => exact Watched.step witnessed sound step unseen

structure Observing (past : List Event) (g : LaneOwners) : Prop where
  sound : Sound g
  numbered : ∀ call stage, g.calls.lookup call = some stage → call < g.nextCall
  seen : ∀ call owner, .observed call owner ∈ past → call < g.nextCall
  stages : ∀ call stage, g.calls.lookup call = some stage → Witnessed past g call stage

theorem Observing.initial : Observing [] LaneOwners.initial := ⟨sound_initial,nofun,nofun,nofun⟩

theorem Observing.started (observing : Observing past g) (step : LaneStep g [] next)
    (begins : (∀ other, .observed g.nextCall other ∉ past) → Witnessed past next g.nextCall stage) :
    Observing past { next with calls := g.calls.insert g.nextCall stage, nextCall := g.nextCall + 1 } := by
  refine ⟨(sound_lane observing.sound step).agrees ⟨rfl,rfl,rfl,rfl⟩,?_,?_,?_⟩
  · exact forall_insert (fun call found before => lt_succ_of_lt (observing.numbered call found before))
      (lt_succ_self _)
  · exact fun call owner mem => lt_succ_of_lt (observing.seen call owner mem)
  · intro call found present
    rcases of_lookup_insert present with ⟨rfl,rfl⟩ | ⟨_,before⟩
    · apply begins
      exact fun other mem => lt_irrefl _ (observing.seen g.nextCall other mem)
    · have kept := (observing.stages call found before).step observing.sound step (unseen_nil call)
      rw [append_nil] at kept
      exact kept

theorem Observing.moved {calls : Table Nat Call} (observing : Observing past g) (step : LaneStep g events next)
    (numbered : ∀ call owner, .observed call owner ∈ events → call < g.nextCall)
    (stages : ∀ call stage, calls.lookup call = some stage → call < g.nextCall ∧ Witnessed (past ++ events) next call stage) :
    Observing (past ++ events) { next with calls, nextCall := g.nextCall } := by
  refine ⟨(sound_lane observing.sound step).agrees ⟨rfl,rfl,rfl,rfl⟩,?_,?_,?_⟩
  · exact fun call stage present => (stages call stage present).1
  · intro call owner mem
    rcases mem_append.mp mem with early | late
    · exact observing.seen call owner early
    · exact numbered call owner late
  · exact fun call stage present => (stages call stage present).2

theorem observing_step {input : Input} (observing : Observing past g) (ok : g.step input = some (next,events)) :
    Observing (past ++ events) next := by
  obtain ⟨middle,_,_,step,callStep,rfl⟩ := step_cases observing.sound.places ok
  have kept (call : Nat) (stage : Call) (before : g.calls.lookup call = some stage)
      (unseen : ∀ other, .observed call other ∉ events) :
      call < g.nextCall ∧ Witnessed (past ++ events) middle call stage :=
    ⟨observing.numbered call stage before,(observing.stages call stage before).step observing.sound step unseen⟩
  cases callStep with
  | keep unseen =>
    apply observing.moved step
    · exact fun call owner mem => (unseen call owner mem).elim
    · exact fun call stage present => kept call stage present (unseen call)
  | choose =>
    rw [append_nil]
    exact observing.started step fun fresh => fresh
  | vacant =>
    rw [append_nil]
    exact observing.started step fun _ => trivial
  | @observe call old _ _ _ chosen found =>
    apply observing.moved step
    · intro key owner mem
      obtain ⟨rfl,_⟩ := Event.observed.inj (mem_singleton.mp mem)
      exact observing.numbered key _ chosen
    · intro key stage present
      rcases of_lookup_insert present with ⟨rfl,rfl⟩ | ⟨other,before⟩
      · have fresh := observing.stages key _ chosen
        exact ⟨observing.numbered key _ chosen,_,found,le_refl _,past,[],rfl,fun other => by simpa using fresh other,
          fun _ => unbegun_nil⟩
      · apply kept key stage before
        intro owner mem
        exact other (Event.observed.inj (mem_singleton.mp mem)).1
  | conclude _ observed =>
    apply observing.moved step
    · exact fun call owner mem => (unseen_nil call owner mem).elim
    · have seen := kept _ _ observed (unseen_nil _)
      exact forall_insert (fun key stage before => kept key stage before (unseen_nil key)) ⟨seen.1,seen.2⟩
  | finish call unseen =>
    apply observing.moved step
    · exact fun call owner mem => (unseen call owner mem).elim
    · exact fun key stage present => kept key stage (of_lookup_erase present).2 (unseen key)

theorem run_observing {inputs : List Input} (ran : run LaneOwners.step LaneOwners.initial inputs = some (g,past)) :
    Observing past g := by
  have kept := run_history (fun _ _ _ _ _ observing _ ok => observing_step observing ok) Observing.initial
    (meets_true _ inputs) ran
  exact kept

structure Retired (old : Nat) (later : List Event) (g : LaneOwners) : Prop where
  sound : Sound g
  draining : .published old ∉ later → ∃ o, g.owners.lookup old = some o ∧ o.state = .draining
  republished : ∀ front rest, later = front ++ .began old :: rest → .published old ∈ front

theorem retired_step {input : Input} {later : List Event} (retired : Retired old later g)
    (ok : g.step input = some (next,events)) : Retired old (later ++ events) next := by
  obtain ⟨_,_,_,step,_,rfl⟩ := step_cases retired.sound.places ok
  have opened (begun : .began old ∈ events) : .published old ∈ later := by
    by_contra unpublished
    obtain ⟨o,found,drains⟩ := retired.draining unpublished
    obtain ⟨_,_,carries⟩ := carried_lane retired.sound step found
    exact nomatch drains.symm.trans (carries.began begun).1
  refine ⟨(sound_lane retired.sound step).agrees ⟨rfl,rfl,rfl,rfl⟩,fun unpublished => ?_,fun front rest => ?_⟩
  · simp only [mem_append,not_or] at unpublished
    obtain ⟨_,found,drains⟩ := retired.draining unpublished.1
    obtain ⟨o',present,carries⟩ := carried_lane retired.sound step found
    exact ⟨o',present,carries.draining drains unpublished.2⟩
  · have judged : Judged (fun front event => event = .began old → .published old ∈ front) (later ++ events) := by
      refine judged_append.mpr ⟨fun front _ rest split begun => retired.republished front rest (begun ▸ split),?_⟩
      rintro _ _ _ rfl rfl
      exact mem_append_left _ (opened (by simp))
    exact fun split => judged front _ rest split rfl

theorem publishIdle_cases {replaced owner : Nat} (ok : g.step (.publishIdle call) = some (next,events))
    (shown : .replaced call replaced owner ∈ events) :
    ∃ epoch middle, g.calls.lookup call = some (.ready owner (some replaced) epoch) ∧ next = middle.finish call ∧
      events = [.replaced call replaced owner,.published owner] ∧
      g.publish owner (some replaced) epoch true = some (some replaced,middle) := by
  simp only [LaneOwners.step,Checks.bind_some] at ok
  obtain ⟨stage,ready,ok⟩ := ok
  cases stage with
  | chosen | observing => cases ok
  | ready _ _ epoch =>
    simp only at ok
    split at ok
    · cases ok
      cases shown
    · rename_i old middle published
      cases ok
      cases old with
      | none => simp [LaneOwners.publishedEvents] at shown
      | some =>
        simp only [LaneOwners.publishedEvents,mem_cons,Event.replaced.injEq,not_mem_nil,reduceCtorEq,or_false,true_and] at shown
        obtain ⟨rfl,rfl⟩ := shown
        obtain ⟨_,_,_,_,_,_,checked,result⟩ := publish_cases published
        rcases result with ⟨_,impossible,_⟩ | ⟨_,served,_⟩
        · cases impossible
        · obtain rfl := (checked rfl).1.symm.trans served.symm
          exact ⟨epoch,middle,ready,rfl,rfl,published⟩

/-- An idle publication replaces an owner without opens and streams, on which nothing was
opened since the call observed it, and which opens nothing until it is published itself. -/
theorem idle_replacement {inputs : List Input} (ran : run LaneOwners.step LaneOwners.initial inputs = some (g,past))
    (ok : g.step (.publishIdle call) = some (next,events)) (shown : .replaced call old owner ∈ events) :
    (∃ o, g.owners.lookup old = some o ∧ o.pinned = 0 ∧ o.finishing = 0 ∧ o.openingCount = 0 ∧ o.application = []) ∧
    (∃ before after, past = before ++ .observed call old :: after ∧
      (∀ other, .observed call other ∉ before ++ after) ∧ .began old ∉ after) ∧
    ∀ more final later, run LaneOwners.step next more = some (final,later) →
      ∀ front rest, later = front ++ .began old :: rest → .published old ∈ front := by
  have observing := run_observing ran
  have sound := (observing_step observing ok).sound
  obtain ⟨_,_,ready,rfl,_,published⟩ := publishIdle_cases ok shown
  obtain ⟨o,found,_,before,after,split,once,unopened⟩ := observing.stages call _ ready
  obtain ⟨c,slot,_,_,_,_,checked,⟨_,impossible,_⟩ | ⟨other,_,rfl⟩⟩ := publish_cases published
  · cases impossible
  obtain ⟨serving,unchanged⟩ := checked rfl
  rw [serving] at other unchanged
  simp only [LaneOwners.unchanged,bind_some,found,Bool.and_eq_true,decide_eq_true_eq] at unchanged
  obtain ⟨⟨stands,unpinned⟩,streamless⟩ := unchanged
  have counted := (observing.sound.fit old o found).opens
  refine ⟨⟨o,found,by omega,by omega,unpinned,streamless⟩,⟨before,after,split,once,unopened stands⟩,?_⟩
  intro _ _ _ continued
  have different : old ≠ owner := fun same => other (by rw [same])
  have drains : (((g.retire slot.serving).setSlot c.lane { slot with serving := some owner }).setOwner owner
      { c with state := .serving }).owners.lookup old = some { o with state := .draining } := by
    simp only [serving,LaneOwners.retire,found]
    exact (lookup_insert_ne different).trans (lookup_insert g.owners)
  have start : Retired old [] _ := ⟨sound,fun _ => ⟨_,drains,rfl⟩,by simp⟩
  have kept := run_history (fun _ _ _ _ _ retired _ ok => retired_step retired ok) start (meets_true ..) continued
  exact kept.republished

/-- Two owners of a lane, and the second one takes over once the first is idle. -/
def labReplacement : List Input :=
  [.acquire 1 "a" "" 100 true,.attach 0 ⟨0,true⟩,.publish 0,.beginOpen 0,.finishOpen 0 none,.openFinished 0,
    .acquire 1 "b" "a" 100 true,.attach 1 ⟨1,true⟩,.publishWhenIdle 1 0,.observe 0,.conclude 0 true 0]

theorem idle_replacement_unopened : ∃ before after,
    ([.reserved 0 100,.published 0,.began 0,.observed 0 0] : List Event) = before ++ .observed 0 0 :: after ∧
      .began 0 ∉ after := by
  have ended : ((run LaneOwners.step LaneOwners.initial labReplacement).bind fun ran =>
      (ran.1.step (.publishIdle 0)).map fun step => (ran.2,step.2)) =
        some ([.reserved 0 100,.published 0,.began 0,.observed 0 0],[.replaced 0 0 1,.published 1]) := by decide +kernel
  obtain ⟨⟨_,_⟩,ran,result⟩ := bind_eq_some_iff.mp ended
  obtain ⟨⟨_,_⟩,ok,result⟩ := map_eq_some_iff.mp result
  cases result
  obtain ⟨_,⟨before,after,split,_,unopened⟩,_⟩ := idle_replacement ran ok mem_cons_self
  exact ⟨before,after,split,unopened⟩

/-- A replaced owner that is published once more opens again. -/
theorem replaced_owner_serves_again :
    (run LaneOwners.step LaneOwners.initial (labReplacement ++ [.publishIdle 0,.publishWhenIdle 0 0,.observe 1,
        .conclude 1 true 0,.publishIdle 1,.beginOpen 0])).map Prod.snd =
      some [.reserved 0 100,.published 0,.began 0,.observed 0 0,.replaced 0 0 1,.published 1,.observed 1 1,
        .replaced 1 1 0,.published 0,.began 0] := by decide +kernel

end P2pstream.LaneReplacement
