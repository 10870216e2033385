import P2pstream.Semantics.AgentCapacity

/-! The agent's ledger is conserved: every counter is the sum of the live leases of its kind, in every
interleaving of reservations and releases, and a lease is released at most once.
-/
namespace P2pstream.AgentCapacityLedger
open Library Kernel.AgentCapacity Semantics.AgentCapacity Table AList Bool

variable {h h' : Holdings} {s next : System} {input : Input} {events : List Event}

variable {α : Type} {streams : Table Nat StreamLease} {lease : ControlLease} {bytes : Int}

section

variable (formed : WellFormed h)
include formed

theorem fresh_stream : h.streams.lookup h.nextLease = none :=
  absent_of_below formed.numbered.streams

theorem fresh_session : h.sessions.lookup h.nextLease = none :=
  absent_of_below formed.numbered.sessions

theorem fresh_control : h.controls.lookup h.nextLease = none :=
  absent_of_below fun id lease found => (formed.numbered.controls id lease found).1

theorem fresh_charge : h.charges.lookup h.nextLease = none :=
  absent_of_below formed.numbered.charges

end

variable {id k : Nat} {controls : Table Nat ControlLease} {sessions : Table Nat ControlSession}
  {session : ControlSession} {charges : Table Nat Charge}

theorem total_acquire {t : Table Nat α} (skip : α → Bool) {a : α} (fresh : t.lookup id = none) (held : skip a = false) :
    total (fun a => alive (skip a) 1) (t.insert id a) = total (fun a => alive (skip a) 1) t + 1 := by
  rw [total_insert_fresh _ t fresh,held]
  exact add_comm ..

theorem total_release {t : Table Nat α} (skip : α → Bool) {a b : α} (found : t.lookup id = some a) (held : skip a = false)
    (gone : skip b) : 1 ≤ total (fun a => alive (skip a) 1) t ∧
      total (fun a => alive (skip a) 1) (t.insert id b) = total (fun a => alive (skip a) 1) t - 1 := by
  have rest : 0 ≤ total (fun a => alive (skip a) 1) (t.erase id) := by
    apply total_nonneg
    intro _ _ _
    unfold alive
    split <;> decide
  have counted := total_erase (fun a => alive (skip a) 1) t found
  rw [total_insert _ t found]
  have one : alive (skip a) 1 = 1 := by rw [held]; rfl
  have none : alive (skip b) 1 = 0 := by rw [gone]; rfl
  omega

theorem heldControlsOf_acquire {session : Nat} (fresh : controls.lookup id = none) (other : Nat) :
    heldControlsOf other (controls.insert id { session }) =
      heldControlsOf other controls + if session = other then 1 else 0 := by
  rw [heldControlsOf,total_insert_fresh _ controls fresh,heldControlsOf]
  by_cases same : session = other
  · simp [alive,same]
    omega
  · simp [alive,same]

theorem heldControlsOf_release (found : controls.lookup id = some lease) (held : lease.done = false) (other : Nat) :
    1 ≤ heldControlsOf lease.session controls ∧ heldControlsOf other (controls.insert id { lease with done := true }) =
        heldControlsOf other controls - if lease.session = other then 1 else 0 := by
  refine ⟨(total_release (b := { lease with done := true }) (fun other : ControlLease => other.done || other.session != lease.session)
    found (by simp [held]) rfl).1,?_⟩
  rw [heldControlsOf,total_insert _ controls found,held,heldControlsOf]
  by_cases same : lease.session = other
  · simp [alive,same]
  · simp [alive,same]

theorem sessions_insert (found : sessions.lookup id = some session) (held : session.released = false) (new : ControlSession) :
    heldSlots (sessions.insert id new) = heldSlots sessions - session.slots + alive new.released new.slots ∧
      heldSessionBytes (sessions.insert id new) = heldSessionBytes sessions - session.bytes + alive new.released new.bytes := by
  rw [heldSlots,heldSessionBytes,total_insert _ sessions found,total_insert _ sessions found,held]
  exact ⟨rfl,rfl⟩

theorem sessions_active (found : sessions.lookup id = some session) (active : Int) :
    heldSlots (sessions.insert id { session with active }) = heldSlots sessions ∧
      heldSessionBytes (sessions.insert id { session with active }) = heldSessionBytes sessions := by
  rw [heldSlots,heldSessionBytes,total_insert _ sessions found,total_insert _ sessions found]
  simp only [heldSlots,heldSessionBytes]
  omega

theorem booked_sessions (conserved : Conserved h)
    (moved : heldSessionBytes sessions = heldSessionBytes h.sessions + bytes) (account : Account) :
    h.book Account.takesSessions bytes account =
      heldCharges account h.charges + if account.takesSessions then heldSessionBytes sessions else 0 := by
  rw [Holdings.book,conserved.booked account]
  split <;> omega

theorem booked_charges (conserved : Conserved h) {owner : Owner}
    (moved : ∀ account, heldCharges account charges = heldCharges account h.charges + if account.takes owner then bytes else 0)
    (account : Account) :
    h.book (fun account => account.takes owner) bytes account =
      heldCharges account charges + if account.takesSessions then heldSessionBytes h.sessions else 0 := by
  rw [Holdings.book,conserved.booked account,moved account]
  omega

theorem conserved_effect (conserved : Conserved h) (formed : WellFormed h) (effect : Effect h h') : Conserved h' := by
  obtain ⟨inUse,controlInUse,slots,booked⟩ := id conserved
  cases effect with
  | quiet => exact conserved
  | acquire =>
    refine ⟨?_,controlInUse,slots,booked⟩
    rw [heldStreams,total_acquire StreamLease.done (fresh_stream formed) rfl,inUse]
    rfl
  | release found held =>
    obtain ⟨positive,fewer⟩ := total_release (b := ⟨true⟩) StreamLease.done found held rfl
    refine ⟨?_,controlInUse,slots,booked⟩
    rw [heldStreams,fewer,inUse]
    exact if_pos positive
  | reserveSession =>
    have fresh := fresh_session formed
    refine ⟨inUse,controlInUse,?_,booked_sessions conserved ?_⟩
    · rw [heldSlots,total_insert_fresh _ _ fresh,add_comm,slots]
      rfl
    · rw [heldSessionBytes,total_insert_fresh _ _ fresh,add_comm]
      rfl
  | @activate id session bytes left found held nonneg some =>
    obtain ⟨fewerSlots,fewerBytes⟩ := sessions_insert found held { session with bytes, slots := left }
    have lives amount : alive session.released amount = amount := by rw [held]; rfl
    rw [lives] at fewerSlots fewerBytes
    refine ⟨inUse,controlInUse,?_,booked_sessions conserved ?_⟩ <;> dsimp only at fewerSlots fewerBytes ⊢ <;> omega
  | acquireControl found =>
    obtain ⟨sameSlots,sameBytes⟩ := sessions_active found _
    refine ⟨inUse,?_,slots.trans sameSlots.symm,?_⟩
    · rw [heldControls,total_acquire ControlLease.done (fresh_control formed) rfl,controlInUse]
      rfl
    · rw [sameBytes]
      exact booked
  | @releaseControl _ lease _ found held owner =>
    obtain ⟨sameSlots,sameBytes⟩ := sessions_active owner _
    obtain ⟨positive,fewer⟩ := total_release (b := { lease with done := true }) ControlLease.done found held rfl
    refine ⟨inUse,?_,slots.trans sameSlots.symm,?_⟩
    · rw [heldControls,fewer,controlInUse]
      exact if_pos positive
    · rw [sameBytes]
      exact booked
  | @releaseSession id session found held idle =>
    obtain ⟨fewerSlots,fewerBytes⟩ := sessions_insert found held { session with released := true }
    simp only [alive,if_true,add_zero] at fewerSlots fewerBytes
    refine ⟨inUse,controlInUse,?_,booked_sessions conserved fewerBytes⟩
    rw [fewerSlots,slots]
  | charge =>
    refine ⟨inUse,controlInUse,slots,booked_charges conserved fun account => ?_⟩
    rw [heldCharges,total_insert_fresh _ _ (fresh_charge formed),add_comm]
    split_ifs with takes <;> simp [alive,takes,heldCharges]
  | discharge found held =>
    refine ⟨inUse,controlInUse,slots,booked_charges conserved fun account => ?_⟩
    rw [heldCharges,total_insert _ _ found,heldCharges,held]
    split_ifs with takes
    · simp [alive,takes]
      omega
    · simp [alive,takes]

theorem numbered_mono {bound larger : Nat} (numbered : Numbered h bound) (le : bound ≤ larger) : Numbered h larger where
  charges id charge found := (numbered.charges id charge found).trans_le le
  streams id lease found := (numbered.streams id lease found).trans_le le
  controls id lease found := ⟨(numbered.controls id lease found).1.trans_le le,(numbered.controls id lease found).2.trans_le le⟩
  sessions id session found := (numbered.sessions id session found).trans_le le

theorem numbered_effect (numbered : Numbered h h.nextLease) (effect : Effect h h') : Numbered h' h'.nextLease := by
  have later : Numbered h (h.nextLease + 1) := numbered_mono numbered (Nat.le_succ _)
  have here := Nat.lt_succ_self h.nextLease
  cases effect with
  | quiet => exact numbered
  | acquire => exact { later with streams := forall_insert later.streams here }
  | release found =>
    exact { numbered with streams := forall_insert numbered.streams (numbered.streams _ _ found) }
  | reserveSession =>
    exact { later with sessions := forall_insert later.sessions here }
  | activate found | releaseSession found =>
    exact { numbered with sessions := forall_insert numbered.sessions (numbered.sessions _ _ found) }
  | acquireControl found =>
    have session := later.sessions _ _ found
    exact { later with controls := forall_insert later.controls ⟨here,session⟩, sessions := forall_insert later.sessions session }
  | releaseControl found _ owner =>
    have control := numbered.controls _ _ found
    exact { numbered with
      controls := forall_insert numbered.controls control
      sessions := forall_insert numbered.sessions (numbered.sessions _ _ owner) }
  | charge _ grows =>
    have later := numbered_mono numbered grows.le
    exact { later with charges := forall_insert later.charges grows }
  | discharge found =>
    exact { numbered with charges := forall_insert numbered.charges (numbered.charges _ _ found) }

theorem heldControlsOf_fresh (formed : WellFormed h) : heldControlsOf h.nextLease h.controls = 0 := by
  apply total_eq_zero
  intro id lease found
  have older := (formed.numbered.controls id lease found).2
  have other : lease.session ≠ h.nextLease := Nat.ne_of_lt older
  simp [alive,other]

theorem wellFormed_effect (formed : WellFormed h) (effect : Effect h h') : WellFormed h' := by
  obtain ⟨numbered,charges,sessions,active,idle⟩ := id formed
  have numbered' := numbered_effect numbered effect
  cases effect with
  | quiet => exact formed
  | acquire | release => exact ⟨numbered',charges,sessions,active,idle⟩
  | reserveSession nonneg =>
    refine ⟨numbered',charges,?_,?_,?_⟩
    · exact forall_insert sessions ⟨nonneg,by dsimp only; omega⟩
    · exact forall_insert active (heldControlsOf_fresh formed).symm
    · exact forall_insert idle fun _ => rfl
  | activate found _ nonneg =>
    have counted := active _ _ found
    have rests := idle _ _ found
    refine ⟨numbered',charges,?_,forall_insert active counted,forall_insert idle rests⟩
    exact forall_insert sessions ⟨nonneg,by dsimp only; omega⟩
  | @acquireControl id session found held =>
    have counted (other : Nat) : heldControlsOf other (h.controls.insert h.nextLease { session := id }) = _ :=
      heldControlsOf_acquire (fresh_control formed) other
    have amounts := sessions _ _ found
    refine ⟨numbered',charges,forall_insert sessions amounts,?_,?_⟩
    · intro other session' lookup
      rw [counted other]
      rcases of_lookup_insert lookup with ⟨rfl,rfl⟩ | ⟨different,lookup⟩
      · rw [if_pos rfl,← active _ _ found]
      · rw [if_neg different.symm,add_zero]
        exact active other session' lookup
    · exact forall_insert idle fun released => absurd (held.symm.trans released) false_ne_true
  | @releaseControl id lease session found held owner =>
    have counted := heldControlsOf_release found held
    have positive := (counted lease.session).1
    have current := active _ _ owner
    have amounts := sessions _ _ owner
    refine ⟨numbered',charges,forall_insert sessions amounts,?_,?_⟩
    · intro other session' lookup
      rw [(counted other).2]
      rcases of_lookup_insert lookup with ⟨rfl,rfl⟩ | ⟨different,lookup⟩
      · rw [if_pos rfl]
        rw [current,if_pos (by omega)]
      · rw [if_neg different.symm,sub_zero]
        exact active other session' lookup
    · refine forall_insert idle fun released => ?_
      have none := idle _ _ owner released
      omega
  | releaseSession found _ resting =>
    have amounts := sessions _ _ found
    have counted := active _ _ found
    exact ⟨numbered',charges,forall_insert sessions amounts,forall_insert active counted,forall_insert idle fun _ => resting⟩
  | charge nonneg => exact ⟨numbered',forall_insert charges nonneg,sessions,active,idle⟩
  | discharge found =>
    have amount := charges _ _ found
    exact ⟨numbered',forall_insert charges amount,sessions,active,idle⟩

theorem stays_gone {t : Table Nat α} {gone : α → Prop} {a : α}
    (kept : ∀ old, t.lookup k = some old → gone old → gone a) (before : ∃ b, t.lookup id = some b ∧ gone b) :
    ∃ b, (t.insert k a).lookup id = some b ∧ gone b := by
  obtain ⟨b,found,holds⟩ := before
  by_cases same : id = k
  · subst same
    exact ⟨a,lookup_insert _,kept b found holds⟩
  · exact ⟨b,(lookup_insert_ne same).trans found,holds⟩

theorem held_only {t : Table Nat α} {a : α} (found : t.lookup k = some a) {gone : α → Prop}
    (held : ¬ gone a) {b : α} (old : α) (lookup : t.lookup k = some old) (before : gone old) : gone b := by
  rw [found] at lookup
  cases lookup
  exact absurd before held

theorem absent_only {t : Table Nat α} (absent : t.lookup k = none) {gone : α → Prop} {b : α}
    (old : α) (lookup : t.lookup k = some old) (_ : gone old) : gone b := by
  rw [absent] at lookup
  cases lookup

theorem gone_effect (formed : WellFormed h) (effect : Effect h h') {lease : Lease} (gone : Gone h lease) : Gone h' lease := by
  cases effect with
  | quiet => exact gone
  | acquire =>
    cases lease with
    | stream => exact stays_gone (absent_only (fresh_stream formed)) gone
    | session | control | charge => exact gone
  | release =>
    cases lease with
    | stream => exact stays_gone (fun _ _ _ => rfl) gone
    | session | control | charge => exact gone
  | reserveSession =>
    cases lease with
    | stream | control | charge => exact gone
    | session => exact stays_gone (absent_only (fresh_session formed)) gone
  | activate found held =>
    cases lease with
    | stream | control | charge => exact gone
    | session => exact stays_gone (held_only found (by simp [held])) gone
  | acquireControl found held =>
    cases lease with
    | stream | charge => exact gone
    | session => exact stays_gone (held_only found (by simp [held])) gone
    | control => exact stays_gone (absent_only (fresh_control formed)) gone
  | releaseControl _ _ owner =>
    cases lease with
    | stream | charge => exact gone
    | session =>
      refine stays_gone (fun _ lookup released => ?_) gone
      rw [owner] at lookup
      cases lookup
      exact released
    | control => exact stays_gone (fun _ _ _ => rfl) gone
  | releaseSession =>
    cases lease with
    | stream | control | charge => exact gone
    | session => exact stays_gone (fun _ _ _ => rfl) gone
  | charge =>
    cases lease with
    | stream | session | control => exact gone
    | charge => exact stays_gone (absent_only (fresh_charge formed)) gone
  | discharge =>
    cases lease with
    | stream | session | control => exact gone
    | charge => exact stays_gone (fun _ _ _ => rfl) gone

end P2pstream.AgentCapacityLedger
