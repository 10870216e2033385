import P2pstream.Kernel.AgentTraffic
import P2pstream.AgentUpdateFences

/-! An agent is drained before its activation is authorized. What the drain check has read
can only be overtaken by traffic that the cordon still turns away: the check holds the mutex
of the update steps, so the cordon stays published while it looks.
-/
namespace P2pstream.AgentDrain
open Library Kernel Kernel.AgentTraffic Semantics.AgentUpdates Checks Table List AList Transitions
open AgentUpdates.System AgentUpdates.Assignment
open Kernel.AgentUpdates (Primitives System Assignment Authorization desiredActionAuth)
open AgentUpdateSteps AgentUpdatePhases AgentUpdateInvariant AgentUpdateEvidence AgentUpdateFences

section Control

variable {p : Primitives} {s control : System} {input : AgentUpdates.Input} {shown : List AgentUpdates.Event} {id : Nat}
  {row row' : Assignment} {authorization : Authorization}

variable {campaign : AgentUpdates.Campaign} {m : AgentUpdates.Report} {nonce : AgentUpdates.Bytes}

theorem change_desires (change : CampaignChange) (now : Int)
    (desires : (change.row now row).desiredAction = .activate) : row.desiredAction = .activate := by
  cases change <;> simp only [CampaignChange.row,pause,resume,cancel] at desires <;> split_ifs at desires <;>
    first | exact desires | cases desires

theorem activating_origin (consistent : Consistent s) (ok : step p s input = some (control,shown))
    (found : control.assignments.lookup id = some row') (desires : row'.desiredAction = .activate) :
    ∃ row, s.assignments.lookup id = some row ∧ row'.agentID = row.agentID ∧ (row.desiredAction = .activate ∨
      ∃ blockers nonce now, input = .authorizeDrained row.agentID true blockers nonce now) := by
  rcases consistent.origin (consistent.outcome ok) found with ⟨row,stored,moved⟩ | ⟨_,_,_,_,_,_,_,_,_,plain,rfl⟩
  · refine ⟨row,stored,moved.key.2.2,?_⟩
    cases moved with
    | stays => exact .inl desires
    | step _ _ _ step =>
      cases step with
      | activationAuthorized => exact .inr ⟨_,_,_,rfl⟩
      | reauthorized | tunnel => exact .inl desires
      | reported _ _ _ _ _ _ _ _ _ accepted =>
        unfold AgentUpdates.reportTransition at accepted
        split at accepted <;> split_ifs at accepted <;> cases accepted <;> first | exact .inl desires | cases desires
      | _ => cases desires
    | changed change now => exact .inl (change_desires change now desires)
    | retried _ kind => cases kind <;> cases desires
  · rcases plain with rfl | rfl <;> cases desires

variable {now : Int}

theorem authorized_input (change : Change p s input control shown) (mem : .authorized row authorization ∈ shown) :
    (∃ blockers nonce now, input = .authorizeDrained row.agentID true blockers nonce now) ∨
      s.assignments.lookup row.id = some row ∧
      (∃ number generation nonce now, input = .ensureAuthorization row.agentID number generation row.desiredAction nonce now) ∧
      ∃ action, desiredActionAuth row.desiredAction = some action ∧ authorization.action = some action := by
  cases change with
  | one _ _ other _ _ _ stored _ step =>
    obtain rfl : row = other := step_subject step _ mem
    cases step with
    | activationAuthorized => exact .inl ⟨_,_,_,rfl⟩
    | reauthorized _ action _ privileged signed =>
      cases mem_singleton.mp mem
      exact .inr ⟨stored,⟨_,_,_,_,rfl⟩,action,privileged,signed⟩
    | reported => rcases mem_reportEvents mem with ⟨_,_,same⟩ | same <;> cases same
    | _ => simp at mem
  | _ => simp at mem

theorem unlocked_kept (consistent : Consistent s) (ok : step p s input = some (control,shown))
    (free : Traffic.underMutex input = false) (stored : s.assignments.lookup id = some row) :
    control.assignments.lookup id = some row := by
  obtain ⟨_,found,moved⟩ :=
    change_kept consistent.keyed (consistent.bounded id row stored).1 (consistent.outcome ok).change stored
  cases moved with
  | stays => exact found
  | step _ _ _ step => cases step <;> cases free
  | changed | retried => cases free

end Control

variable {p : Primitives} {allowed : AgentUpdates.Input → Prop} {t next : Traffic} {input : Input} {past events : List Event}
  {id : Nat}

inductive Effect (p : Primitives) (allowed : AgentUpdates.Input → Prop) (t : Traffic) : Traffic → List Event → Prop where
  | control (input control shown) (allows : allowed input) (admits : t.admits input = true)
      (ok : step p t.control input = some (control,shown)) :
      Effect p allowed t (t.afterControl control input) (shown.map .control)
  | selected (conn agent) (known : t.connections.lookup conn = some agent) : Effect p allowed t
        { t with requests := t.requests.insert t.nextRequest { conn }, nextRequest := t.nextRequest + 1 } []
  | refused (request r) (known : t.requests.lookup request = some r) (waiting : r.admitted = false) :
      Effect p allowed t { t with requests := t.requests.erase request } []
  | begun (request r agent) (known : t.requests.lookup request = some r) (waiting : r.admitted = false)
      (here : t.connections.lookup r.conn = some agent) (uncordoned : agent.agentID ∉ t.control.cordons) :
      Effect p allowed t { t with
          requests := t.requests.insert request { r with admitted := true }
          connections := t.connections.insert r.conn { agent with activeRequests := agent.activeRequests + 1 } }
        [.admitted request r.conn]
  | completed (request r agent) (known : t.requests.lookup request = some r) (admitted : r.admitted = true)
      (here : t.connections.lookup r.conn = some agent) : Effect p allowed t (t.completeRequest request r agent) []
  | dialled (conn agent) (known : t.connections.lookup conn = some agent) :
      Effect p allowed t { t with dials := t.dials.insert t.nextDial { conn }, nextDial := t.nextDial + 1 } []
  | acquired (dial d) (known : t.dials.lookup dial = some d) :
      Effect p allowed t (t.setDial dial { d with state := .leased }) []
  | ended (dial) : Effect p allowed t (t.endDial dial) []
  | opened (dial d agent) (known : t.dials.lookup dial = some d) (here : t.connections.lookup d.conn = some agent)
      (uncordoned : agent.agentID ∉ t.control.cordons) :
      Effect p allowed t (t.setDial dial { d with state := .opened }) []
  | pool (pooled nextPooled) : Effect p allowed t { t with pooled, nextPooled } []
  | lane (conn agent tunnelOwners) (known : t.connections.lookup conn = some agent) :
      Effect p allowed t { t with connections := t.connections.insert conn { agent with tunnelOwners } } []
  | idle : Effect p allowed t t []
  | checked (agent conn) (draining : t.draining agent = true) (current : t.connectedByID agent = some conn) :
      Effect p allowed t { t with check := some { id := t.nextCheck, agent, conn }, nextCheck := t.nextCheck + 1 } []
  | abandoned : Effect p allowed t { t with check := none } []
  | looked (c conn drained look findings) (checking : t.check = some c)
      (here : t.connections.lookup c.conn = some conn) (looks : t.drainLook c conn drained = some (look,findings)) :
      Effect p allowed t { t with check := some { c with next := look } }
        (findings.map fun finding => .found c.id c.agent c.conn finding)
  | authorized (c blockers nonce now control shown) (checking : t.check = some c) (done : c.next = .done)
      (ok : t.control.tryAuthorizeDrained p c.agent true blockers nonce now = some (control,shown)) :
      Effect p allowed t { t with control, check := none } (shown.map .control)

theorem effect_of_step (allows : ∀ update, input = .control update → allowed update)
    (ok : t.step p input = some (next,events)) : Effect p allowed t next events := by
  cases input with
  | control input =>
    obtain ⟨admits,ok⟩ := Option.ite_none_right_eq_some.mp ok
    obtain ⟨⟨control,shown⟩,ran,equal⟩ := Option.map_eq_some_iff.mp ok
    cases equal
    exact .control input control shown (allows input rfl) admits ran
  | select conn =>
    obtain ⟨agent,known,equal⟩ := Option.map_eq_some_iff.mp ok
    cases equal
    exact .selected conn agent known
  | begin_ request =>
    simp only [Traffic.step,bind_some,guard_some,pure_some,
      Traffic.beginAgentUpdateProtectedRequest] at ok
    obtain ⟨r,known,waiting,agent,here,ok⟩ := ok
    split_ifs at ok with cordoned <;> cases ok
    · exact .refused request r known waiting
    · exact .begun request r agent known waiting here (by simpa [Traffic.isAgentUpdateCordoned] using cordoned)
  | complete request =>
    simp only [Traffic.step,bind_some,guard_some,pure_pair] at ok
    obtain ⟨r,known,admitted,agent,here,rfl,rfl⟩ := ok
    exact .completed request r agent known admitted here
  | dial conn =>
    obtain ⟨agent,known,equal⟩ := Option.map_eq_some_iff.mp ok
    cases equal
    unfold Traffic.startDial
    split_ifs
    · exact .idle
    · exact .dialled conn agent known
  | acquire dial =>
    simp only [Traffic.step,bind_some,guard_some,pure_pair] at ok
    obtain ⟨d,known,_,rfl,rfl⟩ := ok
    exact .acquired dial d known
  | abandon dial | close dial =>
    simp only [Traffic.step,bind_some,guard_some,pure_pair] at ok
    obtain ⟨d,known,_,rfl,rfl⟩ := ok
    exact .ended dial
  | recheck dial =>
    simp only [Traffic.step,bind_some,guard_some,pure_pair] at ok
    obtain ⟨d,known,_,agent,here,rfl,rfl⟩ := ok
    unfold Traffic.recheckDial
    split_ifs with cordoned
    · exact .ended dial
    · exact .opened dial d agent known here (by simpa [Traffic.isAgentUpdateCordoned] using cordoned)
  | beginPooled | endPooled =>
    cases ok
    exact .pool _ _
  | lane conn =>
    simp only [Traffic.step,bind_some,pure_pair] at ok
    obtain ⟨agent,known,⟨owners,_⟩,_,rfl,rfl⟩ := ok
    exact .lane conn agent owners known
  | check agent =>
    simp only [Traffic.step,bind_some,guard_some,pure_pair] at ok
    obtain ⟨⟨_,draining⟩,rfl,rfl⟩ := ok
    unfold Traffic.startCheck
    split
    next => exact .idle
    next conn current => exact .checked agent conn draining current
  | look drained =>
    simp only [Traffic.step,bind_some,guard_some,pure_some,Traffic.takeLook] at ok
    obtain ⟨c,checking,conn,here,_,ok⟩ := ok
    split at ok
    next =>
      cases ok
      exact .abandoned
    next look findings looks =>
      cases ok
      exact .looked c conn drained look findings checking here looks
  | authorize blockers nonce now =>
    simp only [Traffic.step,bind_some,guard_some,pure_some,Traffic.authorize] at ok
    obtain ⟨c,checking,done,ok⟩ := ok
    split at ok
    next =>
      cases ok
      exact .abandoned
    next control shown ran =>
      cases ok
      exact .authorized c blockers nonce now control shown checking done ran

def inFlight (conn : Nat) (r : PublicRequest) : Int := if r.conn = conn ∧ r.admitted = true then 1 else 0

/-- The counter of a connection is the number of its admitted requests. -/
structure Sound (t : Traffic) : Prop where
  requests : ∀ id r, t.requests.lookup id = some r → id < t.nextRequest ∧ r.conn < t.nextConnection
  dials : ∀ id d, t.dials.lookup id = some d → d.conn < t.nextConnection
  connections : ∀ id agent, t.connections.lookup id = some agent →
    id < t.nextConnection ∧ agent.activeRequests = total (inFlight id) t.requests
  latest : ∀ agent id, t.latest.lookup agent = some id → ∃ conn, t.connections.lookup id = some conn ∧ conn.agentID = agent

theorem sound_initial : Sound .initial := by
  constructor <;> intro _ _ found <;> cases found

variable {agent conn request key : Nat} {row : Assignment} {c : DrainCheck} {findings : List Finding} {look : Look}
  {finding : Finding}

variable {old held : AgentConn} {r : PublicRequest} {dial : Nat} {d : Dial}

theorem held_insert (new : AgentConn) (known : t.connections.lookup conn = some old)
    (same : new.agentID = old.agentID) (stored : t.connections.lookup id = some held) :
    ∃ other, (t.connections.insert conn new).lookup id = some other ∧ other.agentID = held.agentID := by
  by_cases equal : id = conn
  · subst equal
    cases known.symm.trans stored
    exact ⟨new,lookup_insert _,same⟩
  · exact ⟨held,by rw [lookup_insert_ne equal]; exact stored,rfl⟩

theorem latest_insert (sound : Sound t) (new : AgentConn)
    (known : t.connections.lookup conn = some old) (same : new.agentID = old.agentID)
    (found : t.latest.lookup agent = some id) :
    ∃ held, (t.connections.insert conn new).lookup id = some held ∧ held.agentID = agent := by
  obtain ⟨_,stored,here⟩ := sound.latest agent id found
  rw [← here]
  exact held_insert new known same stored

theorem lookup_erased {α : Type} {table : Table Nat α} {a : α} (found : (table.erase key).lookup id = some a) :
    table.lookup id = some a := (of_lookup_erase found).2

section

variable (sound : Sound t)
include sound

theorem sound_connect (control : System) (agent : Nat) (conn : AgentUpdates.Conn) :
    Sound (t.afterControl control (.connect agent conn)) where
  requests id r found := ⟨(sound.requests id r found).1,Nat.lt_succ_of_lt (sound.requests id r found).2⟩
  dials id d found := Nat.lt_succ_of_lt (sound.dials id d found)
  connections id held found := by
    rcases of_lookup_insert found with ⟨rfl,rfl⟩ | ⟨_,found⟩
    · refine ⟨Nat.lt_succ_self _,(total_eq_zero _ _ fun request r stored => ?_).symm⟩
      have below := (sound.requests request r stored).2
      exact if_neg fun here => absurd here.1 (Nat.ne_of_lt below)
    · exact ⟨Nat.lt_succ_of_lt (sound.connections id held found).1,(sound.connections id held found).2⟩
  latest other id found := by
    change ∃ held, (t.connections.insert t.nextConnection { agentID := agent }).lookup id = some held ∧ _
    rcases of_lookup_insert found with ⟨rfl,rfl⟩ | ⟨_,found⟩
    · exact ⟨_,lookup_insert _,rfl⟩
    · obtain ⟨held,stored,here⟩ := sound.latest other id found
      have below := (sound.connections id held stored).1
      exact ⟨held,by rw [lookup_insert_ne (Nat.ne_of_lt below)]; exact stored,here⟩

theorem sound_control (control : System) (input : AgentUpdates.Input) : Sound (t.afterControl control input) := by
  cases input with
  | connect agent conn => exact sound_connect sound control agent conn
  | restart => constructor <;> intro _ _ found <;> cases found
  | _ => exact ⟨sound.requests,sound.dials,sound.connections,sound.latest⟩

theorem counter_moves {new : AgentConn} (known : t.connections.lookup conn = some old)
    {table : Table Nat PublicRequest}
    (moved : new.activeRequests - old.activeRequests = total (inFlight conn) table - total (inFlight conn) t.requests)
    (elsewhere : ∀ id, id ≠ conn → total (inFlight id) table = total (inFlight id) t.requests)
    (found : (t.connections.insert conn new).lookup id = some held) :
    id < t.nextConnection ∧ held.activeRequests = total (inFlight id) table := by
  rcases of_lookup_insert found with ⟨rfl,rfl⟩ | ⟨equal,found⟩
  · obtain ⟨below,_⟩ := sound.connections id old known
    exact ⟨below,by omega⟩
  · rw [elsewhere id equal]
    exact sound.connections id held found

theorem sound_frame (connections : next.connections = t.connections)
    (bound : next.nextConnection = t.nextConnection) (latest : next.latest = t.latest)
    (requests : next.requests = t.requests) (fresh : next.nextRequest = t.nextRequest)
    (dials : ∀ id d, next.dials.lookup id = some d → ∃ old d', t.dials.lookup old = some d' ∧ d'.conn = d.conn) :
    Sound next := by
  constructor
  · rw [requests,fresh,bound]
    exact sound.requests
  · intro id d found
    obtain ⟨old,d',stored,here⟩ := dials id d found
    rw [bound,← here]
    exact sound.dials old d' stored
  · rw [connections,requests,bound]
    exact sound.connections
  · rw [connections,latest]
    exact sound.latest

theorem sound_setDial {d' : Dial} (known : t.dials.lookup dial = some d)
    (same : d'.conn = d.conn) : Sound (t.setDial dial d') := by
  refine sound_frame sound rfl rfl rfl rfl rfl fun id other found => ?_
  rcases of_lookup_insert found with ⟨rfl,rfl⟩ | ⟨_,found⟩
  · exact ⟨id,d,known,same.symm⟩
  · exact ⟨id,other,found,rfl⟩

theorem sound_step (effect : Effect p allowed t next events) : Sound next := by
  cases effect with
  | control input control => exact sound_control sound control input
  | selected conn agent known =>
    have absent := absent_of_below fun id r found => (sound.requests id r found).1
    refine ⟨fun id r found => ?_,sound.dials,fun id agent' found => ?_,sound.latest⟩
    · rcases of_lookup_insert found with ⟨rfl,rfl⟩ | ⟨_,found⟩
      · exact ⟨Nat.lt_succ_self _,(sound.connections conn agent known).1⟩
      · exact ⟨Nat.lt_succ_of_lt (sound.requests id r found).1,(sound.requests id r found).2⟩
    · rw [total_insert_fresh _ _ absent]
      simpa [inFlight] using sound.connections id agent' found
  | refused _ _ known waiting =>
    refine ⟨fun id other found => sound.requests id other (lookup_erased found),sound.dials,fun id agent found => ?_,
      sound.latest⟩
    obtain ⟨below,counted⟩ := sound.connections id agent found
    rw [total_erase _ _ known] at counted
    simp only [inFlight,waiting,Bool.false_eq_true,and_false,if_false,zero_add] at counted
    exact ⟨below,counted⟩
  | begun request r _ known waiting here =>
    refine ⟨forall_insert sound.requests (sound.requests request r known),sound.dials,fun _ _ found => ?_,
      fun _ _ found => latest_insert sound _ here rfl found⟩
    refine counter_moves sound here ?_ (fun other different => ?_) found
    · rw [total_insert _ _ known]
      simp [inFlight,waiting]
    · rw [total_insert _ _ known]
      simp [inFlight,different.symm]
  | completed _ _ _ known admitted here =>
    refine ⟨fun id other found => sound.requests id other (lookup_erased found),sound.dials,fun _ _ found => ?_,
      fun _ _ found => latest_insert sound _ here rfl found⟩
    refine counter_moves sound here ?_ (fun other different => ?_) found
    · rw [total_erase _ _ known]
      simp [Traffic.completeRequest,inFlight,admitted]
    · rw [total_erase _ _ known]
      simp [Traffic.completeRequest,inFlight,different.symm]
  | dialled conn agent known =>
    exact ⟨sound.requests,forall_insert sound.dials (sound.connections conn agent known).1,sound.connections,sound.latest⟩
  | acquired _ _ known | opened _ _ _ known => exact sound_setDial sound known rfl
  | ended => exact sound_frame sound rfl rfl rfl rfl rfl fun id d found => ⟨id,d,lookup_erased found,rfl⟩
  | lane _ _ _ known =>
    refine ⟨sound.requests,sound.dials,fun id held found => ?_,fun other id found => ?_⟩
    · refine counter_moves sound known ?_ (fun _ _ => rfl) found
      simp
    · exact latest_insert sound _ known rfl found
  | pool | idle | checked | abandoned | looked | authorized =>
    exact sound_frame sound rfl rfl rfl rfl rfl fun id d found => ⟨id,d,found,rfl⟩

end

def NoRequest (t : Traffic) (conn : Nat) : Prop :=
  ∀ request r, t.requests.lookup request = some r → r.conn = conn → r.admitted = false

/-- No dial on the connection has passed its second look at the cordon. -/
def NoStream (t : Traffic) (conn : Nat) : Prop := ∀ dial d, t.dials.lookup dial = some d → d.conn = conn → d.state ≠ .opened

def Closed (t : Traffic) (conn : Nat) : Prop :=
  ∃ agent, t.connections.lookup conn = some agent ∧ agent.agentID ∈ t.control.cordons

theorem Closed.turns_away {other : Nat} {agent : AgentConn} (closed : Closed t id)
    (here : t.connections.lookup other = some agent) (uncordoned : agent.agentID ∉ t.control.cordons) : other ≠ id := by
  rintro rfl
  obtain ⟨_,stored,cordoned⟩ := closed
  cases stored.symm.trans here
  exact uncordoned cordoned

theorem noRequest_step (effect : Effect p allowed t next events) (closed : Closed t id) (none : NoRequest t id) :
    NoRequest next id := by
  cases effect with
  | control input =>
    cases input with
    | restart => intro request r found; cases found
    | _ => exact none
  | selected =>
    exact forall_insert none fun _ => rfl
  | refused | completed => exact fun other r found => none other r (lookup_erased found)
  | begun _ _ _ _ _ here uncordoned =>
    exact forall_insert none fun at_ => absurd at_ (closed.turns_away here uncordoned)
  | _ => exact none

theorem noStream_step (effect : Effect p allowed t next events) (closed : Closed t id) (none : NoStream t id) :
    NoStream next id := by
  cases effect with
  | control input =>
    cases input with
    | restart => intro dial d found; cases found
    | _ => exact none
  | dialled | acquired =>
    exact forall_insert none (by simp)
  | ended => exact fun other d found => none other d (lookup_erased found)
  | opened _ _ _ _ here uncordoned =>
    exact forall_insert none fun at_ => absurd at_ (closed.turns_away here uncordoned)
  | _ => exact none

/-- Nothing that the agent's restart would cut off runs on the connection. -/
structure Quiet (t : Traffic) (conn : Nat) : Prop where
  requests : NoRequest t conn
  streams : NoStream t conn

/-- What a drain check in progress knows. Connections newer than the one it reads have been
closed to traffic since they exist. -/
structure Checking (t : Traffic) (c : DrainCheck) : Prop where
  row : ∃ key row, t.control.assignments.lookup key = some row ∧ row.agentID = c.agent ∧ row.draining = true
  conn : ∃ agent, t.connections.lookup c.conn = some agent ∧ agent.agentID = c.agent
  newer : ∀ id, t.latest.lookup c.agent = some id → id ≠ c.conn → Quiet t id
  requests : c.next ≠ .requests → NoRequest t c.conn
  streams : c.next = .done → NoStream t c.conn

structure Guarded (t : Traffic) : Prop where
  consistent : Consistent t.control
  live : LiveCordons t.control
  sound : Sound t
  armed : ∀ key row, t.control.assignments.lookup key = some row → row.desiredAction = .activate →
    ∀ id, t.latest.lookup row.agentID = some id → Quiet t id
  checking : ∀ c, t.check = some c → Checking t c

theorem guarded_initial : Guarded .initial where
  consistent := consistent_initial
  live := by
    intro _
    simp [Traffic.initial,initial,values]
  sound := sound_initial
  armed := by
    intro _ _ found
    cases found
  checking := by
    intro _ found
    cases found

theorem quiet_step (effect : Effect p allowed t next events) (closed : Closed t id) (quiet : Quiet t id) : Quiet next id :=
  ⟨noRequest_step effect closed quiet.requests,noStream_step effect closed quiet.streams⟩

theorem latest_step (sound : Sound t) (effect : Effect p allowed t next events)
    (found : next.latest.lookup agent = some id) : t.latest.lookup agent = some id ∨ Quiet next id := by
  cases effect with
  | control input =>
    cases input with
    | connect other =>
      rcases of_lookup_insert found with ⟨rfl,rfl⟩ | ⟨_,found⟩
      · refine .inr ⟨fun request r stored here => ?_,fun dial d stored here => ?_⟩
        · exact absurd here (Nat.ne_of_lt (sound.requests request r stored).2)
        · exact absurd here (Nat.ne_of_lt (sound.dials dial d stored))
      · exact .inl found
    | restart => cases found
    | _ => exact .inl found
  | _ => exact .inl found

theorem quiet_latest (sound : Sound t) (effect : Effect p allowed t next events) (cordoned : agent ∈ t.control.cordons)
    (before : t.latest.lookup agent = some id → Quiet t id) (found : next.latest.lookup agent = some id) :
    Quiet next id := by
  rcases latest_step sound effect found with stored | fresh
  · obtain ⟨held,known,here⟩ := sound.latest agent id stored
    rw [← here] at cordoned
    exact quiet_step effect ⟨held,known,cordoned⟩ (before stored)
  · exact fresh

theorem cordoned_row {s : System} (consistent : Consistent s) (live : LiveCordons s)
    (stored : s.assignments.lookup key = some row) (cordoned : row.cordoned) : row.agentID ∈ s.cordons := by
  refine (live row.agentID).mpr ⟨row,mem_values_of_lookup _ _ _ stored,rfl,?_,cordoned⟩
  exact live_of_cordoned (consistent.phases key row stored) cordoned

theorem cordoned_of_draining (drains : row.draining) : row.cordoned := by
  simp only [draining,Bool.and_eq_true] at drains
  exact drains.1.2

theorem cordoned_of_activating (phase : Phase row) (desires : row.desiredAction = .activate) : row.cordoned := by
  cases phase with
  | idle _ _ action => rcases action with _ | _ <;> simp_all
  | draining drains => exact cordoned_of_draining drains
  | fenced fenced => exact fenced.cordoned
  | closed => simp_all

theorem Checking.cordoned (guarded : Guarded t) (checking : Checking t c) : c.agent ∈ t.control.cordons := by
  obtain ⟨_,_,stored,here,drains⟩ := checking.row
  rw [← here]
  exact cordoned_row guarded.consistent guarded.live stored (cordoned_of_draining drains)

theorem armed_kept (guarded : Guarded t) (effect : Effect p allowed t next events)
    (stored : t.control.assignments.lookup key = some row) (desires : row.desiredAction = .activate)
    (found : next.latest.lookup row.agentID = some id) : Quiet next id := by
  have cordoned := cordoned_of_activating (guarded.consistent.phases key row stored) desires
  exact quiet_latest guarded.sound effect (cordoned_row guarded.consistent guarded.live stored cordoned)
    (guarded.armed key row stored desires id) found

/-- A check that has found everything drained leaves no traffic on any connection that is or
has become the agent's newest. -/
theorem drained_quiet (checking : Checking t c) (done : c.next = .done) (found : t.latest.lookup c.agent = some id) :
    Quiet t id := by
  by_cases equal : id = c.conn
  · subst equal
    refine ⟨checking.requests ?_,checking.streams done⟩
    rw [done]
    simp
  · exact checking.newer id found equal

theorem armed_step (guarded : Guarded t) (effect : Effect p allowed t next events) {row' : Assignment}
    (found : next.control.assignments.lookup key = some row') (desires : row'.desiredAction = .activate)
    (latest : next.latest.lookup row'.agentID = some id) : Quiet next id := by
  have kept := effect
  cases effect with
  | control input control _ _ admits ok =>
    have written : control.assignments.lookup key = some row' := by cases input <;> exact found
    obtain ⟨row,stored,same,origin⟩ := activating_origin guarded.consistent ok written desires
    rw [same] at latest
    rcases origin with desired | ⟨_,_,_,rfl⟩
    · exact armed_kept guarded kept stored desired latest
    · simp [Traffic.admits] at admits
  | authorized c blockers nonce now control shown checking done ok =>
    have ran : step p t.control (.authorizeDrained c.agent true blockers nonce now) = some (control,shown) := ok
    obtain ⟨_,stored,same,origin⟩ := activating_origin guarded.consistent ran found desires
    rw [same] at latest
    rcases origin with desired | ⟨_,_,_,named⟩
    · exact armed_kept guarded kept stored desired latest
    · have known := guarded.checking c checking
      rw [← (AgentUpdates.Input.authorizeDrained.inj named).1] at latest
      exact quiet_latest guarded.sound kept (known.cordoned guarded) (drained_quiet known done) latest
  | _ => exact armed_kept guarded kept found desires latest

theorem connection_step (sound : Sound t) (effect : Effect p allowed t next events) {agent : AgentConn}
    (known : t.connections.lookup id = some agent) :
    next.check = none ∨ ∃ held, next.connections.lookup id = some held ∧ held.agentID = agent.agentID := by
  cases effect with
  | control input =>
    cases input with
    | connect =>
      have below := (sound.connections id agent known).1
      refine .inr ⟨agent,?_,rfl⟩
      change (t.connections.insert t.nextConnection _).lookup id = some agent
      rw [lookup_insert_ne (Nat.ne_of_lt below)]
      exact known
    | restart => exact .inl rfl
    | _ => exact .inr ⟨agent,known,rfl⟩
  | begun _ _ _ _ _ here | completed _ _ _ _ _ here | lane _ _ _ here => exact .inr (held_insert _ here rfl known)
  | _ => exact .inr ⟨agent,known,rfl⟩

theorem checking_carries (guarded : Guarded t) (effect : Effect p allowed t next events)
    (before : t.check = some c) (after : next.check = some c)
    (kept : ∀ id row, t.control.assignments.lookup id = some row → next.control.assignments.lookup id = some row) :
    Checking next c := by
  have checking := guarded.checking c before
  obtain ⟨agent,known,here⟩ := checking.conn
  have cordoned := checking.cordoned guarded
  have closed : Closed t c.conn := ⟨agent,known,by rw [here]; exact cordoned⟩
  constructor
  · obtain ⟨key,row,stored,drains⟩ := checking.row
    exact ⟨key,row,kept key row stored,drains⟩
  · rcases connection_step guarded.sound effect known with ended | ⟨held,stored,same⟩
    · rw [after] at ended
      cases ended
    · exact ⟨held,stored,same.trans here⟩
  · intro id found different
    exact quiet_latest guarded.sound effect cordoned (fun stored => checking.newer id stored different) found
  · intro passed
    exact noRequest_step effect closed (checking.requests passed)
  · intro done
    exact noStream_step effect closed (checking.streams done)

inductive Looks (t : Traffic) (c : DrainCheck) (conn : AgentConn) : Look → List Finding → Prop where
  | requests (reads : c.next = .requests) (none : conn.activeRequests = 0) : Looks t c conn .pooled [.noRequest]
  | pooled (reads : c.next = .pooled) (none : t.inFlightForAgent c.agent = 0) : Looks t c conn .snapshot [.noPooled]
  | snapshot (reads : c.next = .snapshot) :
      Looks t c conn (.owners (Traffic.snapshot conn.tunnelOwners)) [.owners (Traffic.snapshot conn.tunnelOwners)]
  | listed (reads : c.next = .owners []) : Looks t c conn .leases []
  | owner (owner rest o drained) (reads : c.next = .owners (owner :: rest))
      (known : conn.tunnelOwners.owners.lookup owner = some o) (quiescent : Traffic.quiescent o drained = true) :
      Looks t c conn (.owners rest) [.quiescent owner]
  | leases (reads : c.next = .leases) (none : t.leases c.conn = 0) : Looks t c conn .done [.noLease]

theorem looks_of_drainLook {conn : AgentConn} {drained : Bool}
    (looks : t.drainLook c conn drained = some (look,findings)) : Looks t c conn look findings := by
  unfold Traffic.drainLook at looks
  split at looks
  next reads =>
    obtain ⟨none,equal⟩ := Option.ite_none_right_eq_some.mp looks
    cases equal
    exact .requests reads none
  next reads =>
    obtain ⟨none,equal⟩ := Option.ite_none_right_eq_some.mp looks
    cases equal
    exact .pooled reads none
  next reads =>
    cases looks
    exact .snapshot reads
  next reads =>
    cases looks
    exact .listed reads
  next owner rest reads =>
    obtain ⟨held,equal⟩ := Option.ite_none_right_eq_some.mp looks
    obtain ⟨o,known,quiescent⟩ := (Option.any_eq_true _ _).mp held
    cases equal
    exact .owner owner rest o drained reads known quiescent
  next reads =>
    obtain ⟨none,equal⟩ := Option.ite_none_right_eq_some.mp looks
    cases equal
    exact .leases reads none
  next => cases looks

theorem noRequest_of_zero (sound : Sound t) {agent : AgentConn} (known : t.connections.lookup id = some agent)
    (zero : agent.activeRequests = 0) : NoRequest t id := by
  intro request r stored here
  have counted := (sound.connections id agent known).2
  rw [total_erase (inFlight id) t.requests stored] at counted
  have rest : 0 ≤ total (inFlight id) (t.requests.erase request) := by
    apply total_nonneg
    intro _ _ _
    unfold inFlight
    split_ifs <;> simp
  by_contra admitted
  have one : inFlight id r = 1 := if_pos ⟨here,by simpa using admitted⟩
  omega

theorem cleared_of_leases (none : t.leases id = 0) (stored : t.dials.lookup dial = some d)
    (here : d.conn = id) : d.state = .cleared := by
  have unleased := countP_eq_zero.mp none d (mem_values_of_lookup _ _ _ stored)
  simpa [here] using unleased

theorem latest_of_connected (current : t.connectedByID agent = some id) : t.latest.lookup agent = some id :=
  (Option.ite_none_right_eq_some.mp current).2

theorem checking_step (guarded : Guarded t) (effect : Effect p allowed t next events)
    (after : next.check = some c) : Checking next c := by
  have kept := effect
  cases effect with
  | control input control _ _ admits ok =>
    have before : t.check = some c := by
      cases input with
      | restart => cases after
      | _ => exact after
    have free : Traffic.underMutex input = false := by
      simpa [before] using (Bool.and_eq_true_iff.mp admits).1
    have written : (t.afterControl control input).control = control := by cases input <;> rfl
    refine checking_carries guarded kept before after ?_
    rw [written]
    exact fun _ _ => unlocked_kept guarded.consistent ok free
  | checked agent conn drains current =>
    cases after
    have latest := latest_of_connected current
    refine ⟨?_,guarded.sound.latest agent conn latest,fun id found different => ?_,fun passed => absurd rfl passed,nofun⟩
    · unfold Traffic.draining at drains
      split at drains
      next => cases drains
      next row campaign query =>
        have found := active_found guarded.consistent.keyed query
        exact ⟨row.id,row,found.stored,found.agent,(Bool.and_eq_true_iff.mp drains).1⟩
    · exact absurd (Option.some.inj (found.symm.trans latest)) different
  | looked c' _ _ _ _ checking here looks =>
    cases after
    have before := guarded.checking c' checking
    have newer (id : Nat) (found : t.latest.lookup c'.agent = some id) (different : id ≠ c'.conn) :=
      before.newer id found different
    refine ⟨before.row,before.conn,fun id found different => ⟨(newer id found different).1,(newer id found different).2⟩,
      fun _ => ?_,fun done => ?_⟩
    · change NoRequest t c'.conn
      by_cases first : c'.next = .requests
      · cases looks_of_drainLook looks with
        | requests _ none => exact noRequest_of_zero guarded.sound here none
        | pooled reads | snapshot reads | listed reads | owner _ _ _ _ reads | leases reads =>
          rw [first] at reads
          cases reads
      · exact before.requests first
    · cases looks_of_drainLook looks with
      | leases _ none =>
        intro _ _ stored at_
        rw [cleared_of_leases none stored at_]
        simp
      | _ => cases done
  | abandoned | authorized => cases after
  | _ => exact checking_carries guarded kept after after fun _ _ => id

theorem Guarded.step (guarded : Guarded t) (effect : Effect p allowed t next events)
    (own : ∀ update, allowed update → publishesOwnFences t.control update) : Guarded next := by
  have control : Consistent next.control ∧ LiveCordons next.control := by
    cases effect with
    | control input control _ allows _ ok =>
      have written : (t.afterControl control input).control = control := by cases input <;> rfl
      rw [written]
      exact ⟨guarded.consistent.step ok,live_step guarded.consistent guarded.live (own input allows) ok⟩
    | authorized c blockers nonce now control shown _ _ ok =>
      have ran : step p t.control (.authorizeDrained c.agent true blockers nonce now) = some (control,shown) := ok
      exact ⟨guarded.consistent.step ran,live_step guarded.consistent guarded.live rfl ran⟩
    | _ => exact ⟨guarded.consistent,guarded.live⟩
  refine ⟨control.1,control.2,sound_step guarded.sound effect,?_,?_⟩
  · intro _ _ found desires _ latest
    exact armed_step guarded effect found desires latest
  · intro _ after
    exact checking_step guarded effect after

def Holds (t : Traffic) (agent conn : Nat) : Finding → Prop
  | .noRequest => NoRequest t conn
  | .noPooled => ∀ request, t.pooled.lookup request ≠ some agent
  | .owners all => ∃ held, t.connections.lookup conn = some held ∧ all = Traffic.snapshot held.tunnelOwners
  | .quiescent owner => ∃ held o, t.connections.lookup conn = some held ∧
      held.tunnelOwners.owners.lookup owner = some o ∧ o.openingCount = 0 ∧ o.application = [] ∧ o.session.isSome = true
  | .noLease => ∀ dial d, t.dials.lookup dial = some d → d.conn = conn → d.state = .cleared

theorem looks_holds (sound : Sound t) {conn : AgentConn} (here : t.connections.lookup c.conn = some conn)
    (looks : Looks t c conn look findings) (mem : finding ∈ findings) : Holds t c.agent c.conn finding := by
  cases looks with
  | requests _ none =>
    rw [mem_singleton.mp mem]
    exact noRequest_of_zero sound here none
  | pooled _ none =>
    rw [mem_singleton.mp mem]
    intro _ stored
    exact absurd (mem_values_of_lookup _ _ _ stored) (count_eq_zero.mp none)
  | snapshot =>
    rw [mem_singleton.mp mem]
    exact ⟨conn,here,rfl⟩
  | listed => cases mem
  | owner _ _ o _ _ known quiescent =>
    rw [mem_singleton.mp mem]
    simp only [Traffic.quiescent,Bool.and_eq_true,decide_eq_true_eq] at quiescent
    exact ⟨conn,o,here,known,quiescent.1.1.1,quiescent.1.1.2,quiescent.1.2⟩
  | leases _ none =>
    rw [mem_singleton.mp mem]
    exact fun _ _ stored at_ => cleared_of_leases none stored at_

def Made (past : List Event) (c : DrainCheck) (finding : Finding) : Prop := .found c.id c.agent c.conn finding ∈ past

/-- The check has found no request and no pooled request, has listed the owners of the
connection, and has found all of them but the rest quiescent. -/
def Listed (past : List Event) (c : DrainCheck) (rest : List Nat) : Prop := Made past c .noRequest ∧ Made past c .noPooled ∧
    ∃ seen, Made past c (.owners (seen ++ rest)) ∧ ∀ owner ∈ seen, Made past c (.quiescent owner)

def Looked (past : List Event) (c : DrainCheck) : Look → Prop
  | .requests => True
  | .pooled => Made past c .noRequest
  | .snapshot => Made past c .noRequest ∧ Made past c .noPooled
  | .owners rest => Listed past c rest
  | .leases => Listed past c []
  | .done => Listed past c [] ∧ Made past c .noLease

theorem made_append (made : Made past c finding) : Made (past ++ events) c finding := mem_append_left _ made

theorem listed_append {rest : List Nat} (listed : Listed past c rest) : Listed (past ++ events) c rest := by
  obtain ⟨requests,pooled,seen,all,quiet⟩ := listed
  exact ⟨made_append requests,made_append pooled,seen,made_append all,fun owner mem => made_append (quiet owner mem)⟩

theorem looked_append (looked : Looked past c look) : Looked (past ++ events) c look := by
  cases look with
  | requests => trivial
  | pooled => exact made_append looked
  | snapshot => exact ⟨made_append looked.1,made_append looked.2⟩
  | owners | leases => exact listed_append looked
  | done => exact ⟨listed_append looked.1,made_append looked.2⟩

theorem looked_look {conn : AgentConn} (looked : Looked past c c.next) (looks : Looks t c conn look findings) :
    Looked (past ++ findings.map fun finding => .found c.id c.agent c.conn finding) c look := by
  have before : Looked (past ++ findings.map fun finding => .found c.id c.agent c.conn finding) c c.next := looked_append looked
  have last {finding : Finding} (mem : finding ∈ findings) :
      Made (past ++ findings.map fun finding => .found c.id c.agent c.conn finding) c finding :=
    mem_append_right _ (mem_map_of_mem mem)
  cases looks with
  | requests => exact last (.head _)
  | pooled reads | leases reads =>
    rw [reads] at before
    exact ⟨before,last (.head _)⟩
  | snapshot reads =>
    rw [reads] at before
    exact ⟨before.1,before.2,[],last (.head _),nofun⟩
  | listed reads =>
    rw [reads] at before
    exact before
  | owner owner _ _ _ reads =>
    rw [reads] at before
    obtain ⟨requests,pooled,seen,_,quiet⟩ := before
    refine ⟨requests,pooled,seen ++ [owner],by rwa [append_assoc],fun other mem => ?_⟩
    rcases mem_append.mp mem with earlier | this
    · exact quiet other earlier
    · rw [mem_singleton.mp this]
      exact last (.head _)

def Remembered (past : List Event) (t : Traffic) : Prop := ∀ c, t.check = some c → Looked past c c.next

theorem remembered_step (remembered : Remembered past t) (effect : Effect p allowed t next events) :
    Remembered (past ++ events) next := by
  intro c after
  cases effect with
  | control input =>
    cases input with
    | restart => cases after
    | _ => exact looked_append (remembered c after)
  | checked =>
    cases after
    trivial
  | looked c' _ _ _ _ checking _ looks =>
    cases after
    exact looked_look (remembered c' checking) (looks_of_drainLook looks)
  | abandoned | authorized => cases after
  | _ => exact looked_append (remembered c after)

def ownFences (t : Traffic) : Input → Bool
  | .control update => publishesOwnFences t.control update
  | _ => true

/-- The traffic of an agent at the moment an activation is signed for its row. -/
structure Drained (past : List Event) (t : Traffic) (row : Assignment) : Prop where
  requests : ∀ conn, t.connectedByID row.agentID = some conn → NoRequest t conn
  leases : ∀ conn dial d, t.connectedByID row.agentID = some conn → t.dials.lookup dial = some d → d.conn = conn →
    d.state = .cleared ∨ d.state = .leased
  checked : row.draining = true → ∃ c, t.check = some c ∧ c.agent = row.agentID ∧ Looked past c .done

theorem drained_of_quiet (quiet : ∀ conn, t.latest.lookup row.agentID = some conn → Quiet t conn)
    (checked : row.draining → ∃ c, t.check = some c ∧ c.agent = row.agentID ∧ Looked past c .done) :
    Drained past t row := by
  refine ⟨fun conn current => (quiet conn (latest_of_connected current)).requests,fun conn dial d current stored here => ?_,
    checked⟩
  have unopened := (quiet conn (latest_of_connected current)).streams dial d stored here
  cases state : d.state with
  | cleared => exact .inl rfl
  | leased => exact .inr rfl
  | opened => exact absurd state unopened

theorem issued_drained (guarded : Guarded t) (remembered : Remembered past t) (effect : Effect p allowed t next events)
    {authorization : Authorization} (mem : .control (.authorized row authorization) ∈ events)
    (activates : authorization.action = some .activate) : Drained past t row := by
  cases effect with
  | control _ _ _ _ admits ok =>
    obtain ⟨event,signed,equal⟩ := mem_map.mp mem
    obtain rfl := Event.control.inj equal
    rcases authorized_input (guarded.consistent.outcome ok).change signed with
      ⟨_,_,_,rfl⟩ | ⟨stored,_,_,privileged,same⟩
    · simp [Traffic.admits] at admits
    · cases same.symm.trans activates
      have desires : row.desiredAction = .activate := by
        cases desired : row.desiredAction <;> simp [desired,desiredActionAuth] at privileged ⊢
      refine drained_of_quiet (guarded.armed row.id row stored desires) fun drains => ?_
      simp [draining,desires] at drains
  | authorized c blockers nonce now control shown checking done ok =>
    obtain ⟨_,signed,equal⟩ := mem_map.mp mem
    obtain rfl := Event.control.inj equal
    have ran : step p t.control (.authorizeDrained c.agent true blockers nonce now) = some (control,shown) := ok
    have agent : row.agentID = c.agent := by
      rcases authorized_input (guarded.consistent.outcome ran).change signed with ⟨_,_,_,named⟩ | ⟨_,⟨_,_,_,_,impossible⟩,_⟩
      · exact (AgentUpdates.Input.authorizeDrained.inj named).1.symm
      · cases impossible
    have looked := remembered c checking
    rw [done] at looked
    refine drained_of_quiet (fun _ latest => ?_) fun _ => ⟨c,checking,agent.symm,looked⟩
    rw [agent] at latest
    exact drained_quiet (guarded.checking c checking) done latest
  | begun | looked => simp at mem
  | _ => cases mem

theorem found_holds (guarded : Guarded t) (effect : Effect p allowed t next events) {check : Nat}
    (mem : .found check agent conn finding ∈ events) : agent ∈ t.control.cordons ∧ Holds t agent conn finding := by
  cases effect with
  | looked c _ _ _ _ checking here looks =>
    obtain ⟨_,present,equal⟩ := mem_map.mp mem
    obtain ⟨rfl,rfl,rfl,rfl⟩ := Event.found.inj equal
    exact ⟨(guarded.checking c checking).cordoned guarded,looks_holds guarded.sound here (looks_of_drainLook looks) present⟩
  | control | authorized | begun => simp at mem
  | _ => cases mem

/-- In every run in which no pause or cancellation meets an agent fenced by another campaign:
an activation is signed for a drained agent only; every finding of the check is made under the
cordon and is true when it is made; and a cordoned agent admits no request and opens no stream. -/
theorem drained_before_activation (p : Primitives) (inputs : List Input) (t : Traffic) (past : List Event)
    (own : Transitions.Meets (Traffic.step p) (fun t input => ownFences t input = true) Traffic.initial inputs)
    (reached : run (Traffic.step p) Traffic.initial inputs = some (t,past)) (input : Input) (next : Traffic)
    (events : List Event) (ok : t.step p input = some (next,events)) :
    (∀ row authorization, .control (.authorized row authorization) ∈ events → authorization.action = some .activate →
      Drained past t row) ∧
    (∀ check agent conn finding, .found check agent conn finding ∈ events →
      agent ∈ t.control.cordons ∧ Holds t agent conn finding) ∧
    (∀ request conn, .admitted request conn ∈ events → ∃ agent, t.connections.lookup conn = some agent ∧
      agent.agentID ∉ t.control.cordons ∧ ∀ row ∈ values t.control.assignments, row.agentID = agent.agentID →
        row.active = true → row.cordoned = false) ∧
    (∀ conn, Closed t conn → NoStream t conn → NoStream next conn) := by
  obtain ⟨guarded,remembered⟩ : Guarded t ∧ Remembered ([] ++ past) t := by
    refine run_history (motive := fun past t => Guarded t ∧ Remembered past t) ?_ ⟨guarded_initial,nofun⟩ own reached
    intro _ t _ next events holds own ok
    have effect : Effect p (fun update => publishesOwnFences t.control update) t next events := by
      apply effect_of_step _ ok
      rintro _ rfl
      exact own
    exact ⟨holds.1.step effect fun _ allowed => allowed,remembered_step holds.2 effect⟩
  have effect : Effect p (fun _ => True) t next events := effect_of_step (fun _ _ => trivial) ok
  refine ⟨fun row authorization mem activates => issued_drained guarded remembered effect mem activates,
    fun _ agent conn _ mem => found_holds guarded effect mem,fun request conn mem => ?_,
    fun _ closed none => noStream_step effect closed none⟩
  obtain ⟨agent,here,uncordoned⟩ : ∃ agent, t.connections.lookup conn = some agent ∧ agent.agentID ∉ t.control.cordons := by
    cases effect with
    | begun _ _ agent _ _ here uncordoned =>
      obtain ⟨_,rfl⟩ := Event.admitted.inj (mem_singleton.mp mem)
      exact ⟨agent,here,uncordoned⟩
    | control | authorized | looked => simp at mem
    | _ => cases mem
  refine ⟨agent,here,uncordoned,fun row stored same active => ?_⟩
  by_contra cordoned
  apply uncordoned
  exact (guarded.live agent.agentID).mpr ⟨row,stored,same,active,by simpa using cordoned⟩

/-- A health check is past its first look at the cordon when the agent is cordoned, and is
granted its lease after the drain check has counted the leases. -/
def exampleDrain : List Input := exampleCampaign.map .control ++
    [.control (.report (exampleReport 1 1 .staged none) 0),.control (.connect 1 ⟨0,⟨"v1","c1"⟩⟩),
      .lane 0 (.acquire 0 "0" "" 0 true),.lane 0 (.attach 0 ⟨0,false⟩),.select 0,.begin_ 0,.select 0,.dial 0,
      .control (.cordon 1 [] 0),.begin_ 1,.complete 0,.check 1,.look true,.look true,.look true,.look true,.look true,
      .look true,.acquire 0]

theorem drained_before_activation_health_check : ∃ t past next events row authorization,
      run (Traffic.step trusting) Traffic.initial exampleDrain = some (t,past) ∧
      t.step trusting (.authorize [] [7] 0) = some (next,events) ∧
      .control (.authorized row authorization) ∈ events ∧ authorization.action = some .activate ∧ Drained past t row := by
  have own : Transitions.Meets (Traffic.step trusting) (fun t input => ownFences t input)
      Traffic.initial exampleDrain := meets_of_checks (fun _ _ checked => checked) (by decide +kernel)
  have drained := (drained_before_activation _ _ _ _ own rfl (.authorize [] [7] 0) _ _ rfl).1 _ _ (.head _) rfl
  exact ⟨_,_,_,_,_,_,rfl,rfl,.head _,rfl,drained⟩

/-- The lease of the health check is outstanding when the activation is signed. -/
theorem activation_beside_lease : ∃ t past next row authorization conn,
      run (Traffic.step trusting) Traffic.initial exampleDrain = some (t,past) ∧
      t.step trusting (.authorize [] [7] 0) = some (next,[.control (.authorized row authorization)]) ∧
      authorization.action = some .activate ∧ t.connectedByID row.agentID = some conn ∧ t.leases conn = 1 := by
  refine ⟨_,_,_,_,_,0,rfl,rfl,?_,?_,?_⟩ <;> rfl

/-- In every run the counter of a connection is the number of its admitted requests, so that the drain check
reads zero exactly when none is left. -/
theorem request_counters_exact (inputs : List Input) (reached : run (Traffic.step p) Traffic.initial inputs = some (t,past))
    (here : t.connections.lookup conn = some held) :
    held.activeRequests = total (inFlight conn) t.requests ∧ (held.activeRequests = 0 ↔ NoRequest t conn) := by
  have sound : Sound t := run_kept (fun _ _ _ _ sound ok => sound_step sound (effect_of_step (fun _ _ => trivial) ok))
    sound_initial reached
  have counted := (sound.connections conn held here).2
  refine ⟨counted,noRequest_of_zero sound here,fun none => ?_⟩
  rw [counted]
  exact total_eq_zero _ _ fun request r found => if_neg fun both => by simp [none request r found both.1] at both

theorem request_counters_exact_drain : ∃ t past agent, run (Traffic.step trusting) Traffic.initial exampleDrain = some (t,past) ∧
    t.connections.lookup 0 = some agent ∧ agent.activeRequests = total (inFlight 0) t.requests :=
  ⟨_,_,_,rfl,rfl,(request_counters_exact exampleDrain (p := trusting) rfl rfl).1⟩

end P2pstream.AgentDrain
