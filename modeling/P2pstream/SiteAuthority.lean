import P2pstream.Kernel.PublicPipeline

/-! A request of a managed host goes on only if the TLS connection was made for that host. The
check stands before every stage that acts on the request, but for the answers of the stages that
it must let answer first.
-/
namespace P2pstream.SiteAuthority
open Kernel.PublicPipeline
open Kernel.PublicSites hiding Request
open Library.Encoding (Bytes text)

variable {x : Lexicon} {snap : Snapshot} {listenerID : Nat} {r : Request} {hostname serverName : Bytes}

/-- The server name is the host of the authority; an IP literal may come without one. -/
def Agrees (x : Lexicon) (hostname serverName : Bytes) : Prop :=
  if serverName = [] then ipLiteral hostname = true else normalizePublicSiteRequestHostname x serverName = some hostname

/-- A listener without sites claims no host. -/
theorem stage_managed (https : (snap.listeners listenerID).any (·.protocol = .https))
    (tls : r.serverName = some serverName) (parsed : parsePublicSiteRequestAuthority x r.host = some hostname)
    (claims : managed x snap listenerID hostname) :
    (Agrees x hostname serverName ∧ validatePublicSiteAuthorityStage x snap listenerID r = .ok { r with host := hostname }) ∨
      (¬ Agrees x hostname serverName ∧ validatePublicSiteAuthorityStage x snap listenerID r = .error 421) := by
  have checks : misdirected x snap listenerID hostname serverName ↔ ¬ Agrees x hostname serverName := by
    unfold misdirected Agrees
    simp only [claims,Bool.true_or,Bool.true_and]
    by_cases absent : serverName = []
    · simp [absent]
    · cases normalizePublicSiteRequestHostname x serverName <;> simp [absent]
  unfold validatePublicSiteAuthorityStage
  rw [if_neg,parsed,tls]
  rotate_left
  · rintro ⟨hosts,_,none⟩
    simp [managed,matchPublicSiteForListener,matchPublicSiteHost,hosts,none] at claims
  simp only [https,claims,if_true,true_and,Option.any_some]
  by_cases agrees : Agrees x hostname serverName
  · have passes : ¬ misdirected x snap listenerID hostname serverName := fun refused => checks.mp refused agrees
    exact .inl ⟨agrees,if_neg passes⟩
  · exact .inr ⟨agrees,if_pos (checks.mpr agrees)⟩

/-- For every TLS request whose authority names a host of a site: a stage after the check is
entered only if the server name agrees; and a request that no preceding stage answers is refused
with 421 otherwise, by the check itself. -/
theorem managed_request_needs_server_name (x : Lexicon) (snap : Snapshot) (listenerID : Nat)
    (answer : Stage → Request → Option Nat) (r : Request) (hostname serverName : Bytes)
    (https : (snap.listeners listenerID).any (·.protocol = .https) = true) (tls : r.serverName = some serverName)
    (parsed : parsePublicSiteRequestAuthority x r.host = some hostname)
    (claims : managed x snap listenerID hostname = true) :
    ((∃ stage ∈ laterStages, stage ∈ (run x snap listenerID answer publicProxyStages r).1) → Agrees x hostname serverName) ∧
    (¬ Agrees x hostname serverName → (∀ stage ∈ precedingStages, answer stage r = none) →
      run x snap listenerID answer publicProxyStages r = (precedingStages ++ [.validatePublicSiteAuthority],some 421)) := by
  have first (stage : Stage) (mem : stage ∈ precedingStages) : stage ≠ .validatePublicSiteAuthority := by
    rintro rfl
    revert mem
    decide
  unfold publicProxyStages
  generalize listed : precedingStages = preceding
  have before : ∀ stage ∈ preceding, stage ∉ laterStages := by
    rw [← listed]
    decide
  rw [listed] at first
  clear listed
  induction preceding with
  | nil =>
    rcases stage_managed https tls parsed claims with ⟨agrees,_⟩ | ⟨differs,refused⟩
    · exact ⟨fun _ => agrees,fun differs => absurd agrees differs⟩
    · have ends : run x snap listenerID answer ([] ++ .validatePublicSiteAuthority :: laterStages) r =
          ([.validatePublicSiteAuthority],some 421) := by simp [run,refused]
      rw [ends]
      refine ⟨?_,fun _ _ => rfl⟩
      rintro ⟨stage,later,entered⟩
      rw [List.mem_singleton.mp entered] at later
      exact absurd later (by decide)
  | cons stage rest ih =>
    obtain ⟨reaches,refuses⟩ := ih (fun other mem => first other (.tail _ mem))
      (fun other mem => before other (.tail _ mem))
    cases answered : answer stage r with
    | some status =>
      have ends : run x snap listenerID answer (stage :: rest ++ .validatePublicSiteAuthority :: laterStages) r =
          ([stage],some status) := by simp [run,first stage (.head _),answered]
      rw [ends]
      refine ⟨?_,fun _ silent => by simp [silent stage (.head _)] at answered⟩
      rintro ⟨other,later,entered⟩
      rw [List.mem_singleton.mp entered] at later
      exact absurd later (before stage (.head _))
    | none =>
      have goes : run x snap listenerID answer (stage :: rest ++ .validatePublicSiteAuthority :: laterStages) r =
          (stage :: (run x snap listenerID answer (rest ++ .validatePublicSiteAuthority :: laterStages) r).1,
            (run x snap listenerID answer (rest ++ .validatePublicSiteAuthority :: laterStages) r).2) := by
        simp [run,first stage (.head _),answered]
      rw [goes]
      refine ⟨?_,fun differs silent => ?_⟩
      · rintro ⟨other,later,entered⟩
        rcases List.mem_cons.mp entered with rfl | entered
        · exact absurd later (before other (.head _))
        · exact reaches ⟨other,later,entered⟩
      · rw [refuses differs fun other mem => silent other (.tail _ mem)]
        rfl

def plainLexicon : Lexicon := ⟨some,id⟩

def secureSite : Snapshot where
  listeners _ := some ⟨1,443,.https⟩
  sites _ := some ⟨1,true,true,false,text "example.test"⟩
  siteHostsByListener _ := [⟨1,text "example.test",true,.serve⟩]
  siteBindingsByListener _ := []
  defaultSiteByListener _ := none
  routesBySite _ := []
  routesByListener _ := []

def misdirectedRequest : Request := ⟨text "Example.Test:443",some (text "other.test")⟩

/-- A pending challenge of a certificate authority is answered on any connection. -/
theorem challenge_answered_first : ¬ ∀ (x : Lexicon) (snap : Snapshot) (listenerID : Nat)
    (answer : Stage → Request → Option Nat) (r : Request) (hostname serverName : Bytes),
    (snap.listeners listenerID).any (·.protocol = .https) = true → r.serverName = some serverName →
    parsePublicSiteRequestAuthority x r.host = some hostname → managed x snap listenerID hostname = true →
    ipLiteral hostname = false → normalizePublicSiteRequestHostname x serverName ≠ some hostname →
      (run x snap listenerID answer publicProxyStages r).2 = some 421 := by
  intro claim
  have refused := claim plainLexicon secureSite 1 (fun stage _ => if stage = .serveACMEChallenge then some 200 else none)
    misdirectedRequest (text "example.test") (text "other.test") (by decide +kernel) rfl (by decide +kernel)
    (by decide +kernel) (by decide +kernel) (by decide +kernel)
  exact absurd refused (by decide +kernel)

theorem managed_request_needs_server_name_misdirected :
    run plainLexicon secureSite 1 (fun _ _ => none) publicProxyStages misdirectedRequest =
      (precedingStages ++ [.validatePublicSiteAuthority],some 421) := by
  have differs : ¬ Agrees plainLexicon (text "example.test") (text "other.test") := by
    unfold Agrees
    decide +kernel
  exact (managed_request_needs_server_name plainLexicon secureSite 1 (fun _ _ => none) misdirectedRequest
    (text "example.test") (text "other.test") (by decide +kernel) rfl (by decide +kernel) (by decide +kernel)).2 differs
    fun _ _ => rfl

end P2pstream.SiteAuthority
