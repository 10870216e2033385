import P2pstream.Kernel.Destinations

/-! Where an agent may be made to connect. What `dialAddress` returns is dialed as it stands,
so that an IP literal is one only if no white space is left around it.
-/
namespace P2pstream.DestinationConfinement
open Library.Encoding (Bytes text)
open Library.Text Library.Addresses Library.AddressText Kernel.Destinations List

variable {toLower : Bytes → Bytes} {policy : AgentDestinationPolicy} {rules : List AgentDestinationRule}
  {address host portText returned : Bytes} {addr : Addr} {port : Nat}

/-- The text names an address and a port to whoever dials it, without a lookup. -/
def Literal (returned : Bytes) (addr : Addr) (port : Nat) : Prop :=
  ∃ host portText, splitHostPort returned = .ok (host,portText) ∧ parseAddr host = some addr ∧
    parseAgentDestinationPort portText = .ok port

def AllowedByPrefix (rules : List AgentDestinationRule) (addr : Addr) (port : Nat) : Prop :=
  ∃ rule ∈ rules, ∃ p, rule.hasPrefix = true ∧ rule.cidr = some p ∧ p.contains (normalizeAgentDestinationAddr addr) = true ∧
    rule.ports.matches port = true

def AllowedByName (toLower : Bytes → Bytes) (rules : List AgentDestinationRule) (returned : Bytes) : Prop :=
  ∃ host portText port, splitHostPort (trimSpace returned) = .ok (host,portText) ∧
    parseAgentDestinationPort portText = .ok port ∧ ∃ rule ∈ rules, rule.hostname ≠ [] ∧
      rule.hostname = normalizeAgentDestinationHost toLower (trimSpace host) ∧ rule.ports.matches port = true

def Permitted (toLower : Bytes → Bytes) (rules : List AgentDestinationRule) (returned : Bytes) : Prop :=
  (∃ addr port, Literal returned addr port ∧ AllowedByPrefix rules addr port) ∨ AllowedByName toLower rules returned

def loopback : Addr → Bool
  | .v4 bits => bits >>> 24 = 127
  | .v6 bits _ => bits = 1

def Loopback (returned : Bytes) : Prop :=
  ∃ addr port, Literal returned addr port ∧ loopback (normalizeAgentDestinationAddr addr) = true

/-- An IP literal is requested as it will be dialed: what stands in front of the host or
around it is not only white space that the checks trim. -/
def Verbatim (address : Bytes) : Prop := ∀ host portText addr port, splitHostPort (trimSpace address) = .ok (host,portText) →
    parseAgentDestinationPort portText = .ok port → parseAddr (trimSpace host) = some addr →
      ∃ same, Literal address same port ∧ normalizeAgentDestinationAddr same = normalizeAgentDestinationAddr addr

theorem matchesAddr_iff :
    policy.matchesAddr (normalizeAgentDestinationAddr addr) port ↔ AllowedByPrefix policy.rules addr port := by
  simp only [AgentDestinationPolicy.matchesAddr,AllowedByPrefix,any_eq_true,Bool.and_eq_true,Option.any_eq_true]
  constructor
  · rintro ⟨rule,mem,⟨has,p,cidr,contains⟩,ports⟩
    exact ⟨rule,mem,p,has,cidr,contains,ports⟩
  · rintro ⟨rule,mem,p,has,cidr,contains,ports⟩
    exact ⟨rule,mem,⟨has,p,cidr,contains⟩,ports⟩

theorem is4In6_normalize (addr : Addr) : (normalizeAgentDestinationAddr addr).is4In6 = false := by
  rw [normalizeAgentDestinationAddr,Addr.is4In6_withZone]
  exact Addr.is4In6_unmap addr

theorem zone_normalize (addr : Addr) : (normalizeAgentDestinationAddr addr).zone = [] := Addr.zone_withZone_nil _

theorem normalize_normalize (addr : Addr) :
    normalizeAgentDestinationAddr (normalizeAgentDestinationAddr addr) = normalizeAgentDestinationAddr addr := by
  have plain := is4In6_normalize addr
  have unzoned := zone_normalize addr
  cases shape : normalizeAgentDestinationAddr addr with
  | v4 => rfl
  | v6 _ zone =>
    rw [shape] at plain unzoned
    subst unzoned
    rw [normalizeAgentDestinationAddr,Addr.unmap,plain]
    rfl

theorem trimSpace_itoa (port : Nat) : trimSpace (itoa port) = itoa port := by
  apply trimSpace_of_plain
  intro _ mem
  have digit := mem_itoa mem
  exact ⟨UInt8.le_trans (by decide : (0x21 : UInt8) ≤ 0x30) digit.1,UInt8.lt_of_le_of_lt digit.2 (by decide : (0x39 : UInt8) < 0x7f)⟩

theorem parsePort_range (ok : parseAgentDestinationPort portText = .ok port) : 1 ≤ port ∧ port ≤ 65535 := by
  unfold parseAgentDestinationPort at ok
  dsimp only at ok
  split at ok
  · cases ok
  split at ok
  · cases ok
  split at ok
  · cases ok
  split at ok
  · cases ok
  · cases ok
    omega

theorem parsePort_itoa (positive : 1 ≤ port) (small : port ≤ 65535) : parseAgentDestinationPort (itoa port) = .ok port := by
  obtain ⟨reads,digits⟩ := decimal_itoa port
  unfold parseAgentDestinationPort
  simp only [trimSpace_itoa,itoa_ne_nil,digits,reads,if_false,not_true_eq_false]
  rw [if_neg (by omega),if_neg (by omega)]

variable {network : Bytes} {lookup : Bytes → LookupAnswer} {raw : List Bytes}

theorem dialResolved_permitted {answer : LookupAnswer} (positive : 1 ≤ port) (small : port ≤ 65535)
    (ok : policy.dialResolved toLower network port answer = .ok returned) :
    ∃ addr, Literal returned addr port ∧ AllowedByPrefix policy.rules addr port := by
  cases answer with
  | interrupted | failed => exact nomatch ok
  | addresses =>
    unfold AgentDestinationPolicy.dialResolved at ok
    dsimp only at ok
    split at ok
    · rename_i addr found
      cases ok
      have chosen := find?_some found
      rw [Bool.and_eq_true] at chosen
      obtain ⟨answered,_,rfl⟩ := mem_map.mp (mem_of_find?_eq_some found)
      have allowed := chosen.2
      rw [← normalize_normalize] at allowed
      obtain ⟨_,opens,closes,_⟩ := formatAddr_letters (zone_normalize answered)
      refine ⟨_,⟨_,_,splitHostPort_joinHostPort opens closes (fun _ => mem_itoa),?_,parsePort_itoa positive small⟩,
        matchesAddr_iff.mp allowed⟩
      exact parseAddr_formatAddr (is4In6_normalize answered) (zone_normalize answered)
    · cases ok

theorem dialAddress_cases (bounded : policy.allowAny = false)
    (ok : policy.dialAddress toLower network address lookup = .ok returned) :
    ∃ host portText port, splitHostPort (trimSpace address) = .ok (host,portText) ∧
      parseAgentDestinationPort portText = .ok port ∧
      ((returned = address ∧ ∃ addr, parseAddr (trimSpace host) = some addr ∧ AllowedByPrefix policy.rules addr port) ∨
        (returned = address ∧ AllowedByName toLower policy.rules address) ∨
        ∃ addr, Literal returned addr port ∧ AllowedByPrefix policy.rules addr port) := by
  unfold AgentDestinationPolicy.dialAddress at ok
  rw [bounded,if_neg (by simp)] at ok
  split at ok
  · cases ok
  split at ok
  · cases ok
  rename_i host portText splits
  split at ok
  · cases ok
  rename_i port reads
  refine ⟨host,portText,port,splits,reads,?_⟩
  unfold AgentDestinationPolicy.dialHost at ok
  split at ok
  · cases ok
  split at ok
  · rename_i addr literal
    split at ok
    · rename_i allowed
      cases ok
      exact .inl ⟨rfl,addr,literal,matchesAddr_iff.mp allowed⟩
    · cases ok
  · dsimp only at ok
    split at ok
    · cases ok
    split at ok
    · rename_i named
      cases ok
      simp only [AgentDestinationPolicy.matchesHostname,any_eq_true,Bool.and_eq_true,decide_eq_true_eq] at named
      obtain ⟨rule,mem,⟨given,same⟩,ports⟩ := named
      exact .inr (.inl ⟨rfl,host,portText,port,splits,reads,rule,mem,given,same,ports⟩)
    split at ok
    · cases ok
    · have range := parsePort_range reads
      exact .inr (.inr (dialResolved_permitted range.1 range.2 ok))

theorem AllowedByPrefix.normal {same : Addr} (allowed : AllowedByPrefix rules addr port)
    (equal : normalizeAgentDestinationAddr same = normalizeAgentDestinationAddr addr) : AllowedByPrefix rules same port := by
  unfold AllowedByPrefix at *
  rw [equal]
  exact allowed

theorem addAllowTargets_allowAny {before : AgentDestinationPolicy}
    (ok : addAllowTargets toLower raw before = .ok policy) : policy.allowAny = before.allowAny := by
  induction raw generalizing before with
  | nil =>
    cases ok
    rfl
  | cons _ _ ih =>
    unfold addAllowTargets at ok
    dsimp only at ok
    split at ok
    · exact ih ok
    · split at ok
      · cases ok
      · have kept := ih ok
        exact kept

theorem newPolicy_iff : newAgentDestinationPolicy toLower raw false = .ok policy ↔
      addAllowTargets toLower (if hasNonEmptyAgentDestinationRule raw then raw else defaultAgentDestinationRules) {} =
        .ok policy := by
  have same : (if ¬ (false) ∧ ¬ hasNonEmptyAgentDestinationRule raw then defaultAgentDestinationRules else raw) =
      if hasNonEmptyAgentDestinationRule raw then raw else defaultAgentDestinationRules := by
    cases hasNonEmptyAgentDestinationRule raw <;> rfl
  unfold newAgentDestinationPolicy
  dsimp only
  rw [same]
  cases added : addAllowTargets toLower
      (if hasNonEmptyAgentDestinationRule raw then raw else defaultAgentDestinationRules) {} with
  | error problem => rfl
  | ok built =>
    have bounded : built.allowAny = false := addAllowTargets_allowAny added
    simp [bounded]

theorem newPolicy_bounded (ok : newAgentDestinationPolicy toLower raw false = .ok policy) :
    policy.allowAny = false := addAllowTargets_allowAny (newPolicy_iff.mp ok)

def loopbackPolicy : AgentDestinationPolicy where
  rules := [{ cidr := some (.v4 0x7f000000 8), hasPrefix := true, ports := { any := true } },
    { cidr := some (.v6 1 128), hasPrefix := true, ports := { any := true } }]
  hasPrefixRules := true

theorem parseAgentAllowTarget_prefix {raw : Bytes} {p : Prefix}
    (splits : splitAgentAllowTarget raw = .ok (raw,none)) (solid : trimSpace raw = raw) (some : raw ≠ [])
    (spaceless : containsAny (text " \t\r\n") raw = false) (reads : parsePrefix raw = .some p) :
    parseAgentAllowTarget toLower raw =
      .ok { cidr := normalizeAgentDestinationPrefix p, hasPrefix := true, ports := { any := true } } := by
  unfold parseAgentAllowTarget
  rw [splits]
  change parseAgentAllowTargetHost toLower (trimSpace raw) _ = _
  rw [solid]
  unfold parseAgentAllowTargetHost
  rw [if_neg some,spaceless,if_neg (by simp),reads]

theorem defaultRules_loopback : addAllowTargets toLower defaultAgentDestinationRules {} = .ok loopbackPolicy := by
  have four : parseAgentAllowTarget toLower (text "127.0.0.0/8") =
      .ok { cidr := normalizeAgentDestinationPrefix (.v4 0x7f000000 8), hasPrefix := true, ports := { any := true } } := by
    apply parseAgentAllowTarget_prefix <;> decide +kernel
  have six : parseAgentAllowTarget toLower (text "::1/128") =
      .ok { cidr := normalizeAgentDestinationPrefix (.v6 1 128), hasPrefix := true, ports := { any := true } } := by
    apply parseAgentAllowTarget_prefix <;> decide +kernel
  have solidFour : trimSpace (text "127.0.0.0/8") = text "127.0.0.0/8" := by decide +kernel
  have solidSix : trimSpace (text "::1/128") = text "::1/128" := by decide +kernel
  have normalFour : normalizeAgentDestinationPrefix (.v4 0x7f000000 8) = .some (.v4 0x7f000000 8) := by decide +kernel
  have normalSix : normalizeAgentDestinationPrefix (.v6 1 128) = .some (.v6 1 128) := by decide +kernel
  rfl

theorem loopback_allowed (allowed : AllowedByPrefix loopbackPolicy.rules addr port) :
    loopback (normalizeAgentDestinationAddr addr) := by
  obtain ⟨_,mem,_,_,cidr,contains,_⟩ := allowed
  simp only [loopbackPolicy,mem_cons,not_mem_nil,or_false] at mem
  rcases mem with rfl | rfl
  · cases cidr
    cases shape : normalizeAgentDestinationAddr addr with
    | v4 =>
      rw [shape] at contains
      have high := agree_iff.mp contains
      exact decide_eq_true high
    | v6 =>
      rw [shape] at contains
      cases contains
  · cases cidr
    cases shape : normalizeAgentDestinationAddr addr with
    | v4 =>
      rw [shape] at contains
      cases contains
    | v6 =>
      rw [shape] at contains
      have whole := agree_full.mp (Bool.and_eq_true_iff.mp contains).2
      exact decide_eq_true whole

def exactRule (addr : Addr) (port : Nat) : AgentDestinationRule :=
  { cidr := prefixForAgentDestinationAddr addr, hasPrefix := true, ports := { min := port, max := port } }

theorem plain_joinHostPort (plain : Plain host) (digits : ∀ byte ∈ portText, 0x30 ≤ byte ∧ byte ≤ 0x39) :
    Plain (joinHostPort host portText) := by
  have port : Plain portText := by
    intro byte mem
    have digit := digits byte mem
    exact ⟨UInt8.le_trans (by decide : (0x21 : UInt8) ≤ 0x30) digit.1,
      UInt8.lt_of_le_of_lt digit.2 (by decide : (0x39 : UInt8) < 0x7f)⟩
  have signs : ∀ byte ∈ [openBracket,closeBracket,colon], 0x21 ≤ byte ∧ byte < 0x7f := by
    simp [openBracket,closeBracket,colon]
  intro byte mem
  unfold joinHostPort at mem
  split at mem
  · simp only [cons_append,mem_cons,mem_append] at mem
    rcases mem with rfl | inside | rfl | rfl | last
    · exact signs _ (by simp)
    · exact plain byte inside
    · exact signs _ (by simp)
    · exact signs _ (by simp)
    · exact port byte last
  · simp only [mem_cons,mem_append] at mem
    rcases mem with inside | rfl | last
    · exact plain byte inside
    · exact signs _ (by simp)
    · exact port byte last

theorem splitAgentAllowTarget_joinHostPort (plain : Plain host) (some : host ≠ []) (opens : openBracket ∉ host)
    (digits : ∀ byte ∈ portText, 0x30 ≤ byte ∧ byte ≤ 0x39) (given : portText ≠ []) :
    splitAgentAllowTarget (joinHostPort host portText) = .ok (host,.some portText) := by
  have without {byte : UInt8} (other : ¬ (0x30 ≤ byte ∧ byte ≤ 0x39)) : byte ∉ portText :=
    fun mem => other (digits byte mem)
  have solid := trimSpace_of_plain (plain_joinHostPort plain digits)
  unfold splitAgentAllowTarget
  rw [solid]
  by_cases bracketed : colon ∈ host
  · have closes := cutLast_append (openBracket :: host)
      (show closeBracket ∉ colon :: portText by
        simp only [mem_cons,without (show ¬ (0x30 ≤ closeBracket ∧ closeBracket ≤ 0x39) by decide),or_false]
        decide)
    have long : 1 < (colon :: portText).length := by
      have positive := length_pos_iff.mpr given
      simp only [length_cons]
      omega
    rw [joinHostPort,if_pos bracketed,if_neg (by simp),if_pos (by rfl),closes]
    dsimp only
    rw [if_neg (by simp),if_pos ⟨rfl,long⟩]
    rfl
  · have once : (host ++ colon :: portText).count colon = 1 := by
      rw [count_append,count_cons_self,count_eq_zero.mpr bracketed,count_eq_zero.mpr (without (by decide))]
    have unbracketed : (host ++ colon :: portText).head? ≠ .some openBracket := by
      cases host with
      | nil => exact (some rfl).elim
      | cons =>
        intro head
        exact opens (Option.some.inj head ▸ mem_cons_self)
    rw [joinHostPort,if_neg bracketed,if_neg (by simp),if_neg unbracketed,if_pos once,cut_append _ bracketed]
    dsimp only
    rw [if_neg some,if_neg given]

theorem parsePortRange_itoa (positive : 1 ≤ port) (small : port ≤ 65535) :
    parseAgentDestinationPortRange (itoa port) = .ok { min := port, max := port } := by
  have single : cut dash (itoa port) = none := by
    apply if_neg
    intro mem
    exact absurd (mem_itoa mem) (by decide)
  unfold parseAgentDestinationPortRange
  rw [trimSpace_itoa,if_neg (itoa_ne_nil port),single]
  rw [parsePort_itoa positive small]
  rfl

theorem parseAgentAllowTarget_exact (plain : addr.is4In6 = false) (unzoned : addr.zone = []) (positive : 1 ≤ port)
    (small : port ≤ 65535) :
    parseAgentAllowTarget toLower (joinHostPort (formatAddr addr) (itoa port)) = .ok (exactRule addr port) := by
  obtain ⟨letters,opens,_,slashless⟩ := formatAddr_letters unzoned
  have reads := parseAddr_formatAddr plain unzoned
  have some : formatAddr addr ≠ [] := by
    intro empty
    rw [empty] at reads
    cases reads
  have spaceless : containsAny (text " \t\r\n") (formatAddr addr) = false := by
    have spaces : ∀ byte ∈ text " \t\r\n", ¬ (0x21 ≤ byte ∧ byte < 0x7f) := by decide +kernel
    rw [containsAny,any_eq_false]
    intro byte mem space
    exact spaces byte (of_decide_eq_true space) (letters byte mem)
  have lengthless : parsePrefix (formatAddr addr) = none := by
    have whole : cutLast slash (formatAddr addr) = none := by
      rw [cutLast,cut,if_neg (by simpa using slashless)]
      rfl
    rw [parsePrefix,whole]
    rfl
  unfold parseAgentAllowTarget
  rw [splitAgentAllowTarget_joinHostPort letters some opens (fun _ => mem_itoa) (itoa_ne_nil port)]
  change (parseAgentDestinationPortRange (itoa port)).bind _ = _
  rw [parsePortRange_itoa positive small]
  change parseAgentAllowTargetHost toLower (trimSpace (formatAddr addr)) _ = _
  rw [trimSpace_of_plain letters,parseAgentAllowTargetHost,if_neg some,spaceless,lengthless]
  rw [if_neg slashless,reads]
  rfl

theorem exactRule_allows {same : Addr} {samePort : Nat} : AllowedByPrefix [exactRule addr port] same samePort ↔
      normalizeAgentDestinationAddr same = normalizeAgentDestinationAddr addr ∧ samePort = port := by
  have full : prefixForAgentDestinationAddr addr =
      Prefix.from? (normalizeAgentDestinationAddr addr) (normalizeAgentDestinationAddr addr).bitLen := by
    unfold prefixForAgentDestinationAddr
    cases normalizeAgentDestinationAddr addr <;> rfl
  have contains : (Prefix.from? (normalizeAgentDestinationAddr addr) (normalizeAgentDestinationAddr addr).bitLen).any
      (·.contains (normalizeAgentDestinationAddr same)) ↔ _ := Prefix.contains_full (zone_normalize addr)
  rw [← full,Option.any_eq_true] at contains
  constructor
  · rintro ⟨_,mem,p,_,cidr,inside,ports⟩
    obtain rfl := mem_singleton.mp mem
    have ⟨low,high⟩ := Bool.and_eq_true_iff.mp ports
    exact ⟨contains.mp ⟨p,cidr,inside⟩,Nat.le_antisymm (of_decide_eq_true high) (of_decide_eq_true low)⟩
  · rintro ⟨equal,rfl⟩
    obtain ⟨p,cidr,inside⟩ := contains.mpr equal
    exact ⟨_,mem_singleton_self _,p,rfl,cidr,inside,by simp [exactRule,AgentDestinationPortRange.matches]⟩

theorem exactRule_dials (splits : splitHostPort (trimSpace address) = .ok (host,portText))
    (reads : parseAgentDestinationPort portText = .ok port) (literal : parseAddr (trimSpace host) = some addr) :
    ∃ raw policy, newAgentDestinationPolicy toLower [raw] false = .ok policy ∧
      policy.rules = [exactRule (normalizeAgentDestinationAddr addr) port] ∧
      policy.dialAddress toLower network address lookup = .ok address := by
  have range := parsePort_range reads
  have parsed : parseAgentAllowTarget toLower (joinHostPort (formatAddr (normalizeAgentDestinationAddr addr)) (itoa port)) = _ :=
    parseAgentAllowTarget_exact (is4In6_normalize addr) (zone_normalize addr) range.1 range.2
  obtain ⟨letters,_⟩ := formatAddr_letters (zone_normalize addr)
  have solid := trimSpace_of_plain (plain_joinHostPort letters (fun byte (mem : byte ∈ itoa port) => mem_itoa mem))
  have some : joinHostPort (formatAddr (normalizeAgentDestinationAddr addr)) (itoa port) ≠ [] := by
    unfold joinHostPort
    split <;> simp
  let policy : AgentDestinationPolicy :=
    { rules := [exactRule (normalizeAgentDestinationAddr addr) port], hasPrefixRules := true }
  refine ⟨joinHostPort (formatAddr (normalizeAgentDestinationAddr addr)) (itoa port),policy,newPolicy_iff.mpr ?_,rfl,?_⟩
  · have given : hasNonEmptyAgentDestinationRule
        [joinHostPort (formatAddr (normalizeAgentDestinationAddr addr)) (itoa port)] := by
      simp [hasNonEmptyAgentDestinationRule,solid,some]
    simp only [given,if_true,addAllowTargets,solid,some,if_false,parsed]
    rfl
  · have nonempty : trimSpace host ≠ [] := by
      intro empty
      rw [empty] at literal
      cases literal
    have allowed : policy.matchesAddr (normalizeAgentDestinationAddr addr) port :=
      matchesAddr_iff.mpr (exactRule_allows.mpr ⟨(normalize_normalize addr).symm,rfl⟩)
    unfold AgentDestinationPolicy.dialAddress
    rw [splits]
    dsimp only
    rw [reads]
    dsimp only
    rw [AgentDestinationPolicy.dialHost,if_neg nonempty,literal]
    exact if_pos allowed

/-- What is returned is permitted by a rule, and is loopback if there are no rules, just if an
IP literal is requested as it will be dialed. -/
theorem destinations_confined (toLower : Bytes → Bytes) (address : Bytes) :
    Verbatim address ↔ ∀ raw policy network lookup returned, newAgentDestinationPolicy toLower raw false = .ok policy →
      policy.dialAddress toLower network address lookup = .ok returned →
        Permitted toLower policy.rules returned ∧ (hasNonEmptyAgentDestinationRule raw = false → Loopback returned) := by
  constructor
  · intro verbatim raw policy _ _ returned built ok
    have permitted : Permitted toLower policy.rules returned := by
      obtain ⟨host,portText,port,splits,reads,⟨rfl,addr,literal,allowed⟩ | ⟨rfl,named⟩ | ⟨addr,literal,allowed⟩⟩ :=
        dialAddress_cases (newPolicy_bounded built) ok
      · obtain ⟨same,written,equal⟩ := verbatim host portText addr port splits reads literal
        exact .inl ⟨same,port,written,allowed.normal equal⟩
      · exact .inr named
      · exact .inl ⟨addr,port,literal,allowed⟩
    refine ⟨permitted,fun empty => ?_⟩
    have added := newPolicy_iff.mp built
    rw [empty,if_neg (by simp),defaultRules_loopback] at added
    cases added
    rcases permitted with ⟨addr,port,literal,allowed⟩ | ⟨_,_,_,_,_,rule,mem,given,_⟩
    · exact ⟨addr,port,literal,loopback_allowed allowed⟩
    · simp only [loopbackPolicy,mem_cons,not_mem_nil,or_false] at mem
      rcases mem with rfl | rfl
      · exact (given rfl).elim
      · exact (given rfl).elim
  · intro confined _ _ addr _ splits reads literal
    -- A rule for just this destination returns the request as it stands.
    obtain ⟨raw,policy,built,rules,ok⟩ := exactRule_dials splits reads literal
    obtain ⟨permitted,_⟩ := confined [raw] policy [] (fun _ => .failed) address built ok
    rw [rules] at permitted
    rcases permitted with ⟨same,_,written,allowed⟩ | ⟨_,_,_,_,_,_,mem,given,_⟩
    · obtain ⟨equal,rfl⟩ := exactRule_allows.mp allowed
      exact ⟨same,written,equal.trans (normalize_normalize addr)⟩
    · obtain rfl := mem_singleton.mp mem
      exact (given rfl).elim

/-- A request that is written as it is dialed is confined. -/
theorem destinations_confined_literal : ∀ raw policy network lookup returned,
    newAgentDestinationPolicy id raw false = .ok policy →
      policy.dialAddress id network (text "127.0.0.1:80") lookup = .ok returned →
        Permitted id policy.rules returned ∧ (hasNonEmptyAgentDestinationRule raw = false → Loopback returned) := by
  apply (destinations_confined id (text "127.0.0.1:80")).mp
  have whole : splitHostPort (text "127.0.0.1:80") = .ok (text "127.0.0.1",text "80") := by decide +kernel
  have solid : trimSpace (text "127.0.0.1:80") = text "127.0.0.1:80" ∧ trimSpace (text "127.0.0.1") = text "127.0.0.1" := by
    decide +kernel
  intro _ _ addr _ splits reads literal
  rw [solid.1] at splits
  obtain ⟨rfl,rfl⟩ := Prod.mk.inj (Except.ok.inj splits)
  exact ⟨addr,⟨_,_,whole,literal,reads⟩,rfl⟩

/-- A space in front of a loopback address: the check trims it, the dialer looks the name up. -/
theorem padded_literal_returned : ∃ policy, newAgentDestinationPolicy id [] false = .ok policy ∧
      policy.dialAddress id (text "tcp") (text " 127.0.0.1:80") (fun _ => .failed) = .ok (text " 127.0.0.1:80") ∧
      ¬ Permitted id policy.rules (text " 127.0.0.1:80") ∧ ¬ Loopback (text " 127.0.0.1:80") := by
  have whole : splitHostPort (text " 127.0.0.1:80") = .ok (text " 127.0.0.1",text "80") := by decide +kernel
  have unreadable : parseAddr (text " 127.0.0.1") = none := by decide +kernel
  have none (addr : Addr) (port : Nat) : ¬ Literal (text " 127.0.0.1:80") addr port := by
    rintro ⟨_,_,splits,literal,_⟩
    obtain ⟨rfl,rfl⟩ := Prod.mk.inj (Except.ok.inj splits)
    cases unreadable.symm.trans literal
  refine ⟨loopbackPolicy,newPolicy_iff.mpr defaultRules_loopback,by decide +kernel,?_,?_⟩
  · rintro (⟨addr,port,literal,_⟩ | ⟨_,_,_,_,_,_,mem,given,_⟩)
    · exact none addr port literal
    · simp only [loopbackPolicy,mem_cons,not_mem_nil,or_false] at mem
      rcases mem with rfl | rfl
      · exact given rfl
      · exact given rfl
  · rintro ⟨addr,port,literal,_⟩
    exact none addr port literal

end P2pstream.DestinationConfinement
