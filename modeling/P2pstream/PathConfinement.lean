import P2pstream.Kernel.PathSecurity

/-! Path confinement: the eight decoding layers inspected by the public pipeline
speak for every decoding depth, because a path without escapes decodes to itself.
-/
namespace P2pstream.PathConfinement
open Library.Paths Kernel.PathSecurity List Function UInt8

def decode (path : Bytes) : Bytes := (decodePublicPathLayer path).1

/-- The path after `depth` decoding passes. -/
def layer (depth : Nat) (path : Bytes) : Bytes := decode^[depth] path

theorem layer_succ (depth : Nat) (path : Bytes) : layer (depth + 1) path = decode (layer depth path) :=
  iterate_succ_apply' decode depth path

theorem decode_unchanged (path : Bytes) (unchanged : (decodePublicPathLayer path).2 = false) : decode path = path := by
  unfold decode
  fun_induction decodePublicPathLayer path with
  | case1 => simp at unchanged
  | case2 c hi lo rest other decoded changed inner ih =>
    rw [inner] at ih
    exact congrArg (c :: ·) (ih unchanged)
  | case3 => rfl

theorem decode_escapeFree (path : Bytes) (free : hasPublicPathEscape path = false) : decode path = path := by
  apply decode_unchanged
  fun_induction decodePublicPathLayer path with
  | case1 c hi lo rest byte found => simp [hasPublicPathEscape,found] at free
  | case2 c hi lo rest other decoded changed inner ih =>
    rw [inner] at ih
    simp only [hasPublicPathEscape,Bool.or_eq_false_iff] at free
    exact ih free.2
  | case3 => rfl

variable {path : Bytes} {byte : UInt8}

theorem layer_fixed (fixed : decode path = path) (depth : Nat) : layer depth path = path := iterate_fixed fixed depth

def Carries (path : Bytes) (byte : UInt8) : Prop :=
  byte ∈ path ∨ ∃ hi lo, [percent,hi,lo] <:+: path ∧ publicPathTriplet percent hi lo = some byte

theorem Carries.suffix {rest : Bytes} (carries : Carries rest byte) (tail : rest <:+ path) : Carries path byte := by
  rcases carries with plain | ⟨hi,lo,inside,escaped⟩
  · exact .inl (tail.subset plain)
  · exact .inr ⟨hi,lo,inside.trans tail.isInfix,escaped⟩

theorem triplet_percent {c hi lo : UInt8} (escaped : publicPathTriplet c hi lo = some byte) : c = percent := by
  by_contra other
  simp [publicPathTriplet,other] at escaped

theorem carries_of_mem_decode (present : byte ∈ decode path) : Carries path byte := by
  unfold decode at present
  fun_induction decodePublicPathLayer path with
  | case1 c hi lo rest value found ih =>
    obtain rfl := triplet_percent found
    rcases mem_cons.mp present with rfl | later
    · exact .inr ⟨hi,lo,⟨[],rest,rfl⟩,found⟩
    · exact (ih later).suffix ⟨[percent,hi,lo],rfl⟩
  | case2 c hi lo rest other decoded changed inner ih =>
    rw [inner] at ih
    rcases mem_cons.mp present with rfl | later
    · exact .inl mem_cons_self
    · exact (ih later).suffix (suffix_cons _ _)
  | case3 => exact .inl present

def hexDigits : List UInt8 :=
  [0x30,0x31,0x32,0x33,0x34,0x35,0x36,0x37,0x38,0x39,0x61,0x62,0x63,0x64,0x65,0x66,0x41,0x42,0x43,0x44,0x45,0x46]

theorem hexDigit_listed (c value : UInt8) (digit : publicPathHexDigit c = some value) : c ∈ hexDigits := by
  have all : ∀ index : Fin 256, (publicPathHexDigit (ofFin index)).isSome → ofFin index ∈ hexDigits := by
    decide +kernel
  exact all c.toFin (by rw [ofFin_toFin,digit]; rfl)

theorem backslash_triplet {hi lo : UInt8} (escaped : publicPathTriplet percent hi lo = some backslash) :
    [percent,hi,lo].map toLower = [percent,0x35,0x63] := by
  have all : ∀ high ∈ hexDigits, ∀ low ∈ hexDigits, publicPathTriplet percent high low = some backslash →
      [percent,high,low].map toLower = [percent,0x35,0x63] := by
    decide +kernel
  cases high : publicPathHexDigit hi with
  | none => simp [publicPathTriplet,high] at escaped
  | some =>
    cases low : publicPathHexDigit lo with
    | none => simp [publicPathTriplet,high,low] at escaped
    | some => exact all hi (hexDigit_listed _ _ high) lo (hexDigit_listed _ _ low) escaped

theorem backslash_encoded (carries : Carries path backslash) (plain : backslash ∉ path) :
    containsEncodedPublicPathBackslash path := by
  obtain ⟨_,_,inside,escaped⟩ := carries.resolve_left plain
  unfold containsEncodedPublicPathBackslash
  rw [← backslash_triplet escaped]
  exact decide_eq_true (inside.map toLower)

theorem escape_separators (path : Bytes) : backslash ∉ escape path := by
  have all : ∀ index : Fin 256, backslash ∉
      (if shouldEscape (ofFin index) then
        [percent,upperHex (ofFin index >>> 4),upperHex (ofFin index &&& 15)]
      else [ofFin index]) := by
    decide +kernel
  intro present
  obtain ⟨c,_,inside⟩ := mem_flatMap.mp present
  exact all c.toFin (by rw [ofFin_toFin]; exact inside)

theorem escape_backslash (present : backslash ∈ path) : containsEncodedPublicPathBackslash (escape path) := by
  obtain ⟨before,after,rfl⟩ := append_of_mem present
  have inside : [percent,0x35,0x43] <:+: escape (before ++ backslash :: after) := by
    refine ⟨escape before,escape after,?_⟩
    simp only [escape,flatMap_append,flatMap_cons,append_assoc]
    congr 1
  exact backslash_encoded (.inr ⟨_,_,inside,by decide⟩) (escape_separators _)

theorem carries_of_mem_unescape {raw : Bytes} (decoded : unescape raw = some path) (present : byte ∈ path) :
    Carries raw byte := by
  fun_induction unescape raw generalizing path with
  | case1 => simp_all
  | case2 hi lo more value found ih =>
    obtain ⟨tail,inner,rfl⟩ := Option.map_eq_some_iff.mp decoded
    rcases mem_cons.mp present with rfl | later
    · exact .inr ⟨hi,lo,⟨[],more,rfl⟩,found⟩
    · exact (ih inner later).suffix ⟨[percent,hi,lo],rfl⟩
  | case3 | case4 => simp at decoded
  | case5 c rest other ih =>
    obtain ⟨_,inner,rfl⟩ := Option.map_eq_some_iff.mp decoded
    rcases mem_cons.mp present with rfl | later
    · exact .inl mem_cons_self
    · exact (ih inner later).suffix (suffix_cons _ _)

theorem escapedPath_backslash {u : URL} (raw : backslash ∉ u.rawPath) (present : backslash ∈ u.path) :
    containsEncodedPublicPathBackslash u.escapedPath := by
  unfold URL.escapedPath
  split_ifs with kept wildcard
  · exact backslash_encoded (carries_of_mem_unescape kept.2.2 present) raw
  · rw [wildcard] at present
    exact absurd present (by decide)
  · exact escape_backslash present

theorem escapedPath_separators {u : URL} (raw : backslash ∉ u.rawPath) : backslash ∉ u.escapedPath := by
  unfold URL.escapedPath
  split_ifs
  · exact raw
  · decide
  · exact escape_separators u.path

structure Grows (before after : PublicPathIssueSet) : Prop where
  decodedDotSegment : before.decodedDotSegment → after.decodedDotSegment
  rawBackslash : before.rawBackslash → after.rawBackslash
  nul : before.nul → after.nul
  encodedSlash : before.encodedSlash → after.encodedSlash
  encodedBackslash : before.encodedBackslash → after.encodedBackslash
  duplicateSlash : before.duplicateSlash → after.duplicateSlash
  pathParameter : before.pathParameter → after.pathParameter
  decodeLimit : before.decodeLimit → after.decodeLimit
  nestedEncoding : before.nestedEncoding → after.nestedEncoding

theorem Grows.refl (issues : PublicPathIssueSet) : Grows issues issues := by
  constructor <;> exact id

theorem Grows.trans {first second third : PublicPathIssueSet} (early : Grows first second)
    (late : Grows second third) : Grows first third :=
  ⟨late.1 ∘ early.1,late.2 ∘ early.2,late.3 ∘ early.3,late.4 ∘ early.4,late.5 ∘ early.5,late.6 ∘ early.6,
    late.7 ∘ early.7,late.8 ∘ early.8,late.9 ∘ early.9⟩

structure Reported (issues : PublicPathIssueSet) (path : Bytes) : Prop where
  traversal : Traverses path → issues.decodedDotSegment
  nul : nul ∈ path → issues.nul
  duplicateSlash : [slash,slash] <:+: backslashToSlash path → issues.duplicateSlash
  pathParameter : semicolon ∈ path → issues.pathParameter
  encodedSlash : containsEncodedPublicPathSlash path → issues.encodedSlash
  encodedBackslash : containsEncodedPublicPathBackslash path → issues.encodedBackslash

theorem Reported.mono {before after : PublicPathIssueSet} (reported : Reported before path) (grows : Grows before after) :
    Reported after path where
  traversal := grows.decodedDotSegment ∘ reported.traversal
  nul := grows.nul ∘ reported.nul
  duplicateSlash := grows.duplicateSlash ∘ reported.duplicateSlash
  pathParameter := grows.pathParameter ∘ reported.pathParameter
  encodedSlash := grows.encodedSlash ∘ reported.encodedSlash
  encodedBackslash := grows.encodedBackslash ∘ reported.encodedBackslash

/-- Stripping the parameters of a segment leaves a word without `;` exactly when
the segment is that word, or that word and a parameter. -/
theorem withoutParameters_eq {segment word : Bytes} (stripped : withoutParameters segment = word) :
    segment = word ∨ word ++ [semicolon] <+: segment := by
  have cut := takeWhile_append_dropWhile (p := (· ≠ semicolon)) (l := segment)
  rw [← stripped]
  cases rest : segment.dropWhile (· ≠ semicolon) with
  | nil =>
    left
    rw [rest,append_nil] at cut
    exact cut.symm
  | cons first more =>
    right
    have stop : first = semicolon := by
      have kept := head?_dropWhile_not (· ≠ semicolon) segment
      rw [rest] at kept
      simpa using kept
    rw [rest,stop] at cut
    exact ⟨more,by rw [append_assoc]; exact cut⟩

theorem traversal_detected (traverses : Traverses path) : containsPublicPathDotSegment (backslashToSlash path) ∨
      (semicolon ∈ backslashToSlash path ∧ hidesPublicPathDotSegment (backslashToSlash path)) := by
  obtain ⟨segment,cut,word⟩ := traverses
  unfold containsPublicPathDotSegment hidesPublicPathDotSegment
  simp only [any_eq_true,Bool.or_eq_true,decide_eq_true_eq]
  have parameter : ∀ name : Bytes, name ++ [semicolon] <+: segment → semicolon ∈ backslashToSlash path := by
    intro _ hidden
    exact mem_of_mem_segment cut (hidden.subset (by simp))
  rcases word with stays | climbs
  · rcases withoutParameters_eq stays with equal | hidden
    · exact .inl ⟨segment,cut,.inl equal⟩
    · exact .inr ⟨parameter _ hidden,segment,cut,.inl hidden⟩
  · rcases withoutParameters_eq climbs with equal | hidden
    · exact .inl ⟨segment,cut,.inr equal⟩
    · exact .inr ⟨parameter _ hidden,segment,cut,.inr hidden⟩

theorem inspectPublicPathLayer_reports (path : Bytes) (issues : PublicPathIssueSet) :
    Reported (inspectPublicPathLayer path issues) path := by
  constructor
  case traversal =>
    intro traverses
    simp only [inspectPublicPathLayer]
    rcases traversal_detected traverses with plain | ⟨parameter,hidden⟩
    · simp [plain]
    · split_ifs with searched
      · exact hidden
      · rw [← Bool.not_eq_false]
        intro missed
        exact searched (by rw [missed]; simpa using parameter)
  all_goals
    intro present
    simp [inspectPublicPathLayer,present]

theorem inspectPublicPathLayer_grows (path : Bytes) (issues : PublicPathIssueSet) :
    Grows issues (inspectPublicPathLayer path issues) := by
  constructor
  all_goals
    intro recorded
    simp [inspectPublicPathLayer,recorded]

theorem inspectPublicPathLayersFrom_grows (remaining : Nat) (path : Bytes) (issues : PublicPathIssueSet) :
    Grows issues (inspectPublicPathLayersFrom remaining path issues) := by
  induction remaining generalizing path issues with
  | zero =>
    apply (inspectPublicPathLayer_grows path issues).trans
    constructor <;> simp_all [inspectPublicPathLayersFrom]
  | succ _ ih =>
    apply (inspectPublicPathLayer_grows path issues).trans
    unfold inspectPublicPathLayersFrom
    split
    · exact Grows.refl _
    · exact ih _ _

theorem inspectPublicPathLayersFrom_reports (remaining : Nat) (path : Bytes) (issues : PublicPathIssueSet)
    (resolved : (inspectPublicPathLayersFrom remaining path issues).decodeLimit = false) (depth : Nat) :
    Reported (inspectPublicPathLayersFrom remaining path issues) (layer depth path) := by
  induction remaining generalizing path issues depth with
  | zero =>
    simp only [inspectPublicPathLayersFrom,Bool.or_eq_false_iff] at resolved
    rw [layer_fixed (decode_escapeFree path resolved.2)]
    apply (inspectPublicPathLayer_reports path issues).mono
    constructor <;> simp_all [inspectPublicPathLayersFrom]
  | succ _ ih =>
    unfold inspectPublicPathLayersFrom at resolved ⊢
    have here := inspectPublicPathLayer_reports path issues
    split at resolved
    next stopped =>
      rw [layer_fixed (decode_unchanged path (by rw [stopped]))]
      simpa only [stopped] using here
    next following changed =>
      cases depth with
      | zero => exact here.mono (inspectPublicPathLayersFrom_grows _ _ _)
      | succ depth =>
        have decoded : decode path = following := by rw [decode,changed]
        have deeper := ih _ _ resolved depth
        rwa [← decoded] at deeper ⊢

theorem inspectPublicPathViews_grows (previous views : List Bytes) (issues : PublicPathIssueSet) :
    Grows issues (inspectPublicPathViews previous views issues) := by
  induction views generalizing previous issues with
  | nil => exact Grows.refl issues
  | cons _ _ ih =>
    unfold inspectPublicPathViews
    split_ifs
    · exact ih _ _
    · exact (inspectPublicPathLayersFrom_grows _ _ _).trans (ih _ _)

theorem inspectPublicPathViews_reports (previous views : List Bytes) (issues : PublicPathIssueSet)
    (resolved : (inspectPublicPathViews previous views issues).decodeLimit = false)
    (met : ∀ path ∈ previous, ∀ depth, Reported issues (layer depth path)) :
    ∀ path ∈ views, ∀ depth, Reported (inspectPublicPathViews previous views issues) (layer depth path) := by
  induction views generalizing previous issues with
  | nil => simp
  | cons path rest ih =>
    unfold inspectPublicPathViews at resolved ⊢
    generalize inspected : (if path = [] ∨ path ∈ previous then issues else inspectPublicPathLayers path issues) =
      left at resolved ⊢
    have later := inspectPublicPathViews_grows (previous ++ [path]) rest left
    have grows : Grows issues left := by
      rw [← inspected]
      split_ifs
      · exact Grows.refl issues
      · exact inspectPublicPathLayersFrom_grows _ _ _
    have here : ∀ depth, Reported left (layer depth path) := by
      intro depth
      rw [← inspected]
      split_ifs with skipped
      · rcases skipped with rfl | repeated
        · have empty : layer depth [] = [] := layer_fixed rfl depth
          rw [empty]
          constructor <;> exact fun inside => absurd inside (by decide)
        · exact met path repeated depth
      · apply inspectPublicPathLayersFrom_reports
        rw [← Bool.not_eq_true]
        intro limited
        rw [if_neg skipped] at inspected
        rw [← inspected] at later
        exact Bool.false_ne_true (resolved.symm.trans (inspected ▸ later.decodeLimit limited))
    intro view listed depth
    rcases mem_cons.mp listed with rfl | after
    · exact (here depth).mono later
    · refine ih (previous ++ [path]) left resolved ?_ view after depth
      intro earlier known
      rcases mem_append.mp known with old | new
      · exact fun depth => (met earlier old depth).mono grows
      · rw [mem_singleton.mp new]
        exact here

theorem unrecorded {flag : Bool} {fault : Prop} (clear : flag = false) (recorded : fault → flag) :
    ¬ fault := fun present => Bool.false_ne_true (clear.symm.trans (recorded present))

theorem undetected {flag detected : Bool} (clear : flag = false) (recorded : detected → flag) :
    detected = false := Bool.not_eq_true _ ▸ unrecorded clear recorded

section Pipeline

variable {ctx : PublicProxyContext} {r : Request} {u : URL}

/-- The recorded issues of a request with a URL: nothing is withdrawn from what is
known before the views are inspected, and the views are all inspected. -/
theorem classify_reports (request : ctx.request = some r) (url : r.url = some u) :
    let issues := (rejectGloballyInvalidPublicPathStage ctx).1.pathIssues
    (backslash ∈ u.rawPath ∨ backslash ∈ requestTargetPathForPublicValidation r → issues.rawBackslash) ∧
    (hasPublicPathEscape u.path → issues.nestedEncoding) ∧
    (issues.decodeLimit = false → ∀ view ∈ publicPathViews r u, ∀ depth, Reported issues (layer depth view)) := by
  have classified : (rejectGloballyInvalidPublicPathStage ctx).1.pathIssues = classifyPublicRequestPath (some r) := by
    rw [← request]
    unfold rejectGloballyInvalidPublicPathStage
    dsimp only
    split_ifs <;> rfl
  simp only [classified,classifyPublicRequestPath,url]
  have grows := inspectPublicPathViews_grows [] (publicPathViews r u)
    { rawBackslash := containsRawPublicPathBackslash (requestTargetPathForPublicValidation r) ||
        containsRawPublicPathBackslash u.rawPath
      nestedEncoding := hasPublicPathEscape u.path }
  refine ⟨fun present => grows.rawBackslash ?_,grows.nestedEncoding,fun resolved => ?_⟩
  · rcases present with raw | target
    · simp [containsRawPublicPathBackslash,raw]
    · simp [containsRawPublicPathBackslash,target]
  · exact inspectPublicPathViews_reports [] _ _ resolved (by simp)

theorem accepted_issues (accepted : (rejectGloballyInvalidPublicPathStage ctx).2 = .proceed) :
    let issues := (rejectGloballyInvalidPublicPathStage ctx).1.pathIssues
    issues.decodedDotSegment = false ∧ issues.rawBackslash = false ∧ issues.nul = false ∧
      issues.decodeLimit = false ∧ issues.nestedEncoding = false := by
  unfold rejectGloballyInvalidPublicPathStage at accepted ⊢
  dsimp only at accepted ⊢
  split_ifs at accepted ⊢ with clean
  simpa [and_assoc] using clean

theorem views_confined (request : ctx.request = some r) (url : r.url = some u)
    (accepted : (rejectGloballyInvalidPublicPathStage ctx).2 = .proceed) :
    ∀ view ∈ publicPathViews r u, ∀ depth, Confined (layer depth view) := by
  intro view listed depth
  obtain ⟨dots,_,nuls,resolved,_⟩ := accepted_issues accepted
  have reported := (classify_reports request url).2.2 resolved view listed depth
  exact ⟨unrecorded dots reported.traversal,unrecorded nuls reported.nul⟩

structure Strict (path : Bytes) : Prop where
  canonical : Canonical path
  normal : Normal path
  encodedSlash : containsEncodedPublicPathSlash path = false
  encodedBackslash : containsEncodedPublicPathBackslash path = false

theorem layers_separators {path : Bytes} (plain : backslash ∉ path)
    (encoded : ∀ depth, containsEncodedPublicPathBackslash (layer depth path) = false) (depth : Nat) :
    backslash ∉ layer depth path := by
  induction depth with
  | zero => exact plain
  | succ depth ih =>
    rw [layer_succ]
    exact unrecorded (encoded depth) fun present => backslash_encoded (carries_of_mem_decode present) ih

theorem views_strict (request : ctx.request = some r) (url : r.url = some u)
    (accepted : (rejectGloballyInvalidPublicPathStage ctx).2 = .proceed)
    (clean : let issues := (rejectGloballyInvalidPublicPathStage ctx).1.pathIssues
      issues.encodedSlash = false ∧ issues.encodedBackslash = false ∧ issues.duplicateSlash = false ∧
        issues.pathParameter = false) :
    ∀ view ∈ publicPathViews r u, ∀ depth, Strict (layer depth view) := by
  obtain ⟨_,raws,_,resolved,_⟩ := accepted_issues accepted
  obtain ⟨slashes,backslashes,duplicates,parameters⟩ := clean
  obtain ⟨seen,_,inspected⟩ := classify_reports request url
  have reported := inspected resolved
  obtain ⟨raw,target⟩ := not_or.mp (unrecorded raws seen)
  have encoded : ∀ view ∈ publicPathViews r u, ∀ depth, containsEncodedPublicPathBackslash (layer depth view) = false := by
    intro view listed depth
    exact undetected backslashes (reported view listed depth).encodedBackslash
  have plain : ∀ view ∈ publicPathViews r u, backslash ∉ view := by
    intro _ listed
    simp only [publicPathViews,mem_cons,not_mem_nil,or_false] at listed
    rcases listed with rfl | rfl | rfl | rfl
    · exact target
    · exact escapedPath_separators raw
    · exact raw
    · exact unrecorded (encoded u.escapedPath (by simp [publicPathViews]) 0) (escapedPath_backslash raw)
  intro view listed depth
  have here := reported view listed depth
  have separators := layers_separators (plain view listed) (encoded view listed) depth
  have canonical : Canonical (layer depth view) := {
    views_confined request url accepted view listed depth with
    separators
    segments := by
      rw [← backslashToSlash_fixed separators]
      exact unrecorded duplicates here.duplicateSlash
    parameters := unrecorded parameters here.pathParameter }
  exact {
    canonical
    normal := canonical.normal
    encodedSlash := undetected slashes here.encodedSlash
    encodedBackslash := encoded view listed depth }

end Pipeline

/-- One round of everything an origin may do to the path it is given. -/
def originRound (path : Bytes) : Bytes := stripParameters (removeDotSegments (collapseSlashes (backslashToSlash (decode path))))

/-- Path confinement for every decoding depth. The views of an accepted request are
confined however often they are decoded; on a strict route they are canonical, and
the path of the URL is left as it is by any number of origin rounds. -/
theorem public_path_confined (ctx : PublicProxyContext) (r : Request) (u : URL) (request : ctx.request = some r)
    (url : r.url = some u) (accepted : (rejectGloballyInvalidPublicPathStage ctx).2 = .proceed) :
    (∀ view ∈ publicPathViews r u, ∀ depth, Confined (layer depth view)) ∧
    ∀ (later : PublicProxyContext) (matchPublicRoute : Option Request → Except RouteError PublicRoute)
      (route : PublicRoute),
      later.pathIssues = (rejectGloballyInvalidPublicPathStage ctx).1.pathIssues →
      later.app = some matchPublicRoute → matchPublicRoute later.request = .ok route →
      publicRouteAllowsEncodedPathSeparators route = false →
      (routePathSecurityStage later).2 = .proceed →
      (∀ view ∈ publicPathViews r u, ∀ depth, Strict (layer depth view)) ∧
        (∀ depth, layer depth u.path = u.path) ∧ ∀ rounds, originRound^[rounds] u.path = u.path := by
  refine ⟨views_confined request url accepted,?_⟩
  intro later _ _ kept app matched strict passed
  have clean : later.pathIssues.encodedSlash = false ∧ later.pathIssues.encodedBackslash = false ∧
      later.pathIssues.duplicateSlash = false ∧ later.pathIssues.pathParameter = false := by
    simp only [routePathSecurityStage,app,matched,strict,Bool.false_eq_true,reduceIte] at passed
    split_ifs at passed with clean
    simpa [PublicPathIssueSet.hasEncodedSeparator,and_assoc] using clean
  rw [kept] at clean
  have views := views_strict request url accepted clean
  obtain ⟨_,_,_,_,nested⟩ := accepted_issues accepted
  have decoded : decode u.path = u.path := by
    apply decode_escapeFree
    exact undetected nested (classify_reports request url).2.1
  have path : Strict u.path := views u.path (by simp [publicPathViews]) 0
  have fixed : originRound u.path = u.path := by
    unfold originRound
    rw [decoded,path.normal.separators,path.normal.slashes,path.normal.dots,path.normal.parameters]
  exact ⟨views,layer_fixed decoded,iterate_fixed fixed⟩

def downloadURL : URL where
  scheme := []
  opaquePart := []
  path := "/f/100%.txt".toUTF8.toList
  rawPath := []
  forceQuery := false
  rawQuery := []

def download : Request where
  requestURI := "/f/100%25.txt?v=1".toUTF8.toList
  url := some downloadURL

def downloadContext : PublicProxyContext where
  request := some download
  app := some fun _ => .ok ⟨" Strict"⟩
  pathIssues := {}
  routeMatch := none
  encodedPathSeparatorsAllowed := false

theorem public_path_confined_download : (rejectGloballyInvalidPublicPathStage downloadContext).2 = .proceed ∧
    (routePathSecurityStage (rejectGloballyInvalidPublicPathStage downloadContext).1).2 = .proceed ∧
    ∀ rounds, originRound^[rounds] downloadURL.path = downloadURL.path := by
  have accepted : (rejectGloballyInvalidPublicPathStage downloadContext).2 = .proceed := by decide +kernel
  have passed : (routePathSecurityStage (rejectGloballyInvalidPublicPathStage downloadContext).1).2 = .proceed := by
    decide +kernel
  have app : (rejectGloballyInvalidPublicPathStage downloadContext).1.app = some fun _ => .ok ⟨" Strict"⟩ := by
    unfold rejectGloballyInvalidPublicPathStage
    dsimp only
    split_ifs <;> rfl
  have strict : publicRouteAllowsEncodedPathSeparators ⟨" Strict"⟩ = false := by decide +kernel
  have confined := (public_path_confined downloadContext download downloadURL rfl rfl accepted).2
  exact ⟨accepted,passed,(confined _ _ _ rfl app rfl strict passed).2.2⟩

end P2pstream.PathConfinement
