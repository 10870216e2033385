import P2pstream.Kernel.PublicCache

/-! Lifetimes of cached responses. The declared seconds are turned into nanoseconds in 64 bits,
so a lifetime of more than 292 years comes out as another one, which may be negative or short.
-/
namespace P2pstream.CacheLifetime
open Kernel.PublicCache Option
open Library.Encoding (Bytes text)
open Library.Headers (Header)

variable {x : Environment} {header : Header} {declared : Int}

/-- The seconds of the first directive with this name that has a number. -/
def firstSeconds (name : Bytes) (directives : List PublicCacheControlDirective) : Option Int :=
  (directives.filter (·.name = name)).findSome? seconds

/-- The lifetime a response declares: the first `s-maxage`, or else the first `max-age`. -/
def declaredSeconds (header : Header) : Option Int := let directives := publicCacheControlDirectives header
  (firstSeconds (text "s-maxage") directives).or (firstSeconds (text "max-age") directives)

theorem controlTTL_eq (maxAge : Option Int) (directives : List PublicCacheControlDirective) : controlTTL maxAge directives =
      ((firstSeconds (text "s-maxage") directives).map lifetime).or
        (maxAge.or ((firstSeconds (text "max-age") directives).map lifetime)) := by
  have apart : text "s-maxage" ≠ text "max-age" := by decide +kernel
  -- A name other than the two is passed over, as is a directive without a number.
  induction directives generalizing maxAge with
  | nil => simp [controlTTL,firstSeconds]
  | cons d rest ih =>
    unfold firstSeconds at ih ⊢
    rw [controlTTL]
    split
    · rename_i unread
      rw [ih]
      by_cases shared : d.name = text "s-maxage" <;> by_cases aged : d.name = text "max-age" <;>
        simp [shared,aged,apart,unread]
    · rename_i read
      split_ifs with shared aged
      · simp [shared,read]
      · rw [ih]
        cases maxAge <;> simp [aged,apart.symm,read]
      · rw [ih]
        simp [shared,aged]

theorem originTTL_of_declared (declares : declaredSeconds header = some declared) :
    publicCacheOriginTTL x header = some (lifetime declared) := by
  have control : controlTTL none (publicCacheControlDirectives header) = some (lifetime declared) := by
    rw [controlTTL_eq,none_or,← map_or]
    exact congrArg (Option.map lifetime) declares
  rw [publicCacheOriginTTL,control]

/-- The declared seconds are a duration in nanoseconds. -/
def Fits (declared : Int) : Prop := -2^63 ≤ declared * second ∧ declared * second < 2^63

/-- The lifetime is the declared one: positive where that is, greater where a greater one is declared,
and what a response is stored for. -/
structure Exact (x : Environment) (header : Header) (declared : Int) : Prop where
  length : publicCacheOriginTTL x header = some (declared * second)
  positive : 0 < declared * second ↔ 0 < declared
  ordered : ∀ other smaller, declaredSeconds other = some smaller → Fits smaller → smaller ≤ declared →
    ∃ less ≤ declared * second, publicCacheOriginTTL x other = some less
  stored : ∀ rule resp ttl vary, resp.header = header → rule.ttlMode = .origin →
    publicCacheResponseEligibility x rule resp = some (ttl,vary) → 0 < declared ∧ ttl = declared * second

theorem lifetime_fits : lifetime declared = declared * second ↔ Fits declared := by
  unfold lifetime int64 Fits
  omega

theorem exact_of_fits (declares : declaredSeconds header = some declared) (fits : Fits declared) :
    Exact x header declared := by
  have length : publicCacheOriginTTL x header = some (declared * second) :=
    (originTTL_of_declared declares).trans (congrArg some (lifetime_fits.mpr fits))
  have positive : 0 < declared * second ↔ 0 < declared := by
    unfold second
    omega
  refine ⟨length,positive,?_,?_⟩
  · intro other smaller less fewer below
    refine ⟨smaller * second,?_,(originTTL_of_declared less).trans (congrArg some (lifetime_fits.mpr fewer))⟩
    unfold second
    omega
  · rintro rule resp ttl vary rfl origin stored
    simp only [publicCacheResponseEligibility,if_pos origin,length,getD_some] at stored
    split_ifs at stored with _ _ _ spent <;> split at stored <;> cases stored
    exact ⟨positive.mp (not_le.mp spent),rfl⟩

/-- A response gets the lifetime that it declares exactly if that is a duration, and then the
lifetimes are exact. -/
theorem declared_lifetime_exact (declares : declaredSeconds header = some declared) :
    (publicCacheOriginTTL x header = some (declared * second) ↔ Fits declared) ∧
      (Fits declared → Exact x header declared) := by
  refine ⟨?_,exact_of_fits declares⟩
  rw [originTTL_of_declared declares,some.injEq,lifetime_fits]

def plain : Environment := ⟨fun names _ => some names,fun _ => none,0⟩

def control (line : String) : Header := Library.Headers.Header.add ∅ (text "Cache-Control") (text line)

theorem declared_lifetime_exact_hour :
    declaredSeconds (control "public, Max-Age = \"3600\", s-maxage=x") = some 3600 ∧ Fits 3600 ∧
      publicCacheOriginTTL plain (control "public, Max-Age = \"3600\", s-maxage=x") = some 3600000000000 := by
  have declares : declaredSeconds (control "public, Max-Age = \"3600\", s-maxage=x") = some 3600 := by decide +kernel
  have fits : Fits 3600 := by simp [Fits,second]
  exact ⟨declares,fits,((declared_lifetime_exact declares).2 fits).length⟩

/-- A lifetime of 292 years is not stored, and a negative one is kept for as long. -/
theorem overflowing_lifetimes : publicCacheOriginTTL plain (control "max-age=9223372037") = some (-9223372036709551616) ∧
      publicCacheOriginTTL plain (control "max-age=-2197108676271213") = some (2^63 - 512) := by
  decide +kernel

end P2pstream.CacheLifetime
