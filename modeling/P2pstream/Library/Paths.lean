import Mathlib.Data.List.Infix
import Mathlib.Data.List.TakeWhile
import Mathlib.Dynamics.FixedPoints.Basic
import P2pstream.Library.Encoding

/-! Slash-separated paths as byte strings, and the rewritings an origin may apply
to a path before it opens a file: reading a backslash as a slash, collapsing runs
of slashes, resolving dot segments and dropping `;` parameters. A canonical path
is fixed by each of them.
-/
namespace P2pstream.Library.Paths
open List

abbrev Bytes := List UInt8

def slash : UInt8 := 0x2f
def backslash : UInt8 := 0x5c
def dot : UInt8 := 0x2e
def semicolon : UInt8 := 0x3b
def nul : UInt8 := 0x00

def segments (path : Bytes) : List Bytes := path.splitOn slash

def join (parts : List Bytes) : Bytes := [slash].intercalate parts

def backslashToSlash (path : Bytes) : Bytes := path.map fun byte => if byte = backslash then slash else byte

def collapseSlashes : Bytes → Bytes
  | [] => []
  | byte :: rest =>
    if byte = slash ∧ rest.head? = some slash then collapseSlashes rest else byte :: collapseSlashes rest

def resolve (kept : List Bytes) (segment : Bytes) : List Bytes := if segment = [dot] then kept
  else if segment = [dot,dot] then kept.dropLast
  else kept ++ [segment]

def removeDotSegments (path : Bytes) : Bytes := join ((segments path).foldl resolve [])

def withoutParameters (segment : Bytes) : Bytes := segment.takeWhile (· ≠ semicolon)

def stripParameters (path : Bytes) : Bytes := join ((segments path).map withoutParameters)

/-- Some segment, up to its parameters, climbs or stays: `.` or `..` between
separators of either kind. -/
def Traverses (path : Bytes) : Prop := ∃ segment ∈ segments (backslashToSlash path),
    withoutParameters segment = [dot] ∨ withoutParameters segment = [dot,dot]

instance (path : Bytes) : Decidable (Traverses path) :=
  inferInstanceAs (Decidable (∃ segment ∈ segments (backslashToSlash path),
    withoutParameters segment = [dot] ∨ withoutParameters segment = [dot,dot]))

structure Confined (path : Bytes) : Prop where
  stays : ¬ Traverses path
  terminated : nul ∉ path

structure Canonical (path : Bytes) : Prop extends Confined path where
  separators : backslash ∉ path
  segments : ¬ [slash,slash] <:+: path
  parameters : semicolon ∉ path

theorem join_segments (path : Bytes) : join (segments path) = path := intercalate_splitOn slash

variable {path : Bytes}

theorem backslashToSlash_fixed (free : backslash ∉ path) : Function.IsFixedPt backslashToSlash path := by
  have same : ∀ byte ∈ path, (if byte = backslash then slash else byte) = byte := by
    intro _ present
    exact if_neg (ne_of_mem_of_not_mem present free)
  exact (map_congr_left same).trans (map_id' path)

theorem collapseSlashes_fixed (free : ¬ [slash,slash] <:+: path) : Function.IsFixedPt collapseSlashes path := by
  induction path with
  | nil => rfl
  | cons byte rest ih =>
    have inner : collapseSlashes rest = rest := ih fun inside => free (inside.trans (suffix_cons _ _).isInfix)
    have apart : ¬ (byte = slash ∧ rest.head? = some slash) := by
      rintro ⟨rfl,following⟩
      obtain ⟨tail,rfl⟩ := head?_eq_some_iff.mp following
      exact free ⟨[],tail,rfl⟩
    unfold Function.IsFixedPt collapseSlashes
    rw [if_neg apart,inner]

private theorem resolve_plain (parts kept : List Bytes) (plain : ∀ segment ∈ parts, segment ≠ [dot] ∧ segment ≠ [dot,dot]) :
    parts.foldl resolve kept = kept ++ parts := by
  induction parts generalizing kept with
  | nil => simp
  | cons segment _ ih =>
    obtain ⟨stays,climbs⟩ := plain segment mem_cons_self
    rw [foldl_cons,resolve,if_neg stays,if_neg climbs,ih _ fun other present => plain other (mem_cons_of_mem _ present)]
    simp

theorem mem_of_mem_segment {segment : Bytes} {byte : UInt8} (cut : segment ∈ segments path) (present : byte ∈ segment) :
    byte ∈ path := by
  rw [← join_segments path]
  generalize segments path = parts at cut
  unfold join
  induction parts with
  | nil => simp at cut
  | cons _ rest ih =>
    rcases mem_cons.mp cut with rfl | later
    · cases rest <;> simp [intercalate,present]
    · cases rest with
      | nil => simp at later
      | cons =>
        have inner := ih later
        simp only [intercalate,intersperse_cons_cons,flatten_cons,mem_append] at inner ⊢
        exact .inr (.inr inner)

theorem withoutParameters_free {segment : Bytes} (free : semicolon ∉ segment) : withoutParameters segment = segment := by
  apply takeWhile_eq_self_iff.mpr
  intro _ present
  exact decide_eq_true (ne_of_mem_of_not_mem present free)

theorem stripParameters_fixed (free : semicolon ∉ path) : Function.IsFixedPt stripParameters path := by
  have unchanged : (segments path).map withoutParameters = segments path := by
    have bare : ∀ segment ∈ segments path, withoutParameters segment = segment := by
      intro _ cut
      exact withoutParameters_free fun present => free (mem_of_mem_segment cut present)
    exact (map_congr_left bare).trans (map_id' _)
  unfold Function.IsFixedPt stripParameters
  rw [unchanged,join_segments]

theorem removeDotSegments_fixed (canonical : Canonical path) : Function.IsFixedPt removeDotSegments path := by
  have plain : ∀ segment ∈ segments path, segment ≠ [dot] ∧ segment ≠ [dot,dot] := by
    intro segment cut
    have bare : withoutParameters segment = segment :=
      withoutParameters_free fun present => canonical.parameters (mem_of_mem_segment cut present)
    have stays := canonical.stays
    rw [Traverses,backslashToSlash_fixed canonical.separators] at stays
    constructor
    · intro equal
      exact stays ⟨segment,cut,.inl (bare.trans equal)⟩
    · intro equal
      exact stays ⟨segment,cut,.inr (bare.trans equal)⟩
  unfold Function.IsFixedPt removeDotSegments
  rw [resolve_plain _ _ plain,nil_append,join_segments]

structure Normal (path : Bytes) : Prop where
  separators : Function.IsFixedPt backslashToSlash path
  slashes : Function.IsFixedPt collapseSlashes path
  dots : Function.IsFixedPt removeDotSegments path
  parameters : Function.IsFixedPt stripParameters path

theorem Canonical.normal (canonical : Canonical path) : Normal path where
  separators := backslashToSlash_fixed canonical.separators
  slashes := collapseSlashes_fixed canonical.segments
  dots := removeDotSegments_fixed canonical
  parameters := stripParameters_fixed canonical.parameters

end P2pstream.Library.Paths
