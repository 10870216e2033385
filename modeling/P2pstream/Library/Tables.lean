import Mathlib.Data.List.AList
import Mathlib.Algebra.BigOperators.Ring.Finset
import Mathlib.Algebra.Order.BigOperators.Group.List

/-! Finite maps with distinct keys, and tables that tally how often each key
occurs in a list. A tally keeps no zero entries, so its length is the number of
distinct keys and the sum of its values is the length of the list.
-/
namespace P2pstream.Library
open Option List AList

variable {κ α : Type}

abbrev Table (κ α : Type) := AList (fun _ : κ => α)

namespace Table

def values (t : Table κ α) : List α := t.entries.map Sigma.snd

theorem mem_values (t : Table κ α) (a : α) : a ∈ values t ↔ ∃ k, ⟨k,a⟩ ∈ t.entries := by
  simp [values]

theorem length_values (t : Table κ α) : (values t).length = t.entries.length := by
  simp [values]

def mapValues (f : α → α) (t : Table κ α) : Table κ α where
  entries := t.entries.map fun entry => ⟨entry.1,f entry.2⟩
  nodupKeys := by
    have same : (t.entries.map fun entry => (⟨entry.1,f entry.2⟩ : Sigma fun _ : κ => α)).keys = t.entries.keys := by
      simp [List.keys,Function.comp_def]
    unfold List.NodupKeys
    rw [same]
    exact t.nodupKeys

def filterValues (keep : α → Bool) (t : Table κ α) : Table κ α where
  entries := t.entries.filter fun entry => keep entry.2
  nodupKeys := t.nodupKeys.sublist (filter_sublist ..)

variable [DecidableEq κ]

def getD (t : Table κ α) (k : κ) (fallback : α) : α := (t.lookup k).getD fallback

theorem values_insert (t : Table κ α) (k : κ) (a : α) : values (t.insert k a) = a :: values (t.erase k) := by
  rw [values,entries_insert]
  rfl

theorem erase_absent (t : Table κ α) (k : κ) (absent : t.lookup k = none) : t.erase k = t := by
  apply AList.ext
  have missing : k ∉ t.entries.keys := lookup_eq_none.mp absent
  exact kerase_of_notMem_keys missing

theorem values_insert_fresh (t : Table κ α) (k : κ) (a : α) (absent : t.lookup k = none) :
    values (t.insert k a) = a :: values t := by
  rw [values_insert,erase_absent t k absent]

theorem entries_perm_erase (entries : List (Sigma fun _ : κ => α)) (k : κ) (a : α)
    (found : entries.dlookup k = some a) :
    entries.Perm (⟨k,a⟩ :: entries.kerase k) := by
  induction entries with
  | nil => simp at found
  | cons entry rest ih =>
    obtain ⟨key,value⟩ := entry
    by_cases same : k = key
    · subst same
      simp only [dlookup_cons_eq,some.injEq] at found
      subst found
      simp
    · rw [dlookup_cons_ne rest ⟨key,value⟩ same] at found
      rw [kerase_cons_ne same]
      exact ((ih found).cons _).trans (List.Perm.swap _ _ _)

section

variable (t : Table κ α) (k : κ) (a : α)
include t k a

theorem values_perm_erase (found : t.lookup k = some a) : (values t).Perm (a :: values (t.erase k)) := by
  have entries := entries_perm_erase t.entries k a found
  exact entries.map Sigma.snd

theorem mem_values_of_lookup (found : t.lookup k = some a) : a ∈ values t :=
  (mem_values t a).mpr ⟨k,mem_lookup_iff.mp found⟩

theorem mem_values_of_erase (mem : a ∈ values (t.erase k)) : a ∈ values t := by
  obtain ⟨key,entry⟩ := (mem_values _ a).mp mem
  exact (mem_values t a).mpr ⟨key,(kerase_sublist k t.entries).subset entry⟩

end

theorem lookup_of_mem_entries (t : Table κ α) (entry : Sigma fun _ : κ => α)
    (mem : entry ∈ t.entries) : t.lookup entry.1 = some entry.2 :=
  mem_lookup_iff.mpr mem

private theorem dlookup_map (f : α → α) (entries : List (Sigma fun _ : κ => α)) (k : κ) :
    (entries.map fun entry => (⟨entry.1,f entry.2⟩ : Sigma fun _ : κ => α)).dlookup k = (entries.dlookup k).map f := by
  induction entries with
  | nil => simp
  | cons entry _ ih =>
    obtain ⟨key,_⟩ := entry
    by_cases same : k = key
    · subst same
      simp
    · rw [map_cons,dlookup_cons_ne _ _ same,dlookup_cons_ne _ _ same]
      exact ih

theorem lookup_mapValues (f : α → α) (t : Table κ α) (k : κ) : (mapValues f t).lookup k = (t.lookup k).map f :=
  dlookup_map f t.entries k

theorem lookup_filterValues (keep : α → Bool) (t : Table κ α) (k : κ) :
    (filterValues keep t).lookup k = (t.lookup k).filter keep := by
  apply Option.ext
  intro a
  rw [filter_eq_some_iff]
  change a ∈ (filterValues keep t).lookup k ↔ a ∈ t.lookup k ∧ _
  rw [mem_lookup_iff,mem_lookup_iff]
  exact mem_filter

variable {a : α} {k : κ}

theorem of_lookup_insert {t : Table κ α} {j : κ} {b : α} (found : (t.insert k a).lookup j = some b) :
    (j = k ∧ a = b) ∨ (j ≠ k ∧ t.lookup j = some b) := by
  by_cases same : j = k
  · subst same
    rw [lookup_insert] at found
    exact .inl ⟨rfl,some.inj found⟩
  · rw [lookup_insert_ne same] at found
    exact .inr ⟨same,found⟩

theorem of_lookup_erase {t : Table κ α} {j : κ} {b : α} (found : (t.erase k).lookup j = some b) :
    j ≠ k ∧ t.lookup j = some b := by
  by_cases same : j = k
  · subst same
    rw [lookup_erase] at found
    cases found
  · rw [lookup_erase_ne same] at found
    exact ⟨same,found⟩

theorem absent_of_below {t : Table Nat α} {n : Nat}
    (below : ∀ id a, t.lookup id = some a → id < n) : t.lookup n = none := by
  by_contra present
  obtain ⟨a,found⟩ := Option.ne_none_iff_exists'.mp present
  exact absurd (below n a found) (Nat.lt_irrefl n)

theorem forall_insert {t : Table κ α} {holds : κ → α → Prop} (old : ∀ j b, t.lookup j = some b → holds j b)
    (new : holds k a) (j : κ) (b : α) (found : (t.insert k a).lookup j = some b) : holds j b := by
  rcases of_lookup_insert found with ⟨rfl,rfl⟩ | ⟨_,found⟩
  · exact new
  · exact old j b found

def total (f : α → Int) (t : Table κ α) : Int := ((values t).map f).sum

section

variable (f : α → Int) (t : Table κ α)
include f t

theorem total_insert_fresh (absent : t.lookup k = none) : total f (t.insert k a) = f a + total f t := by
  rw [total,values_insert_fresh t k a absent]
  rfl

theorem total_erase (found : t.lookup k = some a) : total f t = f a + total f (t.erase k) := by
  rw [total,((values_perm_erase t k a found).map f).sum_eq]
  rfl

theorem total_insert {b : α} (found : t.lookup k = some a) : total f (t.insert k b) = total f t - f a + f b := by
  have rest := total_erase f t found
  have inserted : total f (t.insert k b) = f b + total f (t.erase k) := by
    rfl
  omega

end

theorem lookup_of_mem_values (t : Table κ α) (mem : a ∈ values t) : ∃ k, t.lookup k = some a := by
  obtain ⟨k,entry⟩ := (mem_values t a).mp mem
  exact ⟨k,lookup_of_mem_entries t ⟨k,a⟩ entry⟩

theorem total_eq_zero (f : α → Int) (t : Table κ α) (zero : ∀ k a, t.lookup k = some a → f a = 0) : total f t = 0 := by
  apply sum_eq_zero
  intro _ mem
  obtain ⟨a,present,rfl⟩ := mem_map.mp mem
  obtain ⟨k,found⟩ := lookup_of_mem_values t present
  exact zero k a found

theorem total_nonneg (f : α → Int) (t : Table κ α) (nonneg : ∀ k a, t.lookup k = some a → 0 ≤ f a) : 0 ≤ total f t := by
  apply sum_nonneg
  intro _ mem
  obtain ⟨a,present,rfl⟩ := mem_map.mp mem
  obtain ⟨k,found⟩ := lookup_of_mem_values t present
  exact nonneg k a found

theorem total_le (f : α → Int) (t next : Table κ α) (nonneg : ∀ k a, t.lookup k = some a → 0 ≤ f a)
    (kept : ∀ k b, next.lookup k = some b → f b ≤ 0 ∨ ∃ a, t.lookup k = some a ∧ f b ≤ f a) : total f next ≤ total f t := by
  induction next using insertRec generalizing t with
  | H0 =>
    exact total_nonneg f t nonneg
  | IH k b rest absent ih =>
    rw [total_insert_fresh f rest (lookup_eq_none.mpr absent)]
    have others (j : κ) (c : α) (present : rest.lookup j = some c) : j ≠ k ∧ (rest.insert k b).lookup j = some c := by
      have different : j ≠ k := by
        rintro rfl
        rw [lookup_eq_none.mpr absent] at present
        cases present
      exact ⟨different,by rw [lookup_insert_ne different]; exact present⟩
    rcases kept k b (lookup_insert rest) with _ | ⟨_,found,_⟩
    · have smaller := ih t nonneg fun j c present => kept j c (others j c present).2
      omega
    · have smaller := ih (t.erase k) (fun j c present => nonneg j c ?_) ?_
      · rw [total_erase f t found]
        omega
      · exact (of_lookup_erase present).2
      · intro j c present
        obtain ⟨different,there⟩ := others j c present
        rw [lookup_erase_ne different]
        exact kept j c there

/-- One more occurrence of a key: `table[k]++`. -/
def increment (t : Table κ Int) (k : κ) : Table κ Int := t.insert k (getD t k 0 + 1)

def decrement (t : Table κ Int) (k : κ) : Table κ Int := if getD t k 0 ≤ 1 then t.erase k else t.insert k (getD t k 0 - 1)

theorem getD_increment (t : Table κ Int) (k other : κ) :
    getD (increment t k) other 0 = getD t other 0 + if other = k then 1 else 0 := by
  unfold increment
  by_cases same : other = k
  · subst same
    simp [getD]
  · simp [getD,same,lookup_insert_ne]

theorem getD_decrement_le (t : Table κ Int) (k other : κ) (nonneg : 0 ≤ getD t k 0) :
    getD (decrement t k) other 0 ≤ getD t other 0 := by
  unfold decrement
  by_cases same : other = k
  · subst same
    split
    · simpa [getD] using nonneg
    · simp only [getD,lookup_insert,getD_some]
      omega
  · split <;> simp [getD,same,lookup_insert_ne,lookup_erase_ne]

/-- The table holds how often each key occurs, and nothing for the others. -/
def Tallies (t : Table κ Int) (keys : List κ) : Prop :=
  ∀ k, t.lookup k = if keys.count k = 0 then none else some (keys.count k : Int)

namespace Tallies

variable {t : Table κ Int} {keys : List κ}

theorem getD_eq (tallied : Tallies t keys) (k : κ) : getD t k 0 = keys.count k := by
  unfold getD
  rw [tallied k]
  split
  · rename_i zero
    simp [zero]
  · rfl

theorem nonneg (tallied : Tallies t keys) (k : κ) : 0 ≤ getD t k 0 := by
  rw [tallied.getD_eq]
  exact Int.natCast_nonneg _

theorem empty : Tallies (∅ : Table κ Int) [] := by
  intro _
  simp

theorem perm {other : List κ} (tallied : Tallies t keys) (same : keys.Perm other) : Tallies t other := by
  intro k
  rw [tallied k,same.count_eq]

theorem increment (tallied : Tallies t keys) (k : κ) : Tallies (increment t k) (k :: keys) := by
  intro other
  unfold Table.increment
  rw [tallied.getD_eq]
  by_cases same : other = k
  · subst same
    simp [lookup_insert]
  · rw [lookup_insert_ne same,tallied other,count_cons_of_ne (Ne.symm same)]

theorem decrement {k : κ} (tallied : Tallies t (k :: keys)) : Tallies (decrement t k) keys := by
  intro other
  have current : getD t k 0 = keys.count k + 1 := by
    rw [tallied.getD_eq,count_cons_self]
    push_cast
    rfl
  have elsewhere (different : other ≠ k) :
      t.lookup other = if keys.count other = 0 then none else some (keys.count other : Int) := by
    rw [tallied other,count_cons_of_ne (Ne.symm different)]
  unfold Table.decrement
  rw [current]
  by_cases same : other = k
  · subst same
    by_cases last : keys.count other = 0
    · simp [last]
    · rw [if_neg (by omega),if_neg last,lookup_insert]
      simp
  · split
    · rw [lookup_erase_ne same,elsewhere same]
    · rw [lookup_insert_ne same,elsewhere same]

theorem value_eq (tallied : Tallies t keys) (entry : Sigma fun _ : κ => Int) (mem : entry ∈ t.entries) :
    entry.2 = keys.count entry.1 ∧ entry.1 ∈ keys := by
  have found := lookup_of_mem_entries t entry mem
  rw [tallied entry.1] at found
  split at found
  · cases found
  · rename_i present
    simp only [some.injEq] at found
    exact ⟨found.symm,count_pos_iff.mp (Nat.pos_of_ne_zero present)⟩

private theorem keys_perm (tallied : Tallies t keys) : t.keys.Perm keys.dedup := by
  apply (perm_ext_iff_of_nodup t.keys_nodup keys.nodup_dedup).mpr
  intro k
  rw [← AList.mem_keys,← lookup_isSome,tallied k]
  by_cases absent : keys.count k = 0
  · simp [absent,count_eq_zero.mp absent]
  · simp [count_pos_iff.mp (Nat.pos_of_ne_zero absent),absent]

theorem sum_values (tallied : Tallies t keys) : (values t).sum = keys.length := by
  have counted : values t = t.keys.map fun k => (keys.count k : Int) := by
    unfold values AList.keys List.keys
    rw [List.map_map]
    apply map_congr_left
    intro entry mem
    exact (tallied.value_eq entry mem).1
  have total := sum_map_count_dedup_eq_length keys
  rw [counted,((keys_perm tallied).map _).sum_eq,← total,Nat.cast_list_sum,List.map_map]
  rfl

end Tallies

end Table

end P2pstream.Library
