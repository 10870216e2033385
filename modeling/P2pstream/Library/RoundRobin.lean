import P2pstream.Library.Tables

/-! Round-robin service: a list of keys with a cursor, read as the list rotated to
the cursor, and a FIFO queue per key. Removing a key keeps the rotated order of
the others whatever the cursor, and serving a key moves it behind all of them.
-/
namespace P2pstream.Library.RoundRobin
open Library.Table AList List

section Rotation

variable {κ : Type}

/-- The cursor after the key at `index` is removed and `length` keys are left. -/
def cursorAfterErase (length index cursor : Nat) : Nat := let shifted := if index < cursor then cursor - 1 else cursor
  if shifted ≥ length then 0 else shifted

private theorem rotate_split (front back : List κ) (cursor : Nat) (at_end : cursor = front.length ∨ (back = [] ∧ cursor = 0)) :
    (front ++ back).rotate cursor = back ++ front := by
  rcases at_end with rfl | ⟨rfl,rfl⟩
  · exact rotate_append_length_eq front back
  · simp

theorem rotate_eraseIdx (keys : List κ) (index cursor : Nat) (key : κ)
    (inside : cursor < keys.length) (found : keys[index]? = some key) :
    ∃ front back, keys.rotate cursor = front ++ key :: back ∧ (index = cursor → front = []) ∧
      (keys.eraseIdx index).rotate (cursorAfterErase (keys.eraseIdx index).length index cursor) = front ++ back := by
  obtain ⟨_,value⟩ := List.getElem?_eq_some_iff.mp found
  have split : keys = keys.take index ++ key :: keys.drop (index + 1) := by
    rw [← value,cons_getElem_drop_succ,take_append_drop]
  have erased : keys.eraseIdx index = keys.take index ++ keys.drop (index + 1) := eraseIdx_eq_take_drop_succ ..
  generalize pre : keys.take index = before at split erased
  generalize suf : keys.drop (index + 1) = after at split erased
  have size : before.length = index := by rw [← pre,length_take]; omega
  have total : keys.length = before.length + after.length + 1 := by rw [split]; simp; omega
  by_cases earlier : index < cursor
  · -- The cursor stands behind the removed key, inside `after`.
    have cut : after = after.take (cursor - index - 1) ++ after.drop (cursor - index - 1) := (take_append_drop _ _).symm
    generalize left : after.take (cursor - index - 1) = mid at cut
    generalize right : after.drop (cursor - index - 1) = tail at cut
    have midSize : mid.length = cursor - index - 1 := by rw [← left,length_take]; omega
    refine ⟨tail ++ before,mid,?_,by omega,?_⟩
    · have arranged : keys = (before ++ key :: mid) ++ tail := by rw [split,cut]; simp
      rw [arranged,rotate_split]
      · simp
      · left; simp; omega
    · have arranged : keys.eraseIdx index = (before ++ mid) ++ tail := by rw [erased,cut]; simp
      rw [arranged,rotate_split]
      · simp
      · unfold cursorAfterErase
        simp only [if_pos earlier,length_append]
        by_cases last : tail = []
        · subst last
          right
          refine ⟨rfl,?_⟩
          simp; omega
        · left
          have positive : 0 < tail.length := length_pos_of_ne_nil last
          rw [if_neg (by omega)]
          omega
  · -- The cursor stands at or before the removed key, inside `before`.
    have cut : before = before.take cursor ++ before.drop cursor := (take_append_drop _ _).symm
    generalize left : before.take cursor = head at cut
    generalize right : before.drop cursor = mid at cut
    have headSize : head.length = cursor := by rw [← left,length_take]; omega
    refine ⟨mid,after ++ head,?_,?_,?_⟩
    · have arranged : keys = head ++ (mid ++ key :: after) := by rw [split,cut]; simp
      rw [arranged,rotate_split]
      · simp
      · left; omega
    · intro same
      rw [← right]
      simp [size,same]
    · have arranged : keys.eraseIdx index = head ++ (mid ++ after) := by rw [erased,cut]; simp
      rw [arranged,rotate_split]
      · simp
      · unfold cursorAfterErase
        simp only [if_neg earlier,length_append]
        by_cases last : mid ++ after = []
        · right
          obtain ⟨rfl,rfl⟩ := append_eq_nil_iff.mp last
          refine ⟨rfl,?_⟩
          simp; omega
        · left
          have positive : 0 < (mid ++ after).length := length_pos_of_ne_nil last
          rw [length_append] at positive
          rw [if_neg (by omega)]
          omega

theorem rotate_succ (keys : List κ) (cursor : Nat) (key : κ) (rest : List κ) (turn : keys.rotate cursor = key :: rest) :
    keys.rotate ((cursor + 1) % keys.length) = rest ++ [key] := by
  rw [rotate_mod,← rotate_rotate,turn]
  simp

end Rotation

section Queues

variable {κ α : Type} [DecidableEq κ]

def queueOf (queues : Table κ (List α)) (key : κ) : List α := getD queues key []

def waiting (queues : Table κ (List α)) : List α := (values queues).flatten

def put (queues : Table κ (List α)) (key : κ) (items : List α) : Table κ (List α) :=
  if items.isEmpty then queues.erase key else queues.insert key items

section

variable (queues : Table κ (List α))
include queues

theorem waiting_perm (key : κ) : (waiting queues).Perm (queueOf queues key ++ waiting (queues.erase key)) := by
  unfold waiting queueOf Table.getD
  cases found : queues.lookup key with
  | none => simp [erase_absent queues key found]
  | some items =>
    have perm := (values_perm_erase queues key items found).flatten
    simpa using perm

theorem waiting_put (key : κ) (items : List α) : waiting (put queues key items) = items ++ waiting (queues.erase key) := by
  unfold put waiting
  split
  · rename_i empty
    simp [isEmpty_iff.mp empty]
  · simp [values_insert]

theorem queueOf_put (key other : κ) (items : List α) :
    queueOf (put queues key items) other = if other = key then items else queueOf queues other := by
  unfold put queueOf Table.getD
  by_cases same : other = key
  · subst same
    split
    · rename_i empty
      simp [isEmpty_iff.mp empty]
    · simp
  · split <;> simp [same,lookup_erase_ne,lookup_insert_ne]

theorem mem_put (key other : κ) (items : List α) :
    other ∈ put queues key items ↔ (other = key ∧ items ≠ []) ∨ (other ≠ key ∧ other ∈ queues) := by
  unfold put
  cases items with
  | nil => simp
  | cons => by_cases same : other = key <;> simp [same]

theorem mem_waiting (item : α) : item ∈ waiting queues ↔ ∃ key, item ∈ queueOf queues key := by
  constructor
  · intro mem
    obtain ⟨items,listed,inside⟩ := mem_flatten.mp mem
    obtain ⟨key,entry⟩ := (mem_values queues items).mp listed
    refine ⟨key,?_⟩
    unfold queueOf Table.getD
    rw [mem_lookup_iff.mpr entry]
    exact inside
  · rintro ⟨key,mem⟩
    exact (waiting_perm queues key).mem_iff.mpr (mem_append_left _ mem)

theorem flatMap_perm_waiting {keys : List κ} (same : keys.Perm queues.keys) :
    (keys.flatMap (queueOf queues)).Perm (waiting queues) := by
  have entries : queues.keys.flatMap (queueOf queues) = waiting queues := by
    unfold waiting values AList.keys List.keys
    rw [flatMap_map]
    apply flatMap_congr
    intro entry mem
    unfold queueOf Table.getD
    rw [lookup_of_mem_entries queues entry mem]
    rfl
  exact entries ▸ same.flatMap_right _

end

end Queues

end P2pstream.Library.RoundRobin
