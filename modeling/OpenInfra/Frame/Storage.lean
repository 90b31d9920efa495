import Mathlib.Data.Finmap
import OpenInfra.Frame.Dispatch

namespace Frame
open List

structure BoundedVec (α : Type) (n : Nat) where
  toList : List α
  length_le : toList.length ≤ n

namespace BoundedVec

def empty : BoundedVec α n := ⟨[], Nat.zero_le _⟩

def tryPush (v : BoundedVec α n) (a : α) : Option (BoundedVec α n) :=
  if h : v.toList.length < n then
    some ⟨v.toList ++ [a], by rw [List.length_append]; exact h⟩
  else none

def remove [DecidableEq α] (v : BoundedVec α n) (a : α) : BoundedVec α n :=
  ⟨v.toList.erase a, List.length_erase_le.trans v.length_le⟩

def swapRemove (v : BoundedVec α n) (i : Nat) : BoundedVec α n :=
  ⟨((v.toList.getLast?.map (v.toList.set i)).getD v.toList).dropLast, by
    have hset : ((v.toList.getLast?.map (v.toList.set i)).getD v.toList).length =
        v.toList.length := by
      cases v.toList.getLast? with
      | none => rfl
      | some a => exact List.length_set
    rw [List.length_dropLast, hset]
    exact (Nat.sub_le _ _).trans v.length_le⟩

def truncateFrom (as : List α) : BoundedVec α n :=
  ⟨as.take n, by simpa only [List.length_take] using Nat.min_le_left _ _⟩

theorem tryPush_eq_some {v w : BoundedVec α n} {a : α} :
    v.tryPush a = some w ↔ v.toList.length < n ∧ w.toList = v.toList ++ [a] := by
  obtain ⟨l, hl⟩ := w
  unfold tryPush
  split
  · simp only [Option.some.injEq, BoundedVec.mk.injEq, true_and, *]
    exact eq_comm
  · simp only [reduceCtorEq, false_and, *]

theorem swapRemove_perm {v : BoundedVec α n} {i : Nat} (h : i < v.toList.length) :
    (v.swapRemove i).toList.Perm (v.toList.eraseIdx i) := by
  obtain ⟨l, hl⟩ := v
  dsimp only at h
  induction l using reverseRecOn with
  | nil => exact absurd h (Nat.not_lt_zero i)
  | append_singleton init a =>
    unfold swapRemove
    simp only [getLast?_append, getLast?_singleton, Option.some_or, Option.map_some,
      Option.getD_some]
    obtain hi | rfl : i < init.length ∨ i = init.length := by
      rw [length_append, length_singleton] at h
      omega
    · rw [set_append_left _ _ hi, dropLast_concat, eraseIdx_append_of_lt_length hi]
      exact (set_perm_cons_eraseIdx hi a).trans (perm_append_singleton a _).symm
    · rw [set_append_right _ _ le_rfl, Nat.sub_self, set_cons_zero, dropLast_concat,
        eraseIdx_append_of_length_le le_rfl, Nat.sub_self]
      simp

theorem truncateFrom_toList {as : List α} (h : as.length ≤ n) :
    (truncateFrom as : BoundedVec α n).toList = as := take_of_length_le h

end BoundedVec

abbrev StorageMap (K V : Type) := Finmap fun _ : K => V

namespace StorageMap
variable {K V B : Type} [DecidableEq K]

/-- What the entries of a map contribute under `f`, each entry at most once. -/
def shares (m : StorageMap K V) (f : V → Option B) : Multiset B :=
  m.entries.filterMap fun e => f e.2

def share (f : V → Option B) (v : V) : Multiset B := ((f v).map singleton).getD 0

theorem shares_insert_of_none {m : StorageMap K V} (h : m.lookup k = none) (v : V)
    (f : V → Option B) : shares (m.insert k v) f = share f v + shares m f := by
  rw [shares, Finmap.entries_insert_of_notMem (Finmap.lookup_eq_none.1 h), Multiset.filterMap_cons]
  rfl

theorem insert_erase (m : StorageMap K V) (k : K) (v : V) :
    (m.erase k).insert k v = m.insert k v := by
  apply Finmap.ext_lookup
  intro x
  by_cases hx : x = k
  · subst hx
    rw [Finmap.lookup_insert, Finmap.lookup_insert]
  · rw [Finmap.lookup_insert_of_ne _ hx, Finmap.lookup_insert_of_ne _ hx,
      Finmap.lookup_erase_ne hx]

theorem insert_of_lookup {m : StorageMap K V} (h : m.lookup k = some v) : m.insert k v = m := by
  apply Finmap.ext_lookup
  intro x
  by_cases hx : x = k
  · subst hx
    rw [Finmap.lookup_insert, h]
  · rw [Finmap.lookup_insert_of_ne _ hx]

theorem erase_of_none {m : StorageMap K V} (h : m.lookup k = none) : m.erase k = m := by
  apply Finmap.ext_lookup
  intro x
  by_cases hx : x = k
  · subst hx
    rw [Finmap.lookup_erase, h]
  · rw [Finmap.lookup_erase_ne hx]

theorem erase_congr {m m' : StorageMap K V} (h : ∀ x, x ≠ k → m.lookup x = m'.lookup x) :
    m.erase k = m'.erase k := by
  apply Finmap.ext_lookup
  intro x
  by_cases hx : x = k
  · subst hx
    rw [Finmap.lookup_erase, Finmap.lookup_erase]
  · rw [Finmap.lookup_erase_ne hx, Finmap.lookup_erase_ne hx, h x hx]

theorem shares_insert_of_some {m : StorageMap K V} (h : m.lookup k = some v)
    (f : V → Option B) : shares m f = share f v + shares (m.erase k) f ∧
      ∀ v', shares (m.insert k v') f = share f v' + shares (m.erase k) f := by
  have hi (v' : V) : shares (m.insert k v') f = share f v' + shares (m.erase k) f := by
    rw [← insert_erase, shares_insert_of_none (Finmap.lookup_erase _ _)]
  refine ⟨?_, hi⟩
  rw [← hi, insert_of_lookup h]

end StorageMap

end Frame
