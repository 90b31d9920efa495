import Mathlib.Tactic

namespace Frame
open List

abbrev Arrays (α : Type) := List (List α)

structure Slice where
  array : Nat
  start : Nat
  length : Nat
  capacity : Nat

def overwrite (pos : Nat) (xs a : List α) : List α := a.take pos ++ (xs ++ a.drop (pos + xs.length))

namespace Slice
variable {α : Type} {h h₀ : Arrays α} {s t : Slice} {l xs : List α} {i j : Nat}

def toList (h : Arrays α) (s : Slice) : List α :=
  ((h[s.array]?.getD []).drop s.start).take s.length

def make (h : Arrays α) (zero : α) (length capacity : Nat) : Slice × Arrays α :=
  (⟨h.length, 0, length, capacity⟩, h ++ [List.replicate capacity zero])

/-- `s[i]`, which panics outside the slice. -/
def get? (h : Arrays α) (s : Slice) (i : Nat) : Option α :=
  if i < s.length then (h[s.array]?.getD [])[s.start + i]? else none

/-- `s[i:j]`, which shares the array and panics past the capacity. -/
def sub? (s : Slice) (i j : Nat) : Option Slice :=
  if i ≤ j ∧ j ≤ s.capacity then some ⟨s.array, s.start + i, j - i, s.capacity - i⟩ else none

def extended (s : Slice) (n : Nat) : Slice := { s with length := s.length + n }

/-- The arrays after `xs` has been written behind the end of the slice. -/
def written (h : Arrays α) (s : Slice) (xs : List α) : Arrays α :=
  h.modify s.array (overwrite (s.start + s.length) xs)

/-- `append(s, xs...)`, in place as long as the capacity suffices. -/
def append (h : Arrays α) (s : Slice) (xs : List α) : Slice × Arrays α :=
  if s.length + xs.length ≤ s.capacity then (s.extended xs.length, s.written h xs)
  else (⟨h.length, 0, s.length + xs.length, s.length + xs.length⟩, h ++ [s.toList h ++ xs])

def Holds (h : Arrays α) (s : Slice) (l : List α) : Prop :=
  ∃ front spare, h[s.array]? = some (front ++ (l ++ spare)) ∧ front.length = s.start ∧
    l.length = s.length ∧ s.capacity = s.length + spare.length

theorem Holds.toList (hs : Holds h s l) : s.toList h = l := by
  obtain ⟨front, spare, hget, hfront, hl, _⟩ := hs
  rw [Slice.toList, hget, Option.getD_some, ← hfront, drop_left, ← hl, take_left]

theorem Holds.length (hs : Holds h s l) : s.length = l.length := hs.elim fun _ h => h.elim
  fun _ h => h.2.2.1.symm

theorem Holds.length_le (hs : Holds h s l) : s.length ≤ s.capacity := by
  obtain ⟨_, spare, _, _, _, hcap⟩ := hs
  exact hcap ▸ Nat.le_add_right _ _

theorem Holds.get? (hs : Holds h s l) (i : Nat) : s.get? h i = l[i]? := by
  obtain ⟨front, spare, hget, hfront, hl, _⟩ := hs
  rw [Slice.get?, hget, Option.getD_some, ← hfront, getElem?_append_right (by omega),
    Nat.add_sub_cancel_left]
  split
  · exact getElem?_append_left (by omega)
  · exact (getElem?_eq_none (by omega)).symm

theorem make_holds (h : Arrays α) (zero : α) (capacity : Nat) :
    Holds (make h zero 0 capacity).2 (make h zero 0 capacity).1 [] :=
  ⟨[], replicate capacity zero, getElem?_concat_length, rfl, rfl,
    (Nat.zero_add _).symm ▸ length_replicate.symm⟩

theorem append_eq (hfits : s.length + xs.length ≤ s.capacity) :
    s.append h xs = (s.extended xs.length, s.written h xs) := if_pos hfits

@[simp] theorem written_length (h : Arrays α) (s : Slice) (xs : List α) :
    (s.written h xs).length = h.length := length_modify ..

theorem Holds.written (hs : Holds h s l) (hfits : s.length + xs.length ≤ s.capacity) :
    Holds (s.written h xs) (s.extended xs.length) (l ++ xs) := by
  obtain ⟨front, spare, hget, hfront, hl, hcap⟩ := hs
  refine ⟨front, spare.drop xs.length, ?_, hfront, ?_, ?_⟩
  · rw [Slice.written, extended, getElem?_modify_eq, hget]
    refine congrArg some ?_
    rw [overwrite, ← hfront, ← hl, ← length_append, ← append_assoc front, take_left,
      drop_length_add_append, append_assoc, append_assoc]
  · rw [length_append, hl]
    rfl
  · rw [length_drop, extended]
    dsimp only
    omega

theorem Holds.written_of_ne (ht : Holds h t l) (hne : t.array ≠ s.array) (xs : List α) :
    Holds (s.written h xs) t l := by
  obtain ⟨front, spare, hget, hrest⟩ := ht
  exact ⟨front, spare, (getElem?_modify_ne _ _ hne.symm).trans hget, hrest⟩

theorem Holds.make (hs : Holds h s l) (zero : α) (n m : Nat) : Holds (make h zero n m).2 s l := by
  obtain ⟨front, spare, hget, hrest⟩ := hs
  exact ⟨front, spare, (getElem?_append_left (List.getElem?_eq_some_iff.1 hget).1).trans hget,
    hrest⟩

theorem Holds.sub? (hs : Holds h s l) (hij : i ≤ j) (hj : j ≤ l.length) :
    ∃ t, s.sub? i j = some t ∧ t.array = s.array ∧ t.capacity = s.capacity - i ∧
      Holds h t ((l.take j).drop i) := by
  obtain ⟨front, spare, hget, hfront, hl, hcap⟩ := hs
  refine ⟨_, if_pos ⟨hij, by omega⟩, rfl, rfl, front ++ l.take i, l.drop j ++ spare, ?_, ?_, ?_, ?_⟩
  · rw [hget]
    refine congrArg some ?_
    rw [append_assoc, ← append_assoc _ (l.drop j), ← append_assoc (l.take i),
      ← append_assoc (l.take i)]
    have hsplit : l.take i ++ (l.take j).drop i = l.take j := by
      have htake : l.take i = (l.take j).take i := by rw [take_take, Nat.min_eq_left hij]
      rw [htake]
      exact take_append_drop i (l.take j)
    rw [hsplit, take_append_drop]
  · rw [length_append, length_take, hfront, Nat.min_eq_left (hij.trans hj)]
  · rw [length_drop, length_take, Nat.min_eq_left hj]
  · rw [length_append, length_drop]
    dsimp only
    omega

theorem written_frame (hpre : h₀ <+: h) (hnew : h₀.length ≤ s.array) (xs : List α) :
    h₀ <+: s.written h xs := by
  rw [prefix_iff_getElem?] at hpre ⊢
  intro i hi
  exact (getElem?_modify_ne _ _ (hi.trans_le hnew).ne').trans (hpre i hi)

end Slice

end Frame
