import Mathlib.Algebra.BigOperators.Group.List.Basic
import Mathlib.Tactic.Abel
import OpenInfra.Frame.Dispatch

namespace Frame
open List

structure Table {K V : Type} (key : V → K) where
  rows : List V
  nodup : (rows.map key).Nodup

namespace Table
variable {K V : Type} [DecidableEq K] {key : V → K}

def empty : Table key := ⟨[], List.nodup_nil⟩

def lookup (t : Table key) (k : K) : Option V := t.rows.find? fun v => key v = k

def overwrite (key : V → K) (v x : V) : V := if key x = key v then v else x

theorem key_overwrite (key : V → K) (v x : V) : key (overwrite key v x) = key x := by
  unfold overwrite
  split
  · exact Eq.symm ‹_›
  · rfl

/-- Write a row: in place if its key is present, behind all others if it is not. -/
def put (t : Table key) (v : V) : Table key :=
  if h : key v ∈ t.rows.map key then
    ⟨t.rows.map (overwrite key v), by
      rw [List.map_map, show key ∘ overwrite key v = key from funext (key_overwrite key v)]
      exact t.nodup⟩
  else
    ⟨t.rows ++ [v], by
      rw [List.map_append, List.nodup_append_comm]
      exact List.nodup_cons.2 ⟨h, t.nodup⟩⟩

variable {t : Table key}

theorem mem_rows : v ∈ t.rows ↔ t.lookup (key v) = some v := by
  constructor
  · intro hv
    cases hf : t.lookup (key v) with
    | none => exact absurd (decide_eq_true rfl) (find?_eq_none.1 hf v hv)
    | some x =>
      have hk : key x = key v :=
        of_decide_eq_true (find?_some (p := fun x => key x = key v) hf)
      rw [inj_on_of_nodup_map t.nodup (mem_of_find?_eq_some hf) hv hk]
  · exact mem_of_find?_eq_some

theorem key_of_lookup (h : t.lookup k = some v) : key v = k :=
  of_decide_eq_true (find?_some (p := fun x => key x = k) h)

theorem lookup_eq_some : t.lookup k = some v ↔ v ∈ t.rows ∧ key v = k := by
  constructor
  · intro h
    exact ⟨mem_of_find?_eq_some h, key_of_lookup h⟩
  · rintro ⟨hv, rfl⟩
    exact mem_rows.1 hv

theorem lookup_eq_none : t.lookup k = none ↔ k ∉ t.rows.map key := by
  simp only [lookup, find?_eq_none, decide_eq_true_eq, mem_map, not_exists, not_and]

theorem mem_put : x ∈ (t.put v).rows ↔ x = v ∨ x ∈ t.rows ∧ key x ≠ key v := by
  unfold put
  split
  · rename_i h
    obtain ⟨y, hy, hyv⟩ := mem_map.1 h
    rw [mem_map]
    constructor
    · rintro ⟨z, hz, rfl⟩
      unfold overwrite
      split
      · exact .inl rfl
      · exact .inr ⟨hz, ‹_›⟩
    · rintro (rfl | ⟨hx, hne⟩)
      · exact ⟨y, hy, if_pos hyv⟩
      · exact ⟨x, hx, if_neg hne⟩
  · rename_i h
    rw [mem_append, mem_singleton, or_comm]
    refine or_congr_right (iff_self_and.2 ?_)
    intro hx heq
    exact h (heq ▸ mem_map_of_mem hx)

theorem lookup_put (t : Table key) (v : V) (k : K) :
    (t.put v).lookup k = if k = key v then some v else t.lookup k := by
  apply Option.ext
  intro x
  rw [lookup_eq_some, mem_put]
  split
  · rename_i hk
    rw [Option.some.injEq]
    constructor
    · rintro ⟨rfl | ⟨_, hne⟩, hx⟩
      · rfl
      · exact absurd (hx.trans hk) hne
    · rintro rfl
      exact ⟨.inl rfl, hk.symm⟩
  · rename_i hk
    rw [lookup_eq_some]
    constructor
    · rintro ⟨rfl | ⟨hx, _⟩, hxk⟩
      · exact absurd hxk.symm hk
      · exact ⟨hx, hxk⟩
    · rintro ⟨hx, rfl⟩
      exact ⟨.inr ⟨hx, hk⟩, rfl⟩

@[simp] theorem lookup_put_self (t : Table key) (v : V) : (t.put v).lookup (key v) = some v := by
  rw [lookup_put, if_pos rfl]

theorem lookup_put_of_ne (t : Table key) (h : k ≠ key v) : (t.put v).lookup k = t.lookup k := by
  rw [lookup_put, if_neg h]

def restrict (t : Table key) (c : V → Bool) : Table key :=
  ⟨t.rows.filter c, t.nodup.sublist (List.Sublist.map _ List.filter_sublist)⟩

theorem lookup_restrict (t : Table key) (c : V → Bool) (k : K) :
    (t.restrict c).lookup k = (t.lookup k).filter c := by
  apply Option.ext
  intro v
  rw [lookup_eq_some, Option.filter_eq_some_iff, lookup_eq_some]
  change v ∈ t.rows.filter c ∧ _ ↔ _
  rw [mem_filter]
  exact and_right_comm

def erase (t : Table key) (k : K) : Table key :=
  ⟨t.rows.filter fun v => key v ≠ k, t.nodup.sublist (List.Sublist.map _ List.filter_sublist)⟩

theorem lookup_erase (t : Table key) (k k' : K) :
    (t.erase k).lookup k' = if k' = k then none else t.lookup k' := by
  apply Option.ext
  intro x
  rw [lookup_eq_some]
  unfold erase
  rw [mem_filter, decide_eq_true_iff]
  split
  · rename_i heq
    constructor
    · rintro ⟨⟨_, hne⟩, hx⟩
      exact absurd (hx.trans heq) hne
    · intro hx
      cases hx
  · rename_i hne
    rw [lookup_eq_some]
    constructor
    · rintro ⟨⟨hx, _⟩, hk⟩
      exact ⟨hx, hk⟩
    · rintro ⟨hx, rfl⟩
      exact ⟨⟨hx, hne⟩, rfl⟩

def total {M : Type} [AddCommMonoid M] (t : Table key) (f : V → M) : M := (t.rows.map f).sum

section
variable {M : Type} [AddCommMonoid M] {f : V → M}

theorem total_put_new (h : t.lookup (key v) = none) : (t.put v).total f = t.total f + f v := by
  unfold total put
  rw [dif_neg (lookup_eq_none.1 h), map_append, sum_append]
  simp only [map_cons, map_nil, sum_cons, sum_nil, add_zero]

theorem sum_map_overwrite {l : List V} (hl : (l.map key).Nodup) (hx : x ∈ l)
    (hkey : key x = key v) :
    (l.map fun y => f (overwrite key v y)).sum + f x = (l.map f).sum + f v := by
  induction l with
  | nil => cases hx
  | cons y l ih =>
    obtain ⟨hy, hl⟩ := nodup_cons.1 hl
    rw [map_cons, map_cons, sum_cons, sum_cons]
    obtain rfl | hx := mem_cons.1 hx
    · have hrest : (l.map fun y => f (overwrite key v y)) = l.map f := by
        apply map_congr_left
        intro z hz
        have hne : key z ≠ key v := fun h => hy (hkey.trans h.symm ▸ mem_map_of_mem hz)
        unfold overwrite
        rw [if_neg hne]
      rw [hrest, show overwrite key v x = v from if_pos hkey]
      abel
    · have hne : key y ≠ key v := fun h => hy (h.trans hkey.symm ▸ mem_map_of_mem hx)
      rw [show overwrite key v y = y from if_neg hne, add_assoc, ih hl hx, add_assoc]

theorem total_put {t : Table key} (h : t.lookup (key v) = some x) :
    (t.put v).total f + f x = t.total f + f v := by
  obtain ⟨hx, hkey⟩ := lookup_eq_some.1 h
  unfold total put
  rw [dif_pos (hkey ▸ mem_map_of_mem hx), map_map]
  exact sum_map_overwrite t.nodup hx hkey

end

end Table

end Frame
