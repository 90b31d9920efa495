import Mathlib.Data.List.Sort
import Mathlib.Tactic

namespace Frame
open List

def trim (l : List α) : List α := (l.drop 1).dropLast

theorem length_trim (l : List α) : (trim l).length = l.length - 2 := by
  rw [trim, length_dropLast, length_drop, Nat.sub_sub]

theorem trim_sublist (l : List α) : (trim l).Sublist l :=
  (dropLast_sublist _).trans (drop_sublist 1 l)

theorem exists_ends {l : List α} (h : 2 ≤ l.length) : ∃ a b, l = a :: (trim l ++ [b]) := by
  cases l with
  | nil => cases h
  | cons a l =>
    have hne : l ≠ [] := by
      rintro rfl
      exact absurd h (Nat.not_le.2 Nat.one_lt_two)
    exact ⟨a, l.getLast hne, congrArg (a :: ·) (dropLast_append_getLast hne).symm⟩

theorem trim_between {r : α → α → Prop} (hrefl : ∀ x, r x x) {l others : List α} {y m : α}
    (hl : l.Pairwise r) (hlen : 2 ≤ l.length) (hperm : l.Perm (y :: others)) (hm : m ∈ trim l) :
    (∃ x ∈ others, r x m) ∧ ∃ x ∈ others, r m x := by
  by_cases hmem : m ∈ others
  · exact ⟨⟨m, hmem, hrefl m⟩, m, hmem, hrefl m⟩
  · obtain ⟨a, b, hab⟩ := exists_ends hlen
    obtain ⟨l₁, l₂, hsplit⟩ := append_of_mem hm
    have hmy : m = y := by
      have hin : m ∈ y :: others := hperm.subset ((trim_sublist l).subset hm)
      exact (mem_cons.1 hin).resolve_right hmem
    subst hmy
    rw [hsplit, append_assoc, cons_append] at hab
    rw [hab] at hl hperm
    have hmiddle : (a :: l₁ ++ m :: (l₂ ++ [b])).Perm (m :: (a :: l₁ ++ (l₂ ++ [b]))) :=
      perm_middle
    have hrest : (a :: l₁ ++ (l₂ ++ [b])).Perm others := (hmiddle.symm.trans hperm).cons_inv
    obtain ⟨hhead, htail⟩ := pairwise_cons.1 hl
    refine ⟨⟨a, hrest.subset mem_cons_self, hhead m ?_⟩, b, hrest.subset ?_, ?_⟩
    · exact mem_append_right _ mem_cons_self
    · simp
    · have hlast := (pairwise_append.1 htail).2.1
      exact (pairwise_cons.1 hlast).1 b (by simp)

theorem exists_le_average {l : List Nat} (h : l ≠ []) : ∃ x ∈ l, x ≤ l.sum / l.length := by
  by_contra hnone
  push Not at hnone
  have hsum : l.length • (l.sum / l.length + 1) ≤ l.sum := card_nsmul_le_sum l _ hnone
  have hlt := Nat.lt_mul_div_succ l.sum (length_pos_iff.2 h)
  exact absurd hsum (Nat.not_le.2 hlt)

theorem exists_average_le {l : List Nat} (h : l ≠ []) : ∃ x ∈ l, l.sum / l.length ≤ x := by
  by_contra hnone
  push Not at hnone
  have hlt := sum_lt_sum_of_ne_nil h id (fun _ => l.sum / l.length) hnone
  rw [map_id, map_const', sum_replicate] at hlt
  exact absurd hlt (Nat.not_lt.2 (Nat.mul_div_le l.sum l.length))

end Frame
