import Mathlib.Tactic

namespace Frame
open List

def maxValue (w : Nat) : Nat := 2 ^ w - 1

def saturatingAdd (w a b : Nat) : Nat := min (a + b) (maxValue w)

def saturatingMul (w a b : Nat) : Nat := min (a * b) (maxValue w)

def checkedAdd (w a b : Nat) : Option Nat :=
  if a + b ≤ maxValue w then some (a + b) else none

def checkedMul (w a b : Nat) : Option Nat :=
  if a * b ≤ maxValue w then some (a * b) else none

def checkedSub (a b : Nat) : Option Nat :=
  if b ≤ a then some (a - b) else none

theorem saturatingAdd_of_le (h : a + b ≤ maxValue w) : saturatingAdd w a b = a + b :=
  Nat.min_eq_left h

theorem saturatingAdd_le (w a b : Nat) : saturatingAdd w a b ≤ maxValue w := Nat.min_le_right _ _

theorem le_saturatingAdd (h : a ≤ maxValue w) : a ≤ saturatingAdd w a b :=
  Nat.le_min.2 ⟨Nat.le_add_right _ _, h⟩

theorem foldl_saturatingAdd (f : α → Nat) (as : List α) (h : n ≤ maxValue w) :
    as.foldl (fun acc a => saturatingAdd w acc (f a)) n =
      min (n + (as.map f).sum) (maxValue w) := by
  induction as generalizing n with
  | nil => exact (Nat.min_eq_left h).symm
  | cons a as ih =>
    rw [foldl_cons, ih (saturatingAdd_le w n (f a)), saturatingAdd, map_cons,
      sum_cons]
    omega

theorem checkedAdd_eq_some : checkedAdd w a b = some c ↔ a + b ≤ maxValue w ∧ a + b = c := by
  simp only [checkedAdd, Option.ite_none_right_eq_some, Option.some.injEq]

theorem checkedMul_eq_some : checkedMul w a b = some c ↔ a * b ≤ maxValue w ∧ a * b = c := by
  simp only [checkedMul, Option.ite_none_right_eq_some, Option.some.injEq]

theorem checkedSub_eq_some : checkedSub a b = some c ↔ b ≤ a ∧ a - b = c := by
  simp only [checkedSub, Option.ite_none_right_eq_some, Option.some.injEq]

def toLeBytes (n v : Nat) : List UInt8 :=
  (List.range n).map fun i => UInt8.ofNat (v / 256 ^ i)

def fromLeBytes (bytes : List UInt8) : Nat :=
  bytes.foldr (fun b acc => b.toNat + 256 * acc) 0

theorem sum_div_le (d : Nat) (as : List Nat) : (as.map (· / d)).sum ≤ as.sum / d := by
  induction as with
  | nil => exact Nat.zero_le _
  | cons a as ih =>
    rw [map_cons, sum_cons, sum_cons]
    exact (Nat.add_le_add_left ih _).trans Nat.div_add_div_le_add_div

theorem sum_add_length_le (hd : 0 < d) (as : List Nat) :
    as.sum + as.length ≤ d * ((as.map (· / d)).sum + as.length) := by
  induction as with
  | nil => exact Nat.zero_le _
  | cons a as ih =>
    have ha : a + 1 ≤ d * (a / d + 1) := Nat.lt_mul_div_succ a hd
    simp only [map_cons, sum_cons, length_cons]
    linarith

theorem div_sum_lt (hd : 0 < d) {as : List Nat} (h : as ≠ []) :
    as.sum / d < (as.map (· / d)).sum + as.length := by
  have hlength := length_pos_of_ne_nil h
  have hsum := sum_add_length_le hd as
  rw [Nat.div_lt_iff_lt_mul hd, Nat.mul_comm]
  omega

end Frame
