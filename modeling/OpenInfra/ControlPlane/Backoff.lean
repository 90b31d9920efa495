import Mathlib.Tactic

namespace OpenInfra.Backoff

/-- The loop of both packages, in the 64-bit arithmetic of durations. -/
def doubling (maxBackoff : Int64) : Nat → Int64 → Int64
  | 0, backoff => if maxBackoff < backoff then maxBackoff else backoff
  | shift + 1, backoff =>
    if backoff * 2 ≤ 0 ∨ maxBackoff < backoff * 2 then maxBackoff
    else doubling maxBackoff shift (backoff * 2)

/-- The same loop on natural numbers, which do not overflow. -/
def doubled (limit : Nat) : Nat → Nat → Nat
  | 0, backoff => min backoff limit
  | shift + 1, backoff => if limit < 2 * backoff then limit else doubled limit shift (2 * backoff)

def maxShift : Int64 := 16

def backoffFor (baseBackoff maxBackoff attempt : Int64) : Int64 :=
  let shift := if maxShift < attempt - 1 then maxShift else attempt - 1
  doubling maxBackoff shift.toNatClampNeg baseBackoff

structure RetryPolicy where
  baseBackoff : Int64
  maxBackoff : Int64

def RetryPolicy.backoffFor (retryPolicy : RetryPolicy) (attempt : Int64) : Int64 :=
  Backoff.backoffFor retryPolicy.baseBackoff retryPolicy.maxBackoff attempt

structure ReconcilerConfig where
  baseBackoff : Int64
  maxBackoff : Int64

def ReconcilerConfig.backoffFor (cfg : ReconcilerConfig) (attempt : Int64) : Int64 :=
  Backoff.backoffFor cfg.baseBackoff cfg.maxBackoff attempt

section
variable {base max attempt : Int64}

theorem toInt_doubling (hbase : 0 < base) (n : Nat) :
    (doubling max n base).toInt = min max.toInt (base.toInt * 2 ^ n) := by
  induction n generalizing base with
  | zero =>
    rw [doubling, pow_zero, mul_one]
    split
    · exact (min_eq_left (Int64.lt_iff_toInt_lt.1 ‹_›).le).symm
    · exact (min_eq_right (not_lt.1 (mt Int64.lt_iff_toInt_lt.2 ‹_›))).symm
  | succ n ih =>
    have hpos : 0 < base.toInt := Int64.lt_iff_toInt_lt.1 hbase
    have hpow : base.toInt * 2 ^ (n + 1) = base.toInt * 2 * 2 ^ n := by ring
    have hle : base.toInt * 2 ≤ base.toInt * 2 * 2 ^ n :=
      le_mul_of_one_le_right (by omega) (one_le_pow₀ (by decide))
    have htwice : (base * 2).toInt = (base.toInt * 2).bmod (2 ^ 64) := Int64.toInt_mul base 2
    have hmax := max.toInt_lt
    rw [doubling, hpow]
    by_cases hfits : base.toInt * 2 < 2 ^ 63
    · rw [Int.bmod_eq_of_le (by norm_num; omega) (by norm_num; omega)] at htwice
      have htwo : 0 < base * 2 := Int64.lt_iff_toInt_lt.2 (htwice ▸ show 0 < _ by omega)
      split
      · rename_i hleaves
        have hover := Int64.lt_iff_toInt_lt.1 (hleaves.resolve_left (Int64.not_le.2 htwo))
        exact (min_eq_left ((htwice ▸ hover.le).trans hle)).symm
      · rw [ih htwo, htwice]
    · have hwraps : base * 2 ≤ 0 := by
        have hlt := base.toInt_lt
        rw [Int64.le_iff_toInt_le, htwice, Int.bmod_def, Int64.toInt_zero]
        norm_num at hfits hlt ⊢
        omega
      rw [if_pos (.inl hwraps)]
      exact (min_eq_left (by omega)).symm

theorem doubled_eq (limit shift backoff : Nat) :
    doubled limit shift backoff = min limit (backoff * 2 ^ shift) := by
  induction shift generalizing backoff with
  | zero => rw [doubled, pow_zero, Nat.mul_one, Nat.min_comm]
  | succ shift ih =>
    rw [doubled, show backoff * 2 ^ (shift + 1) = 2 * backoff * 2 ^ shift by ring]
    split
    · have hle := Nat.le_mul_of_pos_right (2 * backoff) (Nat.two_pow_pos shift)
      exact (Nat.min_eq_left (by omega)).symm
    · exact ih _

theorem toInt_doubling_eq_doubled (hmax : 0 ≤ max) (hbase : 0 < base) (n : Nat) :
    (doubling max n base).toInt = doubled max.toInt.toNat n base.toInt.toNat := by
  have hmax : 0 ≤ max.toInt := Int64.le_iff_toInt_le.1 hmax
  have hpos : 0 < base.toInt := Int64.lt_iff_toInt_lt.1 hbase
  rw [toInt_doubling hbase, doubled_eq]
  push_cast
  rw [Int.toNat_of_nonneg hmax, Int.toNat_of_nonneg hpos.le]

theorem toInt_backoffFor (hbase : 0 < base) (hattempt : 1 ≤ attempt) :
    (backoffFor base max attempt).toInt =
      min max.toInt (base.toInt * 2 ^ min (attempt.toInt - 1).toNat 16) := by
  have hshift : (attempt - 1).toInt = attempt.toInt - 1 :=
    Int64.toInt_sub_of_le attempt 1 (by decide) hattempt
  have hsixteen : maxShift.toInt = 16 := rfl
  unfold backoffFor
  rw [toInt_doubling hbase]
  congr 3
  unfold Int64.toNatClampNeg
  split <;> simp only [Int64.lt_iff_toInt_lt] at * <;> omega

end

theorem backoff_well_behaved (base max attempt : Int64) (hbase : 0 < base) (hmax : 0 < max)
    (hattempt : 1 ≤ attempt) :
    let backoff := RetryPolicy.backoffFor ⟨base, max⟩
    backoff attempt = ReconcilerConfig.backoffFor ⟨base, max⟩ attempt ∧
      0 < backoff attempt ∧ backoff attempt ≤ max ∧
      (∀ later, attempt ≤ later → backoff attempt ≤ backoff later) ∧
      (backoff attempt).toInt =
        min max.toInt (base.toInt * 2 ^ min (attempt.toInt - 1).toNat 16) := by
  have hpos : 0 < base.toInt := Int64.lt_iff_toInt_lt.1 hbase
  have hexact (n : Int64) (hn : 1 ≤ n) : (RetryPolicy.backoffFor ⟨base, max⟩ n).toInt = _ :=
    toInt_backoffFor hbase hn
  refine ⟨rfl, ?_, ?_, ?_, hexact attempt hattempt⟩
  · rw [Int64.lt_iff_toInt_lt, hexact attempt hattempt]
    exact lt_min (Int64.lt_iff_toInt_lt.1 hmax) (mul_pos hpos (pow_pos (by decide) _))
  · rw [Int64.le_iff_toInt_le, hexact attempt hattempt]
    exact min_le_left _ _
  · intro later hlater
    rw [Int64.le_iff_toInt_le, hexact attempt hattempt,
      hexact later (Int64.le_trans hattempt hlater)]
    rw [Int64.le_iff_toInt_le] at hlater
    have hshift : min (attempt.toInt - 1).toNat 16 ≤ min (later.toInt - 1).toNat 16 := by omega
    exact min_le_min_left _ (mul_le_mul_of_nonneg_left
      (pow_le_pow_right₀ (by decide) hshift) hpos.le)

theorem backoff_well_behaved_wraps :
    RetryPolicy.backoffFor ⟨0x4000000000000000, 0x7000000000000000⟩ 2 = 0x7000000000000000 ∧
      RetryPolicy.backoffFor ⟨0x4000000000000000, 0x7000000000000000⟩ 2 ≤ 0x7000000000000000 :=
  ⟨by decide, (backoff_well_behaved _ _ 2 (by decide) (by decide) (by decide)).2.2.1⟩

end OpenInfra.Backoff
