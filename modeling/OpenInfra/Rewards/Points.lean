import OpenInfra.Chain.Footprint

namespace OpenInfra.Rewards
open Frame

variable {A Ledger : Type} [LinearOrder A] {E : Env A Ledger}
  {s : Chain E} {leaseId : LeaseId} {provider : A}
  {resourceUnits duration reputation availabilityPercent : Nat}

def scaledReward (resourceUnits duration reputation availabilityPercent : Nat) : Nat :=
  resourceUnits * duration * (1000 + reputation) * availabilityPercent

structure Admissible (s : Chain E) (leaseId : LeaseId)
    (resourceUnits duration reputation availabilityPercent : Nat) : Prop where
  unprocessed : s.rewards.processedLeases leaseId = none
  resourceUnits : 0 < resourceUnits ∧ resourceUnits ≤ E.config.maxRewardResourceUnits
  duration : 0 < duration ∧ duration ≤ E.config.maxRewardDuration
  reputation : reputation ≤ E.config.maxReputation
  availabilityPercent : availabilityPercent ≤ 100

section
variable (h : Admissible s leaseId resourceUnits duration reputation availabilityPercent)

include h

theorem Admissible.factors_le (hpercent : 0 < availabilityPercent) :
    resourceUnits * duration ≤
        scaledReward resourceUnits duration reputation availabilityPercent ∧
      1000 + reputation ≤ scaledReward resourceUnits duration reputation availabilityPercent ∧
      resourceUnits * duration * (1000 + reputation) ≤
        scaledReward resourceUnits duration reputation availabilityPercent := by
  have hbase : 0 < resourceUnits * duration := Nat.mul_pos h.resourceUnits.1 h.duration.1
  have hthree : resourceUnits * duration * (1000 + reputation) ≤
      scaledReward resourceUnits duration reputation availabilityPercent :=
    Nat.le_mul_of_pos_right _ hpercent
  exact ⟨(Nat.le_mul_of_pos_right _ (by omega)).trans hthree,
    (Nat.le_mul_of_pos_left _ hbase).trans hthree, hthree⟩

theorem calculateReward_overflow (hproduct : maxValue 64 <
      scaledReward resourceUnits duration reputation availabilityPercent) :
    calculateReward s .root leaseId provider resourceUnits duration reputation
      availabilityPercent = .error (.rewards .arithmeticOverflow) := by
  unfold calculateReward
  rw [bind_of_ok (x := ensureRoot .root) rfl, ensure_bind h.unprocessed,
    ensure_bind h.resourceUnits, ensure_bind h.duration, ensure_bind h.reputation,
    ensure_bind h.availabilityPercent]
  by_cases hbase : resourceUnits * duration ≤ maxValue 64
  · rw [okOr_bind (checkedMul_eq_some.2 ⟨hbase, rfl⟩)]
    by_cases hfactor : 1000 + reputation ≤ maxValue 64
    · rw [okOr_bind (checkedAdd_eq_some.2 ⟨hfactor, rfl⟩)]
      refine okOr_none_bind (Option.bind_eq_none_iff.2 fun value hvalue => ?_)
      obtain ⟨_, rfl⟩ := checkedMul_eq_some.1 hvalue
      exact if_neg (Nat.not_le_of_lt hproduct)
    · exact okOr_none_bind (if_neg hfactor)
  · exact okOr_none_bind (if_neg hbase)

theorem calculateReward_credits (hpercent : 0 < availabilityPercent)
    (hproduct : scaledReward resourceUnits duration reputation availabilityPercent ≤ maxValue 64)
    (hbalance : s.rewards.rewardBalances provider +
      scaledReward resourceUnits duration reputation availabilityPercent / 100000 ≤ maxValue 64) :
    calculateReward s .root leaseId provider resourceUnits duration reputation
        availabilityPercent ≠ .error (.rewards .arithmeticOverflow) ∧
      (commit s (calculateReward s .root leaseId provider resourceUnits duration reputation
        availabilityPercent)).rewards.rewardBalances provider =
          s.rewards.rewardBalances provider +
            scaledReward resourceUnits duration reputation availabilityPercent / 100000 := by
  obtain ⟨hbase, hfactor, hthree⟩ := h.factors_le hpercent
  have hscaled : ((checkedMul 64 (resourceUnits * duration) (1000 + reputation)).bind fun value =>
      checkedMul 64 value availabilityPercent) =
        some (scaledReward resourceUnits duration reputation availabilityPercent) :=
    Option.bind_eq_some_iff.2 ⟨_, checkedMul_eq_some.2 ⟨hthree.trans hproduct, rfl⟩,
      checkedMul_eq_some.2 ⟨hproduct, rfl⟩⟩
  unfold calculateReward
  rw [bind_of_ok (x := ensureRoot .root) rfl, ensure_bind h.unprocessed,
    ensure_bind h.resourceUnits, ensure_bind h.duration, ensure_bind h.reputation,
    ensure_bind h.availabilityPercent,
    okOr_bind (checkedMul_eq_some.2 ⟨hbase.trans hproduct, rfl⟩),
    okOr_bind (checkedAdd_eq_some.2 ⟨hfactor.trans hproduct, rfl⟩), okOr_bind hscaled]
  dsimp only
  by_cases hpoints : 0 < scaledReward resourceUnits duration reputation availabilityPercent / 100000
  · rw [ensure_bind hpoints, okOr_bind (checkedAdd_eq_some.2 ⟨hbalance, rfl⟩)]
    exact ⟨nofun, Function.update_self ..⟩
  · rw [ensure_eq_error.2 ⟨hpoints, rfl⟩, Nat.eq_zero_of_not_pos hpoints]
    exact ⟨nofun, rfl⟩

end

/-- Credited exactly if the scaled product fits into 64 bits. -/
theorem reward_computable
    (hlease : s.rewards.processedLeases leaseId = none)
    (hunits : 1 ≤ resourceUnits ∧ resourceUnits ≤ E.config.maxRewardResourceUnits)
    (hduration : 1 ≤ duration ∧ duration ≤ E.config.maxRewardDuration)
    (hreputation : reputation ≤ E.config.maxReputation)
    (hpercent : 1 ≤ availabilityPercent ∧ availabilityPercent ≤ 100)
    (hbalance : s.rewards.rewardBalances provider + resourceUnits * duration *
      (1000 + reputation) * availabilityPercent / 100000 ≤ maxValue 64) :
    let call := Call.calculateReward leaseId provider resourceUnits duration reputation
      availabilityPercent
    (dispatch s .root call ≠ .error (.rewards .arithmeticOverflow) ∧
      (step s (.call .root call)).rewards.rewardBalances provider =
        s.rewards.rewardBalances provider +
          resourceUnits * duration * (1000 + reputation) * availabilityPercent / 100000) ↔
      resourceUnits * duration * (1000 + reputation) * availabilityPercent ≤ maxValue 64 := by
  intro call
  have h : Admissible s leaseId resourceUnits duration reputation availabilityPercent :=
    ⟨hlease, hunits, hduration, hreputation, hpercent.2⟩
  constructor
  · rintro ⟨hok, _⟩
    by_contra hproduct
    exact hok (calculateReward_overflow h (Nat.lt_of_not_le hproduct))
  · intro hproduct
    exact calculateReward_credits h hpercent.1 hproduct hbalance

theorem reward_computable_example :
    dispatch devGenesis .root (.calculateReward 7 2 10 100 500 100) ≠
        .error (.rewards .arithmeticOverflow) ∧
      (step devGenesis (.call .root (.calculateReward 7 2 10 100 500 100))).rewards.rewardBalances
        2 = 0 + 10 * 100 * (1000 + 500) * 100 / 100000 :=
  (reward_computable (s := devGenesis) rfl (by decide) (by decide) (by decide) (by decide)
    (by decide)).2 (by decide)

theorem largest_reward_overflows :
    Config.runtime.maxRewardResourceUnits = 10 ^ 9 ∧ Config.runtime.maxRewardDuration = 10 ^ 7 ∧
    10 ^ 9 * 10 ^ 7 * (1000 + 1000) * 100 / 100000 ≤ maxValue 64 ∧
    dispatch devGenesis .root (.calculateReward 7 2 (10 ^ 9) (10 ^ 7) 1000 100) =
      .error (.rewards .arithmeticOverflow) :=
  ⟨rfl, rfl, by decide, failure_eq_some.1 (by decide +kernel)⟩

open Function List

variable {t : Chain E} {round : Nat}

/-- The points that an event gives to `account`, or takes from it. -/
def delta (account : A) : RuntimeEvent A → Int
  | .rewards (.rewardCalculated _ who points) | .rewards (.validatorRewardAccrued who points) =>
    if account = who then points else 0
  | .rewards (.rewardClaimed who points) => if account = who then -points else 0
  | _ => 0

def Balanced (s : Chain E) : Prop :=
  ∀ account, (s.rewards.rewardBalances account : Int) = (s.events.map (delta account)).sum

theorem Balanced.of_writes (h : Writes ps s t) (hp : .rewards ∉ ps) (hs : Balanced s) :
    Balanced t := by
  obtain ⟨es, he, hes⟩ := h.events
  have hr : t.rewards = s.rewards := h.same .rewards hp
  intro account
  have hzero : ∀ e ∈ es, delta account e = 0 := by
    intro e hm
    cases e with
    | rewards => exact absurd (hes _ hm) hp
    | _ => rfl
  rw [he, map_append, sum_append, sum_eq_zero (forall_mem_map.2 hzero), zero_add, hr]
  exact hs account

section
variable (hs : Balanced s)
include hs

theorem Balanced.put (he : t.events = s.events)
    (hb : t.rewards.rewardBalances = update s.rewards.rewardBalances who points)
    (hd : ∀ account, delta account e =
      if account = who then (points : Int) - s.rewards.rewardBalances who else 0) :
    Balanced (t.depositEvent e) := by
  intro account
  have hevents : (t.depositEvent e).events = e :: s.events := congrArg (e :: ·) he
  rw [hevents, map_cons, sum_cons, ← hs account, hd account]
  change ((t.rewards.rewardBalances account : Nat) : Int) = _
  rw [hb, update_apply]
  split
  · subst account
    omega
  · omega

theorem calculateReward_balanced :
    Yields (calculateReward s o leaseId provider resourceUnits duration reputation
      availabilityPercent) Balanced := by
  unfold calculateReward
  iterate 10 refine .bind fun _ _ => ?_
  refine .bind fun _ hnew => .ok (hs.put rfl rfl fun account => ?_)
  obtain ⟨_, rfl⟩ := checkedAdd_eq_some.1 (okOr_eq_ok.1 hnew)
  simp [delta]

theorem claimReward_balanced : Yields (claimReward s o) Balanced := by
  unfold claimReward
  refine .bind fun who _ => .bind fun _ _ => .ok (hs.put rfl rfl fun account => ?_)
  simp [delta]

theorem accruePoints_balanced : Yields (accruePoints s who points) Balanced := by
  unfold accruePoints
  split
  · exact .ok hs
  · refine .bind fun _ hnew => .ok (hs.put rfl rfl fun account => ?_)
    obtain ⟨_, rfl⟩ := checkedAdd_eq_some.1 (okOr_eq_ok.1 hnew)
    simp [delta]

theorem accrueAll_balanced (accepted) :
    Yields (NetworkValidator.accrueAll points s accepted) Balanced := by
  unfold NetworkValidator.accrueAll
  induction accepted generalizing s with
  | nil => exact .ok hs
  | cons entry rest ih =>
    rw [foldlM_cons]
    exact .bind fun t ht => ih (accruePoints_balanced hs t ht)

theorem closeRound_balanced :
    Yields (NetworkValidator.closeRound s o provider round dimension) Balanced := by
  unfold NetworkValidator.closeRound
  iterate 4 refine .bind fun _ _ => ?_
  refine .bind fun t ht => .bind fun u hu => .ok ?_
  have hscored : Balanced t :=
    .of_writes (Reputation.setDimensionScore_writes t ht) (by decide) fun account => hs account
  have hclosed (e) : Writes [.validator] u (u.depositEvent (.networkValidator e)) :=
    (Writes.refl u).deposit _ (.head _)
  exact .of_writes (hclosed _) (by decide) (accrueAll_balanced hscored _ u hu)

theorem step_balanced (a : Action A) : Balanced (step s a) := by
  cases a with
  | blocks count => exact hs
  | call o c =>
    refine Yields.commit (fun t ht => ?_) hs
    by_cases hw : .rewards ∈ c.writes
    · cases c with
      | calculateReward => exact calculateReward_balanced hs t ht
      | claimReward => exact claimReward_balanced hs t ht
      | closeRound => exact closeRound_balanced hs t ht
      | _ => simp [Call.writes] at hw
    · exact .of_writes (dispatch_writes c t ht) hw hs

end

/-- A balance is what the account was given and has not claimed. -/
theorem points_conserved (L : Ledger) (acts : List (Action A)) :
    Balanced (run step (genesis E L) acts) :=
  run_invariant (I := Balanced) (fun _ => rfl) (fun _ a hs => step_balanced hs a) acts

end OpenInfra.Rewards
