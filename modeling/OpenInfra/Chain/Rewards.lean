import OpenInfra.Chain.State

namespace OpenInfra.Rewards
open Frame

variable {A Ledger : Type} [LinearOrder A] {E : Env A Ledger}

def putBalance (s : Chain E) (account : A) (points : Nat) : Chain E :=
  { s with rewards := { s.rewards with
      rewardBalances := Function.update s.rewards.rewardBalances account points } }

def calculateReward (s : Chain E) (o : Origin A) (leaseId : LeaseId)
    (provider : A) (resourceUnits duration reputation availabilityPercent : Nat) :
    DispatchResult E := do
  ensureRoot o
  ensure (s.rewards.processedLeases leaseId = none) (.rewards .leaseAlreadyRewarded)
  ensure (0 < resourceUnits ∧ resourceUnits ≤ E.config.maxRewardResourceUnits)
    (.rewards .invalidResourceUnits)
  ensure (0 < duration ∧ duration ≤ E.config.maxRewardDuration) (.rewards .invalidDuration)
  ensure (reputation ≤ E.config.maxReputation) (.rewards .reputationOutOfBounds)
  ensure (availabilityPercent ≤ 100) (.rewards .availabilityOutOfBounds)
  let base ← okOr (checkedMul 64 resourceUnits duration) (.rewards .arithmeticOverflow)
  let reputationMultiplier ← okOr (checkedAdd 64 1000 reputation) (.rewards .arithmeticOverflow)
  let scaled ← okOr ((checkedMul 64 base reputationMultiplier).bind fun value =>
    checkedMul 64 value availabilityPercent) (.rewards .arithmeticOverflow)
  let points := scaled / 100000
  ensure (0 < points) (.rewards .zeroReward)
  let newBalance ← okOr (checkedAdd 64 (s.rewards.rewardBalances provider) points)
    (.rewards .arithmeticOverflow)
  let s := putBalance s provider newBalance
  let s := { s with rewards := { s.rewards with
      processedLeases := Function.update s.rewards.processedLeases leaseId (some points) } }
  .ok (s.depositEvent (.rewards (.rewardCalculated leaseId provider points)))

def claimReward (s : Chain E) (o : Origin A) : DispatchResult E := do
  let who ← ensureSigned o
  let points := s.rewards.rewardBalances who
  ensure (0 < points) (.rewards .insufficientPoints)
  .ok ((putBalance s who 0).depositEvent (.rewards (.rewardClaimed who points)))

def accruePoints (s : Chain E) (account : A) (points : Nat) : DispatchResult E :=
  if points = 0 then .ok s else do
    let newBalance ← okOr (checkedAdd 64 (s.rewards.rewardBalances account) points)
      (.rewards .arithmeticOverflow)
    .ok ((putBalance s account newBalance).depositEvent
      (.rewards (.validatorRewardAccrued account points)))

end OpenInfra.Rewards
