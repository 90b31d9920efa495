import OpenInfra.Chain.Escrow
import OpenInfra.Chain.Lease
import OpenInfra.Chain.NetworkValidator
import OpenInfra.Chain.ProviderSlashing
import OpenInfra.Frame.Run

namespace OpenInfra
open Frame

inductive Call (A : Type) where
  | createLease (leaseId : LeaseId) (provider : A) (resourceHash : ByteVec 32)
      (duration : Nat)
  | updateLeaseState (leaseId : LeaseId) (newState : OpenInfraLease.LeaseState)
  | submitScore (provider : A) (delta : Int)
  | updateVector (provider : A) (compute storage network availability reliability : Nat)
  | recordAvailability (provider : A) (availabilityBps sampleCount : Nat)
  | calculateReward (leaseId : LeaseId) (provider : A)
      (resourceUnits duration reputation availabilityPercent : Nat)
  | claimReward
  | registerProvider (publicKey : ByteVec 32)
  | registerProviderFor (provider : A) (publicKey : ByteVec 32)
  | setStatus (provider : A) (status : ProviderRegistry.ProviderStatus)
  | bondStake (amount : Nat)
  | requestUnbond
  | withdrawBond
  | registerValidator (stake : Nat)
  | requestExit
  | withdrawStake
  | suspend (validator : A)
  | reinstate (validator : A)
  | submitEvidence (provider : A) (round : Nat)
      (dimension : NetworkValidator.ScoreDimension) (scoreBps sampleCount : Nat)
      (payloadHash : ByteVec 32)
  | closeRound (provider : A) (round : Nat) (dimension : NetworkValidator.ScoreDimension)
  | disputeRound (provider : A) (round : Nat)
      (dimension : NetworkValidator.ScoreDimension)
  | resolveRoundDispute (provider : A) (round : Nat)
      (dimension : NetworkValidator.ScoreDimension) (uphold : Bool)
  | recordBreach (provider : A) (dimension : ProviderSlashing.ScoreDimension)
      (firstRound : Nat)
  | appealSlash (provider : A) (dimension : ProviderSlashing.ScoreDimension)
  | resolveSlashAppeal (provider : A) (dimension : ProviderSlashing.ScoreDimension)
      (uphold : Bool)
  | executeSlash (provider : A) (dimension : ProviderSlashing.ScoreDimension)
  | fundEscrow (leaseId : LeaseId) (provider : A) (maxCharge : Nat)
      (price : Escrow.PriceSchedule) (meteringSchemaVersion : Nat)
  | completeAndPayout (leaseId : LeaseId) (evidence : Escrow.MeteringSummary)
  | refundEscrow (leaseId : LeaseId)
  | disputeEscrow (leaseId : LeaseId) (reasonHash : ByteVec 32)
  | resolveEscrowDispute (leaseId : LeaseId) (outcome : Escrow.DisputeOutcome)
  | setPaused (paused : Bool)
  | setFeeBasisPoints (newBps : Nat)
  | setTreasuryAccount (newAccount : A)
  | streamSettle (leaseId : LeaseId) (evidence : Escrow.MeteringSummary)

variable {A Ledger : Type} [LinearOrder A] {E : Env A Ledger}

def dispatch (s : Chain E) (o : Origin A) : Call A → DispatchResult E
  | .createLease leaseId provider resourceHash duration =>
    OpenInfraLease.createLease s o leaseId provider resourceHash duration
  | .updateLeaseState leaseId newState => OpenInfraLease.updateLeaseState s o leaseId newState
  | .submitScore provider delta => Reputation.submitScore s o provider delta
  | .updateVector provider compute storage network availability reliability =>
    Reputation.updateVector s o provider compute storage network availability reliability
  | .recordAvailability provider availabilityBps sampleCount =>
    Reputation.recordAvailability s o provider availabilityBps sampleCount
  | .calculateReward leaseId provider resourceUnits duration reputation availabilityPercent =>
    Rewards.calculateReward s o leaseId provider resourceUnits duration reputation
      availabilityPercent
  | .claimReward => Rewards.claimReward s o
  | .registerProvider publicKey => ProviderRegistry.registerProvider s o publicKey
  | .registerProviderFor provider publicKey =>
    ProviderRegistry.registerProviderFor s o provider publicKey
  | .setStatus provider status => ProviderRegistry.setStatus s o provider status
  | .bondStake amount => ProviderRegistry.bondStake s o amount
  | .requestUnbond => ProviderRegistry.requestUnbond s o
  | .withdrawBond => ProviderRegistry.withdrawUnbonded s o
  | .registerValidator stake => NetworkValidator.registerValidator s o stake
  | .requestExit => NetworkValidator.requestExit s o
  | .withdrawStake => NetworkValidator.withdrawUnbonded s o
  | .suspend validator => NetworkValidator.suspend s o validator
  | .reinstate validator => NetworkValidator.reinstate s o validator
  | .submitEvidence provider round dimension scoreBps sampleCount payloadHash =>
    NetworkValidator.submitEvidence s o provider round dimension scoreBps sampleCount payloadHash
  | .closeRound provider round dimension =>
    NetworkValidator.closeRound s o provider round dimension
  | .disputeRound provider round dimension =>
    NetworkValidator.disputeRound s o provider round dimension
  | .resolveRoundDispute provider round dimension uphold =>
    NetworkValidator.resolveDispute s o provider round dimension uphold
  | .recordBreach provider dimension firstRound =>
    ProviderSlashing.recordBreach s o provider dimension firstRound
  | .appealSlash provider dimension => ProviderSlashing.appealSlash s o provider dimension
  | .resolveSlashAppeal provider dimension uphold =>
    ProviderSlashing.resolveSlashAppeal s o provider dimension uphold
  | .executeSlash provider dimension => ProviderSlashing.executeSlash s o provider dimension
  | .fundEscrow leaseId provider maxCharge price meteringSchemaVersion =>
    Escrow.fundEscrow s o leaseId provider maxCharge price meteringSchemaVersion
  | .completeAndPayout leaseId evidence => Escrow.completeAndPayout s o leaseId evidence
  | .refundEscrow leaseId => Escrow.refundEscrow s o leaseId
  | .disputeEscrow leaseId reasonHash => Escrow.disputeEscrow s o leaseId reasonHash
  | .resolveEscrowDispute leaseId outcome => Escrow.resolveDispute s o leaseId outcome
  | .setPaused paused => Escrow.setPaused s o paused
  | .setFeeBasisPoints newBps => Escrow.setFeeBasisPoints s o newBps
  | .setTreasuryAccount newAccount => Escrow.setTreasuryAccount s o newAccount
  | .streamSettle leaseId evidence => Escrow.streamSettle s o leaseId evidence

/-- An extrinsic, whose failure changes nothing, or `count` new blocks. -/
inductive Action (A : Type) where
  | call (origin : Origin A) (call : Call A)
  | blocks (count : Nat)

def step (s : Chain E) : Action A → Chain E
  | .call origin call => commit s (dispatch s origin call)
  | .blocks count => { s with blockNumber := saturatingAdd 32 s.blockNumber count }

@[simp] theorem step_call (s : Chain E) (o : Origin A) (c : Call A) :
    step s (.call o c) = commit s (dispatch s o c) := rfl

@[simp] theorem step_blocks (s : Chain E) (n : Nat) :
    step s (.blocks n) = { s with blockNumber := saturatingAdd 32 s.blockNumber n } := rfl

end OpenInfra
