import Mathlib.Data.Vector.Basic
import OpenInfra.Frame.Currency

namespace OpenInfra
open Frame

abbrev LeaseId := Nat
abbrev ByteVec (n : Nat) := List.Vector UInt8 n

inductive Origin (A : Type) where
  | root
  | signed (who : A)
  | none

namespace OpenInfraLease

inductive LeaseState where
  | created
  | active
  | completed
  | expired
  | disputed
  deriving DecidableEq

structure Lease (A : Type) where
  provider : A
  consumer : A
  resourceHash : ByteVec 32
  start : Nat
  endBlock : Nat
  state : LeaseState

inductive Event (A : Type) where
  | leaseCreated (leaseId : LeaseId) (provider consumer : A) (endBlock : Nat)
  | leaseStateChanged (leaseId : LeaseId) (oldState newState : LeaseState)

inductive Error where
  | leaseAlreadyExists
  | leaseNotFound
  | providerNotEligible
  | zeroDuration
  | durationTooLong
  | endBlockOverflow
  | invalidStateTransition
  | leaseNotYetExpired
  deriving DecidableEq

structure Storage (A : Type) where
  leases : LeaseId → Option (Lease A)

end OpenInfraLease

namespace Reputation

inductive VectorDimension where
  | compute
  | storage
  | network
  | availability
  | reliability
  deriving DecidableEq

structure ReputationVector where
  compute : Nat
  storage : Nat
  network : Nat
  availability : Nat
  reliability : Nat
  global : Nat
  deriving DecidableEq

inductive Event (A : Type) where
  | reputationUpdated (provider : A) (oldScore newScore : Nat)
  | vectorUpdated (provider : A) (vector : ReputationVector)

inductive Error where
  | providerNotRegistered
  | invalidConfiguration
  | deltaOutOfBounds
  | vectorValueOutOfBounds
  | availabilityOutOfBounds
  | invalidAvailabilitySamples
  deriving DecidableEq

structure Storage (A : Type) where
  reputationScores : A → Option Nat
  reputationVectors : A → Option ReputationVector

end Reputation

namespace Rewards

inductive Event (A : Type) where
  | rewardCalculated (leaseId : LeaseId) (provider : A) (points : Nat)
  | rewardClaimed (provider : A) (points : Nat)
  | validatorRewardAccrued (validator : A) (points : Nat)

inductive Error where
  | leaseAlreadyRewarded
  | invalidResourceUnits
  | invalidDuration
  | reputationOutOfBounds
  | availabilityOutOfBounds
  | arithmeticOverflow
  | zeroReward
  | insufficientPoints
  deriving DecidableEq

structure Storage (A : Type) where
  rewardBalances : A → Nat
  processedLeases : LeaseId → Option Nat

end Rewards

namespace ProviderRegistry

inductive ProviderStatus where
  | registered
  | verified
  | active
  | suspended
  | removed
  deriving DecidableEq

structure Provider (A : Type) where
  owner : A
  publicKey : ByteVec 32
  status : ProviderStatus

inductive BondStatus where
  | active
  | exiting (availableAt : Nat)
  deriving DecidableEq

structure BondRecord where
  stake : Nat
  status : BondStatus
  deriving DecidableEq

inductive Event (A : Type) where
  | providerRegistered (provider : A)
  | statusChanged (provider : A) (status : ProviderStatus)
  | bondIncreased (provider : A) (added total : Nat)
  | unbondRequested (provider : A) (availableAt : Nat)
  | bondWithdrawn (provider : A) (amount : Nat)

inductive Error where
  | alreadyRegistered
  | publicKeyAlreadyRegistered
  | invalidPublicKey
  | providerNotFound
  | invalidStatusTransition
  | insufficientBondForActive
  | insufficientStake
  | insufficientFreeBalance
  | alreadyExiting
  | notBonded
  | notExiting
  | unbondingNotComplete
  | unbondingPeriodOverflow
  | slashPending
  | payerHasOpenEscrow
  | callerIsRegisteredValidator
  deriving DecidableEq

structure Storage (A : Type) where
  providers : A → Option (Provider A)
  providerByKey : ByteVec 32 → Option A
  providerBonds : A → Option BondRecord

end ProviderRegistry

namespace NetworkValidator

inductive ScoreDimension where
  | compute
  | storage
  | network
  | availability
  | reliability
  deriving DecidableEq

inductive ValidatorStatus where
  | active
  | suspended
  | exiting (availableAt : Nat)
  deriving DecidableEq

structure ValidatorRecord where
  status : ValidatorStatus
  stake : Nat
  registeredAt : Nat
  deriving DecidableEq

structure Submission (A : Type) where
  validator : A
  scoreBps : Nat
  sampleCount : Nat
  payloadHash : ByteVec 32

inductive RoundStatus where
  | final
  | disputed
  | disputeUpheld
  | disputeRejected
  deriving DecidableEq

structure RoundResult where
  scoreBps : Nat
  previousScoreBps : Nat
  submissions : Nat
  committeeTarget : Nat
  closedAt : Nat
  status : RoundStatus
  deriving DecidableEq

structure RoundKey (A : Type) where
  provider : A
  round : Nat
  dimension : ScoreDimension
  deriving DecidableEq

inductive Event (A : Type) where
  | validatorRegistered (validator : A) (stake : Nat)
  | validatorExitRequested (validator : A) (availableAt : Nat)
  | validatorExited (validator : A) (stake : Nat)
  | validatorSuspended (validator : A)
  | validatorReinstated (validator : A)
  | evidenceSubmitted (key : RoundKey A) (validator : A) (scoreBps : Nat)
  | roundClosed (key : RoundKey A) (scoreBps submissions committeeTarget rewarded : Nat)
  | roundDisputed (key : RoundKey A) (disputedBy : A) (restoredScoreBps : Nat)
  | disputeResolved (key : RoundKey A) (upheld : Bool) (effectiveScoreBps : Nat)
  | validatorSlashed (validator : A) (key : RoundKey A) (amount : Nat)
      (forceSuspended : Bool)

inductive Error where
  | alreadyRegistered
  | notRegistered
  | insufficientStake
  | insufficientFreeBalance
  | alreadyExiting
  | notExiting
  | unbondingNotComplete
  | unbondingPeriodOverflow
  | notActive
  | notSuspended
  | notAnActiveValidator
  | selfScoringForbidden
  | duplicateSubmission
  | copiedEvidence
  | tooManySubmissions
  | scoreOutOfBounds
  | invalidSampleCount
  | roundAlreadyClosed
  | quorumNotReached
  | notAssignedToRound
  | tooManyValidators
  | roundNotFound
  | disputeWindowClosed
  | notEntitledToDispute
  | alreadyDisputed
  | notDisputed
  | payerHasOpenEscrow
  | callerIsBondedProvider
  deriving DecidableEq

structure Storage (A : Type) (maxValidators maxSubmissionsPerRound : Nat) where
  validators : A → Option ValidatorRecord
  activeValidatorSet : BoundedVec A maxValidators
  evidence : RoundKey A → BoundedVec (Submission A) maxSubmissionsPerRound
  rounds : RoundKey A → Option RoundResult
  roundSubmitters : RoundKey A → BoundedVec A maxSubmissionsPerRound

end NetworkValidator

namespace ProviderSlashing

inductive ScoreDimension where
  | compute
  | storage
  | network
  | availability
  | reliability
  deriving DecidableEq

inductive RoundViewStatus where
  | final
  | disputed
  | disputeUpheld
  | disputeRejected
  deriving DecidableEq

structure RoundView where
  status : RoundViewStatus
  scoreBps : Nat
  submissions : Nat
  committeeTarget : Nat
  closedAt : Nat

inductive SlashState where
  | proposed
  | appealed
  deriving DecidableEq

structure PendingSlash where
  firstRound : Nat
  createdAt : Nat
  state : SlashState
  deriving DecidableEq

inductive Event (A : Type) where
  | breachRecorded (provider : A) (dimension : ScoreDimension) (firstRound : Nat)
  | slashAppealed (provider : A) (dimension : ScoreDimension)
  | slashAppealResolved (provider : A) (dimension : ScoreDimension) (upheld : Bool)
  | providerSlashed (provider : A) (dimension : ScoreDimension) (firstRound : Nat)
      (amount : Nat) (forceSuspended : Bool)

inductive Error where
  | roundNotEligible
  | roundAlreadySlashed
  | slashAlreadyPending
  | noPendingSlash
  | notSlashSubject
  | unexpectedSlashState
  | appealWindowClosed
  | appealWindowNotElapsed
  deriving DecidableEq

structure Storage (A : Type) where
  pendingSlashes : A × ScoreDimension → Option PendingSlash
  lastSlashedRound : A × ScoreDimension → Option Nat

end ProviderSlashing

namespace Escrow

structure PriceSchedule where
  cpuCoreSecond : Nat
  ramMbSecond : Nat
  storageGbSecond : Nat
  networkMb : Nat
  deriving DecidableEq

inductive EscrowState where
  | funded
  | completed
  | refunded
  | disputed
  | degraded
  deriving DecidableEq

structure EscrowRecord (A : Type) where
  payer : A
  provider : A
  leaseId : LeaseId
  maxCharge : Nat
  price : PriceSchedule
  meteringSchemaVersion : Nat
  lastEvidenceSequence : Nat
  state : EscrowState
  fundedAt : Nat
  settledAt : Option Nat
  disputedOnce : Bool
  cumulativeCharged : Nat
  lastPeriodEnd : Nat
  lastStreamedAt : Option Nat
  deriving DecidableEq

structure MeteringSummary where
  leaseId : LeaseId
  sequence : Nat
  periodStart : Nat
  periodEnd : Nat
  cpuCoreSeconds : Nat
  ramMbSeconds : Nat
  storageGbSeconds : Nat
  networkEgressMb : Nat
  networkIngressMb : Nat
  gpuSeconds : Nat
  meteringSchemaVersion : Nat
  signature : ByteVec 64

inductive DisputeOutcome where
  | payProvider (amount : Nat)
  | refundPayer

inductive Event (A : Type) where
  | escrowFunded (leaseId : LeaseId) (payer provider : A) (maxCharge : Nat)
      (meteringSchemaVersion : Nat)
  | escrowSettled (leaseId : LeaseId) (provider : A) (chargedAmount : Nat)
      (evidenceHash : ByteVec 32)
  | escrowRefunded (leaseId : LeaseId) (payer : A) (amount : Nat)
  | escrowDisputed (leaseId : LeaseId) (disputedBy : A) (reasonHash : ByteVec 32)
  | disputeResolved (leaseId : LeaseId) (outcome : DisputeOutcome)
      (providerAmount payerAmount : Nat)
  | escrowPausedSet (paused : Bool)
  | escrowShortfallWrittenOff (leaseId : LeaseId) (payer provider : A)
      (expectedTotal providerAmount payerAmount shortfall : Nat)
  | feeBasisPointsUpdated (old new : Nat)
  | treasuryAccountUpdated (old : Option A) (new : A)
  | protocolFeeCollected (leaseId : LeaseId) (feeAmount : Nat) (treasuryAccount : A)
  | escrowStreamed (leaseId : LeaseId) (provider : A)
      (periodCharged cumulativeCharged : Nat) (evidenceHash : ByteVec 32)
  | escrowDegraded (leaseId : LeaseId) (provider : A)
      (cappedAmount requestedAmount : Nat)

inductive Error where
  | paused
  | escrowAlreadyFunded
  | escrowBelowMinimum
  | leaseDoesNotExist
  | insufficientFreeBalance
  | escrowNotFound
  | escrowNotFunded
  | leaseIdMismatch
  | meteringSchemaVersionMismatch
  | providerKeyNotFound
  | invalidSignature
  | evidenceSequenceReplay
  | invalidMeteringPeriod
  | meteringPeriodTooLong
  | arithmeticOverflow
  | chargedAmountExceedsCap
  | reserveAccountingInconsistent
  | refundWindowNotElapsed
  | notPayer
  | notPartyToEscrow
  | alreadyDisputed
  | escrowAlreadyDisputedOnce
  | disputeWindowElapsed
  | notDisputed
  | payoutExceedsCap
  | payerIsRegisteredValidator
  | payerIsBondedProvider
  | feeExceedsCap
  | treasuryAccountNotConfigured
  | meteringPeriodOverlap
  | payoutBelowAlreadyStreamed
  deriving DecidableEq

/-- `Escrows` is enumerable because what the chain owes is a sum over its entries. -/
structure Storage (A : Type) where
  escrows : StorageMap LeaseId (EscrowRecord A)
  escrowPaused : Bool
  payerOpenEscrowCount : A → Nat
  feeBasisPoints : Nat
  treasuryAccount : Option A

end Escrow

end OpenInfra
