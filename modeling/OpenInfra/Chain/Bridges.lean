import OpenInfra.Chain.Reputation
import OpenInfra.Chain.Rewards

namespace OpenInfra
open Frame

variable {A Ledger : Type} [LinearOrder A] {E : Env A Ledger}

/-- `EscrowPayerInspectorBridge` and `ProviderRegistryEscrowInspectorBridge`. -/
def hasOpenEscrow (s : Chain E) (payer : A) : Bool :=
  0 < s.escrow.payerOpenEscrowCount payer

/-- `EscrowValidatorInspectorBridge` and `ProviderRegistryValidatorInspectorBridge`. -/
def isRegisteredValidator (s : Chain E) (account : A) : Bool :=
  (s.validator.validators account).isSome

def hasOpenBond (s : Chain E) (provider : A) : Bool :=
  (s.registry.providerBonds provider).isSome

/-- `ProviderSlashInspectorBridge`, over all five dimensions. -/
def hasPendingSlash (s : Chain E) (provider : A) : Bool :=
  [ProviderSlashing.ScoreDimension.compute, .storage, .network, .availability, .reliability].any
    fun dimension => (s.slashing.pendingSlashes (provider, dimension)).isSome

/-- `ProviderKeyLookupBridge`. -/
def publicKey (s : Chain E) (provider : A) : Option (ByteVec 32) :=
  (s.registry.providers provider).map (·.publicKey)

/-- `LeaseExistsBridge`. -/
def leaseExists (s : Chain E) (leaseId : LeaseId) : Bool := (s.lease.leases leaseId).isSome

/-- `ActiveProviderLookup`, the lease pallet's eligibility check. -/
def isActiveProvider (s : Chain E) (provider : A) : Bool :=
  (s.registry.providers provider).any (·.status = .active)

namespace ScoringReputationUpdater

def mapDimension : NetworkValidator.ScoreDimension → Reputation.VectorDimension
  | .compute => .compute
  | .storage => .storage
  | .network => .network
  | .availability => .availability
  | .reliability => .reliability

def recordDimensionScore (s : Chain E) (provider : A)
    (dimension : NetworkValidator.ScoreDimension) (scoreBps : Nat) : DispatchResult E :=
  Reputation.setDimensionScore s provider (mapDimension dimension) scoreBps

def dimensionScore (s : Chain E) (provider : A)
    (dimension : NetworkValidator.ScoreDimension) : Nat :=
  Reputation.dimensionScoreBps s provider (mapDimension dimension)

end ScoringReputationUpdater

/-- `EscrowReputationPenaltyBridge`, on the reliability. -/
def applyReputationPenalty (s : Chain E) (provider : A) (penaltyBps : Nat) :
    DispatchResult E :=
  let current := Reputation.dimensionScoreBps s provider .reliability
  Reputation.setDimensionScore s provider .reliability (current - penaltyBps)

namespace AvailabilityRoundOracle

def mapDimension : ProviderSlashing.ScoreDimension → NetworkValidator.ScoreDimension
  | .compute => .compute
  | .storage => .storage
  | .network => .network
  | .availability => .availability
  | .reliability => .reliability

def mapStatus : NetworkValidator.RoundStatus → ProviderSlashing.RoundViewStatus
  | .final => .final
  | .disputed => .disputed
  | .disputeUpheld => .disputeUpheld
  | .disputeRejected => .disputeRejected

def round (s : Chain E) (provider : A) (round : Nat)
    (dimension : ProviderSlashing.ScoreDimension) : Option ProviderSlashing.RoundView :=
  (s.validator.rounds ⟨provider, round, mapDimension dimension⟩).map fun result =>
    ⟨mapStatus result.status, result.scoreBps, result.submissions, result.committeeTarget,
      result.closedAt⟩

end AvailabilityRoundOracle

end OpenInfra
