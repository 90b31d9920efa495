import OpenInfra.Chain.Types

namespace OpenInfra
open Frame

structure Config where
  maxLeaseDuration : Nat
  defaultReputation : Nat
  maxReputation : Nat
  maxReputationDelta : Nat
  maxRewardResourceUnits : Nat
  maxRewardDuration : Nat
  minValidatorStake : Nat
  validatorUnbondingPeriod : Nat
  maxValidatorSubmissionsPerRound : Nat
  validatorMinQuorum : Nat
  validatorTargetCommitteeSize : Nat
  maxNetworkValidators : Nat
  validatorDisputeWindow : Nat
  validatorPointsPerAcceptedSubmission : Nat
  validatorSlashAmount : Nat
  escrowRefundWindow : Nat
  escrowDisputeWindow : Nat
  escrowMaxMeteringPeriod : Nat
  minEscrowAmount : Nat
  escrowReliabilityPenaltyBps : Nat
  escrowMaxFeeBasisPoints : Nat
  minProviderStake : Nat
  providerUnbondingPeriod : Nat
  availabilityBreachThresholdBps : Nat
  slashConfidenceThresholdBps : Nat
  providerBreachRounds : Nat
  providerSlashAmount : Nat
  slashAppealWindow : Nat

def Config.runtime : Config where
  maxLeaseDuration := 1000000
  defaultReputation := 500
  maxReputation := 1000
  maxReputationDelta := 250
  maxRewardResourceUnits := 1000000000
  maxRewardDuration := 10000000
  minValidatorStake := 1000
  validatorUnbondingPeriod := 14400
  maxValidatorSubmissionsPerRound := 32
  validatorMinQuorum := 3
  validatorTargetCommitteeSize := 5
  maxNetworkValidators := 256
  validatorDisputeWindow := 300
  validatorPointsPerAcceptedSubmission := 10
  validatorSlashAmount := 100
  escrowRefundWindow := 14400
  escrowDisputeWindow := 300
  escrowMaxMeteringPeriod := 14400
  minEscrowAmount := 100
  escrowReliabilityPenaltyBps := 1000
  escrowMaxFeeBasisPoints := 2000
  minProviderStake := 1000
  providerUnbondingPeriod := 14400
  availabilityBreachThresholdBps := 5000
  slashConfidenceThresholdBps := 8000
  providerBreachRounds := 3
  providerSlashAmount := 150
  slashAppealWindow := 14400

structure Host (A : Type) where
  encodeAccount : A → List UInt8
  blake2_256 : List UInt8 → ByteVec 32
  ed25519Verify : ByteVec 64 → List UInt8 → ByteVec 32 → Bool

structure Env (A Ledger : Type) where
  config : Config
  host : Host A
  currency : ReservableCurrency A Ledger

def Env.runtime (host : Host A) [DecidableEq A] :
    Env A (Balances A) :=
  ⟨Config.runtime, host, Balances.currency⟩

def Host.constant : Host A where
  encodeAccount _ := []
  blake2_256 _ := List.Vector.replicate 32 0
  ed25519Verify _ _ _ := true

def Env.recording (E : Env A Ledger) :
    Env A (Ledger × List (ReservableCurrency.Movement A)) :=
  ⟨E.config, E.host, E.currency.recording⟩

def Env.withCurrency (E : Env A Ledger) (C : ReservableCurrency A Ledger) :
    Env A Ledger :=
  { E with currency := C }

inductive DispatchError where
  | badOrigin
  | lease (e : OpenInfraLease.Error)
  | reputation (e : Reputation.Error)
  | rewards (e : Rewards.Error)
  | providerRegistry (e : ProviderRegistry.Error)
  | networkValidator (e : NetworkValidator.Error)
  | providerSlashing (e : ProviderSlashing.Error)
  | escrow (e : Escrow.Error)
  deriving DecidableEq

inductive RuntimeEvent (A : Type) where
  | lease (e : OpenInfraLease.Event A)
  | reputation (e : Reputation.Event A)
  | rewards (e : Rewards.Event A)
  | providerRegistry (e : ProviderRegistry.Event A)
  | networkValidator (e : NetworkValidator.Event A)
  | providerSlashing (e : ProviderSlashing.Event A)
  | escrow (e : Escrow.Event A)

/-- The storage of the runtime and its events, the latest first. -/
structure Chain (E : Env A Ledger) where
  blockNumber : Nat
  ledger : Ledger
  lease : OpenInfraLease.Storage A
  reputation : Reputation.Storage A
  rewards : Rewards.Storage A
  registry : ProviderRegistry.Storage A
  validator : NetworkValidator.Storage A E.config.maxNetworkValidators
    E.config.maxValidatorSubmissionsPerRound
  slashing : ProviderSlashing.Storage A
  escrow : Escrow.Storage A
  events : List (RuntimeEvent A)

abbrev DispatchResult (E : Env A Ledger) := Except DispatchError (Chain E)

def genesis (E : Env A Ledger) (L : Ledger) : Chain E where
  blockNumber := 0
  ledger := L
  lease := ⟨fun _ => none⟩
  reputation := ⟨fun _ => none, fun _ => none⟩
  rewards := ⟨fun _ => 0, fun _ => none⟩
  registry := ⟨fun _ => none, fun _ => none, fun _ => none⟩
  validator := ⟨fun _ => none, .empty, fun _ => .empty, fun _ => none, fun _ => .empty⟩
  slashing := ⟨fun _ => none, fun _ => none⟩
  escrow := ⟨∅, false, fun _ => 0, 100, none⟩
  events := []

def devGenesis : Chain (Env.runtime (Host.constant : Host Nat)) :=
  genesis _ ⟨fun _ => 10 ^ 12, fun _ => 0⟩

def ensureSigned : Origin A → Except DispatchError A
  | .signed who => .ok who
  | _ => .error .badOrigin

def ensureRoot : Origin A → Except DispatchError Unit
  | .root => .ok ()
  | _ => .error .badOrigin

@[simp] theorem ensureSigned_eq_ok {o : Origin A} :
    ensureSigned o = .ok who ↔ o = .signed who := by
  cases o <;> simp only [ensureSigned, reduceCtorEq, Except.ok.injEq, Origin.signed.injEq]

@[simp] theorem ensureRoot_eq_ok {o : Origin A} : ensureRoot o = .ok u ↔ o = .root := by
  cases o <;> simp only [ensureRoot, reduceCtorEq]

namespace Chain
variable {A Ledger : Type} {E : Env A Ledger}

def depositEvent (s : Chain E) (e : RuntimeEvent A) : Chain E :=
  { s with events := e :: s.events }

def reserved (s : Chain E) (a : A) : Nat := E.currency.reservedBalance s.ledger a

def withCurrency (s : Chain E) (C : ReservableCurrency A Ledger) :
    Chain (E.withCurrency C) where
  blockNumber := s.blockNumber
  ledger := s.ledger
  lease := s.lease
  reputation := s.reputation
  rewards := s.rewards
  registry := s.registry
  validator := s.validator
  slashing := s.slashing
  escrow := s.escrow
  events := s.events

end Chain

end OpenInfra
