import OpenInfra.Chain.Bridges

namespace OpenInfra.OpenInfraLease
open Frame

variable {A Ledger : Type} [LinearOrder A] {E : Env A Ledger}

def putLease (s : Chain E) (leaseId : LeaseId) (lease : Lease A) : Chain E :=
  { s with lease := ⟨Function.update s.lease.leases leaseId (some lease)⟩ }

def createLease (s : Chain E) (o : Origin A) (leaseId : LeaseId) (provider : A)
    (resourceHash : ByteVec 32) (duration : Nat) : DispatchResult E := do
  let consumer ← ensureSigned o
  ensure (s.lease.leases leaseId = none) (.lease .leaseAlreadyExists)
  ensure (isActiveProvider s provider) (.lease .providerNotEligible)
  ensure (duration ≠ 0) (.lease .zeroDuration)
  ensure (duration ≤ E.config.maxLeaseDuration) (.lease .durationTooLong)
  let endBlock ← okOr (checkedAdd 32 s.blockNumber duration) (.lease .endBlockOverflow)
  .ok ((putLease s leaseId
    ⟨provider, consumer, resourceHash, s.blockNumber, endBlock, .created⟩).depositEvent
    (.lease (.leaseCreated leaseId provider consumer endBlock)))

def validTransition : LeaseState → LeaseState → Bool
  | .created, .active => true
  | .active, .completed => true
  | .active, .expired => true
  | .active, .disputed => true
  | .disputed, .completed => true
  | _, _ => false

def updateLeaseState (s : Chain E) (o : Origin A) (leaseId : LeaseId)
    (newState : LeaseState) : DispatchResult E := do
  ensureRoot o
  let lease ← okOr (s.lease.leases leaseId) (.lease .leaseNotFound)
  ensure (validTransition lease.state newState) (.lease .invalidStateTransition)
  ensure (newState = .expired → lease.endBlock ≤ s.blockNumber) (.lease .leaseNotYetExpired)
  .ok ((putLease s leaseId { lease with state := newState }).depositEvent
    (.lease (.leaseStateChanged leaseId lease.state newState)))

end OpenInfra.OpenInfraLease
