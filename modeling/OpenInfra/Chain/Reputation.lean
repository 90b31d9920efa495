import OpenInfra.Chain.State

namespace OpenInfra.Reputation
open Frame

variable {A Ledger : Type} [LinearOrder A] {E : Env A Ledger}

def ReputationVector.get (v : ReputationVector) : VectorDimension → Nat
  | .compute => v.compute
  | .storage => v.storage
  | .network => v.network
  | .availability => v.availability
  | .reliability => v.reliability

def ReputationVector.set (v : ReputationVector) (score : Nat) :
    VectorDimension → ReputationVector
  | .compute => { v with compute := score }
  | .storage => { v with storage := score }
  | .network => { v with network := score }
  | .availability => { v with availability := score }
  | .reliability => { v with reliability := score }

def defaultVector (E : Env A Ledger) : ReputationVector :=
  let score := E.config.defaultReputation
  ⟨score, score, score, score, score, score⟩

def globalValues (compute storage network availability reliability : Nat) : Nat :=
  saturatingAdd 32 (saturatingAdd 32 (saturatingAdd 32 (saturatingAdd 32 compute storage)
    network) availability) reliability / 5

def global (v : ReputationVector) : Nat :=
  globalValues v.compute v.storage v.network v.availability v.reliability

def vectorOf (s : Chain E) (provider : A) : ReputationVector :=
  (s.reputation.reputationVectors provider).getD (defaultVector E)

def putVector (s : Chain E) (provider : A) (v : ReputationVector) : Chain E :=
  { s with reputation := { s.reputation with
      reputationVectors := Function.update s.reputation.reputationVectors provider (some v) } }

def putScore (s : Chain E) (provider : A) (score : Nat) : Chain E :=
  { s with reputation := { s.reputation with
      reputationScores := Function.update s.reputation.reputationScores provider (some score) } }

/-- The `ProviderInspector` of the reputation pallet. -/
def isRegistered (s : Chain E) (provider : A) : Bool :=
  (s.registry.providers provider).isSome

def ensureActiveValidator (s : Chain E) (o : Origin A) : Except DispatchError Unit := do
  let who ← ensureSigned o
  ensure ((s.validator.validators who).map (·.status) = some .active) .badOrigin

def submitScore (s : Chain E) (o : Origin A) (provider : A) (delta : Int) :
    DispatchResult E := do
  ensureActiveValidator s o
  ensure (isRegistered s provider) (.reputation .providerNotRegistered)
  ensure (E.config.defaultReputation ≤ E.config.maxReputation) (.reputation .invalidConfiguration)
  let magnitude := delta.natAbs
  ensure (magnitude ≤ E.config.maxReputationDelta) (.reputation .deltaOutOfBounds)
  let oldScore := (s.reputation.reputationScores provider).getD E.config.defaultReputation
  let newScore := if 0 ≤ delta then min (saturatingAdd 32 oldScore magnitude) E.config.maxReputation
    else oldScore - magnitude
  let vector := { vectorOf s provider with availability := newScore }
  let vector := { vector with global := global vector }
  .ok ((putVector (putScore s provider newScore) provider vector).depositEvent
    (.reputation (.reputationUpdated provider oldScore newScore)))

def updateVector (s : Chain E) (o : Origin A) (provider : A)
    (compute storage network availability reliability : Nat) : DispatchResult E := do
  ensureActiveValidator s o
  ensure (isRegistered s provider) (.reputation .providerNotRegistered)
  [compute, storage, network, availability, reliability].forM fun value =>
    ensure (value ≤ E.config.maxReputation) (.reputation .vectorValueOutOfBounds)
  let vector := ⟨compute, storage, network, availability, reliability,
    globalValues compute storage network availability reliability⟩
  .ok ((putScore (putVector s provider vector) provider availability).depositEvent
    (.reputation (.vectorUpdated provider vector)))

def recordAvailability (s : Chain E) (o : Origin A) (provider : A)
    (availabilityBps sampleCount : Nat) : DispatchResult E := do
  ensureActiveValidator s o
  ensure (isRegistered s provider) (.reputation .providerNotRegistered)
  ensure (availabilityBps ≤ 10000) (.reputation .availabilityOutOfBounds)
  ensure (0 < sampleCount) (.reputation .invalidAvailabilitySamples)
  let scaled ← okOr (checkedMul 32 availabilityBps E.config.maxReputation)
    (.reputation .vectorValueOutOfBounds)
  let score := scaled / 10000
  let vector := { vectorOf s provider with availability := score }
  let vector := { vector with global := global vector }
  .ok ((putScore (putVector s provider vector) provider score).depositEvent
    (.reputation (.vectorUpdated provider vector)))

def setDimensionScore (s : Chain E) (provider : A) (dimension : VectorDimension)
    (scoreBps : Nat) : DispatchResult E := do
  ensure (isRegistered s provider) (.reputation .providerNotRegistered)
  ensure (scoreBps ≤ 10000) (.reputation .availabilityOutOfBounds)
  let scaled ← okOr (checkedMul 32 scoreBps E.config.maxReputation)
    (.reputation .vectorValueOutOfBounds)
  let score := scaled / 10000
  let vector := (vectorOf s provider).set score dimension
  let vector := { vector with global := global vector }
  let s := putVector s provider vector
  let s := if dimension = .availability then putScore s provider score else s
  .ok (s.depositEvent (.reputation (.vectorUpdated provider vector)))

def dimensionScoreBps (s : Chain E) (provider : A) (dimension : VectorDimension) : Nat :=
  if E.config.maxReputation = 0 then 0
  else min (saturatingMul 64 ((vectorOf s provider).get dimension) 10000 / E.config.maxReputation)
    10000

end OpenInfra.Reputation
