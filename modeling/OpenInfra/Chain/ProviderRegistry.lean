import OpenInfra.Chain.Bridges

namespace OpenInfra.ProviderRegistry
open Frame

variable {A Ledger : Type} [LinearOrder A] {E : Env A Ledger}

def putProvider (s : Chain E) (who : A) (p : Provider A) : Chain E :=
  { s with registry := { s.registry with
      providers := Function.update s.registry.providers who (some p) } }

def putBond (s : Chain E) (who : A) (bond : Option BondRecord) : Chain E :=
  { s with registry := { s.registry with
      providerBonds := Function.update s.registry.providerBonds who bond } }

def doRegisterProvider (s : Chain E) (owner : A) (publicKey : ByteVec 32) :
    DispatchResult E := do
  ensure (publicKey ≠ List.Vector.replicate 32 0) (.providerRegistry .invalidPublicKey)
  ensure (s.registry.providers owner = none) (.providerRegistry .alreadyRegistered)
  ensure (s.registry.providerByKey publicKey = none)
    (.providerRegistry .publicKeyAlreadyRegistered)
  let s := putProvider s owner ⟨owner, publicKey, .registered⟩
  let s := { s with registry := { s.registry with
      providerByKey := Function.update s.registry.providerByKey publicKey (some owner) } }
  .ok (s.depositEvent (.providerRegistry (.providerRegistered owner)))

def registerProvider (s : Chain E) (o : Origin A) (publicKey : ByteVec 32) :
    DispatchResult E := do
  let owner ← ensureSigned o
  doRegisterProvider s owner publicKey

def registerProviderFor (s : Chain E) (o : Origin A) (provider : A)
    (publicKey : ByteVec 32) : DispatchResult E := do
  ensureRoot o
  doRegisterProvider s provider publicKey

def validTransition : ProviderStatus → ProviderStatus → Bool
  | .registered, .verified => true
  | .verified, .active => true
  | .active, .suspended => true
  | .suspended, .active => true
  | .registered, .removed => true
  | .verified, .removed => true
  | .active, .removed => true
  | .suspended, .removed => true
  | _, _ => false

/-- The stake that `set_status` compares with `MinStake`. -/
def bonded (s : Chain E) (provider : A) : Nat :=
  ((s.registry.providerBonds provider).map (·.stake)).getD 0

def setStatus (s : Chain E) (o : Origin A) (provider : A)
    (status : ProviderStatus) : DispatchResult E := do
  ensureRoot o
  let record ← okOr (s.registry.providers provider) (.providerRegistry .providerNotFound)
  ensure (validTransition record.status status) (.providerRegistry .invalidStatusTransition)
  ensure (record.status = .verified ∧ status = .active →
      E.config.minProviderStake ≤ bonded s provider)
    (.providerRegistry .insufficientBondForActive)
  .ok ((putProvider s provider { record with status }).depositEvent
    (.providerRegistry (.statusChanged provider status)))

def BondStatus.isExiting : BondStatus → Bool
  | .exiting _ => true
  | .active => false

/-- The bond `bond_stake` would store. -/
def increasedBond (E : Env A Ledger) (amount : Nat) :
    Option BondRecord → Except DispatchError BondRecord
  | none => do
    ensure (E.config.minProviderStake ≤ amount) (.providerRegistry .insufficientStake)
    .ok ⟨amount, .active⟩
  | some record => do
    ensure (¬ record.status.isExiting) (.providerRegistry .alreadyExiting)
    .ok { record with stake := saturatingAdd 64 record.stake amount }

def bondStake (s : Chain E) (o : Origin A) (amount : Nat) : DispatchResult E := do
  let who ← ensureSigned o
  ensure ((s.registry.providers who).isSome) (.providerRegistry .providerNotFound)
  ensure (¬ hasOpenEscrow s who) (.providerRegistry .payerHasOpenEscrow)
  ensure (¬ isRegisteredValidator s who) (.providerRegistry .callerIsRegisteredValidator)
  let record ← increasedBond E amount (s.registry.providerBonds who)
  let ledger ← okOr (E.currency.reserve s.ledger who amount)
    (.providerRegistry .insufficientFreeBalance)
  .ok ((putBond { s with ledger } who (some record)).depositEvent
    (.providerRegistry (.bondIncreased who amount record.stake)))

def requestUnbond (s : Chain E) (o : Origin A) : DispatchResult E := do
  let who ← ensureSigned o
  ensure (¬ hasPendingSlash s who) (.providerRegistry .slashPending)
  let record ← okOr (s.registry.providerBonds who) (.providerRegistry .notBonded)
  ensure (¬ record.status.isExiting) (.providerRegistry .alreadyExiting)
  let availableAt ← okOr (checkedAdd 32 s.blockNumber E.config.providerUnbondingPeriod)
    (.providerRegistry .unbondingPeriodOverflow)
  .ok ((putBond s who (some { record with status := .exiting availableAt })).depositEvent
    (.providerRegistry (.unbondRequested who availableAt)))

def ensureUnbonded (now : Nat) : BondStatus → Except DispatchError Unit
  | .exiting availableAt => ensure (availableAt ≤ now) (.providerRegistry .unbondingNotComplete)
  | .active => .error (.providerRegistry .notExiting)

def withdrawUnbonded (s : Chain E) (o : Origin A) : DispatchResult E := do
  let who ← ensureSigned o
  let record ← okOr (s.registry.providerBonds who) (.providerRegistry .notBonded)
  ensureUnbonded s.blockNumber record.status
  ensure (¬ hasPendingSlash s who) (.providerRegistry .slashPending)
  let ledger := (E.currency.unreserve s.ledger who record.stake).1
  .ok ((putBond { s with ledger } who none).depositEvent
    (.providerRegistry (.bondWithdrawn who record.stake)))

/-- `slash_bond` suspends only an `Active` provider. -/
def forceSuspends (s : Chain E) (provider : A) (stake : Nat) : Bool :=
  stake < E.config.minProviderStake && isActiveProvider s provider

def suspendProvider (s : Chain E) (provider : A) : Chain E :=
  match s.registry.providers provider with
  | some entry => (putProvider s provider { entry with status := .suspended }).depositEvent
      (.providerRegistry (.statusChanged provider .suspended))
  | none => s

/-- The amount slashed, and whether the provider was force-suspended. -/
def slashBond (s : Chain E) (provider : A) (requested : Nat) :
    Chain E × Nat × Bool :=
  match s.registry.providerBonds provider with
  | none => (s, 0, false)
  | some record =>
    let (ledger, shortfall) := E.currency.slashReserved s.ledger provider requested
    let slashed := requested - shortfall
    let s := { s with ledger }
    if slashed = 0 then (s, 0, false)
    else
      let stake := record.stake - slashed
      let s := putBond s provider (some { record with stake })
      if forceSuspends s provider stake then (suspendProvider s provider, slashed, true)
      else (s, slashed, false)

end OpenInfra.ProviderRegistry
