import OpenInfra.Chain.ProviderRegistry

namespace OpenInfra.ProviderSlashing
open Frame

variable {A Ledger : Type} [LinearOrder A] {E : Env A Ledger}

def putPending (s : Chain E) (key : A × ScoreDimension) (pending : Option PendingSlash) :
    Chain E :=
  { s with slashing := { s.slashing with
      pendingSlashes := Function.update s.slashing.pendingSlashes key pending } }

def putWatermark (s : Chain E) (key : A × ScoreDimension) (round : Nat) : Chain E :=
  { s with slashing := { s.slashing with
      lastSlashedRound := Function.update s.slashing.lastSlashedRound key (some round) } }

def confidenceBps (view : RoundView) : Nat :=
  if view.committeeTarget = 0 then 0
  else saturatingMul 64 view.submissions 10000 / view.committeeTarget

def checkRound (s : Chain E) (provider : A) (dimension : ScoreDimension)
    (firstRound offset : Nat) : Except DispatchError Unit := do
  let round ← okOr (checkedAdd 64 firstRound offset) (.providerSlashing .roundNotEligible)
  ensure (∀ last ∈ s.slashing.lastSlashedRound (provider, dimension), last < round)
    (.providerSlashing .roundAlreadySlashed)
  let view ← okOr (AvailabilityRoundOracle.round s provider round dimension)
    (.providerSlashing .roundNotEligible)
  ensure (view.status = .final ∨ view.status = .disputeRejected)
    (.providerSlashing .roundNotEligible)
  ensure (saturatingAdd 32 view.closedAt E.config.validatorDisputeWindow ≤ s.blockNumber)
    (.providerSlashing .roundNotEligible)
  ensure (view.scoreBps < E.config.availabilityBreachThresholdBps)
    (.providerSlashing .roundNotEligible)
  ensure (E.config.slashConfidenceThresholdBps ≤ confidenceBps view)
    (.providerSlashing .roundNotEligible)

def recordBreach (s : Chain E) (o : Origin A) (provider : A)
    (dimension : ScoreDimension) (firstRound : Nat) : DispatchResult E := do
  let _ ← ensureSigned o
  ensure (s.slashing.pendingSlashes (provider, dimension) = none)
    (.providerSlashing .slashAlreadyPending)
  ensure (0 < E.config.providerBreachRounds) (.providerSlashing .roundNotEligible)
  (List.range E.config.providerBreachRounds).forM (checkRound s provider dimension firstRound)
  .ok ((putPending s (provider, dimension)
    (some ⟨firstRound, s.blockNumber, .proposed⟩)).depositEvent
    (.providerSlashing (.breachRecorded provider dimension firstRound)))

def deadline (E : Env A Ledger) (pending : PendingSlash) : Nat :=
  saturatingAdd 32 pending.createdAt E.config.slashAppealWindow

def appealSlash (s : Chain E) (o : Origin A) (provider : A)
    (dimension : ScoreDimension) : DispatchResult E := do
  let who ← ensureSigned o
  ensure (who = provider) (.providerSlashing .notSlashSubject)
  let pending ← okOr (s.slashing.pendingSlashes (provider, dimension))
    (.providerSlashing .noPendingSlash)
  ensure (pending.state = .proposed) (.providerSlashing .unexpectedSlashState)
  ensure (s.blockNumber < deadline E pending) (.providerSlashing .appealWindowClosed)
  .ok ((putPending s (provider, dimension) (some { pending with state := .appealed })).depositEvent
    (.providerSlashing (.slashAppealed provider dimension)))

def lastRound (E : Env A Ledger) (firstRound : Nat) : Nat :=
  saturatingAdd 64 firstRound (E.config.providerBreachRounds - 1)

def raisedWatermark (E : Env A Ledger) (last : Option Nat) (firstRound : Nat) : Nat :=
  match last with
  | some current => max current (lastRound E firstRound)
  | none => lastRound E firstRound

def advanceWatermark (s : Chain E) (provider : A) (dimension : ScoreDimension)
    (firstRound : Nat) : Chain E :=
  putWatermark s (provider, dimension)
    (raisedWatermark E (s.slashing.lastSlashedRound (provider, dimension)) firstRound)

def doExecuteSlash (s : Chain E) (provider : A) (dimension : ScoreDimension)
    (firstRound : Nat) : Chain E :=
  let slashed := ProviderRegistry.slashBond s provider E.config.providerSlashAmount
  slashed.1.depositEvent (.providerSlashing
    (.providerSlashed provider dimension firstRound slashed.2.1 slashed.2.2))

def resolveSlashAppeal (s : Chain E) (o : Origin A) (provider : A)
    (dimension : ScoreDimension) (uphold : Bool) : DispatchResult E := do
  ensureRoot o
  let pending ← okOr (s.slashing.pendingSlashes (provider, dimension))
    (.providerSlashing .noPendingSlash)
  ensure (pending.state = .appealed) (.providerSlashing .unexpectedSlashState)
  let s := advanceWatermark s provider dimension pending.firstRound
  let s := if uphold then s else doExecuteSlash s provider dimension pending.firstRound
  .ok ((putPending s (provider, dimension) none).depositEvent
    (.providerSlashing (.slashAppealResolved provider dimension uphold)))

def executeSlash (s : Chain E) (o : Origin A) (provider : A)
    (dimension : ScoreDimension) : DispatchResult E := do
  let _ ← ensureSigned o
  let pending ← okOr (s.slashing.pendingSlashes (provider, dimension))
    (.providerSlashing .noPendingSlash)
  ensure (pending.state = .proposed) (.providerSlashing .unexpectedSlashState)
  ensure (deadline E pending ≤ s.blockNumber) (.providerSlashing .appealWindowNotElapsed)
  let s := advanceWatermark s provider dimension pending.firstRound
  let s := doExecuteSlash s provider dimension pending.firstRound
  .ok (putPending s (provider, dimension) none)

end OpenInfra.ProviderSlashing
