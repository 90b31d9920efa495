import OpenInfra.Chain.Bridges

namespace OpenInfra.Escrow
open Frame

variable {A Ledger : Type} [LinearOrder A] {E : Env A Ledger}

def putEscrow (s : Chain E) (leaseId : LeaseId) (escrow : EscrowRecord A) : Chain E :=
  { s with escrow := { s.escrow with escrows := s.escrow.escrows.insert leaseId escrow } }

def putOpenCount (s : Chain E) (payer : A) (count : Nat) : Chain E :=
  { s with escrow := { s.escrow with
      payerOpenEscrowCount := Function.update s.escrow.payerOpenEscrowCount payer count } }

def decrementPayerOpenCount (s : Chain E) (payer : A) : Chain E :=
  putOpenCount s payer (s.escrow.payerOpenEscrowCount payer - 1)

def EscrowRecord.remainingCap (escrow : EscrowRecord A) : Nat :=
  escrow.maxCharge - escrow.cumulativeCharged

def meteringSigningPayload (evidence : MeteringSummary) : List UInt8 :=
  toLeBytes 8 evidence.leaseId ++ toLeBytes 8 evidence.sequence ++
  toLeBytes 4 evidence.periodStart ++ toLeBytes 4 evidence.periodEnd ++
  toLeBytes 8 evidence.cpuCoreSeconds ++ toLeBytes 8 evidence.ramMbSeconds ++
  toLeBytes 8 evidence.storageGbSeconds ++ toLeBytes 8 evidence.networkEgressMb ++
  toLeBytes 8 evidence.networkIngressMb ++ toLeBytes 8 evidence.gpuSeconds ++
  toLeBytes 2 evidence.meteringSchemaVersion

def evidenceHash (E : Env A Ledger) (evidence : MeteringSummary) : ByteVec 32 :=
  E.host.blake2_256 (meteringSigningPayload evidence ++ evidence.signature.toList)

def computeCharge (price : PriceSchedule) (evidence : MeteringSummary) :
    Except DispatchError Nat := do
  let cpu ← okOr (checkedMul 64 evidence.cpuCoreSeconds price.cpuCoreSecond)
    (.escrow .arithmeticOverflow)
  let ram ← okOr (checkedMul 64 evidence.ramMbSeconds price.ramMbSecond)
    (.escrow .arithmeticOverflow)
  let storage ← okOr (checkedMul 64 evidence.storageGbSeconds price.storageGbSecond)
    (.escrow .arithmeticOverflow)
  let networkMb ← okOr (checkedAdd 64 evidence.networkEgressMb evidence.networkIngressMb)
    (.escrow .arithmeticOverflow)
  let network ← okOr (checkedMul 64 networkMb price.networkMb) (.escrow .arithmeticOverflow)
  okOr (((checkedAdd 64 cpu ram).bind fun value => checkedAdd 64 value storage).bind fun value =>
    checkedAdd 64 value network) (.escrow .arithmeticOverflow)

def verifyAndCharge (s : Chain E) (escrow : EscrowRecord A) (evidence : MeteringSummary) :
    Except DispatchError Nat := do
  ensure (evidence.meteringSchemaVersion = escrow.meteringSchemaVersion)
    (.escrow .meteringSchemaVersionMismatch)
  let publicKey ← okOr (publicKey s escrow.provider) (.escrow .providerKeyNotFound)
  ensure (E.host.ed25519Verify evidence.signature (meteringSigningPayload evidence) publicKey)
    (.escrow .invalidSignature)
  ensure (escrow.lastEvidenceSequence < evidence.sequence) (.escrow .evidenceSequenceReplay)
  ensure (evidence.periodStart ≤ evidence.periodEnd) (.escrow .invalidMeteringPeriod)
  ensure (evidence.periodEnd - evidence.periodStart ≤ E.config.escrowMaxMeteringPeriod)
    (.escrow .meteringPeriodTooLong)
  ensure (escrow.lastPeriodEnd ≤ evidence.periodStart) (.escrow .meteringPeriodOverlap)
  computeCharge escrow.price evidence

def splitFee (s : Chain E) (chargedAmount : Nat) :
    Except DispatchError (Nat × Nat × Option A) :=
  let feeBps := s.escrow.feeBasisPoints
  if feeBps = 0 then .ok (chargedAmount, 0, none) else do
    let treasury ← okOr s.escrow.treasuryAccount (.escrow .treasuryAccountNotConfigured)
    let product ← okOr (checkedMul 64 chargedAmount feeBps) (.escrow .arithmeticOverflow)
    let feeAmount := product / 10000
    let providerAmount ← okOr (checkedSub chargedAmount feeAmount) (.escrow .arithmeticOverflow)
    .ok (providerAmount, feeAmount, some treasury)

def repatriateExact (E : Env A Ledger) (L : Ledger) (payer target : A)
    (amount : Nat) : Except DispatchError Ledger :=
  if amount = 0 then .ok L else do
    let (ledger, shortfall) ← okOr (E.currency.repatriateReserved L payer target amount)
      (.escrow .reserveAccountingInconsistent)
    ensure (shortfall = 0) (.escrow .reserveAccountingInconsistent)
    .ok ledger

def unreserveExact (E : Env A Ledger) (L : Ledger) (payer : A)
    (amount : Nat) : Except DispatchError Ledger :=
  if amount = 0 then .ok L else do
    let (ledger, unreleased) := E.currency.unreserve L payer amount
    ensure (unreleased = 0) (.escrow .reserveAccountingInconsistent)
    .ok ledger

def collectFee (s : Chain E) (leaseId : LeaseId) (payer : A) (feeAmount : Nat)
    (treasuryAccount : Option A) : DispatchResult E :=
  if feeAmount = 0 then .ok s else do
    let treasury ← okOr treasuryAccount (.escrow .treasuryAccountNotConfigured)
    let ledger ← repatriateExact E s.ledger payer treasury feeAmount
    .ok ({ s with ledger }.depositEvent
      (.escrow (.protocolFeeCollected leaseId feeAmount treasury)))

/-- Pay a charge out of the reserve, and say what the provider got. -/
def payOut (s : Chain E) (leaseId : LeaseId) (escrow : EscrowRecord A)
    (amount : Nat) : Except DispatchError (Chain E × Nat) := do
  let (providerAmount, feeAmount, treasuryAccount) ← splitFee s amount
  let ledger ← repatriateExact E s.ledger escrow.payer escrow.provider providerAmount
  let s ← collectFee { s with ledger } leaseId escrow.payer feeAmount treasuryAccount
  .ok (s, providerAmount)

def fundEscrow (s : Chain E) (o : Origin A) (leaseId : LeaseId) (provider : A)
    (maxCharge : Nat) (price : PriceSchedule) (meteringSchemaVersion : Nat) :
    DispatchResult E := do
  let payer ← ensureSigned o
  ensure (¬ s.escrow.escrowPaused) (.escrow .paused)
  ensure (s.escrow.escrows.lookup leaseId = none) (.escrow .escrowAlreadyFunded)
  ensure (E.config.minEscrowAmount ≤ maxCharge) (.escrow .escrowBelowMinimum)
  ensure (leaseExists s leaseId) (.escrow .leaseDoesNotExist)
  ensure (¬ isRegisteredValidator s payer) (.escrow .payerIsRegisteredValidator)
  ensure (¬ hasOpenBond s payer) (.escrow .payerIsBondedProvider)
  let ledger ← okOr (E.currency.reserve s.ledger payer maxCharge)
    (.escrow .insufficientFreeBalance)
  let s := putEscrow { s with ledger } leaseId
    { payer, provider, leaseId, maxCharge, price, meteringSchemaVersion
      lastEvidenceSequence := 0
      state := .funded
      fundedAt := s.blockNumber
      settledAt := none
      disputedOnce := false
      cumulativeCharged := 0
      lastPeriodEnd := 0
      lastStreamedAt := none }
  let s := putOpenCount s payer (saturatingAdd 32 (s.escrow.payerOpenEscrowCount payer) 1)
  .ok (s.depositEvent
    (.escrow (.escrowFunded leaseId payer provider maxCharge meteringSchemaVersion)))

def completeAndPayout (s : Chain E) (o : Origin A) (leaseId : LeaseId)
    (evidence : MeteringSummary) : DispatchResult E := do
  let _ ← ensureSigned o
  ensure (¬ s.escrow.escrowPaused) (.escrow .paused)
  ensure (evidence.leaseId = leaseId) (.escrow .leaseIdMismatch)
  let escrow ← okOr (s.escrow.escrows.lookup leaseId) (.escrow .escrowNotFound)
  ensure (escrow.state = .funded) (.escrow .escrowNotFunded)
  let chargedAmount ← verifyAndCharge s escrow evidence
  ensure (chargedAmount ≤ escrow.remainingCap) (.escrow .chargedAmountExceedsCap)
  let (s, _) ← payOut s leaseId escrow chargedAmount
  let ledger ← unreserveExact E s.ledger escrow.payer (escrow.remainingCap - chargedAmount)
  let s := decrementPayerOpenCount { s with ledger } escrow.payer
  let s := putEscrow s leaseId { escrow with
    state := .completed
    lastEvidenceSequence := evidence.sequence
    lastPeriodEnd := evidence.periodEnd
    cumulativeCharged := saturatingAdd 64 escrow.cumulativeCharged chargedAmount
    settledAt := some s.blockNumber }
  .ok (s.depositEvent
    (.escrow (.escrowSettled leaseId escrow.provider chargedAmount (evidenceHash E evidence))))

def refundEscrow (s : Chain E) (o : Origin A) (leaseId : LeaseId) :
    DispatchResult E := do
  let who ← ensureSigned o
  ensure (¬ s.escrow.escrowPaused) (.escrow .paused)
  let escrow ← okOr (s.escrow.escrows.lookup leaseId) (.escrow .escrowNotFound)
  ensure (who = escrow.payer) (.escrow .notPayer)
  ensure (escrow.state = .funded) (.escrow .escrowNotFunded)
  let livenessAnchor := escrow.lastStreamedAt.getD escrow.fundedAt
  let unlockAt := saturatingAdd 32 livenessAnchor E.config.escrowRefundWindow
  ensure (unlockAt ≤ s.blockNumber) (.escrow .refundWindowNotElapsed)
  let ledger ← unreserveExact E s.ledger escrow.payer escrow.remainingCap
  let s := decrementPayerOpenCount { s with ledger } escrow.payer
  let s := putEscrow s leaseId
    { escrow with state := .refunded, settledAt := some s.blockNumber }
  .ok (s.depositEvent (.escrow (.escrowRefunded leaseId escrow.payer escrow.remainingCap)))

def ensureDisputable (s : Chain E) (escrow : EscrowRecord A) :
    Except DispatchError Unit :=
  match escrow.state with
  | .funded => .ok ()
  | .completed | .refunded | .degraded => do
    ensure (¬ escrow.disputedOnce) (.escrow .escrowAlreadyDisputedOnce)
    let settledAt := escrow.settledAt.getD escrow.fundedAt
    let deadline := saturatingAdd 32 settledAt E.config.escrowDisputeWindow
    ensure (s.blockNumber ≤ deadline) (.escrow .disputeWindowElapsed)
  | .disputed => .error (.escrow .alreadyDisputed)

def disputeEscrow (s : Chain E) (o : Origin A) (leaseId : LeaseId)
    (reasonHash : ByteVec 32) : DispatchResult E := do
  let who ← ensureSigned o
  ensure (¬ s.escrow.escrowPaused) (.escrow .paused)
  let escrow ← okOr (s.escrow.escrows.lookup leaseId) (.escrow .escrowNotFound)
  ensure (who = escrow.payer ∨ who = escrow.provider) (.escrow .notPartyToEscrow)
  ensureDisputable s escrow
  let s := putEscrow s leaseId { escrow with state := .disputed, disputedOnce := true }
  .ok (s.depositEvent (.escrow (.escrowDisputed leaseId who reasonHash)))

structure Resolution where
  providerAmount : Nat
  payerAmount : Nat
  finalState : EscrowState
  shortfall : Nat

/-- The path for a reserve below the remaining cap. -/
def payFromShortReserve (s : Chain E) (escrow : EscrowRecord A) (incremental : Nat) :
    Except DispatchError (Chain E × Resolution) := do
  let (ledger, unmoved) ← okOr
    (E.currency.repatriateReserved s.ledger escrow.payer escrow.provider incremental)
    (.escrow .reserveAccountingInconsistent)
  let paid := incremental - unmoved
  let remainder := escrow.remainingCap - incremental
  if remainder = 0 then
    .ok ({ s with ledger }, ⟨paid, 0, .completed, escrow.remainingCap - paid⟩)
  else
    let (ledger, unreleased) := E.currency.unreserve ledger escrow.payer remainder
    let returned := remainder - unreleased
    let shortfall := escrow.remainingCap - saturatingAdd 64 paid returned
    .ok ({ s with ledger }, ⟨paid, returned, .completed, shortfall⟩)

def payProvider (s : Chain E) (leaseId : LeaseId) (escrow : EscrowRecord A)
    (amount : Nat) : Except DispatchError (Chain E × Resolution) := do
  ensure (amount ≤ escrow.maxCharge) (.escrow .payoutExceedsCap)
  ensure (escrow.cumulativeCharged ≤ amount) (.escrow .payoutBelowAlreadyStreamed)
  let incremental := amount - escrow.cumulativeCharged
  if escrow.settledAt.isSome then .ok (s, ⟨0, 0, .completed, escrow.maxCharge⟩)
  else if s.reserved escrow.payer < escrow.remainingCap then
    payFromShortReserve s escrow incremental
  else do
    let (s, paidToProvider) ← payOut s leaseId escrow incremental
    let remainder := escrow.remainingCap - incremental
    let ledger ← unreserveExact E s.ledger escrow.payer remainder
    .ok ({ s with ledger }, ⟨paidToProvider, remainder, .completed, 0⟩)

def refundPayer (s : Chain E) (escrow : EscrowRecord A) :
    Except DispatchError (Chain E × Resolution) := do
  let s ← applyReputationPenalty s escrow.provider E.config.escrowReliabilityPenaltyBps
  if escrow.settledAt.isSome then .ok (s, ⟨0, 0, .refunded, escrow.maxCharge⟩)
  else
    let (ledger, unreleased) := E.currency.unreserve s.ledger escrow.payer escrow.remainingCap
    .ok ({ s with ledger }, ⟨0, escrow.remainingCap - unreleased, .refunded, unreleased⟩)

def settleOutcome (s : Chain E) (leaseId : LeaseId) (escrow : EscrowRecord A) :
    DisputeOutcome → Except DispatchError (Chain E × Resolution)
  | .payProvider amount => payProvider s leaseId escrow amount
  | .refundPayer => refundPayer s escrow

/-- The writes of `resolve_dispute` once the outcome is settled. -/
def recordResolution (s : Chain E) (leaseId : LeaseId) (escrow : EscrowRecord A)
    (outcome : DisputeOutcome) (r : Resolution) : Chain E :=
  let s := if escrow.settledAt.isNone then decrementPayerOpenCount s escrow.payer else s
  let s := putEscrow s leaseId { escrow with
    state := r.finalState
    settledAt := some s.blockNumber
    cumulativeCharged := escrow.maxCharge }
  let s := s.depositEvent
    (.escrow (.disputeResolved leaseId outcome r.providerAmount r.payerAmount))
  if r.shortfall = 0 then s else s.depositEvent
    (.escrow (.escrowShortfallWrittenOff leaseId escrow.payer escrow.provider escrow.maxCharge
      r.providerAmount r.payerAmount r.shortfall))

def resolveDispute (s : Chain E) (o : Origin A) (leaseId : LeaseId)
    (outcome : DisputeOutcome) : DispatchResult E := do
  ensureRoot o
  ensure (¬ s.escrow.escrowPaused) (.escrow .paused)
  let escrow ← okOr (s.escrow.escrows.lookup leaseId) (.escrow .escrowNotFound)
  ensure (escrow.state = .disputed) (.escrow .notDisputed)
  let (s, r) ← settleOutcome s leaseId escrow outcome
  .ok (recordResolution s leaseId escrow outcome r)

def setPaused (s : Chain E) (o : Origin A) (paused : Bool) : DispatchResult E := do
  ensureRoot o
  .ok ({ s with escrow := { s.escrow with escrowPaused := paused } }.depositEvent
    (.escrow (.escrowPausedSet paused)))

def setFeeBasisPoints (s : Chain E) (o : Origin A) (newBps : Nat) : DispatchResult E := do
  ensureRoot o
  ensure (newBps ≤ E.config.escrowMaxFeeBasisPoints) (.escrow .feeExceedsCap)
  .ok ({ s with escrow := { s.escrow with feeBasisPoints := newBps } }.depositEvent
    (.escrow (.feeBasisPointsUpdated s.escrow.feeBasisPoints newBps)))

def setTreasuryAccount (s : Chain E) (o : Origin A) (newAccount : A) :
    DispatchResult E := do
  ensureRoot o
  .ok ({ s with escrow := { s.escrow with treasuryAccount := some newAccount } }.depositEvent
    (.escrow (.treasuryAccountUpdated s.escrow.treasuryAccount newAccount)))

/-- An over-cap period degrades the escrow, an exactly exhausted one completes it. -/
def streamed (now : Nat) (evidence : MeteringSummary) (thisCharge : Nat)
    (capped : Bool) (escrow : EscrowRecord A) : EscrowRecord A :=
  let escrow := { escrow with
    cumulativeCharged := saturatingAdd 64 escrow.cumulativeCharged thisCharge
    lastEvidenceSequence := evidence.sequence
    lastPeriodEnd := evidence.periodEnd
    lastStreamedAt := some now }
  if capped then { escrow with state := .degraded, settledAt := some now }
  else if escrow.cumulativeCharged = escrow.maxCharge then
    { escrow with state := .completed, settledAt := some now }
  else escrow

def EscrowRecord.streamCharge (escrow : EscrowRecord A) (periodCharge : Nat) : Nat :=
  if escrow.remainingCap < periodCharge then escrow.remainingCap else periodCharge

/-- The writes of `stream_settle` once the charge is paid out. -/
def recordStream (s : Chain E) (leaseId : LeaseId) (escrow : EscrowRecord A)
    (evidence : MeteringSummary) (periodCharge : Nat) : Chain E :=
  let capped : Bool := escrow.remainingCap < periodCharge
  let thisCharge := escrow.streamCharge periodCharge
  let escrow := streamed s.blockNumber evidence thisCharge capped escrow
  let s := if capped ∨ escrow.cumulativeCharged = escrow.maxCharge then
    decrementPayerOpenCount s escrow.payer else s
  let s := putEscrow s leaseId escrow
  let s := s.depositEvent (.escrow (.escrowStreamed leaseId escrow.provider thisCharge
    escrow.cumulativeCharged (evidenceHash E evidence)))
  if capped then s.depositEvent
    (.escrow (.escrowDegraded leaseId escrow.provider thisCharge periodCharge)) else s

def streamSettle (s : Chain E) (o : Origin A) (leaseId : LeaseId)
    (evidence : MeteringSummary) : DispatchResult E := do
  let _ ← ensureSigned o
  ensure (¬ s.escrow.escrowPaused) (.escrow .paused)
  ensure (evidence.leaseId = leaseId) (.escrow .leaseIdMismatch)
  let escrow ← okOr (s.escrow.escrows.lookup leaseId) (.escrow .escrowNotFound)
  ensure (escrow.state = .funded) (.escrow .escrowNotFunded)
  let periodCharge ← verifyAndCharge s escrow evidence
  let (s, _) ← payOut s leaseId escrow (escrow.streamCharge periodCharge)
  .ok (recordStream s leaseId escrow evidence periodCharge)

end OpenInfra.Escrow
