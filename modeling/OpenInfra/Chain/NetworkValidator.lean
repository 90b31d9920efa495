import Mathlib.Data.List.Sort
import OpenInfra.Chain.Bridges

namespace OpenInfra.NetworkValidator
open Frame

variable {A Ledger : Type} [LinearOrder A] {E : Env A Ledger}

def putValidator (s : Chain E) (who : A) (record : Option ValidatorRecord) : Chain E :=
  { s with validator := { s.validator with
      validators := Function.update s.validator.validators who record } }

def putRound (s : Chain E) (key : RoundKey A) (result : RoundResult) : Chain E :=
  { s with validator := { s.validator with
      rounds := Function.update s.validator.rounds key (some result) } }

def putEvidence (s : Chain E) (key : RoundKey A)
    (submissions : BoundedVec (Submission A) E.config.maxValidatorSubmissionsPerRound) :
    Chain E :=
  { s with validator := { s.validator with
      evidence := Function.update s.validator.evidence key submissions } }

def putSubmitters (s : Chain E) (key : RoundKey A)
    (submitters : BoundedVec A E.config.maxValidatorSubmissionsPerRound) : Chain E :=
  { s with validator := { s.validator with
      roundSubmitters := Function.update s.validator.roundSubmitters key submitters } }

def putActiveSet (s : Chain E) (set : BoundedVec A E.config.maxNetworkValidators) :
    Chain E :=
  { s with validator := { s.validator with activeValidatorSet := set } }

def joinActiveSet (s : Chain E) (who : A) : DispatchResult E :=
  if who ∈ s.validator.activeValidatorSet.toList then .ok s else do
    let set ← okOr (s.validator.activeValidatorSet.tryPush who)
      (.networkValidator .tooManyValidators)
    .ok (putActiveSet s set)

def leaveActiveSet (s : Chain E) (who : A) : Chain E :=
  putActiveSet s (s.validator.activeValidatorSet.remove who)

/-- Draw without replacement, each at the index its seed reduces to. -/
def draw (seed : Nat → Nat) : Nat → Nat → List A → List A
  | 0, _, _ => []
  | wanted + 1, nth, candidates =>
    let index := seed nth % candidates.length
    match candidates[index]? with
    | some member => member :: draw seed wanted (nth + 1) (candidates.eraseIdx index)
    | none => []

def committeeSeed (E : Env A Ledger) (provider : A) (round nth : Nat) : Nat :=
  let seed := E.host.blake2_256
    (E.host.encodeAccount provider ++ toLeBytes 8 round ++ toLeBytes 4 nth)
  fromLeBytes (seed.toList.take 8)

def committee (s : Chain E) (provider : A) (round : Nat) : List A :=
  let candidates := s.validator.activeValidatorSet.toList.filter (· ≠ provider)
  let wanted := min E.config.validatorTargetCommitteeSize candidates.length
  draw (committeeSeed E provider round) wanted 0 candidates

def isAssigned (s : Chain E) (provider : A) (round : Nat) (validator : A) :
    Bool :=
  validator ∈ committee s provider round

def isActive (s : Chain E) (validator : A) : Bool :=
  (s.validator.validators validator).any (·.status = .active)

def Submission.le (a b : Submission A) : Prop :=
  a.scoreBps < b.scoreBps ∨ a.scoreBps = b.scoreBps ∧ a.validator ≤ b.validator

instance (a b : Submission A) : Decidable (a.le b) := inferInstanceAs (Decidable (_ ∨ _))

def trimmed (submissions : List (Submission A)) : List (Submission A) × Nat :=
  if submissions.isEmpty then ([], 0)
  else
    let sorted := submissions.insertionSort Submission.le
    let considered := if 3 ≤ sorted.length then (sorted.drop 1).dropLast else sorted
    let total := considered.foldl (fun acc entry => saturatingAdd 32 acc entry.scoreBps) 0
    (considered, min (total / considered.length) 10000)

def ValidatorStatus.isExiting : ValidatorStatus → Bool
  | .exiting _ => true
  | _ => false

def registerValidator (s : Chain E) (o : Origin A) (stake : Nat) :
    DispatchResult E := do
  let who ← ensureSigned o
  ensure (s.validator.validators who = none) (.networkValidator .alreadyRegistered)
  ensure (E.config.minValidatorStake ≤ stake) (.networkValidator .insufficientStake)
  ensure (¬ hasOpenEscrow s who) (.networkValidator .payerHasOpenEscrow)
  ensure (¬ hasOpenBond s who) (.networkValidator .callerIsBondedProvider)
  let s ← joinActiveSet s who
  let ledger ← okOr (E.currency.reserve s.ledger who stake)
    (.networkValidator .insufficientFreeBalance)
  .ok ((putValidator { s with ledger } who (some ⟨.active, stake, s.blockNumber⟩)).depositEvent
    (.networkValidator (.validatorRegistered who stake)))

def requestExit (s : Chain E) (o : Origin A) : DispatchResult E := do
  let who ← ensureSigned o
  let record ← okOr (s.validator.validators who) (.networkValidator .notRegistered)
  ensure (¬ record.status.isExiting) (.networkValidator .alreadyExiting)
  let availableAt ← okOr (checkedAdd 32 s.blockNumber E.config.validatorUnbondingPeriod)
    (.networkValidator .unbondingPeriodOverflow)
  let s := putValidator s who (some { record with status := .exiting availableAt })
  .ok ((leaveActiveSet s who).depositEvent
    (.networkValidator (.validatorExitRequested who availableAt)))

def ensureUnbonded (now : Nat) : ValidatorStatus → Except DispatchError Unit
  | .exiting availableAt => ensure (availableAt ≤ now) (.networkValidator .unbondingNotComplete)
  | _ => .error (.networkValidator .notExiting)

def withdrawUnbonded (s : Chain E) (o : Origin A) : DispatchResult E := do
  let who ← ensureSigned o
  let record ← okOr (s.validator.validators who) (.networkValidator .notRegistered)
  ensureUnbonded s.blockNumber record.status
  let ledger := (E.currency.unreserve s.ledger who record.stake).1
  .ok ((leaveActiveSet (putValidator { s with ledger } who none) who).depositEvent
    (.networkValidator (.validatorExited who record.stake)))

def suspend (s : Chain E) (o : Origin A) (validator : A) : DispatchResult E := do
  ensureRoot o
  let record ← okOr (s.validator.validators validator) (.networkValidator .notRegistered)
  ensure (record.status = .active) (.networkValidator .notActive)
  let s := putValidator s validator (some { record with status := .suspended })
  .ok ((leaveActiveSet s validator).depositEvent
    (.networkValidator (.validatorSuspended validator)))

def reinstate (s : Chain E) (o : Origin A) (validator : A) :
    DispatchResult E := do
  ensureRoot o
  let record ← okOr (s.validator.validators validator) (.networkValidator .notRegistered)
  ensure (record.status = .suspended) (.networkValidator .notSuspended)
  let s ← joinActiveSet (putValidator s validator (some { record with status := .active }))
    validator
  .ok (s.depositEvent (.networkValidator (.validatorReinstated validator)))

def submitEvidence (s : Chain E) (o : Origin A) (provider : A) (round : Nat)
    (dimension : ScoreDimension) (scoreBps sampleCount : Nat) (payloadHash : ByteVec 32) :
    DispatchResult E := do
  let validator ← ensureSigned o
  ensure (isActive s validator) (.networkValidator .notAnActiveValidator)
  ensure (validator ≠ provider) (.networkValidator .selfScoringForbidden)
  ensure (isAssigned s provider round validator) (.networkValidator .notAssignedToRound)
  ensure (scoreBps ≤ 10000) (.networkValidator .scoreOutOfBounds)
  ensure (0 < sampleCount) (.networkValidator .invalidSampleCount)
  let key : RoundKey A := ⟨provider, round, dimension⟩
  ensure (s.validator.rounds key = none) (.networkValidator .roundAlreadyClosed)
  let submissions := s.validator.evidence key
  ensure (¬ submissions.toList.any (·.validator = validator))
    (.networkValidator .duplicateSubmission)
  ensure (¬ submissions.toList.any (·.payloadHash = payloadHash))
    (.networkValidator .copiedEvidence)
  let submissions ← okOr (submissions.tryPush ⟨validator, scoreBps, sampleCount, payloadHash⟩)
    (.networkValidator .tooManySubmissions)
  .ok ((putEvidence s key submissions).depositEvent
    (.networkValidator (.evidenceSubmitted key validator scoreBps)))

def accrueAll (points : Nat) (s : Chain E) (accepted : List (Submission A)) :
    DispatchResult E :=
  accepted.foldlM (fun s entry => Rewards.accruePoints s entry.validator points) s

def closeRound (s : Chain E) (o : Origin A) (provider : A) (round : Nat)
    (dimension : ScoreDimension) : DispatchResult E := do
  let caller ← ensureSigned o
  ensure (isActive s caller) (.networkValidator .notAnActiveValidator)
  let key : RoundKey A := ⟨provider, round, dimension⟩
  ensure (s.validator.rounds key = none) (.networkValidator .roundAlreadyClosed)
  let submissions := (s.validator.evidence key).toList
  let count := submissions.length
  ensure (E.config.validatorMinQuorum ≤ count) (.networkValidator .quorumNotReached)
  let accepted := (trimmed submissions).1
  let scoreBps := (trimmed submissions).2
  let committeeTarget := E.config.validatorTargetCommitteeSize
  let previousScoreBps := ScoringReputationUpdater.dimensionScore s provider dimension
  let s := putRound s key
    ⟨scoreBps, previousScoreBps, count, committeeTarget, s.blockNumber, .final⟩
  let s := putSubmitters s key (.truncateFrom (accepted.map (·.validator)))
  let s := putEvidence s key .empty
  let s ← ScoringReputationUpdater.recordDimensionScore s provider dimension scoreBps
  let s ← accrueAll E.config.validatorPointsPerAcceptedSubmission s accepted
  .ok (s.depositEvent
    (.networkValidator (.roundClosed key scoreBps count committeeTarget accepted.length)))

def disputeRound (s : Chain E) (o : Origin A) (provider : A) (round : Nat)
    (dimension : ScoreDimension) : DispatchResult E := do
  let who ← ensureSigned o
  let key : RoundKey A := ⟨provider, round, dimension⟩
  let result ← okOr (s.validator.rounds key) (.networkValidator .roundNotFound)
  ensure (result.status = .final) (.networkValidator .alreadyDisputed)
  let deadline := saturatingAdd 32 result.closedAt E.config.validatorDisputeWindow
  ensure (s.blockNumber ≤ deadline) (.networkValidator .disputeWindowClosed)
  ensure (who = provider ∨ isAssigned s provider round who)
    (.networkValidator .notEntitledToDispute)
  let s ← ScoringReputationUpdater.recordDimensionScore s provider dimension
    result.previousScoreBps
  .ok ((putRound s key { result with status := .disputed }).depositEvent
    (.networkValidator (.roundDisputed key who result.previousScoreBps)))

def slashSubmitter (key : RoundKey A) (s : Chain E) (validator : A) : Chain E :=
  match s.validator.validators validator with
  | none => s
  | some record =>
    let requested := E.config.validatorSlashAmount
    let (ledger, shortfall) := E.currency.slashReserved s.ledger validator requested
    let slashed := requested - shortfall
    let s := { s with ledger }
    if slashed = 0 then s
    else
      let stake := record.stake - slashed
      let forceSuspended : Bool := stake = 0 && record.status = .active
      let status := if forceSuspended then .suspended else record.status
      let s := putValidator s validator (some { record with stake, status })
      let s := if forceSuspended then leaveActiveSet s validator else s
      s.depositEvent (.networkValidator (.validatorSlashed validator key slashed forceSuspended))

def slashRoundSubmitters (s : Chain E) (key : RoundKey A) : Chain E :=
  (s.validator.roundSubmitters key).toList.foldl (slashSubmitter key) s

def resolveDispute (s : Chain E) (o : Origin A) (provider : A) (round : Nat)
    (dimension : ScoreDimension) (uphold : Bool) : DispatchResult E := do
  ensureRoot o
  let key : RoundKey A := ⟨provider, round, dimension⟩
  let result ← okOr (s.validator.rounds key) (.networkValidator .roundNotFound)
  ensure (result.status = .disputed) (.networkValidator .notDisputed)
  if uphold then
    let s := putRound (slashRoundSubmitters s key) key { result with status := .disputeUpheld }
    .ok (s.depositEvent (.networkValidator (.disputeResolved key true result.previousScoreBps)))
  else do
    let s ← ScoringReputationUpdater.recordDimensionScore s provider dimension result.scoreBps
    let s := putRound s key { result with status := .disputeRejected }
    .ok (s.depositEvent (.networkValidator (.disputeResolved key false result.scoreBps)))

end OpenInfra.NetworkValidator
