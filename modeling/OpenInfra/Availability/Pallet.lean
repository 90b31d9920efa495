import OpenInfra.Chain.Runtime

namespace OpenInfra.Availability
open Frame

structure Config where
  maxPendingChallenges : Nat
  maxChallengeLifetime : Nat
  maxProofAge : Nat
  maxProofSamples : Nat

def Config.runtime : Config where
  maxPendingChallenges := 16
  maxChallengeLifetime := 1000
  maxProofAge := 1000
  maxProofSamples := 10000

structure Challenge where
  expectedResponse : ByteVec 32
  deadline : Nat
  deriving DecidableEq

structure AvailabilitySummary where
  sequence : Nat
  observedAt : Nat
  successfulSamples : Nat
  totalSamples : Nat
  availabilityBps : Nat
  payloadHash : ByteVec 32
  signature : BoundedVec UInt8 96

structure Storage (A : Type) (maxPendingChallenges : Nat) where
  lastHeartbeat : A → Option Nat
  nextChallengeId : A → Nat
  challenges : A → Nat → Option Challenge
  pendingChallenges : A → BoundedVec Nat maxPendingChallenges
  lastProofSequence : A → Nat
  latestProof : A → Option AvailabilitySummary

inductive Event (A : Type) where
  | heartbeatReceived (provider : A) (block : Nat)
  | challengeIssued (provider : A) (challengeId deadline : Nat)
  | challengeValidated (provider : A) (challengeId : Nat)
  | proofAccepted (provider : A) (sequence availabilityBps successfulSamples
      totalSamples : Nat)

inductive Error where
  | providerNotRegistered
  | invalidChallengeLifetime
  | tooManyPendingChallenges
  | challengeIdOverflow
  | challengeDeadlineOverflow
  | challengeNotFound
  | challengeTimeout
  | invalidResponse
  | proofSequenceReplay
  | proofTooOld
  | invalidProofSamples
  | invalidProofSignature
  | proofSignatureTooLong
  deriving DecidableEq

inductive CallError where
  | system (e : DispatchError)
  | availability (e : Error)
  deriving DecidableEq

/-- The chain and the storage of the pallet. -/
structure Node {A Ledger : Type} (E : Env A Ledger) (C : Config) where
  chain : Chain E
  availability : Storage A C.maxPendingChallenges
  events : List (Event A)

section
variable {A Ledger : Type} [LinearOrder A] {E : Env A Ledger} {C : Config}

def system (x : Except DispatchError α) : Except CallError α := x.mapError .system

def Node.depositEvent (s : Node E C) (e : Event A) : Node E C :=
  { s with events := e :: s.events }

def Node.now (s : Node E C) : Nat := s.chain.blockNumber

def isRegistered (s : Node E C) (provider : A) : Bool :=
  (s.chain.registry.providers provider).isSome

def ensureActiveValidator (s : Node E C) (o : Origin A) : Except CallError Unit := do
  let who ← system (ensureSigned o)
  ensure (NetworkValidator.isActive s.chain who) (.system .badOrigin)

def submitHeartbeat (s : Node E C) (o : Origin A) : Except CallError (Node E C) := do
  let provider ← system (ensureSigned o)
  ensure (isRegistered s provider) (.availability .providerNotRegistered)
  let block := s.now
  let availability := { s.availability with
    lastHeartbeat := Function.update s.availability.lastHeartbeat provider (some block) }
  .ok ({ s with availability }.depositEvent (.heartbeatReceived provider block))

def issueChallenge (s : Node E C) (o : Origin A) (provider : A)
    (expectedResponse : ByteVec 32) (lifetime : Nat) : Except CallError (Node E C) := do
  system (ensureRoot o)
  ensure (isRegistered s provider) (.availability .providerNotRegistered)
  ensure (lifetime ≠ 0 ∧ lifetime ≤ C.maxChallengeLifetime)
    (.availability .invalidChallengeLifetime)
  let deadline ← okOr (checkedAdd 32 s.now lifetime) (.availability .challengeDeadlineOverflow)
  let challengeId := s.availability.nextChallengeId provider
  let nextId ← okOr (checkedAdd 64 challengeId 1) (.availability .challengeIdOverflow)
  let pending ← okOr ((s.availability.pendingChallenges provider).tryPush challengeId)
    (.availability .tooManyPendingChallenges)
  let availability := { s.availability with
    pendingChallenges := Function.update s.availability.pendingChallenges provider pending
    challenges := Function.update s.availability.challenges provider
      (Function.update (s.availability.challenges provider) challengeId
        (some ⟨expectedResponse, deadline⟩))
    nextChallengeId := Function.update s.availability.nextChallengeId provider nextId }
  .ok ({ s with availability }.depositEvent (.challengeIssued provider challengeId deadline))

def removePending (pending : BoundedVec Nat n) (challengeId : Nat) : BoundedVec Nat n :=
  match pending.toList.idxOf? challengeId with
  | some index => pending.swapRemove index
  | none => pending

def submitResponse (s : Node E C) (o : Origin A) (challengeId : Nat)
    (response : ByteVec 32) : Except CallError (Node E C) := do
  let provider ← system (ensureSigned o)
  let challenge ← okOr (s.availability.challenges provider challengeId)
    (.availability .challengeNotFound)
  ensure (s.now ≤ challenge.deadline) (.availability .challengeTimeout)
  ensure (response = challenge.expectedResponse) (.availability .invalidResponse)
  let availability := { s.availability with
    challenges := Function.update s.availability.challenges provider
      (Function.update (s.availability.challenges provider) challengeId none)
    pendingChallenges := Function.update s.availability.pendingChallenges provider
      (removePending (s.availability.pendingChallenges provider) challengeId) }
  .ok ({ s with availability }.depositEvent (.challengeValidated provider challengeId))

def boundSignature (signature : List UInt8) : Option (BoundedVec UInt8 96) :=
  if h : signature.length ≤ 96 then some ⟨signature, h⟩ else none

def submitProof (s : Node E C) (o : Origin A) (provider : A)
    (sequence observedAt successfulSamples totalSamples : Nat) (payloadHash : ByteVec 32)
    (signature : List UInt8) : Except CallError (Node E C) := do
  ensureActiveValidator s o
  ensure (isRegistered s provider) (.availability .providerNotRegistered)
  ensure (s.availability.lastProofSequence provider < sequence)
    (.availability .proofSequenceReplay)
  ensure (0 < totalSamples ∧ totalSamples ≤ C.maxProofSamples) (.availability .invalidProofSamples)
  ensure (successfulSamples ≤ totalSamples) (.availability .invalidProofSamples)
  ensure (observedAt ≤ s.now) (.availability .proofTooOld)
  let age := s.now - observedAt
  ensure (age ≤ C.maxProofAge) (.availability .proofTooOld)
  let scaled ← okOr (checkedMul 64 successfulSamples 10000) (.availability .invalidProofSamples)
  let availabilityBps := scaled / totalSamples % 2 ^ 16
  let signature ← okOr (boundSignature signature) (.availability .proofSignatureTooLong)
  ensure (signature.toList ≠ []) (.availability .invalidProofSignature)
  let availability := { s.availability with
    lastProofSequence := Function.update s.availability.lastProofSequence provider sequence
    latestProof := Function.update s.availability.latestProof provider
      (some ⟨sequence, observedAt, successfulSamples, totalSamples, availabilityBps, payloadHash,
        signature⟩)
    lastHeartbeat := Function.update s.availability.lastHeartbeat provider (some observedAt) }
  .ok ({ s with availability }.depositEvent
    (.proofAccepted provider sequence availabilityBps successfulSamples totalSamples))

inductive Call (A : Type) where
  | submitHeartbeat
  | issueChallenge (provider : A) (expectedResponse : ByteVec 32) (lifetime : Nat)
  | submitResponse (challengeId : Nat) (response : ByteVec 32)
  | submitProof (provider : A)
      (sequence observedAt successfulSamples totalSamples : Nat) (payloadHash : ByteVec 32)
      (signature : List UInt8)

def dispatch (s : Node E C) (o : Origin A) :
    Call A → Except CallError (Node E C)
  | .submitHeartbeat => submitHeartbeat s o
  | .issueChallenge provider expectedResponse lifetime =>
    issueChallenge s o provider expectedResponse lifetime
  | .submitResponse challengeId response => submitResponse s o challengeId response
  | .submitProof provider sequence observedAt successfulSamples totalSamples payloadHash
      signature =>
    submitProof s o provider sequence observedAt successfulSamples totalSamples payloadHash
      signature

theorem dispatch_chain (s : Node E C) (o : Origin A) (c : Call A) :
    Yields (dispatch s o c) fun t => t.chain = s.chain := by
  cases c with
  | submitHeartbeat => exact .bind fun _ _ => .bind fun _ _ => .ok rfl
  | issueChallenge =>
    repeat refine .bind fun _ _ => ?_
    exact .ok rfl
  | submitResponse =>
    repeat refine .bind fun _ _ => ?_
    exact .ok rfl
  | submitProof =>
    repeat refine .bind fun _ _ => ?_
    exact .ok rfl

inductive Action (A : Type) where
  | call (origin : Origin A) (call : Call A)
  | chain (action : OpenInfra.Action A)

def step (s : Node E C) : Action A → Node E C
  | .call origin call => commit s (dispatch s origin call)
  | .chain action => { s with chain := OpenInfra.step s.chain action }

def genesis (E : Env A Ledger) (C : Config) (L : Ledger) : Node E C where
  chain := OpenInfra.genesis E L
  availability := ⟨fun _ => none, fun _ => 0, fun _ _ => none, fun _ => .empty, fun _ => 0,
    fun _ => none⟩
  events := []

end

end OpenInfra.Availability
