import OpenInfra.Join.Messages

namespace OpenInfra.Join
open Frame
open ControlPlane (Uuid Time)

structure ChallengeRow where
  challenge : Challenge
  consumedAt : Option Time

structure CompletionRow where
  requestID : Uuid
  challengeID : Uuid
  requestHash : Bytes
  providerID : String
  registeredAt : Time

structure ProviderRow where
  providerID : String
  publicKey : Bytes
  protocolVersion : String
  agentVersion : String
  agentEndpoint : String
  status : NodeStatus

inductive RegistrationState where
  | ready
  | submitted
  | finalized
  | retry
  | failed
  deriving DecidableEq

structure ChainRegistration where
  providerID : String
  state : RegistrationState
  attemptCount : Nat
  nextAttemptAt : Option Time

structure PendingChainRegistration where
  providerID : String
  publicKey : Bytes
  attemptCount : Nat

structure Database where
  challenges : Table fun row : ChallengeRow => row.challenge.challengeID
  completions : Table CompletionRow.requestID
  providers : Table ProviderRow.providerID
  registrations : Table ChainRegistration.providerID

namespace Database

def empty : Database := ⟨.empty, .empty, .empty, .empty⟩

def status (db : Database) (providerID : String) : Option NodeStatus :=
  (db.providers.lookup providerID).map (·.status)

def providerIdentity (db : Database) (providerID : String) :
    Except RepositoryError ProviderIdentity := do
  let row ← okOr (db.providers.lookup providerID) .providerNotFound
  .ok ⟨row.publicKey, row.status⟩

def challengeByBeginRequestID (db : Database) (requestID : Uuid) :
    Except RepositoryError Challenge := do
  let row ← okOr (db.challenges.rows.find? fun row => row.challenge.beginRequestID = requestID)
    .challengeNotFound
  .ok row.challenge

/-- It does nothing for a request that has a challenge already. -/
def insertChallenge (db : Database) (candidate : Challenge) :
    Except RepositoryError (Bool × Database) :=
  if (db.challengeByBeginRequestID candidate.beginRequestID).isOk then .ok (false, db)
  else do
    ensure (db.challenges.lookup candidate.challengeID).isNone .other
    .ok (true, { db with challenges := db.challenges.put ⟨candidate, none⟩ })

def getChallenge (db : Database) (challengeID : Uuid) : Except RepositoryError Challenge := do
  let row ← okOr (db.challenges.lookup challengeID) .challengeNotFound
  .ok row.challenge

def existing (db : Database) (requestID : Uuid) : Option (CompletionRow × NodeStatus) := do
  let row ← db.completions.lookup requestID
  let status ← db.status row.providerID
  some (row, status)

/-- A new row, or the old one with its status. -/
def joined (db : Database) (completion : Completion) (publicKey : Bytes) : ProviderRow :=
  match db.providers.lookup completion.providerID with
  | some row =>
    { row with
      protocolVersion := completion.challenge.protocolVersion
      agentVersion := completion.challenge.agentVersion
      agentEndpoint := completion.challenge.agentEndpoint }
  | none =>
    ⟨completion.providerID, publicKey, completion.challenge.protocolVersion,
      completion.challenge.agentVersion, completion.challenge.agentEndpoint, completion.status⟩

def recordCompletion (db : Database) (completion : Completion) (row : ChallengeRow) : Database where
  challenges := db.challenges.put { row with consumedAt := some completion.registeredAt }
  completions := db.completions.put
    ⟨completion.requestID, completion.challenge.challengeID, completion.requestHash,
      completion.providerID, completion.registeredAt⟩
  providers := db.providers.put (db.joined completion row.challenge.publicKey)
  registrations :=
    if (db.registrations.lookup completion.providerID).isSome then db.registrations
    else db.registrations.put ⟨completion.providerID, .ready, 0, none⟩

def openChallenge (db : Database) (completion : Completion) :
    Except RepositoryError ChallengeRow := do
  let row ← okOr (db.challenges.lookup completion.challenge.challengeID) .challengeNotFound
  ensure row.consumedAt.isNone .challengeConsumed
  ensure (completion.registeredAt < row.challenge.expiresAt) .challengeExpired
  ensure (row.challenge.nonce = completion.challenge.nonce ∧
    row.challenge.publicKey = completion.challenge.publicKey) .conflict
  .ok row

/-- Its result says last whether it consumed the challenge. -/
def completeJoin (db : Database) (completion : Completion) :
    Except RepositoryError (Completed × Database × Bool) :=
  match db.existing completion.requestID with
  | some (row, status) => do
    ensure (row.challengeID = completion.challenge.challengeID ∧
      row.requestHash = completion.requestHash) .conflict
    .ok (⟨row.providerID, row.registeredAt, status⟩, db, false)
  | none => do
    let row ← db.openChallenge completion
    ensure (db.completions.lookup completion.requestID).isNone .other
    .ok (⟨completion.providerID, completion.registeredAt, completion.status⟩,
      db.recordCompletion completion row, true)

def earliest (a b : CompletionRow) : CompletionRow :=
  if b.registeredAt < a.registeredAt then b else a

def firstCompletion (db : Database) (providerID : String) : Option CompletionRow :=
  match db.completions.rows.filter fun row => row.providerID = providerID with
  | [] => none
  | row :: rows => some (rows.foldl earliest row)

def setStatus (db : Database) (providerID : String) (status : NodeStatus) :
    Except RepositoryError Database := do
  let row ← okOr (db.providers.lookup providerID) .providerNotFound
  .ok { db with providers := db.providers.put { row with status } }

def finalizeRegistration (db : Database) (providerID : String) : Database :=
  match db.registrations.lookup providerID with
  | some row => { db with registrations := db.registrations.put { row with state := .finalized } }
  | none => db

def activateProvider (db : Database) (providerID : String) :
    Except RepositoryError (Completed × Database) := do
  let db' ← db.setStatus providerID .active
  let row ← okOr (db'.firstCompletion providerID) .other
  .ok (⟨row.providerID, row.registeredAt, .active⟩, db'.finalizeRegistration providerID)

def revokeProvider (db : Database) (providerID : String) : Except RepositoryError Database :=
  db.setStatus providerID .revoked

def listRevokedProviderIDs (db : Database) : List String :=
  (db.providers.rows.filter fun row => row.status = .revoked).map (·.providerID)

def listActive (db : Database) : List ProviderRow :=
  db.providers.rows.filter fun row => row.status = .active

def due (row : ChainRegistration) (now : Time) : Bool :=
  (row.state = .ready || row.state = .retry) && row.nextAttemptAt.all (· ≤ now)

def dueChainRegistrations (db : Database) (limit : Nat) (now : Time) :
    List PendingChainRegistration :=
  ((db.registrations.rows.filter fun row => due row now).filterMap fun row =>
    (db.providers.lookup row.providerID).map fun provider =>
      ⟨row.providerID, provider.publicKey, row.attemptCount⟩).take limit

def recordChainRegistrationFailure (db : Database) (providerID : String) (nextAttemptAt : Time)
    (terminal : Bool) : Except RepositoryError Database := do
  let row ← okOr (db.registrations.lookup providerID) .providerNotFound
  .ok { db with
    registrations := db.registrations.put
      { row with
        state := if terminal then .failed else .retry
        attemptCount := row.attemptCount + 1
        nextAttemptAt := if terminal then none else some nextAttemptAt } }

end Database

structure Heartbeat where
  requestID : String
  sequence : Nat
  payloadHash : Bytes
  payload : Bytes
  expiresAt : Time

structure Cache where
  revoked : List String
  heartbeats : String → Option Heartbeat
  renewals : String → Option Nat

namespace Cache

def empty : Cache := ⟨[], fun _ => none, fun _ => none⟩

def current (cache : Cache) (providerID : String) (now : Time) : Option Heartbeat :=
  (cache.heartbeats providerID).filter fun beat => now < beat.expiresAt

def setHeartbeat (cache : Cache) (providerID : String) (beat : Heartbeat) : Cache :=
  { cache with heartbeats := Function.update cache.heartbeats providerID (some beat) }

section
variable (lib : Library)

def acceptHeartbeat (cache : Cache) (providerID requestID : String) (sequence : Nat)
    (payloadHash payload : Bytes) (ttl : Nat) (now : Time) : Except RepositoryError Cache :=
  match cache.current providerID now with
  | some beat =>
    if beat.requestID = requestID then do
      ensure (beat.payloadHash = payloadHash) .conflict
      .ok (cache.setHeartbeat providerID { beat with expiresAt := now + ttl })
    else do
      ensure (¬ lib.tonumber sequence ≤ lib.tonumber beat.sequence) .heartbeatReplay
      .ok (cache.setHeartbeat providerID ⟨requestID, sequence, payloadHash, payload, now + ttl⟩)
  | none =>
    .ok (cache.setHeartbeat providerID ⟨requestID, sequence, payloadHash, payload, now + ttl⟩)

def acceptRenewal (cache : Cache) (providerID : String) (nonce : Nat) :
    Except RepositoryError Cache := do
  ensure ((cache.renewals providerID).all fun current =>
    ¬ lib.tonumber nonce ≤ lib.tonumber current) .renewalReplay
  .ok { cache with renewals := Function.update cache.renewals providerID (some nonce) }

end

/-- A sweep adds to the revoked set and takes nothing out. -/
def sweep (cache : Cache) (revoked : List String) : Cache :=
  { cache with revoked := cache.revoked ++ revoked }

end Cache

end OpenInfra.Join
