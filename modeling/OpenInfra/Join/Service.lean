import OpenInfra.ControlPlane.Backoff
import OpenInfra.Frame.Program
import OpenInfra.Frame.Run
import OpenInfra.Join.Store

namespace OpenInfra.Join
open Frame
open ControlPlane (Uuid Time)

structure Leaf where
  providerID : String
  publicKey : Bytes
  serial : String
  expiresAt : Time
  deriving DecidableEq

inductive Op where
  | insertChallenge (candidate : Challenge)
  | challengeByBeginRequestID (requestID : Uuid)
  | getChallenge (challengeID : Uuid)
  | completeJoin (completion : Completion)
  | activateProvider (providerID : String)
  | providerIdentity (providerID : String)
  | isRevoked (providerID : String)
  | acceptRenewal (providerID : String) (nonce : Nat)
  | acceptHeartbeat (providerID requestID : String) (sequence : Nat) (payloadHash payload : Bytes)
      (ttl : Nat)
  | reconcileWorkloadStatus (providerID : String) (statuses : List (Option WorkloadStatusSummary))
  | dueChainRegistrations (limit : Nat)
  | recordChainRegistrationFailure (providerID : String) (nextAttemptAt : Time) (terminal : Bool)

@[reducible] def Op.Result : Op → Type
  | .insertChallenge _ => Bool
  | .challengeByBeginRequestID _ => Challenge
  | .getChallenge _ => Challenge
  | .completeJoin _ => Completed
  | .activateProvider _ => Completed
  | .providerIdentity _ => ProviderIdentity
  | .isRevoked _ => Bool
  | .dueChainRegistrations _ => List PendingChainRegistration
  | _ => Unit

inductive ChainError where
  | temporarilyBanned
  | other
  deriving DecidableEq

inductive Query where
  | now
  | random
  | issueLeaf (providerID : String) (publicKey : Bytes) (now : Time)
  | ensureActive (publicKey : Bytes)
  | op (o : Op)

@[reducible] def Reply : Query → Type
  | .now => Time
  | .random => Option (Uuid × Bytes)
  | .issueLeaf .. => Option Leaf
  | .ensureActive _ => Except ChainError Unit
  | .op o => Except RepositoryError o.Result

inductive Response where
  | beginJoin (challengeID : Uuid) (nonce : Bytes) (expiresAt : Time)
  | completeJoin (completed : Completed) (leaf : Option Leaf)
  | renewCertificate (leaf : Leaf)
  | reportHeartbeat (acceptedAt : Time)
  | done

abbrev Handler := Program Query Reply (Except Status Response)

structure Peer where
  providerID : String
  serial : String
  chainVerified : Bool
  deriving DecidableEq

structure Service where
  registrar : Bool
  ca : Bool
  revocation : Bool
  renewalNonces : Bool
  heartbeats : Bool
  workloadReconciler : Bool
  batchSize : Nat
  maxAttempts : Nat
  baseBackoff : Nat
  maxBackoff : Nat

inductive Call where
  | beginJoin (peer : Option Peer) (request : BeginJoinRequest)
  | completeJoin (peer : Option Peer) (request : CompleteJoinRequest)
  | renewCertificate (peer : Option Peer) (request : RenewCertificateRequest)
  | reportHeartbeat (peer : Option Peer) (request : ReportHeartbeatRequest)
  | reconcileOnce
  deriving DecidableEq

def fail (code : Code) (message : String) : Handler := pure (.error ⟨code, message⟩)

def check (x : Except String α) (code : Code) (k : α → Handler) : Handler :=
  match x with
  | .error message => fail code message
  | .ok a => k a

def attempt (o : Op) (e : RepositoryError → Status) (k : o.Result → Handler) : Handler := do
  match ← Program.ask (Query.op o) with
  | .error x => pure (.error (e x))
  | .ok a => k a

def createOrGetChallenge (candidate : Challenge) (k : Challenge → Handler) : Handler :=
  attempt (.insertChallenge candidate) repositoryError fun inserted =>
    if inserted then k candidate
    else
      attempt (.challengeByBeginRequestID candidate.beginRequestID) repositoryError fun stored =>
        if stored.requestHash = candidate.requestHash then k stored
        else pure (.error (repositoryError .conflict))

section
variable (lib : Library)

def beginJoin (request : BeginJoinRequest) : Handler :=
  check (validateBeginJoin lib request) .invalidArgument fun requestID => do
    match ← Program.ask Query.random with
    | none => fail .internal "challenge generation failed"
    | some (challengeID, nonce) =>
      let now ← Program.ask Query.now
      createOrGetChallenge
        { challengeID, beginRequestID := requestID, requestHash := beginRequestHash lib request
          publicKey := request.publicKey, protocolVersion := request.protocolVersion
          agentVersion := request.agentVersion, agentEndpoint := request.agentEndpoint, nonce
          expiresAt := now + defaultChallengeTTL }
        fun stored => pure (.ok (.beginJoin stored.challengeID stored.nonce stored.expiresAt))

variable (service : Service)

def enroll (request : CompleteJoinRequest) (completed : Completed) (now : Time) : Handler :=
  if request.tlsPublicKey.length = publicKeySize then
    if service.ca then do
      match ← Program.ask (Query.issueLeaf completed.providerID request.tlsPublicKey now) with
      | none => fail .internal "certificate issuance failed"
      | some leaf => pure (.ok (.completeJoin completed (some leaf)))
    else fail .unavailable "certificate issuance is unavailable"
  else pure (.ok (.completeJoin completed none))

def register (publicKey : Bytes) (completed : Completed) (k : Completed → Handler) : Handler :=
  if completed.status = .active then k completed
  else if service.registrar then do
    match ← Program.ask (Query.ensureActive publicKey) with
    | .error _ => fail .unavailable "provider registration is not finalized"
    | .ok () => attempt (.activateProvider completed.providerID) repositoryError k
  else fail .unavailable "blockchain registrar is unavailable"

def completeJoin (request : CompleteJoinRequest) : Handler :=
  check (validateCompleteJoin lib request) .invalidArgument fun
      (requestID, challengeID, declared) =>
    attempt (.getChallenge challengeID) repositoryError fun challenge =>
      if lib.verify challenge.publicKey (joinDomain ++ challenge.nonce)
          request.challengeSignature then
        check (okOr (lib.marshalCapability declared) "invalid capabilities") .invalidArgument
          fun capabilities => do
            let now ← Program.ask Query.now
            attempt
              (.completeJoin
                { requestID, requestHash := completeRequestHash lib request capabilities, challenge
                  providerID := providerIDOf lib challenge.publicKey, registeredAt := now
                  status := .pending })
              repositoryError fun completed =>
                register service challenge.publicKey completed fun completed =>
                  enroll service request completed now
      else fail .unauthenticated "invalid challenge signature"

def renewalError : RepositoryError → Status
  | .renewalReplay => ⟨.failedPrecondition, "renewal nonce is not increasing"⟩
  | _ => ⟨.internal, "renewal replay check failed"⟩

def activeIdentity (providerID : String) (k : ProviderIdentity → Handler) : Handler :=
  attempt (.providerIdentity providerID) repositoryError fun identity =>
    if identity.status = .active then k identity
    else fail .failedPrecondition "provider is not active"

def checkPeer (peer : Option Peer) (request : RenewCertificateRequest) : Except String Unit := do
  let peer ← okOr peer "no client certificate identity on this connection"
  ensure peer.chainVerified ("renewal requires a connection authenticated with a previously " ++
    "issued leaf certificate, not the bootstrap enrollment path")
  ensure (peer.providerID = request.providerId)
    "provider_id does not match this connection's certificate identity"
  ensure (peer.serial = request.currentCertificateSerial)
    "current_certificate_serial does not match this connection's certificate"

def renewCertificate (peer : Option Peer) (request : RenewCertificateRequest) : Handler :=
  if service.ca = false then fail .unavailable "certificate issuance is unavailable"
  else if service.renewalNonces = false then
    fail .unavailable "renewal replay protection is unavailable"
  else
    check (validateRenewCertificate lib request) .invalidArgument fun timestamp =>
      check (checkPeer peer request) .unauthenticated fun _ =>
        activeIdentity request.providerId fun identity => do
          let now ← Program.ask Query.now
          if Skewed maxRenewalClockSkew timestamp now then
            fail .invalidArgument "timestamp is outside the allowed clock skew"
          else if lib.verify identity.publicKey (renewalSigningPayload request.newTlsPublicKey
              request.currentCertificateSerial timestamp request.nonce) request.signature then
            attempt (.acceptRenewal request.providerId request.nonce) renewalError fun _ => do
              match ← Program.ask
                  (Query.issueLeaf request.providerId request.newTlsPublicKey now) with
              | none => fail .internal "certificate issuance failed"
              | some leaf => pure (.ok (.renewCertificate leaf))
          else fail .unauthenticated "invalid renewal signature"

def reconcileWorkloadStatus (payload : HeartbeatSigningPayload) (k : Handler) : Handler :=
  if service.workloadReconciler = false ∨ payload.workloadStatus = [] then k
  else do
    let _ ← Program.ask
      (Query.op (.reconcileWorkloadStatus payload.providerId payload.workloadStatus))
    k

def reportHeartbeat (request : ReportHeartbeatRequest) : Handler :=
  if service.heartbeats = false then fail .unavailable "heartbeat cache is unavailable"
  else do
    let now ← Program.ask Query.now
    check (validateHeartbeat lib request now) .invalidArgument fun payload =>
      attempt (.providerIdentity payload.providerId) repositoryError fun identity =>
        check (okOr (lib.marshalPayload payload) "invalid heartbeat payload") .invalidArgument
          fun payloadBytes =>
            if identity.status ≠ .active then fail .failedPrecondition "provider is not active"
            else if lib.verify identity.publicKey (heartbeatDomain ++ payloadBytes)
                request.signature then
              attempt
                (.acceptHeartbeat payload.providerId payload.requestId payload.sequence
                  (lib.sha256 payloadBytes) payloadBytes defaultHeartbeatTTL)
                repositoryError fun _ =>
                  reconcileWorkloadStatus service payload do
                    let now ← Program.ask Query.now
                    pure (.ok (.reportHeartbeat now))
            else fail .unauthenticated "invalid heartbeat signature"

def backoffFor (attempt : Nat) : Nat :=
  Backoff.doubled service.maxBackoff (min (attempt - 1) 16) service.baseBackoff

def failRegistration (registration : PendingChainRegistration) (banned terminal : Bool)
    (k : Handler) : Handler := do
  let backoff := backoffFor service (registration.attemptCount + 1)
  let backoff := if banned && backoff < service.maxBackoff then service.maxBackoff else backoff
  let now ← Program.ask Query.now
  let _ ← Program.ask (Query.op
    (.recordChainRegistrationFailure registration.providerID (now + backoff) terminal))
  k

def reconcileOne (registration : PendingChainRegistration) (k : Handler) : Handler :=
  if service.registrar = false then k
  else if registration.publicKey.length ≠ publicKeySize then
    failRegistration service registration false true k
  else do
    match ← Program.ask (Query.ensureActive registration.publicKey) with
    | .error e =>
      failRegistration service registration (e = .temporarilyBanned)
        (service.maxAttempts ≤ registration.attemptCount + 1) k
    | .ok () =>
      let _ ← Program.ask (Query.op (.activateProvider registration.providerID))
      k

def reconcileAll : List PendingChainRegistration → Handler
  | [] => pure (.ok .done)
  | registration :: rest => reconcileOne service registration (reconcileAll rest)

def reconcileOnce : Handler :=
  attempt (.dueChainRegistrations service.batchSize) repositoryError (reconcileAll service)

/-- Without a certificate a peer may only join; a revoked one nothing. -/
def intercept (bootstrap : Bool) (peer : Option Peer) (handler : Handler) : Handler :=
  match peer with
  | none => fail .unauthenticated "no client certificate identity on this connection"
  | some peer =>
    if peer.chainVerified = false then
      if bootstrap then handler
      else fail .unauthenticated
        "a bootstrap (self-signed) certificate may only call BeginJoin/CompleteJoin"
    else if service.revocation then
      attempt (.isRevoked peer.providerID)
        (fun _ => ⟨.unavailable, "revocation status is unavailable"⟩) fun revoked =>
          if revoked then fail .permissionDenied "provider is revoked" else handler
    else handler

def guarded (bootstrap : Bool) (peer : Option Peer) (handler : Handler) : Handler :=
  if service.ca then intercept service bootstrap peer handler else handler

def handle : Call → Handler
  | .beginJoin peer request => guarded service true peer (beginJoin lib request)
  | .completeJoin peer request => guarded service true peer (completeJoin lib service request)
  | .renewCertificate peer request =>
    guarded service false peer (renewCertificate lib service peer request)
  | .reportHeartbeat peer request =>
    guarded service false peer (reportHeartbeat lib service request)
  | .reconcileOnce => reconcileOnce service

end

end OpenInfra.Join
