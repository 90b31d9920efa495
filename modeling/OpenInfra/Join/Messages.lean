import OpenInfra.ControlPlane.Store

namespace OpenInfra.Join
open Frame
open ControlPlane (Uuid Time AgentWorkloadPhase)

def seconds (n : Nat) : Nat := 1000 * n

def joinDomain : Bytes := utf8 "openinfra-join-v1\x00"

def heartbeatDomain : Bytes := utf8 "openinfra-heartbeat-v1\x00"

def renewDomain : Bytes := utf8 "openinfra-cert-renew-v1\x00"

def defaultChallengeTTL : Nat := seconds 120

def defaultHeartbeatTTL : Nat := seconds 45

def maxHeartbeatClockSkew : Nat := seconds 120

def maxRenewalClockSkew : Nat := maxHeartbeatClockSkew

def publicKeySize : Nat := 32

def signatureSize : Nat := 64

inductive NodeStatus where
  | unspecified
  | pending
  | active
  | offline
  | draining
  | maintenance
  | revoked
  deriving DecidableEq

/-- A float of a message. -/
inductive Reading where
  | nan
  | infinite
  | finite (value : ℚ)
  deriving DecidableEq

def Reading.value? : Reading → Option ℚ
  | .finite value => some value
  | _ => none

structure ResourceCapability where
  cpuTotal : Reading
  cpuAvailable : Reading
  ramTotalMb : Int
  ramAvailableMb : Int
  storageTotalGb : Int
  storageAvailableGb : Int
  deriving DecidableEq

structure WorkloadBandwidthUsage where
  workloadId : String
  windowStartedAt : Option Time
  deriving DecidableEq

structure WorkloadStatusSummary where
  workloadId : String
  phase : AgentWorkloadPhase
  containerId : String
  deriving DecidableEq

structure HeartbeatSigningPayload where
  requestId : String
  providerId : String
  sequence : Nat
  observedAt : Option Time
  capabilities : Option ResourceCapability
  workloadBandwidth : List (Option WorkloadBandwidthUsage)
  workloadStatus : List (Option WorkloadStatusSummary)
  unknown : Bytes
  deriving DecidableEq

structure BeginJoinRequest where
  requestId : String
  publicKey : Bytes
  protocolVersion : String
  agentVersion : String
  agentEndpoint : String
  deriving DecidableEq

structure CompleteJoinRequest where
  requestId : String
  challengeId : String
  challengeSignature : Bytes
  capabilities : Option ResourceCapability
  tlsPublicKey : Bytes
  deriving DecidableEq

structure RenewCertificateRequest where
  requestId : String
  providerId : String
  newTlsPublicKey : Bytes
  currentCertificateSerial : String
  timestamp : Option Time
  nonce : Nat
  signature : Bytes
  deriving DecidableEq

structure ReportHeartbeatRequest where
  payload : Option HeartbeatSigningPayload
  signature : Bytes
  deriving DecidableEq

structure URL where
  scheme : String
  hostname : String
  port : String
  user : Bool
  path : String
  rawQuery : String
  fragment : String

structure Library where
  sha256 : Bytes → Bytes
  verify : Bytes → Bytes → Bytes → Bool
  parseUUID : String → Option Uuid
  parseURL : String → Option URL
  marshalCapability : ResourceCapability → Option Bytes
  marshalPayload : HeartbeatSigningPayload → Option Bytes
  tonumber : Nat → Nat

inductive Code where
  | invalidArgument
  | deadlineExceeded
  | notFound
  | alreadyExists
  | permissionDenied
  | failedPrecondition
  | internal
  | unavailable
  | unauthenticated
  deriving DecidableEq

structure Status where
  code : Code
  message : String
  deriving DecidableEq

inductive RepositoryError where
  | conflict
  | challengeNotFound
  | challengeExpired
  | challengeConsumed
  | providerNotFound
  | heartbeatReplay
  | renewalReplay
  | other
  deriving DecidableEq

def repositoryError : RepositoryError → Status
  | .conflict => ⟨.alreadyExists, "idempotency conflict"⟩
  | .challengeConsumed => ⟨.alreadyExists, "challenge consumed"⟩
  | .challengeNotFound => ⟨.notFound, "challenge not found"⟩
  | .providerNotFound => ⟨.notFound, "provider not found"⟩
  | .heartbeatReplay => ⟨.failedPrecondition, "heartbeat sequence is not increasing"⟩
  | .challengeExpired => ⟨.deadlineExceeded, "challenge expired"⟩
  | .renewalReplay => ⟨.internal, "provider join persistence failed"⟩
  | .other => ⟨.internal, "provider join persistence failed"⟩

structure Challenge where
  challengeID : Uuid
  beginRequestID : Uuid
  requestHash : Bytes
  publicKey : Bytes
  protocolVersion : String
  agentVersion : String
  agentEndpoint : String
  nonce : Bytes
  expiresAt : Time
  deriving DecidableEq

structure Completion where
  requestID : Uuid
  requestHash : Bytes
  challenge : Challenge
  providerID : String
  registeredAt : Time
  status : NodeStatus

structure Completed where
  providerID : String
  registeredAt : Time
  status : NodeStatus

structure ProviderIdentity where
  publicKey : Bytes
  status : NodeStatus

def validateCapabilities (capabilities : ResourceCapability) : Except String Unit := do
  let total ← okOr capabilities.cpuTotal.value? "cpu_total must be a finite positive value"
  ensure (0 < total) "cpu_total must be a finite positive value"
  let available ← okOr capabilities.cpuAvailable.value?
    "cpu_available must be finite and between zero and cpu_total"
  ensure (0 ≤ available ∧ available ≤ total)
    "cpu_available must be finite and between zero and cpu_total"
  ensure (0 < capabilities.ramTotalMb ∧ 0 ≤ capabilities.ramAvailableMb ∧
    capabilities.ramAvailableMb ≤ capabilities.ramTotalMb) "RAM values are inconsistent"
  ensure (0 ≤ capabilities.storageTotalGb ∧ 0 ≤ capabilities.storageAvailableGb ∧
    capabilities.storageAvailableGb ≤ capabilities.storageTotalGb) "storage values are inconsistent"

def maxWorkloadBandwidthEntriesPerHeartbeat : Nat := 256

def maxWorkloadStatusEntriesPerHeartbeat : Nat := 256

def Skewed (skew : Nat) (t now : Time) : Prop := t + skew < now ∨ now + skew < t

instance (skew : Nat) (t now : Time) : Decidable (Skewed skew t now) :=
  inferInstanceAs (Decidable (_ ∨ _))

section
variable (lib : Library)

def validateWorkloadBandwidth (entries : List (Option WorkloadBandwidthUsage)) :
    Except String Unit := do
  ensure (entries.length ≤ maxWorkloadBandwidthEntriesPerHeartbeat)
    "workload_bandwidth exceeds the maximum entries per heartbeat"
  entries.forM fun entry => do
    let entry ← okOr entry "workload_bandwidth entries must not be nil"
    let _ ← okOr (lib.parseUUID entry.workloadId) "workload_bandwidth[].workload_id must be a UUID"
    let _ ← okOr entry.windowStartedAt
      "workload_bandwidth[].window_started_at must be a valid timestamp"

def validateWorkloadStatus (entries : List (Option WorkloadStatusSummary)) :
    Except String Unit := do
  ensure (entries.length ≤ maxWorkloadStatusEntriesPerHeartbeat)
    "workload_status exceeds the maximum entries per heartbeat"
  entries.forM fun entry => do
    let entry ← okOr entry "workload_status entries must not be nil"
    let _ ← okOr (lib.parseUUID entry.workloadId) "workload_status[].workload_id must be a UUID"

def validateHeartbeat (request : ReportHeartbeatRequest) (now : Time) :
    Except String HeartbeatSigningPayload := do
  let payload ← okOr request.payload "payload is required"
  ensure (payload.unknown = []) "payload contains unknown fields"
  let _ ← okOr (lib.parseUUID payload.requestId) "request_id must be a UUID"
  ensure (payload.providerId.utf8ByteSize = 64)
    "provider_id must be a 64-character hexadecimal identifier"
  ensure (payload.providerId.toList.all isHexDigit) "provider_id must be lowercase hexadecimal"
  ensure (payload.providerId.toList.all fun c => c.toLower = c)
    "provider_id must be lowercase hexadecimal"
  ensure (payload.sequence ≠ 0) "sequence must be positive"
  let observedAt ← okOr payload.observedAt "observed_at must be a valid timestamp"
  ensure (¬ Skewed maxHeartbeatClockSkew observedAt now)
    "observed_at is outside the allowed clock skew"
  let capabilities ← okOr payload.capabilities "capabilities are required"
  validateCapabilities capabilities
  validateWorkloadBandwidth lib payload.workloadBandwidth
  validateWorkloadStatus lib payload.workloadStatus
  ensure (request.signature.length = signatureSize)
    ("signature must be " ++ toString signatureSize ++ " bytes")
  .ok payload

def URL.plain (endpoint : URL) : Bool :=
  endpoint.scheme = "https" && endpoint.hostname ≠ "" && endpoint.port ≠ "" && !endpoint.user &&
    endpoint.path = "" && endpoint.rawQuery = "" && endpoint.fragment = ""

def validateBeginJoin (request : BeginJoinRequest) : Except String Uuid := do
  let requestID ← okOr (lib.parseUUID request.requestId) "request_id must be a UUID"
  ensure (request.publicKey.length = publicKeySize)
    ("public_key must be " ++ toString publicKeySize ++ " bytes")
  ensure (request.protocolVersion = "1") "unsupported protocol_version"
  ensure (request.agentVersion ≠ "" ∧ request.agentVersion.utf8ByteSize ≤ 64)
    "agent_version must contain 1 to 64 characters"
  ensure (request.agentEndpoint = "" ∨ request.agentEndpoint.utf8ByteSize ≤ 256 ∧
      (lib.parseURL request.agentEndpoint).any URL.plain)
    "agent_endpoint must be an HTTPS host and explicit port without credentials or path"
  .ok requestID

def validateCompleteJoin (request : CompleteJoinRequest) :
    Except String (Uuid × Uuid × ResourceCapability) := do
  let requestID ← okOr (lib.parseUUID request.requestId) "request_id must be a UUID"
  let challengeID ← okOr (lib.parseUUID request.challengeId) "challenge_id must be a UUID"
  ensure (request.challengeSignature.length = signatureSize)
    ("challenge_signature must be " ++ toString signatureSize ++ " bytes")
  let capabilities ← okOr request.capabilities "capabilities are required"
  validateCapabilities capabilities
  ensure (request.tlsPublicKey.length = 0 ∨ request.tlsPublicKey.length = publicKeySize)
    ("tls_public_key must be empty or " ++ toString publicKeySize ++ " bytes")
  .ok (requestID, challengeID, capabilities)

def validateRenewCertificate (request : RenewCertificateRequest) : Except String Time := do
  let _ ← okOr (lib.parseUUID request.requestId) "request_id must be a UUID"
  ensure (request.providerId.utf8ByteSize = 64)
    "provider_id must be a 64-character hexadecimal identifier"
  ensure (request.newTlsPublicKey.length = publicKeySize)
    ("new_tls_public_key must be " ++ toString publicKeySize ++ " bytes")
  ensure (request.currentCertificateSerial ≠ "") "current_certificate_serial is required"
  ensure (request.nonce ≠ 0) "nonce must be positive"
  ensure (request.signature.length = signatureSize)
    ("signature must be " ++ toString signatureSize ++ " bytes")
  okOr request.timestamp "timestamp must be a valid timestamp"

def providerIDOf (publicKey : Bytes) : String := hexEncode (lib.sha256 publicKey)

def beginRequestHash (request : BeginJoinRequest) : Bytes :=
  lib.sha256 (request.publicKey ++ [0] ++ utf8 request.protocolVersion ++ [0] ++
    utf8 request.agentVersion ++ [0] ++ utf8 request.agentEndpoint)

def completeRequestHash (request : CompleteJoinRequest) (capabilities : Bytes) : Bytes :=
  lib.sha256 (utf8 request.challengeId ++ [0] ++ request.challengeSignature ++ [0] ++ capabilities)

end

def renewalSigningPayload (newTLSPublicKey : Bytes) (currentCertificateSerial : String)
    (timestamp : Time) (nonce : Nat) : Bytes :=
  let serial := utf8 currentCertificateSerial
  renewDomain ++ newTLSPublicKey ++ [UInt8.ofNat serial.length] ++ serial ++
    bigEndian 8 (timestamp / 1000) ++ bigEndian 4 (timestamp % 1000 * 1000000) ++ bigEndian 8 nonce

end OpenInfra.Join
