import Mathlib
import OpenInfra.Frame.Hex
import OpenInfra.Frame.Table

namespace OpenInfra.ControlPlane
open Frame

abbrev Uuid := Fin (2 ^ 128)
abbrev Time := Nat

instance lawfulUuid : LawfulBEq Uuid := inferInstance

inductive WorkloadState where
  | requested
  | scheduling
  | leasePending
  | leased
  | deploying
  | running
  | stopping
  | stopped
  | completed
  | failed
  deriving DecidableEq

namespace WorkloadState

def claimable : List WorkloadState :=
  [.requested, .scheduling, .leasePending, .leased, .deploying, .stopping]

def terminal : List WorkloadState := [.stopped, .completed, .failed]

def reserving : List WorkloadState := [.leasePending, .leased, .deploying, .running]

end WorkloadState

inductive ErrorCode where
  | invalidDefinition
  | directoryUnavailable
  | noCapacity
  | providerUnavailable
  | leaseNotFinalized
  | agentStatusUnknown
  | volumeLookupFailed
  | securityGroupLookupFailed
  | agentDeployFailed
  | overlayAttachFailed
  | agentStopFailed
  | overlayRevokeFailed
  | leaseCompletionNotFinalized
  | agentReportedFailed
  | agentReportedLost
  deriving DecidableEq

def ErrorCode.text : ErrorCode → String
  | .invalidDefinition => "INVALID_DEFINITION"
  | .directoryUnavailable => "DIRECTORY_UNAVAILABLE"
  | .noCapacity => "NO_CAPACITY"
  | .providerUnavailable => "PROVIDER_UNAVAILABLE"
  | .leaseNotFinalized => "LEASE_NOT_FINALIZED"
  | .agentStatusUnknown => "AGENT_STATUS_UNKNOWN"
  | .volumeLookupFailed => "VOLUME_LOOKUP_FAILED"
  | .securityGroupLookupFailed => "SECURITY_GROUP_LOOKUP_FAILED"
  | .agentDeployFailed => "AGENT_DEPLOY_FAILED"
  | .overlayAttachFailed => "OVERLAY_ATTACH_FAILED"
  | .agentStopFailed => "AGENT_STOP_FAILED"
  | .overlayRevokeFailed => "OVERLAY_REVOKE_FAILED"
  | .leaseCompletionNotFinalized => "LEASE_COMPLETION_NOT_FINALIZED"
  | .agentReportedFailed => "AGENT_REPORTED_FAILED"
  | .agentReportedLost => "AGENT_REPORTED_LOST"

structure Resources where
  cpuMillicores : Int64
  ramMB : Int64
  storageGB : Int64
  ingressMbps : Int64
  egressMbps : Int64
  deriving DecidableEq

inductive Dimension where
  | cpu
  | ram
  | storage
  | ingress
  | egress

def Dimension.all : List Dimension := [.cpu, .ram, .storage, .ingress, .egress]

theorem Dimension.mem_all (d : Dimension) : d ∈ all := by cases d <;> simp [all]

namespace Resources

def zero : Resources := ⟨0, 0, 0, 0, 0⟩

def get (x : Resources) : Dimension → Int64
  | .cpu => x.cpuMillicores
  | .ram => x.ramMB
  | .storage => x.storageGB
  | .ingress => x.ingressMbps
  | .egress => x.egressMbps

def of (f : Dimension → Int64) : Resources := ⟨f .cpu, f .ram, f .storage, f .ingress, f .egress⟩

/-- The sums of Go's `int64`, which wrap. -/
def add (x y : Resources) : Resources := of fun d => x.get d + y.get d

def Fits (x capacity : Resources) : Prop := ∀ d ∈ Dimension.all, x.get d ≤ capacity.get d

instance (x capacity : Resources) : Decidable (x.Fits capacity) :=
  inferInstanceAs (Decidable (∀ _ ∈ _, _))

theorem Fits.get {x capacity : Resources} (h : x.Fits capacity) (d : Dimension) :
    x.get d ≤ capacity.get d := h d d.mem_all

/-- The checks of the five columns, of which `reserved_cpu_millicores` is an `integer`. -/
def Storable (x : Resources) : Prop := zero.Fits x ∧ x.cpuMillicores < 2147483648

instance (x : Resources) : Decidable x.Storable := inferInstanceAs (Decidable (_ ∧ _))

@[simp] theorem get_of (f : Dimension → Int64) (d : Dimension) : (of f).get d = f d := by
  cases d <;> rfl

@[simp] theorem get_zero (d : Dimension) : zero.get d = 0 := by cases d <;> rfl

theorem get_add (x y : Resources) (d : Dimension) : (x.add y).get d = x.get d + y.get d :=
  get_of _ d

end Resources

/-- A row of the `workloads` table. -/
structure Workload where
  workloadID : Uuid
  requestID : Uuid
  ownerID : Uuid
  projectID : Option Uuid
  requestHash : BitVec 256
  definition : ByteArray
  image : String
  vmImageSha256 : String
  state : WorkloadState
  providerID : Option String
  leaseID : Option Nat
  resourceHash : Option (BitVec 256)
  containerID : Option String
  attemptCount : Nat
  nextAttemptAt : Option Time
  workerID : Option String
  workerLeaseUntil : Option Time
  errorCode : Option ErrorCode
  lastError : Option ByteArray
  stopRequestID : Option Uuid
  stopRequestedAt : Option Time
  version : Nat
  createdAt : Time
  updatedAt : Time
  reserved : Resources
  deriving DecidableEq

namespace Workload

def Checks (r : Workload) : Prop :=
  (r.state ∈ [.leasePending, .leased, .deploying, .running, .completed] → r.providerID.isSome) ∧
  (r.state ∈ [.leased, .deploying, .running, .completed] → r.leaseID.isSome) ∧
  (r.state ∈ [.running, .completed] → r.containerID.isSome) ∧ r.reserved.Storable

instance (r : Workload) : Decidable r.Checks := inferInstanceAs (Decidable (_ ∧ _ ∧ _ ∧ _))

def Claimable (r : Workload) (now : Time) : Prop :=
  r.state ∈ WorkloadState.claimable ∧ (∀ t ∈ r.nextAttemptAt, t ≤ now) ∧
    ∀ t ∈ r.workerLeaseUntil, t ≤ now

instance (r : Workload) (now : Time) : Decidable (r.Claimable now) :=
  inferInstanceAs (Decidable (_ ∧ _ ∧ _))

def HeldBy (r item : Workload) (now : Time) : Prop :=
  r.version = item.version ∧ r.workerID.isSome ∧ r.workerID = item.workerID ∧
    ∃ t ∈ r.workerLeaseUntil, now < t

instance (r item : Workload) (now : Time) : Decidable (r.HeldBy item now) :=
  inferInstanceAs (Decidable (_ ∧ _ ∧ _ ∧ _))

end Workload

inductive StoreError where
  | notFound
  | conflict
  | capacityExceeded
  | claimArguments
  | containerRequired
  | reconcileArguments
  | checkViolation
  | invalidText
  | sequenceExhausted
  | outOfRange
  deriving DecidableEq

def StoreError.message : StoreError → String
  | .notFound => "workload not found"
  | .conflict => "workload idempotency conflict"
  | .capacityExceeded => "provider capacity exceeded"
  | .claimArguments => "worker id and positive claim duration are required"
  | .containerRequired => "container id is required"
  | .reconcileArguments =>
    "workload id, provider id, target state, and at least one source state are required"
  | .checkViolation => "new row for relation workloads violates check constraint"
  | .invalidText => "invalid byte sequence for encoding UTF8"
  | .sequenceExhausted => "nextval: reached maximum value of sequence workload_lease_id_seq"
  | .outOfRange => "can't scan into dest: out of range for int64"

/-- The table and the last value of its lease sequence. -/
structure Store where
  workloads : Table Workload.workloadID
  leaseSeq : Nat

namespace Store

def empty : Store := ⟨.empty, 0⟩

def row (s : Store) (w : Uuid) : Option Workload := s.workloads.lookup w

def write (s : Store) (r : Workload) : Except StoreError Store :=
  if r.Checks then .ok { s with workloads := s.workloads.put r } else .error .checkViolation

theorem write_eq_ok {s t : Store} {r : Workload} :
    s.write r = .ok t ↔ r.Checks ∧ t = { s with workloads := s.workloads.put r } := by
  unfold write
  split <;> simp only [*, Except.ok.injEq, reduceCtorEq, true_and, false_and, eq_comm]

@[simp] theorem row_put (s : Store) (r : Workload) (w : Uuid) :
    ({ s with workloads := s.workloads.put r } : Store).row w =
      if w = r.workloadID then some r else s.row w := Table.lookup_put ..

end Store

def dockerVolumeName (volumeID : String) : String := "openinfra-volume-" ++ volumeID

end OpenInfra.ControlPlane
