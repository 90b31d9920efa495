import Mathlib.Data.List.MinMax
import OpenInfra.ControlPlane.Workload

namespace OpenInfra.ControlPlane
open Frame

namespace Workload

/-- The row an insert stores, with its defaults. -/
def inserted (candidate : Workload) : Workload :=
  { candidate with
    providerID := none, leaseID := none, resourceHash := none, containerID := none
    attemptCount := 0, nextAttemptAt := none, workerID := none, workerLeaseUntil := none
    errorCode := none, lastError := none, stopRequestID := none, stopRequestedAt := none
    version := 1 }

def SameRequest (stored candidate : Workload) : Prop :=
  stored.requestHash = candidate.requestHash ∧ stored.workloadID = candidate.workloadID ∧
    stored.ownerID = candidate.ownerID ∧ stored.projectID = candidate.projectID ∧
    stored.definition = candidate.definition ∧ stored.image = candidate.image ∧
    stored.vmImageSha256 = candidate.vmImageSha256

instance (stored candidate : Workload) : Decidable (stored.SameRequest candidate) :=
  inferInstanceAs (Decidable (_ ∧ _ ∧ _ ∧ _ ∧ _ ∧ _ ∧ _))

def stopped (r : Workload) (requestID : Uuid) (now : Time) : Workload :=
  { r with
    state := if r.state ∈ WorkloadState.terminal then r.state else .stopping
    stopRequestID := some requestID, stopRequestedAt := some now
    version := r.version + 1, updatedAt := now
    nextAttemptAt := none, errorCode := none, lastError := none
    workerID := none, workerLeaseUntil := none }

def claimed (r : Workload) (workerID : String) (leaseUntil : Time) : Workload :=
  { r with
    workerID := some workerID
    workerLeaseUntil := some leaseUntil
    version := r.version + 1 }

/-- Every write but a claim takes the claim off the row. -/
def released (r : Workload) (now : Time) : Workload :=
  { r with version := r.version + 1, updatedAt := now, workerID := none, workerLeaseUntil := none }

def assignedTo (r : Workload) (providerID : String) (leaseID : Nat) (resourceHash : BitVec 256) :
    Workload :=
  { r with
    state := .leasePending, providerID := some providerID, leaseID := some leaseID
    resourceHash := some resourceHash }

def cleared (r : Workload) : Workload :=
  { r with nextAttemptAt := none, errorCode := none, lastError := none }

/-- An error is kept, and any other report clears one. -/
def reported (r : Workload) (toState : WorkloadState) (containerID : String)
    (errorCode : Option ErrorCode) : Workload :=
  match errorCode with
  | some code =>
    { r with
      state := toState, nextAttemptAt := none, errorCode := some code
      lastError := some ("Agent reported " ++ code.text).toUTF8 }
  | none =>
    { r.cleared with
      state := toState
      containerID := if containerID = "" then r.containerID else some containerID }

/-- What the row adds to the sum of a column over the rows of a provider in `states`. -/
def share (states : List WorkloadState) (providerID : String) (d : Dimension) (r : Workload) :
    Int :=
  if r.providerID = some providerID ∧ r.state ∈ states then (r.reserved.get d).toInt else 0

end Workload

def validText (message : ByteArray) : Bool := message.validateUTF8 && message.data.all (· != 0)

def cut (message : ByteArray) : ByteArray :=
  if 512 < message.size then message.extract 0 512 else message

namespace Store

def byRequestID (s : Store) (requestID : Uuid) : Option Workload :=
  s.workloads.rows.find? fun r => r.requestID = requestID

def createOrGet (s : Store) (candidate : Workload) : Except StoreError (Store × Workload) := do
  let t ← s.write candidate.inserted
  if s.row candidate.workloadID = none ∧ s.byRequestID candidate.requestID = none then
    .ok (t, candidate)
  else
    let stored ← okOr (s.byRequestID candidate.requestID) .conflict
    ensure (stored.SameRequest candidate) .conflict
    .ok (s, stored)

def requestStopIn (s : Store) (scope : Workload → Bool) (workloadID requestID : Uuid)
    (now : Time) : Except StoreError (Store × Workload) := do
  let stored ← okOr ((s.row workloadID).filter scope) .notFound
  ensure (stored.stopRequestID = none ∨ stored.stopRequestID = some requestID) .conflict
  if stored.stopRequestID = none then
    ensure (∀ r ∈ s.workloads.rows, r.stopRequestID ≠ some requestID) .conflict
    let t ← s.write (stored.stopped requestID now)
    .ok (t, { stored with
      state := (stored.stopped requestID now).state
      stopRequestID := some requestID, updatedAt := now })
  else
    .ok (s, stored)

def requestStop (s : Store) (workloadID requestID ownerID : Uuid) (now : Time) :
    Except StoreError (Store × Workload) :=
  s.requestStopIn (fun r => r.ownerID = ownerID) workloadID requestID now

def requestStopByProject (s : Store) (workloadID requestID projectID : Uuid) (now : Time) :
    Except StoreError (Store × Workload) :=
  s.requestStopIn (fun r => r.projectID = some projectID) workloadID requestID now

/-- The oldest claimable row that is not in `locked`. -/
def candidate (s : Store) (locked : List Uuid) (now : Time) : Option Workload :=
  (s.workloads.rows.filter fun r => r.Claimable now ∧ r.workloadID ∉ locked).argmin
    (·.createdAt)

def claimNext (s : Store) (workerID : String) (lease : Nat) (locked : List Uuid) (now : Time) :
    Except StoreError (Store × Workload) := do
  ensure (workerID ≠ "" ∧ 0 < lease) .claimArguments
  let r ← okOr (s.candidate locked now) .notFound
  let item := r.claimed workerID (now + lease)
  let t ← s.write item
  .ok (t, item)

def workerWrite (s : Store) (item : Workload) (now : Time) (states : List WorkloadState)
    (cond : Workload → Bool) (f : Workload → Workload) : Except StoreError Store := do
  let r ← okOr (s.row item.workloadID) .conflict
  ensure (r.HeldBy item now ∧ r.state ∈ states ∧ cond r) .conflict
  s.write ((f r).released now)

def beginScheduling (s : Store) (item : Workload) (now : Time) : Except StoreError Store :=
  s.workerWrite item now [.requested] (fun _ => true) fun r =>
    { r with state := .scheduling, errorCode := none, lastError := none }

/-- A column summed over the rows of a provider in `states`, as SQL sums it. -/
def reservedIn (s : Store) (states : List WorkloadState) (providerID : String) (d : Dimension) :
    Int :=
  s.workloads.total (Workload.share states providerID d)

/-- A sum beyond `int64` cannot be scanned. -/
def providerReservedTotals (s : Store) (providerID : String) : Except StoreError Resources := do
  let sum := s.reservedIn WorkloadState.reserving providerID
  ensure (∀ d ∈ Dimension.all, -2 ^ 63 ≤ sum d ∧ sum d < 2 ^ 63) .outOfRange
  .ok (.of fun d => .ofInt (sum d))

/-- `aborted` if the serializable transaction loses a race. -/
def assignLease (s : Store) (item : Workload) (providerID : String) (resourceHash : BitVec 256)
    (capacity : Resources) (aborted : Bool) (now : Time) : Except StoreError (Store × Nat) := do
  ensure (¬ aborted) .conflict
  let reserved ← s.providerReservedTotals providerID
  ensure ((reserved.add item.reserved).Fits capacity) .capacityExceeded
  let leaseID := s.leaseSeq + 1
  let t ← s.workerWrite item now [.scheduling] (fun _ => true)
    (·.assignedTo providerID leaseID resourceHash)
  ensure (leaseID < 2 ^ 63) .sequenceExhausted
  .ok ({ t with leaseSeq := leaseID }, leaseID)

def markLeased (s : Store) (item : Workload) (leaseID : Nat) (now : Time) :
    Except StoreError Store :=
  s.workerWrite item now [.leasePending] (fun r => r.leaseID = some leaseID) fun r =>
    { r.cleared with state := .leased }

def markDeploying (s : Store) (item : Workload) (leaseID : Nat) (now : Time) :
    Except StoreError Store :=
  s.workerWrite item now [.leased] (fun r => r.leaseID = some leaseID) fun r =>
    { r with state := .deploying }

def markRunning (s : Store) (item : Workload) (containerID : String) (now : Time) :
    Except StoreError Store := do
  ensure (containerID ≠ "") .containerRequired
  s.workerWrite item now [.deploying] (fun _ => true) fun r =>
    { r.cleared with state := .running, containerID := some containerID }

def markStopped (s : Store) (item : Workload) (leaseID : Nat) (now : Time) :
    Except StoreError Store :=
  s.workerWrite item now [.stopping] (fun r => r.leaseID = some leaseID) fun r =>
    { r.cleared with state := .stopped }

def retryLater (s : Store) (item : Workload) (code : ErrorCode) (message : ByteArray)
    (delay : Nat) (now : Time) : Except StoreError Store := do
  ensure (validText (cut message)) .invalidText
  s.workerWrite item now WorkloadState.claimable (fun _ => true) fun r =>
    { r with
      attemptCount := r.attemptCount + 1, nextAttemptAt := some (now + delay)
      errorCode := some code, lastError := some (cut message) }

def markFailed (s : Store) (item : Workload) (code : ErrorCode) (message : ByteArray)
    (now : Time) : Except StoreError Store := do
  ensure (validText (cut message)) .invalidText
  s.workerWrite item now WorkloadState.claimable (fun _ => true) fun r =>
    { r with
      state := .failed, attemptCount := r.attemptCount + 1, nextAttemptAt := none
      errorCode := some code, lastError := some (cut message) }

def reconcileFromAgent (s : Store) (workloadID : Uuid) (providerID : String)
    (fromStates : List WorkloadState) (toState : WorkloadState) (containerID : String)
    (errorCode : Option ErrorCode) (now : Time) : Except StoreError (Store × Bool) := do
  ensure (providerID ≠ "" ∧ fromStates ≠ []) .reconcileArguments
  match (s.row workloadID).filter fun r =>
      r.providerID = some providerID ∧ r.state ∈ fromStates with
  | none => .ok (s, false)
  | some r =>
    let t ← s.write ((r.reported toState containerID errorCode).released now)
    .ok (t, true)

end Store

namespace Store
variable {s t : Store} {r item : Workload}

theorem put_eq_ok :
    s.write r >>= p = .ok x ↔
      r.Checks ∧ p { s with workloads := s.workloads.put r } = .ok x := by
  simp only [bind_eq_ok, write_eq_ok]
  constructor
  · rintro ⟨t, ⟨hr, rfl⟩, hp⟩
    exact ⟨hr, hp⟩
  · rintro ⟨hr, hp⟩
    exact ⟨_, ⟨hr, rfl⟩, hp⟩

theorem workerWrite_eq_ok {cond : Workload → Bool} {f : Workload → Workload} :
    s.workerWrite item now states cond f = .ok t ↔
      ∃ r, s.row item.workloadID = some r ∧ (r.HeldBy item now ∧ r.state ∈ states ∧ cond r) ∧
        ((f r).released now).Checks ∧
        t = { s with workloads := s.workloads.put ((f r).released now) } := by
  simp only [workerWrite, bind_eq_ok, okOr_eq_ok, ensure_eq_ok, exists_const, write_eq_ok]

theorem providerReservedTotals_eq_ok (h : s.providerReservedTotals providerID = .ok reserved)
    (d : Dimension) :
    (reserved.get d).toInt = s.reservedIn WorkloadState.reserving providerID d := by
  obtain ⟨_, hrange, h⟩ := bind_eq_ok.1 h
  cases h
  obtain ⟨hlow, hhigh⟩ := ensure_eq_ok.1 hrange d d.mem_all
  rw [Resources.get_of]
  exact Int64.toInt_ofInt_of_le hlow hhigh

theorem assignLease_eq_ok
    (h : s.assignLease item providerID resourceHash capacity aborted now = .ok (t, leaseID)) :
    ∃ reserved u, s.providerReservedTotals providerID = .ok reserved ∧
      (reserved.add item.reserved).Fits capacity ∧
      s.workerWrite item now [.scheduling] (fun _ => true)
        (·.assignedTo providerID leaseID resourceHash) = .ok u ∧
      leaseID = s.leaseSeq + 1 ∧ t = { u with leaseSeq := leaseID } := by
  obtain ⟨_, _, h⟩ := bind_eq_ok.1 h
  obtain ⟨reserved, hreserved, h⟩ := bind_eq_ok.1 h
  obtain ⟨_, hfits, h⟩ := bind_eq_ok.1 h
  obtain ⟨u, hu, h⟩ := bind_eq_ok.1 h
  obtain ⟨_, _, h⟩ := bind_eq_ok.1 h
  cases h
  exact ⟨reserved, u, hreserved, ensure_eq_ok.1 hfits, hu, rfl, rfl⟩

variable {locked : List Uuid}

theorem row_of_candidate (h : s.candidate locked now = some r) :
    s.row r.workloadID = some r ∧ r.Claimable now := by
  have hr := List.mem_filter.1 (List.argmin_mem h)
  exact ⟨Table.mem_rows.1 hr.1, (of_decide_eq_true hr.2).1⟩

theorem claimNext_eq_ok
    (h : s.claimNext workerID lease locked now = .ok (t, item)) :
    ∃ r, s.row r.workloadID = some r ∧ r.Claimable now ∧ 0 < lease ∧
      item = r.claimed workerID (now + lease) ∧
      t = { s with workloads := s.workloads.put item } := by
  obtain ⟨_, harg, h⟩ := bind_eq_ok.1 h
  obtain ⟨r, hr, h⟩ := bind_eq_ok.1 h
  obtain ⟨_, h⟩ := put_eq_ok.1 h
  obtain ⟨hrow, hclaim⟩ := row_of_candidate (okOr_eq_ok.1 hr)
  cases h
  exact ⟨r, hrow, hclaim, (ensure_eq_ok.1 harg).2, rfl, rfl⟩

theorem createOrGet_eq_ok {candidate : Workload} (h : s.createOrGet candidate = .ok (t, r)) :
    t = s ∨ s.row candidate.workloadID = none ∧
      t = { s with workloads := s.workloads.put candidate.inserted } := by
  obtain ⟨_, h⟩ := put_eq_ok.1 h
  split at h
  · rename_i hnone
    cases h
    exact .inr ⟨hnone.1, rfl⟩
  · obtain ⟨stored, _, h⟩ := bind_eq_ok.1 h
    obtain ⟨_, _, h⟩ := bind_eq_ok.1 h
    cases h
    exact .inl rfl

theorem requestStopIn_eq_ok
    (h : s.requestStopIn scope workloadID requestID now = .ok (t, item)) :
    ∃ r, s.row workloadID = some r ∧ scope r ∧
      (t = s ∧ r.stopRequestID = some requestID ∨ r.stopRequestID = none ∧
        t = { s with workloads := s.workloads.put (r.stopped requestID now) }) := by
  obtain ⟨r, hr, h⟩ := bind_eq_ok.1 h
  obtain ⟨hrow, hscope⟩ := Option.filter_eq_some_iff.1 (okOr_eq_ok.1 hr)
  obtain ⟨_, hid, h⟩ := bind_eq_ok.1 h
  refine ⟨r, hrow, hscope, ?_⟩
  split at h
  · rename_i hnone
    obtain ⟨_, _, h⟩ := bind_eq_ok.1 h
    obtain ⟨_, h⟩ := put_eq_ok.1 h
    cases h
    exact .inr ⟨hnone, rfl⟩
  · rename_i hsome
    cases h
    exact .inl ⟨rfl, (ensure_eq_ok.1 hid).resolve_left hsome⟩

theorem reconcileFromAgent_eq_ok
    (h : s.reconcileFromAgent workloadID providerID fromStates toState containerID errorCode now =
      .ok (t, applied)) :
    t = s ∨ ∃ r, s.row workloadID = some r ∧ r.providerID = some providerID ∧
      r.state ∈ fromStates ∧ ((r.reported toState containerID errorCode).released now).Checks ∧
      t = { s with workloads :=
        s.workloads.put ((r.reported toState containerID errorCode).released now) } := by
  obtain ⟨_, _, h⟩ := bind_eq_ok.1 h
  split at h
  · cases h
    exact .inl rfl
  · rename_i r hr
    obtain ⟨hrow, hcond⟩ := Option.filter_eq_some_iff.1 hr
    obtain ⟨hprovider, hstate⟩ := of_decide_eq_true hcond
    obtain ⟨hchecks, h⟩ := put_eq_ok.1 h
    cases h
    exact .inr ⟨r, hrow, hprovider, hstate, hchecks, rfl⟩

end Store

inductive AgentWorkloadPhase where
  | unspecified
  | provisioning
  | starting
  | running
  | stopping
  | stopped
  | failed
  | lost
  deriving DecidableEq

structure ReconciliationTransition where
  fromStates : List WorkloadState
  toState : WorkloadState
  errorCode : Option ErrorCode

def reconciliationTransition : AgentWorkloadPhase → Option ReconciliationTransition
  | .running => some ⟨[.deploying], .running, none⟩
  | .failed => some ⟨[.deploying, .running], .failed, some .agentReportedFailed⟩
  | .lost => some ⟨[.deploying, .running], .failed, some .agentReportedLost⟩
  | .stopped => some ⟨[.running, .deploying, .stopping], .stopped, none⟩
  | _ => none

structure WorkloadStatusSummary where
  workloadID : Uuid
  phase : AgentWorkloadPhase
  containerID : String

def Store.reconcileEntry (s : Store) (providerID : String) (entry : WorkloadStatusSummary)
    (now : Time) : Except StoreError Store :=
  match reconciliationTransition entry.phase with
  | none => .ok s
  | some x => (s.reconcileFromAgent entry.workloadID providerID x.fromStates x.toState
      entry.containerID x.errorCode now).map (·.1)

end OpenInfra.ControlPlane
