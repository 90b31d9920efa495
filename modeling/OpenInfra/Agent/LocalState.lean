import OpenInfra.Frame.Table

namespace OpenInfra.Agent
open Frame

abbrev WorkloadId := Nat

inductive WorkloadPhase where
  | provisioning
  | starting
  | running
  | stopping
  | stopped
  | failed
  | lost
  deriving DecidableEq

def WorkloadPhase.consumesCapacity : WorkloadPhase → Bool
  | .stopped => false
  | .failed => false
  | .lost => false
  | _ => true

inductive WorkloadRuntime where
  | container
  | vm
  deriving DecidableEq

inductive SecurityGroupDirection where
  | ingress
  | egress
  deriving DecidableEq

inductive SecurityGroupProtocol where
  | tcp
  | udp
  | icmp
  | any
  deriving DecidableEq

instance portCount : NeZero 65536 := ⟨by decide⟩

structure SecurityGroupRule where
  direction : SecurityGroupDirection
  protocol : SecurityGroupProtocol
  portRangeMin : Option (Fin 65536)
  portRangeMax : Option (Fin 65536)
  remoteIpPrefix : String
  deriving DecidableEq

/-- What the agent keeps on disk about a workload. -/
structure WorkloadRecord where
  specHash : BitVec 256
  containerId : Option Nat
  vmHandle : Option Nat
  runtime : WorkloadRuntime
  phase : WorkloadPhase
  egressMbps : Nat
  rateLimited : Bool
  leaseEnd : Option Int
  volumeMounts : List String
  securityGroupRules : Option (List SecurityGroupRule)
  securityGroupsApplied : Bool
  deriving DecidableEq

inductive LocalStateError where
  | storage
  | workloadNotFound (workloadId : WorkloadId)
  | workloadConflict (workloadId : WorkloadId)
  | workloadCapacity (maxActive : Nat)
  deriving DecidableEq

inductive Reservation where
  | new
  | existing
  deriving DecidableEq

abbrev LocalState := Table (Prod.fst : WorkloadId × WorkloadRecord → WorkloadId)

namespace LocalState

def workload (s : LocalState) (w : WorkloadId) : Option WorkloadRecord := (s.lookup w).map (·.2)

def active (s : LocalState) (runtime : WorkloadRuntime) : Nat :=
  s.rows.countP fun r => r.2.runtime = runtime ∧ r.2.phase.consumesCapacity

def reserveWorkload (s : LocalState) (w : WorkloadId) (candidate : WorkloadRecord)
    (maxActive : Nat) : Except LocalStateError (LocalState × Reservation) :=
  match s.workload w with
  | some existing =>
    if existing.specHash = candidate.specHash then .ok (s, .existing)
    else .error (.workloadConflict w)
  | none =>
    if s.active candidate.runtime < maxActive then .ok (s.put (w, candidate), .new)
    else .error (.workloadCapacity maxActive)

theorem workload_put (s : LocalState) (w w' : WorkloadId) (r : WorkloadRecord) :
    workload (s.put (w, r)) w' = if w' = w then some r else s.workload w' := by
  unfold workload
  rw [Table.lookup_put]
  split <;> rfl

theorem reserveWorkload_eq_ok {s t : LocalState}
    (h : s.reserveWorkload w candidate maxActive = .ok (t, reservation)) :
    t = s ∧ reservation = .existing ∧ (s.workload w).isSome ∨
      t = s.put (w, candidate) ∧ reservation = .new ∧ s.workload w = none := by
  unfold reserveWorkload at h
  split at h
  · split at h
    · cases h
      exact .inl ⟨rfl, rfl, by rw [‹s.workload w = some _›]; rfl⟩
    · cases h
  · split at h
    · cases h
      exact .inr ⟨rfl, rfl, ‹_›⟩
    · cases h

end LocalState

end OpenInfra.Agent
