import OpenInfra.ControlPlane.Workload

namespace OpenInfra.Metering
open Frame
open ControlPlane (Uuid Time)

def maxMeteringPeriodSeconds : UInt64 := 3600

def maxMeteringClockSkew : Int := 300000

def knownSchemaVersions : List UInt32 := [1]

def meteringDomain : Bytes := utf8 "openinfra-metering-v1\x00"

inductive Outcome where
  | accepted
  | duplicate
  | conflictingEvidence
  | outOfOrder
  | invalidSignature
  | clockSkew
  | boundsViolation
  | unknownSchemaVersion
  | unknownPriceVersion
  | chargeOverflow
  | unknownProvider
  | unknownWorkload
  | workloadProviderMismatch
  | leaseMismatch
  deriving DecidableEq

def Outcome.string : Outcome → String
  | .accepted => "accepted"
  | .duplicate => "duplicate"
  | .conflictingEvidence => "conflicting_evidence"
  | .outOfOrder => "out_of_order"
  | .invalidSignature => "invalid_signature"
  | .clockSkew => "clock_skew"
  | .boundsViolation => "bounds_violation"
  | .unknownSchemaVersion => "unknown_schema_version"
  | .unknownPriceVersion => "unknown_price_version"
  | .chargeOverflow => "charge_overflow"
  | .unknownProvider => "unknown_provider"
  | .unknownWorkload => "unknown_workload"
  | .workloadProviderMismatch => "workload_provider_mismatch"
  | .leaseMismatch => "lease_mismatch"

def Outcome.decided : Outcome → Bool
  | .accepted | .duplicate | .conflictingEvidence | .outOfOrder => true
  | _ => false

structure Result where
  outcome : Outcome
  evidenceID : Option Uuid := none
  invoiceLineID : Option Uuid := none
  totalAmount : UInt64 := 0
  deriving DecidableEq

structure WorkloadRef where
  providerID : String
  leaseID : Int
  consumerID : Option Uuid

structure MeteringSummary where
  workloadId : String
  leaseId : String
  sequence : UInt64
  periodStart : UInt64
  periodEnd : UInt64
  meteringSchemaVersion : UInt32
  cpuCoreSeconds : UInt64
  ramMbSeconds : UInt64
  storageGbSeconds : UInt64
  networkEgressMb : UInt64
  networkIngressMb : UInt64
  gpuSeconds : UInt64
  deriving DecidableEq

structure GetUsageSummaryResponse where
  summary : Option MeteringSummary
  signature : Bytes
  deriving DecidableEq

structure PriceSchedule where
  version : UInt32
  cpuCoreSecond : UInt64
  ramMBSecond : UInt64
  storageGBSecond : UInt64
  networkMB : UInt64

structure Charge where
  cpuAmount : UInt64
  ramAmount : UInt64
  storageAmount : UInt64
  networkAmount : UInt64
  totalAmount : UInt64
  deriving DecidableEq

structure AcceptRequest where
  providerID : String
  workloadID : String
  leaseID : Int
  consumerID : Option Uuid
  sequence : UInt64
  periodStart : Int
  periodEnd : Int
  schemaVersion : UInt32
  cpuCoreSeconds : UInt64
  ramMBSeconds : UInt64
  storageGBSeconds : UInt64
  networkEgressMB : UInt64
  networkIngressMB : UInt64
  gpuSeconds : UInt64
  signature : Bytes
  evidenceHash : Bytes
  priceVersion : UInt32
  charge : Charge

structure Rejection where
  providerID : String
  workloadID : Option String := none
  sequence : Option UInt64 := none
  reason : String
  detail : String
  evidenceHash : Option Bytes := none

structure Library where
  sha256 : Bytes → Bytes
  verify : (publicKey message signature : Bytes) → Bool
  parseUUID : String → Option Uuid
  parseInt : String → Option Int
  formatTime : Int → String
  quote : String → String

inductive Failure where
  | bigintRange (value : UInt64)
  | database
  deriving DecidableEq

def validateBounds (summary : MeteringSummary) : Except String Unit := do
  ensure (summary.workloadId ≠ "") "workload_id is required"
  ensure (summary.leaseId ≠ "") "lease_id is required"
  ensure (summary.sequence ≠ 0) "sequence must be positive"
  ensure (summary.periodStart ≤ summary.periodEnd) "period_end must not precede period_start"
  ensure (summary.periodEnd - summary.periodStart ≤ maxMeteringPeriodSeconds)
    ("period length " ++ toString (summary.periodEnd - summary.periodStart) ++
      "s exceeds the maximum of " ++ toString maxMeteringPeriodSeconds ++ "s")

def appendU32Prefixed (value : Bytes) : Bytes := bigEndian 4 value.length ++ value

/-- The bytes that the agent signs. -/
def signedBytes (summary : MeteringSummary) : Bytes :=
  meteringDomain ++ appendU32Prefixed (utf8 summary.workloadId) ++
    appendU32Prefixed (utf8 summary.leaseId) ++ bigEndian 8 summary.sequence.toNat ++
    bigEndian 8 summary.periodStart.toNat ++ bigEndian 8 summary.periodEnd.toNat ++
    bigEndian 4 summary.meteringSchemaVersion.toNat ++ bigEndian 8 summary.cpuCoreSeconds.toNat ++
    bigEndian 8 summary.ramMbSeconds.toNat ++ bigEndian 8 summary.storageGbSeconds.toNat ++
    bigEndian 8 summary.networkEgressMb.toNat ++ bigEndian 8 summary.networkIngressMb.toNat ++
    bigEndian 8 summary.gpuSeconds.toNat

def unix (seconds : UInt64) : Int := seconds.toInt64.toInt

def evidenceHash (lib : Library) (signed : Bytes) : Bytes := lib.sha256 signed

def verifySignature (lib : Library) (publicKey : Bytes) (summary : MeteringSummary)
    (signature : Bytes) : Bool :=
  if publicKey.length ≠ 32 ∨ signature.length ≠ 64 then false
  else lib.verify publicKey (signedBytes summary) signature

def currentPriceVersion : UInt32 := 1

def lookupPriceSchedule (version : UInt32) : Option PriceSchedule :=
  if version = 1 then some ⟨1, 1, 1, 1, 1⟩ else none

def errChargeOverflow : String := "metering: charge computation overflowed"

def checkedMul (a b : UInt64) : Except String UInt64 :=
  if a = 0 ∨ b = 0 then .ok 0
  else if a * b / a ≠ b then .error errChargeOverflow
  else .ok (a * b)

def checkedAdd (a b : UInt64) : Except String UInt64 :=
  if a + b < a then .error errChargeOverflow else .ok (a + b)

def computeCharge (schedule : PriceSchedule) (cpuCoreSeconds ramMBSeconds storageGBSeconds
    networkEgressMB networkIngressMB : UInt64) : Except String Charge := do
  let cpuAmount ← checkedMul cpuCoreSeconds schedule.cpuCoreSecond
  let ramAmount ← checkedMul ramMBSeconds schedule.ramMBSecond
  let storageAmount ← checkedMul storageGBSeconds schedule.storageGBSecond
  let networkMB ← checkedAdd networkEgressMB networkIngressMB
  let networkAmount ← checkedMul networkMB schedule.networkMB
  let total ← checkedAdd cpuAmount ramAmount
  let total ← checkedAdd total storageAmount
  let total ← checkedAdd total networkAmount
  .ok ⟨cpuAmount, ramAmount, storageAmount, networkAmount, total⟩

def checkBigintRange (request : AcceptRequest) : Except Failure Unit :=
  [request.sequence, request.cpuCoreSeconds, request.ramMBSeconds, request.storageGBSeconds,
    request.networkEgressMB, request.networkIngressMB, request.gpuSeconds,
    request.charge.cpuAmount, request.charge.ramAmount, request.charge.storageAmount,
    request.charge.networkAmount, request.charge.totalAmount].forM fun value =>
      ensure (value ≤ maxInt64) (.bigintRange value)

def acceptRequest (lib : Library) (providerID : String) (summary : MeteringSummary)
    (signature : Bytes) (workload : WorkloadRef) (leaseID : Int) (charge : Charge) :
    AcceptRequest where
  providerID
  workloadID := summary.workloadId
  leaseID
  consumerID := workload.consumerID
  sequence := summary.sequence
  periodStart := unix summary.periodStart
  periodEnd := unix summary.periodEnd
  schemaVersion := summary.meteringSchemaVersion
  cpuCoreSeconds := summary.cpuCoreSeconds
  ramMBSeconds := summary.ramMbSeconds
  storageGBSeconds := summary.storageGbSeconds
  networkEgressMB := summary.networkEgressMb
  networkIngressMB := summary.networkIngressMb
  gpuSeconds := summary.gpuSeconds
  signature
  evidenceHash := evidenceHash lib (signedBytes summary)
  priceVersion := currentPriceVersion
  charge

theorem sequence_ne_zero (h : validateBounds summary = .ok ()) : summary.sequence ≠ 0 := by
  obtain ⟨_, _, h⟩ := bind_eq_ok.1 h
  obtain ⟨_, _, h⟩ := bind_eq_ok.1 h
  obtain ⟨_, hsequence, _⟩ := bind_eq_ok.1 h
  exact ensure_eq_ok.1 hsequence

end OpenInfra.Metering
