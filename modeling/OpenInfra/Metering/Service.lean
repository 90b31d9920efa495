import OpenInfra.Frame.Program
import OpenInfra.Metering.Ledger

namespace OpenInfra.Metering
open Frame
open ControlPlane (Uuid Time)

inductive Statement where
  | beginTx
  | insertCursor (key : CursorKey)
  | lockCursor (key : CursorKey)
  | findEvidence (key : CursorKey) (sequence : Nat)
  | findInvoiceLine (evidenceID : Uuid)
  | updateCursor (key : CursorKey) (sequence : Nat)
  | insertEvidence (row : EvidenceRow)
  | insertInvoiceLine (line : InvoiceLine)
  | commit (key : CursorKey) (request : AcceptRequest) (result : Result)
  | rollback
  | recordRejection (rejection : Rejection)

@[reducible] def Statement.Reply : Statement → Type
  | .lockCursor _ => Nat
  | .findEvidence .. => Option (Uuid × Bytes)
  | .findInvoiceLine _ => Uuid × Nat
  | _ => Unit

inductive LookupError where
  | notFound
  | failed

inductive Query where
  | now
  | newUUID
  | providerPublicKey (providerID : String)
  | workload (workloadID : String)
  | statement (st : Statement)

@[reducible] def Reply : Query → Type
  | .now => Time
  | .newUUID => Uuid
  | .providerPublicKey _ => Except LookupError Bytes
  | .workload _ => Except LookupError WorkloadRef
  | .statement st => Except Failure st.Reply

abbrev Handler := Program Query Reply (Except Failure Result)

def attempt (st : Statement) (k : st.Reply → Handler) : Handler := do
  match ← Program.ask (Query.statement st) with
  | .error e =>
    let _ ← Program.ask (Query.statement .rollback)
    pure (.error e)
  | .ok a => k a

def classifyStaleSequence (key : CursorKey) (request : AcceptRequest) (k : Result → Handler) :
    Handler :=
  attempt (.findEvidence key request.sequence.toNat) fun existing =>
    match existing with
    | none => k { outcome := .outOfOrder }
    | some (existingID, existingHash) =>
      if existingHash ≠ request.evidenceHash then
        k { outcome := .conflictingEvidence, evidenceID := existingID }
      else
        attempt (.findInvoiceLine existingID) fun (invoiceLineID, totalAmount) =>
          k { outcome := .duplicate, evidenceID := existingID, invoiceLineID
              totalAmount := .ofNat totalAmount }

def insertAccepted (key : CursorKey) (request : AcceptRequest) : Handler :=
  attempt (.updateCursor key request.sequence.toNat) fun () => do
    let evidenceID ← Program.ask Query.newUUID
    attempt (.insertEvidence (request.evidenceRow key evidenceID)) fun () => do
      let invoiceLineID ← Program.ask Query.newUUID
      attempt (.insertInvoiceLine (request.invoiceLine key evidenceID invoiceLineID)) fun () =>
        let result := Tables.acceptedResult request evidenceID invoiceLineID
        attempt (.commit key request result) fun () => pure (.ok result)

def reject (lib : Library) (providerID : String) (summary : Option MeteringSummary)
    (sequence : UInt64) (outcome : Outcome) (detail : String) : Handler := do
  let rejection : Rejection :=
    match summary with
    | none => { providerID, reason := outcome.string, detail }
    | some summary =>
      { providerID, reason := outcome.string, detail
        workloadID := summary.workloadId
        sequence := if sequence ≠ 0 then some sequence else none
        evidenceHash := evidenceHash lib (signedBytes summary) }
  match ← Program.ask (Query.statement (.recordRejection rejection)) with
  | .error e => pure (.error e)
  | .ok () => pure (.ok { outcome })

section
variable (lib : Library)

def acceptEvidence (request : AcceptRequest) : Handler :=
  match checkBigintRange request with
  | .error e => pure (.error e)
  | .ok () => do
    match ← Program.ask (Query.statement .beginTx) with
    | .error e => pure (.error e)
    | .ok () =>
      match lib.parseUUID request.workloadID with
      | none =>
        let _ ← Program.ask (Query.statement .rollback)
        pure (.error .database)
      | some workloadID =>
        let key : CursorKey := ⟨request.providerID, workloadID⟩
        attempt (.insertCursor key) fun () =>
          attempt (.lockCursor key) fun lastSequence =>
            if request.sequence.toNat ≤ lastSequence then
              classifyStaleSequence key request fun result =>
                attempt (.commit key request result) fun () => pure (.ok result)
            else insertAccepted key request

def quarantine (providerID : String) (summary : MeteringSummary) (result : Result) : Handler := do
  if result.outcome ≠ .accepted ∧ result.outcome ≠ .duplicate then
    let _ ← Program.ask (Query.statement (.recordRejection
      { providerID, workloadID := summary.workloadId, sequence := summary.sequence
        reason := result.outcome.string, detail := "sequence=" ++ toString summary.sequence
        evidenceHash := evidenceHash lib (signedBytes summary) }))
    pure (.ok result)
  else pure (.ok result)

def priceAndAccept (providerID : String) (summary : MeteringSummary) (signature : Bytes)
    (workload : WorkloadRef) (leaseID : Int) : Handler :=
  match lookupPriceSchedule currentPriceVersion with
  | none =>
    reject lib providerID summary summary.sequence .unknownPriceVersion
      ("current price version " ++ toString currentPriceVersion ++ " has no schedule")
  | some schedule =>
    match computeCharge schedule summary.cpuCoreSeconds summary.ramMbSeconds
        summary.storageGbSeconds summary.networkEgressMb summary.networkIngressMb with
    | .error detail => reject lib providerID summary summary.sequence .chargeOverflow detail
    | .ok charge => do
      match ← acceptEvidence lib
          (acceptRequest lib providerID summary signature workload leaseID charge) with
      | .error e => pure (.error e)
      | .ok result => quarantine lib providerID summary result

def recordSummary (providerID : String) (summary : MeteringSummary) (signature : Bytes) :
    Handler :=
  let refuse := reject lib providerID summary summary.sequence
  match validateBounds summary with
  | .error detail => refuse .boundsViolation detail
  | .ok () =>
    if ¬ knownSchemaVersions.contains summary.meteringSchemaVersion then
      refuse .unknownSchemaVersion
        ("schema version " ++ toString summary.meteringSchemaVersion ++ " is not recognized")
    else do
      let now : Time ← Program.ask Query.now
      let periodEnd := 1000 * unix summary.periodEnd
      if periodEnd < now - maxMeteringClockSkew ∨ now + maxMeteringClockSkew < periodEnd then
        refuse .clockSkew ("period_end " ++ lib.formatTime periodEnd ++
          " is outside the allowed clock skew of server time " ++ lib.formatTime now)
      else
        match ← Program.ask (Query.providerPublicKey providerID) with
        | .error .notFound => refuse .unknownProvider "metering: provider not found"
        | .error .failed => pure (.error .database)
        | .ok publicKey =>
          if ¬ verifySignature lib publicKey summary signature then
            refuse .invalidSignature
              "signature does not verify against the provider's registered public key"
          else
            match ← Program.ask (Query.workload summary.workloadId) with
            | .error .notFound => refuse .unknownWorkload "metering: workload not found"
            | .error .failed => pure (.error .database)
            | .ok workload =>
              if workload.providerID ≠ providerID then
                refuse .workloadProviderMismatch
                  "workload belongs to a different provider than the one presenting this evidence"
              else
                let mismatch := refuse .leaseMismatch ("evidence lease_id " ++
                  lib.quote summary.leaseId ++ " does not match the workload's own recorded lease "
                  ++ toString workload.leaseID)
                match lib.parseInt summary.leaseId with
                | none => mismatch
                | some leaseID =>
                  if leaseID < 0 ∨ leaseID ≠ workload.leaseID then mismatch
                  else priceAndAccept lib providerID summary signature workload leaseID

def recordUsage (providerID : String) (response : Option GetUsageSummaryResponse) : Handler :=
  match response with
  | some ⟨some summary, signature⟩ => recordSummary lib providerID summary signature
  | _ => reject lib providerID none 0 .boundsViolation "missing summary"

end

def sampleLibrary : Library where
  sha256 b := b.drop 36
  verify _ _ _ := true
  parseUUID := parseUuid
  parseInt _ := some 5
  formatTime _ := ""
  quote s := s

def sampleSummary (n periodStart periodEnd : UInt64) : MeteringSummary :=
  ⟨uuidText 7, "5", n, periodStart, periodEnd, 1, 10, 20, 30, 0, 0, 0⟩

end OpenInfra.Metering
