import OpenInfra.Frame.Transactions
import OpenInfra.Metering.Evidence

namespace OpenInfra.Metering
open Frame List
open ControlPlane (Uuid Time)

structure CursorKey where
  providerID : String
  workloadID : Uuid
  deriving DecidableEq

structure EvidenceRow where
  evidenceID : Uuid
  providerID : String
  workloadID : Uuid
  leaseID : Int
  sequence : Nat
  periodStart : Int
  periodEnd : Int
  evidenceHash : Bytes
  deriving DecidableEq

structure InvoiceLine where
  invoiceLineID : Uuid
  evidenceID : Uuid
  providerID : String
  consumerID : Option Uuid
  workloadID : Uuid
  leaseID : Int
  priceVersion : Nat
  cpuAmount : Nat
  ramAmount : Nat
  storageAmount : Nat
  networkAmount : Nat
  totalAmount : Nat
  evidenceHash : Bytes
  supersedesInvoiceLineID : Option Uuid
  deriving DecidableEq

def EvidenceRow.key (row : EvidenceRow) : CursorKey := ⟨row.providerID, row.workloadID⟩

def InvoiceLine.key (line : InvoiceLine) : CursorKey := ⟨line.providerID, line.workloadID⟩

def InvoiceLine.original (line : InvoiceLine) (evidenceID : Uuid) : Bool :=
  line.evidenceID = evidenceID ∧ line.supersedesInvoiceLineID = none

def EvidenceRow.at (row : EvidenceRow) (key : CursorKey) (n : Nat) : Bool :=
  row.key = key ∧ row.sequence = n

def AcceptRequest.evidenceRow (request : AcceptRequest) (key : CursorKey) (evidenceID : Uuid) :
    EvidenceRow where
  evidenceID
  providerID := key.providerID
  workloadID := key.workloadID
  leaseID := request.leaseID
  sequence := request.sequence.toNat
  periodStart := request.periodStart
  periodEnd := request.periodEnd
  evidenceHash := request.evidenceHash

def AcceptRequest.invoiceLine (request : AcceptRequest) (key : CursorKey)
    (evidenceID invoiceLineID : Uuid) : InvoiceLine where
  invoiceLineID
  evidenceID
  providerID := key.providerID
  consumerID := request.consumerID
  workloadID := key.workloadID
  leaseID := request.leaseID
  priceVersion := request.priceVersion.toNat
  cpuAmount := request.charge.cpuAmount.toNat
  ramAmount := request.charge.ramAmount.toNat
  storageAmount := request.charge.storageAmount.toNat
  networkAmount := request.charge.networkAmount.toNat
  totalAmount := request.charge.totalAmount.toNat
  evidenceHash := request.evidenceHash
  supersedesInvoiceLineID := none

/-- `metering_cursors`, `metering_evidence` and `invoice_lines`. -/
structure Tables where
  cursors : CursorKey → Option Nat
  evidence : List EvidenceRow
  invoiceLines : List InvoiceLine

inductive Write where
  | cursor (key : CursorKey) (lastSequence : Nat)
  | evidence (row : EvidenceRow)
  | invoiceLine (line : InvoiceLine)

namespace Write

def key : Write → CursorKey
  | .cursor key _ => key
  | .evidence row => row.key
  | .invoiceLine line => line.key

def clashes : Write → Write → Prop
  | .evidence a, .evidence b =>
    a.evidenceID = b.evidenceID ∨ a.key = b.key ∧ a.sequence = b.sequence
  | .invoiceLine a, .invoiceLine b =>
    a.invoiceLineID = b.invoiceLineID ∨
      a.supersedesInvoiceLineID = none ∧ b.original a.evidenceID
  | _, _ => False

instance : (w w' : Write) → Decidable (w.clashes w')
  | .evidence _, .evidence _ => inferInstanceAs (Decidable (_ ∨ _))
  | .invoiceLine _, .invoiceLine _ => inferInstanceAs (Decidable (_ ∨ _))
  | .cursor .., _ => .isFalse id
  | .evidence _, .cursor .. => .isFalse id
  | .evidence _, .invoiceLine _ => .isFalse id
  | .invoiceLine _, .cursor .. => .isFalse id
  | .invoiceLine _, .evidence _ => .isFalse id

def check : Write → Bool
  | .cursor .. => true
  | .evidence row => 0 ≤ row.leaseID ∧ 0 < row.sequence ∧ row.periodStart ≤ row.periodEnd
  | .invoiceLine line => 0 ≤ line.leaseID ∧ 0 < line.priceVersion

theorem clashes_comm (h : clashes w w') : clashes w' w := by
  cases w with
  | cursor => exact h.elim
  | evidence a =>
    cases w' with
    | evidence b => exact h.imp Eq.symm fun h => ⟨h.1.symm, h.2.symm⟩
    | _ => exact h.elim
  | invoiceLine a =>
    cases w' with
    | invoiceLine b =>
      refine h.imp Eq.symm fun h => ?_
      obtain ⟨hid, hnone⟩ := of_decide_eq_true h.2
      exact ⟨hnone, decide_eq_true ⟨hid.symm, h.1⟩⟩
    | _ => exact h.elim

end Write

namespace Tables

def empty : Tables := ⟨fun _ => none, [], []⟩

def apply (t : Tables) : Write → Tables
  | .cursor key lastSequence => { t with cursors := Function.update t.cursors key lastSequence }
  | .evidence row => { t with evidence := t.evidence ++ [row] }
  | .invoiceLine line => { t with invoiceLines := t.invoiceLines ++ [line] }

def rows (t : Tables) : List Write := t.evidence.map .evidence ++ t.invoiceLines.map .invoiceLine

def taken (t : Tables) (w : Write) : Prop := ∃ w' ∈ t.rows, w'.clashes w

instance (t : Tables) (w : Write) : Decidable (t.taken w) :=
  inferInstanceAs (Decidable (∃ w' ∈ t.rows, w'.clashes w))

def findEvidence (t : Tables) (key : CursorKey) (n : Nat) : Option (Uuid × Bytes) :=
  (t.evidence.find? (·.at key n)).map fun row => (row.evidenceID, row.evidenceHash)

def findInvoiceLine (t : Tables) (evidenceID : Uuid) : Option (Uuid × Nat) :=
  (t.invoiceLines.find? (·.original evidenceID)).map fun line =>
    (line.invoiceLineID, line.totalAmount)

theorem mem_rows_apply {t : Tables} :
    w' ∈ (t.apply w).rows ↔ w' ∈ t.rows ∨ w' = w ∧ ∀ key n, w ≠ .cursor key n := by
  cases w with
  | cursor key n =>
    have hfalse : ¬ ∀ key' n', Write.cursor key n ≠ .cursor key' n' := fun h => h key n rfl
    simp only [rows, apply, hfalse, and_false, or_false]
  | evidence row =>
    simp only [rows, apply, map_append, map_cons, map_nil, mem_append,
      mem_singleton, ne_eq, reduceCtorEq, not_false_eq_true, implies_true, and_true]
    exact or_right_comm
  | invoiceLine line =>
    simp only [rows, apply, map_append, map_cons, map_nil, mem_append,
      mem_singleton, ne_eq, reduceCtorEq, not_false_eq_true, implies_true, and_true]
    exact or_assoc.symm

theorem taken_apply {t : Tables} : (t.apply w).taken w' ↔ t.taken w' ∨ w.clashes w' := by
  constructor
  · rintro ⟨v, hv, hclash⟩
    obtain hv | ⟨rfl, _⟩ := mem_rows_apply.1 hv
    · exact .inl ⟨v, hv, hclash⟩
    · exact .inr hclash
  · rintro (⟨v, hv, hclash⟩ | hclash)
    · exact ⟨v, mem_rows_apply.2 (.inl hv), hclash⟩
    · refine ⟨w, mem_rows_apply.2 (.inr ⟨rfl, ?_⟩), hclash⟩
      rintro key n rfl
      exact hclash

end Tables

@[reducible] def schema : Schema Tables CursorKey Write where
  apply := Tables.apply
  key := Write.key
  taken := Tables.taken
  clashes := Write.clashes
  clashes_comm := Write.clashes_comm
  taken_apply := Tables.taken_apply

namespace Tables

def ensureCursor (t : Tables) (key : CursorKey) : Tables :=
  if t.cursors key = none then t.apply (.cursor key 0) else t

def insert (t : Tables) (w : Write) : Except Failure Tables :=
  if t.taken w ∨ ¬ w.check then .error .database else .ok (t.apply w)

def classifyStaleSequence (t : Tables) (key : CursorKey) (request : AcceptRequest) :
    Except Failure Result :=
  match t.findEvidence key request.sequence.toNat with
  | none => .ok { outcome := .outOfOrder }
  | some (existingID, existingHash) =>
    if existingHash ≠ request.evidenceHash then
      .ok { outcome := .conflictingEvidence, evidenceID := existingID }
    else do
      let (invoiceLineID, totalAmount) ← okOr (t.findInvoiceLine existingID) .database
      .ok { outcome := .duplicate, evidenceID := existingID, invoiceLineID
            totalAmount := .ofNat totalAmount }

def acceptedResult (request : AcceptRequest) (evidenceID invoiceLineID : Uuid) : Result :=
  { outcome := .accepted, evidenceID, invoiceLineID, totalAmount := request.charge.totalAmount }

def acceptEvidence (t : Tables) (key : CursorKey) (request : AcceptRequest)
    (evidenceID invoiceLineID : Uuid) : Except Failure (Result × Tables) :=
  let t := t.ensureCursor key
  if request.sequence.toNat ≤ (t.cursors key).getD 0 then do
    let result ← t.classifyStaleSequence key request
    .ok (result, t)
  else do
    let t := t.apply (.cursor key request.sequence.toNat)
    let t ← t.insert (.evidence (request.evidenceRow key evidenceID))
    let t ← t.insert (.invoiceLine (request.invoiceLine key evidenceID invoiceLineID))
    .ok (acceptedResult request evidenceID invoiceLineID, t)

end Tables

structure Entry where
  tx : Nat
  key : CursorKey
  request : AcceptRequest
  result : Result

namespace Entry

def accepted (e : Entry) : Bool := e.result.outcome = .accepted

def evidenceRow (e : Entry) : EvidenceRow :=
  e.request.evidenceRow e.key (e.result.evidenceID.getD 0)

def invoiceLine (e : Entry) : InvoiceLine :=
  e.request.invoiceLine e.key (e.result.evidenceID.getD 0) (e.result.invoiceLineID.getD 0)

def repeated (e : Entry) (request : AcceptRequest) : Result :=
  if request.evidenceHash = e.request.evidenceHash then { e.result with outcome := .duplicate }
  else { outcome := .conflictingEvidence, evidenceID := e.result.evidenceID }

end Entry

inductive Serial : List Entry → Tables → Prop
  | nil : Serial [] .empty
  | snoc : Serial es t →
      t.acceptEvidence e.key e.request evidenceID invoiceLineID = .ok (e.result, t') →
      Serial (es ++ [e]) t'

def acceptedSequences (es : List Entry) (key : CursorKey) : List Nat :=
  (es.filter fun e => e.accepted ∧ e.key = key).map fun e => e.request.sequence.toNat

end OpenInfra.Metering
