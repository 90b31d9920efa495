import OpenInfra.Metering.Machine

namespace OpenInfra.Metering
open Frame
open ControlPlane (Uuid Time)

/-- How far a submission is in its transaction. -/
inductive Phase where
  | outside
  | entered (key : CursorKey)
  | locked (key : CursorKey) (last : Nat)
  | looked (key : CursorKey) (last n : Nat) (existing : Option (Uuid × Bytes))
  | billed (key : CursorKey) (last n : Nat) (existing : Uuid × Bytes) (line : Uuid × Nat)
  | drafted (key : CursorKey) (last : Nat) (writes : List Write)
  | broken
  | closed
  | done (key : CursorKey) (request : AcceptRequest) (result : Result)

inductive Decides : Phase → CursorKey → AcceptRequest → Result → Prop
  | outOfOrder : request.sequence.toNat ≤ last →
      Decides (.looked key last request.sequence.toNat none) key request { outcome := .outOfOrder }
  | conflicting : request.sequence.toNat ≤ last → existingHash ≠ request.evidenceHash →
      Decides (.looked key last request.sequence.toNat (some (existingID, existingHash))) key
        request { outcome := .conflictingEvidence, evidenceID := some existingID }
  | duplicate : request.sequence.toNat ≤ last → existingHash = request.evidenceHash →
      Decides (.billed key last request.sequence.toNat (existingID, existingHash)
        (invoiceLineID, totalAmount)) key request
        { outcome := .duplicate, evidenceID := some existingID, invoiceLineID := some invoiceLineID
          totalAmount := .ofNat totalAmount }
  | accepted : last < request.sequence.toNat →
      Decides (.drafted key last [.cursor key request.sequence.toNat,
        .evidence (request.evidenceRow key evidenceID),
        .invoiceLine (request.invoiceLine key evidenceID invoiceLineID)]) key request
        (Tables.acceptedResult request evidenceID invoiceLineID)

inductive Submits (lib : Library) :
    String × Option GetUsageSummaryResponse → CursorKey → AcceptRequest → Prop
  | intro : validateBounds summary = .ok () → lib.parseUUID summary.workloadId = some workloadID →
      lookupPriceSchedule currentPriceVersion = some schedule →
      computeCharge schedule summary.cpuCoreSeconds summary.ramMbSeconds summary.storageGbSeconds
        summary.networkEgressMb summary.networkIngressMb = .ok charge →
      Submits lib (providerID, some ⟨some summary, signature⟩) ⟨providerID, workloadID⟩
        (acceptRequest lib providerID summary signature workload leaseID charge)

theorem Submits.pos (h : Submits lib arrival key request) : 0 < request.sequence.toNat := by
  obtain ⟨hbounds, _, _, _⟩ := h
  exact Nat.pos_of_ne_zero fun hzero => sequence_ne_zero hbounds (UInt64.toNat_inj.1 hzero)

def Allowed (lib : Library) (ticket : Ticket) (phase : Phase) : Query → Prop
  | .statement (.insertCursor _) => phase = .outside
  | .statement (.lockCursor key) => phase = .entered key
  | .statement (.findEvidence key _) => ∃ last, phase = .locked key last
  | .statement (.findInvoiceLine evidenceID) =>
    ∃ key last n existingHash, phase = .looked key last n (some (evidenceID, existingHash))
  | .statement (.updateCursor key _) => ∃ last, phase = .locked key last
  | .statement (.insertEvidence row) => ∃ last writes, phase = .drafted row.key last writes
  | .statement (.insertInvoiceLine line) => ∃ last writes, phase = .drafted line.key last writes
  | .statement (.commit key request result) =>
    Decides phase key request result ∧
      Submits lib (ticket.providerID, ticket.response) key request
  | _ => True

def Phase.after (phase : Phase) : (st : Statement) → st.Reply → Phase
  | .insertCursor key, _ => .entered key
  | .lockCursor key, last => .locked key last
  | .findEvidence _ n, existing =>
    match phase with
    | .locked key last => .looked key last n existing
    | _ => .broken
  | .findInvoiceLine _, line =>
    match phase with
    | .looked key last n (some existing) => .billed key last n existing line
    | _ => .broken
  | .updateCursor _ n, _ =>
    match phase with
    | .locked key last => .drafted key last [.cursor key n]
    | _ => .broken
  | .insertEvidence row, _ =>
    match phase with
    | .drafted key last writes => .drafted key last (writes ++ [.evidence row])
    | _ => .broken
  | .insertInvoiceLine line, _ =>
    match phase with
    | .drafted key last writes => .drafted key last (writes ++ [.invoiceLine line])
    | _ => .broken
  | .commit key request result, _ => .done key request result
  | .rollback, _ => .closed
  | .beginTx, _ => phase
  | .recordRejection _, _ => phase

def Phase.failed (phase : Phase) : Statement → Phase
  | .beginTx => phase
  | .recordRejection _ => phase
  | _ => .broken

def Phase.next (phase : Phase) : (q : Query) → Reply q → Phase
  | .statement st, .ok a => phase.after st a
  | .statement st, .error _ => phase.failed st
  | _, _ => phase

@[reducible] def conduct (lib : Library) (ticket : Ticket) : Protocol Query Reply where
  State := Phase
  allows := Allowed lib ticket
  expects _ _ := True
  next := Phase.next

def Ends (phase : Phase) : Except Failure Result → Prop
  | .ok result => result.outcome.decided → ∃ key request, phase = .done key request result
  | .error _ => True

abbrev Keeps (lib : Library) (ticket : Ticket) (phase : Phase) (handler : Handler) : Prop :=
  handler.Follows (conduct lib ticket) Ends phase

namespace Keeps
variable {lib : Library} {ticket : Ticket} {phase : Phase}

theorem error (e : Failure) : Keeps lib ticket phase (pure (.error e)) := trivial

theorem ask (h : Allowed lib ticket phase q) (hk : ∀ r, Keeps lib ticket (phase.next q r) (k r)) :
    Keeps lib ticket phase (Program.ask q >>= k) := ⟨h, fun r _ => hk r⟩

theorem attempt
    (h : Allowed lib ticket phase (.statement st))
    (hk : ∀ a, Keeps lib ticket (phase.after st a) (k a)) :
    Keeps lib ticket phase (attempt st k) := by
  refine .ask h ?_
  intro r
  cases r with
  | error e => exact .ask trivial fun _ => .error e
  | ok a => exact hk a

theorem commit (hdecides : Decides phase key request result)
    (hsubmits : Submits lib (ticket.providerID, ticket.response) key request) :
    Keeps lib ticket phase
      (Metering.attempt (.commit key request result) fun () => pure (.ok result)) :=
  .attempt ⟨hdecides, hsubmits⟩ fun _ _ => ⟨key, request, rfl⟩

theorem reject (houtcome : ¬ outcome.decided) :
    Keeps lib ticket phase (reject lib providerID summary n outcome detail) := by
  refine .ask trivial ?_
  intro r
  cases r with
  | error e => exact .error e
  | ok a => exact fun hdecided => absurd hdecided houtcome

section
variable {request : AcceptRequest}
  (hsubmits : Submits lib (ticket.providerID, ticket.response) key request)
include hsubmits

theorem classifyStaleSequence (hstale : request.sequence.toNat ≤ last) :
    Keeps lib ticket (.locked key last) (classifyStaleSequence key request fun result =>
      Metering.attempt (.commit key request result) fun () => pure (.ok result)) := by
  refine .attempt ⟨last, rfl⟩ ?_
  intro existing
  match existing with
  | none => exact .commit (.outOfOrder hstale) hsubmits
  | some (existingID, existingHash) =>
    dsimp only
    split
    · next hhash => exact .commit (.conflicting hstale hhash) hsubmits
    · next hhash =>
      refine .attempt ⟨key, last, _, existingHash, rfl⟩ ?_
      intro line
      exact .commit (.duplicate hstale (not_not.1 hhash)) hsubmits

theorem insertAccepted (hfresh : last < request.sequence.toNat) :
    Keeps lib ticket (.locked key last) (insertAccepted key request) := by
  refine .attempt ⟨last, rfl⟩ fun _ => .ask trivial fun evidenceID => ?_
  refine .attempt ⟨last, _, rfl⟩ fun _ => .ask trivial fun invoiceLineID => ?_
  refine .attempt ⟨last, _, rfl⟩ fun _ => ?_
  exact .commit (.accepted hfresh) hsubmits

end

theorem acceptEvidence
    (hsubmits : ∀ workloadID, lib.parseUUID request.workloadID = some workloadID →
      Submits lib (ticket.providerID, ticket.response) ⟨request.providerID, workloadID⟩ request) :
    Keeps lib ticket .outside (acceptEvidence lib request) := by
  unfold Metering.acceptEvidence
  split
  · exact .error _
  · refine .ask trivial ?_
    intro r
    cases r with
    | error e => exact .error e
    | ok a =>
      dsimp only
      split
      · exact .ask trivial fun _ => .error _
      · next workloadID hworkload =>
        refine .attempt rfl fun _ => .attempt rfl ?_
        intro last
        split
        · next hstale => exact .classifyStaleSequence (hsubmits workloadID hworkload) hstale
        · next hfresh =>
          exact .insertAccepted (hsubmits workloadID hworkload) (Nat.not_le.1 hfresh)

theorem quarantine (h : Ends phase (.ok result)) :
    Keeps lib ticket phase (quarantine lib providerID summary result) := by
  unfold Metering.quarantine
  split
  · exact .ask trivial fun r => by cases r <;> exact h
  · exact h

theorem priceAndAccept (hresponse : ticket.response = some ⟨some summary, signature⟩)
    (hbounds : validateBounds summary = .ok ()) :
    Keeps lib ticket .outside
      (priceAndAccept lib ticket.providerID summary signature workload leaseID) := by
  unfold Metering.priceAndAccept
  split
  · exact .reject nofun
  · next schedule hschedule =>
    split
    · exact .reject nofun
    · next charge hcharge =>
      refine Program.Follows.bind (Keeps.acceptEvidence ?_) ?_
      · intro workloadID hworkload
        rw [hresponse]
        exact .intro hbounds hworkload hschedule hcharge
      · intro phase r hr
        cases r with
        | error e => exact Keeps.error e
        | ok result => exact Keeps.quarantine hr

theorem recordSummary (hresponse : ticket.response = some ⟨some summary, signature⟩) :
    Keeps lib ticket .outside (recordSummary lib ticket.providerID summary signature) := by
  unfold Metering.recordSummary
  dsimp only
  split
  · exact .reject nofun
  · next hbounds =>
    split
    · exact .reject nofun
    · refine .ask trivial fun now => ?_
      split
      · exact .reject nofun
      · refine .ask trivial fun r => ?_
        match r with
        | .error .notFound => exact .reject nofun
        | .error .failed => exact .error _
        | .ok publicKey =>
          dsimp only
          split
          · exact .reject nofun
          · refine .ask trivial fun r => ?_
            match r with
            | .error .notFound => exact .reject nofun
            | .error .failed => exact .error _
            | .ok workload =>
              dsimp only
              split
              · exact .reject nofun
              · split
                · exact .reject nofun
                · split
                  · exact .reject nofun
                  · exact .priceAndAccept hresponse hbounds

theorem recordUsage (ticket : Ticket) :
    Keeps lib ticket .outside (recordUsage lib ticket.providerID ticket.response) := by
  unfold Metering.recordUsage
  split
  · next summary signature hresponse => exact .recordSummary hresponse
  · exact .reject nofun

end Keeps

end OpenInfra.Metering
