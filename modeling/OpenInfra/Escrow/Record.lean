import OpenInfra.Escrow.Machine

namespace OpenInfra.Escrow
open Frame

variable {A Ledger : Type} [LinearOrder A] {E : Env A Ledger}
  {s t : Chain E} {e e' : EscrowRecord A} {l k : LeaseId} {evidence : MeteringSummary}

inductive Deed where
  | fund
  | stream (evidence : MeteringSummary)
  | complete (evidence : MeteringSummary)
  | refund
  | dispute
  | resolve (outcome : DisputeOutcome)

def deedOn (l : LeaseId) : Call A → List Deed
  | .fundEscrow leaseId .. => if leaseId = l then [.fund] else []
  | .streamSettle leaseId evidence => if leaseId = l then [.stream evidence] else []
  | .completeAndPayout leaseId evidence => if leaseId = l then [.complete evidence] else []
  | .refundEscrow leaseId => if leaseId = l then [.refund] else []
  | .disputeEscrow leaseId _ => if leaseId = l then [.dispute] else []
  | .resolveEscrowDispute leaseId outcome => if leaseId = l then [.resolve outcome] else []
  | _ => []

def deeds (l : LeaseId) (s : Chain E) : Action A → List Deed
  | .call o c => if (dispatch s o c).isOk then deedOn l c else []
  | .blocks _ => []

/-- What `verify_and_charge` makes sure of. -/
structure Verified (s : Chain E) (e : EscrowRecord A) (evidence : MeteringSummary) :
    Prop where
  signed : ∃ key ∈ publicKey s e.provider,
    E.host.ed25519Verify evidence.signature (meteringSigningPayload evidence) key = true
  fresh : e.lastEvidenceSequence < evidence.sequence
  ordered : evidence.periodStart ≤ evidence.periodEnd
  short : evidence.periodEnd - evidence.periodStart ≤ E.config.escrowMaxMeteringPeriod
  later : e.lastPeriodEnd ≤ evidence.periodStart

theorem verifyAndCharge_verified :
    Yields (verifyAndCharge s e evidence) fun _ => Verified s e evidence := by
  unfold verifyAndCharge
  refine .bind fun _ _ => .bind fun key hkey => .bind fun _ hsig => .bind fun _ hseq =>
    .bind fun _ hord => .bind fun _ hlen => .bind fun _ hlater => ?_
  simp only [okOr_eq_ok, ensure_eq_ok] at hkey hsig hseq hord hlen hlater
  intro _ _
  exact ⟨⟨key, hkey, hsig⟩, hseq, hord, hlen, hlater⟩

structure EscrowRecord.Fresh (now : Nat) (e : EscrowRecord A) : Prop where
  state : e.state = .funded
  settledAt : e.settledAt = none
  disputedOnce : e.disputedOnce = false
  sequence : e.lastEvidenceSequence = 0
  periodEnd : e.lastPeriodEnd = 0
  fundedAt : e.fundedAt = now
  streamedAt : e.lastStreamedAt = none

def EscrowRecord.livenessAnchor (e : EscrowRecord A) : Nat :=
  e.lastStreamedAt.getD e.fundedAt

def EscrowRecord.Disputable (e : EscrowRecord A) : Prop :=
  e.state = .funded ∨
    (e.state = .completed ∨ e.state = .refunded ∨ e.state = .degraded) ∧ e.disputedOnce = false

def EscrowRecord.afterCompletion (e : EscrowRecord A) (now : Nat)
    (evidence : MeteringSummary) (charged : Nat) : EscrowRecord A :=
  { e with
    state := .completed
    lastEvidenceSequence := evidence.sequence
    lastPeriodEnd := evidence.periodEnd
    cumulativeCharged := saturatingAdd 64 e.cumulativeCharged charged
    settledAt := some now }

inductive RecordStep (l : LeaseId) (s t : Chain E) : List Deed → Prop where
  | same (ht : t.escrow.escrows.lookup l = s.escrow.escrows.lookup l) : RecordStep l s t []
  | fund (e : EscrowRecord A) (hs : s.escrow.escrows.lookup l = none)
      (hfresh : e.Fresh s.blockNumber) (ht : t.escrow.escrows.lookup l = some e) :
      RecordStep l s t [.fund]
  | stream (evidence : MeteringSummary) (e : EscrowRecord A) (charge : Nat)
      (hs : s.escrow.escrows.lookup l = some e) (hfunded : e.state = .funded)
      (hv : Verified s e evidence)
      (ht : t.escrow.escrows.lookup l = some (e.afterStream s.blockNumber evidence charge)) :
      RecordStep l s t [.stream evidence]
  | complete (evidence : MeteringSummary) (e : EscrowRecord A) (charge : Nat)
      (hs : s.escrow.escrows.lookup l = some e) (hfunded : e.state = .funded)
      (hv : Verified s e evidence)
      (ht : t.escrow.escrows.lookup l = some (e.afterCompletion s.blockNumber evidence charge)) :
      RecordStep l s t [.complete evidence]
  | refund (e : EscrowRecord A) (hs : s.escrow.escrows.lookup l = some e)
      (hfunded : e.state = .funded)
      (hwindow : saturatingAdd 32 e.livenessAnchor E.config.escrowRefundWindow ≤ s.blockNumber)
      (ht : t.escrow.escrows.lookup l =
        some { e with state := .refunded, settledAt := some s.blockNumber }) :
      RecordStep l s t [.refund]
  | dispute (e : EscrowRecord A) (hs : s.escrow.escrows.lookup l = some e)
      (hd : e.Disputable)
      (ht : t.escrow.escrows.lookup l = some { e with state := .disputed, disputedOnce := true }) :
      RecordStep l s t [.dispute]
  | resolve (outcome : DisputeOutcome) (e : EscrowRecord A) (r : Resolution)
      (hs : s.escrow.escrows.lookup l = some e) (hdisputed : e.state = .disputed)
      (hfinal : r.finalState = .completed ∨ r.finalState = .refunded)
      (ht : t.escrow.escrows.lookup l = some (e.afterResolution s.blockNumber r)) :
      RecordStep l s t [.resolve outcome]

theorem RecordStep.put {ds : List Deed} (ht : t.escrow.escrows = s.escrow.escrows.insert k e)
    (h : t.escrow.escrows.lookup k = some e → RecordStep k s t ds) :
    RecordStep l s t (if k = l then ds else []) := by
  by_cases hk : k = l
  · subst hk
    rw [if_pos rfl]
    apply h
    rw [ht, Finmap.lookup_insert]
  · rw [if_neg hk]
    apply RecordStep.same
    rw [ht, Finmap.lookup_insert_of_ne _ (Ne.symm hk)]

theorem fundEscrow_recordStep :
    Yields (fundEscrow s o k provider maxCharge price version)
      (RecordStep l s · (if k = l then [.fund] else [])) := by
  unfold fundEscrow
  refine .bind fun payer _ => .bind fun _ _ => .bind fun _ hs => .bind fun _ _ => .bind fun _ _ =>
    .bind fun _ _ => .bind fun _ _ => .bind fun ledger _ => .ok ?_
  simp only [ensure_eq_ok] at hs
  apply RecordStep.put rfl
  intro ht
  exact .fund _ hs ⟨rfl, rfl, rfl, rfl, rfl, rfl, rfl⟩ ht

theorem streamSettle_recordStep :
    Yields (streamSettle s o k evidence)
      (RecordStep l s · (if k = l then [.stream evidence] else [])) := by
  unfold streamSettle
  refine .bind fun _ _ => .bind fun _ _ => .bind fun _ _ => .bind fun e hs => .bind fun _ hf =>
    .bind fun periodCharge hv => .bind fun (u, _) hu => .ok ?_
  simp only [okOr_eq_ok, ensure_eq_ok] at hs hf
  have hp := payOut_paid _ hu
  have hescrow := recordStream_escrow u k e evidence periodCharge
  have hput : (recordStream u k e evidence periodCharge).escrow.escrows =
      s.escrow.escrows.insert k (e.afterStream s.blockNumber evidence periodCharge) := by
    rw [hescrow, ← hp.blockNumber, ← hp.escrow]
    split <;> rfl
  apply RecordStep.put hput
  intro ht
  exact .stream evidence e periodCharge hs hf (verifyAndCharge_verified _ hv) ht

theorem completeAndPayout_recordStep :
    Yields (completeAndPayout s o k evidence)
      (RecordStep l s · (if k = l then [.complete evidence] else [])) := by
  unfold completeAndPayout
  refine .bind fun _ _ => .bind fun _ _ => .bind fun _ _ => .bind fun e hs => .bind fun _ hf =>
    .bind fun charged hv => .bind fun _ _ => .bind fun (u, _) hu => .bind fun ledger _ => .ok ?_
  simp only [okOr_eq_ok, ensure_eq_ok] at hs hf
  have hp := payOut_paid _ hu
  apply RecordStep.put (e := e.afterCompletion s.blockNumber evidence charged)
  · rw [← hp.blockNumber, ← hp.escrow]
    rfl
  · intro ht
    exact .complete evidence e charged hs hf (verifyAndCharge_verified _ hv) ht

theorem refundEscrow_recordStep :
    Yields (refundEscrow s o k) (RecordStep l s · (if k = l then [.refund] else [])) := by
  unfold refundEscrow
  refine .bind fun _ _ => .bind fun _ _ => .bind fun e hs => .bind fun _ _ => .bind fun _ hf =>
    .bind fun _ hw => .bind fun ledger _ => .ok ?_
  simp only [okOr_eq_ok, ensure_eq_ok] at hs hf hw
  apply RecordStep.put rfl
  intro ht
  exact .refund e hs hf hw ht

theorem ensureDisputable_disputable : Yields (ensureDisputable s e) fun _ => e.Disputable := by
  unfold ensureDisputable
  split
  case h_1 hstate => exact .ok (.inl hstate)
  case h_5 => exact .error _
  all_goals
    rename_i hstate
    apply Yields.bind
    intro _ hd
    simp only [ensure_eq_ok, Bool.not_eq_true] at hd
    intro _ _
    exact .inr ⟨by simp only [hstate, true_or, or_true], hd⟩

theorem disputeEscrow_recordStep :
    Yields (disputeEscrow s o k reasonHash)
      (RecordStep l s · (if k = l then [.dispute] else [])) := by
  unfold disputeEscrow
  refine .bind fun _ _ => .bind fun _ _ => .bind fun e hs => .bind fun _ _ => .bind fun _ hd =>
    .ok ?_
  simp only [okOr_eq_ok] at hs
  apply RecordStep.put rfl
  intro ht
  exact .dispute e hs (ensureDisputable_disputable _ hd) ht

theorem settleOutcome_spec (outcome : DisputeOutcome) :
    Yields (settleOutcome s k e outcome) fun r => r.1.escrow = s.escrow ∧
      (r.2.finalState = .completed ∨ r.2.finalState = .refunded) := by
  cases outcome with
  | payProvider amount =>
    unfold settleOutcome payProvider
    refine .bind fun _ _ => .bind fun _ _ => ?_
    dsimp only
    split
    · exact .ok ⟨rfl, .inl rfl⟩
    split
    · unfold payFromShortReserve
      apply Yields.bind
      intro _ _
      dsimp only
      split <;> exact .ok ⟨rfl, .inl rfl⟩
    · exact .bind fun _ hu => .bind fun _ _ => .ok ⟨(payOut_paid _ hu).escrow, .inl rfl⟩
  | refundPayer =>
    unfold settleOutcome refundPayer
    apply Yields.bind
    intro u hu
    have he : u.escrow = s.escrow :=
      (Reputation.setDimensionScore_writes u hu).same .escrow (by decide)
    split <;> exact .ok ⟨he, .inr rfl⟩

theorem resolveDispute_recordStep :
    Yields (resolveDispute s o k outcome)
      (RecordStep l s · (if k = l then [.resolve outcome] else [])) := by
  unfold resolveDispute
  refine .bind fun _ _ => .bind fun _ _ => .bind fun e hs => .bind fun _ hd =>
    .bind fun (u, r) hu => .ok ?_
  simp only [okOr_eq_ok, ensure_eq_ok] at hs hd
  obtain ⟨he, hfinal⟩ := settleOutcome_spec outcome _ hu
  have hnow : u.blockNumber = s.blockNumber := (settleOutcome_writes outcome _ hu).blockNumber
  apply RecordStep.put (e := e.afterResolution s.blockNumber r)
  · rw [recordResolution_escrow, ← hnow, ← he]
    split <;> rfl
  · intro ht
    exact .resolve outcome e r hs hd hfinal ht

theorem dispatch_recordStep (l : LeaseId) (c : Call A) :
    Yields (dispatch s o c) (RecordStep l s · (deedOn l c)) := by
  by_cases hw : Pallet.escrow ∈ c.writes
  · cases c with
    | fundEscrow => exact fundEscrow_recordStep
    | completeAndPayout => exact completeAndPayout_recordStep
    | refundEscrow => exact refundEscrow_recordStep
    | disputeEscrow => exact disputeEscrow_recordStep
    | resolveEscrowDispute => exact resolveDispute_recordStep
    | streamSettle => exact streamSettle_recordStep
    | setPaused => exact .bind fun _ _ => .ok (.same rfl)
    | setFeeBasisPoints => exact .bind fun _ _ => .bind fun _ _ => .ok (.same rfl)
    | setTreasuryAccount => exact .bind fun _ _ => .ok (.same rfl)
    | _ => simp [Call.writes] at hw
  · intro t ht
    have he : t.escrow = s.escrow := (dispatch_writes c t ht).same _ hw
    have hnone : deedOn l c = [] := by
      cases c with
      | fundEscrow | completeAndPayout | refundEscrow | disputeEscrow | resolveEscrowDispute |
        streamSettle => exact absurd (.head _) hw
      | _ => rfl
    rw [hnone]
    exact .same (by rw [he])

theorem recordStep (l : LeaseId) (s : Chain E) (a : Action A) :
    RecordStep l s (step s a) (deeds l s a) := by
  cases a with
  | blocks count => exact .same rfl
  | call o c =>
    rw [step_call, deeds]
    cases hd : dispatch s o c with
    | error err => exact .same rfl
    | ok t => exact dispatch_recordStep l c t hd

end OpenInfra.Escrow
