import OpenInfra.Escrow.Conservation
import OpenInfra.Escrow.Record

namespace OpenInfra.Escrow
open Frame
open ReservableCurrency (AgreesCovered)

variable {A Ledger : Type} [LinearOrder A] {E : Env A Ledger}
  {s t : Chain E} {e : EscrowRecord A} {l : LeaseId} {x : A}
  {C : ReservableCurrency A Ledger}

theorem repatriateExact_withCurrency (hC : AgreesCovered E.currency C) {L : Ledger}
    {payer : A} (hv : v ≤ E.currency.reservedBalance L payer) (target : A) :
    repatriateExact (E.withCurrency C) L payer target v = repatriateExact E L payer target v := by
  unfold repatriateExact
  split
  · rfl
  · rw [show (E.withCurrency C).currency = C from rfl, hC.repatriate hv]

theorem unreserveExact_withCurrency (hC : AgreesCovered E.currency C) {L : Ledger}
    {payer : A} (hv : v ≤ E.currency.reservedBalance L payer) :
    unreserveExact (E.withCurrency C) L payer v = unreserveExact E L payer v := by
  unfold unreserveExact
  split
  · rfl
  · rw [show (E.withCurrency C).currency = C from rfl, hC.unreserve hv]

theorem repatriateExact_reserved (hC : E.currency.Lawful) {L : Ledger} {payer : A} :
    Yields (repatriateExact E L payer target v) fun L' =>
      E.currency.reservedBalance L payer - v ≤ E.currency.reservedBalance L' payer := by
  unfold repatriateExact
  split
  · exact .ok (Nat.sub_le _ _)
  · refine .bind ?_
    rintro ⟨L', rest⟩ hr
    refine .bind fun _ _ => .ok ?_
    simp only [okOr_eq_ok] at hr
    have ht := (hC.repatriate_spec hr).1
    rw [ht, Function.update_self]

theorem collectFee_withCurrency (hC : AgreesCovered E.currency C) {payer : A}
    (hv : fee ≤ s.reserved payer) (treasury : Option A) :
    collectFee (s.withCurrency C) l payer fee treasury =
      (collectFee s l payer fee treasury).map (Chain.withCurrency · C) := by
  unfold collectFee
  split
  · rfl
  · apply bind_eq_map
    intro account _
    rw [show (s.withCurrency C).ledger = s.ledger from rfl, repatriateExact_withCurrency hC hv]
    exact bind_eq_map fun _ _ => rfl

theorem payOut_withCurrency (hE : E.currency.Lawful) (hC : AgreesCovered E.currency C)
    (hv : amount ≤ s.reserved e.payer) :
    payOut (s.withCurrency C) l e amount =
      (payOut s l e amount).map fun r => (r.1.withCurrency C, r.2) := by
  unfold payOut
  apply bind_eq_map
  intro (providerAmount, feeAmount, treasury) hf
  obtain ⟨rfl, _⟩ := splitFee_spec (s := s) _ hf
  dsimp only at hv ⊢
  rw [show (s.withCurrency C).ledger = s.ledger from rfl,
    repatriateExact_withCurrency hC ((Nat.le_add_right _ _).trans hv)]
  apply bind_eq_map
  intro ledger hl
  have hrest : feeAmount ≤ ({ s with ledger } : Chain E).reserved e.payer := by
    have hkept := repatriateExact_reserved hE _ hl
    change feeAmount ≤ E.currency.reservedBalance ledger e.payer
    change _ ≤ E.currency.reservedBalance s.ledger e.payer at hv
    omega
  change collectFee (Chain.withCurrency { s with ledger } C) l e.payer feeAmount treasury >>= _ = _
  rw [collectFee_withCurrency hC hrest]
  cases collectFee { s with ledger } l e.payer feeAmount treasury <;> rfl

theorem Paid.reserved (hE : E.currency.Lawful) (h : Paid s e v t) :
    t.reserved e.payer = s.reserved e.payer - v := by
  obtain ⟨ms, hp⟩ := h.payment
  have hr := (hp.reserved hE).2
  unfold Chain.reserved at hr ⊢
  rw [hr, Function.update_self]

theorem recordStream_withCurrency (evidence : MeteringSummary) (periodCharge : Nat) :
    recordStream (s.withCurrency C) l e evidence periodCharge =
      (recordStream s l e evidence periodCharge).withCurrency C := by
  unfold recordStream
  rw [show (s.withCurrency C).blockNumber = s.blockNumber from rfl]
  dsimp only
  split <;> split <;> rfl

/-- What an open escrow of the lease may still take is reserved. -/
def CoveredAt (s : Chain E) (l : LeaseId) : Prop :=
  ∀ e ∈ s.escrow.escrows.lookup l, (e.state = .funded ∨ e.settledAt = none) →
    e.remainingCap ≤ s.reserved e.payer

section
variable (hE : E.currency.Lawful) (hC : AgreesCovered E.currency C) (h : CoveredAt s l)
include hE hC h

theorem completeAndPayout_withCurrency (o : Origin A) (evidence : MeteringSummary) :
    completeAndPayout (s.withCurrency C) o l evidence =
      (completeAndPayout s o l evidence).map (Chain.withCurrency · C) := by
  unfold completeAndPayout
  refine bind_eq_map fun _ _ => bind_eq_map fun _ _ => bind_eq_map fun _ _ =>
    bind_eq_map fun e he => bind_eq_map fun _ hf => bind_eq_map fun charged _ =>
    bind_eq_map fun _ hle => ?_
  simp only [okOr_eq_ok, ensure_eq_ok] at he hf hle
  have hcap := h e he (.inl hf)
  rw [payOut_withCurrency hE hC (hle.trans hcap)]
  cases hu : payOut s l e charged with
  | error err => rfl
  | ok r =>
    have hkept : e.remainingCap - charged ≤ r.1.reserved e.payer := by
      rw [(payOut_paid r hu).reserved hE]
      omega
    change unreserveExact (E.withCurrency C) r.1.ledger e.payer _ >>= _ =
      (unreserveExact E r.1.ledger e.payer _ >>= _).map _
    rw [unreserveExact_withCurrency hC hkept]
    exact bind_eq_map fun _ _ => rfl

theorem streamSettle_withCurrency (o : Origin A) (evidence : MeteringSummary) :
    streamSettle (s.withCurrency C) o l evidence =
      (streamSettle s o l evidence).map (Chain.withCurrency · C) := by
  unfold streamSettle
  refine bind_eq_map fun _ _ => bind_eq_map fun _ _ => bind_eq_map fun _ _ =>
    bind_eq_map fun e he => bind_eq_map fun _ hf => bind_eq_map fun periodCharge _ => ?_
  simp only [okOr_eq_ok, ensure_eq_ok] at he hf
  have hcap := h e he (.inl hf)
  rw [payOut_withCurrency hE hC ((e.streamCharge_le periodCharge).trans hcap)]
  cases payOut s l e (e.streamCharge periodCharge) with
  | error err => rfl
  | ok r =>
    exact congrArg Except.ok (recordStream_withCurrency evidence periodCharge)

theorem refundEscrow_withCurrency (o : Origin A) :
    refundEscrow (s.withCurrency C) o l =
      (refundEscrow s o l).map (Chain.withCurrency · C) := by
  unfold refundEscrow
  refine bind_eq_map fun _ _ => bind_eq_map fun _ _ => bind_eq_map fun e he =>
    bind_eq_map fun _ _ => bind_eq_map fun _ hf => bind_eq_map fun _ _ => ?_
  simp only [okOr_eq_ok, ensure_eq_ok] at he hf
  have hcap := h e he (.inl hf)
  rw [show (s.withCurrency C).ledger = s.ledger from rfl, unreserveExact_withCurrency hC hcap]
  exact bind_eq_map fun _ _ => rfl

end

theorem setDimensionScore_withCurrency (provider : A)
    (dimension : Reputation.VectorDimension) (scoreBps : Nat) :
    Reputation.setDimensionScore (s.withCurrency C) provider dimension scoreBps =
      (Reputation.setDimensionScore s provider dimension scoreBps).map
        (Chain.withCurrency · C) := by
  unfold Reputation.setDimensionScore
  refine bind_eq_map fun _ _ => bind_eq_map fun _ _ => bind_eq_map fun _ _ => ?_
  dsimp only
  split <;> rfl

section
variable (hE : E.currency.Lawful) (hC : AgreesCovered E.currency C)
  (hcap : e.settledAt = none → e.remainingCap ≤ s.reserved e.payer)
include hE hC hcap

theorem payProvider_withCurrency (amount : Nat) :
    payProvider (s.withCurrency C) l e amount =
      (payProvider s l e amount).map fun r => (r.1.withCurrency C, r.2) := by
  unfold payProvider
  refine bind_eq_map fun _ hmax => bind_eq_map fun _ _ => ?_
  simp only [ensure_eq_ok] at hmax
  dsimp only
  split
  · rfl
  · rename_i hopen
    have hle := hcap (Option.not_isSome_iff_eq_none.1 hopen)
    have hsame : (s.withCurrency C).reserved e.payer = s.reserved e.payer := by
      unfold Chain.reserved
      rw [show (E.withCurrency C).currency = C from rfl, hC.reservedBalance]
      rfl
    have hi : amount - e.cumulativeCharged ≤ e.remainingCap := Nat.sub_le_sub_right hmax _
    rw [hsame, if_neg hle.not_gt, if_neg hle.not_gt, payOut_withCurrency hE hC (hi.trans hle)]
    cases hu : payOut s l e (amount - e.cumulativeCharged) with
    | error err => rfl
    | ok r =>
      have hkept : e.remainingCap - (amount - e.cumulativeCharged) ≤ r.1.reserved e.payer := by
        rw [(payOut_paid r hu).reserved hE]
        omega
      change unreserveExact (E.withCurrency C) r.1.ledger e.payer _ >>= _ =
        (unreserveExact E r.1.ledger e.payer _ >>= _).map _
      rw [unreserveExact_withCurrency hC hkept]
      exact bind_eq_map fun _ _ => rfl

theorem refundPayer_withCurrency :
    refundPayer (s.withCurrency C) e =
      (refundPayer s e).map fun r => (r.1.withCurrency C, r.2) := by
  have hpenalty : applyReputationPenalty (s.withCurrency C) e.provider
      E.config.escrowReliabilityPenaltyBps = (applyReputationPenalty s e.provider
        E.config.escrowReliabilityPenaltyBps).map (Chain.withCurrency · C) :=
    setDimensionScore_withCurrency ..
  unfold refundPayer
  rw [show (E.withCurrency C).config = E.config from rfl, hpenalty]
  cases hu : applyReputationPenalty s e.provider E.config.escrowReliabilityPenaltyBps with
  | error err => rfl
  | ok u =>
    have hl : u.ledger = s.ledger :=
      (Reputation.setDimensionScore_writes u hu).same .balances (by decide)
    change (if e.settledAt.isSome then _ else _) =
      Except.map _ (if e.settledAt.isSome then _ else _)
    split
    · rfl
    · rename_i hopen
      have hle := hcap (Option.not_isSome_iff_eq_none.1 hopen)
      have hsame : C.unreserve u.ledger e.payer e.remainingCap =
          E.currency.unreserve u.ledger e.payer e.remainingCap := by
        rw [hl]
        exact hC.unreserve hle
      exact congrArg (fun r : Ledger × Nat => (Except.ok
        (({ u with ledger := r.1 } : Chain E).withCurrency C,
          Resolution.mk 0 (e.remainingCap - r.2) .refunded r.2) : Except DispatchError _)) hsame

theorem settleOutcome_withCurrency (outcome : DisputeOutcome) :
    settleOutcome (s.withCurrency C) l e outcome =
      (settleOutcome s l e outcome).map fun r => (r.1.withCurrency C, r.2) := by
  cases outcome with
  | payProvider amount => exact payProvider_withCurrency hE hC hcap amount
  | refundPayer => exact refundPayer_withCurrency hE hC hcap

end

theorem resolveDispute_withCurrency (hE : E.currency.Lawful) (hC : AgreesCovered E.currency C)
    (h : CoveredAt s l) (o : Origin A) (outcome : DisputeOutcome) :
    resolveDispute (s.withCurrency C) o l outcome =
      (resolveDispute s o l outcome).map (Chain.withCurrency · C) := by
  unfold resolveDispute
  refine bind_eq_map fun _ _ => bind_eq_map fun _ _ => bind_eq_map fun e he =>
    bind_eq_map fun _ _ => ?_
  simp only [okOr_eq_ok] at he
  rw [settleOutcome_withCurrency hE hC fun hopen => h e he (.inr hopen)]
  cases settleOutcome s l e outcome with
  | error err => rfl
  | ok r =>
    apply congrArg Except.ok
    unfold recordResolution
    dsimp only
    split <;> split <;> rfl

def PaysLease (l : LeaseId) : Call A → Prop
  | .completeAndPayout leaseId _ => leaseId = l
  | .streamSettle leaseId _ => leaseId = l
  | .refundEscrow leaseId => leaseId = l
  | .resolveEscrowDispute leaseId _ => leaseId = l
  | _ => False

theorem dispatch_withCurrency (hE : E.currency.Lawful) (hC : AgreesCovered E.currency C)
    (h : CoveredAt s l) (o : Origin A) {c : Call A} (hc : PaysLease l c) :
    dispatch (s.withCurrency C) o c = (dispatch s o c).map (Chain.withCurrency · C) := by
  cases c with
  | completeAndPayout leaseId evidence =>
    obtain rfl : leaseId = l := hc
    exact completeAndPayout_withCurrency hE hC h o evidence
  | streamSettle leaseId evidence =>
    obtain rfl : leaseId = l := hc
    exact streamSettle_withCurrency hE hC h o evidence
  | refundEscrow leaseId =>
    obtain rfl : leaseId = l := hc
    exact refundEscrow_withCurrency hE hC h o
  | resolveEscrowDispute leaseId outcome =>
    obtain rfl : leaseId = l := hc
    exact resolveDispute_withCurrency hE hC h o outcome
  | _ => exact hc.elim

end OpenInfra.Escrow
