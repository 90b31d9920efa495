import OpenInfra.Chain.Footprint

namespace OpenInfra.Escrow
open Frame
open ReservableCurrency (Movement Trace released released_nil released_cons released_append)

variable {A Ledger : Type} [LinearOrder A] {E : Env A Ledger}
  {s t : Chain E} {a : Action A} {e e' : EscrowRecord A}

inductive PaysFor (s : Chain E) (e : EscrowRecord A) : Movement A → Prop where
  | provider (v : Nat) : PaysFor s e (.repatriated e.payer e.provider v)
  | fee (v : Nat) (h : s.escrow.treasuryAccount = some treasury) :
      PaysFor s e (.repatriated e.payer treasury v)
  | payer (v : Nat) : PaysFor s e (.unreserved e.payer v)

/-- The ledger made movements of `v` in total on behalf of `e`. -/
structure Payment (s : Chain E) (e : EscrowRecord A) (ms : List (Movement A))
    (ledger : Ledger) (v : Nat) : Prop where
  trace : Trace E.currency s.ledger ms ledger
  amount : released ms = v
  pays : ∀ m ∈ ms, PaysFor s e m

theorem PaysFor.drawsOn (h : PaysFor s e m) : m.DrawsOn e.payer := by
  cases h <;> rfl

theorem Payment.zero (s : Chain E) (e : EscrowRecord A) : Payment s e [] s.ledger 0 :=
  ⟨.nil _, rfl, nofun⟩

variable {ledger : Ledger}

theorem Payment.reserved (hC : E.currency.Lawful)
    (h : Payment s e ms ledger v) : v ≤ s.reserved e.payer ∧ E.currency.reservedBalance ledger =
      Function.update s.reserved e.payer (s.reserved e.payer - v) := by
  obtain ⟨ht, rfl, hp⟩ := h
  exact ht.release hC fun m hm => (hp m hm).drawsOn

theorem Payment.repatriateExact {L ledger : Ledger} (h : Payment s e ms L v)
    (hp : ∀ w, PaysFor s e (.repatriated e.payer target w))
    (hr : repatriateExact E L e.payer target w = .ok ledger) :
    ∃ ms', Payment s e ms' ledger (v + w) := by
  unfold Escrow.repatriateExact at hr
  split at hr
  · cases hr
    subst w
    exact ⟨ms, h⟩
  · simp only [bind_eq_ok, okOr_eq_ok, ensure_eq_ok, exists_const, Prod.exists] at hr
    obtain ⟨L', rest, hm, rfl, hl⟩ := hr
    cases hl
    refine ⟨ms ++ [.repatriated e.payer target w],
      h.trace.append (.repatriate hm (.nil _)), ?_, ?_⟩
    · rw [released_append, h.amount]
      rfl
    · intro m hmem
      obtain hmem | hmem := List.mem_append.1 hmem
      · exact h.pays m hmem
      · obtain rfl := List.mem_singleton.1 hmem
        exact hp w

theorem Payment.unreserveExact {L ledger : Ledger} (h : Payment s e ms L v)
    (hr : unreserveExact E L e.payer w = .ok ledger) : ∃ ms', Payment s e ms' ledger (v + w) := by
  unfold Escrow.unreserveExact at hr
  split at hr
  · cases hr
    subst w
    exact ⟨ms, h⟩
  · simp only [bind_eq_ok, ensure_eq_ok, exists_const] at hr
    obtain ⟨hrest, hl⟩ := hr
    cases hl
    refine ⟨ms ++ [.unreserved e.payer (w - (E.currency.unreserve L e.payer w).2)],
      h.trace.append (.unreserve (.nil _)), ?_, ?_⟩
    · rw [released_append, h.amount, hrest]
      rfl
    · intro m hmem
      obtain hmem | hmem := List.mem_append.1 hmem
      · exact h.pays m hmem
      · obtain rfl := List.mem_singleton.1 hmem
        exact .payer _

theorem splitFee_spec : Yields (splitFee s amount) fun r => r.1 + r.2.1 = amount ∧
    ∀ treasury ∈ r.2.2, s.escrow.treasuryAccount = some treasury := by
  unfold splitFee
  dsimp only
  split
  · exact .ok ⟨Nat.add_zero _, nofun⟩
  · refine .bind fun treasury ht => .bind fun product _ => .bind fun providerAmount hp => .ok ?_
    simp only [okOr_eq_ok, checkedSub_eq_some] at ht hp
    refine ⟨hp.2 ▸ Nat.sub_add_cancel hp.1, ?_⟩
    rintro _ ⟨⟩
    exact ht

structure Paid (s : Chain E) (e : EscrowRecord A) (v : Nat) (r : Chain E) : Prop where
  escrow : r.escrow = s.escrow
  blockNumber : r.blockNumber = s.blockNumber
  payment : ∃ ms, Payment s e ms r.ledger v

theorem payOut_paid : Yields (payOut s leaseId e amount) fun r => Paid s e amount r.1 := by
  unfold payOut
  refine .bind fun (providerAmount, feeAmount, treasuryAccount) hf => .bind fun ledger hl =>
    .bind fun u hu => .ok ?_
  obtain ⟨rfl, ht⟩ := splitFee_spec _ hf
  obtain ⟨ms, hp⟩ := (Payment.zero s e).repatriateExact .provider hl
  rw [Nat.zero_add] at hp
  dsimp only at hu ht ⊢
  unfold collectFee at hu
  split at hu
  · cases hu
    subst feeAmount
    exact ⟨rfl, rfl, ms, hp⟩
  · simp only [bind_eq_ok, okOr_eq_ok, Except.ok.injEq] at hu
    obtain ⟨treasury, hs, ledger', hl', rfl⟩ := hu
    exact ⟨rfl, rfl, hp.repatriateExact (fun w => .fee w (ht treasury hs)) hl'⟩

def Cleared (s : Chain E) (e : EscrowRecord A) (r : Chain E) : Prop :=
  Paid s e (min e.remainingCap (s.reserved e.payer)) r

theorem Paid.cleared (hC : E.currency.Lawful) (h : Paid s e v r) (hv : v ≤ e.remainingCap)
    (hl : unreserveExact E r.ledger e.payer (e.remainingCap - v) = .ok ledger) :
    Cleared s e { r with ledger } := by
  obtain ⟨ms, hp⟩ := h.payment
  obtain ⟨ms', hp'⟩ := hp.unreserveExact hl
  rw [Nat.add_sub_cancel' hv] at hp'
  have hle := (hp'.reserved hC).1
  exact ⟨h.escrow, h.blockNumber, ms', by rwa [Nat.min_eq_left hle]⟩

theorem payFromShortReserve_cleared (hC : E.currency.Lawful) (hi : incremental ≤ e.remainingCap) :
    Yields (payFromShortReserve s e incremental) fun r => Cleared s e r.1 := by
  unfold payFromShortReserve
  refine .bind fun (ledger, unmoved) hm => ?_
  simp only [okOr_eq_ok] at hm
  obtain ⟨ht, hu⟩ := hC.repatriate_spec hm
  dsimp only at ht hu ⊢
  split
  · refine .ok ⟨rfl, rfl, [.repatriated e.payer e.provider (incremental - unmoved)],
      .repatriate hm (.nil _), ?_, ?_⟩
    · rw [released_cons, released_nil, Movement.out, hu]
      change incremental - (incremental - s.reserved e.payer) + 0 = _
      omega
    · intro m hmem
      obtain rfl := List.mem_singleton.1 hmem
      exact .provider _
  · obtain ⟨_, hr⟩ := hC.unreserve_spec ledger e.payer (e.remainingCap - incremental)
    refine .ok ⟨rfl, rfl, [.repatriated e.payer e.provider (incremental - unmoved),
      .unreserved e.payer (e.remainingCap - incremental -
        (E.currency.unreserve ledger e.payer (e.remainingCap - incremental)).2)],
      .repatriate hm (.unreserve (.nil _)), ?_, ?_⟩
    · rw [ht, Function.update_self] at hr
      simp only [released_cons, released_nil, Movement.out, hu, hr]
      change incremental - (incremental - s.reserved e.payer) +
        (e.remainingCap - incremental - (e.remainingCap - incremental -
          (s.reserved e.payer - incremental)) + 0) = _
      omega
    · intro m hmem
      simp only [List.mem_cons, List.not_mem_nil, or_false] at hmem
      obtain rfl | rfl := hmem
      · exact .provider _
      · exact .payer _

def Resolved (s : Chain E) (e : EscrowRecord A) (r : Chain E) : Prop :=
  if e.settledAt.isSome then
    r.escrow = s.escrow ∧ r.blockNumber = s.blockNumber ∧ r.ledger = s.ledger
  else Cleared s e r

theorem payProvider_resolved (hC : E.currency.Lawful) :
    Yields (payProvider s leaseId e amount) fun r => Resolved s e r.1 := by
  unfold payProvider
  refine .bind fun _ hmax => .bind fun _ hmin => ?_
  simp only [ensure_eq_ok] at hmax hmin
  have hi : amount - e.cumulativeCharged ≤ e.remainingCap := Nat.sub_le_sub_right hmax _
  unfold Resolved
  dsimp only
  split
  · exact .ok ⟨rfl, rfl, rfl⟩
  split
  · exact payFromShortReserve_cleared hC hi
  · refine .bind ?_
    rintro ⟨u, _⟩ hu
    refine .bind fun ledger hl => .ok ?_
    exact (payOut_paid _ hu).cleared hC hi hl

theorem refundPayer_resolved (hC : E.currency.Lawful) :
    Yields (refundPayer s e) fun r => Resolved s e r.1 := by
  unfold refundPayer
  refine .bind fun u hu => ?_
  have hw := Reputation.setDimensionScore_writes u hu
  have he : u.escrow = s.escrow := hw.same .escrow (by decide)
  have hl : u.ledger = s.ledger := hw.same .balances (by decide)
  unfold Resolved
  split
  · exact .ok ⟨he, hw.blockNumber, hl⟩
  · obtain ⟨_, hr⟩ := hC.unreserve_spec s.ledger e.payer e.remainingCap
    rw [hl]
    refine .ok ⟨he, hw.blockNumber, _, .unreserve (.nil _), ?_, ?_⟩
    · rw [released_cons, released_nil, Movement.out, hr]
      change e.remainingCap - (e.remainingCap - s.reserved e.payer) + 0 = _
      omega
    · intro m hmem
      obtain rfl := List.mem_singleton.1 hmem
      exact .payer _

theorem settleOutcome_resolved (hC : E.currency.Lawful) (outcome : DisputeOutcome) :
    Yields (settleOutcome s leaseId e outcome) fun r => Resolved s e r.1 := by
  cases outcome with
  | payProvider amount => exact payProvider_resolved hC
  | refundPayer => exact refundPayer_resolved hC

def leaseOf : Action A → Option LeaseId
  | .call _ (.fundEscrow leaseId ..) => some leaseId
  | .call _ (.completeAndPayout leaseId ..) => some leaseId
  | .call _ (.refundEscrow leaseId) => some leaseId
  | .call _ (.disputeEscrow leaseId ..) => some leaseId
  | .call _ (.resolveEscrowDispute leaseId ..) => some leaseId
  | .call _ (.streamSettle leaseId ..) => some leaseId
  | _ => none

structure SameTerms (e e' : EscrowRecord A) : Prop where
  payer : e'.payer = e.payer
  provider : e'.provider = e.provider
  maxCharge : e'.maxCharge = e.maxCharge

def Counts (s t : Chain E) (payer : A) (count : Nat) : Prop :=
  t.escrow.payerOpenEscrowCount = Function.update s.escrow.payerOpenEscrowCount payer count

inductive EscrowStep (s : Chain E) (a : Action A) (t : Chain E) : Prop where
  | quiet (hescrows : t.escrow.escrows = s.escrow.escrows)
      (hcount : t.escrow.payerOpenEscrowCount = s.escrow.payerOpenEscrowCount)
      (hledger : .escrow ∈ a.writes → t.ledger = s.ledger)
  | fund (leaseId : LeaseId) (e : EscrowRecord A) (ha : leaseOf a = some leaseId)
      (hs : s.escrow.escrows.lookup leaseId = none)
      (hstate : e.state = .funded) (hsettled : e.settledAt = none) (hcum : e.cumulativeCharged = 0)
      (hvalidator : isRegisteredValidator s e.payer = false)
      (hbond : hasOpenBond s e.payer = false)
      (hreserve : E.currency.reserve s.ledger e.payer e.maxCharge = some t.ledger)
      (hescrows : t.escrow.escrows = s.escrow.escrows.insert leaseId e)
      (hcount : Counts s t e.payer (saturatingAdd 32 (s.escrow.payerOpenEscrowCount e.payer) 1))
  | draw (leaseId : LeaseId) (e e' : EscrowRecord A) (v : Nat)
      (ha : leaseOf a = some leaseId) (hs : s.escrow.escrows.lookup leaseId = some e)
      (hfunded : e.state = .funded) (hv : v ≤ e.remainingCap)
      (hpay : ∃ ms, Payment s e ms t.ledger v)
      (hescrows : t.escrow.escrows = s.escrow.escrows.insert leaseId e')
      (hterms : SameTerms e e')
      (hcum : e'.cumulativeCharged = saturatingAdd 64 e.cumulativeCharged v)
      (hstate : e'.state = .funded) (hsettled : e'.settledAt = e.settledAt)
      (hcount : t.escrow.payerOpenEscrowCount = s.escrow.payerOpenEscrowCount)
  | settle (leaseId : LeaseId) (e e' : EscrowRecord A)
      (ha : leaseOf a = some leaseId) (hs : s.escrow.escrows.lookup leaseId = some e)
      (hopen : e.state = .funded ∨ e.settledAt = none)
      (hpay : ∃ ms, Payment s e ms t.ledger (min e.remainingCap (s.reserved e.payer)))
      (hescrows : t.escrow.escrows = s.escrow.escrows.insert leaseId e')
      (hterms : SameTerms e e')
      (hcum : e.cumulativeCharged ≤ e.maxCharge → e'.cumulativeCharged ≤ e.maxCharge)
      (hstate : e'.state ≠ .funded) (hsettled : e'.settledAt.isSome)
      (hcount : Counts s t e.payer (s.escrow.payerOpenEscrowCount e.payer - 1))
  | amend (leaseId : LeaseId) (e e' : EscrowRecord A)
      (ha : leaseOf a = some leaseId) (hs : s.escrow.escrows.lookup leaseId = some e)
      (hledger : t.ledger = s.ledger)
      (hescrows : t.escrow.escrows = s.escrow.escrows.insert leaseId e')
      (hterms : SameTerms e e') (hsettled : e'.settledAt.isSome = e.settledAt.isSome)
      (hcum : e'.cumulativeCharged = e.cumulativeCharged ∨
        e.settledAt.isSome ∧ e'.cumulativeCharged = e.maxCharge)
      (hstate : e'.state ≠ .funded)
      (hcount : t.escrow.payerOpenEscrowCount = s.escrow.payerOpenEscrowCount)

theorem fundEscrow_escrowStep :
    Yields (fundEscrow s o leaseId provider maxCharge price version)
      (EscrowStep s (.call o (.fundEscrow leaseId provider maxCharge price version))) := by
  unfold fundEscrow
  refine .bind fun payer ho => .bind fun _ _ => .bind fun _ hs => .bind fun _ _ => .bind fun _ _ =>
    .bind fun _ hv => .bind fun _ hb => .bind fun ledger hr => .ok ?_
  simp only [ensure_eq_ok, okOr_eq_ok, Bool.not_eq_true] at hs hv hb hr
  exact .fund leaseId _ rfl hs rfl rfl rfl hv hb hr rfl rfl

theorem Cleared.settle (hp : Cleared s e u) (ha : leaseOf a = some leaseId)
    (hs : s.escrow.escrows.lookup leaseId = some e) (hopen : e.state = .funded ∨ e.settledAt = none)
    (ht : t.escrow = (putEscrow (decrementPayerOpenCount u e.payer) leaseId e').escrow)
    (hl : t.ledger = u.ledger) (hterms : SameTerms e e')
    (hcum : e.cumulativeCharged ≤ e.maxCharge → e'.cumulativeCharged ≤ e.maxCharge)
    (hstate : e'.state ≠ .funded) (hsettled : e'.settledAt.isSome) : EscrowStep s a t := by
  have hu : u.escrow = s.escrow := hp.escrow
  refine .settle leaseId e e' ha hs hopen (hl ▸ hp.payment) ?_ hterms hcum hstate hsettled ?_
  · rw [ht, putEscrow, decrementPayerOpenCount, putOpenCount, hu]
  · rw [Counts, ht, putEscrow, decrementPayerOpenCount, putOpenCount, hu]

theorem completeAndPayout_escrowStep (hC : E.currency.Lawful) :
    Yields (completeAndPayout s o leaseId evidence)
      (EscrowStep s (.call o (.completeAndPayout leaseId evidence))) := by
  unfold completeAndPayout
  refine .bind fun _ _ => .bind fun _ _ => .bind fun _ _ => .bind fun e hs => .bind fun _ hf =>
    .bind fun charged _ => .bind fun _ hle => .bind ?_
  rintro ⟨u, _⟩ hu
  refine .bind fun ledger hl => .ok ?_
  simp only [okOr_eq_ok, ensure_eq_ok] at hs hf hle
  have hp := (payOut_paid _ hu).cleared hC hle hl
  refine hp.settle rfl hs (.inl hf) rfl rfl ⟨rfl, rfl, rfl⟩ (fun hc => ?_) (by rintro ⟨⟩) rfl
  have := Nat.min_le_left (e.cumulativeCharged + charged) (maxValue 64)
  unfold EscrowRecord.remainingCap at hle
  exact this.trans (by omega)

theorem refundEscrow_escrowStep (hC : E.currency.Lawful) :
    Yields (refundEscrow s o leaseId) (EscrowStep s (.call o (.refundEscrow leaseId))) := by
  unfold refundEscrow
  refine .bind fun _ _ => .bind fun _ _ => .bind fun e hs => .bind fun _ _ => .bind fun _ hf =>
    .bind fun _ _ => .bind fun ledger hl => .ok ?_
  simp only [okOr_eq_ok, ensure_eq_ok] at hs hf
  have hz : Paid s e 0 s := ⟨rfl, rfl, [], .zero s e⟩
  have hp := hz.cleared hC (Nat.zero_le _) hl
  exact hp.settle rfl hs (.inl hf) rfl rfl ⟨rfl, rfl, rfl⟩ id (by rintro ⟨⟩) rfl

theorem disputeEscrow_escrowStep :
    Yields (disputeEscrow s o leaseId reasonHash)
      (EscrowStep s (.call o (.disputeEscrow leaseId reasonHash))) := by
  unfold disputeEscrow
  refine .bind fun _ _ => .bind fun _ _ => .bind fun e hs => .bind fun _ _ => .bind fun _ _ =>
    .ok ?_
  simp only [okOr_eq_ok] at hs
  exact .amend leaseId e _ rfl hs rfl rfl ⟨rfl, rfl, rfl⟩ rfl (.inl rfl) (by rintro ⟨⟩) rfl

theorem EscrowRecord.streamCharge_le (e : EscrowRecord A) (periodCharge : Nat) :
    e.streamCharge periodCharge ≤ e.remainingCap := by
  unfold EscrowRecord.streamCharge
  split <;> omega

section
variable {now : Nat} {evidence : MeteringSummary} {capped : Bool}

theorem streamed_terms : SameTerms e (streamed now evidence v capped e) := by
  unfold streamed
  dsimp only
  split
  · exact ⟨rfl, rfl, rfl⟩
  · split <;> exact ⟨rfl, rfl, rfl⟩

@[simp] theorem streamed_cumulativeCharged : (streamed now evidence v capped e).cumulativeCharged =
    saturatingAdd 64 e.cumulativeCharged v := by
  unfold streamed
  dsimp only
  split
  · rfl
  · split <;> rfl

theorem streamed_settles
    (h : capped ∨ saturatingAdd 64 e.cumulativeCharged v = e.maxCharge) :
    (streamed now evidence v capped e).state ≠ .funded ∧
      (streamed now evidence v capped e).settledAt.isSome := by
  unfold streamed
  dsimp only
  split
  · exact ⟨nofun, rfl⟩
  · rw [if_pos (h.resolve_left ‹_›)]
    exact ⟨nofun, rfl⟩

theorem streamed_stays_open
    (h : ¬ (capped ∨ saturatingAdd 64 e.cumulativeCharged v = e.maxCharge)) :
    (streamed now evidence v capped e).state = e.state ∧
      (streamed now evidence v capped e).settledAt = e.settledAt := by
  obtain ⟨hc, he⟩ := not_or.1 h
  unfold streamed
  rw [if_neg hc, if_neg he]
  exact ⟨rfl, rfl⟩

end

theorem EscrowRecord.streamCharge_eq
    (h : decide (e.remainingCap < periodCharge) ∨
      saturatingAdd 64 e.cumulativeCharged (e.streamCharge periodCharge) = e.maxCharge) :
    e.streamCharge periodCharge = e.remainingCap := by
  by_cases hc : e.remainingCap < periodCharge
  · exact if_pos hc
  · have hsum := h.resolve_left (by simpa using hc)
    have hle := e.streamCharge_le periodCharge
    unfold saturatingAdd at hsum
    unfold EscrowRecord.remainingCap at hle ⊢
    omega

theorem Paid.cleared_of_eq (hC : E.currency.Lawful) (h : Paid s e v u)
    (hv : v = e.remainingCap) : Cleared s e u := by
  obtain ⟨ms, hp⟩ := h.payment
  have hle := (hp.reserved hC).1
  subst hv
  exact ⟨h.escrow, h.blockNumber, ms, by rwa [Nat.min_eq_left hle]⟩

def EscrowRecord.afterStream (e : EscrowRecord A) (now : Nat) (evidence : MeteringSummary)
    (periodCharge : Nat) : EscrowRecord A :=
  streamed now evidence (e.streamCharge periodCharge) (decide (e.remainingCap < periodCharge)) e

def EscrowRecord.afterResolution (e : EscrowRecord A) (now : Nat) (r : Resolution) :
    EscrowRecord A :=
  { e with state := r.finalState, settledAt := some now, cumulativeCharged := e.maxCharge }

section
variable (u : Chain E) (leaseId : LeaseId) (e : EscrowRecord A)

theorem recordStream_escrow (evidence : MeteringSummary) (periodCharge : Nat) :
    (recordStream u leaseId e evidence periodCharge).escrow =
    (putEscrow (if decide (e.remainingCap < periodCharge) ∨
        saturatingAdd 64 e.cumulativeCharged (e.streamCharge periodCharge) = e.maxCharge then
      decrementPayerOpenCount u e.payer else u) leaseId
        (e.afterStream u.blockNumber evidence periodCharge)).escrow := by
  unfold recordStream EscrowRecord.afterStream
  dsimp only
  rw [streamed_cumulativeCharged, streamed_terms.maxCharge, streamed_terms.payer]
  split <;> rfl

theorem recordStream_ledger (evidence : MeteringSummary) (periodCharge : Nat) :
    (recordStream u leaseId e evidence periodCharge).ledger = u.ledger := by
  unfold recordStream
  dsimp only
  split <;> split <;> rfl

theorem recordResolution_escrow (outcome : DisputeOutcome) (r : Resolution) :
    (recordResolution u leaseId e outcome r).escrow =
      (putEscrow (if e.settledAt.isNone then decrementPayerOpenCount u e.payer else u) leaseId
        (e.afterResolution u.blockNumber r)).escrow := by
  unfold recordResolution EscrowRecord.afterResolution
  dsimp only
  split <;> split <;> rfl

theorem recordResolution_ledger (outcome : DisputeOutcome) (r : Resolution) :
    (recordResolution u leaseId e outcome r).ledger = u.ledger := by
  unfold recordResolution
  dsimp only
  split <;> split <;> rfl

end

theorem streamSettle_escrowStep (hC : E.currency.Lawful) :
    Yields (streamSettle s o leaseId evidence)
      (EscrowStep s (.call o (.streamSettle leaseId evidence))) := by
  unfold streamSettle
  refine .bind fun _ _ => .bind fun _ _ => .bind fun _ _ => .bind fun e hs => .bind fun _ hf =>
    .bind fun periodCharge _ => .bind fun (u, _) hu => .ok ?_
  simp only [okOr_eq_ok, ensure_eq_ok] at hs hf
  have hp : Paid s e (e.streamCharge periodCharge) u := payOut_paid _ hu
  have hle := e.streamCharge_le periodCharge
  by_cases h : decide (e.remainingCap < periodCharge) ∨
      saturatingAdd 64 e.cumulativeCharged (e.streamCharge periodCharge) = e.maxCharge
  · obtain ⟨hstate, hsettled⟩ := streamed_settles (e := e) h
    have hescrow := recordStream_escrow u leaseId e evidence periodCharge
    rw [if_pos h] at hescrow
    refine (hp.cleared_of_eq hC (e.streamCharge_eq h)).settle rfl hs (.inl hf)
      hescrow (recordStream_ledger u ..) streamed_terms (fun hc => ?_) hstate hsettled
    rw [EscrowRecord.afterStream, streamed_cumulativeCharged]
    unfold EscrowRecord.remainingCap at hle
    unfold saturatingAdd
    omega
  · obtain ⟨hstate, hsettled⟩ := streamed_stays_open (e := e) h
    have hescrow := recordStream_escrow u leaseId e evidence periodCharge
    rw [if_neg h, putEscrow, hp.escrow] at hescrow
    exact .draw leaseId e (e.afterStream u.blockNumber evidence periodCharge) _ rfl hs hf hle
      (recordStream_ledger u .. ▸ hp.payment) (by rw [hescrow]) streamed_terms
      streamed_cumulativeCharged (hstate.trans hf) hsettled (by rw [hescrow])

theorem settleOutcome_finalState (outcome : DisputeOutcome) :
    Yields (settleOutcome s leaseId e outcome) fun r => r.2.finalState ≠ .funded := by
  cases outcome with
  | payProvider amount =>
    unfold settleOutcome payProvider
    refine .bind fun _ _ => .bind fun _ _ => ?_
    dsimp only
    split
    · exact .ok nofun
    split
    · unfold payFromShortReserve
      refine .bind fun _ _ => ?_
      dsimp only
      split <;> exact .ok nofun
    · exact .bind fun _ _ => .bind fun _ _ => .ok nofun
  | refundPayer =>
    unfold settleOutcome refundPayer
    refine .bind fun _ _ => ?_
    split <;> exact .ok nofun

theorem resolveDispute_escrowStep (hC : E.currency.Lawful) :
    Yields (resolveDispute s o leaseId outcome)
      (EscrowStep s (.call o (.resolveEscrowDispute leaseId outcome))) := by
  unfold resolveDispute
  refine .bind fun _ _ => .bind fun _ _ => .bind fun e hs => .bind fun _ _ =>
    .bind fun (u, r) hu => .ok ?_
  simp only [okOr_eq_ok] at hs
  have hr := settleOutcome_resolved hC outcome _ hu
  have hstate : (e.afterResolution u.blockNumber r).state ≠ .funded :=
    settleOutcome_finalState outcome _ hu
  have hescrow := recordResolution_escrow u leaseId e outcome r
  unfold Resolved at hr
  split at hr
  · rename_i hset
    obtain ⟨he, -, hl⟩ := hr
    rw [if_neg (by simpa [Option.isSome_iff_ne_none] using hset), putEscrow, he] at hescrow
    exact .amend leaseId e (e.afterResolution u.blockNumber r) rfl hs
      ((recordResolution_ledger u ..).trans hl)
      (by rw [hescrow]) ⟨rfl, rfl, rfl⟩ hset.symm (.inr ⟨hset, rfl⟩) hstate (by rw [hescrow])
  · rename_i hset
    have hnone := Option.not_isSome_iff_eq_none.1 hset
    rw [if_pos (by rw [hnone]; rfl)] at hescrow
    exact hr.settle rfl hs (.inr hnone) hescrow (recordResolution_ledger u ..) ⟨rfl, rfl, rfl⟩
      (fun _ => le_rfl) hstate rfl

theorem dispatch_escrowStep (hC : E.currency.Lawful) (c : Call A) :
    Yields (dispatch s o c) (EscrowStep s (.call o c)) := by
  by_cases hw : Pallet.escrow ∈ c.writes
  · cases c with
    | fundEscrow => exact fundEscrow_escrowStep
    | completeAndPayout => exact completeAndPayout_escrowStep hC
    | refundEscrow => exact refundEscrow_escrowStep hC
    | disputeEscrow => exact disputeEscrow_escrowStep
    | resolveEscrowDispute => exact resolveDispute_escrowStep hC
    | streamSettle => exact streamSettle_escrowStep hC
    | setPaused => exact .bind fun _ _ => .ok (.quiet rfl rfl fun _ => rfl)
    | setFeeBasisPoints =>
      exact .bind fun _ _ => .bind fun _ _ => .ok (.quiet rfl rfl fun _ => rfl)
    | setTreasuryAccount => exact .bind fun _ _ => .ok (.quiet rfl rfl fun _ => rfl)
    | _ => simp [Call.writes] at hw
  · intro t ht
    have he : t.escrow = s.escrow := (dispatch_writes c t ht).same _ hw
    exact .quiet (by rw [he]) (by rw [he]) fun ha => absurd ha hw

theorem escrowStep (hC : E.currency.Lawful) (s : Chain E) (a : Action A) :
    EscrowStep s a (step s a) := by
  cases a with
  | call o c => exact (dispatch_escrowStep hC c).commit (.quiet rfl rfl fun _ => rfl)
  | blocks count => exact .quiet rfl rfl fun _ => rfl

end OpenInfra.Escrow
