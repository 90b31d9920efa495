import OpenInfra.Escrow.Shortfall

namespace OpenInfra.Escrow
open Frame Reputation

variable {A Ledger : Type} [LinearOrder A] {E : Env A Ledger}
  {s t : Chain E} {e : EscrowRecord A} {l : LeaseId}

theorem dimensionScoreBps_le (s : Chain E) (provider : A) (dimension : VectorDimension) :
    dimensionScoreBps s provider dimension ≤ 10000 := by
  unfold dimensionScoreBps
  split
  · exact Nat.zero_le _
  · exact Nat.min_le_right _ _

theorem setDimensionScore_isOk (hcfg : E.config = Config.runtime) (provider : A)
    (dimension : VectorDimension) (hb : scoreBps ≤ 10000) :
    (∃ t, setDimensionScore s provider dimension scoreBps = .ok t) ↔ isRegistered s provider := by
  constructor
  · rintro ⟨t, ht⟩
    obtain ⟨_, hreg, _⟩ := bind_eq_ok.1 ht
    exact ensure_eq_ok.1 hreg
  · intro hreg
    have hmax : E.config.maxReputation = 1000 := by rw [hcfg]; rfl
    have hfits : checkedMul 32 scoreBps E.config.maxReputation =
        some (scoreBps * E.config.maxReputation) := by
      apply checkedMul_eq_some.2 ⟨?_, rfl⟩
      rw [hmax]
      exact (Nat.mul_le_mul_right 1000 hb).trans (by decide)
    exact ⟨_, bind_eq_ok.2 ⟨(), ensure_eq_ok.2 hreg, bind_eq_ok.2 ⟨(), ensure_eq_ok.2 hb,
      bind_eq_ok.2 ⟨_, okOr_eq_ok.2 hfits, rfl⟩⟩⟩⟩

def Returns (s : Chain E) (payer : A) (v : Nat) (t : Chain E) : Prop :=
  t.ledger = (E.currency.unreserve s.ledger payer v).1 ∧
    (E.currency.unreserve s.ledger payer v).2 = 0

/-- What is left returns to the payer, and the escrow is refunded. -/
def RefundsPayer (s : Chain E) (l : LeaseId) (e : EscrowRecord A) : Prop :=
  ∃ t, dispatch s .root (.resolveEscrowDispute l .refundPayer) = .ok t ∧
    (if e.settledAt = none then Returns s e.payer e.remainingCap t else t.ledger = s.ledger) ∧
    ∃ e' ∈ t.escrow.escrows.lookup l, e'.state = .refunded

def OpenCovered (s : Chain E) (e : EscrowRecord A) : Prop :=
  e.settledAt = none → e.remainingCap ≤ s.reserved e.payer

theorem resolveDispute_eq_ok (he : s.escrow.escrows.lookup l = some e) (hd : e.state = .disputed)
    (hp : ¬ s.escrow.escrowPaused) (outcome : DisputeOutcome) :
    dispatch s .root (.resolveEscrowDispute l outcome) = .ok t ↔
      ∃ r, settleOutcome s l e outcome = .ok r ∧ recordResolution r.1 l e outcome r.2 = t := by
  change resolveDispute s .root l outcome = .ok t ↔ _
  unfold resolveDispute
  constructor
  · intro h
    obtain ⟨_, _, h⟩ := bind_eq_ok.1 h
    obtain ⟨_, _, h⟩ := bind_eq_ok.1 h
    obtain ⟨e', he', h⟩ := bind_eq_ok.1 h
    cases he.symm.trans (okOr_eq_ok.1 he')
    obtain ⟨_, _, h⟩ := bind_eq_ok.1 h
    obtain ⟨r, hr, h⟩ := bind_eq_ok.1 h
    exact ⟨r, hr, Except.ok.inj h⟩
  · rintro ⟨r, hr, rfl⟩
    exact bind_eq_ok.2 ⟨(), rfl, bind_eq_ok.2 ⟨(), ensure_eq_ok.2 hp, bind_eq_ok.2 ⟨e,
      okOr_eq_ok.2 he, bind_eq_ok.2 ⟨(), ensure_eq_ok.2 hd, bind_eq_ok.2 ⟨r, hr, rfl⟩⟩⟩⟩⟩

theorem refundPayer_eq_ok {r : Chain E × Resolution} : refundPayer s e = .ok r ↔
    ∃ u, applyReputationPenalty s e.provider E.config.escrowReliabilityPenaltyBps = .ok u ∧
      r = if e.settledAt.isSome then (u, ⟨0, 0, .refunded, e.maxCharge⟩) else
        let (ledger, unreleased) := E.currency.unreserve u.ledger e.payer e.remainingCap
        ({ u with ledger }, ⟨0, e.remainingCap - unreleased, .refunded, unreleased⟩) := by
  unfold refundPayer
  rw [bind_eq_ok]
  apply exists_congr
  intro u
  apply and_congr_right'
  split
  · exact ⟨fun h => (Except.ok.inj h).symm, fun h => by rw [h]⟩
  · exact ⟨fun h => (Except.ok.inj h).symm, fun h => by rw [h]⟩

theorem recordResolution_state (u : Chain E) (outcome : DisputeOutcome) (r : Resolution) :
    ∃ e' ∈ (recordResolution u l e outcome r).escrow.escrows.lookup l,
      e'.state = r.finalState := by
  refine ⟨e.afterResolution u.blockNumber r, ?_, rfl⟩
  rw [recordResolution_escrow, putEscrow]
  exact Finmap.lookup_insert _

theorem refundPayer_ledger :
    Yields (refundPayer s e) fun r => r.2.finalState = .refunded ∧ r.1.ledger =
      if e.settledAt = none then (E.currency.unreserve s.ledger e.payer e.remainingCap).1
      else s.ledger := by
  intro r hr
  obtain ⟨u, hu, rfl⟩ := refundPayer_eq_ok.1 hr
  have hl : u.ledger = s.ledger :=
    (Reputation.setDimensionScore_writes u hu).same .balances (by decide)
  cases hset : e.settledAt with
  | none => exact ⟨rfl, by rw [← hl]; rfl⟩
  | some block => exact ⟨rfl, hl⟩

theorem refundsPayer_iff (hE : E.currency.Lawful) (hcfg : E.config = Config.runtime)
    (he : s.escrow.escrows.lookup l = some e) (hd : e.state = .disputed)
    (hp : ¬ s.escrow.escrowPaused) :
    RefundsPayer s l e ↔ isRegistered s e.provider ∧ OpenCovered s e := by
  have hb : dimensionScoreBps s e.provider .reliability - E.config.escrowReliabilityPenaltyBps ≤
      10000 := (Nat.sub_le _ _).trans (dimensionScoreBps_le ..)
  have hpenalty := setDimensionScore_isOk (s := s) hcfg e.provider .reliability hb
  have hrest := (hE.unreserve_spec s.ledger e.payer e.remainingCap).2
  constructor
  · rintro ⟨t, ht, hmoved, _⟩
    obtain ⟨r, hr, rfl⟩ := (resolveDispute_eq_ok he hd hp _).1 ht
    obtain ⟨u, hu, _⟩ := refundPayer_eq_ok.1 hr
    refine ⟨hpenalty.1 ⟨u, hu⟩, ?_⟩
    intro hopen
    rw [if_pos hopen] at hmoved
    exact Nat.le_of_sub_eq_zero (hrest.symm.trans hmoved.2)
  · rintro ⟨hreg, hcov⟩
    obtain ⟨u, hu⟩ := hpenalty.2 hreg
    have hr := refundPayer_eq_ok.2 ⟨u, hu, rfl⟩
    obtain ⟨hfinal, hledger⟩ := refundPayer_ledger _ hr
    refine ⟨_, (resolveDispute_eq_ok he hd hp .refundPayer).2 ⟨_, hr, rfl⟩, ?_, ?_⟩
    · rw [Returns, recordResolution_ledger, hledger]
      split
      · rename_i hopen
        exact ⟨rfl, hrest.trans (Nat.sub_eq_zero_of_le (hcov hopen))⟩
      · rfl
    · obtain ⟨e', he', hstate⟩ := recordResolution_state (l := l) (e := e) _ .refundPayer _
      exact ⟨e', he', hstate.trans hfinal⟩

/-- Refundable exactly if the provider is registered. -/
theorem governance_refund_iff (hE : E.currency.Lawful) (hcfg : E.config = Config.runtime)
    (L : Ledger) (acts : List (Action A)) (l : LeaseId) :
    let s := run step (genesis E L) acts
    ∀ e ∈ s.escrow.escrows.lookup l, e.state = .disputed → ¬ s.escrow.escrowPaused →
      (RefundsPayer s l e ↔ isRegistered s e.provider ∧ OpenCovered s e) ∧
      (E.currency.reservedBalance L e.payer = 0 →
        Throughout step (EscrowsCountable · e.payer) (genesis E L) acts → OpenCovered s e) := by
  intro s e he hd hp
  refine ⟨refundsPayer_iff hE hcfg he hd hp, ?_⟩
  intro hL hcount hopen
  exact remainingCap_le_reserved (solvent_of_countable hE hL hcount) he hopen

def disputedEscrowRun (p : Nat) : List (Action Nat) :=
  marketRun ++ [.call (.signed 1) (.createLease 0 9 (List.Vector.replicate 32 0) 10),
    .call (.signed 1) (.fundEscrow 0 p 100 ⟨1, 1, 1, 1⟩ 1),
    .call (.signed 1) (.disputeEscrow 0 (List.Vector.replicate 32 0))]

theorem governance_refund_iff_registered :
    let s := run step devGenesis (disputedEscrowRun 9)
    ∃ e ∈ s.escrow.escrows.lookup 0, RefundsPayer s 0 e := by
  have hstate : ∃ e ∈ (run step devGenesis (disputedEscrowRun 9)).escrow.escrows.lookup 0,
      e.state = .disputed ∧ e.payer = 1 ∧ e.provider = 9 := by decide +kernel
  obtain ⟨e, he, hd, hpayer, hprovider⟩ := hstate
  obtain ⟨hiff, hcov⟩ := governance_refund_iff (E := Env.runtime Host.constant)
    Balances.currency_lawful rfl _ (disputedEscrowRun 9) 0 e he hd (by decide +kernel)
  refine ⟨e, he, hiff.2 ⟨?_, hcov rfl ?_⟩⟩
  · rw [hprovider]
    decide +kernel
  · rw [hpayer]
    decide +kernel

theorem unregistered_provider_unrefundable :
    let s := run step devGenesis (disputedEscrowRun 77)
    (s.escrow.escrows.lookup 0).map (fun e => (e.state, e.settledAt, e.remainingCap)) =
      some (.disputed, none, 100) ∧ s.escrow.escrowPaused = false ∧
    ¬ (dispatch s .root (.resolveEscrowDispute 0 .refundPayer)).isOk := by
  decide +kernel

end OpenInfra.Escrow
