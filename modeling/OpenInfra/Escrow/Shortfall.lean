import OpenInfra.Escrow.Covered

namespace OpenInfra.Escrow
open Frame List
open ReservableCurrency (AgreesCovered)

variable {A Ledger : Type} [LinearOrder A] {E : Env A Ledger}
  {s t : Chain E} {e : EscrowRecord A} {l : LeaseId} {x : A}

def writtenOff : RuntimeEvent A → Option LeaseId
  | .escrow (.escrowShortfallWrittenOff leaseId ..) => some leaseId
  | _ => none

def Emits (P : RuntimeEvent A → Prop) (s t : Chain E) : Prop :=
  ∃ es, t.events = es ++ s.events ∧ ∀ ev ∈ es, P ev

section
variable {P Q : RuntimeEvent A → Prop} {ev : RuntimeEvent A} {u : Chain E}

theorem Emits.refl (h : t.events = s.events) : Emits P s t := ⟨[], h, nofun⟩

theorem Emits.deposit (h : Emits P s t) (hu : u.events = ev :: t.events) (hev : P ev) :
    Emits P s u := by
  obtain ⟨es, he, hP⟩ := h
  refine ⟨ev :: es, by rw [hu, he, cons_append], ?_⟩
  intro ev' hmem
  obtain rfl | hmem := mem_cons.1 hmem
  · exact hev
  · exact hP ev' hmem

theorem Emits.mono (h : Emits P s t) (hQ : ∀ ev, P ev → Q ev) : Emits Q s t := by
  obtain ⟨es, he, hP⟩ := h
  exact ⟨es, he, fun ev hmem => hQ ev (hP ev hmem)⟩

theorem Emits.trans (h : Emits P s t) (h' : Emits P t u) : Emits P s u := by
  obtain ⟨es, he, hP⟩ := h
  obtain ⟨es', he', hP'⟩ := h'
  refine ⟨es' ++ es, by rw [he', he, append_assoc], ?_⟩
  intro ev hmem
  obtain hmem | hmem := mem_append.1 hmem
  · exact hP' ev hmem
  · exact hP ev hmem

theorem Emits.of_writes (h : Writes ps s t) (hp : .escrow ∉ ps) :
    Emits (writtenOff · = none) s t := by
  obtain ⟨es, he, hes⟩ := h.events
  refine ⟨es, he, ?_⟩
  intro ev hmem
  cases ev with
  | escrow ev => exact absurd (hes _ hmem) hp
  | _ => rfl

end

theorem payOut_emits : Yields (payOut s l e amount) fun r => Emits (writtenOff · = none) s r.1 := by
  unfold payOut
  refine .bind fun (providerAmount, feeAmount, treasury) _ => .bind fun ledger _ =>
    .bind fun u hu => .ok ?_
  dsimp only at hu ⊢
  unfold collectFee at hu
  split at hu
  · cases hu
    exact .refl rfl
  · simp only [bind_eq_ok, Except.ok.injEq] at hu
    obtain ⟨account, _, ledger', _, rfl⟩ := hu
    exact .deposit (.refl (t := s) rfl) rfl rfl

theorem settleOutcome_emits (outcome : DisputeOutcome) :
    Yields (settleOutcome s l e outcome) fun r => Emits (writtenOff · = none) s r.1 := by
  cases outcome with
  | payProvider amount =>
    unfold settleOutcome payProvider
    refine .bind fun _ _ => .bind fun _ _ => ?_
    dsimp only
    split
    · exact .ok (.refl rfl)
    split
    · unfold payFromShortReserve
      apply Yields.bind
      intro _ _
      dsimp only
      split <;> exact .ok (.refl rfl)
    · exact .bind fun _ hu => .bind fun _ _ => .ok (payOut_emits _ hu)
  | refundPayer =>
    unfold settleOutcome refundPayer
    apply Yields.bind
    intro u hu
    have hem : Emits (writtenOff · = none) s u :=
      .of_writes (Reputation.setDimensionScore_writes u hu) (by decide)
    split <;> exact .ok hem

theorem settleOutcome_shortfall (hE : E.currency.Lawful)
    (hcap : e.settledAt = none → e.remainingCap ≤ s.reserved e.payer) (outcome : DisputeOutcome) :
    Yields (settleOutcome s l e outcome) fun r => r.2.shortfall ≠ 0 → e.settledAt.isSome := by
  cases outcome with
  | payProvider amount =>
    unfold settleOutcome payProvider
    refine .bind fun _ _ => .bind fun _ _ => ?_
    dsimp only
    split
    · rename_i hset
      exact .ok fun _ => hset
    · rename_i hopen
      have hle := hcap (Option.not_isSome_iff_eq_none.1 hopen)
      rw [if_neg hle.not_gt]
      exact .bind fun _ _ => .bind fun _ _ => .ok fun h => absurd rfl h
  | refundPayer =>
    unfold settleOutcome refundPayer
    apply Yields.bind
    intro u hu
    have hl : u.ledger = s.ledger :=
      (Reputation.setDimensionScore_writes u hu).same .balances (by decide)
    split
    · rename_i hset
      exact .ok fun _ => hset
    · rename_i hopen
      have hle := hcap (Option.not_isSome_iff_eq_none.1 hopen)
      apply Yields.ok
      intro h
      apply absurd _ h
      change (E.currency.unreserve u.ledger e.payer e.remainingCap).2 = 0
      rw [(hE.unreserve_spec ..).2, hl]
      exact Nat.sub_eq_zero_of_le hle

def WritesOffSettled (s : Chain E) (ev : RuntimeEvent A) : Prop :=
  ∀ l, writtenOff ev = some l → CoveredAt s l → ∀ e ∈ s.escrow.escrows.lookup l, e.settledAt.isSome

theorem WritesOffSettled.of_none (h : writtenOff ev = none) : WritesOffSettled s ev := by
  intro l hl
  cases h.symm.trans hl

theorem recordResolution_emits
    (outcome : DisputeOutcome) (hquiet : ∀ ev, writtenOff ev = none → P ev)
    (hloss : r.shortfall ≠ 0 → ∀ ev, writtenOff ev = some l → P ev) :
    Emits P s (recordResolution s l e outcome r) := by
  unfold recordResolution
  dsimp only
  split
  · rename_i hr
    split <;> exact .deposit (.refl (t := s) rfl) rfl (hquiet _ rfl)
  · rename_i hr
    split <;> exact .deposit (.deposit (.refl (t := s) rfl) rfl (hquiet _ rfl)) rfl
      (hloss hr _ rfl)

theorem resolveDispute_emits (hE : E.currency.Lawful) (outcome : DisputeOutcome) :
    Yields (resolveDispute s o l outcome) (Emits (WritesOffSettled s) s) := by
  unfold resolveDispute
  refine .bind fun _ _ => .bind fun _ _ => .bind fun e he => .bind fun _ _ =>
    .bind fun (u, r) hu => .ok ?_
  simp only [okOr_eq_ok] at he
  have hquiet : Emits (WritesOffSettled s) s u :=
    (settleOutcome_emits outcome _ hu).mono fun _ => .of_none
  apply hquiet.trans
  apply recordResolution_emits outcome fun _ => .of_none
  intro hr ev hev k hk hcov e' he'
  cases hev.symm.trans hk
  cases he.symm.trans he'
  exact settleOutcome_shortfall hE (fun hopen => hcov e he (.inr hopen)) outcome _ hu hr

theorem streamSettle_emits :
    Yields (streamSettle s o l evidence) (Emits (writtenOff · = none) s) := by
  unfold streamSettle
  refine .bind fun _ _ => .bind fun _ _ => .bind fun _ _ => .bind fun e _ => .bind fun _ _ =>
    .bind fun periodCharge _ => .bind fun (u, _) hu => .ok ?_
  apply (payOut_emits _ hu).trans
  unfold recordStream
  dsimp only
  split
  · split <;> exact .deposit (.deposit (.refl (t := u) rfl) rfl rfl) rfl rfl
  · split <;> exact .deposit (.refl (t := u) rfl) rfl rfl

theorem completeAndPayout_emits :
    Yields (completeAndPayout s o l evidence) (Emits (writtenOff · = none) s) := by
  unfold completeAndPayout
  refine .bind fun _ _ => .bind fun _ _ => .bind fun _ _ => .bind fun e _ => .bind fun _ _ =>
    .bind fun _ _ => .bind fun _ _ => .bind fun (u, _) hu => .bind fun _ _ => .ok ?_
  apply (payOut_emits _ hu).trans
  exact .deposit (.refl (t := u) rfl) rfl rfl

theorem dispatch_emits (hE : E.currency.Lawful) (c : Call A) :
    Yields (dispatch s o c) (Emits (WritesOffSettled s) s) := by
  have hmono {x : DispatchResult E} (h : Yields x (Emits (writtenOff · = none) s)) :
      Yields x (Emits (WritesOffSettled s) s) :=
    fun t ht => (h t ht).mono fun _ => .of_none
  by_cases hw : Pallet.escrow ∈ c.writes
  · cases c with
    | completeAndPayout => exact hmono completeAndPayout_emits
    | resolveEscrowDispute leaseId outcome => exact resolveDispute_emits hE outcome
    | streamSettle => exact hmono streamSettle_emits
    | fundEscrow | refundEscrow | disputeEscrow | setPaused | setFeeBasisPoints |
        setTreasuryAccount =>
      apply hmono
      repeat refine .bind fun _ _ => ?_
      exact .ok (.deposit (.refl (t := s) rfl) rfl rfl)
    | _ => simp [Call.writes] at hw
  · exact hmono fun t ht => .of_writes (dispatch_writes c t ht) hw

def newEvents (s t : Chain E) : List (RuntimeEvent A) :=
  t.events.take (t.events.length - s.events.length)

theorem step_newEvents (hE : E.currency.Lawful) (s : Chain E) (a : Action A) :
    ∀ ev ∈ newEvents s (step s a), WritesOffSettled s ev := by
  have hem : Emits (WritesOffSettled s) s (step s a) := by
    cases a with
    | call o c => exact (dispatch_emits hE c).commit (.refl rfl)
    | blocks count => exact .refl rfl
  obtain ⟨es, he, hes⟩ := hem
  rw [newEvents, he, length_append, Nat.add_sub_cancel, take_left]
  exact hes

theorem refundEscrow_isOk (hE : E.currency.Lawful) (hcov : CoveredAt s l)
    (he : s.escrow.escrows.lookup l = some e) (hf : e.state = .funded)
    (hp : ¬ s.escrow.escrowPaused)
    (hw : e.livenessAnchor + E.config.escrowRefundWindow ≤ s.blockNumber) :
    (dispatch s (.signed e.payer) (.refundEscrow l)).isOk := by
  have hcap := hcov e he (.inl hf)
  have hl : ∃ ledger, unreserveExact E s.ledger e.payer e.remainingCap = .ok ledger := by
    unfold unreserveExact
    split
    · exact ⟨_, rfl⟩
    · refine ⟨_, bind_eq_ok.2 ⟨(), ensure_eq_ok.2 ?_, rfl⟩⟩
      rw [(hE.unreserve_spec ..).2]
      exact Nat.sub_eq_zero_of_le hcap
  obtain ⟨ledger, hl⟩ := hl
  have hnow : saturatingAdd 32 e.livenessAnchor E.config.escrowRefundWindow ≤ s.blockNumber :=
    (Nat.min_le_left _ _).trans hw
  change (refundEscrow s (.signed e.payer) l).isOk
  unfold refundEscrow
  apply isOk_iff.2
  refine ⟨_, bind_eq_ok.2 ⟨e.payer, rfl, bind_eq_ok.2 ⟨(), ensure_eq_ok.2 hp,
    bind_eq_ok.2 ⟨e, okOr_eq_ok.2 he, bind_eq_ok.2 ⟨(), ensure_eq_ok.2 rfl,
    bind_eq_ok.2 ⟨(), ensure_eq_ok.2 hf, bind_eq_ok.2 ⟨(), ensure_eq_ok.2 hnow,
    bind_eq_ok.2 ⟨ledger, hl, rfl⟩⟩⟩⟩⟩⟩⟩⟩

def TakesShortReserve (s : Chain E) (e : EscrowRecord A) : Prop :=
  e.settledAt = none ∧ s.reserved e.payer < e.remainingCap

theorem coveredAt (hsound : EscrowsSound s) (hs : (holding s x).Solvent)
    (he : s.escrow.escrows.lookup l = some e) (hx : e.payer = x) : CoveredAt s l := by
  subst hx
  intro r hr hopen
  cases he.symm.trans hr
  exact remainingCap_le_reserved hs he (hopen.elim (hsound l e he).funded id)

/-- No call on the escrows of an account with one role ever meets a shortfall. -/
theorem shortfall_branches_dead (hE : E.currency.Lawful) {L : Ledger}
    (hL : E.currency.reservedBalance L x = 0) {acts : List (Action A)}
    (h : Throughout step (fun s => (holding s x).Exclusive) (genesis E L) acts) :
    let s := run step (genesis E L) acts
    ∀ l, ∀ e ∈ s.escrow.escrows.lookup l, e.payer = x →
      (e.settledAt = none → e.remainingCap ≤ s.reserved x) ∧
      (∀ C, AgreesCovered E.currency C → ∀ o c, PaysLease l c →
        dispatch (s.withCurrency C) o c = (dispatch s o c).map (Chain.withCurrency · C)) ∧
      ¬ TakesShortReserve s e ∧
      (∀ a, ∀ ev ∈ newEvents s (step s a), writtenOff ev = some l → e.settledAt.isSome) ∧
      (e.state = .funded → ¬ s.escrow.escrowPaused →
        e.livenessAnchor + E.config.escrowRefundWindow ≤ s.blockNumber →
        (dispatch s (.signed x) (.refundEscrow l)).isOk) := by
  intro s l e he hx
  obtain ⟨hsound, hsolvent⟩ : EscrowsSound s ∧ (holding s x).Solvent := by
    apply h.invariant (I := fun s => EscrowsSound s ∧ (holding s x).Solvent)
    · exact ⟨nofun, solvent_genesis hL⟩
    · intro s a hs hx _
      exact ⟨hs.1.step hE a, (holding_step hE hs.1 a x).solvent hx hs.2⟩
  have hcov := coveredAt hsound hsolvent he hx
  subst hx
  refine ⟨fun hopen => hcov e he (.inr hopen), fun C hC o c hc => ?_, ?_, ?_, ?_⟩
  · exact dispatch_withCurrency hE hC hcov o hc
  · rintro ⟨hopen, hlt⟩
    exact absurd (hcov e he (.inr hopen)) hlt.not_ge
  · intro a ev hev hl
    exact step_newEvents hE s a ev hev l hl hcov e he
  · intro hf hp hw
    exact refundEscrow_isOk hE hcov he hf hp hw

theorem shortfall_branches_dead_payer :
    let s := run step devGenesis (marketRun ++ openLease 0 ++ [.blocks 14400])
    ∀ l, ∀ e ∈ s.escrow.escrows.lookup l, e.payer = 1 →
      (e.settledAt = none → e.remainingCap ≤ s.reserved 1) ∧
      (∀ C, AgreesCovered Balances.currency C → ∀ o c, PaysLease l c →
        dispatch (s.withCurrency C) o c = (dispatch s o c).map (Chain.withCurrency · C)) ∧
      ¬ TakesShortReserve s e ∧
      (∀ a, ∀ ev ∈ newEvents s (step s a), writtenOff ev = some l → e.settledAt.isSome) ∧
      (e.state = .funded → ¬ s.escrow.escrowPaused → e.livenessAnchor + 14400 ≤ s.blockNumber →
        (dispatch s (.signed 1) (.refundEscrow l)).isOk) :=
  shortfall_branches_dead Balances.currency_lawful rfl (by decide +kernel)

end OpenInfra.Escrow
