import OpenInfra.Escrow.Fees

namespace OpenInfra.Escrow
open Frame List
open ReservableCurrency (Credits)

variable {A Ledger : Type} [LinearOrder A] {E : Env A Ledger}
  {s t u v : Chain E} {e e' : EscrowRecord A} {l : LeaseId} {x total : MeteringSummary}
  {xs : List MeteringSummary} {free : Ledger → A → Nat} {treasury : Option A}
  {provider : A}

def cost (price : PriceSchedule) (x : MeteringSummary) : Nat :=
  x.cpuCoreSeconds * price.cpuCoreSecond + x.ramMbSeconds * price.ramMbSecond +
    x.storageGbSeconds * price.storageGbSecond +
    (x.networkEgressMb + x.networkIngressMb) * price.networkMb

theorem computeCharge_cost (h : computeCharge price x = .ok charge) :
    charge = cost price x ∧ charge ≤ maxValue 64 := by
  unfold computeCharge at h
  simp only [bind_eq_ok, okOr_eq_ok, Option.bind_eq_some_iff, checkedMul_eq_some,
    checkedAdd_eq_some] at h
  obtain ⟨_, ⟨_, rfl⟩, _, ⟨_, rfl⟩, _, ⟨_, rfl⟩, _, ⟨_, rfl⟩, _, ⟨_, rfl⟩, _, ⟨_, ⟨_, rfl⟩, _, rfl⟩,
    hmax, rfl⟩ := h
  exact ⟨rfl, hmax⟩

structure SumOf (total : MeteringSummary) (xs : List MeteringSummary) : Prop where
  cpuCoreSeconds : total.cpuCoreSeconds = (xs.map (·.cpuCoreSeconds)).sum
  ramMbSeconds : total.ramMbSeconds = (xs.map (·.ramMbSeconds)).sum
  storageGbSeconds : total.storageGbSeconds = (xs.map (·.storageGbSeconds)).sum
  networkEgressMb : total.networkEgressMb = (xs.map (·.networkEgressMb)).sum
  networkIngressMb : total.networkIngressMb = (xs.map (·.networkIngressMb)).sum

theorem SumOf.cost (h : SumOf total xs) (price : PriceSchedule) :
    cost price total = (xs.map (Escrow.cost price)).sum := by
  unfold Escrow.cost
  simp only [sum_map_add, sum_map_mul_right, h.cpuCoreSeconds, h.ramMbSeconds,
    h.storageGbSeconds, h.networkEgressMb, h.networkIngressMb]

def share (treasury : Option A) (provider : A) (charge fee : Nat)
    (y : A) : Nat :=
  (if y = provider then charge - fee else 0) + if treasury = some y then fee else 0

theorem share_zero (y : A) : share treasury provider 0 0 y = 0 := by
  simp only [share, Nat.sub_self, ite_self]

theorem share_add (h : fee ≤ charge) (h' : fee' ≤ charge') (y : A) :
    share treasury provider charge fee y + share treasury provider charge' fee' y =
      share treasury provider (charge + charge') (fee + fee') y := by
  unfold share
  split <;> split <;> omega

theorem share_diff (h : fee ≤ fee') (h' : fee' ≤ charge) (y : A) :
    share treasury provider charge fee y + (if treasury = some y then fee' - fee else 0) =
      share treasury provider charge fee' y + if y = provider then fee' - fee else 0 := by
  unfold share
  split <;> split <;> omega

theorem balances_diff (h : fee ≤ fee') (h' : fee' ≤ charge)
    (ha : a = n + share treasury provider charge fee y + rest)
    (hb : b = n + share treasury provider charge fee' y + rest) :
    a + (if treasury = some y then fee' - fee else 0) =
      b + if y = provider then fee' - fee else 0 := by
  have hdiff : share treasury provider charge fee y + _ = _ := share_diff h h' y
  omega

variable {a : A}

theorem repatriateExact_free (hfree : E.currency.Credits free) {a b : A} :
    Yields (repatriateExact E L a b amount) fun L' =>
      ∀ y, free L' y = free L y + if y = b then amount else 0 := by
  unfold repatriateExact
  split
  · rename_i hzero
    refine .ok fun y => ?_
    rw [hzero, ite_self, Nat.add_zero]
  · refine .bind ?_
    rintro ⟨L', rest⟩ hmoved
    refine .bind fun _ hrest => .ok fun y => ?_
    rw [okOr_eq_ok] at hmoved
    rw [ensure_eq_ok] at hrest
    subst hrest
    rw [hfree.repatriate hmoved, Function.update_apply, Nat.sub_zero]
    split
    · rename_i hy
      rw [hy]
    · rfl

theorem unreserveExact_free (hfree : E.currency.Credits free) :
    Yields (unreserveExact E L a amount) fun L' =>
      ∀ y, free L' y = free L y + if y = a then amount else 0 := by
  unfold unreserveExact
  split
  · rename_i hzero
    refine .ok fun y => ?_
    rw [hzero, ite_self, Nat.add_zero]
  · refine .bind fun _ hrest => .ok fun y => ?_
    rw [ensure_eq_ok] at hrest
    rw [hfree.unreserve, hrest, Function.update_apply, Nat.sub_zero]
    split
    · rename_i hy
      rw [hy]
    · rfl

theorem splitFee_ok : Yields (splitFee s amount) fun r =>
    feeOn s.escrow.feeBasisPoints amount ≤ amount ∧
    r.1 = amount - feeOn s.escrow.feeBasisPoints amount ∧
    r.2.1 = feeOn s.escrow.feeBasisPoints amount ∧
    (r.2.2 = s.escrow.treasuryAccount ∨ r.2.1 = 0) := by
  unfold splitFee
  dsimp only
  split
  · rename_i hzero
    refine .ok ?_
    rw [hzero, feeOn_zero]
    exact ⟨Nat.zero_le _, rfl, rfl, .inr rfl⟩
  · refine .bind fun treasury ht => .bind fun product hp => .bind fun rest hrest => .ok ?_
    rw [okOr_eq_ok] at ht hp hrest
    rw [checkedMul_eq_some] at hp
    obtain ⟨_, rfl⟩ := hp
    rw [checkedSub_eq_some] at hrest
    exact ⟨hrest.1, hrest.2.symm, rfl, .inl ht.symm⟩

theorem collectFee_free (hfree : E.currency.Credits free)
    (h : treasury = s.escrow.treasuryAccount ∨ fee = 0) :
    Yields (collectFee s l payer fee treasury) fun t =>
      ∀ y, free t.ledger y =
        free s.ledger y + if s.escrow.treasuryAccount = some y then fee else 0 := by
  unfold collectFee
  split
  · rename_i hzero
    refine .ok fun y => ?_
    rw [hzero, ite_self, Nat.add_zero]
  · rename_i hne
    refine .bind fun b hb => .bind fun L' hL => .ok fun y => ?_
    rw [okOr_eq_ok] at hb
    rw [← h.resolve_right hne, hb]
    refine (repatriateExact_free hfree L' hL y).trans ?_
    simp only [Option.some.injEq, eq_comm]

theorem payOut_free (hfree : E.currency.Credits free) :
    Yields (payOut s l e amount) fun r => feeOn s.escrow.feeBasisPoints amount ≤ amount ∧
      ∀ y, free r.1.ledger y = free s.ledger y + share s.escrow.treasuryAccount e.provider amount
        (feeOn s.escrow.feeBasisPoints amount) y := by
  unfold payOut
  refine .bind fun (p, fee, b) hsplit => .bind fun L hL => .bind fun t ht => .ok ?_
  obtain ⟨hle, rfl, rfl, hb⟩ := splitFee_ok _ hsplit
  refine ⟨hle, fun y => ?_⟩
  have hfirst := repatriateExact_free hfree L hL y
  have hsecond := collectFee_free (s := { s with ledger := L }) hfree hb t ht y
  dsimp only at hsecond ⊢
  rw [hsecond, hfirst, share, Nat.add_assoc]

theorem verifyAndCharge_charge :
    Yields (verifyAndCharge s e x) fun charge => computeCharge e.price x = .ok charge := by
  unfold verifyAndCharge
  iterate 7 refine .bind fun _ _ => ?_
  exact fun _ h => h

theorem streamSettle_ok : Yields (streamSettle s o l x) fun t => ∃ e charge u p,
    s.escrow.escrows.lookup l = some e ∧ computeCharge e.price x = .ok charge ∧
    payOut s l e (e.streamCharge charge) = .ok (u, p) ∧ t = recordStream u l e x charge := by
  unfold streamSettle
  refine .bind fun _ _ => .bind fun _ _ => .bind fun _ _ => .bind fun e he => .bind fun _ _ =>
    .bind fun charge hcharge => .bind fun (u, p) hu => .ok ?_
  rw [okOr_eq_ok] at he
  exact ⟨e, charge, u, p, he, verifyAndCharge_charge _ hcharge, hu, rfl⟩

/-- The evidences `xs` are streamed one after the other. -/
inductive Streamed (l : LeaseId) : Chain E → List MeteringSummary → Chain E → Prop where
  | nil (s : Chain E) : Streamed l s [] s
  | blocks {s t : Chain E} {xs : List MeteringSummary} (count : Nat)
      (h : Streamed l (step s (.blocks count)) xs t) : Streamed l s xs t
  | settle {s t u : Chain E} {x : MeteringSummary} {xs : List MeteringSummary}
      (o : Origin A) (hx : dispatch s o (.streamSettle l x) = .ok u)
      (h : Streamed l u xs t) : Streamed l s (x :: xs) t

structure Drawn (free : Ledger → A → Nat) (l : LeaseId) (s : Chain E)
    (e : EscrowRecord A) (charges : List Nat) (t : Chain E) : Prop where
  fee : t.escrow.feeBasisPoints = s.escrow.feeBasisPoints
  treasury : t.escrow.treasuryAccount = s.escrow.treasuryAccount
  record : ∃ e', t.escrow.escrows.lookup l = some e' ∧ SameTerms e e' ∧ e'.price = e.price ∧
    e'.cumulativeCharged = e.cumulativeCharged + charges.sum
  fees : (charges.map (feeOn s.escrow.feeBasisPoints)).sum ≤ charges.sum
  balances : ∀ y, free t.ledger y = free s.ledger y + share s.escrow.treasuryAccount e.provider
    charges.sum (charges.map (feeOn s.escrow.feeBasisPoints)).sum y

theorem Drawn.nil (he : s.escrow.escrows.lookup l = some e) : Drawn free l s e [] s where
  fee := rfl
  treasury := rfl
  record := ⟨e, he, ⟨rfl, rfl, rfl⟩, rfl, rfl⟩
  fees := le_rfl
  balances y := (congrArg (free s.ledger y + ·) (share_zero y)).symm

theorem recordStream_fee (evidence : MeteringSummary) (charge : Nat) :
    (recordStream u l e evidence charge).escrow.feeBasisPoints = u.escrow.feeBasisPoints ∧
    (recordStream u l e evidence charge).escrow.treasuryAccount = u.escrow.treasuryAccount := by
  rw [recordStream_escrow]
  split <;> exact ⟨rfl, rfl⟩

theorem streamed_price : (streamed now x charge capped e).price = e.price := by
  unfold streamed
  dsimp only
  split
  · rfl
  · split <;> rfl

theorem streamSettle_drawn (hfree : E.currency.Credits free)
    (he : s.escrow.escrows.lookup l = some e)
    (hcap : e.cumulativeCharged + cost e.price x ≤ e.maxCharge)
    (hmax : e.cumulativeCharged + cost e.price x ≤ maxValue 64) :
    Yields (streamSettle s o l x) fun t =>
      computeCharge e.price x = .ok (cost e.price x) ∧ Drawn free l s e [cost e.price x] t := by
  intro t ht
  obtain ⟨r, charge, u, p, hr, hcharge, hpay, rfl⟩ := streamSettle_ok t ht
  cases he.symm.trans hr
  obtain ⟨rfl, _⟩ := computeCharge_cost hcharge
  have hfull : e.streamCharge (cost e.price x) = cost e.price x := by
    refine if_neg ?_
    unfold EscrowRecord.remainingCap
    omega
  rw [hfull] at hpay
  obtain ⟨hle, hshare⟩ := payOut_free hfree _ hpay
  have hpaid := payOut_paid _ hpay
  obtain ⟨hfee, htreasury⟩ := recordStream_fee (u := u) (l := l) (e := e) x (cost e.price x)
  refine ⟨hcharge, ⟨hfee.trans (by rw [hpaid.escrow]), htreasury.trans (by rw [hpaid.escrow]),
    ⟨e.afterStream u.blockNumber x (cost e.price x), ?_, streamed_terms, streamed_price, ?_⟩,
    ?_, ?_⟩⟩
  · rw [recordStream_escrow]
    exact Finmap.lookup_insert _
  · rw [EscrowRecord.afterStream, streamed_cumulativeCharged, hfull, saturatingAdd_of_le hmax,
      sum_singleton]
  · rwa [map_singleton, sum_singleton, sum_singleton]
  · intro y
    rw [recordStream_ledger, hshare, map_singleton, sum_singleton, sum_singleton]

theorem Drawn.cons (h : Drawn free l s e [charge] u) (hrest : ∀ e',
      u.escrow.escrows.lookup l = some e' → SameTerms e e' → e'.price = e.price →
      e'.cumulativeCharged = e.cumulativeCharged + charge → Drawn free l u e' charges t) :
    Drawn free l s e (charge :: charges) t := by
  obtain ⟨r, hr, hterms, hprice, hcum⟩ := h.record
  have hcharge : [charge].sum = charge := sum_singleton
  rw [hcharge] at hcum
  have hnext := hrest r hr hterms hprice hcum
  obtain ⟨e', he', hterms', hprice', hcum'⟩ := hnext.record
  have hfees := h.fees
  have hfees' := hnext.fees
  rw [h.fee] at hfees'
  rw [map_singleton, sum_singleton, hcharge] at hfees
  refine ⟨hnext.fee.trans h.fee, hnext.treasury.trans h.treasury, ⟨e', he',
    ⟨hterms'.payer.trans hterms.payer, hterms'.provider.trans hterms.provider,
      hterms'.maxCharge.trans hterms.maxCharge⟩, hprice'.trans hprice, ?_⟩, ?_, ?_⟩
  · rw [hcum', hcum, sum_cons, Nat.add_assoc]
  · rw [map_cons, sum_cons, sum_cons]
    exact Nat.add_le_add hfees hfees'
  · intro y
    rw [hnext.balances, h.balances, h.fee, h.treasury, hterms.provider, hcharge, map_singleton,
      sum_singleton, Nat.add_assoc, share_add hfees hfees', map_cons, sum_cons,
      sum_cons]

theorem Streamed.drawn (hfree : E.currency.Credits free) (h : Streamed l s xs t)
    (he : s.escrow.escrows.lookup l = some e)
    (hcap : e.cumulativeCharged + (xs.map (cost e.price)).sum ≤ e.maxCharge)
    (hmax : e.cumulativeCharged + (xs.map (cost e.price)).sum ≤ maxValue 64) :
    (∀ x ∈ xs, computeCharge e.price x = .ok (cost e.price x)) ∧
      Drawn free l s e (xs.map (cost e.price)) t := by
  induction h generalizing e with
  | nil s => exact ⟨nofun, .nil he⟩
  | blocks count _ ih =>
    obtain ⟨hcharges, hdrawn⟩ := ih he hcap hmax
    exact ⟨hcharges, hdrawn.fee, hdrawn.treasury, hdrawn.record, hdrawn.fees, hdrawn.balances⟩
  | @settle s t u x xs o hx _ ih =>
    rw [map_cons, sum_cons, ← Nat.add_assoc] at hcap hmax
    obtain ⟨hcharge, hfirst⟩ := streamSettle_drawn hfree he
      ((Nat.le_add_right _ _).trans hcap) ((Nat.le_add_right _ _).trans hmax) u hx
    obtain ⟨r, hr, hterms, hprice, hcum⟩ := hfirst.record
    rw [sum_singleton] at hcum
    obtain ⟨hcharges, hdrawn⟩ := ih hr (by rwa [hcum, hprice, hterms.maxCharge])
      (by rwa [hcum, hprice])
    rw [hprice] at hcharges hdrawn
    refine ⟨forall_mem_cons.2 ⟨hcharge, hcharges⟩, hfirst.cons ?_⟩
    intro e' he' _ _ _
    cases hr.symm.trans he'
    exact hdrawn

inductive Returned (l : LeaseId) (s : Chain E) : Chain E → Prop where
  | refunded {t : Chain E} (o : Origin A)
      (h : dispatch s o (.refundEscrow l) = .ok t) : Returned l s t
  | exhausted (h : ∃ e ∈ s.escrow.escrows.lookup l, e.cumulativeCharged = e.maxCharge) :
      Returned l s s

theorem refundEscrow_free (hfree : E.currency.Credits free)
    (he : s.escrow.escrows.lookup l = some e) :
    Yields (refundEscrow s o l) fun t => ∀ y,
      free t.ledger y = free s.ledger y + if y = e.payer then e.remainingCap else 0 := by
  unfold refundEscrow
  refine .bind fun _ _ => .bind fun _ _ => .bind fun r hr => .bind fun _ _ => .bind fun _ _ =>
    .bind fun _ _ => .bind fun L hL => .ok ?_
  cases he.symm.trans (okOr_eq_ok.1 hr)
  exact unreserveExact_free hfree L hL

theorem Returned.balances (hfree : E.currency.Credits free) (h : Returned l s t)
    (he : s.escrow.escrows.lookup l = some e) (y : A) :
    free t.ledger y = free s.ledger y + if y = e.payer then e.remainingCap else 0 := by
  cases h with
  | refunded o h => exact refundEscrow_free hfree he t h y
  | exhausted h =>
    obtain ⟨r, hr, hcum⟩ := h
    cases he.symm.trans hr
    rw [EscrowRecord.remainingCap, hcum, Nat.sub_self, ite_self, Nat.add_zero]

theorem completeAndPayout_free (hfree : E.currency.Credits free)
    (he : s.escrow.escrows.lookup l = some e) (hcharge : computeCharge e.price x = .ok charge) :
    Yields (completeAndPayout s o l x) fun t => feeOn s.escrow.feeBasisPoints charge ≤ charge ∧
      ∀ y, free t.ledger y = free s.ledger y + share s.escrow.treasuryAccount e.provider charge
        (feeOn s.escrow.feeBasisPoints charge) y +
        if y = e.payer then e.remainingCap - charge else 0 := by
  unfold completeAndPayout
  refine .bind fun _ _ => .bind fun _ _ => .bind fun _ _ => .bind fun r hr => .bind fun _ _ =>
    .bind fun charged hcharged => .bind fun _ _ => .bind fun (u, p) hu => .bind fun L hL => .ok ?_
  cases he.symm.trans (okOr_eq_ok.1 hr)
  cases hcharge.symm.trans (verifyAndCharge_charge _ hcharged)
  obtain ⟨hle, hshare⟩ := payOut_free hfree _ hu
  exact ⟨hle, fun y => (unreserveExact_free hfree L hL y).trans (by rw [hshare])⟩

theorem fees_le (bps : Nat) (charges : List Nat) :
    (charges.map (feeOn bps)).sum ≤ feeOn bps charges.sum := by
  have h := sum_div_le 10000 (charges.map (· * bps))
  rwa [map_map, sum_map_mul_right, map_id'] at h

theorem fee_lt (bps : Nat) (hne : charges ≠ []) :
    feeOn bps charges.sum < (charges.map (feeOn bps)).sum + charges.length := by
  have hproducts : charges.map (· * bps) ≠ [] := mt map_eq_nil_iff.1 hne
  have h := div_sum_lt (d := 10000) (by decide) hproducts
  rwa [map_map, sum_map_mul_right, map_id', length_map] at h

/-- Parts cost what the whole costs, but for rounded fees. -/
theorem streaming_matches_one_shot (hfree : E.currency.Credits free)
    (he : s.escrow.escrows.lookup l = some e) (hfresh : e.cumulativeCharged = 0)
    (hxs : xs ≠ []) (hstream : Streamed l s xs u) (hsum : SumOf total xs)
    (hcharge : computeCharge e.price total = .ok charge) (hcap : charge ≤ e.maxCharge) :
    ∃ charges : List Nat, List.Forall₂ (fun x c => computeCharge e.price x = .ok c) xs charges ∧
      charges.sum = charge ∧
      let fee := feeOn s.escrow.feeBasisPoints charge
      let fees := (charges.map (feeOn s.escrow.feeBasisPoints)).sum
      fees ≤ fee ∧ fee < fees + xs.length ∧ fees ≤ charge ∧
      (∀ y, free u.ledger y = free s.ledger y + (if y = e.provider then charge - fees else 0) +
        if s.escrow.treasuryAccount = some y then fees else 0) ∧
      ∀ o t v, dispatch s o (.completeAndPayout l total) = .ok t → Returned l u v →
        (∀ y, free v.ledger y + (if s.escrow.treasuryAccount = some y then fee - fees else 0) =
          free t.ledger y + if y = e.provider then fee - fees else 0) ∧
        (e.payer ≠ e.provider → s.escrow.treasuryAccount ≠ some e.payer →
          free v.ledger e.payer = free t.ledger e.payer) := by
  obtain ⟨rfl, hmax⟩ := computeCharge_cost hcharge
  have hcosts := hsum.cost e.price
  have hbound : e.cumulativeCharged + (xs.map (cost e.price)).sum = cost e.price total := by
    rw [hfresh, Nat.zero_add, hcosts]
  obtain ⟨hcharges, hdrawn⟩ := hstream.drawn hfree he (hbound.trans_le hcap)
    (hbound.trans_le hmax)
  have hfees := hdrawn.fees
  have hbalances := hdrawn.balances
  have hless := fees_le s.escrow.feeBasisPoints (xs.map (cost e.price))
  have hne : xs.map (cost e.price) ≠ [] := mt map_eq_nil_iff.1 hxs
  have hmore := fee_lt s.escrow.feeBasisPoints hne
  rw [length_map] at hmore
  rw [← hcosts] at hfees hbalances hless hmore
  refine ⟨xs.map (cost e.price), ?_, hcosts.symm, hless, hmore, hfees, ?_, ?_⟩
  · rw [forall₂_map_right_iff, forall₂_same]
    exact hcharges
  · intro y
    rw [hbalances y, share, Nat.add_assoc]
  intro o t v ht hreturned
  obtain ⟨e', he', hterms, _, hcum⟩ := hdrawn.record
  obtain ⟨hfee, hone⟩ := completeAndPayout_free hfree he hcharge t ht
  have hrest : e'.remainingCap = e.remainingCap - cost e.price total := by
    rw [EscrowRecord.remainingCap, EscrowRecord.remainingCap, hterms.maxCharge, hcum, hbound,
      hfresh, Nat.sub_zero]
  have hfinal := fun y => hreturned.balances hfree he' y
  simp only [hbalances, hterms.payer, hrest] at hfinal
  have hdiff := fun y => balances_diff hless hfee (hfinal y) (hone y)
  refine ⟨hdiff, fun hprovider htreasury => ?_⟩
  have hpayer := hdiff e.payer
  rwa [if_neg htreasury, if_neg hprovider] at hpayer

def halfHour (sequence start : Nat) : MeteringSummary :=
  ⟨0, sequence, start, start + 1800, 5, 0, 0, 0, 0, 0, 1, List.Vector.replicate 64 0⟩

def taxed (treasury : Nat) : Chain (Env.runtime (Host.constant : Host Nat)) :=
  run step devGenesis (marketRun ++ openLease 0 ++
    [.call .root (.setTreasuryAccount treasury), .call .root (.setFeeBasisPoints 1000)])

theorem dispatch_eq_step (h : (dispatch s o c).isOk) :
    dispatch s o c = .ok (step s (.call o c)) := by
  obtain ⟨t, ht⟩ := isOk_iff.1 h
  rw [step_call, ht, commit_ok]

def halfHours (s : Chain (Env.runtime (Host.constant : Host Nat))) :
    Chain (Env.runtime (Host.constant : Host Nat)) :=
  run step s [.call (.signed 5) (.streamSettle 0 (halfHour 1 0)),
    .call (.signed 5) (.streamSettle 0 (halfHour 2 1800)), .blocks 14400]

theorem halfHours_streamed {s : Chain (Env.runtime (Host.constant : Host Nat))}
    (h : (dispatch s (.signed 5) (.streamSettle 0 (halfHour 1 0))).isOk)
    (h' : (dispatch (step s (.call (.signed 5) (.streamSettle 0 (halfHour 1 0)))) (.signed 5)
      (.streamSettle 0 (halfHour 2 1800))).isOk) :
    Streamed 0 s [halfHour 1 0, halfHour 2 1800] (halfHours s) :=
  .settle (.signed 5) (dispatch_eq_step h)
    (.settle (.signed 5) (dispatch_eq_step h') (.blocks 14400 (.nil _)))

theorem sumOf_halfHours : SumOf (hourly 1 0) [halfHour 1 0, halfHour 2 1800] :=
  ⟨rfl, rfl, rfl, rfl, rfl⟩

theorem streaming_matches_one_shot_half_hours :
    ∃ t v, dispatch (taxed 8) (.signed 5) (.completeAndPayout 0 (hourly 1 0)) = .ok t ∧
      Returned 0 (halfHours (taxed 8)) v ∧ v.ledger.free 1 = t.ledger.free 1 := by
  have hsome : ((taxed 8).escrow.escrows.lookup 0).isSome := by decide +kernel
  obtain ⟨e, he⟩ := Option.isSome_iff_exists.1 hsome
  have hrecord : ∀ e ∈ (taxed 8).escrow.escrows.lookup 0, e.cumulativeCharged = 0 ∧
      computeCharge e.price (hourly 1 0) = .ok 10 ∧ 10 ≤ e.maxCharge ∧ e.payer = 1 ∧
      e.provider = 9 := by decide +kernel
  obtain ⟨hfresh, hcharge, hcap, hpayer, hprovider⟩ := hrecord e he
  have htreasury : (taxed 8).escrow.treasuryAccount = some 8 := by decide +kernel
  have hone := dispatch_eq_step (s := taxed 8) (o := .signed 5)
    (c := .completeAndPayout 0 (hourly 1 0)) (by decide +kernel)
  have hreturned : Returned 0 (halfHours (taxed 8)) _ :=
    .refunded (.signed 1) (dispatch_eq_step (by decide +kernel))
  obtain ⟨_, _, _, _, _, _, _, hcompare⟩ := streaming_matches_one_shot Balances.currency_credits he
    hfresh (cons_ne_nil _ _) (halfHours_streamed (by decide +kernel) (by decide +kernel))
    sumOf_halfHours hcharge hcap
  have hsame := (hcompare _ _ _ hone hreturned).2 (by rw [hpayer, hprovider]; decide)
    (by rw [htreasury, hpayer]; decide)
  rw [hpayer] at hsame
  exact ⟨_, _, hone, hreturned, hsame⟩

theorem treasury_pays_itself :
    let s := taxed 1
    let t := step s (.call (.signed 5) (.completeAndPayout 0 (hourly 1 0)))
    let v := step (halfHours s) (.call (.signed 1) (.refundEscrow 0))
    Streamed 0 s [halfHour 1 0, halfHour 2 1800] (halfHours s) ∧
      SumOf (hourly 1 0) [halfHour 1 0, halfHour 2 1800] ∧
      dispatch s (.signed 5) (.completeAndPayout 0 (hourly 1 0)) = .ok t ∧
      Returned 0 (halfHours s) v ∧
      (s.escrow.escrows.lookup 0).map (·.payer) = some 1 ∧
      t.ledger.free 1 = v.ledger.free 1 + 1 :=
  ⟨halfHours_streamed (by decide +kernel) (by decide +kernel), sumOf_halfHours,
    dispatch_eq_step (by decide +kernel),
    .refunded (.signed 1) (dispatch_eq_step (by decide +kernel)),
    by decide +kernel, by decide +kernel⟩

end OpenInfra.Escrow
