import OpenInfra.Escrow.Evidence

namespace OpenInfra.Escrow
open Frame

variable {A Ledger : Type} [LinearOrder A] {E : Env A Ledger}
  {s : Chain E} {e : EscrowRecord A} {l : LeaseId} {evidence : MeteringSummary}

def feeOn (bps amount : Nat) : Nat := amount * bps / 10000

theorem feeOn_le (h : bps ≤ 10000) (amount : Nat) : feeOn bps amount ≤ amount :=
  Nat.div_le_of_le_mul ((Nat.mul_le_mul_left amount h).trans_eq (Nat.mul_comm _ _))

theorem feeOn_zero (amount : Nat) : feeOn 0 amount = 0 := Nat.zero_div _

theorem splitFee_eq (htreasury : s.escrow.treasuryAccount = some treasury)
    (hbps : s.escrow.feeBasisPoints ≤ 10000) (amount : Nat) :
    splitFee s amount = if amount * s.escrow.feeBasisPoints ≤ maxValue 64 then
        .ok (amount - feeOn s.escrow.feeBasisPoints amount, feeOn s.escrow.feeBasisPoints amount,
          if s.escrow.feeBasisPoints = 0 then none else some treasury)
      else .error (.escrow .arithmeticOverflow) := by
  unfold splitFee
  dsimp only
  by_cases hzero : s.escrow.feeBasisPoints = 0
  · rw [hzero, Nat.mul_zero, if_pos rfl, if_pos (Nat.zero_le _), if_pos rfl, feeOn_zero]
    rfl
  · rw [if_neg hzero, if_neg hzero, htreasury]
    by_cases hproduct : amount * s.escrow.feeBasisPoints ≤ maxValue 64
    · rw [if_pos hproduct, checkedMul_eq_some.2 ⟨hproduct, rfl⟩]
      have hsub : checkedSub amount (feeOn s.escrow.feeBasisPoints amount) =
          some (amount - feeOn s.escrow.feeBasisPoints amount) :=
        checkedSub_eq_some.2 ⟨feeOn_le hbps amount, rfl⟩
      exact congrArg (fun x => okOr x _ >>= fun p => .ok (p, _, some treasury)) hsub
    · have hnone : checkedMul 64 amount s.escrow.feeBasisPoints = none := if_neg hproduct
      rw [if_neg hproduct, hnone]
      rfl

theorem repatriateExact_ne_overflow (L : Ledger) (payer target : A) (amount : Nat) :
    repatriateExact E L payer target amount ≠ .error (.escrow .arithmeticOverflow) := by
  unfold repatriateExact
  split
  · rintro ⟨⟩
  · refine bind_ne_error (okOr_ne_error (by decide)) fun _ _ =>
      bind_ne_error (ensure_ne_error (by decide)) fun _ _ => ?_
    rintro ⟨⟩

theorem unreserveExact_ne_overflow (L : Ledger) (payer : A) (amount : Nat) :
    unreserveExact E L payer amount ≠ .error (.escrow .arithmeticOverflow) := by
  unfold unreserveExact
  split
  · rintro ⟨⟩
  · refine bind_ne_error (ensure_ne_error (by decide)) fun _ _ => ?_
    rintro ⟨⟩

theorem collectFee_ne_overflow (s : Chain E) (l : LeaseId) (payer : A) (amount : Nat)
    (treasury : Option A) :
    collectFee s l payer amount treasury ≠ .error (.escrow .arithmeticOverflow) := by
  unfold collectFee
  split
  · exact nofun
  · exact bind_ne_error (okOr_ne_error nofun) fun _ _ =>
      bind_ne_error (repatriateExact_ne_overflow _ _ _ _) fun _ _ => nofun

theorem payOut_overflow_iff (amount : Nat) :
    payOut s l e amount = .error (.escrow .arithmeticOverflow) ↔
      splitFee s amount = .error (.escrow .arithmeticOverflow) :=
  bind_eq_error_iff fun _ => bind_ne_error (repatriateExact_ne_overflow _ _ _ _) fun _ _ =>
    bind_ne_error (collectFee_ne_overflow _ _ _ _ _) fun _ _ => nofun

inductive Splits (s : Chain E) : Origin A → Call A → Nat → Prop where
  | complete (who : A) (evidence : MeteringSummary) (e : EscrowRecord A)
      (amount : Nat) (hrunning : s.escrow.escrowPaused = false)
      (he : s.escrow.escrows.lookup evidence.leaseId = some e) (hstate : e.state = .funded)
      (hcharge : verifyAndCharge s e evidence = .ok amount) (hcap : amount ≤ e.remainingCap) :
      Splits s (.signed who) (.completeAndPayout evidence.leaseId evidence) amount
  | stream (who : A) (evidence : MeteringSummary) (e : EscrowRecord A)
      (charge : Nat) (hrunning : s.escrow.escrowPaused = false)
      (he : s.escrow.escrows.lookup evidence.leaseId = some e) (hstate : e.state = .funded)
      (hcharge : verifyAndCharge s e evidence = .ok charge) :
      Splits s (.signed who) (.streamSettle evidence.leaseId evidence) (e.streamCharge charge)
  | resolve (l : LeaseId) (e : EscrowRecord A) (amount : Nat)
      (hrunning : s.escrow.escrowPaused = false)
      (he : s.escrow.escrows.lookup l = some e) (hstate : e.state = .disputed)
      (hcap : amount ≤ e.maxCharge) (hstreamed : e.cumulativeCharged ≤ amount)
      (hopen : e.settledAt = none) (hreserve : e.remainingCap ≤ s.reserved e.payer) :
      Splits s .root (.resolveEscrowDispute l (.payProvider amount))
        (amount - e.cumulativeCharged)

theorem payProvider_overflow_iff (hcap : amount ≤ e.maxCharge)
    (hstreamed : e.cumulativeCharged ≤ amount) (hopen : e.settledAt = none)
    (hreserve : e.remainingCap ≤ s.reserved e.payer) :
    payProvider s l e amount = .error (.escrow .arithmeticOverflow) ↔
      splitFee s (amount - e.cumulativeCharged) = .error (.escrow .arithmeticOverflow) := by
  have hshort : ¬ s.reserved e.payer < e.remainingCap := Nat.not_lt_of_le hreserve
  unfold payProvider
  rw [ensure_bind hcap, ensure_bind hstreamed, hopen]
  dsimp only [Option.isSome_none]
  rw [if_neg nofun, if_neg hshort, ← payOut_overflow_iff (l := l) (e := e)]
  exact bind_eq_error_iff fun _ => bind_ne_error (unreserveExact_ne_overflow _ _ _) fun _ _ => nofun

theorem Splits.overflow_iff (h : Splits s o c amount) :
    dispatch s o c = .error (.escrow .arithmeticOverflow) ↔
      splitFee s amount = .error (.escrow .arithmeticOverflow) := by
  cases h with
  | complete who evidence e amount hrunning he hstate hcharge hcap =>
    change completeAndPayout s _ _ _ = _ ↔ _
    unfold completeAndPayout
    rw [bind_of_ok (x := ensureSigned (.signed who)) rfl,
      ensure_bind (ne_true_of_eq_false hrunning), ensure_bind rfl, okOr_bind he,
      ensure_bind hstate, bind_of_ok hcharge, ensure_bind hcap,
      ← payOut_overflow_iff (l := evidence.leaseId) (e := e)]
    exact bind_eq_error_iff fun _ =>
      bind_ne_error (unreserveExact_ne_overflow _ _ _) fun _ _ => nofun
  | stream who evidence e charge hrunning he hstate hcharge =>
    change streamSettle s _ _ _ = _ ↔ _
    unfold streamSettle
    rw [bind_of_ok (x := ensureSigned (.signed who)) rfl,
      ensure_bind (ne_true_of_eq_false hrunning), ensure_bind rfl, okOr_bind he,
      ensure_bind hstate, bind_of_ok hcharge,
      ← payOut_overflow_iff (l := evidence.leaseId) (e := e)]
    exact bind_eq_error_iff fun _ => nofun
  | resolve l e amount hrunning he hstate hcap hstreamed hopen hreserve =>
    change resolveDispute s _ _ _ = _ ↔ _
    unfold resolveDispute
    rw [bind_of_ok (x := ensureRoot .root) rfl, ensure_bind (ne_true_of_eq_false hrunning),
      okOr_bind he, ensure_bind hstate,
      ← payProvider_overflow_iff (l := l) hcap hstreamed hopen hreserve]
    exact bind_eq_error_iff fun _ => nofun

/-- Payable exactly if charge times rate fits into 64 bits. -/
theorem fee_split_payable (htreasury : s.escrow.treasuryAccount = some treasury)
    (hbps : s.escrow.feeBasisPoints ≤ 2000) :
    (∀ amount ≤ maxValue 64,
      (splitFee s amount = .ok (amount - amount * s.escrow.feeBasisPoints / 10000,
        amount * s.escrow.feeBasisPoints / 10000,
        if s.escrow.feeBasisPoints = 0 then none else some treasury) ↔
      amount * s.escrow.feeBasisPoints ≤ maxValue 64)) ∧
    ∀ o c amount, Splits s o c amount →
      (dispatch s o c ≠ .error (.escrow .arithmeticOverflow) ↔
        amount * s.escrow.feeBasisPoints ≤ maxValue 64) := by
  have hsplit := splitFee_eq htreasury (hbps.trans (by decide))
  refine ⟨fun amount _ => ?_, fun o c amount h => ?_⟩
  · rw [hsplit amount]
    split
    · rename_i hproduct
      exact ⟨fun _ => hproduct, fun _ => rfl⟩
    · rename_i hproduct
      exact ⟨nofun, fun h => absurd h hproduct⟩
  · rw [ne_eq, h.overflow_iff, hsplit amount]
    split
    · rename_i hproduct
      exact ⟨fun _ => hproduct, fun _ => nofun⟩
    · rename_i hproduct
      exact ⟨fun h => absurd rfl h, fun h => absurd h hproduct⟩

def costlyRun : List (Action Nat) :=
  marketRun ++ [.call .root (.setTreasuryAccount 8), .call .root (.setFeeBasisPoints 2000),
    .call (.signed 1) (.createLease 0 9 (List.Vector.replicate 32 0) 10),
    .call (.signed 1) (.fundEscrow 0 9 (10 ^ 16) ⟨10 ^ 15, 1, 1, 1⟩ 1)]

def costly : Chain (Env.runtime (Host.constant : Host Nat)) :=
  run step (genesis _ ⟨fun _ => 10 ^ 17, fun _ => 0⟩) costlyRun

theorem fee_split_payable_costly :
    costly.escrow.feeBasisPoints = 2000 ∧
    (splitFee costly (10 ^ 15) = .ok (8 * 10 ^ 14, 2 * 10 ^ 14, some 8) ↔
      10 ^ 15 * costly.escrow.feeBasisPoints ≤ maxValue 64) := by
  have hbps : costly.escrow.feeBasisPoints = 2000 := by decide +kernel
  have htreasury : costly.escrow.treasuryAccount = some 8 := by decide +kernel
  have h := (fee_split_payable htreasury hbps.le).1 (10 ^ 15) (by decide)
  rw [hbps] at h ⊢
  exact ⟨rfl, h⟩

theorem fee_blocks_payout :
    costly.escrow.treasuryAccount = some 8 ∧ costly.escrow.feeBasisPoints = 2000 ∧
    (costly.escrow.escrows.lookup 0).map (·.maxCharge) = some (10 ^ 16) ∧
    splitFee costly (10 ^ 16) = .error (.escrow .arithmeticOverflow) ∧
    (∀ e ∈ costly.escrow.escrows.lookup 0, computeCharge e.price (hourly 1 0) = .ok (10 ^ 16)) ∧
    dispatch costly (.signed 5) (.completeAndPayout 0 (hourly 1 0)) =
      .error (.escrow .arithmeticOverflow) ∧
    dispatch costly (.signed 5) (.streamSettle 0 (hourly 1 0)) =
      .error (.escrow .arithmeticOverflow) ∧
    dispatch (step costly (.call (.signed 1) (.disputeEscrow 0 (List.Vector.replicate 32 0))))
      .root (.resolveEscrowDispute 0 (.payProvider (10 ^ 16))) =
        .error (.escrow .arithmeticOverflow) :=
  ⟨by decide +kernel, by decide +kernel, by decide +kernel,
    failure_eq_some.1 (by decide +kernel), by decide +kernel,
    failure_eq_some.1 (by decide +kernel), failure_eq_some.1 (by decide +kernel),
    failure_eq_some.1 (by decide +kernel)⟩

end OpenInfra.Escrow
