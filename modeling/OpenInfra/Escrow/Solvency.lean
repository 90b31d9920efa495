import OpenInfra.Escrow.Roles

namespace OpenInfra.Escrow
open Frame NetworkValidator ProviderSlashing Function

variable {A Ledger : Type} [LinearOrder A] {E : Env A Ledger}
  {s : Chain E} {x : A}

theorem Orderly.solvent (hC : E.currency.Lawful) (h : Orderly s x) (hs : (holding s x).Solvent)
    (a : Action A) : (holding (OpenInfra.step s a) x).Solvent :=
  (holding_step hC h.sound a x).solvent h.exclusive hs

variable {L ledger : Ledger} {free reserved : Nat → Nat}

theorem solvent_genesis (hL : E.currency.reservedBalance L x = 0) :
    (holding (genesis E L) x).Solvent := by
  have hnone : ReserveAccount.deposited (holding (genesis E L) x).deposit = 0 :=
    ReserveAccount.deposited_of_none (deposit_genesis E L x)
  rw [ReserveAccount.Solvent, hnone]
  exact hL

theorem solvent_of_countable (hC : E.currency.Lawful) (hL : E.currency.reservedBalance L x = 0)
    (h : Throughout step (EscrowsCountable · x) (genesis E L) acts) :
    (holding (run step (genesis E L) acts) x).Solvent := by
  refine (h.invariant (I := fun s => Orderly s x ∧ (holding s x).Solvent)
    ⟨.genesis E L x, solvent_genesis hL⟩ fun s a hs _ hb => ?_).2
  exact ⟨hs.1.step hC a hb, hs.1.solvent hC hs.2 a⟩

def owedToEscrows (s : Chain E) (x : A) : Nat := (openCaps s x).sum

/-- The reserve is what escrows, stake and bond hold back. -/
theorem reserved_eq_owed (hC : E.currency.Lawful) {L : Ledger}
    (hL : E.currency.reservedBalance L x = 0) {acts : List (Action A)}
    (h : Throughout step (EscrowsCountable · x) (genesis E L) acts) :
    let s := run step (genesis E L) acts
    s.reserved x = owedToEscrows s x + (stakeOf s x).getD 0 + (bondOf s x).getD 0 := by
  intro s
  have hsum : ReserveAccount.deposited (deposit s x) =
      (stakeOf s x).getD 0 + (bondOf s x).getD 0 := rfl
  have hsolvent : s.reserved x = owedToEscrows s x + ReserveAccount.deposited (deposit s x) :=
    solvent_of_countable hC hL h
  omega

theorem reserved_eq_owed_payer :
    let s := run step devGenesis (marketRun ++ openLease 0)
    s.reserved 1 = owedToEscrows s 1 + (stakeOf s 1).getD 0 + (bondOf s 1).getD 0 :=
  reserved_eq_owed Balances.currency_lawful rfl (by decide +kernel)

theorem createLease_ok (hl : s.lease.leases n = none)
    (hp : isActiveProvider s provider) (hd : d ≠ 0 ∧ d ≤ E.config.maxLeaseDuration)
    (hend : s.blockNumber + d ≤ maxValue 32) (hash : ByteVec 32) :
    dispatch s (.signed consumer) (.createLease n provider hash d) =
      .ok ((OpenInfraLease.putLease s n
        ⟨provider, consumer, hash, s.blockNumber, s.blockNumber + d, .created⟩).depositEvent
        (.lease (.leaseCreated n provider consumer (s.blockNumber + d)))) := by
  have hadd : checkedAdd 32 s.blockNumber d = some (s.blockNumber + d) := if_pos hend
  simp only [dispatch, OpenInfraLease.createLease, bind_eq_ok, ensureSigned_eq_ok, okOr_eq_ok,
    ensure_eq_ok, exists_const]
  exact ⟨consumer, rfl, hl, hp, hd.1, hd.2, _, hadd, rfl⟩

def EscrowRecord.new (payer provider : A) (leaseId maxCharge : Nat)
    (price : PriceSchedule) (meteringSchemaVersion fundedAt : Nat) : EscrowRecord A where
  payer := payer
  provider := provider
  leaseId := leaseId
  maxCharge := maxCharge
  price := price
  meteringSchemaVersion := meteringSchemaVersion
  lastEvidenceSequence := 0
  state := .funded
  fundedAt := fundedAt
  settledAt := none
  disputedOnce := false
  cumulativeCharged := 0
  lastPeriodEnd := 0
  lastStreamedAt := none

theorem fundEscrow_ok (hpaused : s.escrow.escrowPaused = false)
    (hs : s.escrow.escrows.lookup n = none) (hmin : E.config.minEscrowAmount ≤ v)
    (hl : leaseExists s n) (hv : isRegisteredValidator s x = false) (hb : hasOpenBond s x = false)
    (hr : E.currency.reserve s.ledger x v = some ledger) :
    dispatch s (.signed x) (.fundEscrow n p v price version) =
      .ok ((putOpenCount (putEscrow { s with ledger } n (.new x p n v price version s.blockNumber))
        x (saturatingAdd 32 (s.escrow.payerOpenEscrowCount x) 1)).depositEvent
        (.escrow (.escrowFunded n x p v version))) := by
  simp only [dispatch, fundEscrow, bind_eq_ok, ensureSigned_eq_ok, okOr_eq_ok, ensure_eq_ok,
    exists_const]
  exact ⟨x, rfl, by rw [hpaused]; decide, hs, hmin, hl, by rw [hv]; decide, by rw [hb]; decide,
    ledger, hr, rfl⟩

theorem refundEscrow_ok (hpaused : s.escrow.escrowPaused = false)
    (hs : s.escrow.escrows.lookup n = some e) (hstate : e.state = .funded)
    (hwindow : saturatingAdd 32 (e.lastStreamedAt.getD e.fundedAt) E.config.escrowRefundWindow ≤
      s.blockNumber) (hr : unreserveExact E s.ledger e.payer e.remainingCap = .ok ledger) :
    dispatch s (.signed e.payer) (.refundEscrow n) =
      .ok ((putEscrow (decrementPayerOpenCount { s with ledger } e.payer) n
        { e with state := .refunded, settledAt := some s.blockNumber }).depositEvent
        (.escrow (.escrowRefunded n e.payer e.remainingCap))) := by
  simp only [dispatch, refundEscrow, bind_eq_ok, ensureSigned_eq_ok, okOr_eq_ok, ensure_eq_ok,
    exists_const]
  exact ⟨e.payer, rfl, by rw [hpaused]; decide, e, hs, rfl, hstate, hwindow, ledger, hr, rfl⟩

section
open List.Vector (replicate)

def openLeases (n : Nat) : List (Action Nat) := (List.range n).flatMap openLease

def refundLeases (n : Nat) : List (Action Nat) :=
  (List.range n).map fun leaseId => .call (.signed 1) (.refundEscrow leaseId)

def smallEscrow (n : LeaseId) : EscrowRecord Nat := .new 1 9 n 100 ⟨1, 1, 1, 1⟩ 1 0

def laden (now free reserved count : Nat) (escrows : StorageMap LeaseId (EscrowRecord Nat))
    (lease : OpenInfraLease.Storage Nat) (events : List (RuntimeEvent Nat)) :
    Chain (Env.runtime (Host.constant : Host Nat)) :=
  { market with
    blockNumber := now
    ledger := ⟨Function.update market.ledger.free 1 free,
      Function.update market.ledger.reserved 1 reserved⟩
    lease
    escrow := ⟨escrows, false, Function.update (fun _ => 0) 1 count, 100, none⟩
    events }

theorem market_eq : market = laden 0 (10 ^ 12) 0 0 ∅ ⟨fun _ => none⟩ market.events := by
  have hfree : update market.ledger.free 1 (10 ^ 12) = market.ledger.free :=
    update_eq_self 1 _
  have hreserved : update market.ledger.reserved 1 0 = market.ledger.reserved :=
    update_eq_self 1 _
  unfold laden
  rw [hfree, hreserved, update_eq_self]
  rfl

variable {f r c : Nat} {escrows : StorageMap LeaseId (EscrowRecord Nat)}
  {lease : OpenInfraLease.Storage Nat} (events : List (RuntimeEvent Nat))

theorem market_eligible : isActiveProvider market 9 = true ∧
    isRegisteredValidator market 1 = false ∧ hasOpenBond market 1 = false := by
  decide

theorem reserve_update (hf : v ≤ f) (hr : r + v ≤ maxValue 64) :
    Balances.reserve ⟨update free 1 f, update reserved 1 r⟩ 1 v =
      some ⟨update free 1 (f - v), update reserved 1 (r + v)⟩ := by
  simp only [Balances.reserve, update_self, update_idem]
  exact if_pos ⟨hf, hr⟩

theorem unreserve_update (hr : v ≤ r) :
    Balances.unreserve ⟨update free 1 f, update reserved 1 r⟩ 1 v =
      (⟨update free 1 (f + v), update reserved 1 (r - v)⟩, 0) := by
  simp only [Balances.unreserve, update_self, update_idem]
  rw [Nat.min_eq_left hr, Nat.sub_eq_zero_of_le hr]

theorem laden_createLease (hl : lease.leases n = none) :
    ∃ lease' events', step (laden 0 f r c escrows lease events)
        (.call (.signed 1) (.createLease n 9 (replicate 32 0) 10)) =
      laden 0 f r c escrows lease' events' ∧
      (lease'.leases n).isSome ∧ ∀ l, l ≠ n → lease'.leases l = lease.leases l := by
  have hp : isActiveProvider (laden 0 f r c escrows lease events) 9 :=
    market_eligible.1
  have h : dispatch (laden 0 f r c escrows lease events) (.signed 1)
      (.createLease n 9 (replicate 32 0) 10) = _ :=
    createLease_ok hl hp (by decide) (by decide : 10 ≤ maxValue 32) _
  refine ⟨⟨update lease.leases n _⟩, _, by rw [step_call, h]; rfl, ?_, ?_⟩
  · change (update lease.leases n (some _) n).isSome = true
    rw [update_self, Option.isSome_some]
  · exact fun l hne => update_of_ne hne ..

theorem laden_fundEscrow (hl : (lease.leases n).isSome) (he : escrows.lookup n = none)
    (hf : 100 ≤ f) (hr : r + 100 ≤ maxValue 64) :
    ∃ events', step (laden 0 f r c escrows lease events)
        (.call (.signed 1) (.fundEscrow n 9 100 ⟨1, 1, 1, 1⟩ 1)) =
      laden 0 (f - 100) (r + 100) (saturatingAdd 32 c 1)
        (escrows.insert n (smallEscrow n)) lease events' := by
  obtain ⟨_, hv, hb⟩ := market_eligible
  have h : dispatch (laden 0 f r c escrows lease events) (.signed 1)
      (.fundEscrow n 9 100 ⟨1, 1, 1, 1⟩ 1) = _ :=
    fundEscrow_ok rfl he (by decide) hl hv hb (reserve_update hf hr)
  refine ⟨.escrow (.escrowFunded n 1 9 100 1) :: events, ?_⟩
  rw [step_call, h, commit_ok]
  unfold laden putOpenCount putEscrow Chain.depositEvent
  simp only [update_self, update_idem]
  rfl

theorem laden_openLease (hl : lease.leases n = none) (he : escrows.lookup n = none)
    (hf : 100 ≤ f) (hr : r + 100 ≤ maxValue 64) :
    ∃ lease' events', run step (laden 0 f r c escrows lease events) (openLease n) =
      laden 0 (f - 100) (r + 100) (saturatingAdd 32 c 1) (escrows.insert n (smallEscrow n))
        lease' events' ∧ ∀ l, l ≠ n → lease'.leases l = lease.leases l := by
  obtain ⟨lease', events', hcreate, hsome, hother⟩ := laden_createLease events hl
  obtain ⟨events'', hfund⟩ := laden_fundEscrow events' hsome he hf hr
  refine ⟨lease', events'', ?_, hother⟩
  rw [openLease, run_cons, hcreate, run_cons, hfund, run_nil]

theorem unreserveExact_ok (hv : v ≠ 0)
    (h : E.currency.unreserve L x v = (ledger, 0)) : unreserveExact E L x v = .ok ledger := by
  rw [unreserveExact, if_neg hv, h]
  rfl

theorem laden_refundEscrow (lease : OpenInfraLease.Storage Nat)
    (he : escrows.lookup n = some (smallEscrow n)) (hr : 100 ≤ r) :
    ∃ e events', step (laden 14400 f r c escrows lease events)
        (.call (.signed 1) (.refundEscrow n)) =
      laden 14400 (f + 100) (r - 100) (c - 1) (escrows.insert n e) lease events' := by
  have hwindow : saturatingAdd 32 0 14400 ≤ 14400 := by decide
  have hcap : (smallEscrow n).remainingCap ≠ 0 := (by decide : 100 ≠ 0)
  have h : dispatch (laden 14400 f r c escrows lease events) (.signed 1)
      (.refundEscrow n) = _ :=
    refundEscrow_ok (e := smallEscrow n) rfl he rfl hwindow
      (unreserveExact_ok hcap (unreserve_update hr))
  refine ⟨{ smallEscrow n with state := .refunded, settledAt := some 14400 },
    .escrow (.escrowRefunded n 1 100) :: events, ?_⟩
  rw [step_call, h, commit_ok]
  unfold laden putEscrow decrementPayerOpenCount putOpenCount Chain.depositEvent smallEscrow
    EscrowRecord.new
  simp only [update_self, update_idem]
  rfl

theorem run_openLeases (hn : n ≤ 2 ^ 32) :
    ∃ escrows lease events, run step market (openLeases n) =
        laden 0 (10 ^ 12 - 100 * n) (100 * n) (min n (maxValue 32)) escrows lease events ∧
      (∀ l < n, escrows.lookup l = some (smallEscrow l)) ∧
      ∀ l, n ≤ l → escrows.lookup l = none ∧ lease.leases l = none := by
  induction n with
  | zero => exact ⟨∅, ⟨fun _ => none⟩, market.events, market_eq, nofun, fun l _ => ⟨rfl, rfl⟩⟩
  | succ n ih =>
    obtain ⟨escrows, lease, events, hrun, hlt, hge⟩ := ih (Nat.le_of_succ_le hn)
    obtain ⟨hnone, hl⟩ := hge n le_rfl
    have hmax : 2 ^ 64 - 1 = maxValue 64 := rfl
    have hmax' : 2 ^ 32 - 1 = maxValue 32 := rfl
    obtain ⟨lease', events', hopen, hother⟩ := laden_openLease (f := 10 ^ 12 - 100 * n)
      (r := 100 * n) (c := min n (maxValue 32)) events hl hnone (by omega) (by omega)
    have hf : 10 ^ 12 - 100 * n - 100 = 10 ^ 12 - 100 * (n + 1) := by omega
    have hc : saturatingAdd 32 (min n (maxValue 32)) 1 = min (n + 1) (maxValue 32) := by
      unfold saturatingAdd
      omega
    rw [hf, hc, ← Nat.mul_succ] at hopen
    refine ⟨escrows.insert n (smallEscrow n), lease', events', ?_, ?_, ?_⟩
    · rw [openLeases, List.range_succ, List.flatMap_append, run_append, ← openLeases, hrun,
        List.flatMap_singleton]
      exact hopen
    · intro l hl
      by_cases hln : l = n
      · subst hln
        exact Finmap.lookup_insert _
      · rw [Finmap.lookup_insert_of_ne _ hln]
        exact hlt l (by omega)
    · intro l hl
      have hln : l ≠ n := by omega
      rw [Finmap.lookup_insert_of_ne _ hln, hother l hln]
      exact hge l (by omega)

theorem laden_blocks : step (laden 0 f r c escrows lease events) (.blocks 14400) =
    laden 14400 f r c escrows lease events := by
  have h : saturatingAdd 32 (laden 0 f r c escrows lease events).blockNumber 14400 = 14400 :=
    (by decide : saturatingAdd 32 0 14400 = 14400)
  rw [step_blocks, h]
  rfl

theorem run_refundLeases (lease : OpenInfraLease.Storage Nat) (hn : n < 2 ^ 32)
    (he : ∀ l < 2 ^ 32, escrows.lookup l = some (smallEscrow l)) :
    ∃ escrows' events', run step (laden 14400 f (100 * 2 ^ 32) (maxValue 32) escrows lease events)
        (refundLeases n) =
      laden 14400 (f + 100 * n) (100 * 2 ^ 32 - 100 * n) (maxValue 32 - n) escrows' lease events' ∧
      ∀ l, n ≤ l → l < 2 ^ 32 → escrows'.lookup l = some (smallEscrow l) := by
  induction n with
  | zero => exact ⟨escrows, events, rfl, fun l _ hl => he l hl⟩
  | succ n ih =>
    obtain ⟨escrows', events', hrun, hrest⟩ := ih (by omega)
    obtain ⟨e, events'', hrefund⟩ := laden_refundEscrow (f := f + 100 * n)
      (r := 100 * 2 ^ 32 - 100 * n) (c := maxValue 32 - n) events' lease
      (hrest n le_rfl (by omega)) (by omega)
    have hr : 100 * 2 ^ 32 - 100 * n - 100 = 100 * 2 ^ 32 - 100 * (n + 1) := by omega
    rw [hr, Nat.add_assoc, ← Nat.mul_succ, Nat.sub_sub] at hrefund
    refine ⟨escrows'.insert n e, events'', ?_, ?_⟩
    · rw [refundLeases, List.range_succ, List.map_append, run_append, ← refundLeases, hrun]
      exact hrefund
    · intro l hl hlt
      rw [Finmap.lookup_insert_of_ne _ (by omega)]
      exact hrest l (by omega) hlt

def saturatingRun : List (Action Nat) :=
  marketRun ++ (openLeases (2 ^ 32) ++ .blocks 14400 :: refundLeases (2 ^ 32 - 1))

def miscounted : Chain (Env.runtime (Host.constant : Host Nat)) :=
  run step devGenesis saturatingRun

theorem miscounted_eq : miscounted = laden 14400 (10 ^ 12 - 100) 100 0 miscounted.escrow.escrows
      miscounted.lease miscounted.events ∧
    miscounted.escrow.escrows.lookup (2 ^ 32 - 1) = some (smallEscrow (2 ^ 32 - 1)) := by
  obtain ⟨escrows, lease, events, hopen, hlt, _⟩ := run_openLeases (n := 2 ^ 32) le_rfl
  obtain ⟨escrows', events', hrefund, hrest⟩ := run_refundLeases (n := 2 ^ 32 - 1)
    (f := 10 ^ 12 - 100 * 2 ^ 32) events lease (by omega) hlt
  have hrun : miscounted = laden 14400 (10 ^ 12 - 100) 100 0 escrows' lease events' := by
    have hcount : min (2 ^ 32) (maxValue 32) = maxValue 32 := Nat.min_eq_right (Nat.sub_le _ _)
    rw [miscounted, saturatingRun, run_append, run_append, ← market, hopen, hcount, run_cons,
      laden_blocks, hrefund]
    norm_num [maxValue]
  rw [hrun]
  exact ⟨rfl, hrest _ le_rfl (by omega)⟩

def contestedRound (round : Nat) : List (Action Nat) :=
  [.call (.signed 2) (.submitEvidence 9 round .availability 1 1 (replicate 32 2)),
    .call (.signed 1) (.submitEvidence 9 round .availability 2 1 (replicate 32 1)),
    .call (.signed 3) (.submitEvidence 9 round .availability 3 1 (replicate 32 3)),
    .call (.signed 2) (.closeRound 9 round .availability),
    .call (.signed 9) (.disputeRound 9 round .availability)]

def slashedRun : List (Action Nat) :=
  .call (.signed 1) (.registerValidator 1000) :: (List.range 11).flatMap contestedRound ++
    (List.range 11).map fun round =>
      .call .root (.resolveRoundDispute 9 round .availability true)

theorem slashedRun_writes : ∀ a ∈ slashedRun, Pallet.escrow ∉ a.writes := by
  decide

theorem laden_slashedRun :
    (run step (laden 14400 (10 ^ 12 - 100) 100 0 miscounted.escrow.escrows miscounted.lease
      miscounted.events) slashedRun).reserved 1 = 0 := by
  decide +kernel

theorem saturated_counter_insolvent :
    let s := run step devGenesis (saturatingRun ++ slashedRun)
    s.reserved 1 < owedToEscrows s 1 + (stakeOf s 1).getD 0 + (bondOf s 1).getD 0 := by
  intro s
  obtain ⟨hladen, hopen⟩ := miscounted_eq
  have hs : s = run step miscounted slashedRun := run_append ..
  have hr : s.reserved 1 = 0 := by
    rw [hs, hladen]
    exact laden_slashedRun
  have he : s.escrow = miscounted.escrow := by
    rw [hs]
    exact run_same slashedRun .escrow slashedRun_writes miscounted
  rw [← he] at hopen
  obtain ⟨rest, ho, _⟩ := openCaps_put (t := s) hopen (StorageMap.insert_of_lookup hopen).symm rfl
  have howed : owedToEscrows s 1 = 100 + rest.sum := by
    have hsum := congrArg Multiset.sum ho
    rwa [Multiset.sum_add] at hsum
  omega

end

end OpenInfra.Escrow
