import OpenInfra.Escrow.Solvency

namespace OpenInfra.Escrow
open Frame List
open ReservableCurrency (Movement Trace released released_append released_reverse)

variable {A Ledger : Type} [LinearOrder A] {E : Env A Ledger}
  {e e' : EscrowRecord A} {l : LeaseId} {x : A}

section
variable {s t : Chain E} {a : Action A}

theorem leaseOf_writes (h : leaseOf a = some l) : .escrow ∈ a.writes := by
  cases a with
  | blocks count => cases h
  | call o c =>
    cases c with
    | fundEscrow | completeAndPayout | refundEscrow | disputeEscrow | resolveEscrowDispute |
      streamSettle => exact .head _
    | _ => cases h

theorem PaysFor.congr (h : SameTerms e e') (hm : PaysFor s e m) : PaysFor s e' m := by
  cases hm with
  | provider v => exact h.payer ▸ h.provider ▸ .provider v
  | fee v ht => exact h.payer ▸ .fee v ht
  | payer v => exact h.payer ▸ .payer v

theorem lookup_of_leaseOf_ne (hC : E.currency.Lawful) (h : leaseOf a ≠ some l) :
    (step s a).escrow.escrows.lookup l = s.escrow.escrows.lookup l := by
  have hput {leaseId : LeaseId} {e : EscrowRecord A} (ha : leaseOf a = some leaseId)
      (ht : (step s a).escrow.escrows = s.escrow.escrows.insert leaseId e) :
      (step s a).escrow.escrows.lookup l = s.escrow.escrows.lookup l := by
    rw [ht, Finmap.lookup_insert_of_ne]
    rintro rfl
    exact h ha
  cases escrowStep hC s a with
  | quiet hescrows => rw [hescrows]
  | fund _ _ ha _ _ _ _ _ _ _ hescrows => exact hput ha hescrows
  | draw _ _ _ _ ha _ _ _ _ hescrows => exact hput ha hescrows
  | settle _ _ _ ha _ _ _ hescrows => exact hput ha hescrows
  | amend _ _ _ ha _ _ hescrows => exact hput ha hescrows

def due (s : Chain E) (l : LeaseId) (x : A) : Nat :=
  ((s.escrow.escrows.lookup l).bind (EscrowRecord.openCap x)).getD 0

def otherHolds (s : Chain E) (l : LeaseId) (x : A) : Nat :=
  (StorageMap.shares (s.escrow.escrows.erase l) (EscrowRecord.openCap x)).sum +
    ReserveAccount.deposited (deposit s x)

theorem sum_openCaps (s : Chain E) (l : LeaseId) (x : A) : (openCaps s x).sum =
    due s l x + (StorageMap.shares (s.escrow.escrows.erase l) (EscrowRecord.openCap x)).sum := by
  unfold due openCaps
  cases he : s.escrow.escrows.lookup l with
  | none =>
    rw [StorageMap.erase_of_none he]
    exact (Nat.zero_add _).symm
  | some e =>
    rw [(StorageMap.shares_insert_of_some he (EscrowRecord.openCap x)).1, Multiset.sum_add,
      Option.bind_some, StorageMap.share]
    cases e.openCap x with
    | none => rfl
    | some v => rfl

theorem reserved_eq_due_add (hs : (holding s x).Solvent) (l : LeaseId) :
    s.reserved x = due s l x + otherHolds s l x := by
  have hr : s.reserved x = (openCaps s x).sum + ReserveAccount.deposited (deposit s x) := hs
  rw [hr, sum_openCaps s l x, otherHolds, Nat.add_assoc]

theorem otherHolds_congr
    (hk : ∀ k, k ≠ l → t.escrow.escrows.lookup k = s.escrow.escrows.lookup k)
    (hd : deposit t x = deposit s x) : otherHolds t l x = otherHolds s l x := by
  rw [otherHolds, otherHolds, hd, StorageMap.erase_congr hk]

theorem remainingCap_le_reserved (hs : (holding s e.payer).Solvent)
    (he : s.escrow.escrows.lookup l = some e) (hopen : e.settledAt = none) :
    e.remainingCap ≤ s.reserved e.payer := by
  have hdue : due s l e.payer = e.remainingCap := by
    rw [due, he, Option.bind_some, EscrowRecord.openCap, if_pos ⟨rfl, hopen⟩, Option.getD_some]
  rw [reserved_eq_due_add hs l, hdue]
  exact Nat.le_add_right _ _

end

def newMoves (s t : Chain E.recording) : List (Movement A) :=
  t.ledger.2.take (t.ledger.2.length - s.ledger.2.length)

def movesFor (l : LeaseId) (s : Chain E.recording) (a : Action A) :
    List (Movement A) :=
  if leaseOf a = some l then newMoves s (step s a) else []

section
variable {s t : Chain E.recording} {a : Action A}

theorem newMoves_of_append (h : t.ledger.2 = ms ++ s.ledger.2) : newMoves s t = ms := by
  rw [newMoves, h, length_append, Nat.add_sub_cancel, take_left]

theorem newMoves_of_eq (h : t.ledger = s.ledger) : newMoves s t = [] :=
  newMoves_of_append (by rw [h, nil_append])

theorem Trace.newMoves (h : Trace E.recording.currency s.ledger ms t.ledger) :
    newMoves s t = ms.reverse := newMoves_of_append h.recorded

/-- What moved for `l` is what was charged, or its cap once settled. -/
structure Conserved (l : LeaseId) (x : A) (s : Chain E.recording)
    (out : List (Movement A)) : Prop where
  sound : EscrowsSound s
  solvent : (holding s x).Solvent
  unfunded : s.escrow.escrows.lookup l = none → out = []
  total : ∀ e ∈ s.escrow.escrows.lookup l, e.payer = x →
    released out = if e.settledAt = none then e.cumulativeCharged else e.maxCharge

theorem Conserved.quiet (h : Conserved l x s out) (hsound : EscrowsSound t)
    (hsolvent : (holding t x).Solvent)
    (hl : t.escrow.escrows.lookup l = s.escrow.escrows.lookup l) : Conserved l x t out := by
  refine ⟨hsound, hsolvent, ?_, ?_⟩
  · rw [hl]
    exact h.unfunded
  · rw [hl]
    exact h.total

theorem Conserved.put (hsound : EscrowsSound t) (hsolvent : (holding t x).Solvent)
    (hl : t.escrow.escrows = s.escrow.escrows.insert l e) (hm : e.payer = x →
      released out = if e.settledAt = none then e.cumulativeCharged else e.maxCharge) :
    Conserved l x t out := by
  refine ⟨hsound, hsolvent, ?_, ?_⟩
  · rw [hl, Finmap.lookup_insert]
    exact nofun
  · rw [hl, Finmap.lookup_insert]
    rintro _ ⟨⟩
    exact hm

theorem Conserved.step (hC : E.currency.Lawful) (h : Conserved l x s out)
    (hx : (holding s x).Exclusive) (a : Action A) :
    Conserved l x (step s a) (out ++ movesFor l s a) := by
  have hR : E.recording.currency.Lawful := hC.recording
  have hsound := h.sound.step hR a
  have hsolvent := (holding_step hR h.sound a x).solvent hx h.solvent
  by_cases ha : leaseOf a = some l
  · rw [movesFor, if_pos ha]
    have hid {leaseId : LeaseId} (h : leaseOf a = some leaseId) : leaseId = l :=
      Option.some.inj (h.symm.trans ha)
    cases escrowStep hR s a with
    | quiet hescrows _ hledger =>
      rw [newMoves_of_eq (hledger (leaseOf_writes ha)), append_nil]
      exact h.quiet hsound hsolvent (by rw [hescrows])
    | fund leaseId e ha' hs _ hsettled hcum _ _ hreserve hescrows =>
      obtain rfl := hid ha'
      have hnew := Trace.newMoves (.reserve hreserve (.nil _))
      refine .put hsound hsolvent hescrows fun _ => ?_
      rw [h.unfunded hs, hnew, if_pos hsettled, hcum]
      rfl
    | draw leaseId e e' v ha' hs hfunded hv hpay hescrows hterms hcum _ hsettled =>
      obtain rfl := hid ha'
      obtain ⟨ms, hp⟩ := hpay
      have he := h.sound leaseId e hs
      have hnone := he.funded hfunded
      refine .put hsound hsolvent hescrows fun hpayer => ?_
      have hbefore := h.total e hs (hterms.payer.symm.trans hpayer)
      rw [if_pos hnone] at hbefore
      rw [released_append, hbefore, Trace.newMoves hp.trace, released_reverse, hp.amount,
        if_pos (hsettled.trans hnone), hcum, saturatingAdd_of_le]
      have := he.charged
      have := he.capped
      unfold EscrowRecord.remainingCap at hv
      omega
    | settle leaseId e e' ha' hs hopen hpay hescrows hterms _ _ hsettled =>
      obtain rfl := hid ha'
      obtain ⟨ms, hp⟩ := hpay
      have he := h.sound leaseId e hs
      have hnone : e.settledAt = none := hopen.elim he.funded id
      refine .put hsound hsolvent hescrows fun hpayer => ?_
      obtain rfl : e.payer = x := hterms.payer.symm.trans hpayer
      have hbefore := h.total e hs rfl
      have hcap := remainingCap_le_reserved h.solvent hs hnone
      rw [if_pos hnone] at hbefore
      rw [released_append, hbefore, Trace.newMoves hp.trace, released_reverse, hp.amount,
        if_neg (Option.isSome_iff_ne_none.1 hsettled), hterms.maxCharge, Nat.min_eq_left hcap]
      have := he.charged
      unfold EscrowRecord.remainingCap
      omega
    | amend leaseId e e' ha' hs hledger hescrows hterms hsettled hcum =>
      obtain rfl := hid ha'
      rw [newMoves_of_eq hledger, append_nil]
      refine .put hsound hsolvent hescrows fun hpayer => ?_
      rw [h.total e hs (hterms.payer.symm.trans hpayer), hterms.maxCharge]
      cases hset : e.settledAt with
      | none =>
        rw [hset, Option.isSome_none, Option.isSome_eq_false_iff,
          Option.isNone_iff_eq_none] at hsettled
        rw [hsettled, if_pos rfl, if_pos rfl, hcum.resolve_right (by rw [hset]; exact nofun)]
      | some block =>
        rw [hset, Option.isSome_some] at hsettled
        rw [if_neg nofun, if_neg (Option.isSome_iff_ne_none.1 hsettled)]
  · rw [movesFor, if_neg ha, append_nil]
    exact h.quiet hsound hsolvent (lookup_of_leaseOf_ne hR ha)

/-- Movements reserve the cap or pay provider, treasury or payer. -/
def PaysParties (l : LeaseId) (s : Chain E.recording) (a : Action A) : Prop :=
  ∀ e ∈ (step s a).escrow.escrows.lookup l, ∀ m ∈ movesFor l s a,
    m = .reserved e.payer e.maxCharge ∨ PaysFor s e m

def SettledStays (l : LeaseId) (s : Chain E.recording) (a : Action A) : Prop :=
  ∀ e ∈ s.escrow.escrows.lookup l, e.settledAt.isSome → leaseOf a = some l →
    (step s a).ledger = s.ledger

/-- A call on one lease keeps all other records and accounts for its own hold. -/
def KeepsOthers (x : A) (s : Chain E.recording) (a : Action A) : Prop :=
  ∀ l, leaseOf a = some l →
    (∀ k, k ≠ l → (step s a).escrow.escrows.lookup k = s.escrow.escrows.lookup k) ∧
    ∃ rest, s.reserved x = due s l x + rest ∧ (step s a).reserved x = due (step s a) l x + rest

theorem paysParties (hC : E.currency.Lawful) (l : LeaseId) (s : Chain E.recording)
    (a : Action A) : PaysParties l s a := by
  intro r hr m hm
  unfold movesFor at hm
  split at hm
  case isFalse => cases hm
  rename_i ha
  have hid {leaseId : LeaseId} {e : EscrowRecord A} (h : leaseOf a = some leaseId)
      (ht : (step s a).escrow.escrows = s.escrow.escrows.insert leaseId e) : r = e := by
    obtain rfl := Option.some.inj (h.symm.trans ha)
    rw [ht, Finmap.lookup_insert] at hr
    cases hr
    rfl
  cases escrowStep (hC.recording : E.recording.currency.Lawful) s a with
  | quiet _ _ hledger =>
    rw [newMoves_of_eq (hledger (leaseOf_writes ha))] at hm
    cases hm
  | fund leaseId e ha' _ _ _ _ _ _ hreserve hescrows =>
    obtain rfl := hid ha' hescrows
    rw [Trace.newMoves (.reserve hreserve (.nil _))] at hm
    exact .inl (mem_singleton.1 hm)
  | draw leaseId e e' v ha' _ _ _ hpay hescrows hterms =>
    obtain rfl := hid ha' hescrows
    obtain ⟨ms, hp⟩ := hpay
    rw [Trace.newMoves hp.trace, mem_reverse] at hm
    exact .inr ((hp.pays m hm).congr hterms)
  | settle leaseId e e' ha' _ _ hpay hescrows hterms =>
    obtain rfl := hid ha' hescrows
    obtain ⟨ms, hp⟩ := hpay
    rw [Trace.newMoves hp.trace, mem_reverse] at hm
    exact .inr ((hp.pays m hm).congr hterms)
  | amend _ _ _ _ _ hledger =>
    rw [newMoves_of_eq hledger] at hm
    cases hm

theorem EscrowsSound.settledStays (hC : E.currency.Lawful) (h : EscrowsSound s) (l : LeaseId)
    (a : Action A) : SettledStays l s a := by
  intro e he hset ha
  have hid {leaseId : LeaseId} {r : EscrowRecord A} (h : leaseOf a = some leaseId)
      (hs : s.escrow.escrows.lookup leaseId = some r) : r.settledAt ≠ none := by
    obtain rfl := Option.some.inj (h.symm.trans ha)
    cases hs.symm.trans he
    exact Option.isSome_iff_ne_none.1 hset
  cases escrowStep (hC.recording : E.recording.currency.Lawful) s a with
  | quiet _ _ hledger => exact hledger (leaseOf_writes ha)
  | fund leaseId e' ha' hs =>
    obtain rfl := Option.some.inj (ha'.symm.trans ha)
    cases hs.symm.trans he
  | draw leaseId r r' v ha' hs hfunded => exact absurd ((h _ r hs).funded hfunded) (hid ha' hs)
  | settle leaseId r r' ha' hs hopen => exact absurd (hopen.elim (h _ r hs).funded id) (hid ha' hs)
  | amend _ _ _ _ _ hledger => exact hledger

theorem deposit_of_leaseOf (ha : leaseOf a = some l) : deposit (step s a) = deposit s := by
  obtain ⟨_, hr, hv⟩ | ⟨_, he, _⟩ | ⟨_, he, _⟩ | ⟨_, he, _⟩ := writes_cases a
  · have hreg : (step s a).registry = s.registry := step_same s a .registry hr
    have hval : (step s a).validator = s.validator := step_same s a .validator hv
    funext x role
    cases role with
    | validator => rw [deposit, NetworkValidator.stakeOf, hval]; rfl
    | provider => rw [deposit, ProviderSlashing.bondOf, hreg]; rfl
  all_goals exact absurd (leaseOf_writes ha) he

theorem keepsOthers (hC : E.currency.Lawful) (hsound : EscrowsSound s)
    (hx : (holding s x).Exclusive) (hs : (holding s x).Solvent) (a : Action A) :
    KeepsOthers x s a := by
  intro l ha
  have hR : E.recording.currency.Lawful := hC.recording
  have hkeep (k : LeaseId) (hk : k ≠ l) :
      (step s a).escrow.escrows.lookup k = s.escrow.escrows.lookup k :=
    lookup_of_leaseOf_ne hR fun h => hk (Option.some.inj (h.symm.trans ha))
  have hothers : otherHolds (step s a) l x = otherHolds s l x :=
    otherHolds_congr hkeep (congrFun (deposit_of_leaseOf ha) x)
  refine ⟨hkeep, otherHolds s l x, reserved_eq_due_add hs l, ?_⟩
  rw [← hothers]
  exact reserved_eq_due_add ((holding_step hR hsound a x).solvent hx hs) l

end

theorem Conserved.genesis (E : Env A Ledger)
    (hL : E.currency.reservedBalance L.1 x = 0) (l : LeaseId) :
    Conserved l x (genesis E.recording L) [] := ⟨nofun, solvent_genesis hL, fun _ => rfl, nofun⟩

/-- Per-escrow conservation, for accounts with one role at a time. -/
theorem escrow_conserved (hC : E.currency.Lawful) {L : Ledger × List (Movement A)}
    (hL : E.currency.reservedBalance L.1 x = 0) {acts : List (Action A)}
    (h : Throughout step (fun s => (holding s x).Exclusive) (genesis E.recording L) acts)
    (l : LeaseId) :
    let s := run step (genesis E.recording L) acts
    let total := released (outputs step (movesFor l) (genesis E.recording L) acts)
    (∀ e ∈ s.escrow.escrows.lookup l, e.payer = x → e.cumulativeCharged ≤ e.maxCharge ∧
      total ≤ e.maxCharge ∧ (e.settledAt.isSome → total = e.maxCharge)) ∧
    Along step (fun s a => PaysParties l s a ∧ SettledStays l s a ∧ KeepsOthers x s a)
      (genesis E.recording L) acts := by
  intro s total
  constructor
  · have hs : Conserved l x s _ := h.outputs_invariant (.genesis E hL l)
      fun s a out hs hx _ => hs.step hC hx a
    intro e he hpayer
    have hsound := hs.sound l e he
    have htotal : total = _ := hs.total e he hpayer
    refine ⟨hsound.charged, ?_, fun hset => ?_⟩
    · rw [htotal]
      split
      · exact hsound.charged
      · exact le_rfl
    · rw [htotal, if_neg (Option.isSome_iff_ne_none.1 hset)]
  · refine h.along (I := fun s => EscrowsSound s ∧ (holding s x).Solvent)
      ⟨nofun, solvent_genesis hL⟩ (fun s a hs hx _ => ?_) fun s a hs hx => ?_
    · exact ⟨hs.1.step hC.recording a, (holding_step hC.recording hs.1 a x).solvent hx hs.2⟩
    · exact ⟨paysParties hC l s a, hs.1.settledStays hC l a, keepsOthers hC hs.1 hx hs.2 a⟩

def recordedGenesis : Chain (Env.runtime (Host.constant : Host Nat)).recording :=
  genesis _ (⟨fun _ => 10 ^ 12, fun _ => 0⟩, [])

def refundedRun : List (Action Nat) :=
  marketRun ++ openLease 0 ++ [.blocks 14400, .call (.signed 1) (.refundEscrow 0)]

theorem escrow_conserved_refunded :
    let s := run step recordedGenesis refundedRun
    let total := released (outputs step (movesFor 0) recordedGenesis refundedRun)
    (∀ e ∈ s.escrow.escrows.lookup 0, e.payer = 1 → e.cumulativeCharged ≤ e.maxCharge ∧
      total ≤ e.maxCharge ∧ (e.settledAt.isSome → total = e.maxCharge)) ∧
    Along step (fun s a => PaysParties 0 s a ∧ SettledStays 0 s a ∧ KeepsOthers 1 s a)
      recordedGenesis refundedRun :=
  escrow_conserved Balances.currency_lawful rfl (by decide +kernel) 0

end OpenInfra.Escrow
