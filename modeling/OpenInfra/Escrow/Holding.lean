import OpenInfra.Escrow.Machine
import OpenInfra.Frame.Reserve
import OpenInfra.Rounds.Stake
import OpenInfra.Slashing.Bond

namespace OpenInfra.Escrow
open Frame NetworkValidator ProviderSlashing Function

variable {A Ledger : Type} [LinearOrder A] {E : Env A Ledger}
  {s t : Chain E} {a : Action A} {e e' : EscrowRecord A} {x : A}

/-- Only an open escrow is ever `Funded`. -/
structure EscrowRecord.Sound (e : EscrowRecord A) : Prop where
  funded : e.state = .funded → e.settledAt = none
  charged : e.cumulativeCharged ≤ e.maxCharge
  capped : e.maxCharge ≤ maxValue 64

def EscrowsSound (s : Chain E) : Prop :=
  ∀ leaseId e, s.escrow.escrows.lookup leaseId = some e → e.Sound

theorem EscrowsSound.insert (h : EscrowsSound s)
    (ht : t.escrow.escrows = s.escrow.escrows.insert leaseId e) (he : e.Sound) :
    EscrowsSound t := by
  intro l e' hl
  rw [ht] at hl
  by_cases hk : l = leaseId
  · subst hk
    rw [Finmap.lookup_insert] at hl
    cases hl
    exact he
  · rw [Finmap.lookup_insert_of_ne _ hk] at hl
    exact h l e' hl

theorem EscrowsSound.step (hC : E.currency.Lawful) (h : EscrowsSound s) (a : Action A) :
    EscrowsSound (step s a) := by
  cases escrowStep hC s a with
  | quiet hescrows =>
    intro l e hl
    rw [hescrows] at hl
    exact h l e hl
  | fund leaseId e _ _ _ hsettled hcum _ _ hreserve hescrows =>
    refine h.insert hescrows ⟨fun _ => hsettled, hcum ▸ Nat.zero_le _, ?_⟩
    have := (hC.reserve_spec hreserve).1
    omega
  | draw leaseId e e' v _ hs hfunded hv _ hescrows hterms hcum hstate hsettled =>
    have he := h leaseId e hs
    refine h.insert hescrows ⟨fun _ => hsettled.trans (he.funded hfunded), ?_, ?_⟩
    · have := he.charged
      unfold EscrowRecord.remainingCap at hv
      rw [hcum, hterms.maxCharge]
      unfold saturatingAdd
      omega
    · rw [hterms.maxCharge]
      exact he.capped
  | settle leaseId e e' _ hs _ _ hescrows hterms hcum hstate =>
    have he := h leaseId e hs
    refine h.insert hescrows ⟨fun hf => absurd hf hstate, ?_, ?_⟩
    · rw [hterms.maxCharge]
      exact hcum he.charged
    · rw [hterms.maxCharge]
      exact he.capped
  | amend leaseId e e' _ hs _ hescrows hterms _ hcum hstate =>
    have he := h leaseId e hs
    refine h.insert hescrows ⟨fun hf => absurd hf hstate, ?_, ?_⟩
    · rw [hterms.maxCharge]
      obtain hc | ⟨_, hc⟩ := hcum
      · exact hc ▸ he.charged
      · exact hc.le
    · rw [hterms.maxCharge]
      exact he.capped

inductive Role where
  | validator
  | provider
  deriving DecidableEq

instance : Fintype Role := ⟨{.validator, .provider}, fun role => by cases role <;> decide⟩

def deposit (s : Chain E) (x : A) : Role → Option Nat
  | .validator => stakeOf s x
  | .provider => bondOf s x

def EscrowRecord.openCap (x : A) (e : EscrowRecord A) : Option Nat :=
  if e.payer = x ∧ e.settledAt = none then some e.remainingCap else none

def openCaps (s : Chain E) (x : A) : Multiset Nat :=
  StorageMap.shares s.escrow.escrows (EscrowRecord.openCap x)

def openEscrows (s : Chain E) (x : A) : Nat := (openCaps s x).card

def holding (s : Chain E) (x : A) : ReserveAccount Role where
  reserved := s.reserved x
  drafts := openCaps s x
  counter := s.escrow.payerOpenEscrowCount x
  deposit := deposit s x

theorem holding_update (hr : t.reserved = update s.reserved x r)
    (ho : openCaps t = update (openCaps s) x o)
    (hc : t.escrow.payerOpenEscrowCount = update s.escrow.payerOpenEscrowCount x c)
    (hd : deposit t = update (deposit s) x d) : holding t = update (holding s) x ⟨r, o, c, d⟩ := by
  funext y
  unfold holding
  rw [hr, ho, hc, hd]
  by_cases hy : y = x
  · subst hy
    simp only [update_self]
  · simp only [update_of_ne hy]

theorem step_of_update {h : ReserveAccount Role} (ht : holding t = update (holding s) x h)
    (hs : (holding s x).Step h) (y : A) : (holding s y).Step (holding t y) := by
  rw [ht]
  by_cases hy : y = x
  · subst hy
    rw [update_self]
    exact hs
  · rw [update_of_ne hy]
    exact .slashes .refl

def EscrowRecord.heldBack (e : EscrowRecord A) : Multiset Nat :=
  if e.settledAt = none then {e.remainingCap} else 0

theorem share_payer (e : EscrowRecord A) :
    StorageMap.share (EscrowRecord.openCap e.payer) e = e.heldBack := by
  unfold StorageMap.share EscrowRecord.openCap EscrowRecord.heldBack
  by_cases h : e.settledAt = none
  · rw [if_pos ⟨rfl, h⟩, if_pos h]
    rfl
  · rw [if_neg fun hp => h hp.2, if_neg h]
    rfl

theorem share_other (h : x ≠ e.payer) : StorageMap.share (EscrowRecord.openCap x) e = 0 := by
  unfold StorageMap.share EscrowRecord.openCap
  rw [if_neg fun hp => h hp.1.symm]
  rfl

theorem openCaps_fund (hs : s.escrow.escrows.lookup leaseId = none)
    (ht : t.escrow.escrows = s.escrow.escrows.insert leaseId e) :
    openCaps t = update (openCaps s) e.payer (e.heldBack + openCaps s e.payer) := by
  funext x
  rw [openCaps, ht, StorageMap.shares_insert_of_none hs]
  by_cases hx : x = e.payer
  · subst hx
    rw [update_self, share_payer, openCaps]
  · rw [update_of_ne hx, share_other hx, zero_add, openCaps]

theorem openCaps_put (hs : s.escrow.escrows.lookup leaseId = some e)
    (ht : t.escrow.escrows = s.escrow.escrows.insert leaseId e') (hp : e'.payer = e.payer) :
    ∃ rest, openCaps s e.payer = e.heldBack + rest ∧
      openCaps t = update (openCaps s) e.payer (e'.heldBack + rest) := by
  have hshares (x : A) := StorageMap.shares_insert_of_some hs (EscrowRecord.openCap x)
  refine ⟨StorageMap.shares (s.escrow.escrows.erase leaseId) (EscrowRecord.openCap e.payer),
    ?_, ?_⟩
  · rw [openCaps, (hshares e.payer).1, share_payer]
  · funext x
    rw [openCaps, ht, (hshares x).2]
    by_cases hx : x = e.payer
    · subst hx
      rw [update_self, ← hp, share_payer]
    · rw [update_of_ne hx, share_other (hp.symm ▸ hx), openCaps, (hshares x).1,
        share_other hx]

theorem deposit_eq_none (hv : isRegisteredValidator s x = false) (hb : hasOpenBond s x = false) :
    ∀ role, deposit s x role = none
  | .validator => Option.not_isSome_iff_eq_none.1 (by
      rw [deposit, ← isRegisteredValidator_eq, hv]; decide)
  | .provider => Option.not_isSome_iff_eq_none.1 (by rw [deposit, ← hasOpenBond_eq, hb]; decide)

theorem counter_eq_zero (h : hasOpenEscrow s x = false) : s.escrow.payerOpenEscrowCount x = 0 :=
  Nat.eq_zero_of_not_pos (of_decide_eq_false h)

theorem holding_of_eq (hr : t.reserved = s.reserved) (ho : openCaps t = openCaps s)
    (hc : t.escrow.payerOpenEscrowCount = s.escrow.payerOpenEscrowCount)
    (hd : deposit t = deposit s) : holding t = holding s := by
  funext x
  unfold holding
  rw [hr, ho, hc, hd]

theorem reserved_of_ledger (h : t.ledger = s.ledger) : t.reserved = s.reserved := by
  funext x
  rw [Chain.reserved, h, Chain.reserved]

theorem escrowStep_holding (hC : E.currency.Lawful) (h : EscrowStep s a t) (hsound : EscrowsSound s)
    (hw : .escrow ∈ a.writes) (hd : deposit t = deposit s) (y : A) :
    (holding s y).Step (holding t y) := by
  have hself (x : A) : deposit t = update (deposit s) x (deposit s x) :=
    hd.trans (update_eq_self x _).symm
  cases h with
  | quiet hescrows hcount hl =>
    have ho : openCaps t = openCaps s := by funext x; rw [openCaps, hescrows, openCaps]
    rw [holding_of_eq (reserved_of_ledger (hl hw)) ho hcount hd]
    exact .slashes .refl
  | fund leaseId e _ hs _ hsettled hcum hvalidator hbond hreserve hescrows hcount =>
    have hheld : e.heldBack = {e.maxCharge} := by
      rw [EscrowRecord.heldBack, if_pos hsettled, EscrowRecord.remainingCap, hcum, Nat.sub_zero]
    refine step_of_update (holding_update (hC.reserve_spec hreserve).2 (openCaps_fund hs hescrows)
      hcount (hself e.payer)) ?_ y
    rw [hheld]
    exact .fund e.maxCharge (deposit_eq_none hvalidator hbond)
  | draw leaseId e e' v _ hs hfunded hv hpay hescrows hterms hcum hstate hsettled hcount =>
    obtain ⟨ms, hp⟩ := hpay
    obtain ⟨rest, ho, ho'⟩ := openCaps_put hs hescrows hterms.payer
    have he := hsound leaseId e hs
    have hnone := he.funded hfunded
    have hheld : e'.heldBack = {e.remainingCap - v} := by
      have := he.capped
      have := he.charged
      rw [EscrowRecord.heldBack, if_pos (hsettled.trans hnone), Multiset.singleton_inj]
      unfold EscrowRecord.remainingCap at hv ⊢
      rw [hterms.maxCharge, hcum, saturatingAdd_of_le (by omega)]
      omega
    refine step_of_update (holding_update (hp.reserved hC).2 ho'
      (hcount.trans (update_eq_self e.payer _).symm) (hself e.payer)) ?_ y
    rw [EscrowRecord.heldBack, if_pos hnone] at ho
    rw [hheld]
    exact .draw e.remainingCap v rest ho hv
  | settle leaseId e e' _ hs hopen hpay hescrows hterms hcum hstate hsettled hcount =>
    obtain ⟨ms, hp⟩ := hpay
    obtain ⟨rest, ho, ho'⟩ := openCaps_put hs hescrows hterms.payer
    have hnone : e.settledAt = none := hopen.elim (hsound leaseId e hs).funded id
    have hheld : e'.heldBack = 0 := if_neg (Option.isSome_iff_ne_none.1 hsettled)
    refine step_of_update (holding_update (hp.reserved hC).2 ho' hcount (hself e.payer)) ?_ y
    rw [EscrowRecord.heldBack, if_pos hnone] at ho
    rw [hheld, zero_add, min_comm, ← Nat.sub_eq_sub_min]
    exact .close e.remainingCap rest ho
  | amend leaseId e e' _ hs hl hescrows hterms hsettled hcum hstate hcount =>
    obtain ⟨rest, ho, ho'⟩ := openCaps_put hs hescrows hterms.payer
    have hheld : e'.heldBack = e.heldBack := by
      unfold EscrowRecord.heldBack EscrowRecord.remainingCap
      cases hset : e.settledAt with
      | none =>
        rw [hset, Option.isSome_none, Option.isSome_eq_false_iff,
          Option.isNone_iff_eq_none] at hsettled
        rw [hsettled, hterms.maxCharge, hcum.resolve_right (by rw [hset]; exact nofun)]
      | some block =>
        rw [hset, Option.isSome_some] at hsettled
        rw [if_neg (Option.isSome_iff_ne_none.1 hsettled), if_neg nofun]
    rw [hheld, ← ho, update_eq_self] at ho'
    rw [holding_of_eq (reserved_of_ledger hl) ho' hcount hd]
    exact .slashes .refl

theorem deposit_of_eq (hv : stakeOf t = stakeOf s) (hb : bondOf t = bondOf s) :
    deposit t = deposit s := by
  funext x role
  cases role with
  | validator => exact congrFun hv x
  | provider => exact congrFun hb x

theorem deposit_bond (hv : stakeOf t = stakeOf s) (hb : bondOf t = update (bondOf s) x b) :
    deposit t = update (deposit s) x (update (deposit s x) .provider b) := by
  funext y role
  by_cases hy : y = x
  · subst hy
    rw [update_self]
    cases role with
    | validator => exact congrFun hv y
    | provider => exact (congrFun hb y).trans (update_self ..)
  · rw [update_of_ne hy]
    cases role with
    | validator => exact congrFun hv y
    | provider => exact (congrFun hb y).trans (update_of_ne hy ..)

theorem deposit_stake (hb : bondOf t = bondOf s) (hv : stakeOf t = update (stakeOf s) x v) :
    deposit t = update (deposit s) x (update (deposit s x) .validator v) := by
  funext y role
  by_cases hy : y = x
  · subst hy
    rw [update_self]
    cases role with
    | validator => exact (congrFun hv y).trans (update_self ..)
    | provider => exact congrFun hb y
  · rw [update_of_ne hy]
    cases role with
    | validator => exact (congrFun hv y).trans (update_of_ne hy ..)
    | provider => exact congrFun hb y

theorem holding_update_deposit (he : t.escrow = s.escrow) (hr : t.reserved = update s.reserved x r)
    (hd : deposit t = update (deposit s) x d) :
    holding t = update (holding s) x
      ⟨r, openCaps s x, s.escrow.payerOpenEscrowCount x, d⟩ := by
  have ho : openCaps t = openCaps s := by funext y; rw [openCaps, he, openCaps]
  refine holding_update hr (ho.trans (update_eq_self x _).symm) ?_ hd
  rw [he, update_eq_self]

theorem holding_of_escrow (he : t.escrow = s.escrow) (hr : t.reserved = s.reserved)
    (hd : deposit t = deposit s) : holding t = holding s := by
  refine holding_of_eq hr ?_ (by rw [he]) hd
  funext x
  rw [openCaps, he, openCaps]

section
variable (hC : E.currency.Lawful)
include hC

theorem slashed_eq (s : Chain E) (x : A) (v : Nat) :
    v - (E.currency.slashReserved s.ledger x v).2 = min v (s.reserved x) := by
  rw [(hC.slash_spec s.ledger x v).2, Chain.reserved]
  omega

theorem bondStep_holding (h : BondStep s a t) (hw : .registry ∈ a.writes)
    (he : t.escrow = s.escrow) (hv : stakeOf t = stakeOf s) (y : A) :
    (holding s y).Step (holding t y) := by
  cases h with
  | quiet hbonds _ hl =>
    rw [holding_of_escrow he (reserved_of_ledger (hl hw)) (deposit_of_eq hv hbonds)]
    exact .slashes .refl
  | lock who v _ hs hescrow hvalidator hreserve hbonds =>
    refine step_of_update (holding_update_deposit he (hC.reserve_spec hreserve).2
      (deposit_bond hv hbonds)) ?_ y
    refine .lock Role.provider v (counter_eq_zero hescrow) (deposit_eq_none hvalidator ?_)
    rw [hasOpenBond_eq, hs]
    rfl
  | topUp who d v _ hs hreserve hbonds =>
    obtain ⟨hle, hr⟩ := hC.reserve_spec hreserve
    exact step_of_update (holding_update_deposit he hr (deposit_bond hv hbonds))
      (.topUp Role.provider d v hs hle) y
  | withdraw who d _ hs _ hl hbonds =>
    have hr := (congrArg E.currency.reservedBalance hl).trans
      (hC.unreserve_spec s.ledger who d).1
    exact step_of_update (holding_update_deposit he hr (deposit_bond hv hbonds))
      (.withdraw Role.provider d hs) y
  | slash p _ _ _ hl hbonds =>
    cases hs : bondOf s p with
    | none =>
      rw [hasOpenBond_eq, hs, Option.isSome_none, if_neg (by decide)] at hl
      rw [hs, Option.map_none, ← hs, update_eq_self] at hbonds
      rw [holding_of_escrow he (reserved_of_ledger hl) (deposit_of_eq hv hbonds)]
      exact .slashes .refl
    | some d =>
      rw [hasOpenBond_eq, hs, Option.isSome_some, if_pos rfl] at hl
      rw [slashAmount, hasOpenBond_eq, hs, Option.isSome_some, if_pos rfl, slashed_eq hC,
        Option.map_some] at hbonds
      have hr := (congrArg E.currency.reservedBalance hl).trans
        (hC.slash_spec s.ledger p E.config.providerSlashAmount).1
      exact step_of_update (holding_update_deposit he hr (deposit_bond hv hbonds))
        (.slashes (.single (.mk Role.provider d E.config.providerSlashAmount hs))) y

theorem slashSubmitter_holding (s : Chain E) (key : RoundKey A)
    (v y : A) : Relation.ReflTransGen ReserveAccount.Slash (holding s y)
      (holding (slashSubmitter key s v) y) := by
  have hw : Writes [.validator, .balances] s (slashSubmitter key s v) := slashSubmitter_writes
  have he : (slashSubmitter key s v).escrow = s.escrow := hw.same .escrow (by decide)
  have hreg : (slashSubmitter key s v).registry = s.registry := hw.same .registry (by decide)
  have hb : bondOf (slashSubmitter key s v) = bondOf s := by funext x; rw [bondOf, hreg, bondOf]
  obtain ⟨hstakes, hl⟩ := slashSubmitter_spec s key v
  cases hs : stakeOf s v with
  | none =>
    rw [isRegisteredValidator_eq, hs, Option.isSome_none, if_neg (by decide)] at hl
    rw [hs, Option.map_none, ← hs, update_eq_self] at hstakes
    rw [holding_of_escrow he (reserved_of_ledger hl) (deposit_of_eq hstakes hb)]
  | some d =>
    rw [isRegisteredValidator_eq, hs, Option.isSome_some, if_pos rfl] at hl
    rw [slashTaken, isRegisteredValidator_eq, hs, Option.isSome_some, if_pos rfl, slashed_eq hC,
      Option.map_some] at hstakes
    have hr := (congrArg E.currency.reservedBalance hl).trans
      (hC.slash_spec s.ledger v E.config.validatorSlashAmount).1
    rw [holding_update_deposit he hr (deposit_stake hb hstakes)]
    by_cases hy : y = v
    · subst hy
      rw [update_self]
      exact .single (.mk Role.validator d E.config.validatorSlashAmount hs)
    · rw [update_of_ne hy]

theorem slashAll_holding (key : RoundKey A)
    (validators : List A) (s : Chain E) (y : A) :
    Relation.ReflTransGen ReserveAccount.Slash (holding s y)
      (holding (validators.foldl (slashSubmitter key) s) y) := by
  induction validators generalizing s with
  | nil => exact .refl
  | cons v rest ih => exact (slashSubmitter_holding hC s key v y).trans (ih _)

theorem stakeStep_holding (h : StakeStep s a t)
    (hw : .validator ∈ a.writes) (he : t.escrow = s.escrow) (hb : bondOf t = bondOf s)
    (y : A) : (holding s y).Step (holding t y) := by
  cases h with
  | quiet hstakes hl =>
    rw [holding_of_escrow he (reserved_of_ledger (hl hw)) (deposit_of_eq hstakes hb)]
    exact .slashes .refl
  | lock who v _ hs hescrow hbond hreserve hstakes =>
    refine step_of_update (holding_update_deposit he (hC.reserve_spec hreserve).2
      (deposit_stake hb hstakes)) ?_ y
    refine .lock Role.validator v (counter_eq_zero hescrow) (deposit_eq_none ?_ hbond)
    rw [isRegisteredValidator_eq, hs]
    rfl
  | withdraw who d _ hs hl hstakes =>
    have hr := (congrArg E.currency.reservedBalance hl).trans
      (hC.unreserve_spec s.ledger who d).1
    exact step_of_update (holding_update_deposit he hr (deposit_stake hb hstakes))
      (.withdraw Role.validator d hs) y
  | slash key _ hl hstakes =>
    have hwr : Writes [.validator, .balances] s (slashRoundSubmitters s key) := slashAll_writes _
    have hescrow : (slashRoundSubmitters s key).escrow = s.escrow := hwr.same .escrow (by decide)
    have hreg : (slashRoundSubmitters s key).registry = s.registry :=
      hwr.same .registry (by decide)
    have hbonds : bondOf t = bondOf (slashRoundSubmitters s key) := by
      rw [hb]
      funext x
      rw [bondOf, bondOf, hreg]
    rw [holding_of_escrow (he.trans hescrow.symm) (reserved_of_ledger hl)
      (deposit_of_eq hstakes hbonds)]
    exact .slashes (slashAll_holding hC key _ s y)

end

theorem writes_cases (a : Action A) :
    (.escrow ∈ a.writes ∧ .registry ∉ a.writes ∧ .validator ∉ a.writes) ∨
    (.registry ∈ a.writes ∧ .escrow ∉ a.writes ∧ .validator ∉ a.writes) ∨
    (.validator ∈ a.writes ∧ .escrow ∉ a.writes ∧ .registry ∉ a.writes) ∨
    (.balances ∉ a.writes ∧ .escrow ∉ a.writes ∧ .registry ∉ a.writes ∧ .validator ∉ a.writes) := by
  cases a with
  | call o c => cases c <;> simp [Action.writes, Call.writes]
  | blocks count => simp [Action.writes]

theorem holding_step (hC : E.currency.Lawful) (hsound : EscrowsSound s) (a : Action A)
    (x : A) : (holding s x).Step (holding (step s a) x) := by
  have hescrow (h : .escrow ∉ a.writes) : (step s a).escrow = s.escrow :=
    step_same s a .escrow h
  have hbonds (h : .registry ∉ a.writes) : bondOf (step s a) = bondOf s := by
    have hreg : (step s a).registry = s.registry := step_same s a .registry h
    funext y
    rw [bondOf, hreg, bondOf]
  have hstakes (h : .validator ∉ a.writes) : stakeOf (step s a) = stakeOf s := by
    have hval : (step s a).validator = s.validator := step_same s a .validator h
    exact stakeOf_of_validators (by rw [hval])
  obtain ⟨hw, hr, hv⟩ | ⟨hw, he, hv⟩ | ⟨hw, he, hr⟩ | ⟨hw, he, hr, hv⟩ := writes_cases a
  · exact escrowStep_holding hC (escrowStep hC s a) hsound hw
      (deposit_of_eq (hstakes hv) (hbonds hr)) x
  · exact bondStep_holding hC (bondStep s a) hw (hescrow he) (hstakes hv) x
  · exact stakeStep_holding hC (stakeStep s a) hw (hescrow he) (hbonds hr) x
  · have hl : (step s a).ledger = s.ledger := step_same s a .balances hw
    rw [holding_of_escrow (hescrow he) (reserved_of_ledger hl)
      (deposit_of_eq (hstakes hv) (hbonds hr))]
    exact .slashes .refl

end OpenInfra.Escrow
