import OpenInfra.Chain.Runtime

namespace OpenInfra
open Frame

inductive Pallet where
  | balances
  | lease
  | reputation
  | rewards
  | registry
  | validator
  | slashing
  | escrow
  deriving DecidableEq

def RuntimeEvent.pallet : RuntimeEvent A → Pallet
  | .lease _ => .lease
  | .reputation _ => .reputation
  | .rewards _ => .rewards
  | .providerRegistry _ => .registry
  | .networkValidator _ => .validator
  | .providerSlashing _ => .slashing
  | .escrow _ => .escrow

section
variable {A Ledger : Type} {E : Env A Ledger} {s s' t u : Chain E}
  {ps qs : List Pallet} {p : Pallet}

def SameAt (s s' : Chain E) : Pallet → Prop
  | .balances => s'.ledger = s.ledger
  | .lease => s'.lease = s.lease
  | .reputation => s'.reputation = s.reputation
  | .rewards => s'.rewards = s.rewards
  | .registry => s'.registry = s.registry
  | .validator => s'.validator = s.validator
  | .slashing => s'.slashing = s.slashing
  | .escrow => s'.escrow = s.escrow

theorem SameAt.trans (h : SameAt s t p) (h' : SameAt t u p) : SameAt s u p := by
  cases p <;> exact Eq.trans h' h

/-- `s'` differs from `s` only in the storage of the pallets `ps`. -/
structure Writes (ps : List Pallet) (s s' : Chain E) : Prop where
  blockNumber : s'.blockNumber = s.blockNumber
  same : ∀ p ∉ ps, SameAt s s' p
  events : ∃ es, s'.events = es ++ s.events ∧ ∀ e ∈ es, e.pallet ∈ ps

namespace Writes

theorem refl (s : Chain E) : Writes ps s s := ⟨rfl, fun p _ => by cases p <;> rfl, [], rfl, nofun⟩

theorem mono (h : Writes ps s s') (hs : ps ⊆ qs) : Writes qs s s' := by
  obtain ⟨es, he, hp⟩ := h.events
  exact ⟨h.blockNumber, fun p hq => h.same p fun hps => hq (hs hps), es, he,
    fun e hm => hs (hp e hm)⟩

section
variable (h : Writes ps s t)
include h

theorem trans (h' : Writes ps t u) : Writes ps s u := by
  obtain ⟨es, he, hp⟩ := h.events
  obtain ⟨es', he', hp'⟩ := h'.events
  refine ⟨h'.blockNumber.trans h.blockNumber, fun p hq => (h.same p hq).trans (h'.same p hq),
    es' ++ es, by rw [he', he, List.append_assoc], ?_⟩
  intro e hm
  exact (List.mem_append.1 hm).elim (hp' e) (hp e)

theorem write (hp : p ∈ ps) (hb : u.blockNumber = t.blockNumber)
    (he : u.events = t.events) (hu : ∀ q, q ≠ p → SameAt t u q) : Writes ps s u := by
  obtain ⟨es, hes, hes'⟩ := h.events
  refine ⟨hb.trans h.blockNumber, fun q hq => (h.same q hq).trans (hu q ?_), es,
    he.trans hes, hes'⟩
  rintro rfl
  exact hq hp

theorem deposit (e : RuntimeEvent A) (he : e.pallet ∈ ps) :
    Writes ps s (t.depositEvent e) := by
  obtain ⟨es, hes, hp⟩ := h.events
  refine ⟨h.blockNumber, fun p hq => (h.same p hq).trans (by cases p <;> rfl), e :: es,
    congrArg (e :: ·) hes, ?_⟩
  intro e' hm
  exact (List.mem_cons.1 hm).elim (fun heq => heq ▸ he) (hp e')

theorem setLedger (hp : .balances ∈ ps) (ledger : Ledger) : Writes ps s { t with ledger } :=
  h.write hp rfl rfl fun q hq => by cases q <;> first | rfl | exact absurd rfl hq

theorem setLease (hp : .lease ∈ ps) (lease : OpenInfraLease.Storage A) :
    Writes ps s { t with lease } :=
  h.write hp rfl rfl fun q hq => by cases q <;> first | rfl | exact absurd rfl hq

theorem setReputation (hp : .reputation ∈ ps) (reputation : Reputation.Storage A) :
    Writes ps s { t with reputation } :=
  h.write hp rfl rfl fun q hq => by cases q <;> first | rfl | exact absurd rfl hq

theorem setRewards (hp : .rewards ∈ ps) (rewards : Rewards.Storage A) :
    Writes ps s { t with rewards } :=
  h.write hp rfl rfl fun q hq => by cases q <;> first | rfl | exact absurd rfl hq

theorem setRegistry (hp : .registry ∈ ps) (registry : ProviderRegistry.Storage A) :
    Writes ps s { t with registry } :=
  h.write hp rfl rfl fun q hq => by cases q <;> first | rfl | exact absurd rfl hq

theorem setValidator (hp : .validator ∈ ps) (validator : NetworkValidator.Storage A
    E.config.maxNetworkValidators E.config.maxValidatorSubmissionsPerRound) :
    Writes ps s { t with validator } :=
  h.write hp rfl rfl fun q hq => by cases q <;> first | rfl | exact absurd rfl hq

theorem setSlashing (hp : .slashing ∈ ps) (slashing : ProviderSlashing.Storage A) :
    Writes ps s { t with slashing } :=
  h.write hp rfl rfl fun q hq => by cases q <;> first | rfl | exact absurd rfl hq

theorem setEscrow (hp : .escrow ∈ ps) (escrow : Escrow.Storage A) :
    Writes ps s { t with escrow } :=
  h.write hp rfl rfl fun q hq => by cases q <;> first | rfl | exact absurd rfl hq

end

end Writes

end

end OpenInfra
