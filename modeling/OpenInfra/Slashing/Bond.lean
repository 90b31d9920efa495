import OpenInfra.Slashing.Machine

namespace OpenInfra.ProviderSlashing
open Frame ProviderRegistry Function

variable {A Ledger : Type} [LinearOrder A] {E : Env A Ledger}
  {s t : Chain E} {a : Action A}

def bondOf (s : Chain E) (p : A) : Option Nat :=
  (s.registry.providerBonds p).map (·.stake)

inductive BondMove (A : Type) where
  | added (provider : A) (amount : Nat)
  | slashed (key : A × ScoreDimension) (firstRound amount : Nat)
  | withdrawn (provider : A) (amount : Nat)
  deriving DecidableEq

def bondMove : RuntimeEvent A → Option (BondMove A)
  | .providerRegistry (.bondIncreased provider added _) => some (.added provider added)
  | .providerRegistry (.bondWithdrawn provider amount) => some (.withdrawn provider amount)
  | .providerSlashing (.providerSlashed provider dimension firstRound amount _) =>
    some (.slashed (provider, dimension) firstRound amount)
  | _ => none

def bondMoves (s : Chain E) : List (BondMove A) := s.events.filterMap bondMove

def burns : Action A → Option A
  | .call _ (.executeSlash provider _) => some provider
  | .call _ (.resolveSlashAppeal provider _ false) => some provider
  | _ => none

/-- All a step can do to the bonds. -/
inductive BondStep (s : Chain E) (a : Action A) (t : Chain E) : Prop where
  | quiet (hbonds : bondOf t = bondOf s) (hmoves : bondMoves t = bondMoves s)
      (hledger : .registry ∈ a.writes → t.ledger = s.ledger)
  | lock (who : A) (v : Nat) (ha : a = .call (.signed who) (.bondStake v))
      (hs : bondOf s who = none) (hescrow : hasOpenEscrow s who = false)
      (hvalidator : isRegisteredValidator s who = false)
      (hreserve : E.currency.reserve s.ledger who v = some t.ledger)
      (hbonds : bondOf t = Function.update (bondOf s) who (some v))
      (hmoves : bondMoves t = .added who v :: bondMoves s)
  | topUp (who : A) (d v : Nat) (ha : a = .call (.signed who) (.bondStake v))
      (hs : bondOf s who = some d)
      (hreserve : E.currency.reserve s.ledger who v = some t.ledger)
      (hbonds : bondOf t = Function.update (bondOf s) who (some (saturatingAdd 64 d v)))
      (hmoves : bondMoves t = .added who v :: bondMoves s)
  | withdraw (who : A) (d : Nat) (ha : a = .call (.signed who) .withdrawBond)
      (hs : bondOf s who = some d) (hpending : hasPendingSlash s who = false)
      (hledger : t.ledger = (E.currency.unreserve s.ledger who d).1)
      (hbonds : bondOf t = Function.update (bondOf s) who none)
      (hmoves : bondMoves t = .withdrawn who d :: bondMoves s)
  | slash (p : A) (d : ScoreDimension) (r : Nat) (ha : burns a = some p)
      (hledger : t.ledger = if hasOpenBond s p then
        (E.currency.slashReserved s.ledger p E.config.providerSlashAmount).1 else s.ledger)
      (hbonds : bondOf t =
        Function.update (bondOf s) p ((bondOf s p).map (· - slashAmount s p)))
      (hmoves : bondMoves t = .slashed (p, d) r (slashAmount s p) :: bondMoves s)

theorem bondOf_putBond (s : Chain E) (who : A) (bond : Option BondRecord) :
    bondOf (putBond s who bond) = update (bondOf s) who (bond.map (·.stake)) := by
  funext p
  exact apply_update (fun _ bond => bond.map (·.stake)) s.registry.providerBonds who bond p

def BondMove.slashEntry (key : A × ScoreDimension) : BondMove A → Option (Nat × Nat)
  | .slashed k firstRound amount => if k = key then some (firstRound, amount) else none
  | _ => none

theorem slashes_eq (s : Chain E) (key : A × ScoreDimension) :
    slashes s key = (bondMoves s).filterMap (BondMove.slashEntry key) := by
  rw [slashes, bondMoves, List.filterMap_filterMap]
  congr 1
  funext e
  cases e with
  | providerSlashing e => cases e <;> rfl
  | providerRegistry e => cases e <;> rfl
  | _ => rfl

omit [LinearOrder A] in
theorem hasOpenBond_eq (s : Chain E) (p : A) : hasOpenBond s p = (bondOf s p).isSome :=
  Option.isSome_map.symm

theorem bondStake_bondStep :
    Yields (bondStake s o amount) (BondStep s (.call o (.bondStake amount))) := by
  unfold bondStake
  refine .bind fun who ho => .bind fun _ _ => .bind fun _ he => .bind fun _ hv =>
    .bind fun record hr => .bind fun ledger hl => .ok ?_
  simp only [ensureSigned_eq_ok, ensure_eq_ok, okOr_eq_ok, Bool.not_eq_true] at ho he hv hl
  subst ho
  have hbonds := bondOf_putBond { s with ledger } who (some record)
  cases hb : s.registry.providerBonds who with
  | none =>
    rw [hb] at hr
    unfold increasedBond at hr
    simp only [bind_eq_ok, ensure_eq_ok, exists_const, Except.ok.injEq] at hr
    obtain ⟨_, rfl⟩ := hr
    exact .lock who amount rfl (by rw [bondOf, hb]; rfl) he hv hl hbonds rfl
  | some old =>
    rw [hb] at hr
    unfold increasedBond at hr
    simp only [bind_eq_ok, ensure_eq_ok, exists_const, Except.ok.injEq] at hr
    obtain ⟨_, rfl⟩ := hr
    exact .topUp who old.stake amount rfl (by rw [bondOf, hb]; rfl) hl hbonds rfl

theorem requestUnbond_bondStep :
    Yields (requestUnbond s o) (BondStep s (.call o .requestUnbond)) := by
  unfold requestUnbond
  refine .bind fun who _ => .bind fun _ _ => .bind fun record hr => .bind fun _ _ =>
    .bind fun availableAt _ => .ok ?_
  simp only [okOr_eq_ok] at hr
  have hbonds := bondOf_putBond s who (some { record with status := .exiting availableAt })
  have hwho : bondOf s who = some record.stake := by rw [bondOf, hr]; rfl
  rw [Option.map_some, ← hwho, update_eq_self] at hbonds
  exact .quiet hbonds rfl fun _ => rfl

theorem withdrawUnbonded_bondStep :
    Yields (withdrawUnbonded s o) (BondStep s (.call o .withdrawBond)) := by
  unfold withdrawUnbonded
  refine .bind fun who ho => .bind fun record hr => .bind fun _ _ => .bind fun _ hp => .ok ?_
  simp only [ensureSigned_eq_ok, ensure_eq_ok, okOr_eq_ok, Bool.not_eq_true] at ho hr hp
  subst ho
  exact .withdraw who record.stake rfl (by rw [bondOf, hr]; rfl) hp rfl
    (bondOf_putBond { s with ledger := _ } who none) rfl

omit [LinearOrder A] in
theorem bondMoves_of_writes {ps : List Pallet} (h : Writes ps s t)
    (hp : .registry ∉ ps ∧ .slashing ∉ ps) : bondMoves t = bondMoves s := by
  obtain ⟨es, he, hes⟩ := h.events
  have hn : es.filterMap bondMove = [] := by
    rw [List.filterMap_eq_nil_iff]
    intro e hmem
    have hpallet := hes e hmem
    cases e with
    | providerRegistry e => exact absurd hpallet hp.1
    | providerSlashing e => exact absurd hpallet hp.2
    | _ => rfl
  rw [bondMoves, he, List.filterMap_append, hn, List.nil_append, bondMoves]

theorem bondOf_suspendProvider (s : Chain E) (p : A) :
    bondOf (suspendProvider s p) = bondOf s ∧ bondMoves (suspendProvider s p) = bondMoves s ∧
      (suspendProvider s p).ledger = s.ledger := by
  unfold suspendProvider
  split <;> exact ⟨rfl, rfl, rfl⟩

theorem slashBond_spec (s : Chain E) (p : A) :
    let r := (slashBond s p E.config.providerSlashAmount).1
    bondOf r = update (bondOf s) p ((bondOf s p).map (· - slashAmount s p)) ∧
      bondMoves r = bondMoves s ∧
      r.ledger = if hasOpenBond s p then
        (E.currency.slashReserved s.ledger p E.config.providerSlashAmount).1 else s.ledger := by
  unfold slashBond slashAmount hasOpenBond
  cases hb : s.registry.providerBonds p with
  | none =>
    have hp : bondOf s p = none := by rw [bondOf, hb]; rfl
    refine ⟨?_, rfl, rfl⟩
    rw [hp, Option.map_none, ← hp, update_eq_self]
  | some record =>
    have hp : bondOf s p = some record.stake := by rw [bondOf, hb]; rfl
    simp only [Option.isSome_some, if_true]
    split
    · rename_i hz
      refine ⟨?_, rfl, rfl⟩
      rw [hz, hp, Option.map_some, Nat.sub_zero, ← hp, update_eq_self]
      rfl
    · rw [hp, Option.map_some]
      split
      · obtain ⟨hbonds, hmoves, hledger⟩ := bondOf_suspendProvider (putBond _ p (some _)) p
        exact ⟨hbonds.trans (bondOf_putBond ..), hmoves, hledger⟩
      · exact ⟨bondOf_putBond .., rfl, rfl⟩

theorem doExecuteSlash_bondStep (ha : burns a = some p) (d : ScoreDimension) (r : Nat)
    (hb : bondOf t = bondOf (doExecuteSlash (advanceWatermark s p d r) p d r))
    (hm : bondMoves t = bondMoves (doExecuteSlash (advanceWatermark s p d r) p d r))
    (hl : t.ledger = (doExecuteSlash (advanceWatermark s p d r) p d r).ledger) :
    BondStep s a t := by
  obtain ⟨hbonds, hmoves, hledger⟩ := slashBond_spec (advanceWatermark s p d r) p
  have hamount := slashBond_amount (advanceWatermark s p d r) p
  refine .slash p d r ha (hl.trans hledger) (hb.trans hbonds) (hm.trans ?_)
  exact congrArg₂ (fun v ms => BondMove.slashed (p, d) r v :: ms) hamount hmoves

theorem resolveSlashAppeal_bondStep :
    Yields (resolveSlashAppeal s o provider dimension uphold)
      (BondStep s (.call o (.resolveSlashAppeal provider dimension uphold))) := by
  unfold resolveSlashAppeal
  refine .bind fun _ _ => .bind fun pending _ => .bind fun _ _ => .ok ?_
  cases uphold with
  | true => exact .quiet rfl rfl fun _ => rfl
  | false =>
    exact doExecuteSlash_bondStep rfl dimension pending.firstRound rfl rfl rfl

theorem executeSlash_bondStep :
    Yields (executeSlash s o provider dimension)
      (BondStep s (.call o (.executeSlash provider dimension))) := by
  unfold executeSlash
  refine .bind fun _ _ => .bind fun pending _ => .bind fun _ _ => .bind fun _ _ => .ok ?_
  exact doExecuteSlash_bondStep rfl dimension pending.firstRound rfl rfl rfl

theorem doRegisterProvider_bondStep (a : Action A) :
    Yields (doRegisterProvider s owner key) (BondStep s a) := by
  unfold doRegisterProvider
  repeat refine .bind fun _ _ => ?_
  exact .ok (.quiet rfl rfl fun _ => rfl)

theorem dispatch_bondStep (c : Call A) :
    Yields (dispatch s o c) (BondStep s (.call o c)) := by
  by_cases hw : .registry ∈ c.writes ∨ .slashing ∈ c.writes
  · cases c with
    | registerProvider => exact .bind fun _ _ => doRegisterProvider_bondStep _
    | registerProviderFor => exact .bind fun _ _ => doRegisterProvider_bondStep _
    | setStatus =>
      repeat refine .bind fun _ _ => ?_
      exact .ok (.quiet rfl rfl fun _ => rfl)
    | bondStake => exact bondStake_bondStep
    | requestUnbond => exact requestUnbond_bondStep
    | withdrawBond => exact withdrawUnbonded_bondStep
    | recordBreach =>
      repeat refine .bind fun _ _ => ?_
      exact .ok (.quiet rfl rfl fun _ => rfl)
    | appealSlash =>
      repeat refine .bind fun _ _ => ?_
      exact .ok (.quiet rfl rfl fun _ => rfl)
    | resolveSlashAppeal => exact resolveSlashAppeal_bondStep
    | executeSlash => exact executeSlash_bondStep
    | _ => simp [Call.writes] at hw
  · intro t ht
    obtain ⟨hr, hs⟩ := not_or.1 hw
    have hwr := dispatch_writes c t ht
    have hreg : t.registry = s.registry := hwr.same _ hr
    refine .quiet ?_ (bondMoves_of_writes hwr ⟨hr, hs⟩) fun ha => absurd ha hr
    funext p
    rw [bondOf, hreg, bondOf]

theorem bondStep (s : Chain E) (a : Action A) : BondStep s a (step s a) := by
  cases a with
  | call o c => exact (dispatch_bondStep c).commit (.quiet rfl rfl fun _ => rfl)
  | blocks count => exact .quiet rfl rfl fun _ => rfl

end OpenInfra.ProviderSlashing
