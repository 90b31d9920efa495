import OpenInfra.Rounds.Machine

namespace OpenInfra.NetworkValidator
open Frame Function

variable {A Ledger : Type} [LinearOrder A] {E : Env A Ledger}
  {s t : Chain E} {a : Action A} {key : RoundKey A} {who : A}

def stakeOf (s : Chain E) (v : A) : Option Nat :=
  (s.validator.validators v).map (·.stake)

/-- All a step can do to the stakes. -/
inductive StakeStep (s : Chain E) (a : Action A) (t : Chain E) : Prop where
  | quiet (hstakes : stakeOf t = stakeOf s) (hledger : .validator ∈ a.writes → t.ledger = s.ledger)
  | lock (who : A) (v : Nat) (ha : a = .call (.signed who) (.registerValidator v))
      (hs : stakeOf s who = none) (hescrow : hasOpenEscrow s who = false)
      (hbond : hasOpenBond s who = false)
      (hreserve : E.currency.reserve s.ledger who v = some t.ledger)
      (hstakes : stakeOf t = Function.update (stakeOf s) who (some v))
  | withdraw (who : A) (d : Nat) (ha : a = .call (.signed who) .withdrawStake)
      (hs : stakeOf s who = some d)
      (hledger : t.ledger = (E.currency.unreserve s.ledger who d).1)
      (hstakes : stakeOf t = Function.update (stakeOf s) who none)
  | slash (key : RoundKey A)
      (ha : a = .call .root
        (.resolveRoundDispute key.provider key.round key.dimension true))
      (hledger : t.ledger = (slashRoundSubmitters s key).ledger)
      (hstakes : stakeOf t = stakeOf (slashRoundSubmitters s key))

theorem isRegisteredValidator_eq (s : Chain E) (v : A) :
    isRegisteredValidator s v = (stakeOf s v).isSome := Option.isSome_map.symm

theorem stakeOf_putValidator (s : Chain E) (who : A) (record : Option ValidatorRecord) :
    stakeOf (putValidator s who record) =
      update (stakeOf s) who (record.map (·.stake)) := by
  funext v
  exact apply_update (fun _ record => record.map (·.stake)) s.validator.validators who
    record v

theorem stakeOf_putValidator_status {record : ValidatorRecord}
    (h : s.validator.validators who = some record) (status : ValidatorStatus) :
    stakeOf (putValidator s who (some { record with status })) = stakeOf s := by
  have hwho : stakeOf s who = some record.stake := by rw [stakeOf, h]; rfl
  rw [stakeOf_putValidator, Option.map_some, ← hwho, update_eq_self]

theorem stakeOf_of_validators (h : t.validator.validators = s.validator.validators) :
    stakeOf t = stakeOf s := by
  funext v
  rw [stakeOf, h, stakeOf]

theorem joinActiveSet_validators : Yields (joinActiveSet s who)
    fun t => t.validator.validators = s.validator.validators ∧ t.ledger = s.ledger := by
  unfold joinActiveSet
  split
  · exact .ok ⟨rfl, rfl⟩
  · exact .bind fun _ _ => .ok ⟨rfl, rfl⟩

theorem registerValidator_stakeStep :
    Yields (registerValidator s o stake) (StakeStep s (.call o (.registerValidator stake))) := by
  unfold registerValidator
  refine .bind fun who ho => .bind fun _ hnone => .bind fun _ _ => .bind fun _ he =>
    .bind fun _ hb => .bind fun u hu => .bind fun ledger hl => .ok ?_
  simp only [ensureSigned_eq_ok, ensure_eq_ok, okOr_eq_ok, Bool.not_eq_true] at ho hnone he hb hl
  subst ho
  obtain ⟨hv, hled⟩ := joinActiveSet_validators u hu
  rw [hled] at hl
  have hstakes := stakeOf_putValidator { u with ledger } who (some ⟨.active, stake, u.blockNumber⟩)
  refine .lock who stake rfl (by rw [stakeOf, hnone]; rfl) he hb hl (hstakes.trans ?_)
  rw [stakeOf_of_validators (s := s) (t := { u with ledger }) hv]
  rfl

theorem requestExit_stakeStep : Yields (requestExit s o) (StakeStep s (.call o .requestExit)) := by
  unfold requestExit
  refine .bind fun who _ => .bind fun record hr => .bind fun _ _ => .bind fun availableAt _ =>
    .ok ?_
  simp only [okOr_eq_ok] at hr
  exact .quiet (stakeOf_putValidator_status hr (.exiting availableAt)) fun _ => rfl

theorem withdrawUnbonded_stakeStep :
    Yields (withdrawUnbonded s o) (StakeStep s (.call o .withdrawStake)) := by
  unfold withdrawUnbonded
  refine .bind fun who ho => .bind fun record hr => .bind fun _ _ => .ok ?_
  simp only [ensureSigned_eq_ok, okOr_eq_ok] at ho hr
  subst ho
  exact .withdraw who record.stake rfl (by rw [stakeOf, hr]; rfl) rfl
    (stakeOf_putValidator { s with ledger := _ } who none)

theorem suspend_stakeStep :
    Yields (suspend s o validator) (StakeStep s (.call o (.suspend validator))) := by
  unfold suspend
  refine .bind fun _ _ => .bind fun record hr => .bind fun _ _ => .ok ?_
  simp only [okOr_eq_ok] at hr
  exact .quiet (stakeOf_putValidator_status hr .suspended) fun _ => rfl

theorem reinstate_stakeStep :
    Yields (reinstate s o validator) (StakeStep s (.call o (.reinstate validator))) := by
  unfold reinstate
  refine .bind fun _ _ => .bind fun record hr => .bind fun _ _ => .bind fun t ht => .ok ?_
  simp only [okOr_eq_ok] at hr
  obtain ⟨hv, hl⟩ := joinActiveSet_validators t ht
  exact .quiet ((stakeOf_of_validators hv).trans (stakeOf_putValidator_status hr .active))
    fun _ => hl

section
variable {round : Nat}

theorem closeRound_stakeStep :
    Yields (closeRound s o provider round dimension)
      (StakeStep s (.call o (.closeRound provider round dimension))) := by
  unfold closeRound
  refine .bind fun _ _ => .bind fun _ _ => .bind fun _ _ => .bind fun _ _ => .bind fun t ht =>
    .bind fun u hu => .ok ?_
  have hv := accrueAll_validator ht hu
  have hl : u.ledger = _ := Eq.trans ((accrueAll_writes _ u hu).same .balances (by decide))
    ((Reputation.setDimensionScore_writes t ht).same .balances (by decide))
  exact .quiet (stakeOf_of_validators (congrArg (·.validators) hv)) fun _ => hl

theorem disputeRound_stakeStep :
    Yields (disputeRound s o provider round dimension)
      (StakeStep s (.call o (.disputeRound provider round dimension))) := by
  unfold disputeRound
  iterate 5 refine .bind fun _ _ => ?_
  refine .bind fun t ht => .ok ?_
  have hv := Reputation.setDimensionScore_validator ht
  have hl : t.ledger = s.ledger :=
    (Reputation.setDimensionScore_writes t ht).same .balances (by decide)
  exact .quiet (stakeOf_of_validators (congrArg (·.validators) hv)) fun _ => hl

theorem resolveDispute_stakeStep :
    Yields (resolveDispute s o provider round dimension uphold)
      (StakeStep s (.call o (.resolveRoundDispute provider round dimension uphold))) := by
  unfold resolveDispute
  refine .bind fun _ ho => .bind fun _ _ => .bind fun _ _ => ?_
  simp only [ensureRoot_eq_ok] at ho
  subst ho
  cases uphold with
  | true => exact .ok (.slash ⟨provider, round, dimension⟩ rfl rfl rfl)
  | false =>
    refine .bind fun t ht => .ok ?_
    have hv := Reputation.setDimensionScore_validator ht
    have hl : t.ledger = s.ledger :=
      (Reputation.setDimensionScore_writes t ht).same .balances (by decide)
    exact .quiet (stakeOf_of_validators (congrArg (·.validators) hv)) fun _ => hl

end

theorem dispatch_stakeStep (c : Call A) :
    Yields (dispatch s o c) (StakeStep s (.call o c)) := by
  by_cases hw : Pallet.validator ∈ c.writes
  · cases c with
    | registerValidator => exact registerValidator_stakeStep
    | requestExit => exact requestExit_stakeStep
    | withdrawStake => exact withdrawUnbonded_stakeStep
    | suspend => exact suspend_stakeStep
    | reinstate => exact reinstate_stakeStep
    | submitEvidence =>
      repeat refine .bind fun _ _ => ?_
      exact .ok (.quiet rfl fun _ => rfl)
    | closeRound => exact closeRound_stakeStep
    | disputeRound => exact disputeRound_stakeStep
    | resolveRoundDispute => exact resolveDispute_stakeStep
    | _ => simp [Call.writes] at hw
  · intro t ht
    have hv : t.validator = s.validator := (dispatch_writes c t ht).same _ hw
    exact .quiet (stakeOf_of_validators (congrArg (·.validators) hv)) fun ha => absurd ha hw

theorem stakeStep (s : Chain E) (a : Action A) : StakeStep s a (step s a) := by
  cases a with
  | call o c => exact (dispatch_stakeStep c).commit (.quiet rfl fun _ => rfl)
  | blocks count => exact .quiet rfl fun _ => rfl

def slashTaken (s : Chain E) (v : A) : Nat :=
  if isRegisteredValidator s v then
    E.config.validatorSlashAmount -
      (E.currency.slashReserved s.ledger v E.config.validatorSlashAmount).2
  else 0

theorem slashSubmitter_spec (s : Chain E) (key : RoundKey A) (v : A) :
    stakeOf (slashSubmitter key s v) =
        update (stakeOf s) v ((stakeOf s v).map (· - slashTaken s v)) ∧
      (slashSubmitter key s v).ledger = if isRegisteredValidator s v then
        (E.currency.slashReserved s.ledger v E.config.validatorSlashAmount).1 else s.ledger := by
  unfold slashSubmitter slashTaken isRegisteredValidator
  cases hr : s.validator.validators v with
  | none =>
    have hv : stakeOf s v = none := by rw [stakeOf, hr]; rfl
    refine ⟨?_, rfl⟩
    rw [hv, Option.map_none, ← hv, update_eq_self]
  | some record =>
    have hv : stakeOf s v = some record.stake := by rw [stakeOf, hr]; rfl
    simp only [Option.isSome_some, if_true]
    split
    · rename_i hz
      refine ⟨?_, rfl⟩
      rw [hz, hv, Option.map_some, Nat.sub_zero, ← hv, update_eq_self]
      rfl
    · rw [hv, Option.map_some]
      split <;> exact ⟨stakeOf_putValidator .., rfl⟩

theorem slashAll_registered (key : RoundKey A) (vs : List A) (s : Chain E)
    (v : A) :
    (stakeOf (vs.foldl (slashSubmitter key) s) v).isSome = (stakeOf s v).isSome := by
  induction vs generalizing s with
  | nil => rfl
  | cons w rest ih =>
    rw [List.foldl_cons, ih, (slashSubmitter_spec s key w).1]
    by_cases hv : v = w
    · rw [hv, update_self, Option.isSome_map]
    · rw [update_of_ne hv]

end OpenInfra.NetworkValidator
