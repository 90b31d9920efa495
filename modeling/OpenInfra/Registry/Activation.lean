import OpenInfra.Chain.Footprint

namespace OpenInfra.ProviderRegistry
open Frame

variable {A Ledger : Type} [LinearOrder A] {E : Env A Ledger}
  {s t : Chain E} {a : Action A} {p : A}

def Activates (s : Chain E) (a : Action A) (p : A) : Prop :=
  isActiveProvider s p = false ∧ isActiveProvider (step s a) p = true

instance : Decidable (Activates s a p) := inferInstanceAs (Decidable (_ ∧ _))

/-- Sets a suspended provider `Active` below `MinStake`. -/
def RestoresUnderbonded (s : Chain E) (a : Action A) (p : A) : Prop :=
  a = .call .root (.setStatus p .active) ∧
    (s.registry.providers p).map (·.status) = some .suspended ∧
    bonded s p < E.config.minProviderStake

theorem isActiveProvider_congr (h : t.registry.providers = s.registry.providers) :
    isActiveProvider t p = isActiveProvider s p := by
  unfold isActiveProvider
  rw [h]

theorem isActiveProvider_putProvider (s : Chain E) (q : A) (entry : Provider A) :
    isActiveProvider (putProvider s q entry) p =
      if p = q then decide (entry.status = .active) else isActiveProvider s p := by
  unfold isActiveProvider putProvider
  by_cases hp : p = q
  · subst hp
    simp only [Function.update_self, Option.any_some, if_true]
  · simp only [Function.update_of_ne hp, if_neg hp]

theorem not_active_of_putProvider {entry : Provider A} (h : entry.status ≠ .active)
    (hp : isActiveProvider s p = false) : isActiveProvider (putProvider s q entry) p = false := by
  rw [isActiveProvider_putProvider]
  split
  · exact decide_eq_false h
  · exact hp

theorem doRegisterProvider_not_active (hp : isActiveProvider s p = false) :
    Yields (doRegisterProvider s owner key) (isActiveProvider · p = false) := by
  unfold doRegisterProvider
  repeat refine .bind fun _ _ => ?_
  refine .ok ?_
  exact not_active_of_putProvider nofun hp

theorem suspendProvider_not_active (hp : isActiveProvider s p = false) :
    isActiveProvider (suspendProvider s q) p = false := by
  unfold suspendProvider
  split
  · exact not_active_of_putProvider nofun hp
  · exact hp

theorem slashBond_not_active (hp : isActiveProvider s p = false) :
    isActiveProvider (slashBond s provider requested).1 p = false := by
  unfold slashBond
  split
  · exact hp
  dsimp only
  split
  · exact hp
  split
  · exact suspendProvider_not_active hp
  · exact hp

theorem setStatus_active (hp : isActiveProvider s p = false) :
    Yields (setStatus s o provider status) fun t => isActiveProvider t p = true →
      E.config.minProviderStake ≤ bonded s p ∨
        RestoresUnderbonded s (.call o (.setStatus provider status)) p := by
  unfold setStatus
  refine .bind fun _ ho => .bind fun record hr => .bind fun _ ht => .bind fun _ hb => .ok ?_
  simp only [ensureRoot_eq_ok, okOr_eq_ok, ensure_eq_ok] at ho hr ht hb
  intro ha
  have he := (isActiveProvider_putProvider s provider { record with status }).symm.trans ha
  split at he
  · subst ho
    subst p
    obtain rfl : status = .active := of_decide_eq_true he
    by_cases hm : E.config.minProviderStake ≤ bonded s provider
    · exact .inl hm
    · have hs : record.status = .suspended := by
        cases hc : record.status with
        | verified => exact absurd (hb ⟨hc, rfl⟩) hm
        | suspended => rfl
        | registered | active | removed => rw [hc] at ht; cases ht
      exact .inr ⟨rfl, by rw [hr, Option.map_some, hs], Nat.lt_of_not_le hm⟩
  · exact absurd (he.symm.trans hp) (by decide)

theorem bondStake_not_active (hp : isActiveProvider s p = false) :
    Yields (bondStake s o amount) (isActiveProvider · p = false) := by
  unfold bondStake
  repeat refine .bind fun _ _ => ?_
  exact .ok hp

theorem requestUnbond_not_active (hp : isActiveProvider s p = false) :
    Yields (requestUnbond s o) (isActiveProvider · p = false) := by
  unfold requestUnbond
  repeat refine .bind fun _ _ => ?_
  exact .ok hp

theorem withdrawUnbonded_not_active (hp : isActiveProvider s p = false) :
    Yields (withdrawUnbonded s o) (isActiveProvider · p = false) := by
  unfold withdrawUnbonded
  repeat refine .bind fun _ _ => ?_
  exact .ok hp

theorem executeSlash_not_active (hp : isActiveProvider s p = false) :
    Yields (ProviderSlashing.executeSlash s o provider dimension)
      (isActiveProvider · p = false) := by
  unfold ProviderSlashing.executeSlash
  repeat refine .bind fun _ _ => ?_
  exact .ok (slashBond_not_active (s := ProviderSlashing.advanceWatermark s _ _ _) hp)

theorem resolveSlashAppeal_not_active (hp : isActiveProvider s p = false) :
    Yields (ProviderSlashing.resolveSlashAppeal s o provider dimension uphold)
      (isActiveProvider · p = false) := by
  unfold ProviderSlashing.resolveSlashAppeal
  repeat refine .bind fun _ _ => ?_
  refine .ok ?_
  cases uphold with
  | true => exact hp
  | false => exact slashBond_not_active (s := ProviderSlashing.advanceWatermark s _ _ _) hp

theorem dispatch_not_active (hp : isActiveProvider s p = false) (c : Call A)
    (hc : ∀ provider status, c ≠ .setStatus provider status) :
    Yields (dispatch s o c) (isActiveProvider · p = false) := by
  by_cases hw : Pallet.registry ∈ c.writes
  · cases c with
    | setStatus provider status => exact absurd rfl (hc provider status)
    | registerProvider => exact .bind fun _ _ => doRegisterProvider_not_active hp
    | registerProviderFor => exact .bind fun _ _ => doRegisterProvider_not_active hp
    | bondStake => exact bondStake_not_active hp
    | requestUnbond => exact requestUnbond_not_active hp
    | withdrawBond => exact withdrawUnbonded_not_active hp
    | executeSlash => exact executeSlash_not_active hp
    | resolveSlashAppeal => exact resolveSlashAppeal_not_active hp
    | _ => simp [Call.writes] at hw
  · intro t ht
    rw [isActiveProvider_congr (congrArg _ ((dispatch_writes c t ht).same _ hw)), hp]

theorem Activates.bonded_or_restores (h : Activates s a p) :
    E.config.minProviderStake ≤ bonded s p ∨ RestoresUnderbonded s a p := by
  obtain ⟨hp, ha⟩ := h
  cases a with
  | blocks count => exact Bool.noConfusion (hp.symm.trans ha)
  | call o c =>
    rw [step_call] at ha
    by_cases hc : ∃ provider status, c = .setStatus provider status
    · obtain ⟨provider, status, rfl⟩ := hc
      refine (setStatus_active hp).commit ?_ ha
      exact fun hs => Bool.noConfusion (hp.symm.trans hs)
    · have hn := (dispatch_not_active (o := o) hp c
        fun q st he => hc ⟨q, st, he⟩).commit hp
      exact Bool.noConfusion (hn.symm.trans ha)

theorem RestoresUnderbonded.activates (h : RestoresUnderbonded s a p) : Activates s a p := by
  obtain ⟨rfl, hs, _⟩ := h
  obtain ⟨record, hr, hst⟩ := Option.map_eq_some_iff.1 hs
  have hp : isActiveProvider s p = false := by
    rw [isActiveProvider, hr, Option.any_some, hst]
    rfl
  have hd : dispatch s .root (.setStatus p .active) =
      .ok ((putProvider s p { record with status := .active }).depositEvent
        (.providerRegistry (.statusChanged p .active))) := by
    simp only [dispatch, setStatus, bind_eq_ok, ensureRoot_eq_ok, okOr_eq_ok, ensure_eq_ok,
      exists_const]
    refine ⟨trivial, record, hr, by rw [hst]; rfl, ?_, rfl⟩
    rintro ⟨hv, _⟩
    cases hst.symm.trans hv
  refine ⟨hp, ?_⟩
  rw [step_call, hd, commit_ok]
  exact (isActiveProvider_putProvider s p { record with status := .active }).trans (if_pos rfl)

theorem activation_bonded_step (s : Chain E) (a : Action A) :
    (∀ p, Activates s a p → E.config.minProviderStake ≤ bonded s p) ↔
      ∀ p, ¬ RestoresUnderbonded s a p := by
  constructor
  · intro h p hr
    exact absurd (h p hr.activates) (Nat.not_le_of_lt hr.2.2)
  · intro h p ha
    exact ha.bonded_or_restores.resolve_right (h p)

/-- Only bonded providers are activated exactly if none is restored underbonded. -/
theorem activation_bonded_iff (E : Env A Ledger) (L : Ledger)
    (acts : List (Action A)) :
    (Along step (fun s a => ∀ p, Activates s a p → E.config.minProviderStake ≤ bonded s p)
        (genesis E L) acts ↔
      Along step (fun s a => ∀ p, ¬ RestoresUnderbonded s a p) (genesis E L) acts) ∧
    ∀ acts', Along step (fun s a => ∀ p, ¬ RestoresUnderbonded s a p) (genesis E L)
        (acts ++ acts') →
      ∀ p, isActiveProvider (run step (genesis E L) acts) p = false →
        Throughout step (fun s => bonded s p < E.config.minProviderStake)
          (run step (genesis E L) acts) acts' →
        isActiveProvider (run step (genesis E L) (acts ++ acts')) p = false := by
  refine ⟨Along.congr activation_bonded_step _ _, ?_⟩
  intro acts' hacts p hp hb
  rw [run_append]
  refine (Along.append.1 hacts).2.invariant_throughout (I := fun s => isActiveProvider s p = false)
    hb hp fun s a hs hq hm _ => ?_
  by_contra hn
  have ha : Activates s a p := ⟨hs, Bool.eq_true_of_not_eq_false hn⟩
  exact ha.bonded_or_restores.elim (Nat.not_le_of_lt hm) (hq p)

def lapsedRun : List (Action Nat) :=
  [.call (.signed 1) (.registerProvider (List.Vector.replicate 32 7)),
    .call .root (.setStatus 1 .verified),
    .call (.signed 1) (.bondStake 1000),
    .call .root (.setStatus 1 .active),
    .call (.signed 1) .requestUnbond,
    .blocks 14400,
    .call (.signed 1) .withdrawBond,
    .call .root (.setStatus 1 .suspended)]

theorem lapsed_provider_activates :
    Activates (run step devGenesis lapsedRun) (.call .root (.setStatus 1 .active)) 1 ∧
      bonded (run step devGenesis lapsedRun) 1 = 0 := by
  decide

end OpenInfra.ProviderRegistry
