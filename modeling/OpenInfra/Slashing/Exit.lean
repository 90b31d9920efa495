import OpenInfra.Slashing.Streaks

namespace OpenInfra.ProviderSlashing
open Frame ProviderRegistry Escrow Function List

variable {A Ledger : Type} [LinearOrder A] {E : Env A Ledger}
  {s t u : Chain E} {a : Action A} {p : A}

def BondMove.provider : BondMove A → A
  | .added provider _ => provider
  | .slashed key _ _ => key.1
  | .withdrawn provider _ => provider

inductive BondChange (p : A) (s t : Chain E) : Prop where
  | other (ms : List (BondMove A)) (hms : ∀ m ∈ ms, m.provider ≠ p)
      (ht : bondOf t p = bondOf s p) (hmoves : bondMoves t = ms ++ bondMoves s)
  | lock (v : Nat) (hs : bondOf s p = none) (hv : s.reserved p + v ≤ maxValue 64)
      (ht : bondOf t p = some v) (hmoves : bondMoves t = .added p v :: bondMoves s)
  | topUp (d v : Nat) (hs : bondOf s p = some d) (hv : s.reserved p + v ≤ maxValue 64)
      (ht : bondOf t p = some (saturatingAdd 64 d v))
      (hmoves : bondMoves t = .added p v :: bondMoves s)
  | withdraw (d : Nat) (hs : bondOf s p = some d) (hpending : hasPendingSlash s p = false)
      (ht : bondOf t p = none) (hmoves : bondMoves t = .withdrawn p d :: bondMoves s)
  | slash (d : ScoreDimension) (r : Nat)
      (ht : bondOf t p = (bondOf s p).map (· - slashAmount s p))
      (hmoves : bondMoves t = .slashed (p, d) r (slashAmount s p) :: bondMoves s)

theorem BondChange.of_ne
    (hp : p ≠ who) (hm : m.provider = who) (ht : bondOf t = update (bondOf s) who bond)
    (hmoves : bondMoves t = m :: bondMoves s) : BondChange p s t := by
  refine .other [m] ?_ (by rw [ht, update_of_ne hp]) hmoves
  intro m' hm'
  rw [mem_singleton.1 hm', hm]
  exact hp.symm

theorem bondChange (hC : E.currency.Lawful) (s : Chain E) (a : Action A) (p : A) :
    BondChange p s (step s a) := by
  cases bondStep s a with
  | quiet hbonds hmoves => exact .other [] nofun (congrFun hbonds p) hmoves
  | lock who v _ hs _ _ hreserve hbonds hmoves =>
    by_cases hp : p = who
    · subst hp
      exact .lock v hs (hC.reserve_spec hreserve).1 (by rw [hbonds, update_self]) hmoves
    · exact .of_ne hp rfl hbonds hmoves
  | topUp who d v _ hs hreserve hbonds hmoves =>
    by_cases hp : p = who
    · subst hp
      exact .topUp d v hs (hC.reserve_spec hreserve).1 (by rw [hbonds, update_self]) hmoves
    · exact .of_ne hp rfl hbonds hmoves
  | withdraw who d _ hs hpending _ hbonds hmoves =>
    by_cases hp : p = who
    · subst hp
      exact .withdraw d hs hpending (by rw [hbonds, update_self]) hmoves
    · exact .of_ne hp rfl hbonds hmoves
  | slash q d r _ _ hbonds hmoves =>
    by_cases hp : p = q
    · subst hp
      exact .slash d r (by rw [hbonds, update_self]) hmoves
    · exact .of_ne hp rfl hbonds hmoves

def BondFits (s : Chain E) (p : A) : Prop := ∀ d ∈ bondOf s p, d ≤ maxValue 64

omit [LinearOrder A] in
theorem BondFits.genesis (E : Env A Ledger) (L : Ledger) (p : A) :
    BondFits (genesis E L) p := by
  intro d hd
  cases hd

theorem BondFits.step (hC : E.currency.Lawful) (h : BondFits s p) (a : Action A) :
    BondFits (step s a) p := by
  intro d' hd'
  cases bondChange hC s a p with
  | other _ _ ht => exact h d' (ht ▸ hd')
  | lock v _ hv ht =>
    cases ht.symm.trans hd'
    omega
  | topUp d v _ _ ht =>
    cases ht.symm.trans hd'
    exact saturatingAdd_le _ _ _
  | withdraw _ _ _ ht => cases ht.symm.trans hd'
  | slash _ _ ht =>
    obtain ⟨d, hd, rfl⟩ := Option.map_eq_some_iff.1 (ht.symm.trans hd')
    exact (Nat.sub_le ..).trans (h d hd)

def OnlySlashed (p : A) (s : Chain E) (a : Action A) : Prop :=
  bonded (step s a) p < bonded s p →
    ∃ d r v, bondMoves (step s a) = .slashed (p, d) r v :: bondMoves s

omit [LinearOrder A] in
theorem bonded_eq (h : bondOf s p = some d) : bonded s p = d := by
  rw [bonded, ← bondOf, h, Option.getD_some]

theorem onlySlashed (hC : E.currency.Lawful) (h : BondFits s p) (hpending : hasPendingSlash s p)
    (a : Action A) : OnlySlashed p s a := by
  intro hlt
  cases bondChange hC s a p with
  | other _ _ ht =>
    rw [bonded, ← bondOf, ht] at hlt
    exact absurd hlt (lt_irrefl _)
  | lock v hs =>
    rw [bonded, bonded, ← bondOf, ← bondOf, hs] at hlt
    exact absurd hlt (Nat.not_lt_zero _)
  | topUp d v hs _ ht =>
    rw [bonded_eq hs, bonded_eq ht] at hlt
    exact absurd hlt (not_lt.2 (le_saturatingAdd (h d hs)))
  | withdraw _ _ hp => cases hp.symm.trans hpending
  | slash d r _ hmoves => exact ⟨d, r, _, hmoves⟩

def BondMove.addedTo (p : A) : BondMove A → Nat
  | .added provider v => if provider = p then v else 0
  | _ => 0

def BondMove.slashedFrom (p : A) : BondMove A → Nat
  | .slashed key _ v => if key.1 = p then v else 0
  | _ => 0

def added (p : A) (ms : List (BondMove A)) : Nat :=
  (ms.map (BondMove.addedTo p)).sum

def slashed (p : A) (ms : List (BondMove A)) : Nat :=
  (ms.map (BondMove.slashedFrom p)).sum

structure Held (p : A) (s t : Chain E) (ms : List (BondMove A)) : Prop where
  bond : (bondOf t p).isSome
  moves : bondMoves t = ms ++ bondMoves s
  unwithdrawn : ∀ v, .withdrawn p v ∉ ms
  stake : bonded t p + slashed p ms = bonded s p + added p ms

theorem added_append (p : A) (ms ms' : List (BondMove A)) :
    added p (ms ++ ms') = added p ms + added p ms' := by
  rw [added, map_append, sum_append, added, added]

theorem slashed_append (p : A) (ms ms' : List (BondMove A)) :
    slashed p (ms ++ ms') = slashed p ms + slashed p ms' := by
  rw [slashed, map_append, sum_append, slashed, slashed]

theorem added_slashed_of_other (h : ∀ m ∈ ms, m.provider ≠ p) :
    added p ms = 0 ∧ slashed p ms = 0 := by
  refine ⟨sum_eq_zero ?_, sum_eq_zero ?_⟩
  · simp only [mem_map, forall_exists_index, and_imp, forall_apply_eq_imp_iff₂]
    intro m hm
    cases m with
    | added => exact if_neg (h _ hm)
    | _ => rfl
  · simp only [mem_map, forall_exists_index, and_imp, forall_apply_eq_imp_iff₂]
    intro m hm
    cases m with
    | slashed => exact if_neg (h _ hm)
    | _ => rfl

theorem Held.refl (h : (bondOf s p).isSome) : Held p s s [] := ⟨h, rfl, nofun, rfl⟩

theorem Held.trans (h : Held p s t ms) (h' : Held p t u ms') : Held p s u (ms' ++ ms) := by
  refine ⟨h'.bond, ?_, fun v hv => ?_, ?_⟩
  · rw [h'.moves, h.moves, append_assoc]
  · exact (mem_append.1 hv).elim (h'.unwithdrawn v) (h.unwithdrawn v)
  · have hs := h.stake
    have hs' := h'.stake
    rw [added_append, slashed_append]
    omega

theorem bond_kept (hC : E.currency.Lawful) (hpending : hasPendingSlash s p)
    (hb : (bondOf s p).isSome) (a : Action A) : (bondOf (step s a) p).isSome := by
  cases bondChange hC s a p with
  | other _ _ ht => rwa [ht]
  | lock _ _ _ ht => rw [ht]; rfl
  | topUp _ _ _ _ ht => rw [ht]; rfl
  | withdraw _ _ hp => cases hp.symm.trans hpending
  | slash _ _ ht => rwa [ht, Option.isSome_map]

theorem held_step (hC : E.currency.Lawful) (hx : (holding s p).Exclusive)
    (hs : (holding s p).Solvent) (hpending : hasPendingSlash s p) (hb : (bondOf s p).isSome)
    (a : Action A) : ∃ ms, Held p s (step s a) ms := by
  have hbond := bond_kept hC hpending hb a
  cases bondChange hC s a p with
  | other ms hms ht hmoves =>
    obtain ⟨ha, hl⟩ := added_slashed_of_other hms
    refine ⟨ms, hbond, hmoves, fun v hv => hms _ hv rfl, ?_⟩
    rw [ha, hl, bonded, ← bondOf, ht, bondOf, bonded]
  | lock v hnone =>
    rw [hnone] at hb
    cases hb
  | topUp d v hd hv ht hmoves =>
    have hle := bonded_le_reserved hs
    refine ⟨[.added p v], hbond, hmoves, by simp, ?_⟩
    rw [bonded_eq hd] at hle
    rw [bonded_eq hd, bonded_eq ht, saturatingAdd_of_le (by omega)]
    simp [added, slashed, BondMove.addedTo, BondMove.slashedFrom]
  | withdraw _ _ hp => cases hp.symm.trans hpending
  | slash d r ht hmoves =>
    obtain ⟨stake, hd⟩ := Option.isSome_iff_exists.1 hb
    rw [hd] at ht
    have hamount := slashAmount_eq hC hx hs
    refine ⟨[.slashed (p, d) r (slashAmount s p)], hbond, hmoves, by simp, ?_⟩
    rw [bonded_eq hd] at hamount ⊢
    rw [bonded_eq ht]
    simp only [added, slashed, BondMove.addedTo, BondMove.slashedFrom, map_cons, map_nil,
      sum_cons, sum_nil, if_true]
    omega

/-- No exit while a slash is pending; only slashes lower stakes. -/
theorem no_exit_from_pending_slash (hC : E.currency.Lawful) {L : Ledger}
    {acts acts' : List (Action A)} (hbond : (bondOf (run step (genesis E L) acts) p).isSome)
    (hpending : Throughout step (fun s => hasPendingSlash s p) (run step (genesis E L) acts)
      acts') :
    let s := run step (genesis E L) acts
    let t := run step s acts'
    Throughout step (fun s => (bondOf s p).isSome) s acts' ∧
      Along step (OnlySlashed p) s acts' ∧
      (E.currency.reservedBalance L p = 0 →
        KeepsCount p (genesis E L) (acts ++ acts') →
        ∃ ms, Held p s t ms ∧ ∀ a d r v, slashes (step t a) (p, d) = (r, v) :: slashes t (p, d) →
          v = min E.config.providerSlashAmount (bonded s p + added p ms - slashed p ms)) := by
  intro s t
  refine ⟨?_, ?_, ?_⟩
  · exact hpending.throughout hbond fun s a hb hp _ => bond_kept hC hp hb a
  · have hfits : BondFits s p :=
      run_invariant (I := (BondFits · p)) (.genesis E L p) (fun _ a h => h.step hC a) acts
    exact hpending.along (I := (BondFits · p)) hfits (fun _ a h _ _ => h.step hC a)
      fun s a h hp => onlySlashed hC h hp a
  · intro hL hcount
    obtain ⟨hbefore, hafter⟩ := hcount.countable.append
    have hs : Orderly s p ∧ (holding s p).Solvent :=
      ⟨orderly_of_countable hC hbefore, solvent_of_countable hC hL hbefore⟩
    obtain ⟨⟨ho, hsolvent⟩, ms, hheld⟩ := (hpending.and hafter).invariant
      (I := fun u => (Orderly u p ∧ (holding u p).Solvent) ∧ ∃ ms, Held p s u ms)
      ⟨hs, [], .refl hbond⟩ fun u a ⟨⟨ho, hsolvent⟩, ms, hheld⟩ hp hcount => by
        obtain ⟨ms', hstep⟩ := held_step hC ho.exclusive hsolvent hp.1 hheld.bond a
        exact ⟨⟨ho.step hC a hcount.2, ho.solvent hC hsolvent a⟩, ms' ++ ms, hheld.trans hstep⟩
    refine ⟨ms, hheld, fun a d r v hslash => ?_⟩
    have hv := (takesStake hC ho.exclusive hsolvent a r v hslash).1
    have hstake : bonded t p + slashed p ms = bonded s p + added p ms := hheld.stake
    rw [hv, show bonded t p = bonded s p + added p ms - slashed p ms by omega]

def unbondingRun : List (Action Nat) :=
  breachRun.dropLast ++ [.call (.signed 9) .requestUnbond,
    .call (.signed 1) (.recordBreach 9 .availability 0)]

def exitRun : List (Action Nat) :=
  [.call (.signed 9) (.appealSlash 9 .availability), .blocks 14400, .call (.signed 9) .withdrawBond]

theorem no_exit_from_pending_slash_unbonding :
    let s := run step devGenesis unbondingRun
    ∃ ms, Held 9 s (run step s exitRun) ms ∧
      150 = min Config.runtime.providerSlashAmount (bonded s 9 + added 9 ms - slashed 9 ms) :=
  let ⟨ms, held, amount⟩ := (no_exit_from_pending_slash Balances.currency_lawful
    (by decide +kernel) (by decide +kernel)).2.2 rfl (.inl (by decide +kernel))
  ⟨ms, held, amount (.call .root (.resolveSlashAppeal 9 .availability false)) .availability 0 150
    (by decide +kernel)⟩

end OpenInfra.ProviderSlashing
