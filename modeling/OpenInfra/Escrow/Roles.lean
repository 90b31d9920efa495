import OpenInfra.Escrow.Holding

namespace OpenInfra.Escrow
open Frame NetworkValidator ProviderSlashing Function

variable {A Ledger : Type} [LinearOrder A] {E : Env A Ledger}
  {s : Chain E} {x : A}

def EscrowsCountable (s : Chain E) (x : A) : Prop := openEscrows s x ≤ maxValue 32

instance : Decidable (EscrowsCountable s x) := inferInstanceAs (Decidable (_ ≤ _))

structure Orderly (s : Chain E) (x : A) : Prop where
  sound : EscrowsSound s
  exclusive : (holding s x).Exclusive
  counted : (holding s x).Counted

theorem deposit_genesis (E : Env A Ledger) (L : Ledger) (x : A) (role : Role) :
    deposit (genesis E L) x role = none := by
  cases role <;> rfl

theorem Orderly.genesis (E : Env A Ledger) (L : Ledger) (x : A) :
    Orderly (genesis E L) x := by
  refine ⟨nofun, fun role hr => ?_, rfl⟩
  have hnone : (holding (OpenInfra.genesis E L) x).deposit role = none :=
    deposit_genesis E L x role
  rw [hnone] at hr
  cases hr

theorem Orderly.step (hC : E.currency.Lawful) (h : Orderly s x) (a : Action A)
    (hb : EscrowsCountable (step s a) x) : Orderly (step s a) x := by
  obtain ⟨he, hc⟩ := (holding_step hC h.sound a x).exclusive h.exclusive h.counted hb
  exact ⟨h.sound.step hC a, he, hc⟩

variable {acts : List (Action A)}

theorem orderly_of_countable (hC : E.currency.Lawful)
    (h : Throughout step (EscrowsCountable · x) (genesis E L) acts) :
    Orderly (run step (genesis E L) acts) x :=
  h.invariant (I := (Orderly · x)) (.genesis E L x) fun _ a hs _ hb => hs.step hC a hb

theorem countable_of_no_escrow (hs : s.escrow.escrows = ∅)
    (h : ∀ a ∈ acts, Pallet.escrow ∉ a.writes) : Throughout step (EscrowsCountable · x) s acts := by
  have hcount (u : Chain E) (hu : u.escrow.escrows = ∅) : EscrowsCountable u x := by
    rw [EscrowsCountable, openEscrows, openCaps, hu]
    exact Nat.zero_le _
  induction acts generalizing s with
  | nil => exact hcount s hs
  | cons a acts ih =>
    have hstep : (step s a).escrow = s.escrow := step_same s a .escrow (h a (.head _))
    exact ⟨hcount s hs, ih (hstep ▸ hs) fun b hb => h b (.tail _ hb)⟩

def KeepsCount (x : A) (s : Chain E) (acts : List (Action A)) : Prop :=
  (∀ a ∈ acts, Pallet.escrow ∉ a.writes) ∨ Throughout step (EscrowsCountable · x) s acts

theorem KeepsCount.countable
    (h : KeepsCount x (genesis E L) acts) :
    Throughout step (EscrowsCountable · x) (genesis E L) acts :=
  h.elim (countable_of_no_escrow rfl) id

def IsOpenPayer (s : Chain E) (x : A) : Prop :=
  ∃ leaseId, ∃ e ∈ s.escrow.escrows.lookup leaseId, e.payer = x ∧ e.settledAt = none

theorem IsOpenPayer.openCaps_ne_zero (h : IsOpenPayer s x) : openCaps s x ≠ 0 := by
  obtain ⟨leaseId, e, he, rfl, hnone⟩ := h
  obtain ⟨rest, ho, _⟩ := openCaps_put (t := s) he (StorageMap.insert_of_lookup he).symm rfl
  rw [ho, EscrowRecord.heldBack, if_pos hnone, Multiset.singleton_add]
  exact Multiset.cons_ne_zero

theorem validator_of_step (h : isRegisteredValidator (step s a) x) :
    isRegisteredValidator s x ∨
      (∃ v, a = .call (.signed x) (.registerValidator v)) ∧ hasOpenBond s x = false := by
  rw [isRegisteredValidator_eq] at h ⊢
  cases stakeStep s a with
  | quiet hstakes => exact .inl (hstakes ▸ h)
  | lock who v ha _ _ hbond _ hstakes =>
    by_cases hx : x = who
    · subst hx
      exact .inr ⟨⟨v, ha⟩, hbond⟩
    · rw [hstakes, update_of_ne hx] at h
      exact .inl h
  | withdraw who _ _ _ _ hstakes =>
    by_cases hx : x = who
    · rw [hstakes, hx, update_self] at h
      cases h
    · rw [hstakes, update_of_ne hx] at h
      exact .inl h
  | slash key _ _ hstakes =>
    rw [hstakes, slashRoundSubmitters, slashAll_registered] at h
    exact .inl h

theorem bonded_of_step (h : hasOpenBond (step s a) x) :
    hasOpenBond s x ∨
      (∃ v, a = .call (.signed x) (.bondStake v)) ∧ isRegisteredValidator s x = false := by
  rw [hasOpenBond_eq] at h ⊢
  cases bondStep s a with
  | quiet hbonds => exact .inl (hbonds ▸ h)
  | lock who v ha _ _ hvalidator _ hbonds =>
    by_cases hx : x = who
    · subst hx
      exact .inr ⟨⟨v, ha⟩, hvalidator⟩
    · rw [hbonds, update_of_ne hx] at h
      exact .inl h
  | topUp who d v _ hs _ hbonds =>
    by_cases hx : x = who
    · rw [hx, hs]
      exact .inl rfl
    · rw [hbonds, update_of_ne hx] at h
      exact .inl h
  | withdraw who _ _ _ _ _ hbonds =>
    by_cases hx : x = who
    · rw [hbonds, hx, update_self] at h
      cases h
    · rw [hbonds, update_of_ne hx] at h
      exact .inl h
  | slash p _ _ _ _ hbonds =>
    by_cases hx : x = p
    · rw [hbonds, hx, update_self, Option.isSome_map] at h
      rw [hx]
      exact .inl h
    · rw [hbonds, update_of_ne hx] at h
      exact .inl h

theorem validator_bond_exclusive_step
    (hs : ¬ (isRegisteredValidator s x ∧ hasOpenBond s x)) (a : Action A) :
    ¬ (isRegisteredValidator (step s a) x ∧ hasOpenBond (step s a) x) := by
  rintro ⟨hv, hb⟩
  obtain hv | ⟨⟨v, hreg⟩, hnone⟩ := validator_of_step hv
  · obtain hb | ⟨_, hnone⟩ := bonded_of_step hb
    · exact hs ⟨hv, hb⟩
    · cases hnone.symm.trans hv
  · obtain hb | ⟨⟨w, hbond⟩, _⟩ := bonded_of_step hb
    · cases hnone.symm.trans hb
    · cases hreg.symm.trans hbond

/-- No account is two of open payer, validator and bonded provider. -/
theorem roles_exclusive (hC : E.currency.Lawful) (L : Ledger) (acts : List (Action A))
    (x : A) :
    let s := run step (genesis E L) acts
    ¬ (isRegisteredValidator s x ∧ hasOpenBond s x) ∧
      (Throughout step (EscrowsCountable · x) (genesis E L) acts →
        ¬ (IsOpenPayer s x ∧ isRegisteredValidator s x) ∧ ¬ (IsOpenPayer s x ∧ hasOpenBond s x) ∧
        s.escrow.payerOpenEscrowCount x = openEscrows s x) := by
  intro s
  have hbegin : ¬ (isRegisteredValidator (genesis E L) x ∧ hasOpenBond (genesis E L) x) :=
    fun h => Bool.false_ne_true h.1
  refine ⟨?_, fun h => ?_⟩
  · exact run_invariant (I := fun s => ¬ (isRegisteredValidator s x ∧ hasOpenBond s x)) hbegin
      (fun _ a hs => validator_bond_exclusive_step hs a) acts
  · have hs : Orderly s x := orderly_of_countable hC h
    rw [isRegisteredValidator_eq, hasOpenBond_eq]
    refine ⟨?_, ?_, hs.counted⟩
    · rintro ⟨hp, hv⟩
      exact hp.openCaps_ne_zero (hs.exclusive .validator hv).1
    · rintro ⟨hp, hb⟩
      exact hp.openCaps_ne_zero (hs.exclusive .provider hb).1

def marketRun : List (Action Nat) :=
  [.call (.signed 9) (.registerProvider (List.Vector.replicate 32 9)),
    .call .root (.setStatus 9 .verified),
    .call (.signed 9) (.bondStake 1000),
    .call .root (.setStatus 9 .active),
    .call (.signed 2) (.registerValidator 1000),
    .call (.signed 3) (.registerValidator 1000)]

def market : Chain (Env.runtime (Host.constant : Host Nat)) := run step devGenesis marketRun

def openLease (n : LeaseId) : List (Action Nat) :=
  [.call (.signed 1) (.createLease n 9 (List.Vector.replicate 32 0) 10),
    .call (.signed 1) (.fundEscrow n 9 100 ⟨1, 1, 1, 1⟩ 1)]

theorem roles_exclusive_payer :
    let s := run step devGenesis (marketRun ++ openLease 0)
    ¬ (isRegisteredValidator s 1 ∧ hasOpenBond s 1) ∧
      ¬ (IsOpenPayer s 1 ∧ isRegisteredValidator s 1) ∧ ¬ (IsOpenPayer s 1 ∧ hasOpenBond s 1) ∧
      s.escrow.payerOpenEscrowCount 1 = openEscrows s 1 :=
  have h := roles_exclusive Balances.currency_lawful _ (marketRun ++ openLease 0) 1
  ⟨h.1, h.2 (by decide +kernel)⟩

end OpenInfra.Escrow
