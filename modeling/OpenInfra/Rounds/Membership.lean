import OpenInfra.Rounds.Machine

namespace OpenInfra.NetworkValidator
open Frame Function List

variable {A Ledger : Type} [LinearOrder A] {E : Env A Ledger}
  {s t : Chain E} {a : Action A} {key : RoundKey A} {who : A}

/-- The active validators, in the order of the draw. -/
def activeSet (s : Chain E) : List A := s.validator.activeValidatorSet.toList

inductive RegistryStep (s : Chain E) (a : Action A) (t : Chain E) : Prop where
  | quiet (hv : t.validator.validators = s.validator.validators) (hs : activeSet t = activeSet s)
  | joins (who : A) (record : ValidatorRecord)
      (hidle : ∀ r ∈ s.validator.validators who, r.status ≠ .active)
      (hactive : record.status = .active)
      (hbacked : E.config.minValidatorStake ≤ record.stake ∨ ∃ r, a = .call .root (.reinstate who) ∧
        s.validator.validators who = some r ∧ r.stake = record.stake)
      (hv : t.validator.validators = Function.update s.validator.validators who (some record))
      (hs : activeSet t = if who ∈ activeSet s then activeSet s else activeSet s ++ [who])
  | leaves (who : A) (record : Option ValidatorRecord)
      (hidle : ∀ r ∈ record, r.status ≠ .active)
      (hv : t.validator.validators = Function.update s.validator.validators who record)
      (hs : activeSet t = (activeSet s).erase who)
  | lowered (who : A) (record : ValidatorRecord) (stake : Nat)
      (hr : s.validator.validators who = some record)
      (hpos : record.status = .active → 0 < stake)
      (hv : t.validator.validators =
        Function.update s.validator.validators who (some { record with stake }))
      (hs : activeSet t = activeSet s)

theorem joinActiveSet_set : Yields (joinActiveSet s who) fun t =>
    t.validator.validators = s.validator.validators ∧
      activeSet t = if who ∈ activeSet s then activeSet s else activeSet s ++ [who] := by
  unfold joinActiveSet
  split
  · rename_i hmem
    exact .ok ⟨rfl, (if_pos hmem).symm⟩
  · rename_i hmem
    refine .bind fun set hset => .ok ⟨rfl, ?_⟩
    rw [okOr_eq_ok, BoundedVec.tryPush_eq_some] at hset
    exact hset.2.trans (if_neg hmem).symm

theorem registerValidator_registryStep : Yields (registerValidator s o stake)
    (RegistryStep s (.call o (.registerValidator stake))) := by
  unfold registerValidator
  refine .bind fun who ho => .bind fun _ hnone => .bind fun _ hmin => .bind fun _ _ =>
    .bind fun _ _ => .bind fun u hu => .bind fun ledger _ => .ok ?_
  simp only [ensure_eq_ok] at hnone hmin
  obtain ⟨hv, hset⟩ := joinActiveSet_set u hu
  refine .joins who ⟨.active, stake, u.blockNumber⟩ ?_ rfl (.inl hmin) ?_ hset
  · rw [hnone]
    nofun
  · exact congrArg (update · who _) hv

theorem requestExit_registryStep : Yields (requestExit s o)
    (RegistryStep s (.call o .requestExit)) := by
  unfold requestExit
  refine .bind fun who _ => .bind fun record _ => .bind fun _ _ => .bind fun availableAt _ =>
    .ok (.leaves who (some { record with status := .exiting availableAt }) ?_ rfl rfl)
  rintro _ ⟨⟩
  nofun

theorem withdrawUnbonded_registryStep : Yields (withdrawUnbonded s o)
    (RegistryStep s (.call o .withdrawStake)) := by
  unfold withdrawUnbonded
  refine .bind fun who _ => .bind fun record _ => .bind fun _ _ => .ok (.leaves who none ?_ rfl rfl)
  nofun

theorem suspend_registryStep : Yields (suspend s o who)
    (RegistryStep s (.call o (.suspend who))) := by
  unfold suspend
  refine .bind fun _ _ => .bind fun record _ => .bind fun _ _ =>
    .ok (.leaves who (some { record with status := .suspended }) ?_ rfl rfl)
  rintro _ ⟨⟩
  nofun

theorem reinstate_registryStep : Yields (reinstate s o who)
    (RegistryStep s (.call o (.reinstate who))) := by
  unfold reinstate
  refine .bind fun _ ho => .bind fun record hr => .bind fun _ hsuspended => .bind fun u hu =>
    .ok ?_
  simp only [ensureRoot_eq_ok, okOr_eq_ok, ensure_eq_ok] at ho hr hsuspended
  subst ho
  obtain ⟨hv, hset⟩ := joinActiveSet_set u hu
  refine .joins who { record with status := .active } ?_ rfl (.inr ⟨record, rfl, hr, rfl⟩) hv hset
  rw [hr]
  rintro _ ⟨⟩
  rw [hsuspended]
  rintro ⟨⟩

theorem slashSubmitter_registryStep : RegistryStep s a (slashSubmitter key s who) := by
  unfold slashSubmitter
  split
  · exact .quiet rfl rfl
  · rename_i record hr
    dsimp only
    split
    · exact .quiet rfl rfl
    · split
      · refine .leaves who (some { record with stake := _, status := _ }) ?_ rfl rfl
        rintro _ ⟨⟩
        nofun
      · rename_i hforced
        refine .lowered who record _ hr (fun hactive => ?_) rfl rfl
        refine Nat.pos_of_ne_zero fun hzero => hforced ?_
        rw [Bool.and_eq_true]
        exact ⟨decide_eq_true hzero, decide_eq_true hactive⟩

inductive MembershipStep (s : Chain E) (a : Action A) (t : Chain E) : Prop where
  | one (h : RegistryStep s a t)
  | slash (key : RoundKey A)
      (hv : t.validator.validators = (slashRoundSubmitters s key).validator.validators)
      (hs : activeSet t = activeSet (slashRoundSubmitters s key))

theorem RegistryStep.of_validator (h : t.validator = s.validator) : RegistryStep s a t :=
  .quiet (congrArg (·.validators) h) (congrArg (·.activeValidatorSet.toList) h)

section
variable {round : Nat}

theorem closeRound_registryStep : Yields (closeRound s o provider round dimension)
    (RegistryStep s a) := by
  unfold closeRound
  refine .bind fun _ _ => .bind fun _ _ => .bind fun _ _ => .bind fun _ _ => .bind fun t ht =>
    .bind fun u hu => .ok ?_
  have hv := accrueAll_validator ht hu
  exact .quiet (congrArg (·.validators) hv) (congrArg (·.activeValidatorSet.toList) hv)

theorem disputeRound_registryStep : Yields (disputeRound s o provider round dimension)
    (RegistryStep s a) := by
  unfold disputeRound
  iterate 5 refine .bind fun _ _ => ?_
  refine .bind fun t ht => .ok ?_
  have hv := Reputation.setDimensionScore_validator ht
  exact .quiet (congrArg (·.validators) hv) (congrArg (·.activeValidatorSet.toList) hv)

theorem resolveDispute_membershipStep :
    Yields (resolveDispute s o provider round dimension uphold) (MembershipStep s a) := by
  unfold resolveDispute
  refine .bind fun _ _ => .bind fun _ _ => .bind fun _ _ => ?_
  cases uphold with
  | true => exact .ok (.slash ⟨provider, round, dimension⟩ rfl rfl)
  | false =>
    refine .bind fun t ht => .ok (.one ?_)
    have hv := Reputation.setDimensionScore_validator ht
    exact .quiet (congrArg (·.validators) hv) (congrArg (·.activeValidatorSet.toList) hv)

end

theorem dispatch_membershipStep (c : Call A) :
    Yields (dispatch s o c) (MembershipStep s (.call o c)) := by
  by_cases hw : Pallet.validator ∈ c.writes
  · cases c with
    | registerValidator => exact fun t ht => .one (registerValidator_registryStep t ht)
    | requestExit => exact fun t ht => .one (requestExit_registryStep t ht)
    | withdrawStake => exact fun t ht => .one (withdrawUnbonded_registryStep t ht)
    | suspend => exact fun t ht => .one (suspend_registryStep t ht)
    | reinstate => exact fun t ht => .one (reinstate_registryStep t ht)
    | submitEvidence =>
      repeat refine .bind fun _ _ => ?_
      exact .ok (.one (.quiet rfl rfl))
    | closeRound => exact fun t ht => .one (closeRound_registryStep t ht)
    | disputeRound => exact fun t ht => .one (disputeRound_registryStep t ht)
    | resolveRoundDispute => exact resolveDispute_membershipStep
    | _ => simp [Call.writes] at hw
  · intro t ht
    exact .one (.of_validator ((dispatch_writes c t ht).same _ hw))

theorem membershipStep (s : Chain E) (a : Action A) : MembershipStep s a (step s a) := by
  cases a with
  | call o c => exact (dispatch_membershipStep c).commit (.one (.quiet rfl rfl))
  | blocks count => exact .one (.quiet rfl rfl)

structure Coherent (s : Chain E) : Prop where
  nodup : (activeSet s).Nodup
  active : ∀ who, who ∈ activeSet s ↔ isActive s who

theorem isActive_iff {v : A} :
    isActive s v ↔ ∃ record ∈ s.validator.validators v, record.status = .active := by
  rw [isActive, Option.any_eq_true]
  simp only [Option.mem_def, decide_eq_true_eq]

theorem isActive_congr {v : A}
    (h : t.validator.validators v = s.validator.validators v) : isActive t v = isActive s v := by
  rw [isActive, h, isActive]

theorem Coherent.of_same (h : Coherent s) (hv : t.validator.validators = s.validator.validators)
    (hs : activeSet t = activeSet s) : Coherent t := by
  refine ⟨hs ▸ h.nodup, fun who => ?_⟩
  rw [hs, h.active, isActive_congr (congrFun hv who)]

theorem Coherent.registryStep (h : Coherent s) (hstep : RegistryStep s a t) : Coherent t := by
  cases hstep with
  | quiet hv hs => exact h.of_same hv hs
  | joins who record hidle hactive _ hv hs =>
    have hout : who ∉ activeSet s := by
      rw [h.active, isActive_iff]
      rintro ⟨r, hr, hstatus⟩
      exact hidle r hr hstatus
    rw [if_neg hout] at hs
    refine ⟨?_, fun v => ?_⟩
    · rw [hs]
      exact h.nodup.append (nodup_singleton who) (disjoint_singleton.2 hout)
    · rw [hs, mem_append, mem_singleton]
      by_cases hv' : v = who
      · subst hv'
        have hnew : t.validator.validators v = some record := by rw [hv, update_self]
        exact iff_of_true (.inr rfl) (isActive_iff.2 ⟨record, hnew, hactive⟩)
      · have hold : t.validator.validators v = s.validator.validators v := by
          rw [hv, update_of_ne hv']
        rw [isActive_congr hold, ← h.active]
        exact or_iff_left hv'
  | leaves who record hidle hv hs =>
    refine ⟨hs ▸ h.nodup.erase who, fun v => ?_⟩
    rw [hs, h.nodup.mem_erase_iff]
    by_cases hv' : v = who
    · subst hv'
      have hnew : t.validator.validators v = record := by rw [hv, update_self]
      refine iff_of_false (fun hmem => hmem.1 rfl) ?_
      rw [isActive_iff, hnew]
      rintro ⟨r, hr, hstatus⟩
      exact hidle r hr hstatus
    · have hold : t.validator.validators v = s.validator.validators v := by
        rw [hv, update_of_ne hv']
      rw [isActive_congr hold, ← h.active]
      exact and_iff_right hv'
  | lowered who record stake hr _ hv hs =>
    refine ⟨hs ▸ h.nodup, fun v => ?_⟩
    rw [hs, h.active]
    by_cases hv' : v = who
    · subst hv'
      rw [isActive, hr, isActive, hv, update_self]
      rfl
    · rw [isActive_congr (s := s) (t := t) (by rw [hv, update_of_ne hv'])]

theorem slashRoundSubmitters_invariant {I : Chain E → Prop} (hs : I s)
    (hturn : ∀ s who, I s → I (slashSubmitter key s who)) : I (slashRoundSubmitters s key) :=
  run_invariant hs hturn _

theorem Coherent.step (h : Coherent s) : Coherent (step s a) := by
  cases membershipStep s a with
  | one hstep => exact h.registryStep hstep
  | slash key hv hs =>
    have hloop : Coherent (slashRoundSubmitters s key) := slashRoundSubmitters_invariant h
      fun s who hs => hs.registryStep (slashSubmitter_registryStep (a := a))
    exact hloop.of_same hv hs

theorem Coherent.genesis (E : Env A Ledger) (L : Ledger) : Coherent (genesis E L) :=
  ⟨nodup_nil, fun _ => iff_of_false not_mem_nil Bool.false_ne_true⟩

section
local instance lawfulMember : LawfulBEq A := inferInstance

def KeepsOrder (s t : Chain E) : Prop :=
  (activeSet t).filter (· ∈ activeSet s) = (activeSet s).filter (· ∈ activeSet t)

end

theorem filter_mem_sublist {l l' : List A} (h : l'.Sublist l) (hl : l.Nodup) :
    l.filter (· ∈ l') = l' := by
  have hsub : l'.Sublist (l.filter (· ∈ l')) := by
    have hfilter := h.filter (· ∈ l')
    rwa [filter_eq_self.2 fun v hv => decide_eq_true hv] at hfilter
  have hback : l.filter (· ∈ l') ⊆ l' := fun v hv => of_decide_eq_true (mem_filter.1 hv).2
  exact (hsub.eq_of_length_le ((hl.filter _).subperm hback).length_le).symm

theorem KeepsOrder.of_sublist (hs : (activeSet s).Nodup)
    (h : (activeSet t).Sublist (activeSet s)) : KeepsOrder s t := by
  rw [KeepsOrder, filter_mem_sublist h hs]
  exact filter_eq_self.2 fun v hv => decide_eq_true (h.subset hv)

theorem KeepsOrder.of_append (h : activeSet t = activeSet s ++ [who]) (hout : who ∉ activeSet s) :
    KeepsOrder s t := by
  have hkept : (activeSet s).filter (· ∈ activeSet t) = activeSet s := by
    refine filter_eq_self.2 fun v hv => decide_eq_true ?_
    rw [h]
    exact mem_append_left _ hv
  have hnew : [who].filter (· ∈ activeSet s) = [] :=
    filter_eq_nil_iff.2 fun v hv => by
      rw [mem_singleton.1 hv, decide_eq_true_eq]
      exact hout
  rw [KeepsOrder, hkept, h, filter_append, hnew, append_nil]
  exact filter_eq_self.2 fun v hv => decide_eq_true hv

theorem slashSubmitter_sublist : (activeSet (slashSubmitter key s who)).Sublist (activeSet s) := by
  unfold slashSubmitter
  split
  · exact .refl _
  · dsimp only
    split
    · exact .refl _
    · split
      · exact erase_sublist
      · exact .refl _

theorem keepsOrder_step (h : Coherent s) (a : Action A) : KeepsOrder s (step s a) := by
  cases membershipStep s a with
  | one hstep =>
    cases hstep with
    | quiet _ hs => exact .of_sublist h.nodup (hs ▸ .refl _)
    | joins who _ _ _ _ _ hs =>
      split at hs
      · exact .of_sublist h.nodup (hs ▸ .refl _)
      · rename_i hout
        exact .of_append hs hout
    | leaves who _ _ _ hs => exact .of_sublist h.nodup (hs ▸ erase_sublist)
    | lowered _ _ _ _ _ _ hs => exact .of_sublist h.nodup (hs ▸ .refl _)
  | slash key _ hs =>
    refine .of_sublist h.nodup (hs ▸ ?_)
    exact slashRoundSubmitters_invariant (I := fun t => (activeSet t).Sublist (activeSet s))
      (.refl _) fun t who ht => slashSubmitter_sublist.trans ht

def Funded (s : Chain E) : Prop :=
  ∀ who ∈ activeSet s, ∃ record ∈ s.validator.validators who, 0 < record.stake

def backed (s : Chain E) : Action A → Bool
  | .call _ (.reinstate who) => (s.validator.validators who).all (0 < ·.stake)
  | _ => true

theorem Funded.of_same (h : Funded s) (hv : t.validator.validators = s.validator.validators)
    (hs : activeSet t = activeSet s) : Funded t := by
  intro who hwho
  rw [hs] at hwho
  rw [hv]
  exact h who hwho

theorem Funded.registryStep (hmin : 0 < E.config.minValidatorStake) (hc : Coherent s)
    (h : Funded s) (hbacked : backed s a) (hstep : RegistryStep s a t) : Funded t := by
  cases hstep with
  | quiet hv hs => exact h.of_same hv hs
  | joins who record _ _ hstake hv hs =>
    intro v hmem
    rw [hv]
    by_cases hv' : v = who
    · rw [hv', update_self]
      refine ⟨record, rfl, ?_⟩
      obtain hstake | ⟨r, rfl, hr, hstake⟩ := hstake
      · exact hmin.trans_le hstake
      · rw [backed, hr] at hbacked
        exact hstake ▸ of_decide_eq_true hbacked
    · rw [update_of_ne hv']
      refine h v ?_
      rw [hs] at hmem
      split at hmem
      · exact hmem
      · exact (mem_append.1 hmem).resolve_right fun hm => hv' (mem_singleton.1 hm)
  | leaves who record _ hv hs =>
    intro v hmem
    rw [hs, hc.nodup.mem_erase_iff] at hmem
    rw [hv, update_of_ne hmem.1]
    exact h v hmem.2
  | lowered who record stake hr hpos hv hs =>
    intro v hmem
    rw [hs] at hmem
    rw [hv]
    by_cases hv' : v = who
    · subst hv'
      rw [update_self]
      obtain ⟨r, hr', hstatus⟩ := isActive_iff.1 ((hc.active v).1 hmem)
      rw [hr, Option.mem_some_iff] at hr'
      subst hr'
      exact ⟨_, rfl, hpos hstatus⟩
    · rw [update_of_ne hv']
      exact h v hmem

theorem Funded.step (hmin : 0 < E.config.minValidatorStake) (hc : Coherent s) (h : Funded s)
    (hbacked : backed s a) : Funded (step s a) := by
  cases membershipStep s a with
  | one hstep => exact h.registryStep hmin hc hbacked hstep
  | slash key hv hs =>
    have hloop : Coherent (slashRoundSubmitters s key) ∧ Funded (slashRoundSubmitters s key) :=
      slashRoundSubmitters_invariant (I := fun s => Coherent s ∧ Funded s) ⟨hc, h⟩ fun s who hs =>
        ⟨hs.1.registryStep (a := .blocks 0) slashSubmitter_registryStep,
          hs.2.registryStep hmin hs.1 (a := .blocks 0) rfl slashSubmitter_registryStep⟩
    exact hloop.2.of_same hv hs

/-- The active set lists the accounts with an active record once each, in order. -/
theorem registry_coherent (hmin : 0 < E.config.minValidatorStake) (L : Ledger)
    (acts : List (Action A)) :
    Throughout step Coherent (genesis E L) acts ∧
      Along step (fun s a => KeepsOrder s (step s a)) (genesis E L) acts ∧
      (Along step (fun s a => backed s a) (genesis E L) acts →
        Throughout step Funded (genesis E L) acts) := by
  refine ⟨?_, ?_, fun h => ?_⟩
  · exact (Along.true _ acts).throughout (.genesis E L) fun s a hs _ => hs.step
  · exact (Along.true _ acts).along (.genesis E L) (fun s a hs _ => hs.step)
      fun s a hs _ => keepsOrder_step hs a
  · have hboth : Throughout step (fun s => Coherent s ∧ Funded s) (genesis E L) acts :=
      h.throughout ⟨.genesis E L, nofun⟩ fun s a hs ha => ⟨hs.1.step, hs.2.step hmin hs.1 ha⟩
    exact hboth.mono fun s hs => hs.2

def reinstatedRun : List (Action Nat) :=
  [.call (.signed 1) (.registerValidator 1000), .call (.signed 2) (.registerValidator 1000),
    .call .root (.suspend 2), .call (.signed 3) (.registerValidator 1000),
    .call .root (.reinstate 2)]

theorem registry_coherent_reinstated :
    activeSet (run step devGenesis reinstatedRun) = [1, 3, 2] ∧
      Throughout step Coherent devGenesis reinstatedRun ∧
      Along step (fun s a => KeepsOrder s (step s a)) devGenesis reinstatedRun ∧
      Throughout step Funded devGenesis reinstatedRun :=
  have h := registry_coherent (E := Env.runtime Host.constant) (by decide)
    ⟨fun _ => 10 ^ 12, fun _ => 0⟩ reinstatedRun
  ⟨by decide +kernel, h.1, h.2.1, h.2.2 (by decide +kernel)⟩

def overturned (round : Nat) : List (Action Nat) :=
  [1, 2, 3].map (fun v => .call (.signed v) (.submitEvidence 9 round .availability 4000 1
      (List.Vector.replicate 32 (UInt8.ofNat v)))) ++
    [.call (.signed 1) (.closeRound 9 round .availability),
      .call (.signed 9) (.disputeRound 9 round .availability),
      .call .root (.resolveRoundDispute 9 round .availability true)]

def strippedRun : List (Action Nat) :=
  .call (.signed 9) (.registerProvider (List.Vector.replicate 32 9)) ::
    [1, 2, 3].map (fun v => .call (.signed v) (.registerValidator 1000)) ++
    (List.range 10).flatMap overturned

theorem reinstated_without_stake :
    let s := run step devGenesis strippedRun
    let t := step s (.call .root (.reinstate 2))
    activeSet s = [1, 3] ∧ s.validator.validators 2 = some ⟨.suspended, 0, 0⟩ ∧
      activeSet t = [1, 3, 2] ∧ t.validator.validators 2 = some ⟨.active, 0, 0⟩ ∧
      isAssigned t 9 10 2 := by
  decide +kernel

end OpenInfra.NetworkValidator
