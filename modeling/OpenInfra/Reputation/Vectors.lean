import OpenInfra.Chain.Footprint

namespace OpenInfra.Reputation
open Frame Function

variable {A Ledger : Type} [LinearOrder A] {E : Env A Ledger}
  {s t u : Chain E} {a : Action A} {p : A} {v : ReputationVector} {round : Nat}

def legacyScore (s : Chain E) (p : A) : Nat :=
  (s.reputation.reputationScores p).getD E.config.defaultReputation

/-- All that a step can do to the vectors and the legacy scores. -/
inductive ReputationStep (s t : Chain E) : Prop where
  | quiet (h : t.reputation = s.reputation)
  | wrote (p : A) (v : ReputationVector)
      (hvector : t.reputation.reputationVectors =
        Function.update s.reputation.reputationVectors p (some v))
      (hglobal : v.global = global v)
      (hbound : ∀ d, v.get d ≤ E.config.maxReputation ∨ v.get d ≤ legacyScore s p ∨
        v.get d = (vectorOf s p).get d)
      (hlegacy : legacyScore t = Function.update (legacyScore s) p v.availability ∨
        legacyScore t = legacyScore s ∧ v.availability = (vectorOf s p).availability)

theorem legacyScore_of_scores (h : t.reputation.reputationScores =
    update s.reputation.reputationScores p (some score)) :
    legacyScore t = update (legacyScore s) p score := by
  funext q
  rw [legacyScore, h]
  exact apply_update (fun _ => (Option.getD · E.config.defaultReputation))
    s.reputation.reputationScores p (some score) q

def ReputationVector.rate (v : ReputationVector) (score : Nat) (d : VectorDimension) :
    ReputationVector :=
  { v.set score d with global := Reputation.global (v.set score d) }

theorem ReputationStep.availability
    (hvector : t.reputation.reputationVectors = update s.reputation.reputationVectors p
      (some ((vectorOf s p).rate score .availability))) (hscore : t.reputation.reputationScores =
      update s.reputation.reputationScores p (some score))
    (hbound : score ≤ E.config.maxReputation ∨ score ≤ legacyScore s p) : ReputationStep s t := by
  refine .wrote p _ hvector rfl (fun d => ?_) (.inl (legacyScore_of_scores hscore))
  cases d with
  | availability => exact hbound.imp_right .inl
  | _ => exact .inr (.inr rfl)

theorem submitScore_reputationStep :
    Yields (submitScore s o provider delta) (ReputationStep s) := by
  unfold submitScore
  refine .bind fun _ _ => .bind fun _ _ => .bind fun _ _ => .bind fun _ _ => .ok ?_
  refine .availability rfl rfl ?_
  split
  · exact .inl (Nat.min_le_right _ _)
  · exact .inr (Nat.sub_le _ _)

theorem updateVector_reputationStep :
    Yields (updateVector s o provider compute storage network availability reliability)
      (ReputationStep s) := by
  unfold updateVector
  refine .bind fun _ _ => .bind fun _ _ => .bind fun _ hvalues => .ok ?_
  rw [forM_eq_ok] at hvalues
  simp only [List.mem_cons, List.not_mem_nil, or_false, forall_eq_or_imp, forall_eq,
    ensure_eq_ok] at hvalues
  obtain ⟨hcompute, hstorage, hnetwork, havailability, hreliability⟩ := hvalues
  refine .wrote provider _ rfl rfl (fun d => .inl ?_) (.inl (legacyScore_of_scores rfl))
  cases d with
  | compute => exact hcompute
  | storage => exact hstorage
  | network => exact hnetwork
  | availability => exact havailability
  | reliability => exact hreliability

theorem scaled_le (hbps : bps ≤ 10000)
    (h : okOr (checkedMul 32 bps E.config.maxReputation) e = .ok scaled) :
    scaled / 10000 ≤ E.config.maxReputation := by
  rw [okOr_eq_ok, checkedMul_eq_some] at h
  obtain ⟨_, rfl⟩ := h
  exact Nat.div_le_of_le_mul (Nat.mul_le_mul_right _ hbps)

theorem recordAvailability_reputationStep :
    Yields (recordAvailability s o provider availabilityBps sampleCount) (ReputationStep s) := by
  unfold recordAvailability
  refine .bind fun _ _ => .bind fun _ _ => .bind fun _ hbps => .bind fun _ _ =>
    .bind fun scaled hscaled => .ok ?_
  rw [ensure_eq_ok] at hbps
  exact .availability rfl rfl (.inl (scaled_le hbps hscaled))

@[simp] theorem get_rate (v : ReputationVector) (score : Nat) (d : VectorDimension) :
    (v.rate score d).get d = score := by
  cases d <;> rfl

theorem get_rate_of_ne (v : ReputationVector) (score : Nat)
    (h : d ≠ e) : (v.rate score e).get d = v.get d := by
  cases e <;> cases d <;> first | rfl | exact absurd rfl h

theorem global_rate (v : ReputationVector) (score : Nat) (d : VectorDimension) :
    (v.rate score d).global = global (v.rate score d) := rfl

theorem setDimensionScore_reputationStep :
    Yields (setDimensionScore s provider dimension scoreBps) (ReputationStep s) := by
  unfold setDimensionScore
  refine .bind fun _ _ => .bind fun _ hbps => .bind fun scaled hscaled => .ok ?_
  rw [ensure_eq_ok] at hbps
  have hscore := scaled_le hbps hscaled
  by_cases hd : dimension = .availability
  · subst hd
    exact .availability rfl rfl (.inl hscore)
  · rw [if_neg hd]
    refine .wrote provider ((vectorOf s provider).rate (scaled / 10000) dimension) rfl
      (global_rate ..) (fun d => ?_) (.inr ⟨rfl, get_rate_of_ne _ _ (Ne.symm hd)⟩)
    by_cases hdim : d = dimension
    · rw [hdim, get_rate]
      exact .inl hscore
    · exact .inr (.inr (get_rate_of_ne _ _ hdim))

theorem ReputationStep.congr (h : ReputationStep s t) (hs : s.reputation = u.reputation)
    (ht : w.reputation = t.reputation) : ReputationStep u w := by
  have hlegacy : legacyScore s = legacyScore u := by
    funext q
    rw [legacyScore, hs, legacyScore]
  have hlegacy' : legacyScore w = legacyScore t := by
    funext q
    rw [legacyScore, ht, legacyScore]
  cases h with
  | quiet h => exact .quiet (ht.trans (h.trans hs))
  | wrote p v hvector hglobal hbound hupdate =>
    have hv : vectorOf s p = vectorOf u p := by rw [vectorOf, hs, vectorOf]
    rw [← ht, hs] at hvector
    rw [hlegacy, hv] at hbound
    rw [← hlegacy', hlegacy, hv] at hupdate
    exact .wrote p v hvector hglobal hbound hupdate

theorem closeRound_reputationStep :
    Yields (NetworkValidator.closeRound s o provider round dimension) (ReputationStep s) := by
  unfold NetworkValidator.closeRound
  refine .bind fun _ _ => .bind fun _ _ => .bind fun _ _ => .bind fun _ _ => .bind fun t ht =>
    .bind fun u hu => .ok ?_
  exact (setDimensionScore_reputationStep t ht).congr rfl
    ((NetworkValidator.accrueAll_writes _ u hu).same .reputation (by decide))

theorem disputeRound_reputationStep :
    Yields (NetworkValidator.disputeRound s o provider round dimension) (ReputationStep s) := by
  unfold NetworkValidator.disputeRound
  iterate 5 refine .bind fun _ _ => ?_
  refine .bind fun t ht => .ok ?_
  exact (setDimensionScore_reputationStep t ht).congr rfl rfl

theorem resolveRoundDispute_reputationStep :
    Yields (NetworkValidator.resolveDispute s o provider round dimension uphold)
      (ReputationStep s) := by
  unfold NetworkValidator.resolveDispute
  refine .bind fun _ _ => .bind fun _ _ => .bind fun _ _ => ?_
  cases uphold with
  | true => exact .ok (.quiet ((NetworkValidator.slashAll_writes _).same .reputation (by decide)))
  | false =>
    exact .bind fun t ht => .ok ((setDimensionScore_reputationStep t ht).congr rfl rfl)

theorem resolveEscrowDispute_reputationStep :
    Yields (Escrow.resolveDispute s o leaseId outcome) (ReputationStep s) := by
  unfold Escrow.resolveDispute
  refine .bind fun _ _ => .bind fun _ _ => .bind fun escrow _ => .bind fun _ _ =>
    .bind fun (t, r) ht => .ok ?_
  have hstep : ReputationStep s t := by
    cases outcome with
    | payProvider amount =>
      exact .quiet ((Escrow.payProvider_writes _ ht).same .reputation (by decide))
    | refundPayer =>
      obtain ⟨u, hu, hrest⟩ := bind_eq_ok.1 ht
      have hpenalty := setDimensionScore_reputationStep u hu
      split at hrest
      · cases hrest
        exact hpenalty
      · cases hrest
        exact hpenalty.congr rfl rfl
  exact hstep.congr rfl (Escrow.recordResolution_writes.same .reputation (by decide))

theorem dispatch_reputationStep (c : Call A) :
    Yields (dispatch s o c) (ReputationStep s) := by
  by_cases hw : Pallet.reputation ∈ c.writes
  · cases c with
    | submitScore => exact submitScore_reputationStep
    | updateVector => exact updateVector_reputationStep
    | recordAvailability => exact recordAvailability_reputationStep
    | closeRound => exact closeRound_reputationStep
    | disputeRound => exact disputeRound_reputationStep
    | resolveRoundDispute => exact resolveRoundDispute_reputationStep
    | resolveEscrowDispute => exact resolveEscrowDispute_reputationStep
    | _ => simp [Call.writes] at hw
  · intro t ht
    exact .quiet ((dispatch_writes c t ht).same _ hw)

theorem reputationStep (s : Chain E) (a : Action A) : ReputationStep s (step s a) := by
  cases a with
  | call o c => exact (dispatch_reputationStep c).commit (.quiet rfl)
  | blocks count => exact .quiet rfl

def Agrees (s : Chain E) : Prop := ∀ p, legacyScore s p = (vectorOf s p).availability

theorem vectorOf_update (h : t.reputation.reputationVectors =
    update s.reputation.reputationVectors p (some v)) (q : A) :
    vectorOf t q = if q = p then v else vectorOf s q := by
  rw [vectorOf, h]
  split
  · rename_i hq
    rw [hq, update_self, Option.getD_some]
  · rename_i hq
    rw [update_of_ne hq, vectorOf]

theorem Agrees.step (h : Agrees s) (a : Action A) : Agrees (step s a) := by
  cases reputationStep s a with
  | quiet hsame =>
    intro q
    rw [legacyScore, hsame, vectorOf, hsame]
    exact h q
  | wrote p v hvector _ _ hlegacy =>
    intro q
    rw [vectorOf_update hvector]
    by_cases hq : q = p
    · subst hq
      rw [if_pos rfl]
      obtain hlegacy | ⟨hlegacy, hkept⟩ := hlegacy
      · rw [hlegacy, update_self]
      · rw [hlegacy, hkept, h q]
    · rw [if_neg hq, ← h q]
      obtain hlegacy | ⟨hlegacy, _⟩ := hlegacy
      · rw [hlegacy, update_of_ne hq]
      · rw [hlegacy]

theorem agrees_run (L : Ledger) (acts : List (Action A)) :
    Agrees (run step (genesis E L) acts) :=
  run_invariant (fun _ => rfl) (fun _ a hs => hs.step a) acts

structure WellFormed (E : Env A Ledger) (v : ReputationVector) : Prop where
  bounded : ∀ d, v.get d ≤ E.config.maxReputation
  global : v.global =
    (v.compute + v.storage + v.network + v.availability + v.reliability) / 5

theorem global_eq (hmax : E.config.maxReputation ≤ 429496)
    (h : ∀ d, v.get d ≤ E.config.maxReputation) : global v =
      (v.compute + v.storage + v.network + v.availability + v.reliability) / 5 := by
  have hcompute : v.compute ≤ _ := h .compute
  have hstorage : v.storage ≤ _ := h .storage
  have hnetwork : v.network ≤ _ := h .network
  have havailability : v.availability ≤ _ := h .availability
  have hreliability : v.reliability ≤ _ := h .reliability
  have hwidth : 5 * 429496 ≤ maxValue 32 := by decide
  have h₂ : saturatingAdd 32 v.compute v.storage = v.compute + v.storage :=
    saturatingAdd_of_le (by omega)
  have h₃ : saturatingAdd 32 (v.compute + v.storage) v.network = _ :=
    saturatingAdd_of_le (by omega)
  have h₄ : saturatingAdd 32 (v.compute + v.storage + v.network) v.availability = _ :=
    saturatingAdd_of_le (by omega)
  rw [Reputation.global, globalValues, h₂, h₃, h₄, saturatingAdd_of_le (by omega)]

theorem wellFormed_default (hdefault : E.config.defaultReputation ≤ E.config.maxReputation) :
    WellFormed E (defaultVector E) := by
  refine ⟨fun d => by cases d <;> exact hdefault, ?_⟩
  rw [defaultVector]
  dsimp only
  omega

def VectorsWellFormed (s : Chain E) : Prop := ∀ p, WellFormed E (vectorOf s p)

theorem VectorsWellFormed.step (hmax : E.config.maxReputation ≤ 429496) (hs : Agrees s)
    (h : VectorsWellFormed s) (a : Action A) : VectorsWellFormed (step s a) := by
  cases reputationStep s a with
  | quiet hsame =>
    intro q
    rw [vectorOf, hsame]
    exact h q
  | wrote p v hvector hglobal hbound _ =>
    intro q
    rw [vectorOf_update hvector]
    by_cases hq : q = p
    · rw [if_pos hq]
      have hbounded : ∀ d, v.get d ≤ E.config.maxReputation := by
        intro d
        obtain hle | hle | heq := hbound d
        · exact hle
        · rw [hs p] at hle
          exact hle.trans ((h p).bounded .availability)
        · rw [heq]
          exact (h p).bounded d
      exact ⟨hbounded, hglobal.trans (global_eq hmax hbounded)⟩
    · rw [if_neg hq]
      exact h q

/-- Vectors stay within the bound, with their average as score. -/
theorem vectors_well_formed (hdefault : E.config.defaultReputation ≤ E.config.maxReputation)
    (hmax : E.config.maxReputation ≤ 429496) (L : Ledger) (acts : List (Action A))
    (provider : A) :
    let s := run step (genesis E L) acts
    (∀ v ∈ s.reputation.reputationVectors provider,
      (v.compute ≤ E.config.maxReputation ∧ v.storage ≤ E.config.maxReputation ∧
        v.network ≤ E.config.maxReputation ∧ v.availability ≤ E.config.maxReputation ∧
        v.reliability ≤ E.config.maxReputation) ∧
      v.global = (v.compute + v.storage + v.network + v.availability + v.reliability) / 5) ∧
    (s.reputation.reputationScores provider).getD E.config.defaultReputation =
      ((s.reputation.reputationVectors provider).getD (defaultVector E)).availability := by
  intro s
  have hboth : Agrees s ∧ VectorsWellFormed s :=
    run_invariant (I := fun s => Agrees s ∧ VectorsWellFormed s)
      ⟨fun _ => rfl, fun _ => wellFormed_default hdefault⟩
      (fun s a hs => ⟨hs.1.step a, hs.2.step hmax hs.1 a⟩) acts
  refine ⟨fun v hv => ?_, hboth.1 provider⟩
  have hwell : WellFormed E v := by
    have hread : vectorOf s provider = v := by rw [vectorOf, hv, Option.getD_some]
    exact hread ▸ hboth.2 provider
  exact ⟨⟨hwell.bounded .compute, hwell.bounded .storage, hwell.bounded .network,
    hwell.bounded .availability, hwell.bounded .reliability⟩, hwell.global⟩

def ratedRun : List (Action Nat) :=
  [.call (.signed 9) (.registerProvider (List.Vector.replicate 32 9)),
    .call (.signed 1) (.registerValidator 1000),
    .call (.signed 1) (.updateVector 9 900 800 700 600 500),
    .call (.signed 1) (.recordAvailability 9 9999 4),
    .call (.signed 1) (.submitScore 9 (-200))]

theorem vectors_well_formed_rated :
    let s := run step devGenesis ratedRun
    s.reputation.reputationVectors 9 = some ⟨900, 800, 700, 799, 500, 739⟩ ∧
      (s.reputation.reputationScores 9).getD 500 = (vectorOf s 9).availability :=
  have h := vectors_well_formed (E := Env.runtime Host.constant) (by decide) (by decide)
    ⟨fun _ => 10 ^ 12, fun _ => 0⟩ ratedRun 9
  ⟨by decide +kernel, h.2⟩

end OpenInfra.Reputation
