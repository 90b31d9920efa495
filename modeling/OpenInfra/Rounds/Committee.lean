import OpenInfra.Rounds.Machine

namespace OpenInfra.NetworkValidator
open Frame List

variable {A Ledger : Type} [LinearOrder A] {E : Env A Ledger}
  {s t : Chain E} {a : Action A}

theorem draw_length_le (seed : Nat → Nat) (wanted nth : Nat) (candidates : List A) :
    (draw seed wanted nth candidates).length ≤ wanted := by
  induction wanted generalizing nth candidates with
  | zero => exact Nat.le_refl 0
  | succ wanted ih =>
    rw [draw]
    split
    · exact Nat.succ_le_succ (ih _ _)
    · exact Nat.zero_le _

theorem draw_length (seed : Nat → Nat) (nth : Nat)
    (h : wanted ≤ candidates.length) : (draw seed wanted nth candidates).length = wanted := by
  induction wanted generalizing nth candidates with
  | zero => rfl
  | succ wanted ih =>
    have hindex : seed nth % candidates.length < candidates.length := Nat.mod_lt _ (by omega)
    have hleft : wanted ≤ (candidates.eraseIdx (seed nth % candidates.length)).length := by
      rw [length_eraseIdx_of_lt hindex]
      exact Nat.le_sub_one_of_lt h
    rw [draw, getElem?_eq_getElem hindex]
    exact congrArg Nat.succ (ih (nth + 1) hleft)

theorem draw_subperm (seed : Nat → Nat) (wanted nth : Nat) (candidates : List A) :
    (draw seed wanted nth candidates).Subperm candidates := by
  induction wanted generalizing nth candidates with
  | zero => exact nil_subperm
  | succ wanted ih =>
    rw [draw]
    split
    · rename_i member hmember
      obtain ⟨hindex, rfl⟩ := List.getElem?_eq_some_iff.1 hmember
      have hperm := getElem_cons_eraseIdx_perm hindex
      exact ((subperm_cons _).2 (ih _ _)).trans hperm.subperm
    · exact nil_subperm

def candidates (s : Chain E) (provider : A) : List A :=
  s.validator.activeValidatorSet.toList.filter (· ≠ provider)

theorem committee_length (s : Chain E) (provider : A) (round : Nat) :
    (committee s provider round).length =
      min E.config.validatorTargetCommitteeSize (candidates s provider).length :=
  draw_length _ _ (Nat.min_le_right _ _)

theorem committee_subperm (s : Chain E) (provider : A) (round : Nat) :
    (committee s provider round).Subperm (candidates s provider) := draw_subperm ..

theorem committee_nodup (h : s.validator.activeValidatorSet.toList.Nodup) (provider : A)
    (round : Nat) : (committee s provider round).Nodup := by
  obtain ⟨drawn, hperm, hsub⟩ := committee_subperm s provider round
  exact hperm.nodup_iff.1 ((h.filter _).sublist hsub)

theorem provider_notMem_committee (s : Chain E) (provider : A) (round : Nat) :
    provider ∉ committee s provider round := by
  intro hmem
  have hcandidate := (committee_subperm s provider round).subset hmem
  exact of_decide_eq_true (mem_filter.1 hcandidate).2 rfl

theorem committee_length_le (s : Chain E) (provider : A) (round : Nat) :
    (committee s provider round).length ≤ E.config.validatorTargetCommitteeSize :=
  (draw_length_le _ _ _ _).trans (Nat.min_le_left _ _)

/-- All earlier submitters still sit on the committee. -/
def committeeKept (s : Chain E) : Action A → Bool
  | .call o (.submitEvidence provider round dimension scoreBps sampleCount payloadHash) =>
    decide ((submitEvidence s o provider round dimension scoreBps sampleCount payloadHash).isOk →
      ∀ entry ∈ (s.validator.evidence ⟨provider, round, dimension⟩).toList,
        isAssigned s provider round entry.validator)
  | _ => true

structure CommitteeBound (s : Chain E) : Prop where
  distinct : DistinctSubmissions s
  evidence : ∀ key, (s.validator.evidence key).toList.length ≤
    E.config.validatorTargetCommitteeSize
  rounds : ∀ key, ∀ result ∈ s.validator.rounds key, result.submissions ≤ result.committeeTarget

theorem length_le_of_assigned (s : Chain E) (key : RoundKey A)
    {entries : List (Submission A)} (hd : (entries.map (·.validator)).Nodup)
    (ha : ∀ entry ∈ entries, isAssigned s key.provider key.round entry.validator) :
    entries.length ≤ E.config.validatorTargetCommitteeSize := by
  have hsub : entries.map (·.validator) ⊆ committee s key.provider key.round := by
    intro v hv
    obtain ⟨entry, he, rfl⟩ := mem_map.1 hv
    exact of_decide_eq_true (ha entry he)
  rw [← length_map (·.validator)]
  exact (hd.subperm hsub).length_le.trans (committee_length_le s key.provider key.round)

theorem CommitteeBound.call (h : CommitteeBound s) (hk : committeeKept s (.call o c)) :
    Yields (dispatch s o c) CommitteeBound := by
  intro t ht
  have hstep := dispatch_roundStep c t ht
  have hd := h.distinct.step hstep
  refine ⟨hd, fun key => ?_, fun key => ?_⟩
  · cases hstep key with
    | quiet he => rw [he]; exact h.evidence key
    | dispute _ _ _ _ _ _ he => rw [he]; exact h.evidence key
    | resolve _ _ _ _ _ he => rw [he]; exact h.evidence key
    | close _ _ _ _ he => rw [he]; exact Nat.zero_le _
    | submit entry ha _ hassigned _ _ he =>
      cases ha
      have hn := hd key
      have hok : (dispatch s _ _).isOk = true := congrArg Except.isOk ht
      rw [he] at hn ⊢
      refine length_le_of_assigned s key hn fun e hmem => ?_
      obtain hmem | hmem := mem_append.1 hmem
      · exact of_decide_eq_true hk hok e hmem
      · obtain rfl := mem_singleton.1 hmem
        exact hassigned
  · cases hstep key with
    | quiet _ hr => rw [hr]; exact h.rounds key
    | submit _ _ _ _ _ _ _ hr => rw [hr]; exact h.rounds key
    | close _ _ _ _ _ hr =>
      rw [hr]
      rintro _ ⟨⟩
      exact h.evidence key
    | dispute _ result _ hresult _ _ _ hr =>
      rw [hr]
      rintro _ ⟨⟩
      exact h.rounds key result hresult
    | resolve _ result _ hresult _ _ hr =>
      rw [hr]
      rintro _ ⟨⟩
      exact h.rounds key result hresult

theorem CommitteeBound.step (h : CommitteeBound s) (hk : committeeKept s a) :
    CommitteeBound (step s a) := by
  cases a with
  | call o c => exact (h.call hk).commit h
  | blocks count => exact ⟨h.distinct, h.evidence, h.rounds⟩

theorem CommitteeBound.genesis (E : Env A Ledger) (L : Ledger) :
    CommitteeBound (genesis E L) := ⟨fun _ => nodup_nil, fun _ => Nat.zero_le _, nofun⟩

theorem confidenceBps_le
    (h : view.submissions ≤ view.committeeTarget) :
    ProviderSlashing.confidenceBps view ≤ 10000 := by
  unfold ProviderSlashing.confidenceBps
  split
  · exact Nat.zero_le _
  · have hm : saturatingMul 64 view.submissions 10000 ≤ view.committeeTarget * 10000 :=
      (Nat.min_le_left _ _).trans (Nat.mul_le_mul_right _ h)
    exact Nat.div_le_of_le_mul hm

/-- While committees do not change, a round gets no more submissions than seats. -/
theorem submissions_le_committee {L : Ledger} {acts : List (Action A)}
    (h : Along step (fun s a => committeeKept s a) (genesis E L) acts) (key : RoundKey A) :
    ((run step (genesis E L) acts).validator.evidence key).toList.length ≤
        E.config.validatorTargetCommitteeSize ∧
      (∀ result ∈ (run step (genesis E L) acts).validator.rounds key,
        result.submissions ≤ result.committeeTarget) ∧
      ∀ dimension, ∀ view ∈ AvailabilityRoundOracle.round (run step (genesis E L) acts)
        key.provider key.round dimension, ProviderSlashing.confidenceBps view ≤ 10000 := by
  have hb : CommitteeBound (run step (genesis E L) acts) :=
    h.invariant (.genesis E L) fun s a hs hk => hs.step hk
  refine ⟨hb.evidence key, hb.rounds key, ?_⟩
  intro dimension view hview
  obtain ⟨result, hr, rfl⟩ := Option.map_eq_some_iff.1 hview
  exact confidenceBps_le (hb.rounds _ result hr)

def committeeRun : List (Action Nat) :=
  .call (.signed 9) (.registerProvider (List.Vector.replicate 32 9)) ::
    [1, 2, 3, 4, 5].map (fun v => .call (.signed v) (.registerValidator 1000)) ++
    [1, 2, 3, 4, 5].map fun v => .call (.signed v) (.submitEvidence 9 0 .availability 4000 1
      (List.Vector.replicate 32 (UInt8.ofNat v)))

theorem submissions_le_committee_five :
    ((run step devGenesis committeeRun).validator.evidence ⟨9, 0, .availability⟩).toList.length ≤
        5 ∧
      (∀ result ∈ (run step devGenesis committeeRun).validator.rounds ⟨9, 0, .availability⟩,
        result.submissions ≤ result.committeeTarget) ∧
      ∀ dimension, ∀ view ∈ AvailabilityRoundOracle.round (run step devGenesis committeeRun)
        9 0 dimension, ProviderSlashing.confidenceBps view ≤ 10000 :=
  submissions_le_committee (by decide) ⟨9, 0, .availability⟩

def crowdedRun : List (Action Nat) :=
  committeeRun ++
    [.call (.signed 1) .requestExit,
      .call (.signed 6) (.registerValidator 1000),
      .call (.signed 6) (.submitEvidence 9 0 .availability 4000 1 (List.Vector.replicate 32 6)),
      .call (.signed 2) (.closeRound 9 0 .availability)]

theorem crowded_round_exceeds_committee :
    ((run step devGenesis crowdedRun).validator.rounds ⟨9, 0, .availability⟩).map
        (fun result => (result.submissions, result.committeeTarget)) = some (6, 5) ∧
      (AvailabilityRoundOracle.round (run step devGenesis crowdedRun) 9 0 .availability).map
        ProviderSlashing.confidenceBps = some 12000 := by
  decide

end OpenInfra.NetworkValidator
