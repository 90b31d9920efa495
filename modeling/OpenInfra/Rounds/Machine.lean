import OpenInfra.Chain.Footprint

namespace OpenInfra.NetworkValidator
open Frame Function List

variable {A Ledger : Type} [LinearOrder A] {E : Env A Ledger}
  {s t u : Chain E} {a : Action A} {key : RoundKey A}

structure SameRounds (s t : Chain E) : Prop where
  evidence : t.validator.evidence = s.validator.evidence
  rounds : t.validator.rounds = s.validator.rounds
  roundSubmitters : t.validator.roundSubmitters = s.validator.roundSubmitters

theorem SameRounds.refl (s : Chain E) : SameRounds s s := ⟨rfl, rfl, rfl⟩

theorem SameRounds.trans (h : SameRounds s t) (h' : SameRounds t u) : SameRounds s u :=
  ⟨h'.evidence.trans h.evidence, h'.rounds.trans h.rounds,
    h'.roundSubmitters.trans h.roundSubmitters⟩

theorem SameRounds.of_validator (h : t.validator = s.validator) : SameRounds s t := by
  constructor <;> rw [h]

def concernsRound : RuntimeEvent A → Bool
  | .networkValidator (.roundClosed ..) | .networkValidator (.validatorSlashed ..) => true
  | _ => false

/-- It leaves the rounds, closes none and slashes nobody. -/
structure Aside (s t : Chain E) : Prop extends SameRounds s t where
  events : ∃ es, t.events = es ++ s.events ∧ ∀ e ∈ es, concernsRound e = false

theorem Aside.refl (s : Chain E) : Aside s s := ⟨.refl s, [], rfl, forall_mem_nil _⟩

theorem Aside.deposit {e : RuntimeEvent A} (h : Aside s t) (hsame : SameRounds t u)
    (hevents : u.events = e :: t.events) (he : concernsRound e = false) : Aside s u := by
  obtain ⟨es, hes, hall⟩ := h.events
  refine ⟨h.toSameRounds.trans hsame, e :: es, ?_, forall_mem_cons.2 ⟨he, hall⟩⟩
  rw [hevents, hes, cons_append]

def closedResult (s : Chain E) (key : RoundKey A) : RoundResult where
  scoreBps := (trimmed (s.validator.evidence key).toList).2
  previousScoreBps := ScoringReputationUpdater.dimensionScore s key.provider key.dimension
  submissions := (s.validator.evidence key).toList.length
  committeeTarget := E.config.validatorTargetCommitteeSize
  closedAt := s.blockNumber
  status := .final

def disputeDeadline (E : Env A Ledger) (result : RoundResult) : Nat :=
  saturatingAdd 32 result.closedAt E.config.validatorDisputeWindow

/-- All that a step can do to one round. -/
inductive RoundStep (s : Chain E) (a : Action A) (t : Chain E)
    (key : RoundKey A) : Prop where
  | quiet (hevidence : t.validator.evidence key = s.validator.evidence key)
      (hround : t.validator.rounds key = s.validator.rounds key)
      (hsubmitters : t.validator.roundSubmitters key = s.validator.roundSubmitters key)
  | submit (entry : Submission A)
      (ha : a = .call (.signed entry.validator) (.submitEvidence key.provider key.round
        key.dimension entry.scoreBps entry.sampleCount entry.payloadHash))
      (hactive : isActive s entry.validator)
      (hassigned : isAssigned s key.provider key.round entry.validator)
      (hopen : s.validator.rounds key = none)
      (hfresh : ∀ e ∈ (s.validator.evidence key).toList, e.validator ≠ entry.validator)
      (hevidence : (t.validator.evidence key).toList =
        (s.validator.evidence key).toList ++ [entry])
      (hround : t.validator.rounds key = s.validator.rounds key)
      (hsubmitters : t.validator.roundSubmitters key = s.validator.roundSubmitters key)
  | close (who : A)
      (ha : a = .call (.signed who) (.closeRound key.provider key.round key.dimension))
      (hopen : s.validator.rounds key = none)
      (hquorum : E.config.validatorMinQuorum ≤ (s.validator.evidence key).toList.length)
      (hevidence : t.validator.evidence key = .empty)
      (hround : t.validator.rounds key = some (closedResult s key))
      (hsubmitters : t.validator.roundSubmitters key =
        .truncateFrom ((trimmed (s.validator.evidence key).toList).1.map (·.validator)))
  | dispute (who : A) (result : RoundResult)
      (ha : a = .call (.signed who) (.disputeRound key.provider key.round key.dimension))
      (hresult : s.validator.rounds key = some result) (hfinal : result.status = .final)
      (hwindow : s.blockNumber ≤ disputeDeadline E result)
      (hevidence : t.validator.evidence key = s.validator.evidence key)
      (hround : t.validator.rounds key = some { result with status := .disputed })
      (hsubmitters : t.validator.roundSubmitters key = s.validator.roundSubmitters key)
  | resolve (uphold : Bool) (result : RoundResult)
      (ha : a = .call .root
        (.resolveRoundDispute key.provider key.round key.dimension uphold))
      (hresult : s.validator.rounds key = some result) (hdisputed : result.status = .disputed)
      (hevidence : t.validator.evidence key = s.validator.evidence key)
      (hround : t.validator.rounds key =
        some { result with status := if uphold then .disputeUpheld else .disputeRejected })
      (hsubmitters : t.validator.roundSubmitters key = s.validator.roundSubmitters key)

theorem SameRounds.roundStep (h : SameRounds s t) (key : RoundKey A) :
    RoundStep s a t key :=
  .quiet (congrFun h.evidence key) (congrFun h.rounds key) (congrFun h.roundSubmitters key)

theorem joinActiveSet_aside : Yields (joinActiveSet s who) (Aside s) := by
  unfold joinActiveSet
  split
  · exact .ok (.refl s)
  · exact .bind fun _ _ => .ok ⟨⟨rfl, rfl, rfl⟩, [], rfl, forall_mem_nil _⟩

theorem registerValidator_aside : Yields (registerValidator s o stake) (Aside s) := by
  unfold registerValidator
  iterate 5 refine .bind fun _ _ => ?_
  refine .bind fun t ht => .bind fun _ _ => .ok ?_
  exact (joinActiveSet_aside t ht).deposit ⟨rfl, rfl, rfl⟩ rfl rfl

theorem requestExit_aside : Yields (requestExit s o) (Aside s) := by
  unfold requestExit
  repeat refine .bind fun _ _ => ?_
  exact .ok ((Aside.refl s).deposit ⟨rfl, rfl, rfl⟩ rfl rfl)

theorem withdrawUnbonded_aside : Yields (withdrawUnbonded s o) (Aside s) := by
  unfold withdrawUnbonded
  repeat refine .bind fun _ _ => ?_
  exact .ok ((Aside.refl s).deposit ⟨rfl, rfl, rfl⟩ rfl rfl)

theorem suspend_aside : Yields (suspend s o validator) (Aside s) := by
  unfold suspend
  repeat refine .bind fun _ _ => ?_
  exact .ok ((Aside.refl s).deposit ⟨rfl, rfl, rfl⟩ rfl rfl)

theorem reinstate_aside : Yields (reinstate s o validator) (Aside s) := by
  unfold reinstate
  iterate 3 refine .bind fun _ _ => ?_
  refine .bind fun t ht => .ok ?_
  have h := joinActiveSet_aside t ht
  have h : Aside s t := ⟨⟨h.evidence, h.rounds, h.roundSubmitters⟩, h.events⟩
  exact h.deposit ⟨rfl, rfl, rfl⟩ rfl rfl

def isMembership : Call A → Bool
  | .registerValidator .. | .requestExit | .withdrawStake | .suspend .. | .reinstate .. => true
  | _ => false

theorem dispatch_aside {c : Call A} (hc : isMembership c) : Yields (dispatch s o c) (Aside s) := by
  cases c with
  | registerValidator => exact registerValidator_aside
  | requestExit => exact requestExit_aside
  | withdrawStake => exact withdrawUnbonded_aside
  | suspend => exact suspend_aside
  | reinstate => exact reinstate_aside
  | _ => cases hc

theorem slashSubmitter_sameRounds : SameRounds s (slashSubmitter key s validator) := by
  unfold slashSubmitter
  split
  · exact .refl s
  dsimp only
  split
  · exact ⟨rfl, rfl, rfl⟩
  split <;> exact ⟨rfl, rfl, rfl⟩

theorem slashAll_sameRounds (validators : List A) :
    SameRounds s (validators.foldl (slashSubmitter key) s) := by
  induction validators generalizing s with
  | nil => exact .refl s
  | cons validator rest ih => exact slashSubmitter_sameRounds.trans ih

section
variable {round : Nat}

theorem submitEvidence_roundStep :
    Yields (submitEvidence s o provider round dimension scoreBps sampleCount payloadHash)
      fun t => ∀ k, RoundStep s (.call o
        (.submitEvidence provider round dimension scoreBps sampleCount payloadHash)) t k := by
  unfold submitEvidence
  refine .bind fun validator ho => .bind fun _ hactive => .bind fun _ _ => .bind fun _ hassigned =>
    .bind fun _ _ => .bind fun _ _ => .bind fun _ hopen => .bind fun _ hfresh => .bind fun _ _ =>
    .bind fun submissions hpush => .ok fun k => ?_
  simp only [ensureSigned_eq_ok, ensure_eq_ok] at ho hactive hassigned hopen hfresh
  simp only [okOr_eq_ok, BoundedVec.tryPush_eq_some] at hpush
  subst ho
  by_cases hk : k = ⟨provider, round, dimension⟩
  · subst hk
    have he : (putEvidence s ⟨provider, round, dimension⟩ submissions).validator.evidence
        ⟨provider, round, dimension⟩ = submissions := update_self ..
    refine .submit ⟨validator, scoreBps, sampleCount, payloadHash⟩ rfl hactive hassigned hopen ?_
      ((congrArg BoundedVec.toList he).trans hpush.2) rfl rfl
    intro e he heq
    exact hfresh (any_eq_true.2 ⟨e, he, decide_eq_true heq⟩)
  · exact .quiet (update_of_ne hk ..) rfl rfl

theorem closeRound_roundStep :
    Yields (closeRound s o provider round dimension)
      fun t => ∀ k, RoundStep s (.call o (.closeRound provider round dimension)) t k := by
  unfold closeRound
  refine .bind fun caller ho => .bind fun _ _ => .bind fun _ hopen => .bind fun _ hquorum =>
    .bind fun t ht => .bind fun u hu => .ok fun k => ?_
  simp only [ensureSigned_eq_ok, ensure_eq_ok] at ho hopen hquorum
  subst ho
  have hv := accrueAll_validator ht hu
  have he := congrFun (congrArg (·.evidence) hv) k
  have hr := congrFun (congrArg (·.rounds) hv) k
  have hs := congrFun (congrArg (·.roundSubmitters) hv) k
  by_cases hk : k = ⟨provider, round, dimension⟩
  · subst hk
    exact .close caller rfl hopen hquorum (he.trans (update_self ..))
      (hr.trans (update_self ..)) (hs.trans (update_self ..))
  · exact .quiet (he.trans (update_of_ne hk ..)) (hr.trans (update_of_ne hk ..))
      (hs.trans (update_of_ne hk ..))

theorem disputeRound_roundStep :
    Yields (disputeRound s o provider round dimension)
      fun t => ∀ k, RoundStep s (.call o (.disputeRound provider round dimension)) t k := by
  unfold disputeRound
  refine .bind fun who ho => .bind fun result hresult => .bind fun _ hfinal =>
    .bind fun _ hwindow => .bind fun _ _ => .bind fun t ht => .ok fun k => ?_
  simp only [ensureSigned_eq_ok, okOr_eq_ok, ensure_eq_ok] at ho hresult hfinal hwindow
  subst ho
  have hv := Reputation.setDimensionScore_validator ht
  have he := congrFun (congrArg (·.evidence) hv) k
  have hs := congrFun (congrArg (·.roundSubmitters) hv) k
  by_cases hk : k = ⟨provider, round, dimension⟩
  · subst hk
    exact .dispute who result rfl hresult hfinal hwindow he (update_self ..) hs
  · exact .quiet he ((update_of_ne hk ..).trans (congrFun (congrArg (·.rounds) hv) k)) hs

theorem resolveDispute_roundStep :
    Yields (resolveDispute s o provider round dimension uphold)
      fun t => ∀ k, RoundStep s
        (.call o (.resolveRoundDispute provider round dimension uphold)) t k := by
  unfold resolveDispute
  refine .bind fun _ ho => .bind fun result hresult => .bind fun _ hdisputed => ?_
  simp only [ensureRoot_eq_ok, okOr_eq_ok, ensure_eq_ok] at ho hresult hdisputed
  subst ho
  have hput {t : Chain E} (h : SameRounds s t) (e : RuntimeEvent A)
      (k : RoundKey A) :
      RoundStep s (.call .root (.resolveRoundDispute provider round dimension uphold))
        ((putRound t ⟨provider, round, dimension⟩ { result with
          status := if uphold then .disputeUpheld else .disputeRejected }).depositEvent e) k := by
    by_cases hk : k = ⟨provider, round, dimension⟩
    · subst hk
      exact .resolve uphold result rfl hresult hdisputed (congrFun h.evidence _)
        (update_self ..) (congrFun h.roundSubmitters _)
    · exact .quiet (congrFun h.evidence k)
        ((update_of_ne hk ..).trans (congrFun h.rounds k)) (congrFun h.roundSubmitters k)
  cases uphold with
  | true => exact .ok (hput (slashAll_sameRounds _) _)
  | false =>
    refine .bind fun t ht => .ok (hput (.of_validator ?_) _)
    exact Reputation.setDimensionScore_validator ht

end

theorem dispatch_roundStep (c : Call A) :
    Yields (dispatch s o c) fun t => ∀ k, RoundStep s (.call o c) t k := by
  by_cases hw : Pallet.validator ∈ c.writes
  · cases c with
    | registerValidator | requestExit | withdrawStake | suspend | reinstate =>
      exact fun t ht => (dispatch_aside rfl t ht).roundStep
    | submitEvidence => exact submitEvidence_roundStep
    | closeRound => exact closeRound_roundStep
    | disputeRound => exact disputeRound_roundStep
    | resolveRoundDispute => exact resolveDispute_roundStep
    | _ => simp [Call.writes] at hw
  · intro t ht
    exact (SameRounds.of_validator ((dispatch_writes c t ht).same _ hw)).roundStep

theorem roundStep (s : Chain E) (a : Action A) (key : RoundKey A) :
    RoundStep s a (step s a) key := by
  cases a with
  | call o c => exact (dispatch_roundStep c).commit (SameRounds.refl s).roundStep key
  | blocks count => exact .quiet rfl rfl rfl

def DistinctSubmissions (s : Chain E) : Prop :=
  ∀ key, ((s.validator.evidence key).toList.map (·.validator)).Nodup

theorem DistinctSubmissions.step (h : DistinctSubmissions s)
    (hstep : ∀ key, RoundStep s a t key) : DistinctSubmissions t := by
  intro key
  cases hstep key with
  | quiet he => rw [he]; exact h key
  | dispute _ _ _ _ _ _ he => rw [he]; exact h key
  | resolve _ _ _ _ _ he => rw [he]; exact h key
  | close _ _ _ _ he => rw [he]; exact nodup_nil
  | submit entry _ _ _ _ hfresh he =>
    rw [he, map_append]
    refine (h key).append (nodup_singleton _) ?_
    simp only [map_cons, map_nil, disjoint_singleton, mem_map, not_exists,
      not_and]
    exact hfresh

end OpenInfra.NetworkValidator
