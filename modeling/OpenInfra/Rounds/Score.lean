import OpenInfra.Frame.Journal
import OpenInfra.Rounds.Machine

namespace OpenInfra.NetworkValidator
open Frame ScoringReputationUpdater Function

variable {A Ledger : Type} [LinearOrder A] {E : Env A Ledger}
  {s t : Chain E} {a : Action A} {key : RoundKey A}
  {x : A × ScoreDimension}

def readBps (E : Env A Ledger) (score : Nat) : Nat :=
  if E.config.maxReputation = 0 then 0
  else min (saturatingMul 64 score 10000 / E.config.maxReputation) 10000

def rounded (E : Env A Ledger) (scoreBps : Nat) : Nat :=
  readBps E (scoreBps * E.config.maxReputation / 10000)

theorem readBps_eq (hM : E.config.maxReputation * k = 10000) (score : Nat) :
    readBps E score = k * min score E.config.maxReputation := by
  have hpos : E.config.maxReputation ≠ 0 := by
    intro h0
    rw [h0, Nat.zero_mul] at hM
    cases hM
  have hle : E.config.maxReputation ≤ 10000 := Nat.le_of_dvd (by decide) ⟨k, hM.symm⟩
  have hmax : 10000 * 10000 ≤ maxValue 64 := by decide
  rw [readBps, if_neg hpos, saturatingMul]
  rcases le_or_gt score E.config.maxReputation with h | h
  · have hsmall : score * 10000 ≤ maxValue 64 := (Nat.mul_le_mul_right _ (h.trans hle)).trans hmax
    have hstep : score * 10000 / E.config.maxReputation = k * score := by
      have hmul : score * 10000 = E.config.maxReputation * (k * score) := by
        rw [← Nat.mul_assoc E.config.maxReputation k score, hM, Nat.mul_comm]
      rw [hmul, Nat.mul_div_cancel_left _ (Nat.pos_of_ne_zero hpos)]
    have hbound : k * score ≤ 10000 := by
      have := Nat.mul_le_mul_left k h
      rwa [Nat.mul_comm k E.config.maxReputation, hM] at this
    rw [min_eq_left hsmall, hstep, min_eq_left hbound, min_eq_left h]
  · have hfull : 10000 ≤ min (score * 10000) (maxValue 64) / E.config.maxReputation := by
      rw [Nat.le_div_iff_mul_le (Nat.pos_of_ne_zero hpos)]
      omega
    rw [min_eq_right hfull, min_eq_right h.le, Nat.mul_comm, hM]

theorem rounded_readBps (hM : E.config.maxReputation ∣ 10000) (score : Nat) :
    rounded E (readBps E score) = readBps E score := by
  obtain ⟨k, hk⟩ := hM
  have hk' := hk.symm
  have hsteps (m : Nat) : k * m * E.config.maxReputation / 10000 = m := by
    rw [Nat.mul_right_comm, Nat.mul_comm k, hk', Nat.mul_div_cancel_left _ (by decide)]
  rw [readBps_eq hk' score, rounded, hsteps, readBps_eq hk', min_assoc, min_self]

def scores (s : Chain E) (x : A × ScoreDimension) : Nat := dimensionScore s x.1 x.2

theorem scores_eq (s : Chain E) (x : A × ScoreDimension) :
    scores s x = readBps E ((Reputation.vectorOf s x.1).get (mapDimension x.2)) := rfl

theorem scores_of_reputation (h : t.reputation = s.reputation) : scores t = scores s := by
  funext x
  rw [scores_eq, scores_eq, Reputation.vectorOf, h, Reputation.vectorOf]

theorem scores_of_vectors
    (h : t.reputation.reputationVectors =
      update s.reputation.reputationVectors p (some v)) :
    scores t x = if x.1 = p then readBps E (v.get (mapDimension x.2)) else scores s x := by
  rw [scores_eq, Reputation.vectorOf, h]
  split
  · rename_i hx
    rw [hx, update_self, Option.getD_some]
  · rename_i hx
    rw [update_of_ne hx]
    rfl

theorem reputationVectors_putScore [Decidable c] (u : Chain E) (p : A)
    (score : Nat) : (if c then Reputation.putScore u p score else u).reputation.reputationVectors =
      u.reputation.reputationVectors := by
  split <;> rfl

theorem get_set (v : Reputation.ReputationVector) (score global : Nat) (d e : ScoreDimension) :
    ({ v.set score (mapDimension e) with global } : Reputation.ReputationVector).get
      (mapDimension d) = if d = e then score else v.get (mapDimension d) := by
  cases e <;> cases d <;> rfl

variable {scoreBps : Nat}

theorem recordDimensionScore_scores :
    Yields (recordDimensionScore s p d scoreBps) fun t =>
      scores t = update (scores s) (p, d) (rounded E scoreBps) := by
  unfold recordDimensionScore Reputation.setDimensionScore
  refine .bind fun _ _ => .bind fun _ _ => .bind fun scaled hscaled => .ok ?_
  simp only [okOr_eq_ok, checkedMul_eq_some] at hscaled
  obtain ⟨_, rfl⟩ := hscaled
  funext x
  refine (scores_of_vectors (reputationVectors_putScore _ p _)).trans ?_
  rw [get_set]
  by_cases hx : x = (p, d)
  · subst hx
    rw [update_self, if_pos rfl, if_pos rfl, rounded]
  · rw [update_of_ne hx]
    split
    · rename_i hp
      rw [if_neg fun hd => hx (Prod.ext hp hd), scores_eq, hp]
    · rfl

def closing : RuntimeEvent A → Option (RoundKey A)
  | .networkValidator (.roundClosed key _ _ _ _) => some key
  | _ => none

def closings (s : Chain E) : List (RoundKey A) := s.events.filterMap closing

def isScoring : Action A → Bool
  | .call _ (.closeRound ..) | .call _ (.disputeRound ..)
  | .call _ (.resolveRoundDispute ..) => true
  | _ => false

def RoundKey.subject (key : RoundKey A) : A × ScoreDimension :=
  (key.provider, key.dimension)

/-- All a step can do to closed rounds and scores. -/
inductive ScoreStep (s : Chain E) (a : Action A) (t : Chain E) : Prop where
  | quiet (hrounds : t.validator.rounds = s.validator.rounds) (hclosings : closings t = closings s)
      (hscores : isScoring a → scores t = scores s)
  | close (key : RoundKey A) (hopen : s.validator.rounds key = none)
      (hrounds : t.validator.rounds =
        Function.update s.validator.rounds key (some (closedResult s key)))
      (hclosings : closings t = key :: closings s)
      (hscores : scores t =
        Function.update (scores s) key.subject (rounded E (closedResult s key).scoreBps))
  | dispute (o : Origin A) (key : RoundKey A) (result : RoundResult)
      (ha : a = .call o (.disputeRound key.provider key.round key.dimension))
      (hok : (disputeRound s o key.provider key.round key.dimension).isOk)
      (hresult : s.validator.rounds key = some result) (hfinal : result.status = .final)
      (hrounds : t.validator.rounds =
        Function.update s.validator.rounds key (some { result with status := .disputed }))
      (hclosings : closings t = closings s)
      (hscores : scores t =
        Function.update (scores s) key.subject (rounded E result.previousScoreBps))
  | uphold (key : RoundKey A) (result : RoundResult)
      (hresult : s.validator.rounds key = some result) (hdisputed : result.status = .disputed)
      (hrounds : t.validator.rounds =
        Function.update s.validator.rounds key (some { result with status := .disputeUpheld }))
      (hclosings : closings t = closings s) (hscores : scores t = scores s)
  | reject (o : Origin A) (key : RoundKey A) (result : RoundResult)
      (ha : a = .call o (.resolveRoundDispute key.provider key.round key.dimension false))
      (hok : (resolveDispute s o key.provider key.round key.dimension false).isOk)
      (hresult : s.validator.rounds key = some result) (hdisputed : result.status = .disputed)
      (hrounds : t.validator.rounds =
        Function.update s.validator.rounds key (some { result with status := .disputeRejected }))
      (hclosings : closings t = closings s)
      (hscores : scores t =
        Function.update (scores s) key.subject (rounded E result.scoreBps))

theorem closings_append (he : t.events = es ++ s.events) (hes : ∀ e ∈ es, closing e = none) :
    closings t = closings s := by
  rw [closings, he, List.filterMap_append, List.filterMap_eq_nil_iff.2 hes, List.nil_append,
    closings]

theorem closings_of_writes (h : Writes ps s t) (hp : .validator ∉ ps) :
    closings t = closings s := by
  obtain ⟨es, he, hes⟩ := h.events
  refine closings_append he fun e hmem => ?_
  have hpallet := hes e hmem
  cases e with
  | networkValidator e => exact absurd hpallet hp
  | _ => rfl

theorem Aside.closings (h : Aside s t) :
    NetworkValidator.closings t = NetworkValidator.closings s := by
  obtain ⟨es, he, hes⟩ := h.events
  refine closings_append he fun e hmem => ?_
  have haside := hes e hmem
  unfold closing
  split
  · cases haside
  · rfl

theorem recordDimensionScore_rounds :
    Yields (recordDimensionScore s p d scoreBps) fun t =>
      t.validator = s.validator ∧ closings t = closings s := by
  intro t ht
  have hw : Writes [.reputation] s t := Reputation.setDimensionScore_writes t ht
  exact ⟨hw.same .validator (by decide), closings_of_writes hw (by decide)⟩

theorem slashSubmitter_closings : closings (slashSubmitter key s v) = closings s := by
  unfold slashSubmitter
  split
  · rfl
  dsimp only
  split
  · rfl
  split <;> rfl

theorem slashAll_closings (vs : List A) (s : Chain E) :
    closings (vs.foldl (slashSubmitter key) s) = closings s := by
  induction vs generalizing s with
  | nil => rfl
  | cons v rest ih => rw [List.foldl_cons, ih, slashSubmitter_closings]

theorem slashRoundSubmitters_scores (s : Chain E) (key : RoundKey A) :
    scores (slashRoundSubmitters s key) = scores s :=
  scores_of_reputation ((slashAll_writes _).same .reputation (by decide))

section
variable {round : Nat}

theorem closeRound_scoreStep :
    Yields (closeRound s o provider round dimension)
      (ScoreStep s (.call o (.closeRound provider round dimension))) := by
  unfold closeRound
  refine .bind fun _ _ => .bind fun _ _ => .bind fun _ hopen => .bind fun _ _ =>
    .bind fun t ht => .bind fun u hu => .ok ?_
  simp only [ensure_eq_ok] at hopen
  have hw := accrueAll_writes _ u hu
  obtain ⟨hv, hc⟩ := recordDimensionScore_rounds t ht
  have hv' : u.validator = _ := Eq.trans (hw.same .validator (by decide)) hv
  have hc' : closings u = _ := (closings_of_writes hw (by decide)).trans hc
  have hr : scores u = _ :=
    (scores_of_reputation (hw.same .reputation (by decide))).trans
      (recordDimensionScore_scores t ht)
  exact .close ⟨provider, round, dimension⟩ hopen (congrArg (·.rounds) hv')
    (congrArg (_ :: ·) hc') hr

theorem disputeRound_scoreStep :
    Yields (disputeRound s o provider round dimension)
      (ScoreStep s (.call o (.disputeRound provider round dimension))) := by
  refine .of_isOk fun hok => ?_
  unfold disputeRound
  refine .bind fun _ _ => .bind fun result hresult => .bind fun _ hfinal => .bind fun _ _ =>
    .bind fun _ _ => .bind fun t ht => .ok ?_
  simp only [okOr_eq_ok, ensure_eq_ok] at hresult hfinal
  obtain ⟨hv, hc⟩ := recordDimensionScore_rounds t ht
  exact .dispute o ⟨provider, round, dimension⟩ result rfl hok hresult hfinal
    (congrArg (update · _ _) (congrArg (·.rounds) hv)) hc
    (recordDimensionScore_scores t ht)

theorem resolveDispute_scoreStep :
    Yields (resolveDispute s o provider round dimension uphold)
      (ScoreStep s (.call o (.resolveRoundDispute provider round dimension uphold))) := by
  refine .of_isOk fun hok => ?_
  unfold resolveDispute
  refine .bind fun _ _ => .bind fun result hresult => .bind fun _ hdisputed => ?_
  simp only [okOr_eq_ok, ensure_eq_ok] at hresult hdisputed
  cases uphold with
  | true =>
    refine .ok (.uphold ⟨provider, round, dimension⟩ result hresult hdisputed ?_ ?_ ?_)
    · exact congrArg (update · _ _) (slashAll_sameRounds _).rounds
    · exact slashAll_closings _ s
    · exact slashRoundSubmitters_scores s _
  | false =>
    refine .bind fun t ht => .ok ?_
    obtain ⟨hv, hc⟩ := recordDimensionScore_rounds t ht
    exact .reject o ⟨provider, round, dimension⟩ result rfl hok hresult hdisputed
      (congrArg (update · _ _) (congrArg (·.rounds) hv)) hc
      (recordDimensionScore_scores t ht)

end

theorem dispatch_scoreStep (c : Call A) :
    Yields (dispatch s o c) (ScoreStep s (.call o c)) := by
  by_cases hw : Pallet.validator ∈ c.writes
  · cases c with
    | registerValidator | requestExit | withdrawStake | suspend | reinstate =>
      intro t ht
      have h := dispatch_aside rfl t ht
      exact .quiet h.rounds h.closings nofun
    | submitEvidence =>
      repeat refine .bind fun _ _ => ?_
      exact .ok (.quiet rfl rfl nofun)
    | closeRound => exact closeRound_scoreStep
    | disputeRound => exact disputeRound_scoreStep
    | resolveRoundDispute => exact resolveDispute_scoreStep
    | _ => simp [Call.writes] at hw
  · intro t ht
    have hwr := dispatch_writes c t ht
    have hv : t.validator = s.validator := hwr.same _ hw
    refine .quiet (congrArg (·.rounds) hv) (closings_of_writes hwr hw) fun ha => ?_
    cases c with
    | closeRound => exact absurd (.head _) hw
    | disputeRound => exact absurd (.head _) hw
    | resolveRoundDispute => exact absurd (.head _) hw
    | _ => cases ha

theorem scoreStep (s : Chain E) (a : Action A) : ScoreStep s a (step s a) := by
  cases a with
  | call o c => exact (dispatch_scoreStep c).commit (.quiet rfl rfl fun _ => rfl)
  | blocks count => exact .quiet rfl rfl fun _ => rfl

end OpenInfra.NetworkValidator
