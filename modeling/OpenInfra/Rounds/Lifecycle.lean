import OpenInfra.Rounds.Accountability

namespace OpenInfra.NetworkValidator
open Frame Function List

variable {A Ledger : Type} [LinearOrder A] {E : Env A Ledger}
  {s t u : Chain E} {a : Action A} {key key' : RoundKey A} {v w : A}
  {round : Nat}

def survivors (s : Chain E) (key : RoundKey A) : List A :=
  (trimmed (s.validator.evidence key).toList).1.map (·.validator)

def closes (key : RoundKey A) (s : Chain E) : Action A → Bool
  | .call o (.closeRound provider round dimension) =>
    key = ⟨provider, round, dimension⟩ && (closeRound s o provider round dimension).isOk
  | _ => false

def atClosings (key : RoundKey A) (f : Chain E → Action A → List B) (s : Chain E)
    (acts : List (Action A)) : List B :=
  outputs step (fun s a => if closes key s a then f s a else []) s acts

def closeCount (key : RoundKey A) (s : Chain E) (acts : List (Action A)) : Nat :=
  (atClosings key (fun _ a => [a]) s acts).length

def accepted (key : RoundKey A) (s : Chain E) (acts : List (Action A)) :
    List A :=
  atClosings key (fun s _ => survivors s key) s acts

def credited (key : RoundKey A) (v : A) (s : Chain E)
    (acts : List (Action A)) : Nat :=
  (atClosings key (fun s a =>
    [(step s a).rewards.rewardBalances v - s.rewards.rewardBalances v]) s acts).sum

def isSlash (key : RoundKey A) (v : A) : RuntimeEvent A → Bool
  | .networkValidator (.validatorSlashed validator key' _ _) => validator = v && key' = key
  | _ => false

def slashes (key : RoundKey A) (v : A) (s : Chain E) : Nat :=
  s.events.countP (isSlash key v)

theorem survivors_length_le (s : Chain E) (key : RoundKey A) :
    (survivors s key).length ≤ E.config.maxValidatorSubmissionsPerRound := by
  have hlen := (accepted_subperm (s.validator.evidence key).toList).length_le
  exact hlen.trans ((length_map _).trans_le (s.validator.evidence key).length_le)

theorem survivors_nodup (h : DistinctSubmissions s) (key : RoundKey A) :
    (survivors s key).Nodup := by
  obtain ⟨l, hperm, hsub⟩ := accepted_subperm (s.validator.evidence key).toList
  exact hperm.nodup_iff.1 ((h key).sublist hsub)

theorem accruePoints_balance : Yields (Rewards.accruePoints s account points) fun t =>
    ∀ v, t.rewards.rewardBalances v =
      s.rewards.rewardBalances v + if v = account then points else 0 := by
  unfold Rewards.accruePoints
  split
  · rename_i hzero
    refine .ok fun v => ?_
    rw [hzero, ite_self]
    rfl
  · refine .bind fun balance hb => .ok fun v => ?_
    rw [okOr_eq_ok, checkedAdd_eq_some] at hb
    obtain ⟨_, rfl⟩ := hb
    change update s.rewards.rewardBalances account _ v = _
    by_cases hv : v = account
    · rw [hv, update_self, if_pos rfl]
    · rw [update_of_ne hv, if_neg hv, Nat.add_zero]

theorem accrueAll_balance (points : Nat) (entries : List (Submission A)) :
    Yields (accrueAll points s entries) fun t => ∀ v, t.rewards.rewardBalances v =
      s.rewards.rewardBalances v + points * (entries.map (·.validator)).count v := by
  induction entries generalizing s with
  | nil => exact .ok fun v => rfl
  | cons entry rest ih =>
    unfold accrueAll
    rw [foldlM_cons]
    refine .bind fun u hu t ht v => ?_
    rw [ih t ht v, accruePoints_balance u hu v, map_cons, count_cons]
    by_cases hv : v = entry.validator
    · rw [if_pos hv, if_pos (beq_iff_eq.2 hv.symm)]
      ring
    · rw [if_neg hv, if_neg fun h => hv (beq_iff_eq.1 h).symm]
      rfl

theorem closeRound_spec : Yields (closeRound s o provider round dimension) fun t =>
    s.validator.rounds ⟨provider, round, dimension⟩ = none ∧
      (t.validator.rounds ⟨provider, round, dimension⟩).isSome ∧
      ∀ v, t.rewards.rewardBalances v = s.rewards.rewardBalances v +
        E.config.validatorPointsPerAcceptedSubmission *
          (survivors s ⟨provider, round, dimension⟩).count v := by
  unfold closeRound
  refine .bind fun caller _ => .bind fun _ _ => .bind fun _ hopen => .bind fun _ _ =>
    .bind fun t ht => .bind fun u hu => .ok ⟨?_, ?_, fun v => ?_⟩
  · exact ensure_eq_ok.1 hopen
  · have hv := accrueAll_validator ht hu
    change (u.validator.rounds _).isSome
    rw [hv]
    exact Option.isSome_iff_exists.2 ⟨_, update_self ..⟩
  · have hr : t.rewards = s.rewards :=
      (Reputation.setDimensionScore_writes t ht).same .rewards (by decide)
    exact (accrueAll_balance _ _ u hu v).trans (by rw [hr]; rfl)

theorem closes_spec (h : closes key s a) :
    s.validator.rounds key = none ∧ ((step s a).validator.rounds key).isSome ∧
      ∀ v, (step s a).rewards.rewardBalances v = s.rewards.rewardBalances v +
        E.config.validatorPointsPerAcceptedSubmission * (survivors s key).count v := by
  unfold closes at h
  split at h
  · rename_i o provider round dimension
    rw [Bool.and_eq_true, decide_eq_true_eq, isOk_iff] at h
    obtain ⟨rfl, t, ht⟩ := h
    have hstep : step s (.call o (.closeRound provider round dimension)) = t := by
      rw [step_call, dispatch, ht, commit_ok]
    rw [hstep]
    exact closeRound_spec t ht
  · cases h

theorem closes_of_opened (hopen : s.validator.rounds key = none)
    (hround : ((step s a).validator.rounds key).isSome)
    (ha : a = .call o (.closeRound key.provider key.round key.dimension)) : closes key s a := by
  subst ha
  rw [closes, Bool.and_eq_true]
  refine ⟨decide_eq_true rfl, ?_⟩
  cases hx : closeRound s o key.provider key.round key.dimension with
  | ok t => rfl
  | error e =>
    rw [step_call, dispatch, hx, commit_error, hopen] at hround
    cases hround

theorem not_closes (h : closes key s a = false) :
    (step s a).validator.roundSubmitters key = s.validator.roundSubmitters key ∧
      ((step s a).validator.rounds key).isSome = (s.validator.rounds key).isSome := by
  cases roundStep s a key with
  | quiet _ hround hsubmitters => exact ⟨hsubmitters, by rw [hround]⟩
  | submit _ _ _ _ _ _ _ hround hsubmitters => exact ⟨hsubmitters, by rw [hround]⟩
  | dispute _ _ _ hresult _ _ _ hround hsubmitters =>
    exact ⟨hsubmitters, by rw [hround, hresult]; rfl⟩
  | resolve _ _ _ hresult _ _ hround hsubmitters =>
    exact ⟨hsubmitters, by rw [hround, hresult]; rfl⟩
  | close who ha hopen _ _ hround =>
    cases h.symm.trans (closes_of_opened hopen (by rw [hround]; rfl) ha)

theorem closes_submitters (h : closes key s a) :
    ((step s a).validator.roundSubmitters key).toList = survivors s key ∧
      ((step s a).validator.evidence key).toList = [] := by
  obtain ⟨hopen, hsome, _⟩ := closes_spec h
  have hne : (step s a).validator.rounds key ≠ s.validator.rounds key := by
    intro heq
    rw [heq, hopen] at hsome
    cases hsome
  cases roundStep s a key with
  | quiet _ hround => exact absurd hround hne
  | submit _ _ _ _ _ _ _ hround => exact absurd hround hne
  | dispute _ _ _ hresult => cases hopen.symm.trans hresult
  | resolve _ _ _ hresult => cases hopen.symm.trans hresult
  | close _ _ _ _ hevidence _ hsubmitters =>
    rw [hsubmitters, hevidence]
    exact ⟨BoundedVec.truncateFrom_toList (survivors_length_le s key), rfl⟩

def DistinctPayloads (s : Chain E) : Prop :=
  ∀ key, ((s.validator.evidence key).toList.map (·.payloadHash)).Nodup

theorem submitEvidence_payloads (h : DistinctPayloads s) :
    Yields (submitEvidence s o provider round dimension scoreBps sampleCount payloadHash)
      DistinctPayloads := by
  unfold submitEvidence
  refine .bind fun validator _ => .bind fun _ _ => .bind fun _ _ => .bind fun _ _ =>
    .bind fun _ _ => .bind fun _ _ => .bind fun _ _ => .bind fun _ _ => .bind fun _ hfresh =>
    .bind fun submissions hpush => .ok fun k => ?_
  rw [ensure_eq_ok] at hfresh
  rw [okOr_eq_ok, BoundedVec.tryPush_eq_some] at hpush
  by_cases hk : k = ⟨provider, round, dimension⟩
  · subst hk
    change ((update s.validator.evidence _ submissions _).toList.map _).Nodup
    rw [update_self, hpush.2, map_append]
    refine (h _).append (nodup_singleton _) (disjoint_singleton.2 fun hmem => ?_)
    obtain ⟨e, he, heq⟩ := mem_map.1 hmem
    exact hfresh (any_eq_true.2 ⟨e, he, decide_eq_true heq⟩)
  · change ((update s.validator.evidence _ submissions _).toList.map _).Nodup
    rw [update_of_ne hk]
    exact h k

theorem DistinctPayloads.step (h : DistinctPayloads s) (a : Action A) :
    DistinctPayloads (step s a) := by
  intro key
  cases roundStep s a key with
  | quiet he => rw [he]; exact h key
  | dispute _ _ _ _ _ _ he => rw [he]; exact h key
  | resolve _ _ _ _ _ he => rw [he]; exact h key
  | close _ _ _ _ he => rw [he]; exact nodup_nil
  | submit entry ha =>
    rw [ha, step_call]
    exact (submitEvidence_payloads h).commit h key

theorem slashes_deposit (s : Chain E) (e : RuntimeEvent A) :
    slashes key v (s.depositEvent e) =
      slashes key v s + if isSlash key v e then 1 else 0 := countP_cons

def Unslashed (s t : Chain E) : Prop := ∀ key v, slashes key v t = slashes key v s

theorem Unslashed.of_events (h : t.events = s.events) : Unslashed s t := by
  intro key v
  rw [slashes, h, slashes]

theorem Unslashed.trans (h : Unslashed s t) (h' : Unslashed t u) : Unslashed s u :=
  fun key v => (h' key v).trans (h key v)

theorem Unslashed.deposit (h : Unslashed s t) {e : RuntimeEvent A}
    (he : ∀ key v, isSlash key v e = false) : Unslashed s (t.depositEvent e) := by
  intro key v
  rw [slashes_deposit, he, h]
  rfl

theorem Unslashed.le (h : Unslashed s t) (key : RoundKey A) (v : A) (n : Nat) :
    slashes key v t ≤ slashes key v s + n := Nat.le_add_right_of_le (h key v).le

theorem Unslashed.of_append (he : t.events = es ++ s.events)
    (hes : ∀ e ∈ es, ∀ key v, isSlash key v e = false) : Unslashed s t := by
  intro key v
  have hnone : es.countP (isSlash key v) = 0 :=
    countP_eq_zero.2 fun e hmem => Bool.eq_false_iff.1 (hes e hmem key v)
  rw [slashes, he, countP_append, hnone, Nat.zero_add, slashes]

theorem Unslashed.of_writes (h : Writes ps s t) (hp : .validator ∉ ps) : Unslashed s t := by
  obtain ⟨es, he, hes⟩ := h.events
  refine .of_append he fun e hmem key v => ?_
  have hpallet := hes e hmem
  cases e with
  | networkValidator e => exact absurd hpallet hp
  | _ => rfl

theorem Aside.unslashed (h : Aside s t) : Unslashed s t := by
  obtain ⟨es, he, hes⟩ := h.events
  refine .of_append he fun e hmem key v => ?_
  have haside := hes e hmem
  unfold isSlash
  split
  · cases haside
  · rfl

theorem slashSubmitter_slashes (s : Chain E) (key key' : RoundKey A) (v w : A) :
    slashes key v (slashSubmitter key' s w) ≤
      slashes key v s + if w = v ∧ key' = key then 1 else 0 := by
  unfold slashSubmitter
  split
  · exact Nat.le_add_right _ _
  dsimp only
  split
  · exact Nat.le_add_right _ _
  rw [slashes_deposit]
  simp only [isSlash, Bool.and_eq_true, decide_eq_true_eq]
  split <;> exact Nat.le_refl _

theorem slashAll_slashes (vs : List A) (s : Chain E) (key key' : RoundKey A)
    (v : A) : slashes key v (vs.foldl (slashSubmitter key') s) ≤
      slashes key v s + if key' = key then vs.count v else 0 := by
  induction vs generalizing s with
  | nil => exact Nat.le_add_right _ _
  | cons w rest ih =>
    rw [foldl_cons, count_cons]
    have hturn := slashSubmitter_slashes s key key' v w
    refine (ih _).trans ?_
    by_cases hkey : key' = key
    · by_cases hw : w = v
      · simp only [hkey, hw, and_self, if_true, beq_self_eq_true] at hturn ⊢
        omega
      · simp only [hkey, hw, and_true, if_true, if_false, beq_iff_eq] at hturn ⊢
        omega
    · simp only [hkey, and_false, if_false] at hturn ⊢
      exact hturn

def upholds (key : RoundKey A) (s : Chain E) : Action A → Bool
  | .call .root (.resolveRoundDispute provider round dimension true) =>
    key = ⟨provider, round, dimension⟩ && (s.validator.rounds key).any (·.status = .disputed)
  | _ => false

theorem submitEvidence_unslashed :
    Yields (submitEvidence s o provider round dimension scoreBps sampleCount payloadHash)
      (Unslashed s) := by
  unfold submitEvidence
  repeat refine .bind fun _ _ => ?_
  exact .ok (.deposit (.of_events rfl) fun _ _ => rfl)

theorem closeRound_unslashed : Yields (closeRound s o provider round dimension) (Unslashed s) := by
  unfold closeRound
  iterate 4 refine .bind fun _ _ => ?_
  refine .bind fun t ht => .bind fun u hu => .ok (.deposit ?_ fun _ _ => rfl)
  have hscore := Unslashed.of_writes (Reputation.setDimensionScore_writes t ht) (by decide)
  have hreward := Unslashed.of_writes (accrueAll_writes _ u hu) (by decide)
  exact .trans (.of_events rfl) (hscore.trans hreward)

theorem disputeRound_unslashed :
    Yields (disputeRound s o provider round dimension) (Unslashed s) := by
  unfold disputeRound
  iterate 5 refine .bind fun _ _ => ?_
  refine .bind fun t ht => .ok (.deposit ?_ fun _ _ => rfl)
  have hscore := Unslashed.of_writes (Reputation.setDimensionScore_writes t ht) (by decide)
  exact hscore.trans (.of_events rfl)

theorem resolveDispute_slashes (key : RoundKey A) (v : A) :
    Yields (resolveDispute s o provider round dimension uphold) fun t =>
      slashes key v t ≤ slashes key v s +
        if upholds key s (.call o (.resolveRoundDispute provider round dimension uphold)) then
          (s.validator.roundSubmitters key).toList.count v else 0 := by
  unfold resolveDispute
  refine .bind fun _ ho => .bind fun result hresult => .bind fun _ hdisputed => ?_
  simp only [ensureRoot_eq_ok, okOr_eq_ok, ensure_eq_ok] at ho hresult hdisputed
  subst ho
  cases uphold with
  | true =>
    refine .ok ?_
    rw [slashes_deposit]
    have hloop := slashAll_slashes
      (s.validator.roundSubmitters ⟨provider, round, dimension⟩).toList s key
      ⟨provider, round, dimension⟩ v
    refine le_trans hloop (Nat.add_le_add_left ?_ _)
    by_cases hkey : ⟨provider, round, dimension⟩ = key
    · subst hkey
      have hup : upholds ⟨provider, round, dimension⟩ s
          (.call .root (.resolveRoundDispute provider round dimension true)) := by
        rw [upholds, hresult, decide_eq_true rfl]
        exact decide_eq_true hdisputed
      rw [if_pos rfl, if_pos hup]
    · rw [if_neg hkey]
      exact Nat.zero_le _
  | false =>
    refine .bind fun t ht => .ok (Nat.le_add_right_of_le (Eq.le ?_))
    have hscore := Unslashed.of_writes (Reputation.setDimensionScore_writes t ht) (by decide)
    exact Unslashed.deposit (hscore.trans (.of_events rfl)) (fun _ _ => rfl) key v

theorem dispatch_slashes (c : Call A) (key : RoundKey A) (v : A) :
    Yields (dispatch s o c) fun t => slashes key v t ≤ slashes key v s +
      if upholds key s (.call o c) then (s.validator.roundSubmitters key).toList.count v
        else 0 := by
  by_cases hw : Pallet.validator ∈ c.writes
  · cases c with
    | resolveRoundDispute => exact resolveDispute_slashes key v
    | registerValidator | requestExit | withdrawStake | suspend | reinstate =>
      exact fun t ht => (dispatch_aside rfl t ht).unslashed.le key v _
    | submitEvidence => exact fun t ht => submitEvidence_unslashed t ht |>.le key v _
    | closeRound => exact fun t ht => closeRound_unslashed t ht |>.le key v _
    | disputeRound => exact fun t ht => disputeRound_unslashed t ht |>.le key v _
    | _ => simp [Call.writes] at hw
  · intro t ht
    exact Unslashed.of_writes (dispatch_writes c t ht) hw |>.le key v _

theorem slashes_step (s : Chain E) (a : Action A) (key : RoundKey A)
    (v : A) : slashes key v (step s a) ≤ slashes key v s +
      if upholds key s a then (s.validator.roundSubmitters key).toList.count v else 0 := by
  cases a with
  | call o c => exact (dispatch_slashes c key v).commit (Nat.le_add_right _ _)
  | blocks count => exact Nat.le_add_right _ _

theorem upholds_status (h : upholds key s a) :
    (s.validator.rounds key).any (·.status = .disputed) ∧
      ((step s a).validator.rounds key).any (·.status = .disputeUpheld) := by
  unfold upholds at h
  split at h
  · rename_i provider round dimension
    rw [Bool.and_eq_true, decide_eq_true_eq] at h
    obtain ⟨rfl, hdisputed⟩ := h
    refine ⟨hdisputed, ?_⟩
    obtain ⟨result, hresult, hstatus⟩ := (Option.any_eq_true ..).1 hdisputed
    obtain ⟨t, ht, hupheld⟩ : ∃ t, resolveDispute s .root provider round dimension true = .ok t ∧
        (t.validator.rounds ⟨provider, round, dimension⟩).any (·.status = .disputeUpheld) := by
      refine ⟨_, bind_eq_ok.2 ⟨(), rfl, bind_eq_ok.2 ⟨result, okOr_eq_ok.2 hresult, bind_eq_ok.2
        ⟨(), ensure_eq_ok.2 (of_decide_eq_true hstatus), rfl⟩⟩⟩, ?_⟩
      exact (Option.any_eq_true ..).2 ⟨_, update_self .., decide_eq_true rfl⟩
    rw [step_call, dispatch, ht, commit_ok]
    exact hupheld
  · cases h

structure RoundLife (key : RoundKey A) (s : Chain E) : Prop where
  distinct : DistinctSubmissions s
  payloads : DistinctPayloads s
  closed : (s.validator.rounds key).isSome → (s.validator.evidence key).toList = []
  pending : s.validator.rounds key = none → (s.validator.roundSubmitters key).toList = []
  submitters : (s.validator.roundSubmitters key).toList.Nodup
  slashed : ∀ v, slashes key v s ≤
    if (s.validator.rounds key).any (·.status = .disputeUpheld) then
      (s.validator.roundSubmitters key).toList.count v else 0

theorem RoundLife.genesis (E : Env A Ledger) (L : Ledger) (key : RoundKey A) :
    RoundLife key (genesis E L) :=
  ⟨fun _ => nodup_nil, fun _ => nodup_nil, nofun, fun _ => rfl, nodup_nil,
    fun _ => Nat.le_refl 0⟩

theorem RoundLife.slashed_step (h : RoundLife key s) (a : Action A) (v : A) :
    slashes key v (step s a) ≤
      if ((step s a).validator.rounds key).any (·.status = .disputeUpheld) then
        ((step s a).validator.roundSubmitters key).toList.count v else 0 := by
  have hstep := slashes_step s a key v
  have hbefore := h.slashed v
  by_cases hup : upholds key s a
  · obtain ⟨hdisputed, hupheld⟩ := upholds_status hup
    obtain ⟨result, hresult, hstatus⟩ := (Option.any_eq_true ..).1 hdisputed
    have hkept : (step s a).validator.roundSubmitters key = s.validator.roundSubmitters key := by
      refine (not_closes (Bool.eq_false_iff.2 fun hcloses => ?_)).1
      cases (closes_spec hcloses).1.symm.trans hresult
    rw [hresult, Option.any_some, of_decide_eq_true hstatus] at hbefore
    rw [if_pos hup, Nat.le_zero.1 hbefore, Nat.zero_add] at hstep
    rwa [if_pos hupheld, hkept]
  · rw [if_neg hup] at hstep
    refine hstep.trans ?_
    cases roundStep s a key with
    | quiet _ hround hsubmitters =>
      rw [hround, hsubmitters]
      exact hbefore
    | submit _ _ _ _ _ _ _ hround hsubmitters =>
      rw [hround, hsubmitters]
      exact hbefore
    | close _ _ hopen =>
      rw [hopen] at hbefore
      exact hbefore.trans (Nat.zero_le _)
    | dispute _ result _ hresult hfinal =>
      rw [hresult, Option.any_some, hfinal] at hbefore
      exact hbefore.trans (Nat.zero_le _)
    | resolve _ result _ hresult hdisputed =>
      rw [hresult, Option.any_some, hdisputed] at hbefore
      exact hbefore.trans (Nat.zero_le _)

theorem RoundLife.step (h : RoundLife key s) (a : Action A) : RoundLife key (step s a) := by
  refine ⟨h.distinct.step (roundStep s a), h.payloads.step a, ?_, ?_, ?_, h.slashed_step a⟩
  · intro hsome
    cases hcloses : closes key s a with
    | true => exact (closes_submitters hcloses).2
    | false =>
      rw [(not_closes hcloses).2] at hsome
      have hclosed := h.closed hsome
      obtain ⟨result, hresult⟩ := Option.isSome_iff_exists.1 hsome
      cases roundStep s a key with
      | quiet he => rw [he, hclosed]
      | submit _ _ _ _ hopen => cases hopen.symm.trans hresult
      | close _ _ _ _ he => rw [he]; rfl
      | dispute _ _ _ _ _ _ he => rw [he, hclosed]
      | resolve _ _ _ _ _ he => rw [he, hclosed]
  · intro hnone
    cases hcloses : closes key s a with
    | true =>
      have hsome := (closes_spec hcloses).2.1
      rw [hnone] at hsome
      cases hsome
    | false =>
      obtain ⟨hsubmitters, hsome⟩ := not_closes hcloses
      rw [hnone] at hsome
      rw [hsubmitters]
      exact h.pending (Option.isSome_eq_false_iff.1 hsome.symm |> Option.isNone_iff_eq_none.1)
  · cases hcloses : closes key s a with
    | true =>
      rw [(closes_submitters hcloses).1]
      exact survivors_nodup h.distinct key
    | false =>
      rw [(not_closes hcloses).1]
      exact h.submitters

section
variable (key : RoundKey A)

theorem roundLife_throughout (L : Ledger)
    (acts : List (Action A)) : Throughout step (RoundLife key) (genesis E L) acts :=
  (Along.true _ acts).throughout (.genesis E L key) fun _ a hs _ => hs.step a

theorem atClosings_invariant {f : Chain E → Action A → List B}
    {I : Chain E → List B → Prop} (L : Ledger)
    (acts : List (Action A)) (hnil : I (genesis E L) [])
    (hquiet : ∀ s a bs, closes key s a = false → I s bs → I (step s a) bs)
    (hclose : ∀ s a bs, closes key s a → RoundLife key s → I s bs →
      I (step s a) (bs ++ f s a)) :
    I (run step (genesis E L) acts) (atClosings key f (genesis E L) acts) := by
  refine (roundLife_throughout key L acts).outputs_invariant hnil fun s a bs hbs hs _ => ?_
  cases hcloses : closes key s a with
  | true => exact hclose s a bs hcloses hs hbs
  | false =>
    rw [if_neg Bool.false_ne_true, append_nil]
    exact hquiet s a bs hcloses hbs

theorem closeCount_eq (L : Ledger) (acts : List (Action A)) :
    closeCount key (genesis E L) acts =
      if ((run step (genesis E L) acts).validator.rounds key).isSome then 1 else 0 := by
  refine atClosings_invariant (I := fun s (bs : List (Action A)) =>
    bs.length = if (s.validator.rounds key).isSome then 1 else 0) key L acts rfl ?_ ?_
  · intro s a bs hcloses hbs
    rw [(not_closes hcloses).2]
    exact hbs
  · intro s a bs hcloses _ hbs
    obtain ⟨hopen, hsome, _⟩ := closes_spec hcloses
    rw [hopen] at hbs
    rw [length_append, hbs, if_pos hsome]
    rfl

theorem accepted_eq (L : Ledger) (acts : List (Action A)) :
    accepted key (genesis E L) acts =
      ((run step (genesis E L) acts).validator.roundSubmitters key).toList := by
  refine atClosings_invariant (I := fun s (bs : List A) =>
    bs = (s.validator.roundSubmitters key).toList) key L acts rfl ?_ ?_
  · intro s a bs hcloses hbs
    rw [(not_closes hcloses).1]
    exact hbs
  · intro s a bs hcloses hs hbs
    rw [hbs, hs.pending (closes_spec hcloses).1, nil_append]
    exact (closes_submitters hcloses).1.symm

theorem credited_eq (v : A) (L : Ledger) (acts : List (Action A)) :
    credited key v (genesis E L) acts = E.config.validatorPointsPerAcceptedSubmission *
      ((run step (genesis E L) acts).validator.roundSubmitters key).toList.count v := by
  refine atClosings_invariant (I := fun s (bs : List Nat) =>
    bs.sum = E.config.validatorPointsPerAcceptedSubmission *
      (s.validator.roundSubmitters key).toList.count v) key L acts rfl ?_ ?_
  · intro s a bs hcloses hbs
    rw [(not_closes hcloses).1]
    exact hbs
  · intro s a bs hcloses hs hbs
    obtain ⟨hopen, _, hbalance⟩ := closes_spec hcloses
    rw [hs.pending hopen] at hbs
    rw [sum_append, hbs, sum_singleton, hbalance, Nat.add_sub_cancel_left,
      (closes_submitters hcloses).1]
    exact Nat.zero_add _

end

/-- Closed once; its survivors are credited once and only they slashed. -/
theorem round_lifecycle (L : Ledger) (acts : List (Action A)) (key : RoundKey A) :
    let s := run step (genesis E L) acts
    closeCount key (genesis E L) acts = (if (s.validator.rounds key).isSome then 1 else 0) ∧
      ((s.validator.rounds key).isSome → (s.validator.evidence key).toList = []) ∧
      ((s.validator.evidence key).toList.map (·.validator)).Nodup ∧
      ((s.validator.evidence key).toList.map (·.payloadHash)).Nodup ∧
      (s.validator.roundSubmitters key).toList = accepted key (genesis E L) acts ∧
      ∀ v, credited key v (genesis E L) acts =
          (if v ∈ (s.validator.roundSubmitters key).toList then
            E.config.validatorPointsPerAcceptedSubmission else 0) ∧
        slashes key v s ≤ 1 ∧
        (0 < slashes key v s → v ∈ (s.validator.roundSubmitters key).toList) := by
  intro s
  have hs : RoundLife key s := (roundLife_throughout key L acts).last
  refine ⟨closeCount_eq key L acts, hs.closed, hs.distinct key, hs.payloads key,
    (accepted_eq key L acts).symm, fun v => ?_⟩
  have hslashed : slashes key v s ≤ (s.validator.roundSubmitters key).toList.count v := by
    refine (hs.slashed v).trans ?_
    split
    · exact Nat.le_refl _
    · exact Nat.zero_le _
  refine ⟨?_, hslashed.trans (nodup_iff_count_le_one.1 hs.submitters v), fun hpos => ?_⟩
  · rw [credited_eq, hs.submitters.count, mul_ite, Nat.mul_one, Nat.mul_zero]
  · exact count_pos_iff.1 (hpos.trans_le hslashed)

end OpenInfra.NetworkValidator
