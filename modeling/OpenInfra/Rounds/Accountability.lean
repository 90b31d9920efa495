import OpenInfra.Escrow.Solvency
import OpenInfra.Rounds.Trimmed

namespace OpenInfra.NetworkValidator
open Frame Escrow Function List

variable {A Ledger : Type} [LinearOrder A] {E : Env A Ledger}
  {s : Chain E} {a : Action A} {key : RoundKey A} {v : A}

theorem accepted_subperm (submissions : List (Submission A)) :
    ((trimmed submissions).1.map (·.validator)).Subperm (submissions.map (·.validator)) := by
  obtain ⟨kept, hperm, hsub⟩ := trimmed_subperm submissions
  exact ⟨kept.map _, hperm.map _, hsub.map _⟩

section
local instance lawfulAnswer : LawfulBEq A := inferInstance

def answerable (key : RoundKey A) (s : Chain E) (v : A) : Bool :=
  match s.validator.rounds key with
  | none => v ∈ (s.validator.evidence key).toList.map (·.validator)
  | some result => v ∈ (s.validator.roundSubmitters key).toList &&
      (result.status = .disputed ||
        result.status = .final && s.blockNumber ≤ disputeDeadline E result)

end

/-- The step releases the stake of a validator that is answerable for the round. -/
def releasesAnswerable (key : RoundKey A) (s : Chain E) : Action A → Bool
  | .call (.signed who) .withdrawStake =>
    (withdrawUnbonded s (.signed who)).isOk && answerable key s who
  | _ => false

theorem isRegisteredValidator_of_active (h : isActive s v) : isRegisteredValidator s v := by
  obtain ⟨record, hr, _⟩ := (Option.any_eq_true ..).1 h
  rw [isRegisteredValidator, hr]
  rfl

theorem registered_step (h : isRegisteredValidator s v)
    (ha : ¬ (a = .call (.signed v) .withdrawStake ∧ (withdrawUnbonded s (.signed v)).isOk)) :
    isRegisteredValidator (step s a) v := by
  rw [isRegisteredValidator_eq] at h ⊢
  cases stakeStep s a with
  | quiet hstakes => rwa [hstakes]
  | lock who stake _ _ _ _ _ hstakes =>
    rw [hstakes]
    by_cases hv : v = who
    · rw [hv, update_self]
      rfl
    · rwa [update_of_ne hv]
  | withdraw who stake hwho _ _ hstakes =>
    by_cases hv : v = who
    · subst hv hwho
      cases hx : withdrawUnbonded s (.signed v) with
      | ok t => exact absurd ⟨rfl, by rw [hx]; rfl⟩ ha
      | error e =>
        have hs : step s (.call (.signed v) .withdrawStake) = s := congrArg (commit s) hx
        rwa [hs]
    · rwa [hstakes, update_of_ne hv]
  | slash key _ _ hstakes =>
    rwa [hstakes, slashRoundSubmitters, slashAll_registered]

theorem answerable_open (h : s.validator.rounds key = none) :
    answerable key s v ↔ v ∈ (s.validator.evidence key).toList.map (·.validator) := by
  rw [answerable, h]
  exact decide_eq_true_iff

theorem answerable_closed (h : s.validator.rounds key = some result) :
    answerable key s v ↔ v ∈ (s.validator.roundSubmitters key).toList ∧
      (result.status = .disputed ∨
        result.status = .final ∧ s.blockNumber ≤ disputeDeadline E result) := by
  rw [answerable, h]
  simp only [Bool.and_eq_true, Bool.or_eq_true, decide_eq_true_eq]

theorem answerable_step (hnow : s.blockNumber ≤ (step s a).blockNumber)
    (h : answerable key (step s a) v) :
    answerable key s v ∨ isActive s v ∧ a ≠ .call (.signed v) .withdrawStake := by
  cases roundStep s a key with
  | quiet hevidence hround hsubmitters =>
    left
    cases hr : s.validator.rounds key with
    | none =>
      rw [answerable_open (hround.trans hr), hevidence] at h
      exact (answerable_open hr).2 h
    | some result =>
      rw [answerable_closed (hround.trans hr), hsubmitters] at h
      obtain ⟨hv, hstatus⟩ := h
      exact (answerable_closed hr).2 ⟨hv, hstatus.imp_right (And.imp_right hnow.trans)⟩
  | submit entry ha hactive _ hopen _ hevidence hround =>
    rw [answerable_open (hround.trans hopen), hevidence, map_append, mem_append] at h
    obtain h | h := h
    · exact .inl ((answerable_open hopen).2 h)
    · obtain rfl := mem_singleton.1 h
      exact .inr ⟨hactive, by rw [ha]; exact nofun⟩
  | close _ _ hopen _ _ hround hsubmitters =>
    left
    rw [answerable_closed hround, hsubmitters] at h
    exact (answerable_open hopen).2 ((accepted_subperm _).subset (mem_of_mem_take h.1))
  | dispute _ result _ hresult hfinal hwindow _ hround hsubmitters =>
    left
    rw [answerable_closed hround, hsubmitters] at h
    exact (answerable_closed hresult).2 ⟨h.1, .inr ⟨hfinal, hwindow⟩⟩
  | resolve uphold _ _ _ _ _ hround =>
    rw [answerable_closed hround] at h
    cases uphold with
    | true => simp at h
    | false => simp at h

/-- Whoever is answerable for the round is registered. -/
structure Accountable (key : RoundKey A) (s : Chain E) : Prop where
  now : s.blockNumber ≤ maxValue 32
  evidence : DistinctSubmissions s
  submitters : (s.validator.roundSubmitters key).toList.Nodup
  registered : ∀ v, answerable key s v → isRegisteredValidator s v

theorem Accountable.genesis (E : Env A Ledger) (L : Ledger) (key : RoundKey A) :
    Accountable key (genesis E L) :=
  ⟨Nat.zero_le _, fun _ => nodup_nil, nodup_nil, fun _ h => by cases h⟩

theorem Accountable.step (h : Accountable key s) (ha : releasesAnswerable key s a = false) :
    Accountable key (step s a) := by
  obtain ⟨hnow, hnow'⟩ := step_blockNumber h.now a
  refine ⟨hnow', h.evidence.step (roundStep s a), ?_, fun v hv => ?_⟩
  · cases roundStep s a key with
    | quiet _ _ hs => rw [hs]; exact h.submitters
    | submit _ _ _ _ _ _ _ _ hs => rw [hs]; exact h.submitters
    | dispute _ _ _ _ _ _ _ _ hs => rw [hs]; exact h.submitters
    | resolve _ _ _ _ _ _ _ hs => rw [hs]; exact h.submitters
    | close _ _ _ _ _ _ hs =>
      rw [hs]
      refine List.Nodup.sublist (take_sublist _ _) ?_
      obtain ⟨accepted, hperm, hsub⟩ := accepted_subperm (s.validator.evidence key).toList
      exact hperm.nodup_iff.1 ((h.evidence key).sublist hsub)
  · obtain hans | ⟨hactive, hne⟩ := answerable_step hnow hv
    · refine registered_step (h.registered v hans) ?_
      rintro ⟨rfl, hok⟩
      rw [releasesAnswerable, hok, hans] at ha
      cases ha
    · exact registered_step (isRegisteredValidator_of_active hactive) fun hw => hne hw.1

section
variable (hC : E.currency.Lawful)
include hC

theorem slashSubmitter_at (hv : stakeOf s v = some stake) :
    stakeOf (slashSubmitter key s v) v =
        some (stake - min E.config.validatorSlashAmount (s.reserved v)) ∧
      (slashSubmitter key s v).reserved v = s.reserved v - E.config.validatorSlashAmount := by
  obtain ⟨hstakes, hl⟩ := slashSubmitter_spec s key v
  rw [slashTaken, isRegisteredValidator_eq, hv, Option.isSome_some, if_pos rfl, slashed_eq hC,
    Option.map_some] at hstakes
  rw [isRegisteredValidator_eq, hv, Option.isSome_some, if_pos rfl] at hl
  refine ⟨by rw [hstakes, update_self], ?_⟩
  rw [Chain.reserved, hl, (hC.slash_spec ..).1, update_self, Chain.reserved]

theorem slashSubmitter_of_ne (key : RoundKey A) (s : Chain E) (h : v ≠ w) :
    stakeOf (slashSubmitter key s w) v = stakeOf s v ∧
      (slashSubmitter key s w).reserved v = s.reserved v := by
  obtain ⟨hstakes, hl⟩ := slashSubmitter_spec s key w
  refine ⟨by rw [hstakes, update_of_ne h], ?_⟩
  rw [Chain.reserved, hl]
  split
  · rw [(hC.slash_spec ..).1, update_of_ne h, Chain.reserved]
  · rfl

theorem slashAll_of_notMem (key : RoundKey A)
    {vs : List A} (h : v ∉ vs) (s : Chain E) :
    stakeOf (vs.foldl (slashSubmitter key) s) v = stakeOf s v ∧
      (vs.foldl (slashSubmitter key) s).reserved v = s.reserved v := by
  induction vs generalizing s with
  | nil => exact ⟨rfl, rfl⟩
  | cons w rest ih =>
    rw [mem_cons, not_or] at h
    obtain ⟨hne, hrest⟩ := h
    obtain ⟨hstake, hreserved⟩ := slashSubmitter_of_ne hC key s hne
    obtain ⟨hstake', hreserved'⟩ := ih hrest (slashSubmitter key s w)
    exact ⟨hstake'.trans hstake, hreserved'.trans hreserved⟩

theorem slashAll_of_mem (key : RoundKey A)
    {vs : List A} (hd : vs.Nodup) (h : v ∈ vs) (s : Chain E)
    (hv : stakeOf s v = some stake) :
    stakeOf (vs.foldl (slashSubmitter key) s) v =
        some (stake - min E.config.validatorSlashAmount (s.reserved v)) ∧
      (vs.foldl (slashSubmitter key) s).reserved v =
        s.reserved v - E.config.validatorSlashAmount := by
  induction vs generalizing s with
  | nil => cases h
  | cons w rest ih =>
    obtain ⟨hw, hrest⟩ := nodup_cons.1 hd
    rw [foldl_cons]
    by_cases hne : v = w
    · subst hne
      obtain ⟨hstake, hreserved⟩ := slashAll_of_notMem hC key hw (slashSubmitter key s v)
      rw [hstake, hreserved]
      exact slashSubmitter_at hC hv
    · obtain ⟨hstake, hreserved⟩ := slashSubmitter_of_ne hC key s hne
      rw [← hreserved]
      exact ih hrest (mem_of_ne_of_mem hne h) _ (hstake.trans hv)

end

theorem resolveDispute_upheld (h : (dispatch s .root
      (.resolveRoundDispute key.provider key.round key.dimension true)).isOk) :
    (∃ result ∈ s.validator.rounds key, result.status = .disputed) ∧
      stakeOf (step s (.call .root
        (.resolveRoundDispute key.provider key.round key.dimension true))) =
          stakeOf (slashRoundSubmitters s key) ∧
      (step s (.call .root
        (.resolveRoundDispute key.provider key.round key.dimension true))).ledger =
          (slashRoundSubmitters s key).ledger := by
  obtain ⟨t, ht⟩ := isOk_iff.1 h
  rw [step_call, ht, commit_ok]
  simp only [dispatch, resolveDispute, bind_eq_ok, ensureRoot_eq_ok, okOr_eq_ok, ensure_eq_ok,
    exists_const, if_true, Except.ok.injEq] at ht
  obtain ⟨_, result, hr, hd, rfl⟩ := ht
  exact ⟨⟨result, hr, hd⟩, rfl, rfl⟩

/-- Every submitter is slashed, unless it took its stake out. -/
theorem upheld_dispute_slashes_submitters (hC : E.currency.Lawful) {L : Ledger}
    {acts : List (Action A)} (key : RoundKey A)
    (h : Along step (fun s a => releasesAnswerable key s a = false) (genesis E L) acts) :
    let s := run step (genesis E L) acts
    let resolve := .resolveRoundDispute key.provider key.round key.dimension true
    (dispatch s .root resolve).isOk → ∀ v ∈ (s.validator.roundSubmitters key).toList,
      ∃ stake, stakeOf s v = some stake ∧
        (E.currency.reservedBalance L v = 0 →
          KeepsCount v (genesis E L) acts →
          let taken := min E.config.validatorSlashAmount stake
          stakeOf (step s (.call .root resolve)) v = some (stake - taken) ∧
            (step s (.call .root resolve)).reserved v + taken = s.reserved v) := by
  intro s resolve hok v hv
  have hacc : Accountable key s := h.invariant (.genesis E L key) fun s a hs ha => hs.step ha
  obtain ⟨⟨result, hr, hdisputed⟩, hstakes, hledger⟩ := resolveDispute_upheld hok
  have hans : answerable key s v := (answerable_closed hr).2 ⟨hv, .inl hdisputed⟩
  have hreg := hacc.registered v hans
  rw [isRegisteredValidator_eq] at hreg
  obtain ⟨stake, hstake⟩ := Option.isSome_iff_exists.1 hreg
  refine ⟨stake, hstake, fun hL hcount => ?_⟩
  have hreserved : s.reserved v = stake :=
    Eq.trans (solvent_of_countable hC hL hcount.countable)
      ((orderly_of_countable hC hcount.countable).exclusive.owed (i := Role.validator) hstake)
  obtain ⟨hs, hl⟩ := slashAll_of_mem hC key hacc.submitters hv s hstake
  rw [← slashRoundSubmitters, ← hstakes, hreserved] at hs
  rw [← slashRoundSubmitters, Chain.reserved, ← hledger, ← Chain.reserved, hreserved] at hl
  exact ⟨hs, by rw [hl, hreserved]; omega⟩

def disputedRun : List (Action Nat) :=
  .call (.signed 9) (.registerProvider (List.Vector.replicate 32 9)) ::
    [1, 2, 3, 4].map (fun v => .call (.signed v) (.registerValidator 1000)) ++
    [1, 2, 3, 4].map (fun v => .call (.signed v) (.submitEvidence 9 0 .availability 4000 1
      (List.Vector.replicate 32 (UInt8.ofNat v)))) ++
    [.call (.signed 1) (.closeRound 9 0 .availability),
      .call (.signed 9) (.disputeRound 9 0 .availability),
      .call (.signed 2) .requestExit]

theorem upheld_dispute_slashes_submitters_leaving :
    let s := run step devGenesis disputedRun
    let t := step s (.call .root (.resolveRoundDispute 9 0 .availability true))
    ∃ stake, stakeOf s 2 = some stake ∧ stakeOf t 2 = some (stake - min 100 stake) ∧
      t.reserved 2 + min 100 stake = s.reserved 2 :=
  let ⟨stake, held, slashed⟩ := upheld_dispute_slashes_submitters Balances.currency_lawful
    ⟨9, 0, .availability⟩ (by decide +kernel) (by decide +kernel) 2 (by decide +kernel)
  ⟨stake, held, slashed rfl (.inl (by decide +kernel))⟩

def escapedRun : List (Action Nat) :=
  disputedRun ++ [.blocks 14400, .call (.signed 2) .withdrawStake]

theorem escaped_submitter_unslashed :
    let s := run step devGenesis escapedRun
    let resolve := .resolveRoundDispute 9 0 .availability true
    (s.validator.roundSubmitters ⟨9, 0, .availability⟩).toList = [2, 3] ∧
      (dispatch s .root resolve).isOk ∧ stakeOf s 2 = none ∧
      (step s (.call .root resolve)).ledger.free 2 = 10 ^ 12 ∧
      stakeOf (step s (.call .root resolve)) 3 = some 900 := by
  decide +kernel

end OpenInfra.NetworkValidator
