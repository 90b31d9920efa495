import OpenInfra.Rounds.Machine
import OpenInfra.Slashing.Machine

namespace OpenInfra.ProviderSlashing
open Frame
open NetworkValidator (RoundKey RoundResult disputeDeadline dispatch_roundStep)

variable {A Ledger : Type} [LinearOrder A] {E : Env A Ledger}
  {s t : Chain E} {a : Action A}

def streakRound (key : A × ScoreDimension) (firstRound offset : Nat) :
    RoundKey A :=
  ⟨key.1, firstRound + offset, AvailabilityRoundOracle.mapDimension key.2⟩

def Uncontested (s : Chain E) (key : A × ScoreDimension) (firstRound : Nat) : Prop :=
  ∀ offset < E.config.providerBreachRounds,
    ∃ result ∈ s.validator.rounds (streakRound key firstRound offset),
      result.status = .final ∨ result.status = .disputeRejected

def slashDimension : NetworkValidator.ScoreDimension → ScoreDimension
  | .compute => .compute
  | .storage => .storage
  | .network => .network
  | .availability => .availability
  | .reliability => .reliability

@[simp] theorem slashDimension_mapDimension (d : ScoreDimension) :
    slashDimension (AvailabilityRoundOracle.mapDimension d) = d := by
  cases d <;> rfl

/-- Disputes a slashed round in the last block of the window. -/
def boundaryDispute (s : Chain E) : Action A → Bool
  | .call o (.disputeRound provider round dimension) =>
    (NetworkValidator.disputeRound s o provider round dimension).isOk &&
      (s.validator.rounds ⟨provider, round, dimension⟩).any
        (fun result => s.blockNumber = disputeDeadline E result) &&
      (s.slashing.pendingSlashes (provider, slashDimension dimension)).any fun pending =>
        pending.firstRound ≤ round ∧ round < pending.firstRound + E.config.providerBreachRounds
  | _ => false

/-- No longer disputable, or only in the block of the record. -/
def Firm (E : Env A Ledger) (createdAt : Nat) (result : RoundResult) : Prop :=
  result.status = .disputeRejected ∨
    result.status = .final ∧ disputeDeadline E result ≤ createdAt

structure StreaksFirm (s : Chain E) : Prop where
  blockNumber : s.blockNumber ≤ maxValue 32
  created : ∀ key, ∀ pending ∈ s.slashing.pendingSlashes key, pending.createdAt ≤ s.blockNumber
  firm : ∀ key, ∀ pending ∈ s.slashing.pendingSlashes key,
    ∀ offset < E.config.providerBreachRounds,
      ∃ result ∈ s.validator.rounds (streakRound key pending.firstRound offset),
        Firm E pending.createdAt result

omit [LinearOrder A] in
theorem Firm.settled {result : RoundResult} (h : Firm E createdAt result) :
    result.status = .final ∨ result.status = .disputeRejected := h.elim .inr fun hf => .inl hf.1

theorem StreaksFirm.uncontested (h : StreaksFirm s) {pending : PendingSlash}
    (hp : pending ∈ s.slashing.pendingSlashes key) : Uncontested s key pending.firstRound := by
  intro offset ho
  obtain ⟨result, hr, hf⟩ := h.firm key pending hp offset ho
  exact ⟨result, hr, hf.settled⟩

omit [LinearOrder A] in
theorem firm_of_checkRound (h : checkRound s key.1 key.2 firstRound offset = .ok ()) :
    ∃ result ∈ s.validator.rounds (streakRound key firstRound offset),
      Firm E s.blockNumber result := by
  simp only [checkRound, bind_eq_ok, okOr_eq_ok, ensure_eq_ok, checkedAdd_eq_some,
    exists_const] at h
  obtain ⟨round, ⟨_, rfl⟩, _, view, hview, hstatus, hwindow, _⟩ := h
  obtain ⟨result, hr, rfl⟩ := Option.map_eq_some_iff.1 hview
  refine ⟨result, hr, ?_⟩
  cases hst : result.status with
  | final => exact .inr ⟨hst, hwindow⟩
  | disputeRejected => exact .inl hst
  | disputed | disputeUpheld =>
    simp only [hst, AvailabilityRoundOracle.mapStatus, reduceCtorEq, or_self] at hstatus

theorem StreaksFirm.round (h : StreaksFirm s) (hb : boundaryDispute s (.call o c) = false)
    (ht : dispatch s o c = .ok t) {pending : PendingSlash}
    (hp : pending ∈ s.slashing.pendingSlashes key) (ho : offset < E.config.providerBreachRounds) :
    ∃ result ∈ t.validator.rounds (streakRound key pending.firstRound offset),
      Firm E pending.createdAt result := by
  obtain ⟨result, hr, hf⟩ := h.firm key pending hp offset ho
  cases dispatch_roundStep c t ht (streakRound key pending.firstRound offset) with
  | quiet _ he => exact ⟨result, he ▸ hr, hf⟩
  | submit _ _ _ _ _ _ _ he => exact ⟨result, he ▸ hr, hf⟩
  | close _ _ hopen => cases hopen.symm.trans hr
  | resolve _ result' _ hr' hd =>
    cases hr'.symm.trans hr
    simp only [Firm, hd, reduceCtorEq, false_and, or_self] at hf
  | dispute who result' ha hr' hfinal hwindow =>
    cases hr'.symm.trans hr
    have hd : disputeDeadline E result ≤ pending.createdAt :=
      hf.elim (fun hj => nomatch hfinal.symm.trans hj) And.right
    have hnow : s.blockNumber = disputeDeadline E result :=
      Nat.le_antisymm hwindow (hd.trans (h.created key pending hp))
    cases ha
    have hok : (dispatch s _ _).isOk = true := congrArg Except.isOk ht
    refine absurd hb ?_
    simp only [boundaryDispute, Bool.and_eq_false_iff, not_or, Bool.not_eq_false]
    refine ⟨⟨hok, (Option.any_eq_true ..).2 ⟨result, hr, decide_eq_true hnow⟩⟩, ?_⟩
    refine (Option.any_eq_true ..).2 ⟨pending, ?_, decide_eq_true ⟨?_, ?_⟩⟩
    · rw [streakRound, slashDimension_mapDimension]
      exact hp
    · exact Nat.le_add_right _ _
    · exact Nat.add_lt_add_left ho _

theorem StreaksFirm.call (h : StreaksFirm s) (hb : boundaryDispute s (.call o c) = false) :
    Yields (dispatch s o c) StreaksFirm := by
  intro t ht
  have hnow : t.blockNumber = s.blockNumber := (dispatch_writes c t ht).blockNumber
  have hstep := dispatch_slashStep c t ht
  refine ⟨hnow ▸ h.blockNumber, fun key => ?_, fun key => ?_⟩
  · rw [hnow]
    cases hstep key with
    | quiet hp => rw [hp]; exact h.created key
    | record _ _ _ _ _ _ hp => rw [hp]; rintro _ ⟨⟩; exact Nat.le_refl _
    | appeal pending _ hs _ _ hp => rw [hp]; rintro _ ⟨⟩; exact h.created key pending hs
    | resolve _ _ _ _ _ hp => rw [hp]; exact nofun
    | execute _ _ _ _ _ _ hp => rw [hp]; exact nofun
  · cases hstep key with
    | quiet hp => rw [hp]; exact fun pending hs offset ho => h.round hb ht hs ho
    | appeal pending _ hs _ _ hp =>
      rw [hp]
      rintro _ ⟨⟩ offset ho
      have hr := h.round hb ht hs ho
      exact hr
    | resolve _ _ _ _ _ hp => rw [hp]; exact nofun
    | execute _ _ _ _ _ _ hp => rw [hp]; exact nofun
    | record who firstRound ha _ _ hcheck hp =>
      rw [hp]
      rintro _ ⟨⟩ offset ho
      cases ha
      have hv : t.validator = s.validator := (dispatch_writes _ t ht).same .validator (by
        simp [Call.writes])
      rw [hv]
      exact firm_of_checkRound (hcheck offset ho)

theorem StreaksFirm.step (h : StreaksFirm s) (hb : boundaryDispute s a = false) :
    StreaksFirm (step s a) := by
  cases a with
  | call o c => exact (h.call hb).commit h
  | blocks count =>
    refine ⟨saturatingAdd_le _ _ _, fun key pending hp => ?_, h.firm⟩
    exact (h.created key pending hp).trans (le_saturatingAdd h.blockNumber)

omit [LinearOrder A] in
theorem StreaksFirm.genesis (E : Env A Ledger) (L : Ledger) : StreaksFirm (genesis E L) :=
  ⟨Nat.zero_le _, nofun, nofun⟩

/-- Without boundary disputes every slash rests on uncontested rounds. -/
theorem slash_rests_on_uncontested {L : Ledger} {acts : List (Action A)}
    (h : Along step (fun s a => boundaryDispute s a = false) (genesis E L) acts) :
    (∀ key, ∀ pending ∈ (run step (genesis E L) acts).slashing.pendingSlashes key,
      Uncontested (run step (genesis E L) acts) key pending.firstRound) ∧
    ∀ a key firstRound amount,
      slashes (step (run step (genesis E L) acts) a) key =
        (firstRound, amount) :: slashes (run step (genesis E L) acts) key →
      Uncontested (run step (genesis E L) acts) key firstRound := by
  have hf : StreaksFirm (run step (genesis E L) acts) :=
    h.invariant (.genesis E L) fun s a hs hb => hs.step hb
  refine ⟨fun key pending hp => hf.uncontested hp, ?_⟩
  generalize run step (OpenInfra.genesis E L) acts = s at hf
  intro a key firstRound amount hes
  have hne : slashes (OpenInfra.step s a) key ≠ slashes s key := by
    rw [hes]
    exact List.cons_ne_self _ _
  cases slashStep s a key with
  | quiet _ _ he => exact absurd he hne
  | record _ _ _ _ _ _ _ _ he => exact absurd he hne
  | appeal _ _ _ _ _ _ _ he => exact absurd he hne
  | execute _ pending _ hs _ _ _ _ he =>
    cases hes.symm.trans he
    exact hf.uncontested hs
  | resolve uphold pending _ hs _ _ _ he =>
    cases uphold with
    | true => exact absurd he hne
    | false =>
      cases hes.symm.trans he
      exact hf.uncontested hs

def breachRun : List (Action Nat) :=
  [.call (.signed 9) (.registerProvider (List.Vector.replicate 32 9)),
      .call (.signed 9) (.bondStake 1000)] ++
    [1, 2, 3, 4].map (fun v => .call (.signed v) (.registerValidator 1000)) ++
    [0, 1, 2].flatMap (fun round => [1, 2, 3, 4].map fun v =>
      .call (.signed v) (.submitEvidence 9 round .availability 4000 1
        (List.Vector.replicate 32 (UInt8.ofNat v)))) ++
    [0, 1, 2].map (fun round => .call (.signed 1) (.closeRound 9 round .availability)) ++
    [.blocks 300, .call (.signed 1) (.recordBreach 9 .availability 0)]

theorem slash_rests_on_uncontested_breach :
    Uncontested (run step devGenesis breachRun) (9, .availability) 0 :=
  (slash_rests_on_uncontested (by decide +kernel)).1 (9, .availability) ⟨0, 300, .proposed⟩
    (by decide +kernel)

def contestedRun : List (Action Nat) :=
  breachRun ++
    [.call (.signed 9) (.disputeRound 9 1 .availability),
      .call .root (.resolveRoundDispute 9 1 .availability true)]

theorem contested_streak_slashed :
    (run step devGenesis contestedRun).slashing.pendingSlashes (9, .availability) =
        some ⟨0, 300, .proposed⟩ ∧
      ((run step devGenesis contestedRun).validator.rounds ⟨9, 1, .availability⟩).map (·.status) =
        some .disputeUpheld ∧
      slashes (run step (run step devGenesis contestedRun)
          [.blocks 14400, .call (.signed 1) (.executeSlash 9 .availability)]) (9, .availability) =
        [(0, 150)] := by
  decide +kernel

end OpenInfra.ProviderSlashing
