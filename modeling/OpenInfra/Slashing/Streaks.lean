import Mathlib.Order.Interval.Finset.Nat
import OpenInfra.Escrow.Solvency
import OpenInfra.Slashing.Contest

namespace OpenInfra.ProviderSlashing
open Frame ProviderRegistry NetworkValidator Escrow List

variable {A Ledger : Type} [LinearOrder A] {E : Env A Ledger}
  {s t : Chain E} {a : Action A} {key : A × ScoreDimension} {out : List Nat}

def streak (E : Env A Ledger) (firstRound : Nat) : Finset Nat :=
  Finset.Ico firstRound (firstRound + E.config.providerBreachRounds)

def settledStreak (key : A × ScoreDimension) (s : Chain E) (a : Action A) :
    List Nat :=
  match s.slashing.pendingSlashes key, (step s a).slashing.pendingSlashes key with
  | some pending, none => [pending.firstRound]
  | _, _ => []

structure Above (E : Env A Ledger) (last : Option Nat) (pending : PendingSlash) :
    Prop where
  watermark : ∀ w ∈ last, w < pending.firstRound
  rounds : 0 < E.config.providerBreachRounds
  fits : pending.firstRound + (E.config.providerBreachRounds - 1) ≤ maxValue 64

/-- Settled streaks lie below the watermark, a pending one above. -/
structure StreaksApart (key : A × ScoreDimension) (s : Chain E) (out : List Nat) :
    Prop where
  settled : ∀ r ∈ out, ∃ last ∈ s.slashing.lastSlashedRound key,
    r + E.config.providerBreachRounds ≤ last + 1
  above : ∀ pending ∈ s.slashing.pendingSlashes key,
    Above E (s.slashing.lastSlashedRound key) pending
  apart : out.Pairwise fun r r' => r + E.config.providerBreachRounds ≤ r'
  slashed : ((slashes s key).reverse.map (·.1)).Sublist out

theorem StreaksApart.genesis (E : Env A Ledger) (L : Ledger)
    (key : A × ScoreDimension) : StreaksApart key (genesis E L) [] :=
  ⟨nofun, nofun, .nil, .slnil⟩

omit [LinearOrder A] in
theorem checkRound_spec (h : checkRound s p d firstRound offset = .ok u) :
    firstRound + offset ≤ maxValue 64 ∧
      ∀ last ∈ s.slashing.lastSlashedRound (p, d), last < firstRound + offset := by
  unfold checkRound at h
  simp only [bind_eq_ok, okOr_eq_ok, ensure_eq_ok, exists_const, checkedAdd_eq_some] at h
  obtain ⟨round, ⟨hle, rfl⟩, hlast, _⟩ := h
  exact ⟨hle, hlast⟩

theorem StreaksApart.keep (h : StreaksApart key s out)
    (hlast : t.slashing.lastSlashedRound key = s.slashing.lastSlashedRound key)
    (hslashes : slashes t key = slashes s key)
    (hpending : ∀ pending ∈ t.slashing.pendingSlashes key,
      Above E (s.slashing.lastSlashedRound key) pending) : StreaksApart key t out := by
  refine ⟨?_, ?_, h.apart, ?_⟩
  · rw [hlast]
    exact h.settled
  · rw [hlast]
    exact hpending
  · rw [hslashes]
    exact h.slashed

omit [LinearOrder A] in
theorem raisedWatermark_le (last : Option Nat) (r : Nat) :
    lastRound E r ≤ raisedWatermark E last r ∧ ∀ w ∈ last, w ≤ raisedWatermark E last r := by
  unfold raisedWatermark
  cases last with
  | none => exact ⟨le_rfl, nofun⟩
  | some w =>
    refine ⟨le_max_right _ _, ?_⟩
    rintro _ ⟨⟩
    exact le_max_left _ _

theorem StreaksApart.settle (h : StreaksApart key s out)
    (hs : s.slashing.pendingSlashes key = some pending)
    (hpending : t.slashing.pendingSlashes key = none) (hlast : t.slashing.lastSlashedRound key =
      some (raisedWatermark E (s.slashing.lastSlashedRound key) pending.firstRound))
    (hslashes : ((slashes t key).reverse.map (·.1)).Sublist (out ++ [pending.firstRound])) :
    StreaksApart key t (out ++ [pending.firstRound]) := by
  obtain ⟨hbelow, hpos, hmax⟩ := h.above pending hs
  obtain ⟨hend, hgrow⟩ := raisedWatermark_le (E := E) (s.slashing.lastSlashedRound key)
    pending.firstRound
  rw [lastRound, saturatingAdd_of_le hmax] at hend
  refine ⟨?_, ?_, ?_, hslashes⟩
  · intro r hr
    rw [hlast]
    refine ⟨_, rfl, ?_⟩
    obtain hr | hr := mem_append.1 hr
    · obtain ⟨last, hl, hle⟩ := h.settled r hr
      have := hgrow last hl
      omega
    · obtain rfl := mem_singleton.1 hr
      omega
  · rw [hpending]
    exact nofun
  · refine pairwise_append.2 ⟨h.apart, pairwise_singleton _ _, ?_⟩
    intro r hr r' hr'
    obtain rfl := mem_singleton.1 hr'
    obtain ⟨last, hl, hle⟩ := h.settled r hr
    have := hbelow last hl
    omega

theorem settledStreak_of_eq
    (h : (step s a).slashing.pendingSlashes key = s.slashing.pendingSlashes key) :
    settledStreak key s a = [] := by
  unfold settledStreak
  rw [h]
  cases s.slashing.pendingSlashes key <;> rfl

theorem settledStreak_of_none (hs : s.slashing.pendingSlashes key = some pending)
    (h : (step s a).slashing.pendingSlashes key = none) :
    settledStreak key s a = [pending.firstRound] := by
  unfold settledStreak
  rw [hs, h]

theorem settledStreak_of_some (h : (step s a).slashing.pendingSlashes key = some pending) :
    settledStreak key s a = [] := by
  unfold settledStreak
  rw [h]
  cases s.slashing.pendingSlashes key <;> rfl

theorem StreaksApart.step (h : StreaksApart key s out) (a : Action A) :
    StreaksApart key (step s a) (out ++ settledStreak key s a) := by
  have hslashed {r v : Nat} (hs : slashes (OpenInfra.step s a) key = (r, v) :: slashes s key) :
      ((slashes (OpenInfra.step s a) key).reverse.map (·.1)).Sublist (out ++ [r]) := by
    rw [hs, reverse_cons, map_append]
    exact h.slashed.append (.refl _)
  cases slashStep s a key with
  | quiet hpending hlast hslashes =>
    rw [settledStreak_of_eq hpending, append_nil]
    exact h.keep hlast hslashes (by rw [hpending]; exact h.above)
  | record who firstRound _ hnone hrounds hcheck hpending hlast hslashes =>
    rw [settledStreak_of_some hpending, append_nil]
    refine h.keep hlast hslashes ?_
    rw [hpending]
    rintro _ ⟨⟩
    refine ⟨(checkRound_spec (hcheck 0 hrounds)).2, hrounds, ?_⟩
    exact (checkRound_spec (hcheck _ (Nat.sub_one_lt_of_lt hrounds))).1
  | appeal pending _ hs _ _ hpending hlast hslashes =>
    rw [settledStreak_of_some hpending, append_nil]
    refine h.keep hlast hslashes ?_
    rw [hpending]
    rintro _ ⟨⟩
    obtain ⟨hw, hr, hf⟩ := h.above pending hs
    exact ⟨hw, hr, hf⟩
  | resolve uphold pending _ hs _ hpending hlast hslashes =>
    rw [settledStreak_of_none hs hpending]
    refine h.settle hs hpending hlast ?_
    cases uphold with
    | true => exact (by rw [hslashes]; exact h.slashed.trans (sublist_append_left ..))
    | false => exact hslashed hslashes
  | execute who pending _ hs _ _ hpending hlast hslashes =>
    rw [settledStreak_of_none hs hpending]
    exact h.settle hs hpending hlast (hslashed hslashes)

def WatermarkRises (key : A × ScoreDimension) (s : Chain E) (a : Action A) : Prop :=
  ∀ last ∈ s.slashing.lastSlashedRound key,
    ∃ last' ∈ (step s a).slashing.lastSlashedRound key, last ≤ last'

/-- A step calls `slash_bond` at most once, for the pending slash it removes. -/
def SlashesPending (key : A × ScoreDimension) (s : Chain E) (a : Action A) : Prop :=
  slashes (step s a) key = slashes s key ∨
    ∃ pending ∈ s.slashing.pendingSlashes key, (step s a).slashing.pendingSlashes key = none ∧
      slashes (step s a) key = (pending.firstRound, slashAmount s key.1) :: slashes s key ∧
      (pending.state = .appealed → a = .call .root (.resolveSlashAppeal key.1 key.2 false))

theorem watermarkRises (key : A × ScoreDimension) (s : Chain E) (a : Action A) :
    WatermarkRises key s a := by
  intro last hl
  have hraise {r : Nat} (ht : (step s a).slashing.lastSlashedRound key =
      some (raisedWatermark E (s.slashing.lastSlashedRound key) r)) :
      ∃ last' ∈ (step s a).slashing.lastSlashedRound key, last ≤ last' :=
    ⟨_, ht, (raisedWatermark_le _ r).2 last hl⟩
  cases slashStep s a key with
  | quiet _ hlast => exact ⟨last, hlast.trans hl, le_rfl⟩
  | record _ _ _ _ _ _ _ hlast => exact ⟨last, hlast.trans hl, le_rfl⟩
  | appeal _ _ _ _ _ _ hlast => exact ⟨last, hlast.trans hl, le_rfl⟩
  | resolve _ _ _ _ _ _ hlast => exact hraise hlast
  | execute _ _ _ _ _ _ _ hlast => exact hraise hlast

theorem slashesPending (key : A × ScoreDimension) (s : Chain E) (a : Action A) :
    SlashesPending key s a := by
  cases slashStep s a key with
  | quiet _ _ hslashes => exact .inl hslashes
  | record _ _ _ _ _ _ _ _ hslashes => exact .inl hslashes
  | appeal _ _ _ _ _ _ _ hslashes => exact .inl hslashes
  | resolve uphold pending ha hs _ hpending _ hslashes =>
    cases uphold with
    | true => exact .inl hslashes
    | false => exact .inr ⟨pending, hs, hpending, hslashes, fun _ => ha⟩
  | execute _ pending _ hs hstate _ hpending _ hslashes =>
    refine .inr ⟨pending, hs, hpending, hslashes, fun happ => ?_⟩
    cases hstate.symm.trans happ

theorem appealSlash_isOk (hs : s.slashing.pendingSlashes key = some pending)
    (hstate : pending.state = .proposed) :
    (dispatch s (.signed key.1) (.appealSlash key.1 key.2)).isOk ↔
      s.blockNumber < deadline E pending := by
  simp only [isOk_iff, dispatch, appealSlash, bind_eq_ok, ensureSigned_eq_ok, okOr_eq_ok,
    ensure_eq_ok, exists_const, hs, Option.some.injEq, exists_eq_left', Origin.signed.injEq]
  constructor
  · rintro ⟨_, _, _, h, _⟩
    exact h
  · intro h
    exact ⟨_, trivial, hstate, h, rfl⟩

theorem executeSlash_isOk (hs : s.slashing.pendingSlashes key = some pending)
    (hstate : pending.state = .proposed) (who : A) :
    (dispatch s (.signed who) (.executeSlash key.1 key.2)).isOk ↔
      deadline E pending ≤ s.blockNumber := by
  simp only [isOk_iff, dispatch, executeSlash, bind_eq_ok, ensureSigned_eq_ok, okOr_eq_ok,
    ensure_eq_ok, exists_const, hs, Option.some.injEq, exists_eq_left', Origin.signed.injEq]
  constructor
  · rintro ⟨_, _, h, _⟩
    exact h
  · intro h
    exact ⟨_, hstate, h, rfl⟩

theorem slash_effect (hC : E.currency.Lawful)
    (h : slashes (step s a) key = (r, v) :: slashes s key) :
    v = slashAmount s key.1 ∧ (bonded (step s a) key.1 = bonded s key.1 - v) ∧
      (step s a).reserved key.1 = s.reserved key.1 - v := by
  have hne (ms : List (Nat × Nat)) : ms ≠ (r, v) :: ms := (cons_ne_self _ _).symm
  rw [slashes_eq, slashes_eq] at h
  cases bondStep s a with
  | quiet _ hmoves => exact absurd (hmoves ▸ h) (hne _)
  | lock _ _ _ _ _ _ _ _ hmoves => exact absurd (hmoves ▸ h) (hne _)
  | topUp _ _ _ _ _ _ _ hmoves => exact absurd (hmoves ▸ h) (hne _)
  | withdraw _ _ _ _ _ _ _ hmoves => exact absurd (hmoves ▸ h) (hne _)
  | slash p d firstRound _ hl hbonds hmoves =>
    rw [hmoves] at h
    by_cases hk : (p, d) = key
    · subst hk
      have hentry : BondMove.slashEntry (p, d) (.slashed (p, d) firstRound (slashAmount s p)) =
          some (firstRound, slashAmount s p) := if_pos rfl
      rw [filterMap_cons_some hentry] at h
      obtain ⟨_, rfl⟩ := Prod.mk.inj (cons.inj h).1
      refine ⟨rfl, ?_, ?_⟩
      · change (bondOf (step s a) p).getD 0 = (bondOf s p).getD 0 - _
        rw [hbonds, Function.update_self]
        cases bondOf s p with
        | none => exact (Nat.zero_sub _).symm
        | some stake => rfl
      · change E.currency.reservedBalance (step s a).ledger p = _
        rw [hl, slashAmount]
        split
        · rw [slashed_eq hC, (hC.slash_spec ..).1, Function.update_self, Chain.reserved]
          dsimp only
          omega
        · rfl
    · have hentry : BondMove.slashEntry key (.slashed (p, d) firstRound (slashAmount s p)) = none :=
        if_neg hk
      rw [filterMap_cons_none hentry] at h
      exact absurd h (hne _)

theorem slashAmount_eq (hC : E.currency.Lawful) (hx : (holding s p).Exclusive)
    (hs : (holding s p).Solvent) :
    slashAmount s p = min E.config.providerSlashAmount (bonded s p) := by
  have hbonded : bonded s p = (bondOf s p).getD 0 := rfl
  rw [slashAmount, hasOpenBond_eq, hbonded]
  cases hb : bondOf s p with
  | none => exact (Nat.min_zero _).symm
  | some stake =>
    have hr : s.reserved p = stake := Eq.trans hs (hx.owed (i := Role.provider) hb)
    rw [Option.isSome_some, if_pos rfl, slashed_eq hC, hr, Option.getD_some]

theorem bonded_le_reserved (hs : (holding s p).Solvent) : bonded s p ≤ s.reserved p := by
  have hsum : s.reserved p =
      (openCaps s p).sum + ((stakeOf s p).getD 0 + (bondOf s p).getD 0) := hs
  have hbonded : bonded s p = (bondOf s p).getD 0 := rfl
  omega

/-- Takes `ProviderSlashAmount` or the whole stake. -/
def TakesStake (key : A × ScoreDimension) (s : Chain E) (a : Action A) : Prop :=
  ∀ r v, slashes (step s a) key = (r, v) :: slashes s key →
    v = min E.config.providerSlashAmount (bonded s key.1) ∧
      bonded (step s a) key.1 + v = bonded s key.1 ∧
      (step s a).reserved key.1 + v = s.reserved key.1

theorem takesStake (hC : E.currency.Lawful) (hx : (holding s key.1).Exclusive)
    (hs : (holding s key.1).Solvent) (a : Action A) : TakesStake key s a := by
  intro r v hslash
  obtain ⟨hv, hbonded, hreserved⟩ := slash_effect hC hslash
  rw [slashAmount_eq hC hx hs] at hv
  have hle := bonded_le_reserved hs
  omega

/-- No round is slashed twice, and no slash forecloses an appeal. -/
theorem streaks_slashed_once (E : Env A Ledger) (L : Ledger)
    (acts : List (Action A)) (key : A × ScoreDimension) :
    let s := run step (genesis E L) acts
    ((outputs step (settledStreak key) (genesis E L) acts).Pairwise fun r r' =>
        Disjoint (streak E r) (streak E r')) ∧
      (((slashes s key).map (·.1)).Pairwise fun r r' => Disjoint (streak E r) (streak E r')) ∧
      Along step (fun s a => WatermarkRises key s a ∧ SlashesPending key s a) (genesis E L) acts ∧
      (∀ pending ∈ s.slashing.pendingSlashes key, pending.state = .proposed → ∀ who,
        (dispatch s (.signed key.1) (.appealSlash key.1 key.2)).isOk ↔
          ¬ (dispatch s (.signed who) (.executeSlash key.1 key.2)).isOk) ∧
      (E.currency.Lawful → E.currency.reservedBalance L key.1 = 0 →
        KeepsCount key.1 (genesis E L) acts →
        Along step (TakesStake key) (genesis E L) acts) := by
  intro s
  have hall : Throughout step (fun _ => True) (genesis E L) acts := .true _ _
  have hapart : StreaksApart key s (outputs step (settledStreak key) (genesis E L) acts) :=
    hall.outputs_invariant (.genesis E L key) fun _ a _ hs _ _ => hs.step a
  have hdisjoint {r r' : Nat} (h : r + E.config.providerBreachRounds ≤ r') :
      Disjoint (streak E r) (streak E r') := by
    refine Finset.disjoint_left.2 fun round hr hr' => ?_
    have := (Finset.mem_Ico.1 hr).2
    have := (Finset.mem_Ico.1 hr').1
    omega
  refine ⟨hapart.apart.imp hdisjoint, ?_, ?_, ?_, ?_⟩
  · have hslashed := (hapart.apart.imp hdisjoint).sublist hapart.slashed
    rw [map_reverse, pairwise_reverse] at hslashed
    exact hslashed.imp fun hd => hd.symm
  · exact hall.along (I := fun _ => True) trivial (fun _ _ _ _ _ => trivial)
      fun s a _ _ => ⟨watermarkRises key s a, slashesPending key s a⟩
  · intro pending hs hstate who
    rw [appealSlash_isOk hs hstate, executeSlash_isOk hs hstate who, not_le]
  · intro hC hL hcount
    refine hcount.countable.along (I := fun s => Orderly s key.1 ∧ (holding s key.1).Solvent)
      ⟨.genesis E L key.1, solvent_genesis hL⟩ ?_ ?_
    · exact fun s a hs _ hb => ⟨hs.1.step hC a hb, hs.1.solvent hC hs.2 a⟩
    · exact fun s a hs _ => takesStake hC hs.1.exclusive hs.2 a

def executedRun : List (Action Nat) :=
  breachRun ++ [.blocks 14400, .call (.signed 1) (.executeSlash 9 .availability)]

theorem streaks_slashed_once_breach :
    slashes (run step devGenesis executedRun) (9, .availability) = [(0, 150)] ∧
      Along step (TakesStake (9, .availability)) devGenesis executedRun :=
  ⟨by decide +kernel, (streaks_slashed_once _ _ _ (9, .availability)).2.2.2.2
    Balances.currency_lawful rfl (.inl (by decide +kernel))⟩

end OpenInfra.ProviderSlashing
