import OpenInfra.Chain.Footprint

namespace OpenInfra.ProviderSlashing
open Frame Function List

variable {A Ledger : Type} [LinearOrder A] {E : Env A Ledger}
  {s t : Chain E} {a : Action A} {k : A × ScoreDimension}

def slashAmount (s : Chain E) (provider : A) : Nat :=
  if hasOpenBond s provider then
    E.config.providerSlashAmount -
      (E.currency.slashReserved s.ledger provider E.config.providerSlashAmount).2
  else 0

def slashEntry (key : A × ScoreDimension) : RuntimeEvent A → Option (Nat × Nat)
  | .providerSlashing (.providerSlashed provider dimension firstRound amount _) =>
    if (provider, dimension) = key then some (firstRound, amount) else none
  | _ => none

/-- The slashes of `key` so far, the latest first. -/
def slashes (s : Chain E) (key : A × ScoreDimension) : List (Nat × Nat) :=
  s.events.filterMap (slashEntry key)

/-- All a step can do to the slashes of one key. -/
inductive SlashStep (s : Chain E) (a : Action A) (t : Chain E)
    (key : A × ScoreDimension) : Prop where
  | quiet (hpending : t.slashing.pendingSlashes key = s.slashing.pendingSlashes key)
      (hlast : t.slashing.lastSlashedRound key = s.slashing.lastSlashedRound key)
      (hslashes : slashes t key = slashes s key)
  | record (who : A) (firstRound : Nat)
      (ha : a = .call (.signed who) (.recordBreach key.1 key.2 firstRound))
      (hnone : s.slashing.pendingSlashes key = none)
      (hrounds : 0 < E.config.providerBreachRounds)
      (hcheck : ∀ offset < E.config.providerBreachRounds,
        checkRound s key.1 key.2 firstRound offset = .ok ())
      (hpending : t.slashing.pendingSlashes key = some ⟨firstRound, s.blockNumber, .proposed⟩)
      (hlast : t.slashing.lastSlashedRound key = s.slashing.lastSlashedRound key)
      (hslashes : slashes t key = slashes s key)
  | appeal (pending : PendingSlash)
      (ha : a = .call (.signed key.1) (.appealSlash key.1 key.2))
      (hs : s.slashing.pendingSlashes key = some pending) (hstate : pending.state = .proposed)
      (hopen : s.blockNumber < deadline E pending)
      (hpending : t.slashing.pendingSlashes key = some { pending with state := .appealed })
      (hlast : t.slashing.lastSlashedRound key = s.slashing.lastSlashedRound key)
      (hslashes : slashes t key = slashes s key)
  | resolve (uphold : Bool) (pending : PendingSlash)
      (ha : a = .call .root (.resolveSlashAppeal key.1 key.2 uphold))
      (hs : s.slashing.pendingSlashes key = some pending) (hstate : pending.state = .appealed)
      (hpending : t.slashing.pendingSlashes key = none)
      (hlast : t.slashing.lastSlashedRound key =
        some (raisedWatermark E (s.slashing.lastSlashedRound key) pending.firstRound))
      (hslashes : slashes t key = if uphold then slashes s key
        else (pending.firstRound, slashAmount s key.1) :: slashes s key)
  | execute (who : A) (pending : PendingSlash)
      (ha : a = .call (.signed who) (.executeSlash key.1 key.2))
      (hs : s.slashing.pendingSlashes key = some pending) (hstate : pending.state = .proposed)
      (hclosed : deadline E pending ≤ s.blockNumber)
      (hpending : t.slashing.pendingSlashes key = none)
      (hlast : t.slashing.lastSlashedRound key =
        some (raisedWatermark E (s.slashing.lastSlashedRound key) pending.firstRound))
      (hslashes : slashes t key = (pending.firstRound, slashAmount s key.1) :: slashes s key)

theorem slashEntry_eq_none (h : e.pallet ≠ .slashing) : slashEntry k e = none := by
  cases e with
  | providerSlashing e => exact absurd rfl h
  | _ => rfl

theorem slashes_depositEvent (s : Chain E) (e : RuntimeEvent A)
    (h : slashEntry k e = none) : slashes (s.depositEvent e) k = slashes s k :=
  filterMap_cons_none h

theorem slashes_of_writes (h : Writes ps s t) (hp : .slashing ∉ ps) :
    slashes t k = slashes s k := by
  obtain ⟨es, he, hes⟩ := h.events
  have hn : es.filterMap (slashEntry k) = [] := by
    rw [filterMap_eq_nil_iff]
    intro e hmem
    exact slashEntry_eq_none fun heq => hp (heq ▸ hes e hmem)
  rw [slashes, he, filterMap_append, hn, nil_append, slashes]

theorem slashBond_amount (s : Chain E) (provider : A) :
    (ProviderRegistry.slashBond s provider E.config.providerSlashAmount).2.1 =
      slashAmount s provider := by
  unfold ProviderRegistry.slashBond slashAmount hasOpenBond
  cases s.registry.providerBonds provider with
  | none => rfl
  | some record =>
    rw [Option.isSome_some, if_pos rfl]
    dsimp only
    split
    · exact Eq.symm ‹_›
    · split <;> rfl

theorem doExecuteSlash_slashing (s : Chain E) (provider : A) (dimension : ScoreDimension)
    (firstRound : Nat) : (doExecuteSlash s provider dimension firstRound).slashing = s.slashing :=
  (ProviderRegistry.slashBond_writes (s := s)).same .slashing (by decide)

theorem doExecuteSlash_slashes (s : Chain E) (provider : A) (dimension : ScoreDimension)
    (firstRound : Nat) :
    slashes (doExecuteSlash s provider dimension firstRound) k =
      if (provider, dimension) = k then (firstRound, slashAmount s provider) :: slashes s k
      else slashes s k := by
  have hw : slashes (ProviderRegistry.slashBond s provider E.config.providerSlashAmount).1 k =
      slashes s k := slashes_of_writes ProviderRegistry.slashBond_writes (by decide)
  rw [← hw, ← slashBond_amount]
  unfold doExecuteSlash
  split
  · exact filterMap_cons_some (if_pos ‹_›)
  · exact filterMap_cons_none (if_neg ‹_›)

theorem recordBreach_slashStep :
    Yields (recordBreach s o provider dimension firstRound)
      fun t => ∀ k, SlashStep s (.call o (.recordBreach provider dimension firstRound)) t k := by
  unfold recordBreach
  refine .bind fun who ho => .bind fun _ hnone => .bind fun _ hrounds => .bind fun _ hcheck =>
    .ok fun k => ?_
  simp only [ensureSigned_eq_ok, ensure_eq_ok] at ho hnone hrounds
  simp only [forM_eq_ok, mem_range] at hcheck
  subst ho
  by_cases hk : k = (provider, dimension)
  · subst hk
    exact .record who firstRound rfl hnone hrounds hcheck (update_self ..) rfl
      (slashes_depositEvent _ _ rfl)
  · exact .quiet (update_of_ne hk ..) rfl (slashes_depositEvent _ _ rfl)

theorem appealSlash_slashStep :
    Yields (appealSlash s o provider dimension)
      fun t => ∀ k, SlashStep s (.call o (.appealSlash provider dimension)) t k := by
  unfold appealSlash
  refine .bind fun who ho => .bind fun _ hwho => .bind fun pending hs => .bind fun _ hstate =>
    .bind fun _ hopen => .ok fun k => ?_
  simp only [ensureSigned_eq_ok, ensure_eq_ok, okOr_eq_ok] at ho hwho hs hstate hopen
  subst ho hwho
  by_cases hk : k = (who, dimension)
  · subst hk
    exact .appeal pending rfl hs hstate hopen (update_self ..) rfl
      (slashes_depositEvent _ _ rfl)
  · exact .quiet (update_of_ne hk ..) rfl (slashes_depositEvent _ _ rfl)

theorem settled_slashing
    (hu : u.slashing = (advanceWatermark s p d r).slashing) :
    ((putPending u (p, d) none).slashing.pendingSlashes k =
      if k = (p, d) then none else s.slashing.pendingSlashes k) ∧
    (putPending u (p, d) none).slashing.lastSlashedRound k =
      if k = (p, d) then
        some (raisedWatermark E (s.slashing.lastSlashedRound k) r)
      else s.slashing.lastSlashedRound k := by
  unfold putPending
  rw [hu]
  by_cases hk : k = (p, d)
  · subst hk
    rw [if_pos rfl, if_pos rfl]
    exact ⟨update_self .., update_self ..⟩
  · rw [if_neg hk, if_neg hk]
    exact ⟨update_of_ne hk .., update_of_ne hk ..⟩

theorem resolveSlashAppeal_slashStep :
    Yields (resolveSlashAppeal s o provider dimension uphold)
      fun t => ∀ k, SlashStep s (.call o (.resolveSlashAppeal provider dimension uphold)) t k := by
  unfold resolveSlashAppeal
  refine .bind fun _ ho => .bind fun pending hs => .bind fun _ hstate => .ok fun k => ?_
  simp only [ensureRoot_eq_ok, ensure_eq_ok, okOr_eq_ok] at ho hs hstate
  subst ho
  cases uphold with
  | true =>
    obtain ⟨hp, hl⟩ := settled_slashing (k := k) (s := s) (p := provider) (d := dimension)
      (r := pending.firstRound) rfl
    have hes := slashes_depositEvent (k := k) s
      (.providerSlashing (.slashAppealResolved provider dimension true)) rfl
    by_cases hk : k = (provider, dimension)
    · subst hk
      rw [if_pos rfl] at hp hl
      exact .resolve true pending rfl hs hstate hp hl hes
    · rw [if_neg hk] at hp hl
      exact .quiet hp hl hes
  | false =>
    obtain ⟨hp, hl⟩ := settled_slashing (k := k)
      (doExecuteSlash_slashing (advanceWatermark s provider dimension pending.firstRound) provider
        dimension pending.firstRound)
    have hes := (slashes_depositEvent (k := k) _
      (.providerSlashing (.slashAppealResolved provider dimension false)) rfl).trans
      (doExecuteSlash_slashes (advanceWatermark s provider dimension pending.firstRound) provider
        dimension pending.firstRound)
    by_cases hk : k = (provider, dimension)
    · subst hk
      rw [if_pos rfl] at hp hl
      exact .resolve false pending rfl hs hstate hp hl (hes.trans (if_pos rfl))
    · rw [if_neg hk] at hp hl
      exact .quiet hp hl (hes.trans (if_neg (Ne.symm hk)))

theorem executeSlash_slashStep :
    Yields (executeSlash s o provider dimension)
      fun t => ∀ k, SlashStep s (.call o (.executeSlash provider dimension)) t k := by
  unfold executeSlash
  refine .bind fun who ho => .bind fun pending hs => .bind fun _ hstate => .bind fun _ hclosed =>
    .ok fun k => ?_
  simp only [ensureSigned_eq_ok, ensure_eq_ok, okOr_eq_ok] at ho hs hstate hclosed
  subst ho
  have hes := doExecuteSlash_slashes (k := k)
    (advanceWatermark s provider dimension pending.firstRound) provider dimension
    pending.firstRound
  obtain ⟨hp, hl⟩ := settled_slashing (k := k)
    (doExecuteSlash_slashing (advanceWatermark s provider dimension pending.firstRound) provider
      dimension pending.firstRound)
  by_cases hk : k = (provider, dimension)
  · subst hk
    rw [if_pos rfl] at hp hl
    exact .execute who pending rfl hs hstate hclosed hp hl (hes.trans (if_pos rfl))
  · rw [if_neg hk] at hp hl
    exact .quiet hp hl (hes.trans (if_neg (Ne.symm hk)))

theorem dispatch_slashStep (c : Call A) :
    Yields (dispatch s o c) fun t => ∀ k, SlashStep s (.call o c) t k := by
  by_cases hw : Pallet.slashing ∈ c.writes
  · cases c with
    | recordBreach => exact recordBreach_slashStep
    | appealSlash => exact appealSlash_slashStep
    | resolveSlashAppeal => exact resolveSlashAppeal_slashStep
    | executeSlash => exact executeSlash_slashStep
    | _ => simp [Call.writes] at hw
  · intro t ht k
    have hwr := dispatch_writes c t ht
    have hsl : t.slashing = s.slashing := hwr.same _ hw
    exact .quiet (by rw [hsl]) (by rw [hsl]) (slashes_of_writes hwr hw)

theorem slashStep (s : Chain E) (a : Action A) (key : A × ScoreDimension) :
    SlashStep s a (step s a) key := by
  cases a with
  | call o c => exact (dispatch_slashStep c).commit (fun _ => .quiet rfl rfl rfl) key
  | blocks count => exact .quiet rfl rfl rfl

end OpenInfra.ProviderSlashing
