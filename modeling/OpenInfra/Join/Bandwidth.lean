import OpenInfra.Join.Revocation

namespace OpenInfra.Join
open Frame Function List
open ControlPlane (Uuid Time)

structure BandwidthUsage extends WorkloadBandwidthUsage where
  ingressBytesTotal : UInt64
  egressBytesTotal : UInt64

def BandwidthUsage.InRange (entry : BandwidthUsage) : Prop :=
  ¬ (maxInt64 < entry.ingressBytesTotal ∨ maxInt64 < entry.egressBytesTotal)

instance (entry : BandwidthUsage) : Decidable entry.InRange := inferInstanceAs (Decidable (¬ _))

structure Counters where
  ingress : Nat
  egress : Nat
  windowStartedAt : Time
  deriving DecidableEq

/-- The `WHERE` clause of the upsert. -/
def Counters.Replaces (c stored : Counters) : Prop :=
  c.windowStartedAt ≠ stored.windowStartedAt ∨
    stored.ingress ≤ c.ingress ∧ stored.egress ≤ c.egress

instance (c stored : Counters) : Decidable (c.Replaces stored) :=
  inferInstanceAs (Decidable (_ ∨ _))

abbrev UsageRow := Uuid × Counters

abbrev UsageRows := Uuid → Option Counters

def Fits (r : UsageRow) (u : UsageRows) : Prop := ∀ stored ∈ u r.1, r.2.Replaces stored

instance (r : UsageRow) (u : UsageRows) : Decidable (Fits r u) :=
  inferInstanceAs (Decidable (∀ stored ∈ u r.1, _))

/-- `INSERT ... ON CONFLICT DO UPDATE`, which fails at a second write. -/
def upsert : List UsageRow → List Uuid → UsageRows → Option UsageRows
  | [], _, u => some u
  | r :: rows, written, u =>
    if r.1 ∈ written then none
    else if Fits r u then
      upsert rows (r.1 :: written) (Function.update u r.1 (some r.2))
    else upsert rows written u

structure BandwidthStore where
  workloads : List Uuid
  usage : String → UsageRows

inductive BandwidthError where
  | outOfRange (workloadId : String)
  | statement
  deriving DecidableEq

/-- The order in which the database hands the rows of a join to the insert. -/
structure Planner where
  order : List UsageRow → List UsageRow
  perm : ∀ rows, (order rows).Perm rows

section
variable (cast : String → Option Uuid)

def BandwidthUsage.row (entry : BandwidthUsage) : Option UsageRow :=
  (cast entry.workloadId).map (·, ⟨entry.ingressBytesTotal.toNat, entry.egressBytesTotal.toNat,
    entry.windowStartedAt.getD 0⟩)

/-- None if an identifier is no `uuid` of the database. -/
def sentRows (entries : List BandwidthUsage) : Option (List UsageRow) :=
  let sent := entries.filter (·.InRange)
  if ∀ e ∈ sent, (e.row cast).isSome then some (sent.filterMap (·.row cast)) else none

def recordUsage (planner : Planner) (s : BandwidthStore) (providerID : String)
    (entries : List BandwidthUsage) : List BandwidthError × BandwidthStore :=
  let skipped := (entries.filter (¬ ·.InRange)).map (.outOfRange ·.workloadId)
  if entries.filter (·.InRange) = [] then (skipped, s)
  else
    match (sentRows cast entries).bind fun rows =>
      upsert (planner.order (rows.filter (·.1 ∈ s.workloads))) [] (s.usage providerID) with
    | none => (skipped ++ [.statement], s)
    | some u => (skipped, { s with usage := Function.update s.usage providerID u })

inductive BandwidthEvent where
  | submit (workloadID : Uuid)
  | report (planner : Planner) (providerID : String) (entries : List BandwidthUsage)

def BandwidthStore.step (s : BandwidthStore) : BandwidthEvent → BandwidthStore
  | .submit workloadID => { s with workloads := workloadID :: s.workloads }
  | .report planner providerID entries => (recordUsage cast planner s providerID entries).2

end

def Accepted (s : BandwidthStore) (p : String) (r : UsageRow) : Prop :=
  r.1 ∈ s.workloads ∧ Fits r (s.usage p)

def Acceptable (cast : String → Option Uuid) (s : BandwidthStore) (p : String)
    (entries : List BandwidthUsage) (r : UsageRow) : Prop :=
  Accepted s p r ∧ ∃ e ∈ entries, e.InRange ∧ r ∈ e.row cast

def Unrepeated (u : UsageRows) (rows : List UsageRow) : Prop :=
  rows.Pairwise fun r r' => Fits r u → r.1 ≠ r'.1

variable {cast : String → Option Uuid} {u u' u₀ : UsageRows} {s : BandwidthStore}

theorem fits_congr (h : u r.1 = u₀ r.1) : Fits r u ↔ Fits r u₀ := by
  unfold Fits
  rw [h]

theorem agrees_update (h : ∀ w ∉ written, u w = u₀ w) (r : UsageRow) :
    ∀ w ∉ r.1 :: written, update u r.1 (some r.2) w = u₀ w := by
  intro w hw
  obtain ⟨hne, hw⟩ := not_or.1 (fun hmem => hw (mem_cons.2 hmem))
  rw [update_of_ne hne, h w hw]

theorem upsert_eq_some (h : ∀ w ∉ written, u w = u₀ w) (hu : upsert rows written u = some u') :
    (∀ r ∈ rows, r.1 ∉ written) ∧ Unrepeated u₀ rows ∧
      (∀ r ∈ rows, Fits r u₀ → u' r.1 = some r.2) ∧
      ∀ w, (∀ r ∈ rows, Fits r u₀ → r.1 ≠ w) → u' w = u w := by
  induction rows generalizing written u with
  | nil =>
    cases hu
    exact ⟨nofun, .nil, nofun, fun _ _ => rfl⟩
  | cons r rows ih =>
    unfold upsert at hu
    split at hu
    · cases hu
    · rename_i hnew
      have hfits := fits_congr (h r.1 hnew)
      split at hu
      · rename_i hr
        obtain ⟨hwritten, hunrepeated, hstored, hkept⟩ := ih (agrees_update h r) hu
        have hne (r' : UsageRow) (hr' : r' ∈ rows) : r'.1 ≠ r.1 :=
          fun heq => hwritten r' hr' (heq ▸ mem_cons_self)
        refine ⟨?_, ?_, ?_, fun w hw => ?_⟩
        · exact forall_mem_cons.2 ⟨hnew, fun r' hr' hmem =>
            hwritten r' hr' (mem_cons_of_mem _ hmem)⟩
        · exact pairwise_cons.2 ⟨fun r' hr' _ => (hne r' hr').symm, hunrepeated⟩
        · refine forall_mem_cons.2 ⟨fun _ => ?_, hstored⟩
          rw [hkept r.1 fun r' hr' _ => hne r' hr', update_self]
        · obtain ⟨hrw, hw⟩ := forall_mem_cons.1 hw
          rw [hkept w hw, update_of_ne (hrw (hfits.1 hr)).symm]
      · rename_i hr
        have hr : ¬ Fits r u₀ := fun hr' => hr (hfits.2 hr')
        obtain ⟨hwritten, hunrepeated, hstored, hkept⟩ := ih h hu
        refine ⟨forall_mem_cons.2 ⟨hnew, hwritten⟩, ?_, ?_, fun w hw => ?_⟩
        · exact pairwise_cons.2 ⟨fun _ _ hr' => absurd hr' hr, hunrepeated⟩
        · exact forall_mem_cons.2 ⟨fun hr' => absurd hr' hr, hstored⟩
        · exact hkept w (forall_mem_cons.1 hw).2

theorem upsert_of_unrepeated (h : ∀ w ∉ written, u w = u₀ w) (hnew : ∀ r ∈ rows, r.1 ∉ written)
    (hrows : Unrepeated u₀ rows) : ∃ u', upsert rows written u = some u' := by
  induction rows generalizing written u with
  | nil => exact ⟨u, rfl⟩
  | cons r rows ih =>
    obtain ⟨hr, hnew⟩ := forall_mem_cons.1 hnew
    obtain ⟨hfirst, hrows⟩ := pairwise_cons.1 hrows
    unfold upsert
    rw [if_neg hr]
    split
    · rename_i hfits
      refine ih (agrees_update h r) (fun r' hr' hmem => ?_) hrows
      obtain heq | hmem := mem_cons.1 hmem
      · exact hfirst r' hr' ((fits_congr (h r.1 hr)).1 hfits) heq.symm
      · exact hnew r' hr' hmem
    · exact ih h hnew hrows

theorem recordUsage_eq (planner : Planner) (s : BandwidthStore) (p : String)
    (entries : List BandwidthUsage) : (recordUsage cast planner s p entries).2 =
      match (sentRows cast entries).bind fun rows =>
        upsert (planner.order (rows.filter (·.1 ∈ s.workloads))) [] (s.usage p) with
      | none => s
      | some u => { s with usage := update s.usage p u } := by
  unfold recordUsage
  dsimp only
  split
  · rename_i hnone
    have hrows : sentRows cast entries = some [] := by
      unfold sentRows
      rw [hnone]
      rfl
    have horder : planner.order [] = [] := (planner.perm []).eq_nil
    rw [hrows]
    simp [horder, upsert]
  · split <;> simp [*]

theorem mem_sentRows (h : sentRows cast entries = some rows)
    (hr : ∃ e ∈ entries, e.InRange ∧ r ∈ e.row cast) : r ∈ rows := by
  obtain ⟨e, he, hrange, hr⟩ := hr
  unfold sentRows at h
  dsimp only at h
  split at h
  · cases h
    exact mem_filterMap.2 ⟨e, mem_filter.2 ⟨he, decide_eq_true hrange⟩, hr⟩
  · cases h

theorem stored_of_upsert (hrows : sentRows cast entries = some rows)
    (hu : upsert (planner.order (rows.filter (·.1 ∈ s.workloads))) [] (s.usage p) = some u)
    (hr : Acceptable cast s p entries r) :
    (recordUsage cast planner s p entries).2.usage p r.1 = some r.2 := by
  obtain ⟨⟨hworkload, hfits⟩, hsent⟩ := hr
  obtain ⟨-, -, hstored, -⟩ := upsert_eq_some (fun _ _ => rfl) hu
  rw [recordUsage_eq, hrows, Option.bind_some, hu]
  dsimp only
  rw [update_self]
  refine hstored r ((planner.perm _).mem_iff.2 (mem_filter.2 ⟨?_, ?_⟩)) hfits
  · exact mem_sentRows hrows hsent
  · exact decide_eq_true hworkload

/-- No workload with an acceptable row has a second row. -/
def Alone (s : BandwidthStore) (p : String) (rows : List UsageRow) : Prop :=
  rows.Pairwise fun r r' => Accepted s p r ∨ Accepted s p r' → r.1 ≠ r'.1

theorem Alone.unrepeated (h : Alone s p rows) (planner : Planner) :
    Unrepeated (s.usage p) (planner.order (rows.filter (·.1 ∈ s.workloads))) := by
  have hperm := planner.perm (rows.filter (·.1 ∈ s.workloads))
  have hpairwise := (hperm.pairwise_iff fun hne hor => (hne hor.symm).symm).2 (h.filter _)
  refine hpairwise.imp_of_mem fun hr _ hne hfits => hne (.inl ⟨?_, hfits⟩)
  exact of_decide_eq_true (mem_filter.1 (hperm.mem_iff.1 hr)).2

theorem alone_of_unrepeated (h : Unrepeated (s.usage p) (rows.filter (·.1 ∈ s.workloads)))
    (h' : Unrepeated (s.usage p) (rows.filter (·.1 ∈ s.workloads)).reverse) : Alone s p rows := by
  have hboth := pairwise_filter.1 (h.and (pairwise_reverse.1 h'))
  refine hboth.imp fun hne hor heq => ?_
  obtain haccepted | haccepted := hor
  · have hmem := haccepted.1
    exact (hne (decide_eq_true hmem) (decide_eq_true (heq ▸ hmem))).1 haccepted.2 heq
  · have hmem := haccepted.1
    exact (hne (decide_eq_true (heq ▸ hmem)) (decide_eq_true hmem)).2 haccepted.2 heq.symm

theorem step_usage (s : BandwidthStore) (e : BandwidthEvent) (q : String) (w : Uuid) :
    (s.step cast e).usage q w = s.usage q w ∨
      ∃ c, (s.step cast e).usage q w = some c ∧ ∀ stored ∈ s.usage q w, c.Replaces stored := by
  cases e with
  | submit workloadID => exact .inl rfl
  | report planner p entries =>
    dsimp only [BandwidthStore.step]
    rw [recordUsage_eq]
    split
    · exact .inl rfl
    · rename_i u hu
      obtain ⟨rows, -, hu⟩ := Option.bind_eq_some_iff.1 hu
      obtain ⟨-, -, hstored, hkept⟩ := upsert_eq_some (fun _ _ => rfl) hu
      dsimp only
      by_cases hq : q = p
      · subst hq
        rw [update_self]
        by_cases hw : ∃ r ∈ planner.order (rows.filter (·.1 ∈ s.workloads)),
            Fits r (s.usage q) ∧ r.1 = w
        · obtain ⟨r, hr, hfits, rfl⟩ := hw
          exact .inr ⟨r.2, hstored r hr hfits, hfits⟩
        · exact .inl (hkept w fun r hr hfits heq => hw ⟨r, hr, hfits, heq⟩)
      · rw [update_of_ne hq]
        exact .inl rfl

/-- Only bad ids and repeated workloads block other entries. -/
theorem bandwidth_independent_iff (cast : String → Option Uuid) :
    (∀ s p entries,
      (∀ planner r, Acceptable cast s p entries r →
        (recordUsage cast planner s p entries).2.usage p r.1 = some r.2) ↔
      (∀ r, Acceptable cast s p entries r → s.usage p r.1 = some r.2) ∨
        ∃ rows, sentRows cast entries = some rows ∧ Alone s p rows) ∧
    ∀ s events q w start c, Throughout (BandwidthStore.step cast)
        (fun s => (s.usage q w).map (·.windowStartedAt) = some start) s events →
      s.usage q w = some c → ∃ c', (run (BandwidthStore.step cast) s events).usage q w = some c' ∧
        c.ingress ≤ c'.ingress ∧ c.egress ≤ c'.egress := by
  refine ⟨fun s p entries => ⟨fun h => ?_, ?_⟩, fun s events q w start c h hc => ?_⟩
  · by_cases hstored : ∀ r, Acceptable cast s p entries r → s.usage p r.1 = some r.2
    · exact .inl hstored
    · push Not at hstored
      obtain ⟨r, hr, hne⟩ := hstored
      -- a statement that fails leaves this row as it was
      have hsome (planner : Planner) : ∃ rows, sentRows cast entries = some rows ∧
          Unrepeated (s.usage p) (planner.order (rows.filter (·.1 ∈ s.workloads))) := by
        have hnew := h planner r hr
        rw [recordUsage_eq] at hnew
        split at hnew
        · exact absurd hnew hne
        · rename_i u hu
          obtain ⟨rows, hrows, hu⟩ := Option.bind_eq_some_iff.1 hu
          exact ⟨rows, hrows, (upsert_eq_some (fun _ _ => rfl) hu).2.1⟩
      obtain ⟨rows, hrows, hforward⟩ := hsome ⟨id, fun _ => .rfl⟩
      obtain ⟨rows', hrows', hbackward⟩ := hsome ⟨reverse, reverse_perm⟩
      cases hrows.symm.trans hrows'
      exact .inr ⟨rows, hrows, alone_of_unrepeated hforward hbackward⟩
  · rintro (hstored | ⟨rows, hrows, halone⟩) planner r hr
    · cases hu : (sentRows cast entries).bind fun rows =>
          upsert (planner.order (rows.filter (·.1 ∈ s.workloads))) [] (s.usage p) with
      | none =>
        rw [recordUsage_eq, hu]
        exact hstored r hr
      | some u =>
        obtain ⟨rows, hrows, hu⟩ := Option.bind_eq_some_iff.1 hu
        exact stored_of_upsert hrows hu hr
    · obtain ⟨u, hu⟩ := upsert_of_unrepeated (fun _ _ => rfl) (fun _ _ => not_mem_nil)
        (halone.unrepeated planner)
      exact stored_of_upsert hrows hu hr
  · induction events generalizing s c with
    | nil => exact ⟨c, hc, le_rfl, le_rfl⟩
    | cons e events ih =>
      obtain ⟨hstart, h⟩ := h
      obtain hsame | ⟨c₁, hc₁, hreplaces⟩ := step_usage s e q w
      · exact ih _ _ h (hsame.trans hc)
      · have hnext := h.head
        rw [hc₁] at hnext
        rw [hc] at hstart
        obtain hwindow | ⟨hingress, hegress⟩ := hreplaces c hc
        · exact absurd (Option.some.inj (hnext.trans hstart.symm)) hwindow
        · obtain ⟨c', hc', hi, he⟩ := ih _ _ h hc₁
          exact ⟨c', hc', hingress.trans hi, hegress.trans he⟩

def sampleUsage (workloadId : String) (ingress : UInt64) : BandwidthUsage :=
  ⟨⟨workloadId, some 1⟩, ingress, 0⟩

theorem repeated_entry_blocks_others :
    let s : BandwidthStore := ⟨[1, 2], fun _ _ => none⟩
    let cast := fun id => if id = "urn" then none else sampleLibrary.parseUUID id
    let planner : Planner := ⟨id, fun _ => .rfl⟩
    let repeated := [sampleUsage "a" 10, sampleUsage "b" 20, sampleUsage "bb" 30]
    let urn := [sampleUsage "a" 10, sampleUsage "urn" 20]
    ∀ entries ∈ [repeated, urn],
      validateWorkloadBandwidth sampleLibrary
        (entries.map fun e => some e.toWorkloadBandwidthUsage) = .ok () ∧
      (recordUsage cast planner s "p" entries).1 = [.statement] ∧
      (recordUsage cast planner s "p" entries).2.usage "p" 1 = none ∧
      (recordUsage cast planner s "p" entries).2.usage "p" 2 = none := by
  decide +kernel

end OpenInfra.Join
