import OpenInfra.ControlPlane.System
import OpenInfra.Scheduler.Scores

namespace OpenInfra.Scheduler.ResourceCapability
open ControlPlane (Resources)
variable (conversion : Conversion) (overlay : Bool) (c : ResourceCapability)

def ingressMbps : Int64 := (c.bandwidth.map fun b => b.1.toInt64).getD 0

def egressMbps : Int64 := (c.bandwidth.map fun b => b.2.toInt64).getD 0

/-- `CPUCoresToMillicores` is the ranker's conversion for the positive totals that a join allows. -/
def declared : Resources :=
  ⟨conversion.cpuMillicores c.cpuTotal, c.ramTotalMb, c.storageTotalGb, c.ingressMbps, c.egressMbps⟩

/-- The bandwidth is less what an overlay costs. -/
def capacity : Resources :=
  if overlay then
    { c.declared conversion with
      ingressMbps := wireGuardEffectiveMbps c.ingressMbps
      egressMbps := wireGuardEffectiveMbps c.egressMbps }
  else
    c.declared conversion

theorem wireGuardEffectiveMbps_bandwidth (f : Int32 × Int32 → Int32) (b : Option (Int32 × Int32)) :
    wireGuardEffectiveMbps ((b.map fun b => (f b).toInt64).getD 0) ≤
      (b.map fun b => (f b).toInt64).getD 0 := by
  cases b with
  | none => exact Int64.le_refl _
  | some b =>
    refine Int64.le_iff_toInt_le.2 (wireGuardEffectiveMbps_le_self ?_)
    have hlt := (f b).toInt_lt
    change (f b).toInt64.toInt ≤ _
    rw [Int32.toInt_toInt64, maxAmount]
    omega

theorem capacity_fits : (c.capacity conversion overlay).Fits (c.declared conversion) := by
  unfold capacity
  cases overlay with
  | false => exact fun d _ => Int64.le_refl _
  | true =>
    intro d _
    cases d with
    | ingress => exact wireGuardEffectiveMbps_bandwidth Prod.fst c.bandwidth
    | egress => exact wireGuardEffectiveMbps_bandwidth Prod.snd c.bandwidth
    | _ => exact Int64.le_refl _

end OpenInfra.Scheduler.ResourceCapability

namespace OpenInfra.ControlPlane
open Frame List
open Scheduler (ResourceCapability Conversion)

/-- A provider without capabilities has none to offer. -/
def capacities (conversion : Conversion) (overlay : Bool)
    (providers : List (SchedulableProvider × Option ResourceCapability)) (providerID : String) :
    Resources :=
  providers.foldl
    (fun m p =>
      match p.2 with
      | some c => Function.update m p.1.providerID (c.capacity conversion overlay)
      | none => m)
    (fun _ => .zero) providerID

theorem Resources.Fits.trans {x y z : Resources} (h : x.Fits y) (h' : y.Fits z) : x.Fits z :=
  fun d hd => Int64.le_trans (h d hd) (h' d hd)

theorem capacities_fits {c : ResourceCapability} {conversion : Conversion}
    (hzero : Resources.zero.Fits (c.declared conversion))
    (h : ∀ x ∈ providers, x.1.providerID = p → ∀ c' ∈ x.2, c' = c) (overlay : Bool) :
    (capacities conversion overlay providers p).Fits (c.declared conversion) := by
  unfold capacities
  generalize hm : (fun _ : String => Resources.zero) = m
  have hp : (m p).Fits (c.declared conversion) := hm ▸ hzero
  clear hm
  induction providers generalizing m with
  | nil => exact hp
  | cons x providers ih =>
    obtain ⟨q, c'⟩ := x
    refine ih (fun y hy => h y (mem_cons_of_mem _ hy)) _ ?_
    cases c' with
    | none => exact hp
    | some c' =>
      dsimp only
      by_cases hq : q.providerID = p
      · rw [h (q, some c') mem_cons_self hq c' rfl, ← hq, Function.update_self]
        exact c.capacity_fits conversion overlay
      · rwa [Function.update_of_ne (Ne.symm hq)]

def Workload.origin (r : Workload) : Workload :=
  { r.inserted with state := .requested, updatedAt := r.createdAt }

def Store.SameOrigins (s t : Store) : Prop :=
  ∀ w, (t.row w).map Workload.origin = (s.row w).map Workload.origin

def Workload.standing (r : Workload) : Option Uuid × Resources := (r.projectID, r.reserved)

def Store.Keeps (s t : Store) : Prop :=
  ∀ w, (t.row w).map Workload.standing = (s.row w).map Workload.standing

section
variable {s t : Store} {r r' item : Workload}

namespace Store.SameOrigins

theorem refl (s : Store) : s.SameOrigins s := fun _ => rfl

theorem write (hr : s.row r'.workloadID = some r) (h : r'.origin = r.origin) :
    s.SameOrigins { s with workloads := s.workloads.put r' } := by
  intro w
  rw [Store.row_put]
  split
  · rename_i hw
    subst hw
    rw [hr, Option.map_some, Option.map_some, h]
  · rfl

theorem row (h : s.SameOrigins t) (hr : s.row w = some r) :
    ∃ r', t.row w = some r' ∧ r'.origin = r.origin := by
  have hw := h w
  rw [hr, Option.map_some] at hw
  exact Option.map_eq_some_iff.1 hw

theorem symm (h : s.SameOrigins t) : t.SameOrigins s := fun w => (h w).symm

theorem work (h : s.work item now op = .ok t) : s.SameOrigins t := by
  obtain ⟨r, hr, _, _, hrow, hother⟩ := Store.work_row h
  intro w
  by_cases hw : w = item.workloadID
  · rw [hw, hr, hrow]
    cases op <;> rfl
  · rw [hother w hw]

theorem requestStopIn
    (h : s.requestStopIn scope workloadID requestID now = .ok (t, item)) : s.SameOrigins t := by
  obtain ⟨r, hr, _, ⟨rfl, _⟩ | ⟨_, rfl⟩⟩ := Store.requestStopIn_eq_ok h
  · exact .refl _
  · have hw := Store.row_workloadID hr
    exact .write (r := r) (hw.symm ▸ hr) rfl

theorem reconcileEntry
    (h : s.reconcileEntry providerID entry now = .ok t) : s.SameOrigins t := by
  obtain rfl | ⟨x, r, _, hr, _, _, rfl⟩ := Store.reconcileEntry_eq_ok h
  · exact .refl _
  · have hw := Store.row_workloadID hr
    cases x.errorCode with
    | none => exact .write (r := r) (hw.symm ▸ hr) rfl
    | some code => exact .write (r := r) (hw.symm ▸ hr) rfl

theorem keeps (h : s.SameOrigins t) : s.Keeps t := by
  intro w
  have hw := congrArg (Option.map Workload.standing) (h w)
  rw [Option.map_map, Option.map_map] at hw
  exact hw

end Store.SameOrigins

theorem Store.Keeps.standing (h : s.Keeps t) (hr : s.row w = some r) (hr' : t.row w = some r') :
    r'.standing = r.standing := by
  have hw := h w
  rw [hr, hr'] at hw
  exact Option.some.inj hw

end

def Action.submits : Action → Bool
  | .createOrGet _ => true
  | _ => false

theorem sameOrigins_step (s : Plane) (ha : a.submits = false) :
    s.store.SameOrigins (step s a).store := by
  have hrefl := Store.SameOrigins.refl s.store
  cases a with
  | createOrGet candidate => cases ha
  | requestStop w q owner now =>
    exact Yields.commit (P := fun t : Plane => s.store.SameOrigins t.store)
      (.bind fun x hx => .ok (.requestStopIn hx)) hrefl
  | requestStopByProject w q project now =>
    exact Yields.commit (P := fun t : Plane => s.store.SameOrigins t.store)
      (.bind fun x hx => .ok (.requestStopIn hx)) hrefl
  | claimNext workerID lease locked now =>
    refine Yields.commit (P := fun t : Plane => s.store.SameOrigins t.store)
      (.bind fun x hx => ?_) hrefl
    obtain ⟨u, hu, _, _, hitem, heq⟩ := Store.claimNext_eq_ok hx
    apply Yields.ok
    rw [heq, hitem]
    exact .write hu rfl
  | work claim op now =>
    exact Yields.commit (P := fun t : Plane => s.store.SameOrigins t.store)
      (.bind fun item _ => .bind fun t ht => .ok (.work ht)) hrefl
  | report providerID entry now =>
    exact Yields.commit (P := fun t : Plane => s.store.SameOrigins t.store)
      (.bind fun t ht => .ok (.reconcileEntry ht)) hrefl
  | rollBack => exact hrefl

theorem keeps_step (s : Plane) (ha : a.submits = false) :
    s.store.Keeps (step s a).store := (sameOrigins_step s ha).keeps

theorem createOrGet_cases (s : Plane) (candidate : Workload) :
    (step s (.createOrGet candidate)).store = s.store ∨
      s.store.row candidate.workloadID = none ∧ candidate.inserted.Checks ∧
        (step s (.createOrGet candidate)).store =
          { s.store with workloads := s.store.workloads.put candidate.inserted } := by
  refine Yields.commit (P := fun t : Plane => t.store = s.store ∨
    s.store.row candidate.workloadID = none ∧ candidate.inserted.Checks ∧ t.store =
      { s.store with workloads := s.store.workloads.put candidate.inserted }) ?_ (.inl rfl)
  refine .bind fun x hx => .ok ?_
  have hchecks := (Store.put_eq_ok.1 hx).1
  obtain heq | ⟨hnone, heq⟩ := Store.createOrGet_eq_ok hx
  · exact .inl heq
  · exact .inr ⟨hnone, hchecks, heq⟩

def WorkloadState.occupying : List WorkloadState :=
  [.leasePending, .leased, .deploying, .running, .stopping]

def Store.Storable (s : Store) : Prop := ∀ w, ∀ r ∈ s.row w, r.reserved.Storable

theorem Store.Storable.step {s : Plane} (h : s.store.Storable) (a : Action) :
    (step s a).store.Storable := by
  intro w r hr
  cases ha : a.submits with
  | false =>
    have hw := keeps_step s ha w
    rw [hr] at hw
    obtain ⟨r₀, hr₀, hstanding⟩ := Option.map_eq_some_iff.1 hw.symm
    have hreserved : r₀.reserved = r.reserved := congrArg Prod.snd hstanding
    exact hreserved ▸ h w r₀ hr₀
  | true =>
    cases a with
    | createOrGet candidate =>
      obtain heq | ⟨_, hchecks, heq⟩ := createOrGet_cases s candidate
      · exact h w r (heq ▸ hr)
      · rw [heq] at hr
        rw [Store.row_put] at hr
        split at hr
        · cases hr
          exact hchecks.2.2.2
        · exact h w r hr
    | _ => cases ha

theorem Workload.share_nonneg {r : Workload} (h : r.reserved.Storable)
    (states : List WorkloadState) (p : String) (d : Dimension) : 0 ≤ r.share states p d := by
  unfold Workload.share
  split
  · have hd := Int64.le_iff_toInt_le.1 (h.1.get d)
    rwa [Resources.get_zero] at hd
  · exact le_rfl

def Store.Unassigned (s : Store) : Prop :=
  ∀ w, ∀ r ∈ s.row w, r.state ∈ [.requested, .scheduling] → r.providerID = none

theorem Store.Unassigned.step (h : s.Unassigned) (hst : StoreStep asked s t out) :
    t.Unassigned := by
  intro w r hr hstate
  cases hst.rowStep w with
  | same hsame => exact h w r (hsame ▸ hr) hstate
  | inserted _ ht =>
    rw [ht] at hr
    cases hr
    rfl
  | written hs ht hw ha =>
    rw [ht] at hr
    cases hr
    exact (congrArg Prod.fst ha).trans (h w _ hs (hw.moves.unassigned hstate))
  | assigned _ ht _ _ hpending =>
    rw [ht] at hr
    cases hr
    rw [hpending] at hstate
    exact absurd hstate (by decide)

structure WorkloadState.Enclosed (states : List WorkloadState) : Prop where
  entered : ∀ asked x y, Moves asked x y → y ∈ states → x ∉ [requested, scheduling] → x ∈ states
  pending : leasePending ∈ states
  scheduling : WorkloadState.scheduling ∉ states

theorem WorkloadState.reserving_enclosed : Enclosed reserving := by
  refine ⟨fun asked x y h hy hx => ?_, by decide, by decide⟩
  cases h with
  | stay => exact hy
  | schedule => exact absurd hy (by decide)
  | assign => exact absurd hx (by decide)
  | lease => decide
  | deploy => decide
  | start => decide
  | stop => exact absurd hy (by decide)
  | halt => exact absurd hy (by decide)
  | fail => exact absurd hy (by decide)

theorem WorkloadState.occupying_enclosed : Enclosed occupying := by
  refine ⟨fun asked x y h hy hx => ?_, by decide, by decide⟩
  cases h with
  | stay => exact hy
  | schedule => exact absurd hy (by decide)
  | assign => exact absurd hx (by decide)
  | lease => decide
  | deploy => decide
  | start => decide
  | stop _ hlive =>
    revert hx hlive
    cases x <;> decide
  | halt => exact absurd hy (by decide)
  | fail => exact absurd hy (by decide)

section
variable {s t : Store} {states : List WorkloadState}

theorem share_le {r r' : Workload} (hstates : WorkloadState.Enclosed states)
    (hstored : r.reserved.Storable)
    (hr : r.state ∈ [.requested, .scheduling] → r.providerID = none) (h : Written asked r r')
    (ha : r'.assigned = r.assigned) (hstanding : r'.standing = r.standing) (p : String)
    (d : Dimension) : r'.share states p d ≤ r.share states p d := by
  have hp : r'.providerID = r.providerID := congrArg Prod.fst ha
  have hreserved : r'.reserved = r.reserved := congrArg Prod.snd hstanding
  by_cases hin : r'.providerID = some p ∧ r'.state ∈ states
  · obtain ⟨hprovider, hstate⟩ := hin
    have hassigned : r.state ∉ [.requested, .scheduling] := by
      intro hearly
      rw [hp, hr hearly] at hprovider
      cases hprovider
    unfold Workload.share
    rw [if_pos ⟨hprovider, hstate⟩,
      if_pos ⟨hp ▸ hprovider, hstates.entered _ _ _ h.moves hstate hassigned⟩, hreserved]
  · rw [Workload.share, if_neg hin]
    exact Workload.share_nonneg hstored states p d

theorem reservedIn_insert {candidate : Workload} (hnone : s.row candidate.workloadID = none)
    (p : String) (d : Dimension) :
    Store.reservedIn { s with workloads := s.workloads.put candidate.inserted } states p d =
      s.reservedIn states p d := by
  have htotal : (s.workloads.put candidate.inserted).total (Workload.share states p d) = _ :=
    Table.total_put_new hnone
  have hzero : candidate.inserted.share states p d = 0 := if_neg fun h => nomatch h.1
  rwa [hzero, Int.add_zero] at htotal

theorem reservedIn_le (hstates : WorkloadState.Enclosed states) (hun : s.Unassigned)
    (hstored : s.Storable) (hst : StoreStep asked s t []) (hkeep : s.Keeps t) (p : String)
    (d : Dimension) : t.reservedIn states p d ≤ s.reservedIn states p d := by
  unfold Store.reservedIn
  cases hst with
  | same => exact le_rfl
  | rollBack => exact le_rfl
  | @insert candidate hnone =>
    have hw := hkeep candidate.workloadID
    rw [hnone, Store.row_put, show candidate.inserted.workloadID = candidate.workloadID from rfl,
      if_pos rfl] at hw
    cases hw
  | @write r r' hr hw ha =>
    have hstanding := hkeep.standing hr (by rw [Store.row_put, if_pos hw.id.symm])
    have htotal := Table.total_put (f := Workload.share states p d) (hw.id.symm ▸ hr)
    have hle := share_le hstates (hstored _ r hr) (hun _ r hr) hw ha hstanding p d
    dsimp only
    omega

theorem reservedIn_assign (hstates : WorkloadState.Enclosed states)
    (hst : StoreStep asked s t [x]) (hkeep : s.Keeps t) (hr : s.row x.workloadID = some r)
    (p : String) (d : Dimension) :
    t.reservedIn states p d =
      s.reservedIn states p d + if x.providerID = p then (r.reserved.get d).toInt else 0 := by
  unfold Store.reservedIn
  cases hst with
  | @assign u r' _ hu hw hsched hpending hx hl ha =>
    rw [hx, hu] at hr
    cases hr
    have hstanding := hkeep.standing hu
      ((Table.lookup_put ..).trans (if_pos hw.id.symm))
    have htotal := Table.total_put (f := Workload.share states p d) (hw.id.symm ▸ hu)
    have hzero : r.share states p d = 0 :=
      if_neg fun h => hstates.scheduling (hsched ▸ h.2)
    have hreserved : r'.reserved = r.reserved := congrArg Prod.snd hstanding
    have hprovider : r'.providerID = some x.providerID := congrArg Prod.fst ha
    have hshare : r'.share states p d =
        if x.providerID = p then (r.reserved.get d).toInt else 0 := by
      unfold Workload.share
      simp only [hprovider, hpending, hreserved, Option.some.injEq, hstates.pending, and_true]
    dsimp only
    omega

end

theorem assignLease_cases (hclaimed : s.AllClaimed) (claim : Nat) (p : String)
    (hash : BitVec 256) (capacity : Resources) (aborted : Bool) (now : Time) :
    let a := Action.work claim (.assignLease p hash capacity aborted) now
    step s a = s ∨ ∃ item, s.claims[claim]? = some item ∧
      s.store.row item.workloadID = some item ∧
      (∃ reserved, s.store.providerReservedTotals p = .ok reserved ∧
        (reserved.add item.reserved).Fits capacity) ∧
      ∀ states, WorkloadState.Enclosed states → ∀ q d,
        (step s a).store.reservedIn states q d = s.store.reservedIn states q d +
          if p = q then (item.reserved.get d).toInt else 0 := by
  intro a
  have hst := storeStep s a
  have hkeep := keeps_step (a := a) s rfl
  cases hc : s.claims[claim]? with
  | none => exact .inl (step_work_none hc)
  | some item =>
    have hstep : step s a = _ := step_work_some hc
    cases hl : s.store.assignLease item p hash capacity aborted now with
    | error e =>
      left
      rw [hstep, Store.work, hl]
      rfl
    | ok x =>
      have hassigned : assignments s a = [⟨item.workloadID, p, x.2, hash⟩] := by
        simp only [a, assignments, hc, hl]
      rw [hassigned] at hst
      obtain ⟨reserved, u, hreserved, hfits, hu, _⟩ := Store.assignLease_eq_ok hl
      obtain ⟨r, hr, ⟨hheld, _⟩, _⟩ := Store.workerWrite_eq_ok.1 hu
      have hitem : r = item := (hclaimed item (mem_of_getElem? hc)).held hr hheld
      subst hitem
      refine .inr ⟨r, rfl, hr, ⟨reserved, hreserved, hfits⟩, fun states hstates q d => ?_⟩
      exact reservedIn_assign hstates hst hkeep hr q d

def Action.assignsTo (p : String) : Action → Bool
  | .work _ (.assignLease q ..) _ => q = p
  | _ => false

/-- Assignments to `p` use one declared capability. -/
def Action.Declares (conversion : Conversion) (p : String) (c : ResourceCapability) :
    Action → Prop
  | .work _ (.assignLease q _ capacity _) _ => q = p → ∃ overlay providers,
      (∀ x ∈ providers, x.1.providerID = p → ∀ c' ∈ x.2, c' = c) ∧
        capacity = capacities conversion overlay providers p
  | _ => True

def Action.assigns (p : String) (s : Plane) : Action → Option Workload
  | .work claim (.assignLease q ..) _ => if q = p then s.claims[claim]? else none
  | _ => none

/-- The sums that an assignment to `p` compares stay within `int64`. -/
def Exact (p : String) (s : Plane) (a : Action) : Prop :=
  ∀ item ∈ a.assigns p s, ∀ d ∈ Dimension.all,
    s.store.reservedIn WorkloadState.reserving p d + (item.reserved.get d).toInt < 2 ^ 63

instance (p : String) (s : Plane) (a : Action) : Decidable (Exact p s a) :=
  inferInstanceAs (Decidable (∀ _ ∈ _, _))

/-- No workload of `p` is on its way to be stopped when one is assigned to it. -/
def Settled (p : String) (s : Plane) (a : Action) : Prop :=
  a.assignsTo p → ∀ r ∈ s.store.workloads.rows, r.providerID = some p → r.state ≠ .stopping

instance (p : String) (s : Plane) (a : Action) : Decidable (Settled p s a) :=
  inferInstanceAs (Decidable (_ → _))

/-- What the workloads of `p` in `states` reserve, within the amounts `c`. -/
def Store.Within (s : Store) (states : List WorkloadState) (p : String) (c : Resources) : Prop :=
  ∀ d ∈ Dimension.all, s.reservedIn states p d ≤ (c.get d).toInt

instance (s : Store) (states : List WorkloadState) (p : String) (c : Resources) :
    Decidable (s.Within states p c) := inferInstanceAs (Decidable (∀ _ ∈ _, _))

/-- The reservations in `states` fit into what the provider declares. -/
structure Bounded (states : List WorkloadState) (p : String) (c : Resources) (s : Plane) :
    Prop where
  claimed : s.AllClaimed
  unassigned : s.store.Unassigned
  storable : s.store.Storable
  within : s.store.Within states p c

section
variable {s : Plane} {states : List WorkloadState} {c : ResourceCapability}
  {conversion : Conversion}

theorem Bounded.init (states : List WorkloadState) (p : String) {c : Resources}
    (hc : Resources.zero.Fits c) : Bounded states p c Plane.init := by
  refine ⟨fun x hx => ?_, fun _ _ hr => absurd hr row_empty, fun _ _ hr => absurd hr row_empty,
    fun d _ => ?_⟩
  · cases hx
  · have hd := Int64.le_iff_toInt_le.1 (hc.get d)
    rwa [Resources.get_zero] at hd

/-- A comparison of sums that do not wrap is one of the exact sums. -/
theorem assigned_within {item : Workload} (hitem : item.reserved.Storable)
    (hreserved : s.store.providerReservedTotals p = .ok reserved)
    (hfits : (reserved.add item.reserved).Fits capacity)
    (hexact : s.store.reservedIn WorkloadState.reserving p d + (item.reserved.get d).toInt <
      2 ^ 63) :
    s.store.reservedIn WorkloadState.reserving p d + (item.reserved.get d).toInt ≤
      (capacity.get d).toInt := by
  have hsum := Store.providerReservedTotals_eq_ok hreserved d
  have hpos := Int64.le_iff_toInt_le.1 (hitem.1.get d)
  rw [Resources.get_zero, Int64.toInt_zero] at hpos
  have hle := Int64.le_iff_toInt_le.1 (hfits.get d)
  have hlow := (reserved.get d).le_toInt
  rwa [Resources.get_add, Int64.toInt_add,
    Int.bmod_eq_of_le (by norm_num; omega) (by norm_num; omega), hsum] at hle

theorem Bounded.step (hstates : WorkloadState.Enclosed states)
    (hzero : Resources.zero.Fits (c.declared conversion))
    (h : Bounded states p (c.declared conversion) s) (hdeclares : a.Declares conversion p c)
    (hexact : Exact p s a)
    (hsame : a.assignsTo p →
      s.store.reservedIn states p = s.store.reservedIn WorkloadState.reserving p) :
    Bounded states p (c.declared conversion) (step s a) := by
  refine ⟨h.claimed.step a, h.unassigned.step (storeStep s a), h.storable.step a, fun d hd => ?_⟩
  have hwithin := h.within d hd
  have hother (hout : assignments s a = []) (ha : a.submits = false) :
      (ControlPlane.step s a).store.reservedIn states p d ≤ ((c.declared conversion).get d).toInt :=
    (reservedIn_le hstates h.unassigned h.storable (hout ▸ storeStep s a) (keeps_step s ha) p
      d).trans hwithin
  cases a with
  | createOrGet candidate =>
    obtain heq | ⟨hnone, _, heq⟩ := createOrGet_cases s candidate
    · rwa [heq]
    · rwa [heq, reservedIn_insert hnone]
  | work claim op now =>
    cases op with
    | assignLease q hash capacity aborted =>
      obtain heq | ⟨item, hitem, hrow, ⟨reserved, hreserved, hfits⟩, hadd⟩ :=
        assignLease_cases h.claimed claim q hash capacity aborted now
      · rwa [heq]
      · rw [hadd states hstates p d]
        by_cases hq : q = p
        · subst hq
          obtain ⟨overlay, providers, hlisted, rfl⟩ := hdeclares rfl
          rw [if_pos rfl, hsame (decide_eq_true rfl)]
          exact assigned_within (h.storable _ item hrow) hreserved
            (hfits.trans (capacities_fits hzero hlisted overlay))
            (hexact item ((if_pos rfl).trans hitem) d hd)
        · rwa [if_neg hq, Int.add_zero]
    | _ => exact hother rfl rfl
  | _ => exact hother rfl rfl

theorem reservedIn_occupying
    (h : ∀ r ∈ s.store.workloads.rows, r.providerID = some p → r.state ≠ .stopping) :
    s.store.reservedIn WorkloadState.occupying p =
      s.store.reservedIn WorkloadState.reserving p := by
  funext d
  unfold Store.reservedIn Table.total
  congr 1
  refine map_congr_left fun r hr => if_congr (and_congr_right fun hp => ?_) rfl rfl
  have hne := h r hr hp
  revert hne
  cases r.state <;> decide

end

/-- Within capacity if no sum wraps and nothing is assigned during a stop. -/
theorem provider_within_capacity (conversion : Conversion) (p : String) (c : ResourceCapability)
    (acts : List Action) (hzero : Resources.zero.Fits (c.declared conversion))
    (hdeclares : Along step (fun _ a => a.Declares conversion p c) Plane.init acts)
    (hexact : Along step (Exact p) Plane.init acts) :
    Throughout step
      (fun s => s.store.Within WorkloadState.reserving p (c.declared conversion))
      Plane.init acts ∧
    (Along step (Settled p) Plane.init acts →
      Throughout step
        (fun s => s.store.Within WorkloadState.occupying p (c.declared conversion))
        Plane.init acts) := by
  constructor
  · have h := (hdeclares.and hexact).throughout (Bounded.init WorkloadState.reserving p hzero)
      fun s a hs ha => hs.step WorkloadState.reserving_enclosed hzero ha.1 ha.2 fun _ => rfl
    exact h.mono fun s hs => hs.within
  · intro hsettled
    have h := ((hdeclares.and hexact).and hsettled).throughout
      (Bounded.init WorkloadState.occupying p hzero)
      fun s a hs ha => hs.step WorkloadState.occupying_enclosed hzero ha.1.1 ha.1.2
        fun hassigns => reservedIn_occupying (ha.2 hassigns)
    exact h.mono fun s hs => hs.within

open Scheduler.Ranker (roundConversion)

def sampleCapability (ramMb : Int64) : ResourceCapability :=
  ⟨some 1, some 1, ramMb, ramMb, 10, 10, none, "", false⟩

def assigned (capability : ResourceCapability) (reserved : Resources) (locked : List Uuid)
    (id : Uuid) (n : Nat) : List Action :=
  [.createOrGet { submission id with reserved }, .claimNext "worker" 10 locked 0,
    .work n .beginScheduling 0, .claimNext "worker" 10 locked 0,
    .work (n + 1) (.assignLease "p" 0 (capability.declared roundConversion) false)
      0]

theorem assigned_declares (s : Plane) (c : ResourceCapability) (reserved : Resources)
    (locked : List Uuid) (id : Uuid) (n : Nat) :
    Along step (fun _ a => a.Declares roundConversion "p" c) s
      (assigned c reserved locked id n) := by
  refine ⟨trivial, trivial, trivial, trivial, fun _ => ?_, trivial⟩
  refine ⟨false, [(⟨"p", some 2, "https://p"⟩, some c)], ?_, rfl⟩
  intro x hx _ c' hc
  rw [mem_singleton.1 hx] at hc
  cases hc
  rfl

theorem provider_within_capacity_full :
    let c := sampleCapability 1024
    let acts := assigned c ⟨1000, 1024, 10, 0, 0⟩ [] 7 0 ++
      assigned c ⟨1000, 1024, 10, 0, 0⟩ [7] 8 2
    let s := run step Plane.init acts
    s.store.reservedIn WorkloadState.occupying "p" .ram = 1024 ∧
      (s.store.row 8).map (·.state) = some .scheduling ∧
      s.store.Within WorkloadState.occupying "p" (c.declared roundConversion) := by
  intro c acts s
  refine ⟨by decide +kernel, by decide +kernel, ?_⟩
  have hdeclares : Along step (fun _ a => a.Declares roundConversion "p" c)
      Plane.init acts := Along.append.2 ⟨assigned_declares .., assigned_declares ..⟩
  exact ((provider_within_capacity roundConversion "p" c acts (by decide +kernel)
    hdeclares (by decide +kernel)).2 (by decide +kernel)).last

/-- A stop frees capacity at once, and a sum that wraps passes the comparison. -/
theorem provider_overcommitted :
    (let c := sampleCapability 1024
      let reserved : Resources := ⟨1000, 1024, 10, 0, 0⟩
      let acts :=
        assigned c reserved [] 7 0 ++ [.requestStop 7 9 1 0] ++ assigned c reserved [7] 8 2
      let s := run step Plane.init acts
      (s.store.row 7).map (·.state) = some .stopping ∧
        (s.store.row 8).map (·.state) = some .leasePending ∧
        s.store.reservedIn WorkloadState.occupying "p" .cpu = 2000 ∧
        ¬ s.store.Within WorkloadState.occupying "p"
          (c.declared roundConversion)) ∧
    let c := sampleCapability 9223372036854775807
    let acts := assigned c ⟨500, 9223372036854775807, 0, 0, 0⟩ [] 7 0 ++
      assigned c ⟨500, 512, 0, 0, 0⟩ [7] 8 2
    let s := run step Plane.init acts
    (s.store.row 7).map (·.state) = some .leasePending ∧
      (s.store.row 8).map (·.state) = some .leasePending ∧
      s.store.reservedIn WorkloadState.reserving "p" .ram = 2 ^ 63 + 511 ∧
      ¬ s.store.Within WorkloadState.reserving "p"
        (c.declared roundConversion) := by
  decide +kernel

end OpenInfra.ControlPlane
