import OpenInfra.ControlPlane.Worker

namespace OpenInfra.ControlPlane
open Frame List
open OpenInfraLease (LeaseState)

/-- The store, the claims with their calls, the chain and the overlay. -/
structure System where
  store : Store
  tasks : List (Workload × Task)
  leases : Leases
  overlay : Manager

structure Env where
  now : Time
  providers : Except Text (List SchedulableProvider)
  selected : Except Text (String × Resources)
  running : Except Text Bool
  volumes : Except Text (List Volume)
  port : Except Text (Option PortSecurity)
  deployed : Except Text String
  stopped : Except Text Unit
  chain : ChainOutcomes
  backend : Backend
  aborted : Bool

def Workload.submitted (candidate : Workload) : Workload := { candidate with state := .requested }

def WorkerOp.racing (op : WorkerOp) (aborted : Bool) : WorkerOp :=
  match op with
  | .assignLease providerID resourceHash capacity _ =>
    .assignLease providerID resourceHash capacity aborted
  | op => op

inductive Event where
  | submit (candidate : Workload)
  | requestStop (workloadID requestID ownerID : Uuid) (now : Time)
  | requestStopByProject (workloadID requestID projectID : Uuid) (now : Time)
  | claim (workerID : String) (lease : Nat) (locked : List Uuid) (now : Time)
  | proceed (task : Nat) (env : Env)
  | report (providerID : String) (entry : WorkloadStatusSummary) (now : Time)
  | rollBack
  | updateLeaseState (leaseID : LeaseId) (newState : LeaseState)

namespace System

def init (leases : Leases) (firstPort lastPort : Nat) : System :=
  ⟨.empty, [], leases, .init firstPort lastPort⟩

def plane (s : System) : Plane := ⟨s.store, s.tasks.map Prod.fst⟩

def act (s : System) (a : Action) : System :=
  { s with store := (ControlPlane.step s.plane a).store }

def write (s : System) (item : Workload) (now : Time) (op : WorkerOp) :
    Except StoreError Unit × System :=
  match s.store.work item now op with
  | .ok t => (.ok (), { s with store := t })
  | .error e => (.error e, s)

def answer (worker : Worker) (s : System) (item : Workload) (env : Env) :
    (q : Request) → Reply q × System
  | .now => (env.now, s)
  | .listSchedulableProviders => (env.providers, s)
  | .rank .. => (env.selected, s)
  | .ensureLeaseActive leaseID provider resourceHash duration =>
    let x := ensureLeaseActive worker.account leaseID provider resourceHash duration env.chain
      s.leases
    (x.1, { s with leases := x.2 })
  | .ensureLeaseCompleted leaseID =>
    let x := ensureLeaseCompleted worker.account leaseID env.chain s.leases
    (x.1, { s with leases := x.2 })
  | .getRunningWorkload .. => (env.running, s)
  | .listAttachedForWorkload _ => (env.volumes, s)
  | .resolveForWorkload _ => (env.port, s)
  | .deployAndConfirm .. => (env.deployed, s)
  | .stopAndConfirm .. => (env.stopped, s)
  | .attach request =>
    let x := Manager.attachWithAllowedIPs request env.now env.backend s.overlay
    (x.1, { s with overlay := x.2 })
  | .revoke workloadID =>
    let x := Manager.revoke workloadID env.backend s.overlay
    (x.1, { s with overlay := x.2 })
  | .work op => s.write item env.now (op.racing env.aborted)

def claim (worker : Worker) (s : System) (workerID : String) (lease : Nat) (locked : List Uuid)
    (now : Time) : System :=
  match s.store.claimNext workerID lease locked now with
  | .ok (t, item) => { s with store := t, tasks := s.tasks ++ [(item, worker.processOne item)] }
  | .error _ => s

def proceed (worker : Worker) (s : System) (i : Nat) (env : Env) : System :=
  match s.tasks[i]? with
  | some (item, .call q k) =>
    let x := s.answer worker item env q
    { x.2 with tasks := s.tasks.set i (item, k x.1) }
  | _ => s

def step (worker : Worker) (s : System) : Event → System
  | .submit candidate => s.act (.createOrGet candidate.submitted)
  | .requestStop workloadID requestID ownerID now =>
    s.act (.requestStop workloadID requestID ownerID now)
  | .requestStopByProject workloadID requestID projectID now =>
    s.act (.requestStopByProject workloadID requestID projectID now)
  | .claim workerID lease locked now => s.claim worker workerID lease locked now
  | .proceed i env => s.proceed worker i env
  | .report providerID entry now => s.act (.report providerID entry now)
  | .rollBack => s.act .rollBack
  | .updateLeaseState leaseID newState => { s with leases := moveLease leaseID newState s.leases }

section
variable {worker : Worker} {s : System}

theorem proceed_call (h : s.tasks[i]? = some (item, .call q k)) (env : Env) :
    s.proceed worker i env =
      { (s.answer worker item env q).2 with
        tasks := s.tasks.set i (item, k (s.answer worker item env q).1) } := by
  unfold proceed
  rw [h]

theorem claim_ok (h : s.store.claimNext workerID lease locked now = .ok (t, item)) :
    s.claim worker workerID lease locked now =
      { s with store := t, tasks := s.tasks ++ [(item, worker.processOne item)] } := by
  unfold claim
  rw [h]

theorem claim_error (h : s.store.claimNext workerID lease locked now = .error e) :
    s.claim worker workerID lease locked now = s := by
  unfold claim
  rw [h]

theorem proceed_cases (worker : Worker) (s : System) (i : Nat) (env : Env) :
    s.proceed worker i env = s ∨ ∃ item q k, s.tasks[i]? = some (item, .call q k) := by
  unfold proceed
  rcases s.tasks[i]? with _ | ⟨item, _ | ⟨q, k⟩⟩
  · exact .inl rfl
  · exact .inl rfl
  · exact .inr ⟨item, q, k, rfl⟩

theorem write_cases (s : System) (item : Workload) (now : Time) (op : WorkerOp) :
    (∃ e, s.store.work item now op = .error e ∧ s.write item now op = (.error e, s)) ∨
      ∃ t, s.store.work item now op = .ok t ∧
        s.write item now op = (.ok (), { s with store := t }) := by
  unfold write
  cases h : s.store.work item now op with
  | error e => exact .inl ⟨e, rfl, rfl⟩
  | ok t => exact .inr ⟨t, rfl, rfl⟩

theorem claims_set (h : s.tasks[i]? = some (item, p)) (p' : Task) :
    (s.tasks.set i (item, p')).map Prod.fst = s.tasks.map Prod.fst := by
  apply ext_getElem?
  intro j
  rw [getElem?_map, getElem?_map, getElem?_set]
  split
  · rename_i hij
    subst hij
    rw [h, if_pos (List.getElem?_eq_some_iff.1 h).1]
    rfl
  · rfl

theorem act_plane (h : ∀ workerID lease locked now,
    a ≠ .claimNext workerID lease locked now) : (s.act a).plane = ControlPlane.step s.plane a :=
  congrArg (Plane.mk _) (claims_same s.plane h).symm

theorem proceed_plane (hget : s.tasks[i]? = some (item, .call q k)) (env : Env) :
    (s.proceed worker i env).plane = s.plane ∨
      ∃ op now, (s.proceed worker i env).plane = ControlPlane.step s.plane (.work i op now) := by
  have hplane : (s.proceed worker i env).plane =
      { s.plane with store := (s.answer worker item env q).2.store } := by
    rw [proceed_call hget]
    exact congrArg (Plane.mk _) (claims_set hget _)
  rw [hplane]
  cases q with
  | work op =>
    refine .inr ⟨op.racing env.aborted, env.now, ?_⟩
    have hclaim : s.plane.claims[i]? = some item := by
      rw [plane, getElem?_map, hget]
      rfl
    rw [step_work_some hclaim]
    obtain ⟨e, he, hw⟩ | ⟨t, ht, hw⟩ := write_cases s item env.now (op.racing env.aborted)
    · rw [answer, hw, plane, he]
      rfl
    · rw [answer, hw, plane, ht]
      rfl
  | _ => exact .inl rfl

theorem plane_step (worker : Worker) (s : System) (e : Event) :
    (step worker s e).plane = s.plane ∨
      ∃ a, (step worker s e).plane = ControlPlane.step s.plane a := by
  cases e with
  | submit candidate => exact .inr ⟨_, act_plane (by rintro _ _ _ _ ⟨⟩)⟩
  | requestStop w q owner now => exact .inr ⟨_, act_plane (by rintro _ _ _ _ ⟨⟩)⟩
  | requestStopByProject w q project now => exact .inr ⟨_, act_plane (by rintro _ _ _ _ ⟨⟩)⟩
  | claim workerID lease locked now =>
    refine .inr ⟨.claimNext workerID lease locked now, ?_⟩
    change (s.claim worker workerID lease locked now).plane = _
    cases h : s.store.claimNext workerID lease locked now with
    | error e =>
      rw [claim_error h]
      simp only [ControlPlane.step, dispatch, plane, h]
      rfl
    | ok r =>
      obtain ⟨t, item⟩ := r
      rw [claim_ok h]
      simp only [ControlPlane.step, dispatch, plane, h, map_append, map_singleton]
      rfl
  | proceed i env =>
    change (s.proceed worker i env).plane = _ ∨ ∃ a, (s.proceed worker i env).plane = _
    obtain heq | ⟨item, q, k, hget⟩ := proceed_cases worker s i env
    · rw [heq]
      exact .inl rfl
    · obtain heq | ⟨op, now, heq⟩ := proceed_plane hget env
      · exact .inl heq
      · exact .inr ⟨_, heq⟩
  | report providerID entry now => exact .inr ⟨_, act_plane (by rintro _ _ _ _ ⟨⟩)⟩
  | rollBack => exact .inr ⟨_, act_plane (by rintro _ _ _ _ ⟨⟩)⟩
  | updateLeaseState leaseID newState => exact .inl rfl

theorem storeStep (worker : Worker) (s : System) (e : Event) :
    ∃ asked out, StoreStep asked s.store (step worker s e).store out := by
  obtain heq | ⟨a, heq⟩ := plane_step worker s e
  · have hstore : (step worker s e).store = s.store := congrArg Plane.store heq
    exact ⟨false, [], hstore ▸ .same⟩
  · have hstore : (step worker s e).store = (ControlPlane.step s.plane a).store :=
      congrArg Plane.store heq
    exact ⟨_, _, hstore ▸ ControlPlane.storeStep s.plane a⟩

end

end System

def Claimed (s : Store) (item : Workload) : Prop :=
  ∃ r, s.row item.workloadID = some r ∧ (r = item ∨ item.version < r.version) ∧
    (item.state ∈ WorkloadState.halting → r.state ∈ WorkloadState.halting)

namespace Claimed
variable {s t : Store} {item : Workload}

theorem of_row (h : s.row item.workloadID = some item) : Claimed s item := ⟨item, h, .inl rfl, id⟩

theorem step (h : Claimed s item) (hst : StoreStep asked s t out) : Claimed t item := by
  obtain ⟨r, hr, hv, hhalt⟩ := h
  obtain hsame | ⟨r', hr', hw⟩ := (hst.rowStep item.workloadID).row hr
  · exact ⟨r, hsame, hv, hhalt⟩
  · have hversion := hw.version
    refine ⟨r', hr', .inr ?_, fun hitem => hw.moves.halting (hhalt hitem)⟩
    obtain rfl | hlt := hv
    · omega
    · omega

theorem current (h : Claimed s item) (hst : StoreStep asked s t out)
    (ht : t.row item.workloadID = some item) : s.row item.workloadID = some item := by
  obtain ⟨r, hr, hv, _⟩ := h
  obtain hsame | ⟨r', hr', hw⟩ := (hst.rowStep item.workloadID).row hr
  · rw [hr, ← hsame, ht]
  · rw [ht] at hr'
    cases hr'
    have hversion := hw.version
    obtain rfl | hlt := hv
    · omega
    · omega

theorem held (h : Claimed s item) (hr : s.row item.workloadID = some r)
    (hheld : r.HeldBy item now) : r = item := by
  obtain ⟨r', hr', hv, _⟩ := h
  rw [hr] at hr'
  cases hr'
  have hversion := hheld.1
  obtain rfl | hlt := hv
  · rfl
  · omega

theorem halting (h : Claimed s item) (hr : s.row item.workloadID = some r)
    (hitem : item.state ∈ WorkloadState.halting) : r.state ∈ WorkloadState.halting := by
  obtain ⟨r', hr', _, hhalt⟩ := h
  rw [hr] at hr'
  cases hr'
  exact hhalt hitem

end Claimed

def Plane.AllClaimed (s : Plane) : Prop := ∀ item ∈ s.claims, Claimed s.store item

theorem Plane.AllClaimed.step (h : s.AllClaimed) (a : Action) :
    (ControlPlane.step s a).AllClaimed := by
  have hold {item : Workload} (hitem : item ∈ s.claims) :
      Claimed (ControlPlane.step s a).store item := (h item hitem).step (storeStep s a)
  intro item hitem
  obtain hsame | ⟨item', hnew, hrow⟩ := claims_step s a
  · exact hold (hsame ▸ hitem)
  · rw [hnew, mem_append, mem_singleton] at hitem
    obtain hitem | rfl := hitem
    · exact hold hitem
    · exact .of_row hrow

theorem System.allClaimed_step (h : s.plane.AllClaimed) (worker : Worker)
    (e : Event) : (System.step worker s e).plane.AllClaimed := by
  obtain heq | ⟨a, heq⟩ := plane_step worker s e
  · exact heq ▸ h
  · exact heq ▸ h.step a

theorem System.claimed_task {s : System} {i : Nat} (h : s.plane.AllClaimed)
    (hget : s.tasks[i]? = some (item, p)) : Claimed s.store item :=
  h item (mem_map_of_mem (mem_of_getElem? hget))

variable {item : Workload}

theorem Store.work_storeStep (h : s.work item now op = .ok t) : ∃ out, StoreStep false s t out := by
  cases op with
  | assignLease p hash c b =>
    cases hl : s.assignLease item p hash c b now with
    | error e => simp only [Store.work, hl] at h; cases h
    | ok r =>
      simp only [Store.work, hl] at h
      cases h
      exact ⟨_, .assignLease hl⟩
  | _ => exact ⟨_, .work h (by rintro _ _ _ _ ⟨⟩)⟩

end OpenInfra.ControlPlane
