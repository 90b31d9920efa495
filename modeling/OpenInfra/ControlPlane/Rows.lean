import OpenInfra.Frame.Run
import OpenInfra.ControlPlane.Store

namespace OpenInfra.ControlPlane
open Frame List

inductive WorkerOp where
  | beginScheduling
  | assignLease (providerID : String) (resourceHash : BitVec 256) (capacity : Resources)
      (aborted : Bool)
  | markLeased (leaseID : Nat)
  | markDeploying (leaseID : Nat)
  | markRunning (containerID : String)
  | markStopped (leaseID : Nat)
  | retryLater (code : ErrorCode) (message : ByteArray) (delay : Nat)
  | markFailed (code : ErrorCode) (message : ByteArray)

def Store.work (s : Store) (item : Workload) (now : Time) : WorkerOp → Except StoreError Store
  | .beginScheduling => s.beginScheduling item now
  | .assignLease providerID resourceHash capacity aborted =>
    (s.assignLease item providerID resourceHash capacity aborted now).map (·.1)
  | .markLeased leaseID => s.markLeased item leaseID now
  | .markDeploying leaseID => s.markDeploying item leaseID now
  | .markRunning containerID => s.markRunning item containerID now
  | .markStopped leaseID => s.markStopped item leaseID now
  | .retryLater code message delay => s.retryLater item code message delay now
  | .markFailed code message => s.markFailed item code message now

structure Plane where
  store : Store
  claims : List Workload

def Plane.init : Plane := ⟨.empty, []⟩

/-- The writers, with own clocks; a rollback may use up a lease id. -/
inductive Action where
  | createOrGet (candidate : Workload)
  | requestStop (workloadID requestID ownerID : Uuid) (now : Time)
  | requestStopByProject (workloadID requestID projectID : Uuid) (now : Time)
  | claimNext (workerID : String) (lease : Nat) (locked : List Uuid) (now : Time)
  | work (claim : Nat) (op : WorkerOp) (now : Time)
  | report (providerID : String) (entry : WorkloadStatusSummary) (now : Time)
  | rollBack

def dispatch (s : Plane) : Action → Except StoreError Plane
  | .createOrGet candidate => do
    let r ← s.store.createOrGet candidate
    .ok { s with store := r.1 }
  | .requestStop workloadID requestID ownerID now => do
    let r ← s.store.requestStop workloadID requestID ownerID now
    .ok { s with store := r.1 }
  | .requestStopByProject workloadID requestID projectID now => do
    let r ← s.store.requestStopByProject workloadID requestID projectID now
    .ok { s with store := r.1 }
  | .claimNext workerID lease locked now => do
    let r ← s.store.claimNext workerID lease locked now
    .ok ⟨r.1, s.claims ++ [r.2]⟩
  | .work claim op now => do
    let item ← okOr s.claims[claim]? .notFound
    let t ← s.store.work item now op
    .ok { s with store := t }
  | .report providerID entry now => do
    let t ← s.store.reconcileEntry providerID entry now
    .ok { s with store := t }
  | .rollBack => .ok { s with store := { s.store with leaseSeq := s.store.leaseSeq + 1 } }

def step (s : Plane) (a : Action) : Plane := commit s (dispatch s a)

def Action.isStop : Action → Bool
  | .requestStop .. => true
  | .requestStopByProject .. => true
  | _ => false

/-- Only a stop request leads to `stopping`. -/
inductive WorkloadState.Moves (asked : Bool) : WorkloadState → WorkloadState → Prop
  | stay : Moves asked x x
  | schedule : Moves asked .requested .scheduling
  | assign : Moves asked .scheduling .leasePending
  | lease : Moves asked .leasePending .leased
  | deploy : Moves asked .leased .deploying
  | start : Moves asked .deploying .running
  | stop (ha : asked = true) (h : x ∉ WorkloadState.terminal) : Moves asked x .stopping
  | halt (h : x ∈ [.deploying, .running, .stopping]) : Moves asked x .stopped
  | fail (h : x ∉ WorkloadState.terminal) : Moves asked x .failed

def WorkloadState.halting : List WorkloadState := [.stopping, .stopped, .failed, .completed]

theorem WorkloadState.Moves.terminal (h : Moves asked x y) (hx : x ∈ WorkloadState.terminal) :
    y = x := by
  cases h with
  | stay => rfl
  | stop _ hn => exact absurd hx hn
  | fail hn => exact absurd hx hn
  | halt hn => revert hx hn; cases x <;> decide
  | _ => exact absurd hx (by decide)

theorem WorkloadState.Moves.halting (h : Moves asked x y) (hx : x ∈ halting) : y ∈ halting := by
  cases h with
  | stay => exact hx
  | stop => decide
  | halt => decide
  | fail => decide
  | _ => exact absurd hx (by decide)

theorem WorkloadState.Moves.unassigned (h : Moves asked x y) (hy : y ∈ [requested, scheduling]) :
    x ∈ [requested, scheduling] := by
  cases h with
  | stay => exact hy
  | schedule => decide
  | _ => exact absurd hy (by decide)

structure Assignment where
  workloadID : Uuid
  providerID : String
  leaseID : Nat
  resourceHash : BitVec 256

def Workload.assigned (r : Workload) : Option String × Option Nat × Option (BitVec 256) :=
  (r.providerID, r.leaseID, r.resourceHash)

def Assignment.columns (x : Assignment) : Option String × Option Nat × Option (BitVec 256) :=
  (some x.providerID, some x.leaseID, some x.resourceHash)

structure Written (asked : Bool) (r r' : Workload) : Prop where
  id : r'.workloadID = r.workloadID
  version : r'.version = r.version + 1
  moves : r.state.Moves asked r'.state
  stop : r'.stopRequestID = r.stopRequestID ∨
    r.stopRequestID = none ∧ r'.state ∈ WorkloadState.halting

inductive StoreStep (asked : Bool) (s : Store) : Store → List Assignment → Prop
  | same : StoreStep asked s s []
  | rollBack : StoreStep asked s { s with leaseSeq := s.leaseSeq + 1 } []
  | insert {candidate : Workload} (hnone : s.row candidate.workloadID = none) :
    StoreStep asked s { s with workloads := s.workloads.put candidate.inserted } []
  | write (hr : s.row r.workloadID = some r) (h : Written asked r r')
      (ha : r'.assigned = r.assigned) :
    StoreStep asked s { s with workloads := s.workloads.put r' } []
  | assign (hr : s.row r.workloadID = some r) (h : Written asked r r') (hs : r.state = .scheduling)
    (hs' : r'.state = .leasePending) (hw : x.workloadID = r.workloadID)
    (hl : x.leaseID = s.leaseSeq + 1) (ha : r'.assigned = x.columns) :
    StoreStep asked s ⟨s.workloads.put r', x.leaseID⟩ [x]

def assignments (s : Plane) : Action → List Assignment
  | .work claim (.assignLease providerID resourceHash capacity aborted) now =>
    match s.claims[claim]? with
    | none => []
    | some item =>
      match s.store.assignLease item providerID resourceHash capacity aborted now with
      | .ok r => [⟨item.workloadID, providerID, r.2, resourceHash⟩]
      | .error _ => []
  | _ => []

section
variable {s t : Store} {r item : Workload}

theorem Store.row_workloadID (h : s.row w = some r) : r.workloadID = w := Table.key_of_lookup h

theorem StoreStep.workerWrite {f : Workload → Workload} {cond : Workload → Bool}
    (h : s.workerWrite item now states cond f = .ok t)
    (hf : ∀ r, r.state ∈ states → Written asked r ((f r).released now) ∧
      ((f r).released now).assigned = r.assigned) : StoreStep asked s t [] := by
  obtain ⟨r, hr, ⟨_, hs, _⟩, _, rfl⟩ := Store.workerWrite_eq_ok.1 h
  obtain ⟨hw, ha⟩ := hf r hs
  exact .write ((Store.row_workloadID hr).symm ▸ hr) hw ha

theorem StoreStep.work (h : s.work item now op = .ok t)
    (hop : ∀ p hash c b, op ≠ .assignLease p hash c b) : StoreStep asked s t [] := by
  cases op with
  | beginScheduling =>
    apply StoreStep.workerWrite h
    intro r hr
    exact ⟨⟨rfl, rfl, mem_singleton.1 hr ▸ .schedule, .inl rfl⟩, rfl⟩
  | assignLease p hash c b => exact absurd rfl (hop p hash c b)
  | markLeased leaseID =>
    apply StoreStep.workerWrite h
    intro r hr
    exact ⟨⟨rfl, rfl, mem_singleton.1 hr ▸ .lease, .inl rfl⟩, rfl⟩
  | markDeploying leaseID =>
    apply StoreStep.workerWrite h
    intro r hr
    exact ⟨⟨rfl, rfl, mem_singleton.1 hr ▸ .deploy, .inl rfl⟩, rfl⟩
  | markRunning containerID =>
    obtain ⟨_, _, h⟩ := bind_eq_ok.1 h
    apply StoreStep.workerWrite h
    intro r hr
    exact ⟨⟨rfl, rfl, mem_singleton.1 hr ▸ .start, .inl rfl⟩, rfl⟩
  | markStopped leaseID =>
    apply StoreStep.workerWrite h
    intro r hr
    exact ⟨⟨rfl, rfl, mem_singleton.1 hr ▸ .halt (by decide), .inl rfl⟩, rfl⟩
  | retryLater code message delay =>
    obtain ⟨_, _, h⟩ := bind_eq_ok.1 h
    apply StoreStep.workerWrite h
    intro r _
    exact ⟨⟨rfl, rfl, .stay, .inl rfl⟩, rfl⟩
  | markFailed code message =>
    obtain ⟨_, _, h⟩ := bind_eq_ok.1 h
    apply StoreStep.workerWrite h
    intro r hr
    refine ⟨⟨rfl, rfl, .fail ?_, .inl rfl⟩, rfl⟩
    revert hr
    cases r.state <;> decide

theorem StoreStep.assignLease
    (h : s.assignLease item providerID resourceHash capacity aborted now = .ok (t, leaseID)) :
    StoreStep asked s t [⟨item.workloadID, providerID, leaseID, resourceHash⟩] := by
  obtain ⟨_, u, _, _, hu, rfl, rfl⟩ := Store.assignLease_eq_ok h
  obtain ⟨r, hr, ⟨_, hs, _⟩, _, rfl⟩ := Store.workerWrite_eq_ok.1 hu
  have hid := Store.row_workloadID hr
  have hsched := mem_singleton.1 hs
  have hmoves : r.state.Moves asked .leasePending := hsched.symm ▸ .assign
  have hw : Written asked r
      ((r.assignedTo providerID (s.leaseSeq + 1) resourceHash).released now) :=
    ⟨rfl, rfl, hmoves, .inl rfl⟩
  exact .assign (x := ⟨item.workloadID, providerID, s.leaseSeq + 1, resourceHash⟩)
    (hid.symm ▸ hr) hw hsched rfl hid.symm rfl rfl

theorem StoreStep.requestStopIn
    (h : s.requestStopIn scope workloadID requestID now = .ok (t, item)) :
    StoreStep true s t [] := by
  obtain ⟨r, hr, _, ⟨rfl, _⟩ | ⟨hnone, rfl⟩⟩ := Store.requestStopIn_eq_ok h
  · exact .same
  · have hmoves : r.state.Moves true (r.stopped requestID now).state := by
      dsimp only [Workload.stopped]
      split
      · exact .stay
      · exact .stop rfl ‹_›
    have hhalting : (r.stopped requestID now).state ∈ WorkloadState.halting := by
      dsimp only [Workload.stopped]
      cases r.state <;> decide
    exact .write (r := r) ((Store.row_workloadID hr).symm ▸ hr)
      ⟨rfl, rfl, hmoves, .inr ⟨hnone, hhalting⟩⟩ rfl

theorem reconciliationTransition_moves (h : reconciliationTransition phase = some x)
    (hy : y ∈ x.fromStates) : y.Moves asked x.toState := by
  cases phase with
  | running =>
    cases h
    rw [mem_singleton.1 hy]
    exact .start
  | failed => cases h; exact .fail (by revert hy; cases y <;> decide)
  | lost => cases h; exact .fail (by revert hy; cases y <;> decide)
  | stopped => cases h; exact .halt (by revert hy; cases y <;> decide)
  | _ => cases h

theorem Workload.reported_state (r : Workload) (toState : WorkloadState) (containerID : String)
    (errorCode : Option ErrorCode) :
    (r.reported toState containerID errorCode).state = toState := by
  cases errorCode <;> rfl

theorem Written.reported (hmoves : r.state.Moves asked toState) :
    Written asked r ((r.reported toState containerID errorCode).released now) ∧
      ((r.reported toState containerID errorCode).released now).assigned = r.assigned := by
  cases errorCode with
  | none => exact ⟨⟨rfl, rfl, hmoves, .inl rfl⟩, rfl⟩
  | some code => exact ⟨⟨rfl, rfl, hmoves, .inl rfl⟩, rfl⟩

variable {entry : WorkloadStatusSummary} {s t : Store} {acts : List Action}

theorem Store.reconcileEntry_eq_ok
    (h : s.reconcileEntry providerID entry now = .ok t) :
    t = s ∨ ∃ x r, reconciliationTransition entry.phase = some x ∧
      s.row entry.workloadID = some r ∧ r.providerID = some providerID ∧ r.state ∈ x.fromStates ∧
      t = { s with
        workloads := s.workloads.put
          ((r.reported x.toState entry.containerID x.errorCode).released now) } := by
  unfold Store.reconcileEntry at h
  split at h
  · cases h
    exact .inl rfl
  · rename_i x hx
    cases hf : s.reconcileFromAgent entry.workloadID providerID x.fromStates x.toState
        entry.containerID x.errorCode now with
    | error e => rw [hf] at h; cases h
    | ok u =>
      rw [hf] at h
      cases h
      obtain heq | ⟨r, hr, hp, hs, _, heq⟩ := Store.reconcileFromAgent_eq_ok hf
      · exact .inl heq
      · exact .inr ⟨x, r, hx, hr, hp, hs, heq⟩

theorem StoreStep.reconcileEntry
    (h : s.reconcileEntry providerID entry now = .ok t) : StoreStep asked s t [] := by
  obtain rfl | ⟨x, r, hx, hr, _, hs, rfl⟩ := Store.reconcileEntry_eq_ok h
  · exact .same
  · obtain ⟨hw, ha⟩ := Written.reported (reconciliationTransition_moves hx hs)
    exact .write ((Store.row_workloadID hr).symm ▸ hr) hw ha

end

theorem Written.claimed (r : Workload) (workerID : String) (leaseUntil : Time) :
    Written asked r (r.claimed workerID leaseUntil) := ⟨rfl, rfl, .stay, .inl rfl⟩

theorem step_work_none {s : Plane} (hc : s.claims[claim]? = none) :
    step s (.work claim op now) = s := by
  simp only [step, dispatch, hc]
  rfl

theorem step_work_some {s : Plane} (hc : s.claims[claim]? = some item) :
    step s (.work claim op now) =
      { s with store := commit s.store (s.store.work item now op) } := by
  simp only [step, dispatch, hc]
  change commit s (s.store.work item now op >>= fun t => .ok { s with store := t }) = _
  cases s.store.work item now op <;> rfl

theorem storeStep_assignLease (s : Plane) (claim : Nat) (providerID : String)
    (resourceHash : BitVec 256) (capacity : Resources) (aborted : Bool) (now : Time) :
    let a := Action.work claim (.assignLease providerID resourceHash capacity aborted) now
    StoreStep asked s.store (step s a).store (assignments s a) := by
  intro a
  cases hc : s.claims[claim]? with
  | none =>
    rw [step_work_none hc]
    simp only [a, assignments, hc]
    exact .same
  | some item =>
    rw [step_work_some hc]
    simp only [a, assignments, hc, Store.work]
    cases hl : s.store.assignLease item providerID resourceHash capacity aborted now with
    | error e => exact .same
    | ok r => exact .assignLease hl

theorem storeStep_work (s : Plane) (claim : Nat) (op : WorkerOp) (now : Time)
    (hop : ∀ p hash c b, op ≠ .assignLease p hash c b) :
    StoreStep asked s.store (step s (.work claim op now)).store [] := by
  apply Yields.commit (P := fun t : Plane => StoreStep asked s.store t.store []) _ .same
  apply Yields.bind
  intro item _
  apply Yields.bind
  intro t ht
  exact .ok (.work ht hop)

theorem storeStep (s : Plane) (a : Action) :
    StoreStep a.isStop s.store (step s a).store (assignments s a) := by
  cases a with
  | createOrGet candidate =>
    apply Yields.commit (P := fun t : Plane => StoreStep false s.store t.store []) _ .same
    apply Yields.bind
    intro r hr
    obtain heq | ⟨hnone, heq⟩ := Store.createOrGet_eq_ok hr
    · exact .ok (heq ▸ .same)
    · exact .ok (heq ▸ .insert hnone)
  | requestStop w q owner now =>
    apply Yields.commit (P := fun t : Plane => StoreStep true s.store t.store []) _ .same
    apply Yields.bind
    intro r hr
    exact .ok (.requestStopIn hr)
  | requestStopByProject w q project now =>
    apply Yields.commit (P := fun t : Plane => StoreStep true s.store t.store []) _ .same
    apply Yields.bind
    intro r hr
    exact .ok (.requestStopIn hr)
  | claimNext workerID lease locked now =>
    apply Yields.commit (P := fun t : Plane => StoreStep false s.store t.store []) _ .same
    apply Yields.bind
    intro r hr
    obtain ⟨u, hu, _, _, hitem, heq⟩ := Store.claimNext_eq_ok hr
    apply Yields.ok
    rw [heq, hitem]
    exact .write hu (.claimed ..) rfl
  | work claim op now =>
    cases op with
    | assignLease p hash c b => exact storeStep_assignLease ..
    | _ => exact storeStep_work _ _ _ _ nofun
  | report providerID entry now =>
    apply Yields.commit (P := fun t : Plane => StoreStep false s.store t.store []) _ .same
    apply Yields.bind
    intro t ht
    exact .ok (.reconcileEntry ht)
  | rollBack => exact .rollBack

inductive RowStep (asked : Bool) (w : Uuid) (s t : Store) (out : List Assignment) : Prop
  | same (h : t.row w = s.row w) (hout : ∀ x ∈ out, x.workloadID ≠ w)
  | inserted {candidate : Workload} (hs : s.row w = none) (ht : t.row w = some candidate.inserted)
    (hout : out = [])
  | written (hs : s.row w = some r) (ht : t.row w = some r') (h : Written asked r r')
    (ha : r'.assigned = r.assigned) (hout : out = [])
  | assigned (hs : s.row w = some r) (ht : t.row w = some r') (h : Written asked r r')
    (hsched : r.state = .scheduling) (hpending : r'.state = .leasePending) (hout : out = [x])
    (hw : x.workloadID = w) (hl : x.leaseID = s.leaseSeq + 1) (ha : r'.assigned = x.columns)

theorem StoreStep.rowStep (h : StoreStep asked s t out) (w : Uuid) : RowStep asked w s t out := by
  cases h with
  | same => exact .same rfl nofun
  | rollBack => exact .same rfl nofun
  | @insert candidate hnone =>
    by_cases hw : w = candidate.workloadID
    · subst hw
      exact .inserted hnone (Table.lookup_put_self ..) rfl
    · exact .same (Table.lookup_put_of_ne _ hw) nofun
  | @write r r' hr hwritten ha =>
    by_cases hw : w = r.workloadID
    · subst hw
      exact .written hr (hwritten.id ▸ Table.lookup_put_self ..) hwritten ha rfl
    · exact .same (Table.lookup_put_of_ne _ (hwritten.id ▸ hw)) nofun
  | @assign r r' x hr hwritten hs hs' hx hl ha =>
    by_cases hw : w = r.workloadID
    · subst hw
      exact .assigned hr (hwritten.id ▸ Table.lookup_put_self ..) hwritten hs hs' rfl hx hl ha
    · refine .same (Table.lookup_put_of_ne _ (hwritten.id ▸ hw)) fun y hy => ?_
      rw [mem_singleton.1 hy, hx]
      exact Ne.symm hw

theorem StoreStep.leaseSeq_le (h : StoreStep asked s t out) :
    s.leaseSeq ≤ t.leaseSeq ∧ ∀ x ∈ out, t.leaseSeq = x.leaseID := by
  cases h with
  | same => exact ⟨le_rfl, nofun⟩
  | rollBack => exact ⟨Nat.le_succ _, nofun⟩
  | insert => exact ⟨le_rfl, nofun⟩
  | write => exact ⟨le_rfl, nofun⟩
  | assign _ _ _ _ _ hl _ =>
    exact ⟨hl ▸ Nat.le_succ _, fun y hy => by rw [mem_singleton.1 hy]⟩

theorem RowStep.row (h : RowStep asked w s t out) (hr : s.row w = some r) :
    t.row w = some r ∨ ∃ r', t.row w = some r' ∧ Written asked r r' := by
  cases h with
  | same hsame => exact .inl (hsame.trans hr)
  | inserted hs => rw [hs] at hr; cases hr
  | written hs ht hw => rw [hs] at hr; cases hr; exact .inr ⟨_, ht, hw⟩
  | assigned hs ht hw => rw [hs] at hr; cases hr; exact .inr ⟨_, ht, hw⟩

theorem RowStep.leaseID {s t : Store} (h : RowStep asked w s t out) (hr : t.row w = some r')
    (hl : r'.leaseID = some l) :
    (∃ r, s.row w = some r ∧ r.leaseID = some l) ∨
      ∃ x, out = [x] ∧ x.workloadID = w ∧ x.leaseID = l ∧ l = s.leaseSeq + 1 := by
  cases h with
  | same hsame => exact .inl ⟨r', hsame ▸ hr, hl⟩
  | inserted _ ht => rw [ht] at hr; cases hr; cases hl
  | written hs ht _ ha =>
    rw [ht] at hr
    cases hr
    exact .inl ⟨_, hs, (congrArg (·.2.1) ha).symm.trans hl⟩
  | assigned _ ht _ _ _ hout hw hx ha =>
    rw [ht] at hr
    cases hr
    have heq := Option.some.inj ((congrArg (·.2.1) ha).symm.trans hl)
    exact .inr ⟨_, hout, hw, heq, heq ▸ hx⟩

structure Sound (s : Store) : Prop where
  fresh : ∀ w, ∀ r ∈ s.row w, ∀ l ∈ r.leaseID, l ≤ s.leaseSeq
  distinct : ∀ w w', ∀ r ∈ s.row w, ∀ r' ∈ s.row w', ∀ l ∈ r.leaseID, l ∈ r'.leaseID → w = w'
  halting : ∀ w, ∀ r ∈ s.row w, r.stopRequestID.isSome → r.state ∈ WorkloadState.halting

theorem Sound.step (h : Sound s) (hst : StoreStep asked s t out) : Sound t := by
  constructor
  · intro w r hr l hl
    obtain ⟨hle, hout⟩ := hst.leaseSeq_le
    obtain ⟨r₀, hr₀, hl₀⟩ | ⟨x, hx, _, hxl, _⟩ := (hst.rowStep w).leaseID hr hl
    · exact (h.fresh w r₀ hr₀ l hl₀).trans hle
    · exact (hxl ▸ hout x (hx ▸ mem_singleton_self x)).ge
  · intro w w' r hr r' hr' l hl hl'
    obtain ⟨r₀, hr₀, hl₀⟩ | ⟨x, hx, hxw, _, hnew⟩ := (hst.rowStep w).leaseID hr hl
    · obtain ⟨r₁, hr₁, hl₁⟩ | ⟨_, _, _, _, hnew⟩ := (hst.rowStep w').leaseID hr' hl'
      · exact h.distinct w w' r₀ hr₀ r₁ hr₁ l hl₀ hl₁
      · exact absurd (h.fresh w r₀ hr₀ l hl₀) (by omega)
    · obtain ⟨r₁, hr₁, hl₁⟩ | ⟨y, hy, hyw, _, _⟩ := (hst.rowStep w').leaseID hr' hl'
      · exact absurd (h.fresh w' r₁ hr₁ l hl₁) (by omega)
      · rw [hx] at hy
        cases hy
        exact hxw.symm.trans hyw
  · intro w r hr hstop
    cases hst.rowStep w with
    | same hsame => exact h.halting w r (hsame ▸ hr) hstop
    | inserted _ ht => rw [ht] at hr; cases hr; cases hstop
    | written hs ht hw =>
      rw [ht] at hr
      cases hr
      obtain heq | ⟨_, hhalt⟩ := hw.stop
      · exact hw.moves.halting (h.halting w _ hs (heq ▸ hstop))
      · exact hhalt
    | assigned hs ht hw =>
      rw [ht] at hr
      cases hr
      obtain heq | ⟨_, hhalt⟩ := hw.stop
      · exact hw.moves.halting (h.halting w _ hs (heq ▸ hstop))
      · exact hhalt

theorem row_empty : r ∉ Store.empty.row w := by
  intro hr
  have hnone : Store.empty.row w = none := rfl
  rw [hnone] at hr
  cases hr

theorem Sound.empty : Sound Store.empty := by
  constructor
  · intro w r hr
    exact absurd hr row_empty
  · intro w w' r hr
    exact absurd hr row_empty
  · intro w r hr
    exact absurd hr row_empty

theorem sound (acts : List Action) : Sound (run step Plane.init acts).store := by
  apply run_invariant (I := fun s : Plane => Sound s.store)
  · exact .empty
  · intro s a hs
    exact hs.step (storeStep s a)

def assignmentsOf (w : Uuid) (s : Plane) (a : Action) : List Assignment :=
  (assignments s a).filter fun x => x.workloadID = w

/-- A row shows the only assignment ever made for it. -/
structure AssignedOnce (w : Uuid) (s : Store) (out : List Assignment) : Prop where
  once : out.length ≤ 1
  unborn : s.row w = none → out = []
  shows : ∀ r ∈ s.row w, r.assigned = ((out.head?.map Assignment.columns).getD (none, none, none))
  early : ∀ r ∈ s.row w, r.state ∈ [.requested, .scheduling] → out = []

theorem AssignedOnce.step (h : AssignedOnce w s out) (hst : RowStep asked w s t new) :
    AssignedOnce w t (out ++ new.filter fun x => x.workloadID = w) := by
  cases hst with
  | same hsame hout =>
    have hnew : new.filter (fun x => x.workloadID = w) = [] :=
      filter_eq_nil_iff.2 fun x hx => by simpa only [decide_eq_true_eq] using hout x hx
    rw [hnew, append_nil]
    exact ⟨h.once, hsame ▸ h.unborn, hsame ▸ h.shows, hsame ▸ h.early⟩
  | inserted hs ht hnew =>
    have hout := h.unborn hs
    subst hnew hout
    refine ⟨Nat.zero_le _, fun _ => rfl, ?_, fun _ _ _ => rfl⟩
    intro r hr
    rw [ht] at hr
    cases hr
    rfl
  | written hs ht hw ha hnew =>
    subst hnew
    rw [filter_nil, append_nil]
    refine ⟨h.once, fun hnone => ?_, ?_, ?_⟩
    · rw [ht] at hnone
      cases hnone
    · intro r hr
      rw [ht] at hr
      cases hr
      exact ha.trans (h.shows _ hs)
    · intro r hr hstate
      rw [ht] at hr
      cases hr
      exact h.early _ hs (hw.moves.unassigned hstate)
  | @assigned r r' x hs ht hw hsched hpending hnew hx hl ha =>
    have hearly : r.state ∈ [WorkloadState.requested, .scheduling] := by
      rw [hsched]
      decide
    have hout := h.early _ hs hearly
    subst hnew hout
    rw [nil_append, filter_eq_self.2 fun y hy => by
      rw [mem_singleton.1 hy]
      exact decide_eq_true hx]
    refine ⟨le_rfl, fun hnone => ?_, ?_, ?_⟩
    · rw [ht] at hnone
      cases hnone
    · intro u hu
      rw [ht] at hu
      cases hu
      exact ha
    · intro u hu hstate
      rw [ht] at hu
      cases hu
      rw [hpending] at hstate
      exact absurd hstate (by decide)

theorem assignedOnce (acts : List Action) (w : Uuid) :
    AssignedOnce w (run step Plane.init acts).store
      (outputs step (assignmentsOf w) Plane.init acts) := by
  apply (Throughout.true Plane.init acts).outputs_invariant
    (I := fun s out => AssignedOnce w s.store out)
  · exact ⟨Nat.zero_le _, fun _ => rfl, fun r hr => absurd hr row_empty, fun _ _ _ => rfl⟩
  · intro s a out hs _ _
    exact hs.step ((storeStep s a).rowStep w)

theorem row_run {s : Plane} (hr : s.store.row w = some r) (acts : List Action) :
    ∃ r', (run step s acts).store.row w = some r' ∧ (r' = r ∨ r.version < r'.version) := by
  induction acts generalizing s r with
  | nil => exact ⟨r, hr, .inl rfl⟩
  | cons a acts ih =>
    obtain hsame | ⟨u, hu, hw⟩ := ((storeStep s a).rowStep w).row hr
    · exact ih hsame
    · obtain ⟨r', hr', hlast⟩ := ih hu
      have hv := hw.version
      refine ⟨r', hr', .inr ?_⟩
      obtain rfl | hlt := hlast
      · omega
      · omega

def Untouched (w : Uuid) (s : Plane) (acts : List Action) : Prop :=
  Along step (fun s a => (step s a).store.row w = s.store.row w) s acts

theorem untouched {s : Plane} (hr : s.store.row w = some r)
    (ht : (run step s acts).store.row w = some r') (hv : r'.version = r.version) :
    Untouched w s acts := by
  induction acts generalizing s with
  | nil => trivial
  | cons a acts ih =>
    obtain hsame | ⟨u, hu, hw⟩ := ((storeStep s a).rowStep w).row hr
    · exact ⟨hsame.trans hr.symm, ih hsame ht⟩
    · obtain ⟨r'', hr'', hlast⟩ := row_run hu acts
      rw [run_cons] at ht
      rw [ht] at hr''
      cases hr''
      have hu' := hw.version
      obtain rfl | hlt := hlast
      · omega
      · omega

theorem state_run {s : Plane} {P : WorkloadState → Prop}
    (hP : ∀ asked x y, P x → WorkloadState.Moves asked x y → P y) (hr : s.store.row w = some r)
    (hs : P r.state) (acts : List Action) : ∃ r' ∈ (run step s acts).store.row w, P r'.state := by
  induction acts generalizing s r with
  | nil => exact ⟨r, hr, hs⟩
  | cons a acts ih =>
    obtain hsame | ⟨u, hu, hw⟩ := ((storeStep s a).rowStep w).row hr
    · exact ih hsame hs
    · exact ih hu (hP _ _ _ hs hw.moves)

theorem claims_same (s : Plane)
    (h : ∀ workerID lease locked now, a ≠ .claimNext workerID lease locked now) :
    (step s a).claims = s.claims := by
  have hsame {α : Type} {x : Except StoreError α} {f : α → Store} : Yields
      (x >>= fun r => .ok { s with store := f r }) fun t : Plane => t.claims = s.claims := by
    apply Yields.bind
    intro r _
    exact .ok rfl
  cases a with
  | createOrGet candidate => exact Yields.commit hsame rfl
  | requestStop w q owner now => exact Yields.commit hsame rfl
  | requestStopByProject w q project now => exact Yields.commit hsame rfl
  | claimNext workerID lease locked now => exact absurd rfl (h workerID lease locked now)
  | work claim op now =>
    refine Yields.commit (P := fun t : Plane => t.claims = s.claims) ?_ rfl
    apply Yields.bind
    intro item _
    exact hsame
  | report providerID entry now => exact Yields.commit hsame rfl
  | rollBack => rfl

theorem claims_step (s : Plane) (a : Action) :
    (step s a).claims = s.claims ∨ ∃ item, (step s a).claims = s.claims ++ [item] ∧
      (step s a).store.row item.workloadID = some item := by
  cases a with
  | claimNext workerID lease locked now =>
    cases hr : s.store.claimNext workerID lease locked now with
    | error e =>
      have hstep : step s (.claimNext workerID lease locked now) = s := by
        simp only [step, dispatch, hr]
        rfl
      exact .inl (congrArg Plane.claims hstep)
    | ok r =>
      obtain ⟨_, _, _, _, _, heq⟩ := Store.claimNext_eq_ok hr
      have hstep : step s (.claimNext workerID lease locked now) = ⟨r.1, s.claims ++ [r.2]⟩ := by
        simp only [step, dispatch, hr]
        rfl
      rw [hstep, heq]
      exact .inr ⟨r.2, rfl, Table.lookup_put_self ..⟩
  | _ => exact .inl (claims_same s nofun)

theorem claims_run (s : Plane) (acts : List Action) : s.claims <+: (run step s acts).claims := by
  induction acts generalizing s with
  | nil => exact prefix_rfl
  | cons a acts ih =>
    apply List.IsPrefix.trans _ (ih (step s a))
    obtain heq | ⟨item, heq, _⟩ := claims_step s a
    · rw [heq]
    · rw [heq]
      exact prefix_append _ _

def WorkerOp.after (op : WorkerOp) (leaseSeq : Nat) (now : Time) (r : Workload) : Workload :=
  match op with
  | .beginScheduling => { r with state := .scheduling, errorCode := none, lastError := none }
  | .assignLease providerID resourceHash _ _ => r.assignedTo providerID (leaseSeq + 1) resourceHash
  | .markLeased _ => { r.cleared with state := .leased }
  | .markDeploying _ => { r with state := .deploying }
  | .markRunning containerID =>
    { r.cleared with state := .running, containerID := some containerID }
  | .markStopped _ => { r.cleared with state := .stopped }
  | .retryLater code message delay =>
    { r with
      attemptCount := r.attemptCount + 1, nextAttemptAt := some (now + delay)
      errorCode := some code, lastError := some (cut message) }
  | .markFailed code message =>
    { r with
      state := .failed, attemptCount := r.attemptCount + 1, nextAttemptAt := none
      errorCode := some code, lastError := some (cut message) }

theorem Store.work_row {s t : Store} {item : Workload} (h : s.work item now op = .ok t) :
    ∃ r, s.row item.workloadID = some r ∧ r.HeldBy item now ∧
      r.state ∈ WorkloadState.claimable ∧
      t.row item.workloadID = some ((op.after s.leaseSeq now r).released now) ∧
      ∀ w, w ≠ item.workloadID → t.row w = s.row w := by
  have hwrite {states : List WorkloadState} {cond : Workload → Bool} {f : Workload → Workload}
      {t : Store} (h : s.workerWrite item now states cond f = .ok t)
      (hstates : states ⊆ WorkloadState.claimable)
      (hf : ∀ r, (f r).workloadID = r.workloadID) (heq : f = op.after s.leaseSeq now) :
      ∃ r, s.row item.workloadID = some r ∧ r.HeldBy item now ∧
        r.state ∈ WorkloadState.claimable ∧
        t.row item.workloadID = some ((op.after s.leaseSeq now r).released now) ∧
        ∀ w, w ≠ item.workloadID → t.row w = s.row w := by
    subst heq
    obtain ⟨r, hr, ⟨hheld, hstate, _⟩, _, rfl⟩ := Store.workerWrite_eq_ok.1 h
    have hid : ((op.after s.leaseSeq now r).released now).workloadID = item.workloadID :=
      (hf r).trans (Store.row_workloadID hr)
    refine ⟨r, hr, hheld, hstates hstate, ?_, ?_⟩
    · rw [Store.row_put, if_pos hid.symm]
    · intro w hw
      rw [Store.row_put, if_neg (hid ▸ hw)]
  cases op with
  | beginScheduling => exact hwrite h (by decide) (fun _ => rfl) rfl
  | assignLease p hash c b =>
    cases hl : s.assignLease item p hash c b now with
    | error e => simp only [Store.work, hl] at h; cases h
    | ok x =>
      obtain ⟨_, leaseID⟩ := x
      simp only [Store.work, hl] at h
      cases h
      obtain ⟨_, u, _, _, hu, rfl, rfl⟩ := Store.assignLease_eq_ok hl
      have hu := hwrite hu (by decide) (fun _ => rfl) rfl
      exact hu
  | markLeased leaseID => exact hwrite h (by decide) (fun _ => rfl) rfl
  | markDeploying leaseID => exact hwrite h (by decide) (fun _ => rfl) rfl
  | markRunning containerID =>
    obtain ⟨_, _, h⟩ := bind_eq_ok.1 h
    exact hwrite h (by decide) (fun _ => rfl) rfl
  | markStopped leaseID => exact hwrite h (by decide) (fun _ => rfl) rfl
  | retryLater code message delay =>
    obtain ⟨_, _, h⟩ := bind_eq_ok.1 h
    exact hwrite h (List.Subset.refl _) (fun _ => rfl) rfl
  | markFailed code message =>
    obtain ⟨_, _, h⟩ := bind_eq_ok.1 h
    exact hwrite h (List.Subset.refl _) (fun _ => rfl) rfl

theorem untouched_of_work {s : Plane} {acts : List Action}
    (hc : (step s a).claims = s.claims ++ [item])
    (hok : (dispatch (run step (step s a) acts) (.work s.claims.length op now)).isOk) :
    Untouched item.workloadID (step s a) acts := by
  obtain hsame | ⟨item', hnew, hrow⟩ := claims_step s a
  · rw [hsame] at hc
    exact absurd (self_eq_append_right.1 hc) (cons_ne_nil _ _)
  · rw [hnew] at hc
    cases append_cancel_left hc
    have hget : (run step (step s a) acts).claims[s.claims.length]? = some item := by
      have hpre := claims_run (step s a) acts
      rw [hnew] at hpre
      obtain ⟨rest, hrest⟩ := hpre
      rw [← hrest, append_assoc, getElem?_append_right le_rfl, Nat.sub_self]
      rfl
    obtain ⟨t, ht⟩ := isOk_iff.1 hok
    obtain ⟨item', hitem, ht⟩ := bind_eq_ok.1 ht
    obtain ⟨u, hu, _⟩ := bind_eq_ok.1 ht
    rw [hget] at hitem
    cases okOr_eq_ok.1 hitem
    obtain ⟨r, hr, hheld, _⟩ := Store.work_row hu
    exact untouched hrow hr hheld.1

/-- One state machine per row, under every interleaving. -/
theorem workload_rows (acts : List Action) (w : Uuid) :
    let s := run step Plane.init acts
    let assigned := outputs step (assignmentsOf w) Plane.init acts
    (∀ a, ∀ r ∈ s.store.row w, ∃ r' ∈ (step s a).store.row w,
      r' = r ∨ r.version < r'.version ∧ r.state.Moves a.isStop r'.state) ∧
    (∀ r ∈ s.store.row w, r.state ∈ WorkloadState.terminal → ∀ acts',
      ∃ r' ∈ (run step s acts').store.row w, r'.state = r.state) ∧
    (assigned.length ≤ 1 ∧ ∀ r ∈ s.store.row w,
      r.assigned = (assigned.head?.map Assignment.columns).getD (none, none, none)) ∧
    (∀ w', w' ≠ w → ∀ r ∈ s.store.row w, ∀ r' ∈ s.store.row w', ∀ l ∈ r.leaseID,
      l ∉ r'.leaseID) ∧
    (∀ a item, (step s a).claims = s.claims ++ [item] → item.workloadID = w → ∀ acts' op now,
      (dispatch (run step (step s a) acts') (.work s.claims.length op now)).isOk →
      Untouched w (step s a) acts') ∧
    (∀ r ∈ s.store.row w, r.stopRequestID.isSome → ∀ acts',
      ∃ r' ∈ (run step s acts').store.row w, r'.state ∈ WorkloadState.halting) := by
  intro s assigned
  have hsound : Sound s.store := sound acts
  have hassigned : AssignedOnce w s.store assigned := assignedOnce acts w
  refine ⟨?_, ?_, ⟨hassigned.once, hassigned.shows⟩, ?_, ?_, ?_⟩
  · intro a r hr
    obtain hsame | ⟨r', hr', hw⟩ := ((storeStep s a).rowStep w).row hr
    · exact ⟨r, hsame, .inl rfl⟩
    · exact ⟨r', hr', .inr ⟨hw.version ▸ Nat.lt_succ_self _, hw.moves⟩⟩
  · intro r hr hterm acts'
    apply state_run (P := fun x => x = r.state) _ hr rfl
    rintro asked x y rfl hmoves
    exact hmoves.terminal hterm
  · intro w' hne r hr r' hr' l hl hl'
    exact hne (hsound.distinct w w' r hr r' hr' l hl hl').symm
  · rintro a item hc rfl acts' op now hok
    exact untouched_of_work hc hok
  · intro r hr hstop acts'
    apply state_run (P := (· ∈ WorkloadState.halting)) _ hr (hsound.halting w r hr hstop)
    intro asked x y hx hmoves
    exact hmoves.halting hx

def submission (id : Uuid) : Workload :=
  { workloadID := id, requestID := id, ownerID := 1, projectID := none, requestHash := 0
    definition := .empty, image := "app", vmImageSha256 := "", state := .requested
    providerID := none, leaseID := none, resourceHash := none, containerID := none
    attemptCount := 0, nextAttemptAt := none, workerID := none, workerLeaseUntil := none
    errorCode := none, lastError := none, stopRequestID := none, stopRequestedAt := none
    version := 0, createdAt := 0, updatedAt := 0, reserved := .zero }

theorem workload_rows_two_workers :
    let s := run step Plane.init [.createOrGet (submission 7)]
    let a := Action.claimNext "a" 10 [] 0
    let acts' := [Action.createOrGet (submission 8), .claimNext "b" 10 [] 1]
    (run step (step s a) acts').claims.length = 2 ∧ Untouched 7 (step s a) acts' := by
  intro s a acts'
  refine ⟨by decide +kernel, ?_⟩
  apply (workload_rows [.createOrGet (submission 7)] 7).2.2.2.2.1 a
    ((submission 7).inserted.claimed "a" 10) _ rfl acts' .beginScheduling 5
  · decide +kernel
  · decide +kernel

end OpenInfra.ControlPlane
