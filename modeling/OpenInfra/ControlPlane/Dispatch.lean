import OpenInfra.ControlPlane.System

namespace OpenInfra.ControlPlane
open Frame

/-- What a call has read of the workload it serves. -/
structure Snapshot where
  volumes : List Volume
  port : Option PortSecurity

def Snapshot.none : Snapshot := ⟨[], .none⟩

def Snapshot.next (c : Snapshot) : (q : Request) → Reply q → Snapshot
  | .listAttachedForWorkload _, .ok volumes => { c with volumes := volumes }
  | .resolveForWorkload _, .ok port => { c with port := port }
  | _, _ => c

def PortSecurity.allowedIPs (port : Option PortSecurity) : List String :=
  ((port.map (·.fixedIP)).filter (· ≠ "")).elim [] fun ip => [ip ++ "/32"]

def dispatching (item : Workload) : Protocol Request Reply where
  State := Snapshot
  allows c q :=
    match q with
    | .listAttachedForWorkload workloadID => workloadID = item.workloadID
    | .resolveForWorkload workloadID => workloadID = item.workloadID
    | .deployAndConfirm _ request =>
      request.workloadID = item.workloadID ∧ request.volumes = c.volumes
    | .stopAndConfirm _ workloadID => workloadID = item.workloadID
    | .attach request => request.workloadID = item.workloadID ∧
      request.allowedIPs = PortSecurity.allowedIPs c.port
    | .revoke workloadID => workloadID = item.workloadID
    | _ => True
  expects _ _ := True
  next := Snapshot.next

abbrev Dispatches (item : Workload) : Snapshot → Task → Prop :=
  Program.Follows (dispatching item) fun _ _ => True

theorem dispatching_late (item : Workload) : Late (dispatching item) where
  providers _ := ⟨trivial, fun _ => rfl⟩
  rank _ _ _ := ⟨trivial, fun _ => rfl⟩
  ensureLeaseActive _ _ _ _ _ := ⟨trivial, fun _ => rfl⟩
  beginScheduling _ := ⟨trivial, fun _ => rfl⟩
  assignLease _ _ _ _ _ := ⟨trivial, fun _ => rfl⟩
  markLeased _ _ := ⟨trivial, fun _ => rfl⟩
  markDeploying _ _ := ⟨trivial, fun _ => rfl⟩
  retryLater _ _ _ _ := ⟨trivial, fun _ => rfl⟩
  markFailed _ _ _ := ⟨trivial, fun _ => rfl⟩

namespace Dispatches
variable {w : Worker} {item : Workload} {c : Snapshot}

theorem write (op : WorkerOp) (result : Except WorkerError Unit) :
    Dispatches item c (Worker.write op result) := Late.write (fun _ => ⟨trivial, fun _ => rfl⟩) _

theorem retry : Dispatches item c (w.retry item code cause) := (dispatching_late item).retry

theorem orRetry {x : Call A} {k : A → Task}
    (hx : Program.Follows (dispatching item) (fun c' _ => c' = c) c x.run)
    (hk : ∀ a, Dispatches item c (k a)) : Dispatches item c (w.orRetry item code x k) :=
  (dispatching_late item).orRetry hx hk

theorem orReturn {x : Except Text A} {k : A → Task} (hk : ∀ a, Dispatches item c (k a)) :
    Dispatches item c (Worker.orReturn x k) := follows_orReturn (fun _ _ => trivial) fun a _ => hk a

theorem quiet (h : Quiet (dispatching item) q) :
    Program.Follows (dispatching item) (fun c' _ => c' = c) c
      (Program.ask q : Program Request Reply (Reply q)) := h.ask

theorem quietProviders : Quiet (dispatching item) .listSchedulableProviders :=
  (dispatching_late item).providers

theorem attachOverlay (hid : request.workloadID = item.workloadID)
    (hips : request.allowedIPs = PortSecurity.allowedIPs c.port) (hk : Dispatches item c k) :
    Dispatches item c (w.attachOverlay item p request k) := by
  unfold Worker.attachOverlay
  split
  · refine ⟨⟨hid, hips⟩, ?_⟩
    rintro (e | _) _
    · exact ⟨rfl, fun _ _ => retry⟩
    · exact hk
  · exact hk

theorem deployNow (p : SchedulableProvider) (definition : Definition) (leaseEnd : Time)
    (c : Snapshot) :
    Dispatches item c (w.orRetry item .agentDeployFailed
      (Call.deployAndConfirm p (Worker.deployRequest item definition leaseEnd c.volumes c.port))
      fun containerID => w.attachOverlay item p
        (Worker.overlayRequest item containerID leaseEnd c.port)
        (Worker.write (.markRunning containerID) (.ok ()))) := by
  apply orRetry
  · exact .ask ⟨rfl, rfl⟩ fun _ _ => rfl
  · intro containerID
    exact attachOverlay rfl rfl (write _ _)

theorem resolve {k : Option PortSecurity → Task} (hc : c.port = .none)
    (hk : ∀ port, Dispatches item { c with port := port } (k port)) :
    Dispatches item c (w.orRetry item .securityGroupLookupFailed
      (Worker.whenSet w.securityGroups .none (Call.resolveForWorkload item.workloadID)) k) := by
  apply follows_orRetry (R := fun c' r => ∀ port, r = .ok port → c' = { c with port := port })
  · apply follows_whenSet
    · intro _
      refine .ask rfl ?_
      rintro r _ port rfl
      rfl
    · rintro _ port heq
      cases heq
      rw [← hc]
  · intro c' e _
    exact retry
  · intro c' port hr
    rw [hr port rfl]
    exact hk port

theorem listAttached {k : List Volume → Task} (hc : c.volumes = [])
    (hk : ∀ volumes, Dispatches item { c with volumes := volumes } (k volumes)) :
    Dispatches item c (w.orRetry item .volumeLookupFailed
      (Worker.whenSet w.volumes [] (Call.listAttachedForWorkload item.workloadID)) k) := by
  apply follows_orRetry (R := fun c' r => ∀ vs, r = .ok vs → c' = { c with volumes := vs })
  · apply follows_whenSet
    · intro _
      refine .ask rfl ?_
      rintro r _ vs rfl
      rfl
    · rintro _ vs heq
      cases heq
      rw [← hc]
  · intro c' e _
    exact retry
  · intro c' vs hr
    rw [hr vs rfl]
    exact hk vs

theorem deploy : Dispatches item .none (w.deploy item) := by
  refine orRetry (quietProviders.provider _) fun p => ?_
  refine orReturn fun definition => ?_
  refine orRetry (follows_whenSet (fun _ => quiet fun _ => ⟨trivial, fun _ => rfl⟩)
    fun _ => rfl) fun _ => ?_
  refine ⟨trivial, fun now _ => ?_⟩
  refine listAttached rfl fun volumes => ?_
  refine resolve rfl fun port => ?_
  exact deployNow p definition _ ⟨volumes, port⟩

theorem stop : Dispatches item c (w.stop item) := by
  refine orReturn fun leaseID => ?_
  refine orRetry (quietProviders.provider _) fun p => ?_
  refine orRetry (.ask rfl fun _ _ => rfl) fun _ => ?_
  refine orRetry (follows_whenSet (fun _ => .ask rfl fun _ _ => rfl) fun _ => rfl) fun _ => ?_
  refine orRetry (quiet fun _ => ⟨trivial, fun _ => rfl⟩) fun _ => ?_
  exact write _ _

theorem processOne (w : Worker) (item : Workload) : Dispatches item .none (w.processOne item) :=
  (dispatching_late item).processOne (fun _ => deploy) fun _ => stop

end Dispatches

theorem System.step_cases (worker : Worker) (s : System) (he : ∀ i env, e ≠ .proceed i env) :
    (s.step worker e).overlay = s.overlay ∧ ((s.step worker e).tasks = s.tasks ∨
      ∃ item, (s.step worker e).tasks = s.tasks ++ [(item, worker.processOne item)] ∧
        (s.step worker e).store.row item.workloadID = some item) := by
  cases e with
  | proceed i env => exact absurd rfl (he i env)
  | claim workerID lease locked now =>
    change (s.claim worker workerID lease locked now).overlay = _ ∧
      ((s.claim worker workerID lease locked now).tasks = _ ∨
        ∃ item, (s.claim worker workerID lease locked now).tasks = _ ∧
          (s.claim worker workerID lease locked now).store.row item.workloadID = some item)
    cases hok : s.store.claimNext workerID lease locked now with
    | error e =>
      rw [System.claim_error hok]
      exact ⟨rfl, .inl rfl⟩
    | ok r =>
      obtain ⟨t, item⟩ := r
      obtain ⟨_, _, _, _, _, rfl⟩ := Store.claimNext_eq_ok hok
      rw [System.claim_ok hok]
      exact ⟨rfl, .inr ⟨item, rfl, Table.lookup_put_self ..⟩⟩
  | _ => exact ⟨rfl, .inl rfl⟩

end OpenInfra.ControlPlane
