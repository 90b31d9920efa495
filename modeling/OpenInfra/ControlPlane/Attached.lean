import OpenInfra.ControlPlane.System

namespace OpenInfra.ControlPlane
open Frame List

structure Progress where
  attached : Bool
  revoked : Bool
  completed : Bool

def Progress.none : Progress := ⟨false, false, false⟩

/-- The overlay is attached before `running` is said, and off before `stopped` is. -/
def lifecycle (item : Workload) : Protocol Request Reply where
  State := Progress
  allows c q :=
    match q with
    | .attach request => request.workloadID = item.workloadID ∧ request.leaseID = item.leaseID ∧
        item.state = .deploying
    | .revoke workloadID => workloadID = item.workloadID ∧ item.state = .stopping
    | .ensureLeaseCompleted leaseID => item.leaseID = some leaseID
    | .work (.markRunning _) => c.attached = true
    | .work (.markStopped _) => c.revoked = true ∧ c.completed = true
    | _ => True
  expects _ _ := True
  next c q r :=
    match q, r with
    | .attach _, .ok () => { c with attached := true }
    | .revoke _, .ok () => { c with revoked := true }
    | .ensureLeaseCompleted _, .ok () => { c with completed := true }
    | _, _ => c

def InOrder (item : Workload) : Progress → Task → Prop :=
  Program.Follows (lifecycle item) fun _ _ => True

theorem lifecycle_late (item : Workload) : Late (lifecycle item) where
  providers _ := ⟨trivial, fun _ => rfl⟩
  rank _ _ _ := ⟨trivial, fun _ => rfl⟩
  ensureLeaseActive _ _ _ _ _ := ⟨trivial, fun _ => rfl⟩
  beginScheduling _ := ⟨trivial, fun _ => rfl⟩
  assignLease _ _ _ _ _ := ⟨trivial, fun _ => rfl⟩
  markLeased _ _ := ⟨trivial, fun _ => rfl⟩
  markDeploying _ _ := ⟨trivial, fun _ => rfl⟩
  retryLater _ _ _ _ := ⟨trivial, fun _ => rfl⟩
  markFailed _ _ _ := ⟨trivial, fun _ => rfl⟩

section
variable {w : Worker} {item : Workload} {c : Progress}

theorem InOrder.write (h : (lifecycle item).allows c (.work op)) :
    InOrder item c (Worker.write op result) := follows_write h (fun _ _ => trivial) fun _ => trivial

theorem InOrder.retry : InOrder item c (w.retry item code cause) := (lifecycle_late item).retry

theorem InOrder.orRetry_to {x : Call A} {k : A → Task} {R : Progress → Except Text A → Prop}
    (hx : Program.Follows (lifecycle item) R c x.run) (hR : ∀ c₁ a, R c₁ (.ok a) → c₁ = d)
    (hk : ∀ a, InOrder item d (k a)) : InOrder item c (w.orRetry item code x k) :=
  (lifecycle_late item).orRetry_to hx hR hk

theorem InOrder.orRetry {x : Call A} {k : A → Task}
    (hx : Program.Follows (lifecycle item) (fun c' _ => c' = c) c x.run)
    (hk : ∀ a, InOrder item c (k a)) : InOrder item c (w.orRetry item code x k) :=
  .orRetry_to hx (fun _ _ => id) hk

theorem InOrder.orReturn {x : Except Text A} {k : A → Task}
    (hk : ∀ a, x = .ok a → InOrder item c (k a)) : InOrder item c (Worker.orReturn x k) :=
  follows_orReturn (fun _ _ => trivial) hk

theorem quiet_listSchedulableProviders : Quiet (lifecycle item) .listSchedulableProviders :=
  (lifecycle_late item).providers

theorem attachOverlay_inOrder (hw : w.overlay = true) (hs : item.state = .deploying)
    (hid : request.workloadID = item.workloadID) (hl : request.leaseID = item.leaseID)
    (hk : InOrder item { c with attached := true } k) :
    InOrder item c (w.attachOverlay item p request k) := by
  unfold Worker.attachOverlay
  rw [if_pos hw]
  refine ⟨⟨hid, hl, hs⟩, ?_⟩
  rintro (e | _) _
  · exact ⟨trivial, fun _ _ => InOrder.retry⟩
  · exact hk

theorem deploy_inOrder (hw : w.overlay = true) (hs : item.state = .deploying) :
    InOrder item c (w.deploy item) := by
  refine .orRetry (quiet_listSchedulableProviders.provider _) fun p => ?_
  refine .orReturn fun definition _ => ?_
  refine .orRetry (follows_whenSet (fun _ => Quiet.ask fun _ => ⟨trivial, fun _ => rfl⟩)
    fun _ => rfl) fun _ => ?_
  refine ⟨trivial, fun now _ => ?_⟩
  refine InOrder.orRetry (follows_whenSet (fun _ => Quiet.ask fun _ => ⟨trivial, fun _ => rfl⟩)
    fun _ => rfl) fun volumes => ?_
  refine .orRetry (follows_whenSet (fun _ => Quiet.ask fun _ => ⟨trivial, fun _ => rfl⟩)
    fun _ => rfl) fun port => ?_
  refine .orRetry (Quiet.ask fun _ => ⟨trivial, fun _ => rfl⟩) fun containerID => ?_
  exact attachOverlay_inOrder hw hs rfl rfl (.write rfl)

theorem stop_inOrder (hw : w.overlay = true) (hs : item.state = .stopping) :
    InOrder item c (w.stop item) := by
  refine .orReturn fun leaseID hl => ?_
  have hl := okOr_eq_ok.1 hl
  refine .orRetry (quiet_listSchedulableProviders.provider _) fun p => ?_
  refine .orRetry (Quiet.ask fun _ => ⟨trivial, fun _ => rfl⟩) fun _ => ?_
  refine .orRetry_to (d := { c with revoked := true })
    (R := fun c' r => c' = (lifecycle item).next c (.revoke item.workloadID) r) ?_
    (fun _ _ => id) fun _ => ?_
  · exact follows_whenSet (fun _ => .ask ⟨rfl, hs⟩ fun _ _ => rfl) fun h => by rw [hw] at h; cases h
  refine .orRetry_to (d := { c with revoked := true, completed := true })
    (R := fun c' r => c' = (lifecycle item).next { c with revoked := true }
      (.ensureLeaseCompleted leaseID) r) ?_ (fun _ _ => id) fun _ => ?_
  · exact .ask hl fun _ _ => rfl
  · exact .write ⟨rfl, rfl⟩

theorem processOne_inOrder (hw : w.overlay = true) (item : Workload) :
    InOrder item .none (w.processOne item) :=
  (lifecycle_late item).processOne (deploy_inOrder hw) (stop_inOrder hw)

end

def System.Attached (s : System) (r : Workload) : Prop :=
  ∃ peer ∈ s.overlay.peers.lookup r.workloadID, r.leaseID = some peer.leaseID

def System.Cleaned (s : System) (r : Workload) : Prop :=
  (∃ l ∈ r.leaseID, Completed s.leases l) ∧ s.overlay.peers.lookup r.workloadID = none

instance (s : System) (r : Workload) : Decidable (s.Attached r) :=
  inferInstanceAs (Decidable (∃ peer ∈ s.overlay.peers.lookup r.workloadID, _ = _))

instance (s : System) (r : Workload) : Decidable (s.Cleaned r) :=
  have : Decidable (s.overlay.peers.lookup r.workloadID = none) :=
    decidable_of_iff _ Option.isNone_iff_eq_none
  inferInstanceAs (Decidable (_ ∧ _))

def System.Truthful (s : System) (r : Workload) : Prop :=
  (r.state = .stopped → s.Cleaned r) ∧ (r.state = .running → s.Attached r)

structure Told (s : System) (item : Workload) (c : Progress) : Prop where
  attached : c.attached = true → item.state = .deploying ∧
    (s.store.row item.workloadID = some item → s.Attached item)
  revoked : c.revoked = true → item.state = .stopping ∧
    (s.store.row item.workloadID = some item → s.overlay.peers.lookup item.workloadID = none)
  completed : c.completed = true → ∃ l ∈ item.leaseID, Completed s.leases l

structure Orderly (s : System) : Prop where
  claimed : s.plane.AllClaimed
  tasks : ∀ x ∈ s.tasks, ∃ c, InOrder x.1 c x.2 ∧ Told s x.1 c
  rows : ∀ w, ∀ r ∈ s.store.row w, s.Truthful r

section
variable {s : System} {t : Store} {r r' item : Workload} {c : Progress}

theorem System.Attached.congr (h : s.Attached r) (hid : r'.workloadID = r.workloadID)
    (hl : r'.leaseID = r.leaseID) : s.Attached r' := by
  unfold System.Attached
  rwa [hid, hl]

theorem System.Cleaned.congr (h : s.Cleaned r) (hid : r'.workloadID = r.workloadID)
    (hl : r'.leaseID = r.leaseID) : s.Cleaned r' := by
  unfold System.Cleaned
  rwa [hid, hl]

theorem System.Truthful.congr (h : s.Truthful r) (hs : r'.state = r.state)
    (hid : r'.workloadID = r.workloadID) (hl : r'.leaseID = r.leaseID) : s.Truthful r' :=
  ⟨fun hstop => (h.1 (hs.symm.trans hstop)).congr hid hl,
    fun hrun => (h.2 (hs.symm.trans hrun)).congr hid hl⟩

theorem System.Truthful.of_state (h : r.state ∉ [.running, .stopped]) : s.Truthful r := by
  constructor
  · intro hstop
    rw [hstop] at h
    exact absurd h (by decide)
  · intro hrun
    rw [hrun] at h
    exact absurd h (by decide)

theorem Told.start : Told s item .none := ⟨nofun, nofun, nofun⟩

theorem Told.store (h : Told s item c) (hc : Claimed s.store item)
    (hst : StoreStep asked s.store t out) : Told { s with store := t } item c := by
  refine ⟨fun ha => ?_, fun hr => ?_, h.completed⟩
  · obtain ⟨hstate, hpeer⟩ := h.attached ha
    exact ⟨hstate, fun hrow => hpeer (hc.current hst hrow)⟩
  · obtain ⟨hstate, hpeer⟩ := h.revoked hr
    exact ⟨hstate, fun hrow => hpeer (hc.current hst hrow)⟩

theorem Told.leases (h : Told s item c) (hl : ∀ l, Completed s.leases l → Completed leases' l) :
    Told { s with leases := leases' } item c := by
  refine ⟨h.attached, h.revoked, fun hc => ?_⟩
  obtain ⟨l, hitem, hdone⟩ := h.completed hc
  exact ⟨l, hitem, hl l hdone⟩

theorem System.Truthful.leases (h : s.Truthful r)
    (hl : ∀ l, Completed s.leases l → Completed leases' l) :
    System.Truthful { s with leases := leases' } r := by
  refine ⟨fun hstop => ?_, h.2⟩
  obtain ⟨⟨l, hrow, hdone⟩, hpeer⟩ := h.1 hstop
  exact ⟨⟨l, hrow, hl l hdone⟩, hpeer⟩

def System.attaching (s : System) (i : Nat) : Option OverlayRequest :=
  match s.tasks[i]? with
  | some (_, .call (.attach request) _) => some request
  | _ => none

theorem System.attaching_eq (h : s.tasks[i]? = some (item, .call (.attach request) k)) :
    s.attaching i = some request := by
  unfold attaching
  rw [h]

/-- Reports and attachments come when the row will be true. -/
def Tidy (s : System) : Event → Prop
  | .report providerID entry _ => ∀ x ∈ reconciliationTransition entry.phase,
    ∀ r ∈ s.store.row entry.workloadID, r.providerID = some providerID → r.state ∈ x.fromStates →
      (x.toState = .stopped → s.Cleaned r) ∧ (x.toState = .running → s.Attached r)
  | .proceed i _ => ∀ request ∈ s.attaching i,
    ∀ r ∈ s.store.row request.workloadID, r.state ∉ [.stopping, .stopped]
  | _ => True

instance (s : System) : ∀ e, Decidable (Tidy s e)
  | .report .. => inferInstanceAs (Decidable (∀ x ∈ _, ∀ r ∈ _, _ → _ → _))
  | .proceed .. => inferInstanceAs (Decidable (∀ request ∈ _, ∀ r ∈ _, _))
  | .submit _ => .isTrue trivial
  | .requestStop .. => .isTrue trivial
  | .requestStopByProject .. => .isTrue trivial
  | .claim .. => .isTrue trivial
  | .rollBack => .isTrue trivial
  | .updateLeaseState .. => .isTrue trivial

def RowsOf (s : System) (t : Store) : Prop := ∀ w, ∀ r ∈ t.row w, s.Truthful r

theorem RowsOf.put (h : RowsOf s t) (hr : s.Truthful r) :
    RowsOf s { t with workloads := t.workloads.put r } := by
  intro w r' hr'
  rw [Store.row_put] at hr'
  split at hr'
  · cases hr'
    exact hr
  · exact h w r' hr'

theorem RowsOf.submit (h : RowsOf s s.store) (candidate : Workload) :
    RowsOf s (s.act (.createOrGet candidate.submitted)).store := by
  apply Yields.commit (P := fun t : Plane => RowsOf s t.store) _ h
  apply Yields.bind
  intro r hr
  obtain heq | ⟨_, heq⟩ := Store.createOrGet_eq_ok hr
  · exact .ok (heq ▸ h)
  · have hstate : candidate.submitted.inserted.state ∉ [.running, .stopped] :=
      show WorkloadState.requested ∉ [.running, .stopped] by decide
    exact .ok (heq ▸ h.put (.of_state hstate))

theorem RowsOf.requestStopIn {scope : Workload → Bool} (h : RowsOf s s.store)
    (hok : s.store.requestStopIn scope workloadID requestID now = .ok (t, item)) : RowsOf s t := by
  obtain ⟨r, hr, _, ⟨rfl, _⟩ | ⟨_, rfl⟩⟩ := Store.requestStopIn_eq_ok hok
  · exact h
  · apply h.put
    by_cases hterm : r.state ∈ WorkloadState.terminal
    · exact (h _ r hr).congr (if_pos hterm) rfl rfl
    · have hstate : (r.stopped requestID now).state = .stopping := if_neg hterm
      exact .of_state (hstate ▸ by decide)

theorem RowsOf.requestStop (h : RowsOf s s.store) (workloadID requestID ownerID : Uuid)
    (now : Time) : RowsOf s (s.act (.requestStop workloadID requestID ownerID now)).store := by
  apply Yields.commit (P := fun t : Plane => RowsOf s t.store) _ h
  apply Yields.bind
  intro r hr
  exact .ok (h.requestStopIn hr)

theorem RowsOf.requestStopByProject (h : RowsOf s s.store) (workloadID requestID projectID : Uuid)
    (now : Time) :
    RowsOf s (s.act (.requestStopByProject workloadID requestID projectID now)).store := by
  apply Yields.commit (P := fun t : Plane => RowsOf s t.store) _ h
  apply Yields.bind
  intro r hr
  exact .ok (h.requestStopIn hr)

theorem Workload.reported_columns (r : Workload) (toState : WorkloadState) (containerID : String)
    (errorCode : Option ErrorCode) :
    (r.reported toState containerID errorCode).workloadID = r.workloadID ∧
      (r.reported toState containerID errorCode).leaseID = r.leaseID := by
  cases errorCode <;> exact ⟨rfl, rfl⟩

theorem RowsOf.report (h : RowsOf s s.store) (htidy : Tidy s (.report providerID entry now)) :
    RowsOf s (s.act (.report providerID entry now)).store := by
  apply Yields.commit (P := fun t : Plane => RowsOf s t.store) _ h
  apply Yields.bind
  intro t ht
  obtain heq | ⟨x, r, hx, hr, hp, hs, heq⟩ := Store.reconcileEntry_eq_ok ht
  · exact .ok (heq ▸ h)
  · obtain ⟨hstop, hrun⟩ := htidy x hx r hr hp hs
    obtain ⟨hid, hl⟩ := r.reported_columns x.toState entry.containerID x.errorCode
    have hstate := r.reported_state x.toState entry.containerID x.errorCode
    refine .ok (heq ▸ h.put ⟨fun h' => ?_, fun h' => ?_⟩)
    · exact (hstop (hstate.symm.trans h')).congr hid hl
    · exact (hrun (hstate.symm.trans h')).congr hid hl

theorem RowsOf.claim (h : RowsOf s s.store)
    (hok : s.store.claimNext workerID lease locked now = .ok (t, item)) : RowsOf s t := by
  obtain ⟨r, hr, _, _, rfl, rfl⟩ := Store.claimNext_eq_ok hok
  exact h.put ((h _ r hr).congr rfl rfl rfl)

theorem RowsOf.work (h : RowsOf s s.store) (hc : Claimed s.store item)
    (hallows : (lifecycle item).allows c (.work op)) (htold : Told s item c)
    (hok : s.store.work item now (op.racing aborted) = .ok t) : RowsOf s t := by
  obtain ⟨r, hr, hheld, _, ht, hother⟩ := Store.work_row hok
  have hitem := hc.held hr hheld
  subst hitem
  intro w r' hr'
  by_cases hw : w = r.workloadID
  · subst hw
    rw [ht] at hr'
    cases hr'
    cases op with
    | markRunning containerID =>
      refine ⟨nofun, fun _ => ?_⟩
      exact ((htold.attached hallows).2 hr).congr rfl rfl
    | markStopped leaseID =>
      refine ⟨fun _ => ?_, nofun⟩
      exact System.Cleaned.congr ⟨htold.completed hallows.2, (htold.revoked hallows.1).2 hr⟩ rfl rfl
    | retryLater code message delay => exact (h _ r hr).congr rfl rfl rfl
    | beginScheduling => exact ⟨nofun, nofun⟩
    | assignLease p hash cap b => exact ⟨nofun, nofun⟩
    | markLeased leaseID => exact ⟨nofun, nofun⟩
    | markDeploying leaseID => exact ⟨nofun, nofun⟩
    | markFailed code message => exact ⟨nofun, nofun⟩
  · rw [hother w hw] at hr'
    exact h w r' hr'

theorem Told.overlay {m : Manager} (h : Told s item c)
    (hpeers : s.store.row item.workloadID = some item → c.attached = true ∨ c.revoked = true →
      m.peers.lookup item.workloadID = s.overlay.peers.lookup item.workloadID) :
    Told { s with overlay := m } item c := by
  refine ⟨fun ha => ?_, fun hr => ?_, h.completed⟩
  · obtain ⟨hstate, hpeer⟩ := h.attached ha
    refine ⟨hstate, fun hrow => ?_⟩
    unfold System.Attached
    rw [hpeers hrow (.inl ha)]
    exact hpeer hrow
  · obtain ⟨hstate, hpeer⟩ := h.revoked hr
    exact ⟨hstate, fun hrow => (hpeers hrow (.inr hr)).trans (hpeer hrow)⟩

theorem System.Truthful.overlay {m : Manager} (h : s.Truthful r)
    (hpeers : r.state = .stopped ∨ r.state = .running →
      m.peers.lookup r.workloadID = s.overlay.peers.lookup r.workloadID) :
    System.Truthful { s with overlay := m } r := by
  refine ⟨fun hstop => ?_, fun hrun => ?_⟩
  · unfold System.Cleaned
    rw [hpeers (.inl hstop)]
    exact h.1 hstop
  · unfold System.Attached
    rw [hpeers (.inr hrun)]
    exact h.2 hrun

structure Answered (s s' : System) (item : Workload) (c : Progress) : Prop where
  asker : Told s' item c
  others : ∀ x ∈ s.tasks, ∀ d, Told s x.1 d → Told s' x.1 d
  rows : RowsOf s' s'.store

theorem Answered.same (h : Orderly s) (htold : Told s item c) : Answered s s item c :=
  ⟨htold, fun _ _ _ => id, h.rows⟩

theorem Answered.leases (h : Orderly s) (htold : Told { s with leases := leases' } item c)
    (hl : ∀ l, Completed s.leases l → Completed leases' l) :
    Answered s { s with leases := leases' } item c :=
  ⟨htold, fun _ _ _ hd => hd.leases hl, fun w r hr => (h.rows w r hr).leases hl⟩

theorem Answered.overlay {m : Manager} (v : Uuid) (h : Orderly s)
    (hkeep : ∀ w, w ≠ v → m.peers.lookup w = s.overlay.peers.lookup w)
    (htold : ∀ item' d, Told s item' d → item'.workloadID = v → s.store.row v = some item' →
      d.attached = true ∨ d.revoked = true → m.peers.lookup v = s.overlay.peers.lookup v)
    (hrows : ∀ r ∈ s.store.row v, r.state = .stopped ∨ r.state = .running →
      m.peers.lookup v = s.overlay.peers.lookup v)
    (hasker : (∀ item' d, Told s item' d → Told { s with overlay := m } item' d) →
      Told { s with overlay := m } item c) : Answered s { s with overlay := m } item c := by
  have hothers (item' : Workload) (d : Progress) (hd : Told s item' d) :
      Told { s with overlay := m } item' d := by
    apply hd.overlay
    intro hrow hflag
    by_cases hv : item'.workloadID = v
    · subst hv
      exact htold item' d hd rfl hrow hflag
    · exact hkeep _ hv
  refine ⟨hasker hothers, fun x _ d hd => hothers x.1 d hd, fun w r hr => ?_⟩
  apply (h.rows w r hr).overlay
  intro hstate
  have hw := Store.row_workloadID hr
  by_cases hv : r.workloadID = v
  · subst hv
    exact hrows r (hw ▸ hr) hstate
  · exact hkeep _ hv

theorem Told.attach (h : Told s item c) (hs : item.state = .deploying) (ha : s.Attached item) :
    Told s item { c with attached := true } :=
  ⟨fun _ => ⟨hs, fun _ => ha⟩, h.revoked, h.completed⟩

theorem Told.revoke (h : Told s item c) (hs : item.state = .stopping)
    (hr : s.overlay.peers.lookup item.workloadID = none) : Told s item { c with revoked := true } :=
  ⟨h.attached, fun _ => ⟨hs, fun _ => hr⟩, h.completed⟩

theorem Answered.attach {m : Manager} (h : Orderly s) (htold : Told s item c)
    (hid : request.workloadID = item.workloadID) (hl : request.leaseID = item.leaseID)
    (hs : item.state = .deploying)
    (htidy : ∀ r ∈ s.store.row request.workloadID, r.state ∉ [.stopping, .stopped])
    (ha : Attachment request s.overlay reply m) :
    Answered s { s with overlay := m } item
      ((lifecycle item).next c (.attach request) reply) := by
  cases ha with
  | failed hm =>
    have hpeers (w : Uuid) : m.peers.lookup w = s.overlay.peers.lookup w := by rw [hm]
    exact .overlay item.workloadID h (fun w _ => hpeers w) (fun _ _ _ _ _ _ => hpeers _)
      (fun _ _ _ => hpeers _) fun hothers => hothers item c htold
  | @existing peer hp hpl =>
    exact .same h (htold.attach hs ⟨peer, hid ▸ hp, (hpl.trans hl).symm⟩)
  | @added _ peer hnone hw hpl hm =>
    rw [hid] at hnone hw htidy
    apply Answered.overlay item.workloadID h
    · intro w hne
      rw [hm, Table.lookup_put_of_ne _ (hw ▸ hne)]
    · rintro item' d hd hv hrow (ha | hr)
      · obtain ⟨peer', hp, _⟩ := (hd.attached ha).2 (hv ▸ hrow)
        rw [hv, hnone] at hp
        cases hp
      · exact absurd (htidy item' hrow) (by rw [(hd.revoked hr).1]; decide)
    · rintro r hr (hstop | hrun)
      · exact absurd (htidy r hr) (by rw [hstop]; decide)
      · obtain ⟨peer', hp, _⟩ := (h.rows _ r hr).2 hrun
        rw [Store.row_workloadID hr, hnone] at hp
        cases hp
    · intro hothers
      have hpeer : m.peers.lookup item.workloadID = some peer := by
        rw [hm, ← hw]
        exact Table.lookup_put_self ..
      exact (hothers item c htold).attach hs ⟨peer, hpeer, (hpl.trans hl).symm⟩

theorem Answered.revoke {m : Manager} (h : Orderly s) (hc : Claimed s.store item)
    (htold : Told s item c) (hs : item.state = .stopping) (hm : ∀ w, m.peers.lookup w =
      if w = item.workloadID then none else s.overlay.peers.lookup w) :
    Answered s { s with overlay := m } item { c with revoked := true } := by
  have hgone : m.peers.lookup item.workloadID = none := by rw [hm, if_pos rfl]
  have hhalt {r : Workload} (hr : s.store.row item.workloadID = some r) :
      r.state ∈ WorkloadState.halting := hc.halting hr (hs ▸ by decide)
  apply Answered.overlay item.workloadID h
  · intro w hw
    rw [hm, if_neg hw]
  · rintro item' d hd hv hrow (ha | hr)
    · exact absurd (hhalt hrow) (by rw [(hd.attached ha).1]; decide)
    · rw [hgone, ← (hd.revoked hr).2 (hv ▸ hrow), hv]
  · rintro r hr (hstop | hrun)
    · rw [hgone, ← ((h.rows _ r hr).1 hstop).2, Store.row_workloadID hr]
    · exact absurd (hhalt hr) (by rw [hrun]; decide)
  · intro hothers
    exact (hothers item c htold).revoke hs hgone

theorem Answered.work (h : Orderly s) (hc : Claimed s.store item) (htold : Told s item c)
    (hallows : (lifecycle item).allows c (.work op))
    (hok : s.store.work item now (op.racing aborted) = .ok t) :
    Answered s { s with store := t } item c := by
  obtain ⟨out, hst⟩ := Store.work_storeStep hok
  refine ⟨htold.store hc hst, fun x hx d hd => ?_, ?_⟩
  · exact hd.store (h.claimed _ (mem_map_of_mem hx)) hst
  · have hrows : RowsOf s t := RowsOf.work h.rows hc hallows htold hok
    exact hrows

theorem Answered.ensureLeaseCompleted (h : Orderly s) (htold : Told s item c)
    (hl : item.leaseID = some leaseID) (account : BitVec 256) (o : ChainOutcomes) :
    let x := ControlPlane.ensureLeaseCompleted account leaseID o s.leases
    Answered s { s with leases := x.2 } item
      ((lifecycle item).next c (.ensureLeaseCompleted leaseID) x.1) := by
  intro x
  have hkeep (l : LeaseId) (hdone : Completed s.leases l) : Completed x.2 l :=
    ensureLeaseCompleted_completed l s.leases hdone
  have hleases := htold.leases hkeep
  cases hx : x.1 with
  | error e => exact .leases h hleases hkeep
  | ok =>
    have hdone : Completed x.2 leaseID := ensureLeaseCompleted_ok hx
    exact .leases h ⟨hleases.attached, hleases.revoked, fun _ => ⟨leaseID, hl, hdone⟩⟩ hkeep

theorem Orderly.answer (h : Orderly s) (worker : Worker)
    (hget : s.tasks[i]? = some (item, .call q k))
    (hallows : (lifecycle item).allows c q) (htold : Told s item c)
    (htidy : Tidy s (.proceed i env)) :
    Answered s (s.answer worker item env q).2 item
      ((lifecycle item).next c q (s.answer worker item env q).1) := by
  have hc : Claimed s.store item := System.claimed_task h.claimed hget
  cases q with
  | ensureLeaseActive leaseID provider resourceHash duration =>
    have hkeep (l : LeaseId) (hl : Completed s.leases l) :
        Completed (s.answer worker item env
          (.ensureLeaseActive leaseID provider resourceHash duration)).2.leases l :=
      ensureLeaseActive_completed l s.leases hl
    exact .leases h (htold.leases hkeep) hkeep
  | ensureLeaseCompleted leaseID => exact .ensureLeaseCompleted h htold hallows ..
  | attach request =>
    obtain ⟨hid, hl, hs⟩ := hallows
    exact .attach h htold hid hl hs (htidy request (System.attaching_eq hget))
      (Manager.attachWithAllowedIPs_attachment ..)
  | revoke workloadID =>
    obtain ⟨rfl, hs⟩ := hallows
    obtain ⟨e, hr, _⟩ | ⟨m, hr, hm⟩ := Manager.revoke_cases item.workloadID env.backend s.overlay
    · simp only [System.answer, hr]
      exact .same h htold
    · simp only [System.answer, hr]
      exact .revoke h hc htold hs hm
  | work op =>
    obtain ⟨e, _, hw⟩ | ⟨t, ht, hw⟩ := System.write_cases s item env.now (op.racing env.aborted)
    · simp only [System.answer, hw]
      exact .same h htold
    · simp only [System.answer, hw]
      exact .work h hc htold hallows ht
  | _ => exact .same h htold

theorem Told.setTasks (h : Told s item c) (tasks : List (Workload × Task)) :
    Told { s with tasks := tasks } item c := ⟨h.attached, h.revoked, h.completed⟩

theorem Orderly.proceed (h : Orderly s) (htidy : Tidy s (.proceed i env)) :
    Orderly (s.proceed worker i env) := by
  obtain heq | ⟨item, q, k, hget⟩ := System.proceed_cases worker s i env
  · rwa [heq]
  · obtain ⟨c, hin, htold⟩ := h.tasks _ (mem_of_getElem? hget)
    have ha := h.answer worker hget hin.1 htold htidy
    refine ⟨System.allClaimed_step h.claimed worker (.proceed i env), ?_, ?_⟩
    · rw [System.proceed_call hget]
      intro x hx
      obtain hx | rfl := mem_or_eq_of_mem_set hx
      · obtain ⟨d, hd, htd⟩ := h.tasks x hx
        exact ⟨d, hd, (ha.others x hx d htd).setTasks _⟩
      · exact ⟨_, hin.2 _ trivial, ha.asker.setTasks _⟩
    · rw [System.proceed_call hget]
      exact ha.rows

theorem Orderly.act {a : Action} (h : Orderly s)
    (ha : ∀ workerID lease locked now, a ≠ .claimNext workerID lease locked now)
    (hrows : RowsOf s (s.act a).store) : Orderly (s.act a) := by
  refine ⟨System.act_plane ha ▸ h.claimed.step a, fun x hx => ?_, hrows⟩
  obtain ⟨c, hin, htold⟩ := h.tasks x hx
  exact ⟨c, hin, htold.store (h.claimed _ (mem_map_of_mem hx)) (storeStep s.plane a)⟩

theorem Orderly.claim (h : Orderly s) (hw : worker.overlay = true) (workerID : String)
    (lease : Nat) (locked : List Uuid) (now : Time) :
    Orderly (s.claim worker workerID lease locked now) := by
  cases hok : s.store.claimNext workerID lease locked now with
  | error e => rwa [System.claim_error hok]
  | ok r =>
    obtain ⟨t, item⟩ := r
    obtain ⟨asked, out, hst⟩ :=
      System.storeStep worker s (.claim workerID lease locked now)
    have hclaimed := System.allClaimed_step h.claimed worker (.claim workerID lease locked now)
    have hstep : System.step worker s (.claim workerID lease locked now) = _ :=
      System.claim_ok hok
    rw [hstep] at hst hclaimed
    rw [System.claim_ok hok]
    have hrows : RowsOf s t := RowsOf.claim h.rows hok
    refine ⟨hclaimed, fun x hx => ?_, hrows⟩
    obtain hx | hx := mem_append.1 hx
    · obtain ⟨c, hin, htold⟩ := h.tasks x hx
      have hstore := htold.store (h.claimed _ (mem_map_of_mem hx)) hst
      exact ⟨c, hin, hstore.setTasks _⟩
    · rw [mem_singleton.1 hx]
      exact ⟨.none, processOne_inOrder hw item, .start⟩

theorem Orderly.step (h : Orderly s) (hw : worker.overlay = true) (e : Event)
    (htidy : Tidy s e) : Orderly (System.step worker s e) := by
  cases e with
  | submit candidate => exact h.act nofun (.submit h.rows candidate)
  | requestStop w q owner now => exact h.act nofun (.requestStop h.rows w q owner now)
  | requestStopByProject w q project now =>
    exact h.act nofun (.requestStopByProject h.rows w q project now)
  | claim workerID lease locked now => exact h.claim hw workerID lease locked now
  | proceed i env => exact h.proceed htidy
  | report providerID entry now => exact h.act nofun (.report h.rows htidy)
  | rollBack => exact h.act nofun h.rows
  | updateLeaseState leaseID newState =>
    have hkeep (l : LeaseId) (hl : Completed s.leases l) := moveLease_completed hl leaseID newState
    refine ⟨h.claimed, fun x hx => ?_, fun w r hr => (h.rows w r hr).leases hkeep⟩
    obtain ⟨c, hin, htold⟩ := h.tasks x hx
    exact ⟨c, hin, htold.leases hkeep⟩

theorem Orderly.init (leases : Leases) (firstPort lastPort : Nat) :
    Orderly (System.init leases firstPort lastPort) := by
  refine ⟨fun item hitem => ?_, fun x hx => ?_, fun w r hr => absurd hr row_empty⟩
  · exact absurd hitem not_mem_nil
  · exact absurd hx not_mem_nil

end

/-- In a tidy run, stopped means cleaned up and running means attached. -/
theorem rows_truthful (worker : Worker) (hw : worker.overlay = true) (leases : Leases)
    (firstPort lastPort : Nat) (events : List Event)
    (htidy : Along (System.step worker) Tidy (.init leases firstPort lastPort) events) :
    Throughout (System.step worker)
      (fun s => ∀ w, ∀ r ∈ s.store.row w,
        (r.state = .stopped → s.Cleaned r) ∧ (r.state = .running → s.Attached r))
      (.init leases firstPort lastPort) events := by
  apply Throughout.mono (P := Orderly)
  · exact htidy.throughout (Orderly.init ..) fun s e h => h.step hw e
  · exact fun s h => h.rows

def sampleWorker : Worker where
  account := 1
  sha256 _ := 0
  decodeDefinition _ := .ok ⟨1000, 512, none, 3600, false⟩
  overlay := true
  reconciler := true
  volumes := false
  securityGroups := false
  blockTime := 3
  retryPolicy := defaultRetryPolicy

def calm (now : Time) : Env where
  now := now
  providers := .ok [⟨"p", some 2, "https://p"⟩]
  selected := .ok ("p", ⟨1000, 512, 0, 0, 0⟩)
  running := .ok true
  volumes := .ok []
  port := .ok none
  deployed := .ok "c"
  stopped := .ok ()
  chain := .done 100
  backend := .done
  aborted := false

def calmCall (task n : Nat) : List Event :=
  .claim "worker" 120 [] task :: List.replicate n (.proceed task (calm task))

def deployed : List Event :=
  [.submit (submission 7)] ++ calmCall 0 1 ++ calmCall 1 3 ++ calmCall 2 3 ++ calmCall 3 1

def sampleRun (events : List Event) : System :=
  run (System.step sampleWorker) (.init (fun _ => none) 51820 51829) events

theorem rows_truthful_stopped_workload :
    let events := deployed ++ calmCall 4 5 ++ [.requestStop 7 9 1 5] ++ calmCall 5 5 ++
      [.report "p" ⟨7, .stopped, ""⟩ 6]
    (∃ r ∈ (sampleRun events).store.row 7, r.state = .stopped) ∧
      ∀ r ∈ (sampleRun events).store.row 7, r.state = .stopped → (sampleRun events).Cleaned r := by
  intro events
  refine ⟨by decide +kernel, fun r hr => ?_⟩
  have h := rows_truthful sampleWorker rfl (fun _ => none) 51820 51829 events (by decide +kernel)
  exact (h.last 7 r hr).1

theorem heartbeat_skips_cleanup :
    (let s := sampleRun (deployed ++ [.report "p" ⟨7, .running, "c"⟩ 4])
      ∃ r ∈ s.store.row 7, r.state = .running ∧ ¬ s.Attached r) ∧
    (let s := sampleRun (deployed ++ calmCall 4 5 ++ [.report "p" ⟨7, .stopped, ""⟩ 5])
      ∃ r ∈ s.store.row 7, r.state = .stopped ∧ s.Attached r ∧
        ∀ l ∈ r.leaseID, ¬ Completed s.leases l) ∧
    (let s := sampleRun (deployed ++ calmCall 4 3 ++ [.requestStop 7 9 1 5] ++ calmCall 5 5 ++
        [.proceed 4 (calm 6)])
      ∃ r ∈ s.store.row 7, r.state = .stopped ∧ s.Attached r) := by
  decide +kernel

end OpenInfra.ControlPlane
