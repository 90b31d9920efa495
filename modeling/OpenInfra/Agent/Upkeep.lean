import OpenInfra.Agent.Confirm
import OpenInfra.Agent.VmExecutor

namespace OpenInfra.Agent.Vm
open Frame

structure Host.Has (w : WorkloadId) (r : WorkloadRecord) (m : Option Machine) (h : Host) :
    Prop where
  record : h.state.workload w = some r
  machine : h.machines w = m

section
variable {w w' : WorkloadId} {r record : WorkloadRecord} {m : Option Machine} {h : Host}

theorem Host.Has.setMachine (hh : h.Has w r m) (hne : w ≠ w') (x : Option Machine) :
    (h.setMachine w' x).Has w r m := ⟨hh.record, (Function.update_of_ne hne _ _).trans hh.machine⟩

theorem engineCall_has (hne : w ≠ w') :
    Exec.Meets (Host.Has w r m) (engineCall o w' effect) fun _ => Host.Has w r m := by
  intro h hh
  unfold engineCall
  split
  · exact hh
  · rename_i x _
    have ht : (if o.effective then h.setMachine w' (some (effect x)) else h).Has w r m := by
      split
      · exact hh.setMachine hne _
      · exact hh
    cases o.exits with
    | true => exact ht.setMachine hne _
    | false => exact ht

theorem inspect_has (hne : w ≠ w') :
    Exec.Meets (Host.Has w r m) (inspect o w') fun _ => Host.Has w r m := by
  intro h hh
  unfold inspect
  split
  · exact hh
  · cases o.exits with
    | true => exact hh.setMachine hne _
    | false => exact hh

theorem remove_has (hne : w ≠ w') :
    Exec.Meets (Host.Has w r m) (remove o w') fun _ => Host.Has w r m := by
  intro h hh
  unfold remove
  cases o.effective with
  | true => exact hh.setMachine hne _
  | false => exact hh

theorem storeWorkload_has (hne : w ≠ w') :
    Exec.Meets (Host.Has w r m) (storeWorkload ok w' record) fun _ => Host.Has w r m := by
  intro h hh
  cases ok with
  | false => exact hh
  | true =>
    refine ⟨?_, hh.machine⟩
    rw [← hh.record]
    exact (LocalState.workload_put ..).trans (if_neg hne)

theorem applyRateLimitIfNeeded_has (hne : w ≠ w') :
    Exec.Meets (Host.Has w r m) (applyRateLimitIfNeeded o record w') fun _ => Host.Has w r m := by
  unfold applyRateLimitIfNeeded
  split
  · exact .pure fun _ => id
  · refine (Exec.Meets.attempt (engineCall_has hne)).keep fun a => ?_
    cases a with
    | ok u => exact .pure fun _ => id
    | error e => exact .pure fun _ => id

theorem recoverAt_has (hw : w = w' → record.runtime ≠ .vm) :
    Exec.Meets (Host.Has w r m) (recoverAt w' o record) fun _ => Host.Has w r m := by
  unfold recoverAt
  split
  · rename_i hvm
    have hne : w ≠ w' := fun heq => hw heq hvm
    split
    · split
      · exact storeWorkload_has hne
      · exact .pure fun _ => id
    · refine (Exec.Meets.attempt (inspect_has hne)).keep fun a => ?_
      cases a with
      | error e => exact storeWorkload_has hne
      | ok x =>
        dsimp only
        split
        · exact (applyRateLimitIfNeeded_has hne).keep fun _ => storeWorkload_has hne
        · split
          · exact storeWorkload_has hne
          · exact storeWorkload_has hne
  · exact .pure fun _ => id

theorem stop_has (hne : w ≠ w') :
    Exec.Meets (Host.Has w r m) (stop w' o) fun _ => Host.Has w r m := by
  refine .get_bind fun h hh => ?_
  refine Exec.Meets.mono (P := Host.Has w r m) ?_ (by rintro _ rfl; exact hh) fun _ _ => id
  split
  · exact .pure fun _ => id
  · unfold stopAt
    split
    · split
      · exact .pure fun _ => id
      · split
        · exact .fail fun _ => id
        · refine (storeWorkload_has hne).keep fun _ => (engineCall_has hne).keep fun _ => ?_
          refine (inspect_has hne).keep fun x => ?_
          split
          · exact .fail fun _ => id
          · exact (remove_has hne).keep fun _ => storeWorkload_has hne
    · exact .fail fun _ => id

theorem record_of_row (hr : h.state.workload w = some r) (hrow : row ∈ h.state.rows)
    (hw : w = row.1) : row.2 = r := by
  have hlookup : h.state.lookup row.1 = some row := Table.mem_rows.1 hrow
  rw [LocalState.workload, hw, hlookup] at hr
  exact Option.some.inj hr

theorem recover_container (hr : h.state.workload w = some r) (hcontainer : r.runtime = .container)
    (o : WorkloadId → RecoverOutcomes) : (recover o h).2.Has w r (h.machines w) := by
  suffices hall : Exec.Meets (· = h) (recover o) fun _ => Host.Has w r (h.machines w) from
    hall h rfl
  refine .get_bind fun h' hh => ?_
  subst hh
  refine Exec.Meets.mono (P := Host.Has w r (h'.machines w)) (.forM_mem fun row hrow => ?_)
    (by rintro _ rfl; exact ⟨hr, rfl⟩) fun _ _ => id
  refine recoverAt_has fun hw => ?_
  rw [record_of_row hr hrow hw, hcontainer]
  decide

theorem enforceLeaseExpiry_container (hr : h.state.workload w = some r)
    (hcontainer : r.runtime = .container) (now : Int) (o : WorkloadId → StopOutcomes) :
    (enforceLeaseExpiry now o h).2.Has w r (h.machines w) := by
  suffices hall : Exec.Meets (· = h) (enforceLeaseExpiry now o) fun _ =>
    Host.Has w r (h.machines w) from hall h rfl
  refine .get_bind fun h' hh => ?_
  subst hh
  refine Exec.Meets.mono (P := Host.Has w r (h'.machines w))
    (.foldlM_mem (fun stopped row hrow => ?_) _) (by rintro _ rfl; exact ⟨hr, rfl⟩) fun _ _ => id
  split
  · rename_i hvm
    have hne : w ≠ row.1 := by
      intro hw
      rw [record_of_row hr hrow hw, hcontainer] at hvm
      exact absurd hvm.1 (by decide)
    refine (Exec.Meets.attempt (stop_has hne)).keep fun a => ?_
    cases a with
    | ok u => exact .pure fun _ => id
    | error e => exact .pure fun _ => id
  · exact .pure fun _ => id

end

end OpenInfra.Agent.Vm

namespace OpenInfra.Agent
open Frame
open Host (Holds)

section
variable {s : Slot} {c : Nat}

theorem recoverAt_idle (hc : s.record.containerId = none)
    (hphase : s.record.phase.consumesCapacity = false) (o : RecoverOutcomes) :
    recoverAt o s = (.ok (), s) := by
  unfold recoverAt
  rw [Exec.get_bind, hc]
  dsimp only
  rw [if_neg (by rw [hphase]; exact Bool.false_ne_true)]
  rfl

theorem recoverAt_unplaced (hc : s.record.containerId = none)
    (hphase : s.record.phase.consumesCapacity) : (recoverAt .done s).2.record.phase = .failed := by
  unfold recoverAt
  rw [Exec.get_bind, hc]
  dsimp only
  rw [if_pos hphase]
  rfl

theorem recoverAt_missing (hc : s.record.containerId = some c) (hx : s.container c = none) :
    (recoverAt .done s).2.record.phase = .lost := by
  have hinspect : (inspect RecoverOutcomes.done.inspect c).attempt s =
      (.ok (.error .engine), s) := by
    unfold Exec.attempt inspect
    rw [hx]
  unfold recoverAt
  rw [Exec.get_bind, hc]
  dsimp only
  rw [Exec.bind_of_ok hinspect]
  rfl

end

/-- The record and the containers of every virtual machine stay as they are. -/
def SparesMachines (state : LocalState) (call : Executor A) : Prop :=
  ∀ engine w r, state.workload w = some r → r.runtime = .vm →
    (call ⟨state, engine⟩).2.slot w = some ⟨r, engine w⟩

def KeepsStopped (state : LocalState) (call : Executor A) : Prop :=
  ∀ engine w r, state.workload w = some r → r.phase = .stopped →
    Holds w (fun s => s.record.phase = .stopped) (call ⟨state, engine⟩).2 ∧
    ∀ o, (getStatus w o (call ⟨state, engine⟩).2).1 = .ok .completed

structure WorkloadRecord.AtRest (r : WorkloadRecord) : Prop where
  unplaced : r.containerId = none
  released : r.phase.consumesCapacity = false

section
variable {state : LocalState} {w : WorkloadId} {r : WorkloadRecord}

section
variable (hr : state.workload w = some r)
include hr

theorem slot_mk (engine : WorkloadId → Containers) :
    (Host.mk state engine).slot w = some ⟨r, engine w⟩ := by
  rw [Host.slot, hr]
  rfl

theorem recover_atRest (hrest : r.AtRest)
    (engine : WorkloadId → Containers) (o : WorkloadId → RecoverOutcomes) :
    (recover o ⟨state, engine⟩).2.slot w = some ⟨r, engine w⟩ := by
  suffices hall : Exec.Meets (Holds w (· = ⟨r, engine w⟩)) (recover o) fun _ =>
      Holds w (· = ⟨r, engine w⟩) by
    obtain ⟨_, hs, rfl⟩ := hall ⟨state, engine⟩ ⟨_, slot_mk hr engine, rfl⟩
    exact hs
  refine .get_bind fun h hh => ?_
  refine Exec.Meets.mono (P := Holds w (· = ⟨r, engine w⟩)) (.forM (fun row => ?_) _)
    (by rintro _ rfl; exact hh) fun _ _ => id
  refine onWorkload_holds fun _ => ?_
  rintro _ rfl
  rw [recoverAt_idle hrest.unplaced hrest.released]

theorem enforceLeaseExpiry_atRest (hrest : r.AtRest)
    (engine : WorkloadId → Containers) (now : Int) (o : WorkloadId → StopOutcomes) :
    (enforceLeaseExpiry now o ⟨state, engine⟩).2.slot w = some ⟨r, engine w⟩ := by
  obtain ⟨_, _, _, hslot⟩ := enforceLeaseExpiry_slots now o ⟨state, engine⟩
  have hexpired : ¬ r.Expired now := by
    rintro ⟨hphase | hphase, _⟩
    · exact absurd hrest.released (by rw [hphase]; decide)
    · exact absurd hrest.released (by rw [hphase]; decide)
  rw [hslot, slot_mk hr engine, Option.map_some, if_neg hexpired]

theorem recover_done (engine : WorkloadId → Containers) :
    (recover (fun _ => .done) ⟨state, engine⟩).2.slot w =
      some (recoverAt .done ⟨r, engine w⟩).2 := by
  rw [recover_slots (fun _ => recoverAt_done), slot_mk hr engine]
  rfl

end

section
variable (h : ∀ engine : WorkloadId → Containers, (recoverAt .done ⟨r, engine w⟩).2.record = r)
include h

theorem unplaced_of_spared : r.containerId = none := by
  cases hc : r.containerId with
  | none => rfl
  | some c =>
    have hlost : r.phase = .lost := by
      have hmissing := recoverAt_missing (s := ⟨r, .none⟩) hc rfl
      rw [h fun _ => .none] at hmissing
      exact hmissing
    have hfailed : r.phase = .failed := by
      have hresting := congrArg (·.record.phase) (recoverAt_resting
        (s := ⟨r, ⟨fun _ => some ⟨false, .exited, none⟩, 0⟩⟩) hc rfl rfl (by rw [hlost]; decide))
      rw [h fun _ => ⟨fun _ => some ⟨false, .exited, none⟩, 0⟩] at hresting
      exact hresting
    rw [hlost] at hfailed
    cases hfailed

theorem atRest_of_spared : r.AtRest := by
  have hc := unplaced_of_spared h
  refine ⟨hc, ?_⟩
  by_contra hphase
  have hfailed := recoverAt_unplaced (s := ⟨r, .none⟩) hc (by simpa using hphase)
  rw [h fun _ => .none] at hfailed
  rw [hfailed] at hphase
  exact hphase rfl

end

end

/-- The frame holds exactly if what is stopped has no container and no machine a slot. -/
theorem upkeep_frame_iff (state : LocalState) :
    ((∀ o, SparesMachines state (recover o)) ∧
      (∀ now o, SparesMachines state (enforceLeaseExpiry now o)) ∧
      (∀ o, KeepsStopped state (recover o)) ↔
      ∀ w r, state.workload w = some r →
        (r.runtime = .vm → r.AtRest) ∧ (r.phase = .stopped → r.containerId = none)) ∧
    ∀ h : Vm.Host, h.state = state → ∀ w r, state.workload w = some r → r.runtime = .container →
      (∀ o, (Vm.recover o h).2.Has w r (h.machines w)) ∧
      ∀ now o, (Vm.enforceLeaseExpiry now o h).2.Has w r (h.machines w) := by
  constructor
  · constructor
    · rintro ⟨hrecover, _, hstopped⟩ w r hr
      constructor
      · intro hvm
        refine atRest_of_spared (w := w) fun engine => ?_
        have hslot := hrecover (fun _ => .done) engine w r hr hvm
        rw [recover_done hr] at hslot
        rw [Option.some.inj hslot]
      · intro hphase
        by_contra hc
        obtain ⟨c, hc⟩ := Option.ne_none_iff_exists'.1 hc
        obtain ⟨s, hs, hstill⟩ := (hstopped (fun _ => .done) (fun _ => .none) w r hr hphase).1
        rw [recover_done hr] at hs
        cases hs
        rw [recoverAt_missing hc rfl] at hstill
        cases hstill
    · intro h
      refine ⟨?_, ?_, ?_⟩
      · intro o engine w r hr hvm
        exact recover_atRest hr ((h w r hr).1 hvm) engine o
      · intro now o engine w r hr hvm
        exact enforceLeaseExpiry_atRest hr ((h w r hr).1 hvm) engine now o
      · intro o engine w r hr hphase
        have hslot := recover_atRest hr ⟨(h w r hr).2 hphase, by rw [hphase]; rfl⟩ engine o
        refine ⟨⟨_, hslot, hphase⟩, fun q => ?_⟩
        rw [getStatus, onWorkload_some hslot, statusAt, Exec.get_bind, if_pos hphase]
        rfl
  · rintro h rfl w r hr hcontainer
    exact ⟨Vm.recover_container hr hcontainer, Vm.enforceLeaseExpiry_container hr hcontainer⟩

def runningMachine : WorkloadRecord where
  specHash := 8
  containerId := none
  vmHandle := some 1
  runtime := .vm
  phase := .running
  egressMbps := 0
  rateLimited := false
  leaseEnd := some 1000
  volumeMounts := []
  securityGroupRules := none
  securityGroupsApplied := false

def stoppedBesideMachine : Host :=
  let h := run (step 1) .empty [.deploy (webServer 0) .done, .stop 0 .done]
  { h with state := h.state.put (1, runningMachine) }

theorem restart_forgets :
    let h := stoppedBesideMachine
    let h' := (recover (fun _ => .done) h).2
    (h.slot 1).map (·.record) = some runningMachine ∧
    (h'.slot 1).map (·.record.phase) = some .failed ∧
    (h.slot 0).map (·.record.phase) = some .stopped ∧
    (getStatus 0 .done h).1.toOption = some .completed ∧
    (h'.slot 0).map (·.record.phase) = some .lost ∧
    failure (getStatus 0 .done h').1 = some .engine :=
  ⟨by decide +kernel, by decide +kernel, by decide +kernel, by decide +kernel, by decide +kernel,
    by decide +kernel⟩

section
variable {h : Host} {w : WorkloadId} {s : Slot} {o : StopOutcomes}

theorem storeWorkload_persists (h : storeWorkload ok r s = (.ok (), t)) : ok = true := by
  cases ok with
  | true => rfl
  | false => cases h

theorem stopAt_found (hlive : ¬ s.record.Halted) (h : stopAt o s = (.ok (), t)) :
    o.persistStopping ∧ o.persist ∧ ∃ c x, s.record.containerId = some c ∧
      s.container c = some x := by
  cases hc : s.record.containerId with
  | none =>
    rw [stopAt_none hlive hc] at h
    cases h
  | some c =>
    rw [stopAt_live hlive hc] at h
    obtain ⟨_, s₁, hstopping, h⟩ := Exec.bind_eq_ok.1 h
    obtain ⟨_, s₂, hstop, h⟩ := Exec.bind_eq_ok.1 h
    obtain ⟨x, s₃, _, h⟩ := Exec.bind_eq_ok.1 h
    split at h
    · cases h
    · obtain ⟨_, s₄, _, h⟩ := Exec.bind_eq_ok.1 h
      obtain ⟨y, hy⟩ := engineCall_present hstop
      rw [storeWorkload_ok hstopping] at hy
      exact ⟨storeWorkload_persists hstopping, storeWorkload_persists h, c, y, rfl, hy⟩

/-- Freed exactly if the recorded container is there and can be written. -/
theorem stop_releases_iff (hs : h.slot w = some s) (hphase : s.record.phase.consumesCapacity)
    (hstop : o.stop.ok) (hinspect : o.inspect.ok) (hremove : o.remove.ok) :
    ((stop w o h).1 = .ok () ∧
      Holds w (fun t => t.record.phase.consumesCapacity = false) (stop w o h).2) ↔
    o.persistStopping ∧ o.persist ∧
      ∃ c x, s.record.containerId = some c ∧ s.container c = some x := by
  have hlive : ¬ s.record.Halted := by
    rintro (hp | hp)
    · rw [hp] at hphase
      exact absurd hphase (by decide)
    · rw [hp] at hphase
      exact absurd hphase (by decide)
  rw [stop_some hs]
  constructor
  · rintro ⟨hok, _⟩
    exact stopAt_found hlive (Prod.ext hok rfl)
  · rintro ⟨hstopping, hstopped, c, x, hc, hx⟩
    have hok := stopAt_succeeds ⟨hstopping, hstop, hinspect, hremove, hstopped⟩ hlive hc hx
    refine ⟨hok, (stopAt o s).2, by rw [Host.slot_setSlot, if_pos rfl]; rfl, ?_⟩
    obtain ⟨hhalt, _⟩ | ⟨_, hend, _⟩ := stopAt_ok (Prod.ext hok rfl)
    · exact absurd hhalt hlive
    · rw [hend]
      rfl

end

theorem stop_releases_iff_deployed :
    let h := step 1 .empty (.deploy (webServer 0) .done)
    (stop 0 .done h).1 = .ok () ∧
      Holds 0 (fun t => t.record.phase.consumesCapacity = false) (stop 0 .done h).2 := by
  intro h
  have hsome : (h.slot 0).isSome := by decide +kernel
  have hslot : ∀ s ∈ h.slot 0, s.record.phase.consumesCapacity ∧
      s.record.containerId = some 0 ∧ (s.container 0).isSome := by decide +kernel
  obtain ⟨s, hs⟩ := Option.isSome_iff_exists.1 hsome
  obtain ⟨hphase, hc, hcontainer⟩ := hslot s hs
  obtain ⟨x, hx⟩ := Option.isSome_iff_exists.1 hcontainer
  exact (stop_releases_iff hs hphase rfl rfl rfl).2 ⟨rfl, rfl, 0, x, hc, hx⟩

theorem slot_not_released :
    let h := step 1 .empty (.deploy (webServer 0) { DeployOutcomes.done with create := .lost })
    let h' := run (step 1) .empty
      [.deploy (webServer 0) .done, .stop 0 { StopOutcomes.done with persist := false }]
    (h.slot 0).map (fun s => (s.record.runtime, s.record.phase)) =
      some (.container, .provisioning) ∧
    failure (stop 0 .done h).1 = some .noContainer ∧
    ((stop 0 .done h).2.slot 0).map (·.record.phase) = some .provisioning ∧
    (h'.slot 0).map (fun s => (s.record.runtime, s.record.phase)) =
      some (.container, .stopping) ∧
    failure (stop 0 .done h').1 = some .engine ∧
    ((stop 0 .done h').2.slot 0).map (·.record.phase) = some .stopping :=
  ⟨by decide +kernel, by decide +kernel, by decide +kernel, by decide +kernel, by decide +kernel,
    by decide +kernel⟩

end OpenInfra.Agent
