import OpenInfra.Agent.Slots

namespace OpenInfra.Agent
open Frame
open Host (Holds)

def stopAndConfirm (w : WorkloadId) (o : StopOutcomes) (status : Outcome) : Executor State := do
  stop w o
  getStatus w status

def WorkloadRecord.Halted (r : WorkloadRecord) : Prop := r.phase = .stopped ∨ r.phase = .failed

instance (r : WorkloadRecord) : Decidable r.Halted := inferInstanceAs (Decidable (_ ∨ _))

structure StopOutcomes.Succeeds (o : StopOutcomes) : Prop where
  persistStopping : o.persistStopping = true
  stop : o.stop.ok = true
  inspect : o.inspect.ok = true
  remove : o.remove.ok = true
  persist : o.persist = true

theorem StopOutcomes.Succeeds.done : StopOutcomes.done.Succeeds := ⟨rfl, rfl, rfl, rfl, rfl⟩

structure Slot.GoneAt (c : Nat) (s : Slot) : Prop where
  recorded : s.record.containerId = some c
  missing : s.container c = none

def Slot.Gone (s : Slot) : Prop := ∃ c, s.GoneAt c

section
variable {s t : Slot} {c : Nat} {x : Container}

theorem stopAt_halted (h : s.record.Halted) (o : StopOutcomes) : stopAt o s = (.ok (), s) := by
  unfold WorkloadRecord.Halted at h
  unfold stopAt
  rw [Exec.get_bind, if_pos h]
  rfl

theorem stopAt_live (h : ¬ s.record.Halted) (hc : s.record.containerId = some c)
    (o : StopOutcomes) :
    stopAt o s = (do
      storeWorkload o.persistStopping { s.record with phase := .stopping }
      stopContainer o.stop c
      let observation ← inspect o.inspect c
      if observation.running then
        Exec.fail (.stateConfirmation c)
      else
        remove o.remove c
        storeWorkload o.persist { s.record with phase := .stopped } : Step Unit) s := by
  unfold WorkloadRecord.Halted at h
  unfold stopAt
  rw [Exec.get_bind, if_neg h, hc]

theorem stopAt_none (h : ¬ s.record.Halted) (hc : s.record.containerId = none)
    (o : StopOutcomes) : stopAt o s = (.error .noContainer, s) := by
  unfold WorkloadRecord.Halted at h
  unfold stopAt
  rw [Exec.get_bind, if_neg h, hc]
  rfl

variable {pre : Container → Bool} {effect : Slot → Slot} {Q : Slot → Prop}

theorem engineCall_missing
    (hc : s.container c = none) : engineCall o c pre effect s = (.error .engine, s) := by
  unfold engineCall
  rw [hc]
  rfl

theorem engineCall_gone :
    Exec.Meets (Slot.GoneAt c) (engineCall o c pre effect)
      (Exec.Then (fun _ _ => False) fun _ => Slot.GoneAt c) := by
  intro s hs
  rw [engineCall_missing hs.missing]
  exact hs

theorem inspect_gone :
    Exec.Meets (Slot.GoneAt c) (inspect o c)
      (Exec.Then (fun _ _ => False) fun _ => Slot.GoneAt c) := by
  intro s hs
  unfold inspect
  rw [hs.missing]
  exact hs

theorem storeWorkload_gone {r : WorkloadRecord} {p : WorkloadPhase} (hr : r.containerId = some c) :
    Exec.Meets (Slot.GoneAt c) (storeWorkload ok { r with phase := p }) fun _ => Slot.GoneAt c :=
  storeWorkload_meets (fun _ hs => ⟨hr, hs.missing⟩) fun _ _ => id

theorem remove_ok (h : remove o c s = (.ok (), t)) : t.container c = none := by
  unfold remove engineCall at h
  split at h
  · cases h
  · dsimp only at h
    split at h
    · rename_i hok
      rw [Outcome.effective, hok, Bool.true_or, if_pos rfl] at h
      cases h
      split
      · rw [Slot.exit, Slot.container_set_self, Slot.container_set_self]
        rfl
      · rw [Slot.container_set_self]
    · cases h

theorem engineCall_present
    (h : engineCall o c pre effect s = (.ok (), t)) : ∃ x, s.container c = some x := by
  cases hx : s.container c with
  | none =>
    rw [engineCall_missing hx] at h
    cases h
  | some x => exact ⟨x, rfl⟩

theorem storeWorkload_ok (h : storeWorkload ok r s = (.ok (), t)) : t = { s with record := r } := by
  cases ok with
  | true => cases h; rfl
  | false => cases h

theorem stopAt_ok (h : stopAt o s = (.ok (), t)) :
    s.record.Halted ∧ t = s ∨ ¬ s.record.Halted ∧ t.record.phase = .stopped ∧ t.Gone := by
  by_cases hhalt : s.record.Halted
  · rw [stopAt_halted hhalt] at h
    cases h
    exact .inl ⟨hhalt, rfl⟩
  · refine .inr ⟨hhalt, ?_⟩
    cases hc : s.record.containerId with
    | none =>
      rw [stopAt_none hhalt hc] at h
      cases h
    | some c =>
      rw [stopAt_live hhalt hc] at h
      obtain ⟨_, s₁, _, h⟩ := Exec.bind_eq_ok.1 h
      obtain ⟨_, s₂, _, h⟩ := Exec.bind_eq_ok.1 h
      obtain ⟨x, s₃, _, h⟩ := Exec.bind_eq_ok.1 h
      split at h
      · cases h
      · obtain ⟨_, s₄, hremove, h⟩ := Exec.bind_eq_ok.1 h
        have hgone : s₄.container c = none := remove_ok hremove
        rw [storeWorkload_ok h]
        exact ⟨rfl, c, ⟨hc, hgone⟩⟩

def Slot.Resting (c : Nat) (s : Slot) : Prop := ∃ x ∈ s.container c, x.running = false

theorem Slot.container_exit_self (s : Slot) (c : Nat) :
    (s.exit c).container c = (s.container c).map halted := Slot.container_set_self ..

theorem Slot.Resting.exit (hx : s.container c = some x) : (s.exit c).Resting c := by
  refine ⟨Slot.halted x, ?_, Slot.halted_running x⟩
  rw [Slot.container_exit_self, hx]
  rfl

theorem Slot.Resting.exitStable : ExitStable (Slot.Resting c) := by
  rintro s c' ⟨x, hx, hrun⟩
  by_cases hc : c' = c
  · subst hc
    exact .exit hx
  · refine ⟨x, ?_, hrun⟩
    rw [Slot.exit, Slot.container_setContainer, if_neg (Ne.symm hc)]
    exact hx

theorem engineCall_ok {P Q : Slot → Prop}
    (ho : o.ok = true) (hQ : ExitStable Q) (hP : ∀ s, P s → ∃ x ∈ s.container c, pre x)
    (heff : ∀ s, P s → Q (effect s)) :
    Exec.Meets P (engineCall o c pre effect) (Exec.Then (fun _ => Q) fun _ _ => False) := by
  have heffective : o.effective = true := by rw [Outcome.effective, ho]; rfl
  refine engineCall_meets ?_ ?_ ?_ ?_
  · rintro (e | u)
    · exact fun _ _ => id
    · exact hQ
  · intro s hs hmiss
    obtain ⟨x, hx, hpre⟩ := hP s hs
    exact absurd (hmiss x hx hpre) (by rw [heffective]; decide)
  · exact fun s _ _ hs _ => heff s hs
  · exact fun hno => absurd ho (by rw [hno]; exact Bool.false_ne_true)

theorem stopAt_succeeds (ho : o.Succeeds) (hlive : ¬ s.record.Halted)
    (hc : s.record.containerId = some c) (hx : s.container c = some x) :
    (stopAt o s).1 = .ok () := by
  rw [stopAt_live hlive hc]
  suffices h : Exec.Meets (fun s : Slot => ∃ x, s.container c = some x) _ fun r _ => r = .ok () from
    h s ⟨x, hx⟩
  have hstore {P : Slot → Prop} {r : WorkloadRecord} (hP : ∀ s r, P s → P { s with record := r }) :
      Exec.Meets P (storeWorkload true r) (Exec.Then (fun _ => P) fun _ _ => False) :=
    fun s hs => hP s r hs
  rw [ho.persistStopping, ho.persist]
  refine .bind _ ((hstore fun _ _ => id).infallible) fun _ => ?_
  refine .bind (fun _ => Slot.Resting c) ?_ fun _ => ?_
  · refine (engineCall_ok ho.stop Slot.Resting.exitStable ?_ ?_).infallible
    · rintro s ⟨x, hx⟩
      exact ⟨x, hx, rfl⟩
    · rintro s ⟨x, hx⟩
      exact .exit hx
  · refine .bind (fun x s => x.running = false ∧ s.Resting c) ?_ fun x => .assume fun hrun => ?_
    · refine inspect_meets.mono (fun _ => id) (Exec.Then.mono ?_ ?_)
      · rintro x t ⟨s, ⟨y, hy, hrun⟩, hx, ht⟩
        cases Option.some.inj (hx.symm.trans hy)
        refine ⟨hrun, ?_⟩
        obtain rfl | rfl := ht
        · exact ⟨x, hx, hrun⟩
        · exact .exit hx
      · rintro e t ⟨s, ⟨y, hy, _⟩, hmiss, _⟩
        rw [hmiss ho.inspect] at hy
        cases hy
    · rw [if_neg (by rw [hrun]; exact Bool.false_ne_true)]
      refine .bind (fun _ _ => True) ?_ fun _ => (fun _ _ => rfl)
      refine (engineCall_ok (Q := fun _ => True) ho.remove (fun _ _ => id) ?_
        fun _ _ => trivial).infallible
      rintro s ⟨x, hx, _⟩
      exact ⟨x, hx, rfl⟩

theorem deployAt_gone (h : s.GoneAt c) (o : DeployOutcomes) :
    deployAt o .existing s = (.error .engine, s) := by
  rw [deployAt_existing h.recorded]
  have hinspect : inspect o.inspect c s = (.error .engine, s) := by
    unfold inspect
    rw [h.missing]
  exact Exec.bind_of_error hinspect

theorem stopAt_gone : Exec.Meets (Slot.GoneAt c) (stopAt o) fun _ => Slot.GoneAt c := by
  refine .read_bind fun s hs => ?_
  rw [hs.recorded]
  split
  · exact .pure fun _ => id
  · refine (storeWorkload_gone hs.recorded).keep fun _ => ?_
    exact .bind _ engineCall_gone fun _ _ h => h.elim

theorem recoverAt_gone : Exec.Meets (Slot.GoneAt c) (recoverAt o) fun _ => Slot.GoneAt c := by
  refine .read_bind fun s hs => ?_
  rw [hs.recorded]
  refine .bind (fun r t => (∃ e, r = .error e) ∧ t.GoneAt c) (.attempt ?_) fun r => ?_
  · refine inspect_gone.mono (fun _ => id) ?_
    rintro (e | x) t ht
    · exact ⟨⟨e, rfl⟩, ht⟩
    · exact ht.elim
  · refine .assume ?_
    rintro ⟨e, rfl⟩
    exact storeWorkload_gone hs.recorded

theorem Slot.GoneAt.exitStable : ExitStable (Slot.GoneAt c) := by
  intro s c' hs
  refine ⟨hs.recorded, ?_⟩
  rw [Slot.exit, Slot.container_setContainer]
  split
  · rename_i heq
    rw [← heq, hs.missing]
    rfl
  · exact hs.missing

theorem Slot.GoneAt.restart (hs : s.GoneAt c) (c' : Nat) : (s.restart c').GoneAt c := by
  refine ⟨hs.recorded, ?_⟩
  rw [Slot.restart, Slot.container_setContainer]
  split
  · rename_i heq
    rw [← heq, hs.missing]
    rfl
  · exact hs.missing

end

section
variable {P : Slot → Prop} {r : WorkloadRecord}

theorem OnRecord.applySecurityGroupsOrFail (hP : OnRecord P) :
    Exec.Meets P (applySecurityGroupsOrFail o r c) fun _ => P := by
  unfold OpenInfra.Agent.applySecurityGroupsOrFail
  split
  · exact .pure fun _ => id
  · split
    · exact .pure fun _ => id
    · refine .keep (.attempt (hP.engineCall fun _ => rfl)) fun a => ?_
      cases a with
      | ok u => exact .pure fun _ => id
      | error e =>
        refine .keep (.attempt (hP.engineCall fun _ => rfl)) fun _ => ?_
        refine .keep (.attempt (hP.engineCall fun _ => rfl)) fun _ => ?_
        exact .fail fun _ => id

theorem OnRecord.applyRateLimitIfNeeded (hP : OnRecord P) :
    Exec.Meets P (applyRateLimitIfNeeded o r c) (Exec.Then (fun _ => P) fun _ _ => False) :=
  (applyRateLimitIfNeeded_meets hP.exitStable).mono (fun _ => id)
    (Exec.Then.mono (fun _ _ h => h.2) fun _ _ => id)

theorem OnRecord.applySecurityGroupsIfNeeded (hP : OnRecord P) :
    Exec.Meets P (applySecurityGroupsIfNeeded o r c) (Exec.Then (fun _ => P) fun _ _ => False) := by
  unfold OpenInfra.Agent.applySecurityGroupsIfNeeded
  split
  · exact .pure fun _ => id
  · refine .bind (fun _ => P) (.attempt (hP.engineCall fun _ => rfl)) fun a => ?_
    cases a with
    | ok u => exact .pure fun _ => id
    | error e => exact .pure fun _ => id

structure Deployable (P : Slot → Prop) : Prop where
  onRecord : OnRecord P
  stored : ∀ s : Slot, s.record.phase ∈ [.starting, .running, .failed] → P s

section
variable (hP : Deployable P)
include hP

theorem Deployable.storeWorkload {p : WorkloadPhase} (hp : p ∈ [.starting, .running, .failed]) :
    Exec.Meets P (storeWorkload ok { r with phase := p }) fun _ => P :=
  storeWorkload_meets (fun _ _ => hP.stored _ hp) fun _ _ => id

theorem Deployable.finish : Exec.Meets P (finish o r c) fun _ => P := by
  refine .bind (fun _ => P) ?_ fun r => ?_
  · exact hP.onRecord.applyRateLimitIfNeeded.infallible
  · refine .keep (.attempt hP.onRecord.applySecurityGroupsOrFail) fun a => ?_
    cases a with
    | ok r => exact (hP.storeWorkload (by decide)).keep fun _ => .pure fun _ => id
    | error e => exact (hP.storeWorkload (by decide)).keep fun _ => .fail fun _ => id

theorem Deployable.ensureContainer : Exec.Meets P (ensureContainer o r) fun _ => P := by
  unfold OpenInfra.Agent.ensureContainer
  split
  · exact .pure fun _ => id
  · split
    · refine hP.onRecord.create.keep fun c => ?_
      refine .keep (.attempt (storeWorkload_meets (fun _ _ => hP.stored _ (.head _))
        fun _ _ => id)) fun a => ?_
      cases a with
      | ok u => exact .pure fun _ => id
      | error e =>
        exact .keep (.attempt (hP.onRecord.engineCall fun _ => rfl)) fun _ => .fail fun _ => id
    · exact .fail fun _ => id

theorem Deployable.launch : Exec.Meets P (launch o r) fun _ => P := by
  refine hP.ensureContainer.keep fun ⟨r, c⟩ => ?_
  refine .keep (.attempt (hP.onRecord.engineCall fun _ => rfl)) fun a => ?_
  cases a with
  | error e => exact (hP.storeWorkload (by decide)).keep fun _ => .fail fun _ => id
  | ok u =>
    refine hP.onRecord.exitStable.inspect.keep fun x => ?_
    split
    · exact hP.finish
    · exact (hP.storeWorkload (by decide)).keep fun _ => .fail fun _ => id

theorem Deployable.deployAt (o : DeployOutcomes) (reservation : Reservation) :
    Exec.Meets P (deployAt o reservation) fun _ => P := by
  refine .keep (.get fun _ => id) fun s => ?_
  split
  · refine hP.onRecord.exitStable.inspect.keep fun x => ?_
    split
    · exact hP.finish
    · split
      · exact .fail fun _ => id
      · exact hP.launch
  · exact hP.launch

end

end

def Slot.Recorded (s : Slot) : Prop :=
  s.record.phase = .stopped → s.record.containerId.isSome

theorem Slot.Recorded.of_phase {s : Slot} (h : s.record.phase ≠ .stopped) : s.Recorded :=
  fun hp => absurd hp h

theorem Slot.Recorded.deployable : Deployable Slot.Recorded where
  onRecord := fun s t ht h => by
    unfold Slot.Recorded
    rwa [ht]
  stored := fun s hs => .of_phase fun hp => by
    rw [hp] at hs
    exact absurd hs (by decide)

theorem stopAt_recorded : Exec.Meets Slot.Recorded (stopAt o) fun _ => Slot.Recorded := by
  refine .read_bind fun s hs => ?_
  have hP := Slot.Recorded.deployable.onRecord
  split
  · exact .pure fun _ => id
  · split
    · exact .fail fun _ => id
    · rename_i c hc
      refine .keep (storeWorkload_meets (fun _ _ => .of_phase nofun) fun _ _ => id) fun _ => ?_
      refine .keep (hP.engineCall fun _ => rfl) fun _ => ?_
      refine .keep hP.exitStable.inspect fun x => ?_
      split
      · exact .fail fun _ => id
      · refine .keep (hP.engineCall fun _ => rfl) fun _ => ?_
        exact storeWorkload_meets (fun _ _ _ => hc ▸ rfl) fun _ _ => id

theorem recoverAt_recorded : Exec.Meets Slot.Recorded (recoverAt o) fun _ => Slot.Recorded := by
  refine .read_bind fun s hs => ?_
  have hP := Slot.Recorded.deployable.onRecord
  have hstore {r : WorkloadRecord} {p : WorkloadPhase} (hp : p ≠ .stopped) :
      Exec.Meets Slot.Recorded (storeWorkload o.persist { r with phase := p }) fun _ =>
        Slot.Recorded := storeWorkload_meets (fun _ _ => .of_phase hp) fun _ _ => id
  split
  · split
    · exact hstore nofun
    · exact .pure fun _ => id
  · rename_i c hc
    refine .keep (.attempt hP.exitStable.inspect) fun a => ?_
    cases a with
    | error e => exact hstore nofun
    | ok x =>
      dsimp only
      split
      · refine .bind (fun _ => Slot.Recorded) ?_ fun r => .bind (fun _ => Slot.Recorded) ?_
          fun r => hstore nofun
        · exact hP.applyRateLimitIfNeeded.infallible
        · exact hP.applySecurityGroupsIfNeeded.infallible
      · split
        · exact storeWorkload_meets (fun _ _ _ => hc ▸ rfl) fun _ _ => id
        · exact hstore nofun

theorem recorded_step (hh : Host.Each (fun _ => Slot.Recorded) h) (maxWorkloads : Nat)
    (call : Call) : Host.Each (fun _ => Slot.Recorded) (step maxWorkloads h call) := by
  cases call with
  | deploy d o =>
    refine deploy_each hh (fun s hs => ?_) fun _ => ?_
    · exact Slot.Recorded.deployable.deployAt o .existing s (hh.known _ s hs)
    · exact Slot.Recorded.deployable.deployAt o .new _ (.of_phase nofun)
  | stop w o => exact stop_meets stopAt_recorded h hh
  | recover o => exact recover_meets (fun _ => recoverAt_recorded) (fun _ _ => id) h hh
  | enforceLeaseExpiry now o => exact enforceLeaseExpiry_meets (fun _ => stopAt_recorded) h hh
  | exit w c => exact hh.onSlot fun s hs => hh.known w s hs
  | restart w c => exact hh.onSlot fun s hs => hh.known w s hs

theorem recoverAt_done (s : Slot) : (recoverAt .done s).1 = .ok () := by
  suffices h : Exec.Meets (fun _ => True) (recoverAt .done) fun r _ => r = .ok () from h s trivial
  have hP : OnRecord fun _ => True := fun _ _ _ => id
  have hstore (r : WorkloadRecord) : Exec.Meets (fun _ => True) (storeWorkload true r) fun r _ =>
      r = .ok () := fun _ _ => rfl
  refine .get_bind fun s _ => ?_
  refine Exec.Meets.mono (P := fun _ => True) ?_ (fun _ _ => trivial) fun _ _ => id
  split
  · split
    · exact hstore _
    · exact .pure fun _ _ => rfl
  · refine .bind (fun _ _ => True) (.attempt fun _ _ => trivial) fun a => ?_
    cases a with
    | error e => exact hstore _
    | ok x =>
      dsimp only
      split
      · refine .bind (fun _ _ => True) ?_ fun r => .bind (fun _ _ => True) ?_ fun r => hstore _
        · exact hP.applyRateLimitIfNeeded.infallible
        · exact hP.applySecurityGroupsIfNeeded.infallible
      · split
        · exact hstore _
        · exact hstore _

section
variable {s t : Slot} {c : Nat} {x : Container}

theorem recoverAt_resting (hc : s.record.containerId = some c) (hx : s.container c = some x)
    (hrun : x.running = false) (hphase : s.record.phase ≠ .stopping) :
    (recoverAt .done s).2 = { s with record := { s.record with phase := .failed } } := by
  have hinspect : (inspect RecoverOutcomes.done.inspect c).attempt s = (.ok (.ok x), s) := by
    unfold Exec.attempt inspect
    rw [hx]
    rfl
  unfold recoverAt
  rw [Exec.get_bind, hc]
  dsimp only
  rw [Exec.bind_of_ok hinspect]
  dsimp only
  rw [if_neg (by rw [hrun]; exact Bool.false_ne_true), if_neg hphase]
  rfl

theorem recoverAt_halted (h : s.record.Halted) (hc : s.record.containerId = some c)
    (hx : s.container c = some x) (hrun : x.running = false) :
    (recoverAt .done s).2 = { s with record := { s.record with phase := .failed } } := by
  apply recoverAt_resting hc hx hrun
  intro hphase
  unfold WorkloadRecord.Halted at h
  rw [hphase] at h
  exact absurd h (by decide)

def Slot.On (c : Nat) (s : Slot) : Prop := ∃ x ∈ s.container c, x.running

theorem engineCall_done
    (h : ∀ s, ∀ x ∈ s.container c, pre x → Q (effect s)) :
    Exec.Meets (fun s => ∃ x ∈ s.container c, pre x) (engineCall .done c pre effect)
      (Exec.Then (fun _ => Q) fun _ _ => False) := by
  rintro s ⟨x, hx, hpre⟩
  unfold engineCall
  rw [hx, Option.filter_some, if_pos hpre]
  exact h s x hx hpre

theorem applyRateLimitIfNeeded_on (r : WorkloadRecord) :
    Exec.Meets (Slot.On c) (applyRateLimitIfNeeded .done r c) (Exec.Then (fun _ => Slot.On c)
      fun _ _ => False) := by
  unfold applyRateLimitIfNeeded
  split
  · exact .pure fun _ => id
  · refine .bind (fun _ => Slot.On c) (.attempt ?_) fun a => ?_
    · refine (engineCall_done (Q := Slot.On c) fun s x hx hrun => ⟨x, hx, hrun⟩).mono
        (fun _ => id) ?_
      rintro (e | u) t ht
      · exact ht.elim
      · exact ht
    · cases a with
      | ok u => exact .pure fun _ => id
      | error e => exact .pure fun _ => id

theorem applySecurityGroupsOrFail_on (hr : r.containerId = some c) :
    Exec.Meets (Slot.On c) (applySecurityGroupsOrFail .done r c) (Exec.Then
      (fun r s => r.containerId = some c ∧ s.On c) fun _ _ => False) := by
  unfold applySecurityGroupsOrFail
  generalize r.securityGroupRules = granted
  cases granted with
  | none => exact .pure fun _ hs => ⟨hr, hs⟩
  | some rules =>
    dsimp only
    split
    · exact .pure fun _ hs => ⟨hr, hs⟩
    · refine .bind (fun a s => (∃ u, a = .ok u) ∧ s.On c) (.attempt ?_) fun a => .assume ?_
      · refine (engineCall_done (Q := Slot.On c) fun s x hx hrun => ?_).mono (fun _ => id) ?_
        · refine ⟨{ x with rules := some rules }, ?_, hrun⟩
          rw [Slot.container_set_self, hx]
          rfl
        · rintro (e | u) t ht
          · exact ht.elim
          · exact ⟨⟨u, rfl⟩, ht⟩
      · rintro ⟨u, rfl⟩
        exact .pure fun _ hs => ⟨hr, hs⟩

structure Slot.Serving (c : Nat) (s : Slot) : Prop where
  on : s.On c
  recorded : s.record.containerId = some c
  phase : s.record.phase = .running

theorem finish_done (hr : r.containerId = some c) :
    Exec.Meets (Slot.On c) (finish .done r c)
      (Exec.Then (fun a s => a = c ∧ s.Serving c) fun _ _ => False) := by
  refine .bind (fun r s => r.containerId = some c ∧ s.On c) ?_ fun r => .assume fun hr => ?_
  · intro s hs
    have hrate := applyRateLimitIfNeeded_on r s hs
    have hrecord := applyRateLimitIfNeeded_meets (o := .done) (r := r) (c := c)
      (P := fun _ => True) (fun _ _ => id) s trivial
    unfold DeployOutcomes.done
    generalize applyRateLimitIfNeeded .done r c s = x at hrate hrecord ⊢
    obtain ⟨e | r', t⟩ := x
    · exact hrate
    · obtain ⟨⟨b, rfl⟩, _⟩ := hrecord
      exact ⟨hr, hrate⟩
  · refine .bind (fun a s => (∃ r, a = .ok r ∧ r.containerId = some c) ∧ s.On c) (.attempt ?_)
      fun a => .assume ?_
    · refine (applySecurityGroupsOrFail_on hr).mono (fun _ => id) ?_
      rintro (e | r) t ht
      · exact ht.elim
      · exact ⟨⟨r, rfl, ht.1⟩, ht.2⟩
    · rintro ⟨r, rfl, hr⟩
      exact .bind (fun _ => Slot.Serving c) (fun s hs => ⟨hs, hr, rfl⟩)
        fun _ => .pure fun _ hs => ⟨rfl, hs⟩

theorem inspect_done (hx : s.container c = some x) : inspect .done c s = (.ok x, s) := by
  unfold inspect
  rw [hx]
  rfl

theorem launch_done (hr : r.containerId = some c) :
    Exec.Meets (fun s => ∃ x ∈ s.container c, true) (launch .done r)
      (Exec.Then (fun a s => a = c ∧ s.Serving c) fun _ _ => False) := by
  unfold launch ensureContainer
  rw [hr]
  refine .bind (fun a s => a = (r, c) ∧ ∃ x ∈ s.container c, true)
    (.pure fun _ hs => ⟨rfl, hs⟩) fun a => .assume ?_
  rintro rfl
  refine .bind (fun a s => (∃ u, a = .ok u) ∧ s.On c) (.attempt ?_) fun a => .assume ?_
  · refine (engineCall_done (Q := Slot.On c) fun s x hx _ => ?_).mono (fun _ => id) ?_
    · refine ⟨Slot.started x, ?_, ?_⟩
      · rw [Slot.restart, Slot.container_set_self, hx]
        rfl
      · unfold Slot.started
        split
        · assumption
        · rfl
    · rintro (e | u) t ht
      · exact ht.elim
      · exact ⟨⟨u, rfl⟩, ht⟩
  · rintro ⟨u, rfl⟩
    refine .bind (fun x s => x.running ∧ s.On c) ?_ fun x => .assume fun hrun => ?_
    · rintro s ⟨x, hx, hrun⟩
      rw [show inspect DeployOutcomes.done.confirm c s = (.ok x, s) from inspect_done hx]
      exact ⟨hrun, x, hx, hrun⟩
    · rw [if_pos hrun]
      exact finish_done hr

theorem deployAt_done (h : x.running ∨ s.record.phase ≠ .stopped)
    (hc : s.record.containerId = some c) (hx : s.container c = some x) :
    ∃ t, deployAt .done .existing s = (.ok c, t) ∧ t.Serving c := by
  suffices hthen : Exec.Then (fun a t => a = c ∧ t.Serving c) (fun _ _ => False)
      (deployAt .done .existing s).1 (deployAt .done .existing s).2 by
    obtain ⟨_, t, ht, rfl, hserving⟩ := hthen.exists_ok
    exact ⟨t, ht, hserving⟩
  rw [deployAt_existing hc,
    Exec.bind_of_ok (show inspect DeployOutcomes.done.inspect c s = (.ok x, s) from
      inspect_done hx)]
  split
  · exact finish_done hc s ⟨x, hx, ‹_›⟩
  · rename_i hoff
    rw [if_neg (h.resolve_left hoff)]
    exact launch_done hc s ⟨x, hx, rfl⟩

theorem deployAt_new_done (hnone : s.record.containerId = none) :
    ∃ c t, deployAt .done .new s = (.ok c, t) ∧ t.Serving c := by
  let c := s.engine.created
  let r := { s.record with containerId := some c, phase := .starting }
  have hensure : ensureContainer .done s.record s = (.ok (r, c), { s.add with record := r }) := by
    unfold ensureContainer
    rw [hnone]
    rfl
  have hlaunch : launch .done s.record s = launch .done r { s.add with record := r } := by
    unfold launch
    rw [Exec.bind_of_ok hensure]
    rfl
  rw [deployAt_launch hnone, hlaunch]
  obtain ⟨_, t, ht, rfl, hserving⟩ := (launch_done (r := r) (c := c) rfl
    { s.add with record := r } ⟨_, s.container_add, rfl⟩).exists_ok
  exact ⟨_, t, ht, hserving⟩

theorem statusAt_completed (h : statusAt o s = (.ok .completed, t)) :
    t.record = s.record ∧ (∀ c, t.container c = none ↔ s.container c = none) ∧
      (s.record.phase = .stopped ∨ s.record.containerId.isSome) := by
  unfold statusAt at h
  rw [Exec.get_bind] at h
  split at h
  · rename_i hphase
    cases h
    exact ⟨rfl, fun _ => Iff.rfl, .inl hphase⟩
  · cases hc : s.record.containerId with
    | none => rw [hc] at h; cases h
    | some c =>
      rw [hc] at h
      obtain ⟨x, u, hinspect, h⟩ := Exec.bind_eq_ok.1 h
      have hu : u = t := congrArg Prod.snd h
      subst hu
      have hkeep := (inspect_meets (P := (· = s)) (o := o) (c := c)) s rfl
      rw [hinspect] at hkeep
      obtain ⟨_, rfl, _, rfl | rfl⟩ := hkeep
      · exact ⟨rfl, fun _ => Iff.rfl, .inr rfl⟩
      · refine ⟨rfl, fun c' => ?_, .inr rfl⟩
        rw [Slot.exit, Slot.container_setContainer]
        split
        · rename_i heq
          subst heq
          exact Option.map_eq_none_iff
        · exact Iff.rfl

end

def Host.Runs (h : Host) (w : WorkloadId) (c : Nat) : Prop := ∃ x ∈ (h.engine w).get c, x.running

def StartsNothing (maxWorkloads : Nat) (w : WorkloadId) (h : Host) : Call → Prop
  | .deploy d o => d.workloadId = w → ∀ c, (deploy maxWorkloads d o h).2.Runs w c → h.Runs w c
  | _ => True

def Slot.Released (s : Slot) : Prop := s.record.Halted → s.Gone

section
variable {h : Host} {w : WorkloadId} {s : Slot} {c : Nat}

theorem Host.engine_setSlot_self (h : Host) (w : WorkloadId) (s : Slot) :
    (h.setSlot w s).engine w = s.engine := Function.update_self ..

theorem startsNothing_of_gone (hI : Holds w (Slot.GoneAt c) h) (maxWorkloads : Nat) (call : Call) :
    StartsNothing maxWorkloads w h call := by
  cases call with
  | deploy d o =>
    rintro rfl c' hrun
    obtain ⟨s, hs, hgone⟩ := hI
    obtain ⟨e, heq⟩ | ⟨t, ht, heq⟩ | ⟨hnone, heq⟩ := deploy_cases maxWorkloads d o h
    · rwa [heq] at hrun
    · rw [hs] at ht
      cases ht
      rw [heq, deployAt_gone hgone, Host.Runs, Host.engine_setSlot_self] at hrun
      rwa [Host.Runs, Host.engine_of_slot hs]
    · rw [hnone] at hs
      cases hs
  | _ => trivial

theorem gone_final (hI : Holds w Slot.Gone h) (maxWorkloads : Nat) (calls : List Call) :
    Along (step maxWorkloads) (StartsNothing maxWorkloads w) h calls := by
  obtain ⟨s, hs, c, hgone⟩ := hI
  refine (Along.true h calls).along (I := Holds w (Slot.GoneAt c)) ⟨s, hs, hgone⟩ ?_ ?_
  · intro h call hI _
    refine step_holds (fun o s hs => ?_) (fun _ => stopAt_gone) (fun _ => recoverAt_gone)
      Slot.GoneAt.exitStable (fun s c' hs => hs.restart c') maxWorkloads call hI
    rw [deployAt_gone hs]
    exact hs
  · exact fun h call hI _ => startsNothing_of_gone hI maxWorkloads call

theorem stop_gone (hok : (stop w o h).1 = .ok ()) (hI : Holds w Slot.Released h) :
    Holds w Slot.Gone (stop w o h).2 := by
  obtain ⟨s, hs, hreleased⟩ := hI
  rw [stop_some hs] at hok ⊢
  refine ⟨_, by rw [Host.slot_setSlot, if_pos rfl]; rfl, ?_⟩
  obtain ⟨hhalt, heq⟩ | ⟨_, _, hgone⟩ := stopAt_ok (Prod.ext hok rfl)
  · exact (congrArg Slot.Gone heq).mpr (hreleased hhalt)
  · exact hgone

def redeployment (w : WorkloadId) (r : WorkloadRecord) : Deployment where
  workloadId := w
  specHash := r.specHash
  egressMbps := r.egressMbps
  leaseEnd := r.leaseEnd.getD 0
  volumeMounts := r.volumeMounts
  securityGroupRules := r.securityGroupRules

theorem deploy_existing (hs : h.slot d.workloadId = some s)
    (hspec : s.record.specHash = d.specHash) :
    deploy maxWorkloads d o h =
      ((deployAt o .existing s).1, h.setSlot d.workloadId (deployAt o .existing s).2) := by
  have hreserve : h.state.reserveWorkload d.workloadId d.candidate maxWorkloads =
      .ok (h.state, .existing) := by
    unfold LocalState.reserveWorkload
    rw [Host.workload_of_slot hs]
    exact if_pos hspec
  unfold deploy
  rw [hreserve]
  exact onWorkload_some hs

def revival (w : WorkloadId) (c : Nat) (r : WorkloadRecord) : List Call :=
  [.exit w c, .recover fun _ => .done, .deploy (redeployment w r) .done]

theorem not_final (hs : h.slot w = some s) (hhalt : s.record.Halted)
    (hc : s.record.containerId = some c) (hx : s.container c ≠ none) (maxWorkloads : Nat) :
    ¬ Along (step maxWorkloads) (StartsNothing maxWorkloads w) h (revival w c s.record) := by
  rintro ⟨_, _, hstart, _⟩
  obtain ⟨x, hx⟩ := Option.ne_none_iff_exists'.1 hx
  have hexit : (step maxWorkloads h (.exit w c)).slot w = some (s.exit c) := by
    change (h.onSlot w fun s => s.exit c).slot w = _
    unfold Host.onSlot
    rw [hs, Host.slot_setSlot, if_pos rfl]
  have hx' : (s.exit c).container c = some (Slot.halted x) := by
    rw [Slot.exit, Slot.container_set_self, hx]
    rfl
  have hrecover : (step maxWorkloads (step maxWorkloads h (.exit w c))
      (.recover fun _ => .done)).slot w =
        some { s.exit c with record := { s.record with phase := .failed } } := by
    change (recover _ _).2.slot w = _
    rw [recover_slots fun _ => recoverAt_done, hexit, Option.map_some,
      recoverAt_halted (s := s.exit c) hhalt hc hx' (Slot.halted_running x)]
    rfl
  generalize step maxWorkloads (step maxWorkloads h (.exit w c)) (.recover fun _ => .done) = h'
    at hstart hrecover
  obtain ⟨t, ht, hserving⟩ := deployAt_done
    (s := { s.exit c with record := { s.record with phase := .failed } })
    (.inr (by rintro ⟨⟩)) hc hx'
  have hbefore := hstart rfl c
  rw [deploy_existing (d := redeployment w s.record) hrecover rfl, ht, Host.Runs,
    show (redeployment w s.record).workloadId = w from rfl, Host.engine_setSlot_self] at hbefore
  obtain ⟨y, hy, hrun⟩ := hbefore hserving.on
  rw [Host.engine_of_slot hrecover] at hy
  have hy' : y = Slot.halted x := Option.some.inj (hy.symm.trans hx')
  rw [hy', Slot.halted_running] at hrun
  cases hrun

theorem stopAndConfirm_completed (h' : (stopAndConfirm w o status h).1 = .ok .completed) :
    ∃ s t u, h.slot w = some s ∧ stopAt o s = (.ok (), t) ∧
      statusAt status t = (.ok .completed, u) ∧
      (stopAndConfirm w o status h).2.slot w = some u := by
  generalize hrun : stopAndConfirm w o status h = r at h' ⊢
  obtain ⟨result, h₂⟩ := r
  dsimp only at h' ⊢
  rw [h'] at hrun
  obtain ⟨_, h₁, hstop, hstatus⟩ := Exec.bind_eq_ok.1 hrun
  cases hs : h.slot w with
  | none =>
    rw [stop, hs] at hstop
    cases hstop
    rw [getStatus, onWorkload, hs] at hstatus
    cases hstatus
  | some s =>
    rw [stop_some hs] at hstop
    obtain ⟨hok, rfl⟩ := Prod.mk.inj hstop
    have hslot : (h.setSlot w (stopAt o s).2).slot w = some (stopAt o s).2 := by
      rw [Host.slot_setSlot, if_pos rfl]
    rw [getStatus, onWorkload_some hslot] at hstatus
    obtain ⟨hcompleted, rfl⟩ := Prod.mk.inj hstatus
    refine ⟨s, _, _, rfl, Prod.ext hok rfl, Prod.ext hcompleted rfl, ?_⟩
    rw [Host.slot_setSlot, if_pos rfl]

end

/-- Final exactly if `stop` found a live workload or no container. -/
theorem confirmed_stop_final (maxWorkloads : Nat) (history : List Call) (w : WorkloadId)
    (o : StopOutcomes) :
    let h := run (step maxWorkloads) Host.empty history
    (∀ status, (stopAndConfirm w o status h).1 = .ok .completed →
      ((∀ calls, Along (step maxWorkloads) (StartsNothing maxWorkloads w)
        (stopAndConfirm w o status h).2 calls) ↔ Holds w Slot.Released h)) ∧
    ((stop w o h).1 = .ok () → Holds w Slot.Released h →
      ∀ calls, Along (step maxWorkloads) (StartsNothing maxWorkloads w) (stop w o h).2 calls) := by
  intro h
  have hrecorded : Host.Each (fun _ => Slot.Recorded) h :=
    run_invariant (I := Host.Each fun _ => Slot.Recorded) Host.Each.empty
      (fun h call hh => recorded_step hh maxWorkloads call) history
  refine ⟨fun status hconfirm => ⟨fun hfinal => ?_, fun hreleased calls => ?_⟩, ?_⟩
  · obtain ⟨s, t, u, hs, hstop, hstatus, hu⟩ := stopAndConfirm_completed hconfirm
    refine ⟨s, hs, fun hhalt => ?_⟩
    rw [stopAt_halted hhalt] at hstop
    cases hstop
    obtain ⟨hrecord, hcontainer, hseen⟩ := statusAt_completed hstatus
    obtain ⟨c, hc⟩ := Option.isSome_iff_exists.1 (hseen.elim (hrecorded.known w s hs) id)
    by_contra hgone
    refine not_final hu (hrecord ▸ hhalt) (hrecord ▸ hc) ?_ maxWorkloads (hfinal _)
    intro hnone
    exact hgone ⟨c, hc, (hcontainer c).1 hnone⟩
  · obtain ⟨s, t, u, hs, hstop, hstatus, hu⟩ := stopAndConfirm_completed hconfirm
    obtain ⟨s', hs', hreleased⟩ := hreleased
    rw [hs] at hs'
    cases hs'
    obtain ⟨hrecord, hcontainer, _⟩ := statusAt_completed hstatus
    obtain ⟨c, hc, hmissing⟩ : t.Gone := by
      obtain ⟨hhalt, rfl⟩ | ⟨_, _, hgone⟩ := stopAt_ok hstop
      · exact hreleased hhalt
      · exact hgone
    exact gone_final ⟨u, hu, c, hrecord ▸ hc, (hcontainer c).2 hmissing⟩ maxWorkloads calls
  · intro hok hreleased calls
    exact gone_final (stop_gone hok hreleased) maxWorkloads calls

theorem confirmed_stop_final_web_server :
    let h := run (step 1) Host.empty [.deploy (webServer 0) .done]
    (stopAndConfirm 0 .done .done h).1 = .ok .completed ∧
      Along (step 1) (StartsNothing 1 0) (stopAndConfirm 0 .done .done h).2
        [.recover fun _ => .done, .deploy (webServer 0) .done] := by
  intro h
  refine ⟨rfl, ?_⟩
  refine ((confirmed_stop_final 1 [.deploy (webServer 0) .done] 0 .done).1 .done rfl).2 ?_ _
  refine ⟨_, rfl, fun hhalt => ?_⟩
  exact absurd hhalt (by decide)

theorem confirmed_stop_undone :
    let exited := run (step 1) Host.empty
      [.deploy (webServer 0) .done, .exit 0 0, .recover fun _ => .done]
    let halfway := run (step 1) Host.empty
      [.deploy (webServer 0) .done, .stop 0 { StopOutcomes.done with remove := .lost },
        .recover fun _ => .done]
    ((stopAndConfirm 0 .done .done exited).1 = .ok .completed ∧
      ¬ Along (step 1) (StartsNothing 1 0) (stopAndConfirm 0 .done .done exited).2
        [.deploy (webServer 0) .done]) ∧
    (stopAndConfirm 0 .done .done halfway).1 = .ok .completed ∧
      (halfway.slot 0).map (·.record.phase) = some .stopped ∧
      ¬ Along (step 1) (StartsNothing 1 0) (stopAndConfirm 0 .done .done halfway).2
        [.recover fun _ => .done, .deploy (webServer 0) .done] := by
  intro exited halfway
  refine ⟨⟨rfl, ?_⟩, rfl, rfl, ?_⟩
  · rintro ⟨hstart, _⟩
    obtain ⟨x, hx, hrun⟩ := hstart rfl 0 ⟨_, rfl, rfl⟩
    cases hx
    cases hrun
  · rintro ⟨_, hstart, _⟩
    obtain ⟨x, hx, hrun⟩ := hstart rfl 0 ⟨_, rfl, rfl⟩
    cases hx
    cases hrun

end OpenInfra.Agent
