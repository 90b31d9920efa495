import OpenInfra.Agent.LocalState
import OpenInfra.Frame.Exec
import OpenInfra.Frame.Run

namespace OpenInfra.Agent
open Frame Function

inductive ContainerStatus where
  | created
  | running
  | restarting
  | removing
  | exited
  | dead
  deriving DecidableEq

structure Container where
  running : Bool
  status : ContainerStatus
  rules : Option (List SecurityGroupRule)
  deriving DecidableEq

structure Containers where
  get : Nat → Option Container
  created : Nat

def Containers.none : Containers := ⟨fun _ => .none, 0⟩

/-- A failed call may have had its effect, and the container may exit. -/
structure Outcome where
  ok : Bool
  took : Bool
  exits : Bool
  deriving DecidableEq

def Outcome.done : Outcome := ⟨true, false, false⟩

def Outcome.lost : Outcome := ⟨false, false, false⟩

def Outcome.effective (o : Outcome) : Bool := o.ok || o.took

inductive ExecutorError where
  | invalidRequest (message : String)
  | engine
  | state (error : LocalStateError)
  | stateConfirmation (containerId : Nat)
  | noContainer
  | noVmHandle
  | notVm (workloadId : WorkloadId)
  | vmDisabled
  | imageDigestMismatch (url : String) (expected actual : BitVec 256)
  deriving DecidableEq

/-- A workload: what the agent has stored and what the engine runs. -/
structure Slot where
  record : WorkloadRecord
  engine : Containers

namespace Slot

def container (s : Slot) (c : Nat) : Option Container := s.engine.get c

def setContainer (s : Slot) (c : Nat) (x : Option Container) : Slot :=
  { s with engine := { s.engine with get := Function.update s.engine.get c x } }

def halted (x : Container) : Container :=
  if x.running then { x with running := false, status := .exited } else x

def exit (s : Slot) (c : Nat) : Slot := s.setContainer c ((s.container c).map halted)

def started (x : Container) : Container := if x.running then x else ⟨true, .running, none⟩

def restart (s : Slot) (c : Nat) : Slot := s.setContainer c ((s.container c).map started)

def add (s : Slot) : Slot :=
  { s with engine :=
    ⟨Function.update s.engine.get s.engine.created (some ⟨false, .created, none⟩),
      s.engine.created + 1⟩ }

end Slot

abbrev Step (A : Type) := Exec Slot ExecutorError A

def engineCall (o : Outcome) (c : Nat) (pre : Container → Bool) (effect : Slot → Slot) :
    Step Unit := fun s =>
  match (s.container c).filter pre with
  | none => (.error .engine, s)
  | some _ =>
    let t := if o.effective then effect s else s
    (if o.ok then .ok () else .error .engine, if o.exits then t.exit c else t)

def start (o : Outcome) (c : Nat) : Step Unit :=
  engineCall o c (fun _ => true) fun s => s.restart c

def stopContainer (o : Outcome) (c : Nat) : Step Unit :=
  engineCall o c (fun _ => true) fun s => s.exit c

def remove (o : Outcome) (c : Nat) : Step Unit :=
  engineCall o c (fun _ => true) fun s => s.setContainer c none

def rateLimit (o : Outcome) (c : Nat) : Step Unit :=
  engineCall o c (fun x => x.running) id

def applySecurityGroups (o : Outcome) (c : Nat) (rules : List SecurityGroupRule) : Step Unit :=
  engineCall o c (fun x => x.running) fun s =>
    s.setContainer c ((s.container c).map fun x => { x with rules := some rules })

def inspect (o : Outcome) (c : Nat) : Step Container := fun s =>
  match s.container c with
  | none => (.error .engine, s)
  | some x => (if o.ok then .ok x else .error .engine, if o.exits then s.exit c else s)

def create (o : Outcome) : Step Nat := fun s =>
  (if o.ok then .ok s.engine.created else .error .engine, if o.effective then s.add else s)

def storeWorkload (ok : Bool) (record : WorkloadRecord) : Step Unit := fun s =>
  if ok then (.ok (), { s with record }) else (.error (.state .storage), s)

structure DeployOutcomes where
  inspect : Outcome
  ensureVolumes : Bool
  create : Outcome
  persistStarting : Bool
  cleanUp : Outcome
  start : Outcome
  confirm : Outcome
  rateLimit : Outcome
  applySecurityGroups : Outcome
  stop : Outcome
  remove : Outcome
  persist : Bool

def DeployOutcomes.done : DeployOutcomes :=
  ⟨.done, true, .done, true, .done, .done, .done, .done, .done, .done, .done, true⟩

def applyRateLimitIfNeeded (o : Outcome) (record : WorkloadRecord) (c : Nat) :
    Step WorkloadRecord := do
  if record.egressMbps = 0 ∨ record.rateLimited then
    pure record
  else
    match ← (rateLimit o c).attempt with
    | .ok () => pure { record with rateLimited := true }
    | .error _ => pure record

def applySecurityGroupsOrFail (o : DeployOutcomes) (record : WorkloadRecord) (c : Nat) :
    Step WorkloadRecord :=
  match record.securityGroupRules with
  | none => pure record
  | some rules =>
    if record.securityGroupsApplied then
      pure record
    else do
      match ← (applySecurityGroups o.applySecurityGroups c rules).attempt with
      | .ok () => pure { record with securityGroupsApplied := true }
      | .error e =>
        let _ ← (stopContainer o.stop c).attempt
        let _ ← (remove o.remove c).attempt
        Exec.fail e

def applySecurityGroupsIfNeeded (o : Outcome) (record : WorkloadRecord) (c : Nat) :
    Step WorkloadRecord :=
  match record.securityGroupRules with
  | none => pure record
  | some rules => do
    match ← (applySecurityGroups o c rules).attempt with
    | .ok () => pure { record with securityGroupsApplied := true }
    | .error _ => pure record

/-- The end of every successful `deploy`. -/
def finish (o : DeployOutcomes) (record : WorkloadRecord) (c : Nat) : Step Nat := do
  let record ← applyRateLimitIfNeeded o.rateLimit record c
  match ← (applySecurityGroupsOrFail o record c).attempt with
  | .error e =>
    storeWorkload o.persist { record with phase := .failed }
    Exec.fail e
  | .ok record =>
    storeWorkload o.persist { record with phase := .running }
    pure c

def ensureContainer (o : DeployOutcomes) (record : WorkloadRecord) :
    Step (WorkloadRecord × Nat) :=
  match record.containerId with
  | some c => pure (record, c)
  | none => do
    if o.ensureVolumes then
      let c ← create o.create
      let record := { record with containerId := some c, phase := .starting }
      match ← (storeWorkload o.persistStarting record).attempt with
      | .ok () => pure (record, c)
      | .error e =>
        let _ ← (remove o.cleanUp c).attempt
        Exec.fail e
    else
      Exec.fail .engine

def launch (o : DeployOutcomes) (record : WorkloadRecord) : Step Nat := do
  let (record, c) ← ensureContainer o record
  match ← (start o.start c).attempt with
  | .error e =>
    storeWorkload o.persist { record with phase := .failed }
    Exec.fail e
  | .ok () =>
    let observation ← inspect o.confirm c
    if observation.running then
      finish o record c
    else
      storeWorkload o.persist { record with phase := .failed }
      Exec.fail (.stateConfirmation c)

def deployAt (o : DeployOutcomes) (reservation : Reservation) : Step Nat := do
  let s ← Exec.get
  match reservation, s.record.containerId with
  | .existing, some c =>
    let observation ← inspect o.inspect c
    if observation.running then
      finish o s.record c
    else if s.record.phase = .stopped then
      Exec.fail (.stateConfirmation c)
    else
      launch o s.record
  | _, _ => launch o s.record

structure StopOutcomes where
  persistStopping : Bool
  stop : Outcome
  inspect : Outcome
  remove : Outcome
  persist : Bool

def StopOutcomes.done : StopOutcomes := ⟨true, .done, .done, .done, true⟩

def stopAt (o : StopOutcomes) : Step Unit := do
  let s ← Exec.get
  if s.record.phase = .stopped ∨ s.record.phase = .failed then
    pure ()
  else
    match s.record.containerId with
    | none => Exec.fail .noContainer
    | some c =>
      storeWorkload o.persistStopping { s.record with phase := .stopping }
      stopContainer o.stop c
      let observation ← inspect o.inspect c
      if observation.running then
        Exec.fail (.stateConfirmation c)
      else
        remove o.remove c
        storeWorkload o.persist { s.record with phase := .stopped }

structure RecoverOutcomes where
  inspect : Outcome
  rateLimit : Outcome
  applySecurityGroups : Outcome
  persist : Bool

def RecoverOutcomes.done : RecoverOutcomes := ⟨.done, .done, .done, true⟩

def recoverAt (o : RecoverOutcomes) : Step Unit := do
  let s ← Exec.get
  match s.record.containerId with
  | none =>
    if s.record.phase.consumesCapacity then
      storeWorkload o.persist { s.record with phase := .failed }
    else
      pure ()
  | some c =>
    match ← (inspect o.inspect c).attempt with
    | .error _ => storeWorkload o.persist { s.record with phase := .lost }
    | .ok observation =>
      if observation.running then
        let record ← applyRateLimitIfNeeded o.rateLimit s.record c
        let record ← applySecurityGroupsIfNeeded o.applySecurityGroups record c
        storeWorkload o.persist { record with phase := .running }
      else if s.record.phase = .stopping then
        storeWorkload o.persist { s.record with phase := .stopped }
      else
        storeWorkload o.persist { s.record with phase := .failed }

variable {s : Slot} {pre : Container → Bool} {effect : Slot → Slot}
    {Q : Except ExecutorError Unit → Slot → Prop} {I J : WorkloadId → Slot → Prop}

theorem deployAt_launch (h : s.record.containerId = none) :
    deployAt o reservation s = launch o s.record s := by
  change (match reservation, s.record.containerId with
    | .existing, some c => _
    | _, _ => launch o s.record) s = _
  rw [h]
  cases reservation <;> rfl

theorem deployAt_existing (h : s.record.containerId = some c) :
    deployAt o .existing s = (inspect o.inspect c >>= fun observation =>
      if observation.running then finish o s.record c
      else if s.record.phase = .stopped then Exec.fail (.stateConfirmation c)
      else launch o s.record) s := by
  change (match Reservation.existing, s.record.containerId with
    | .existing, some c => _
    | _, _ => launch o s.record) s = _
  rw [h]

section
variable {s t : Slot} {r : WorkloadRecord} {c : Nat} {P : Slot → Prop}

theorem Slot.container_setContainer (s : Slot) (c : Nat) (x : Option Container) (c' : Nat) :
    (s.setContainer c x).container c' = if c' = c then x else s.container c' := update_apply ..

theorem Slot.container_add (s : Slot) : s.add.container s.engine.created =
    some ⟨false, .created, none⟩ := update_self ..

@[simp] theorem Slot.container_set_self (s : Slot) (c : Nat) (x : Option Container) :
    (s.setContainer c x).container c = x := update_self ..

theorem Slot.container_exit (h : (s.exit c).container c' = some x) :
    ∃ y, s.container c' = some y ∧ (x = y ∨ x = halted y) := by
  rw [Slot.exit, Slot.container_setContainer] at h
  split at h
  · rename_i heq
    rw [heq]
    obtain ⟨y, hy, rfl⟩ := Option.map_eq_some_iff.1 h
    exact ⟨y, hy, .inr rfl⟩
  · exact ⟨x, h, .inl rfl⟩

@[simp] theorem Slot.halted_running (x : Container) : (halted x).running = false := by
  unfold halted
  split
  · rfl
  · exact Bool.eq_false_iff.2 ‹_›

@[simp] theorem Slot.halted_rules (x : Container) : (halted x).rules = x.rules := by
  unfold halted
  split <;> rfl

def ExitStable (P : Slot → Prop) : Prop := ∀ s c, P s → P (s.exit c)

theorem engineCall_meets
    (hQ : ∀ r, ExitStable (Q r))
    (hmiss : ∀ s, P s → (∀ x ∈ s.container c, pre x → o.effective = false) → Q (.error .engine) s)
    (hdone : ∀ s, ∀ x ∈ s.container c, P s → pre x → Q (.ok ()) (effect s))
    (htook : o.ok = false → o.took → ∀ s, ∀ x ∈ s.container c, P s → pre x →
      Q (.error .engine) (effect s)) : Exec.Meets P (engineCall o c pre effect) Q := by
  intro s hs
  unfold engineCall
  split
  · rename_i hnone
    refine hmiss s hs fun x hx hpre => ?_
    rw [hx, Option.filter_some, if_pos hpre] at hnone
    cases hnone
  · rename_i x hx
    obtain ⟨hc, hpre⟩ := Option.filter_eq_some_iff.1 hx
    have h : Q (if o.ok then .ok () else .error .engine) (if o.effective then effect s else s) := by
      unfold Outcome.effective at *
      cases hok : o.ok with
      | true => exact hdone s x hc hs hpre
      | false =>
        cases htaken : o.took with
        | true => exact htook hok htaken s x hc hs hpre
        | false => exact hmiss s hs fun _ _ _ => by rw [hok, htaken]; rfl
    cases hexits : o.exits with
    | true => exact hQ _ _ _ h
    | false => exact h

theorem create_meets {Q : Except ExecutorError Nat → Slot → Prop}
    (hdone : ∀ s, P s → Q (.ok s.engine.created) s.add)
    (hfail : ∀ s, P s → Q (.error .engine) s ∧ Q (.error .engine) s.add) :
    Exec.Meets P (create o) Q := by
  intro s hs
  unfold create Outcome.effective
  cases o.ok with
  | true => exact hdone s hs
  | false =>
    cases o.took with
    | true => exact (hfail s hs).2
    | false => exact (hfail s hs).1

theorem inspect_meets :
    Exec.Meets P (inspect o c) (Exec.Then
      (fun x t => ∃ s, P s ∧ s.container c = some x ∧ (t = s ∨ t = s.exit c))
      fun _ t => ∃ s, P s ∧ (o.ok → s.container c = none) ∧ (t = s ∨ t = s.exit c)) := by
  intro s hs
  unfold inspect
  split
  · rename_i hnone
    exact ⟨s, hs, fun _ => hnone, .inl rfl⟩
  · rename_i x hx
    have hexit : (if o.exits then s.exit c else s) = s ∨
        (if o.exits then s.exit c else s) = s.exit c := by
      cases o.exits with
      | true => exact .inr rfl
      | false => exact .inl rfl
    cases hok : o.ok with
    | true => exact ⟨s, hs, hx, hexit⟩
    | false => exact ⟨s, hs, nofun, hexit⟩

theorem ExitStable.engineCall (hP : ExitStable P) (heff : ∀ s, P s → P (effect s)) :
    Exec.Meets P (engineCall o c pre effect) fun _ => P :=
  engineCall_meets (fun _ => hP) (fun _ hs _ => hs) (fun s _ _ hs _ => heff s hs)
    fun _ _ s _ _ hs _ => heff s hs

theorem ExitStable.inspect (hP : ExitStable P) : Exec.Meets P (inspect o c) fun _ => P := by
  refine inspect_meets.mono (fun _ => id) ?_
  rintro (e | x) t h
  · obtain ⟨s, hs, _, rfl | rfl⟩ := h
    · exact hs
    · exact hP s c hs
  · obtain ⟨s, hs, _, rfl | rfl⟩ := h
    · exact hs
    · exact hP s c hs

def OnRecord (P : Slot → Prop) : Prop := ∀ s t, t.record = s.record → P s → P t

theorem OnRecord.exitStable (hP : OnRecord P) : ExitStable P := fun s c => hP s (s.exit c) rfl

theorem OnRecord.engineCall (hP : OnRecord P) (heff : ∀ s, (effect s).record = s.record) :
    Exec.Meets P (engineCall o c pre effect) fun _ => P :=
  hP.exitStable.engineCall fun s => hP s _ (heff s)

theorem OnRecord.create (hP : OnRecord P) : Exec.Meets P (create o) fun _ => P :=
  create_meets (fun s => hP s s.add rfl) fun s hs => ⟨hs, hP s s.add rfl hs⟩

theorem storeWorkload_meets
    (hok : ∀ s, P s → Q (.ok ()) { s with record := r })
    (herr : ok = false → ∀ s, P s → Q (.error (.state .storage)) s) :
    Exec.Meets P (storeWorkload ok r) Q := by
  intro s hs
  cases ok with
  | true => exact hok s hs
  | false => exact herr rfl s hs

theorem applyRateLimitIfNeeded_meets (hP : ExitStable P) :
    Exec.Meets P (applyRateLimitIfNeeded o r c) (Exec.Then
      (fun r' s => (∃ b, r' = { r with rateLimited := b }) ∧ P s) fun _ _ => False) := by
  unfold applyRateLimitIfNeeded
  split
  · exact .pure fun s hs => ⟨⟨r.rateLimited, rfl⟩, hs⟩
  · refine .bind (fun _ => P) ?_ fun a => ?_
    · exact .attempt (hP.engineCall fun _ => id)
    · cases a with
      | ok u => exact .pure fun s hs => ⟨⟨true, rfl⟩, hs⟩
      | error e => exact .pure fun s hs => ⟨⟨r.rateLimited, rfl⟩, hs⟩

end

/-- The records of the agent and the containers of the engine. -/
structure Host where
  state : LocalState
  engine : WorkloadId → Containers

namespace Host

def empty : Host := ⟨.empty, fun _ => .none⟩

def slot (h : Host) (w : WorkloadId) : Option Slot :=
  (h.state.workload w).map fun r => ⟨r, h.engine w⟩

def setSlot (h : Host) (w : WorkloadId) (s : Slot) : Host :=
  ⟨h.state.put (w, s.record), Function.update h.engine w s.engine⟩

def onSlot (h : Host) (w : WorkloadId) (f : Slot → Slot) : Host :=
  match h.slot w with
  | none => h
  | some s => h.setSlot w (f s)

end Host

abbrev Executor (A : Type) := Exec Host ExecutorError A

def onWorkload (w : WorkloadId) (m : Step A) : Executor A := fun h =>
  match h.slot w with
  | none => (.error (.state (.workloadNotFound w)), h)
  | some s => ((m s).1, h.setSlot w (m s).2)

structure Deployment where
  workloadId : WorkloadId
  specHash : BitVec 256
  egressMbps : Nat
  leaseEnd : Int
  volumeMounts : List String
  securityGroupRules : Option (List SecurityGroupRule)

def Deployment.candidate (d : Deployment) : WorkloadRecord where
  specHash := d.specHash
  containerId := none
  vmHandle := none
  runtime := .container
  phase := .provisioning
  egressMbps := d.egressMbps
  rateLimited := false
  leaseEnd := some d.leaseEnd
  volumeMounts := d.volumeMounts
  securityGroupRules := d.securityGroupRules
  securityGroupsApplied := false

def deploy (maxWorkloads : Nat) (d : Deployment) (o : DeployOutcomes) : Executor Nat := fun h =>
  match h.state.reserveWorkload d.workloadId d.candidate maxWorkloads with
  | .error e => (.error (.state e), h)
  | .ok (state, reservation) =>
    onWorkload d.workloadId (deployAt o reservation) { h with state }

def stop (w : WorkloadId) (o : StopOutcomes) : Executor Unit := fun h =>
  match h.slot w with
  | none => (.ok (), h)
  | some _ => onWorkload w (stopAt o) h

def recover (o : WorkloadId → RecoverOutcomes) : Executor PUnit := do
  let h ← Exec.get
  h.state.rows.forM fun r => onWorkload r.1 (recoverAt (o r.1))

def clockSkewToleranceSecs : Int := 120

def WorkloadRecord.Expired (r : WorkloadRecord) (now : Int) : Prop :=
  (r.phase = .starting ∨ r.phase = .running) ∧
    ∃ leaseEnd ∈ r.leaseEnd, min (leaseEnd + clockSkewToleranceSecs) (2 ^ 63 - 1) ≤ now

instance (r : WorkloadRecord) (now : Int) : Decidable (r.Expired now) :=
  inferInstanceAs (Decidable (_ ∧ _))

def expireOne (now : Int) (o : WorkloadId → StopOutcomes) (stopped : List WorkloadId)
    (r : WorkloadId × WorkloadRecord) : Executor (List WorkloadId) := do
  if r.2.Expired now then
    match ← (stop r.1 (o r.1)).attempt with
    | .ok () => pure (stopped ++ [r.1])
    | .error _ => pure stopped
  else
    pure stopped

def enforceLeaseExpiry (now : Int) (o : WorkloadId → StopOutcomes) :
    Executor (List WorkloadId) := do
  let h ← Exec.get
  h.state.rows.foldlM (expireOne now o) []

inductive State where
  | pending
  | created
  | deploying
  | running
  | stopping
  | completed
  | failed
  deriving DecidableEq

def mapObservation (x : Container) : State :=
  if x.running then .running
  else
    match x.status with
    | .created => .created
    | .restarting => .pending
    | .removing => .stopping
    | .exited => .completed
    | .dead => .failed
    | .running => .pending

def statusAt (o : Outcome) : Step State := do
  let s ← Exec.get
  if s.record.phase = .stopped then
    pure .completed
  else
    match s.record.containerId with
    | none => pure .deploying
    | some c =>
      let observation ← inspect o c
      pure (mapObservation observation)

def getStatus (w : WorkloadId) (o : Outcome) : Executor State := onWorkload w (statusAt o)

inductive Call where
  | deploy (d : Deployment) (o : DeployOutcomes)
  | stop (w : WorkloadId) (o : StopOutcomes)
  | recover (o : WorkloadId → RecoverOutcomes)
  | enforceLeaseExpiry (now : Int) (o : WorkloadId → StopOutcomes)
  | exit (w : WorkloadId) (c : Nat)
  | restart (w : WorkloadId) (c : Nat)

def step (maxWorkloads : Nat) (h : Host) : Call → Host
  | .deploy d o => (deploy maxWorkloads d o h).2
  | .stop w o => (stop w o h).2
  | .recover o => (recover o h).2
  | .enforceLeaseExpiry now o => (enforceLeaseExpiry now o h).2
  | .exit w c => h.onSlot w fun s => s.exit c
  | .restart w c => h.onSlot w fun s => s.restart c

namespace Host
variable {h : Host} {w w' : WorkloadId} {s : Slot}

theorem slot_setSlot (h : Host) (w w' : WorkloadId) (s : Slot) :
    (h.setSlot w s).slot w' = if w' = w then some s else h.slot w' := by
  unfold slot setSlot
  rw [LocalState.workload_put]
  split
  · rename_i heq
    rw [heq]
    simp only [Option.map_some, update_self]
  · rename_i hne
    simp only [update_of_ne hne]

def reserve (h : Host) (w : WorkloadId) (r : WorkloadRecord) : Host :=
  { h with state := h.state.put (w, r) }

theorem slot_reserve (h : Host) (w w' : WorkloadId) (r : WorkloadRecord) :
    (h.reserve w r).slot w' = if w' = w then some ⟨r, h.engine w⟩ else h.slot w' := by
  unfold slot reserve
  rw [LocalState.workload_put]
  split
  · rename_i heq
    rw [heq]
    rfl
  · rfl

structure Each (I : WorkloadId → Slot → Prop) (h : Host) : Prop where
  known : ∀ w, ∀ s ∈ h.slot w, I w s
  unknown : ∀ w, h.slot w = none → h.engine w = .none

theorem engine_setSlot (h : Host) (hne : w' ≠ w) : (h.setSlot w s).engine w' = h.engine w' :=
  update_of_ne hne ..

theorem Each.update (h' : Each I h) (hs : J w s)
    (hother : ∀ w', w' ≠ w → ∀ s, I w' s → J w' s) : Each J (h.setSlot w s) := by
  constructor
  · intro w' s' hs'
    rw [slot_setSlot] at hs'
    split at hs'
    · rename_i heq
      cases hs'
      exact heq ▸ hs
    · rename_i hne
      exact hother w' hne s' (h'.known w' s' hs')
  · intro w' hnone
    rw [slot_setSlot] at hnone
    split at hnone
    · cases hnone
    · rename_i hne
      rw [engine_setSlot h hne]
      exact h'.unknown w' hnone

theorem Each.setSlot (h' : Each I h) (hs : I w s) :
    Each I (h.setSlot w s) := h'.update hs fun _ _ _ => id

theorem Each.onSlot (h' : Each I h) (hf : ∀ s ∈ h.slot w, I w (f s)) : Each I (h.onSlot w f) := by
  unfold Host.onSlot
  split
  · exact h'
  · rename_i s hs
    exact h'.setSlot (hf s hs)

theorem Each.setSlot_reserve (h' : Each I h) (hs : I w s) :
    Each I ((h.reserve w r).setSlot w s) := by
  constructor
  · intro w' s' hs'
    rw [slot_setSlot] at hs'
    split at hs'
    · rename_i heq
      cases hs'
      exact heq ▸ hs
    · rename_i hne
      rw [slot_reserve, if_neg hne] at hs'
      exact h'.known w' s' hs'
  · intro w' hnone
    rw [slot_setSlot] at hnone
    split at hnone
    · cases hnone
    · rename_i hne
      rw [slot_reserve, if_neg hne] at hnone
      rw [engine_setSlot _ hne]
      exact h'.unknown w' hnone

theorem Each.empty : Each I Host.empty := by
  refine ⟨fun w s hs => ?_, fun _ _ => rfl⟩
  have hnone : Host.empty.slot w = none := rfl
  rw [hnone] at hs
  cases hs

end Host

theorem onWorkload_update
    (hm : Exec.Meets (I w) m fun _ => J w) (hother : ∀ w', w' ≠ w → ∀ s, I w' s → J w' s) :
    Exec.Meets (Host.Each I) (onWorkload w m) fun _ => Host.Each J := by
  intro h hh
  unfold onWorkload
  split
  · rename_i hnone
    refine ⟨fun w' s hs => hother w' ?_ s (hh.known w' s hs), hh.unknown⟩
    rintro rfl
    rw [hnone] at hs
    cases hs
  · rename_i s hs
    exact hh.update (hm s (hh.known w s hs)) hother

theorem stop_meets
    (hm : Exec.Meets (I w) (stopAt o) fun _ => I w) :
    Exec.Meets (Host.Each I) (stop w o) fun _ => Host.Each I := by
  intro h hh
  unfold stop
  split
  · exact hh
  · exact onWorkload_update hm (fun _ _ _ => id) h hh

theorem recover_meets
    (hm : ∀ w, Exec.Meets (I w) (recoverAt (o w)) fun _ => J w) (hIJ : ∀ w s, I w s → J w s) :
    Exec.Meets (Host.Each I) (recover o) fun _ => Host.Each J := by
  suffices h : ∀ rows : List (WorkloadId × WorkloadRecord), (rows.map Prod.fst).Nodup →
      Exec.Meets (Host.Each fun w s => J w s ∧ (w ∈ rows.map Prod.fst → I w s))
        (rows.forM fun r => onWorkload r.1 (recoverAt (o r.1))) fun _ => Host.Each J by
    refine .get_bind fun h' hh => (h h'.state.rows h'.state.nodup).mono ?_ fun _ _ => id
    rintro _ rfl
    exact ⟨fun w s hs => ⟨hIJ w s (hh.known w s hs), fun _ => hh.known w s hs⟩, hh.unknown⟩
  intro rows
  induction rows with
  | nil => exact fun _ _ hh => ⟨fun w s hs => (hh.known w s hs).1, hh.unknown⟩
  | cons r rows ih =>
    intro hnodup
    obtain ⟨hfirst, hrest⟩ := List.nodup_cons.1 hnodup
    have hthen : Exec.Meets
        (Host.Each fun w s => J w s ∧ (w ∈ (r :: rows).map Prod.fst → I w s))
        (onWorkload r.1 (recoverAt (o r.1)))
        fun _ => Host.Each fun w s => J w s ∧ (w ∈ rows.map Prod.fst → I w s) := by
      refine onWorkload_update ?_ ?_
      · intro s hs
        exact ⟨hm r.1 s (hs.2 (List.mem_cons_self ..)), fun h => absurd h hfirst⟩
      · intro w' _ s hs
        exact ⟨hs.1, fun h => hs.2 (List.mem_cons_of_mem _ h)⟩
    refine .bind _ (hthen.mono (fun _ => id) ?_) fun _ => ih hrest
    rintro (e | u) h hh
    · exact ⟨fun w s hs => (hh.known w s hs).1, hh.unknown⟩
    · exact hh

theorem enforceLeaseExpiry_meets
    (hm : ∀ w, Exec.Meets (I w) (stopAt (o w)) fun _ => I w) :
    Exec.Meets (Host.Each I) (enforceLeaseExpiry now o) fun _ => Host.Each I := by
  refine .bind (fun _ => Host.Each I) (.get fun _ => id) fun h => ?_
  apply Exec.Meets.foldlM
  intro stopped r
  unfold expireOne
  split
  · refine .bind (fun _ => Host.Each I) (.attempt (stop_meets (hm r.1))) fun a => ?_
    cases a with
    | ok u => exact .pure fun _ => id
    | error e => exact .pure fun _ => id
  · exact .pure fun _ => id

theorem deploy_cases (maxWorkloads : Nat) (d : Deployment) (o : DeployOutcomes) (h : Host) :
    (∃ e, deploy maxWorkloads d o h = (.error (.state e), h)) ∨
    (∃ s, h.slot d.workloadId = some s ∧ deploy maxWorkloads d o h =
      ((deployAt o .existing s).1, h.setSlot d.workloadId (deployAt o .existing s).2)) ∨
    (h.slot d.workloadId = none ∧ deploy maxWorkloads d o h =
      ((deployAt o .new ⟨d.candidate, h.engine d.workloadId⟩).1,
        (h.reserve d.workloadId d.candidate).setSlot d.workloadId
          (deployAt o .new ⟨d.candidate, h.engine d.workloadId⟩).2)) := by
  unfold deploy
  split
  · rename_i e _
    exact .inl ⟨e, rfl⟩
  · rename_i state reservation hr
    obtain ⟨rfl, rfl, hsome⟩ | ⟨rfl, rfl, hnone⟩ := LocalState.reserveWorkload_eq_ok hr
    · obtain ⟨r, hr⟩ := Option.isSome_iff_exists.1 hsome
      have hslot : h.slot d.workloadId = some ⟨r, h.engine d.workloadId⟩ := by
        rw [Host.slot, hr]
        rfl
      refine .inr (.inl ⟨_, hslot, ?_⟩)
      unfold onWorkload
      rw [hslot]
    · have hslot : (h.reserve d.workloadId d.candidate).slot d.workloadId =
          some ⟨d.candidate, h.engine d.workloadId⟩ := by
        rw [Host.slot_reserve, if_pos rfl]
      refine .inr (.inr ⟨by rw [Host.slot, hnone]; rfl, ?_⟩)
      change onWorkload d.workloadId (deployAt o .new) (h.reserve d.workloadId d.candidate) = _
      unfold onWorkload
      rw [hslot]

theorem deploy_ok (hok : (deploy maxWorkloads d o h).1 = .ok c)
    (hs : s ∈ (deploy maxWorkloads d o h).2.slot d.workloadId) :
    (∃ before ∈ h.slot d.workloadId, deployAt o .existing before = (.ok c, s)) ∨
      h.slot d.workloadId = none ∧
        deployAt o .new ⟨d.candidate, h.engine d.workloadId⟩ = (.ok c, s) := by
  obtain ⟨e, heq⟩ | ⟨before, hbefore, heq⟩ | ⟨hnone, heq⟩ := deploy_cases maxWorkloads d o h
  · rw [heq] at hok
    cases hok
  · rw [heq] at hok hs
    rw [Host.slot_setSlot, if_pos rfl] at hs
    cases hs
    exact .inl ⟨before, hbefore, Prod.ext hok rfl⟩
  · rw [heq] at hok hs
    rw [Host.slot_setSlot, if_pos rfl] at hs
    cases hs
    exact .inr ⟨hnone, Prod.ext hok rfl⟩

theorem deploy_each (hh : Host.Each I h)
    (hold : ∀ s ∈ h.slot d.workloadId, I d.workloadId (deployAt o .existing s).2)
    (hnew : h.slot d.workloadId = none → I d.workloadId (deployAt o .new ⟨d.candidate, .none⟩).2) :
    Host.Each I (deploy maxWorkloads d o h).2 := by
  obtain ⟨e, heq⟩ | ⟨s, hs, heq⟩ | ⟨hnone, heq⟩ := deploy_cases maxWorkloads d o h
  · rw [heq]
    exact hh
  · rw [heq]
    exact hh.setSlot (hold s hs)
  · rw [heq, hh.unknown _ hnone]
    exact hh.setSlot_reserve (hnew hnone)

theorem stop_ok (hok : (stop w o h).1 = .ok ()) (hs : s ∈ (stop w o h).2.slot w) :
    ∃ before ∈ h.slot w, stopAt o before = (.ok (), s) := by
  cases hslot : h.slot w with
  | none =>
    have hstop : stop w o h = (.ok (), h) := by rw [stop, hslot]
    rw [hstop, hslot] at hs
    cases hs
  | some before =>
    have hstop : stop w o h = ((stopAt o before).1, h.setSlot w (stopAt o before).2) := by
      rw [stop, hslot]
      dsimp only
      rw [onWorkload, hslot]
    rw [hstop] at hok hs
    rw [Host.slot_setSlot, if_pos rfl] at hs
    cases hs
    exact ⟨before, rfl, Prod.ext hok rfl⟩

def webTraffic : SecurityGroupRule := ⟨.ingress, .tcp, some 443, some 443, "0.0.0.0/0"⟩

def webServer (w : WorkloadId) : Deployment where
  workloadId := w
  specHash := 7
  egressMbps := 0
  leaseEnd := 1000
  volumeMounts := []
  securityGroupRules := some [webTraffic]

end OpenInfra.Agent
