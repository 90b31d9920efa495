import OpenInfra.Agent.DockerExecutor

namespace OpenInfra.Agent.Vm
open Frame

abbrev ImagePath := BitVec 256

/-- A virtual machine with the file that is its writable disk. -/
structure Machine where
  running : Bool
  disk : ImagePath
  deriving DecidableEq

structure Creation where
  workloadId : WorkloadId
  vmImageSha256 : BitVec 256
  imagePath : ImagePath
  contents : List UInt8
  deriving DecidableEq

structure Host where
  state : LocalState
  files : ImagePath → Option (List UInt8)
  machines : WorkloadId → Option Machine
  creations : List Creation

namespace Host

def empty : Host := ⟨.empty, fun _ => none, fun _ => none, []⟩

def setMachine (h : Host) (w : WorkloadId) (m : Option Machine) : Host :=
  { h with machines := Function.update h.machines w m }

def powerOff (h : Host) (w : WorkloadId) : Host :=
  h.setMachine w ((h.machines w).map fun m => { m with running := false })

def writeFile (h : Host) (path : ImagePath) (contents : List UInt8) : Host :=
  { h with files := Function.update h.files path (some contents) }

def addMachine (h : Host) (x : Creation) : Host :=
  { h.setMachine x.workloadId (some ⟨false, x.imagePath⟩) with creations := h.creations ++ [x] }

end Host

abbrev Step (A : Type) := Exec Host ExecutorError A

def engineCall (o : Outcome) (w : WorkloadId) (effect : Machine → Machine) : Step Unit := fun h =>
  match h.machines w with
  | none => (.error .engine, h)
  | some m =>
    let t := if o.effective then h.setMachine w (some (effect m)) else h
    (if o.ok then .ok () else .error .engine, if o.exits then t.powerOff w else t)

def start (o : Outcome) (w : WorkloadId) : Step Unit :=
  engineCall o w fun m => { m with running := true }

def shutdown (o : Outcome) (w : WorkloadId) : Step Unit :=
  engineCall o w fun m => { m with running := false }

def rateLimit (o : Outcome) (w : WorkloadId) : Step Unit := engineCall o w id

def inspect (o : Outcome) (w : WorkloadId) : Step Machine := fun h =>
  match h.machines w with
  | none => (.error .engine, h)
  | some m => (if o.ok then .ok m else .error .engine, if o.exits then h.powerOff w else h)

def remove (o : Outcome) (w : WorkloadId) : Step Unit := fun h =>
  (if o.ok then .ok () else .error .engine, if o.effective then h.setMachine w none else h)

structure Deployment where
  workloadId : WorkloadId
  specHash : BitVec 256
  vmImageUrl : String
  vmImageSha256 : BitVec 256
  egressMbps : Nat
  leaseEnd : Int

def Deployment.candidate (d : Deployment) : WorkloadRecord where
  specHash := d.specHash
  containerId := none
  vmHandle := none
  runtime := .vm
  phase := .provisioning
  egressMbps := d.egressMbps
  rateLimited := false
  leaseEnd := some d.leaseEnd
  volumeMounts := []
  securityGroupRules := none
  securityGroupsApplied := false

def create (o : Outcome) (d : Deployment) (imagePath : ImagePath) : Step WorkloadId := fun h =>
  match h.files imagePath with
  | none => (.error .engine, h)
  | some contents =>
    (if o.ok then .ok d.workloadId else .error .engine,
      if o.effective then h.addMachine ⟨d.workloadId, d.vmImageSha256, imagePath, contents⟩ else h)

def storeWorkload (ok : Bool) (w : WorkloadId) (record : WorkloadRecord) : Step Unit := fun h =>
  if ok then (.ok (), { h with state := h.state.put (w, record) })
  else (.error (.state .storage), h)

structure FetchOutcome where
  response : Option (List UInt8)
  written : Bool

section
variable (sha256 : List UInt8 → BitVec 256)

def fetchAndVerifyImage (o : FetchOutcome) (url : String) (expected : BitVec 256) :
    Step ImagePath := fun h =>
  match h.files expected with
  | some _ => (.ok expected, h)
  | none =>
    match o.response with
    | none => (.error .engine, h)
    | some bytes =>
      if sha256 bytes = expected then
        if o.written then (.ok expected, h.writeFile expected bytes) else (.error .engine, h)
      else
        (.error (.imageDigestMismatch url expected (sha256 bytes)), h)

structure DeployOutcomes where
  inspect : Outcome
  fetch : FetchOutcome
  create : Outcome
  persistStarting : Bool
  cleanUp : Outcome
  start : Outcome
  confirm : Outcome
  rateLimit : Outcome
  persist : Bool

def applyRateLimitIfNeeded (o : Outcome) (record : WorkloadRecord) (w : WorkloadId) :
    Step WorkloadRecord := do
  if record.egressMbps = 0 ∨ record.rateLimited then
    pure record
  else
    match ← (rateLimit o w).attempt with
    | .ok () => pure { record with rateLimited := true }
    | .error _ => pure record

def finish (o : DeployOutcomes) (record : WorkloadRecord) (w : WorkloadId) : Step WorkloadId := do
  let record ← applyRateLimitIfNeeded o.rateLimit record w
  storeWorkload o.persist w { record with phase := .running }
  pure w

def ensureMachine (o : DeployOutcomes) (d : Deployment) (record : WorkloadRecord)
    (imagePath : ImagePath) : Step WorkloadRecord :=
  match record.vmHandle with
  | some _ => pure record
  | none => do
    let handle ← create o.create d imagePath
    let record := { record with vmHandle := some handle, phase := .starting }
    match ← (storeWorkload o.persistStarting d.workloadId record).attempt with
    | .ok () => pure record
    | .error e =>
      let _ ← (remove o.cleanUp d.workloadId).attempt
      Exec.fail e

def boot (o : DeployOutcomes) (w : WorkloadId) (record : WorkloadRecord) : Step WorkloadId := do
  match ← (start o.start w).attempt with
  | .error e =>
    storeWorkload o.persist w { record with phase := .failed }
    Exec.fail e
  | .ok () =>
    let observation ← inspect o.confirm w
    if observation.running then
      finish o record w
    else
      storeWorkload o.persist w { record with phase := .failed }
      Exec.fail (.stateConfirmation w)

def launch (o : DeployOutcomes) (d : Deployment) (record : WorkloadRecord) : Step WorkloadId := do
  let imagePath ← fetchAndVerifyImage sha256 o.fetch d.vmImageUrl d.vmImageSha256
  let record ← ensureMachine o d record imagePath
  boot o d.workloadId record

def deployAt (o : DeployOutcomes) (d : Deployment) (reservation : Reservation)
    (record : WorkloadRecord) : Step WorkloadId :=
  if record.runtime = .vm then
    match reservation, record.vmHandle with
    | .existing, some _ => do
      let observation ← inspect o.inspect d.workloadId
      if observation.running then
        finish o record d.workloadId
      else if record.phase = .stopped then
        Exec.fail (.stateConfirmation d.workloadId)
      else
        launch sha256 o d record
    | _, _ => launch sha256 o d record
  else
    Exec.fail (.notVm d.workloadId)

def deploy (maxVmWorkloads : Nat) (d : Deployment) (o : DeployOutcomes) : Step WorkloadId := do
  if maxVmWorkloads = 0 then
    Exec.fail .vmDisabled
  else
    let h ← Exec.get
    match h.state.reserveWorkload d.workloadId d.candidate maxVmWorkloads with
    | .error e => Exec.fail (.state e)
    | .ok (state, reservation) =>
      Exec.modify fun h => { h with state }
      match state.workload d.workloadId with
      | none => Exec.fail (.state (.workloadNotFound d.workloadId))
      | some record => deployAt sha256 o d reservation record

end

def stopAt (w : WorkloadId) (o : StopOutcomes) (record : WorkloadRecord) : Step Unit := do
  if record.runtime = .vm then
    if record.phase = .stopped ∨ record.phase = .failed then
      pure ()
    else
      match record.vmHandle with
      | none => Exec.fail .noVmHandle
      | some _ =>
        storeWorkload o.persistStopping w { record with phase := .stopping }
        shutdown o.stop w
        let observation ← inspect o.inspect w
        if observation.running then
          Exec.fail (.stateConfirmation w)
        else
          remove o.remove w
          storeWorkload o.persist w { record with phase := .stopped }
  else
    Exec.fail (.notVm w)

def stop (w : WorkloadId) (o : StopOutcomes) : Step Unit := do
  let h ← Exec.get
  match h.state.workload w with
  | none => pure ()
  | some record => stopAt w o record

structure RecoverOutcomes where
  inspect : Outcome
  rateLimit : Outcome
  persist : Bool

def recoverAt (w : WorkloadId) (o : RecoverOutcomes) (record : WorkloadRecord) : Step PUnit := do
  if record.runtime = .vm then
    match record.vmHandle with
    | none =>
      if record.phase.consumesCapacity then
        storeWorkload o.persist w { record with phase := .failed }
      else
        pure ()
    | some _ =>
      match ← (inspect o.inspect w).attempt with
      | .error _ => storeWorkload o.persist w { record with phase := .lost }
      | .ok observation =>
        if observation.running then
          let record ← applyRateLimitIfNeeded o.rateLimit record w
          storeWorkload o.persist w { record with phase := .running }
        else if record.phase = .stopping then
          storeWorkload o.persist w { record with phase := .stopped }
        else
          storeWorkload o.persist w { record with phase := .failed }
  else
    pure ()

def recover (o : WorkloadId → RecoverOutcomes) : Step PUnit := do
  let h ← Exec.get
  h.state.rows.forM fun r => recoverAt r.1 (o r.1) r.2

def enforceLeaseExpiry (now : Int) (o : WorkloadId → StopOutcomes) : Step (List WorkloadId) := do
  let h ← Exec.get
  h.state.rows.foldlM (fun stopped r => do
    if r.2.runtime = .vm ∧ r.2.Expired now then
      match ← (stop r.1 (o r.1)).attempt with
      | .ok () => pure (stopped ++ [r.1])
      | .error _ => pure stopped
    else
      pure stopped) []

inductive Call where
  | deploy (d : Deployment) (o : DeployOutcomes)
  | stop (w : WorkloadId) (o : StopOutcomes)
  | recover (o : WorkloadId → RecoverOutcomes)
  | enforceLeaseExpiry (now : Int) (o : WorkloadId → StopOutcomes)
  | write (w : WorkloadId) (contents : List UInt8)
  | powerOff (w : WorkloadId)

def Host.guestWrite (h : Host) (w : WorkloadId) (contents : List UInt8) : Host :=
  match h.machines w with
  | some ⟨true, disk⟩ => h.writeFile disk contents
  | _ => h

def step (sha256 : List UInt8 → BitVec 256) (maxVmWorkloads : Nat) (h : Host) : Call → Host
  | .deploy d o => (deploy sha256 maxVmWorkloads d o h).2
  | .stop w o => (stop w o h).2
  | .recover o => (recover o h).2
  | .enforceLeaseExpiry now o => (enforceLeaseExpiry now o h).2
  | .write w contents => h.guestWrite w contents
  | .powerOff w => h.powerOff w

end OpenInfra.Agent.Vm
