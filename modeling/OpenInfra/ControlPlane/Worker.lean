import OpenInfra.Agent.LocalState
import OpenInfra.ControlPlane.Backoff
import OpenInfra.ControlPlane.Registrar
import OpenInfra.ControlPlane.Rows
import OpenInfra.Frame.Program

namespace OpenInfra.ControlPlane
open Frame

/-- A public key that is not 32 bytes long is none. -/
structure SchedulableProvider where
  providerID : String
  publicKey : Option (BitVec 256)
  agentEndpoint : String

structure Definition where
  cpuMillicores : Nat
  ramMB : Nat
  egressMbps : Option Nat
  durationSeconds : Nat
  requiresVm : Bool

structure Volume where
  volumeID : String
  mountPath : String
  readOnly : Bool

structure PortSecurity where
  rules : List Agent.SecurityGroupRule
  fixedIP : String

structure VmSpec where
  vmImageUrl : String
  vmImageSha256 : String

structure DeployRequest where
  workloadID : Uuid
  leaseID : Option Nat
  image : String
  vm : Option VmSpec
  cpuMillicores : Nat
  memoryMB : Nat
  egressMbps : Nat
  leaseEnd : Time
  volumes : List Volume
  securityContext : Option (List Agent.SecurityGroupRule)

inductive Request where
  | now
  | listSchedulableProviders
  | rank (definition : Definition) (providers : List SchedulableProvider)
  | ensureLeaseActive (leaseID : LeaseId) (provider resourceHash : BitVec 256) (duration : Nat)
  | ensureLeaseCompleted (leaseID : LeaseId)
  | getRunningWorkload (provider : SchedulableProvider) (workloadID : Uuid)
  | listAttachedForWorkload (workloadID : Uuid)
  | resolveForWorkload (workloadID : Uuid)
  | deployAndConfirm (provider : SchedulableProvider) (request : DeployRequest)
  | stopAndConfirm (provider : SchedulableProvider) (workloadID : Uuid)
  | attach (request : OverlayRequest)
  | revoke (workloadID : Uuid)
  | work (op : WorkerOp)

@[reducible] def Reply : Request → Type
  | .now => Time
  | .listSchedulableProviders => Except Text (List SchedulableProvider)
  | .rank .. => Except Text (String × Resources)
  | .ensureLeaseActive .. => Except Text Unit
  | .ensureLeaseCompleted _ => Except Text Unit
  | .getRunningWorkload .. => Except Text Bool
  | .listAttachedForWorkload _ => Except Text (List Volume)
  | .resolveForWorkload _ => Except Text (Option PortSecurity)
  | .deployAndConfirm .. => Except Text String
  | .stopAndConfirm .. => Except Text Unit
  | .attach _ => Except Text Unit
  | .revoke _ => Except Text Unit
  | .work _ => Except StoreError Unit

abbrev Call := ExceptT Text (Program Request Reply)

namespace Call

def now : Program Request Reply Time := .ask Request.now

def listSchedulableProviders : Call (List SchedulableProvider) :=
  .mk (.ask Request.listSchedulableProviders)

def rank (definition : Definition) (providers : List SchedulableProvider) :
    Call (String × Resources) := .mk (.ask (Request.rank definition providers))

def ensureLeaseActive (leaseID : LeaseId) (provider resourceHash : BitVec 256) (duration : Nat) :
    Call Unit := .mk (.ask (Request.ensureLeaseActive leaseID provider resourceHash duration))

def ensureLeaseCompleted (leaseID : LeaseId) : Call Unit :=
  .mk (.ask (Request.ensureLeaseCompleted leaseID))

def getRunningWorkload (provider : SchedulableProvider) (workloadID : Uuid) : Call Bool :=
  .mk (.ask (Request.getRunningWorkload provider workloadID))

def listAttachedForWorkload (workloadID : Uuid) : Call (List Volume) :=
  .mk (.ask (Request.listAttachedForWorkload workloadID))

def resolveForWorkload (workloadID : Uuid) : Call (Option PortSecurity) :=
  .mk (.ask (Request.resolveForWorkload workloadID))

def deployAndConfirm (provider : SchedulableProvider) (request : DeployRequest) : Call String :=
  .mk (.ask (Request.deployAndConfirm provider request))

def stopAndConfirm (provider : SchedulableProvider) (workloadID : Uuid) : Call Unit :=
  .mk (.ask (Request.stopAndConfirm provider workloadID))

def attach (request : OverlayRequest) : Call Unit := .mk (.ask (Request.attach request))

def revoke (workloadID : Uuid) : Call Unit := .mk (.ask (Request.revoke workloadID))

def work (op : WorkerOp) : Program Request Reply (Except StoreError Unit) := .ask (Request.work op)

end Call

inductive WorkerError where
  | store (error : StoreError)
  | message (message : Text)

abbrev Task := Program Request Reply (Except WorkerError Unit)

structure RetryPolicy where
  maxAttempts : Nat
  baseBackoff : Nat
  maxBackoff : Nat
  maxAttempts_pos : 0 < maxAttempts

def defaultRetryPolicy : RetryPolicy := ⟨10, 5, 600, by decide⟩

/-- What a worker is wired to, and what it takes from libraries. -/
structure Worker where
  account : BitVec 256
  sha256 : ByteArray → BitVec 256
  decodeDefinition : ByteArray → Except Text Definition
  overlay : Bool
  reconciler : Bool
  volumes : Bool
  securityGroups : Bool
  blockTime : Nat
  retryPolicy : RetryPolicy

namespace Worker
variable (w : Worker) (item : Workload)

def canonicalResourceHash (definition : ByteArray) (image : String) : BitVec 256 :=
  w.sha256 (text "openinfra-resource-v1" ++ ⟨#[0]⟩ ++ definition ++ ⟨#[0]⟩ ++ text image)

def backoffFor (attempt : Nat) : Nat :=
  Backoff.doubled w.retryPolicy.maxBackoff (min (attempt - 1) 16) w.retryPolicy.baseBackoff

def write (op : WorkerOp) (result : Except WorkerError Unit) : Task := do
  match ← Call.work op with
  | .error e => pure (.error (.store e))
  | .ok () => pure result

def givingUp (attempt : Nat) (code : ErrorCode) (cause : Text) : Text :=
  text ("giving up after " ++ toString attempt ++ " attempts (" ++ code.text ++ "): ") ++ cause

def retry (code : ErrorCode) (cause : Text) : Task :=
  let attempt := item.attemptCount + 1
  if w.retryPolicy.maxAttempts ≤ attempt then
    let terminal := givingUp attempt code cause
    write (.markFailed code terminal) (.error (.message terminal))
  else
    write (.retryLater code cause (w.backoffFor attempt)) (.error (.message cause))

def orRetry (code : ErrorCode) (x : Call A) (k : A → Task) : Task := do
  match ← x.run with
  | .error cause => w.retry item code cause
  | .ok a => k a

def orReturn (x : Except Text A) (k : A → Task) : Task :=
  match x with
  | .error e => pure (.error (.message e))
  | .ok a => k a

def whenSet (set : Bool) (default : A) (x : Call A) : Call A := if set then x else pure default

def provider (id : Option String) : Call SchedulableProvider := do
  let providers ← Call.listSchedulableProviders
  ExceptT.mk (pure (okOr (providers.find? fun p => p.providerID = id.getD "")
    (text "selected provider is no longer active with a fresh heartbeat")))

def providerKey (id : Option String) : Call (BitVec 256) := do
  let p ← provider id
  ExceptT.mk (pure (okOr p.publicKey (text "provider public key is invalid")))

def parseLeaseID : Except Text LeaseId :=
  okOr item.leaseID (text "strconv.ParseUint: parsing \"\": invalid syntax")

def schedule : Task :=
  w.orRetry item .invalidDefinition (.mk (pure (w.decodeDefinition item.definition)))
    fun definition =>
  w.orRetry item .directoryUnavailable Call.listSchedulableProviders fun providers =>
  w.orRetry item .noCapacity (Call.rank definition providers) fun selected => do
    let hash := w.canonicalResourceHash item.definition item.image
    match ← Call.work (.assignLease selected.1 hash selected.2 false) with
    | .ok () => pure (.ok ())
    | .error .capacityExceeded =>
      w.retry item .noCapacity (text StoreError.capacityExceeded.message)
    | .error .conflict => w.retry item .noCapacity (text StoreError.conflict.message)
    | .error e => pure (.error (.store e))

def lease : Task :=
  orReturn ((parseLeaseID item).mapError (text "parse persisted lease id: " ++ ·)) fun leaseID =>
  w.orRetry item .providerUnavailable (providerKey item.providerID) fun key =>
  orReturn (w.decodeDefinition item.definition) fun definition =>
  let duration := (definition.durationSeconds + w.blockTime - 1) / w.blockTime % 2 ^ 32
  w.orRetry item .leaseNotFinalized
    (Call.ensureLeaseActive leaseID key (item.resourceHash.getD 0) duration) fun _ =>
  write (.markLeased leaseID) (.ok ())

def deployRequest (definition : Definition) (leaseEnd : Time) (volumes : List Volume)
    (port : Option PortSecurity) : DeployRequest where
  workloadID := item.workloadID
  leaseID := item.leaseID
  image := if definition.requiresVm then "" else item.image
  vm := if definition.requiresVm then some ⟨item.image, item.vmImageSha256⟩ else none
  cpuMillicores := definition.cpuMillicores
  memoryMB := definition.ramMB
  egressMbps := definition.egressMbps.getD 0
  leaseEnd := leaseEnd
  volumes := volumes
  securityContext := port.map (·.rules)

def overlayRequest (containerID : String) (expiresAt : Time) (port : Option PortSecurity) :
    OverlayRequest where
  workloadID := item.workloadID
  leaseID := item.leaseID
  containerID := containerID
  expiresAt := expiresAt
  allowedIPs := ((port.map (·.fixedIP)).filter (· ≠ "")).elim [] fun ip => [ip ++ "/32"]

/-- If that fails the agent is asked to stop the workload. -/
def attachOverlay (p : SchedulableProvider) (request : OverlayRequest) (k : Task) : Task :=
  if w.overlay then do
    match ← (Call.attach request).run with
    | .ok () => k
    | .error cause =>
      let _ ← (Call.stopAndConfirm p item.workloadID).run
      w.retry item .overlayAttachFailed cause
  else k

def deploy : Task :=
  w.orRetry item .providerUnavailable (provider item.providerID) fun p =>
  orReturn (w.decodeDefinition item.definition) fun definition =>
  w.orRetry item .agentStatusUnknown (whenSet (w.reconciler && decide (0 < item.attemptCount)) false
    (Call.getRunningWorkload p item.workloadID)) fun _ => do
  let now ← Call.now
  let leaseEnd := now + definition.durationSeconds
  w.orRetry item .volumeLookupFailed (whenSet w.volumes []
    (Call.listAttachedForWorkload item.workloadID)) fun volumes =>
  w.orRetry item .securityGroupLookupFailed (whenSet w.securityGroups none
    (Call.resolveForWorkload item.workloadID)) fun port =>
  let request := deployRequest item definition leaseEnd volumes port
  w.orRetry item .agentDeployFailed (Call.deployAndConfirm p request) fun containerID =>
  attachOverlay w item p (overlayRequest item containerID leaseEnd port)
    (write (.markRunning containerID) (.ok ()))

def stop : Task :=
  orReturn (parseLeaseID item) fun leaseID =>
  w.orRetry item .providerUnavailable (provider item.providerID) fun p =>
  w.orRetry item .agentStopFailed (Call.stopAndConfirm p item.workloadID) fun _ =>
  w.orRetry item .overlayRevokeFailed
    (whenSet w.overlay () (Call.revoke item.workloadID)) fun _ =>
  w.orRetry item .leaseCompletionNotFinalized (Call.ensureLeaseCompleted leaseID) fun _ =>
  write (.markStopped leaseID) (.ok ())

def processOne : Task :=
  match item.state with
  | .requested => write .beginScheduling (.ok ())
  | .scheduling => w.schedule item
  | .leasePending => w.lease item
  | .leased => orReturn (parseLeaseID item) fun leaseID => write (.markDeploying leaseID) (.ok ())
  | .deploying => w.deploy item
  | .stopping => w.stop item
  | _ => pure (.ok ())

end Worker

def Quiet (P : Protocol Request Reply) (q : Request) : Prop :=
  ∀ c, P.allows c q ∧ ∀ r, P.next c q r = c

section
variable {P : Protocol Request Reply} {c : P.State} {Q : P.State → Except WorkerError Unit → Prop}
  {w : Worker} {item : Workload}

theorem Quiet.ask (h : Quiet P q) :
    Program.Follows P (fun c' _ => c' = c) c (Program.ask q : Program Request Reply (Reply q)) :=
  .ask (h c).1 fun r _ => (h c).2 r

section
variable (h : Quiet P .listSchedulableProviders)
include h

theorem Quiet.provider_found (id : Option String) :
    Program.Follows P (fun c' r => c' = c ∧ ∀ p, r = .ok p → p.providerID = id.getD "") c
      (Worker.provider id).run := by
  apply h.ask.bind
  rintro _ (e | providers) rfl
  · exact .ret ⟨rfl, nofun⟩
  · refine .ret ⟨rfl, fun p hp => ?_⟩
    have hfind := okOr_eq_ok.1 hp
    exact of_decide_eq_true
      (List.find?_some (p := fun p : SchedulableProvider => p.providerID = id.getD "") hfind)

theorem Quiet.provider (id : Option String) :
    Program.Follows P (fun c' _ => c' = c) c (Worker.provider id).run :=
  (h.provider_found id).mono fun _ _ => And.left

theorem Quiet.providerKey (id : Option String) :
    Program.Follows P (fun c' _ => c' = c) c (Worker.providerKey id).run := by
  apply (h.provider id).bind
  rintro _ (e | p) rfl
  · exact .ret rfl
  · exact .ret rfl

end

theorem follows_whenSet {x : Call A} {a : A} {R : P.State → Except Text A → Prop}
    (hx : b = true → Program.Follows P R c x.run) (ha : b = false → R c (.ok a)) :
    Program.Follows P R c (Worker.whenSet b a x).run := by
  unfold Worker.whenSet
  cases b with
  | true => exact hx rfl
  | false => exact .ret (ha rfl)

theorem follows_orRetry {x : Call A} {k : A → Task} {R : P.State → Except Text A → Prop}
    (hx : Program.Follows P R c x.run)
    (hretry : ∀ c e, R c (.error e) → Program.Follows P Q c (w.retry item code e))
    (hk : ∀ c a, R c (.ok a) → Program.Follows P Q c (k a)) :
    Program.Follows P Q c (w.orRetry item code x k) := by
  apply hx.bind
  rintro c (e | a) hr
  · exact hretry c e hr
  · exact hk c a hr

theorem follows_orReturn {x : Except Text A} {k : A → Task}
    (herr : ∀ e, x = .error e → Q c (.error (.message e)))
    (hk : ∀ a, x = .ok a → Program.Follows P Q c (k a)) :
    Program.Follows P Q c (Worker.orReturn x k) := by
  cases x with
  | error e => exact .ret (herr e rfl)
  | ok a => exact hk a rfl

theorem follows_write (h : P.allows c (.work op)) (herr : ∀ e, P.expects (.work op) (.error e) →
      Q (P.next c (.work op) (.error e)) (.error (.store e)))
    (hok : P.expects (.work op) (.ok ()) → Q (P.next c (.work op) (.ok ())) result) :
    Program.Follows P Q c (Worker.write op result) := by
  refine ⟨h, ?_⟩
  rintro (e | _) hr
  · exact herr e hr
  · exact hok hr

end

/-- A protocol that allows everything up to a lease, and every retry. -/
structure Late (P : Protocol Request Reply) : Prop where
  providers : Quiet P .listSchedulableProviders
  rank : ∀ definition providers, Quiet P (.rank definition providers)
  ensureLeaseActive : ∀ leaseID provider resourceHash duration,
    Quiet P (.ensureLeaseActive leaseID provider resourceHash duration)
  beginScheduling : Quiet P (.work .beginScheduling)
  assignLease : ∀ providerID resourceHash capacity aborted,
    Quiet P (.work (.assignLease providerID resourceHash capacity aborted))
  markLeased : ∀ leaseID, Quiet P (.work (.markLeased leaseID))
  markDeploying : ∀ leaseID, Quiet P (.work (.markDeploying leaseID))
  retryLater : ∀ code message delay, Quiet P (.work (.retryLater code message delay))
  markFailed : ∀ code message, Quiet P (.work (.markFailed code message))

namespace Late
variable {P : Protocol Request Reply} {c d : P.State} {w : Worker} {item : Workload}

theorem write (h : Quiet P (.work op)) (result : Except WorkerError Unit) :
    Program.Follows P (fun _ _ => True) c (Worker.write op result) :=
  follows_write (h c).1 (fun _ _ => trivial) fun _ => trivial

theorem retry (h : Late P) : Program.Follows P (fun _ _ => True) c (w.retry item code cause) := by
  unfold Worker.retry
  dsimp only
  split
  · exact write (h.markFailed _ _) _
  · exact write (h.retryLater _ _ _) _

theorem orRetry_to (h : Late P) {x : Call A} {k : A → Task} {R : P.State → Except Text A → Prop}
    (hx : Program.Follows P R c x.run) (hR : ∀ c' a, R c' (.ok a) → c' = d)
    (hk : ∀ a, Program.Follows P (fun _ _ => True) d (k a)) :
    Program.Follows P (fun _ _ => True) c (w.orRetry item code x k) := by
  apply follows_orRetry hx
  · intro c' e _
    exact h.retry
  · intro c' a hr
    rw [hR c' a hr]
    exact hk a

theorem orRetry (h : Late P) {x : Call A} {k : A → Task}
    (hx : Program.Follows P (fun c' _ => c' = c) c x.run)
    (hk : ∀ a, Program.Follows P (fun _ _ => True) c (k a)) :
    Program.Follows P (fun _ _ => True) c (w.orRetry item code x k) :=
  h.orRetry_to hx (fun _ _ => id) hk

theorem schedule (h : Late P) : Program.Follows P (fun _ _ => True) c (w.schedule item) := by
  refine h.orRetry (.ret rfl) fun definition => ?_
  refine h.orRetry h.providers.ask fun providers => ?_
  refine h.orRetry (h.rank _ _).ask fun selected => ?_
  have hassign := h.assignLease selected.1 (w.canonicalResourceHash item.definition item.image)
    selected.2 false
  refine ⟨(hassign c).1, ?_⟩
  rintro (e | _) _
  · cases e with
    | capacityExceeded => exact h.retry
    | conflict => exact h.retry
    | _ => exact .ret trivial
  · exact .ret trivial

theorem lease (h : Late P) : Program.Follows P (fun _ _ => True) c (w.lease item) := by
  refine follows_orReturn (fun _ _ => trivial) fun leaseID _ => ?_
  refine h.orRetry (h.providers.providerKey _) fun key => ?_
  refine follows_orReturn (fun _ _ => trivial) fun definition _ => ?_
  refine h.orRetry (h.ensureLeaseActive _ _ _ _).ask fun _ => ?_
  exact write (h.markLeased leaseID) _

theorem processOne (h : Late P) (hdeploy : item.state = .deploying →
      Program.Follows P (fun _ _ => True) c (w.deploy item))
    (hstop : item.state = .stopping → Program.Follows P (fun _ _ => True) c (w.stop item)) :
    Program.Follows P (fun _ _ => True) c (w.processOne item) := by
  unfold Worker.processOne
  split
  · exact write h.beginScheduling _
  · exact h.schedule
  · exact h.lease
  · exact follows_orReturn (fun _ _ => trivial) fun leaseID _ => write (h.markDeploying leaseID) _
  · exact hdeploy ‹_›
  · exact hstop ‹_›
  · exact .ret trivial

end Late

end OpenInfra.ControlPlane
