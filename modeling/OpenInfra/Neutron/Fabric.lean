import OpenInfra.ControlPlane.Dispatch
import OpenInfra.ControlPlane.Peers

namespace OpenInfra.Neutron
open Frame
open ControlPlane (Uuid Time System Worker Workload Request Reply Task)

structure Port where
  portID : Uuid
  networkID : Uuid
  subnetID : Uuid
  projectID : Uuid
  fixedIP : String
  workloadID : Option Uuid
  deleted : Bool
  deriving DecidableEq

inductive PortError where
  | portNotFound
  | portBound
  | portAlreadyBound
  | workloadAlreadyHasPort
  | workloadNotOwned
  | subnetPoolExhausted
  | database
  deriving DecidableEq

def PortError.message : PortError → String
  | .portNotFound => "port not found"
  | .portBound => "port is still bound to a workload"
  | .portAlreadyBound => "port is already bound to a workload"
  | .workloadAlreadyHasPort => "workload is already bound to a different port"
  | .workloadNotOwned => "device_id does not name a workload owned by this project"
  | .subnetPoolExhausted => "subnet has no available addresses"
  | .database => "port update unavailable"

def ipString (ip : Nat) : String :=
  toString (ip / 256 ^ 3 % 256) ++ "." ++ toString (ip / 256 ^ 2 % 256) ++ "." ++
    toString (ip / 256 % 256) ++ "." ++ toString (ip % 256)

structure Cidr where
  network : Nat
  prefixLength : Nat

def Cidr.size (cidr : Cidr) : Nat := 2 ^ (32 - cidr.prefixLength)

/-- The lowest address that is free and not reserved. -/
def allocateFromPool (cidr : Cidr) (gatewayIP : Option String) (taken : List String) :
    Except PortError String :=
  okOr (((List.range' (cidr.network + 1) (cidr.size - 2)).map ipString).find? fun candidate =>
    some candidate ≠ gatewayIP ∧ candidate ∉ taken) .subnetPoolExhausted

abbrev Ports := List Port

namespace Ports
variable (ports : Ports)

def live : Ports := ports.filter fun p => ¬ p.deleted

theorem mem_live {ports : Ports} : p ∈ ports.live ↔ p ∈ ports ∧ p.deleted = false := by
  unfold live
  rw [List.mem_filter, decide_eq_true_iff, Bool.not_eq_true]

def getPort (portID projectID : Uuid) : Option Port :=
  ports.live.find? fun p => p.portID = portID ∧ p.projectID = projectID

/-- Chosen from what was read; indexes are checked at the insert. -/
def createPort (portID networkID subnetID projectID : Uuid) (cidr : Cidr)
    (gatewayIP : Option String) (taken : List String) : Except PortError Ports := do
  let fixedIP ← allocateFromPool cidr gatewayIP taken
  ensure (ports.all fun p => p.portID ≠ portID) .database
  ensure (ports.live.all fun p => ¬ (p.subnetID = subnetID ∧ p.fixedIP = fixedIP)) .database
  .ok (ports ++ [⟨portID, networkID, subnetID, projectID, fixedIP, none, false⟩])

def put (port : Port) : Ports := ports.map fun p => if p.portID = port.portID then port else p

def bindPort (portID projectID workloadID : Uuid) : Except PortError Ports := do
  let port ← okOr (ports.getPort portID projectID) .portNotFound
  ensure (port.workloadID = none ∨ port.workloadID = some workloadID) .portAlreadyBound
  ensure (ports.live.all fun p => p.workloadID = some workloadID → p.portID = portID)
    .workloadAlreadyHasPort
  .ok (ports.put { port with workloadID := some workloadID })

def unbindPort (portID projectID : Uuid) : Except PortError Ports := do
  let port ← okOr (ports.getPort portID projectID) .portNotFound
  .ok (ports.put { port with workloadID := none })

def deletePort (portID projectID : Uuid) : Except PortError Ports := do
  let port ← okOr (ports.getPort portID projectID) .portNotFound
  ensure (port.workloadID = none) .portBound
  .ok (ports.put { port with deleted := true })

def portForWorkload (workloadID : Uuid) : Option Port :=
  ports.live.find? fun p => p.workloadID = some workloadID

end Ports

structure Env extends ControlPlane.Env where
  rules : Except ControlPlane.Text (List Agent.SecurityGroupRule)

/-- Which port each task and each peer was given. -/
structure Fabric where
  system : System
  ports : Ports
  told : Nat → Option Port
  origin : Uuid → Option Port

inductive Event where
  | plane (e : ControlPlane.Event)
  | proceed (task : Nat) (env : Env)
  | createPort (portID networkID subnetID projectID : Uuid) (cidr : Cidr)
      (gatewayIP : Option String) (taken : List String)
  | bindPort (portID projectID workloadID : Uuid)
  | unbindPort (portID projectID : Uuid)
  | deletePort (portID projectID : Uuid)

namespace Fabric
variable (worker : Worker) (s : Fabric)

def request (i : Nat) : Option Request :=
  match s.system.tasks[i]? with
  | some (_, .call q _) => some q
  | _ => none

def resolveForWorkload (workloadID : Uuid) (env : Env) :
    Except ControlPlane.Text (Option ControlPlane.PortSecurity) :=
  match s.ports.portForWorkload workloadID with
  | none => env.port.map fun _ => none
  | some port => env.rules.map fun rules => some ⟨rules, port.fixedIP⟩

def surroundings (i : Nat) (env : Env) : ControlPlane.Env :=
  match s.request i with
  | some (.resolveForWorkload workloadID) =>
    { env.toEnv with port := s.resolveForWorkload workloadID env }
  | _ => env.toEnv

def toldAfter (i : Nat) (env : Env) : Option Port :=
  match s.request i with
  | some (.resolveForWorkload workloadID) =>
    match s.resolveForWorkload workloadID env with
    | .ok _ => s.ports.portForWorkload workloadID
    | .error _ => s.told i
  | _ => s.told i

/-- A peer that was there already keeps its own origin. -/
def originAfter (i : Nat) (after : System) (workloadID : Uuid) : Option Port :=
  if (s.system.overlay.peers.lookup workloadID).isNone ∧
      (after.overlay.peers.lookup workloadID).isSome then s.told i
  else s.origin workloadID

def proceed (i : Nat) (env : Env) : Fabric :=
  let after := s.system.proceed worker i (s.surroundings i env)
  { s with
    system := after
    told := Function.update s.told i (s.toldAfter i env)
    origin := s.originAfter i after }

def update (x : Except PortError Ports) : Fabric :=
  match x with
  | .ok ports => { s with ports := ports }
  | .error _ => s

def owns (projectID workloadID : Uuid) : Bool :=
  (s.system.store.row workloadID).any fun r => r.projectID = some projectID

def ofWorker : ControlPlane.Event → Bool
  | .proceed .. => true
  | _ => false

def step (worker : Worker) (s : Fabric) : Event → Fabric
  | .plane e => if ofWorker e then s else { s with system := s.system.step worker e }
  | .proceed i env => s.proceed worker i env
  | .createPort portID networkID subnetID projectID cidr gatewayIP taken =>
    s.update (s.ports.createPort portID networkID subnetID projectID cidr gatewayIP taken)
  | .bindPort portID projectID workloadID =>
    s.update (if s.owns projectID workloadID then s.ports.bindPort portID projectID workloadID
      else .error .workloadNotOwned)
  | .unbindPort portID projectID => s.update (s.ports.unbindPort portID projectID)
  | .deletePort portID projectID => s.update (s.ports.deletePort portID projectID)

def init (leases : ControlPlane.Leases) (firstPort lastPort : Nat) : Fabric :=
  ⟨.init leases firstPort lastPort, [], fun _ => none, fun _ => none⟩

end Fabric

end OpenInfra.Neutron
