import OpenInfra.Frame.Transactions
import OpenInfra.Frame.Workers
import OpenInfra.Neutron.Fabric

namespace OpenInfra.Neutron
open Frame
open ControlPlane (Uuid)

deriving instance DecidableEq for Cidr

namespace Cidr

def contains (cidr : Cidr) (ip : Nat) : Bool := cidr.network ≤ ip ∧ ip < cidr.network + cidr.size

def overlaps (a b : Cidr) : Bool := a.contains b.network ∨ b.contains a.network

end Cidr

structure Network where
  networkID : Uuid
  projectID : Uuid
  name : String
  shared : Bool
  deleted : Bool
  deriving DecidableEq

structure Subnet where
  subnetID : Uuid
  networkID : Uuid
  projectID : Uuid
  cidr : Cidr
  gatewayIP : Option String
  deleted : Bool
  deriving DecidableEq

inductive NetworkError where
  | subnetNotFound
  | subnetHasPorts
  | subnetOverlapsReservedRange
  | subnetCIDRInUse
  | invalidCIDR
  | notIPv4
  | invalidGateway
  | uniqueViolation
  | database
  deriving DecidableEq

inductive Write where
  | insert (subnet : Subnet)
  | delete (subnetID : Uuid)
  deriving DecidableEq

structure Tables where
  networks : Table Network.networkID
  subnets : Table Subnet.subnetID
  ports : Ports

namespace Tables

/-- A row is deleted by setting `deleted_at`. -/
def apply (t : Tables) : Write → Tables
  | .insert s => { t with subnets := t.subnets.put { s with deleted := false } }
  | .delete id =>
    match t.subnets.lookup id with
    | none => t
    | some s => { t with subnets := t.subnets.put { s with deleted := true } }

def taken (t : Tables) (s : Subnet) : Bool :=
  (t.subnets.lookup s.subnetID).isSome ∨
    t.subnets.rows.any fun r => r.deleted = false ∧ r.cidr = s.cidr

def references (t : Tables) (s : Subnet) : Bool := (t.networks.lookup s.networkID).isSome

def selectSubnet (t : Tables) (subnetID projectID : Uuid) : Option Subnet :=
  (t.subnets.lookup subnetID).filter fun s => s.projectID = projectID ∧ s.deleted = false

def selectCIDRs (t : Tables) : List Cidr :=
  (t.subnets.rows.filter fun s => s.deleted = false).map Subnet.cidr

def vacant (t : Tables) (subnetID : Uuid) : Bool :=
  t.ports.live.all fun p => p.subnetID ≠ subnetID

end Tables

/-- An `UPDATE` looks at its own row again when it has the lock. -/
inductive Statement where
  | selectSubnet (subnetID projectID : Uuid)
  | selectCIDRs
  | insert (subnet : Subnet)
  | evaluate (subnetID projectID : Uuid)
  | update (subnetID projectID : Uuid)
  | commit
  | rollback

@[reducible] def Statement.Result : Statement → Type
  | .selectSubnet .. => Option Subnet
  | .selectCIDRs => List Cidr
  | .evaluate .. | .update .. => Bool
  | .insert _ | .commit | .rollback => Unit

@[reducible] def Reply (st : Statement) : Type := Except NetworkError st.Result

abbrev Handler := Program Statement Reply

abbrev Repository := ExceptT NetworkError Handler

namespace Repository

def query (st : Statement) : Repository st.Result := ExceptT.mk (Program.ask st)

def atomically (body : Repository A) : Repository A :=
  ExceptT.mk do
    let r ← body.run
    let _ ← Program.ask .rollback
    pure r

def execDelete (subnetID projectID : Uuid) : Repository Bool :=
  atomically do
    if ← query (.evaluate subnetID projectID) then
      if ← query (.update subnetID projectID) then
        query .commit
        return true
      else
        return false
    else
      return false

def execInsert (subnet : Subnet) : Repository Unit :=
  atomically do
    query (.insert subnet)
    query .commit

def createSubnet (subnet : Subnet) : Repository Subnet := do
  let existingCIDRs ← query .selectCIDRs
  if existingCIDRs.any subnet.cidr.overlaps then
    throw .subnetCIDRInUse
  else
    ExceptT.mk do
      match ← (execInsert subnet).run with
      | .error .uniqueViolation => pure (.error .subnetCIDRInUse)
      | .error e => pure (.error e)
      | .ok () => pure (.ok subnet)

def getSubnet (subnetID projectID : Uuid) : Repository Subnet := do
  match ← query (.selectSubnet subnetID projectID) with
  | none => throw .subnetNotFound
  | some subnet => return subnet

def deleteSubnet (subnetID projectID : Uuid) : Repository Unit := do
  if ← execDelete subnetID projectID then
    return
  else
    let _ ← getSubnet subnetID projectID
    throw .subnetHasPorts

end Repository

structure Response where
  status : Nat
  message : String
  deriving DecidableEq

structure ParsedCIDR where
  ip : Nat
  network : Cidr
  ipv4 : Bool

/-- The parsers of addresses. -/
structure Library where
  parseCIDR : String → Option ParsedCIDR
  parseIP : String → Option Nat

def legacyOverlayRange : Cidr := ⟨10 * 256 ^ 3 + 254 * 256 ^ 2, 16⟩

def minSubnetPrefixLength : Nat := 16

def maxSubnetPrefixLength : Nat := 29

def validateSubnetCIDR (lib : Library) (cidr : String) (gatewayIP : Option String) :
    Except NetworkError (Cidr × Option String) := do
  let parsed ← okOr (lib.parseCIDR cidr) .invalidCIDR
  let network := parsed.network
  ensure (network.network = parsed.ip) .invalidCIDR
  ensure parsed.ipv4 .notIPv4
  ensure (minSubnetPrefixLength ≤ network.prefixLength ∧
    network.prefixLength ≤ maxSubnetPrefixLength) .invalidCIDR
  ensure (¬ network.overlaps legacyOverlayRange) .subnetOverlapsReservedRange
  match gatewayIP.filter (· ≠ "") with
  | none => .ok (network, none)
  | some gateway => do
    let parsedGateway ← okOr (lib.parseIP gateway) .invalidGateway
    ensure (network.contains parsedGateway) .invalidGateway
    .ok (network, some (ipString parsedGateway))

/-- No transaction here takes a lock. -/
abbrev Database := Transactions Tables Empty Write

namespace Database

def tables (db : Database) : Tables := db.committed

def commit (db : Database) (tx : Nat) : Database :=
  { db.release tx with committed := (db.own tx).foldl Tables.apply db.tables }

/-- What a statement does over a connection that holds. -/
def perform (db : Database) (tx : Nat) :
    (st : Statement) → Except NetworkError (st.Result × Database)
  | .selectSubnet subnetID projectID => .ok (db.tables.selectSubnet subnetID projectID, db)
  | .selectCIDRs => .ok (db.tables.selectCIDRs, db)
  | .insert subnet =>
    if db.tables.taken subnet then .error .uniqueViolation
    else if db.tables.references subnet then .ok ((), db.draft tx (.insert subnet))
    else .error .database
  | .evaluate subnetID projectID =>
    .ok ((db.tables.selectSubnet subnetID projectID).isSome && db.tables.vacant subnetID, db)
  | .update subnetID projectID =>
    if (db.tables.selectSubnet subnetID projectID).isSome then
      .ok (true, db.draft tx (.delete subnetID))
    else .ok (false, db)
  | .commit => .ok ((), db.commit tx)
  | .rollback => .ok ((), db.release tx)

def answer (link : Link) : Answers Database Nat Statement Reply
  | db, tx, .rollback => (.ok (), db.release tx)
  | db, tx, st => link.deliver db .database (db.perform tx st)

end Database

end OpenInfra.Neutron
