import OpenInfra.OpenStack.Projects

namespace OpenInfra.Nova
open Frame
open ControlPlane (Uuid Time Workload WorkloadState ErrorCode)

structure ServerMeta where
  name : String
  flavorID : String
  metadata : List (String × String)

structure VolumeRecord extends OpenStack.Volume where
  encrypted : Bool
  createdAt : Time

structure Database where
  workloads : Table Workload.workloadID
  servers : Uuid → Option ServerMeta
  volumes : Table fun v : VolumeRecord => v.volumeID

/-- A text may be an id to `uuid.Parse` and not to the database. -/
structure Library where
  uuidParse : String → Bool
  readUuid : String → Option Uuid
  uuidText : Uuid → String
  rfc3339 : Time → String

structure Env where
  available : Bool
  metadataAvailable : Uuid → Bool

structure Identity where
  projectID : Option Uuid

structure FaultBody where
  code : Nat
  message : String
  deriving DecidableEq

structure ServerSummary where
  id : String
  name : String
  links : List (String × String)
  deriving DecidableEq

structure ServerDetail where
  id : String
  name : String
  status : String
  created : String
  updated : String
  flavor : String
  image : String
  metadata : List (String × String)
  links : List (String × String)
  fault : Option FaultBody
  deriving DecidableEq

structure Attachment where
  id : String
  volumeID : String
  serverID : String
  device : String
  attachedAt : String
  deriving DecidableEq

structure VolumeBody where
  id : String
  name : String
  size : Nat
  status : String
  bootable : String
  encrypted : Bool
  multiattach : Bool
  attachments : List Attachment
  createdAt : String
  deriving DecidableEq

structure Allocation where
  vcpu : Int64
  memoryMB : Int64
  diskGB : Int64
  deriving DecidableEq

inductive Body where
  | fault (faultName : String) (fault : FaultBody)
  | servers (servers : List ServerSummary)
  | serversDetail (servers : List ServerDetail)
  | server (server : ServerDetail)
  | metadata (metadata : List (String × String))
  | allocations (allocations : List (String × Allocation)) (projectID : Option String)
  | volume (volume : VolumeBody)
  deriving DecidableEq

structure Response where
  status : Nat
  body : Body
  deriving DecidableEq

def writeError (status : Nat) (faultName message : String) : Response :=
  ⟨status, .fault faultName ⟨status, message⟩⟩

def selfLinks (lib : Library) (collection id : String) (projectID : Uuid) :
    List (String × String) :=
  [("self", "/v2.1/" ++ lib.uuidText projectID ++ "/" ++ collection ++ "/" ++ id)]

def novaStatus : WorkloadState → String
  | .requested | .scheduling | .leasePending | .leased | .deploying => "BUILD"
  | .running => "ACTIVE"
  | .stopping | .stopped | .completed => "SHUTOFF"
  | .failed => "ERROR"

def cinderStatus : OpenStack.VolumeState → String
  | .available => "available"
  | .inUse => "in-use"
  | .deleting => "deleting"

namespace Database

def getByProject (d : Database) (workloadID projectID : Uuid) : Option Workload :=
  (d.workloads.lookup workloadID).filter fun w => w.projectID = some projectID

def listByProject (d : Database) (projectID : Uuid) : List Workload :=
  (d.workloads.rows.filter fun w => w.projectID = some projectID).insertionSort
    fun a b => b.createdAt ≤ a.createdAt

def metaFor (d : Database) (env : Env) (workloadID : Uuid) : Option ServerMeta :=
  if env.metadataAvailable workloadID then d.servers workloadID else none

def getVolume (d : Database) (volumeID projectID : Uuid) : Option VolumeRecord :=
  (d.volumes.lookup volumeID).filter fun v => v.projectID = projectID ∧ v.deleted = false

end Database

inductive Request where
  | listServers (projectID : String)
  | listServersDetail (projectID : String)
  | showServer (projectID serverID : String)
  | serverMetadata (projectID serverID : String)
  | allocationsForConsumer (consumerID : String)
  | getVolume (projectID volumeID : String)

section
variable (lib : Library) (env : Env) (identity : Identity) (d : Database)

def requireProjectScope (pathProjectID : String) (next : Uuid → Response) : Response :=
  match identity.projectID with
  | none =>
    writeError 403 "forbidden" "A project-scoped token is required to perform this operation."
  | some projectID =>
    if lib.uuidText projectID ≠ pathProjectID then
      writeError 403 "forbidden"
        "You are not authorized to perform the requested action on this project."
    else next projectID

def summaryBody (projectID : Uuid) (w : Workload) : ServerSummary :=
  let id := lib.uuidText w.workloadID
  ⟨id, (d.metaFor env w.workloadID).elim id ServerMeta.name,
    selfLinks lib "servers" id projectID⟩

def detailBody (projectID : Uuid) (w : Workload) : ServerDetail :=
  let id := lib.uuidText w.workloadID
  let found := (d.metaFor env w.workloadID).getD ⟨id, "", []⟩
  { id := id
    name := found.name
    status := novaStatus w.state
    created := lib.rfc3339 w.createdAt
    updated := lib.rfc3339 w.updatedAt
    flavor := found.flavorID
    image := w.image
    metadata := found.metadata
    links := selfLinks lib "servers" id projectID
    fault := if w.state = .failed then w.errorCode.map fun e => ⟨500, e.text⟩ else none }

def listServers (pathProjectID : String) : Response :=
  requireProjectScope lib identity pathProjectID fun projectID =>
    if env.available then
      ⟨200, .servers ((d.listByProject projectID).map (summaryBody lib env d projectID))⟩
    else writeError 503 "computeFault" "server list unavailable"

def listServersDetail (pathProjectID : String) : Response :=
  requireProjectScope lib identity pathProjectID fun projectID =>
    if env.available then
      ⟨200, .serversDetail ((d.listByProject projectID).map (detailBody lib env d projectID))⟩
    else writeError 503 "computeFault" "server list unavailable"

def lookup (serverID : String) (projectID : Uuid) : Except Unit (Option Workload) :=
  match lib.readUuid serverID with
  | none => .error ()
  | some id => if env.available then .ok (d.getByProject id projectID) else .error ()

def showServer (pathProjectID serverID : String) : Response :=
  requireProjectScope lib identity pathProjectID fun projectID =>
    match lookup lib env d serverID projectID with
    | .ok none => writeError 404 "itemNotFound" "Instance could not be found."
    | .error () => writeError 503 "computeFault" "server lookup unavailable"
    | .ok (some w) => ⟨200, .server (detailBody lib env d projectID w)⟩

def serverMetadata (pathProjectID serverID : String) : Response :=
  requireProjectScope lib identity pathProjectID fun projectID =>
    match lookup lib env d serverID projectID with
    | .ok (some w) =>
      ⟨200, .metadata ((d.metaFor env w.workloadID).elim [] ServerMeta.metadata)⟩
    | _ => writeError 404 "itemNotFound" "Instance could not be found."

def allocationsOf (w : Workload) : List (String × Allocation) :=
  let providerID := w.providerID.getD ""
  if providerID ≠ "" then
    [(providerID,
      ⟨(w.reserved.cpuMillicores + 999) / 1000, w.reserved.ramMB, w.reserved.storageGB⟩)]
  else []

def allocationsBody : Option Workload → Response
  | none => ⟨200, .allocations [] none⟩
  | some w =>
    if w.projectID = none ∨ identity.projectID ≠ w.projectID then
      writeError 403 "forbidden"
        "You are not authorized to perform the requested action on this project."
    else ⟨200, .allocations (allocationsOf w) (w.projectID.map lib.uuidText)⟩

/-- The project is compared after the lookup by id. -/
def allocationsForConsumer (consumerID : String) : Response :=
  match lib.readUuid consumerID with
  | none => writeError 503 "computeFault" "allocation lookup unavailable"
  | some id =>
    if env.available then allocationsBody lib identity (d.workloads.lookup id)
    else writeError 503 "computeFault" "allocation lookup unavailable"

def volumeBody (v : VolumeRecord) : VolumeBody where
  id := lib.uuidText v.volumeID
  name := v.name
  size := v.sizeGB
  status := cinderStatus v.state
  bootable := "false"
  encrypted := v.encrypted
  multiattach := false
  attachments := v.attachedWorkloadID.toList.map fun w =>
    { id := lib.uuidText v.volumeID
      volumeID := lib.uuidText v.volumeID
      serverID := lib.uuidText w
      device := v.mountPath.getD ""
      attachedAt := lib.rfc3339 v.createdAt }
  createdAt := lib.rfc3339 v.createdAt

def getVolume (pathProjectID volumeID : String) : Response :=
  requireProjectScope lib identity pathProjectID fun projectID =>
    let missing :=
      writeError 404 "itemNotFound" ("Volume " ++ volumeID ++ " could not be found.")
    let failed := writeError 503 "volumeFault" "volume lookup unavailable"
    if lib.uuidParse volumeID then
      match lib.readUuid volumeID with
      | none => failed
      | some id =>
        if env.available then
          (d.getVolume id projectID).elim missing fun v => ⟨200, .volume (volumeBody lib v)⟩
        else failed
    else missing

def respond : Request → Response
  | .listServers projectID => listServers lib env identity d projectID
  | .listServersDetail projectID => listServersDetail lib env identity d projectID
  | .showServer projectID serverID => showServer lib env identity d projectID serverID
  | .serverMetadata projectID serverID => serverMetadata lib env identity d projectID serverID
  | .allocationsForConsumer consumerID => allocationsForConsumer lib env identity d consumerID
  | .getVolume projectID volumeID => getVolume lib env identity d projectID volumeID

end

/-- The two databases are the same as far as project `p` goes. -/
structure Agree (p : Uuid) (d d' : Database) : Prop where
  workloads : d.workloads.restrict (fun w => w.projectID = some p) =
    d'.workloads.restrict fun w => w.projectID = some p
  servers : ∀ w ∈ d.workloads.rows, w.projectID = some p →
    d.servers w.workloadID = d'.servers w.workloadID
  volumes : d.volumes.restrict (fun v => v.projectID = p) =
    d'.volumes.restrict fun v => v.projectID = p

/-- The workload asked for is in both databases or in neither. -/
def Concealed (lib : Library) (env : Env) (d d' : Database) : Request → Prop
  | .allocationsForConsumer consumerID => env.available → ∀ id ∈ lib.readUuid consumerID,
      (d.workloads.lookup id).isSome = (d'.workloads.lookup id).isSome
  | _ => True

namespace Agree
variable {lib : Library} {env : Env} {identity : Identity} {d d' : Database}

theorem getByProject (h : Agree p d d') (workloadID : Uuid) :
    d.getByProject workloadID p = d'.getByProject workloadID p := by
  unfold Database.getByProject
  rw [← Table.lookup_restrict, h.workloads, Table.lookup_restrict]

theorem listByProject (h : Agree p d d') : d.listByProject p = d'.listByProject p :=
  congrArg (fun t => t.rows.insertionSort fun a b => b.createdAt ≤ a.createdAt) h.workloads

theorem metaFor (h : Agree p d d') (env : Env) (hw : d.getByProject workloadID p = some w) :
    d.metaFor env w.workloadID = d'.metaFor env w.workloadID := by
  obtain ⟨hlookup, hproject⟩ := Option.filter_eq_some_iff.1 hw
  unfold Database.metaFor
  rw [h.servers w (Table.lookup_eq_some.1 hlookup).1 (of_decide_eq_true hproject)]

theorem getByProject_of_mem (hw : w ∈ d.listByProject p) :
    d.getByProject w.workloadID p = some w := by
  have hmem := List.mem_filter.1 ((List.perm_insertionSort ..).mem_iff.1 hw)
  exact Option.filter_eq_some_iff.2 ⟨Table.mem_rows.1 hmem.1, hmem.2⟩

theorem getVolume (h : Agree p d d') (volumeID : Uuid) :
    d.getVolume volumeID p = d'.getVolume volumeID p := by
  have hsplit (d : Database) : d.getVolume volumeID p =
      ((d.volumes.restrict fun v => v.projectID = p).lookup volumeID).filter
        fun v => v.deleted = false := by
    rw [Table.lookup_restrict, Option.filter_filter]
    unfold Database.getVolume
    congr 1
    funext v
    rw [Bool.decide_and]
  rw [hsplit, hsplit, h.volumes]

theorem requireProjectScope (hp : identity.projectID = some p)
    (hnext : next p = next' p) (pathProjectID : String) :
    Nova.requireProjectScope lib identity pathProjectID next =
      Nova.requireProjectScope lib identity pathProjectID next' := by
  unfold Nova.requireProjectScope
  rw [hp]
  dsimp only
  rw [hnext]

theorem summaryBody (h : Agree p d d') (hw : w ∈ d.listByProject p) :
    Nova.summaryBody lib env d p w = Nova.summaryBody lib env d' p w := by
  unfold Nova.summaryBody
  rw [h.metaFor env (getByProject_of_mem hw)]

theorem detailBody (h : Agree p d d') (hw : d.getByProject workloadID p = some w) :
    Nova.detailBody lib env d p w = Nova.detailBody lib env d' p w := by
  unfold Nova.detailBody
  rw [h.metaFor env hw]

theorem lookup (h : Agree p d d') (serverID : String) :
    Nova.lookup lib env d serverID p = Nova.lookup lib env d' serverID p := by
  unfold Nova.lookup
  cases lib.readUuid serverID with
  | none => rfl
  | some id =>
    dsimp only
    rw [h.getByProject]

theorem getByProject_of_lookup (h : Nova.lookup lib env d serverID p = .ok (some w)) :
    ∃ workloadID, d.getByProject workloadID p = some w := by
  unfold Nova.lookup at h
  split at h
  · cases h
  · split at h
    · exact ⟨_, Except.ok.inj h⟩
    · cases h

theorem allocationsBody_foreign (hp : identity.projectID = some p) (hw : w.projectID ≠ some p) :
    allocationsBody lib identity (some w) = writeError 403 "forbidden"
      "You are not authorized to perform the requested action on this project." := by
  refine if_pos (.inr ?_)
  rw [hp]
  exact hw.symm

theorem allocationsBody_eq_iff (hp : identity.projectID = some p)
    (h : x.filter (fun w => w.projectID = some p) = x'.filter fun w => w.projectID = some p) :
    allocationsBody lib identity x = allocationsBody lib identity x' ↔ x.isSome = x'.isSome := by
  have hown {y y' : Option Workload} (hy : y.filter (fun w => w.projectID = some p) =
      y'.filter fun w => w.projectID = some p) (w : Workload) (hw : y = some w)
      (hproject : w.projectID = some p) : y' = some w := by
    have hsome : y.filter (fun w => w.projectID = some p) = some w :=
      Option.filter_eq_some_iff.2 ⟨hw, decide_eq_true hproject⟩
    exact (Option.filter_eq_some_iff.1 (hy ▸ hsome)).1
  cases x with
  | none =>
    cases x' with
    | none => exact iff_of_true rfl rfl
    | some w' =>
      have hforeign : w'.projectID ≠ some p := fun hw => nomatch hown h.symm w' rfl hw
      rw [allocationsBody_foreign hp hforeign]
      exact iff_of_false nofun nofun
  | some w =>
    cases x' with
    | none =>
      have hforeign : w.projectID ≠ some p := fun hw => nomatch hown h w rfl hw
      rw [allocationsBody_foreign hp hforeign]
      exact iff_of_false nofun nofun
    | some w' =>
      refine iff_of_true ?_ rfl
      by_cases hw : w.projectID = some p
      · rw [hown h w rfl hw]
      · have hw' : w'.projectID ≠ some p := by
          intro hw'
          cases hown h.symm w' rfl hw'
          exact hw hw'
        rw [allocationsBody_foreign hp hw, allocationsBody_foreign hp hw']

theorem allocationsForConsumer (h : Agree p d d') (hp : identity.projectID = some p)
    (consumerID : String) :
    Nova.allocationsForConsumer lib env identity d consumerID =
        Nova.allocationsForConsumer lib env identity d' consumerID ↔
      Concealed lib env d d' (.allocationsForConsumer consumerID) := by
  change _ ↔ (env.available → ∀ id ∈ lib.readUuid consumerID, _)
  unfold Nova.allocationsForConsumer
  cases lib.readUuid consumerID with
  | none => exact iff_of_true rfl fun _ _ => nofun
  | some id =>
    dsimp only
    split
    · rename_i havailable
      rw [allocationsBody_eq_iff hp (h.getByProject id)]
      constructor
      · rintro heq _ _ ⟨⟩
        exact heq
      · intro heq
        exact heq havailable id rfl
    · rename_i hdown
      exact iff_of_true rfl fun havailable => absurd havailable hdown

end Agree

/-- Reads depend on the own project, but for allocations. -/
theorem reads_isolated (lib : Library) (env : Env) (identity : Identity) (p : Uuid)
    (hp : identity.projectID = some p) (d d' : Database) (h : Agree p d d') (request : Request) :
    respond lib env identity d request = respond lib env identity d' request ↔
      Concealed lib env d d' request := by
  cases request with
  | listServers projectID =>
    refine iff_of_true (Agree.requireProjectScope hp ?_ projectID) trivial
    rw [← h.listByProject, List.map_congr_left fun w hw => h.summaryBody hw]
  | listServersDetail projectID =>
    refine iff_of_true (Agree.requireProjectScope hp ?_ projectID) trivial
    rw [← h.listByProject,
      List.map_congr_left fun w hw => h.detailBody (Agree.getByProject_of_mem hw)]
  | showServer projectID serverID =>
    refine iff_of_true (Agree.requireProjectScope hp ?_ projectID) trivial
    rw [← h.lookup]
    split
    · rfl
    · rfl
    · rename_i hw
      obtain ⟨workloadID, hw⟩ := Agree.getByProject_of_lookup hw
      rw [h.detailBody hw]
  | serverMetadata projectID serverID =>
    refine iff_of_true (Agree.requireProjectScope hp ?_ projectID) trivial
    rw [← h.lookup]
    split
    · rename_i hw
      obtain ⟨workloadID, hw⟩ := Agree.getByProject_of_lookup hw
      rw [h.metaFor env hw]
    · rfl
  | allocationsForConsumer consumerID => exact h.allocationsForConsumer hp consumerID
  | getVolume projectID volumeID =>
    refine iff_of_true (Agree.requireProjectScope hp ?_ projectID) trivial
    dsimp only
    split
    · split
      · rfl
      · rw [h.getVolume]
    · rfl

def sampleLibrary : Library where
  uuidParse text := (parseUuid text).isSome
  readUuid := parseUuid
  uuidText := uuidText
  rfc3339 _ := "1970-01-01T00:00:00Z"

def sampleDatabase (foreign : Bool) : Database where
  workloads :=
    let own := Table.empty.put { ControlPlane.submission 5 with projectID := some 3 }
    if foreign then own.put { ControlPlane.submission 7 with projectID := some 4 } else own
  servers _ := none
  volumes := .empty

theorem sampleDatabase_agree : Agree 3 (sampleDatabase true) (sampleDatabase false) where
  workloads := by
    unfold Table.restrict
    congr 1
  servers _ _ _ := rfl
  volumes := rfl

theorem reads_isolated_foreign_server :
    respond sampleLibrary ⟨true, fun _ => true⟩ ⟨some 3⟩ (sampleDatabase true)
        (.showServer (uuidText 3) (uuidText 7)) =
      respond sampleLibrary ⟨true, fun _ => true⟩ ⟨some 3⟩ (sampleDatabase false)
        (.showServer (uuidText 3) (uuidText 7)) :=
  (reads_isolated sampleLibrary ⟨true, fun _ => true⟩ ⟨some 3⟩ 3 rfl (sampleDatabase true)
    (sampleDatabase false) sampleDatabase_agree (.showServer (uuidText 3) (uuidText 7))).2 trivial

theorem allocations_disclose_existence :
    Agree 3 (sampleDatabase true) (sampleDatabase false) ∧
      (respond sampleLibrary ⟨true, fun _ => true⟩ ⟨some 3⟩ (sampleDatabase true)
        (.allocationsForConsumer (uuidText 7))).status = 403 ∧
      (respond sampleLibrary ⟨true, fun _ => true⟩ ⟨some 3⟩ (sampleDatabase false)
        (.allocationsForConsumer (uuidText 7))).status = 200 := by
  refine ⟨sampleDatabase_agree, ?_, ?_⟩
  · decide +kernel
  · decide +kernel

end OpenInfra.Nova
