import OpenInfra.ControlPlane.Ledger

namespace OpenInfra.OpenStack
open Frame ControlPlane

inductive VolumeState where
  | available
  | inUse
  | deleting
  deriving DecidableEq

structure Volume where
  volumeID : Uuid
  projectID : Uuid
  name : String
  sizeGB : Nat
  state : VolumeState
  providerID : Option String
  attachedWorkloadID : Option Uuid
  mountPath : Option String
  readOnly : Bool
  deleted : Bool
  deriving DecidableEq

abbrev Volumes := Table Volume.volumeID

inductive VolumeError where
  | notFound
  | notAvailable
  | providerMismatch
  | notAttached
  | workloadTaken
  deriving DecidableEq

namespace Volumes

def live (t : Volumes) (volumeID : Uuid) (cond : Volume → Bool) : Option Volume :=
  (t.lookup volumeID).filter fun v => !v.deleted && cond v

def getVolume (t : Volumes) (volumeID projectID : Uuid) : Except VolumeError Volume :=
  okOr (t.live volumeID fun v => v.projectID = projectID) .notFound

def update (t : Volumes) (volumeID : Uuid) (cond : Volume → Bool) (f : Volume → Volume)
    (e : VolumeError) : Except VolumeError Volumes :=
  match t.live volumeID cond with
  | some v => .ok (t.put (f v))
  | none => .error e

def attachVolume (t : Volumes) (volumeID projectID : Uuid) (providerID : String) (workloadID : Uuid)
    (mountPath : String) (readOnly : Bool) : Except VolumeError Volumes := do
  let e :=
    match t.getVolume volumeID projectID with
    | .error e => e
    | .ok v =>
      if v.state ≠ .available then .notAvailable
      else if v.providerID.isSome ∧ v.providerID ≠ some providerID then .providerMismatch
      else .notAvailable
  let r ← t.update volumeID
    (fun v => v.projectID = projectID ∧ v.state = .available ∧
      (v.providerID = none ∨ v.providerID = some providerID))
    (fun v => { v with
      state := .inUse, providerID := some providerID, attachedWorkloadID := some workloadID
      mountPath := some mountPath, readOnly := readOnly }) e
  ensure (∀ v ∈ t.rows, v.deleted = false → v.attachedWorkloadID ≠ some workloadID) .workloadTaken
  .ok r

def detachVolume (t : Volumes) (volumeID projectID workloadID : Uuid) :
    Except VolumeError Volumes :=
  t.update volumeID
    (fun v => v.projectID = projectID ∧ v.state = .inUse ∧ v.attachedWorkloadID = some workloadID)
    (fun v => { v with
      state := .available, attachedWorkloadID := none, mountPath := none, readOnly := false })
    (if (t.getVolume volumeID projectID).isOk then .notAttached else .notFound)

def beginDelete (t : Volumes) (volumeID projectID : Uuid) : Except VolumeError Volumes :=
  t.update volumeID (fun v => v.projectID = projectID ∧ v.state = .available)
    (fun v => { v with state := .deleting })
    (if (t.getVolume volumeID projectID).isOk then .notAvailable else .notFound)

def finishDelete (t : Volumes) (volumeID : Uuid) : Except VolumeError Volumes :=
  t.update volumeID (fun v => v.state = .deleting) (fun v => { v with deleted := true }) .notFound

def abortDelete (t : Volumes) (volumeID : Uuid) : Except VolumeError Volumes :=
  t.update volumeID (fun v => v.state = .deleting) (fun v => { v with state := .available })
    .notFound

end Volumes

structure Fault where
  status : Nat
  name : String
  message : String
  deriving DecidableEq

def badRequest (message : String) : Fault := ⟨400, "badRequest", message⟩

end OpenInfra.OpenStack
