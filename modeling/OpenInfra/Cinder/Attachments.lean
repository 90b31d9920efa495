import OpenInfra.Cinder.Server
import OpenInfra.ControlPlane.Submissions
import OpenInfra.Neutron.Rules

namespace OpenInfra.Cinder
open Frame
open Agent (Wire.VolumeAttachment)
open ControlPlane (Uuid UuidText)
open ControlPlane.Submissions (uuids)
open OpenStack (Volume VolumeError VolumeState Volumes Fault badRequest)

structure AttachRequest where
  instanceUUID : String
  mountpoint : String
  mode : String

inductive WorkloadError where
  | notFound
  | unavailable

def attachFault (volumeID : Uuid) (instanceUUID : String) : VolumeError → Fault
  | .notFound => itemNotFound volumeID
  | .notAvailable =>
    badRequest ("Volume " ++ uuidText volumeID ++ " is already attached to another instance.")
  | .providerMismatch => badRequest ("Volume " ++ uuidText volumeID ++
      " is bound to a different provider than instance " ++ instanceUUID ++ ".")
  | _ => volumeFault "volume attach unavailable"

section
variable (parseUUID : String → Bool) (ids : UuidText)

/-- The provider of the workload is what `GetByProject` has found. -/
def attachVolume (t : Volumes) (projectID volumeID : Uuid) (attach : AttachRequest)
    (workload : Except WorkloadError String) : Except Fault Volumes := do
  let instanceUUID := trimSpace attach.instanceUUID
  ensure (parseUUID instanceUUID) (badRequest "os-attach.instance_uuid must be a workload UUID")
  let mountPath := trimSpace attach.mountpoint
  ensure (¬ (mountPath = "" ∨ 255 < mountPath.utf8ByteSize))
    (badRequest "os-attach.mountpoint must be between 1 and 255 characters")
  let providerID ← workload.mapError fun
    | .notFound => badRequest ("instance " ++ instanceUUID ++ " could not be found in this project")
    | .unavailable => volumeFault "volume attach unavailable"
  ensure (providerID ≠ "")
    (badRequest ("instance " ++ instanceUUID ++ " is not yet scheduled to a provider"))
  let workloadID ← okOr (ids.parse instanceUUID) (volumeFault "volume attach unavailable")
  (t.attachVolume volumeID projectID providerID workloadID mountPath (attach.mode = "ro")).mapError
    (attachFault volumeID instanceUUID)

inductive Event where
  | createVolume (volumeID projectID : Uuid) (name : String) (sizeGB : Nat)
  | attachVolume (projectID volumeID : Uuid) (attach : AttachRequest)
      (workload : Except WorkloadError String)
  | detachVolume (volumeID projectID workloadID : Uuid)
  | beginDelete (volumeID projectID : Uuid)
  | finishDelete (volumeID : Uuid)
  | abortDelete (volumeID : Uuid)

def step (t : Volumes) : Event → Volumes
  | .createVolume volumeID projectID name sizeGB =>
    if (t.lookup volumeID).isSome then t
    else t.put ⟨volumeID, projectID, name, sizeGB, .available, none, none, none, false, false⟩
  | .attachVolume projectID volumeID attach workload =>
    commit t (attachVolume parseUUID ids t projectID volumeID attach workload)
  | .detachVolume volumeID projectID workloadID =>
    commit t (t.detachVolume volumeID projectID workloadID)
  | .beginDelete volumeID projectID => commit t (t.beginDelete volumeID projectID)
  | .finishDelete volumeID => commit t (t.finishDelete volumeID)
  | .abortDelete volumeID => commit t (t.abortDelete volumeID)

/-- The volumes that the worker puts into a `DeployRequest`. -/
def deployVolumes (t : Volumes) (workloadID : Uuid) : List Agent.Wire.VolumeAttachment :=
  (t.rows.filter fun v => v.attachedWorkloadID = some workloadID ∧ v.deleted = false ∧
    v.state = .inUse).map fun v => ⟨ids.text v.volumeID, v.mountPath.getD "", v.readOnly⟩

def Deployable (lib : Agent.Library) (t : Volumes) (workloadID : Uuid) : Prop :=
  (lib.volumeMounts (deployVolumes ids t workloadID) []).isOk

end

abbrev Absolute (path : String) : Prop := path.toList.head? = some '/'

abbrev Mountable (path : String) : Prop := path ≠ "" ∧ path.utf8ByteSize ≤ 255 ∧ Absolute path

def Event.Absolute : Event → Prop
  | .attachVolume _ _ attach _ => Cinder.Absolute (trimSpace attach.mountpoint)
  | _ => True

/-- Every volume in use can be mounted, and no workload has two. -/
structure Attached (t : Volumes) : Prop where
  paths : ∀ v ∈ t.rows, v.deleted = false → v.state = .inUse → Mountable (v.mountPath.getD "")
  once : ∀ v ∈ t.rows, ∀ v' ∈ t.rows, v.deleted = false → v'.deleted = false → ∀ w,
    v.attachedWorkloadID = some w → v'.attachedWorkloadID = some w → v = v'

variable {lib : Agent.Library} {ids : UuidText} {parseUUID : String → Bool} {t t' : Volumes}

theorem Attached.put {v : Volume} (h : Attached t)
    (hpath : v.state = .inUse → Mountable (v.mountPath.getD ""))
    (honce : ∀ x ∈ t.rows, x.volumeID ≠ v.volumeID → x.deleted = false → ∀ w,
      v.attachedWorkloadID = some w → x.attachedWorkloadID ≠ some w) : Attached (t.put v) := by
  constructor
  · intro x hx hlive hstate
    obtain rfl | ⟨hx, -⟩ := Table.mem_put.1 hx
    · exact hpath hstate
    · exact h.paths x hx hlive hstate
  · intro x hx x' hx' hlive hlive' w hw hw'
    obtain heq | ⟨hx, hne⟩ := Table.mem_put.1 hx <;>
      obtain heq' | ⟨hx', hne'⟩ := Table.mem_put.1 hx'
    · rw [heq, heq']
    · exact absurd hw' (honce x' hx' hne' hlive' w (heq ▸ hw))
    · exact absurd hw (honce x hx hne hlive w (heq' ▸ hw'))
    · exact h.once x hx x' hx' hlive hlive' w hw hw'

theorem Attached.update {cond : Volume → Bool} {f : Volume → Volume} {e : VolumeError}
    (h : Attached t) (hid : ∀ v, (f v).volumeID = v.volumeID)
    (hstate : ∀ v, cond v = true → (f v).state ≠ .inUse)
    (hw : ∀ v w, (f v).attachedWorkloadID = some w → v.attachedWorkloadID = some w) :
    Yields (t.update volumeID cond f e) Attached := by
  intro t' ht'
  obtain ⟨v, hv, hlive, hcond, rfl⟩ := Volumes.update_eq_ok ht'
  obtain ⟨hmem, -⟩ := Table.lookup_eq_some.1 hv
  refine h.put (fun hin => absurd hin (hstate v hcond)) fun x hx hne hlivex w hvw hxw => hne ?_
  rw [hid, h.once x hx v hmem hlivex hlive w hxw (hw v w hvw)]

theorem attachVolume_eq_ok
    (h : attachVolume parseUUID ids t projectID volumeID attach workload = .ok t') :
    ∃ w v, ids.parse (trimSpace attach.instanceUUID) = some w ∧
      (∀ x ∈ t.rows, x.deleted = false → x.attachedWorkloadID ≠ some w) ∧
      (trimSpace attach.mountpoint ≠ "" ∧ (trimSpace attach.mountpoint).utf8ByteSize ≤ 255) ∧
      (v.deleted = false ∧ v.state = .inUse ∧ v.attachedWorkloadID = some w ∧
        v.mountPath = some (trimSpace attach.mountpoint)) ∧ t' = t.put v := by
  obtain ⟨_, -, h⟩ := bind_eq_ok.1 h
  obtain ⟨_, hpath, h⟩ := bind_eq_ok.1 h
  obtain ⟨providerID, -, h⟩ := bind_eq_ok.1 h
  obtain ⟨_, -, h⟩ := bind_eq_ok.1 h
  obtain ⟨w, hw, h⟩ := bind_eq_ok.1 h
  cases ha : t.attachVolume volumeID projectID providerID w (trimSpace attach.mountpoint)
      (attach.mode = "ro") with
  | error e =>
    rw [ha] at h
    cases h
  | ok t'' =>
    rw [ha] at h
    cases h
    obtain ⟨r, hr, ha⟩ := bind_eq_ok.1 ha
    obtain ⟨_, hfree, ha⟩ := bind_eq_ok.1 ha
    cases ha
    obtain ⟨v, -, hlive, -, rfl⟩ := Volumes.update_eq_ok hr
    obtain ⟨hne, hle⟩ := not_or.1 (ensure_eq_ok.1 hpath)
    refine ⟨w, _, okOr_eq_ok.1 hw, ensure_eq_ok.1 hfree, ⟨hne, not_lt.1 hle⟩, ?_, rfl⟩
    exact ⟨hlive, rfl, rfl, rfl⟩

theorem Attached.step (h : Attached t) (he : e.Absolute) : Attached (step parseUUID ids t e) := by
  cases e with
  | createVolume volumeID projectID name sizeGB =>
    dsimp only [Cinder.step]
    split
    · exact h
    · refine h.put ?_ ?_
      · rintro ⟨⟩
      · rintro _ _ _ _ _ ⟨⟩
  | attachVolume projectID volumeID attach workload =>
    refine Yields.commit (fun t' ht' => ?_) h
    obtain ⟨w, v, -, hfree, hsize, ⟨-, -, hw, hpath⟩, rfl⟩ := attachVolume_eq_ok ht'
    refine h.put (fun _ => ?_) fun x hx _ hlivex w' hvw => ?_
    · rw [hpath]
      exact ⟨hsize.1, hsize.2, he⟩
    · cases hw.symm.trans hvw
      exact hfree x hx hlivex
  | detachVolume volumeID projectID workloadID =>
    refine Yields.commit (h.update ?_ ?_ ?_) h
    · exact fun _ => rfl
    · rintro _ _ ⟨⟩
    · rintro _ _ ⟨⟩
  | beginDelete volumeID projectID =>
    refine Yields.commit (h.update ?_ ?_ ?_) h
    · exact fun _ => rfl
    · rintro _ _ ⟨⟩
    · exact fun _ _ => id
  | finishDelete volumeID =>
    refine Yields.commit (h.update (fun _ => rfl) (fun v hv => ?_) fun _ _ => id) h
    rw [show v.state = .deleting from of_decide_eq_true hv]
    rintro ⟨⟩
  | abortDelete volumeID =>
    refine Yields.commit (h.update ?_ ?_ ?_) h
    · exact fun _ => rfl
    · rintro _ _ ⟨⟩
    · exact fun _ _ => id

theorem deployVolumes_single {v : Volume} (hv : v ∈ t.rows) (hlive : v.deleted = false)
    (hstate : v.state = .inUse) (hw : v.attachedWorkloadID = some w)
    (honly : ∀ x ∈ t.rows, x.deleted = false → x.attachedWorkloadID = some w → x = v) :
    deployVolumes ids t w = [⟨ids.text v.volumeID, v.mountPath.getD "", v.readOnly⟩] := by
  unfold deployVolumes
  generalize hrows : t.rows.filter _ = rows
  have hnodup : rows.Nodup := hrows ▸ (List.Nodup.of_map _ t.nodup).filter _
  have hmem (x : Volume) : x ∈ rows ↔ x = v := by
    rw [← hrows, List.mem_filter, decide_eq_true_iff]
    constructor
    · rintro ⟨hx, hxw, hlivex, -⟩
      exact honly x hx hlivex hxw
    · rintro rfl
      exact ⟨hv, hw, hlive, hstate⟩
  rw [(List.perm_singleton.1 ((List.perm_ext_iff_of_nodup hnodup (List.nodup_singleton v)).2
    fun x => (hmem x).trans List.mem_singleton.symm))]
  rfl

theorem volumeMounts_single (a : Agent.Wire.VolumeAttachment) (h : lib.isUuid a.volumeId = true) :
    (lib.volumeMounts [a] []).isOk ↔ Mountable a.mountPath := by
  rw [isOk_iff]
  constructor
  · rintro ⟨mounts, hok⟩
    obtain ⟨_, -, hok⟩ := bind_eq_ok.1 hok
    obtain ⟨_, hpath, -⟩ := bind_eq_ok.1 hok
    exact ensure_eq_ok.1 hpath
  · intro hpath
    exact ⟨_, (ensure_bind h).trans ((ensure_bind hpath).trans (ensure_bind List.not_mem_nil))⟩

theorem Attached.deployable (h : Attached t) (hids : ∀ u, lib.isUuid (ids.text u) = true)
    (w : Uuid) : Deployable ids lib t w := by
  by_cases hv : ∃ v ∈ t.rows, v.attachedWorkloadID = some w ∧ v.deleted = false ∧ v.state = .inUse
  · obtain ⟨v, hv, hw, hlive, hstate⟩ := hv
    unfold Deployable
    rw [deployVolumes_single hv hlive hstate hw fun x hx hlivex hxw =>
      h.once x hx v hv hlivex hlive w hxw hw, volumeMounts_single _ (hids _)]
    exact h.paths v hv hlive hstate
  · unfold Deployable deployVolumes
    rw [List.filter_eq_nil_iff.2 fun v hmem hv' => hv ⟨v, hmem, of_decide_eq_true hv'⟩]
    rfl

/-- Deployable exactly if attached at absolute paths. -/
theorem attachments_deployable_iff (lib : Agent.Library) (parseUUID : String → Bool)
    (ids : UuidText) (hids : ∀ u, lib.isUuid (ids.text u) = true) :
    (∀ events, Along (step parseUUID ids) (fun _ e => e.Absolute) Table.empty events →
      Throughout (step parseUUID ids) (fun t => ∀ w, Deployable ids lib t w) Table.empty events) ∧
    ∀ t projectID volumeID attach workload t' w,
      attachVolume parseUUID ids t projectID volumeID attach workload = .ok t' →
      ids.parse (trimSpace attach.instanceUUID) = some w →
        (Deployable ids lib t' w ↔ Absolute (trimSpace attach.mountpoint)) := by
  constructor
  · intro events h
    exact (h.throughout (I := Attached) ⟨nofun, nofun⟩ fun _ _ ht he => ht.step he).mono
      fun t ht => ht.deployable hids
  · intro t projectID volumeID attach workload t' w hok hw
    obtain ⟨w', v, hw', hfree, hsize, ⟨hlive, hstate, hvw, hpath⟩, rfl⟩ := attachVolume_eq_ok hok
    cases hw.symm.trans hw'
    unfold Deployable
    rw [deployVolumes_single (Table.mem_put.2 (.inl rfl)) hlive hstate hvw ?_,
      volumeMounts_single _ (hids _)]
    · change Mountable (v.mountPath.getD "") ↔ _
      rw [hpath]
      exact ⟨fun h => h.2.2, fun h => ⟨hsize.1, hsize.2, h⟩⟩
    · intro x hx hlivex hxw
      obtain rfl | ⟨hx, -⟩ := Table.mem_put.1 hx
      · rfl
      · exact absurd hxw (hfree x hx hlivex)

def uuidLibrary : Agent.Library where
  __ := Agent.sampleLibrary
  isUuid text := (parseUuid text).isSome && text.toList.all fun c => 0 < c.toNat ∧ c.toNat < 128
  uuid_text text h h0 :=
    absurd (Ascii.of_string text (Bool.and_eq_true_iff.1 h).2 0 h0).1 (by decide)

theorem isUuid_uuidText (u : Uuid) : uuidLibrary.isUuid (uuids.text u) = true := by
  have hascii := forall_uuidText (P := fun c => 0 < c.toNat ∧ c.toNat < 128) (by decide)
    (by decide) u
  unfold uuidLibrary uuids
  dsimp only
  rw [parseUuid_uuidText, Option.isSome_some, Bool.true_and, List.all_eq_true]
  exact fun c hc => decide_eq_true (hascii c hc)

def sampleAttach (volumeID workloadID : Uuid) (mountpoint : String) : List Event :=
  [.createVolume volumeID 7 "data" 10,
    .attachVolume 7 volumeID ⟨uuidText workloadID, mountpoint, "rw"⟩ (.ok "provider")]

theorem attachments_deployable_sample :
    let events := sampleAttach 1 2 "/data" ++ sampleAttach 3 4 "/logs"
    let t := run (step uuidLibrary.isUuid uuids) Table.empty events
    ([2, 4].flatMap (deployVolumes uuids t)).map (·.mountPath) = ["/data", "/logs"] ∧
      Deployable uuids uuidLibrary t 2 ∧ Deployable uuids uuidLibrary t 4 := by
  intro events t
  have hdeployable := ((attachments_deployable_iff uuidLibrary uuidLibrary.isUuid uuids
    isUuid_uuidText).1 events
    ⟨trivial, (by decide : Absolute (trimSpace "/data")), trivial,
      (by decide : Absolute (trimSpace "/logs")), trivial⟩).last
  exact ⟨by decide +kernel, hdeployable 2, hdeployable 4⟩

theorem relative_mountpoint_undeployable :
    uuidLibrary.volumeMounts (deployVolumes uuids
      (run (step uuidLibrary.isUuid uuids) Table.empty (sampleAttach 1 2 "vdb")) 2) [] =
        .error (.invalidRequest "volumes[].mount_path must be a non-empty absolute path") := by
  decide +kernel

end OpenInfra.Cinder
