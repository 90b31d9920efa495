import OpenInfra.Neutron.Networks

namespace OpenInfra.Neutron
open Frame List
open ControlPlane (Uuid)

structure SecurityGroup where
  securityGroupID : Uuid
  projectID : Uuid
  deleted : Bool
  deriving DecidableEq

structure PortStore where
  ports : Ports
  owns : (projectID workloadID : Uuid) → Bool
  groups : List SecurityGroup
  attached : List (Uuid × Uuid)

inductive DeviceID where
  | empty
  | malformed
  | workload (workloadID : Uuid)

structure PortUpdate where
  deviceID : Option DeviceID
  securityGroups : Option (List (Option Uuid))

inductive GroupError where
  | portNotFound
  | securityGroupNotFound
  | database

def portResponse : PortError → Response
  | .portNotFound => ⟨404, "port not found"⟩
  | .portAlreadyBound => ⟨409, PortError.portAlreadyBound.message⟩
  | .workloadAlreadyHasPort => ⟨409, PortError.workloadAlreadyHasPort.message⟩
  | _ => ⟨503, "port update unavailable"⟩

def groupResponse : GroupError → Response
  | .securityGroupNotFound =>
    ⟨400, "port.security_groups references a security group not owned by this project"⟩
  | _ => ⟨503, "port update unavailable"⟩

namespace PortStore
variable (s : PortStore)

def ownsGroup (projectID : Uuid) (groupID : Uuid) : Bool :=
  s.groups.any fun g => g.securityGroupID = groupID ∧ g.projectID = projectID ∧ ¬ g.deleted

def groupExists (projectID : Uuid) : Option Uuid → Except GroupError Unit
  | none => .error .database
  | some groupID => ensure (s.ownsGroup projectID groupID) .securityGroupNotFound

def attach (portID : Uuid) (attached : List (Uuid × Uuid)) (groupID : Uuid) : List (Uuid × Uuid) :=
  if (portID, groupID) ∈ attached then attached else attached ++ [(portID, groupID)]

def replacePortGroups (portID projectID : Uuid) (groupIDs : List (Option Uuid)) :
    Except GroupError PortStore := do
  ensure (s.ports.getPort portID projectID).isSome .portNotFound
  groupIDs.forM (s.groupExists projectID)
  .ok { s with
    attached := (groupIDs.filterMap id).foldl (attach portID)
      (s.attached.filter fun row => row.1 ≠ portID) }

def updateDevice (portID projectID : Uuid) : Option DeviceID → Except Response PortStore
  | none => do
    let _ ← okOr (s.ports.getPort portID projectID) (portResponse .portNotFound)
    .ok s
  | some .empty => do
    let ports ← (s.ports.unbindPort portID projectID).mapError portResponse
    .ok { s with ports := ports }
  | some .malformed => .error ⟨400, "port.device_id must be a workload UUID"⟩
  | some (.workload workloadID) => do
    ensure (s.owns projectID workloadID) ⟨400, PortError.workloadNotOwned.message⟩
    let ports ← (s.ports.bindPort portID projectID workloadID).mapError portResponse
    .ok { s with ports := ports }

def updateGroups (portID projectID : Uuid) : Option (List (Option Uuid)) → Except Response PortStore
  | none => .ok s
  | some groupIDs => (s.replacePortGroups portID projectID groupIDs).mapError groupResponse

def updatePort (portID projectID : Uuid) : Option PortUpdate → Response × PortStore
  | none => (⟨400, "invalid request body"⟩, s)
  | some body =>
    match s.updateDevice portID projectID body.deviceID with
    | .error response => (response, s)
    | .ok s' =>
      match s'.updateGroups portID projectID body.securityGroups with
      | .error response => (response, s')
      | .ok s'' => (⟨200, ""⟩, s'')

def binding (portID projectID : Uuid) : Option (Option Uuid) :=
  (s.ports.getPort portID projectID).map Port.workloadID

def groupsOf (portID : Uuid) : List Uuid :=
  (s.attached.filter fun row => row.1 = portID).map Prod.snd

/-- A `PUT` that is not answered with 200 leaves the port as it was. -/
def FailedUpdateKeeps (portID projectID : Uuid) (body : Option PortUpdate) : Prop :=
  let x := s.updatePort portID projectID body
  x.1.status ≠ 200 → x.2.binding portID projectID = s.binding portID projectID ∧
    x.2.groupsOf portID = s.groupsOf portID

def Rebinds (portID projectID : Uuid) (port : Port) : Option DeviceID → Prop
  | some .empty => port.workloadID ≠ none
  | some (.workload workloadID) => s.owns projectID workloadID ∧ port.workloadID = none ∧
      ∀ p ∈ s.ports.live, p.workloadID = some workloadID → p.portID = portID
  | _ => False

/-- The field `security_groups` names what is no live group of the project. -/
def NamesForeignGroup (projectID : Uuid) (body : PortUpdate) : Prop :=
  ∃ groupIDs ∈ body.securityGroups, ∃ g ∈ groupIDs, ∀ groupID ∈ g, ¬ s.ownsGroup projectID groupID

section
variable {s s' : PortStore} {portID projectID : Uuid} {port : Port}

theorem mapError_eq_ok {x : Except E A} {f : E → E'} : x.mapError f = .ok a ↔ x = .ok a := by
  cases x with
  | error e => exact iff_of_false nofun nofun
  | ok b => rw [Except.mapError, Except.ok.injEq, Except.ok.injEq]

theorem found_of_getPort {ports : Ports} (h : ports.getPort portID projectID = some port) :
    port ∈ ports ∧ port.portID = portID ∧ port.projectID = projectID ∧ port.deleted = false := by
  have hfound := List.find?_some h
  obtain ⟨hid, hproject⟩ := of_decide_eq_true hfound
  obtain ⟨hmem, hlive⟩ := Ports.mem_live.1 (mem_of_find?_eq_some h)
  exact ⟨hmem, hid, hproject, hlive⟩

theorem getPort_put {ports : Ports} {port' : Port}
    (h : ports.getPort portID projectID = some port) (hid : port'.portID = portID)
    (hproject : port'.projectID = projectID) (hlive : port'.deleted = false) :
    (ports.put port').getPort portID projectID = some port' := by
  obtain ⟨hmem, hold, _⟩ := found_of_getPort h
  have hput : port' ∈ (ports.put port').live := by
    refine Ports.mem_live.2 ⟨mem_map.2 ⟨port, hmem, ?_⟩, hlive⟩
    exact if_pos (hold.trans hid.symm)
  cases hfind : (ports.put port').getPort portID projectID with
  | none => exact absurd (decide_eq_true ⟨hid, hproject⟩) (List.find?_eq_none.1 hfind port' hput)
  | some q =>
    obtain ⟨hq, hqid, _⟩ := found_of_getPort hfind
    obtain ⟨p, _, hp⟩ := mem_map.1 hq
    split at hp
    · rw [hp]
    · cases hp
      exact absurd (hqid.trans hid.symm) ‹_›

theorem updateDevice_eq_ok (h : s.updateDevice portID projectID device = .ok s') :
    ∃ port port', s.ports.getPort portID projectID = some port ∧
      s'.ports.getPort portID projectID = some port' ∧ s'.groups = s.groups ∧
      s'.attached = s.attached ∧
      (port'.workloadID = port.workloadID ↔ ¬ s.Rebinds portID projectID port device) := by
  cases device with
  | none =>
    obtain ⟨port, hport, h⟩ := bind_eq_ok.1 h
    cases h
    have hport := okOr_eq_ok.1 hport
    exact ⟨port, port, hport, hport, rfl, rfl, iff_of_true rfl id⟩
  | some device =>
    cases device with
    | malformed => cases h
    | empty =>
      obtain ⟨ports, hports, h⟩ := bind_eq_ok.1 h
      cases h
      obtain ⟨port, hport, hports⟩ := bind_eq_ok.1 (mapError_eq_ok.1 hports)
      cases hports
      have hport := okOr_eq_ok.1 hport
      obtain ⟨_, hid, hproject, hlive⟩ := found_of_getPort hport
      refine ⟨port, _, hport, getPort_put hport hid hproject hlive, rfl, rfl, ?_⟩
      exact ⟨fun h hne => hne h.symm, fun h => (not_not.1 h).symm⟩
    | workload workloadID =>
      obtain ⟨_, howns, h⟩ := bind_eq_ok.1 h
      obtain ⟨ports, hports, h⟩ := bind_eq_ok.1 h
      cases h
      obtain ⟨port, hport, hports⟩ := bind_eq_ok.1 (mapError_eq_ok.1 hports)
      obtain ⟨_, hfree, hports⟩ := bind_eq_ok.1 hports
      obtain ⟨_, hothers, hports⟩ := bind_eq_ok.1 hports
      cases hports
      have hport := okOr_eq_ok.1 hport
      obtain ⟨_, hid, hproject, hlive⟩ := found_of_getPort hport
      refine ⟨port, _, hport, getPort_put hport hid hproject hlive, rfl, rfl, ?_⟩
      constructor
      · rintro hsame ⟨_, hnone, _⟩
        rw [hnone] at hsame
        cases hsame
      · intro hno
        refine (ensure_eq_ok.1 hfree).elim (fun hnone => (hno ⟨?_, hnone, ?_⟩).elim) Eq.symm
        · exact ensure_eq_ok.1 howns
        · intro p hp hw
          exact of_decide_eq_true (all_eq_true.1 (ensure_eq_ok.1 hothers) p hp) hw

theorem updateDevice_of_rebinds (hport : s.ports.getPort portID projectID = some port)
    (h : s.Rebinds portID projectID port device) :
    ∃ s', s.updateDevice portID projectID device = .ok s' := by
  unfold Rebinds at h
  split at h
  · refine ⟨_, bind_eq_ok.2 ⟨_, mapError_eq_ok.2 (bind_eq_ok.2 ⟨port, ?_, rfl⟩), rfl⟩⟩
    exact okOr_eq_ok.2 hport
  · obtain ⟨howns, hnone, hothers⟩ := h
    refine ⟨_, bind_eq_ok.2 ⟨(), ensure_eq_ok.2 howns, bind_eq_ok.2 ⟨_, mapError_eq_ok.2
      (bind_eq_ok.2 ⟨port, okOr_eq_ok.2 hport, bind_eq_ok.2 ⟨(), ensure_eq_ok.2 (.inl hnone),
        bind_eq_ok.2 ⟨(), ensure_eq_ok.2 ?_, rfl⟩⟩⟩), rfl⟩⟩⟩
    exact all_eq_true.2 fun p hp => decide_eq_true (hothers p hp)
  · exact h.elim

theorem status_ne_of_groups
    (h : s.updateGroups portID projectID groupIDs = .error response) : response.status ≠ 200 := by
  cases groupIDs with
  | none => cases h
  | some groupIDs =>
    change (s.replacePortGroups portID projectID groupIDs).mapError groupResponse = _ at h
    cases hreplace : s.replacePortGroups portID projectID groupIDs with
    | error e =>
      rw [hreplace] at h
      cases h
      cases e <;> decide
    | ok _ =>
      rw [hreplace] at h
      cases h

theorem updateGroups_eq_error (body : PortUpdate)
    (hport : s.ports.getPort portID projectID = some port) :
    (∃ response, s.updateGroups portID projectID body.securityGroups = .error response) ↔
      s.NamesForeignGroup projectID body := by
  obtain ⟨device, groups⟩ := body
  cases groups with
  | none => exact iff_of_false (fun ⟨_, h⟩ => nomatch h) fun ⟨_, h, _⟩ => nomatch h
  | some groupIDs =>
    have hcheck {g : Option Uuid} : s.groupExists projectID g = .ok () ↔
        ¬ ∀ groupID ∈ g, ¬ s.ownsGroup projectID groupID := by
      cases g with
      | none => exact iff_of_false (fun h => nomatch h) fun h => h fun _ h => nomatch h
      | some groupID =>
        refine ensure_eq_ok.trans ⟨fun howns h => h groupID rfl howns, fun h => ?_⟩
        by_contra hno
        exact h fun _ heq => Option.some.inj heq ▸ hno
    have hok : (∃ s', s.replacePortGroups portID projectID groupIDs = .ok s') ↔
        ∀ g ∈ groupIDs, s.groupExists projectID g = .ok () := by
      constructor
      · rintro ⟨s', h⟩
        obtain ⟨_, _, h⟩ := bind_eq_ok.1 h
        obtain ⟨_, hall, _⟩ := bind_eq_ok.1 h
        exact forM_eq_ok.1 hall
      · intro hall
        exact ⟨_, bind_eq_ok.2 ⟨(), ensure_eq_ok.2 (by rw [hport]; rfl),
          bind_eq_ok.2 ⟨(), forM_eq_ok.2 hall, rfl⟩⟩⟩
    change (∃ response, (s.replacePortGroups portID projectID groupIDs).mapError groupResponse =
      .error response) ↔ _
    cases h : s.replacePortGroups portID projectID groupIDs with
    | error e =>
      refine iff_of_true ⟨_, rfl⟩ ?_
      by_contra hno
      obtain ⟨s', hs'⟩ := hok.2 fun g hg => hcheck.2 fun hg' => hno ⟨groupIDs, rfl, g, hg, hg'⟩
      rw [hs'] at h
      cases h
    | ok s' =>
      refine iff_of_false (fun ⟨_, h⟩ => nomatch h) ?_
      rintro ⟨_, hgroups, g, hg, hforeign⟩
      cases hgroups
      exact hcheck.1 (hok.1 ⟨s', h⟩ g hg) hforeign

end

/-- A failed `PUT` keeps the port unless it binds it and names a foreign group. -/
theorem failed_update_keeps_iff (s : PortStore) (portID projectID : Uuid)
    (body : Option PortUpdate) :
    s.FailedUpdateKeeps portID projectID body ↔
      ∀ b ∈ body, ∀ port ∈ s.ports.getPort portID projectID,
        ¬ (s.Rebinds portID projectID port b.deviceID ∧ s.NamesForeignGroup projectID b) := by
  cases body with
  | none => exact iff_of_true (fun _ => ⟨rfl, rfl⟩) fun b hb => nomatch hb
  | some b =>
    have hbody : (∀ b' ∈ some b, ∀ port ∈ s.ports.getPort portID projectID,
        ¬ (s.Rebinds portID projectID port b'.deviceID ∧ s.NamesForeignGroup projectID b')) ↔
        ∀ port ∈ s.ports.getPort portID projectID,
          ¬ (s.Rebinds portID projectID port b.deviceID ∧ s.NamesForeignGroup projectID b) :=
      ⟨fun h => h b rfl, fun h _ hb => Option.some.inj hb ▸ h⟩
    rw [hbody]
    unfold FailedUpdateKeeps
    cases hdevice : s.updateDevice portID projectID b.deviceID with
    | error response =>
      have hx : s.updatePort portID projectID (some b) = (response, s) := by
        simp only [updatePort, hdevice]
      rw [hx]
      refine iff_of_true (fun _ => ⟨rfl, rfl⟩) fun port hport h => ?_
      obtain ⟨s', hs'⟩ := updateDevice_of_rebinds hport h.1
      rw [hdevice] at hs'
      cases hs'
    | ok s' =>
      obtain ⟨port, port', hport, hport', hgroups, hattached, hsame⟩ := updateDevice_eq_ok hdevice
      have hforeign : s'.NamesForeignGroup projectID b ↔ s.NamesForeignGroup projectID b := by
        unfold NamesForeignGroup ownsGroup
        rw [hgroups]
      have hfails := (updateGroups_eq_error b hport').trans hforeign
      cases h : s'.updateGroups portID projectID b.securityGroups with
      | ok s'' =>
        have hx : s.updatePort portID projectID (some b) = (⟨200, ""⟩, s'') := by
          simp only [updatePort, hdevice, h]
        rw [hx]
        refine iff_of_true (fun hstatus => absurd rfl hstatus) fun _ _ hboth => ?_
        obtain ⟨_, herror⟩ := hfails.2 hboth.2
        rw [h] at herror
        cases herror
      | error response =>
        have hx : s.updatePort portID projectID (some b) = (response, s') := by
          simp only [updatePort, hdevice, h]
        rw [hx]
        have hnamed := hfails.1 ⟨response, h⟩
        have hbinding : s'.binding portID projectID = s.binding portID projectID ↔
            ¬ s.Rebinds portID projectID port b.deviceID := by
          unfold binding
          rw [hport, hport', ← hsame]
          exact ⟨Option.some.inj, congrArg some⟩
        have hkept : s'.groupsOf portID = s.groupsOf portID := by
          unfold groupsOf
          rw [hattached]
        constructor
        · intro hkeeps p hp hboth
          cases Option.some.inj (hport.symm.trans hp)
          exact hbinding.1 (hkeeps (status_ne_of_groups h)).1 hboth.1
        · intro hno _ _
          exact ⟨hbinding.2 fun hrebinds => hno port hport ⟨hrebinds, hnamed⟩, hkept⟩

theorem failed_update_binds :
    let s : PortStore := ⟨[⟨1, 2, 3, 7, "10.0.0.2", none, false⟩], fun _ _ => true, [], []⟩
    let x := s.updatePort 1 7 (some ⟨some (.workload 5), some [some 9]⟩)
    x.1 = groupResponse .securityGroupNotFound ∧ s.binding 1 7 = some none ∧
      x.2.binding 1 7 = some (some 5) := by
  decide

end PortStore

end OpenInfra.Neutron
