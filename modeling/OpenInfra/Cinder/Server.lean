import OpenInfra.OpenStack.Projects

namespace OpenInfra.OpenStack
open Frame
open ControlPlane (Uuid)

def Volumes.Has (t : Volumes) (volumeID : Uuid) (P : Volume → Prop) : Prop :=
  ∃ v ∈ t.lookup volumeID, P v

namespace Volume

def Deleting (v : Volume) : Prop := v.deleted = false ∧ v.state = .deleting

end Volume

namespace Volumes
variable {t t' : Volumes} {volumeID : Uuid} {P P' : Volume → Prop}

theorem Has.mono (h : t.Has volumeID P) (hP : ∀ v, P v → P' v) : t.Has volumeID P' := by
  obtain ⟨v, hv, hp⟩ := h
  exact ⟨v, hv, hP v hp⟩

theorem Has.and (h : t.Has volumeID P) (h' : t.Has volumeID P') : ∃ v, P v ∧ P' v := by
  obtain ⟨v, hv, hp⟩ := h
  obtain ⟨v', hv', hp'⟩ := h'
  cases Option.some.inj (hv.symm.trans hv')
  exact ⟨v, hp, hp'⟩

section
variable {cond : Volume → Bool} {f : Volume → Volume} {e : VolumeError}

theorem update_eq_ok (h : t.update volumeID cond f e = .ok t') :
    ∃ v, t.lookup volumeID = some v ∧ v.deleted = false ∧ cond v = true ∧ t' = t.put (f v) := by
  unfold update live at h
  split at h
  · rename_i v hv
    cases h
    obtain ⟨hlookup, hcond⟩ := Option.filter_eq_some_iff.1 hv
    rw [Bool.and_eq_true, Bool.not_eq_true'] at hcond
    exact ⟨v, hlookup, hcond.1, hcond.2, rfl⟩
  · cases h

theorem has_of_update (h : t.update volumeID cond f e = .ok t')
    (hid : ∀ v, (f v).volumeID = v.volumeID)
    (hP : ∀ r, r.deleted = false → cond r = true → P (f r)) : t'.Has volumeID P := by
  obtain ⟨r, hr, hlive, hcond, rfl⟩ := update_eq_ok h
  have hkey : (f r).volumeID = volumeID := (hid r).trans (Table.key_of_lookup hr)
  refine ⟨f r, ?_, hP r hlive hcond⟩
  rw [Table.lookup_put, if_pos hkey.symm]
  rfl

end

theorem beginDelete_has (h : t.beginDelete volumeID projectID = .ok t') :
    t'.Has volumeID Volume.Deleting ∧ t.Has volumeID fun v => v.state = .available := by
  refine ⟨has_of_update h (fun _ => rfl) fun r hlive _ => ⟨hlive, rfl⟩, ?_⟩
  obtain ⟨r, hr, _, hcond, _⟩ := update_eq_ok h
  exact ⟨r, hr, (of_decide_eq_true hcond).2⟩

end Volumes

end OpenInfra.OpenStack

namespace OpenInfra.Cinder
open Frame
open ControlPlane (Uuid Text)
open OpenStack (Volume VolumeError Fault badRequest)

inductive QueryError where
  | volume (error : VolumeError)
  | unavailable

inductive Query where
  | beginDelete (volumeID projectID : Uuid)
  | deleteVolume (providerID : String) (volumeID : Uuid)
  | finishDelete (volumeID : Uuid)
  | abortDelete (volumeID : Uuid)

@[reducible] def Reply : Query → Type
  | .beginDelete .. => Except QueryError (Option String)
  | .deleteVolume .. => Except Text Unit
  | .finishDelete _ => Except QueryError Unit
  | .abortDelete _ => Except QueryError Unit

abbrev Handler := Program Query Reply (Except Fault Unit)

def reject (fault : Fault) : Handler := pure (.error fault)

def itemNotFound (volumeID : Uuid) : Fault :=
  ⟨404, "itemNotFound", "Volume " ++ uuidText volumeID ++ " could not be found."⟩

def volumeFault (message : String) : Fault := ⟨503, "volumeFault", message⟩

def abortDelete (volumeID : Uuid) (fault : Fault) : Handler := do
  let _ ← Program.ask (Query.abortDelete volumeID)
  reject fault

def finishDelete (volumeID : Uuid) : Handler := do
  match ← Program.ask (Query.finishDelete volumeID) with
  | .error _ => reject (volumeFault "volume deletion unavailable")
  | .ok () => pure (.ok ())

/-- The agent first deletes a volume that has been attached. -/
def endDelete (dispatcher : Bool) (volumeID : Uuid) : Option String → Handler
  | none => finishDelete volumeID
  | some providerID =>
    if dispatcher then do
      match ← Program.ask (Query.deleteVolume providerID volumeID) with
      | .error _ =>
        abortDelete volumeID (volumeFault
          "volume deletion unavailable: the owning provider could not securely delete it")
      | .ok () => finishDelete volumeID
    else
      abortDelete volumeID (volumeFault
        "volume deletion unavailable: cannot reach the owning provider right now")

def deleteVolume (dispatcher : Bool) (projectID volumeID : Uuid) : Handler := do
  match ← Program.ask (Query.beginDelete volumeID projectID) with
  | .error (.volume .notFound) => reject (itemNotFound volumeID)
  | .error (.volume .notAvailable) =>
    reject (badRequest ("Volume " ++ uuidText volumeID ++
      " must be detached before it can be deleted."))
  | .error _ => reject (volumeFault "volume deletion unavailable")
  | .ok providerID => endDelete dispatcher volumeID providerID

end OpenInfra.Cinder
