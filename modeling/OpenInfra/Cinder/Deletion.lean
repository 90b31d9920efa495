import OpenInfra.Cinder.Server

namespace OpenInfra.OpenStack.Volumes
open ControlPlane (Uuid)

variable {t t' : Volumes} {volumeID : Uuid} {P : Volume → Prop}

theorem update_of_has {cond : Volume → Bool} {f : Volume → Volume} (e : VolumeError)
    (h : t.Has volumeID fun v => v.deleted = false ∧ cond v = true)
    (hid : ∀ v, (f v).volumeID = v.volumeID) (hP : ∀ v, P (f v)) :
    ∃ t', t.update volumeID cond f e = .ok t' ∧ t'.Has volumeID P := by
  obtain ⟨v, hv, hlive, hcond⟩ := h
  have hfound : t.live volumeID cond = some v :=
    Option.filter_eq_some_iff.2 ⟨hv, by rw [hlive, hcond]; rfl⟩
  have hok : t.update volumeID cond f e = .ok (t.put (f v)) := by
    unfold update
    rw [hfound]
  exact ⟨_, hok, has_of_update hok hid fun r _ _ => hP r⟩

theorem finishDelete_of_deleting (h : t.Has volumeID Volume.Deleting) :
    ∃ t', t.finishDelete volumeID = .ok t' ∧ t'.Has volumeID fun v => v.deleted = true :=
  update_of_has _ (h.mono fun _ hv => ⟨hv.1, decide_eq_true hv.2⟩) (fun _ => rfl) fun _ => rfl

theorem abortDelete_of_deleting (h : t.Has volumeID Volume.Deleting) :
    ∃ t', t.abortDelete volumeID = .ok t' ∧ t'.Has volumeID fun v => v.state = .available :=
  update_of_has _ (h.mono fun _ hv => ⟨hv.1, decide_eq_true hv.2⟩) (fun _ => rfl) fun _ => rfl

end OpenInfra.OpenStack.Volumes

namespace OpenInfra.Cinder
open Frame
open ControlPlane (Uuid Text)
open OpenStack (Volume Volumes VolumeError Fault)

def requestTimeout : Nat := 5000

/-- In milliseconds; the context is not that of the request. -/
def dispatchTimeout : Nat := 30000

structure Dispatch where
  outcome : Except Text Unit
  duration : Nat

structure Clocked where
  volumes : Volumes
  elapsed : Nat

namespace Clocked
variable (d : Dispatch) (s : Clocked)

def statement (x : Except VolumeError A) (volumes : A → Volumes) (reply : A → B) :
    Except QueryError B × Clocked :=
  if requestTimeout ≤ s.elapsed then (.error .unavailable, s)
  else
    match x with
    | .error e => (.error (.volume e), s)
    | .ok a => (.ok (reply a), { s with volumes := volumes a })

def dispatch : Except Text Unit × Clocked :=
  if dispatchTimeout ≤ d.duration then
    (.error "context deadline exceeded".toUTF8, { s with elapsed := s.elapsed + dispatchTimeout })
  else (d.outcome, { s with elapsed := s.elapsed + d.duration })

def answer : (q : Query) → Clocked → Reply q × Clocked
  | .beginDelete volumeID projectID, s =>
    s.statement (s.volumes.beginDelete volumeID projectID) id fun t =>
      (t.lookup volumeID).bind Volume.providerID
  | .deleteVolume _ _, s => s.dispatch d
  | .finishDelete volumeID, s => s.statement (s.volumes.finishDelete volumeID) id fun _ => ()
  | .abortDelete volumeID, s => s.statement (s.volumes.abortDelete volumeID) id fun _ => ()

def after (handler : Handler) : Volumes := (handler.exec (answer d) s).2.volumes

end Clocked

def Settled (v : Volume) : Prop := v.deleted = true ∨ v.state = .available

def DeleteSettles (dispatcher : Bool) (d : Dispatch) (t : Volumes) (projectID volumeID : Uuid) :
    Prop :=
  ∀ t', t.beginDelete volumeID projectID = .ok t' →
    (Clocked.after d ⟨t, 0⟩ (deleteVolume dispatcher projectID volumeID)).Has volumeID Settled

section
variable {d : Dispatch} {s : Clocked} {t t' : Volumes} {projectID volumeID : Uuid}

theorem Deleting.not_settled (h : t.Has volumeID Volume.Deleting) : ¬ t.Has volumeID Settled := by
  intro hsettled
  obtain ⟨v, ⟨hlive, hstate⟩, hdeleted | havailable⟩ := h.and hsettled
  · rw [hlive] at hdeleted
    cases hdeleted
  · rw [hstate] at havailable
    cases havailable

section
variable (h : s.volumes.Has volumeID Volume.Deleting)
include h

theorem Clocked.statement_settled
    (hx : ∃ t', x = .ok t' ∧ t'.Has volumeID Settled) :
    (s.statement x id fun _ => ()).2.volumes.Has volumeID Settled ↔
      s.elapsed < requestTimeout := by
  obtain ⟨t', rfl, hsettled⟩ := hx
  unfold statement
  split
  · exact iff_of_false (Deleting.not_settled h) (Nat.not_lt.2 ‹_›)
  · exact iff_of_true hsettled (Nat.lt_of_not_le ‹_›)

theorem Clocked.after_finishDelete :
    (after d s (finishDelete volumeID)).Has volumeID Settled ↔ s.elapsed < requestTimeout := by
  have hafter : after d s (finishDelete volumeID) =
      (s.statement (s.volumes.finishDelete volumeID) id fun _ => ()).2.volumes := by
    rw [after, finishDelete, Program.exec_bind, Program.exec_ask, answer]
    rcases s.statement (s.volumes.finishDelete volumeID) id fun _ => () with ⟨_ | _, _⟩ <;> rfl
  obtain ⟨t', ht', hdeleted⟩ := Volumes.finishDelete_of_deleting h
  rw [hafter]
  exact statement_settled h ⟨t', ht', hdeleted.mono fun _ => .inl⟩

theorem Clocked.after_abortDelete (fault : Fault) :
    (after d s (abortDelete volumeID fault)).Has volumeID Settled ↔ s.elapsed < requestTimeout := by
  obtain ⟨t', ht', havailable⟩ := Volumes.abortDelete_of_deleting h
  exact statement_settled h ⟨t', ht', havailable.mono fun _ => .inr⟩

end

theorem Clocked.dispatch_elapsed (d : Dispatch) (s : Clocked) :
    (s.dispatch d).2 = { s with elapsed := s.elapsed + min d.duration dispatchTimeout } := by
  unfold dispatch
  split
  · rw [min_eq_right ‹_›]
  · rw [min_eq_left (Nat.le_of_not_le ‹_›)]

theorem Clocked.after_dispatch (h : t.Has volumeID Volume.Deleting) (providerID : String) :
    (after d ⟨t, 0⟩ (endDelete true volumeID (some providerID))).Has volumeID Settled ↔
      d.duration < requestTimeout := by
  have hlate : min d.duration dispatchTimeout < requestTimeout ↔ d.duration < requestTimeout := by
    unfold dispatchTimeout requestTimeout
    omega
  rw [after, endDelete, if_pos rfl, Program.exec_bind, Program.exec_ask, answer, ← hlate]
  have helapsed := dispatch_elapsed d ⟨t, 0⟩
  rw [Nat.zero_add] at helapsed
  rw [helapsed]
  cases (dispatch d ⟨t, 0⟩).1 with
  | error e => exact after_abortDelete (s := ⟨t, _⟩) h _
  | ok _ => exact after_finishDelete (s := ⟨t, _⟩) h

theorem beginDelete_provider (h : t.beginDelete volumeID projectID = .ok t') :
    ∃ v, (t.live volumeID fun v => v.projectID = projectID ∧ v.state = .available) = some v ∧
      (t'.lookup volumeID).bind Volume.providerID = v.providerID := by
  unfold Volumes.beginDelete Volumes.update at h
  split at h
  · rename_i v hv
    cases h
    refine ⟨v, hv, ?_⟩
    have hkey := Table.key_of_lookup (Option.filter_eq_some_iff.1 hv).1
    rw [Table.lookup_put, if_pos hkey.symm]
    rfl
  · cases h

end

/-- A volume is stuck exactly if the agent outlasts the context of the request. -/
theorem delete_settles_iff (dispatcher : Bool) (d : Dispatch) (t : Volumes)
    (projectID volumeID : Uuid) :
    DeleteSettles dispatcher d t projectID volumeID ↔
      ((∃ v ∈ t.live volumeID fun v => v.projectID = projectID ∧ v.state = .available,
        v.providerID ≠ none) → dispatcher = true → d.duration < requestTimeout) := by
  cases hbegin : t.beginDelete volumeID projectID with
  | error e =>
    refine iff_of_true (fun t' ht' => ?_) ?_
    · rw [hbegin] at ht'
      cases ht'
    · rintro ⟨v, hv, _⟩
      have hv : t.live volumeID _ = some v := hv
      unfold Volumes.beginDelete Volumes.update at hbegin
      rw [hv] at hbegin
      cases hbegin
  | ok t' =>
    have hdeleting := (Volumes.beginDelete_has hbegin).1
    obtain ⟨v, hlive, hprovider⟩ := beginDelete_provider hbegin
    have hreply : Clocked.answer d (.beginDelete volumeID projectID) ⟨t, 0⟩ =
        (.ok v.providerID, ⟨t', 0⟩) := by
      change Clocked.statement ⟨t, 0⟩ (t.beginDelete volumeID projectID) _ _ = _
      rw [hbegin, ← hprovider]
      rfl
    have hsettles : DeleteSettles dispatcher d t projectID volumeID ↔
        (Clocked.after d ⟨t', 0⟩ (endDelete dispatcher volumeID v.providerID)).Has volumeID
          Settled := by
      have hafter : Clocked.after d ⟨t, 0⟩ (deleteVolume dispatcher projectID volumeID) =
          Clocked.after d ⟨t', 0⟩ (endDelete dispatcher volumeID v.providerID) := by
        rw [Clocked.after, deleteVolume, Program.exec_bind, Program.exec_ask, hreply]
        rfl
      rw [← hafter]
      exact ⟨fun h => h t' hbegin, fun h _ _ => h⟩
    rw [hsettles]
    cases hp : v.providerID with
    | none =>
      refine (Clocked.after_finishDelete hdeleting).trans (iff_of_true (Nat.zero_lt_succ _) ?_)
      rintro ⟨v', hv', hne⟩
      cases Option.some.inj (hlive.symm.trans hv')
      exact absurd hp hne
    | some providerID =>
      have hne : ∃ v ∈ t.live volumeID fun v => v.projectID = projectID ∧ v.state = .available,
          v.providerID ≠ none := ⟨v, hlive, by rw [hp]; exact Option.some_ne_none _⟩
      cases dispatcher with
      | false =>
        refine (Clocked.after_abortDelete hdeleting _).trans (iff_of_true (Nat.zero_lt_succ _) ?_)
        intro _ hno
        cases hno
      | true =>
        refine (Clocked.after_dispatch hdeleting providerID).trans ?_
        exact ⟨fun h _ _ => h, fun h => h hne rfl⟩

theorem delete_stuck_after_six_seconds :
    let v : Volume := ⟨1, 7, "data", 10, .available, some "provider-a", none, none, false, false⟩
    let t : Volumes := Table.empty.put v
    (Clocked.after ⟨.ok (), 6000⟩ ⟨t, 0⟩ (deleteVolume true 7 1)).lookup 1 =
        some { v with state := .deleting } ∧
      ¬ DeleteSettles true ⟨.ok (), 6000⟩ t 7 1 := by
  intro v t
  have hstuck : (Clocked.after ⟨.ok (), 6000⟩ ⟨t, 0⟩ (deleteVolume true 7 1)).lookup 1 =
      some { v with state := .deleting } := by decide +kernel
  exact ⟨hstuck, fun h => Deleting.not_settled ⟨_, hstuck, rfl, rfl⟩ (h _ rfl)⟩

end OpenInfra.Cinder
