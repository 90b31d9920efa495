import OpenInfra.Agent.Steady

namespace OpenInfra.Agent
open Frame
open Host (Holds)

structure WorkloadRecord.Deployed (specHash : BitVec 256) (r : WorkloadRecord) : Prop where
  spec : r.specHash = specHash
  created : r.containerId.isSome

def Slot.Deployed (specHash : BitVec 256) (s : Slot) : Prop := s.record.Deployed specHash

section
variable {specHash : BitVec 256} {r : WorkloadRecord} {s : Slot} {c : Nat}

theorem applySecurityGroupsOrFail_deployed (hr : r.Deployed specHash) :
    Exec.Meets (fun _ => True) (applySecurityGroupsOrFail o r c)
      (Exec.Then (fun r _ => r.Deployed specHash) fun _ _ => True) := by
  unfold applySecurityGroupsOrFail
  split
  · exact .pure fun _ _ => hr
  · split
    · exact .pure fun _ _ => hr
    · refine .bind (fun _ _ => True) (.attempt fun _ _ => trivial) fun a => ?_
      cases a with
      | ok u => exact .pure fun _ _ => ⟨hr.spec, hr.created⟩
      | error e =>
        refine .bind (fun _ _ => True) (.attempt fun _ _ => trivial) fun _ => ?_
        exact .bind (fun _ _ => True) (.attempt fun _ _ => trivial)
          fun _ => .fail fun _ _ => trivial

theorem storeWorkload_then {P : Slot → Prop} (h : ∀ s : Slot, P { s with record := r }) :
    Exec.Meets (fun _ => True) (storeWorkload ok r) (Exec.Then (fun _ => P) fun _ _ => True) :=
  storeWorkload_meets (fun s _ => h s) fun _ _ _ => trivial

theorem finish_deployed (hr : r.Deployed specHash) :
    Exec.Meets (fun _ => True) (finish o r c)
      (Exec.Then (fun _ => Slot.Deployed specHash) fun _ _ => True) := by
  refine .bind (fun r _ => r.Deployed specHash ∧ True) ?_ fun r => .assume fun hr => ?_
  · refine (applyRateLimitIfNeeded_meets fun _ _ => id).mono (fun _ => id)
      (Exec.Then.mono ?_ fun _ _ => False.elim)
    rintro _ _ ⟨⟨b, rfl⟩, _⟩
    exact ⟨⟨hr.spec, hr.created⟩, trivial⟩
  · refine .bind (fun a _ => (∀ r, a = .ok r → r.Deployed specHash) ∧ True) (.attempt ?_)
      fun a => .assume fun ha => ?_
    · refine (applySecurityGroupsOrFail_deployed hr).mono (fun _ => id) ?_
      rintro (e | r) t ht
      · exact ⟨nofun, trivial⟩
      · exact ⟨fun _ heq => by cases heq; exact ht, trivial⟩
    · cases a with
      | error e =>
        exact .bind (fun _ _ => True) (storeWorkload_then fun _ => trivial)
          fun _ => .fail fun _ _ => trivial
      | ok r =>
        have hr := ha r rfl
        exact .bind (fun _ => Slot.Deployed specHash)
          (storeWorkload_then fun _ => ⟨hr.spec, hr.created⟩) fun _ => .pure fun _ => id

theorem ensureContainer_deployed (hr : r.specHash = specHash) :
    Exec.Meets (fun _ => True) (ensureContainer o r)
      (Exec.Then (fun a _ => a.1.Deployed specHash) fun _ _ => True) := by
  unfold ensureContainer
  split
  · rename_i c hc
    exact .pure fun _ _ => ⟨hr, hc ▸ rfl⟩
  · split
    · refine .bind (fun _ _ => True) (fun s _ => ?_) fun c => ?_
      · unfold Exec.Then
        split <;> trivial
      · refine .bind (fun _ _ => True) (.attempt fun _ _ => trivial) fun a => ?_
        cases a with
        | ok u => exact .pure fun _ _ => ⟨hr, rfl⟩
        | error e =>
          exact .bind (fun _ _ => True) (.attempt fun _ _ => trivial)
            fun _ => .fail fun _ _ => trivial
    · exact .fail fun _ _ => trivial

theorem launch_deployed (hr : r.specHash = specHash) :
    Exec.Meets (fun _ => True) (launch o r)
      (Exec.Then (fun _ => Slot.Deployed specHash) fun _ _ => True) := by
  have hfailed {r : WorkloadRecord} {e : ExecutorError} :
      Exec.Meets (fun _ => True) (storeWorkload o.persist r >>= fun _ => Exec.fail e)
        (Exec.Then (fun (_ : Nat) => Slot.Deployed specHash) fun _ _ => True) :=
    .bind (fun _ _ => True) (storeWorkload_then fun _ => trivial) fun _ => .fail fun _ _ => trivial
  refine .bind (fun a _ => a.1.Deployed specHash ∧ True) ?_ ?_
  · exact (ensureContainer_deployed hr).mono (fun _ => id)
      (Exec.Then.mono (fun _ _ ha => ⟨ha, trivial⟩) fun _ _ => id)
  · rintro ⟨r, c⟩
    refine .assume fun hr => ?_
    refine .bind (fun _ _ => True) (.attempt fun _ _ => trivial) fun a => ?_
    cases a with
    | error e => exact hfailed
    | ok u =>
      refine .bind (fun _ _ => True) ?_ fun x => ?_
      · exact inspect_meets.mono (fun _ => id)
          (Exec.Then.mono (fun _ _ _ => trivial) fun _ _ _ => trivial)
      · split
        · exact finish_deployed hr
        · exact hfailed

theorem deployAt_deployed (o : DeployOutcomes) (reservation : Reservation) :
    Exec.Meets (fun s => s.record.specHash = specHash) (deployAt o reservation)
      (Exec.Then (fun _ => Slot.Deployed specHash) fun _ _ => True) := by
  refine .get_bind fun s hs => Exec.Meets.mono (P := fun _ => True) ?_ (fun _ _ => trivial)
    fun _ _ => id
  split
  · rename_i c hc
    refine .bind (fun _ _ => True) ?_ fun x => ?_
    · exact inspect_meets.mono (fun _ => id)
        (Exec.Then.mono (fun _ _ _ => trivial) fun _ _ _ => trivial)
    · split
      · exact finish_deployed ⟨hs, hc ▸ rfl⟩
      · split
        · exact .fail fun _ _ => trivial
        · exact launch_deployed hs
  · exact launch_deployed hs

end

section
variable {h : Host} {w : WorkloadId} {s : Slot} {c : Nat} {x : Container} {d : Deployment}

theorem deploy_conflict (hs : h.slot d.workloadId = some s) (hne : s.record.specHash ≠ d.specHash) :
    deploy maxWorkloads d o h = (.error (.state (.workloadConflict d.workloadId)), h) := by
  have hreserve : h.state.reserveWorkload d.workloadId d.candidate maxWorkloads =
      .error (.workloadConflict d.workloadId) := by
    unfold LocalState.reserveWorkload
    rw [Host.workload_of_slot hs]
    exact if_neg hne
  unfold deploy
  rw [hreserve]

theorem deploy_deployed (hok : deploy maxWorkloads d o h = (.ok c, h')) :
    Holds d.workloadId (Slot.Deployed d.specHash) h' := by
  have hslot {s : Slot} {h₀ : Host} {reservation : Reservation}
      (hs : s.record.specHash = d.specHash) (heq : deploy maxWorkloads d o h =
        ((deployAt o reservation s).1, h₀.setSlot d.workloadId (deployAt o reservation s).2)) :
      Holds d.workloadId (Slot.Deployed d.specHash) h' := by
    have hdeployed := deployAt_deployed o reservation s hs
    rw [hok] at heq
    obtain ⟨hresult, rfl⟩ := Prod.mk.inj heq
    rw [← hresult] at hdeployed
    exact ⟨_, by rw [Host.slot_setSlot, if_pos rfl]; rfl, hdeployed⟩
  obtain ⟨e, heq⟩ | ⟨s, hs, heq⟩ | ⟨_, heq⟩ := deploy_cases maxWorkloads d o h
  · rw [hok] at heq
    cases heq
  · by_cases hspec : s.record.specHash = d.specHash
    · exact hslot hspec heq
    · rw [deploy_conflict hs hspec] at hok
      cases hok
  · exact hslot (s := ⟨d.candidate, h.engine d.workloadId⟩) rfl heq

end

end OpenInfra.Agent
