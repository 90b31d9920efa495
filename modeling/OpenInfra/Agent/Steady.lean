import OpenInfra.Agent.Confirm

namespace OpenInfra.Agent
open Frame
open Host (Holds)

/-- `K` survives a change of the fields that the executor rewrites. -/
structure Steady (K : WorkloadRecord → Prop) : Prop where
  phase : ∀ r p, K r → K { r with phase := p }
  rateLimited : ∀ r b, K r → K { r with rateLimited := b }
  securityGroupsApplied : ∀ r b, K r → K { r with securityGroupsApplied := b }
  created : ∀ r c, K r → K { r with containerId := some c }

def Slot.Says (K : WorkloadRecord → Prop) (s : Slot) : Prop := K s.record

theorem Slot.says_onRecord : OnRecord (Slot.Says K) := by
  intro s t ht hs
  unfold Slot.Says
  rwa [ht]

namespace Steady
variable {K : WorkloadRecord → Prop} {r : WorkloadRecord} {c : Nat}

theorem store (hr : K r) : Exec.Meets (Slot.Says K) (storeWorkload ok r) fun _ => Slot.Says K :=
  storeWorkload_meets (fun _ _ => hr) fun _ _ => id

section
variable (hK : Steady K)
include hK

theorem storeFailing (hr : K r) :
    Exec.Meets (Slot.Says K) (storeWorkload ok { r with phase := .failed } >>=
      fun _ => Exec.fail (A := Nat) e) fun _ => Slot.Says K :=
  (store (hK.phase r _ hr)).keep fun _ => .fail fun _ => id

theorem applyRateLimitIfNeeded (hr : K r) :
    Exec.Meets (Slot.Says K) (applyRateLimitIfNeeded o r c)
      (Exec.Then (fun r s => K r ∧ s.Says K) fun _ => Slot.Says K) := by
  refine (applyRateLimitIfNeeded_meets Slot.says_onRecord.exitStable).mono (fun _ => id)
    (Exec.Then.mono ?_ fun _ _ => False.elim)
  rintro _ s ⟨⟨b, rfl⟩, hs⟩
  exact ⟨hK.rateLimited r b hr, hs⟩

theorem applySecurityGroupsOrFail (hr : K r) :
    Exec.Meets (Slot.Says K) (applySecurityGroupsOrFail o r c)
      (Exec.Then (fun r s => K r ∧ s.Says K) fun _ => Slot.Says K) := by
  have hP : OnRecord (Slot.Says K) := Slot.says_onRecord
  unfold OpenInfra.Agent.applySecurityGroupsOrFail
  split
  · exact .pure fun _ hs => ⟨hr, hs⟩
  · split
    · exact .pure fun _ hs => ⟨hr, hs⟩
    · refine .keep_bind (.attempt (hP.engineCall fun _ => rfl)) (fun _ _ => id) fun a => ?_
      cases a with
      | ok u => exact .pure fun _ hs => ⟨hK.securityGroupsApplied r _ hr, hs⟩
      | error e =>
        refine .keep_bind (.attempt (hP.engineCall fun _ => rfl)) (fun _ _ => id) fun _ => ?_
        refine .keep_bind (.attempt (hP.engineCall fun _ => rfl)) (fun _ _ => id) fun _ => ?_
        exact .fail fun _ => id

theorem finish (hr : K r) : Exec.Meets (Slot.Says K) (finish o r c) fun _ => Slot.Says K := by
  refine .bind _ (hK.applyRateLimitIfNeeded hr) fun r => .assume fun hr => ?_
  refine .bind (fun a s => (∀ r, a = .ok r → K r) ∧ s.Says K) (.attempt ?_)
    fun a => .assume fun ha => ?_
  · refine (hK.applySecurityGroupsOrFail hr).mono (fun _ => id) ?_
    rintro (e | r) t ht
    · exact ⟨nofun, ht⟩
    · exact ⟨fun _ heq => by cases heq; exact ht.1, ht.2⟩
  · cases a with
    | error e => exact hK.storeFailing hr
    | ok r => exact (store (hK.phase r _ (ha r rfl))).keep fun _ => .pure fun _ => id

theorem ensureContainer (hr : K r) :
    Exec.Meets (Slot.Says K) (ensureContainer o r)
      (Exec.Then (fun a s => K a.1 ∧ s.Says K) fun _ => Slot.Says K) := by
  have hP : OnRecord (Slot.Says K) := Slot.says_onRecord
  unfold OpenInfra.Agent.ensureContainer
  split
  · exact .pure fun _ hs => ⟨hr, hs⟩
  · split
    · refine .keep_bind hP.create (fun _ _ => id) fun c => ?_
      have hr' := hK.phase _ .starting (hK.created r c hr)
      refine .keep_bind (.attempt (store hr')) (fun _ _ => id) fun a => ?_
      cases a with
      | ok u => exact .pure fun _ hs => ⟨hr', hs⟩
      | error e =>
        refine .keep_bind (.attempt (hP.engineCall fun _ => rfl)) (fun _ _ => id) fun _ => ?_
        exact .fail fun _ => id
    · exact .fail fun _ => id

theorem launch (hr : K r) : Exec.Meets (Slot.Says K) (launch o r) fun _ => Slot.Says K := by
  have hP : OnRecord (Slot.Says K) := Slot.says_onRecord
  refine .bind _ (hK.ensureContainer hr) ?_
  rintro ⟨r, c⟩
  refine .assume fun hr => .keep (.attempt (hP.engineCall fun _ => rfl)) fun a => ?_
  cases a with
  | error e => exact hK.storeFailing hr
  | ok u =>
    refine .keep hP.exitStable.inspect fun x => ?_
    split
    · exact hK.finish hr
    · exact hK.storeFailing hr

theorem deployAt (o : DeployOutcomes) (reservation : Reservation) :
    Exec.Meets (Slot.Says K) (deployAt o reservation) fun _ => Slot.Says K := by
  refine .read_bind fun s hs => ?_
  split
  · refine .keep Slot.says_onRecord.exitStable.inspect fun x => ?_
    split
    · exact hK.finish hs
    · split
      · exact .fail fun _ => id
      · exact hK.launch hs
  · exact hK.launch hs

theorem stopAt (o : StopOutcomes) : Exec.Meets (Slot.Says K) (stopAt o) fun _ => Slot.Says K := by
  have hP : OnRecord (Slot.Says K) := Slot.says_onRecord
  refine .read_bind fun s hs => ?_
  split
  · exact .pure fun _ => id
  · split
    · exact .fail fun _ => id
    · refine (store (hK.phase _ _ hs)).keep fun _ => ?_
      refine .keep (hP.engineCall fun _ => rfl) fun _ => ?_
      refine .keep hP.exitStable.inspect fun x => ?_
      split
      · exact .fail fun _ => id
      · exact .keep (hP.engineCall fun _ => rfl) fun _ => store (hK.phase _ _ hs)

theorem applySecurityGroupsIfNeeded (hr : K r) :
    Exec.Meets (Slot.Says K) (applySecurityGroupsIfNeeded o r c)
      (Exec.Then (fun r s => K r ∧ s.Says K) fun _ => Slot.Says K) := by
  have hP : OnRecord (Slot.Says K) := Slot.says_onRecord
  unfold OpenInfra.Agent.applySecurityGroupsIfNeeded
  split
  · exact .pure fun _ hs => ⟨hr, hs⟩
  · refine .keep_bind (.attempt (hP.engineCall fun _ => rfl)) (fun _ _ => id) fun a => ?_
    cases a with
    | ok u => exact .pure fun _ hs => ⟨hK.securityGroupsApplied r _ hr, hs⟩
    | error e => exact .pure fun _ hs => ⟨hr, hs⟩

theorem recoverAt (o : RecoverOutcomes) :
    Exec.Meets (Slot.Says K) (recoverAt o) fun _ => Slot.Says K := by
  have hP : OnRecord (Slot.Says K) := Slot.says_onRecord
  refine .read_bind fun s hs => ?_
  split
  · split
    · exact store (hK.phase _ _ hs)
    · exact .pure fun _ => id
  · refine .keep (.attempt hP.exitStable.inspect) fun a => ?_
    cases a with
    | error e => exact store (hK.phase _ _ hs)
    | ok x =>
      dsimp only
      split
      · refine .bind _ (hK.applyRateLimitIfNeeded hs) fun r => .assume fun hr => ?_
        refine .bind _ (hK.applySecurityGroupsIfNeeded hr) fun r => .assume fun hr => ?_
        exact store (hK.phase _ _ hr)
      · split
        · exact store (hK.phase _ _ hs)
        · exact store (hK.phase _ _ hs)

theorem step (maxWorkloads : Nat) (call : Call) (h : Holds w (Slot.Says K) host) :
    Holds w (Slot.Says K) (step maxWorkloads host call) :=
  step_holds (fun o => hK.deployAt o .existing) hK.stopAt hK.recoverAt
    Slot.says_onRecord.exitStable (fun _ _ => id) maxWorkloads call h

theorem run (maxWorkloads : Nat) (calls : List Call) (h : Holds w (Slot.Says K) host) :
    Holds w (Slot.Says K) (run (OpenInfra.Agent.step maxWorkloads) host calls) :=
  run_invariant h (fun _ call => hK.step maxWorkloads call) calls

end

end Steady

/-- Only the fields that the executor rewrites differ. -/
def WorkloadRecord.Agrees (r r' : WorkloadRecord) : Prop :=
  ∃ phase rateLimited securityGroupsApplied containerId,
    r' = { r with phase, rateLimited, securityGroupsApplied, containerId }

theorem WorkloadRecord.agrees_steady (r : WorkloadRecord) : Steady r.Agrees := by
  constructor <;> rintro _ x ⟨p, b, g, c, rfl⟩
  · exact ⟨x, b, g, c, rfl⟩
  · exact ⟨p, x, g, c, rfl⟩
  · exact ⟨p, b, x, c, rfl⟩
  · exact ⟨p, b, g, some x, rfl⟩

def RecordsKept (h h' : Host) : Prop :=
  ∀ w, ∀ s ∈ h.slot w, ∃ s' ∈ h'.slot w, s.record.Agrees s'.record

theorem records_kept (maxWorkloads : Nat) (h : Host) (calls : List Call) :
    RecordsKept h (run (step maxWorkloads) h calls) := by
  intro w s hs
  exact s.record.agrees_steady.run maxWorkloads calls ⟨s, hs, _, _, _, _, rfl⟩

end OpenInfra.Agent
