import OpenInfra.Agent.Capacity
import Mathlib.Data.Set.Card

namespace OpenInfra.Agent
open Frame List

def WorkloadPhase.begun : WorkloadPhase → Bool
  | .provisioning | .starting | .running => true
  | _ => false

def Slot.Up (s : Slot) : Prop := s.record.runtime = .container ∧ (¬ Still s ∨ s.record.phase.begun)

def Host.Up (h : Host) (w : WorkloadId) : Prop := ∃ s ∈ h.slot w, s.Up

def LocalState.others (s : LocalState) (w : WorkloadId) (runtime : WorkloadRuntime) : Nat :=
  s.rows.countP fun r => r.1 ≠ w ∧ r.2.runtime = runtime ∧ r.2.phase.consumesCapacity

def WorkloadRecord.Refused (r : WorkloadRecord) : Prop := r.phase = .stopped ∧ r.containerId.isSome

def Call.Launches (maxWorkloads : Nat) (h : Host) : Call → WorkloadId → Prop
  | .deploy d _, w => w = d.workloadId ∧ ¬ (h.recordFor d).Refused ∧
      (h.state.reserveWorkload d.workloadId d.candidate maxWorkloads).isOk
  | _, _ => False

/-- A `deploy` repeated for a workload that is down finds a free slot. -/
def Call.Slotted (maxWorkloads : Nat) (h : Host) : Call → Prop
  | .deploy d _ => ∀ s ∈ h.slot d.workloadId, s.record.specHash = d.specHash → ¬ s.Up →
      ¬ s.record.Refused → h.state.others d.workloadId .container < maxWorkloads
  | _ => True

section
variable {s t : Slot} {r : WorkloadRecord} {c : Nat}

/-- What was still stays still, and nothing comes up. -/
structure Sinks (s t : Slot) : Prop where
  still : Still s → Still t
  up : t.Up → s.Up

theorem Sinks.refl (s : Slot) : Sinks s s := ⟨id, id⟩

theorem Sinks.engine (h : Sinks s t) {u : Slot} (hrecord : u.record = t.record)
    (hrun : ∀ c, ∀ x ∈ u.container c, x.running → ¬ Still t) : Sinks s u := by
  have hstill (ht : Still t) : Still u := fun c x hx hx' => hrun c x hx hx' ht
  refine ⟨hstill ∘ h.still, fun hup => h.up ?_⟩
  unfold Slot.Up at hup
  rw [hrecord] at hup
  exact ⟨hup.1, hup.2.imp_left fun hu ht => hu (hstill ht)⟩

theorem Sinks.exitStable : ExitStable (Sinks s) := by
  intro t c h
  refine h.engine rfl fun c' x hx hrun ht => ?_
  exact ht c' x (running_of_exit hx hrun) hrun

theorem Sinks.remove (h : Sinks s t) (c : Nat) : Sinks s (t.setContainer c none) := by
  refine h.engine rfl fun c' x hx hrun ht => ?_
  exact ht c' x (running_of_remove hx).2 hrun

theorem Sinks.install (h : Sinks s t) (c : Nat) (rules : List SecurityGroupRule) :
    Sinks s (t.setContainer c ((t.container c).map fun x => { x with rules := some rules })) := by
  refine h.engine rfl fun c' x hx hrun ht => ?_
  rw [Slot.container_setContainer] at hx
  split at hx
  · obtain ⟨y, hy, rfl⟩ := Option.map_eq_some_iff.1 hx
    exact ht c y hy hrun
  · exact ht c' x hx hrun

theorem Sinks.store (h : Sinks s t) (hruntime : r.runtime = s.record.runtime)
    (hphase : r.phase.begun → ¬ Still s) : Sinks s { t with record := r } := by
  refine ⟨h.still, fun hup => ⟨hruntime.symm.trans hup.1, .inl ?_⟩⟩
  obtain hrun | hbegun := hup.2
  · exact fun hs => hrun (h.still hs)
  · exact hphase hbegun

theorem stopAt_sinks (o : StopOutcomes) (s : Slot) :
    Exec.Meets (· = s) (stopAt o) fun _ => Sinks s := by
  refine .get_bind ?_
  rintro _ rfl
  split
  · refine .pure ?_
    rintro _ rfl
    exact .refl _
  · split
    · refine .fail ?_
      rintro _ rfl
      exact .refl _
    · rename_i s _ _ c hc
      have hstore (ok : Bool) (p : WorkloadPhase) (hp : p.begun = false) : Exec.Meets (Sinks s)
          (storeWorkload ok { s.record with phase := p }) fun _ => Sinks s := by
        refine storeWorkload_meets (fun t ht => ht.store rfl ?_) fun _ t ht => ht
        intro h
        rw [hp] at h
        cases h
      suffices h : Exec.Meets (Sinks s) _ fun _ => Sinks s by
        refine h.mono ?_ fun _ _ => id
        rintro _ rfl
        exact .refl _
      refine (hstore o.persistStopping .stopping rfl).keep fun _ => ?_
      refine (Sinks.exitStable.engineCall fun t ht => ht.exitStable t c).keep fun _ => ?_
      refine Sinks.exitStable.inspect.keep fun x => ?_
      split
      · exact .fail fun _ => id
      · refine (Sinks.exitStable.engineCall fun t ht => ht.remove c).keep fun _ => ?_
        exact hstore o.persist .stopped rfl

theorem inspect_sinks : Exec.Meets (· = s) (inspect o c) (Exec.Then
    (fun x t => (x.running → ¬ Still s) ∧ Sinks s t) fun _ => Sinks s) := by
  have hexit {t : Slot} (ht : t = s ∨ t = s.exit c) : Sinks s t := by
    obtain rfl | rfl := ht
    · exact .refl _
    · exact Sinks.exitStable s c (.refl s)
  refine inspect_meets.mono (fun _ => id) ?_
  rintro (e | x) t ⟨_, rfl, hx, ht⟩
  · exact hexit ht
  · exact ⟨fun hrun hs => hs c x hx hrun, hexit ht⟩

theorem applySecurityGroupsIfNeeded_sinks :
    Exec.Meets (Sinks s) (applySecurityGroupsIfNeeded o r c) (Exec.Then
      (fun r' t => r'.runtime = r.runtime ∧ Sinks s t) fun _ _ => False) := by
  unfold applySecurityGroupsIfNeeded
  split
  · exact .pure fun t ht => ⟨rfl, ht⟩
  · rename_i rules _
    refine .bind (fun _ => Sinks s) ?_ fun res => ?_
    · exact .attempt (Sinks.exitStable.engineCall fun t ht => ht.install c rules)
    · cases res with
      | ok u => exact .pure fun t ht => ⟨rfl, ht⟩
      | error e => exact .pure fun t ht => ⟨rfl, ht⟩

theorem recoverAt_sinks (o : RecoverOutcomes) (s : Slot) :
    Exec.Meets (· = s) (recoverAt o) fun _ => Sinks s := by
  refine .get_bind ?_
  rintro _ rfl
  have hstore (s : Slot) (p : WorkloadPhase) (hp : p.begun = false) : Exec.Meets (Sinks s)
      (storeWorkload o.persist { s.record with phase := p }) fun _ => Sinks s := by
    refine storeWorkload_meets (fun t ht => ht.store rfl ?_) fun _ t ht => ht
    intro h
    rw [hp] at h
    cases h
  split
  · split
    · refine (hstore _ .failed rfl).mono ?_ fun _ _ => id
      rintro _ rfl
      exact .refl _
    · refine .pure ?_
      rintro _ rfl
      exact .refl _
  · rename_i s _ c hc
    refine .bind _ (.attempt inspect_sinks) ?_
    rintro (e | x)
    · exact hstore s .lost rfl
    · change Exec.Meets _ (if x.running then _ else _) _
      refine .assume fun hseen => ?_
      split
      · rename_i hrun
        refine .bind (fun r t => r.runtime = s.record.runtime ∧ Sinks s t)
          ((applyRateLimitIfNeeded_meets Sinks.exitStable).mono (fun _ => id)
            (Exec.Then.mono ?_ fun _ _ => False.elim)) fun r => ?_
        · rintro _ t ⟨⟨b, rfl⟩, ht⟩
          exact ⟨rfl, ht⟩
        · refine .assume fun hr => ?_
          refine .bind _ (applySecurityGroupsIfNeeded_sinks.infallible) fun r' => ?_
          refine .assume fun hr' => ?_
          refine storeWorkload_meets (fun t ht => ?_) fun _ t ht => ht
          exact ht.store (hr'.trans hr) fun _ => hseen hrun
      · split
        · exact hstore s .stopped rfl
        · exact hstore s .failed rfl

theorem deployAt_refused (hs : Accounted s) (hr : s.record.Refused) :
    Sinks s (deployAt o .existing s).2 := by
  obtain ⟨hphase, hsome⟩ := hr
  obtain ⟨c, hc⟩ := Option.isSome_iff_exists.1 hsome
  have hstill : Still s := hs.still_of_phase (by rw [hphase]; rfl)
  rw [deployAt_existing hc]
  refine Exec.Meets.bind (P := (· = s)) (Q := fun _ => Sinks s) _ inspect_sinks (fun x => ?_) s rfl
  refine .assume fun hseen => ?_
  split
  · rename_i hrun
    exact absurd hstill (hseen hrun)
  · exact .fail fun _ => id

end

theorem Slot.Up.counted (h : s.Up) (hs : Accounted s) :
    s.record.runtime = .container ∧ s.record.phase.consumesCapacity := by
  refine ⟨h.1, ?_⟩
  obtain hrun | hbegun := h.2
  · by_contra hphase
    exact hrun (hs.still_of_phase (Bool.eq_false_iff.2 hphase))
  · generalize s.record.phase = p at hbegun
    revert hbegun
    cases p <;> decide

theorem deploy_slot_of_ne (hne : w ≠ d.workloadId) :
    (deploy maxWorkloads d o h).2.slot w = h.slot w := by
  obtain ⟨e, heq⟩ | ⟨s, _, heq⟩ | ⟨_, heq⟩ := deploy_cases maxWorkloads d o h
  · rw [heq]
  · rw [heq, Host.slot_setSlot, if_neg hne]
  · rw [heq, Host.slot_setSlot, if_neg hne, Host.slot_reserve, if_neg hne]

theorem deploy_up (hh : Host.Each (fun _ => Accounted) h)
    (hw : (deploy maxWorkloads d o h).2.Up w) :
    h.Up w ∨ (Call.deploy d o).Launches maxWorkloads h w := by
  obtain ⟨t, ht, hup⟩ := hw
  by_cases hne : w = d.workloadId
  · cases hres : h.state.reserveWorkload d.workloadId d.candidate maxWorkloads with
    | error e =>
      have heq : deploy maxWorkloads d o h = (.error (.state e), h) := by rw [deploy, hres]
      rw [heq] at ht
      exact .inl ⟨t, ht, hup⟩
    | ok reserved =>
      by_cases hrefused : (h.recordFor d).Refused
      · rw [hne] at ht ⊢
        obtain ⟨e, heq⟩ | ⟨s, hs, heq⟩ | ⟨hnone, _⟩ := deploy_cases maxWorkloads d o h
        · rw [heq] at ht
          exact .inl ⟨t, ht, hup⟩
        · rw [heq, Host.slot_setSlot, if_pos rfl] at ht
          cases ht
          rw [Host.recordFor_eq hs] at hrefused
          exact .inl ⟨s, hs, (deployAt_refused (hh.known _ s hs) hrefused).up hup⟩
        · rw [Host.recordFor_new hnone] at hrefused
          cases hrefused.1
      · exact .inr ⟨hne, hrefused, by rw [hres]; rfl⟩
  · rw [deploy_slot_of_ne hne] at ht
    exact .inl ⟨t, ht, hup⟩

theorem up_step (hh : Host.Each (fun _ => Accounted) h) (hcall : call.Contains h)
    (hw : (step maxWorkloads h call).Up w) : h.Up w ∨ call.Launches maxWorkloads h w := by
  have hself : Host.Each (fun w s => s.Up → h.Up w) h :=
    ⟨fun w s hs hup => ⟨s, hs, hup⟩, hh.unknown⟩
  have hsinks {m : Step Unit} (hm : ∀ s, Exec.Meets (· = s) m fun _ => Sinks s) (w : WorkloadId) :
      Exec.Meets (fun s => s.Up → h.Up w) m fun _ s => s.Up → h.Up w :=
    fun s hs hup => hs ((hm s s rfl).up hup)
  obtain ⟨t, ht, hup⟩ := hw
  cases call with
  | deploy d o => exact deploy_up hh ⟨t, ht, hup⟩
  | stop w' o =>
    exact .inl ((stop_meets (hsinks (stopAt_sinks o) w') h hself).known w t ht hup)
  | recover o =>
    have hrecover := recover_meets (fun w' => hsinks (recoverAt_sinks (o w')) w') (fun _ _ => id)
    exact .inl ((hrecover h hself).known w t ht hup)
  | enforceLeaseExpiry now o =>
    have hexpiry : Exec.Meets (Host.Each fun w s => s.Up → h.Up w) (enforceLeaseExpiry now o)
        fun _ => Host.Each fun w s => s.Up → h.Up w :=
      enforceLeaseExpiry_meets fun w' => hsinks (stopAt_sinks (o w')) w'
    exact .inl ((hexpiry h hself).known w t ht hup)
  | exit w' c =>
    have hexit : Host.Each (fun w s => s.Up → h.Up w) (h.onSlot w' fun s => s.exit c) := by
      refine hself.onSlot fun s hs hup => ⟨s, hs, ?_⟩
      exact (Sinks.exitStable s c (.refl s)).up hup
    exact .inl (hexit.known w t ht hup)
  | restart w' c => exact hcall.elim

theorem encard_others (s : LocalState) (w : WorkloadId) :
    {w' | w' ≠ w ∧ ∃ r ∈ s.workload w', r.runtime = .container ∧ r.phase.consumesCapacity}.encard ≤
      s.others w .container := by
  have hsub : {w' | w' ≠ w ∧ ∃ r ∈ s.workload w', r.runtime = .container ∧
      r.phase.consumesCapacity} ⊆ (((s.rows.filter fun r => r.1 ≠ w ∧
        r.2.runtime = .container ∧ r.2.phase.consumesCapacity).map Prod.fst).toFinset : Set _) := by
    rintro w' ⟨hne, r, hr, hcounted⟩
    obtain ⟨row, hrow, rfl⟩ := Option.map_eq_some_iff.1 hr
    obtain ⟨hmem, rfl⟩ := Table.lookup_eq_some.1 hrow
    rw [coe_toFinset]
    exact mem_map.2 ⟨row, mem_filter.2 ⟨hmem, decide_eq_true ⟨hne, hcounted⟩⟩, rfl⟩
  refine (Set.encard_le_encard hsub).trans ?_
  rw [Set.encard_coe_eq_coe_finsetCard, Nat.cast_le, LocalState.others,
    countP_eq_length_filter]
  refine (toFinset_card_le _).trans ?_
  rw [length_map]

theorem Call.Slotted.free (hcall : (Call.deploy d o).Slotted maxWorkloads h)
    (hlaunch : (Call.deploy d o).Launches maxWorkloads h w) (hdown : ¬ h.Up w) :
    h.state.others w .container < maxWorkloads := by
  obtain ⟨rfl, hrefused, hok⟩ := hlaunch
  unfold LocalState.reserveWorkload at hok
  cases hr : h.state.workload d.workloadId with
  | none =>
    rw [hr] at hok
    dsimp only at hok
    split at hok
    · rename_i hfree
      refine (countP_mono_left fun row _ hrow => ?_).trans_lt hfree
      exact decide_eq_true (of_decide_eq_true hrow).2
    · cases hok
  | some r =>
    have hs : h.slot d.workloadId = some ⟨r, h.engine d.workloadId⟩ := by
      rw [Host.slot, hr]
      rfl
    rw [hr] at hok
    dsimp only at hok
    split at hok
    · rename_i hhash
      rw [Host.recordFor_eq hs] at hrefused
      exact hcall _ hs hhash (fun hup => hdown ⟨_, hs, hup⟩) hrefused
    · cases hok

theorem call_within {call : Call} (hh : Host.Each (fun _ => Accounted) h)
    (hcall : call.Slotted maxWorkloads h) (hup : {w | h.Up w}.encard ≤ maxWorkloads) :
    {w | h.Up w ∨ call.Launches maxWorkloads h w}.encard ≤ maxWorkloads := by
  by_cases hfirst : ∃ w, call.Launches maxWorkloads h w ∧ ¬ h.Up w
  · obtain ⟨w, hw, hdown⟩ := hfirst
    cases call with
    | deploy d o =>
      have hsub : {w' | h.Up w' ∨ (Call.deploy d o).Launches maxWorkloads h w'} ⊆
          insert w {w' | w' ≠ w ∧ ∃ r ∈ h.state.workload w', r.runtime = .container ∧
            r.phase.consumesCapacity} := by
        rintro w' (⟨s, hs, hs'⟩ | hw')
        · by_cases hne : w' = w
          · exact .inl hne
          · have hcounted := hs'.counted (hh.known w' s hs)
            obtain ⟨r, hr, rfl⟩ := Option.map_eq_some_iff.1 hs
            exact .inr ⟨hne, r, hr, hcounted⟩
        · exact .inl (hw'.1.trans hw.1.symm)
      have hfree := hcall.free hw hdown
      calc _ ≤ _ := Set.encard_le_encard hsub
        _ ≤ _ := Set.encard_insert_le _ _
        _ ≤ (h.state.others w .container : ℕ∞) + 1 := by gcongr; exact encard_others h.state w
        _ ≤ maxWorkloads := by exact_mod_cast hfree
    | stop w' o => exact hw.elim
    | recover o => exact hw.elim
    | enforceLeaseExpiry now o => exact hw.elim
    | exit w' c => exact hw.elim
    | restart w' c => exact hw.elim
  · refine (Set.encard_le_encard ?_).trans hup
    rintro w (hw | hw)
    · exact hw
    · exact not_not.1 fun hdown => hfirst ⟨w, hw, hdown⟩

/-- The ceiling holds if repeated deployments find a free slot. -/
theorem ceiling_respected (maxWorkloads : Nat) (calls : List Call)
    (hcalls : Along (step maxWorkloads)
      (fun h call => call.Contains h ∧ call.Slotted maxWorkloads h) Host.empty calls) :
    Throughout (step maxWorkloads) (fun h => {w | h.Up w}.encard ≤ maxWorkloads) Host.empty calls ∧
      Along (step maxWorkloads) (fun h call =>
        {w | h.Up w ∨ call.Launches maxWorkloads h w}.encard ≤ maxWorkloads) Host.empty calls := by
  have hempty : {w | Host.empty.Up w}.encard ≤ maxWorkloads := by
    have hnone : {w | Host.empty.Up w} = ∅ := by
      refine Set.eq_empty_of_forall_notMem ?_
      rintro w ⟨s, hs, _⟩
      cases hs
    rw [hnone, Set.encard_empty]
    exact bot_le
  have hstep (h : Host) (call : Call) :
      (Host.Each (fun _ => Accounted) h ∧ {w | h.Up w}.encard ≤ maxWorkloads) →
      call.Contains h ∧ call.Slotted maxWorkloads h →
      Host.Each (fun _ => Accounted) (step maxWorkloads h call) ∧
        {w | (step maxWorkloads h call).Up w}.encard ≤ maxWorkloads := by
    rintro ⟨hh, hup⟩ ⟨hcontains, hslotted⟩
    refine ⟨accounted_step hh hcontains, ?_⟩
    exact (Set.encard_le_encard fun w => up_step hh hcontains).trans (call_within hh hslotted hup)
  constructor
  · exact (hcalls.throughout ⟨Host.Each.empty, hempty⟩ hstep).mono fun h hh => hh.2
  · exact hcalls.along ⟨Host.Each.empty, hempty⟩ hstep fun h call hh hcall =>
      call_within hh.1 hcall.2 hh.2

theorem ceiling_respected_two_workloads :
    let calls : List Call := [.deploy (webServer 0) .done, .exit 0 0, .recover fun _ => .done,
      .deploy (webServer 0) .done, .stop 0 .done, .deploy (webServer 1) .done]
    Throughout (step 1) (fun h => {w | h.Up w}.encard ≤ (1 : Nat)) Host.empty calls ∧
      Along (step 1) (fun h call => {w | h.Up w ∨ call.Launches 1 h w}.encard ≤ (1 : Nat))
        Host.empty calls := by
  apply ceiling_respected 1
  refine ⟨⟨?_, ?_⟩, ⟨trivial, trivial⟩, ⟨?_, trivial⟩, ⟨?_, ?_⟩, ⟨trivial, trivial⟩, ⟨?_, ?_⟩,
    trivial⟩
  · change DeployOutcomes.Contains _ _
    decide
  · exact fun s hs => nomatch hs
  · exact fun w s hs c hc x hx hrun => rfl
  · change DeployOutcomes.Contains _ _
    decide
  · exact fun s hs _ _ _ => by decide
  · change DeployOutcomes.Contains _ _
    decide
  · exact fun s hs => nomatch hs

theorem ceiling_exceeded :
    let h := run (step 1) Host.empty [.deploy (webServer 0) .done, .exit 0 0,
      .recover fun _ => .done, .deploy (webServer 1) .done, .deploy (webServer 0) .done]
    ¬ {w | ∃ s ∈ h.slot w, s.record.runtime = .container ∧
      ∃ c, ∃ x ∈ s.container c, x.running}.encard ≤ 1 := by
  intro h hle
  have heq := Set.encard_le_one_iff.1 hle 0 1 ⟨_, rfl, rfl, 0, _, rfl, rfl⟩
    ⟨_, rfl, rfl, 0, _, rfl, rfl⟩
  cases heq

end OpenInfra.Agent
