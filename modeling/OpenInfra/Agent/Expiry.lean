import OpenInfra.Agent.Capacity
import OpenInfra.Agent.Confirm

namespace OpenInfra.Agent
open Frame
open Host (Holds)

def WorkloadRecord.Watched (r : WorkloadRecord) : Prop := r.phase = .starting ∨ r.phase = .running

instance (r : WorkloadRecord) : Decidable r.Watched := inferInstanceAs (Decidable (_ ∨ _))

def Slot.Attended (s : Slot) : Prop := s.Runs → s.record.Watched

structure StopOutcomes.EngineSucceeds (o : StopOutcomes) : Prop where
  stop : o.stop.ok = true
  inspect : o.inspect.ok = true
  remove : o.remove.ok = true

def StopOutcomes.Clean (o : StopOutcomes) : Prop :=
  o.persistStopping = true → o.stop.effective = true ∨ o.stop.exits = true

section
variable {s t : Slot} {c : Nat}

variable {r : WorkloadRecord} {last : Int}

theorem WorkloadRecord.expired_iff
    (hlast : r.leaseEnd = some last) :
    r.Expired now ↔ r.Watched ∧ min (last + clockSkewToleranceSecs) (2 ^ 63 - 1) ≤ now := by
  unfold WorkloadRecord.Expired WorkloadRecord.Watched
  rw [hlast]
  simp only [Option.mem_some_iff, exists_eq_left']

theorem WorkloadRecord.Watched.live (h : r.Watched) : ¬ r.Halted := by
  unfold WorkloadRecord.Halted
  obtain h | h := h
  · rw [h]
    decide
  · rw [h]
    decide

structure Slot.OffAt (c : Nat) (s : Slot) : Prop where
  recorded : s.record.containerId = some c
  off : Off c s

theorem Slot.OffAt.not_runs (h : s.OffAt c) : ¬ s.Runs := by
  rintro ⟨c', hc', x, hx, hrun⟩
  rw [h.recorded] at hc'
  cases hc'
  exact h.off x hx hrun

theorem Slot.OffAt.exitStable : ExitStable (Slot.OffAt c) :=
  fun s c' h => ⟨h.recorded, h.off.exitStable s c'⟩

theorem Off.exit_self (s : Slot) (c : Nat) : Off c (s.exit c) := by
  intro x hx
  rw [Slot.container_exit_self] at hx
  obtain ⟨y, _, rfl⟩ := Option.map_eq_some_iff.1 hx
  rw [Slot.halted_running]
  exact Bool.false_ne_true

theorem stopContainer_off (ho : o.effective = true ∨ o.exits = true) :
    Exec.Meets (fun s => s.record.containerId = some c) (stopContainer o c)
      fun _ => Slot.OffAt c := by
  intro s hs
  unfold stopContainer engineCall
  split
  · rename_i hnone
    refine ⟨hs, fun x hx => ?_⟩
    rw [hx] at hnone
    cases hnone
  · cases hexits : o.exits with
    | true =>
      refine ⟨?_, Off.exit_self _ c⟩
      split <;> exact hs
    | false =>
      rw [ho.resolve_right (by rw [hexits]; exact Bool.false_ne_true)]
      exact ⟨hs, Off.exit_self s c⟩

theorem stopAt_quiets (hlive : ¬ s.record.Halted) (hp : o.persistStopping = true)
    (ho : o.stop.effective = true ∨ o.stop.exits = true) : ¬ (stopAt o s).2.Runs := by
  cases hc : s.record.containerId with
  | none =>
    rw [stopAt_none hlive hc]
    rintro ⟨c, hc', _⟩
    rw [hc] at hc'
    cases hc'
  | some c =>
    rw [stopAt_live hlive hc]
    apply Slot.OffAt.not_runs (c := c)
    suffices h : Exec.Meets (fun s => s.record.containerId = some c) _ fun _ => Slot.OffAt c from
      h s hc
    refine .bind (fun _ s => s.record.containerId = some c) ?_ fun _ => ?_
    · exact storeWorkload_meets (fun _ _ => hc) fun hno => absurd hp (by rw [hno]; decide)
    refine .bind (fun _ => Slot.OffAt c) ((stopContainer_off ho).mono (fun _ => id) ?_) fun _ => ?_
    · rintro (e | u) t ht
      · exact ht
      · exact ht
    refine Slot.OffAt.exitStable.inspect.keep fun x => ?_
    split
    · exact .fail fun _ => id
    · refine .keep ?_ fun _ => ?_
      · exact Slot.OffAt.exitStable.engineCall fun s hs => ⟨hs.recorded, hs.off.remove⟩
      · exact storeWorkload_meets (fun s hs => ⟨hc, hs.off⟩) fun _ _ => id

theorem stopAt_not_persisted (hlive : ¬ s.record.Halted) (hp : o.persistStopping = false) :
    (stopAt o s).2 = s := by
  cases hc : s.record.containerId with
  | none => rw [stopAt_none hlive hc]
  | some c =>
    rw [stopAt_live hlive hc, hp]
    rfl

theorem stopAt_attended (ho : o.Clean) :
    Exec.Meets Slot.Attended (stopAt o) fun _ => Slot.Attended := by
  intro s hs
  by_cases hhalt : s.record.Halted
  · rw [stopAt_halted hhalt]
    exact hs
  · cases hp : o.persistStopping with
    | false => exact (congrArg Slot.Attended (stopAt_not_persisted hhalt hp)).mpr hs
    | true => exact fun hrun => absurd hrun (stopAt_quiets hhalt hp (ho hp))

theorem Slot.Attended.of_not_runs (h : ¬ s.Runs) : s.Attended := fun hrun => absurd hrun h

theorem Slot.Attended.of_watched (h : s.record.Watched) : s.Attended := fun _ => h

theorem recoverAt_attended (ho : o.inspect.ok = true) :
    Exec.Meets Slot.Attended (recoverAt o) fun _ => Slot.Attended := by
  refine .get_bind fun s hs => ?_
  split
  · rename_i hc
    have hnone (t : Slot) (ht : t.record.containerId = none) : t.Attended := by
      apply Slot.Attended.of_not_runs
      rintro ⟨c, hc', _⟩
      rw [ht] at hc'
      cases hc'
    split
    · refine storeWorkload_meets (fun t _ => hnone _ hc) ?_
      rintro _ t rfl
      exact hs
    · refine .pure ?_
      rintro t rfl
      exact hs
  · rename_i c hc
    have hstore (p : WorkloadPhase) : Exec.Meets (Slot.OffAt c)
        (storeWorkload o.persist { s.record with phase := p }) fun _ => Slot.Attended :=
      storeWorkload_meets (fun t ht => .of_not_runs (Slot.OffAt.not_runs ⟨hc, ht.off⟩))
        fun _ t ht => .of_not_runs ht.not_runs
    refine .bind (Exec.Then
      (fun x t => (x.running → t.record.Watched) ∧ (¬ x.running → t.OffAt c))
      fun _ t => t.OffAt c) (.attempt ?_) ?_
    · refine inspect_meets.mono (fun _ => id) ?_
      rintro (e | x) t ⟨s', hs', hx, ht⟩ <;> rw [hs'] at hx ht
      · have hoff : Slot.OffAt c s := by
          refine ⟨hc, fun x hx' => ?_⟩
          rw [hx ho] at hx'
          cases hx'
        obtain rfl | rfl := ht
        · exact hoff
        · exact hoff.exitStable _ c
      · refine ⟨fun hrun => ?_, fun hrun => ?_⟩
        · have hwatched : s.record.Watched := hs ⟨c, hc, x, hx, hrun⟩
          obtain rfl | rfl := ht
          · exact hwatched
          · exact hwatched
        · have hoff : Slot.OffAt c s := by
            refine ⟨hc, fun y hy => ?_⟩
            have heq : x = y := Option.some.inj (hx.symm.trans hy)
            exact heq ▸ hrun
          obtain rfl | rfl := ht
          · exact hoff
          · exact hoff.exitStable _ c
    · rintro (e | x)
      · exact hstore .lost
      · dsimp only
        split
        · rename_i hrun
          have hP : OnRecord fun t => t.record.Watched := fun t u hu h =>
            (congrArg WorkloadRecord.Watched hu).mpr h
          refine Exec.Meets.mono (P := fun t => t.record.Watched) ?_ (fun t ht => ht.1 hrun)
            fun _ _ => id
          refine .bind (fun _ t => t.record.Watched) ?_ fun r =>
            .bind (fun _ t => t.record.Watched) ?_ fun r => ?_
          · exact hP.applyRateLimitIfNeeded.infallible
          · exact hP.applySecurityGroupsIfNeeded.infallible
          · exact storeWorkload_meets (fun _ _ => .of_watched (.inr rfl))
              fun _ t ht => .of_watched ht
        · rename_i hrun
          refine Exec.Meets.mono (P := Slot.OffAt c) ?_ (fun t ht => ht.2 hrun) fun _ _ => id
          split
          · exact hstore .stopped
          · exact hstore .failed

theorem Slot.Attended.exitStable : ExitStable Slot.Attended := by
  rintro s c hs ⟨c', hc', x, hx, hrun⟩
  exact hs ⟨c', hc', x, running_of_exit hx hrun, hrun⟩

/-- No `stop` half-way, no blind recovery, no restart. -/
def Call.Clean (w : WorkloadId) : Call → Prop
  | .enforceLeaseExpiry _ o => (o w).Clean
  | .stop w' o => w' = w → o.Clean
  | .recover o => (o w).inspect.ok = true
  | .deploy d _ => d.workloadId ≠ w
  | .restart w' _ => w' ≠ w
  | .exit .. => True

end

section
variable {h : Host} {w : WorkloadId} {s t : Slot}

theorem attended_step (maxWorkloads : Nat) (hcall : call.Clean w)
    (hI : Holds w Slot.Attended h) : Holds w Slot.Attended (step maxWorkloads h call) := by
  cases call with
  | deploy d o =>
    change Holds w Slot.Attended (deploy maxWorkloads d o h).2
    obtain ⟨e, heq⟩ | ⟨s, hs, heq⟩ | ⟨hnone, heq⟩ := deploy_cases maxWorkloads d o h
    · rwa [heq]
    · rw [heq]
      exact hI.setSlot fun hw => absurd hw hcall
    · rw [heq]
      exact (hI.reserve hnone).setSlot fun hw => absurd hw hcall
  | stop w' o => exact stop_holds (fun hw => stopAt_attended (hcall hw)) h hI
  | recover o =>
    refine Exec.Meets.keep (.get fun _ => id) (fun h' => ?_) h hI
    refine .forM (fun r => onWorkload_holds fun hw => ?_) _
    rw [hw]
    exact recoverAt_attended hcall
  | enforceLeaseExpiry now o =>
    refine Exec.Meets.keep (.get fun _ => id) (fun h' => ?_) h hI
    apply Exec.Meets.foldlM
    intro stopped r
    unfold expireOne
    split
    · refine .keep (.attempt (stop_holds fun hw => ?_)) fun a => ?_
      · rw [hw]
        exact stopAt_attended hcall
      · cases a with
        | ok u => exact .pure fun _ => id
        | error e => exact .pure fun _ => id
    · exact .pure fun _ => id
  | exit w' c => exact hI.onSlot fun s => Slot.Attended.exitStable s c
  | restart w' c =>
    change Holds w Slot.Attended (h.onSlot w' fun s => s.restart c)
    unfold Host.onSlot
    split
    · exact hI
    · exact hI.setSlot fun hw => absurd hw hcall

theorem slot_of_pass (hs : h.slot w = some s) (now : Int) (o : WorkloadId → StopOutcomes) :
    (enforceLeaseExpiry now o h).2.slot w =
      some (if s.record.Expired now then (stopAt (o w) s).2 else s) := by
  obtain ⟨_, _, _, hslot⟩ := enforceLeaseExpiry_slots now o h
  rw [hslot, hs]
  rfl

theorem pass_stops (hs : h.slot w = some s) (hlast : s.record.leaseEnd = some last)
    (hnow : last + clockSkewToleranceSecs ≤ now) (ho : (o w).EngineSucceeds) :
    (∀ t ∈ (enforceLeaseExpiry now o h).2.slot w, ¬ t.Runs) ↔
      s.record.Watched ∧ (o w).persistStopping = true ∨ ¬ s.Runs := by
  rw [slot_of_pass hs]
  have hexp : s.record.Expired now ↔ s.record.Watched := by
    rw [WorkloadRecord.expired_iff hlast]
    exact and_iff_left (le_trans (min_le_left _ _) hnow)
  simp only [Option.mem_some_iff, forall_eq']
  by_cases hwatched : s.record.Watched
  · rw [if_pos (hexp.2 hwatched)]
    cases hp : (o w).persistStopping with
    | true =>
      have heffective : (o w).stop.effective = true := by rw [Outcome.effective, ho.stop]; rfl
      exact ⟨fun _ => .inl ⟨hwatched, rfl⟩,
        fun _ => stopAt_quiets hwatched.live hp (.inl heffective)⟩
    | false =>
      rw [stopAt_not_persisted hwatched.live hp]
      exact ⟨.inr, fun h => h.resolve_left fun h => Bool.false_ne_true h.2⟩
  · rw [if_neg fun h => hwatched (hexp.1 h)]
    exact ⟨.inr, fun h => h.resolve_left fun h => hwatched h.1⟩

def LeftAlone (now : Int) (o : WorkloadId → StopOutcomes) (w : WorkloadId) (h : Host) : Prop :=
  (∀ stopped, (enforceLeaseExpiry now o h).1 = .ok stopped → w ∉ stopped) ∧
    (enforceLeaseExpiry now o h).2.slot w = h.slot w

theorem leftAlone_iff (hs : h.slot w = some s) (now : Int) (o : WorkloadId → StopOutcomes) :
    LeftAlone now o w h ↔
      (s.record.Expired now → (stopAt (o w) s).1 ≠ .ok () ∧ (stopAt (o w) s).2 = s) := by
  obtain ⟨stopped, hok, hmem, _⟩ := enforceLeaseExpiry_slots now o h
  unfold LeftAlone
  rw [slot_of_pass hs, hok, hs]
  simp only [Except.ok.injEq, forall_eq', hmem, hs, Option.mem_some_iff, exists_eq_left',
    Option.some.injEq]
  by_cases hexp : s.record.Expired now
  · simp only [hexp, true_and, if_true, true_implies, ne_eq]
  · simp only [hexp, false_and, if_false, not_false_eq_true, and_self, false_implies]

theorem pass_early (hs : h.slot w = some s) (hlast : s.record.leaseEnd = some last)
    (hnow : now < last + clockSkewToleranceSecs) :
    (∀ o, LeftAlone now o w h) ↔
      now < 2 ^ 63 - 1 ∨ ¬ s.record.Watched ∨ s.record.containerId = none := by
  have hexp : s.record.Expired now ↔ s.record.Watched ∧ 2 ^ 63 - 1 ≤ now := by
    rw [WorkloadRecord.expired_iff hlast, min_le_iff, or_iff_right (not_le.2 hnow)]
  simp only [leftAlone_iff hs]
  constructor
  · intro halone
    by_contra hcond
    obtain ⟨hlate, hcond⟩ := not_or.1 hcond
    obtain ⟨hwatched, hc⟩ := not_or.1 hcond
    have hwatched := not_not.1 hwatched
    obtain ⟨c, hc⟩ := Option.ne_none_iff_exists'.1 hc
    obtain ⟨hnot, hsame⟩ := halone (fun _ => .done) (hexp.2 ⟨hwatched, not_lt.1 hlate⟩)
    cases hx : s.container c with
    | some x => exact hnot (stopAt_succeeds .done hwatched.live hc hx)
    | none =>
      have hphase : (stopAt .done s).2.record.phase = .stopping := by
        rw [stopAt_live hwatched.live hc]
        suffices h : Exec.Meets (fun s : Slot => s.container c = none) _ fun _ (t : Slot) =>
          t.record.phase = .stopping from h s hx
        refine .bind (fun _ t => t.record.phase = .stopping ∧ t.container c = none) ?_ fun _ => ?_
        · exact fun t ht => ⟨rfl, ht⟩
        · intro t ht
          have hcall : stopContainer StopOutcomes.done.stop c t = (.error .engine, t) :=
            engineCall_missing ht.2
          rw [Exec.bind_of_error hcall]
          exact ht.1
      rw [hsame] at hphase
      obtain h' | h' := hwatched
      · rw [h'] at hphase; cases hphase
      · rw [h'] at hphase; cases hphase
  · rintro hcond o hexpired
    obtain ⟨hwatched, hlate⟩ := hexp.1 hexpired
    obtain hearly | hnot | hc := hcond
    · exact absurd hearly (not_lt.2 hlate)
    · exact absurd hwatched hnot
    · rw [stopAt_none hwatched.live hc]
      exact ⟨nofun, rfl⟩

end

/-- Stopped exactly if its record is watched and stored, or nothing runs. -/
theorem expired_lease_stopped (maxWorkloads : Nat) :
    (∀ (h : Host) (w : WorkloadId) (s : Slot) (last now : Int) (o : WorkloadId → StopOutcomes),
      h.slot w = some s → s.record.leaseEnd = some last → last + clockSkewToleranceSecs ≤ now →
      (o w).EngineSucceeds →
      ((∀ t ∈ (enforceLeaseExpiry now o h).2.slot w, ¬ t.Runs) ↔
        s.record.Watched ∧ (o w).persistStopping = true ∨ ¬ s.Runs)) ∧
    (∀ (h : Host) (w : WorkloadId) (s : Slot) (last now : Int),
      h.slot w = some s → s.record.leaseEnd = some last → now < last + clockSkewToleranceSecs →
      ((∀ o, LeftAlone now o w h) ↔
        now < 2 ^ 63 - 1 ∨ ¬ s.record.Watched ∨ s.record.containerId = none)) ∧
    ∀ (h : Host) (w : WorkloadId) (calls : List Call) (s : Slot) (last now : Int)
      (o : WorkloadId → StopOutcomes), Holds w Slot.Attended h →
      Along (step maxWorkloads) (fun _ call => call.Clean w) h calls →
      (run (step maxWorkloads) h calls).slot w = some s → s.record.leaseEnd = some last →
      last + clockSkewToleranceSecs ≤ now → (o w).EngineSucceeds →
      (o w).persistStopping = true →
      ∀ t ∈ (enforceLeaseExpiry now o (run (step maxWorkloads) h calls)).2.slot w, ¬ t.Runs := by
  refine ⟨fun h w s last now o hs hlast hnow ho => pass_stops hs hlast hnow ho,
    fun h w s last now hs hlast hnow => pass_early hs hlast hnow, ?_⟩
  intro h w calls s last now o hI hclean hs hlast hnow ho hp
  obtain ⟨t, ht, hattended⟩ : Holds w Slot.Attended (run (step maxWorkloads) h calls) :=
    hclean.invariant hI fun h call hI hcall => attended_step maxWorkloads hcall hI
  rw [hs] at ht
  cases ht
  refine (pass_stops hs hlast hnow ho).2 ?_
  by_cases hrun : s.Runs
  · exact .inl ⟨hattended hrun, hp⟩
  · exact .inr hrun

theorem expired_lease_stopped_web_server :
    let h := (deploy 1 (webServer 0) .done Host.empty).2
    let calls : List Call := [.enforceLeaseExpiry 1119 fun _ => .done,
      .enforceLeaseExpiry 1120 fun _ => { StopOutcomes.done with persistStopping := false }]
    ((run (step 1) h calls).slot 0).map (·.record.phase) = some .running ∧
      ∀ t ∈ (enforceLeaseExpiry 1135 (fun _ => .done) (run (step 1) h calls)).2.slot 0,
        ¬ t.Runs := by
  intro h calls
  refine ⟨rfl, ?_⟩
  refine (expired_lease_stopped 1).2.2 h 0 calls _ 1000 1135 (fun _ => .done) ?_ ?_ rfl rfl
    (by decide) ⟨rfl, rfl, rfl⟩ rfl
  · exact ⟨_, rfl, .of_watched (.inr rfl)⟩
  · exact ⟨fun _ => .inl rfl, nofun, trivial⟩

theorem expired_lease_forgotten :
    (let h := (deploy 1 (webServer 0) .done Host.empty).2
      let stuck := (enforceLeaseExpiry 1120
        (fun _ => { StopOutcomes.done with stop := .lost }) h).2
      let later := (enforceLeaseExpiry 1000000 (fun _ => .done)
        (enforceLeaseExpiry 1135 (fun _ => .done) stuck).2).2
      ∃ s ∈ later.slot 0, s.record.phase = .stopping ∧ s.Runs) ∧
    (enforceLeaseExpiry (2 ^ 63 - 1) (fun _ => .done)
      (deploy 1 { webServer 0 with leaseEnd := 2 ^ 63 - 1 } .done Host.empty).2).1 = .ok [0] :=
  ⟨⟨_, rfl, rfl, 0, rfl, _, rfl, rfl⟩, rfl⟩

end OpenInfra.Agent
