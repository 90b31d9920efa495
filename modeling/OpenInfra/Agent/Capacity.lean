import OpenInfra.Agent.DockerExecutor

namespace OpenInfra.Agent
open Frame

section
variable {s t : Slot} {r : WorkloadRecord} {c : Nat}

def Only (c : Nat) (s : Slot) : Prop := ∀ c', ∀ x ∈ s.container c', x.running → c' = c

def Still (s : Slot) : Prop := ∀ c, ∀ x ∈ s.container c, ¬ x.running

/-- What runs is in the record, which takes up capacity. -/
def Accounted (s : Slot) : Prop :=
  ∀ c, ∀ x ∈ s.container c, x.running →
    s.record.containerId = some c ∧ s.record.phase.consumesCapacity

theorem running_of_exit (h : (s.exit c).container c' = some x) (hrun : x.running) :
    s.container c' = some x := by
  obtain ⟨y, hy, rfl | rfl⟩ := Slot.container_exit h
  · exact hy
  · rw [Slot.halted_running] at hrun
    cases hrun

theorem running_of_remove (h : (s.setContainer c none).container c' = some x) :
    c' ≠ c ∧ s.container c' = some x := by
  rw [Slot.container_setContainer] at h
  split at h
  · cases h
  · exact ⟨‹_›, h⟩

theorem Only.exitStable : ExitStable (Only c) :=
  fun _ _ h c' x hx hrun => h c' x (running_of_exit hx hrun) hrun

theorem Still.exitStable : ExitStable Still :=
  fun _ _ h c x hx hrun => h c x (running_of_exit hx hrun) hrun

theorem Accounted.exitStable : ExitStable Accounted :=
  fun _ _ h c x hx hrun => h c x (running_of_exit hx hrun) hrun

theorem Still.only (h : Still s) : Only c s := fun c x hx hrun => absurd hrun (h c x hx)

theorem Still.accounted (h : Still s) : Accounted s := fun c x hx hrun => absurd hrun (h c x hx)

theorem Only.remove (h : Only c s) : Still (s.setContainer c none) := by
  intro c' x hx hrun
  obtain ⟨hne, hx⟩ := running_of_remove hx
  exact hne (h c' x hx hrun)

theorem Only.still_exit (h : Only c s) : Still (s.exit c) := by
  intro c' x hx hrun
  cases h c' x (running_of_exit hx hrun) hrun
  rw [Slot.exit, Slot.container_set_self] at hx
  obtain ⟨y, _, rfl⟩ := Option.map_eq_some_iff.1 hx
  rw [Slot.halted_running] at hrun
  cases hrun

theorem Only.still (h : Only c s) (hc : ∀ x ∈ s.container c, ¬ x.running) : Still s := by
  intro c' x hx hrun
  cases h c' x hx hrun
  exact hc x hx hrun

theorem Accounted.only (h : Accounted s) (hc : s.record.containerId = some c) : Only c s := by
  intro c' x hx hrun
  exact Option.some.inj ((h c' x hx hrun).1.symm.trans hc)

theorem Accounted.still_of_none (h : Accounted s) (hc : s.record.containerId = none) : Still s := by
  intro c x hx hrun
  rw [(h c x hx hrun).1] at hc
  cases hc

theorem Accounted.still_of_phase (h : Accounted s) (hp : s.record.phase.consumesCapacity = false) :
    Still s := by
  intro c x hx hrun
  rw [(h c x hx hrun).2] at hp
  cases hp

theorem Only.accounted (h : Only c s) (hc : s.record.containerId = some c)
    (hp : s.record.phase.consumesCapacity) : Accounted s := by
  intro c' x hx hrun
  cases h c' x hx hrun
  exact ⟨hc, hp⟩

theorem Still.add (h : Still s) : Still s.add := by
  intro c x hx
  change Function.update s.engine.get s.engine.created _ c = some x at hx
  rw [Function.update_apply] at hx
  split at hx
  · cases hx
    nofun
  · exact h c x hx

theorem Only.restart (h : Still s) : Only c (s.restart c) := by
  intro c' x hx hrun
  rw [Slot.restart, Slot.container_setContainer] at hx
  split at hx
  · assumption
  · exact absurd hrun (h c' x hx)

theorem Only.install (h : Only c s) (rules : List SecurityGroupRule) :
    Only c (s.setContainer c ((s.container c).map fun x => { x with rules := some rules })) := by
  intro c' x hx hrun
  rw [Slot.container_setContainer] at hx
  split at hx
  · assumption
  · exact h c' x hx hrun

/-- Container `c` has been started, and nothing else runs. -/
structure Started (r : WorkloadRecord) (c : Nat) (s : Slot) : Prop where
  only : Only c s
  record : s.record = r

theorem Started.exitStable : ExitStable (Started r c) :=
  fun s c' h => ⟨h.only.exitStable s c', h.record⟩

theorem Started.seen (h : Started r c s) (hx : s.container c = some x)
    (ht : t = s ∨ t = s.exit c) : Started r c t ∧ (¬ x.running → Still t) := by
  have hstill (hrun : ¬ x.running) : Still s := by
    refine h.only.still fun y hy => ?_
    cases Option.some.inj (hx.symm.trans hy)
    exact hrun
  obtain rfl | rfl := ht
  · exact ⟨h, hstill⟩
  · exact ⟨h.exitStable s c, fun hrun => (hstill hrun).exitStable s c⟩

theorem engineCall_still
    (heff : ∀ s, Only c s → Still (effect s)) (hrecord : ∀ s, (effect s).record = s.record) :
    Exec.Meets (fun s => Started r c s ∧ (p → Still s)) (engineCall o c (fun _ => true) effect)
      fun _ s => Started r c s ∧ (p ∨ o.effective → Still s) := by
  have hdown (s : Slot) (hs : Started r c s) :
      Started r c (effect s) ∧ (p ∨ o.effective → Still (effect s)) := by
    have hstill := heff s hs.only
    exact ⟨⟨hstill.only, (hrecord s).trans hs.record⟩, fun _ => hstill⟩
  refine engineCall_meets ?_ ?_ (fun s _ _ hs _ => hdown s hs.1) fun _ _ s _ _ hs _ => hdown s hs.1
  · intro _ s c' hs
    exact ⟨hs.1.exitStable s c', fun h => (hs.2 h).exitStable s c'⟩
  · intro s hs hmiss
    refine ⟨hs.1, ?_⟩
    rintro (hp | ho)
    · exact hs.2 hp
    · refine hs.1.only.still fun x hx => ?_
      rw [hmiss x hx rfl] at ho
      cases ho

theorem applySecurityGroups_started :
    Exec.Meets (Started r c) (applySecurityGroups o c rules) fun res s =>
      Started r c s ∧ (res ≠ .ok () → o.ok → Still s) := by
  refine engineCall_meets ?_ ?_ ?_ ?_
  · intro _ s c' hs
    exact ⟨hs.1.exitStable s c', fun h h' => (hs.2 h h').exitStable s c'⟩
  · intro s hs hmiss
    refine ⟨hs, fun _ hok => hs.only.still fun x hx hrun => ?_⟩
    have heff := hmiss x hx hrun
    rw [Outcome.effective, hok] at heff
    cases heff
  · intro s _ _ hs _
    exact ⟨⟨hs.only.install rules, hs.record⟩, fun h => absurd rfl h⟩
  · intro hok _ s _ _ hs _
    refine ⟨⟨hs.only.install rules, hs.record⟩, fun _ h => ?_⟩
    rw [hok] at h
    cases h

theorem applySecurityGroupsOrFail_started
    (hdown : o.applySecurityGroups.ok ∨ o.stop.effective ∨ o.remove.effective) :
    Exec.Meets (Started r₀ c) (applySecurityGroupsOrFail o r c) (Exec.Then
      (fun r' s => r'.containerId = r.containerId ∧ Started r₀ c s) fun _ s => Still s) := by
  unfold applySecurityGroupsOrFail
  split
  · exact .pure fun s hs => ⟨rfl, hs⟩
  · split
    · exact .pure fun s hs => ⟨rfl, hs⟩
    · refine .bind _ (.attempt applySecurityGroups_started) fun res => ?_
      cases res with
      | ok u => exact .pure fun s hs => ⟨rfl, hs.1⟩
      | error e =>
        have hstop := engineCall_still (o := o.stop) (c := c) (r := r₀)
          (p := o.applySecurityGroups.ok) (fun _ => Only.still_exit) fun _ => rfl
        have hremove := engineCall_still (o := o.remove) (c := c) (r := r₀)
          (p := o.applySecurityGroups.ok ∨ o.stop.effective) (fun _ => Only.remove) fun _ => rfl
        refine .bind _ (.attempt (hstop.mono (fun s hs => ⟨hs.1, hs.2 nofun⟩) fun _ _ => id)) ?_
        intro _
        refine .bind _ (.attempt hremove) fun _ => ?_
        exact .fail fun s hs => hs.2 (or_assoc.2 hdown)

theorem finish_accounted (hr : r.containerId = some c) (hr₀ : r₀.containerId = some c)
    (hdown : o.applySecurityGroups.ok ∨ o.stop.effective ∨ o.remove.effective)
    (hphase : r₀.phase.consumesCapacity ∨ o.persist) :
    Exec.Meets (Started r₀ c) (finish o r c) fun _ => Accounted := by
  unfold finish
  refine .bind (fun r' s => (∃ b, r' = { r with rateLimited := b }) ∧ Started r₀ c s) ?_ ?_
  · exact (applyRateLimitIfNeeded_meets Started.exitStable).infallible
  · intro r'
    refine .assume ?_
    rintro ⟨b, rfl⟩
    refine .bind _ (.attempt (applySecurityGroupsOrFail_started hdown)) fun res => ?_
    cases res with
    | error e =>
      refine .bind (fun _ => Accounted) ?_ fun _ => .fail fun _ => id
      exact storeWorkload_meets (fun s hs => Still.accounted (s := ⟨_, s.engine⟩) hs)
        fun _ s hs => Still.accounted hs
    | ok r' =>
      refine .bind (fun _ => Accounted) ?_ fun _ => .pure fun _ => id
      refine storeWorkload_meets ?_ ?_
      · rintro s ⟨hr', hs⟩
        exact Only.accounted (s := ⟨_, s.engine⟩) hs.only (hr'.trans hr) rfl
      · rintro hfail s ⟨_, hs⟩
        rw [hfail] at hphase
        refine hs.only.accounted (by rw [hs.record]; exact hr₀) ?_
        rw [hs.record]
        exact hphase.resolve_right nofun

theorem ensureContainer_still :
    Exec.Meets (fun s => Still s ∧ s.record = r) (ensureContainer o r) (Exec.Then
      (fun p s => (p.1.containerId = some p.2 ∧ (p.1.phase.consumesCapacity ∨ p.1 = r)) ∧
        Still s ∧ s.record = p.1) fun _ s => Still s) := by
  unfold ensureContainer
  split
  · rename_i c hc
    exact .pure fun s hs => ⟨⟨hc, .inr rfl⟩, hs⟩
  · split
    · refine .bind (fun _ => Still) ?_ fun c => ?_
      · exact create_meets (fun s hs => hs.1.add) fun s hs => ⟨hs.1, hs.1.add⟩
      · refine .bind (fun res s => Still s ∧ (res = .ok () → s.record =
          { r with containerId := some c, phase := .starting })) (.attempt ?_) fun res => ?_
        · exact storeWorkload_meets (fun s hs => ⟨hs, fun _ => rfl⟩) fun _ s hs => ⟨hs, nofun⟩
        · cases res with
          | ok u => exact .pure fun s hs => ⟨⟨rfl, .inl rfl⟩, hs.1, hs.2 rfl⟩
          | error e =>
            have hremove : Exec.Meets Still (remove o.cleanUp c) fun _ => Still :=
              Still.exitStable.engineCall fun s hs => Only.remove hs.only
            refine .bind (fun _ => Still) (.attempt ?_) fun _ => .fail fun _ => id
            exact hremove.mono (fun s hs => hs.1) fun _ _ => id
    · exact .fail fun s hs => hs.1

theorem start_started (hstart : o.took → o.ok) :
    Exec.Meets (fun s => Still s ∧ s.record = r) (start o c) (Exec.Then
      (fun _ s => Started r c s) fun _ s => Still s) := by
  refine engineCall_meets ?_ (fun s hs _ => hs.1) ?_ ?_
  · rintro (e | a) s c' hs
    · exact Still.exitStable s c' hs
    · exact Started.exitStable s c' hs
  · intro s _ _ hs _
    exact ⟨.restart hs.1, hs.2⟩
  · intro hok htook
    rw [hstart htook] at hok
    cases hok

structure DeployOutcomes.Contains (o : DeployOutcomes) (r : WorkloadRecord) : Prop where
  start : o.start.took → o.start.ok
  down : o.applySecurityGroups.ok ∨ o.stop.effective ∨ o.remove.effective
  revived : r.containerId.isSome → ¬ r.phase.consumesCapacity → o.confirm.ok ∧ o.persist

theorem launch_accounted (ho : o.Contains r) :
    Exec.Meets (fun s => Still s ∧ s.record = r) (launch o r) fun _ => Accounted := by
  unfold launch
  refine .bind _ (ensureContainer_still.mono (fun _ => id) (Exec.Then.mono (fun _ _ => id)
    fun _ _ => Still.accounted)) ?_
  rintro ⟨r', c⟩
  refine .assume ?_
  rintro ⟨hc, hkept⟩
  dsimp only at hc hkept
  have hphase : r'.phase.consumesCapacity ∨ o.confirm.ok ∧ o.persist := by
    obtain hphase | rfl := hkept
    · exact .inl hphase
    · by_cases hphase : r'.phase.consumesCapacity
      · exact .inl hphase
      · exact .inr (ho.revived (Option.isSome_iff_exists.2 ⟨c, hc⟩) hphase)
  have hgive (e : ExecutorError) : Exec.Meets Still
      (storeWorkload o.persist { r' with phase := .failed } >>= fun _ => Exec.fail (A := Nat) e)
      fun _ => Accounted := by
    refine .bind (fun _ => Still) ?_ fun _ => .fail fun s hs => hs.accounted
    exact storeWorkload_meets (fun s hs => hs) fun _ s hs => hs.accounted
  refine .bind _ (.attempt (start_started ho.start)) fun res => ?_
  cases res with
  | error e => exact hgive e
  | ok u =>
    refine .bind (fun x s => Started r' c s ∧ (¬ x.running → Still s)) ?_ fun x => ?_
    · refine inspect_meets.mono (fun _ => id) ?_
      rintro (e | x) t ht
      · obtain ⟨s, hs, hmissing, ht⟩ := ht
        have hs' : Accounted s := by
          obtain hphase | hconfirm := hphase
          · exact hs.only.accounted (by rw [hs.record]; exact hc) (by rw [hs.record]; exact hphase)
          · refine (hs.only.still fun x hx => ?_).accounted
            rw [hmissing hconfirm.1] at hx
            cases hx
        obtain rfl | rfl := ht
        · exact hs'
        · exact hs'.exitStable s c
      · obtain ⟨s, hs, hx, ht⟩ := ht
        exact hs.seen hx ht
    · split
      · exact (finish_accounted hc hc ho.down (hphase.imp_right And.right)).mono
          (fun s hs => hs.1) fun _ _ => id
      · rename_i hrun
        exact (hgive _).mono (fun s hs => hs.2 hrun) fun _ _ => id

theorem deployAt_accounted (hs : Accounted s) (ho : o.Contains s.record)
    (hnew : reservation = .new → s.record.containerId = none) :
    Accounted (deployAt o reservation s).2 := by
  cases hc : s.record.containerId with
  | none =>
    rw [deployAt_launch hc]
    exact launch_accounted ho s ⟨hs.still_of_none hc, rfl⟩
  | some c =>
    cases reservation with
    | new => rw [hnew rfl] at hc; cases hc
    | existing =>
      rw [deployAt_existing hc]
      refine Exec.Meets.bind (P := (· = s)) (Q := fun _ => Accounted)
        (fun x t => s.container c = some x ∧ Started s.record c t ∧ (¬ x.running → Still t))
        ?_ ?_ s rfl
      · refine inspect_meets.mono (fun _ => id) ?_
        rintro (e | x) t ht
        · obtain ⟨_, rfl, _, rfl | rfl⟩ := ht
          · exact hs
          · exact hs.exitStable _ c
        · obtain ⟨_, rfl, hx, ht⟩ := ht
          exact ⟨hx, Started.seen ⟨hs.only hc, rfl⟩ hx ht⟩
      · intro x
        refine .assume fun hx => ?_
        split
        · rename_i hrun
          exact (finish_accounted hc hc ho.down (.inl (hs c x hx hrun).2)).mono
            (fun t ht => ht.1) fun _ _ => id
        · rename_i hrun
          split
          · exact .fail fun t ht => (ht.2 hrun).accounted
          · exact (launch_accounted ho).mono (fun t ht => ⟨ht.2 hrun, ht.1.record⟩) fun _ _ => id

theorem stopAt_still :
    Exec.Meets Accounted (stopAt o) (Exec.Then (fun _ => Still) fun _ => Accounted) := by
  refine .get_bind fun s hs => ?_
  split
  · rename_i hphase
    refine .pure ?_
    rintro _ rfl
    refine hs.still_of_phase ?_
    obtain hphase | hphase := hphase
    · rw [hphase]
      rfl
    · rw [hphase]
      rfl
  · split
    · refine .fail ?_
      rintro _ rfl
      exact hs
    · rename_i c hc
      have hbound : ∀ t, Started { s.record with phase := .stopping } c t → Accounted t := by
        intro t ht
        exact ht.only.accounted (by rw [ht.record]; exact hc) (by rw [ht.record]; rfl)
      refine .bind (fun _ => Started { s.record with phase := .stopping } c) ?_ fun _ => ?_
      · refine storeWorkload_meets ?_ ?_
        · rintro _ rfl
          exact ⟨hs.only hc, rfl⟩
        · rintro _ _ rfl
          exact hs
      · refine (Started.exitStable.engineCall fun t ht => ht.exitStable t c).keep_bind
          (fun _ => hbound) fun _ => ?_
        refine .bind (fun x t => Started { s.record with phase := .stopping } c t ∧
          (¬ x.running → Still t)) ?_ fun x => ?_
        · refine inspect_meets.mono (fun _ => id) ?_
          rintro (e | x) t ht
          · obtain ⟨u, hu, _, rfl | rfl⟩ := ht
            · exact hbound _ hu
            · exact (hbound _ hu).exitStable u c
          · obtain ⟨u, hu, hx, ht⟩ := ht
            exact hu.seen hx ht
        · split
          · exact .fail fun t ht => hbound t ht.1
          · rename_i hrun
            refine Exec.Meets.mono (P := Still) ?_ (fun t ht => ht.2 hrun) fun _ _ => id
            have hremove : Exec.Meets Still (remove o.remove c) fun _ => Still :=
              Still.exitStable.engineCall fun t ht => Only.remove ht.only
            refine hremove.keep_bind (fun _ t ht => ht.accounted) fun _ => ?_
            exact storeWorkload_meets (fun t ht => ht) fun _ t ht => ht.accounted

theorem stopAt_accounted : Exec.Meets Accounted (stopAt o) fun _ => Accounted := by
  refine stopAt_still.mono (fun _ => id) ?_
  rintro (e | u) s hs
  · exact hs
  · exact Still.accounted hs

def RecoverOutcomes.Contains (o : RecoverOutcomes) (s : Slot) : Prop :=
  ∀ c ∈ s.record.containerId, ∀ x ∈ s.container c, x.running → o.inspect.ok

theorem applySecurityGroupsIfNeeded_started :
    Exec.Meets (Started r₀ c) (applySecurityGroupsIfNeeded o r c) (Exec.Then
      (fun r' s => r'.containerId = r.containerId ∧ Started r₀ c s) fun _ _ => False) := by
  unfold applySecurityGroupsIfNeeded
  split
  · exact .pure fun s hs => ⟨rfl, hs⟩
  · refine .bind _ (.attempt applySecurityGroups_started) fun res => ?_
    cases res with
    | ok u => exact .pure fun s hs => ⟨rfl, hs.1⟩
    | error e => exact .pure fun s hs => ⟨rfl, hs.1⟩

theorem recoverAt_accounted :
    Exec.Meets (fun s => Accounted s ∧ o.Contains s) (recoverAt o) fun _ => Accounted := by
  refine .get_bind fun s hs => ?_
  obtain ⟨hs, ho⟩ := hs
  have hstore (p : WorkloadPhase) : Exec.Meets Still
      (storeWorkload o.persist { s.record with phase := p }) fun _ => Accounted :=
    storeWorkload_meets (fun t ht => Still.accounted (s := ⟨_, t.engine⟩) ht)
      fun _ t ht => ht.accounted
  split
  · rename_i hc
    split
    · exact (hstore .failed).mono (by rintro _ rfl; exact hs.still_of_none hc) fun _ _ => id
    · refine .pure ?_
      rintro _ rfl
      exact hs
  · rename_i c hc
    refine .bind (Exec.Then (fun x t => (x.running → s.record.phase.consumesCapacity) ∧
      Started s.record c t ∧ (¬ x.running → Still t)) fun _ => Still) (.attempt ?_) ?_
    · refine inspect_meets.mono (fun _ => id) ?_
      rintro (e | x) t ht
      · obtain ⟨s, rfl, hmissing, ht⟩ := ht
        have hstill : Still s := by
          refine (hs.only hc).still fun x hx hrun => ?_
          rw [hmissing (ho c hc x hx hrun)] at hx
          cases hx
        obtain rfl | rfl := ht
        · exact hstill
        · exact hstill.exitStable s c
      · obtain ⟨s, rfl, hx, ht⟩ := ht
        exact ⟨fun hrun => (hs c x hx hrun).2, Started.seen ⟨hs.only hc, rfl⟩ hx ht⟩
    · rintro (e | x)
      · exact hstore .lost
      · change Exec.Meets _ (if x.running then _ else _) _
        refine .assume fun hphase => ?_
        split
        · rename_i hrun
          refine .bind (fun r t => r.containerId = some c ∧ Started s.record c t)
            ((applyRateLimitIfNeeded_meets Started.exitStable).mono (fun t ht => ht.1)
              (Exec.Then.mono ?_ fun _ _ => False.elim)) fun r => ?_
          · rintro _ t ⟨⟨b, rfl⟩, ht⟩
            exact ⟨hc, ht⟩
          · refine .assume fun hr => ?_
            refine .bind _ (applySecurityGroupsIfNeeded_started.infallible) fun r' => ?_
            refine .assume fun hr' => ?_
            refine storeWorkload_meets (fun t ht => ?_) fun _ t ht => ?_
            · exact Only.accounted (s := ⟨_, t.engine⟩) ht.only (hr'.trans hr) rfl
            · refine ht.only.accounted (by rw [ht.record]; exact hc) ?_
              rw [ht.record]
              exact hphase hrun
        · rename_i hrun
          refine Exec.Meets.mono (P := Still) ?_ (fun t ht => ht.2 hrun) fun _ _ => id
          split
          · exact hstore .stopped
          · exact hstore .failed

end

def Host.recordFor (h : Host) (d : Deployment) : WorkloadRecord :=
  (h.state.workload d.workloadId).getD d.candidate

/-- The call leaves nothing running that the record does not say. -/
def Call.Contains (h : Host) : Call → Prop
  | .deploy d o => o.Contains (h.recordFor d)
  | .recover o => ∀ w, ∀ s ∈ h.slot w, (o w).Contains s
  | .restart _ _ => False
  | _ => True

theorem Host.recordFor_eq {h : Host} (hs : h.slot d.workloadId = some s) :
    h.recordFor d = s.record := by
  obtain ⟨r, hr, rfl⟩ := Option.map_eq_some_iff.1 hs
  rw [Host.recordFor, hr]
  rfl

theorem Host.recordFor_new {h : Host} (hs : h.slot d.workloadId = none) :
    h.recordFor d = d.candidate := by
  rw [Host.recordFor, Option.map_eq_none_iff.1 hs]
  rfl

theorem accounted_step (hh : Host.Each (fun _ => Accounted) h) (hcall : call.Contains h) :
    Host.Each (fun _ => Accounted) (step maxWorkloads h call) := by
  cases call with
  | deploy d o =>
    change o.Contains (h.recordFor d) at hcall
    refine deploy_each hh (fun s hs => ?_) fun hnone => ?_
    · rw [Host.recordFor_eq hs] at hcall
      exact deployAt_accounted (hh.known _ s hs) hcall nofun
    · rw [Host.recordFor_new hnone] at hcall
      refine deployAt_accounted (Still.accounted ?_) hcall fun _ => rfl
      exact fun c x hx => absurd hx (Option.not_mem_none x)
  | stop w o => exact stop_meets stopAt_accounted h hh
  | recover o =>
    refine recover_meets (fun _ => recoverAt_accounted) (fun _ _ hs => hs.1) h ?_
    exact ⟨fun w s hs => ⟨hh.known w s hs, hcall w s hs⟩, hh.unknown⟩
  | enforceLeaseExpiry now o => exact enforceLeaseExpiry_meets (fun _ => stopAt_accounted) h hh
  | exit w c => exact hh.onSlot fun s hs => (hh.known w s hs).exitStable s c
  | restart w c => exact hcall.elim

def Slot.Runs (s : Slot) : Prop := ∃ c ∈ s.record.containerId, ∃ x ∈ s.container c, x.running

def Off (c : Nat) (s : Slot) : Prop := ∀ x ∈ s.container c, ¬ x.running

theorem Off.exitStable : ExitStable (Off c) :=
  fun _ _ h x hx hrun => h x (running_of_exit hx hrun) hrun

theorem Off.remove (h : Off c s) : Off c (s.setContainer c none) :=
  fun x hx => h x (running_of_remove hx).2

theorem stopAt_runs (o : StopOutcomes) (s : Slot) :
    Exec.Meets (· = s) (stopAt o) (Exec.Then (fun _ t => t.Runs ↔
      (s.record.phase = .stopped ∨ s.record.phase = .failed) ∧ s.Runs) fun _ _ => True) := by
  refine .get_bind ?_
  rintro _ rfl
  split
  · rename_i s hphase
    refine .pure ?_
    rintro _ rfl
    exact ⟨fun h => ⟨hphase, h⟩, fun h => h.2⟩
  · split
    · exact .fail fun _ _ => trivial
    · rename_i s hphase _ c hc
      refine .bind (fun _ _ => True) (storeWorkload_meets (fun _ _ => trivial)
        fun _ _ _ => trivial) fun _ => ?_
      refine Exec.Meets.keep_bind (fun _ _ => trivial) (fun _ _ _ => trivial) fun _ => ?_
      refine .bind (fun x t => ¬ x.running → Off c t) ?_ fun x => ?_
      · refine inspect_meets.mono (fun _ => id) (Exec.Then.mono ?_ fun _ _ _ => trivial)
        rintro x t ⟨u, _, hx, ht⟩ hrun
        have hoff : Off c u := by
          intro y hy
          cases Option.some.inj (hx.symm.trans hy)
          exact hrun
        obtain rfl | rfl := ht
        · exact hoff
        · exact hoff.exitStable u c
      · split
        · exact .fail fun _ _ => trivial
        · rename_i hrun
          refine Exec.Meets.mono (P := Off c) ?_ (fun t ht => ht hrun) fun _ _ => id
          have hremove : Exec.Meets (Off c) (remove o.remove c) fun _ => Off c :=
            Off.exitStable.engineCall fun t ht => ht.remove
          refine hremove.keep_bind (fun _ _ _ => trivial) fun _ => ?_
          refine storeWorkload_meets (fun t ht => ?_) fun _ _ _ => trivial
          constructor
          · rintro ⟨c', hc', x, hx, hrun⟩
            cases Option.some.inj (hc.symm.trans hc')
            exact absurd hrun (ht x hx)
          · rintro ⟨h, _⟩
            exact absurd h hphase

def Quiet (s : Slot) : Prop := s.record.phase.consumesCapacity = false → Still s

def StopsAll (h : Host) : Call → Prop
  | .stop w o => (stop w o h).1 = .ok () → ∀ s ∈ (stop w o h).2.slot w, Still s
  | _ => True

theorem stopsAll_of_accounted (hh : Host.Each (fun _ => Accounted) h) (call : Call) :
    StopsAll h call := by
  cases call with
  | stop w o =>
    intro hok s hs
    obtain ⟨before, hbefore, heq⟩ := stop_ok hok hs
    have hstill := stopAt_still (o := o) before (hh.known w before hbefore)
    rw [heq] at hstill
    exact hstill
  | deploy d o => trivial
  | recover o => trivial
  | enforceLeaseExpiry now o => trivial
  | exit w c => trivial
  | restart w c => trivial

/-- After a `stop` nothing runs, unless it did behind a stopped or failed record. -/
theorem stop_means_stopped (maxWorkloads : Nat) :
    (∀ (h : Host) (w : WorkloadId) (o : StopOutcomes), (stop w o h).1 = .ok () →
      ∀ s ∈ (stop w o h).2.slot w, (¬ s.Runs ↔ ∀ before ∈ h.slot w,
        before.record.phase = .stopped ∨ before.record.phase = .failed → ¬ before.Runs)) ∧
    ∀ calls, Along (step maxWorkloads) (fun h call => call.Contains h) Host.empty calls →
      Throughout (step maxWorkloads) (fun h => ∀ w, ∀ s ∈ h.slot w, Quiet s) Host.empty calls ∧
        Along (step maxWorkloads) StopsAll Host.empty calls := by
  constructor
  · intro h w o hok s hs
    obtain ⟨before, hbefore, heq⟩ := stop_ok hok hs
    have hruns := stopAt_runs o before before rfl
    rw [heq] at hruns
    rw [show s.Runs ↔ _ from hruns, hbefore]
    constructor
    · intro h' _ heq hphase hrun
      cases heq
      exact h' ⟨hphase, hrun⟩
    · intro h' hrun
      exact h' before rfl hrun.1 hrun.2
  · intro calls hcalls
    have hstep (h : Host) (call : Call) : Host.Each (fun _ => Accounted) h → call.Contains h →
        Host.Each (fun _ => Accounted) (step maxWorkloads h call) := accounted_step
    constructor
    · exact (hcalls.throughout Host.Each.empty hstep).mono fun h hh w s hs =>
        (hh.known w s hs).still_of_phase
    · exact hcalls.along Host.Each.empty hstep fun h call hh _ => stopsAll_of_accounted hh call

instance (o : DeployOutcomes) (r : WorkloadRecord) : Decidable (o.Contains r) :=
  decidable_of_iff (_ ∧ _ ∧ _) ⟨fun h => ⟨h.1, h.2.1, h.2.2⟩, fun h => ⟨h.1, h.2, h.3⟩⟩

theorem stop_means_stopped_web_server :
    let calls : List Call := [.deploy (webServer 0) .done, .recover fun _ => .done, .exit 0 0,
      .deploy (webServer 0) .done, .stop 0 .done]
    (∀ s ∈ (stop 0 .done (deploy 1 (webServer 0) .done Host.empty).2).2.slot 0, ¬ s.Runs) ∧
      Throughout (step 1) (fun h => ∀ w, ∀ s ∈ h.slot w, Quiet s) Host.empty calls ∧
        Along (step 1) StopsAll Host.empty calls := by
  constructor
  · intro s hs
    refine ((stop_means_stopped 1).1 _ 0 .done rfl s hs).2 ?_
    intro before hbefore hphase
    cases hbefore
    cases hphase with
    | inl h => cases h
    | inr h => cases h
  · apply (stop_means_stopped 1).2
    refine ⟨?_, ?_, trivial, ?_, trivial, trivial⟩
    · change DeployOutcomes.Contains _ _
      decide
    · exact fun w s hs c hc x hx hrun => rfl
    · change DeployOutcomes.Contains _ _
      decide

def unprotected : DeployOutcomes :=
  { DeployOutcomes.done with applySecurityGroups := .lost, stop := .lost, remove := .lost }

theorem failed_keeps_running :
    let h := (deploy 1 (webServer 0) unprotected Host.empty).2
    (stop 0 .done h).1 = .ok () ∧
      ∃ s ∈ (stop 0 .done h).2.slot 0, s.record.phase = .failed ∧
        s.record.containerId = some 0 ∧ (s.container 0).map (·.running) = some true :=
  ⟨rfl, _, rfl, rfl, rfl, rfl⟩

end OpenInfra.Agent
