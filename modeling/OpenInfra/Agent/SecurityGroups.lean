import OpenInfra.Agent.DockerExecutor

namespace OpenInfra.Agent
open Frame

section
variable {s t : Slot} {r : WorkloadRecord} {c : Nat}

def WorkloadRecord.Unmarked (r : WorkloadRecord) : Prop :=
  r.securityGroupRules = none ∨ r.securityGroupsApplied = false

def Slot.Marks (s : Slot) (r : WorkloadRecord) (c : Nat) : Prop :=
  ∀ rules ∈ r.securityGroupRules, r.securityGroupsApplied → ∀ x ∈ s.container c,
    x.running → x.rules = some rules

theorem WorkloadRecord.Unmarked.marks (h : r.Unmarked) (s : Slot) (c : Nat) : s.Marks r c := by
  intro rules hrules happlied
  obtain hnone | hfalse := h
  · rw [hnone] at hrules
    cases hrules
  · rw [hfalse] at happlied
    cases happlied

theorem Slot.Marks.exit (h : s.Marks r c) (c' : Nat) : (s.exit c').Marks r c := by
  intro rules hrules happlied x hx hrun
  obtain ⟨y, hy, rfl | rfl⟩ := Slot.container_exit hx
  · exact h rules hrules happlied _ hy hrun
  · rw [Slot.halted_running] at hrun
    cases hrun

theorem Slot.Marks.remove (s : Slot) (r : WorkloadRecord) (c : Nat) :
    (s.setContainer c none).Marks r c := by
  intro rules _ _ x hx
  rw [Slot.container_set_self] at hx
  cases hx

theorem Slot.Marks.install (h : r.securityGroupRules = some rules) (y : Option Container) :
    (s.setContainer c (y.map fun x => { x with rules := some rules })).Marks r c := by
  intro rules' hrules' _ x hx _
  rw [Slot.container_set_self] at hx
  obtain ⟨z, _, rfl⟩ := Option.map_eq_some_iff.1 hx
  rw [h] at hrules'
  exact hrules'

/-- What is stored about applied rules is true of the container. -/
structure Slot.Honest (s : Slot) : Prop where
  placed : s.record.securityGroupsApplied → s.record.containerId.isSome
  marked : ∀ c ∈ s.record.containerId, s.Marks s.record c

theorem Slot.Honest.exit (h : s.Honest) (c : Nat) : (s.exit c).Honest :=
  ⟨h.placed, fun c' hc' => (h.marked c' hc').exit c⟩

structure Ready (r : WorkloadRecord) (c : Nat) (s : Slot) : Prop where
  stored : s.record.containerId = some c
  held : r.containerId = some c
  agree : r.securityGroupRules = s.record.securityGroupRules
  old : s.Marks s.record c
  new : s.Marks r c

theorem Ready.exitStable : ExitStable (Ready r c) :=
  fun _ c' h => ⟨h.stored, h.held, h.agree, h.old.exit c', h.new.exit c'⟩

theorem Ready.store (h : Ready r c s) (p : WorkloadPhase) :
    ({ s with record := { r with phase := p } } : Slot).Honest := by
  constructor
  · intro _
    exact Option.isSome_iff_exists.2 ⟨c, h.held⟩
  · intro c' hc'
    cases h.held.symm.trans hc'
    exact h.new

theorem Ready.honest (h : Ready r c s) : s.Honest := by
  constructor
  · intro _
    exact Option.isSome_iff_exists.2 ⟨c, h.stored⟩
  · intro c' hc'
    cases h.stored.symm.trans hc'
    exact h.old

theorem Ready.install {rules : List SecurityGroupRule} (h : Ready r c s)
    (hrules : r.securityGroupRules = some rules) (b : Bool) :
    Ready { r with securityGroupsApplied := b } c
      (s.setContainer c ((s.container c).map fun x => { x with rules := some rules })) :=
  ⟨h.stored, h.held, h.agree, .install (h.agree.symm.trans hrules) _,
    .install (r := { r with securityGroupsApplied := b }) hrules _⟩

theorem Ready.remove (h : Ready r c s) : Ready r c (s.setContainer c none) :=
  ⟨h.stored, h.held, h.agree, .remove _ _ _, .remove _ _ _⟩

theorem applySecurityGroups_ready {rules : List SecurityGroupRule}
    (hrules : r.securityGroupRules = some rules) :
    Exec.Meets (Ready r c) (applySecurityGroups o c rules) fun res s => Ready r c s ∧
      (res = .ok () → Ready { r with securityGroupsApplied := true } c s) := by
  refine engineCall_meets ?_ ?_ ?_ ?_
  · intro _ s c' hs
    exact ⟨hs.1.exitStable s c', fun h => (hs.2 h).exitStable s c'⟩
  · intro s hs _
    exact ⟨hs, nofun⟩
  · intro s x _ hs _
    exact ⟨hs.install hrules r.securityGroupsApplied, fun _ => hs.install hrules true⟩
  · intro _ _ s x _ hs _
    exact ⟨hs.install hrules r.securityGroupsApplied, nofun⟩

theorem applySecurityGroupsOrFail_ready :
    Exec.Meets (Ready r c) (applySecurityGroupsOrFail o r c)
      (Exec.Then (fun r' s => Ready r' c s) fun _ s => Ready r c s) := by
  unfold applySecurityGroupsOrFail
  split
  · exact .pure fun _ => id
  · rename_i rules hrules
    split
    · exact .pure fun _ => id
    · refine .bind _ (.attempt (applySecurityGroups_ready hrules)) fun res => ?_
      cases res with
      | ok u => exact .pure fun s hs => hs.2 rfl
      | error e =>
        have hstop : Exec.Meets (Ready r c) (stopContainer o.stop c) fun _ => Ready r c :=
          Ready.exitStable.engineCall fun s hs => hs.exitStable s c
        have hremove : Exec.Meets (Ready r c) (remove o.remove c) fun _ => Ready r c :=
          Ready.exitStable.engineCall fun s hs => hs.remove
        refine .bind (fun _ => Ready r c) (.attempt ?_) fun _ => ?_
        · exact hstop.mono (fun s hs => hs.1) fun _ _ => id
        · refine .bind (fun _ => Ready r c) (.attempt hremove) fun _ => ?_
          exact .fail fun _ => id

theorem applySecurityGroupsIfNeeded_ready :
    Exec.Meets (Ready r c) (applySecurityGroupsIfNeeded o r c)
      (Exec.Then (fun r' s => Ready r' c s) fun _ _ => False) := by
  unfold applySecurityGroupsIfNeeded
  split
  · exact .pure fun _ => id
  · rename_i rules hrules
    refine .bind _ (.attempt (applySecurityGroups_ready hrules)) fun res => ?_
    cases res with
    | ok u => exact .pure fun s hs => hs.2 rfl
    | error e => exact .pure fun s hs => hs.1

theorem applyRateLimitIfNeeded_ready :
    Exec.Meets (Ready r c) (applyRateLimitIfNeeded o r c)
      (Exec.Then (fun r' s => Ready r' c s) fun _ _ => False) := by
  refine (applyRateLimitIfNeeded_meets Ready.exitStable).mono (fun _ => id) ?_
  rintro (e | r') s h
  · exact h
  · obtain ⟨⟨b, rfl⟩, hs⟩ := h
    exact ⟨hs.stored, hs.held, hs.agree, hs.old, hs.new⟩

theorem finish_honest : Exec.Meets (Ready r c) (finish o r c) fun _ s => s.Honest := by
  unfold finish
  refine .bind (fun r' s => Ready r' c s) ?_ fun r' => ?_
  · exact applyRateLimitIfNeeded_ready.infallible
  · refine .bind _ (.attempt applySecurityGroupsOrFail_ready) fun res => ?_
    cases res with
    | error e =>
      refine .bind (fun _ s => s.Honest) ?_ fun _ => .fail fun _ => id
      exact storeWorkload_meets (fun s hs => Ready.store hs .failed) fun _ s hs => Ready.honest hs
    | ok r'' =>
      refine .bind (fun _ s => s.Honest) ?_ fun _ => .pure fun _ => id
      exact storeWorkload_meets (fun s hs => Ready.store hs .running) fun _ s hs => Ready.honest hs

structure Plain (r : WorkloadRecord) (s : Slot) : Prop where
  unmarked : r.Unmarked
  stored : s.record.Unmarked
  agree : r.securityGroupRules = s.record.securityGroupRules
  placed : s.record.securityGroupsApplied → s.record.containerId.isSome

theorem Plain.honest (h : Plain r s) : s.Honest := ⟨h.placed, fun c _ => h.stored.marks s c⟩

theorem Plain.ready (h : Plain r s) (hs : s.record.containerId = some c)
    (hr : r.containerId = some c) : Ready r c s :=
  ⟨hs, hr, h.agree, h.stored.marks s c, h.unmarked.marks s c⟩

theorem Plain.onRecord : OnRecord (Plain r) := by
  intro s t ht h
  exact ⟨h.unmarked, ht ▸ h.stored, ht ▸ h.agree, ht ▸ h.placed⟩

theorem ensureContainer_plain :
    Exec.Meets (fun s => Plain r s ∧ s.record = r) (ensureContainer o r) (Exec.Then
      (fun p s => Plain p.1 s ∧ s.record.containerId = some p.2 ∧ p.1.containerId = some p.2)
      fun _ s => s.Honest) := by
  unfold ensureContainer
  split
  · rename_i c hc
    refine .pure ?_
    rintro s ⟨hs, rfl⟩
    exact ⟨hs, hc, hc⟩
  · split
    · refine .bind (fun _ => Plain r) ?_ fun c => ?_
      · refine (Plain.onRecord.create).mono (fun s hs => hs.1) ?_
        rintro (e | c) s hs
        · exact hs.honest
        · exact hs
      · refine .bind (fun res s => Exec.Then
          (fun _ s => Plain { r with containerId := some c, phase := .starting } s ∧
            s.record.containerId = some c) (fun _ s => Plain r s) res s) (.attempt ?_) fun res => ?_
        · refine storeWorkload_meets (fun s hs => ?_) fun _ s hs => hs
          exact ⟨⟨hs.unmarked, hs.unmarked, rfl, fun _ => rfl⟩, rfl⟩
        · cases res with
          | ok u => exact .pure fun s hs => ⟨hs.1, hs.2, rfl⟩
          | error e =>
            refine .bind (fun _ => Plain r) (.attempt ?_) fun _ => .fail fun s hs => hs.honest
            exact Plain.onRecord.engineCall fun _ => rfl
    · exact .fail fun s hs => hs.1.honest

theorem launch_honest :
    Exec.Meets (fun s => Plain r s ∧ s.record = r) (launch o r) fun _ s => s.Honest := by
  unfold launch
  refine .bind _ ensureContainer_plain ?_
  rintro ⟨r', c⟩
  have hP : OnRecord fun s =>
      Plain r' s ∧ s.record.containerId = some c ∧ r'.containerId = some c :=
    fun s t ht h => ⟨Plain.onRecord s t ht h.1, ht ▸ h.2.1, h.2.2⟩
  have hfail : Exec.Meets
      (fun s => Plain r' s ∧ s.record.containerId = some c ∧ r'.containerId = some c)
      (storeWorkload o.persist { r' with phase := .failed }) fun _ s => s.Honest :=
    storeWorkload_meets (fun s hs => (hs.1.ready hs.2.1 hs.2.2).store .failed)
      fun _ s hs => hs.1.honest
  have hgive (e : ExecutorError) : Exec.Meets
      (fun s => Plain r' s ∧ s.record.containerId = some c ∧ r'.containerId = some c)
      (storeWorkload o.persist { r' with phase := .failed } >>= fun _ => Exec.fail (A := Nat) e)
      fun _ s => s.Honest := by
    refine .bind (fun _ s => s.Honest) (hfail.mono (fun _ => id) ?_) fun _ => .fail fun _ => id
    rintro (e | a) s hs
    · exact hs
    · exact hs
  refine .bind _ (.attempt (hP.engineCall fun _ => rfl)) fun res => ?_
  cases res with
  | error e => exact hgive e
  | ok u =>
    refine .bind (fun _ s => Plain r' s ∧ s.record.containerId = some c ∧ r'.containerId = some c)
      (hP.exitStable.inspect.mono (fun _ => id) ?_) fun x => ?_
    · rintro (e | x) s hs
      · exact hs.1.honest
      · exact hs
    · split
      · exact finish_honest.mono (fun s hs => hs.1.ready hs.2.1 hs.2.2) fun _ _ => id
      · exact hgive _

def Slot.Restarts (s : Slot) : Prop :=
  ¬ s.record.Unmarked ∧ s.record.phase ≠ .stopped ∧
    ∃ c ∈ s.record.containerId, ∃ x ∈ s.container c, ¬ x.running

theorem Slot.Honest.plain (h : s.Honest) (hu : s.record.Unmarked) : Plain s.record s :=
  ⟨hu, hu, rfl, h.placed⟩

theorem Slot.Honest.unmarked (h : s.Honest) (hnone : s.record.containerId = none) :
    s.record.Unmarked := by
  right
  cases happlied : s.record.securityGroupsApplied with
  | false => rfl
  | true =>
    have hsome := h.placed happlied
    rw [hnone] at hsome
    cases hsome

theorem deployAt_honest (h : s.Honest) (hr : ¬ s.Restarts)
    (hnew : reservation = .new → s.record.containerId = none) :
    (deployAt o reservation s).2.Honest := by
  cases hc : s.record.containerId with
  | none =>
    rw [deployAt_launch hc]
    exact launch_honest s ⟨h.plain (h.unmarked hc), rfl⟩
  | some c =>
    cases reservation with
    | new => rw [hnew rfl] at hc; cases hc
    | existing =>
      rw [deployAt_existing hc]
      refine Exec.Meets.bind (P := (· = s)) (Q := fun _ s => s.Honest)
        (fun x t => s.container c = some x ∧ (t = s ∨ t = s.exit c)) ?_ ?_ s rfl
      · refine inspect_meets.mono (fun _ => id) ?_
        rintro (e | x) t ht
        · obtain ⟨_, rfl, _, rfl | rfl⟩ := ht
          · exact h
          · exact h.exit c
        · obtain ⟨_, rfl, hx, ht⟩ := ht
          exact ⟨hx, ht⟩
      · intro x
        have hready {t : Slot} (ht : t = s ∨ t = s.exit c) : Ready s.record c t := by
          have hs : Ready s.record c s := ⟨hc, hc, rfl, h.marked c hc, h.marked c hc⟩
          obtain rfl | rfl := ht
          · exact hs
          · exact hs.exitStable s c
        split
        · exact finish_honest.mono (fun t ht => hready ht.2) fun _ _ => id
        · rename_i hrun
          split
          · exact .fail fun t ht => (hready ht.2).honest
          · rename_i hphase
            refine launch_honest.mono (fun t ht => ?_) fun _ _ => id
            have hu : s.record.Unmarked := by
              by_contra hmarked
              exact hr ⟨hmarked, hphase, c, hc, x, ht.1, hrun⟩
            obtain ⟨_, rfl | rfl⟩ := ht
            · exact ⟨h.plain hu, rfl⟩
            · exact ⟨Plain.onRecord s _ rfl (h.plain hu), rfl⟩

def Held (r : WorkloadRecord) (s : Slot) : Prop :=
  s.Honest ∧ ∃ p, s.record = { r with phase := p }

theorem Held.refl (h : s.Honest) : Held s.record s := ⟨h, s.record.phase, rfl⟩

theorem Held.exitStable : ExitStable (Held r) := fun _ c h => ⟨h.1.exit c, h.2⟩

theorem Held.store (h : Held r s) (p : WorkloadPhase) :
    Held r { s with record := { r with phase := p } } := by
  obtain ⟨hs, q, hq⟩ := h
  refine ⟨⟨?_, ?_⟩, p, rfl⟩
  · have hplaced := hs.placed
    rw [hq] at hplaced
    exact hplaced
  · have hmarked := hs.marked
    rw [hq] at hmarked
    exact hmarked

theorem Held.remove (h : Held r s) (hc : r.containerId = some c) :
    Held r (s.setContainer c none) := by
  obtain ⟨hs, p, hp⟩ := h
  refine ⟨⟨hs.placed, ?_⟩, p, hp⟩
  intro c' hc'
  have hstored : s.record.containerId = some c := by rw [hp]; exact hc
  cases hstored.symm.trans hc'
  exact .remove s _ c

theorem Held.ready (h : Held r s) (hc : r.containerId = some c) : Ready r c s := by
  obtain ⟨hs, p, hp⟩ := h
  have hstored : s.record.containerId = some c := by rw [hp]; exact hc
  have hmarks := hs.marked c hstored
  refine ⟨hstored, hc, by rw [hp], hmarks, ?_⟩
  rw [hp] at hmarks
  exact hmarks

theorem storeWorkload_held : Exec.Meets (Held r) (storeWorkload ok { r with phase := p })
    fun _ => Held r :=
  storeWorkload_meets (fun _ hs => hs.store p) fun _ _ => id

theorem stopAt_honest : Exec.Meets Slot.Honest (stopAt o) fun _ => Slot.Honest := by
  refine .get_bind fun s hs => ?_
  suffices h : Exec.Meets (Held s.record) _ fun _ => Held s.record from
    h.mono (by rintro _ rfl; exact .refl hs) fun _ _ ht => ht.1
  split
  · exact .pure fun _ => id
  · split
    · exact .fail fun _ => id
    · rename_i c hc
      refine storeWorkload_held.keep fun _ => ?_
      refine (Held.exitStable.engineCall fun t ht => ht.exitStable t c).keep fun _ => ?_
      refine Held.exitStable.inspect.keep fun x => ?_
      split
      · exact .fail fun _ => id
      · refine (Held.exitStable.engineCall fun t ht => ht.remove hc).keep fun _ => ?_
        exact storeWorkload_held

theorem recoverAt_honest : Exec.Meets Slot.Honest (recoverAt o) fun _ => Slot.Honest := by
  refine .get_bind fun s hs => ?_
  have hstart : ∀ t, t = s → Held s.record t := by
    rintro _ rfl
    exact .refl hs
  have hstore (p : WorkloadPhase) : Exec.Meets (Held s.record)
      (storeWorkload o.persist { s.record with phase := p }) fun _ => Slot.Honest :=
    storeWorkload_held.mono (fun _ => id) fun _ _ ht => ht.1
  split
  · split
    · exact (hstore .failed).mono hstart fun _ _ => id
    · exact .pure fun t ht => (hstart t ht).1
  · rename_i c hc
    refine .bind (fun _ => Held s.record)
      (.attempt (Held.exitStable.inspect.mono hstart fun _ _ => id)) ?_
    rintro (e | x)
    · exact hstore .lost
    · change Exec.Meets _ (if x.running then _ else _) _
      split
      · refine .bind _ (applyRateLimitIfNeeded_ready.mono (fun t ht => ht.ready hc)
          (Exec.Then.mono (fun _ _ => id) fun _ _ => False.elim)) fun r => ?_
        refine .bind _ (applySecurityGroupsIfNeeded_ready.infallible) fun r => ?_
        exact storeWorkload_meets (fun t ht => ht.store .running) fun _ t ht => ht.honest
      · split
        · exact hstore .stopped
        · exact hstore .failed

def Slot.interface (s : Slot) : Option (List SecurityGroupRule) :=
  match s.record.containerId.bind s.container with
  | none => none
  | some x => if x.running then x.rules else none

def WorkloadRecord.installs (r : WorkloadRecord) (rules : Option (List SecurityGroupRule)) :
    Option (List SecurityGroupRule) :=
  match r.securityGroupRules with
  | none => rules
  | some new => if r.securityGroupsApplied then rules else some new

def Carries (c : Nat) (rules : Option (List SecurityGroupRule)) (s : Slot) : Prop :=
  (s.container c).map (·.rules) = some rules

theorem Carries.exitStable : ExitStable (Carries c rules) := by
  intro s c' hs
  unfold Carries at *
  rw [Slot.exit, Slot.container_setContainer]
  split
  · rename_i heq
    rw [← heq, Option.map_map, ← hs]
    congr 1
    funext x
    exact Slot.halted_rules x
  · exact hs

theorem applySecurityGroupsOrFail_carries :
    Exec.Meets (Carries c rules) (applySecurityGroupsOrFail o r c) (Exec.Then
      (fun r' s => r'.securityGroupRules = r.securityGroupRules ∧ Carries c (r.installs rules) s)
      fun _ _ => True) := by
  unfold applySecurityGroupsOrFail
  split
  · rename_i hnone
    refine .pure fun s hs => ⟨rfl, ?_⟩
    rwa [WorkloadRecord.installs, hnone]
  · rename_i new hnew
    split
    · rename_i happlied
      refine .pure fun s hs => ⟨rfl, ?_⟩
      rwa [WorkloadRecord.installs, hnew, happlied]
    · rename_i happlied
      have hinstalls : r.installs rules = some new := by
        rw [WorkloadRecord.installs, hnew]
        exact if_neg happlied
      refine .bind (fun res s => res = .ok () → Carries c (some new) s) (.attempt ?_) fun res => ?_
      · refine engineCall_meets (fun _ s c' hs h => (hs h).exitStable s c') (fun _ _ _ => nofun) ?_
          fun _ _ _ _ _ _ _ => nofun
        intro s x hx _ _ _
        rw [Carries, Slot.container_set_self, hx]
        rfl
      · cases res with
        | ok u =>
          refine .pure fun s hs => ⟨rfl, ?_⟩
          rw [hinstalls]
          exact hs rfl
        | error e =>
          refine .bind (fun _ _ => True) (.attempt fun _ _ => trivial) fun _ => ?_
          refine .bind (fun _ _ => True) (.attempt fun _ _ => trivial) fun _ => ?_
          exact .fail fun _ _ => trivial

theorem finish_carries :
    Exec.Meets (Carries c rules) (finish o r c) (Exec.Then
      (fun c' s => c' = c ∧ s.record.securityGroupRules = r.securityGroupRules ∧
        Carries c (r.installs rules) s) fun _ _ => True) := by
  unfold finish
  refine .bind (fun r' s => (∃ b, r' = { r with rateLimited := b }) ∧ Carries c rules s) ?_ ?_
  · exact (applyRateLimitIfNeeded_meets Carries.exitStable).infallible
  · intro r'
    refine .assume ?_
    rintro ⟨b, rfl⟩
    refine .bind _ (.attempt applySecurityGroupsOrFail_carries) fun res => ?_
    cases res with
    | error e =>
      exact .bind (fun _ _ => True) (storeWorkload_meets (fun _ _ => trivial) fun _ _ _ => trivial)
        fun _ => .fail fun _ _ => trivial
    | ok r' =>
      refine .bind (fun _ s => s.record.securityGroupRules = r.securityGroupRules ∧
        Carries c (r.installs rules) s) ?_ fun _ => .pure fun s hs => ⟨rfl, hs⟩
      exact storeWorkload_meets (fun s hs => hs) fun _ _ _ => trivial

def Idle (c : Nat) (s : Slot) : Prop := ∃ x ∈ s.container c, ¬ x.running

theorem ensureContainer_idle (hc : ∀ c ∈ r.containerId, Idle c s) :
    Exec.Meets (· = s) (ensureContainer o r) (Exec.Then
      (fun p t => (p.1.securityGroupRules = r.securityGroupRules ∧
        p.1.securityGroupsApplied = r.securityGroupsApplied) ∧ Idle p.2 t) fun _ _ => True) := by
  unfold ensureContainer
  split
  · rename_i c hr
    refine .pure ?_
    rintro _ rfl
    exact ⟨⟨rfl, rfl⟩, hc c hr⟩
  · split
    · refine .bind (fun c => Idle c) ?_ fun c => ?_
      · exact create_meets (fun t _ => ⟨_, t.container_add, nofun⟩) fun _ _ => ⟨trivial, trivial⟩
      · refine .bind (fun _ => Idle c) (.attempt ?_) fun res => ?_
        · exact storeWorkload_meets (fun _ => id) fun _ _ => id
        · cases res with
          | ok u => exact .pure fun t ht => ⟨⟨rfl, rfl⟩, ht⟩
          | error e =>
            exact .bind (fun _ _ => True) (.attempt fun _ _ => trivial) fun _ =>
              .fail fun _ _ => trivial
    · exact .fail fun _ _ => trivial

theorem start_carries :
    Exec.Meets (Idle c) (start o c) fun res s => res = .ok () → Carries c none s := by
  refine engineCall_meets (fun _ s c' hs h => (hs h).exitStable s c') (fun _ _ _ => nofun) ?_
    fun _ _ _ _ _ _ _ => nofun
  rintro s x _ ⟨y, hy, hrun⟩ _ _
  rw [Carries, Slot.restart, Slot.container_set_self, hy]
  change some (Slot.started y).rules = _
  rw [Slot.started, if_neg hrun]

theorem launch_carries (hc : ∀ c ∈ r.containerId, Idle c s) :
    Exec.Meets (· = s) (launch o r) (Exec.Then
      (fun c t => t.record.securityGroupRules = r.securityGroupRules ∧
        Carries c (r.installs none) t) fun _ _ => True) := by
  unfold launch
  refine .bind _ (ensureContainer_idle hc) ?_
  rintro ⟨r', c⟩
  refine .assume fun hr => ?_
  obtain ⟨hrules, happlied⟩ := hr
  dsimp only at hrules happlied
  have hinstalls : r'.installs none = r.installs none := by
    unfold WorkloadRecord.installs
    rw [hrules, happlied]
  rw [← hrules, ← hinstalls]
  have hgive (P : Slot → Prop) (e : ExecutorError) : Exec.Meets P
      (storeWorkload o.persist { r' with phase := .failed } >>= fun _ => Exec.fail (A := Nat) e)
      (Exec.Then (fun c t => t.record.securityGroupRules = r'.securityGroupRules ∧
        Carries c (r'.installs none) t) fun _ _ => True) :=
    .bind (fun _ _ => True) (storeWorkload_meets (fun _ _ => trivial) fun _ _ _ => trivial)
      fun _ => .fail fun _ _ => trivial
  refine .bind _ (.attempt start_carries) fun res => ?_
  cases res with
  | error e => exact hgive _ e
  | ok u =>
    refine .bind (fun _ => Carries c none) ?_ fun x => ?_
    · refine inspect_meets.mono (fun _ hs => hs rfl) (Exec.Then.mono ?_ fun _ _ _ => trivial)
      rintro x t ⟨s, hs, _, rfl | rfl⟩
      · exact hs
      · exact hs.exitStable s c
    · split
      · refine finish_carries.mono (fun _ => id) (Exec.Then.mono ?_ fun _ _ _ => trivial)
        rintro _ t ⟨rfl, ht⟩
        exact ht
      · exact hgive _ _

theorem Slot.interface_eq (hc : s.record.containerId = some c) (hx : s.container c = some x) :
    s.interface = if x.running then x.rules else none := by
  rw [Slot.interface, hc, Option.bind_some, hx]

theorem deployAt_carries (o : DeployOutcomes) (reservation : Reservation) (s : Slot)
    (hnew : reservation = .new → s.record.containerId = none) :
    Exec.Meets (· = s) (deployAt o reservation) (Exec.Then
      (fun c t => t.record.securityGroupRules = s.record.securityGroupRules ∧
        Carries c (s.record.installs s.interface) t) fun _ _ => True) := by
  intro t ht
  rw [ht]
  cases hc : s.record.containerId with
  | none =>
    have hinterface : s.interface = none := by rw [Slot.interface, hc]; rfl
    rw [deployAt_launch hc, hinterface]
    refine launch_carries ?_ s rfl
    intro c hsome
    rw [hc] at hsome
    cases hsome
  | some c =>
    cases reservation with
    | new => rw [hnew rfl] at hc; cases hc
    | existing =>
      rw [deployAt_existing hc]
      refine Exec.Meets.bind (P := (· = s)) (Q := Exec.Then _ _)
        (fun x t => s.container c = some x ∧ (t = s ∨ t = s.exit c)) ?_ ?_ s rfl
      · refine inspect_meets.mono (fun _ => id) (Exec.Then.mono ?_ fun _ _ _ => trivial)
        rintro x t ⟨_, rfl, h⟩
        exact h
      · intro x
        refine .assume fun hx => ?_
        have hcarries : Carries c x.rules s := by rw [Carries, hx]; rfl
        rw [Slot.interface_eq hc hx]
        split
        · have hfinish : Exec.Meets (Carries c x.rules) (finish o s.record c) _ := finish_carries
          refine hfinish.mono ?_ (Exec.Then.mono ?_ fun _ _ _ => trivial)
          · rintro t (rfl | rfl)
            · exact hcarries
            · exact hcarries.exitStable s c
          · rintro _ t ⟨rfl, ht⟩
            exact ht
        · rename_i hrun
          split
          · exact .fail fun _ _ => trivial
          · intro t ht
            refine launch_carries (s := t) ?_ t rfl
            intro c' hc'
            cases hc.symm.trans hc'
            obtain rfl | rfl := ht
            · exact ⟨x, hx, hrun⟩
            · refine ⟨Slot.halted x, ?_, by rw [Slot.halted_running]; nofun⟩
              rw [Slot.exit, Slot.container_set_self, hx]
              rfl

theorem WorkloadRecord.installs_eq {r : WorkloadRecord} (h : r.securityGroupRules = some rules) :
    r.installs old = some rules ↔ (r.securityGroupsApplied → old = some rules) := by
  rw [WorkloadRecord.installs, h]
  cases r.securityGroupsApplied with
  | true => exact ⟨fun h _ => h, fun h => h rfl⟩
  | false => exact ⟨fun _ => nofun, fun _ => rfl⟩

end

theorem Slot.Honest.candidate (d : Deployment) (engine : Containers) :
    (⟨d.candidate, engine⟩ : Slot).Honest := ⟨nofun, nofun⟩

theorem Slot.Honest.restart {s : Slot} (h : s.Honest)
    (hc : s.record.containerId = some c → s.record.Unmarked) : (s.restart c).Honest := by
  refine ⟨h.placed, fun c' hc' => ?_⟩
  by_cases heq : c' = c
  · exact (hc (heq ▸ hc')).marks _ _
  · intro rules hrules happlied x hx hrun
    rw [Slot.restart, Slot.container_setContainer, if_neg heq] at hx
    exact h.marked c' hc' rules hrules happlied x hx hrun

/-- No container with applied rules is started again. -/
def Call.KeepsInterface (h : Host) : Call → Prop
  | .deploy d _ => ∀ s ∈ h.slot d.workloadId, ¬ s.Restarts
  | .restart w c => ∀ s ∈ h.slot w, s.record.containerId = some c → s.record.Unmarked
  | _ => True

theorem honest_step (hh : Host.Each (fun _ => Slot.Honest) h) (hcall : call.KeepsInterface h) :
    Host.Each (fun _ => Slot.Honest) (step maxWorkloads h call) := by
  cases call with
  | deploy d o =>
    refine deploy_each hh (fun s hs => ?_) fun _ => ?_
    · exact deployAt_honest (hh.known _ s hs) (hcall s hs) nofun
    · exact deployAt_honest (.candidate d _) (fun h => h.1 (.inr rfl)) fun _ => rfl
  | stop w o => exact stop_meets stopAt_honest h hh
  | recover o => exact recover_meets (fun _ => recoverAt_honest) (fun _ _ => id) h hh
  | enforceLeaseExpiry now o => exact enforceLeaseExpiry_meets (fun _ => stopAt_honest) h hh
  | exit w c => exact hh.onSlot fun s hs => (hh.known w s hs).exit c
  | restart w c => exact hh.onSlot fun s hs => (hh.known w s hs).restart (hcall s hs)

def Slot.rulesOn (s : Slot) (c : Nat) : Option (List SecurityGroupRule) :=
  (s.container c).bind (·.rules)

/-- The rules of the record are on the interface of the container. -/
def Enforces (maxWorkloads : Nat) (h : Host) : Call → Prop
  | .deploy d o => ∀ c, (deploy maxWorkloads d o h).1 = .ok c →
    ∀ s ∈ (deploy maxWorkloads d o h).2.slot d.workloadId,
      ∀ rules ∈ s.record.securityGroupRules, s.rulesOn c = some rules
  | _ => True

theorem Carries.rulesOn {s : Slot} (h : Carries c rules s) : s.rulesOn c = rules := by
  obtain ⟨x, hx, rfl⟩ := Option.map_eq_some_iff.1 h
  rw [Slot.rulesOn, hx]
  rfl

theorem deploy_rulesOn (hok : (deploy maxWorkloads d o h).1 = .ok c)
    (hs : s ∈ (deploy maxWorkloads d o h).2.slot d.workloadId)
    (hrules : s.record.securityGroupRules = some rules) :
    s.rulesOn c = some rules ↔ ∀ before ∈ h.slot d.workloadId,
      before.record.securityGroupsApplied → before.interface = some rules := by
  obtain ⟨before, hbefore, heq⟩ | ⟨hnone, heq⟩ := deploy_ok hok hs
  · have h' := deployAt_carries o .existing before nofun before rfl
    rw [heq] at h'
    obtain ⟨hsame, hcarries⟩ := h'
    rw [hcarries.rulesOn, WorkloadRecord.installs_eq (hsame.symm.trans hrules), hbefore]
    exact ⟨fun h s hs => by cases hs; exact h, fun h => h before rfl⟩
  · have h' := deployAt_carries o .new ⟨d.candidate, h.engine d.workloadId⟩ (fun _ => rfl) _ rfl
    rw [heq] at h'
    obtain ⟨hsame, hcarries⟩ := h'
    rw [hcarries.rulesOn, WorkloadRecord.installs_eq (hsame.symm.trans hrules), hnone]
    exact ⟨fun _ _ h => absurd h (Option.not_mem_none _), fun _ h => Bool.noConfusion h⟩

theorem deployAt_reaches {s : Slot} (hc : s.record.containerId = some c) :
    Exec.Meets (· = s) (deployAt o .existing) (Exec.Then
      (fun _ _ => ∃ x ∈ s.container c, x.running ∨ s.record.phase ≠ .stopped)
      fun _ _ => True) := by
  intro t ht
  rw [ht, deployAt_existing hc]
  refine Exec.Meets.bind (P := (· = s)) (Q := Exec.Then _ _)
    (fun x _ => s.container c = some x) ?_ ?_ s rfl
  · refine inspect_meets.mono (fun _ => id) (Exec.Then.mono ?_ fun _ _ _ => trivial)
    rintro x t ⟨_, rfl, hx, _⟩
    exact hx
  · intro x t hx
    have hthen (h : x.running ∨ s.record.phase ≠ .stopped) (res : Except ExecutorError Nat)
        (u : Slot) :
        Exec.Then (fun _ _ => ∃ x ∈ s.container c, x.running ∨ s.record.phase ≠ .stopped)
          (fun _ _ => True) res u := by
      cases res with
      | ok c => exact ⟨x, hx, h⟩
      | error e => trivial
    split
    · rename_i hrun
      exact hthen (.inl hrun) _ _
    · split
      · trivial
      · rename_i hphase
        exact hthen (.inr hphase) _ _

theorem Slot.Honest.interface_eq {s : Slot} (h : s.Honest) (hr : ¬ s.Restarts)
    (hrules : s.record.securityGroupRules = some rules)
    (happlied : s.record.securityGroupsApplied) (hok : (deployAt o .existing s).1 = .ok c) :
    s.interface = some rules := by
  obtain ⟨c', hc'⟩ := Option.isSome_iff_exists.1 (h.placed happlied)
  have hreaches := deployAt_reaches (o := o) hc' s rfl
  rw [hok] at hreaches
  obtain ⟨x, hx, hfound⟩ := hreaches
  have hrun : x.running := by
    by_contra hidle
    refine hr ⟨?_, hfound.resolve_left hidle, c', hc', x, hx, hidle⟩
    rintro (hnone | hfalse)
    · rw [hrules] at hnone
      cases hnone
    · rw [hfalse] at happlied
      cases happlied
  rw [Slot.interface_eq hc' hx, if_pos hrun]
  exact h.marked c' hc' rules hrules happlied x hx hrun

theorem enforces_of_honest (hh : Host.Each (fun _ => Slot.Honest) h)
    (hcall : call.KeepsInterface h) : Enforces maxWorkloads h call := by
  cases call with
  | deploy d o =>
    intro c hok s hs rules hrules
    rw [deploy_rulesOn hok hs hrules]
    intro before hbefore happlied
    obtain ⟨_, hslot, heq⟩ | ⟨hnone, _⟩ := deploy_ok hok hs
    · cases Option.some.inj (hbefore.symm.trans hslot)
      have h' := deployAt_carries o .existing before nofun before rfl
      rw [heq] at h'
      exact (hh.known _ before hbefore).interface_eq (hcall before hbefore) (h'.1.symm.trans hrules)
        happlied (congrArg Prod.fst heq)
    · rw [hnone] at hbefore
      cases hbefore
  | stop w o => trivial
  | recover o => trivial
  | enforceLeaseExpiry now o => trivial
  | exit w c => trivial
  | restart w c => trivial

/-- Rules are enforced unless wrongly marked as applied. -/
theorem security_groups_enforced (maxWorkloads : Nat) :
    (∀ (h : Host) (d : Deployment) (o : DeployOutcomes) (c : Nat),
      (deploy maxWorkloads d o h).1 = .ok c →
      ∀ s ∈ (deploy maxWorkloads d o h).2.slot d.workloadId,
        ∀ rules ∈ s.record.securityGroupRules,
          (s.rulesOn c = some rules ↔ ∀ before ∈ h.slot d.workloadId,
            before.record.securityGroupsApplied → before.interface = some rules)) ∧
    ∀ calls, Along (step maxWorkloads) (fun h call => call.KeepsInterface h) Host.empty calls →
      Along (step maxWorkloads) (Enforces maxWorkloads) Host.empty calls := by
  constructor
  · intro h d o c hok s hs rules hrules
    exact deploy_rulesOn hok hs hrules
  · intro calls hcalls
    exact hcalls.along Host.Each.empty (fun h call => honest_step) fun h call => enforces_of_honest

instance (r : WorkloadRecord) : Decidable r.Unmarked := inferInstanceAs (Decidable (_ ∨ _))

instance (s : Slot) : Decidable s.Restarts := inferInstanceAs (Decidable (_ ∧ _ ∧ _))

instance (h : Host) : ∀ call : Call, Decidable (call.KeepsInterface h)
  | .deploy d _ => inferInstanceAs (Decidable (∀ s ∈ h.slot d.workloadId, ¬ s.Restarts))
  | .restart w c => inferInstanceAs
    (Decidable (∀ s ∈ h.slot w, s.record.containerId = some c → s.record.Unmarked))
  | .stop _ _ | .recover _ | .enforceLeaseExpiry _ _ | .exit _ _ =>
    inferInstanceAs (Decidable True)

theorem security_groups_enforced_web_server :
    (∀ s ∈ (deploy 1 (webServer 0) .done Host.empty).2.slot 0, s.rulesOn 0 = some [webTraffic]) ∧
    Along (step 1) (Enforces 1) Host.empty
      [.deploy (webServer 0) .done, .deploy (webServer 0) .done, .exit 0 0, .stop 0 .done] := by
  constructor
  · intro s hs
    have hrules : s.record.securityGroupRules = some [webTraffic] := by
      cases hs
      rfl
    refine ((security_groups_enforced 1).1 Host.empty (webServer 0) .done 0 rfl s hs _ hrules).2 ?_
    exact fun before hbefore => absurd hbefore (Option.not_mem_none before)
  · exact (security_groups_enforced 1).2 _ (by decide)

theorem redeploy_unenforced :
    let h := run (step 1) Host.empty [.deploy (webServer 0) .done, .exit 0 0]
    (deploy 1 (webServer 0) .done h).1 = .ok 0 ∧
      ∃ s ∈ (deploy 1 (webServer 0) .done h).2.slot 0,
        s.record.securityGroupRules = some [webTraffic] ∧ s.rulesOn 0 = none ∧
          (s.container 0).map (·.running) = some true :=
  ⟨rfl, _, rfl, rfl, rfl, rfl⟩

end OpenInfra.Agent
