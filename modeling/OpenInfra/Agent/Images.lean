import OpenInfra.Agent.VmExecutor

namespace OpenInfra.Agent.Vm
open Frame Function List

section
variable {g h t : Host} {w : WorkloadId}

structure Shrinks (g h : Host) : Prop where
  machines : ∀ w, ∀ m ∈ h.machines w, ∃ n ∈ g.machines w, m.disk = n.disk
  files : h.files = g.files
  creations : h.creations = g.creations

theorem Shrinks.refl (h : Host) : Shrinks h h := ⟨fun _ m hm => ⟨m, hm, rfl⟩, rfl, rfl⟩

theorem Shrinks.trans (hgh : Shrinks g h) (hht : Shrinks h t) : Shrinks g t := by
  refine ⟨?_, hht.files.trans hgh.files, hht.creations.trans hgh.creations⟩
  intro w m hm
  obtain ⟨n, hn, hmn⟩ := hht.machines w m hm
  obtain ⟨l, hl, hnl⟩ := hgh.machines w n hn
  exact ⟨l, hl, hmn.trans hnl⟩

structure Same (w : WorkloadId) (g h : Host) : Prop extends Shrinks g h where
  others : ∀ w', w' ≠ w → h.machines w' = g.machines w'

theorem Same.refl (w : WorkloadId) (h : Host) : Same w h h := ⟨.refl h, fun _ _ => rfl⟩

theorem Same.setMachine (hs : Same w g h)
    (hx : ∀ m ∈ x, ∃ n ∈ h.machines w, m.disk = n.disk) : Same w g (h.setMachine w x) := by
  refine ⟨hs.toShrinks.trans ⟨?_, rfl, rfl⟩, ?_⟩
  · intro w' m hm
    change update h.machines w x w' = some m at hm
    rw [update_apply] at hm
    split at hm
    · rename_i heq
      rw [heq]
      exact hx m hm
    · exact ⟨m, hm, rfl⟩
  · intro w' hne
    exact (update_of_ne hne ..).trans (hs.others w' hne)

theorem Same.powerOff (hs : Same w g h) : Same w g (h.powerOff w) := by
  refine hs.setMachine ?_
  intro m hm
  obtain ⟨n, hn, rfl⟩ := Option.map_eq_some_iff.1 hm
  exact ⟨n, hn, rfl⟩

theorem engineCall_same (heff : ∀ m, (effect m).disk = m.disk) :
    Exec.Meets (Same w g) (engineCall o w effect) fun _ => Same w g := by
  intro h hs
  unfold engineCall
  split
  · exact hs
  · rename_i m hm
    have ht : Same w g (if o.effective then h.setMachine w (some (effect m)) else h) := by
      split
      · refine hs.setMachine ?_
        intro m' hm'
        cases hm'
        exact ⟨m, hm, heff m⟩
      · exact hs
    cases hexits : o.exits with
    | true => exact ht.powerOff
    | false => exact ht

theorem inspect_same : Exec.Meets (Same w g) (inspect o w) fun _ => Same w g := by
  intro h hs
  unfold inspect
  split
  · exact hs
  · cases hexits : o.exits with
    | true => exact hs.powerOff
    | false => exact hs

theorem remove_same : Exec.Meets (Same w g) (remove o w) fun _ => Same w g := by
  intro h hs
  unfold remove
  cases o.effective with
  | true => exact hs.setMachine nofun
  | false => exact hs

theorem storeWorkload_same : Exec.Meets (Same w g) (storeWorkload ok w' r) fun _ => Same w g := by
  intro h hs
  unfold storeWorkload
  split
  · exact ⟨⟨hs.machines, hs.files, hs.creations⟩, hs.others⟩
  · exact hs

theorem applyRateLimitIfNeeded_same :
    Exec.Meets (Same w g) (applyRateLimitIfNeeded o r w) fun _ => Same w g := by
  unfold applyRateLimitIfNeeded
  split
  · exact .pure fun _ => id
  · refine .bind (fun _ => Same w g) (.attempt (engineCall_same fun _ => rfl)) fun res => ?_
    cases res with
    | ok u => exact .pure fun _ => id
    | error e => exact .pure fun _ => id

theorem finish_same : Exec.Meets (Same w g) (finish o r w) fun _ => Same w g := by
  refine applyRateLimitIfNeeded_same.keep fun r' => ?_
  exact storeWorkload_same.keep fun _ => .pure fun _ => id

theorem boot_same : Exec.Meets (Same w g) (boot o w r) fun _ => Same w g := by
  unfold boot
  refine .bind (fun _ => Same w g) (.attempt (engineCall_same fun _ => rfl)) fun res => ?_
  cases res with
  | error e => exact storeWorkload_same.keep fun _ => .fail fun _ => id
  | ok u =>
    refine inspect_same.keep fun m => ?_
    split
    · exact finish_same
    · exact storeWorkload_same.keep fun _ => .fail fun _ => id

theorem stop_same : Exec.Meets (Same w g) (stop w o) fun _ => Same w g := by
  refine Exec.Meets.keep (.get fun _ => id) fun h => ?_
  split
  · exact .pure fun _ => id
  · unfold stopAt
    split
    · split
      · exact .pure fun _ => id
      · split
        · exact .fail fun _ => id
        · refine storeWorkload_same.keep fun _ => ?_
          have hshutdown : Exec.Meets (Same w g) (shutdown o.stop w) fun _ => Same w g :=
            engineCall_same fun _ => rfl
          refine hshutdown.keep fun _ => ?_
          refine inspect_same.keep fun m => ?_
          split
          · exact .fail fun _ => id
          · exact remove_same.keep fun _ => storeWorkload_same
    · exact .fail fun _ => id

theorem recoverAt_same : Exec.Meets (Same w g) (recoverAt w o r) fun _ => Same w g := by
  unfold recoverAt
  split
  · split
    · split
      · exact storeWorkload_same
      · exact .pure fun _ => id
    · refine .bind (fun _ => Same w g) (.attempt inspect_same) ?_
      rintro (e | m)
      · exact storeWorkload_same
      · change Exec.Meets _ (if m.running then _ else _) _
        split
        · exact applyRateLimitIfNeeded_same.keep fun _ => storeWorkload_same
        · split
          · exact storeWorkload_same
          · exact storeWorkload_same
  · exact .pure fun _ => id

theorem shrinks_of_same (hm : ∀ g, Exec.Meets (Same w g) m fun _ => Same w g) :
    Exec.Meets (Shrinks g) m fun _ => Shrinks g :=
  fun h hs => hs.trans (hm h h (.refl w h)).toShrinks

theorem recover_shrinks : Exec.Meets (Shrinks g) (recover o) fun _ => Shrinks g := by
  refine Exec.Meets.keep (.get fun _ => id) fun h => ?_
  exact .forM (fun r => shrinks_of_same fun _ => recoverAt_same) h.state.rows

theorem enforceLeaseExpiry_shrinks :
    Exec.Meets (Shrinks g) (enforceLeaseExpiry now o) fun _ => Shrinks g := by
  refine Exec.Meets.keep (.get fun _ => id) fun h => ?_
  refine .foldlM (fun stopped r => ?_) h.state.rows []
  split
  · refine .bind (fun _ => Shrinks g) (.attempt (shrinks_of_same fun _ => stop_same)) fun res => ?_
    cases res with
    | ok u => exact .pure fun _ => id
    | error e => exact .pure fun _ => id
  · exact .pure fun _ => id

end

section
variable {sha256 : List UInt8 → BitVec 256} {d : Deployment} {g h t : Host}

inductive Cached (sha256 : List UInt8 → BitVec 256) (digest : BitVec 256) (g : Host) : Host → Prop
  | hit : Cached sha256 digest g g
  | fetched (hnone : g.files digest = none) (hbytes : sha256 bytes = digest) :
    Cached sha256 digest g (g.writeFile digest bytes)

def Host.Unplaced (h : Host) (w : WorkloadId) : Prop := ∀ r ∈ h.state.workload w, r.vmHandle = none

def creation (d : Deployment) (contents : List UInt8) : Creation :=
  ⟨d.workloadId, d.vmImageSha256, d.vmImageSha256, contents⟩

inductive Placed (sha256 : List UInt8 → BitVec 256) (d : Deployment) (g : Host) : Host → Prop
  | cached {t : Host} (h : Cached sha256 d.vmImageSha256 g t) : Placed sha256 d g t
  | created {t : Host} (hw : g.Unplaced d.workloadId) (h : Cached sha256 d.vmImageSha256 g t)
    (hfile : t.files d.vmImageSha256 = some contents) :
    Placed sha256 d g (t.addMachine (creation d contents))

def After (w : WorkloadId) (R : Host → Prop) (h : Host) : Prop := ∃ t, R t ∧ Same w t h

variable {R : Host → Prop}

theorem After.keep
    (hm : ∀ g, Exec.Meets (Same w g) m fun _ => Same w g) :
    Exec.Meets (After w R) m fun _ => After w R := by
  rintro h ⟨t, ht, hs⟩
  exact ⟨t, ht, hm t h hs⟩

theorem After.mono {R R' : Host → Prop} (hR : ∀ t, R t → R' t) (h' : After w R h) :
    After w R' h := by
  obtain ⟨t, ht, hs⟩ := h'
  exact ⟨t, hR t ht, hs⟩

theorem Same.writeFile (hs : Same w g h) (path : ImagePath) (contents : List UInt8) :
    Same w (g.writeFile path contents) (h.writeFile path contents) := by
  refine ⟨⟨hs.machines, ?_, hs.creations⟩, hs.others⟩
  unfold Host.writeFile
  rw [hs.files]

theorem Same.addMachine (hs : Same x.workloadId g h) :
    Same x.workloadId (g.addMachine x) (h.addMachine x) := by
  refine ⟨⟨?_, hs.files, ?_⟩, ?_⟩
  · intro w' m hm
    change update h.machines _ _ w' = some m at hm
    change ∃ n ∈ update g.machines _ _ w', _
    rw [update_apply] at *
    split
    · rename_i heq
      rw [if_pos heq] at hm
      exact ⟨m, hm, rfl⟩
    · rename_i hne
      rw [if_neg hne, hs.others w' hne] at hm
      exact ⟨m, hm, rfl⟩
  · change h.creations ++ [x] = g.creations ++ [x]
    rw [hs.creations]
  · intro w' hne
    change update h.machines _ _ w' = update g.machines _ _ w'
    rw [update_of_ne hne, update_of_ne hne]
    exact hs.others w' hne

theorem Host.files_writeFile (h : Host) (path : ImagePath) (contents : List UInt8) :
    (h.writeFile path contents).files path = some contents := update_self ..

theorem fetchAndVerifyImage_after :
    Exec.Meets (Same w g) (fetchAndVerifyImage sha256 o url digest) (Exec.Then
      (fun path h => path = digest ∧ After w (Cached sha256 digest g) h) fun _ => Same w g) := by
  intro h hs
  unfold fetchAndVerifyImage
  split
  · exact ⟨rfl, g, .hit, hs⟩
  · rename_i hnone
    split
    · exact hs
    · rename_i bytes _
      split
      · rename_i hbytes
        split
        · rw [hs.files] at hnone
          exact ⟨rfl, _, .fetched hnone hbytes, hs.writeFile digest bytes⟩
        · exact hs
      · exact hs

theorem create_after (hw : g.Unplaced d.workloadId) :
    Exec.Meets (After d.workloadId (Cached sha256 d.vmImageSha256 g))
      (create o d d.vmImageSha256) fun _ => After d.workloadId (Placed sha256 d g) := by
  rintro h ⟨t, ht, hs⟩
  unfold create
  split
  · exact ⟨t, .cached ht, hs⟩
  · rename_i contents hfile
    cases o.effective with
    | true =>
      rw [hs.files] at hfile
      exact ⟨_, .created hw ht hfile, hs.addMachine (x := creation d contents)⟩
    | false => exact ⟨t, .cached ht, hs⟩

theorem launch_after (hw : r.vmHandle = none → g.Unplaced d.workloadId) :
    Exec.Meets (Same d.workloadId g) (launch sha256 o d r)
      fun _ => After d.workloadId (Placed sha256 d g) := by
  unfold launch
  refine .bind _ (fetchAndVerifyImage_after.mono (fun _ => id) (Exec.Then.mono (fun _ _ => id)
    fun _ h hs => ⟨g, .cached .hit, hs⟩)) fun path => ?_
  refine .assume ?_
  rintro rfl
  refine .bind (fun _ => After d.workloadId (Placed sha256 d g)) ?_ fun r' =>
    After.keep fun _ => boot_same
  unfold ensureMachine
  split
  · exact .pure fun h hh => hh.mono fun t ht => .cached ht
  · rename_i hnone
    refine .bind (fun _ => After d.workloadId (Placed sha256 d g)) ?_ fun handle => ?_
    · refine (create_after (hw hnone)).mono (fun _ => id) ?_
      rintro (e | handle) h hh
      · exact hh
      · exact hh
    · refine .bind (fun _ => After d.workloadId (Placed sha256 d g))
        (.attempt (After.keep fun _ => storeWorkload_same)) fun res => ?_
      cases res with
      | ok u => exact .pure fun _ => id
      | error e =>
        exact .bind (fun _ => After d.workloadId (Placed sha256 d g))
          (.attempt (After.keep fun _ => remove_same)) fun _ => .fail fun _ => id

theorem deployAt_after (hw : r.vmHandle = none → g.Unplaced d.workloadId) :
    Exec.Meets (Same d.workloadId g) (deployAt sha256 o d reservation r)
      fun _ => After d.workloadId (Placed sha256 d g) := by
  have hstay : ∀ h, Same d.workloadId g h → After d.workloadId (Placed sha256 d g) h :=
    fun h hs => ⟨g, .cached .hit, hs⟩
  unfold deployAt
  split
  · split
    · refine inspect_same.keep_bind (fun _ => hstay) fun m => ?_
      split
      · exact finish_same.mono (fun _ => id) fun _ => hstay
      · split
        · exact .fail hstay
        · exact launch_after hw
    · exact launch_after hw
  · exact .fail hstay

theorem deploy_after (sha256 : List UInt8 → BitVec 256) (maxVmWorkloads : Nat) (d : Deployment)
    (o : DeployOutcomes) (g : Host) :
    After d.workloadId (Placed sha256 d g) (deploy sha256 maxVmWorkloads d o g).2 := by
  suffices h : Exec.Meets (· = g) (deploy sha256 maxVmWorkloads d o)
      fun _ => After d.workloadId (Placed sha256 d g) from h g rfl
  have hstay : ∀ h, h = g → After d.workloadId (Placed sha256 d g) h := by
    rintro _ rfl
    exact ⟨_, .cached .hit, .refl _ _⟩
  unfold deploy
  split
  · exact .fail hstay
  · refine .get_bind ?_
    rintro g rfl
    split
    · exact .fail hstay
    · rename_i state reservation hreserve
      refine .bind (fun _ => Same d.workloadId g) ?_ fun _ => ?_
      · refine .modify ?_
        rintro _ rfl
        exact ⟨⟨fun _ m hm => ⟨m, hm, rfl⟩, rfl, rfl⟩, fun _ _ => rfl⟩
      · split
        · exact .fail fun h hs => ⟨g, .cached .hit, hs⟩
        · rename_i r hr
          refine deployAt_after fun hnone => ?_
          obtain ⟨rfl, _, _⟩ | ⟨_, _, hnew⟩ := LocalState.reserveWorkload_eq_ok hreserve
          · intro r' hr'
            cases Option.some.inj (hr.symm.trans hr')
            exact hnone
          · intro r' hr'
            rw [hnew] at hr'
            cases hr'

def Host.Unshared (h : Host) (w : WorkloadId) (path : ImagePath) : Prop :=
  ∀ w', w' ≠ w → ∀ m ∈ h.machines w', m.disk ≠ path

theorem deploy_creates
    (hx : (deploy sha256 maxVmWorkloads d o g).2.creations = g.creations ++ [x]) :
    (sha256 x.contents = x.vmImageSha256 ∧
      (deploy sha256 maxVmWorkloads d o g).2.Unshared x.workloadId x.imagePath) ↔
    (∀ bytes ∈ g.files d.vmImageSha256, sha256 bytes = d.vmImageSha256) ∧
      g.Unshared d.workloadId d.vmImageSha256 := by
  obtain ⟨t, ht, hs⟩ := deploy_after sha256 maxVmWorkloads d o g
  revert hx hs
  generalize (deploy sha256 maxVmWorkloads d o g).2 = h
  intro hx hs
  rw [hs.creations] at hx
  cases ht with
  | cached hc =>
    have hkept : t.creations = g.creations := by cases hc <;> rfl
    rw [hkept] at hx
    exact absurd (congrArg length hx) (by simp)
  | created hw hc hfile =>
    rename_i contents t
    have hkept : t.creations = g.creations := by cases hc <;> rfl
    have hmachines : t.machines = g.machines := by cases hc <;> rfl
    change t.creations ++ [creation d contents] = _ at hx
    rw [hkept] at hx
    cases singleton_inj.1 (append_cancel_left hx)
    refine and_congr ?_ ?_
    · change sha256 contents = d.vmImageSha256 ↔ _
      cases hc with
      | hit =>
        rw [hfile]
        exact ⟨fun h bytes hb => Option.some.inj hb ▸ h, fun h => h contents rfl⟩
      | fetched hnone hbytes =>
        rw [Host.files_writeFile] at hfile
        rw [hnone, ← Option.some.inj hfile]
        exact ⟨fun _ _ h => absurd h (Option.not_mem_none _), fun _ => hbytes⟩
    · refine forall_congr' fun w' => forall_congr' fun hne => ?_
      have hsame : h.machines w' = g.machines w' := by
        rw [hs.others w' hne]
        exact (update_of_ne hne ..).trans (congrFun hmachines w')
      rw [hsame]
      exact Iff.rfl

/-- Machines have the image they pinned, each on its own disk. -/
structure Sound (sha256 : List UInt8 → BitVec 256) (h : Host) : Prop where
  used : ∀ w, ∀ m ∈ h.machines w, ∃ x ∈ h.creations, x.imagePath = m.disk
  unused : ∀ path, ∀ bytes ∈ h.files path, (∀ x ∈ h.creations, x.imagePath ≠ path) →
    sha256 bytes = path
  verified : ∀ x ∈ h.creations, sha256 x.contents = x.vmImageSha256
  unshared : ∀ w, ∀ m ∈ h.machines w, h.Unshared w m.disk

theorem Sound.empty : Sound sha256 Host.empty := ⟨nofun, nofun, nofun, nofun⟩

section
variable (hg : Sound sha256 g)
include hg

theorem Sound.shrinks (hs : Shrinks g h) : Sound sha256 h := by
  constructor
  · intro w m hm
    obtain ⟨n, hn, hd⟩ := hs.machines w m hm
    rw [hs.creations, hd]
    exact hg.used w n hn
  · rw [hs.files, hs.creations]
    exact hg.unused
  · rw [hs.creations]
    exact hg.verified
  · intro w m hm w' hne m' hm'
    obtain ⟨n, hn, hd⟩ := hs.machines w m hm
    obtain ⟨n', hn', hd'⟩ := hs.machines w' m' hm'
    rw [hd, hd']
    exact hg.unshared w n hn w' hne n' hn'

theorem Sound.writeFile
    (hpath : (∀ x ∈ g.creations, x.imagePath ≠ path) → sha256 bytes = path) :
    Sound sha256 (g.writeFile path bytes) := by
  refine ⟨hg.used, ?_, hg.verified, hg.unshared⟩
  intro path' bytes' hb hunused
  change update g.files _ _ path' = some bytes' at hb
  rw [update_apply] at hb
  split at hb
  · rename_i heq
    cases hb
    rw [heq] at hunused ⊢
    exact hpath hunused
  · exact hg.unused path' bytes' hb hunused

theorem Sound.cached (h : Cached sha256 digest g t) : Sound sha256 t := by
  cases h with
  | hit => exact hg
  | fetched hnone hbytes => exact hg.writeFile fun _ => hbytes

theorem Sound.addMachine (hx : sha256 x.contents = x.vmImageSha256)
    (hfresh : ∀ y ∈ g.creations, y.imagePath ≠ x.imagePath) : Sound sha256 (g.addMachine x) := by
  have hmachines : ∀ w, ∀ m ∈ (g.addMachine x).machines w,
      w = x.workloadId ∧ m.disk = x.imagePath ∨ m ∈ g.machines w := by
    intro w m hm
    change update g.machines _ _ w = some m at hm
    rw [update_apply] at hm
    split at hm
    · cases hm
      exact .inl ⟨‹_›, rfl⟩
    · exact .inr hm
  have hold : ∀ w, ∀ m ∈ g.machines w, m.disk ≠ x.imagePath := by
    intro w m hm
    obtain ⟨y, hy, hd⟩ := hg.used w m hm
    rw [← hd]
    exact hfresh y hy
  constructor
  · intro w m hm
    obtain ⟨_, hd⟩ | hm := hmachines w m hm
    · exact ⟨x, mem_append_right _ (mem_singleton_self x), hd.symm⟩
    · obtain ⟨y, hy, hd⟩ := hg.used w m hm
      exact ⟨y, mem_append_left _ hy, hd⟩
  · intro path bytes hb hunused
    exact hg.unused path bytes hb fun y hy => hunused y (mem_append_left _ hy)
  · intro y hy
    obtain hy | hy := mem_append.1 hy
    · exact hg.verified y hy
    · rw [mem_singleton.1 hy]
      exact hx
  · intro w m hm w' hne m' hm'
    obtain ⟨hw, hd⟩ | hm := hmachines w m hm
    · obtain ⟨hw', _⟩ | hm' := hmachines w' m' hm'
      · exact absurd (hw'.trans hw.symm) hne
      · rw [hd]
        exact hold w' m' hm'
    · obtain ⟨_, hd'⟩ | hm' := hmachines w' m' hm'
      · rw [hd']
        exact (hold w m hm).symm
      · exact hg.unshared w m hm w' hne m' hm'

theorem Sound.guestWrite (w : WorkloadId) (contents : List UInt8) :
    Sound sha256 (g.guestWrite w contents) := by
  unfold Host.guestWrite
  split
  · rename_i disk hm
    refine hg.writeFile fun hunused => ?_
    obtain ⟨x, hx, hd⟩ := hg.used w _ hm
    exact absurd hd (hunused x hx)
  · exact hg

end

/-- A new machine gets a file that no machine has been given yet. -/
def Call.Fresh (h : Host) : Call → Prop
  | .deploy d _ => h.Unplaced d.workloadId → ∀ x ∈ h.creations, x.imagePath ≠ d.vmImageSha256
  | _ => True

theorem sound_step (hg : Sound sha256 g) (hcall : call.Fresh g) :
    Sound sha256 (step sha256 maxVmWorkloads g call) := by
  cases call with
  | deploy d o =>
    obtain ⟨t, ht, hs⟩ := deploy_after sha256 maxVmWorkloads d o g
    refine Sound.shrinks ?_ hs.toShrinks
    cases ht with
    | cached hc => exact hg.cached hc
    | created hw hc hfile =>
      rename_i contents t
      have hkept : t.creations = g.creations := by cases hc <;> rfl
      have hfresh : ∀ y ∈ t.creations, y.imagePath ≠ d.vmImageSha256 := by
        rw [hkept]
        exact hcall hw
      refine (hg.cached hc).addMachine ?_ hfresh
      exact (hg.cached hc).unused _ contents hfile hfresh
  | stop w o => exact hg.shrinks (stop_same g (.refl w g)).toShrinks
  | recover o => exact hg.shrinks (recover_shrinks g (.refl g))
  | enforceLeaseExpiry now o => exact hg.shrinks (enforceLeaseExpiry_shrinks g (.refl g))
  | write w contents => exact hg.guestWrite w contents
  | powerOff w => exact hg.shrinks (Same.refl w g).powerOff.toShrinks

/-- Every machine has a disk of its own with the image it pinned. -/
def Isolated (sha256 : List UInt8 → BitVec 256) (h : Host) : Prop :=
  (∀ x ∈ h.creations, sha256 x.contents = x.vmImageSha256) ∧
    ∀ w, ∀ m ∈ h.machines w, h.Unshared w m.disk

end

/-- Images stay pinned exactly if the cached file is intact and no disk. -/
theorem images_pinned (sha256 : List UInt8 → BitVec 256) (maxVmWorkloads : Nat) :
    (∀ (g : Host) (d : Deployment) (o : DeployOutcomes) (x : Creation),
      (deploy sha256 maxVmWorkloads d o g).2.creations = g.creations ++ [x] →
      ((sha256 x.contents = x.vmImageSha256 ∧
        (deploy sha256 maxVmWorkloads d o g).2.Unshared x.workloadId x.imagePath) ↔
      (∀ bytes ∈ g.files d.vmImageSha256, sha256 bytes = d.vmImageSha256) ∧
        g.Unshared d.workloadId d.vmImageSha256)) ∧
    ∀ calls, Along (step sha256 maxVmWorkloads) (fun h call => call.Fresh h) Host.empty calls →
      Throughout (step sha256 maxVmWorkloads) (Isolated sha256) Host.empty calls := by
  constructor
  · intro g d o x hx
    exact deploy_creates hx
  · intro calls hcalls
    exact (hcalls.throughout Sound.empty fun g call => sound_step).mono fun h hh =>
      ⟨hh.verified, hh.unshared⟩

def imageOf (w : WorkloadId) (n : Nat) : Deployment where
  workloadId := w
  specHash := 7
  vmImageUrl := "https://example.com/image.qcow2"
  vmImageSha256 := BitVec.ofNat 256 n
  egressMbps := 0
  leaseEnd := 1000

def digestOf (bytes : List UInt8) : BitVec 256 := BitVec.ofNat 256 bytes.length

def DeployOutcomes.done (n : Nat) : DeployOutcomes :=
  ⟨.done, ⟨some (List.replicate n 0), true⟩, .done, true, .done, .done, .done, .done, true⟩

instance (h : Host) (w : WorkloadId) : Decidable (h.Unplaced w) :=
  inferInstanceAs (Decidable (∀ r ∈ h.state.workload w, r.vmHandle = none))

theorem images_pinned_two_images :
    (digestOf (List.replicate 2 0) = 2 ∧
      (deploy digestOf 1 (imageOf 0 2) (.done 2) Host.empty).2.Unshared 0 2) ∧
    Throughout (step digestOf 2) (Isolated digestOf) Host.empty
      [.deploy (imageOf 0 2) (.done 2), .write 0 [1], .stop 0 .done,
        .deploy (imageOf 1 3) (.done 3)] := by
  constructor
  · refine ((images_pinned digestOf 1).1 Host.empty (imageOf 0 2) (.done 2)
      (creation (imageOf 0 2) (replicate 2 0)) rfl).2 ⟨?_, ?_⟩
    · exact fun bytes hb => absurd hb (Option.not_mem_none bytes)
    · exact fun w' _ m hm => absurd hm (Option.not_mem_none m)
  · apply (images_pinned digestOf 2).2
    refine ⟨?_, trivial, trivial, ?_, trivial⟩
    · intro _ x hx
      cases hx
    · change Host.Unplaced _ _ → _
      decide

theorem image_shared :
    let h := run (step digestOf 2) Host.empty
      [.deploy (imageOf 0 2) (.done 2), .write 0 [1], .deploy (imageOf 1 2) (.done 2)]
    (∃ x ∈ h.creations, x.workloadId = 1 ∧ x.contents = [1] ∧
      digestOf x.contents ≠ x.vmImageSha256) ∧
    h.machines 0 = some ⟨true, 2⟩ ∧ h.machines 1 = some ⟨true, 2⟩ := by
  refine ⟨⟨creation (imageOf 1 2) [1], ?_, rfl, rfl, ?_⟩, rfl, rfl⟩
  · decide
  · decide

end OpenInfra.Agent.Vm
