import OpenInfra.Agent.DockerExecutor

namespace OpenInfra.Agent
open Frame List

namespace Host

/-- The workload has a slot, and it satisfies `I`. -/
def Holds (w : WorkloadId) (I : Slot → Prop) (h : Host) : Prop := ∃ s ∈ h.slot w, I s

variable {h : Host} {w w' : WorkloadId} {I J : Slot → Prop}

theorem Holds.setSlot (hI : h.Holds w I) (hs : w' = w → I s) : (h.setSlot w' s).Holds w I := by
  obtain ⟨t, ht, hI⟩ := hI
  by_cases hw : w' = w
  · exact ⟨s, by rw [slot_setSlot, if_pos hw.symm]; rfl, hs hw⟩
  · exact ⟨t, by rw [slot_setSlot, if_neg (Ne.symm hw)]; exact ht, hI⟩

theorem Holds.onSlot (hI : h.Holds w I) (hf : ∀ s, I s → I (f s)) : (h.onSlot w' f).Holds w I := by
  unfold Host.onSlot
  split
  · exact hI
  · rename_i t ht
    apply hI.setSlot
    rintro rfl
    obtain ⟨s, hs, hI⟩ := hI
    rw [ht] at hs
    cases hs
    exact hf t hI

theorem Holds.reserve (hI : h.Holds w I) (hnone : h.slot w' = none) :
    (h.reserve w' r).Holds w I := by
  obtain ⟨s, hs, hI⟩ := hI
  refine ⟨s, ?_, hI⟩
  rw [slot_reserve, if_neg]
  · exact hs
  · rintro rfl
    rw [hnone] at hs
    cases hs

end Host

open Host (Holds)

section
variable {w w' : WorkloadId} {I : Slot → Prop}

theorem onWorkload_some (hs : h.slot w = some s) :
    onWorkload w m h = ((m s).1, h.setSlot w (m s).2) := by
  unfold onWorkload
  rw [hs]

theorem onWorkload_holds (hm : w' = w → Exec.Meets I m fun _ => I) :
    Exec.Meets (Holds w I) (onWorkload w' m) fun _ => Holds w I := by
  intro h hI
  unfold onWorkload
  split
  · exact hI
  · rename_i s hs
    apply Holds.setSlot hI
    rintro rfl
    obtain ⟨t, ht, hI⟩ := hI
    rw [hs] at ht
    cases ht
    exact hm rfl s hI

theorem stop_some (hs : h.slot w = some s) :
    stop w o h = ((stopAt o s).1, h.setSlot w (stopAt o s).2) := by
  unfold stop
  rw [hs]
  exact onWorkload_some hs

theorem stop_holds (hm : w' = w → Exec.Meets I (stopAt o) fun _ => I) :
    Exec.Meets (Holds w I) (stop w' o) fun _ => Holds w I := by
  intro h hI
  unfold stop
  split
  · exact hI
  · exact onWorkload_holds hm h hI

theorem step_holds (hdeploy : ∀ o, Exec.Meets I (deployAt o .existing) fun _ => I)
    (hstop : ∀ o, Exec.Meets I (stopAt o) fun _ => I)
    (hrecover : ∀ o, Exec.Meets I (recoverAt o) fun _ => I) (hexit : ExitStable I)
    (hrestart : ∀ s c, I s → I (s.restart c)) (maxWorkloads : Nat) (call : Call)
    (hI : Holds w I h) : Holds w I (step maxWorkloads h call) := by
  cases call with
  | deploy d o =>
    change Holds w I (deploy maxWorkloads d o h).2
    obtain ⟨e, heq⟩ | ⟨s, hs, heq⟩ | ⟨hnone, heq⟩ := deploy_cases maxWorkloads d o h
    · rwa [heq]
    · rw [heq]
      apply hI.setSlot
      rintro rfl
      obtain ⟨t, ht, hI⟩ := hI
      rw [hs] at ht
      cases ht
      exact hdeploy o s hI
    · rw [heq]
      apply (hI.reserve hnone).setSlot
      rintro rfl
      obtain ⟨t, ht, _⟩ := hI
      rw [hnone] at ht
      cases ht
  | stop w' o => exact stop_holds (fun _ => hstop o) h hI
  | recover o =>
    refine Exec.Meets.keep (.get fun _ => id) (fun h' => ?_) h hI
    exact .forM (fun r => onWorkload_holds fun _ => hrecover _) _
  | enforceLeaseExpiry now o =>
    refine Exec.Meets.keep (.get fun _ => id) (fun h' => ?_) h hI
    apply Exec.Meets.foldlM
    intro stopped r
    unfold expireOne
    split
    · refine .keep (.attempt (stop_holds fun _ => hstop _)) fun a => ?_
      cases a with
      | ok u => exact .pure fun _ => id
      | error e => exact .pure fun _ => id
    · exact .pure fun _ => id
  | exit w' c => exact hI.onSlot fun s => hexit s c
  | restart w' c => exact hI.onSlot fun s => hrestart s c

end

theorem Host.engine_of_slot {h : Host} (hs : h.slot w = some s) : h.engine w = s.engine := by
  unfold Host.slot at hs
  obtain ⟨r, _, rfl⟩ := Option.map_eq_some_iff.1 hs
  rfl

theorem Host.workload_of_slot {h : Host} (hs : h.slot w = some s) :
    h.state.workload w = some s.record := by
  unfold Host.slot at hs
  obtain ⟨r, hr, rfl⟩ := Option.map_eq_some_iff.1 hs
  exact hr

theorem Host.slot_of_row (h : Host) (hr : r ∈ h.state.rows) :
    h.slot r.1 = some ⟨r.2, h.engine r.1⟩ := by
  have hlookup : h.state.lookup r.1 = some r := Table.mem_rows.1 hr
  rw [Host.slot, LocalState.workload, hlookup]
  rfl

theorem Host.slot_of_not_row (h : Host) (hw : w ∉ h.state.rows.map Prod.fst) : h.slot w = none := by
  cases hs : h.state.lookup w with
  | none => rw [Host.slot, LocalState.workload, hs]; rfl
  | some r =>
    have hkey : r.1 = w := Table.key_of_lookup hs
    have hmem : r ∈ h.state.rows := Table.mem_rows.2 (hkey ▸ hs)
    exact absurd (mem_map.2 ⟨r, hmem, hkey⟩) hw

theorem foldlM_slots {f : A → WorkloadId × WorkloadRecord → Executor A}
    {g : WorkloadId → Slot → Slot} {p : WorkloadId → Slot → Prop} {M : A → WorkloadId → Prop}
    (hf : ∀ a r h s, h.slot r.1 = some s → s.record = r.2 → ∃ a', (f a r h).1 = .ok a' ∧
      (∀ w, M a' w ↔ M a w ∨ w = r.1 ∧ p r.1 s) ∧
      ∀ w, (f a r h).2.slot w = if w = r.1 then some (g r.1 s) else h.slot w)
    (rows : List (WorkloadId × WorkloadRecord)) (hnodup : (rows.map Prod.fst).Nodup) (a : A)
    (h : Host) (hrows : ∀ r ∈ rows, ∃ s, h.slot r.1 = some s ∧ s.record = r.2) :
    ∃ a', (rows.foldlM f a h).1 = .ok a' ∧
      (∀ w, M a' w ↔ M a w ∨ w ∈ rows.map Prod.fst ∧ ∃ s ∈ h.slot w, p w s) ∧
      ∀ w, (rows.foldlM f a h).2.slot w =
        if w ∈ rows.map Prod.fst then (h.slot w).map (g w) else h.slot w := by
  induction rows generalizing a h with
  | nil => exact ⟨a, rfl, fun w => by simp, fun w => by simp; rfl⟩
  | cons r rows ih =>
    obtain ⟨hfirst, hrest⟩ := nodup_cons.1 hnodup
    obtain ⟨s, hs, hrecord⟩ := hrows r mem_cons_self
    obtain ⟨a₁, ha, hmem, hslot⟩ := hf a r h s hs hrecord
    have hne {r' : WorkloadId × WorkloadRecord} (hr' : r' ∈ rows) : r'.1 ≠ r.1 := by
      intro heq
      exact hfirst (mem_map.2 ⟨r', hr', heq⟩)
    obtain ⟨a', ha', hmem', hslot'⟩ := ih hrest a₁ (f a r h).2 fun r' hr' => by
      rw [hslot, if_neg (hne hr')]
      exact hrows r' (mem_cons_of_mem _ hr')
    have hrun : (r :: rows).foldlM f a h = rows.foldlM f a₁ (f a r h).2 :=
      Exec.bind_of_ok (Prod.ext ha rfl)
    rw [hrun]
    refine ⟨a', ha', fun w => ?_, fun w => ?_⟩
    · rw [hmem', hmem, map_cons, mem_cons, hslot]
      by_cases hw : w = r.1
      · subst hw
        simp only [hfirst, false_and, or_false, true_and, hs, Option.mem_some_iff,
          exists_eq_left']
      · simp only [hw, false_and, or_false, false_or, if_false]
    · rw [hslot', hslot, map_cons]
      by_cases hw : w = r.1
      · subst hw
        rw [if_neg hfirst, if_pos rfl, if_pos mem_cons_self, hs]
        rfl
      · simp only [hw, if_false, mem_cons, false_or]

theorem expireOne_slots (now : Int) (o : WorkloadId → StopOutcomes) (stopped : List WorkloadId)
    (hs : h.slot r.1 = some s) (hrecord : s.record = r.2) :
    ∃ stopped', (expireOne now o stopped r h).1 = .ok stopped' ∧
      (∀ w, w ∈ stopped' ↔ w ∈ stopped ∨
        w = r.1 ∧ s.record.Expired now ∧ (stopAt (o r.1) s).1 = .ok ()) ∧
      ∀ w, (expireOne now o stopped r h).2.slot w = if w = r.1 then
        some (if s.record.Expired now then (stopAt (o r.1) s).2 else s) else h.slot w := by
  unfold expireOne
  rw [← hrecord]
  split
  · rename_i hexp
    have hrun : (stop r.1 (o r.1)).attempt h =
        (.ok (stopAt (o r.1) s).1, h.setSlot r.1 (stopAt (o r.1) s).2) := by
      rw [Exec.attempt, stop_some hs]
    rw [Exec.bind_of_ok hrun]
    cases hstop : (stopAt (o r.1) s).1 with
    | ok u =>
      refine ⟨stopped ++ [r.1], rfl, fun w => ?_, fun w => Host.slot_setSlot ..⟩
      simp only [mem_append, mem_singleton, hexp, and_true]
    | error e =>
      refine ⟨stopped, rfl, fun w => ?_, fun w => Host.slot_setSlot ..⟩
      simp only [reduceCtorEq, and_false, or_false]
  · rename_i hexp
    refine ⟨stopped, rfl, fun w => ?_, fun w => ?_⟩
    · simp only [hexp, false_and, and_false, or_false]
    · split
      · rename_i hw
        rw [hw]
        exact hs
      · rfl

theorem enforceLeaseExpiry_slots (now : Int) (o : WorkloadId → StopOutcomes) (h : Host) :
    ∃ stopped, (enforceLeaseExpiry now o h).1 = .ok stopped ∧
      (∀ w, w ∈ stopped ↔
        ∃ s ∈ h.slot w, s.record.Expired now ∧ (stopAt (o w) s).1 = .ok ()) ∧
      ∀ w, (enforceLeaseExpiry now o h).2.slot w = (h.slot w).map fun s =>
        if s.record.Expired now then (stopAt (o w) s).2 else s := by
  obtain ⟨stopped, hok, hmem, hslot⟩ := foldlM_slots (f := expireOne now o)
    (g := fun w s => if s.record.Expired now then (stopAt (o w) s).2 else s)
    (p := fun w s => s.record.Expired now ∧ (stopAt (o w) s).1 = .ok ())
    (M := fun stopped w => w ∈ stopped)
    (fun stopped r h s => expireOne_slots now o stopped) h.state.rows h.state.nodup [] h
    fun r hr => ⟨_, h.slot_of_row hr, rfl⟩
  refine ⟨stopped, hok, fun w => ?_, fun w => ?_⟩
  · rw [hmem, or_iff_right not_mem_nil, and_iff_right_iff_imp]
    rintro ⟨s, hs, _⟩
    by_contra hw
    rw [h.slot_of_not_row hw] at hs
    cases hs
  · refine (hslot w).trans ?_
    split
    · rfl
    · rename_i hw
      rw [h.slot_of_not_row hw]
      rfl

theorem recover_slots {o : WorkloadId → RecoverOutcomes}
    (ho : ∀ w s, (recoverAt (o w) s).1 = .ok ()) (h : Host) (w : WorkloadId) :
    (recover o h).2.slot w = (h.slot w).map fun s => (recoverAt (o w) s).2 := by
  have hround (r : WorkloadId × WorkloadRecord) (h : Host) (s : Slot) (hs : h.slot r.1 = some s) :
      onWorkload r.1 (recoverAt (o r.1)) h = (.ok (), h.setSlot r.1 (recoverAt (o r.1) s).2) := by
    rw [onWorkload_some hs, ho]
  obtain ⟨_, _, _, hslot⟩ := foldlM_slots (f := fun _ r => onWorkload r.1 (recoverAt (o r.1)))
    (g := fun w s => (recoverAt (o w) s).2) (p := fun _ _ => False) (M := fun _ _ => False)
    (fun _ r h s hs _ => ⟨(), by rw [hround r h s hs],
      by simp only [and_false, or_false, implies_true],
      fun w => by rw [hround r h s hs]; exact Host.slot_setSlot ..⟩)
    h.state.rows h.state.nodup () h fun r hr => ⟨_, h.slot_of_row hr, rfl⟩
  have hrun : recover o h =
      h.state.rows.foldlM (fun _ r => onWorkload r.1 (recoverAt (o r.1))) () h :=
    congrFun (Exec.forM_eq_foldlM ..) h
  rw [hrun, hslot]
  split
  · rfl
  · rename_i hw
    rw [h.slot_of_not_row hw]
    rfl

end OpenInfra.Agent
