import OpenInfra.Chain.Footprint

namespace OpenInfra.OpenInfraLease
open Frame Function Relation

variable {A Ledger : Type} {E : Env A Ledger} {s t u : Chain E}

/-- Every lease of `s` is still one of `t`, where only its state has moved. -/
def Continues (s t : Chain E) : Prop :=
  ∀ leaseId, ∀ lease ∈ s.lease.leases leaseId, ∃ state,
    t.lease.leases leaseId = some { lease with state } ∧
      ReflTransGen (fun x y => validTransition x y) lease.state state ∧
      (state = .expired → lease.state = .expired ∨ lease.endBlock ≤ t.blockNumber)

theorem Continues.of_same (h : t.lease = s.lease) : Continues s t :=
  fun _ lease hlease => ⟨lease.state, h ▸ hlease, .refl, .inl⟩

theorem Continues.trans (h : Continues s t) (hnow : t.blockNumber ≤ u.blockNumber)
    (h' : Continues t u) : Continues s u := by
  intro leaseId lease hlease
  obtain ⟨mid, hmid, hmoves, hended⟩ := h leaseId lease hlease
  obtain ⟨state, hstate, hmoves', hended'⟩ := h' leaseId _ hmid
  refine ⟨state, hstate, hmoves.trans hmoves', fun hx => ?_⟩
  exact (hended' hx).elim (fun hm => (hended hm).imp_right hnow.trans') .inr

theorem updateLeaseState_continues :
    Yields (updateLeaseState s o leaseId newState) (Continues s) := by
  unfold updateLeaseState
  refine .bind fun _ _ => .bind fun old hold => .bind fun _ hvalid => .bind fun _ hended => .ok ?_
  rw [ensure_eq_ok] at hvalid hended
  intro id lease hlease
  by_cases hid : id = leaseId
  · cases hid
    cases (okOr_eq_ok.1 hold).symm.trans hlease
    exact ⟨newState, update_self .., .single hvalid, fun hx => .inr (hended hx)⟩
  · exact ⟨lease.state, (update_of_ne hid ..).trans hlease, .refl, .inl⟩

theorem createLease_continues :
    Yields (createLease s o leaseId provider resourceHash duration) (Continues s) := by
  unfold createLease
  refine .bind fun _ _ => .bind fun _ hfree => ?_
  iterate 4 refine .bind fun _ _ => ?_
  refine .ok fun id lease hlease => ⟨lease.state, ?_, .refl, .inl⟩
  rw [ensure_eq_ok] at hfree
  refine (update_of_ne ?_ ..).trans hlease
  rintro rfl
  cases hfree.symm.trans hlease

variable [LinearOrder A]

theorem step_continues (s : Chain E) (a : Action A) : Continues s (step s a) := by
  by_cases hw : .lease ∈ a.writes
  · cases a with
    | blocks count => cases hw
    | call o c =>
      refine Yields.commit ?_ (.of_same rfl)
      cases c with
      | createLease => exact createLease_continues
      | updateLeaseState => exact updateLeaseState_continues
      | _ => simp [Action.writes, Call.writes] at hw
  · exact .of_same (step_same s a .lease hw)

/-- Whatever the runtime is called for, leases stay as agreed and move through their life cycle. -/
theorem lease_lifecycle (L : Ledger) (acts acts' : List (Action A)) :
    Continues (run step (genesis E L) acts) (run step (genesis E L) (acts ++ acts')) := by
  have hfits : (run step (genesis E L) acts).blockNumber ≤ maxValue 32 :=
    run_invariant (I := fun s : Chain E => s.blockNumber ≤ maxValue 32) (Nat.zero_le _)
      (fun _ a hs => (step_blockNumber hs a).2) acts
  rw [run_append]
  exact (run_invariant (I := fun t => t.blockNumber ≤ maxValue 32 ∧ Continues _ t)
    ⟨hfits, .of_same rfl⟩ (fun t a ht => ⟨(step_blockNumber ht.1 a).2,
      ht.2.trans (step_blockNumber ht.1 a).1 (step_continues t a)⟩) acts').2

end OpenInfra.OpenInfraLease
