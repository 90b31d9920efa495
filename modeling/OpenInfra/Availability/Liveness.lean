import OpenInfra.Availability.Challenges
import OpenInfra.Chain.Footprint

namespace OpenInfra.Availability
open Frame Function

variable {A Ledger : Type} [LinearOrder A] {E : Env A Ledger} {C : Config}
  {s t : Node E C} {p provider : A} {sequence : Nat}

def observation : Action A → Option (A × Nat)
  | .call _ (.submitProof provider _ observedAt ..) => some (provider, observedAt)
  | _ => none

/-- All that a step can do to heartbeats and proofs. -/
inductive LivenessStep (s : Node E C) (a : Action A) (t : Node E C) : Prop where
  | quiet (hbeat : t.availability.lastHeartbeat = s.availability.lastHeartbeat)
      (hproof : t.availability.latestProof = s.availability.latestProof)
  | beat (p : A) (hbeat : t.availability.lastHeartbeat =
        Function.update s.availability.lastHeartbeat p (some s.now))
      (hproof : t.availability.latestProof = s.availability.latestProof)
  | proved (p : A) (proof : AvailabilitySummary)
      (ha : observation a = some (p, proof.observedAt)) (hnow : proof.observedAt ≤ s.now)
      (hbeat : t.availability.lastHeartbeat =
        Function.update s.availability.lastHeartbeat p (some proof.observedAt))
      (hproof : t.availability.latestProof =
        Function.update s.availability.latestProof p (some proof))

theorem submitHeartbeat_livenessStep : Yields (submitHeartbeat s o) (LivenessStep s a) := by
  unfold submitHeartbeat
  exact .bind fun provider _ => .bind fun _ _ => .ok (.beat provider rfl rfl)

theorem issueChallenge_livenessStep :
    Yields (issueChallenge s o provider response lifetime) (LivenessStep s a) := by
  unfold issueChallenge
  repeat refine .bind fun _ _ => ?_
  exact .ok (.quiet rfl rfl)

theorem submitResponse_livenessStep :
    Yields (submitResponse s o challengeId response) (LivenessStep s a) := by
  unfold submitResponse
  repeat refine .bind fun _ _ => ?_
  exact .ok (.quiet rfl rfl)

theorem submitProof_livenessStep (ha : observation a = some (provider, observedAt)) :
    Yields (submitProof s o provider sequence observedAt successfulSamples totalSamples payloadHash
      signature) (LivenessStep s a) := by
  unfold submitProof
  iterate 5 refine .bind fun _ _ => ?_
  refine .bind fun _ hnow => ?_
  rw [ensure_eq_ok] at hnow
  repeat refine .bind fun _ _ => ?_
  exact .ok (.proved provider _ ha hnow rfl rfl)

theorem livenessStep (s : Node E C) (a : Action A) : LivenessStep s a (step s a) := by
  cases a with
  | chain action => exact .quiet rfl rfl
  | call o c =>
    refine Yields.commit (P := LivenessStep s (.call o c)) ?_ (.quiet rfl rfl)
    cases c with
    | submitHeartbeat => exact submitHeartbeat_livenessStep
    | issueChallenge => exact issueChallenge_livenessStep
    | submitResponse => exact submitResponse_livenessStep
    | submitProof => exact submitProof_livenessStep rfl

theorem now_step (h : s.now ≤ maxValue 32) (a : Action A) :
    s.now ≤ (step s a).now ∧ (step s a).now ≤ maxValue 32 := by
  cases a with
  | chain action => exact step_blockNumber h action
  | call o c =>
    have hchain : (step s (.call o c)).chain = s.chain := (dispatch_chain s o c).commit rfl
    have hnow : (step s (.call o c)).now = s.now := by rw [Node.now, hchain, Node.now]
    exact ⟨hnow.ge, hnow.trans_le h⟩

structure Dated (s : Node E C) : Prop where
  width : s.now ≤ maxValue 32
  beats : ∀ p, ∀ block ∈ s.availability.lastHeartbeat p, block ≤ s.now
  proofs : ∀ p, ∀ proof ∈ s.availability.latestProof p,
    ∃ block ∈ s.availability.lastHeartbeat p, proof.observedAt ≤ block

theorem Dated.genesis (L : Ledger) : Dated (genesis E C L) where
  width := Nat.zero_le _
  beats _ := nofun
  proofs _ := nofun

theorem Dated.step (h : Dated s) (a : Action A) : Dated (step s a) := by
  obtain ⟨hnow, hwidth⟩ := now_step h.width a
  have hlater (p : A) : ∀ block ∈ s.availability.lastHeartbeat p,
      block ≤ (Availability.step s a).now := fun block hb => (h.beats p block hb).trans hnow
  cases livenessStep s a with
  | quiet hbeat hproof =>
    refine ⟨hwidth, fun p => ?_, fun p => ?_⟩
    · rw [hbeat]
      exact hlater p
    · rw [hbeat, hproof]
      exact h.proofs p
  | beat q hbeat hproof =>
    refine ⟨hwidth, fun p => ?_, fun p proof => ?_⟩
    · rw [hbeat, update_apply]
      split
      · rintro _ ⟨⟩
        exact hnow
      · exact hlater p
    · rw [hbeat, hproof, update_apply]
      intro hp
      obtain ⟨block, hb, hle⟩ := h.proofs p proof hp
      split
      · exact ⟨s.now, rfl, hle.trans (h.beats p block hb)⟩
      · exact ⟨block, hb, hle⟩
  | proved q latest _ hobserved hbeat hproof =>
    refine ⟨hwidth, fun p => ?_, fun p => ?_⟩
    · rw [hbeat, update_apply]
      split
      · rintro _ ⟨⟩
        exact hobserved.trans hnow
      · exact hlater p
    · rw [hbeat, hproof, update_apply, update_apply]
      split
      · rintro _ ⟨⟩
        exact ⟨latest.observedAt, rfl, le_rfl⟩
      · exact h.proofs p

def InOrder (s : Node E C) (a : Action A) : Prop :=
  ∀ x ∈ observation a, ∀ block ∈ s.availability.lastHeartbeat x.1, block ≤ x.2

instance (s : Node E C) (a : Action A) : Decidable (InOrder s a) :=
  inferInstanceAs (Decidable (∀ x ∈ observation a,
    ∀ block ∈ s.availability.lastHeartbeat x.1, block ≤ x.2))

structure Advances (p : A) (s t : Node E C) : Prop where
  beat : ∀ block ∈ s.availability.lastHeartbeat p,
    ∃ block' ∈ t.availability.lastHeartbeat p, block ≤ block'
  proof : ∀ proof ∈ s.availability.latestProof p,
    ∃ proof' ∈ t.availability.latestProof p, proof.observedAt ≤ proof'.observedAt

theorem Advances.refl (p : A) (s : Node E C) : Advances p s s :=
  ⟨fun block hb => ⟨block, hb, le_rfl⟩, fun proof hp => ⟨proof, hp, le_rfl⟩⟩

theorem Advances.trans {u : Node E C} (h : Advances p s t) (h' : Advances p t u) :
    Advances p s u := by
  refine ⟨fun block hb => ?_, fun proof hp => ?_⟩
  · obtain ⟨block', hb', hle⟩ := h.beat block hb
    obtain ⟨block'', hb'', hle'⟩ := h'.beat block' hb'
    exact ⟨block'', hb'', hle.trans hle'⟩
  · obtain ⟨proof', hp', hle⟩ := h.proof proof hp
    obtain ⟨proof'', hp'', hle'⟩ := h'.proof proof' hp'
    exact ⟨proof'', hp'', hle.trans hle'⟩

theorem Dated.advances (h : Dated s) (ha : InOrder s a) (p : A) :
    Advances p s (Availability.step s a) := by
  cases livenessStep s a with
  | quiet hbeat hproof =>
    refine ⟨?_, ?_⟩
    · rw [hbeat]
      exact (Advances.refl p s).beat
    · rw [hproof]
      exact (Advances.refl p s).proof
  | beat q hbeat hproof =>
    refine ⟨fun block hb => ?_, ?_⟩
    · rw [hbeat, update_apply]
      split
      · exact ⟨s.now, rfl, h.beats p block hb⟩
      · exact ⟨block, hb, le_rfl⟩
    · rw [hproof]
      exact (Advances.refl p s).proof
  | proved q latest hobserved _ hbeat hproof =>
    have horder := ha (q, latest.observedAt) hobserved
    refine ⟨fun block hb => ?_, fun proof hp => ?_⟩
    · rw [hbeat, update_apply]
      split
      · rename_i hq
        exact ⟨latest.observedAt, rfl, horder block (hq ▸ hb)⟩
      · exact ⟨block, hb, le_rfl⟩
    · rw [hproof, update_apply]
      split
      · rename_i hq
        obtain ⟨block, hb, hle⟩ := h.proofs p proof hp
        exact ⟨latest, rfl, hle.trans (horder block (hq ▸ hb))⟩
      · exact ⟨proof, hp, le_rfl⟩

theorem dated_run (L : Ledger) (acts : List (Action A)) :
    Dated (run step (genesis E C L) acts) :=
  run_invariant (.genesis L) (fun _ a hs => hs.step a) acts

/-- Nothing goes back while no proof is of a block before the last heartbeat. -/
theorem liveness_advances (L : Ledger) (acts acts' : List (Action A))
    (h : Along step InOrder (run step (genesis E C L) acts) acts') (provider : A) :
    let s := run step (genesis E C L) acts
    let t := run step s acts'
    (∀ block ∈ s.availability.lastHeartbeat provider,
      ∃ block' ∈ t.availability.lastHeartbeat provider, block ≤ block') ∧
    ∀ proof ∈ s.availability.latestProof provider,
      ∃ proof' ∈ t.availability.latestProof provider, proof.observedAt ≤ proof'.observedAt := by
  intro s t
  have hboth : Dated t ∧ Advances provider s t :=
    h.invariant (I := fun t => Dated t ∧ Advances provider s t)
      ⟨dated_run L acts, .refl provider s⟩
      fun u a hu ha => ⟨hu.1.step a, hu.2.trans (hu.1.advances ha provider)⟩
  exact ⟨hboth.2.beat, hboth.2.proof⟩

def reportedRun : List (Action Nat) :=
  [registration, .chain (.call (.signed 1) (.registerValidator 1000)), .chain (.blocks 100),
    .call (.signed 9) .submitHeartbeat]

def report (sequence observedAt : Nat) : Action Nat :=
  .call (.signed 1) (.submitProof 9 sequence observedAt 1 1 (List.Vector.replicate 32 0) [1])

theorem liveness_advances_reported :
    let t := run step (run step devNode reportedRun) [.chain (.blocks 20), report 1 110]
    t.availability.lastHeartbeat 9 = some 110 ∧
      ∃ block' ∈ t.availability.lastHeartbeat 9, 100 ≤ block' := by
  intro t
  have h := liveness_advances (E := Env.runtime (Host.constant : Host Nat)) (C := .runtime)
    ⟨fun _ => 10 ^ 12, fun _ => 0⟩ reportedRun [.chain (.blocks 20), report 1 110]
    (by decide +kernel) 9
  exact ⟨by decide +kernel, h.1 100 (by decide +kernel)⟩

theorem liveness_goes_back :
    let s := run step devNode reportedRun
    let t := step s (report 1 50)
    let u := step t (report 2 40)
    s.availability.lastHeartbeat 9 = some 100 ∧ t.availability.lastHeartbeat 9 = some 50 ∧
    (t.availability.latestProof 9).map (·.observedAt) = some 50 ∧
    (u.availability.latestProof 9).map (·.observedAt) = some 40 := by
  decide +kernel

end OpenInfra.Availability
