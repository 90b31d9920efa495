import OpenInfra.Availability.Pallet

namespace OpenInfra.Availability
open Frame Function List

variable {A Ledger : Type} [LinearOrder A] {E : Env A Ledger} {C : Config}
  {s t : Node E C} {p provider : A} {sequence : Nat}

inductive ChallengeStep (s t : Storage A n) : Prop where
  | quiet (hnext : t.nextChallengeId = s.nextChallengeId) (hstored : t.challenges = s.challenges)
      (hpending : t.pendingChallenges = s.pendingChallenges)
  | issued (p : A) (challenge : Challenge) (pending : BoundedVec Nat n)
      (hlist : pending.toList = (s.pendingChallenges p).toList ++ [s.nextChallengeId p])
      (hnext : t.nextChallengeId =
        Function.update s.nextChallengeId p (s.nextChallengeId p + 1))
      (hstored : t.challenges = Function.update s.challenges p
        (Function.update (s.challenges p) (s.nextChallengeId p) (some challenge)))
      (hpending : t.pendingChallenges = Function.update s.pendingChallenges p pending)
  | answered (p : A) (challengeId : Nat) (hnext : t.nextChallengeId = s.nextChallengeId)
      (hstored : t.challenges = Function.update s.challenges p
        (Function.update (s.challenges p) challengeId none))
      (hpending : t.pendingChallenges = Function.update s.pendingChallenges p
        (removePending (s.pendingChallenges p) challengeId))

theorem issueChallenge_challengeStep :
    Yields (issueChallenge s o provider response lifetime)
      (ChallengeStep s.availability ·.availability) := by
  unfold issueChallenge
  refine .bind fun _ _ => .bind fun _ _ => .bind fun _ _ => .bind fun deadline _ =>
    .bind fun nextId hid => .bind fun pending hpending => .ok ?_
  rw [okOr_eq_ok, checkedAdd_eq_some] at hid
  rw [okOr_eq_ok, BoundedVec.tryPush_eq_some] at hpending
  obtain ⟨_, rfl⟩ := hid
  exact .issued provider ⟨response, deadline⟩ pending hpending.2 rfl rfl rfl

theorem submitResponse_challengeStep :
    Yields (submitResponse s o challengeId response)
      (ChallengeStep s.availability ·.availability) := by
  unfold submitResponse
  exact .bind fun provider _ => .bind fun _ _ => .bind fun _ _ => .bind fun _ _ =>
    .ok (.answered provider challengeId rfl rfl rfl)

theorem submitHeartbeat_challengeStep :
    Yields (submitHeartbeat s o) (ChallengeStep s.availability ·.availability) := by
  unfold submitHeartbeat
  exact .bind fun _ _ => .bind fun _ _ => .ok (.quiet rfl rfl rfl)

theorem submitProof_challengeStep :
    Yields (submitProof s o provider sequence observedAt successfulSamples totalSamples payloadHash
      signature) (ChallengeStep s.availability ·.availability) := by
  unfold submitProof
  repeat refine .bind fun _ _ => ?_
  exact .ok (.quiet rfl rfl rfl)

theorem challengeStep (s : Node E C) (a : Action A) :
    ChallengeStep s.availability (step s a).availability := by
  cases a with
  | chain action => exact .quiet rfl rfl rfl
  | call o c =>
    refine Yields.commit (P := fun t : Node E C => ChallengeStep s.availability t.availability) ?_
      (.quiet rfl rfl rfl)
    cases c with
    | submitHeartbeat => exact submitHeartbeat_challengeStep
    | issueChallenge => exact issueChallenge_challengeStep
    | submitResponse => exact submitResponse_challengeStep
    | submitProof => exact submitProof_challengeStep

theorem removePending_perm (pending : BoundedVec Nat n) (challengeId : Nat) :
    (removePending pending challengeId).toList.Perm (pending.toList.erase challengeId) := by
  unfold removePending
  rw [erase_eq_eraseIdx]
  cases hindex : pending.toList.idxOf? challengeId with
  | none => exact .refl _
  | some index =>
    refine BoundedVec.swapRemove_perm ?_
    rw [idxOf?_eq_some_iff] at hindex
    exact hindex.1

/-- The list of a provider holds its stored ids once each. -/
structure Tracked (s : Storage A n) (p : A) : Prop where
  nodup : (s.pendingChallenges p).toList.Nodup
  listed : ∀ id, id ∈ (s.pendingChallenges p).toList ↔ (s.challenges p id).isSome
  unused : ∀ id, (s.challenges p id).isSome → id < s.nextChallengeId p

theorem Tracked.genesis (L : Ledger) (p : A) :
    Tracked (genesis E C L).availability p where
  nodup := nodup_nil
  listed _ := ⟨nofun, nofun⟩
  unused _ := nofun

theorem Tracked.congr {s t : Storage A n} (h : Tracked s p)
    (hnext : t.nextChallengeId p = s.nextChallengeId p) (hstored : t.challenges p = s.challenges p)
    (hpending : t.pendingChallenges p = s.pendingChallenges p) : Tracked t p := by
  refine ⟨?_, ?_, ?_⟩
  · rw [hpending]
    exact h.nodup
  · rw [hpending, hstored]
    exact h.listed
  · rw [hnext, hstored]
    exact h.unused

theorem Tracked.step {s t : Storage A n} (h : Tracked s p) (hstep : ChallengeStep s t) :
    Tracked t p := by
  cases hstep with
  | quiet hnext hstored hpending =>
    exact h.congr (by rw [hnext]) (by rw [hstored]) (by rw [hpending])
  | issued q challenge pending hlist hnext hstored hpending =>
    by_cases hp : p = q
    · subst hp
      have hnew : s.nextChallengeId p ∉ (s.pendingChallenges p).toList := fun hmem =>
        Nat.lt_irrefl _ (h.unused _ ((h.listed _).1 hmem))
      refine ⟨?_, fun id => ?_, fun id => ?_⟩
      · rw [hpending, update_self, hlist]
        exact nodup_append_comm.1 (nodup_cons.2 ⟨hnew, h.nodup⟩)
      · rw [hpending, hstored, update_self, update_self, hlist, mem_append,
          mem_singleton, h.listed id, update_apply]
        split
        · rename_i hid
          exact ⟨fun _ => rfl, fun _ => .inr hid⟩
        · rename_i hid
          exact or_iff_left hid
      · rw [hnext, hstored, update_self, update_self, update_apply]
        split
        · rename_i hid
          exact fun _ => hid ▸ Nat.lt_succ_self _
        · exact fun hsome => Nat.lt_succ_of_lt (h.unused id hsome)
    · exact h.congr (by rw [hnext, update_of_ne hp])
        (by rw [hstored, update_of_ne hp]) (by rw [hpending, update_of_ne hp])
  | answered q challengeId hnext hstored hpending =>
    by_cases hp : p = q
    · subst hp
      have hperm := removePending_perm (s.pendingChallenges p) challengeId
      refine ⟨?_, fun id => ?_, fun id => ?_⟩
      · rw [hpending, update_self]
        exact hperm.nodup_iff.2 (h.nodup.erase _)
      · rw [hpending, hstored, update_self, update_self, hperm.mem_iff,
          h.nodup.mem_erase_iff, h.listed id, update_apply]
        split
        · rename_i hid
          exact ⟨fun hboth => absurd hid hboth.1, nofun⟩
        · rename_i hid
          exact and_iff_right hid
      · rw [hnext, hstored, update_self, update_apply]
        split
        · exact nofun
        · exact h.unused id
    · exact h.congr (by rw [hnext]) (by rw [hstored, update_of_ne hp])
        (by rw [hpending, update_of_ne hp])

theorem tracked_run (L : Ledger) (acts : List (Action A)) (p : A) :
    Tracked (run step (genesis E C L) acts).availability p :=
  run_invariant (I := fun s : Node E C => Tracked s.availability p) (.genesis L p)
    (fun s a hs => hs.step (challengeStep s a)) acts

def expired (s : Node E C) (p : A) (id : Nat) : Bool :=
  (s.availability.challenges p id).any (·.deadline < s.now)

def dead (s : Node E C) (p : A) : Nat :=
  ((s.availability.pendingChallenges p).toList.filter (expired s p)).length

def live (s : Node E C) (p : A) : Nat :=
  ((s.availability.pendingChallenges p).toList.filter (! expired s p ·)).length

theorem live_add_dead (s : Node E C) (p : A) :
    live s p + dead s p = (s.availability.pendingChallenges p).toList.length := by
  rw [live, dead, Nat.add_comm]
  exact (length_eq_length_filter_add _).symm

theorem issueChallenge_isOk (hreg : isRegistered s provider = true) (hpos : lifetime ≠ 0)
    (hlifetime : lifetime ≤ C.maxChallengeLifetime) :
    (issueChallenge s .root provider response lifetime).isOk ↔
      (s.availability.pendingChallenges provider).toList.length < C.maxPendingChallenges ∧
      s.now + lifetime ≤ maxValue 32 ∧
      s.availability.nextChallengeId provider + 1 ≤ maxValue 64 := by
  unfold issueChallenge
  rw [bind_of_ok (x := system (ensureRoot .root)) rfl, ensure_bind hreg,
    ensure_bind ⟨hpos, hlifetime⟩, isOk_iff]
  simp only [bind_eq_ok, okOr_eq_ok, checkedAdd_eq_some, Except.ok.injEq]
  constructor
  · rintro ⟨_, _, ⟨hdeadline, _⟩, _, ⟨hid, _⟩, pending, hpending, _⟩
    exact ⟨(BoundedVec.tryPush_eq_some.1 hpending).1, hdeadline, hid⟩
  · rintro ⟨hroom, hdeadline, hid⟩
    exact ⟨_, _, ⟨hdeadline, rfl⟩, _, ⟨hid, rfl⟩, _, dif_pos hroom, rfl⟩

/-- Issued exactly if stored challenges, dead ones too, leave a slot. -/
theorem challenge_slots (L : Ledger) (acts : List (Action A))
    (hreg : isRegistered (run step (genesis E C L) acts) provider = true) :
    let s := run step (genesis E C L) acts
    (∀ response lifetime, lifetime ≠ 0 → lifetime ≤ C.maxChallengeLifetime →
      ((issueChallenge s .root provider response lifetime).isOk ↔
        live s provider + dead s provider < C.maxPendingChallenges ∧
        s.now + lifetime ≤ maxValue 32 ∧
        s.availability.nextChallengeId provider + 1 ≤ maxValue 64)) ∧
    ∀ p, (s.availability.pendingChallenges p).toList.Nodup ∧
      ∀ id, id ∈ (s.availability.pendingChallenges p).toList ↔
        (s.availability.challenges p id).isSome := by
  intro s
  refine ⟨fun response lifetime hpos hlifetime => ?_, fun p => ?_⟩
  · rw [live_add_dead]
    exact issueChallenge_isOk hreg hpos hlifetime
  · have htracked : Tracked s.availability p := tracked_run L acts p
    exact ⟨htracked.nodup, htracked.listed⟩

def devNode : Node (Env.runtime (Host.constant : Host Nat)) .runtime :=
  genesis _ _ ⟨fun _ => 10 ^ 12, fun _ => 0⟩

def registration : Action Nat :=
  .chain (.call (.signed 9) (.registerProvider (List.Vector.replicate 32 9)))

def answeredRun : List (Action Nat) :=
  [registration, .call .root (.issueChallenge 9 (List.Vector.replicate 32 1) 10),
    .call .root (.issueChallenge 9 (List.Vector.replicate 32 2) 10),
    .call (.signed 9) (.submitResponse 0 (List.Vector.replicate 32 1))]

theorem challenge_slots_answered :
    let s := run step devNode answeredRun
    (s.availability.pendingChallenges 9).toList = [1] ∧
    (issueChallenge s .root 9 (List.Vector.replicate 32 3) 10).isOk := by
  intro s
  have h := challenge_slots (E := Env.runtime (Host.constant : Host Nat)) (C := .runtime)
    ⟨fun _ => 10 ^ 12, fun _ => 0⟩ answeredRun
    (by decide +kernel : isRegistered (run step devNode answeredRun) 9 = true)
  exact ⟨by decide +kernel, (h.1 _ 10 (by decide) (by decide)).2 (by decide +kernel)⟩

def unansweredRun : List (Action Nat) :=
  registration :: (replicate 16 (.call .root (.issueChallenge 9
    (List.Vector.replicate 32 1) 1)) ++ [.chain (.blocks 2)])

theorem dead_challenges_block :
    let s := run step devNode unansweredRun
    isRegistered s 9 = true ∧ live s 9 = 0 ∧
    issueChallenge s .root 9 (List.Vector.replicate 32 1) 10 =
      .error (.availability .tooManyPendingChallenges) :=
  ⟨by decide +kernel, by decide +kernel, failure_eq_some.1 (by decide +kernel)⟩

end OpenInfra.Availability
