import OpenInfra.Reputation.Vectors
import OpenInfra.Rounds.Score

namespace OpenInfra.Reputation
open Frame Function
open NetworkValidator (readBps rounded readBps_eq)

variable {A Ledger : Type} [LinearOrder A] {E : Env A Ledger}
  {s t u : Chain E} {p : A} {v : ReputationVector}

theorem dimensionScoreBps_eq (s : Chain E) (p : A) (d : VectorDimension) :
    dimensionScoreBps s p d = readBps E ((vectorOf s p).get d) := rfl

@[simp] theorem rate_rate (v : ReputationVector) (x y : Nat) (d : VectorDimension) :
    (v.rate x d).rate y d = v.rate y d := by
  cases d <;> rfl

theorem rate_get (h : v.global = global v) (d : VectorDimension) : v.rate (v.get d) d = v := by
  have hset : v.set (v.get d) d = v := by cases d <;> rfl
  rw [ReputationVector.rate, hset, ← h]

structure Rated (s : Chain E) (p : A) (d : VectorDimension) (score : Nat)
    (t : Chain E) : Prop where
  registry : t.registry = s.registry
  vectors : t.reputation.reputationVectors =
    Function.update s.reputation.reputationVectors p (some ((vectorOf s p).rate score d))
  legacy : legacyScore t =
    if d = .availability then Function.update (legacyScore s) p score else legacyScore s

theorem Rated.vectorOf (h : Rated s p d x t) : vectorOf t p = (vectorOf s p).rate x d := by
  rw [vectorOf_update h.vectors, if_pos rfl]

theorem setDimensionScore_rated (hmax : E.config.maxReputation ≤ 10000)
    (hreg : isRegistered s p = true) (hbps : bps ≤ 10000) (d : VectorDimension) :
    ∃ t, setDimensionScore s p d bps = .ok t ∧
      Rated s p d (bps * E.config.maxReputation / 10000) t := by
  have hwidth : 10000 * 10000 ≤ maxValue 32 := by decide
  have hscaled : checkedMul 32 bps E.config.maxReputation =
      some (bps * E.config.maxReputation) :=
    checkedMul_eq_some.2 ⟨(Nat.mul_le_mul hbps hmax).trans hwidth, rfl⟩
  refine ⟨_, bind_eq_ok.2 ⟨(), ensure_eq_ok.2 hreg, bind_eq_ok.2 ⟨(), ensure_eq_ok.2 hbps,
    bind_eq_ok.2 ⟨_, okOr_eq_ok.2 hscaled, rfl⟩⟩⟩, ?_⟩
  by_cases hd : d = .availability
  · subst hd
    exact ⟨rfl, rfl, legacyScore_of_scores rfl⟩
  · rw [if_neg hd]
    refine ⟨rfl, rfl, ?_⟩
    rw [if_neg hd]
    rfl

theorem Rated.restores (ht : Rated s p d x t) (hu : Rated t p d (v.get d) u)
    (hv : s.reputation.reputationVectors p = some v) (hglobal : v.global = global v) :
    u.reputation.reputationVectors = s.reputation.reputationVectors := by
  have hread : Reputation.vectorOf s p = v := by rw [Reputation.vectorOf, hv, Option.getD_some]
  rw [hu.vectors, ht.vectorOf, ht.vectors, rate_rate, update_idem, hread,
    rate_get hglobal, ← hv, update_eq_self]

theorem Rated.restores_legacy (ht : Rated s p d x t) (hu : Rated t p d (v.get d) u)
    (hv : s.reputation.reputationVectors p = some v) (hs : Agrees s) :
    legacyScore u = legacyScore s := by
  have hold : legacyScore s p = v.availability := by
    rw [hs p, Reputation.vectorOf, hv, Option.getD_some]
  rw [hu.legacy, ht.legacy]
  by_cases hd : d = .availability
  · subst hd
    rw [if_pos rfl, if_pos rfl, update_idem]
    rw [ReputationVector.get, ← hold, update_eq_self]
  · rw [if_neg hd, if_neg hd]

theorem rounded_eq (hM : E.config.maxReputation * k = 10000) (hbps : bps ≤ 10000) :
    rounded E bps = bps / k * k := by
  have hpos : 0 < E.config.maxReputation := Nat.pos_of_ne_zero fun h0 => by
    rw [h0, Nat.zero_mul] at hM
    cases hM
  have hscore : bps * E.config.maxReputation / 10000 = bps / k := by
    rw [← hM, Nat.mul_comm bps, Nat.mul_div_mul_left _ _ hpos]
  have hle : bps / k ≤ E.config.maxReputation := by
    refine Nat.div_le_of_le_mul ?_
    rwa [Nat.mul_comm, hM]
  rw [rounded, hscore, readBps_eq hM, min_eq_left hle, Nat.mul_comm]

theorem scaled_readBps (hM : E.config.maxReputation * k = 10000) (h : x ≤ E.config.maxReputation) :
    readBps E x * E.config.maxReputation / 10000 = x := by
  rw [readBps_eq hM, min_eq_left h, Nat.mul_right_comm, Nat.mul_comm k, hM,
    Nat.mul_div_cancel_left _ (by decide)]

/-- Setting what was read before takes a score back exactly. -/
theorem rollback_exact (hpos : 1 ≤ E.config.maxReputation)
    (hdvd : E.config.maxReputation ∣ 10000) (s : Chain E) {provider : A}
    (hreg : isRegistered s provider = true) {v : ReputationVector}
    (hv : s.reputation.reputationVectors provider = some v)
    (hbounded : ∀ d, v.get d ≤ E.config.maxReputation) (hglobal : v.global =
      (v.compute + v.storage + v.network + v.availability + v.reliability) / 5)
    (d : VectorDimension) {score : Nat} (hscore : score ≤ 10000) :
    ∃ t u, setDimensionScore s provider d score = .ok t ∧
      setDimensionScore t provider d (dimensionScoreBps s provider d) = .ok u ∧
      u.reputation.reputationVectors = s.reputation.reputationVectors ∧
      ((∃ L acts, s = run step (genesis E L) acts) → legacyScore u = legacyScore s) ∧
      dimensionScoreBps t provider d =
        score / (10000 / E.config.maxReputation) * (10000 / E.config.maxReputation) ∧
      dimensionScoreBps t provider d ≤ score := by
  have hmax : E.config.maxReputation ≤ 10000 := Nat.le_of_dvd (by decide) hdvd
  obtain ⟨k, hk⟩ := hdvd
  have hstep : 10000 / E.config.maxReputation = k := by
    rw [hk, Nat.mul_div_cancel_left _ hpos]
  have hright : v.global = global v :=
    hglobal.trans (global_eq (hmax.trans (by decide)) hbounded).symm
  have hread : dimensionScoreBps s provider d = readBps E (v.get d) := by
    rw [dimensionScoreBps_eq, Reputation.vectorOf, hv, Option.getD_some]
  obtain ⟨t, ht, hrated⟩ := setDimensionScore_rated hmax hreg hscore d
  have hreg' : isRegistered t provider = true := by
    rw [isRegistered, hrated.registry]
    exact hreg
  have hlimit : dimensionScoreBps s provider d ≤ 10000 := by
    rw [hread, readBps_eq hk.symm, hk, Nat.mul_comm]
    exact Nat.mul_le_mul_right _ (Nat.min_le_right _ _)
  obtain ⟨u, hu, hback⟩ := setDimensionScore_rated hmax hreg' hlimit d
  rw [hread, scaled_readBps hk.symm (hbounded d)] at hback
  have hafter : dimensionScoreBps t provider d = score / k * k := by
    rw [dimensionScoreBps_eq, hrated.vectorOf, get_rate]
    exact rounded_eq hk.symm hscore
  refine ⟨t, u, ht, hu, hrated.restores hback hv hright, ?_, ?_, ?_⟩
  · rintro ⟨L, acts, rfl⟩
    exact hrated.restores_legacy hback hv (agrees_run L acts)
  · rw [hafter, hstep]
  · rw [hafter]
    exact Nat.div_mul_le_self score k

theorem rollback_exact_rated :
    let s := run step devGenesis ratedRun
    dimensionScoreBps s 9 .availability = 7990 ∧
    ∃ t u, setDimensionScore s 9 .availability 1234 = .ok t ∧
      setDimensionScore t 9 .availability (dimensionScoreBps s 9 .availability) = .ok u ∧
      u.reputation.reputationVectors = s.reputation.reputationVectors ∧
      legacyScore u = legacyScore s ∧ dimensionScoreBps t 9 .availability = 1230 := by
  have hv : (run step devGenesis ratedRun).reputation.reputationVectors 9 =
      some ⟨900, 800, 700, 799, 500, 739⟩ := by decide +kernel
  obtain ⟨t, u, ht, hu, hvectors, hlegacy, hread, _⟩ :=
    rollback_exact (E := Env.runtime Host.constant) (by decide) (by decide)
      (run step devGenesis ratedRun) (by decide +kernel : isRegistered _ 9 = true) hv
      (fun d => by cases d <;> decide) (by decide) .availability (by decide : 1234 ≤ 10000)
  exact ⟨by decide +kernel, t, u, ht, hu, hvectors, hlegacy ⟨_, _, rfl⟩, hread⟩

end OpenInfra.Reputation
