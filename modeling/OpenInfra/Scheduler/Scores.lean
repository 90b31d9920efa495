import OpenInfra.Scheduler.Rank

namespace OpenInfra.Scheduler
open Frame

structure ResourceCapability where
  cpuTotal : Cores
  cpuAvailable : Cores
  ramTotalMb : Int64
  ramAvailableMb : Int64
  storageTotalGb : Int64
  storageAvailableGb : Int64
  bandwidth : Option (Int32 × Int32)
  zone : String
  virtualizationCapable : Bool

def validateCapabilities (c : ResourceCapability) : Except String Unit := do
  ensure (c.cpuTotal.any (0 < ·)) "cpu_total must be a finite positive value"
  ensure (c.cpuAvailable.any fun a => 0 ≤ a ∧ c.cpuTotal.all (a ≤ ·))
    "cpu_available must be finite and between zero and cpu_total"
  ensure (¬ (c.ramTotalMb ≤ 0 ∨ c.ramAvailableMb < 0 ∨ c.ramAvailableMb > c.ramTotalMb))
    "RAM values are inconsistent"
  ensure (¬ (c.storageTotalGb < 0 ∨ c.storageAvailableGb < 0 ∨
    c.storageAvailableGb > c.storageTotalGb)) "storage values are inconsistent"

def validateRequirements (requirements : ResourceRequirements) : Except String Unit := do
  ensure (requirements.cpu.any (0 < ·)) "CPU must be finite and positive"
  ensure (¬ (requirements.ramMb ≤ 0 ∨ requirements.storageGb < 0 ∨ requirements.gpuCount ≠ 0))
    "RAM must be positive, storage non-negative, and GPU unsupported in MVP"
  ensure (requirements.bandwidth.all fun b => ¬ (b.ingressMbps < 0 ∨ b.egressMbps < 0))
    "bandwidth ingress/egress must be non-negative"

def rankableCandidate (providerID agentEndpoint : String) (c : ResourceCapability)
    (reputation : Option ReputationVector) : Candidate where
  providerID
  agentEndpoint
  cpuAvailableCores := c.cpuAvailable
  ramAvailableMB := c.ramAvailableMb
  storageAvailableGB := c.storageAvailableGb
  ingressTotalMbps := (c.bandwidth.map fun b => b.1.toInt64).getD 0
  egressTotalMbps := (c.bandwidth.map fun b => b.2.toInt64).getD 0
  reputation := reputation.getD (.uniform 0)
  hasReputation := reputation.isSome
  zone := c.zone
  virtualizationCapable := c.virtualizationCapable

theorem defaultProfileWeights_balanced (profile : WorkloadProfile) :
    ((defaultProfileWeights profile).getD fallbackWeights).Balanced := by
  cases profile <;> exact ⟨by decide, by decide⟩

theorem newRanker_balanced (profile : WorkloadProfile) :
    (((newRanker conversion maxScore defaultScore).setWireGuardOverlayEnabled overlay).weightsFor
      profile).Balanced := defaultProfileWeights_balanced profile

structure Score.InRange (s : Score) : Prop where
  resourceFit : s.resourceFitBps ≤ 10000
  reputation : s.reputationBps ≤ 10000
  total : s.totalBps ≤ 10000

def Candidate.Less (conversion : Conversion) (c c' : Candidate) : Prop :=
  List.Forall₂ (fun a a' : Int64 => a ≤ a') (c.amounts conversion) (c'.amounts conversion)

namespace Ranker

/-- Scores are in range, and declaring more does not give a higher total. -/
def ScoresSound (r : Ranker) (limit : Int) : Prop :=
  ∀ (profile : WorkloadProfile) (requirements : ResourceRequirements)
    (constraints : Option WorkloadConstraints) (providerID agentEndpoint : String)
    (declared more : ResourceCapability) (reputation : Option ReputationVector),
  validateRequirements requirements = .ok () →
  let c := rankableCandidate providerID agentEndpoint declared reputation
  let c' := rankableCandidate providerID agentEndpoint more reputation
  validateCapabilities declared = .ok () → validateCapabilities more = .ok () →
  (r.effectiveReputation c).Below (.uniform r.maxReputationScore) →
  (∀ a ∈ c.amounts r.conversion ++ c'.amounts r.conversion, a.toInt ≤ limit) →
  ∀ s, r.scoreOne (r.weightsFor profile) (some requirements) constraints c = .ok s → s.InRange ∧
    ∀ s', c.Less r.conversion c' →
      r.scoreOne (r.weightsFor profile) (some requirements) constraints c' = .ok s' →
        s'.totalBps ≤ s.totalBps

theorem scoreOne_inRange {r : Ranker} {weights : ProfileWeights} (hw : weights.Balanced)
    (hv : (r.effectiveReputation c).Below (.uniform r.maxReputationScore))
    (hmax : ∀ a ∈ c.amounts r.conversion, a.toInt ≤ maxAmount)
    (h : r.scoreOne weights requirements constraints c = .ok s) : s.InRange := by
  obtain ⟨hfit, htotal⟩ := scoreOne_total hw hv hmax h
  have hle : (r.effectiveReputation c).weighted weights / r.maxReputationScore.toNat ≤ 10000 :=
    Nat.div_le_of_le_mul ((ReputationVector.weighted_le hw hv).trans (Nat.mul_comm _ _).le)
  have hmul := Nat.mul_le_mul_right weights.reputationBps.toNat hle
  have hsum := hw.total
  refine ⟨hfit ▸ UInt32.le_refl _, UInt32.le_iff_toNat_le.2 ?_, UInt32.le_iff_toNat_le.2 ?_⟩
  · rw [(scoreOne_eq_ok.1 h).2.2.2.2.1, weightedReputationBps_toNat hw hv]
    exact hle
  · rw [htotal, show (10000 : UInt32).toNat = 10000 from rfl]
    omega

def declaring (ramMb : Int64) : ResourceCapability :=
  ⟨some 1, some 1, ramMb, ramMb, 0, 0, none, "", false⟩

def needing (ramMb : Int64) : ResourceRequirements := ⟨some 1, ramMb, 0, 0, none⟩

theorem resourceFit_needing (r : Ranker) (hcpu : c.cpuAvailableCores = some 1)
    (hram : fitBps c.ramAvailableMB ramMb = some bps) :
    r.resourceFit (needing ramMb) c = .ok ((10000 + bps + 10000 + 0) / 3) := by
  unfold resourceFit
  rw [hcpu, show (needing ramMb).cpu = some 1 from rfl, r.conversion.one_core,
    show fitBps 1000 1000 = some 10000 by decide, show (needing ramMb).ramMb = ramMb from rfl, hram]
  rfl

/-- Sound exactly up to the largest amount that does not overflow. -/
theorem scores_sound_iff (conversion : Conversion) (maxScore defaultScore : UInt32)
    (overlay : Bool) (limit : Int) :
    ((newRanker conversion maxScore defaultScore).setWireGuardOverlayEnabled overlay).ScoresSound
      limit ↔ limit ≤ maxAmount := by
  constructor
  · intro h
    by_contra hlimit
    have hlimit : 922337203685478 ≤ limit := by
      unfold maxAmount at hlimit
      omega
    have hram : fitBps 922337203685478 4294967296 = some 2147483649 := by decide
    obtain ⟨s, hs, hfit⟩ := scoreOne_of_fit _ none (by decide) rfl (resourceFit_needing
      (c := rankableCandidate "a" "agent:1" (declaring 922337203685478) (some (.uniform 0)))
      ((newRanker conversion maxScore defaultScore).setWireGuardOverlayEnabled overlay) rfl hram)
      rfl
    have hzero : (UInt32.toNat 0) ≤ maxScore.toNat := Nat.zero_le _
    have hrange := (h .computeIntensive (needing 4294967296) none "a" "agent:1"
      (declaring 922337203685478) (declaring 922337203685478) (some (.uniform 0))
      (by decide +kernel) (by decide +kernel) (by decide +kernel)
      ⟨hzero, hzero, hzero, hzero, hzero⟩ ?_ s hs).1.resourceFit
    · rw [hfit] at hrange
      exact absurd hrange (by decide)
    · intro a ha
      have hone : a = 1000 ∨ a = 922337203685478 ∨ a = 0 := by
        rw [List.mem_append, or_self] at ha
        simpa [Candidate.amounts, rankableCandidate, declaring, newRanker,
          setWireGuardOverlayEnabled, conversion.one_core] using ha
      obtain rfl | rfl | rfl := hone <;> exact le_trans (by decide) hlimit
  · intro hlimit profile requirements constraints id endpoint declared more reputation _ c c' _ _ hv
      hmax s hs
    have hmax := fun a ha => (hmax a ha).trans hlimit
    obtain ⟨hc, hc'⟩ := List.forall_mem_append.1 hmax
    refine ⟨scoreOne_inRange (newRanker_balanced profile) hv hc hs, fun s' _ hs' => ?_⟩
    rw [UInt32.le_iff_toNat_le, (scoreOne_total (newRanker_balanced profile) hv hc hs).2,
      (scoreOne_total (c := c') (newRanker_balanced profile) hv hc' hs').2]
    exact le_rfl

theorem declared_overflow_outscores :
    let r := newRanker roundConversion 1000 500
    let score ram := r.scoreOne (r.weightsFor .computeIntensive) (some (needing 1)) none
      (rankableCandidate "a" "agent:1" (declaring ram) none)
    validateRequirements (needing 1) = .ok () ∧ validateCapabilities (declaring 1) = .ok () ∧
      validateCapabilities (declaring 922337203685480) = .ok () ∧
      score 1 = .ok ⟨"a", 8000, 10000, 5000⟩ ∧
      score 922337203685480 = .ok ⟨"a", 10838, 14730, 5000⟩ := by
  decide +kernel

def MinReputationKept (r : Ranker) (m : Nat) : Prop :=
  ∀ (sort : SliceSort) (profile : WorkloadProfile) (requirements : Option ResourceRequirements)
    (zone : String) (vm : Bool) (cs : List Candidate), ∀ c ∈ cs,
  (∀ reason, ⟨c.providerID, reason⟩ ∉
    (r.rank sort profile requirements (some ⟨zone, vm, some (.ofNat m)⟩) cs).excluded) →
  m ≤ (r.effectiveReputation c).average.toNat

theorem globalBps_thousand (v : ReputationVector) :
    (globalBps v 1000).toNat = v.average.toNat * 10 % 2 ^ 32 := by
  have hle : v.average.toNat < 2 ^ 32 := by
    have hc := v.compute.toNat_lt
    have hs := v.storage.toNat_lt
    have hn := v.network.toNat_lt
    have ha := v.availability.toNat_lt
    have hr := v.reliability.toNat_lt
    rw [ReputationVector.average_toNat]
    omega
  unfold globalBps
  rw [if_neg (by decide), UInt64.toNat_toUInt32, UInt64.toNat_div, UInt64.toNat_mul,
    show (UInt32.toUInt64 1000).toNat = 1000 from rfl, show (10000 : UInt64).toNat = 10000 from rfl,
    Nat.mod_eq_of_lt (a := v.average.toNat * 10000) (by omega),
    show v.average.toNat * 10000 / 1000 = v.average.toNat * 10 by omega]

theorem threshold_toNat {m : Nat} (h : m < 2 ^ 24) :
    (UInt32.ofNat m * 10000 / 1000).toNat = m * 10000 % 2 ^ 32 / 1000 := by
  rw [UInt32.toNat_div, UInt32.toNat_mul, UInt32.toNat_ofNat', Nat.mod_eq_of_lt (a := m) (by omega)]
  rfl

/-- Kept exactly when scaling does not overflow 32 bits. -/
theorem min_reputation_kept_iff (conversion : Conversion)
    (weights : WorkloadProfile → Option ProfileWeights) (defaultScore : UInt32) (overlay : Bool)
    (m : Nat) (hpos : 0 < m) (hm : m < 2 ^ 24) :
    MinReputationKept ⟨conversion, weights, 1000, defaultScore, overlay⟩ m ↔
      m * 10000 < 2 ^ 32 := by
  constructor
  · intro h
    by_contra hover
    let r : Ranker := ⟨conversion, weights, 1000, defaultScore, overlay⟩
    obtain ⟨t, ht⟩ : ∃ t, t = m * 10000 % 2 ^ 32 / 1000 := ⟨_, rfl⟩
    obtain ⟨a, hdef⟩ : ∃ a, a = (t + 9) / 10 := ⟨_, rfl⟩
    have hlt : a < m := by omega
    have ha : (UInt32.ofNat a).toNat = a := by
      rw [UInt32.toNat_ofNat']
      exact Nat.mod_eq_of_lt (by omega)
    let c : Candidate := ⟨"a", "agent:1", some 1, 1, 0, 0, 0, .uniform (.ofNat a), true, "", false⟩
    have haverage : (r.effectiveReputation c).average.toNat = a :=
      (ReputationVector.average_uniform _).trans ha
    have hfit := resourceFit_needing (c := c) r rfl (show fitBps 1 1 = some 10000 by decide)
    have hk : r.checkConstraints c (some ⟨"", false, some (.ofNat m)⟩) = .ok () := by
      refine bind_eq_ok.2 ⟨(), rfl, bind_eq_ok.2 ⟨(), rfl, ensure_eq_ok.2 ?_⟩⟩
      change UInt32.ofNat m * 10000 / 1000 ≤ globalBps (r.effectiveReputation c) 1000
      rw [UInt32.le_iff_toNat_le, threshold_toNat hm, globalBps_thousand, haverage, ← ht,
        Nat.mod_eq_of_lt (by omega)]
      omega
    have hnamed : c.agentEndpoint ≠ "" := show "agent:1" ≠ "" by decide
    obtain ⟨s, hs, _⟩ := scoreOne_of_fit (r.weightsFor .computeIntensive) _ hnamed rfl hfit hk
    have hkept := h .merge .computeIntensive (some (needing 1)) "" false [c] c
      List.mem_cons_self ?_
    · rw [haverage] at hkept
      exact absurd hlt (Nat.not_lt.2 hkept)
    · intro reason hmem
      obtain ⟨x, hx, _, herror⟩ := mem_excluded.1 hmem
      cases List.mem_singleton.1 hx
      cases hs.symm.trans herror
  · intro hsmall sort profile requirements zone vm cs c hc hkept
    cases hscore : Ranker.scoreOne ⟨conversion, weights, 1000, defaultScore, overlay⟩ _ requirements
        (some ⟨zone, vm, some (.ofNat m)⟩) c with
    | error reason => exact absurd (mem_excluded.2 ⟨c, hc, rfl, hscore⟩) (hkept reason)
    | ok s =>
      obtain ⟨_, _, hk, _⟩ := scoreOne_eq_ok.1 hscore
      obtain ⟨_, _, hk⟩ := bind_eq_ok.1 hk
      obtain ⟨_, _, hk⟩ := bind_eq_ok.1 hk
      have hle := UInt32.le_iff_toNat_le.1 (ensure_eq_ok.1 hk)
      rw [threshold_toNat hm, globalBps_thousand, Nat.mod_eq_of_lt hsmall] at hle
      have hle := hle.trans (Nat.mod_le _ _)
      omega

theorem min_reputation_kept_half : MinReputationKept (newRanker roundConversion 1000 500) 500 :=
  (min_reputation_kept_iff roundConversion defaultProfileWeights 500 false 500 (by decide)
    (by decide)).2 (by decide)

theorem min_reputation_wraps :
    let r := newRanker roundConversion 1000 500
    let c := sampleCandidate "a" 500
    (r.rank .merge .computeIntensive (some ⟨some 1, 1024, 10, 0, none⟩)
      (some ⟨"", false, some 429497⟩) [c]).excluded = [] ∧
      (r.effectiveReputation c).average = 500 := by
  decide +kernel

end Ranker

end OpenInfra.Scheduler
