import Mathlib.Data.List.Sort
import Mathlib.Data.Rat.Defs
import Mathlib.Data.String.Basic
import OpenInfra.Frame.Dispatch

namespace OpenInfra.Scheduler
open Frame List

structure ReputationVector where
  compute : UInt32
  storage : UInt32
  network : UInt32
  availability : UInt32
  reliability : UInt32
deriving Repr, DecidableEq

structure ProfileWeights where
  resourceBps : UInt32
  reputationBps : UInt32
  computeBps : UInt32
  storageBps : UInt32
  networkBps : UInt32
  availabilityBps : UInt32
  reliabilityBps : UInt32
deriving Repr, DecidableEq

inductive WorkloadProfile where
  | unspecified
  | computeIntensive
  | memoryIntensive
  | storageIntensive
  | latencySensitive
deriving Repr, DecidableEq

def defaultProfileWeights : WorkloadProfile → Option ProfileWeights
  | .computeIntensive => some ⟨6000, 4000, 5000, 500, 500, 3000, 1000⟩
  | .memoryIntensive => some ⟨6000, 4000, 2000, 1000, 500, 3500, 3000⟩
  | .storageIntensive => some ⟨6000, 4000, 500, 5000, 500, 3000, 1000⟩
  | .latencySensitive => some ⟨5000, 5000, 1000, 500, 5000, 2500, 1000⟩
  | .unspecified => none

def fallbackWeights : ProfileWeights := ⟨5000, 5000, 2000, 2000, 2000, 2500, 1500⟩

/-- A `float32` amount; none where it is NaN or infinite. -/
abbrev Cores := Option ℚ

/-- The `float32` arithmetic of `cpuMillicores`. -/
structure Conversion where
  cpuMillicores : Cores → Int64
  one_core : cpuMillicores (some 1) = 1000

structure Candidate where
  providerID : String
  agentEndpoint : String
  cpuAvailableCores : Cores
  ramAvailableMB : Int64
  storageAvailableGB : Int64
  ingressTotalMbps : Int64
  egressTotalMbps : Int64
  reputation : ReputationVector
  hasReputation : Bool
  zone : String
  virtualizationCapable : Bool

structure BandwidthRequirement where
  ingressMbps : Int32
  egressMbps : Int32

structure ResourceRequirements where
  cpu : Cores
  ramMb : Int64
  storageGb : Int64
  gpuCount : Int32
  bandwidth : Option BandwidthRequirement

/-- `min_reputation` counts when positive, as a `uint32`. -/
structure WorkloadConstraints where
  requiredZone : String
  requiresVm : Bool
  minReputation : Option UInt32

structure Score where
  providerID : String
  totalBps : UInt32
  resourceFitBps : UInt32
  reputationBps : UInt32
deriving Repr, DecidableEq

structure Exclusion where
  providerID : String
  reason : String
deriving Repr, DecidableEq

structure Decision where
  selected : Option Score
  ranked : List Score
  excluded : List Exclusion
deriving Repr, DecidableEq

structure Ranker where
  conversion : Conversion
  weights : WorkloadProfile → Option ProfileWeights
  maxReputationScore : UInt32
  defaultReputationScore : UInt32
  wireGuardOverlayEnabled : Bool

def newRanker (conversion : Conversion) (maxReputationScore defaultReputationScore : UInt32) :
    Ranker := ⟨conversion, defaultProfileWeights, maxReputationScore, defaultReputationScore, false⟩

def Ranker.setWireGuardOverlayEnabled (r : Ranker) (enabled : Bool) : Ranker :=
  { r with wireGuardOverlayEnabled := enabled }

def weightedReputationBps (weights : ProfileWeights) (vector : ReputationVector)
    (maxScore : UInt32) : UInt32 :=
  if maxScore = 0 then 0
  else
    let sum := weights.computeBps.toUInt64 * vector.compute.toUInt64 +
      weights.storageBps.toUInt64 * vector.storage.toUInt64 +
      weights.networkBps.toUInt64 * vector.network.toUInt64 +
      weights.availabilityBps.toUInt64 * vector.availability.toUInt64 +
      weights.reliabilityBps.toUInt64 * vector.reliability.toUInt64
    (sum / maxScore.toUInt64).toUInt32

def ReputationVector.average (v : ReputationVector) : UInt64 :=
  (v.compute.toUInt64 + v.storage.toUInt64 + v.network.toUInt64 + v.availability.toUInt64 +
    v.reliability.toUInt64) / 5

def globalBps (vector : ReputationVector) (maxScore : UInt32) : UInt32 :=
  if maxScore = 0 then 0 else (vector.average * 10000 / maxScore.toUInt64).toUInt32

def fitBps (available required : Int64) : Option UInt32 :=
  if required ≤ 0 then some 10000
  else if available < required then none
  else
    let ratio := available * 10000 / required
    some (if ratio > 10000 then 10000 else ratio).toUInt64.toUInt32

def wireGuardEffectiveMbps (totalMbps : Int64) : Int64 :=
  if totalMbps ≤ 0 then totalMbps else totalMbps * (1500 - 60) / 1500

namespace Ranker
variable (r : Ranker)

def effectiveMbps (totalMbps : Int64) : Int64 :=
  if r.wireGuardOverlayEnabled then wireGuardEffectiveMbps totalMbps else totalMbps

def bandwidthFit (requirements : ResourceRequirements) (c : Candidate) :
    Except String (UInt32 × UInt32) :=
  match requirements.bandwidth with
  | none => .ok (0, 3)
  | some bandwidth =>
    if bandwidth.ingressMbps > 0 ∨ bandwidth.egressMbps > 0 then do
      let ingressFitBps ← okOr (fitBps (r.effectiveMbps c.ingressTotalMbps)
        bandwidth.ingressMbps.toInt64) "insufficient ingress bandwidth"
      let egressFitBps ← okOr (fitBps (r.effectiveMbps c.egressTotalMbps)
        bandwidth.egressMbps.toInt64) "insufficient egress bandwidth"
      .ok ((ingressFitBps + egressFitBps) / 2, 4)
    else .ok (0, 3)

def resourceFit (requirements : ResourceRequirements) (c : Candidate) : Except String UInt32 := do
  let cpuFitBps ← okOr (fitBps (r.conversion.cpuMillicores c.cpuAvailableCores)
    (r.conversion.cpuMillicores requirements.cpu)) "insufficient CPU"
  let ramFitBps ← okOr (fitBps c.ramAvailableMB requirements.ramMb) "insufficient RAM"
  let storageFitBps ← okOr (fitBps c.storageAvailableGB requirements.storageGb)
    "insufficient storage"
  let (bandwidthFitBps, resourceFitCount) ← r.bandwidthFit requirements c
  .ok ((cpuFitBps + ramFitBps + storageFitBps + bandwidthFitBps) / resourceFitCount)

def effectiveReputation (c : Candidate) : ReputationVector :=
  if c.hasReputation then c.reputation
  else
    let d := r.defaultReputationScore
    ⟨d, d, d, d, d⟩

def checkMinReputation (c : Candidate) : Option UInt32 → Except String Unit
  | none => .ok ()
  | some minReputation =>
    ensure (minReputation * 10000 / r.maxReputationScore ≤
      globalBps (r.effectiveReputation c) r.maxReputationScore)
      "below workload's minimum reputation constraint"

def checkConstraints (c : Candidate) : Option WorkloadConstraints → Except String Unit
  | none => .ok ()
  | some constraints => do
    ensure (constraints.requiredZone = "" ∨ c.zone = constraints.requiredZone) "zone mismatch"
    ensure (constraints.requiresVm = false ∨ c.virtualizationCapable)
      "provider is not virtualization-capable"
    r.checkMinReputation c constraints.minReputation

def scoreOne (weights : ProfileWeights) (requirements : Option ResourceRequirements)
    (constraints : Option WorkloadConstraints) (c : Candidate) : Except String Score := do
  ensure (c.agentEndpoint ≠ "") "no advertised agent endpoint"
  let requirements ← okOr requirements "workload has no resource requirements"
  let resourceFitBps ← r.resourceFit requirements c
  let reputationBps :=
    weightedReputationBps weights (r.effectiveReputation c) r.maxReputationScore
  r.checkConstraints c constraints
  .ok {
    providerID := c.providerID
    totalBps := (resourceFitBps * weights.resourceBps + reputationBps * weights.reputationBps) /
      10000
    resourceFitBps
    reputationBps }

end Ranker

def less (a b : Score) : Bool :=
  if a.totalBps ≠ b.totalBps then a.totalBps > b.totalBps else a.providerID < b.providerID

/-- `sort.Slice`, which leaves the order among equals open. -/
structure SliceSort where
  slice : (Score → Score → Bool) → List Score → List Score
  perm : ∀ lt l, (slice lt l).Perm l
  sorted : ∀ lt l, IsStrictWeakOrder Score (fun a b => lt a b = true) →
    (slice lt l).Pairwise fun a b => lt b a = false

namespace Ranker
variable (r : Ranker) (sort : SliceSort)

def place (weights : ProfileWeights) (requirements : Option ResourceRequirements)
    (constraints : Option WorkloadConstraints) (decision : Decision) (c : Candidate) : Decision :=
  match r.scoreOne weights requirements constraints c with
  | .error reason => { decision with excluded := decision.excluded ++ [⟨c.providerID, reason⟩] }
  | .ok score => { decision with ranked := decision.ranked ++ [score] }

def weightsFor (profile : WorkloadProfile) : ProfileWeights :=
  (r.weights profile).getD fallbackWeights

def rank (profile : WorkloadProfile) (requirements : Option ResourceRequirements)
    (constraints : Option WorkloadConstraints) (candidates : List Candidate) : Decision :=
  let decision := candidates.foldl (r.place (r.weightsFor profile) requirements constraints)
    ⟨none, [], []⟩
  let ranked := sort.slice less decision.ranked
  { decision with ranked, selected := ranked.head? }

end Ranker

/-- The higher total comes first, then the smaller id. -/
def Score.Before (a b : Score) : Prop :=
  b.totalBps.toNat < a.totalBps.toNat ∨ a.totalBps = b.totalBps ∧ a.providerID < b.providerID

def Score.key (s : Score) : ℕᵒᵈ ×ₗ String := toLex (OrderDual.toDual s.totalBps.toNat, s.providerID)

variable {a b : Score} {v v' : ReputationVector} {w : ProfileWeights} {total : Int64}
    {requirements : Option ResourceRequirements} {constraints : Option WorkloadConstraints}
    {cs : List Candidate}

theorem Score.before_iff : a.Before b ↔ a.key < b.key := by
  unfold Score.Before Score.key
  rw [Prod.Lex.toLex_lt_toLex, OrderDual.toDual_lt_toDual, OrderDual.toDual_inj, UInt32.toNat_inj]

theorem Score.eq_of_key (h : a.key = b.key) : a.providerID = b.providerID :=
  congrArg (fun k => (ofLex k).2) h

theorem less_iff : less a b = true ↔ a.key < b.key := by
  rw [← Score.before_iff]
  unfold less Score.Before
  by_cases h : a.totalBps = b.totalBps
  · simp only [h, ne_eq, not_true_eq_false, if_false, decide_eq_true_eq, Nat.lt_irrefl, true_and,
      false_or]
  · simp only [h, ne_eq, not_false_eq_true, if_true, gt_iff_lt, decide_eq_true_eq, false_and,
      or_false, UInt32.lt_iff_toNat_lt]

theorem less_strictWeak : IsStrictWeakOrder Score fun a b => less a b = true where
  irrefl a h := lt_irrefl _ (less_iff.1 h)
  trans a b c hab hbc := less_iff.2 ((less_iff.1 hab).trans (less_iff.1 hbc))
  incomp_trans a b c hab hbc := by
    simp only [less_iff, not_lt] at hab hbc ⊢
    exact ⟨hbc.1.trans hab.1, hab.2.trans hbc.2⟩

def SliceSort.merge : SliceSort where
  slice lt l := l.mergeSort fun a b => !lt b a
  perm lt l := l.mergeSort_perm _
  sorted lt l h := by
    have hsorted : (l.mergeSort fun a b => !lt b a).Pairwise fun a b => (!lt b a) = true :=
      List.pairwise_mergeSort ?_ ?_ l
    · simpa only [Bool.not_eq_true'] using hsorted
    · intro a b c hab hbc
      rw [Bool.not_eq_true', ← Bool.not_eq_true] at hab hbc ⊢
      intro hca
      have hcb : ¬ lt b c = true := fun hb => hab (h.trans b c a hb hca)
      have hba : ¬ lt a b = true := fun ha => hbc (h.trans c a b hca ha)
      exact (h.incomp_trans a b c ⟨hba, hab⟩ ⟨hcb, hbc⟩).2 hca
    · intro a b
      cases hab : lt a b with
      | false => exact Bool.or_true _
      | true =>
        cases hba : lt b a with
        | false => rfl
        | true => exact absurd (h.trans a b a hab hba) (h.irrefl a)

structure ProfileWeights.Balanced (w : ProfileWeights) : Prop where
  total : w.resourceBps.toNat + w.reputationBps.toNat = 10000
  dimensions : w.computeBps.toNat + w.storageBps.toNat + w.networkBps.toNat +
    w.availabilityBps.toNat + w.reliabilityBps.toNat = 10000

namespace ReputationVector

structure Below (v v' : ReputationVector) : Prop where
  compute : v.compute.toNat ≤ v'.compute.toNat
  storage : v.storage.toNat ≤ v'.storage.toNat
  network : v.network.toNat ≤ v'.network.toNat
  availability : v.availability.toNat ≤ v'.availability.toNat
  reliability : v.reliability.toNat ≤ v'.reliability.toNat

def uniform (n : UInt32) : ReputationVector := ⟨n, n, n, n, n⟩

def weighted (w : ProfileWeights) (v : ReputationVector) : Nat :=
  w.computeBps.toNat * v.compute.toNat + w.storageBps.toNat * v.storage.toNat +
    w.networkBps.toNat * v.network.toNat + w.availabilityBps.toNat * v.availability.toNat +
    w.reliabilityBps.toNat * v.reliability.toNat

theorem Below.weighted (h : v.Below v') (w : ProfileWeights) : v.weighted w ≤ v'.weighted w := by
  have hc := Nat.mul_le_mul_left w.computeBps.toNat h.compute
  have hs := Nat.mul_le_mul_left w.storageBps.toNat h.storage
  have hn := Nat.mul_le_mul_left w.networkBps.toNat h.network
  have ha := Nat.mul_le_mul_left w.availabilityBps.toNat h.availability
  have hr := Nat.mul_le_mul_left w.reliabilityBps.toNat h.reliability
  unfold ReputationVector.weighted
  omega

theorem weighted_uniform (hw : w.Balanced) (n : UInt32) :
    (uniform n).weighted w = 10000 * n.toNat := by
  rw [← hw.dimensions]
  unfold uniform weighted
  ring

theorem weighted_le (hw : w.Balanced) (hv : v.Below (uniform n)) : v.weighted w ≤ 10000 * n.toNat :=
  (hv.weighted w).trans (weighted_uniform hw n).le

theorem average_toNat (v : ReputationVector) : v.average.toNat =
    (v.compute.toNat + v.storage.toNat + v.network.toNat + v.availability.toNat +
      v.reliability.toNat) / 5 := by
  have hc := v.compute.toNat_lt
  have hs := v.storage.toNat_lt
  have hn := v.network.toNat_lt
  have ha := v.availability.toNat_lt
  have hr := v.reliability.toNat_lt
  simp only [average, UInt64.toNat_div, UInt64.toNat_add, UInt32.toNat_toUInt64, UInt64.reduceToNat]
  omega

theorem Below.average (h : v.Below v') : v.average.toNat ≤ v'.average.toNat := by
  obtain ⟨hc, hs, hn, ha, hr⟩ := h
  rw [average_toNat, average_toNat]
  omega

theorem average_uniform (n : UInt32) : (uniform n).average.toNat = n.toNat := by
  rw [average_toNat]
  change (n.toNat + n.toNat + n.toNat + n.toNat + n.toNat) / 5 = n.toNat
  omega

end ReputationVector

theorem weightedReputationBps_toNat (hw : w.Balanced)
    (hv : v.Below (.uniform n)) : (weightedReputationBps w v n).toNat = v.weighted w / n.toNat := by
  have hle := ReputationVector.weighted_le hw hv
  have hn := n.toNat_lt
  unfold weightedReputationBps
  split
  · rename_i hzero
    rw [hzero]
    exact (Nat.div_zero _).symm
  · have hdiv : v.weighted w / n.toNat ≤ 10000 :=
      Nat.div_le_of_le_mul (hle.trans (Nat.mul_comm _ _).le)
    unfold ReputationVector.weighted at hle hdiv ⊢
    simp only [UInt64.toNat_toUInt32, UInt64.toNat_div, UInt64.toNat_add, UInt64.toNat_mul,
      UInt32.toNat_toUInt64]
    generalize w.computeBps.toNat * v.compute.toNat = a at *
    generalize w.storageBps.toNat * v.storage.toNat = b at *
    generalize w.networkBps.toNat * v.network.toNat = c at *
    generalize w.availabilityBps.toNat * v.availability.toNat = d at *
    generalize w.reliabilityBps.toNat * v.reliability.toNat = e at *
    rw [show ((((a % 2 ^ 64 + b % 2 ^ 64) % 2 ^ 64 + c % 2 ^ 64) % 2 ^ 64 + d % 2 ^ 64) % 2 ^ 64 +
      e % 2 ^ 64) % 2 ^ 64 = a + b + c + d + e by omega]
    exact Nat.mod_eq_of_lt (by omega)

theorem globalBps_toNat (hv : v.Below (.uniform n)) :
    (globalBps v n).toNat = v.average.toNat * 10000 / n.toNat := by
  have hle := hv.average
  rw [ReputationVector.average_uniform] at hle
  have hn := n.toNat_lt
  unfold globalBps
  split
  · rename_i hzero
    rw [hzero]
    exact (Nat.div_zero _).symm
  · have hdiv : v.average.toNat * 10000 / n.toNat ≤ 10000 :=
      Nat.div_le_of_le_mul (Nat.mul_le_mul_right _ hle)
    simp only [UInt64.toNat_toUInt32, UInt64.toNat_div, UInt64.toNat_mul, UInt32.toNat_toUInt64,
      UInt64.reduceToNat]
    rw [Nat.mod_eq_of_lt (a := v.average.toNat * 10000) (by omega)]
    exact Nat.mod_eq_of_lt (by omega)

def maxAmount : Int := (2 ^ 63 - 1) / 10000

theorem fitBps_full (hmax : available.toInt ≤ maxAmount)
    (h : fitBps available required = some bps) : bps = 10000 := by
  unfold fitBps at h
  split at h
  · cases h
    rfl
  · rename_i hpos
    split at h
    · cases h
    · rename_i hfits
      rw [Int64.le_iff_toInt_le] at hpos
      rw [Int64.lt_iff_toInt_lt] at hfits
      have hpos : 0 < required.toInt := Int.lt_of_not_ge hpos
      have hmax : available.toInt * 10000 < 2 ^ 63 := by
        unfold maxAmount at hmax
        omega
      have hmul : (available * 10000).toInt = available.toInt * 10000 := by
        rw [Int64.toInt_mul, show (10000 : Int64).toInt = 10000 from rfl]
        exact Int.bmod_eq_of_le (by norm_num; omega) (by norm_num; omega)
      have hratio : (10000 : Int) ≤ (available * 10000 / required).toInt := by
        rw [Int64.toInt_div, hmul, Int.tdiv_eq_ediv_of_nonneg (by omega)]
        have hle : 10000 ≤ available.toInt * 10000 / required.toInt :=
          Int.le_ediv_of_mul_le hpos (by nlinarith)
        have hbound : available.toInt * 10000 / required.toInt ≤ available.toInt * 10000 :=
          Int.ediv_le_self _ (by omega)
        rwa [Int.bmod_eq_of_le (by norm_num; omega) (by norm_num; omega)]
      cases h
      split
      · rfl
      · rename_i hle
        rw [gt_iff_lt, Int64.lt_iff_toInt_lt] at hle
        have heq : available * 10000 / required = 10000 :=
          Int64.toInt_inj.1 (le_antisymm (Int.not_lt.1 hle) hratio)
        rw [heq]
        rfl

theorem wireGuardEffectiveMbps_le_self (h : total.toInt ≤ maxAmount) :
    (wireGuardEffectiveMbps total).toInt ≤ total.toInt := by
  unfold wireGuardEffectiveMbps
  split
  · exact le_rfl
  · rename_i hpos
    rw [Int64.le_iff_toInt_le, show (0 : Int64).toInt = 0 from rfl] at hpos
    unfold maxAmount at h
    have hmul : (total * (1500 - 60)).toInt = total.toInt * 1440 := by
      rw [Int64.toInt_mul, show (1500 - 60 : Int64).toInt = 1440 from rfl]
      exact Int.bmod_eq_of_le (by norm_num; omega) (by norm_num; omega)
    rw [Int64.toInt_div, hmul, show (1500 : Int64).toInt = 1500 from rfl,
      Int.tdiv_eq_ediv_of_nonneg (by omega),
      Int.bmod_eq_of_le (by norm_num; omega) (by norm_num; omega)]
    omega

namespace Candidate

def amounts (conversion : Conversion) (c : Candidate) : List Int64 :=
  [conversion.cpuMillicores c.cpuAvailableCores, c.ramAvailableMB, c.storageAvailableGB,
    c.ingressTotalMbps, c.egressTotalMbps]

end Candidate

namespace Ranker
variable {r : Ranker} {q : ResourceRequirements} {c : Candidate}

theorem effectiveMbps_le (h : total.toInt ≤ maxAmount) :
    (r.effectiveMbps total).toInt ≤ maxAmount := by
  unfold effectiveMbps
  split
  · exact (wireGuardEffectiveMbps_le_self h).trans h
  · exact h

theorem bandwidthFit_full (hin : c.ingressTotalMbps.toInt ≤ maxAmount)
    (hout : c.egressTotalMbps.toInt ≤ maxAmount) (h : r.bandwidthFit q c = .ok x) :
    x = (0, 3) ∨ x = (10000, 4) := by
  unfold bandwidthFit at h
  split at h
  · cases h
    exact .inl rfl
  · split at h
    · obtain ⟨i, hi, h⟩ := bind_eq_ok.1 h
      obtain ⟨e, he, h⟩ := bind_eq_ok.1 h
      cases fitBps_full (effectiveMbps_le hin) (okOr_eq_ok.1 hi)
      cases fitBps_full (effectiveMbps_le hout) (okOr_eq_ok.1 he)
      cases h
      exact .inr rfl
    · cases h
      exact .inl rfl

theorem resourceFit_full (hmax : ∀ a ∈ c.amounts r.conversion, a.toInt ≤ maxAmount)
    (h : r.resourceFit q c = .ok bps) : bps = 10000 := by
  simp only [Candidate.amounts, forall_mem_cons] at hmax
  obtain ⟨hcpu, hram, hstorage, hin, hout, _⟩ := hmax
  obtain ⟨cpu, h₁, h⟩ := bind_eq_ok.1 h
  obtain ⟨ram, h₂, h⟩ := bind_eq_ok.1 h
  obtain ⟨storage, h₃, h⟩ := bind_eq_ok.1 h
  obtain ⟨x, h₄, h⟩ := bind_eq_ok.1 h
  cases fitBps_full hcpu (okOr_eq_ok.1 h₁)
  cases fitBps_full hram (okOr_eq_ok.1 h₂)
  cases fitBps_full hstorage (okOr_eq_ok.1 h₃)
  obtain rfl | rfl := bandwidthFit_full hin hout h₄
  · cases h
    rfl
  · cases h
    rfl

theorem scoreOne_eq_ok {weights : ProfileWeights} {requirements : Option ResourceRequirements}
    {constraints : Option WorkloadConstraints} :
    r.scoreOne weights requirements constraints c = .ok s ↔
      c.agentEndpoint ≠ "" ∧ (∃ q ∈ requirements, r.resourceFit q c = .ok s.resourceFitBps) ∧
      r.checkConstraints c constraints = .ok () ∧ s.providerID = c.providerID ∧
      s.reputationBps =
        weightedReputationBps weights (r.effectiveReputation c) r.maxReputationScore ∧
      s.totalBps = (s.resourceFitBps * weights.resourceBps +
        s.reputationBps * weights.reputationBps) / 10000 := by
  constructor
  · intro h
    obtain ⟨_, he, h⟩ := bind_eq_ok.1 h
    obtain ⟨q, hq, h⟩ := bind_eq_ok.1 h
    obtain ⟨fit, hfit, h⟩ := bind_eq_ok.1 h
    obtain ⟨_, hk, h⟩ := bind_eq_ok.1 h
    cases h
    exact ⟨ensure_eq_ok.1 he, ⟨q, okOr_eq_ok.1 hq, hfit⟩, hk, rfl, rfl, rfl⟩
  · rintro ⟨he, ⟨q, hq, hfit⟩, hk, hid, hrep, htotal⟩
    refine bind_eq_ok.2 ⟨(), ensure_eq_ok.2 he, bind_eq_ok.2 ⟨q, okOr_eq_ok.2 hq,
      bind_eq_ok.2 ⟨_, hfit, bind_eq_ok.2 ⟨(), hk, ?_⟩⟩⟩⟩
    obtain ⟨id, total, fit, reputation⟩ := s
    dsimp only at hid hrep htotal
    subst hid hrep htotal
    rfl

theorem scoreOne_of_fit
    (weights : ProfileWeights) (constraints : Option WorkloadConstraints)
    (he : c.agentEndpoint ≠ "") (hq : requirements = some q) (hfit : r.resourceFit q c = .ok fit)
    (hk : r.checkConstraints c constraints = .ok ()) :
    ∃ s, r.scoreOne weights requirements constraints c = .ok s ∧ s.resourceFitBps = fit := by
  let reputationBps :=
    weightedReputationBps weights (r.effectiveReputation c) r.maxReputationScore
  exact ⟨⟨c.providerID, (fit * weights.resourceBps + reputationBps * weights.reputationBps) / 10000,
    fit, reputationBps⟩, scoreOne_eq_ok.2 ⟨he, ⟨q, hq, hfit⟩, hk, rfl, rfl, rfl⟩, rfl⟩

section
variable {weights : ProfileWeights} {requirements : Option ResourceRequirements}
  {constraints : Option WorkloadConstraints} {sort : SliceSort} {profile : WorkloadProfile}

theorem foldl_place (cs : List Candidate) (d : Decision) :
    cs.foldl (r.place weights requirements constraints) d =
      { d with
        ranked := d.ranked ++
          cs.filterMap fun c => (r.scoreOne weights requirements constraints c).toOption
        excluded := d.excluded ++ cs.filterMap fun c =>
          (failure (r.scoreOne weights requirements constraints c)).map (⟨c.providerID, ·⟩) } := by
  induction cs generalizing d with
  | nil => simp only [foldl_nil, filterMap_nil, append_nil]
  | cons c cs ih =>
    rw [foldl_cons, ih, place, filterMap_cons, filterMap_cons]
    cases r.scoreOne weights requirements constraints c with
    | error e =>
      dsimp only
      rw [append_assoc]
      rfl
    | ok s =>
      dsimp only
      rw [append_assoc]
      rfl

def scores (r : Ranker) (profile : WorkloadProfile) (requirements : Option ResourceRequirements)
    (constraints : Option WorkloadConstraints) (cs : List Candidate) : List Score :=
  cs.filterMap fun c => (r.scoreOne (r.weightsFor profile) requirements constraints c).toOption

theorem mem_scores : s ∈ r.scores profile requirements constraints cs ↔
    ∃ c ∈ cs, r.scoreOne (r.weightsFor profile) requirements constraints c = .ok s := by
  rw [scores, mem_filterMap]
  refine exists_congr fun c => and_congr_right fun _ => ?_
  cases r.scoreOne (r.weightsFor profile) requirements constraints c with
  | error e => exact ⟨nofun, nofun⟩
  | ok s => exact ⟨fun h => congrArg _ (Option.some.inj h), fun h => congrArg _ (Except.ok.inj h)⟩

theorem rank_ranked (cs : List Candidate) :
    (r.rank sort profile requirements constraints cs).ranked =
      sort.slice less (r.scores profile requirements constraints cs) := by
  unfold rank
  rw [foldl_place]
  rfl

theorem rank_excluded (cs : List Candidate) :
    (r.rank sort profile requirements constraints cs).excluded = cs.filterMap fun c =>
      (Frame.failure (r.scoreOne (r.weightsFor profile) requirements constraints c)).map
        (⟨c.providerID, ·⟩) := by
  unfold rank
  rw [foldl_place]
  rfl

theorem ranked_perm (cs : List Candidate) :
    (r.rank sort profile requirements constraints cs).ranked.Perm
      (r.scores profile requirements constraints cs) := by
  rw [rank_ranked]
  exact sort.perm _ _

theorem mem_ranked :
    s ∈ (r.rank sort profile requirements constraints cs).ranked ↔
      ∃ c ∈ cs, r.scoreOne (r.weightsFor profile) requirements constraints c = .ok s :=
  (ranked_perm cs).mem_iff.trans mem_scores

theorem mem_excluded :
    ⟨providerID, reason⟩ ∈ (r.rank sort profile requirements constraints cs).excluded ↔ ∃ c ∈ cs,
      c.providerID = providerID ∧
        r.scoreOne (r.weightsFor profile) requirements constraints c = .error reason := by
  rw [rank_excluded, mem_filterMap]
  refine exists_congr fun c => and_congr_right fun _ => ?_
  simp only [Option.map_eq_some_iff, failure_eq_some, Exclusion.mk.injEq]
  exact ⟨fun ⟨_, he, hid, heq⟩ => ⟨hid, heq ▸ he⟩, fun ⟨hid, he⟩ => ⟨reason, he, hid, rfl⟩⟩

theorem scoreOne_providerID (h : r.scoreOne weights requirements constraints c = .ok s) :
    s.providerID = c.providerID := (scoreOne_eq_ok.1 h).2.2.2.1

theorem placed (sort : SliceSort) (cs : List Candidate) :
    ((r.scores profile requirements constraints cs).map Score.providerID ++
      (r.rank sort profile requirements constraints cs).excluded.map Exclusion.providerID).Perm
      (cs.map Candidate.providerID) := by
  rw [rank_excluded]
  induction cs with
  | nil => exact .refl _
  | cons c cs ih =>
    rw [scores, filterMap_cons, filterMap_cons, ← scores, map_cons]
    cases hs : r.scoreOne (r.weightsFor profile) requirements constraints c with
    | error e => exact perm_middle.trans (ih.cons _)
    | ok s =>
      rw [← scoreOne_providerID hs]
      exact ih.cons _

theorem scores_nodup (h : (cs.map Candidate.providerID).Nodup) :
    ((r.scores profile requirements constraints cs).map Score.providerID).Nodup :=
  ((placed .merge cs).nodup_iff.2 h).sublist (sublist_append_left _ _)

theorem ranked_nodup (h : (cs.map Candidate.providerID).Nodup) :
    ((r.rank sort profile requirements constraints cs).ranked.map Score.providerID).Nodup :=
  ((ranked_perm cs).map _).nodup_iff.2 (scores_nodup h)

theorem ranked_pairwise (h : (cs.map Candidate.providerID).Nodup) :
    (r.rank sort profile requirements constraints cs).ranked.Pairwise Score.Before := by
  have hsorted := sort.sorted less (r.scores profile requirements constraints cs) less_strictWeak
  rw [← rank_ranked] at hsorted
  refine (hsorted.and (pairwise_map.1 (ranked_nodup h))).imp ?_
  rintro a b ⟨hab, hne⟩
  rw [← Bool.not_eq_true, less_iff, not_lt] at hab
  exact Score.before_iff.2 (lt_of_le_of_ne hab fun hkey => hne (Score.eq_of_key hkey))

theorem eq_ranked
    (h : (cs.map Candidate.providerID).Nodup) (hl : l.Pairwise Score.Before)
    (hperm : l.Perm (r.scores profile requirements constraints cs)) :
    l = (r.rank sort profile requirements constraints cs).ranked := by
  refine List.Perm.eq_of_pairwise ?_ hl (ranked_pairwise h) (hperm.trans (ranked_perm cs).symm)
  intro a b _ _ hab hba
  exact absurd ((Score.before_iff.1 hab).trans (Score.before_iff.1 hba)) (lt_irrefl _)

theorem scoreOne_total (hw : weights.Balanced)
    (hv : (r.effectiveReputation c).Below (.uniform r.maxReputationScore))
    (hmax : ∀ a ∈ c.amounts r.conversion, a.toInt ≤ maxAmount)
    (h : r.scoreOne weights requirements constraints c = .ok s) :
    s.resourceFitBps = 10000 ∧ s.totalBps.toNat = weights.resourceBps.toNat +
      (r.effectiveReputation c).weighted weights / r.maxReputationScore.toNat *
        weights.reputationBps.toNat / 10000 := by
  obtain ⟨_, ⟨q, _, hfit⟩, _, _, hrep, htotal⟩ := scoreOne_eq_ok.1 h
  have hfit := resourceFit_full hmax hfit
  refine ⟨hfit, ?_⟩
  have hle : (r.effectiveReputation c).weighted weights / r.maxReputationScore.toNat ≤ 10000 :=
    Nat.div_le_of_le_mul ((ReputationVector.weighted_le hw hv).trans (Nat.mul_comm _ _).le)
  have hmul := Nat.mul_le_mul hle (show weights.reputationBps.toNat ≤ 10000 by
    have := hw.total
    omega)
  have htotal' := hw.total
  rw [htotal, hfit, hrep]
  simp only [UInt32.toNat_div, UInt32.toNat_add, UInt32.toNat_mul, UInt32.reduceToNat,
    weightedReputationBps_toNat hw hv]
  omega

theorem effectiveReputation_below (hdefault : r.defaultReputationScore ≤ r.maxReputationScore)
    (h : c.reputation.Below (.uniform r.maxReputationScore)) :
    (r.effectiveReputation c).Below (.uniform r.maxReputationScore) := by
  have hdefault := UInt32.le_iff_toNat_le.1 hdefault
  unfold effectiveReputation
  split
  · exact h
  · exact ⟨hdefault, hdefault, hdefault, hdefault, hdefault⟩

theorem scoreOne_raised (hw : weights.Balanced)
    (hdefault : r.defaultReputationScore ≤ r.maxReputationScore)
    (hv : v.Below (.uniform r.maxReputationScore)) (hle : c.reputation.Below v)
    (hmax : ∀ a ∈ c.amounts r.conversion, a.toInt ≤ maxAmount)
    (h : r.scoreOne weights requirements constraints c = .ok s) :
    ∃ s', r.scoreOne weights requirements constraints { c with reputation := v } = .ok s' ∧
      s.totalBps.toNat ≤ s'.totalBps.toNat := by
  have hc : c.reputation.Below (.uniform r.maxReputationScore) :=
    ⟨hle.1.trans hv.1, hle.2.trans hv.2, hle.3.trans hv.3, hle.4.trans hv.4, hle.5.trans hv.5⟩
  have hc := effectiveReputation_below hdefault hc
  have hc' : (r.effectiveReputation { c with reputation := v }).Below _ :=
    effectiveReputation_below hdefault hv
  have heff :
      (r.effectiveReputation c).Below (r.effectiveReputation { c with reputation := v }) := by
    unfold effectiveReputation
    cases c.hasReputation with
    | false => exact ⟨le_rfl, le_rfl, le_rfl, le_rfl, le_rfl⟩
    | true => exact hle
  obtain ⟨he, ⟨q, hq, hfit⟩, hk, hid, _, _⟩ := scoreOne_eq_ok.1 h
  have hk' : r.checkConstraints { c with reputation := v } constraints = .ok () := by
    cases constraints with
    | none => rfl
    | some k =>
      obtain ⟨_, hzone, hk⟩ := bind_eq_ok.1 hk
      obtain ⟨_, hvm, hk⟩ := bind_eq_ok.1 hk
      refine bind_eq_ok.2 ⟨(), hzone, bind_eq_ok.2 ⟨(), hvm, ?_⟩⟩
      cases hmin : k.minReputation with
      | none => rfl
      | some m =>
        rw [hmin] at hk
        have hk := UInt32.le_iff_toNat_le.1 (ensure_eq_ok.1 hk)
        refine ensure_eq_ok.2 (UInt32.le_iff_toNat_le.2 (hk.trans ?_))
        rw [globalBps_toNat hc, globalBps_toNat hc']
        exact Nat.div_le_div_right (Nat.mul_le_mul_right _ heff.average)
  obtain ⟨s', hs', _⟩ := scoreOne_of_fit (c := { c with reputation := v }) weights _ he hq hfit hk'
  refine ⟨s', hs', ?_⟩
  rw [(scoreOne_total hw hc hmax h).2, (scoreOne_total hw hc' hmax hs').2]
  exact Nat.add_le_add_left (Nat.div_le_div_right (Nat.mul_le_mul_right _
    (Nat.div_le_div_right (heff.weighted weights)))) _

end

/-- Balanced weights, and amounts whose ratios do not overflow. -/
structure Admissible (r : Ranker) (profile : WorkloadProfile) (cs : List Candidate) : Prop where
  balanced : (r.weightsFor profile).Balanced
  scale : 0 < r.maxReputationScore
  default : r.defaultReputationScore ≤ r.maxReputationScore
  distinct : (cs.map Candidate.providerID).Nodup
  reputation : ∀ c ∈ cs, c.reputation.Below (.uniform r.maxReputationScore)
  amounts : ∀ c ∈ cs, ∀ a ∈ c.amounts r.conversion, a.toInt ≤ maxAmount

section
variable {requirements : Option ResourceRequirements} {constraints : Option WorkloadConstraints}
  {sort : SliceSort} {profile : WorkloadProfile} {before after : List Candidate}

theorem scores_append (cs cs' : List Candidate) : r.scores profile requirements constraints
    (cs ++ cs') = r.scores profile requirements constraints cs ++
      r.scores profile requirements constraints cs' := filterMap_append

theorem scores_filter (h : ((before ++ c :: after).map Candidate.providerID).Nodup) :
    (r.scores profile requirements constraints (before ++ c :: after)).filter
      (fun s => s.providerID ≠ c.providerID) =
        r.scores profile requirements constraints (before ++ after) := by
  have hother {cs : List Candidate} (hcs : ∀ x ∈ cs, x.providerID ≠ c.providerID) :
      (r.scores profile requirements constraints cs).filter
        (fun s => s.providerID ≠ c.providerID) = r.scores profile requirements constraints cs := by
    refine filter_eq_self.2 fun s hs => decide_eq_true ?_
    obtain ⟨x, hx, hscore⟩ := mem_scores.1 hs
    rw [scoreOne_providerID hscore]
    exact hcs x hx
  rw [map_append, map_cons, nodup_append] at h
  obtain ⟨_, hafter, hbefore⟩ := h
  have hafter {x : Candidate} (hx : x ∈ after) : x.providerID ≠ c.providerID := fun heq =>
    (nodup_cons.1 hafter).1 (heq ▸ mem_map_of_mem hx)
  have hbefore {x : Candidate} (hx : x ∈ before) : x.providerID ≠ c.providerID :=
    hbefore _ (mem_map_of_mem hx) _ mem_cons_self
  rw [scores_append, scores_append, filter_append, hother fun x => hbefore]
  congr 1
  rw [scores, filterMap_cons]
  cases hs : r.scoreOne (r.weightsFor profile) requirements constraints c with
  | error e => exact hother fun x => hafter
  | ok s =>
    rw [← hother fun x => hafter]
    exact filter_cons_of_neg (by rw [scoreOne_providerID hs]; simp)

theorem rank_reordered {cs cs' : List Candidate} (h : (cs.map Candidate.providerID).Nodup)
    (hperm : cs'.Perm cs) : (r.rank sort profile requirements constraints cs').ranked =
      (r.rank sort profile requirements constraints cs).ranked :=
  eq_ranked h (ranked_pairwise ((hperm.map _).nodup_iff.2 h))
    ((ranked_perm cs').trans (hperm.filterMap _))

theorem rank_without (h : ((before ++ c :: after).map Candidate.providerID).Nodup) :
    (r.rank sort profile requirements constraints (before ++ c :: after)).ranked.filter
      (fun s => s.providerID ≠ c.providerID) =
        (r.rank sort profile requirements constraints (before ++ after)).ranked := by
  refine eq_ranked ?_ ((ranked_pairwise h).filter _) ?_
  · refine h.sublist (List.Sublist.map _ ?_)
    exact (List.Sublist.refl before).append (sublist_cons_self c after)
  · rw [← scores_filter h]
    exact (ranked_perm _).filter _

theorem rank_raised (h : r.Admissible profile (before ++ c :: after))
    (hv : v.Below (.uniform r.maxReputationScore)) (hle : c.reputation.Below v)
    (hs : s ∈ (r.rank sort profile requirements constraints (before ++ c :: after)).ranked)
    (hid : s.providerID = c.providerID) :
    ∃ s' ∈ (r.rank sort profile requirements constraints
        (before ++ { c with reputation := v } :: after)).ranked,
      s'.providerID = c.providerID ∧ s.totalBps.toNat ≤ s'.totalBps.toNat ∧
      ∀ t ∈ (r.rank sort profile requirements constraints
          (before ++ { c with reputation := v } :: after)).ranked, t.Before s' →
        t ∈ (r.rank sort profile requirements constraints (before ++ c :: after)).ranked ∧
          t.Before s := by
  have hdistinct' : ((before ++ { c with reputation := v } :: after).map
      Candidate.providerID).Nodup := by
    have hdistinct := h.distinct
    rwa [map_append, map_cons] at hdistinct ⊢
  have hc : c ∈ before ++ c :: after := mem_append_right _ mem_cons_self
  obtain ⟨x, hx, hscore⟩ := mem_ranked.1 hs
  have hxc : x = c := inj_on_of_nodup_map h.distinct hx hc
    ((scoreOne_providerID hscore).symm.trans hid)
  subst hxc
  obtain ⟨s', hs', htotal⟩ := scoreOne_raised h.balanced h.default hv hle (h.amounts x hc) hscore
  have hid' := scoreOne_providerID hs'
  have hid' : s'.providerID = x.providerID := hid'
  have hmem : s' ∈ (r.rank sort profile requirements constraints
      (before ++ { x with reputation := v } :: after)).ranked :=
    mem_ranked.2 ⟨_, mem_append_right _ mem_cons_self, hs'⟩
  refine ⟨s', hmem, hid', htotal, fun t ht hbefore => ?_⟩
  have hkey : s'.key ≤ s.key := by
    rw [Score.key, Score.key, Prod.Lex.toLex_le_toLex', hid', hid]
    exact ⟨htotal, fun _ => le_rfl⟩
  have hne : t.providerID ≠ x.providerID := by
    intro heq
    have hts : t = s' :=
      inj_on_of_nodup_map (ranked_nodup hdistinct') ht hmem (heq.trans hid'.symm)
    subst hts
    exact lt_irrefl _ (Score.before_iff.1 hbefore)
  refine ⟨?_, Score.before_iff.2 ((Score.before_iff.1 hbefore).trans_le hkey)⟩
  have hfilter : t ∈ (r.rank sort profile requirements constraints
      (before ++ { x with reputation := v } :: after)).ranked.filter
        fun s => s.providerID ≠ x.providerID := mem_filter.2 ⟨ht, decide_eq_true hne⟩
  rw [rank_without hdistinct', ← rank_without h.distinct] at hfilter
  exact (mem_filter.1 hfilter).1

end

theorem selected_eq_none
    (h : (cs.map Candidate.providerID).Nodup) :
    (r.rank sort profile requirements constraints cs).selected = none ↔
      ∀ c ∈ cs, ∃ reason, ⟨c.providerID, reason⟩ ∈
        (r.rank sort profile requirements constraints cs).excluded := by
  change (r.rank sort profile requirements constraints cs).ranked.head? = none ↔ _
  rw [head?_eq_none_iff, eq_nil_iff_forall_not_mem]
  constructor
  · intro hnone c hc
    cases hscore : r.scoreOne (r.weightsFor profile) requirements constraints c with
    | error reason => exact ⟨reason, mem_excluded.2 ⟨c, hc, rfl, hscore⟩⟩
    | ok s => exact absurd (mem_ranked.2 ⟨c, hc, hscore⟩) (hnone s)
  · intro hall s hs
    obtain ⟨c, hc, hscore⟩ := mem_ranked.1 hs
    obtain ⟨reason, hmem⟩ := hall c hc
    obtain ⟨x, hx, hid, herror⟩ := mem_excluded.1 hmem
    cases inj_on_of_nodup_map h hx hc hid
    cases hscore.symm.trans herror

/-- Every candidate is placed once, on its own merits. -/
theorem ranking_total (r : Ranker) (sort : SliceSort) (profile : WorkloadProfile)
    (requirements : Option ResourceRequirements) (constraints : Option WorkloadConstraints)
    (cs : List Candidate) (h : r.Admissible profile cs) :
    let rank := r.rank sort profile requirements constraints
    let w := r.weightsFor profile
    ((rank cs).ranked.map Score.providerID ++ (rank cs).excluded.map Exclusion.providerID).Perm
      (cs.map Candidate.providerID) ∧
    (∀ s ∈ (rank cs).ranked, s.resourceFitBps = 10000 ∧ ∃ c ∈ cs, s.providerID = c.providerID ∧
      s.totalBps.toNat = w.resourceBps.toNat + (r.effectiveReputation c).weighted w /
        r.maxReputationScore.toNat * w.reputationBps.toNat / 10000) ∧
    (rank cs).ranked.Pairwise Score.Before ∧
    (rank cs).selected = (rank cs).ranked.head? ∧
    ((rank cs).selected = none ↔ ∀ c ∈ cs, ∃ reason, ⟨c.providerID, reason⟩ ∈ (rank cs).excluded) ∧
    (∀ cs', cs'.Perm cs → (rank cs').ranked = (rank cs).ranked ∧
      (rank cs').selected = (rank cs).selected ∧ (rank cs').excluded.Perm (rank cs).excluded) ∧
    ∀ before c after, cs = before ++ c :: after →
      (rank cs).ranked.filter (fun s => s.providerID ≠ c.providerID) =
        (rank (before ++ after)).ranked ∧
      ∀ v : ReputationVector, v.Below (.uniform r.maxReputationScore) → c.reputation.Below v →
        ∀ s ∈ (rank cs).ranked, s.providerID = c.providerID →
          ∃ s' ∈ (rank (before ++ { c with reputation := v } :: after)).ranked,
            s'.providerID = c.providerID ∧ s.totalBps.toNat ≤ s'.totalBps.toNat ∧
            ∀ t ∈ (rank (before ++ { c with reputation := v } :: after)).ranked, t.Before s' →
              t ∈ (rank cs).ranked ∧ t.Before s := by
  intro rank w
  refine ⟨(((ranked_perm cs).map _).append_right _).trans (placed sort cs), fun s hs => ?_,
    ranked_pairwise h.distinct, rfl, selected_eq_none h.distinct, fun cs' hperm => ?_, ?_⟩
  · obtain ⟨c, hc, hscore⟩ := mem_ranked.1 hs
    obtain ⟨hfit, htotal⟩ := scoreOne_total h.balanced
      (effectiveReputation_below h.default (h.reputation c hc)) (h.amounts c hc) hscore
    exact ⟨hfit, c, hc, scoreOne_providerID hscore, htotal⟩
  · have hranked : (rank cs').ranked = (rank cs).ranked := rank_reordered h.distinct hperm
    refine ⟨hranked, congrArg head? hranked, ?_⟩
    change (r.rank sort profile requirements constraints cs').excluded.Perm
      (r.rank sort profile requirements constraints cs).excluded
    rw [rank_excluded, rank_excluded]
    exact hperm.filterMap _
  · rintro before c after rfl
    exact ⟨rank_without h.distinct, fun v hv hle s hs hid => rank_raised h hv hle hs hid⟩

/-- `math.Round` on the amounts that `float64` holds exactly. -/
def roundConversion : Conversion where
  cpuMillicores
    | some cores => if cores < 0 then 0 else .ofInt (cores * 1000 + 1 / 2).floor
    | none => Int64.minValue
  one_core := by decide +kernel

def sampleCandidate (id : String) (reputation : UInt32) : Candidate :=
  ⟨id, "agent:1", some 2, 4096, 100, 0, 0, .uniform reputation, true, "", false⟩

theorem ranking_total_two :
    let r := newRanker roundConversion 1000 500
    let cs := [sampleCandidate "a" 100, sampleCandidate "b" 900]
    let rank := r.rank .merge .computeIntensive (some ⟨some 1, 1024, 10, 0, none⟩) none
    r.Admissible .computeIntensive cs ∧
      (rank cs).ranked = [⟨"b", 9600, 10000, 9000⟩, ⟨"a", 6400, 10000, 1000⟩] ∧
      (rank cs).selected = some ⟨"b", 9600, 10000, 9000⟩ ∧
      (rank cs.reverse).ranked = (rank cs).ranked := by
  intro r cs rank
  have hamounts : cs.all fun c => (c.amounts r.conversion).all fun a => a.toInt ≤ maxAmount := by
    decide +kernel
  have hadmissible : r.Admissible .computeIntensive cs := by
    refine ⟨⟨by decide +kernel, by decide +kernel⟩, by decide +kernel, by decide +kernel,
      by decide +kernel, ?_, ?_⟩
    · intro c hc
      obtain rfl | hc := mem_cons.1 hc
      · constructor <;> decide +kernel
      · cases mem_singleton.1 hc
        constructor <;> decide +kernel
    · exact fun c hc a ha => of_decide_eq_true (all_eq_true.1 (all_eq_true.1 hamounts c hc) a ha)
  have hscores : r.scores .computeIntensive (some ⟨some 1, 1024, 10, 0, none⟩) none cs =
      [⟨"a", 6400, 10000, 1000⟩, ⟨"b", 9600, 10000, 9000⟩] := by decide +kernel
  have hranked : [⟨"b", 9600, 10000, 9000⟩, ⟨"a", 6400, 10000, 1000⟩] = (rank cs).ranked :=
    eq_ranked hadmissible.distinct (pairwise_pair.2 (.inl (by decide)))
      (hscores ▸ Perm.swap ..)
  refine ⟨hadmissible, hranked.symm, congrArg head? hranked.symm, ?_⟩
  exact ((ranking_total r .merge .computeIntensive _ none cs hadmissible).2.2.2.2.2.1
    cs.reverse cs.reverse_perm).1

end Ranker

end OpenInfra.Scheduler
