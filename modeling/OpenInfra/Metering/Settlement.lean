import OpenInfra.Agent.Signatures
import OpenInfra.Escrow.Streaming
import OpenInfra.Frame.LittleEndian
import OpenInfra.Metering.Linear
import OpenInfra.Metering.Pulls

namespace OpenInfra.Metering
open Frame List
open Escrow (cost meteringSigningPayload verifyAndCharge)

def PriceSchedule.onChain (schedule : PriceSchedule) : Escrow.PriceSchedule where
  cpuCoreSecond := schedule.cpuCoreSecond.toNat
  ramMbSecond := schedule.ramMBSecond.toNat
  storageGbSecond := schedule.storageGBSecond.toNat
  networkMb := schedule.networkMB.toNat

def presented (leaseId : LeaseId) (summary : MeteringSummary) (signature : ByteVec 64) :
    Escrow.MeteringSummary where
  leaseId
  sequence := summary.sequence.toNat
  periodStart := summary.periodStart.toNat
  periodEnd := summary.periodEnd.toNat
  cpuCoreSeconds := summary.cpuCoreSeconds.toNat
  ramMbSeconds := summary.ramMbSeconds.toNat
  storageGbSeconds := summary.storageGbSeconds.toNat
  networkEgressMb := summary.networkEgressMb.toNat
  networkIngressMb := summary.networkIngressMb.toNat
  gpuSeconds := summary.gpuSeconds.toNat
  meteringSchemaVersion := summary.meteringSchemaVersion.toNat
  signature

namespace Meter

def meteringDomain : Bytes := utf8 "openinfra-metering-v1\x00"

def meteringSignedBytes (summary : MeteringSummary) : Bytes :=
  [meteringDomain,
    bigEndian 4 (UInt32.ofNat (utf8 summary.workloadId).length).toNat, utf8 summary.workloadId,
    bigEndian 4 (UInt32.ofNat (utf8 summary.leaseId).length).toNat, utf8 summary.leaseId,
    bigEndian 8 summary.sequence.toNat,
    bigEndian 8 summary.periodStart.toNat,
    bigEndian 8 summary.periodEnd.toNat,
    bigEndian 4 summary.meteringSchemaVersion.toNat,
    bigEndian 8 summary.cpuCoreSeconds.toNat,
    bigEndian 8 summary.ramMbSeconds.toNat,
    bigEndian 8 summary.storageGbSeconds.toNat,
    bigEndian 8 summary.networkEgressMb.toNat,
    bigEndian 8 summary.networkIngressMb.toNat,
    bigEndian 8 summary.gpuSeconds.toNat].flatten

end Meter

theorem signedBytes_eq_meteringSignedBytes (summary : MeteringSummary) :
    signedBytes summary = Meter.meteringSignedBytes summary := by
  simp only [signedBytes, Meter.meteringSignedBytes, appendU32Prefixed, meteringDomain,
    Meter.meteringDomain, Signatures.bigEndian_uint32, flatten_cons, flatten_nil,
    append_nil, append_assoc]

section
variable {a b c : UInt64}

theorem exists_toNat_eq (h : n < 2 ^ 64) : ∃ c : UInt64, c.toNat = n :=
  ⟨.ofNat n, UInt64.toNat_ofNat_of_lt' h⟩

theorem mul_div_eq_iff (ha : a ≠ 0) : a * b / a = b ↔ a.toNat * b.toNat < 2 ^ 64 := by
  have hpos : 0 < a.toNat := Nat.pos_of_ne_zero fun h => ha (UInt64.toNat_inj.1 h)
  rw [← UInt64.toNat_inj, UInt64.toNat_div, UInt64.toNat_mul]
  constructor
  · intro h
    by_contra hlarge
    have hless : a.toNat * b.toNat % 2 ^ 64 < a.toNat * b.toNat :=
      (Nat.mod_lt _ (by decide)).trans_le (Nat.le_of_not_lt hlarge)
    rw [Nat.div_eq_iff hpos] at h
    nlinarith [h.1, h.2]
  · intro h
    rw [Nat.mod_eq_of_lt h, Nat.mul_div_cancel_left _ hpos]

theorem checkedMul_eq_ok : checkedMul a b = .ok c ↔ c.toNat = a.toNat * b.toNat := by
  unfold checkedMul
  split
  · rename_i hzero
    have hproduct : a.toNat * b.toNat = 0 := by
      rcases hzero with rfl | rfl
      · exact Nat.zero_mul _
      · exact Nat.mul_zero _
    rw [Except.ok.injEq, hproduct, eq_comm, ← UInt64.toNat_inj, UInt64.toNat_zero]
  · rename_i hzero
    rw [not_or] at hzero
    split
    · rename_i hwrapped
      rw [ne_eq, mul_div_eq_iff hzero.1] at hwrapped
      simp only [reduceCtorEq, false_iff]
      intro h
      exact hwrapped (h ▸ c.toNat_lt)
    · rename_i hexact
      rw [ne_eq, not_not, mul_div_eq_iff hzero.1] at hexact
      rw [Except.ok.injEq, ← UInt64.toNat_inj, UInt64.toNat_mul, Nat.mod_eq_of_lt hexact, eq_comm]

theorem checkedAdd_eq_ok : checkedAdd a b = .ok c ↔ c.toNat = a.toNat + b.toNat := by
  have ha := a.toNat_lt
  have hb := b.toNat_lt
  have hc := c.toNat_lt
  unfold checkedAdd
  split
  · rename_i hwrapped
    rw [UInt64.lt_iff_toNat_lt, UInt64.toNat_add] at hwrapped
    simp only [reduceCtorEq, false_iff]
    omega
  · rename_i hexact
    rw [UInt64.lt_iff_toNat_lt, UInt64.toNat_add] at hexact
    rw [Except.ok.injEq, ← UInt64.toNat_inj, UInt64.toNat_add]
    omega

theorem checkedMul_failsWith : FailsWith (checkedMul a b) errChargeOverflow := by
  unfold checkedMul
  split
  · exact .ok _
  · split
    · exact .error
    · exact .ok _

theorem checkedAdd_failsWith : FailsWith (checkedAdd a b) errChargeOverflow := by
  unfold checkedAdd
  split
  · exact .error
  · exact .ok _

end

section
variable {schedule : PriceSchedule} {cpu ram storage egress ingress : UInt64}

structure Charge.Exact (charge : Charge) (schedule : PriceSchedule)
    (cpu ram storage egress ingress : UInt64) : Prop where
  cpuAmount : charge.cpuAmount.toNat = cpu.toNat * schedule.cpuCoreSecond.toNat
  ramAmount : charge.ramAmount.toNat = ram.toNat * schedule.ramMBSecond.toNat
  storageAmount : charge.storageAmount.toNat = storage.toNat * schedule.storageGBSecond.toNat
  networkAmount : charge.networkAmount.toNat =
    (egress.toNat + ingress.toNat) * schedule.networkMB.toNat
  totalAmount : charge.totalAmount.toNat = charge.cpuAmount.toNat + charge.ramAmount.toNat +
    charge.storageAmount.toNat + charge.networkAmount.toNat

theorem computeCharge_failsWith :
    FailsWith (computeCharge schedule cpu ram storage egress ingress) errChargeOverflow :=
  checkedMul_failsWith.bind fun _ => checkedMul_failsWith.bind fun _ =>
    checkedMul_failsWith.bind fun _ => checkedAdd_failsWith.bind fun _ =>
    checkedMul_failsWith.bind fun _ => checkedAdd_failsWith.bind fun _ =>
    checkedAdd_failsWith.bind fun _ => checkedAdd_failsWith.bind fun _ => .ok _

theorem computeCharge_eq_ok :
    computeCharge schedule cpu ram storage egress ingress = .ok charge ↔
      egress.toNat + ingress.toNat < 2 ^ 64 ∧
      charge.Exact schedule cpu ram storage egress ingress := by
  simp only [computeCharge, bind_eq_ok, checkedMul_eq_ok, checkedAdd_eq_ok, Except.ok.injEq]
  constructor
  · rintro ⟨_, hcpu, _, hram, _, hstorage, networkMB, hsum, _, hnetwork, _, h1, _, h2, _, h3, rfl⟩
    rw [hsum] at hnetwork
    refine ⟨hsum ▸ networkMB.toNat_lt, hcpu, hram, hstorage, hnetwork, ?_⟩
    rw [h3, h2, h1]
  · rintro ⟨hnetwork, h⟩
    have htotal := h.totalAmount
    have hbound := charge.totalAmount.toNat_lt
    obtain ⟨networkMB, hsum⟩ := exists_toNat_eq hnetwork
    obtain ⟨first, hfirst⟩ : ∃ c : UInt64,
        c.toNat = charge.cpuAmount.toNat + charge.ramAmount.toNat := exists_toNat_eq (by omega)
    obtain ⟨second, hsecond⟩ : ∃ c : UInt64, c.toNat = first.toNat + charge.storageAmount.toNat :=
      exists_toNat_eq (by omega)
    exact ⟨_, h.cpuAmount, _, h.ramAmount, _, h.storageAmount, networkMB, hsum, _,
      by rw [hsum, h.networkAmount], first, hfirst, second, hsecond, _,
      by rw [hsecond, hfirst, htotal], rfl⟩

theorem exists_exact (h : cpu.toNat * schedule.cpuCoreSecond.toNat +
    ram.toNat * schedule.ramMBSecond.toNat + storage.toNat * schedule.storageGBSecond.toNat +
    (egress.toNat + ingress.toNat) * schedule.networkMB.toNat < 2 ^ 64) :
    ∃ charge : Charge, charge.Exact schedule cpu ram storage egress ingress := by
  obtain ⟨cpuAmount, hcpu⟩ : ∃ c : UInt64, c.toNat = cpu.toNat * schedule.cpuCoreSecond.toNat :=
    exists_toNat_eq (by omega)
  obtain ⟨ramAmount, hram⟩ : ∃ c : UInt64, c.toNat = ram.toNat * schedule.ramMBSecond.toNat :=
    exists_toNat_eq (by omega)
  obtain ⟨storageAmount, hstorage⟩ : ∃ c : UInt64,
      c.toNat = storage.toNat * schedule.storageGBSecond.toNat := exists_toNat_eq (by omega)
  obtain ⟨networkAmount, hnetwork⟩ : ∃ c : UInt64,
      c.toNat = (egress.toNat + ingress.toNat) * schedule.networkMB.toNat :=
    exists_toNat_eq (by omega)
  obtain ⟨total, htotal⟩ : ∃ c : UInt64, c.toNat = cpuAmount.toNat + ramAmount.toNat +
      storageAmount.toNat + networkAmount.toNat := exists_toNat_eq (by omega)
  exact ⟨⟨cpuAmount, ramAmount, storageAmount, networkAmount, total⟩, hcpu, hram, hstorage,
    hnetwork, htotal⟩

variable {price : Escrow.PriceSchedule} {x : Escrow.MeteringSummary}

theorem onChain_eq_ok :
    Escrow.computeCharge price x = .ok t ↔
      x.networkEgressMb + x.networkIngressMb < 2 ^ 64 ∧ cost price x < 2 ^ 64 ∧
        t = cost price x := by
  simp only [Escrow.computeCharge, bind_eq_ok, okOr_eq_ok, Option.bind_eq_some_iff,
    checkedMul_eq_some, Frame.checkedAdd_eq_some, maxValue]
  constructor
  · rintro ⟨_, ⟨_, rfl⟩, _, ⟨_, rfl⟩, _, ⟨_, rfl⟩, _, ⟨hnetwork, rfl⟩, _, ⟨_, rfl⟩, _,
      ⟨_, ⟨_, rfl⟩, _, rfl⟩, hmax, rfl⟩
    exact ⟨by omega, by unfold cost; omega, rfl⟩
  · rintro ⟨hnetwork, hcost, rfl⟩
    unfold cost at hcost ⊢
    exact ⟨_, ⟨by omega, rfl⟩, _, ⟨by omega, rfl⟩, _, ⟨by omega, rfl⟩, _, ⟨by omega, rfl⟩, _,
      ⟨by omega, rfl⟩, _, ⟨_, ⟨by omega, rfl⟩, by omega, rfl⟩, by omega, rfl⟩

theorem onChain_failsWith :
    FailsWith (Escrow.computeCharge price x) (.escrow .arithmeticOverflow) :=
  .bind .okOr fun _ => .bind .okOr fun _ => .bind .okOr fun _ => .bind .okOr fun _ =>
    .bind .okOr fun _ => .okOr

end

/-- The ledger and the escrow charge the same for the same usage. -/
theorem billing_agrees (schedule : PriceSchedule) (summary : MeteringSummary) (leaseId : LeaseId)
    (signature : ByteVec 64) :
    let charged := computeCharge schedule summary.cpuCoreSeconds summary.ramMbSeconds
      summary.storageGbSeconds summary.networkEgressMb summary.networkIngressMb
    let onChain := Escrow.computeCharge schedule.onChain (presented leaseId summary signature)
    (∀ t : Nat, (∃ charge, charged = .ok charge ∧ charge.totalAmount.toNat = t) ↔
      onChain = .ok t) ∧
    (∀ charge, charged = .ok charge → charge.Exact schedule summary.cpuCoreSeconds
      summary.ramMbSeconds summary.storageGbSeconds summary.networkEgressMb
      summary.networkIngressMb) ∧
    (charged = .error errChargeOverflow ↔ onChain = .error (.escrow .arithmeticOverflow)) ∧
    (∀ e, charged = .error e → e = errChargeOverflow) ∧
    (∀ e, onChain = .error e → e = .escrow .arithmeticOverflow) ∧
    signedBytes summary = Meter.meteringSignedBytes summary := by
  intro charged onChain
  have htotal : ∀ charge : Charge, charge.Exact schedule summary.cpuCoreSeconds
      summary.ramMbSeconds summary.storageGbSeconds summary.networkEgressMb
      summary.networkIngressMb →
      charge.totalAmount.toNat = cost schedule.onChain (presented leaseId summary signature) := by
    intro charge h
    rw [h.totalAmount, h.cpuAmount, h.ramAmount, h.storageAmount, h.networkAmount]
    rfl
  have hsame : ∀ t : Nat, (∃ charge, charged = .ok charge ∧ charge.totalAmount.toNat = t) ↔
      onChain = .ok t := by
    intro t
    rw [onChain_eq_ok]
    constructor
    · rintro ⟨charge, hcharge, rfl⟩
      obtain ⟨hnetwork, h⟩ := computeCharge_eq_ok.1 hcharge
      exact ⟨hnetwork, htotal charge h ▸ charge.totalAmount.toNat_lt, htotal charge h⟩
    · rintro ⟨hnetwork, hcost, rfl⟩
      obtain ⟨charge, h⟩ := exists_exact hcost
      exact ⟨charge, computeCharge_eq_ok.2 ⟨hnetwork, h⟩, htotal charge h⟩
  refine ⟨hsame, ?_, ?_, computeCharge_failsWith, onChain_failsWith,
    signedBytes_eq_meteringSignedBytes summary⟩
  · intro charge hcharge
    exact (computeCharge_eq_ok.1 hcharge).2
  · rw [computeCharge_failsWith.eq_error_iff, onChain_failsWith.eq_error_iff]
    apply not_congr
    constructor
    · rintro ⟨charge, hcharge⟩
      exact ⟨_, (hsame _).1 ⟨charge, hcharge, rfl⟩⟩
    · rintro ⟨t, ht⟩
      obtain ⟨charge, hcharge, _⟩ := (hsame t).2 ht
      exact ⟨charge, hcharge⟩

section
variable {A Ledger : Type} [LinearOrder A] {E : OpenInfra.Env A Ledger}
  {s : Chain E} {escrow : Escrow.EscrowRecord A} {key : ByteVec 32}
  {signature : ByteVec 64}

/-- The signature verifies for these bytes and no others. -/
def SignatureOf (host : Host A) (key : ByteVec 32)
    (signature : ByteVec 64) (signed : Bytes) : Prop :=
  ∀ message, host.ed25519Verify signature message key ↔ message = signed

theorem meteringSigningPayload_length (x : Escrow.MeteringSummary) :
    (meteringSigningPayload x).length = 74 := by
  simp only [meteringSigningPayload, length_append, length_toLeBytes]

theorem meteringSignedBytes_ne (summary : MeteringSummary) (x : Escrow.MeteringSummary) :
    Meter.meteringSignedBytes summary ≠ meteringSigningPayload x := by
  intro h
  have hlength := congrArg length h
  have hdomain : Meter.meteringDomain.length = 22 := by decide +kernel
  simp only [meteringSigningPayload_length, Meter.meteringSignedBytes, flatten_cons,
    flatten_nil, length_append, bigEndian_length, hdomain] at hlength
  omega

theorem verifyAndCharge_invalidSignature
    (hkey : publicKey s escrow.provider = some key)
    (hschema : x.meteringSchemaVersion = escrow.meteringSchemaVersion)
    (hsigned : SignatureOf E.host key x.signature signed) :
    verifyAndCharge s escrow x = .error (.escrow .invalidSignature) ↔
      signed ≠ meteringSigningPayload x := by
  unfold verifyAndCharge
  rw [ensure_bind hschema, okOr_bind hkey, bind_eq_error_iff, ensure_eq_error, hsigned]
  · exact ⟨fun h => Ne.symm h.1, fun h => ⟨Ne.symm h, rfl⟩⟩
  · intro _
    refine bind_ne_error (ensure_ne_error nofun) fun _ _ => ?_
    refine bind_ne_error (ensure_ne_error nofun) fun _ _ => ?_
    refine bind_ne_error (ensure_ne_error nofun) fun _ _ => ?_
    refine bind_ne_error (ensure_ne_error nofun) fun _ _ => ?_
    exact onChain_failsWith.ne_error nofun

/-- Evidence settles exactly if the key has signed the payload of the pallet. -/
theorem evidence_settles_iff (summary : MeteringSummary) (leaseId : LeaseId)
    (hkey : publicKey s escrow.provider = some key)
    (hschema : summary.meteringSchemaVersion.toNat = escrow.meteringSchemaVersion)
    (hsigned : SignatureOf E.host key signature signed) :
    (verifyAndCharge s escrow (presented leaseId summary signature) ≠
      .error (.escrow .invalidSignature) ↔
      signed = meteringSigningPayload (presented leaseId summary signature)) ∧
    (signed = Meter.meteringSignedBytes summary →
      verifyAndCharge s escrow (presented leaseId summary signature) =
        .error (.escrow .invalidSignature)) := by
  have hinvalid := verifyAndCharge_invalidSignature (x := presented leaseId summary signature)
    hkey hschema hsigned
  constructor
  · rw [ne_eq, hinvalid, ne_eq, not_not]
  · rintro rfl
    exact hinvalid.2 (meteringSignedBytes_ne summary _)

end

def leasedMeter : Meter := ⟨fun _ => some "5", fun _ => none, fun _ => replicate 64 1⟩

def leasedSummary : MeteringSummary := ⟨uuidText 7, "5", 1, 1000, 1000, 1, 0, 0, 0, 0, 0, 0⟩

def leasedResponse : GetUsageSummaryResponse := ⟨some leasedSummary, replicate 64 1⟩

def leasedLibrary : Library :=
  { sampleLibrary with
      verify := fun _ message _ => message = signedBytes leasedSummary
      parseInt := fun text => if text = "5" then some 5 else none }

def leasedHost : Host Nat :=
  { Host.constant with ed25519Verify := fun _ message _ => message = signedBytes leasedSummary }

def leasedChain : Chain (Env.runtime leasedHost) :=
  run OpenInfra.step (genesis _ ⟨fun _ => 10 ^ 12, fun _ => 0⟩)
    (Escrow.marketRun ++ Escrow.openLease 5)

def leasedEnv (now : ControlPlane.Time) (uuid : Nat) : Env :=
  { sampleEnv now uuid with publicKey := .ok (replicate 32 9) }

theorem leasedChain_escrow :
    ∃ e, leasedChain.escrow.escrows.lookup 5 = some e ∧ e.meteringSchemaVersion = 1 ∧
      publicKey leasedChain e.provider = some (List.Vector.replicate 32 9) := by
  have hsome : (leasedChain.escrow.escrows.lookup 5).isSome := by decide +kernel
  have hrecord : ∀ e ∈ leasedChain.escrow.escrows.lookup 5, e.meteringSchemaVersion = 1 ∧
      publicKey leasedChain e.provider = some (List.Vector.replicate 32 9) := by decide +kernel
  obtain ⟨e, he⟩ := Option.isSome_iff_exists.1 hsome
  exact ⟨e, he, hrecord e he⟩

theorem leasedHost_signatureOf :
    SignatureOf leasedHost (List.Vector.replicate 32 9) (List.Vector.replicate 64 1)
      (signedBytes leasedSummary) := by
  intro message
  exact decide_eq_true_iff

theorem evidence_settles_iff_leased :
    ∃ e, leasedChain.escrow.escrows.lookup 5 = some e ∧
      verifyAndCharge leasedChain e (presented 5 leasedSummary (List.Vector.replicate 64 1)) =
        .error (.escrow .invalidSignature) := by
  obtain ⟨e, he, hschema, hkey⟩ := leasedChain_escrow
  have hiff := evidence_settles_iff leasedSummary 5 hkey hschema.symm leasedHost_signatureOf
  exact ⟨e, he, hiff.2 (signedBytes_eq_meteringSignedBytes leasedSummary)⟩

theorem accepted_evidence_unsettled :
    (leasedMeter.getUsageSummary (uuidText 7) 1000000).toOption.map (·.1) = some leasedResponse ∧
    (run (step leasedLibrary) State.init (.recordUsage "provider" (some leasedResponse) ::
      (range 12).map fun uuid => .proceed 0 (leasedEnv 1000000 uuid))).tasks.map
        (·.2.result) = [some (.ok ⟨.accepted, some 7, some 9, 0⟩)] ∧
    (leasedChain.escrow.escrows.lookup 5).map (fun e => publicKey leasedChain e.provider) =
      some (some (List.Vector.replicate 32 9)) ∧
    (leasedChain.escrow.escrows.lookup 5).map (fun e => failure (verifyAndCharge leasedChain e
      (presented 5 leasedSummary (List.Vector.replicate 64 1)))) =
      some (some (.escrow .invalidSignature)) :=
  ⟨by decide +kernel, by decide +kernel, by decide +kernel, by decide +kernel⟩

end OpenInfra.Metering
