import OpenInfra.Join.Messages
import OpenInfra.Metering.Evidence

namespace OpenInfra.Signatures
open Frame List
open Join (joinDomain heartbeatDomain renewDomain publicKeySize)
open Metering (MeteringSummary meteringDomain appendU32Prefixed signedBytes)

def challengeDomain : Bytes := utf8 "openinfra-availability-proof-v1\x00"

def bandwidthProbeDomain : Bytes := utf8 "openinfra-bandwidth-probe-v1\x00"

def signedChallengeBytes (challengeID : String) (challengeType : Int32) (result : Bytes) : Bytes :=
  challengeDomain ++ bigEndian 4 (utf8 challengeID).length ++ utf8 challengeID ++
    bigEndian 4 challengeType.toUInt32.toNat ++ result

def bandwidthSignedBytes (probeID : String) (uploadPayloadHash downloadPayload : Bytes)
    (serverProcessingMs : UInt32) : Bytes :=
  bandwidthProbeDomain ++ bigEndian 4 (utf8 probeID).length ++ utf8 probeID ++ uploadPayloadHash ++
    bigEndian 4 downloadPayload.length ++ downloadPayload ++ bigEndian 4 serverProcessingMs.toNat

@[ext] structure Timestamp where
  seconds : Int64
  nanos : Int32
  deriving DecidableEq

def renewalSigningPayload (newTLSPublicKey : Bytes) (currentCertificateSerial : String)
    (timestamp : Timestamp) (nonce : UInt64) : Bytes :=
  let serial := utf8 currentCertificateSerial
  renewDomain ++ newTLSPublicKey ++ [UInt8.ofNat serial.length] ++ serial ++
    bigEndian 8 timestamp.seconds.toUInt64.toNat ++ bigEndian 4 timestamp.nanos.toUInt32.toNat ++
    bigEndian 8 nonce.toNat

theorem bigEndian_uint32 (n : Nat) : bigEndian 4 (UInt32.ofNat n).toNat = bigEndian 4 n := by
  rw [bigEndian_eq_iff, UInt32.toNat_ofNat']
  exact Nat.mod_mod_of_dvd n (by norm_num)

/-- A field that its 32-bit length can count. -/
abbrev Counted (field : Bytes) : Prop := field.length < 2 ^ 32

@[ext] structure Renewal where
  newTLSPublicKey : Bytes
  currentCertificateSerial : String
  timestamp : Timestamp
  nonce : UInt64
  key_size : newTLSPublicKey.length = publicKeySize
  serial_short : (utf8 currentCertificateSerial).length ≤ 255

@[ext] structure Challenge where
  challengeID : String
  challengeType : Int32
  result : Bytes
  id_counted : Counted (utf8 challengeID)

@[ext] structure Bandwidth where
  probeID : String
  uploadPayloadHash : Bytes
  downloadPayload : Bytes
  serverProcessingMs : UInt32
  id_counted : Counted (utf8 probeID)
  hash_size : uploadPayloadHash.length = 32
  payload_counted : Counted downloadPayload

attribute [ext] MeteringSummary

@[ext] structure Usage where
  summary : MeteringSummary
  workload_counted : Counted (utf8 summary.workloadId)
  lease_counted : Counted (utf8 summary.leaseId)

inductive Protocol where
  | join
  | heartbeat
  | renewal
  | challenge
  | bandwidth
  | metering
  deriving DecidableEq

namespace Protocol

def Fields : Protocol → Type
  | .join | .heartbeat => Bytes
  | .renewal => Renewal
  | .challenge => Challenge
  | .bandwidth => Bandwidth
  | .metering => Usage

def domain : Protocol → Bytes
  | .join => joinDomain
  | .heartbeat => heartbeatDomain
  | .renewal => renewDomain
  | .challenge => challengeDomain
  | .bandwidth => bandwidthProbeDomain
  | .metering => meteringDomain

def signed : (p : Protocol) → p.Fields → Bytes
  | .join, (nonce : Bytes) => joinDomain ++ nonce
  | .heartbeat, (payload : Bytes) => heartbeatDomain ++ payload
  | .renewal, (r : Renewal) =>
    renewalSigningPayload r.newTLSPublicKey r.currentCertificateSerial r.timestamp r.nonce
  | .challenge, (c : Challenge) => signedChallengeBytes c.challengeID c.challengeType c.result
  | .bandwidth, (b : Bandwidth) =>
    bandwidthSignedBytes b.probeID b.uploadPayloadHash b.downloadPayload b.serverProcessingMs
  | .metering, (u : Usage) => signedBytes u.summary

theorem domain_prefix {p q : Protocol} (h : p.domain <+: q.domain) : p = q := by
  revert h
  cases p <;> cases q <;> decide +kernel

theorem domain_prefix_signed (p : Protocol) (fields : p.Fields) : p.domain <+: p.signed fields := by
  cases p with
  | join => exact prefix_append _ _
  | heartbeat => exact prefix_append _ _
  | renewal =>
    simp only [signed, renewalSigningPayload, append_assoc]
    exact prefix_append _ _
  | challenge =>
    simp only [signed, signedChallengeBytes, append_assoc]
    exact prefix_append _ _
  | bandwidth =>
    simp only [signed, bandwidthSignedBytes, append_assoc]
    exact prefix_append _ _
  | metering =>
    simp only [signed, signedBytes, append_assoc]
    exact prefix_append _ _

end Protocol

section
variable {s t : Bytes}

theorem short_append_inj {a b : String} (ha : (utf8 a).length ≤ 255) (hb : (utf8 b).length ≤ 255)
    (h : [UInt8.ofNat (utf8 a).length] ++ (utf8 a ++ s) =
      [UInt8.ofNat (utf8 b).length] ++ (utf8 b ++ t)) : a = b ∧ s = t := by
  obtain ⟨hbyte, h⟩ := append_inj h rfl
  have hlength : (utf8 a).length = (utf8 b).length := by
    rw [singleton_inj, ← UInt8.toNat_inj, UInt8.toNat_ofNat', UInt8.toNat_ofNat'] at hbyte
    omega
  exact (append_inj h hlength).imp_left fun h => utf8_injective h

theorem text_append_inj {a b : String} (ha : Counted (utf8 a)) (hb : Counted (utf8 b))
    (h : bigEndian 4 (utf8 a).length ++ (utf8 a ++ s) =
      bigEndian 4 (utf8 b).length ++ (utf8 b ++ t)) : a = b ∧ s = t :=
  (counted_append_inj ha hb h).imp_left fun h => utf8_injective h

end

theorem challenge_injective : Function.Injective Protocol.challenge.signed := by
  intro (c : Challenge) (d : Challenge) h
  simp only [Protocol.signed, signedChallengeBytes, append_assoc] at h
  obtain ⟨hid, h⟩ := text_append_inj c.id_counted d.id_counted (append_cancel_left h)
  obtain ⟨htype, hresult⟩ := uint32_append_inj h
  exact Challenge.ext hid (congrArg Int32.ofUInt32 htype) hresult

theorem bandwidth_injective : Function.Injective Protocol.bandwidth.signed := by
  intro (b : Bandwidth) (c : Bandwidth) h
  simp only [Protocol.signed, bandwidthSignedBytes, append_assoc] at h
  obtain ⟨hid, h⟩ := text_append_inj b.id_counted c.id_counted (append_cancel_left h)
  obtain ⟨hhash, h⟩ := append_inj h (b.hash_size.trans c.hash_size.symm)
  obtain ⟨hpayload, h⟩ := counted_append_inj b.payload_counted c.payload_counted h
  exact Bandwidth.ext hid hhash hpayload (uint32_inj h)

theorem renewal_injective : Function.Injective Protocol.renewal.signed := by
  intro (r : Renewal) (q : Renewal) h
  simp only [Protocol.signed, renewalSigningPayload, append_assoc] at h
  obtain ⟨hkey, h⟩ := append_inj (append_cancel_left h) (r.key_size.trans q.key_size.symm)
  obtain ⟨hserial, h⟩ := short_append_inj r.serial_short q.serial_short h
  obtain ⟨hseconds, h⟩ := uint64_append_inj h
  obtain ⟨hnanos, h⟩ := uint32_append_inj h
  exact Renewal.ext hkey hserial
    (Timestamp.ext (congrArg Int64.ofUInt64 hseconds) (congrArg Int32.ofUInt32 hnanos))
    (uint64_inj h)

theorem metering_injective : Function.Injective Protocol.metering.signed := by
  intro (u : Usage) (v : Usage) h
  simp only [Protocol.signed, signedBytes, appendU32Prefixed, append_assoc] at h
  obtain ⟨hworkload, h⟩ :=
    text_append_inj u.workload_counted v.workload_counted (append_cancel_left h)
  obtain ⟨hlease, h⟩ := text_append_inj u.lease_counted v.lease_counted h
  obtain ⟨hsequence, h⟩ := uint64_append_inj h
  obtain ⟨hstart, h⟩ := uint64_append_inj h
  obtain ⟨hend, h⟩ := uint64_append_inj h
  obtain ⟨hversion, h⟩ := uint32_append_inj h
  obtain ⟨hcpu, h⟩ := uint64_append_inj h
  obtain ⟨hram, h⟩ := uint64_append_inj h
  obtain ⟨hstorage, h⟩ := uint64_append_inj h
  obtain ⟨hegress, h⟩ := uint64_append_inj h
  obtain ⟨hingress, h⟩ := uint64_append_inj h
  exact Usage.ext (MeteringSummary.ext hworkload hlease hsequence hstart hend hversion hcpu hram
    hstorage hegress hingress (uint64_inj h))

/-- Signed bytes have one protocol, and one reading in it. -/
theorem signatures_separate :
    (Pairwise fun p q : Protocol => Disjoint (Set.range p.signed) (Set.range q.signed)) ∧
      ∀ p : Protocol, Function.Injective p.signed := by
  constructor
  · intro p q hpq
    rw [Set.disjoint_left]
    rintro _ ⟨f, rfl⟩ ⟨g, hg⟩
    have hp := p.domain_prefix_signed f
    have hq := q.domain_prefix_signed g
    rw [hg] at hq
    obtain h | h := prefix_or_prefix_of_prefix hp hq
    · exact hpq (Protocol.domain_prefix h)
    · exact hpq (Protocol.domain_prefix h).symm
  · intro p
    cases p with
    | join => exact append_right_injective _
    | heartbeat => exact append_right_injective _
    | renewal => exact renewal_injective
    | challenge => exact challenge_injective
    | bandwidth => exact bandwidth_injective
    | metering => exact metering_injective

private def sampleRenewal : Renewal where
  newTLSPublicKey := List.replicate 32 7
  currentCertificateSerial := "12"
  timestamp := ⟨1700000000, 5⟩
  nonce := 3
  key_size := rfl
  serial_short := by decide +kernel

private def sampleProbe (probeID : String) (h : Counted (utf8 probeID)) : Bandwidth where
  probeID := probeID
  uploadPayloadHash := List.replicate 32 1
  downloadPayload := [2, 3]
  serverProcessingMs := 4
  id_counted := h
  hash_size := rfl
  payload_counted := by decide +kernel

theorem signatures_separate_samples :
    Protocol.renewal.signed sampleRenewal ≠
        Protocol.bandwidth.signed (sampleProbe "a" (by decide +kernel)) ∧
      Protocol.bandwidth.signed (sampleProbe "a" (by decide +kernel)) ≠
        Protocol.bandwidth.signed (sampleProbe "ab" (by decide +kernel)) := by
  constructor
  · intro h
    have hdisjoint := signatures_separate.1 (show Protocol.renewal ≠ .bandwidth by decide)
    exact Set.disjoint_left.1 hdisjoint ⟨_, rfl⟩ ⟨_, h.symm⟩
  · intro h
    have hfields := signatures_separate.2 .bandwidth h
    exact absurd (congrArg Bandwidth.probeID hfields) (by decide)

end OpenInfra.Signatures
