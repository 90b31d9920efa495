import OpenInfra.Agent.Redeploy
import OpenInfra.ControlPlane.Worker
import OpenInfra.Frame.Addresses

namespace OpenInfra.Agent
open Frame
open OpenInfra.Agent.Host (Holds)
open ControlPlane (dockerVolumeName)

namespace Wire

structure SecurityGroupRule where
  direction : String
  protocol : String
  portRangeMin : Int32
  portRangeMax : Int32
  remoteIpPrefix : String
  deriving DecidableEq

structure ResourceLimits where
  cpuCores : UInt32
  memoryMb : Int64
  egressMbps : Int32
  deriving DecidableEq

structure VolumeAttachment where
  volumeId : String
  mountPath : String
  readOnly : Bool
  deriving DecidableEq

structure DeployRequest where
  workloadId : String
  leaseId : String
  image : String
  limits : Option ResourceLimits
  leaseEnd : Option Int64
  volumes : List VolumeAttachment
  securityContext : Option (List SecurityGroupRule)
  deriving DecidableEq

end Wire

structure VolumeMount where
  volumeName : String
  mountPath : String
  readOnly : Bool
  deriving DecidableEq

structure ContainerSpec where
  name : String
  image : String
  labels : List (String × String)
  memoryBytes : Int
  nanoCpus : Int
  pidsLimit : Int64
  egressMbps : Int32
  volumeMounts : List VolumeMount
  securityGroupRules : Option (List SecurityGroupRule)
  deriving DecidableEq

/-- What the executor takes from libraries, and the ids of workloads. -/
structure Library where
  isUuid : String → Bool
  isIpv6 : List Char → Bool
  debug : String → String
  sha256 : List UInt8 → BitVec 256
  nanoCpus : UInt32 → Int
  key : String → WorkloadId
  uuid_text : ∀ text, isUuid text → 0 ∉ utf8 text
  ipv6_text : ∀ text, isIpv6 text → ∀ c ∈ text, isHexDigit c ∨ c = ':' ∨ c = '.'

def PositiveFinite (bits : UInt32) : Prop := 0 < bits.toNat ∧ bits.toNat < 0x7F800000

instance (bits : UInt32) : Decidable (PositiveFinite bits) := inferInstanceAs (Decidable (_ ∧ _))

structure ExecutorSettings where
  maxWorkloads : Nat
  maxCpuCores : UInt32
  maxMemoryMb : Int64
  pidsLimit : Int64
  maxEgressMbps : Int32
  workloads_pos : 0 < maxWorkloads
  cpu_pos : PositiveFinite maxCpuCores
  memory_pos : 0 < maxMemoryMb.toInt
  pids_pos : 0 < pidsLimit.toInt
  egress_pos : 0 < maxEgressMbps.toInt

inductive IpAddr where
  | v4 (address : Nat)
  | v6

def IpAddr.maxPrefixLen : IpAddr → Nat
  | .v4 _ => 32
  | .v6 => 128

def parseU64 (text : String) : Option Nat :=
  let digits := match text.toList with
    | '+' :: digits => digits
    | digits => digits
  (decimal digits).filter (· < 2 ^ 64)

def port (n : Int32) : Fin 65536 := Fin.ofNat 65536 n.toInt.toNat

def parsePorts (protocol : SecurityGroupProtocol) (min max : Int32) :
    Except ExecutorError (Option (Fin 65536) × Option (Fin 65536)) :=
  if protocol = .tcp ∨ protocol = .udp then do
    ensure (0 ≤ min.toInt ∧ min.toInt ≤ 65535 ∧ 0 ≤ max.toInt ∧ max.toInt ≤ 65535 ∧
        min.toInt ≤ max.toInt)
      (.invalidRequest ("security_context.rules[].port_range_min/max must be a valid, " ++
        "ordered 0-65535 range for tcp/udp"))
    .ok (some (port min), some (port max))
  else do
    ensure (min.toInt = -1 ∧ max.toInt = -1)
      (.invalidRequest ("security_context.rules[].port_range_min/max must be -1 " ++
        "(not applicable) for icmp/any"))
    .ok (none, none)

def MIB : Int := 1024 * 1024

def specBytes (leaseId image : String) (limits : Wire.ResourceLimits) : List UInt8 :=
  utf8 leaseId ++ 0 :: (utf8 image ++
    (bigEndian 4 limits.cpuCores.toNat ++ bigEndian 8 limits.memoryMb.toUInt64.toNat))

namespace Library
variable (lib : Library)

def ipAddr (text : List Char) : Option IpAddr :=
  match parseIpv4 text with
  | some address => some (.v4 address)
  | none => if lib.isIpv6 text then some .v6 else none

def isValidCidr (value : String) : Bool :=
  match splitOnce '/' value.toList with
  | none => false
  | some (address, prefixLen) =>
    match lib.ipAddr address, (decimal prefixLen).filter (· < 2 ^ 32) with
    | some address, some prefixLen => prefixLen ≤ address.maxPrefixLen
    | _, _ => false

def parseDirection (direction : String) : Except ExecutorError SecurityGroupDirection :=
  match direction with
  | "ingress" => .ok .ingress
  | "egress" => .ok .egress
  | other => .error (.invalidRequest ("security_context.rules[].direction " ++ lib.debug other ++
      " must be \"ingress\" or \"egress\""))

def parseProtocol (protocol : String) : Except ExecutorError SecurityGroupProtocol :=
  match protocol with
  | "tcp" => .ok .tcp
  | "udp" => .ok .udp
  | "icmp" => .ok .icmp
  | "any" => .ok .any
  | other => .error (.invalidRequest ("security_context.rules[].protocol " ++ lib.debug other ++
      " must be \"tcp\", \"udp\", \"icmp\", or \"any\""))

def parseSecurityGroupRule (rule : Wire.SecurityGroupRule) :
    Except ExecutorError SecurityGroupRule := do
  let direction ← lib.parseDirection rule.direction
  let protocol ← lib.parseProtocol rule.protocol
  let ports ← parsePorts protocol rule.portRangeMin rule.portRangeMax
  ensure (rule.remoteIpPrefix ≠ "" ∧ rule.remoteIpPrefix.utf8ByteSize ≤ 64)
    (.invalidRequest ("security_context.rules[].remote_ip_prefix must be a non-empty CIDR " ++
      "of at most 64 characters"))
  ensure (lib.isValidCidr rule.remoteIpPrefix)
    (.invalidRequest ("security_context.rules[].remote_ip_prefix must be a valid CIDR " ++
      "(address/prefix_len)"))
  .ok {
    direction
    protocol
    portRangeMin := ports.1
    portRangeMax := ports.2
    remoteIpPrefix := rule.remoteIpPrefix }

/-- The mounts of the volumes, where `paths` are taken. -/
def volumeMounts :
    List Wire.VolumeAttachment → List String → Except ExecutorError (List VolumeMount)
  | [], _ => .ok []
  | attachment :: attachments, paths => do
    ensure (lib.isUuid attachment.volumeId) (.invalidRequest "volumes[].volume_id must be a UUID")
    ensure (attachment.mountPath ≠ "" ∧ attachment.mountPath.utf8ByteSize ≤ 255 ∧
        attachment.mountPath.toList.head? = some '/')
      (.invalidRequest "volumes[].mount_path must be a non-empty absolute path")
    ensure (attachment.mountPath ∉ paths)
      (.invalidRequest "volumes[] must not mount two volumes at the same path")
    let mounts ← volumeMounts attachments (attachment.mountPath :: paths)
    .ok (⟨dockerVolumeName attachment.volumeId, attachment.mountPath, attachment.readOnly⟩ ::
      mounts)

def specHash (leaseId image : String) (limits : Wire.ResourceLimits) : BitVec 256 :=
  lib.sha256 (specBytes leaseId image limits)

def labels (request : Wire.DeployRequest) (specHash : BitVec 256) : List (String × String) := [
  ("openinfra.managed", "true"),
  ("openinfra.workload_id", request.workloadId),
  ("openinfra.lease_id", request.leaseId),
  ("openinfra.spec_hash", hexEncode (bigEndian 32 specHash.toNat))]

def deployment (settings : ExecutorSettings) (request : Wire.DeployRequest) :
    Except ExecutorError (Deployment × ContainerSpec) := do
  ensure (lib.isUuid request.workloadId) (.invalidRequest "workload_id must be a UUID")
  ensure (lib.isUuid request.leaseId ∨ ∃ id ∈ parseU64 request.leaseId, 0 < id)
    (.invalidRequest "lease_id must be a positive on-chain integer or legacy UUID")
  ensure (request.image ≠ "" ∧ request.image.utf8ByteSize ≤ 255 ∧
      request.image.toList.all (!isWhitespace ·) ∧ ¬ [':', '/', '/'] <:+: request.image.toList)
    (.invalidRequest
      "image must be a non-empty Docker reference without whitespace or URL scheme")
  let limits ← okOr request.limits (.invalidRequest "resource limits are required")
  ensure (PositiveFinite limits.cpuCores ∧ limits.cpuCores.toNat ≤ settings.maxCpuCores.toNat)
    (.invalidRequest "cpu_cores must be positive, finite, and within policy")
  ensure (0 < limits.memoryMb.toInt ∧ limits.memoryMb.toInt ≤ settings.maxMemoryMb.toInt)
    (.invalidRequest "memory_mb must be positive and within policy")
  ensure (0 ≤ limits.egressMbps.toInt ∧ limits.egressMbps.toInt ≤ settings.maxEgressMbps.toInt)
    (.invalidRequest "egress_mbps must not be negative and must be within policy")
  let leaseEnd ← okOr request.leaseEnd (.invalidRequest "lease_end is required")
  ensure (0 < leaseEnd.toInt) (.invalidRequest "lease_end must be a positive timestamp")
  ensure (limits.memoryMb.toInt * MIB < 2 ^ 63) (.invalidRequest "memory limit overflows bytes")
  ensure (lib.nanoCpus limits.cpuCores ≤ 2 ^ 63) (.invalidRequest "CPU limit overflows NanoCPUs")
  let mounts ← lib.volumeMounts request.volumes []
  let rules ← request.securityContext.mapM fun rules => rules.mapM lib.parseSecurityGroupRule
  let specHash := lib.specHash request.leaseId request.image limits
  .ok ({
    workloadId := lib.key request.workloadId
    specHash
    egressMbps := limits.egressMbps.toInt.toNat
    leaseEnd := leaseEnd.toInt
    volumeMounts := mounts.map (·.volumeName)
    securityGroupRules := rules }, {
    name := "openinfra-" ++ request.workloadId
    image := request.image
    labels := labels request specHash
    memoryBytes := limits.memoryMb.toInt * MIB
    nanoCpus := min (lib.nanoCpus limits.cpuCores) (2 ^ 63 - 1)
    pidsLimit := settings.pidsLimit
    egressMbps := limits.egressMbps
    volumeMounts := mounts
    securityGroupRules := rules })

def deploy (settings : ExecutorSettings) (request : Wire.DeployRequest) (o : DeployOutcomes) :
    Executor Nat := fun h =>
  match lib.deployment settings request with
  | .error e => (.error e, h)
  | .ok (d, _) => Agent.deploy settings.maxWorkloads d o h

end Library

theorem parseU64_text (h : parseU64 text = some n) : 0 ∉ utf8 text := by
  have hdigit {c : Char} (hc : c.isDigit) : 0 < c.toNat ∧ c.toNat < 128 := by
    obtain ⟨hlo, hhi⟩ := Char.isDigit_iff_toNat.1 hc
    exact ⟨lt_of_lt_of_le (by decide) hlo, lt_of_le_of_lt hhi (by decide)⟩
  have hall : text.toList.all fun c => 0 < c.toNat ∧ c.toNat < 128 := by
    rw [List.all_eq_true]
    intro c hc
    apply decide_eq_true
    obtain ⟨hdecimal, _⟩ := Option.filter_eq_some_iff.1 h
    split at hdecimal
    · rename_i digits heq
      rw [heq, List.mem_cons] at hc
      obtain rfl | hc := hc
      · decide
      · exact hdigit (isDigit_of_decimal hdecimal hc)
    · exact hdigit (isDigit_of_decimal hdecimal hc)
  intro hzero
  have hpos := (Ascii.of_string text hall 0 hzero).1
  exact absurd hpos (by decide)

section
variable {lib : Library} {settings : ExecutorSettings} {request : Wire.DeployRequest}
  {limits limits' : Wire.ResourceLimits}

theorem Library.isValidCidr_iff : lib.isValidCidr text ↔
    ∃ address len a n, splitOnce '/' text.toList = some (address, len) ∧
      lib.ipAddr address = some a ∧ decimal len = some n ∧ n ≤ a.maxPrefixLen := by
  have hmax (a : IpAddr) : a.maxPrefixLen < 2 ^ 32 := by
    cases a with
    | v4 address => exact (by decide : 32 < 2 ^ 32)
    | v6 => decide
  unfold isValidCidr
  constructor
  · intro h
    split at h
    · cases h
    · rename_i address len hsplit
      split at h
      · rename_i a n ha hn
        exact ⟨address, len, a, n, hsplit, ha, (Option.filter_eq_some_iff.1 hn).1,
          of_decide_eq_true h⟩
      · cases h
  · rintro ⟨address, len, a, n, hsplit, ha, hn, hle⟩
    have hfits : decide (n < 2 ^ 32) = true := decide_eq_true (hle.trans_lt (hmax a))
    rw [hsplit]
    dsimp only
    rw [ha, hn, Option.filter_some, if_pos hfits]
    exact decide_eq_true hle

structure Library.Parses (lib : Library) (wire : Wire.SecurityGroupRule)
    (rule : SecurityGroupRule) : Prop where
  direction : lib.parseDirection wire.direction = .ok rule.direction
  protocol : lib.parseProtocol wire.protocol = .ok rule.protocol
  ports : parsePorts rule.protocol wire.portRangeMin wire.portRangeMax =
    .ok (rule.portRangeMin, rule.portRangeMax)
  remote : rule.remoteIpPrefix = wire.remoteIpPrefix
  size : wire.remoteIpPrefix ≠ "" ∧ wire.remoteIpPrefix.utf8ByteSize ≤ 64
  valid : lib.isValidCidr wire.remoteIpPrefix

theorem Library.parseSecurityGroupRule_iff :
    lib.parseSecurityGroupRule wire = .ok rule ↔ lib.Parses wire rule := by
  unfold parseSecurityGroupRule
  constructor
  · intro h
    obtain ⟨direction, hdirection, h⟩ := bind_eq_ok.1 h
    obtain ⟨protocol, hprotocol, h⟩ := bind_eq_ok.1 h
    obtain ⟨ports, hports, h⟩ := bind_eq_ok.1 h
    obtain ⟨_, hsize, h⟩ := bind_eq_ok.1 h
    obtain ⟨_, hvalid, h⟩ := bind_eq_ok.1 h
    cases h
    exact ⟨hdirection, hprotocol, hports, rfl, ensure_eq_ok.1 hsize, ensure_eq_ok.1 hvalid⟩
  · intro h
    rw [bind_of_ok h.direction, bind_of_ok h.protocol, bind_of_ok h.ports, ensure_bind h.size,
      ensure_bind h.valid, ← h.remote]

theorem parsePorts_ok {protocol : SecurityGroupProtocol} {min max : Int32}
    (h : parsePorts protocol min max = .ok ports) :
    (protocol = .tcp ∨ protocol = .udp) ∧ ports = (some (port min), some (port max)) ∨
      (protocol = .icmp ∨ protocol = .any) ∧ ports = (none, none) := by
  unfold parsePorts at h
  split at h
  · rename_i hprotocol
    obtain ⟨_, _, h⟩ := bind_eq_ok.1 h
    cases h
    exact .inl ⟨hprotocol, rfl⟩
  · rename_i hprotocol
    obtain ⟨_, _, h⟩ := bind_eq_ok.1 h
    cases h
    refine .inr ⟨?_, rfl⟩
    cases protocol with
    | tcp => exact absurd (.inl rfl) hprotocol
    | udp => exact absurd (.inr rfl) hprotocol
    | icmp => exact .inl rfl
    | any => exact .inr rfl

theorem specBytes_inj (hl : 0 ∉ utf8 leaseId) (hl' : 0 ∉ utf8 leaseId') :
    specBytes leaseId image limits = specBytes leaseId' image' limits' ↔
      leaseId = leaseId' ∧ image = image' ∧ limits.cpuCores = limits'.cpuCores ∧
        limits.memoryMb = limits'.memoryMb := by
  constructor
  · intro h
    obtain ⟨hlease, h⟩ := separated_inj hl hl' h
    obtain ⟨himage, h⟩ := List.append_inj' h (by simp)
    obtain ⟨hcpu, h⟩ := uint32_append_inj h
    exact ⟨utf8_injective hlease, utf8_injective himage, hcpu,
      congrArg UInt64.toInt64 (uint64_inj h)⟩
  · rintro ⟨rfl, rfl, hcpu, hmemory⟩
    unfold specBytes
    rw [hcpu, hmemory]

structure Library.Accepted (lib : Library)
    (request : Wire.DeployRequest) (d : Deployment) (limits : Wire.ResourceLimits) : Prop where
  limited : request.limits = some limits
  leaseText : 0 ∉ utf8 request.leaseId
  workloadId : d.workloadId = lib.key request.workloadId
  spec : d.specHash = lib.specHash request.leaseId request.image limits

theorem Library.deployment_ok (h : lib.deployment settings request = .ok (d, spec)) :
    ∃ limits, lib.Accepted request d limits := by
  unfold deployment at h
  obtain ⟨_, _, h⟩ := bind_eq_ok.1 h
  obtain ⟨_, hlease, h⟩ := bind_eq_ok.1 h
  obtain ⟨_, _, h⟩ := bind_eq_ok.1 h
  obtain ⟨limits, hlimits, h⟩ := bind_eq_ok.1 h
  iterate 3 obtain ⟨_, _, h⟩ := bind_eq_ok.1 h
  obtain ⟨leaseEnd, _, h⟩ := bind_eq_ok.1 h
  iterate 3 obtain ⟨_, _, h⟩ := bind_eq_ok.1 h
  obtain ⟨mounts, _, h⟩ := bind_eq_ok.1 h
  obtain ⟨rules, _, h⟩ := bind_eq_ok.1 h
  cases h
  refine ⟨limits, okOr_eq_ok.1 hlimits, ?_, rfl, rfl⟩
  obtain huuid | ⟨id, hid, _⟩ := ensure_eq_ok.1 hlease
  · exact lib.uuid_text _ huuid
  · exact parseU64_text hid

theorem Library.deploy_eq (h : lib.deployment settings request = .ok (d, spec)) :
    lib.deploy settings request = Agent.deploy settings.maxWorkloads d := by
  funext o host
  unfold deploy
  rw [h]

theorem deploy_empty_done (hmax : 0 < maxWorkloads) (d : Deployment) :
    ∃ c h s, Agent.deploy maxWorkloads d .done .empty = (.ok c, h) ∧
      h.slot d.workloadId = some s ∧ s.Serving c := by
  have hslot : (Host.empty.reserve d.workloadId d.candidate).slot d.workloadId =
      some ⟨d.candidate, .none⟩ := by
    rw [Host.slot_reserve, if_pos rfl]
    rfl
  have hreserve : Host.empty.state.reserveWorkload d.workloadId d.candidate maxWorkloads =
      .ok (Host.empty.state.put (d.workloadId, d.candidate), .new) := if_pos hmax
  obtain ⟨c, t, ht, hserving⟩ := deployAt_new_done (s := ⟨d.candidate, .none⟩) rfl
  refine ⟨c, (Host.empty.reserve d.workloadId d.candidate).setSlot d.workloadId t, t, ?_, ?_,
    hserving⟩
  · unfold Agent.deploy
    rw [hreserve]
    change onWorkload _ _ (Host.empty.reserve d.workloadId d.candidate) = _
    rw [onWorkload_some hslot, ht]
  · rw [Host.slot_setSlot, if_pos rfl]

def Wire.DeployRequest.SameSpec (a b : Wire.DeployRequest) : Prop :=
  a.leaseId = b.leaseId ∧ a.image = b.image ∧
    a.limits.map (·.cpuCores) = b.limits.map (·.cpuCores) ∧
    a.limits.map (·.memoryMb) = b.limits.map (·.memoryMb)

def Library.deployed (lib : Library) (settings : ExecutorSettings) (first : Wire.DeployRequest)
    (o : DeployOutcomes) (calls : List Call) (h : Host) : Host :=
  run (step settings.maxWorkloads) (lib.deploy settings first o h).2 calls

section
variable {first second : Wire.DeployRequest} {d d' : Deployment}

theorem Library.Accepted.specHash_eq_iff (h : lib.Accepted first d limits)
    (h' : lib.Accepted second d' limits') (hsha : lib.specHash first.leaseId first.image limits =
      lib.specHash second.leaseId second.image limits' →
      specBytes first.leaseId first.image limits = specBytes second.leaseId second.image limits') :
    d.specHash = d'.specHash ↔ first.SameSpec second := by
  rw [h.spec, h'.spec]
  have hbytes : specBytes first.leaseId first.image limits =
      specBytes second.leaseId second.image limits' ↔ _ := specBytes_inj h.leaseText h'.leaseText
  unfold Wire.DeployRequest.SameSpec
  rw [h.limited, h'.limited]
  simp only [Option.map_some, Option.some.injEq]
  constructor
  · intro heq
    exact hbytes.1 (hsha heq)
  · intro hsame
    unfold Library.specHash
    rw [hbytes.2 hsame]

section
variable (hd : lib.deployment settings first = .ok (d, spec))
include hd

theorem Library.deployed_spec
    (hok : (lib.deploy settings first o h).1 = .ok c) (calls : List Call) :
    Holds d.workloadId (Slot.Says fun r => r.specHash = d.specHash)
      (lib.deployed settings first o calls h) := by
  have hsteady : Steady fun r => r.specHash = d.specHash :=
    ⟨fun _ _ => id, fun _ _ => id, fun _ _ => id, fun _ _ => id⟩
  apply hsteady.run
  rw [Library.deploy_eq hd] at hok ⊢
  obtain ⟨s, hs, hdeployed⟩ := deploy_deployed (Prod.ext hok rfl)
  exact ⟨s, hs, hdeployed.spec⟩

theorem Library.deploy_refused
    (hd' : lib.deployment settings second = .ok (d', spec')) (hid : d.workloadId = d'.workloadId)
    (hne : d.specHash ≠ d'.specHash) (hok : (lib.deploy settings first o h).1 = .ok c)
    (calls : List Call) (o' : DeployOutcomes) :
    lib.deploy settings second o' (lib.deployed settings first o calls h) =
      (.error (.state (.workloadConflict d'.workloadId)),
        lib.deployed settings first o calls h) := by
  obtain ⟨s, hs, hspec⟩ := Library.deployed_spec hd hok calls
  rw [Library.deploy_eq hd']
  rw [hid] at hs
  refine deploy_conflict hs ?_
  rw [show s.record.specHash = d.specHash from hspec]
  exact hne

theorem Library.deploy_again
    (hd' : lib.deployment settings second = .ok (d', spec')) (hid : d.workloadId = d'.workloadId)
    (heq : d.specHash = d'.specHash) :
    ∃ c, (lib.deploy settings first .done .empty).1 = .ok c ∧
      (lib.deploy settings second .done (lib.deployed settings first .done [] .empty)).1 =
        .ok c := by
  obtain ⟨c, h, s, hok, hs, hserving⟩ := deploy_empty_done settings.workloads_pos d
  have hspec := deploy_deployed hok
  obtain ⟨x, hx, hrun⟩ := hserving.on
  obtain ⟨t, ht, _⟩ := deployAt_done (.inl hrun) hserving.recorded hx
  refine ⟨c, by rw [Library.deploy_eq hd, hok], ?_⟩
  obtain ⟨s', hs', hspec⟩ := hspec
  rw [hs] at hs'
  cases hs'
  rw [Library.deployed, Library.deploy_eq hd, Library.deploy_eq hd', hok, run_nil,
    deploy_existing (hid ▸ hs) (hspec.spec.trans heq), ht]

end

/-- Refused exactly if lease, image, CPU or memory differ. -/
theorem redeploy_refused_iff (lib : Library) (settings : ExecutorSettings)
    (first second : Wire.DeployRequest) (hfirst : (lib.deployment settings first).isOk)
    (hsecond : (lib.deployment settings second).isOk) (hid : first.workloadId = second.workloadId)
    (hsha : ∀ l ∈ first.limits, ∀ l' ∈ second.limits,
      lib.specHash first.leaseId first.image l = lib.specHash second.leaseId second.image l' →
        specBytes first.leaseId first.image l = specBytes second.leaseId second.image l') :
    ((∀ h o calls o', (lib.deploy settings first o h).1.isOk →
        ¬ (lib.deploy settings second o' (lib.deployed settings first o calls h)).1.isOk) ↔
      ¬ first.SameSpec second) ∧
    (¬ first.SameSpec second → ∀ h o calls o', (lib.deploy settings first o h).1.isOk →
      lib.deploy settings second o' (lib.deployed settings first o calls h) =
        (.error (.state (.workloadConflict (lib.key second.workloadId))),
          lib.deployed settings first o calls h)) := by
  obtain ⟨⟨d, spec⟩, hd⟩ := isOk_iff.1 hfirst
  obtain ⟨⟨d', spec'⟩, hd'⟩ := isOk_iff.1 hsecond
  obtain ⟨limits, hacc⟩ := Library.deployment_ok hd
  obtain ⟨limits', hacc'⟩ := Library.deployment_ok hd'
  have hsame := hacc.specHash_eq_iff hacc' (hsha limits hacc.limited limits' hacc'.limited)
  have hkey : d.workloadId = d'.workloadId := by
    rw [hacc.workloadId, hacc'.workloadId, hid]
  have hrefused (hne : ¬ first.SameSpec second) (h : Host) (o : DeployOutcomes)
      (calls : List Call) (o' : DeployOutcomes) (hok : (lib.deploy settings first o h).1.isOk) :
      lib.deploy settings second o' (lib.deployed settings first o calls h) =
        (.error (.state (.workloadConflict (lib.key second.workloadId))),
          lib.deployed settings first o calls h) := by
    obtain ⟨c, hc⟩ := isOk_iff.1 hok
    rw [← hacc'.workloadId]
    exact Library.deploy_refused hd hd' hkey (fun heq => hne (hsame.1 heq)) hc calls o'
  refine ⟨⟨fun hnever heq => ?_, fun hne h o calls o' hok hok' => ?_⟩, hrefused⟩
  · obtain ⟨c, hc, hc'⟩ := Library.deploy_again hd hd' hkey (hsame.2 heq)
    exact hnever .empty .done [] .done (isOk_iff.2 ⟨c, hc⟩) (isOk_iff.2 ⟨c, hc'⟩)
  · rw [hrefused hne h o calls o' hok] at hok'
    cases hok'

def sampleLibrary : Library where
  isUuid text := text = "0d9cbb26-58e4-4be5-8a7c-2f3f0e7c4b11"
  isIpv6 _ := false
  debug := id
  sha256 bytes := BitVec.ofNat 256 (fromBigEndian bytes)
  nanoCpus _ := 1000000000
  key _ := 0
  uuid_text := by
    intro text h
    rw [of_decide_eq_true h]
    decide +kernel
  ipv6_text := nofun

private def sampleSettings : ExecutorSettings where
  maxWorkloads := 2
  maxCpuCores := 0x40000000
  maxMemoryMb := 2048
  pidsLimit := 128
  maxEgressMbps := 100
  workloads_pos := by decide
  cpu_pos := by decide
  memory_pos := by decide
  pids_pos := by decide
  egress_pos := by decide

private def sampleRequest (leaseId : String) (rules : List Wire.SecurityGroupRule) :
    Wire.DeployRequest where
  workloadId := "0d9cbb26-58e4-4be5-8a7c-2f3f0e7c4b11"
  leaseId
  image := "nginx@sha256:1"
  limits := some ⟨0x3F800000, 512, 0⟩
  leaseEnd := some 1800000000
  volumes := []
  securityContext := some rules

theorem redeploy_refused_iff_leases :
    (∀ h o calls o', (sampleLibrary.deploy sampleSettings (sampleRequest "7" []) o h).1.isOk →
      ¬ (sampleLibrary.deploy sampleSettings (sampleRequest "8" []) o'
        (sampleLibrary.deployed sampleSettings (sampleRequest "7" []) o calls h)).1.isOk) ↔
      ¬ (sampleRequest "7" []).SameSpec (sampleRequest "8" []) :=
  (redeploy_refused_iff sampleLibrary sampleSettings (sampleRequest "7" []) (sampleRequest "8" [])
    (by decide +kernel) (by decide +kernel) rfl (by decide +kernel)).1

private def sampleRule : Wire.SecurityGroupRule := ⟨"ingress", "tcp", 443, 443, "10.0.0.0/8"⟩

theorem revoked_rule_stays :
    (sampleRequest "7" [sampleRule]).securityContext ≠ (sampleRequest "7" []).securityContext ∧
    (sampleLibrary.deployment sampleSettings (sampleRequest "7" [sampleRule])).isOk ∧
    (sampleLibrary.deployment sampleSettings (sampleRequest "7" [])).isOk ∧
    (sampleLibrary.deploy sampleSettings (sampleRequest "7" [sampleRule]) .done .empty).1 =
      .ok 0 ∧
    (sampleLibrary.deploy sampleSettings (sampleRequest "7" []) .done
      (sampleLibrary.deployed sampleSettings (sampleRequest "7" [sampleRule]) .done []
        .empty)).1 = .ok 0 ∧
    (((sampleLibrary.deploy sampleSettings (sampleRequest "7" []) .done
      (sampleLibrary.deployed sampleSettings (sampleRequest "7" [sampleRule]) .done []
        .empty)).2.slot 0).bind fun s => (s.container 0).bind (·.rules)) =
      some [⟨.ingress, .tcp, some 443, some 443, "10.0.0.0/8"⟩] := by
  decide +kernel

end

end

end OpenInfra.Agent
