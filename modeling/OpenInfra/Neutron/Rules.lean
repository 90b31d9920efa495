import OpenInfra.Agent.Firewall
import OpenInfra.Neutron.Fabric

namespace OpenInfra.Neutron
open Frame List
open Agent.Firewall (Ipv4Prefix parsePrefix Hook addRuleArgs chainName)

structure SecurityGroupRule where
  direction : String
  protocol : String
  portRangeMin : Option Int32
  portRangeMax : Option Int32
  remoteIPPrefix : String
  deriving DecidableEq

structure IPNet extends Ipv4Prefix where
  address_lt : address < 2 ^ 32
  length_le : length ≤ 32

namespace IPNet

def string (n : IPNet) : String := ipString n.address ++ "/" ++ toString n.length

def masked (p : Ipv4Prefix) (h : p.address < 2 ^ 32 ∧ p.length ≤ 32) : IPNet where
  address := p.address / 2 ^ (32 - p.length) * 2 ^ (32 - p.length)
  length := p.length
  address_lt := (Nat.div_mul_le_self ..).trans_lt h.1
  length_le := h.2

end IPNet

theorem parsePrefix_bounds (h : parsePrefix text = some p) :
    p.address < 2 ^ 32 ∧ p.length ≤ 32 := by
  unfold parsePrefix at h
  simp only [Option.bind_eq_bind, Option.bind_eq_some_iff] at h
  obtain ⟨_, _, ip, hip, len, _, h⟩ := h
  split at h
  · cases h
    exact ⟨(parseIpv4_eq_some hip).1, ‹_›⟩
  · cases h

/-- What the address parsers make of texts that are not in dotted form. -/
structure Mapped where
  isIPv4 : String → Bool
  network : String → Option IPNet

namespace Mapped
variable (net : Mapped)

def parseIPv4 (text : String) : Bool := (parseIpv4 text.toList).isSome || net.isIPv4 text

def parseCIDR (text : String) : Option IPNet :=
  match h : parsePrefix text with
  | some p => some (IPNet.masked p (parsePrefix_bounds h))
  | none => net.network text

end Mapped

def validatePorts (protocol : String) (portMin portMax : Option Int32) : Except String Unit :=
  if protocol ≠ "tcp" ∧ protocol ≠ "udp" then
    ensure (portMin = none ∧ portMax = none)
      "security_group_rule.port_range_min/max are only meaningful for tcp/udp"
  else
    match portMin, portMax with
    | some min, some max =>
      ensure (0 ≤ min.toInt ∧ min.toInt ≤ 65535 ∧ 0 ≤ max.toInt ∧ max.toInt ≤ 65535 ∧
          min.toInt ≤ max.toInt)
        "security_group_rule.port_range_min/max must be a valid, ordered 0-65535 range"
    | _, _ => .error
        "security_group_rule.port_range_min and port_range_max are both required for tcp/udp"

def Mapped.withMask (net : Mapped) (text : String) : String :=
  if '/' ∉ text.toList ∧ net.parseIPv4 text then text ++ "/32" else text

def validateSecurityGroupRule (net : Mapped) (direction protocol : String)
    (portMin portMax : Option Int32) (remoteIPPrefix : String) :
    Except String SecurityGroupRule := do
  ensure (direction = "ingress" ∨ direction = "egress")
    "security_group_rule.direction must be \"ingress\" or \"egress\""
  ensure (protocol = "tcp" ∨ protocol = "udp" ∨ protocol = "icmp" ∨ protocol = "any")
    "security_group_rule.protocol must be \"tcp\", \"udp\", \"icmp\", or \"any\""
  validatePorts protocol portMin portMax
  let text := trimSpace remoteIPPrefix
  ensure (text ≠ "") "security_group_rule.remote_ip_prefix is required"
  let parsed ← okOr (net.parseCIDR (net.withMask text))
    "security_group_rule.remote_ip_prefix must be a valid IPv4 CIDR or address"
  .ok ⟨direction, protocol, portMin, portMax, parsed.string⟩

def int32PtrOrSentinel (value : Option Int32) : Int32 := value.getD (-1)

def securityGroupRuleProtos (rules : List SecurityGroupRule) :
    List Agent.Wire.SecurityGroupRule :=
  rules.map fun rule => {
    direction := rule.direction
    protocol := rule.protocol
    portRangeMin := int32PtrOrSentinel rule.portRangeMin
    portRangeMax := int32PtrOrSentinel rule.portRangeMax
    remoteIpPrefix := rule.remoteIPPrefix }

section
variable {net : Mapped} {lib : Agent.Library} {n : IPNet}

theorem parseIpv4_ipString (h : ip < 2 ^ 32) : parseIpv4 (ipString ip).toList = some ip := by
  have hlt (k : Nat) : k % 256 < 256 := Nat.mod_lt _ (by decide)
  have htext : (ipString ip).toList = (toString (ip / 256 ^ 3 % 256)).toList ++ '.' ::
      ((toString (ip / 256 ^ 2 % 256)).toList ++ '.' ::
        ((toString (ip / 256 % 256)).toList ++ '.' :: (toString (ip % 256)).toList)) := by
    simp only [ipString, String.toList_append, append_assoc]
    rfl
  have hsum : ((ip / 256 ^ 3 % 256 * 256 + ip / 256 ^ 2 % 256) * 256 + ip / 256 % 256) * 256 +
      ip % 256 = ip := by omega
  rw [htext, parseIpv4_dotted (hlt _) (hlt _) (hlt _) (hlt _), hsum]

theorem slash_not_mem_ipString (h : ip < 2 ^ 32) : '/' ∉ (ipString ip).toList := by
  intro hslash
  obtain hdigit | hdot := (parseIpv4_eq_some (parseIpv4_ipString h)).2 '/' hslash
  · cases hdigit
  · cases hdot

theorem IPNet.string_toList (n : IPNet) :
    n.string.toList = (ipString n.address).toList ++ '/' :: (toString n.length).toList := by
  rw [IPNet.string, String.toList_append, String.toList_append, append_assoc]
  rfl

theorem IPNet.splitOnce_string (n : IPNet) : splitOnce '/' n.string.toList =
    some ((ipString n.address).toList, (toString n.length).toList) := by
  rw [n.string_toList, splitOnce_append (slash_not_mem_ipString n.address_lt)]

theorem IPNet.parsePrefix_string (n : IPNet) : parsePrefix n.string = some n.toIpv4Prefix := by
  unfold parsePrefix
  simp only [n.splitOnce_string, parseIpv4_ipString n.address_lt, decimal_toString,
    Option.bind_eq_bind, Option.bind_some]
  exact if_pos n.length_le

theorem IPNet.isValidCidr_string (n : IPNet) : lib.isValidCidr n.string := by
  refine Agent.Library.isValidCidr_iff.2 ⟨_, _, .v4 n.address, n.length, n.splitOnce_string, ?_,
    decimal_toString n.length, n.length_le⟩
  unfold Agent.Library.ipAddr
  rw [parseIpv4_ipString n.address_lt]

theorem utf8ByteSize_toString (h : k < 256) : (toString k).utf8ByteSize ≤ 3 :=
  (by decide +kernel : ∀ k < 256, (toString k).utf8ByteSize ≤ 3) k h

theorem IPNet.string_size (n : IPNet) : n.string ≠ "" ∧ n.string.utf8ByteSize ≤ 64 := by
  constructor
  · intro h
    have hlist := n.string_toList
    rw [h] at hlist
    exact append_ne_nil_of_right_ne_nil _ (cons_ne_nil _ _) hlist.symm
  · have hoctet (k : Nat) : (toString (k % 256)).utf8ByteSize ≤ 3 :=
      utf8ByteSize_toString (Nat.mod_lt _ (by decide))
    have hlength : (toString n.length).utf8ByteSize ≤ 3 :=
      utf8ByteSize_toString (n.length_le.trans_lt (by decide))
    have h₁ := hoctet (n.address / 256 ^ 3)
    have h₂ := hoctet (n.address / 256 ^ 2)
    have h₃ := hoctet (n.address / 256)
    have h₄ := hoctet n.address
    simp only [IPNet.string, ipString, String.utf8ByteSize_append]
    have hdot : ".".utf8ByteSize = 1 := rfl
    have hslash : "/".utf8ByteSize = 1 := rfl
    omega

theorem IPNet.masked_contains (p : Ipv4Prefix) (h : p.address < 2 ^ 32 ∧ p.length ≤ 32) (ip : Nat) :
    (IPNet.masked p h).contains ip = p.contains ip := by
  have hpos : 0 < 2 ^ (32 - p.length) := Nat.pow_pos (by decide)
  unfold Ipv4Prefix.contains IPNet.masked
  rw [Nat.mul_div_cancel _ hpos]

end

def directionName : Agent.SecurityGroupDirection → String
  | .ingress => "ingress"
  | .egress => "egress"

def protocolName : Agent.SecurityGroupProtocol → String
  | .tcp => "tcp"
  | .udp => "udp"
  | .icmp => "icmp"
  | .any => "any"

def Mapped.cidr (net : Mapped) (text : String) : Option Ipv4Prefix :=
  match parsePrefix text with
  | some p => some p
  | none => (net.network text).map (·.toIpv4Prefix)

def Mapped.Names (net : Mapped) (remoteIPPrefix : String) (ip : Nat) : Prop :=
  ∃ p ∈ net.cidr (net.withMask (trimSpace remoteIPPrefix)), p.contains ip

section
variable {net : Mapped} {lib : Agent.Library}

theorem Mapped.parseCIDR_contains (h : net.parseCIDR text = some n) (ip : Nat) :
    n.contains ip ↔ ∃ p ∈ net.cidr text, p.contains ip := by
  unfold Mapped.cidr
  unfold Mapped.parseCIDR at h
  split at h
  · rename_i p hp
    cases h
    rw [IPNet.masked_contains, hp]
    simp only [Option.mem_some_iff, exists_eq_left']
  · rename_i hp
    rw [hp, h]
    simp only [Option.map_some, Option.mem_some_iff, exists_eq_left']

theorem port_val (h : 0 ≤ n.toInt ∧ n.toInt ≤ 65535) : ((Agent.port n).val : Int) = n.toInt := by
  have hval : (Agent.port n).val = n.toInt.toNat % 65536 := rfl
  rw [hval]
  omega

theorem validatePorts_some (h : validatePorts protocol portMin portMax = .ok u)
    (hp : ¬ (protocol ≠ "tcp" ∧ protocol ≠ "udp")) :
    ∃ min max, portMin = some min ∧ portMax = some max ∧ 0 ≤ min.toInt ∧ min.toInt ≤ 65535 ∧
      0 ≤ max.toInt ∧ max.toInt ≤ 65535 ∧ min.toInt ≤ max.toInt := by
  unfold validatePorts at h
  rw [if_neg hp] at h
  cases portMin with
  | none => cases h
  | some min =>
    cases portMax with
    | none => cases h
    | some max => exact ⟨min, max, rfl, rfl, ensure_eq_ok.1 h⟩

theorem validatePorts_ok
    (h : validatePorts (protocolName protocol) portMin portMax = .ok u) :
    ∃ min max, Agent.parsePorts protocol (int32PtrOrSentinel portMin)
        (int32PtrOrSentinel portMax) = .ok (min, max) ∧
      min.map (fun p => (p.val : Int)) = portMin.map Int32.toInt ∧
      max.map (fun p => (p.val : Int)) = portMax.map Int32.toInt := by
  unfold Agent.parsePorts
  by_cases hp : protocol = .tcp ∨ protocol = .udp
  · have hname : ¬ (protocolName protocol ≠ "tcp" ∧ protocolName protocol ≠ "udp") := by
      obtain rfl | rfl := hp <;> decide
    obtain ⟨min, max, rfl, rfl, hrange⟩ := validatePorts_some h hname
    have ⟨hmin, hmin', hmax, hmax', _⟩ := hrange
    rw [if_pos hp]
    refine ⟨some (Agent.port min), some (Agent.port max), ensure_bind hrange, ?_, ?_⟩
    · exact congrArg some (port_val ⟨hmin, hmin'⟩)
    · exact congrArg some (port_val ⟨hmax, hmax'⟩)
  · have hname : protocolName protocol ≠ "tcp" ∧ protocolName protocol ≠ "udp" := by
      cases protocol with
      | tcp => exact absurd (.inl rfl) hp
      | udp => exact absurd (.inr rfl) hp
      | icmp => decide
      | any => decide
    unfold validatePorts at h
    rw [if_pos hname] at h
    obtain ⟨rfl, rfl⟩ := ensure_eq_ok.1 h
    rw [if_neg hp]
    exact ⟨none, none, ensure_bind (by decide), rfl, rfl⟩

section
variable (h : validateSecurityGroupRule net direction protocol portMin portMax text = .ok rule)
include h

theorem validateSecurityGroupRule_ok :
    (∃ d, directionName d = direction) ∧ (∃ p, protocolName p = protocol) ∧
      validatePorts protocol portMin portMax = .ok () ∧
      ∃ n, net.parseCIDR (net.withMask (trimSpace text)) = some n ∧
        rule = ⟨direction, protocol, portMin, portMax, n.string⟩ := by
  unfold validateSecurityGroupRule at h
  obtain ⟨_, hdirection, h⟩ := bind_eq_ok.1 h
  obtain ⟨_, hprotocol, h⟩ := bind_eq_ok.1 h
  obtain ⟨_, hports, h⟩ := bind_eq_ok.1 h
  obtain ⟨_, _, h⟩ := bind_eq_ok.1 h
  obtain ⟨n, hn, h⟩ := bind_eq_ok.1 h
  cases h
  refine ⟨?_, ?_, hports, n, okOr_eq_ok.1 hn, rfl⟩
  · obtain rfl | rfl := ensure_eq_ok.1 hdirection
    · exact ⟨.ingress, rfl⟩
    · exact ⟨.egress, rfl⟩
  · obtain rfl | rfl | rfl | rfl := ensure_eq_ok.1 hprotocol
    · exact ⟨.tcp, rfl⟩
    · exact ⟨.udp, rfl⟩
    · exact ⟨.icmp, rfl⟩
    · exact ⟨.any, rfl⟩

theorem validated_parses :
    ∃ wire parsed, securityGroupRuleProtos [rule] = [wire] ∧
      lib.parseSecurityGroupRule wire = .ok parsed ∧
      directionName parsed.direction = direction ∧ protocolName parsed.protocol = protocol ∧
      parsed.portRangeMin.map (fun p => (p.val : Int)) = portMin.map Int32.toInt ∧
      parsed.portRangeMax.map (fun p => (p.val : Int)) = portMax.map Int32.toInt ∧
      ∀ ip, (∃ p ∈ parsePrefix parsed.remoteIpPrefix, p.contains ip) ↔ net.Names text ip := by
  obtain ⟨⟨d, rfl⟩, ⟨p, rfl⟩, hports, n, hn, rfl⟩ := validateSecurityGroupRule_ok h
  obtain ⟨min, max, hparse, hmin, hmax⟩ := validatePorts_ok hports
  refine ⟨_, ⟨d, p, min, max, n.string⟩, rfl,
    Agent.Library.parseSecurityGroupRule_iff.2 ?_, rfl, rfl,
    hmin, hmax, fun ip => ?_⟩
  · refine ⟨?_, ?_, hparse, rfl, n.string_size, n.isValidCidr_string⟩
    · cases d <;> rfl
    · cases p <;> rfl
  · rw [n.parsePrefix_string]
    simp only [Option.mem_some_iff, exists_eq_left']
    exact Mapped.parseCIDR_contains hn ip

end

def ruleKeywords : List String :=
  ["add", "rule", "netdev", "openinfra_sg", "tcp", "udp", "dport", "ip", "protocol", "icmp",
    "daddr", "saddr", "accept"]

def CidrToken (text : String) : Prop :=
  (∀ c ∈ text.toList, isHexDigit c ∨ c = '.' ∨ c = ':' ∨ c = '/') ∧
    text.toList.count '/' = 1

theorem cidrToken_of_valid (h : lib.isValidCidr text) : CidrToken text := by
  obtain ⟨address, len, a, n, hsplit, ha, hn, _⟩ := Agent.Library.isValidCidr_iff.1 h
  obtain ⟨htext, hslash⟩ := splitOnce_eq_some hsplit
  have hdigit {c : Char} (hc : c.isDigit) : isHexDigit c := by
    unfold isHexDigit
    rw [hc]
    rfl
  have haddress : ∀ c ∈ address, isHexDigit c ∨ c = '.' ∨ c = ':' := by
    intro c hc
    unfold Agent.Library.ipAddr at ha
    split at ha
    · rename_i ip hip
      exact ((parseIpv4_eq_some hip).2 c hc).imp hdigit .inl
    · split at ha
      · obtain hhex | hcolon | hdot := lib.ipv6_text address ‹_› c hc
        · exact .inl hhex
        · exact .inr (.inr hcolon)
        · exact .inr (.inl hdot)
      · cases ha
  have hlen : '/' ∉ len := by
    intro hc
    cases isDigit_of_decimal hn hc
  unfold CidrToken
  rw [htext]
  constructor
  · intro c hc
    rw [mem_append, mem_cons] at hc
    obtain hc | hc | hc := hc
    · exact (haddress c hc).imp id fun h => h.imp id .inl
    · exact .inr (.inr (.inr hc))
    · exact .inl (hdigit (isDigit_of_decimal hn hc))
  · rw [count_append, count_cons_self, count_eq_zero.2 hslash,
      count_eq_zero.2 hlen]

def RuleWord (hook : Hook) (iface arg : String) : Prop :=
  arg ∈ ruleKeywords ∨ arg = chainName hook iface ∨
    ∃ min max : Fin 65536, arg = toString min.val ++ "-" ++ toString max.val

theorem protocolArgs_words (hook : Hook) (iface : String) (rule : Agent.SecurityGroupRule) :
    ∀ arg ∈ Agent.Firewall.protocolArgs rule, RuleWord hook iface arg := by
  unfold Agent.Firewall.protocolArgs
  cases rule.protocol with
  | tcp =>
    simp only [forall_mem_cons]
    exact ⟨.inl (by decide), .inl (by decide), .inr (.inr ⟨_, _, rfl⟩), nofun⟩
  | udp =>
    simp only [forall_mem_cons]
    exact ⟨.inl (by decide), .inl (by decide), .inr (.inr ⟨_, _, rfl⟩), nofun⟩
  | icmp =>
    simp only [forall_mem_cons]
    exact ⟨.inl (by decide), .inl (by decide), .inl (by decide), nofun⟩
  | any => exact nofun

theorem addRuleArgs_words (hook : Hook) (iface : String) (rule : Agent.SecurityGroupRule) :
    ∃ before after, addRuleArgs hook iface rule = before ++ rule.remoteIpPrefix :: after ∧
      ∀ arg ∈ before ++ after, RuleWord hook iface arg := by
  have hfield : hook.remoteAddressField ∈ ruleKeywords := by cases hook <;> decide
  refine ⟨["add", "rule", "netdev", Agent.Firewall.TABLE_NAME, chainName hook iface] ++
    (Agent.Firewall.protocolArgs rule ++ ["ip", hook.remoteAddressField]), ["accept"], ?_, ?_⟩
  · simp only [addRuleArgs, append_assoc, cons_append, nil_append]
  · simp only [forall_mem_append, forall_mem_cons]
    exact ⟨⟨⟨.inl (by decide), .inl (by decide), .inl (by decide), .inl (by decide),
      .inr (.inl rfl), nofun⟩, protocolArgs_words hook iface rule, .inl (by decide), .inl hfield,
      nofun⟩, .inl (by decide), nofun⟩

end

/-- What Neutron accepts is enforced with its own meaning. -/
theorem rules_enforceable (net : Mapped) (lib : Agent.Library) :
    (∀ direction protocol portMin portMax text rule,
      validateSecurityGroupRule net direction protocol portMin portMax text = .ok rule →
      ∃ wire parsed, securityGroupRuleProtos [rule] = [wire] ∧
        lib.parseSecurityGroupRule wire = .ok parsed ∧
        directionName parsed.direction = direction ∧ protocolName parsed.protocol = protocol ∧
        parsed.portRangeMin.map (fun p => (p.val : Int)) = portMin.map Int32.toInt ∧
        parsed.portRangeMax.map (fun p => (p.val : Int)) = portMax.map Int32.toInt ∧
        ∀ ip, (∃ p ∈ parsePrefix parsed.remoteIpPrefix, p.contains ip) ↔ net.Names text ip) ∧
    ∀ wire parsed, lib.parseSecurityGroupRule wire = .ok parsed → ∀ hook iface,
      CidrToken parsed.remoteIpPrefix ∧
      ∃ before after, addRuleArgs hook iface parsed = before ++ parsed.remoteIpPrefix :: after ∧
        ∀ arg ∈ before ++ after, RuleWord hook iface arg := by
  refine ⟨fun _ _ _ _ _ _ h => validated_parses h, fun wire parsed h hook iface => ⟨?_, ?_⟩⟩
  · have hparses := Agent.Library.parseSecurityGroupRule_iff.1 h
    rw [hparses.remote]
    exact cidrToken_of_valid hparses.valid
  · exact addRuleArgs_words hook iface parsed

private def plainNet : Mapped := ⟨fun _ => false, fun _ => none⟩

theorem rules_enforceable_host :
    validateSecurityGroupRule plainNet "ingress" "tcp" (some 443) (some 443) " 203.0.113.5 " =
        .ok ⟨"ingress", "tcp", some 443, some 443, "203.0.113.5/32"⟩ ∧
    ∃ wire parsed, securityGroupRuleProtos
        [⟨"ingress", "tcp", some 443, some 443, "203.0.113.5/32"⟩] = [wire] ∧
      Agent.sampleLibrary.parseSecurityGroupRule wire = .ok parsed ∧
      CidrToken parsed.remoteIpPrefix := by
  have hvalid : validateSecurityGroupRule plainNet "ingress" "tcp" (some 443) (some 443)
      " 203.0.113.5 " = .ok ⟨"ingress", "tcp", some 443, some 443, "203.0.113.5/32"⟩ := by
    decide +kernel
  refine ⟨hvalid, ?_⟩
  have h := rules_enforceable plainNet Agent.sampleLibrary
  obtain ⟨wire, parsed, hwire, hparsed, _⟩ := h.1 _ _ _ _ _ _ hvalid
  exact ⟨wire, parsed, hwire, hparsed, (h.2 wire parsed hparsed .ingress "veth0").1⟩

end OpenInfra.Neutron
