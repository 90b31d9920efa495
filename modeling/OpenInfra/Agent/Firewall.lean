import OpenInfra.Agent.Requests
import OpenInfra.Frame.Workers

namespace OpenInfra.Agent.Firewall
open Frame List Function

def TABLE_NAME : String := "openinfra_sg"

inductive Hook where
  | ingress
  | egress
  deriving DecidableEq

namespace Hook

def nftName : Hook → String
  | .ingress => "ingress"
  | .egress => "egress"

def enforces : Hook → SecurityGroupDirection → Bool
  | .ingress, direction => direction = .egress
  | .egress, direction => direction = .ingress

def remoteAddressField : Hook → String
  | .ingress => "daddr"
  | .egress => "saddr"

end Hook

def chainName (hook : Hook) (iface : String) : String :=
  match hook with
  | .ingress => "sg_in_" ++ iface
  | .egress => "sg_out_" ++ iface

def addTableArgs : List String := ["add", "table", "netdev", TABLE_NAME]

def addChainArgs (hook : Hook) (iface : String) : List String :=
  ["add", "chain", "netdev", TABLE_NAME, chainName hook iface, "\x7b", "type", "filter", "hook",
    hook.nftName, "device", iface, "priority", "0", ";", "policy", "drop", ";", "\x7d"]

def flushChainArgs (hook : Hook) (iface : String) : List String :=
  ["flush", "chain", "netdev", TABLE_NAME, chainName hook iface]

def protocolArgs (rule : SecurityGroupRule) : List String :=
  let ports := toString (rule.portRangeMin.getD 0).val ++ "-" ++
    toString (rule.portRangeMax.getD 0).val
  match rule.protocol with
  | .tcp => ["tcp", "dport", ports]
  | .udp => ["udp", "dport", ports]
  | .icmp => ["ip", "protocol", "icmp"]
  | .any => []

def addRuleArgs (hook : Hook) (iface : String) (rule : SecurityGroupRule) : List String :=
  ["add", "rule", "netdev", TABLE_NAME, chainName hook iface] ++ (protocolArgs rule ++
    ["ip", hook.remoteAddressField, rule.remoteIpPrefix, "accept"])

/-- An IPv4 packet, or a packet of another kind. -/
inductive Packet where
  | ipv4 (saddr daddr protocol dport : Nat)
  | other
  deriving DecidableEq

structure Ipv4Prefix where
  address : Nat
  length : Nat
  deriving DecidableEq

def Ipv4Prefix.contains (p : Ipv4Prefix) (ip : Nat) : Bool :=
  p.address / 2 ^ (32 - p.length) = ip / 2 ^ (32 - p.length)

def parsePrefix (text : String) : Option Ipv4Prefix := do
  let (address, length) ← splitOnce '/' text.toList
  let address ← parseIpv4 address
  let length ← decimal length
  if length ≤ 32 then some ⟨address, length⟩ else none

def parseRange (text : String) : Option (Nat × Nat) := do
  let (min, max) ← splitOnce '-' text.toList
  let min ← decimal min
  let max ← decimal max
  some (min, max)

inductive Match where
  | dport (protocol min max : Nat)
  | proto (protocol : Nat)
  | saddr (remote : Ipv4Prefix)
  | daddr (remote : Ipv4Prefix)
  deriving DecidableEq

def Match.holds : Match → Packet → Bool
  | .dport n min max, .ipv4 _ _ number port => number = n && min ≤ port && port ≤ max
  | .proto n, .ipv4 _ _ number _ => number = n
  | .saddr remote, .ipv4 source _ _ _ => remote.contains source
  | .daddr remote, .ipv4 _ destination _ _ => remote.contains destination
  | _, .other => false

def parseMatches : List String → Option (List Match)
  | ["accept"] => some []
  | "tcp" :: "dport" :: range :: rest => do
    let ports ← parseRange range
    let others ← parseMatches rest
    some (.dport 6 ports.1 ports.2 :: others)
  | "udp" :: "dport" :: range :: rest => do
    let ports ← parseRange range
    let others ← parseMatches rest
    some (.dport 17 ports.1 ports.2 :: others)
  | "ip" :: "protocol" :: "icmp" :: rest => do
    let others ← parseMatches rest
    some (.proto 1 :: others)
  | "ip" :: "saddr" :: remote :: rest => do
    let remote ← parsePrefix remote
    let others ← parseMatches rest
    some (.saddr remote :: others)
  | "ip" :: "daddr" :: remote :: rest => do
    let remote ← parsePrefix remote
    let others ← parseMatches rest
    some (.daddr remote :: others)
  | _ => none

inductive Policy where
  | accept
  | drop
  deriving DecidableEq

structure Chain where
  hook : Hook
  device : String
  policy : Policy
  rules : List (List Match)
  deriving DecidableEq

def Chain.accepts (chain : Chain) (packet : Packet) : Bool :=
  (chain.rules.any fun rule => rule.all (·.holds packet)) || chain.policy = .accept

abbrev Ruleset := Option (String → Option Chain)

namespace Ruleset

def chain (t : Ruleset) (name : String) : Option Chain := t.bind fun chains => chains name

def Accepts (t : Ruleset) (hook : Hook) (iface : String) (packet : Packet) : Prop :=
  ∀ name, ∀ c ∈ t.chain name, c.hook = hook → c.device = iface → c.accepts packet

def Installed (t : Ruleset) : Prop :=
  ∀ name, ∀ c ∈ t.chain name, name = chainName c.hook c.device ∧ c.policy = .drop

end Ruleset

def parseHook (name : String) : Option Hook :=
  match name with
  | "ingress" => some .ingress
  | "egress" => some .egress
  | _ => none

inductive Command where
  | addTable
  | addChain (name : String) (hook : Hook) (device : String)
  | flushChain (name : String)
  | addRule (name : String) (rule : List Match)
  deriving DecidableEq

def parseCommand : List String → Option Command
  | ["add", "table", "netdev", "openinfra_sg"] => some .addTable
  | ["add", "chain", "netdev", "openinfra_sg", name, "\x7b", "type", "filter", "hook", hook,
      "device", device, "priority", "0", ";", "policy", "drop", ";", "\x7d"] => do
    let hook ← parseHook hook
    some (.addChain name hook device)
  | ["flush", "chain", "netdev", "openinfra_sg", name] => some (.flushChain name)
  | "add" :: "rule" :: "netdev" :: "openinfra_sg" :: name :: rule => do
    let rule ← parseMatches rule
    some (.addRule name rule)
  | _ => none

def Command.apply : Command → Ruleset → Option Ruleset
  | .addTable, t => some (some (t.getD fun _ => none))
  | .addChain name hook device, t =>
    match t with
    | none => none
    | some chains =>
      match chains name with
      | none => some (some (Function.update chains name (some ⟨hook, device, .drop, []⟩)))
      | some c =>
        if c.hook = hook ∧ c.device = device ∧ c.policy = .drop then some (some chains) else none
  | .flushChain name, t =>
    match t with
    | none => none
    | some chains => (chains name).map fun c =>
      some (Function.update chains name (some { c with rules := [] }))
  | .addRule name rule, t =>
    match t with
    | none => none
    | some chains => (chains name).map fun c =>
      some (Function.update chains name (some { c with rules := c.rules ++ [rule] }))

def nft (args : List String) (t : Ruleset) : Option Ruleset :=
  (parseCommand args).bind fun command => command.apply t

structure Kernel where
  table : Ruleset
  links : List Link

abbrev Enforcer (A : Type) := Exec Kernel ExecutorError A

def run (args : List String) : Enforcer Unit := fun k =>
  let k' := { k with links := k.links.tail }
  (k.links.head?.getD .up).deliver k' .engine (match nft args k.table with
    | none => .error .engine
    | some table => .ok ((), { k' with table }))

def applyToHook (iface : String) (rules : List SecurityGroupRule) (hook : Hook) :
    Enforcer PUnit := do
  run (addChainArgs hook iface)
  run (flushChainArgs hook iface)
  (rules.filter (hook.enforces ·.direction)).forM fun rule => run (addRuleArgs hook iface rule)

def applyToInterface (iface : String) (rules : List SecurityGroupRule) : Enforcer PUnit := do
  run addTableArgs
  [Hook.ingress, .egress].forM (applyToHook iface rules)

def protocolMatches (rule : SecurityGroupRule) : List Match :=
  let min := (rule.portRangeMin.getD 0).val
  let max := (rule.portRangeMax.getD 0).val
  match rule.protocol with
  | .tcp => [.dport 6 min max]
  | .udp => [.dport 17 min max]
  | .icmp => [.proto 1]
  | .any => []

def Hook.remoteMatch : Hook → Ipv4Prefix → Match
  | .ingress => .daddr
  | .egress => .saddr

def compiled (hook : Hook) (rule : SecurityGroupRule) : List Match :=
  protocolMatches rule ++ (parsePrefix rule.remoteIpPrefix).toList.map hook.remoteMatch

def chainRules (rules : List SecurityGroupRule) (hook : Hook) : List (List Match) :=
  (rules.filter (hook.enforces ·.direction)).map (compiled hook)

section
variable {hook : Hook} {iface : String} {rule : SecurityGroupRule} {t t' : Ruleset}

theorem parseRange_ports (min max : Nat) :
    parseRange (toString min ++ "-" ++ toString max) = some (min, max) := by
  have htext : (toString min ++ "-" ++ toString max).toList =
      (toString min).toList ++ '-' :: (toString max).toList := by
    rw [String.toList_append, String.toList_append, append_assoc]
    rfl
  unfold parseRange
  rw [htext, splitOnce_append (not_mem_toString rfl)]
  simp only [Option.bind_eq_bind, Option.bind_some, decimal_toString]

theorem parseMatches_remote (hook : Hook) (remote : String) :
    parseMatches ["ip", hook.remoteAddressField, remote, "accept"] =
      (parsePrefix remote).map fun p => [hook.remoteMatch p] := by
  cases hook with
  | ingress =>
    change (parsePrefix remote >>= fun p => some [Match.daddr p]) = _
    cases parsePrefix remote <;> rfl
  | egress =>
    change (parsePrefix remote >>= fun p => some [Match.saddr p]) = _
    cases parsePrefix remote <;> rfl

theorem parseMatches_rule (hook : Hook) (rule : SecurityGroupRule) :
    parseMatches (protocolArgs rule ++
        ["ip", hook.remoteAddressField, rule.remoteIpPrefix, "accept"]) =
      (parsePrefix rule.remoteIpPrefix).map fun p =>
        protocolMatches rule ++ [hook.remoteMatch p] := by
  have hremote := parseMatches_remote hook rule.remoteIpPrefix
  have hports := parseRange_ports (rule.portRangeMin.getD 0).val (rule.portRangeMax.getD 0).val
  unfold protocolArgs protocolMatches
  generalize ["ip", hook.remoteAddressField, rule.remoteIpPrefix, "accept"] = rest at hremote ⊢
  cases rule.protocol with
  | tcp =>
    simp only [cons_append, nil_append, parseMatches, hports, hremote]
    cases parsePrefix rule.remoteIpPrefix <;> rfl
  | udp =>
    simp only [cons_append, nil_append, parseMatches, hports, hremote]
    cases parsePrefix rule.remoteIpPrefix <;> rfl
  | icmp =>
    simp only [cons_append, nil_append, parseMatches, hremote]
    cases parsePrefix rule.remoteIpPrefix <;> rfl
  | any => exact hremote

theorem nft_addTable : nft addTableArgs t = some (some (t.getD fun _ => none)) := rfl

theorem nft_addChain (hook : Hook) (iface : String) (t : Ruleset) :
    nft (addChainArgs hook iface) t =
      (Command.addChain (chainName hook iface) hook iface).apply t := by
  cases hook <;> rfl

theorem nft_flushChain (hook : Hook) (iface : String) (t : Ruleset) :
    nft (flushChainArgs hook iface) t = (Command.flushChain (chainName hook iface)).apply t := rfl

theorem nft_addRule (h : nft (addRuleArgs hook iface rule) t = some t') :
    (Command.addRule (chainName hook iface) (compiled hook rule)).apply t = some t' := by
  have hparse : parseCommand (addRuleArgs hook iface rule) =
      (parsePrefix rule.remoteIpPrefix).map fun p =>
        .addRule (chainName hook iface) (protocolMatches rule ++ [hook.remoteMatch p]) := by
    have hrule := parseMatches_rule hook rule
    unfold addRuleArgs
    generalize protocolArgs rule ++
      ["ip", hook.remoteAddressField, rule.remoteIpPrefix, "accept"] = rest at hrule ⊢
    change (parseMatches rest >>= fun rule =>
      some (Command.addRule (chainName hook iface) rule)) = _
    rw [hrule]
    cases parsePrefix rule.remoteIpPrefix <;> rfl
  unfold nft at h
  rw [hparse] at h
  unfold compiled
  cases hparsed : parsePrefix rule.remoteIpPrefix with
  | none => rw [hparsed] at h; cases h
  | some p => rw [hparsed] at h; exact h

theorem chainName_ne (h : hook ≠ other) : chainName hook iface ≠ chainName other iface' := by
  intro heq
  have hchars := congrArg (fun name => name.toList[3]?) heq
  cases hook with
  | ingress =>
    cases other with
    | ingress => exact h rfl
    | egress => simp [chainName] at hchars
  | egress =>
    cases other with
    | ingress => simp [chainName] at hchars
    | egress => exact h rfl

theorem Ruleset.chain_update (chains : String → Option Chain) (name name' : String)
    (c : Option Chain) :
    Ruleset.chain (some (update chains name c)) name' =
      if name' = name then c else Ruleset.chain (some chains) name' := update_apply ..

def Ruleset.on (t : Ruleset) (iface : String) (hook : Hook) : Option Chain :=
  t.chain (chainName hook iface)

def installedChain (hook : Hook) (iface : String) (rules : List (List Match)) : Chain :=
  ⟨hook, iface, .drop, rules⟩

structure Ruleset.Sets (t : Ruleset) (hook : Hook) (iface : String) (rules : List (List Match))
    (t' : Ruleset) : Prop where
  set : t'.on iface hook = some (installedChain hook iface rules)
  others : ∀ name, name ≠ chainName hook iface → t'.chain name = t.chain name

namespace Ruleset.Sets

theorem of_update (chains : String → Option Chain) :
    Sets (some chains) hook iface rules (some (update chains (chainName hook iface)
      (some (installedChain hook iface rules)))) where
  set := by rw [Ruleset.on, Ruleset.chain_update, if_pos rfl]
  others name hname := by rw [Ruleset.chain_update, if_neg hname]

theorem on_other (h : Sets t hook iface rules t') (hne : other ≠ hook) :
    t'.on iface other = t.on iface other := h.others _ (chainName_ne hne)

theorem installed (h : Sets t hook iface rules t') (ht : t.Installed) : t'.Installed := by
  intro name c hc
  by_cases hname : name = chainName hook iface
  · have hset := h.set
    rw [Ruleset.on, ← hname, hc] at hset
    cases hset
    exact ⟨hname, rfl⟩
  · rw [h.others name hname] at hc
    exact ht name c hc

end Ruleset.Sets

theorem nft_addChain_some (h : nft (addChainArgs hook iface) t = some t') :
    (∃ rules, t.on iface hook = some (installedChain hook iface rules) ∧ t' = t) ∨
      t.Sets hook iface [] t' := by
  rw [nft_addChain] at h
  cases t with
  | none => cases h
  | some chains =>
    rw [Command.apply] at h
    cases hc : chains (chainName hook iface) with
    | none =>
      rw [hc] at h
      cases h
      exact .inr (.of_update chains)
    | some c =>
      rw [hc] at h
      dsimp only at h
      split at h
      · rename_i hspec
        cases h
        obtain ⟨h₁, h₂, h₃⟩ := hspec
        refine .inl ⟨c.rules, ?_, rfl⟩
        change chains (chainName hook iface) = _
        rw [hc, installedChain, ← h₁, ← h₂, ← h₃]
      · cases h

theorem nft_flushChain_some (h : nft (flushChainArgs hook iface) t = some t')
    (ht : t.on iface hook = some (installedChain hook iface rules)) : t.Sets hook iface [] t' := by
  rw [nft_flushChain] at h
  cases t with
  | none => cases h
  | some chains =>
    obtain ⟨c, hc, rfl⟩ := Option.map_eq_some_iff.1 h
    cases hc.symm.trans ht
    exact .of_update chains

theorem nft_addRule_some (h : nft (addRuleArgs hook iface rule) t = some t')
    (ht : t.on iface hook = some (installedChain hook iface rules)) :
    t.Sets hook iface (rules ++ [compiled hook rule]) t' := by
  have h := nft_addRule h
  cases t with
  | none => cases h
  | some chains =>
    obtain ⟨c, hc, rfl⟩ := Option.map_eq_some_iff.1 h
    cases hc.symm.trans ht
    exact .of_update chains

end

section
variable {hook other : Hook} {iface : String} {rules : List SecurityGroupRule}
  {P R : Ruleset → Prop}

theorem run_meets (h : ∀ t t', P t → nft args t = some t' → R t') :
    Exec.Meets (fun k => P k.table) (run args)
      (Exec.Then (fun _ k => R k.table) fun _ k => P k.table ∨ R k.table) := by
  intro k hk
  unfold run
  cases hnft : nft args k.table with
  | none => cases k.links.head?.getD .up <;> exact .inl hk
  | some t =>
    have ht := h k.table t hk hnft
    cases k.links.head?.getD .up with
    | up => exact ht
    | down => exact .inl hk
    | lost => exact .inr ht

structure Stage (iface : String) (hook other : Hook) (X Y : Option Chain → Prop) (t : Ruleset) :
    Prop where
  installed : t.Installed
  rest : X (t.on iface other)
  current : Y (t.on iface hook)

theorem Stage.set (h : Stage iface hook other X Y t) (hne : other ≠ hook)
    (hset : t.Sets hook iface rs t') (hY : Y' (some (installedChain hook iface rs))) :
    Stage iface hook other X Y' t' :=
  ⟨hset.installed h.installed, by rw [hset.on_other hne]; exact h.rest, by rw [hset.set]; exact hY⟩

theorem Stage.mono (h : Stage iface hook other X Y t) (hY : ∀ c, Y c → Y' c) :
    Stage iface hook other X Y' t := ⟨h.installed, h.rest, hY _ h.current⟩

theorem applyToHook_meets (hook other : Hook) (hne : other ≠ hook) {X Y : Option Chain → Prop}
    (hY : ∀ rs, rs <+: chainRules rules hook → Y (some (installedChain hook iface rs))) :
    Exec.Meets (fun k => Stage iface hook other X Y k.table) (applyToHook iface rules hook)
      (Exec.Then (fun _ k => Stage iface hook other X
          (· = some (installedChain hook iface (chainRules rules hook))) k.table)
        fun _ k => Stage iface hook other X Y k.table) := by
  have hfail {P R : Ruleset → Prop} (hP : ∀ t, P t → Stage iface hook other X Y t)
      (hR : ∀ t, R t → Stage iface hook other X Y t) {args : List String}
      (h : ∀ t t', P t → nft args t = some t' → R t') :
      Exec.Meets (fun k => P k.table) (run args)
        (Exec.Then (fun _ k => R k.table) fun _ k => Stage iface hook other X Y k.table) :=
    (run_meets h).mono (fun _ => id) (Exec.Then.mono (fun _ _ => id)
      fun _ k hk => hk.elim (hP k.table) (hR k.table))
  let there (c : Option Chain) : Prop := Y c ∧ ∃ rs, c = some (installedChain hook iface rs)
  let added (done : List SecurityGroupRule) (c : Option Chain) : Prop :=
    c = some (installedChain hook iface (done.map (compiled hook)))
  have hadded {done : List SecurityGroupRule} {t : Ruleset}
      (hdone : done <+: rules.filter (hook.enforces ·.direction))
      (h : Stage iface hook other X (added done) t) : Stage iface hook other X Y t :=
    h.mono fun c hc => hc ▸ hY _ (hdone.map (compiled hook))
  refine .bind (fun _ k => Stage iface hook other X there k.table) ?_ fun _ => ?_
  · refine hfail (fun _ => id) (fun t h => h.mono fun _ hc => hc.1) ?_
    intro t t' ht hnft
    obtain ⟨rs, hon, rfl⟩ | hset := nft_addChain_some hnft
    · exact ⟨ht.installed, ht.rest, ht.current, rs, hon⟩
    · exact ht.set hne hset ⟨hY [] ⟨_, rfl⟩, [], rfl⟩
  · refine .bind (fun _ k => Stage iface hook other X (added []) k.table) ?_ fun _ => ?_
    · refine hfail (fun t h => h.mono fun _ hc => hc.1) (fun _ => hadded ⟨_, rfl⟩) ?_
      intro t t' ht hnft
      obtain ⟨_, rs, hon⟩ := ht.current
      exact ht.set hne (nft_flushChain_some hnft hon) rfl
    · refine .forM_rounds (I := fun done (k : Kernel) =>
        Stage iface hook other X (added done) k.table) ?_
      intro done rule hdone
      refine hfail (fun _ => hadded ((prefix_append done [rule]).trans hdone))
        (fun _ => hadded hdone) ?_
      intro t t' ht hnft
      refine ht.set hne (nft_addRule_some hnft ht.current) ?_
      change _ = some _
      rw [map_append]
      rfl

theorem nft_addTable_chain (h : nft addTableArgs t = some t') (name : String) :
    t'.chain name = t.chain name := by
  rw [nft_addTable] at h
  cases h
  cases t with
  | none => rfl
  | some chains => rfl

theorem applyToInterface_meets (iface : String) (rules : List SecurityGroupRule)
    {E : Hook → Option Chain → Prop}
    (hE : ∀ hook rs, rs <+: chainRules rules hook → E hook (some (installedChain hook iface rs))) :
    Exec.Meets (fun k => k.table.Installed ∧ ∀ hook, E hook (k.table.on iface hook))
      (applyToInterface iface rules) (Exec.Then
        (fun _ k => k.table.Installed ∧ ∀ hook,
          k.table.on iface hook = some (installedChain hook iface (chainRules rules hook)))
        fun _ k => k.table.Installed ∧ ∀ hook, E hook (k.table.on iface hook)) := by
  let kept (t : Ruleset) : Prop := t.Installed ∧ ∀ hook, E hook (t.on iface hook)
  refine .bind (fun _ k => kept k.table) ?_ fun _ => ?_
  · refine (run_meets (P := kept) (R := kept) ?_).mono (fun _ => id)
      (Exec.Then.mono (fun _ _ => id) fun _ _ hk => hk.elim id id)
    intro t t' ht hnft
    have hchain := nft_addTable_chain hnft
    refine ⟨fun name c hc => ht.1 name c (hchain name ▸ hc), fun hook => ?_⟩
    rw [Ruleset.on, hchain]
    exact ht.2 hook
  · refine .bind _ ((applyToHook_meets .ingress .egress (X := E .egress) nofun (hE .ingress)).mono
      (fun k hk => ⟨hk.1, hk.2 _, hk.2 _⟩) (Exec.Then.mono (fun _ _ => id) ?_)) fun _ => ?_
    · intro _ k hk
      refine ⟨hk.installed, fun hook => ?_⟩
      cases hook with
      | ingress => exact hk.current
      | egress => exact hk.rest
    · refine .bind _ ((applyToHook_meets .egress .ingress
        (X := (· = some (installedChain .ingress iface (chainRules rules .ingress)))) nofun
        (hE .egress)).mono (fun k hk => ⟨hk.installed, hk.current, hk.rest⟩)
        (Exec.Then.mono (fun _ _ => id) ?_)) fun _ => .pure ?_
      · intro _ k hk
        refine ⟨hk.installed, fun hook => ?_⟩
        cases hook with
        | ingress => exact (congrArg (E .ingress) hk.rest).mpr (hE _ _ prefix_rfl)
        | egress => exact hk.current
      · intro k hk
        refine ⟨hk.installed, fun hook => ?_⟩
        cases hook with
        | ingress => exact hk.rest
        | egress => exact hk.current

theorem installed_run (hk : k.table.Installed)
    (applications : List (String × List SecurityGroupRule)) :
    (Frame.run (fun k a => (applyToInterface a.1 a.2 k).2) k applications).table.Installed := by
  refine run_invariant (I := fun k : Kernel => k.table.Installed) hk (fun k a hk => ?_) _
  have hthen := applyToInterface_meets a.1 a.2 (E := fun _ _ => True)
    (fun _ _ _ => trivial) k ⟨hk, fun _ => trivial⟩
  generalize applyToInterface a.1 a.2 k = r at hthen ⊢
  obtain ⟨e | u, k'⟩ := r
  · exact hthen.1
  · exact hthen.1

private def https : SecurityGroupRule :=
  ⟨.ingress, .tcp, some 443, some 443, "10.0.0.0/8"⟩

private def openRules : Hook → List (List Match)
  | .ingress => [[.daddr ⟨0, 0⟩]]
  | .egress => [[.saddr ⟨0, 0⟩]]

private def openChain (hook : Hook) : Chain := installedChain hook "veth0" (openRules hook)

private def openKernel : Kernel where
  table := some (Function.update
    (Function.update (fun _ => none) (chainName .ingress "veth0") (some (openChain .ingress)))
    (chainName .egress "veth0") (some (openChain .egress)))
  links := [.up, .up, .up, .lost]

private theorem openKernel_on (hook : Hook) :
    openKernel.table.on "veth0" hook = some (openChain hook) := by
  cases hook <;> decide +kernel

private theorem openKernel_installed : openKernel.table.Installed := by
  intro name c hc
  rw [openKernel, Ruleset.chain_update, Ruleset.chain_update] at hc
  split at hc
  · cases hc
    exact ⟨‹_›, rfl⟩
  · split at hc
    · cases hc
      exact ⟨‹_›, rfl⟩
    · cases hc

theorem installed_run_interrupted :
    (applyToInterface "veth0" [https] openKernel).1 = .error .engine ∧
      (Frame.run (fun k a => (applyToInterface a.1 a.2 k).2) openKernel
        [("veth0", [https]), ("veth1", [https])]).table.Installed :=
  ⟨by decide +kernel, installed_run openKernel_installed _⟩

end

def Hook.workloadDirection : Hook → SecurityGroupDirection
  | .ingress => .egress
  | .egress => .ingress

end OpenInfra.Agent.Firewall

namespace OpenInfra.Agent
open Frame

/-- The packets of its protocol, ports and remote prefix. -/
def SecurityGroupRule.Matches (rule : SecurityGroupRule) : Firewall.Packet → Prop
  | .other => False
  | .ipv4 saddr daddr protocol dport =>
    (match rule.protocol with
      | .tcp => protocol = 6 ∧ ∃ min ∈ rule.portRangeMin, ∃ max ∈ rule.portRangeMax,
          min.val ≤ dport ∧ dport ≤ max.val
      | .udp => protocol = 17 ∧ ∃ min ∈ rule.portRangeMin, ∃ max ∈ rule.portRangeMax,
          min.val ≤ dport ∧ dport ≤ max.val
      | .icmp => protocol = 1
      | .any => True) ∧
    ∃ remote ∈ Firewall.parsePrefix rule.remoteIpPrefix, remote.contains
      (match rule.direction with
        | .ingress => saddr
        | .egress => daddr)

def SecurityGroupRule.Ipv4 (rule : SecurityGroupRule) : Prop :=
  ∃ p ∈ splitOnce '/' rule.remoteIpPrefix.toList, (parseIpv4 p.1).isSome

end OpenInfra.Agent

namespace OpenInfra.Agent.Firewall
open Frame List

theorem Hook.enforces_iff (hook : Hook) (direction : SecurityGroupDirection) :
    hook.enforces direction ↔ direction = hook.workloadDirection := by
  cases hook <;> exact decide_eq_true_iff

section
variable {lib : Library} {wire : Wire.SecurityGroupRule} {rule : SecurityGroupRule}
  {hook : Hook} {iface : String} {t : Ruleset} {packet : Packet}

theorem parsePrefix_of_ipv4 (h : lib.Parses wire rule) (hip : rule.Ipv4) :
    ∃ remote, parsePrefix rule.remoteIpPrefix = some remote := by
  obtain ⟨address, len, a, n, hsplit, ha, hn, hle⟩ := Library.isValidCidr_iff.1 (h.remote ▸ h.valid)
  obtain ⟨p, hp, hsome⟩ := hip
  cases hsplit.symm.trans hp
  obtain ⟨ip, hip⟩ := Option.isSome_iff_exists.1 hsome
  have hip : parseIpv4 address = some ip := hip
  unfold Library.ipAddr at ha
  rw [hip] at ha
  cases ha
  refine ⟨⟨ip, n⟩, ?_⟩
  unfold parsePrefix
  simp only [hsplit, hip, hn, Option.bind_eq_bind, Option.bind_some]
  exact if_pos hle

theorem dport_holds_iff {min max : Fin 65536}
    (h : (rule.portRangeMin, rule.portRangeMax) = (some min, some max)) :
    (Match.dport n (rule.portRangeMin.getD 0).val (rule.portRangeMax.getD 0).val).holds
        (.ipv4 saddr daddr protocol dport) ↔
      protocol = n ∧ ∃ min ∈ rule.portRangeMin, ∃ max ∈ rule.portRangeMax,
        min.val ≤ dport ∧ dport ≤ max.val := by
  obtain ⟨hmin, hmax⟩ := Prod.mk.inj h
  simp only [Match.holds, hmin, hmax, Option.getD_some, Option.mem_some_iff, exists_eq_left',
    Bool.and_eq_true, decide_eq_true_iff, and_assoc]

theorem compiled_holds_iff (h : lib.Parses wire rule) (hip : rule.Ipv4)
    (hd : rule.direction = hook.workloadDirection) :
    (∀ m ∈ compiled hook rule, m.holds packet) ↔ rule.Matches packet := by
  obtain ⟨remote, hremote⟩ := parsePrefix_of_ipv4 h hip
  unfold compiled
  rw [hremote, Option.toList_some, map_singleton, forall_mem_append,
    forall_mem_singleton]
  cases packet with
  | other =>
    refine iff_of_false ?_ id
    rintro ⟨_, hremote⟩
    cases hook <;> cases hremote
  | ipv4 saddr daddr protocol dport =>
    apply and_congr
    · have hports := parsePorts_ok h.ports
      unfold protocolMatches
      cases hprotocol : rule.protocol with
      | tcp =>
        rw [hprotocol] at hports
        obtain ⟨_, hports⟩ | ⟨hno, _⟩ := hports
        · rw [forall_mem_singleton]
          exact dport_holds_iff hports
        · exact absurd hno (by decide)
      | udp =>
        rw [hprotocol] at hports
        obtain ⟨_, hports⟩ | ⟨hno, _⟩ := hports
        · rw [forall_mem_singleton]
          exact dport_holds_iff hports
        · exact absurd hno (by decide)
      | icmp =>
        rw [forall_mem_singleton]
        exact decide_eq_true_iff
      | any => exact iff_of_true nofun trivial
    · rw [hd, hremote]
      simp only [Option.mem_some_iff, exists_eq_left']
      cases hook with
      | ingress => exact Iff.rfl
      | egress => exact Iff.rfl

theorem Ruleset.accepts_iff (hi : t.Installed)
    (h : t.on iface hook = some (installedChain hook iface rules)) :
    t.Accepts hook iface packet ↔ ∃ rule ∈ rules, ∀ m ∈ rule, m.holds packet := by
  have hchain : (installedChain hook iface rules).accepts packet ↔
      ∃ rule ∈ rules, ∀ m ∈ rule, m.holds packet := by
    unfold Chain.accepts installedChain
    simp only [any_eq_true, all_eq_true, Bool.or_eq_true, decide_eq_true_iff,
      reduceCtorEq, or_false]
  rw [← hchain]
  constructor
  · intro haccepts
    exact haccepts _ _ h rfl rfl
  · rintro haccepts name c hc rfl rfl
    rw [(hi name c hc).1] at hc
    rw [Option.some.inj (hc.symm.trans h)]
    exact haccepts

theorem chainRules_iff {rules : List SecurityGroupRule}
    (hrules : ∀ rule ∈ rules, (∃ wire, lib.parseSecurityGroupRule wire = .ok rule) ∧ rule.Ipv4) :
    (∃ m ∈ chainRules rules hook, ∀ x ∈ m, x.holds packet) ↔
      ∃ rule ∈ rules, rule.direction = hook.workloadDirection ∧ rule.Matches packet := by
  have hcompiled {rule : SecurityGroupRule} (hrule : rule ∈ rules)
      (hd : rule.direction = hook.workloadDirection) :
      (∀ m ∈ compiled hook rule, m.holds packet) ↔ rule.Matches packet := by
    obtain ⟨⟨wire, hwire⟩, hip⟩ := hrules rule hrule
    exact compiled_holds_iff (Library.parseSecurityGroupRule_iff.1 hwire) hip hd
  unfold chainRules
  constructor
  · rintro ⟨m, hm, hholds⟩
    obtain ⟨rule, hrule, rfl⟩ := mem_map.1 hm
    obtain ⟨hrule, hd⟩ := mem_filter.1 hrule
    have hd := (hook.enforces_iff _).1 hd
    exact ⟨rule, hrule, hd, (hcompiled hrule hd).1 hholds⟩
  · rintro ⟨rule, hrule, hd, hmatches⟩
    refine ⟨compiled hook rule, mem_map.2 ⟨rule, mem_filter.2 ⟨hrule, ?_⟩, rfl⟩,
      (hcompiled hrule hd).2 hmatches⟩
    exact (hook.enforces_iff _).2 hd

/-- The rules pass and nothing else; a failure lets nothing new pass. -/
theorem enforcement_exact (lib : Library) (iface : String) (rules : List SecurityGroupRule)
    (hrules : ∀ rule ∈ rules, (∃ wire, lib.parseSecurityGroupRule wire = .ok rule) ∧ rule.Ipv4)
    (k : Kernel) (hk : k.table.Installed) :
    ((applyToInterface iface rules k).1 = .ok ⟨⟩ → ∀ hook packet,
      (applyToInterface iface rules k).2.table.Accepts hook iface packet ↔
        ∃ rule ∈ rules, rule.direction = hook.workloadDirection ∧ rule.Matches packet) ∧
    ∀ old : Hook → List (List Match),
      (∀ hook, k.table.on iface hook = some (installedChain hook iface (old hook))) →
      ∀ e, (applyToInterface iface rules k).1 = .error e → ∀ hook packet,
        (applyToInterface iface rules k).2.table.Accepts hook iface packet →
          (∃ rule ∈ old hook, ∀ m ∈ rule, m.holds packet) ∨
          ∃ rule ∈ rules, rule.direction = hook.workloadDirection ∧ rule.Matches packet := by
  constructor
  · intro hok hook packet
    have hthen := applyToInterface_meets iface rules (E := fun _ _ => True)
      (fun _ _ _ => trivial) k ⟨hk, fun _ => trivial⟩
    rw [hok] at hthen
    obtain ⟨hi, hon⟩ := hthen
    rw [Ruleset.accepts_iff hi (hon hook), chainRules_iff hrules]
  · intro old hold e herr hook packet haccepts
    let between (hook : Hook) (c : Option Chain) : Prop :=
      ∃ rs, c = some (installedChain hook iface rs) ∧
        (rs = old hook ∨ rs <+: chainRules rules hook)
    have hthen := applyToInterface_meets iface rules (E := between)
      (fun hook rs hrs => ⟨rs, rfl, .inr hrs⟩) k ⟨hk, fun hook => ⟨_, hold hook, .inl rfl⟩⟩
    rw [herr] at hthen
    obtain ⟨hi, hbetween⟩ := hthen
    obtain ⟨rs, hon, rfl | hpart⟩ := hbetween hook
    · exact .inl ((Ruleset.accepts_iff hi hon).1 haccepts)
    · obtain ⟨m, hm, hholds⟩ := (Ruleset.accepts_iff hi hon).1 haccepts
      exact .inr ((chainRules_iff hrules).1 ⟨m, hpart.subset hm, hholds⟩)

private theorem https_parsed : ∀ rule ∈ [https],
    (∃ wire, sampleLibrary.parseSecurityGroupRule wire = .ok rule) ∧ rule.Ipv4 := by
  rw [forall_mem_singleton]
  exact ⟨⟨⟨"ingress", "tcp", 443, 443, "10.0.0.0/8"⟩, by decide +kernel⟩,
    ("10.0.0.0".toList, "8".toList), by decide +kernel, by decide +kernel⟩

theorem enforcement_exact_https :
    (∀ hook packet, (applyToInterface "veth0" [https] ⟨none, []⟩).2.table.Accepts hook "veth0"
      packet ↔ ∃ rule ∈ [https], rule.direction = hook.workloadDirection ∧ rule.Matches packet) ∧
    ∀ hook packet, (applyToInterface "veth0" [https] openKernel).2.table.Accepts hook "veth0"
        packet → (∃ rule ∈ openRules hook, ∀ m ∈ rule, m.holds packet) ∨
        ∃ rule ∈ [https], rule.direction = hook.workloadDirection ∧ rule.Matches packet :=
  ⟨(enforcement_exact sampleLibrary "veth0" [https] https_parsed ⟨none, []⟩ nofun).1
      (by decide +kernel),
    (enforcement_exact sampleLibrary "veth0" [https] https_parsed openKernel
      openKernel_installed).2 openRules openKernel_on .engine (by decide +kernel)⟩

end

end OpenInfra.Agent.Firewall
