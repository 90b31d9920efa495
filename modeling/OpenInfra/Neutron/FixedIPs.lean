import OpenInfra.ControlPlane.Attached
import OpenInfra.Neutron.Fabric

namespace OpenInfra.Neutron
open Frame Function List
open ControlPlane (Uuid Time System Worker Workload Request Reply Task Snapshot Dispatches Manager
  PeerConfig)

/-- The unique indexes of the ports table. -/
structure Ports.Indexed (ports : Ports) : Prop where
  ids : (ports.map Port.portID).Nodup
  addresses : ∀ p ∈ ports.live, ∀ q ∈ ports.live,
    p.subnetID = q.subnetID → p.fixedIP = q.fixedIP → p = q

namespace Ports
variable {ports ports' : Ports} {p q port : Port}

theorem getPort_eq_some (h : ports.getPort portID projectID = some p) :
    p ∈ ports.live ∧ p.portID = portID := by
  have hp := find?_some h
  exact ⟨mem_of_find?_eq_some h, (of_decide_eq_true hp).1⟩

theorem portForWorkload_eq_some (h : ports.portForWorkload w = some p) :
    p ∈ ports.live ∧ p.workloadID = some w := by
  have hp := find?_some h
  exact ⟨mem_of_find?_eq_some h, of_decide_eq_true hp⟩

theorem Indexed.eq_of_portID (h : ports.Indexed) (hp : p ∈ ports) (hq : q ∈ ports)
    (hid : p.portID = q.portID) : p = q := inj_on_of_nodup_map h.ids hp hq hid

theorem mem_put (h : q ∈ ports.put port) : q = port ∨ q ∈ ports ∧ q.portID ≠ port.portID := by
  obtain ⟨p, hp, rfl⟩ := mem_map.1 h
  split
  · exact .inl rfl
  · exact .inr ⟨hp, ‹_›⟩

theorem Indexed.put (h : ports.Indexed) (hp : p ∈ ports.live) (hid : port.portID = p.portID)
    (hsubnet : port.subnetID = p.subnetID) (hip : port.fixedIP = p.fixedIP) :
    (ports.put port).Indexed := by
  have hids : (ports.put port).map Port.portID = ports.map Port.portID := by
    unfold Ports.put
    rw [map_map]
    apply map_congr_left
    intro q _
    change (if q.portID = port.portID then port else q).portID = q.portID
    split
    · exact Eq.symm ‹_›
    · rfl
  -- every live row of the new table stands for a live row of the old one with the same address
  have hold {q : Port} (hq : q ∈ (ports.put port).live) : ∃ r ∈ ports.live,
      r.subnetID = q.subnetID ∧ r.fixedIP = q.fixedIP ∧ r.portID = q.portID := by
    obtain ⟨hq, hlive⟩ := mem_live.1 hq
    obtain rfl | ⟨hq, _⟩ := mem_put hq
    · exact ⟨p, hp, hsubnet.symm, hip.symm, hid.symm⟩
    · exact ⟨q, mem_live.2 ⟨hq, hlive⟩, rfl, rfl, rfl⟩
  refine ⟨hids ▸ h.ids, ?_⟩
  intro q hq r hr hs hf
  obtain ⟨q', hq', hqs, hqf, hqid⟩ := hold hq
  obtain ⟨r', hr', hrs, hrf, hrid⟩ := hold hr
  have heq : q' = r' :=
    h.addresses q' hq' r' hr' (hqs.trans (hs.trans hrs.symm)) (hqf.trans (hf.trans hrf.symm))
  have hids' : ((ports.put port).map Port.portID).Nodup := hids ▸ h.ids
  exact inj_on_of_nodup_map hids' (mem_live.1 hq).1 (mem_live.1 hr).1
    (hqid.symm.trans (heq ▸ hrid))

theorem mem_live_put (hq : q ∈ ports.live) (hne : q.portID ≠ port.portID) :
    q ∈ (ports.put port).live := by
  obtain ⟨hq, hlive⟩ := mem_live.1 hq
  exact mem_live.2 ⟨mem_map.2 ⟨q, hq, if_neg hne⟩, hlive⟩

structure Keeps (ws : Uuid → Prop) (ports ports' : Ports) : Prop where
  indexed : ports'.Indexed
  bound : ∀ p ∈ ports.live, ∀ w ∈ p.workloadID, ws w → p ∈ ports'.live

section
variable (h : ports.Indexed)
include h

theorem Indexed.createPort
    (hok : ports.createPort portID networkID subnetID projectID cidr gatewayIP taken =
      .ok ports') : Keeps ws ports ports' := by
  obtain ⟨fixedIP, _, hok⟩ := bind_eq_ok.1 hok
  obtain ⟨_, hid, hok⟩ := bind_eq_ok.1 hok
  obtain ⟨_, hip, hok⟩ := bind_eq_ok.1 hok
  cases hok
  have hid := all_eq_true.1 (ensure_eq_ok.1 hid)
  have hip := all_eq_true.1 (ensure_eq_ok.1 hip)
  let port : Port := ⟨portID, networkID, subnetID, projectID, fixedIP, none, false⟩
  have hlive {q : Port} (hq : q ∈ Ports.live (ports ++ [port])) : q ∈ ports.live ∨ q = port := by
    obtain ⟨hq, hd⟩ := mem_live.1 hq
    obtain hq | hq := mem_append.1 hq
    · exact .inl (mem_live.2 ⟨hq, hd⟩)
    · exact .inr (mem_singleton.1 hq)
  refine ⟨⟨?_, ?_⟩, ?_⟩
  · rw [map_append, nodup_append]
    refine ⟨h.ids, nodup_singleton _, ?_⟩
    intro a ha b hb hab
    obtain ⟨q, hq, rfl⟩ := mem_map.1 ha
    rw [map_singleton, mem_singleton] at hb
    exact of_decide_eq_true (hid q hq) (hab.trans hb)
  · intro q hq r hr hs hf
    obtain hq | rfl := hlive hq
    · obtain hr | rfl := hlive hr
      · exact h.addresses q hq r hr hs hf
      · exact absurd ⟨hs, hf⟩ (of_decide_eq_true (hip q hq))
    · obtain hr | rfl := hlive hr
      · exact absurd ⟨hs.symm, hf.symm⟩ (of_decide_eq_true (hip r hr))
      · rfl
  · intro q hq w _ _
    obtain ⟨hq, hd⟩ := mem_live.1 hq
    exact mem_live.2 ⟨mem_append_left _ hq, hd⟩

theorem Indexed.keeps_put (hp : p ∈ ports.live)
    (hid : port.portID = p.portID) (hsubnet : port.subnetID = p.subnetID)
    (hip : port.fixedIP = p.fixedIP)
    (hsame : ∀ w ∈ p.workloadID, ws w → port = p) : Keeps ws ports (ports.put port) := by
  refine ⟨h.put hp hid hsubnet hip, ?_⟩
  intro q hq w hw hws
  by_cases hqp : q.portID = port.portID
  · have heq := h.eq_of_portID (mem_live.1 hq).1 (mem_live.1 hp).1 (hqp.trans hid)
    rw [heq] at hw
    have hport := hsame w hw hws
    obtain ⟨hpm, hpd⟩ := mem_live.1 hp
    rw [heq]
    exact mem_live.2 ⟨mem_map.2 ⟨p, hpm, by rw [if_pos hid.symm, hport]⟩, hpd⟩
  · exact mem_live_put hq hqp

theorem Indexed.bindPort
    (hok : ports.bindPort portID projectID workloadID = .ok ports') : Keeps ws ports ports' := by
  obtain ⟨p, hp, hok⟩ := bind_eq_ok.1 hok
  obtain ⟨_, hfree, hok⟩ := bind_eq_ok.1 hok
  obtain ⟨_, _, hok⟩ := bind_eq_ok.1 hok
  cases hok
  have hp := (getPort_eq_some (okOr_eq_ok.1 hp)).1
  refine h.keeps_put hp rfl rfl rfl ?_
  intro w hw _
  obtain hnone | hsame := ensure_eq_ok.1 hfree
  · rw [hnone] at hw
    cases hw
  · rw [← hsame]

theorem Indexed.deletePort
    (hok : ports.deletePort portID projectID = .ok ports') : Keeps ws ports ports' := by
  obtain ⟨p, hp, hok⟩ := bind_eq_ok.1 hok
  obtain ⟨_, hfree, hok⟩ := bind_eq_ok.1 hok
  cases hok
  have hp := (getPort_eq_some (okOr_eq_ok.1 hp)).1
  refine h.keeps_put hp rfl rfl rfl ?_
  intro w hw _
  rw [ensure_eq_ok.1 hfree] at hw
  cases hw

theorem Indexed.unbindPort
    (hfree : ∀ p ∈ ports.getPort portID projectID, ∀ w ∈ p.workloadID, ¬ ws w)
    (hok : ports.unbindPort portID projectID = .ok ports') : Keeps ws ports ports' := by
  obtain ⟨p, hp, hok⟩ := bind_eq_ok.1 hok
  cases hok
  have hp := okOr_eq_ok.1 hp
  refine h.keeps_put (getPort_eq_some hp).1 rfl rfl rfl ?_
  intro w hw hws
  exact absurd hws (hfree p hp w hw)

end

end Ports

def portIPs (port : Option Port) : List String :=
  ((port.map Port.fixedIP).filter (· ≠ "")).elim [] fun ip => [ip ++ "/32"]

namespace Fabric

/-- Every peer has the address of its port, alone. -/
structure FixedIPsHeld (s : Fabric) : Prop where
  traced : ∀ w, ∀ peer ∈ s.system.overlay.peers.lookup w,
    peer.allowedIPs = Manager.attachedIPs (portIPs (s.origin w))
  exclusive : ∀ w w', w ≠ w' → (s.system.overlay.peers.lookup w).isSome →
    (s.system.overlay.peers.lookup w').isSome → ∀ p ∈ s.origin w, ∀ q ∈ s.origin w',
      p.subnetID = q.subnetID → p.fixedIP ≠ q.fixedIP

def Idle (s : Fabric) (w : Uuid) : Prop :=
  s.system.overlay.peers.lookup w = none ∧
    ∀ t ∈ s.system.tasks, t.1.workloadID = w → t.2.finished

instance (s : Fabric) (w : Uuid) : Decidable (s.Idle w) :=
  inferInstanceAs (Decidable (_ ∧ _))

def ReleasesIdle (s : Fabric) : Event → Prop
  | .unbindPort portID projectID =>
    ∀ port ∈ s.ports.getPort portID projectID, ∀ w ∈ port.workloadID, s.Idle w
  | _ => True

instance (s : Fabric) : ∀ e, Decidable (s.ReleasesIdle e)
  | .unbindPort portID projectID =>
    have (port : Port) : Decidable (∀ w ∈ port.workloadID, s.Idle w) :=
      Option.decidableForallMem port.workloadID
    inferInstanceAs (Decidable
      (∀ port ∈ s.ports.getPort portID projectID, ∀ w ∈ port.workloadID, s.Idle w))
  | .plane _ | .proceed .. | .createPort .. | .bindPort .. | .deletePort .. =>
    inferInstanceAs (Decidable True)

structure Bound (s : Fabric) : Prop where
  indexed : s.ports.Indexed
  fresh : ∀ i, s.system.tasks.length ≤ i → s.told i = none
  tasks : ∀ i item p, s.system.tasks[i]? = some (item, p) → ∃ c, Dispatches item c p ∧
    ControlPlane.PortSecurity.allowedIPs c.port = portIPs (s.told i) ∧
    (p.finished = false →
      ∀ port ∈ s.told i, port ∈ s.ports.live ∧ port.workloadID = some item.workloadID)
  traced : ∀ w, ∀ peer ∈ s.system.overlay.peers.lookup w,
    peer.allowedIPs = Manager.attachedIPs (portIPs (s.origin w))
  origins : ∀ w, (s.system.overlay.peers.lookup w).isSome → ∀ port ∈ s.origin w,
    port ∈ s.ports.live ∧ port.workloadID = some w

section
variable {worker : Worker} {s : Fabric} {c : Snapshot} {request : ControlPlane.OverlayRequest}

theorem Bound.fixedIPsHeld (h : s.Bound) : s.FixedIPsHeld := by
  refine ⟨h.traced, ?_⟩
  intro w w' hne hw hw' p hp q hq hsubnet hip
  obtain ⟨hlive, hbound⟩ := h.origins w hw p hp
  obtain ⟨hlive', hbound'⟩ := h.origins w' hw' q hq
  rw [h.indexed.addresses p hlive q hlive' hsubnet hip] at hbound
  exact hne (Option.some.inj (hbound.symm.trans hbound'))

theorem Bound.init (leases : ControlPlane.Leases) (firstPort lastPort : Nat) :
    (init leases firstPort lastPort).Bound where
  indexed := ⟨nodup_nil, fun _ hp => absurd hp not_mem_nil⟩
  fresh _ _ := rfl
  tasks _ _ _ h := absurd h nofun
  traced _ _ h := absurd h nofun
  origins _ h := absurd h nofun

theorem Bound.keeps {ports : Ports} (h : s.Bound)
    (hports : Ports.Keeps (fun w => ¬ s.Idle w) s.ports ports) :
    Bound { s with ports := ports } := by
  refine ⟨hports.indexed, h.fresh, ?_, h.traced, ?_⟩
  · intro i item p hget
    obtain ⟨c, hc, hips, htold⟩ := h.tasks i item p hget
    refine ⟨c, hc, hips, ?_⟩
    intro hfin port hport
    obtain ⟨hlive, hbound⟩ := htold hfin port hport
    refine ⟨hports.bound port hlive _ hbound ?_, hbound⟩
    intro hidle
    have hdone := hidle.2 _ (mem_of_getElem? hget) rfl
    rw [hfin] at hdone
    cases hdone
  · intro w hw port hport
    obtain ⟨hlive, hbound⟩ := h.origins w hw port hport
    refine ⟨hports.bound port hlive w hbound ?_, hbound⟩
    intro hidle
    rw [hidle.1] at hw
    cases hw

theorem Bound.update (h : s.Bound)
    (hx : ∀ ports, x = .ok ports → Ports.Keeps (fun w => ¬ s.Idle w) s.ports ports) :
    (s.update x).Bound := by
  cases x with
  | error e => exact h
  | ok ports => exact h.keeps (hx ports rfl)

theorem Bound.plane (h : s.Bound) (e : ControlPlane.Event) (he : ofWorker e = false) :
    Bound { s with system := s.system.step worker e } := by
  have hworker (i : Nat) (env : ControlPlane.Env) : e ≠ .proceed i env := by
    rintro rfl
    cases he
  obtain ⟨hoverlay, htasks⟩ := System.step_cases worker s.system hworker
  refine ⟨h.indexed, ?_, ?_, ?_, ?_⟩
  · intro i hi
    apply h.fresh
    obtain heq | ⟨item, heq, _⟩ := htasks
    · exact heq ▸ hi
    · change (s.system.step worker e).tasks.length ≤ i at hi
      rw [heq, length_append] at hi
      exact (Nat.le_add_right _ _).trans hi
  · intro i item p hget
    change (s.system.step worker e).tasks[i]? = _ at hget
    obtain heq | ⟨item', heq, _⟩ := htasks
    · exact h.tasks i item p (heq ▸ hget)
    · rw [heq] at hget
      by_cases hi : i < s.system.tasks.length
      · rw [getElem?_append_left hi] at hget
        exact h.tasks i item p hget
      · have hle := Nat.le_of_not_lt hi
        rw [getElem?_append_right hle] at hget
        obtain ⟨rfl, rfl⟩ : item' = item ∧ worker.processOne item' = p :=
          Prod.mk.inj (mem_singleton.1 (mem_of_getElem? hget)).symm
        have htold : s.told i = none := h.fresh i hle
        refine ⟨.none, Dispatches.processOne worker item', ?_, ?_⟩
        · change _ = portIPs (s.told i)
          rw [htold]
          rfl
        · intro _ port hport
          change port ∈ s.told i at hport
          rw [htold] at hport
          cases hport
  · intro w peer hpeer
    exact h.traced w peer (hoverlay ▸ hpeer)
  · intro w hw
    exact h.origins w (hoverlay ▸ hw)

structure Answered (s : Fabric) (item : Workload) (c : Snapshot)
    (known : Option Port) (overlay : Manager) (origin : Uuid → Option Port) : Prop where
  told : ControlPlane.PortSecurity.allowedIPs c.port = portIPs known
  bound : ∀ port ∈ known, port ∈ s.ports.live ∧ port.workloadID = some item.workloadID
  traced : ∀ w, ∀ peer ∈ overlay.peers.lookup w,
    peer.allowedIPs = Manager.attachedIPs (portIPs (origin w))
  origins : ∀ w, (overlay.peers.lookup w).isSome → ∀ port ∈ origin w,
    port ∈ s.ports.live ∧ port.workloadID = some w

theorem request_eq (h : s.system.tasks[i]? = some (item, .call q k)) : s.request i = some q := by
  unfold request
  rw [h]

variable {after : System}

theorem originAfter_same
    (h : ∀ w, s.system.overlay.peers.lookup w = none → after.overlay.peers.lookup w = none) :
    s.originAfter i after = s.origin := by
  funext w
  refine if_neg ?_
  rintro ⟨hnone, hsome⟩
  rw [h w (Option.isNone_iff_eq_none.1 hnone)] at hsome
  cases hsome

theorem Bound.answered_same (h : s.Bound) (hget : s.system.tasks[i]? = some (item, .call q k))
    (hc : ControlPlane.PortSecurity.allowedIPs c.port = portIPs (s.told i)) :
    s.Answered item c (s.told i) s.system.overlay s.origin := by
  obtain ⟨_, _, _, htold⟩ := h.tasks i item _ hget
  exact ⟨hc, htold rfl, h.traced, h.origins⟩

theorem Bound.answered_attach (h : s.Bound) (hget : s.system.tasks[i]? = some (item, .call q k))
    (hc : ControlPlane.PortSecurity.allowedIPs c.port = portIPs (s.told i))
    (hid : request.workloadID = item.workloadID)
    (hips : request.allowedIPs = ControlPlane.PortSecurity.allowedIPs c.port)
    (hafter : after.overlay.peers = s.system.overlay.peers ∨
      s.system.overlay.peers.lookup request.workloadID = none ∧ ∃ peer : PeerConfig,
        after.overlay.peers = s.system.overlay.peers.put peer ∧
          Manager.Asked request (Manager.attachedIPs request.allowedIPs) peer) :
    s.Answered item c (s.told i) after.overlay (s.originAfter i after) := by
  obtain ⟨_, _, _, htold⟩ := h.tasks i item _ hget
  obtain hsame | ⟨hnone, peer, hput, hpeer, hpeerIPs, _⟩ := hafter
  · rw [originAfter_same fun w hw => hsame ▸ hw]
    exact ⟨hc, htold rfl, fun w peer hp => h.traced w peer (hsame ▸ hp),
      fun w hw => h.origins w (hsame ▸ hw)⟩
  have hlookup (w : Uuid) : after.overlay.peers.lookup w =
      if w = item.workloadID then some peer else s.system.overlay.peers.lookup w := by
    rw [hput, Table.lookup_put, hpeer, hid]
  have hself : s.originAfter i after item.workloadID = s.told i := by
    refine if_pos ⟨?_, ?_⟩
    · rw [← hid, hnone]
      rfl
    · rw [hlookup, if_pos rfl]
      rfl
  have hother {w : Uuid} (hw : w ≠ item.workloadID) : s.originAfter i after w = s.origin w := by
    refine if_neg ?_
    rw [hlookup, if_neg hw]
    rintro ⟨hn, hs⟩
    rw [Option.isNone_iff_eq_none.1 hn] at hs
    cases hs
  refine ⟨hc, htold rfl, ?_, ?_⟩
  · intro w peer' hp
    rw [hlookup] at hp
    by_cases hw : w = item.workloadID
    · subst hw
      rw [if_pos rfl] at hp
      cases hp
      rw [hself, hpeerIPs, hips, hc]
    · rw [if_neg hw] at hp
      rw [hother hw]
      exact h.traced w peer' hp
  · intro w hw
    rw [hlookup] at hw
    by_cases hwi : w = item.workloadID
    · subst hwi
      rw [hself]
      exact htold rfl
    · rw [if_neg hwi] at hw
      rw [hother hwi]
      exact h.origins w hw

theorem Bound.answered_revoke (h : s.Bound) (hget : s.system.tasks[i]? = some (item, .call q k))
    (hc : ControlPlane.PortSecurity.allowedIPs c.port = portIPs (s.told i))
    (hafter : ∀ w', after.overlay.peers.lookup w' =
      if w' = w then none else s.system.overlay.peers.lookup w') :
    s.Answered item c (s.told i) after.overlay (s.originAfter i after) := by
  obtain ⟨_, _, _, htold⟩ := h.tasks i item _ hget
  have hsub {w' : Uuid} {peer : PeerConfig} (hp : after.overlay.peers.lookup w' = some peer) :
      s.system.overlay.peers.lookup w' = some peer := by
    rw [hafter] at hp
    split at hp
    · cases hp
    · exact hp
  rw [originAfter_same]
  · refine ⟨hc, htold rfl, fun w' peer hp => h.traced w' peer (hsub hp), ?_⟩
    intro w' hw'
    obtain ⟨peer, hp⟩ := Option.isSome_iff_exists.1 hw'
    exact h.origins w' (Option.isSome_iff_exists.2 ⟨peer, hsub hp⟩)
  · intro w' hnone
    rw [hafter, hnone, ite_self]

theorem Bound.answered_resolve (h : s.Bound)
    (hget : s.system.tasks[i]? = some (item, .call (.resolveForWorkload w) k))
    (hc : ControlPlane.PortSecurity.allowedIPs c.port = portIPs (s.told i))
    (hw : w = item.workloadID) (env : Env) :
    s.Answered item (c.next (.resolveForWorkload w) (s.resolveForWorkload w env))
      (s.toldAfter i env) s.system.overlay s.origin := by
  obtain ⟨_, _, _, htold⟩ := h.tasks i item _ hget
  unfold toldAfter
  rw [request_eq hget]
  dsimp only
  unfold resolveForWorkload
  cases hport : s.ports.portForWorkload w with
  | none =>
    cases env.port with
    | error e => exact ⟨hc, htold rfl, h.traced, h.origins⟩
    | ok _ => exact ⟨rfl, by rintro _ ⟨⟩, h.traced, h.origins⟩
  | some port =>
    cases env.rules with
    | error e => exact ⟨hc, htold rfl, h.traced, h.origins⟩
    | ok rules =>
      refine ⟨rfl, ?_, h.traced, h.origins⟩
      rintro _ ⟨⟩
      exact hw ▸ Ports.portForWorkload_eq_some hport

theorem toldAfter_same (hr : ∀ w, s.request i ≠ some (.resolveForWorkload w)) (env : Env) :
    s.toldAfter i env = s.told i := by
  unfold toldAfter
  split
  · exact absurd ‹_› (hr _)
  · rfl

theorem Bound.answered (h : s.Bound) (worker : Worker)
    (hget : s.system.tasks[i]? = some (item, .call q k))
    (hq : (ControlPlane.dispatching item).allows c q)
    (hc : ControlPlane.PortSecurity.allowedIPs c.port = portIPs (s.told i)) (env : Env) :
    let x := s.system.answer worker item (s.surroundings i env) q
    s.Answered item (c.next q x.1) (s.toldAfter i env) x.2.overlay (s.originAfter i x.2) := by
  intro x
  have hreq := request_eq hget
  have hsame (hne : ∀ w, q ≠ .resolveForWorkload w) : s.toldAfter i env = s.told i :=
    toldAfter_same (fun w hw => hne w (Option.some.inj (hreq.symm.trans hw))) env
  cases q with
  | resolveForWorkload w =>
    have henv : s.surroundings i env =
        { env.toEnv with port := s.resolveForWorkload w env } := by
      unfold surroundings
      rw [hreq]
    have hx : x = (s.resolveForWorkload w env, s.system) := by
      change s.system.answer worker item (s.surroundings i env) _ = _
      rw [henv]
      rfl
    rw [hx, originAfter_same fun _ => id]
    exact h.answered_resolve hget hc hq env
  | attach request =>
    rw [hsame nofun]
    have hnext : c.next (.attach request) x.1 = c := rfl
    rw [hnext]
    exact h.answered_attach hget hc hq.1 hq.2 (Manager.attachWithAllowedIPs_peers ..)
  | revoke w =>
    rw [hsame nofun]
    have hnext : c.next (.revoke w) x.1 = c := rfl
    rw [hnext]
    obtain ⟨e, hr, _⟩ | ⟨m, hr, hm⟩ :=
      Manager.revoke_cases w (s.surroundings i env).backend s.system.overlay
    · have hx : x.2.overlay = s.system.overlay := congrArg Prod.snd hr
      rw [hx, originAfter_same fun v hv => hx ▸ hv]
      exact h.answered_same hget hc
    · have hx : x.2.overlay = m := congrArg Prod.snd hr
      exact h.answered_revoke hget hc fun w' => hx ▸ hm w'
  | listAttachedForWorkload w =>
    have horigin : s.originAfter i x.2 = s.origin := originAfter_same fun _ hv => hv
    rw [hsame nofun, horigin]
    refine h.answered_same hget ?_
    cases hx : x.1 with
    | error e => exact hc
    | ok volumes => exact hc
  | work op =>
    rw [hsame nofun]
    have hnext : c.next (.work op) x.1 = c := rfl
    have hx : x.2.overlay = s.system.overlay := by
      obtain ⟨e, _, hw⟩ | ⟨t, _, hw⟩ := System.write_cases s.system item
        (s.surroundings i env).now (op.racing (s.surroundings i env).aborted)
      · exact congrArg (fun y => y.2.overlay) hw
      · exact congrArg (fun y => y.2.overlay) hw
    rw [hnext, hx, originAfter_same fun v hv => hx ▸ hv]
    exact h.answered_same hget hc
  | _ =>
    have horigin : s.originAfter i x.2 = s.origin := originAfter_same fun _ hv => hv
    rw [hsame nofun, horigin]
    exact h.answered_same hget hc

theorem Bound.proceed (h : s.Bound) (i : Nat) (env : Env) : (s.proceed worker i env).Bound := by
  by_cases hcall : ∃ item q k, s.system.tasks[i]? = some (item, .call q k)
  · obtain ⟨item, q, k, hget⟩ := hcall
    obtain ⟨c, hc, hips, _⟩ := h.tasks i item _ hget
    have ha := h.answered worker hget hc.1 hips env
    have hafter : s.system.proceed worker i (s.surroundings i env) = _ :=
      System.proceed_call hget (s.surroundings i env)
    generalize hx : s.system.answer worker item (s.surroundings i env) q = x at ha hafter
    have hproceed : s.proceed worker i env =
        { s with
          system := { x.2 with tasks := s.system.tasks.set i (item, k x.1) }
          told := Function.update s.told i (s.toldAfter i env)
          origin := s.originAfter i x.2 } := by
      unfold Fabric.proceed
      rw [hafter]
      rfl
    rw [hproceed]
    refine ⟨h.indexed, ?_, ?_, ha.traced, ha.origins⟩
    · intro j hj
      change (s.system.tasks.set i _).length ≤ j at hj
      rw [length_set] at hj
      have hi := (List.getElem?_eq_some_iff.1 hget).1
      have hne : j ≠ i := by omega
      exact (update_of_ne hne _ _).trans (h.fresh j hj)
    · intro j item' p hj
      change (s.system.tasks.set i _)[j]? = _ at hj
      change ∃ c, _ ∧ _ = portIPs (Function.update s.told i (s.toldAfter i env) j) ∧
        (_ → ∀ port ∈ Function.update s.told i (s.toldAfter i env) j, _)
      by_cases hji : j = i
      · subst hji
        rw [getElem?_set_self (List.getElem?_eq_some_iff.1 hget).1] at hj
        cases hj
        rw [update_self]
        exact ⟨_, hc.2 _ trivial, ha.told, fun _ => ha.bound⟩
      · rw [getElem?_set_ne (Ne.symm hji)] at hj
        rw [update_of_ne hji]
        exact h.tasks j item' p hj
  · have hsame : s.system.proceed worker i (s.surroundings i env) = s.system :=
      (System.proceed_cases worker s.system i _).resolve_right hcall
    have hnone : ∀ w, s.request i ≠ some (.resolveForWorkload w) := by
      intro w hw
      unfold request at hw
      split at hw
      · exact hcall ⟨_, _, _, ‹_›⟩
      · cases hw
    have hproceed : s.proceed worker i env = s := by
      have horigin : s.originAfter i s.system = s.origin := originAfter_same fun _ => id
      unfold Fabric.proceed
      rw [hsame, toldAfter_same hnone, update_eq_self]
      exact congrArg (Fabric.mk _ _ _) horigin
    rw [hproceed]
    exact h

theorem Bound.step (h : s.Bound) (e : Event) (he : s.ReleasesIdle e) : (s.step worker e).Bound := by
  cases e with
  | plane e =>
    unfold Fabric.step
    dsimp only
    split
    · exact h
    · exact h.plane e (Bool.eq_false_of_not_eq_true ‹_›)
  | proceed i env => exact h.proceed i env
  | createPort portID networkID subnetID projectID cidr gatewayIP taken =>
    exact h.update fun _ => h.indexed.createPort
  | bindPort portID projectID workloadID =>
    refine h.update ?_
    intro ports hok
    split at hok
    · exact h.indexed.bindPort hok
    · cases hok
  | unbindPort portID projectID =>
    exact h.update fun _ => h.indexed.unbindPort fun p hp w hw hactive => hactive (he p hp w hw)
  | deletePort portID projectID => exact h.update fun _ => h.indexed.deletePort

end

/-- Addresses are held while only idle workloads lose ports. -/
theorem fixed_ips_held (worker : Worker) (leases : ControlPlane.Leases) (firstPort lastPort : Nat)
    (events : List Event)
    (h : Along (step worker) ReleasesIdle (init leases firstPort lastPort) events) :
    Throughout (step worker) FixedIPsHeld (init leases firstPort lastPort) events :=
  (h.throughout (Bound.init leases firstPort lastPort) fun _ e hs he => Bound.step hs e he).mono
    fun _ hs => Bound.fixedIPsHeld hs

def wiredWorker : Worker := { ControlPlane.sampleWorker with securityGroups := true }

def sampleEnv (now : Time) : Env where
  toEnv := { ControlPlane.calm now with selected := .ok ("p", ⟨9000, 9000, 9000, 9000, 9000⟩) }
  rules := .ok []

def sampleCall (task n : Nat) : List Event :=
  .plane (.claim "worker" 120 [] task) :: List.replicate n (.proceed task (sampleEnv task))

def sampleSubmission (w : Uuid) : Workload :=
  { ControlPlane.submission w with projectID := some 3 }

def deployedWith (portID w : Uuid) (task : Nat) : List Event :=
  .plane (.submit (sampleSubmission w)) :: .bindPort portID 3 w ::
    (sampleCall task 1 ++ sampleCall (task + 1) 3 ++ sampleCall (task + 2) 3 ++
      sampleCall (task + 3) 1 ++ sampleCall (task + 4) 6)

def samplePort (portID : Uuid) (taken : List String) : Event :=
  .createPort portID 1 2 3 ⟨10 * 256 ^ 3, 24⟩ none taken

def sampleFabric (events : List Event) : Fabric :=
  run (step wiredWorker) (init (fun _ => none) 51820 51829) events

theorem fixed_ips_held_stopped_workload :
    let events := [samplePort 5 [], samplePort 6 ["10.0.0.1"]] ++ deployedWith 5 7 0 ++
      deployedWith 6 8 5 ++ [.plane (.requestStop 7 2 1 10)] ++ sampleCall 10 5 ++
      [.unbindPort 5 3] ++ deployedWith 5 9 11
    (sampleFabric events).system.overlay.peers.rows.map
        (fun peer => (peer.workloadID, peer.allowedIPs)) =
      [(8, ["10.0.0.2/32"]), (9, ["10.0.0.1/32"])] ∧ (sampleFabric events).FixedIPsHeld := by
  intro events
  refine ⟨by decide +kernel, ?_⟩
  have h := fixed_ips_held wiredWorker (fun _ => none) 51820 51829 events (by decide +kernel)
  exact h.last

theorem fixed_ip_held_twice :
    let events := [samplePort 5 []] ++ deployedWith 5 7 0 ++ [.unbindPort 5 3] ++ deployedWith 5 8 5
    (sampleFabric events).system.overlay.peers.rows.map
        (fun peer => (peer.workloadID, peer.allowedIPs)) =
      [(7, ["10.0.0.1/32"]), (8, ["10.0.0.1/32"])] ∧
    ¬ Throughout (step wiredWorker) FixedIPsHeld (init (fun _ => none) 51820 51829) events := by
  intro events
  refine ⟨by decide +kernel, ?_⟩
  intro h
  have hheld : (sampleFabric events).FixedIPsHeld := h.last
  have horigins : ∃ p ∈ (sampleFabric events).origin 7, ∃ q ∈ (sampleFabric events).origin 8,
      p.subnetID = q.subnetID ∧ p.fixedIP = q.fixedIP := by decide +kernel
  obtain ⟨p, hp, q, hq, hsubnet, hip⟩ := horigins
  exact hheld.exclusive 7 8 (by decide) (by decide +kernel) (by decide +kernel) p hp q hq hsubnet
    hip

end Fabric

end OpenInfra.Neutron
