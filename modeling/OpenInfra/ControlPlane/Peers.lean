import Mathlib.Order.Disjoint
import OpenInfra.ControlPlane.Overlay
import OpenInfra.Frame.Run

namespace OpenInfra.ControlPlane
open Frame List

def hostText (a b c d : Nat) : String :=
  toString a ++ "." ++ toString b ++ "." ++ toString c ++ "." ++ toString d ++ "/32"

def hostAddress (a b c d : Nat) : Nat := ((a * 256 + b) * 256 + c) * 256 + d

/-- The addresses that WireGuard routes for an entry of `AllowedIPs`. -/
structure Routing where
  addresses : String → Set Nat
  host : ∀ a b c d, a < 256 → b < 256 → c < 256 → d < 256 →
    addresses (hostText a b c d) = {hostAddress a b c d}

def legacyOverlayRange : Set Nat := {n | n / 65536 = 10 * 256 + 254}

def Routing.routes (R : Routing) (ips : List String) : Set Nat :=
  {n | ∃ ip ∈ ips, n ∈ R.addresses ip}

namespace Manager

def attach (workloadID : Uuid) (leaseID : Option Nat) (containerID : String) (expiresAt now : Time)
    (b : Backend) : Exec Manager Text Unit :=
  attachWithAllowedIPs ⟨workloadID, leaseID, containerID, expiresAt, []⟩ now b

def rotate (request : OverlayRequest) (now : Time) (b b' : Backend) : Exec Manager Text Unit := do
  revoke request.workloadID b
  allocate request now b'

end Manager

inductive OverlayCall where
  | attach (workloadID : Uuid) (leaseID : Option Nat) (containerID : String) (expiresAt now : Time)
      (b : Backend)
  | attachWithAllowedIPs (request : OverlayRequest) (now : Time) (b : Backend)
  | revoke (workloadID : Uuid) (b : Backend)
  | rotate (request : OverlayRequest) (now : Time) (b b' : Backend)

namespace Manager

def perform : OverlayCall → Exec Manager Text Unit
  | .attach workloadID leaseID containerID expiresAt now b =>
    attach workloadID leaseID containerID expiresAt now b
  | .attachWithAllowedIPs request now b => attachWithAllowedIPs request now b
  | .revoke workloadID b => revoke workloadID b
  | .rotate request now b b' => rotate request now b b'

def step (m : Manager) (call : OverlayCall) : Manager := (perform call m).2

def Exclusive (R : Routing) (m : Manager) : Prop :=
  ∀ p ∈ m.peers.rows, ∀ q ∈ m.peers.rows, p.workloadID ≠ q.workloadID →
    p.port ≠ q.port ∧ p.address ≠ q.address ∧
      Disjoint (R.routes p.allowedIPs) (R.routes q.allowedIPs)

def Unclaimed (m : Manager) (workloadID : Uuid) : Prop :=
  ∀ p ∈ m.peers.rows, p.workloadID ≠ workloadID → p.allowedIPs ≠ [overlayAddress 0]

/-- Supplied addresses are one's own, the placeholder is used once. -/
def Separate (R : Routing) (supplied : Uuid → Set Nat) (m : Manager) : OverlayCall → Prop
  | .attach workloadID .. => m.Unclaimed workloadID
  | .attachWithAllowedIPs request _ _ =>
    R.routes request.allowedIPs ⊆ supplied request.workloadID ∧
      (request.allowedIPs = [] → m.Unclaimed request.workloadID)
  | .revoke .. => True
  | .rotate request .. => R.routes request.allowedIPs ⊆ supplied request.workloadID

def addressSpan : Nat := 62500

theorem overlayAddress_eq (port : Nat) :
    overlayAddress port = hostText 10 254 (port / 250 % 250) (port % 250 + 1) := by
  unfold overlayAddress hostText
  rw [show (toString 10 ++ "." ++ toString 254 ++ "." : String) = "10.254." from rfl]

def overlayHost (port : Nat) : Nat := hostAddress 10 254 (port / 250 % 250) (port % 250 + 1)

theorem addresses_overlayAddress (R : Routing) (port : Nat) :
    R.addresses (overlayAddress port) = {overlayHost port} := by
  rw [overlayAddress_eq]
  exact R.host _ _ _ _ (by omega) (by omega) (by omega) (by omega)

theorem overlayHost_mod (h : overlayHost port = overlayHost port') :
    port % addressSpan = port' % addressSpan := by
  unfold overlayHost hostAddress at h
  unfold addressSpan
  omega

/-- Between two ports that have the address of port `0`. -/
def Between (k port : Nat) : Prop := k * addressSpan < port ∧ port < (k + 1) * addressSpan

theorem Between.ne_zero (hp : Between k port) : overlayHost port ≠ overlayHost 0 := by
  intro h
  have hmod := overlayHost_mod h
  unfold Between addressSpan at *
  omega

theorem Between.inj (hp : Between k port) (hq : Between k port')
    (h : overlayHost port = overlayHost port') : port = port' := by
  have hmod := overlayHost_mod h
  unfold Between addressSpan at *
  omega

theorem overlayHost_of_address (R : Routing) (h : overlayAddress port = overlayAddress port') :
    overlayHost port = overlayHost port' := by
  have haddresses := congrArg R.addresses h
  rw [addresses_overlayAddress, addresses_overlayAddress] at haddresses
  exact Set.singleton_injective haddresses

theorem overlayHost_mem (port : Nat) : overlayHost port ∈ legacyOverlayRange := by
  change overlayHost port / 65536 = _
  unfold overlayHost hostAddress
  omega

theorem routes_overlayAddress (R : Routing) (port : Nat) :
    R.routes [overlayAddress port] = {overlayHost port} := by
  rw [← addresses_overlayAddress R port]
  apply Set.ext
  intro n
  constructor
  · rintro ⟨ip, hip, hn⟩
    rw [mem_singleton.1 hip] at hn
    exact hn
  · exact fun hn => ⟨_, mem_singleton_self _, hn⟩

structure Scanning (m : Manager) (k : Nat) : Prop where
  first : Between k m.firstPort
  lower : m.firstPort ≤ m.nextPort
  upper : m.nextPort ≤ m.lastPort
  last : Between k m.lastPort

structure Fresh (k : Nat) (peers : Table PeerConfig.workloadID) (request : OverlayRequest)
    (peer : PeerConfig) : Prop where
  workloadID : peer.workloadID = request.workloadID
  between : Between k peer.port
  address : peer.address = overlayAddress peer.port
  free : ∀ q ∈ peers.rows, q.port ≠ peer.port
  allowedIPs : peer.allowedIPs =
    if request.allowedIPs = [] then [overlayAddress peer.port] else request.allowedIPs

theorem Scanning.advance {m : Manager} (h : m.Scanning k) : Scanning { m with
      nextPort := if m.lastPort < m.nextPort + 1 then m.firstPort else m.nextPort + 1 } k := by
  have hlower := h.lower
  have hupper := h.upper
  refine ⟨h.first, ?_, ?_, h.last⟩
  all_goals
    dsimp only
    split <;> omega

theorem reserve_free (peers : Table PeerConfig.workloadID) (n : Nat) :
    Exec.Meets (fun m => m.peers = peers ∧ m.Scanning k) (reserve n)
      (Exec.Then
        (fun port m => (m.peers = peers ∧ m.Scanning k) ∧ Between k port ∧
          ∀ q ∈ peers.rows, q.port ≠ port)
        fun _ m => m.peers = peers ∧ m.Scanning k) := by
  induction n with
  | zero => exact .fail fun _ => id
  | succ n ih =>
    apply Exec.Meets.get_bind
    rintro m ⟨rfl, hscan⟩
    refine .bind (fun _ m' => m'.peers = m.peers ∧ m'.Scanning k) ?_ ?_
    · apply Exec.Meets.modify
      rintro _ rfl
      exact ⟨rfl, hscan.advance⟩
    · intro _
      split
      · exact ih
      · rename_i hfree
        refine .pure ?_
        intro m' hm'
        refine ⟨hm', ⟨hscan.first.1.trans_le hscan.lower, hscan.upper.trans_lt hscan.last.2⟩, ?_⟩
        intro q hq heq
        exact hfree (any_eq_true.2 ⟨q, hq, decide_eq_true heq⟩)

def Adds (k : Nat) (peers : Table PeerConfig.workloadID) (request : OverlayRequest)
    (m : Manager) : Prop :=
  m.Scanning k ∧ (m.peers = peers ∨ ∃ peer, m.peers = peers.put peer ∧ Fresh k peers request peer)

theorem addPeer_adds (peers : Table PeerConfig.workloadID) :
    Exec.Meets (fun m => m.peers = peers ∧ m.Scanning k) (addPeer request leaseID b)
      fun _ m => Adds k peers request m := by
  have hsame {m : Manager} (h : m.peers = peers ∧ m.Scanning k) : Adds k peers request m :=
    ⟨h.2, .inl h.1⟩
  refine .bind (fun port m => (m.peers = peers ∧ m.Scanning k) ∧ Between k port ∧
    ∀ q ∈ peers.rows, q.port ≠ port) ?_ ?_
  · apply Exec.Meets.get_bind
    intro m hm
    refine (reserve_free peers _).mono ?_ (Exec.Then.mono (fun _ _ => id) fun _ _ => hsame)
    rintro _ rfl
    exact hm
  · intro port
    refine .lift_bind (fun _ _ _ h => hsame h.1) fun _ _ => ?_
    apply Exec.Meets.modify
    rintro m ⟨⟨rfl, hscan⟩, hport, hfree⟩
    exact ⟨⟨hscan.first, hscan.lower, hscan.upper, hscan.last⟩,
      .inr ⟨_, rfl, rfl, hport, rfl, hfree, rfl⟩⟩

theorem allocate_adds (peers : Table PeerConfig.workloadID) (request : OverlayRequest) (now : Time)
    (b : Backend) :
    Exec.Meets (fun m => m.peers = peers ∧ m.Scanning k) (allocate request now b)
      fun _ m => Adds k peers request m := by
  have hfail {e : Text} : Exec.Meets (fun m => m.peers = peers ∧ m.Scanning k)
      (.fail e : Exec Manager Text Unit) fun _ m => Adds k peers request m :=
    .fail fun _ h => ⟨h.2, .inl h.1⟩
  unfold allocate
  split
  · exact hfail
  split_ifs
  · exact hfail
  · exact hfail
  apply Exec.Meets.get_bind
  intro m hm
  split
  · split
    · refine .pure ?_
      rintro _ rfl
      exact ⟨hm.2, .inl hm.1⟩
    · refine .fail ?_
      rintro _ rfl
      exact ⟨hm.2, .inl hm.1⟩
  · refine (addPeer_adds peers).mono ?_ fun _ _ => id
    rintro _ rfl
    exact hm

def attachedIPs (allowedIPs : List String) : List String :=
  if allowedIPs = [] then [overlayAddress 0] else allowedIPs

theorem attachedIPs_ne_nil (allowedIPs : List String) : attachedIPs allowedIPs ≠ [] := by
  unfold attachedIPs
  split
  · exact cons_ne_nil _ _
  · assumption

structure Asked (request : OverlayRequest) (allowedIPs : List String) (peer : PeerConfig) :
    Prop where
  workloadID : peer.workloadID = request.workloadID
  allowedIPs : peer.allowedIPs = allowedIPs
  expiresAt : peer.expiresAt = request.expiresAt

theorem allocate_peers (hips : request.allowedIPs ≠ []) (now : Time) (b : Backend) (m : Manager) :
    (allocate request now b m).2.peers = m.peers ∨
      m.peers.lookup request.workloadID = none ∧ ∃ peer : PeerConfig,
        (allocate request now b m).2.peers = m.peers.put peer ∧
          Asked request request.allowedIPs peer := by
  suffices h : Exec.Meets (· = m) (allocate request now b) fun _ m' => m'.peers = m.peers ∨
      m.peers.lookup request.workloadID = none ∧ ∃ peer : PeerConfig,
        m'.peers = m.peers.put peer ∧ Asked request request.allowedIPs peer from h m rfl
  have hsame {m' : Manager} (hm : m' = m) : m'.peers = m.peers := congrArg Manager.peers hm
  unfold allocate
  split
  · exact .fail fun _ hm => .inl (hsame hm)
  split_ifs
  · exact .fail fun _ hm => .inl (hsame hm)
  · exact .fail fun _ hm => .inl (hsame hm)
  apply Exec.Meets.get_bind
  rintro m rfl
  split
  · split
    · exact .pure fun _ hm => .inl (congrArg Manager.peers hm)
    · exact .fail fun _ hm => .inl (congrArg Manager.peers hm)
  rename_i hnone
  refine .bind (fun _ m' => m'.peers = m.peers) ?_ ?_
  · apply Exec.Meets.get_bind
    rintro m' rfl
    refine (reserve_meets m'.peers _).mono (fun _ => congrArg Manager.peers) ?_
    rintro (e | port) m'' hm''
    · exact .inl hm''
    · exact hm''
  · intro port
    refine .lift_bind (fun _ _ _ => .inl) fun _ _ => ?_
    apply Exec.Meets.modify
    intro m' hm'
    exact .inr ⟨hnone, _, congrArg (Table.put · _) hm', rfl, if_neg hips, rfl⟩

theorem attachWithAllowedIPs_peers (request : OverlayRequest) (now : Time) (b : Backend)
    (m : Manager) :
    (attachWithAllowedIPs request now b m).2.peers = m.peers ∨
      m.peers.lookup request.workloadID = none ∧ ∃ peer : PeerConfig,
        (attachWithAllowedIPs request now b m).2.peers = m.peers.put peer ∧
          Asked request (attachedIPs request.allowedIPs) peer := by
  have hips : { request with allowedIPs := attachedIPs request.allowedIPs }.allowedIPs ≠ [] :=
    attachedIPs_ne_nil request.allowedIPs
  obtain hsame | ⟨hnone, peer, hput, hpeer⟩ := allocate_peers hips now b m
  · exact .inl hsame
  · exact .inr ⟨hnone, peer, hput, hpeer.workloadID, hpeer.allowedIPs, hpeer.expiresAt⟩

structure Placed (R : Routing) (supplied : Uuid → Set Nat) (k : Nat) (m : Manager) : Prop where
  scanning : m.Scanning k
  port : ∀ p ∈ m.peers.rows, Between k p.port ∧ p.address = overlayAddress p.port
  distinct : ∀ p ∈ m.peers.rows, ∀ q ∈ m.peers.rows, p.port = q.port → p.workloadID = q.workloadID
  routes : ∀ p ∈ m.peers.rows, R.routes p.allowedIPs ⊆ supplied p.workloadID ∨
    p.allowedIPs = [overlayAddress p.port] ∨ p.allowedIPs = [overlayAddress 0]
  placeholder : ∀ p ∈ m.peers.rows, ∀ q ∈ m.peers.rows, p.allowedIPs = [overlayAddress 0] →
    q.allowedIPs = [overlayAddress 0] → p.workloadID = q.workloadID

section
variable {R : Routing} {supplied : Uuid → Set Nat} {m m' : Manager}

section
variable (h : m.Placed R supplied k)
include h

theorem Placed.subset (hscan : m'.Scanning k)
    (hrows : ∀ p ∈ m'.peers.rows, p ∈ m.peers.rows) : m'.Placed R supplied k where
  scanning := hscan
  port p hp := h.port p (hrows p hp)
  distinct p hp q hq := h.distinct p (hrows p hp) q (hrows q hq)
  routes p hp := h.routes p (hrows p hp)
  placeholder p hp q hq := h.placeholder p (hrows p hp) q (hrows q hq)

theorem Placed.put (hscan : m'.Scanning k)
    (hpeers : m'.peers = m.peers.put peer) (hfresh : Fresh k m.peers request peer)
    (hroutes : R.routes peer.allowedIPs ⊆ supplied peer.workloadID ∨
      peer.allowedIPs = [overlayAddress peer.port] ∨ peer.allowedIPs = [overlayAddress 0])
    (hplaceholder : peer.allowedIPs = [overlayAddress 0] → m.Unclaimed peer.workloadID) :
    m'.Placed R supplied k := by
  have hrows {p : PeerConfig} (hp : p ∈ m'.peers.rows) :
      p = peer ∨ p ∈ m.peers.rows ∧ p.workloadID ≠ peer.workloadID :=
    Table.mem_put.1 (hpeers ▸ hp)
  refine ⟨hscan, ?_, ?_, ?_, ?_⟩
  · intro p hp
    obtain rfl | ⟨hp, _⟩ := hrows hp
    · exact ⟨hfresh.between, hfresh.address⟩
    · exact h.port p hp
  · intro p hp q hq heq
    obtain rfl | ⟨hp, _⟩ := hrows hp
    · obtain rfl | ⟨hq, _⟩ := hrows hq
      · rfl
      · exact absurd heq.symm (hfresh.free q hq)
    · obtain rfl | ⟨hq, _⟩ := hrows hq
      · exact absurd heq (hfresh.free p hp)
      · exact h.distinct p hp q hq heq
  · intro p hp
    obtain rfl | ⟨hp, _⟩ := hrows hp
    · exact hroutes
    · exact h.routes p hp
  · intro p hp q hq hpp hqp
    obtain rfl | ⟨hp, hpw⟩ := hrows hp
    · obtain rfl | ⟨hq, hqw⟩ := hrows hq
      · rfl
      · exact absurd hqp (hplaceholder hpp q hq hqw)
    · obtain rfl | ⟨hq, _⟩ := hrows hq
      · exact absurd hpp (hplaceholder hqp p hp hpw)
      · exact h.placeholder p hp q hq hpp hqp

theorem Placed.allocate
    (hsupplied : R.routes request.allowedIPs ⊆ supplied request.workloadID)
    (houtside : ∀ w, Disjoint (supplied w) legacyOverlayRange) (now : Time) (b : Backend) :
    Placed R supplied k (allocate request now b m).2 := by
  obtain ⟨hscan, hpeers | ⟨peer, hpeers, hfresh⟩⟩ :=
    allocate_adds m.peers request now b m ⟨rfl, h.scanning⟩
  · exact h.subset hscan fun p hp => hpeers ▸ hp
  have hips := hfresh.allowedIPs
  split at hips
  · refine h.put hscan hpeers hfresh (.inr (.inl hips)) ?_
    intro hzero
    exact absurd (overlayHost_of_address R (singleton_inj.1 (hips.symm.trans hzero)))
      hfresh.between.ne_zero
  · refine h.put hscan hpeers hfresh (.inl ?_) ?_
    · rw [hips, hfresh.workloadID]
      exact hsupplied
    · intro hzero
      rw [← hips, hzero, routes_overlayAddress] at hsupplied
      exact absurd (overlayHost_mem 0)
        (Set.disjoint_left.1 (houtside _) (hsupplied (Set.mem_singleton _)))

theorem Placed.attachWithAllowedIPs
    (hsupplied : R.routes request.allowedIPs ⊆ supplied request.workloadID)
    (hunclaimed : request.allowedIPs = [] → m.Unclaimed request.workloadID)
    (houtside : ∀ w, Disjoint (supplied w) legacyOverlayRange) (now : Time) (b : Backend) :
    Placed R supplied k (attachWithAllowedIPs request now b m).2 := by
  by_cases hnil : request.allowedIPs = []
  · have hattach : Manager.attachWithAllowedIPs request now b =
        Manager.allocate { request with allowedIPs := [overlayAddress 0] } now b := by
      unfold Manager.attachWithAllowedIPs
      rw [if_pos hnil]
    rw [hattach]
    obtain ⟨hscan, hpeers | ⟨peer, hpeers, hfresh⟩⟩ := allocate_adds m.peers
      { request with allowedIPs := [overlayAddress 0] } now b m ⟨rfl, h.scanning⟩
    · exact h.subset hscan fun p hp => hpeers ▸ hp
    have hips : peer.allowedIPs = [overlayAddress 0] := hfresh.allowedIPs
    refine h.put hscan hpeers hfresh (.inr (.inr hips)) fun _ => ?_
    rw [hfresh.workloadID]
    exact hunclaimed hnil
  · have hattach : Manager.attachWithAllowedIPs request now b =
        Manager.allocate request now b := by
      unfold Manager.attachWithAllowedIPs
      rw [if_neg hnil]
    rw [hattach]
    exact h.allocate hsupplied houtside now b

end

theorem revoke_keeps {P : Manager → Prop} (h : P m)
    (herase : P { m with peers := m.peers.erase w }) (b : Backend) : P (revoke w b m).2 := by
  suffices hm : Exec.Meets (· = m) (Manager.revoke w b) fun _ m' => P m' from hm m rfl
  apply Exec.Meets.get_bind
  rintro m rfl
  split
  · exact .pure fun _ hm => hm ▸ h
  · refine .lift_bind (fun _ _ _ hm => hm ▸ h) fun _ _ => ?_
    refine .lift_bind (fun _ _ _ hm => hm ▸ h) fun _ _ => ?_
    apply Exec.Meets.modify
    rintro m rfl
    exact herase

theorem rotate_keeps {P : Manager → Prop} (hrevoke : P (revoke request.workloadID b m).2)
    (hallocate : ∀ m', P m' → P (allocate request now b' m').2) :
    P (rotate request now b b' m).2 := by
  cases hr : Manager.revoke request.workloadID b m with
  | mk r m' =>
    rw [hr] at hrevoke
    cases r with
    | error e =>
      rw [Manager.rotate, Exec.bind_of_error hr]
      exact hrevoke
    | ok u =>
      rw [Manager.rotate, Exec.bind_of_ok hr]
      exact hallocate m' hrevoke

section
variable (h : m.Placed R supplied k)
include h

theorem Placed.revoke (w : Uuid) (b : Backend) : Placed R supplied k (revoke w b m).2 := by
  refine revoke_keeps h (h.subset ?_ fun p hp => mem_of_mem_filter hp) b
  exact ⟨h.scanning.first, h.scanning.lower, h.scanning.upper, h.scanning.last⟩

theorem Placed.rotate
    (hsupplied : R.routes request.allowedIPs ⊆ supplied request.workloadID)
    (houtside : ∀ w, Disjoint (supplied w) legacyOverlayRange) (now : Time) (b b' : Backend) :
    Placed R supplied k (rotate request now b b' m).2 :=
  rotate_keeps (h.revoke request.workloadID b) fun _ hm => hm.allocate hsupplied houtside now b'

theorem Placed.step
    (houtside : ∀ w, Disjoint (supplied w) legacyOverlayRange) (call : OverlayCall)
    (hcall : m.Separate R supplied call) : (m.step call).Placed R supplied k := by
  cases call with
  | attach workloadID leaseID containerID expiresAt now b =>
    have hnone : R.routes [] ⊆ supplied workloadID := by
      rintro n ⟨ip, hip, _⟩
      exact absurd hip not_mem_nil
    let request : OverlayRequest := ⟨workloadID, leaseID, containerID, expiresAt, []⟩
    have hunclaimed : request.allowedIPs = [] → m.Unclaimed request.workloadID := fun _ => hcall
    exact h.attachWithAllowedIPs hnone hunclaimed houtside now b
  | attachWithAllowedIPs request now b =>
    exact h.attachWithAllowedIPs hcall.1 hcall.2 houtside now b
  | revoke workloadID b => exact h.revoke workloadID b
  | rotate request now b b' => exact h.rotate hcall houtside now b b'

theorem Placed.exclusive
    (hdisjoint : ∀ w w', w ≠ w' → Disjoint (supplied w) (supplied w'))
    (houtside : ∀ w, Disjoint (supplied w) legacyOverlayRange) : m.Exclusive R := by
  -- a peer whose routes are not the workload's own routes one overlay address
  have hroutes : ∀ p ∈ m.peers.rows, R.routes p.allowedIPs ⊆ supplied p.workloadID ∨
      ∃ port, R.routes p.allowedIPs = {overlayHost port} ∧
        (port = p.port ∨ port = 0 ∧ p.allowedIPs = [overlayAddress 0]) := by
    intro p hp
    obtain hsub | hown | hzero := h.routes p hp
    · exact .inl hsub
    · exact .inr ⟨p.port, hown ▸ routes_overlayAddress R p.port, .inl rfl⟩
    · exact .inr ⟨0, hzero ▸ routes_overlayAddress R 0, .inr ⟨rfl, hzero⟩⟩
  intro p hp q hq hne
  obtain ⟨hbetween, haddress⟩ := h.port p hp
  obtain ⟨hbetween', haddress'⟩ := h.port q hq
  have hport : p.port ≠ q.port := fun heq => hne (h.distinct p hp q hq heq)
  refine ⟨hport, ?_, ?_⟩
  · rw [haddress, haddress']
    exact fun heq => hport (hbetween.inj hbetween' (overlayHost_of_address R heq))
  · obtain hsub | ⟨port, hset, hfrom⟩ := hroutes p hp
    · obtain hsub' | ⟨port', hset', _⟩ := hroutes q hq
      · exact (hdisjoint _ _ hne).mono hsub hsub'
      · rw [hset']
        exact (houtside _).mono hsub (Set.singleton_subset_iff.2 (overlayHost_mem port'))
    · obtain hsub' | ⟨port', hset', hfrom'⟩ := hroutes q hq
      · rw [hset]
        exact ((houtside _).mono hsub' (Set.singleton_subset_iff.2 (overlayHost_mem port))).symm
      · rw [hset, hset', Set.disjoint_singleton]
        intro heq
        obtain rfl | ⟨rfl, hzero⟩ := hfrom
        · obtain rfl | ⟨rfl, _⟩ := hfrom'
          · exact hport (hbetween.inj hbetween' heq)
          · exact hbetween.ne_zero heq
        · obtain rfl | ⟨_, hzero'⟩ := hfrom'
          · exact hbetween'.ne_zero heq.symm
          · exact hne (h.placeholder p hp q hq hzero hzero')

end

end

/-- Exclusive if ports, addresses and placeholder do not collide. -/
theorem peers_exclusive (R : Routing) (supplied : Uuid → Set Nat) (firstPort lastPort : Nat)
    (m : Manager) (calls : List OverlayCall) (hm : newManager firstPort lastPort = .ok m)
    (hspan : lastPort < addressSpan ∨ addressSpan < firstPort)
    (hdisjoint : ∀ w w', w ≠ w' → Disjoint (supplied w) (supplied w'))
    (houtside : ∀ w, Disjoint (supplied w) legacyOverlayRange)
    (hcalls : Along step (Separate R supplied) m calls) :
    Throughout step (Exclusive R) m calls := by
  obtain ⟨⟨⟩, hrange, hinit⟩ := bind_eq_ok.1 hm
  cases hinit
  obtain ⟨hfirst, hlast, hle⟩ := (ensure_eq_ok.1 hrange)
  obtain ⟨k, hlower, hupper⟩ : ∃ k, Between k firstPort ∧ Between k lastPort := by
    unfold Between addressSpan at *
    rcases hspan with hspan | hspan
    · exact ⟨0, by omega⟩
    · exact ⟨1, by omega⟩
  have hplaced : Placed R supplied k (init firstPort lastPort) :=
    ⟨⟨hlower, Nat.le_refl _, hle, hupper⟩, forall_mem_nil _, forall_mem_nil _,
      forall_mem_nil _, forall_mem_nil _⟩
  exact (hcalls.throughout hplaced fun _ call h hcall => h.step houtside call hcall).mono
    fun _ h => h.exclusive hdisjoint houtside

theorem hostText_inj (h : hostText a b c d = hostText a' b' c' d') :
    a = a' ∧ b = b' ∧ c = c' ∧ d = d' := by
  have h := congrArg String.toList h
  unfold hostText at h
  simp only [String.toList_append, append_assoc] at h
  obtain ⟨ha, h⟩ := digits_append_inj (by decide) h
  obtain ⟨hb, h⟩ := digits_append_inj (by decide) h
  obtain ⟨hc, h⟩ := digits_append_inj (by decide) h
  exact ⟨ha, hb, hc, (digits_append_inj (by decide) h).1⟩

def hostRouting : Routing where
  addresses ip := {n | ∃ a b c d, ip = hostText a b c d ∧ n = hostAddress a b c d}
  host a b c d _ _ _ _ := by
    apply Set.ext
    intro n
    constructor
    · rintro ⟨a', b', c', d', htext, rfl⟩
      obtain ⟨rfl, rfl, rfl, rfl⟩ := hostText_inj htext
      rfl
    · rintro rfl
      exact ⟨a, b, c, d, rfl, rfl⟩

def sampleRequest (workloadID : Uuid) (allowedIPs : List String) : OverlayRequest :=
  ⟨workloadID, some workloadID.val, "container", 200, allowedIPs⟩

def sampleSupplied (workloadID : Uuid) : Set Nat :=
  {n | workloadID = 1 ∧ n = hostAddress 192 0 2 1}

theorem peers_exclusive_two_workloads :
    Throughout step (Exclusive hostRouting) (init 51820 51821)
      [.attachWithAllowedIPs (sampleRequest 1 ["192.0.2.1/32"]) 100 .done,
        .attach 2 (some 2) "container" 200 100 .done] := by
  refine peers_exclusive hostRouting sampleSupplied 51820 51821 _ _ rfl (by decide) ?_ ?_ ?_
  · intro w w' hne
    exact Set.disjoint_left.2 fun n hn hn' => hne (hn.1.trans hn'.1.symm)
  · intro w
    refine Set.disjoint_left.2 fun n hn hrange => ?_
    rw [hn.2] at hrange
    exact absurd hrange (by decide : ¬ hostAddress 192 0 2 1 / 65536 = 10 * 256 + 254)
  · refine ⟨⟨?_, nofun⟩, ?_, trivial⟩
    · rintro n ⟨ip, hip, hn⟩
      rw [mem_singleton.1 hip,
        show "192.0.2.1/32" = hostText 192 0 2 1 by decide +kernel] at hn
      rw [hostRouting.host 192 0 2 1 (by decide) (by decide) (by decide) (by decide)] at hn
      exact ⟨rfl, hn⟩
    · have hrows : ∀ p ∈ ((init 51820 51821).step (.attachWithAllowedIPs
          (sampleRequest 1 ["192.0.2.1/32"]) 100 .done)).peers.rows,
          p.allowedIPs ≠ [overlayAddress 0] := by decide +kernel
      exact fun p hp _ => hrows p hp

section
variable {m : Manager}

theorem reservePort_free (hrange : m.firstPort ≤ m.lastPort)
    (hfree : ∀ p ∈ m.peers.rows, p.port ≠ m.nextPort) (hnext : m.nextPort < m.lastPort) :
    reservePort m = (.ok m.nextPort, { m with nextPort := m.nextPort + 1 }) := by
  obtain ⟨k, hk⟩ : ∃ k, m.lastPort + 1 - m.firstPort = k + 1 := ⟨m.lastPort - m.firstPort, by omega⟩
  have hany : m.peers.rows.any (·.port = m.nextPort) = false :=
    any_eq_false.2 fun p hp => by simpa using hfree p hp
  have hwrap : (if m.lastPort < m.nextPort + 1 then m.firstPort else m.nextPort + 1) =
      m.nextPort + 1 := if_neg (by omega)
  change reserve (m.lastPort + 1 - m.firstPort) m = _
  rw [hk]
  unfold reserve
  rw [Exec.get_bind, hany]
  change (Except.ok m.nextPort, { m with
    nextPort := if m.lastPort < m.nextPort + 1 then m.firstPort else m.nextPort + 1 }) = _
  rw [hwrap]

def keyless : Backend := { Backend.done with privateKey := .error .empty }

theorem step_new (hnone : m.peers.lookup w = none) :
    m.step (.attachWithAllowedIPs (sampleRequest w [ip]) 100 b) =
      (addPeer (sampleRequest w [ip]) w.val b m).2 := by
  change (allocate (sampleRequest w [ip]) 100 b m).2 = _
  have halloc : allocate (sampleRequest w [ip]) 100 b m =
      addPeer (sampleRequest w [ip]) w.val b m := by
    unfold allocate
    rw [show (sampleRequest w [ip]).leaseID = some w.val from rfl]
    dsimp only
    rw [if_neg (by simp [sampleRequest]), if_neg (by simp [sampleRequest])]
    dsimp only [bind, Exec.get]
    rw [show m.peers.lookup (sampleRequest w [ip]).workloadID = none from hnone]
  rw [halloc]

section
variable (hrange : m.firstPort ≤ m.lastPort)
include hrange

theorem step_keyless
    (hfree : ∀ p ∈ m.peers.rows, p.port ≠ m.nextPort) (hnext : m.nextPort < m.lastPort)
    (hnone : m.peers.lookup w = none) :
    m.step (.attachWithAllowedIPs (sampleRequest w [ip]) 100 keyless) =
      { m with nextPort := m.nextPort + 1 } := by
  rw [step_new hnone, addPeer, Exec.bind_of_ok (reservePort_free hrange hfree hnext)]
  rfl

theorem step_done
    (hfree : ∀ p ∈ m.peers.rows, p.port ≠ m.nextPort) (hnext : m.nextPort < m.lastPort)
    (hnone : m.peers.lookup w = none) :
    m.step (.attachWithAllowedIPs (sampleRequest w [ip]) 100 .done) =
      { m with
        nextPort := m.nextPort + 1
        peers := m.peers.put
          ⟨w, w.val, "container", m.nextPort, overlayAddress m.nextPort, 200, [ip]⟩ } := by
  rw [step_new hnone, addPeer, Exec.bind_of_ok (reservePort_free hrange hfree hnext)]
  rfl

theorem run_keyless
    (hfree : ∀ p ∈ m.peers.rows, p.port < m.nextPort) (hnone : m.peers.lookup w = none)
    (k : Nat) (hk : m.nextPort + k ≤ m.lastPort) :
    run step m (replicate k
        (.attachWithAllowedIPs (sampleRequest w [ip]) 100 keyless)) =
      { m with nextPort := m.nextPort + k } := by
  induction k generalizing m with
  | zero => rfl
  | succ k ih =>
    rw [replicate_succ, run_cons,
      step_keyless hrange (fun p hp => Nat.ne_of_lt (hfree p hp)) (by omega) hnone]
    have hk' : m.nextPort + 1 + k ≤ m.lastPort := by omega
    have hrest := @ih { m with nextPort := m.nextPort + 1 } hrange
      (fun p hp => Nat.lt_succ_of_lt (hfree p hp)) hnone hk'
    rw [hrest, Nat.add_assoc, Nat.add_comm 1 k]

end

end

def wrappedCalls : List OverlayCall :=
  .attachWithAllowedIPs (sampleRequest 1 ["192.0.2.1/32"]) 100 .done ::
    List.replicate 62499 (.attachWithAllowedIPs (sampleRequest 3 ["192.0.2.3/32"]) 100 keyless) ++
    [.attachWithAllowedIPs (sampleRequest 2 ["192.0.2.2/32"]) 100 .done]

def samplePeer (w : Uuid) (port : Nat) (ip : String) : PeerConfig :=
  ⟨w, w.val, "container", port, overlayAddress port, 200, [ip]⟩

def oneOfMany : Manager := ⟨Table.empty.put (samplePeer 1 1 "192.0.2.1/32"), 2, 1, 65535⟩

theorem run_wrappedCalls :
    (run step (init 1 65535) wrappedCalls).peers =
      oneOfMany.peers.put (samplePeer 2 62501 "192.0.2.2/32") := by
  have hfirst : step (init 1 65535)
      (.attachWithAllowedIPs (sampleRequest 1 ["192.0.2.1/32"]) 100 .done) = oneOfMany :=
    step_done (by decide) (forall_mem_nil _) (by decide) rfl
  have hmiddle : run step oneOfMany (replicate 62499
      (.attachWithAllowedIPs (sampleRequest 3 ["192.0.2.3/32"]) 100 keyless)) =
      { oneOfMany with nextPort := 62501 } :=
    run_keyless (by decide) (by decide) rfl 62499 (by decide)
  have hlast : step { oneOfMany with nextPort := 62501 }
      (.attachWithAllowedIPs (sampleRequest 2 ["192.0.2.2/32"]) 100 .done) =
      { oneOfMany with
        nextPort := 62502
        peers := oneOfMany.peers.put (samplePeer 2 62501 "192.0.2.2/32") } :=
    step_done (by decide) (by decide) (by decide) rfl
  rw [wrappedCalls, cons_append, run_cons, hfirst, run_append, hmiddle, run_cons, hlast,
    run_nil]

theorem peers_not_exclusive :
    ¬ Throughout step (Exclusive hostRouting) (init 51820 51821)
        [.attach 1 (some 1) "container" 200 100 .done,
          .attach 2 (some 2) "container" 200 100 .done] ∧
      ¬ Throughout step (Exclusive hostRouting) (init 1 65535) wrappedCalls := by
  constructor
  · intro h
    have hexclusive : Exclusive hostRouting _ := h.last
    have hdisjoint := (hexclusive (samplePeer 1 51820 (overlayAddress 0)) mem_cons_self
      (samplePeer 2 51821 (overlayAddress 0)) (mem_cons_of_mem _ mem_cons_self)
      (by decide)).2.2
    change Disjoint (hostRouting.routes [overlayAddress 0]) (hostRouting.routes [overlayAddress 0])
      at hdisjoint
    rw [routes_overlayAddress, Set.disjoint_singleton] at hdisjoint
    exact hdisjoint rfl
  · intro h
    have hexclusive : Exclusive hostRouting (run step (init 1 65535) wrappedCalls) := h.last
    unfold Exclusive at hexclusive
    rw [run_wrappedCalls] at hexclusive
    have hmem : samplePeer 1 1 "192.0.2.1/32" ∈
        (oneOfMany.peers.put (samplePeer 2 62501 "192.0.2.2/32")).rows :=
      Table.mem_put.2 (.inr ⟨mem_cons_self, by decide⟩)
    have haddress := (hexclusive _ hmem _ (Table.mem_put.2 (.inl rfl)) (by decide)).2.1
    exact haddress (by decide +kernel : overlayAddress 1 = overlayAddress 62501)

end Manager

end OpenInfra.ControlPlane
