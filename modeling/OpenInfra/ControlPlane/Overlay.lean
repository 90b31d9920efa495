import OpenInfra.ControlPlane.Workload
import OpenInfra.Frame.Exec

namespace OpenInfra.ControlPlane
open Frame

abbrev Text := ByteArray

def text (s : String) : Text := s.toUTF8

structure PeerConfig where
  workloadID : Uuid
  leaseID : Nat
  containerID : String
  port : Nat
  address : String
  expiresAt : Time
  allowedIPs : List String

structure Manager where
  peers : Table PeerConfig.workloadID
  nextPort : Nat
  firstPort : Nat
  lastPort : Nat

/-- The workload is one of the store, so its id is never empty. No lease is no lease id; `0` is
the time never set. -/
structure OverlayRequest where
  workloadID : Uuid
  leaseID : Option Nat
  containerID : String
  expiresAt : Time
  allowedIPs : List String

structure Backend where
  privateKey : Except Text Unit
  publicKey : Except Text Unit
  configure : Except Text Unit
  attachNamespace : Except Text Unit
  detachNamespace : Except Text Unit
  revoke : Except Text Unit

def Backend.done : Backend := ⟨.ok (), .ok (), .ok (), .ok (), .ok (), .ok ()⟩

/-- A peer whose namespace cannot be attached is dropped. -/
def Backend.setUp (b : Backend) : Except Text Unit := do
  b.privateKey.mapError (text "generate WireGuard key: " ++ ·)
  b.publicKey.mapError (text "derive WireGuard public key: " ++ ·)
  b.configure
  b.attachNamespace.mapError (text "attach workload namespace: " ++ ·)

namespace Manager

def init (firstPort lastPort : Nat) : Manager := ⟨.empty, firstPort, firstPort, lastPort⟩

def newManager (firstPort lastPort : Nat) : Except Text Manager := do
  ensure (1 ≤ firstPort ∧ lastPort ≤ 65535 ∧ firstPort ≤ lastPort)
    (text "invalid wireguard port range")
  .ok (init firstPort lastPort)

def overlayAddress (port : Nat) : String :=
  "10.254." ++ toString (port / 250 % 250) ++ "." ++ toString (port % 250 + 1) ++ "/32"

def reserve : Nat → Exec Manager Text Nat
  | 0 => .fail (text "wireguard peer port range is exhausted")
  | n + 1 => do
    let m ← .get
    .modify fun m =>
      { m with nextPort := if m.lastPort < m.nextPort + 1 then m.firstPort else m.nextPort + 1 }
    if m.peers.rows.any (·.port = m.nextPort) then reserve n else pure m.nextPort

def reservePort : Exec Manager Text Nat := do
  let m ← .get
  reserve (m.lastPort + 1 - m.firstPort)

def addPeer (request : OverlayRequest) (leaseID : Nat) (b : Backend) : Exec Manager Text Unit := do
  let port ← reservePort
  let allowedIPs := if request.allowedIPs = [] then [overlayAddress port] else request.allowedIPs
  .lift b.setUp
  .modify fun m =>
    { m with
      peers := m.peers.put
        { workloadID := request.workloadID
          leaseID := leaseID
          containerID := request.containerID
          port := port
          address := overlayAddress port
          expiresAt := request.expiresAt
          allowedIPs := allowedIPs } }

def allocate (request : OverlayRequest) (now : Time) (b : Backend) : Exec Manager Text Unit :=
  match request.leaseID with
  | none => .fail (text "an active lease is required for overlay allocation")
  | some leaseID =>
    if request.containerID = "" ∨ request.expiresAt = 0 then
      .fail (text "an active lease is required for overlay allocation")
    else if request.expiresAt ≤ now then
      .fail (text "lease has expired")
    else do
      let m ← .get
      match m.peers.lookup request.workloadID with
      | some existing =>
        if existing.leaseID = leaseID then pure ()
        else .fail (text "workload already has a different lease")
      | none => addPeer request leaseID b

def attachWithAllowedIPs (request : OverlayRequest) (now : Time) (b : Backend) :
    Exec Manager Text Unit :=
  let allowedIPs := if request.allowedIPs = [] then [overlayAddress 0] else request.allowedIPs
  allocate { request with allowedIPs := allowedIPs } now b

def revoke (w : Uuid) (b : Backend) : Exec Manager Text Unit := do
  let m ← .get
  match m.peers.lookup w with
  | none => pure ()
  | some _ => do
    .lift b.detachNamespace
    .lift b.revoke
    .modify fun m => { m with peers := m.peers.erase w }

end Manager

inductive Attachment (request : OverlayRequest) (m : Manager) : Except Text Unit → Manager → Prop
  | failed (h : m'.peers = m.peers) : Attachment request m (.error e) m'
  | existing {peer : PeerConfig} (hp : m.peers.lookup request.workloadID = some peer)
      (hl : some peer.leaseID = request.leaseID) : Attachment request m (.ok ()) m
  | added {peer : PeerConfig} (hnone : m.peers.lookup request.workloadID = none)
      (hw : peer.workloadID = request.workloadID) (hl : some peer.leaseID = request.leaseID)
      (h : m'.peers = m.peers.put peer) : Attachment request m (.ok ()) m'

namespace Manager
variable {m : Manager}

theorem reserve_meets (peers : Table PeerConfig.workloadID) (n : Nat) :
    Exec.Meets (fun m => m.peers = peers) (reserve n) fun _ m => m.peers = peers := by
  induction n with
  | zero => exact .fail fun _ => id
  | succ n ih =>
    apply Exec.Meets.get_bind
    intro m hm
    refine .bind (fun _ m => m.peers = peers) ?_ ?_
    · apply Exec.Meets.modify
      rintro _ rfl
      exact hm
    · intro _
      split
      · exact ih
      · exact .pure fun _ => id

theorem addPeer_meets (hl : request.leaseID = some leaseID)
    (hnone : m.peers.lookup request.workloadID = none) :
    Exec.Meets (· = m) (addPeer request leaseID b) (Attachment request m) := by
  refine .bind (fun _ m' => m'.peers = m.peers) ?_ ?_
  · apply Exec.Meets.get_bind
    intro m' hm'
    refine (reserve_meets m.peers _).mono ?_ ?_
    · rintro _ rfl
      rw [hm']
    · rintro (e | port) m'' hm''
      · exact .failed hm''
      · exact hm''
  · intro port
    refine .lift_bind (fun _ _ _ => .failed) fun _ _ => ?_
    apply Exec.Meets.modify
    intro m' hm'
    exact .added hnone rfl hl.symm (congrArg (Table.put · _) hm')

theorem allocate_attachment (request : OverlayRequest) (now : Time) (b : Backend) (m : Manager) :
    Attachment request m (allocate request now b m).1 (allocate request now b m).2 := by
  suffices h : Exec.Meets (· = m) (allocate request now b) (Attachment request m) from h m rfl
  have hfail {e : Text} :
      Exec.Meets (· = m) (.fail e) (Attachment request m) := .fail fun m' hm' => .failed (hm' ▸ rfl)
  unfold allocate
  split
  · exact hfail
  · rename_i leaseID hl
    split_ifs
    · exact hfail
    · exact hfail
    · apply Exec.Meets.get_bind
      rintro m' rfl
      split
      · rename_i existing hp
        split
        · rename_i heq
          refine .pure ?_
          rintro m' rfl
          exact .existing hp (heq ▸ hl.symm)
        · exact hfail
      · exact addPeer_meets hl ‹_›

theorem attachWithAllowedIPs_attachment (request : OverlayRequest) (now : Time) (b : Backend)
    (m : Manager) :
    Attachment request m (attachWithAllowedIPs request now b m).1
      (attachWithAllowedIPs request now b m).2 := by
  unfold attachWithAllowedIPs
  generalize hall :
    (if request.allowedIPs = [] then [overlayAddress 0] else request.allowedIPs) = ips
  have h := allocate_attachment { request with allowedIPs := ips } now b m
  revert h
  generalize (allocate { request with allowedIPs := ips } now b m).1 = r,
    (allocate { request with allowedIPs := ips } now b m).2 = m'
  intro h
  cases h with
  | failed h => exact .failed h
  | existing hp hl => exact .existing hp hl
  | added hnone hw hl h => exact .added hnone hw hl h

theorem revoke_cases (w : Uuid) (b : Backend) (m : Manager) :
    (∃ e, revoke w b m = (.error e, m) ∧ (b.detachNamespace = .error e ∨ b.revoke = .error e)) ∨
      ∃ m', revoke w b m = (.ok (), m') ∧
        ∀ w', m'.peers.lookup w' = if w' = w then none else m.peers.lookup w' := by
  suffices h : Exec.Meets (· = m) (revoke w b) fun r m' =>
      (∃ e, r = .error e ∧ m' = m ∧ (b.detachNamespace = .error e ∨ b.revoke = .error e)) ∨
      r = .ok () ∧ ∀ w', m'.peers.lookup w' = if w' = w then none else m.peers.lookup w' by
    obtain ⟨e, he, hm, hb⟩ | ⟨hok, hm⟩ := h m rfl
    · exact .inl ⟨e, Prod.ext he hm, hb⟩
    · exact .inr ⟨_, Prod.ext hok rfl, hm⟩
  apply Exec.Meets.get_bind
  rintro m rfl
  split
  · rename_i hnone
    refine .pure ?_
    rintro m rfl
    refine .inr ⟨rfl, fun w' => ?_⟩
    split
    · rename_i hw
      rw [hw, hnone]
    · rfl
  · refine .lift_bind (fun e he m' hm' => .inl ⟨e, rfl, hm', .inl he⟩) fun _ _ => ?_
    refine .lift_bind (fun e he m' hm' => .inl ⟨e, rfl, hm', .inr he⟩) fun _ _ => ?_
    apply Exec.Meets.modify
    rintro m rfl
    exact .inr ⟨rfl, Table.lookup_erase _ _⟩

end Manager

end OpenInfra.ControlPlane
