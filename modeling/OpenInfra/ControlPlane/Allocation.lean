import OpenInfra.ControlPlane.Peers

namespace OpenInfra.ControlPlane.Manager
open Frame

def exhausted : Text := text "wireguard peer port range is exhausted"

def advance (m : Manager) : Manager :=
  { m with nextPort := if m.lastPort < m.nextPort + 1 then m.firstPort else m.nextPort + 1 }

structure Within (m : Manager) : Prop where
  lower : m.firstPort ≤ m.nextPort
  upper : m.nextPort ≤ m.lastPort

def Full (m : Manager) : Prop :=
  ∀ port, m.firstPort ≤ port → port ≤ m.lastPort → ∃ q ∈ m.peers.rows, q.port = port

def distance (m : Manager) (port : Nat) : Nat :=
  if m.nextPort ≤ port then port - m.nextPort
  else port + (m.lastPort + 1 - m.firstPort) - m.nextPort

def newPeer (request : OverlayRequest) (leaseID port : Nat) : PeerConfig where
  workloadID := request.workloadID
  leaseID := leaseID
  containerID := request.containerID
  port := port
  address := overlayAddress port
  expiresAt := request.expiresAt
  allowedIPs := if request.allowedIPs = [] then [overlayAddress port] else request.allowedIPs

variable {m : Manager}

theorem Within.advance (h : m.Within) : m.advance.Within := by
  have hlower := h.lower
  have hupper := h.upper
  constructor <;> dsimp only [Manager.advance] <;> split <;> omega

theorem reserve_succ (n : Nat) (m : Manager) :
    reserve (n + 1) m = if m.peers.rows.any (·.port = m.nextPort) then reserve n m.advance
      else (.ok m.nextPort, m.advance) := by
  change (if _ then reserve n else pure m.nextPort : Exec Manager Text Nat) m.advance = _
  split <;> rfl

theorem used_iff :
    (m.peers.rows.any (·.port = port)) = true ↔ ∃ q ∈ m.peers.rows, q.port = port := by
  simp only [List.any_eq_true, decide_eq_true_eq]

theorem reserve_within (n : Nat) (h : m.Within) :
    Within (reserve n m).2 ∧ (reserve n m).2.peers = m.peers := by
  induction n generalizing m with
  | zero => exact ⟨h, rfl⟩
  | succ n ih =>
    rw [reserve_succ]
    split
    · exact ih h.advance
    · exact ⟨h.advance, rfl⟩

theorem reserve_full (n : Nat) (h : m.Within) (hfull : m.Full) :
    (reserve n m).1 = .error exhausted := by
  induction n generalizing m with
  | zero => rfl
  | succ n ih =>
    rw [reserve_succ, if_pos (used_iff.2 (hfull _ h.lower h.upper))]
    exact ih h.advance hfull

theorem reserve_found (n : Nat) (h : m.Within) (hlower : m.firstPort ≤ port)
    (hupper : port ≤ m.lastPort) (hfree : ¬ ∃ q ∈ m.peers.rows, q.port = port)
    (hn : m.distance port < n) : ∃ port', (reserve n m).1 = .ok port' := by
  induction n generalizing m with
  | zero => cases hn
  | succ n ih =>
    rw [reserve_succ]
    split
    · rename_i hused
      refine ih h.advance hlower hupper hfree ?_
      have hne : port ≠ m.nextPort := fun heq => hfree (heq ▸ used_iff.1 hused)
      have hl := h.lower
      have hu := h.upper
      unfold distance at hn ⊢
      unfold Manager.advance
      dsimp only
      split at hn <;> split_ifs <;> omega
    · exact ⟨_, rfl⟩

theorem reservePort_cases (h : m.Within) :
    m.Full ∧ (reservePort m).1 = .error exhausted ∨
      ¬ m.Full ∧ ∃ port, (reservePort m).1 = .ok port := by
  by_cases hfull : m.Full
  · exact .inl ⟨hfull, reserve_full _ h hfull⟩
  · refine .inr ⟨hfull, ?_⟩
    unfold Full at hfull
    push Not at hfull
    obtain ⟨port, hlower, hupper, hfree⟩ := hfull
    refine reserve_found _ h hlower hupper (fun ⟨q, hq, heq⟩ => hfree q hq heq) ?_
    have hl := h.lower
    have hu := h.upper
    unfold distance
    split <;> omega

theorem addPeer_eq (request : OverlayRequest) (leaseID : Nat) (b : Backend) (m : Manager) :
    addPeer request leaseID b m = match reservePort m with
      | (.error e, m') => (.error e, m')
      | (.ok port, m') => match b.setUp with
        | .error e => (.error e, m')
        | .ok () => (.ok (), { m' with peers := m'.peers.put (newPeer request leaseID port) }) := by
  unfold addPeer
  rcases hr : reservePort m with ⟨e | port, m'⟩
  · exact Exec.bind_of_error hr
  · rw [Exec.bind_of_ok hr]
    dsimp only [bind, Exec.lift]
    rcases b.setUp with e | u <;> rfl

structure Valid (request : OverlayRequest) (now : Time) (leaseID : Nat) : Prop where
  leaseID : request.leaseID = some leaseID
  container : ¬ (request.containerID = "" ∨ request.expiresAt = 0)
  future : ¬ request.expiresAt ≤ now

theorem allocate_invalid (h : ∀ leaseID, ¬ Valid request now leaseID) (b : Backend) (m : Manager) :
    ∃ e, allocate request now b m = (.error e, m) := by
  unfold allocate
  cases hl : request.leaseID with
  | none => exact ⟨_, rfl⟩
  | some leaseID =>
    dsimp only
    split_ifs with hc hf
    · exact ⟨_, rfl⟩
    · exact ⟨_, rfl⟩
    · exact absurd ⟨hl, hc, hf⟩ (h leaseID)

theorem allocate_valid (h : Valid request now leaseID) (b : Backend) (m : Manager) :
    allocate request now b m = match m.peers.lookup request.workloadID with
      | some existing => if existing.leaseID = leaseID then (.ok (), m)
        else (.error (text "workload already has a different lease"), m)
      | none => addPeer request leaseID b m := by
  unfold allocate
  rw [h.leaseID]
  dsimp only
  rw [if_neg h.container, if_neg h.future]
  change (match m.peers.lookup request.workloadID with
    | some existing => if existing.leaseID = leaseID then pure ()
        else .fail (text "workload already has a different lease")
    | none => addPeer request leaseID b : Exec Manager Text Unit) m = _
  cases m.peers.lookup request.workloadID with
  | none => rfl
  | some existing =>
    dsimp only
    split <;> rfl

theorem allocate_within (h : m.Within) (request : OverlayRequest) (now : Time) (b : Backend) :
    Within (allocate request now b m).2 := by
  by_cases hv : ∃ leaseID, Valid request now leaseID
  · obtain ⟨leaseID, hv⟩ := hv
    rw [allocate_valid hv]
    split
    · split <;> exact h
    · rw [addPeer_eq]
      have hr := (reserve_within (m.lastPort + 1 - m.firstPort) h).1
      change Within (reservePort m).2 at hr
      generalize reservePort m = x at hr
      obtain ⟨e | port, m'⟩ := x
      · exact hr
      · rcases b.setUp with e | u
        · exact hr
        · exact ⟨hr.lower, hr.upper⟩
  · obtain ⟨e, he⟩ := allocate_invalid (fun leaseID hl => hv ⟨leaseID, hl⟩) b m
    rw [he]
    exact h

theorem within_step (h : m.Within) (call : OverlayCall) : (m.step call).Within := by
  have hrevoke {m : Manager} (h : m.Within) (w : Uuid) (b : Backend) : Within (revoke w b m).2 :=
    revoke_keeps h ⟨h.lower, h.upper⟩ b
  cases call with
  | attach w leaseID containerID expiresAt now b => exact allocate_within h _ now b
  | attachWithAllowedIPs request now b => exact allocate_within h _ now b
  | revoke w b => exact hrevoke h w b
  | rotate request now b b' =>
    exact rotate_keeps (hrevoke h request.workloadID b) fun _ hm => allocate_within hm _ now b'

structure Matches (request : OverlayRequest) (peer : PeerConfig) : Prop where
  leaseID : some peer.leaseID = request.leaseID
  containerID : peer.containerID = request.containerID
  allowedIPs : peer.allowedIPs = attachedIPs request.allowedIPs
  expiresAt : peer.expiresAt = request.expiresAt

/-- What `AttachWithAllowedIPs` promises in state `m`. -/
structure Attaches (m : Manager) (request : OverlayRequest) (now : Time) (b : Backend) : Prop where
  done : (attachWithAllowedIPs request now b m).1 = .ok () → ∃ peer,
    (attachWithAllowedIPs request now b m).2.peers.lookup request.workloadID = some peer ∧
      Matches request peer ∧ now < peer.expiresAt
  failed : ∀ e, (attachWithAllowedIPs request now b m).1 = .error e →
    (attachWithAllowedIPs request now b m).2.peers.lookup request.workloadID =
      m.peers.lookup request.workloadID
  exhausted : (reservePort m).1 = .error exhausted ↔ m.Full
  refused : ∀ leaseID, Valid request now leaseID → m.peers.lookup request.workloadID = none →
    (m.Full → (attachWithAllowedIPs request now b m).1 = .error Manager.exhausted) ∧
      (¬ m.Full → (attachWithAllowedIPs request now b m).1 = b.setUp)

def asked (request : OverlayRequest) : OverlayRequest :=
  { request with allowedIPs := attachedIPs request.allowedIPs }

theorem attach_valid (hv : Valid request now leaseID) (b : Backend) (m : Manager) :
    attachWithAllowedIPs request now b m = match m.peers.lookup request.workloadID with
      | some existing => if existing.leaseID = leaseID then (.ok (), m)
        else (.error (text "workload already has a different lease"), m)
      | none => addPeer (asked request) leaseID b m :=
  allocate_valid (show Valid (asked request) now leaseID from ⟨hv.leaseID, hv.container, hv.future⟩)
    b m

theorem exhausted_iff (h : m.Within) : (reservePort m).1 = .error exhausted ↔ m.Full := by
  obtain ⟨hfull, hr⟩ | ⟨hfull, port, hr⟩ := reservePort_cases h <;> rw [hr]
  · exact ⟨fun _ => hfull, fun _ => rfl⟩
  · exact ⟨nofun, fun h => absurd h hfull⟩

theorem Attaches.of_error {t : Manager} (h : m.Within)
    (hrun : attachWithAllowedIPs request now b m = (.error e, t)) (hpeers : t.peers = m.peers)
    (hrefused : ∀ leaseID, Valid request now leaseID → m.peers.lookup request.workloadID = none →
      (m.Full → e = Manager.exhausted) ∧ (¬ m.Full → .error e = b.setUp)) :
    m.Attaches request now b := by
  refine ⟨?_, ?_, exhausted_iff h, ?_⟩ <;> rw [hrun]
  · nofun
  · exact fun _ _ => by rw [hpeers]
  · intro leaseID hv hnone
    obtain ⟨hfull, hfree⟩ := hrefused leaseID hv hnone
    exact ⟨fun h => congrArg _ (hfull h), hfree⟩

theorem attaches_valid (h : m.Within) (hv : Valid request now leaseID)
    (hnone : m.peers.lookup request.workloadID = none) (b : Backend) :
    m.Attaches request now b := by
  have hattach := attach_valid hv b m
  rw [hnone, addPeer_eq] at hattach
  have hpeers := (reserve_within (m.lastPort + 1 - m.firstPort) h).2
  change (reservePort m).2.peers = m.peers at hpeers
  obtain ⟨hfull, hr⟩ | ⟨hfull, port, hr⟩ := reservePort_cases h
  · rw [show reservePort m = (.error exhausted, (reservePort m).2) from Prod.ext hr rfl] at hattach
    exact .of_error h hattach hpeers fun _ _ _ => ⟨fun _ => rfl, fun h => absurd hfull h⟩
  · rw [show reservePort m = (.ok port, (reservePort m).2) from Prod.ext hr rfl] at hattach
    rcases hb : b.setUp with e | u <;> rw [hb] at hattach
    · exact .of_error h hattach hpeers fun _ _ _ => ⟨fun h => absurd h hfull, fun _ => hb.symm⟩
    · refine ⟨fun _ => ?_, ?_, exhausted_iff h, fun _ _ _ => ⟨fun h => absurd h hfull, ?_⟩⟩ <;>
        rw [hattach]
      · refine ⟨newPeer (asked request) leaseID port, Table.lookup_put_self _ _,
          ⟨hv.leaseID.symm, rfl, ?_, rfl⟩, not_le.1 hv.future⟩
        exact if_neg (attachedIPs_ne_nil request.allowedIPs)
      · nofun
      · exact fun _ => hb.symm

theorem attaches_iff (h : m.Within) (request : OverlayRequest) (now : Time) (b : Backend) :
    m.Attaches request now b ↔ ∀ leaseID existing, Valid request now leaseID →
      m.peers.lookup request.workloadID = some existing → existing.leaseID = leaseID →
        Matches request existing := by
  by_cases hv : ∃ leaseID, Valid request now leaseID
  · obtain ⟨leaseID, hv⟩ := hv
    cases hl : m.peers.lookup request.workloadID with
    | none => exact ⟨fun _ _ _ _ => nofun, fun _ => attaches_valid h hv hl b⟩
    | some existing =>
      have hrun := attach_valid hv b m
      rw [hl] at hrun
      dsimp only at hrun
      constructor
      · rintro ha leaseID' existing' hv' hl' rfl
        cases hv.leaseID.symm.trans hv'.leaseID
        cases hl'
        rw [if_pos rfl] at hrun
        obtain ⟨peer, hpeer, hmatches, -⟩ := ha.done (by rw [hrun])
        rw [hrun, hl] at hpeer
        cases hpeer
        exact hmatches
      · intro hmatches
        split at hrun
        · rename_i hlease
          have hm := hmatches leaseID existing hv rfl hlease
          refine ⟨fun _ => ?_, fun e he => ?_, exhausted_iff h, fun _ _ hnone => ?_⟩
          · rw [hrun]
            exact ⟨existing, hl, hm, hm.expiresAt ▸ not_le.1 hv.future⟩
          · rw [hrun]
          · cases hl.symm.trans hnone
        · exact .of_error h hrun rfl fun _ _ hnone => nomatch hl.symm.trans hnone
  · have hinvalid (leaseID : Nat) : ¬ Valid request now leaseID := fun h => hv ⟨leaseID, h⟩
    have hasked (leaseID : Nat) : ¬ Valid (asked request) now leaseID :=
      fun h => hinvalid leaseID ⟨h.leaseID, h.container, h.future⟩
    obtain ⟨e, he⟩ := allocate_invalid hasked b m
    refine ⟨fun _ leaseID _ hv => absurd hv (hinvalid leaseID), fun _ => ?_⟩
    exact .of_error h he rfl fun leaseID hv => absurd hv (hinvalid leaseID)

/-- The promises hold exactly if no live peer of the lease differs. -/
theorem attach_postcondition_iff (firstPort lastPort : Nat) (m₀ : Manager)
    (calls : List OverlayCall) (hm : newManager firstPort lastPort = .ok m₀)
    (request : OverlayRequest) (now : Time) (b : Backend) :
    (run step m₀ calls).Attaches request now b ↔ ∀ leaseID existing, Valid request now leaseID →
      (run step m₀ calls).peers.lookup request.workloadID = some existing →
        existing.leaseID = leaseID → Matches request existing := by
  obtain ⟨⟨⟩, hrange, hinit⟩ := bind_eq_ok.1 hm
  cases hinit
  obtain ⟨-, -, hle⟩ := ensure_eq_ok.1 hrange
  have hinit : (init firstPort lastPort).Within := ⟨Nat.le_refl _, hle⟩
  exact attaches_iff (run_invariant hinit (fun _ call h => within_step h call) calls) request now b

def attachment (containerID : String) (expiresAt : Time) : OverlayRequest :=
  ⟨7, some 5, containerID, expiresAt, ["192.0.2.1/32"]⟩

theorem attach_postcondition_again :
    let m := run step (init 51820 51821) [.attachWithAllowedIPs (attachment "a" 100) 1 .done]
    (m.peers.lookup 7).isSome ∧ m.Attaches (attachment "a" 100) 2 .done := by
  refine ⟨by decide +kernel, (attach_postcondition_iff 51820 51821 _ _ rfl _ _ _).2 ?_⟩
  intro leaseID existing _ hl _
  cases hl
  exact ⟨rfl, rfl, rfl, rfl⟩

theorem attach_keeps_stale_peer :
    let m := run step (init 51820 51821) [.attachWithAllowedIPs (attachment "a" 100) 1 .done]
    (attachWithAllowedIPs (attachment "b" 200) 150 .done m).1 = .ok () ∧
      ((attachWithAllowedIPs (attachment "b" 200) 150 .done m).2.peers.lookup 7).map
        (fun peer => (peer.containerID, peer.expiresAt)) = some ("a", 100) := by
  decide +kernel

end OpenInfra.ControlPlane.Manager
