import OpenInfra.Chain.Lease
import OpenInfra.ControlPlane.Overlay
import OpenInfra.Frame.Ascii

namespace OpenInfra.ControlPlane
open Frame Function
open OpenInfraLease (LeaseState validTransition)

structure FinalizedLease where
  provider : BitVec 256
  consumer : BitVec 256
  resourceHash : BitVec 256
  start : Nat
  endBlock : Nat
  state : LeaseState

def stateIndex : LeaseState → Nat
  | .created => 0
  | .active => 1
  | .completed => 2
  | .expired => 3
  | .disputed => 4

abbrev Leases := LeaseId → Option FinalizedLease

/-- What is not seen finalized in time may be so all the same. -/
structure Submission where
  finalized : Bool
  late : Bool

structure ChainOutcomes where
  answers : Bool
  create : Submission
  update : Submission
  block : Nat
  message : Text

def ChainOutcomes.done (block : Nat) : ChainOutcomes :=
  ⟨true, ⟨true, false⟩, ⟨true, false⟩, block, .empty⟩

def leaseMessage (leaseID : LeaseId) (s : String) : String := "lease " ++ toString leaseID ++ s

def FinalizedLease.Matches (lease : FinalizedLease) (account provider resourceHash : BitVec 256)
    (duration : Nat) : Prop :=
  lease.provider = provider ∧ lease.consumer = account ∧ lease.resourceHash = resourceHash ∧
    lease.start ≤ lease.endBlock ∧ lease.endBlock - lease.start = duration

instance (lease : FinalizedLease) (account provider resourceHash : BitVec 256) (duration : Nat) :
    Decidable (lease.Matches account provider resourceHash duration) :=
  inferInstanceAs (Decidable (_ ∧ _ ∧ _ ∧ _ ∧ _))

def submit (x : Submission) (message : Text) (effect : Leases → Leases) : Exec Leases Text Unit :=
  fun leases =>
    (if x.finalized then .ok () else .error message,
      if x.finalized || x.late then effect leases else leases)

def moveLease (leaseID : LeaseId) (newState : LeaseState) (leases : Leases) : Leases :=
  match leases leaseID with
  | none => leases
  | some lease =>
    if validTransition lease.state newState then
      Function.update leases leaseID (some { lease with state := newState })
    else leases

def createLease (leaseID : LeaseId) (lease : FinalizedLease) (leases : Leases) : Leases :=
  match leases leaseID with
  | none => Function.update leases leaseID (some lease)
  | some _ => leases

section
variable (fault : String → E) (account : BitVec 256) (leaseID : LeaseId) (lease : FinalizedLease)
  (provider resourceHash : BitVec 256) (duration : Nat)

def checkDuration : Except E Unit :=
  ensure (1 ≤ duration ∧ duration ≤ 1000000)
    (fault "lease duration must be between 1 and 1000000 blocks")

def validateLease : Except E Unit :=
  ensure (lease.Matches account provider resourceHash duration)
    (fault (leaseMessage leaseID " finalized data does not match request"))

/-- Whether an existing lease has still to be activated. -/
def needsActivation : Except E Bool := do
  validateLease fault account leaseID lease provider resourceHash duration
  if lease.state = .active then .ok false
  else
    ensure (lease.state = .created) (fault (leaseMessage leaseID
      (" has unsupported state " ++ toString (stateIndex lease.state))))
    .ok true

/-- The lease found, and whether it has still to be completed. -/
def needsCompletion (found : Option FinalizedLease) : Except E (FinalizedLease × Bool) := do
  let lease ← okOr found (fault (leaseMessage leaseID " does not exist in finalized storage"))
  ensure (lease.consumer = account)
    (fault (leaseMessage leaseID " is not owned by the bridge account"))
  if lease.state = .completed then .ok (lease, false)
  else
    ensure (lease.state = .active) (fault (leaseMessage leaseID
      (" cannot transition from state " ++ toString (stateIndex lease.state) ++ " to Completed")))
    .ok (lease, true)

def ensureLeaseCompleted (o : ChainOutcomes) : Exec Leases Text Unit := do
  .lift (ensure o.answers o.message)
  let leases ← .get
  let x ← .lift (needsCompletion text account leaseID (leases leaseID))
  if x.2 then submit o.update o.message (moveLease leaseID .completed) else pure ()

def ensureLeaseActive (o : ChainOutcomes) : Exec Leases Text Unit := do
  .lift (checkDuration text duration)
  .lift (ensure o.answers o.message)
  let leases ← .get
  match leases leaseID with
  | some lease =>
    let pending ←
      .lift (needsActivation text account leaseID lease provider resourceHash duration)
    if pending then submit o.update o.message (moveLease leaseID .active) else pure ()
  | none =>
    submit o.create o.message (createLease leaseID
      ⟨provider, account, resourceHash, o.block, o.block + duration, .created⟩)
    submit o.update o.message (moveLease leaseID .active)

end

theorem needsCompletion_eq_ok (h : needsCompletion fault account leaseID found = .ok x) :
    found = some x.1 ∧ x.1.state = if x.2 then .active else .completed := by
  obtain ⟨lease, hlease, h⟩ := bind_eq_ok.1 h
  obtain ⟨_, _, h⟩ := bind_eq_ok.1 h
  split at h
  · cases h
    exact ⟨okOr_eq_ok.1 hlease, ‹_›⟩
  · obtain ⟨_, hactive, h⟩ := bind_eq_ok.1 h
    cases h
    exact ⟨okOr_eq_ok.1 hlease, ensure_eq_ok.1 hactive⟩

def Completed (leases : Leases) (leaseID : LeaseId) : Prop :=
  ∃ lease ∈ leases leaseID, lease.state = .completed

instance (leases : Leases) (leaseID : LeaseId) : Decidable (Completed leases leaseID) :=
  inferInstanceAs (Decidable (∃ lease ∈ leases leaseID, lease.state = .completed))

theorem moveLease_completed (h : Completed leases l) (leaseID : LeaseId) (newState : LeaseState) :
    Completed (moveLease leaseID newState leases) l := by
  unfold moveLease
  split
  · exact h
  · rename_i lease hlease
    split
    · rename_i hvalid
      by_cases hl : l = leaseID
      · subst hl
        obtain ⟨lease', hlease', hstate⟩ := h
        rw [hlease] at hlease'
        cases hlease'
        rw [hstate] at hvalid
        cases hvalid
      · obtain ⟨lease', hlease', hstate⟩ := h
        exact ⟨lease', (update_of_ne hl ..).trans hlease', hstate⟩
    · exact h

theorem createLease_completed (h : Completed leases l) (leaseID : LeaseId)
    (lease : FinalizedLease) : Completed (createLease leaseID lease leases) l := by
  unfold createLease
  split
  · rename_i hnone
    obtain ⟨lease', hlease', hstate⟩ := h
    have hl : l ≠ leaseID := by
      rintro rfl
      rw [hnone] at hlease'
      cases hlease'
    exact ⟨lease', (update_of_ne hl ..).trans hlease', hstate⟩
  · exact h

theorem submit_completed
    (h : ∀ leases, Completed leases l → Completed (effect leases) l) (x : Submission)
    (message : Text) :
    Exec.Meets (Completed · l) (submit x message effect) fun _ => (Completed · l) := by
  intro leases hl
  unfold submit
  dsimp only
  split
  · exact h leases hl
  · exact hl

theorem ensureLeaseActive_completed (l : LeaseId) :
    Exec.Meets (Completed · l) (ensureLeaseActive account leaseID provider resourceHash duration o)
      fun _ => (Completed · l) := by
  refine .lift_bind (fun _ _ _ => id) fun _ _ => ?_
  refine .lift_bind (fun _ _ _ => id) fun _ _ => ?_
  refine .keep (.get fun _ => id) fun leases => ?_
  split
  · refine .lift_bind (fun _ _ _ => id) fun _ _ => ?_
    split
    · exact submit_completed (fun _ h => moveLease_completed h _ _) _ _
    · exact .pure fun _ => id
  · refine .keep (submit_completed (fun _ h => createLease_completed h _ _) _ _) fun _ => ?_
    exact submit_completed (fun _ h => moveLease_completed h _ _) _ _

theorem ensureLeaseCompleted_completed (l : LeaseId) :
    Exec.Meets (Completed · l) (ensureLeaseCompleted account leaseID o)
      fun _ => (Completed · l) := by
  refine .lift_bind (fun _ _ _ => id) fun _ _ => ?_
  refine .keep (.get fun _ => id) fun leases => ?_
  refine .lift_bind (fun _ _ _ => id) fun _ _ => ?_
  split
  · exact submit_completed (fun _ h => moveLease_completed h _ _) _ _
  · exact .pure fun _ => id

theorem ensureLeaseCompleted_ok
    (h : (ensureLeaseCompleted account leaseID o leases).1 = .ok ()) :
    Completed (ensureLeaseCompleted account leaseID o leases).2 leaseID := by
  revert h
  suffices h : Exec.Meets (fun _ => True) (ensureLeaseCompleted account leaseID o)
      fun r leases => r = .ok () → Completed leases leaseID from h leases trivial
  refine .lift_bind (fun _ _ _ _ => nofun) fun _ _ => ?_
  apply Exec.Meets.get_bind
  intro leases _
  refine .lift_bind (fun _ _ _ _ => nofun) fun x hx => ?_
  obtain ⟨hlease, hstate⟩ := needsCompletion_eq_ok hx
  split
  · rename_i hpending
    have hmove : Completed (moveLease leaseID .completed leases) leaseID := by
      unfold moveLease
      rw [hlease]
      dsimp only
      rw [hstate, if_pos hpending]
      exact ⟨_, update_self .., rfl⟩
    rintro _ rfl
    unfold submit
    dsimp only
    cases o.update.finalized with
    | true => exact fun _ => hmove
    | false => exact nofun
  · rename_i hpending
    refine .pure ?_
    rintro _ rfl _
    exact ⟨x.1, hlease, hstate.trans (if_neg hpending)⟩

end OpenInfra.ControlPlane
