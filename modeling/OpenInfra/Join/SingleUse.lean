import OpenInfra.Join.Records

namespace OpenInfra.Join
open Frame
open ControlPlane (Uuid Time)

structure Linked (db : Database) : Prop where
  provider : ∀ row ∈ db.completions.rows, (db.status row.providerID).isSome
  registration : ∀ p, (db.status p).isSome → (db.registrations.lookup p).isSome

namespace Linked
variable {db db' : Database} (h : Linked db)
include h

theorem of_grows (hcompletions : db'.completions = db.completions)
    (hstatus : ∀ p, (db'.status p).isSome = (db.status p).isSome)
    (hregistrations : ∀ p, (db.registrations.lookup p).isSome →
      (db'.registrations.lookup p).isSome) : Linked db' := by
  constructor
  · intro row hrow
    rw [hcompletions] at hrow
    exact (hstatus _).trans (h.provider row hrow)
  · intro p hp
    exact hregistrations p (h.registration p ((hstatus p).symm.trans hp))

theorem insertChallenge (hdb : db.insertChallenge candidate = .ok (b, db')) : Linked db' := by
  unfold Database.insertChallenge at hdb
  split at hdb
  · cases hdb
    exact h
  · obtain ⟨_, _, hdb⟩ := bind_eq_ok.1 hdb
    cases hdb
    exact h.of_grows rfl (fun _ => rfl) fun _ => id

theorem setStatus (hdb : db.setStatus q status = .ok db') : Linked db' := by
  obtain ⟨row, hrow, hdb⟩ := bind_eq_ok.1 hdb
  cases hdb
  have hrow := okOr_eq_ok.1 hrow
  refine h.of_grows rfl (fun p => ?_) fun _ => id
  unfold Database.status
  rw [Option.isSome_map, Option.isSome_map]
  dsimp only
  rw [Table.lookup_put]
  split
  · rename_i hp
    rw [hp, show row.providerID = q from Table.key_of_lookup hrow, hrow]
    rfl
  · rfl

theorem registrations
    (hdb : db' = { db with registrations := db.registrations.put row }) : Linked db' := by
  subst hdb
  refine h.of_grows rfl (fun _ => rfl) fun p hp => ?_
  dsimp only
  rw [Table.lookup_put]
  split
  · rfl
  · exact hp

theorem activateProvider (hdb : db.activateProvider q = .ok (completed, db')) : Linked db' := by
  obtain ⟨db₁, hdb₁, hdb⟩ := bind_eq_ok.1 hdb
  obtain ⟨row, _, hdb⟩ := bind_eq_ok.1 hdb
  cases hdb
  unfold Database.finalizeRegistration
  split
  · exact (h.setStatus hdb₁).registrations rfl
  · exact h.setStatus hdb₁

theorem recordCompletion (completion : Completion) (row : ChallengeRow) :
    Linked (db.recordCompletion completion row) := by
  have hstatus (p : String) : ((db.recordCompletion completion row).status p).isSome ↔
      p = completion.providerID ∨ (db.status p).isSome := by
    unfold Database.status
    rw [Option.isSome_map, Option.isSome_map]
    dsimp only [Database.recordCompletion]
    rw [Table.lookup_put, joined_providerID]
    split <;> simp [*]
  constructor
  · intro new hnew
    rw [hstatus]
    obtain rfl | ⟨hold, _⟩ := Table.mem_put.1 hnew
    · exact .inl rfl
    · exact .inr (h.provider new hold)
  · intro p hp
    dsimp only [Database.recordCompletion]
    have hold := h.registration p
    obtain rfl | hp := (hstatus p).1 hp
    · split
      · assumption
      · rw [Table.lookup_put, if_pos rfl]
        rfl
    · split
      · exact hold hp
      · rw [Table.lookup_put]
        split
        · rfl
        · exact hold hp

end Linked

/-- What a `CompleteJoin` that consumes its challenge has found, and its four writes. -/
structure Consumes (db : Database) (completion : Completion) (completed : Completed)
    (db' : Database) : Prop where
  challenge : ∃ row, db.challenges.lookup completion.challenge.challengeID = some row ∧
    row.consumedAt = none ∧ completion.registeredAt < row.challenge.expiresAt ∧
    db'.challenges.lookup completion.challenge.challengeID =
      some { row with consumedAt := some completion.registeredAt }
  fresh : db.completions.lookup completion.requestID = none
  recorded : db'.completions.lookup completion.requestID =
    some ⟨completion.requestID, completion.challenge.challengeID, completion.requestHash,
      completion.providerID, completion.registeredAt⟩
  provider : ∃ row, db'.providers.lookup completion.providerID = some row ∧
    row.agentEndpoint = completion.challenge.agentEndpoint ∧
    row.status = (db.status completion.providerID).getD completion.status
  registration : (db'.registrations.lookup completion.providerID).isSome
  reply : completed = ⟨completion.providerID, completion.registeredAt, completion.status⟩

theorem Consumes.of_completeJoin {db db' : Database}
    (h : db.completeJoin completion = .ok (completed, db', true)) :
    Consumes db completion completed db' := by
  unfold Database.completeJoin at h
  split at h
  · obtain ⟨_, _, h⟩ := bind_eq_ok.1 h
    cases h
  · obtain ⟨row, hopen, h⟩ := bind_eq_ok.1 h
    obtain ⟨_, hnone, h⟩ := bind_eq_ok.1 h
    cases h
    simp only [Database.openChallenge, bind_eq_ok, okOr_eq_ok, ensure_eq_ok, Except.ok.injEq]
      at hopen
    obtain ⟨row, hrow, _, hunused, _, hlive, _, _, rfl⟩ := hopen
    have hkey := Table.key_of_lookup hrow
    refine ⟨⟨row, hrow, Option.isNone_iff_eq_none.1 hunused, hlive, ?_⟩,
      Option.isNone_iff_eq_none.1 (ensure_eq_ok.1 hnone), ?_,
      ⟨db.joined completion row.challenge.publicKey, ?_, ?_, ?_⟩, ?_, rfl⟩
    · exact (Table.lookup_put ..).trans (if_pos hkey.symm)
    · exact (Table.lookup_put ..).trans (if_pos rfl)
    · exact (Table.lookup_put ..).trans (if_pos (joined_providerID ..).symm)
    · unfold Database.joined
      split <;> rfl
    · unfold Database.joined Database.status
      split <;> simp only [*] <;> rfl
    · dsimp only [Database.recordCompletion]
      split
      · assumption
      · rw [Table.lookup_put, if_pos rfl]
        rfl

def Database.consumed (db : Database) (id : Uuid) : Bool :=
  (db.challenges.lookup id).any (·.consumedAt.isSome)

def World.consumptions (w : World) (id : Uuid) : Nat := w.log.countP fun x => x.2 = .consumed id

/-- A challenge has been consumed once if its row says so, and otherwise not. -/
def Tallied (w : World) : Prop := ∀ id, w.consumptions id = (w.db.consumed id).toNat

theorem Database.setStatus_challenges {db : Database} {x : NodeStatus}
    (h : db.setStatus p x = .ok db') : db'.challenges = db.challenges := by
  obtain ⟨row, _, h⟩ := bind_eq_ok.1 h
  cases h
  rfl

theorem Database.activateProvider_challenges {db : Database}
    (h : db.activateProvider p = .ok (completed, db')) : db'.challenges = db.challenges := by
  obtain ⟨db₁, hdb₁, h⟩ := bind_eq_ok.1 h
  obtain ⟨row, _, h⟩ := bind_eq_ok.1 h
  cases h
  refine Eq.trans ?_ (setStatus_challenges hdb₁)
  unfold finalizeRegistration
  split <;> rfl

namespace Tallied
variable {w w' : World}

theorem of_eq (h : Tallied w) (hlog : w'.consumptions = w.consumptions)
    (hconsumed : w'.db.consumed = w.db.consumed) : Tallied w' := by
  intro id
  rw [hlog, hconsumed]
  exact h id

theorem consumptions_mark (w : World) (call : Call) (m : Mark) (id : Uuid) :
    (w.mark call m).consumptions id = w.consumptions id + if m = .consumed id then 1 else 0 := by
  unfold World.consumptions World.mark
  rw [List.countP_append, List.countP_singleton]
  simp only [decide_eq_true_eq]

theorem mark (h : Tallied w) (call : Call) (hm : ∀ id, m ≠ .consumed id) :
    Tallied (w.mark call m) := by
  refine h.of_eq (funext fun id => ?_) rfl
  rw [consumptions_mark, if_neg (hm id), Nat.add_zero]

theorem insertChallenge (h : Tallied w) (hdb : w.db.insertChallenge candidate = .ok (b, db')) :
    Tallied { w with db := db' } := by
  unfold Database.insertChallenge at hdb
  split at hdb
  · cases hdb
    exact h
  · obtain ⟨_, hnone, hdb⟩ := bind_eq_ok.1 hdb
    cases hdb
    refine h.of_eq rfl (funext fun id => ?_)
    unfold Database.consumed
    dsimp only
    rw [Table.lookup_put]
    split
    · rename_i hid
      rw [hid, Option.isNone_iff_eq_none.1 (ensure_eq_ok.1 hnone)]
      rfl
    · rfl

theorem completeJoin (h : Tallied w) (call : Call)
    (hdb : w.db.completeJoin completion = .ok (completed, db', true)) :
    Tallied ({ w with db := db' }.mark call (.consumed completion.challenge.challengeID)) := by
  intro id
  have hid : w.consumptions id = _ := h id
  rw [consumptions_mark]
  change w.consumptions id + _ = (db'.consumed id).toNat
  obtain ⟨row, hrow, hunused, _, hrow'⟩ := (Consumes.of_completeJoin hdb).challenge
  obtain ⟨hfalse, _⟩ | ⟨_, ch, hch, _, _, _, rfl, _⟩ := completeJoin_cases hdb
  · cases hfalse
  · unfold Database.consumed at hid ⊢
    by_cases heq : completion.challenge.challengeID = id
    · subst heq
      rw [hid, hrow, hrow', if_pos rfl, Option.any_some, hunused]
      rfl
    · have hkey := Table.key_of_lookup hch
      have hne : id ≠ ch.challenge.challengeID := fun he => heq (he.trans hkey).symm
      rw [if_neg fun hm => heq (Mark.consumed.inj hm), Nat.add_zero, hid]
      dsimp only [Database.recordCompletion]
      rw [Table.lookup_put]
      exact congrArg (fun o => (Option.any _ o).toNat) (if_neg hne).symm

theorem challenges (h : Tallied w) (hdb : db'.challenges = w.db.challenges) :
    Tallied { w with db := db' } :=
  h.of_eq rfl (funext fun id => congrArg (fun t => (Table.lookup t id).any _) hdb)

end Tallied

/-- The invariant of a run beside that of the rows. -/
structure Sound (w : World) : Prop where
  linked : Linked w.db
  tallied : Tallied w

namespace Sound
variable {lib : Library} {w w' : World}

theorem perform (h : Sound w) (hw : w.perform lib call o = .ok (a, w')) : Sound w' := by
  obtain ⟨hl, ht⟩ := h
  cases o with
  | insertChallenge candidate =>
    obtain ⟨x, hx, hw⟩ := bind_eq_ok.1 hw
    cases hw
    exact ⟨hl.insertChallenge hx, ht.insertChallenge hx⟩
  | completeJoin completion =>
    obtain ⟨⟨completed, db', consumed⟩, hdb, hw⟩ := bind_eq_ok.1 hw
    obtain ⟨rfl, rfl, _⟩ | ⟨rfl, row, _, _, _, _, heq, _⟩ := completeJoin_cases hdb
    · cases hw
      exact ⟨hl, ht⟩
    · cases hw
      exact ⟨heq ▸ hl.recordCompletion completion row, ht.completeJoin call hdb⟩
  | activateProvider providerID =>
    obtain ⟨x, hx, hw⟩ := bind_eq_ok.1 hw
    cases hw
    exact ⟨hl.activateProvider hx, ht.challenges (Database.activateProvider_challenges hx)⟩
  | acceptHeartbeat providerID requestID sequence payloadHash payload ttl =>
    obtain ⟨cache, _, hw⟩ := bind_eq_ok.1 hw
    cases hw
    exact ⟨hl, Tallied.mark (w := { w with cache }) ht call (by rintro id ⟨⟩)⟩
  | reconcileWorkloadStatus providerID statuses =>
    cases hw
    exact ⟨hl, ht.mark call (by rintro id ⟨⟩)⟩
  | recordChainRegistrationFailure providerID nextAttemptAt terminal =>
    obtain ⟨db, hdb, hw⟩ := bind_eq_ok.1 hw
    obtain ⟨row, _, hdb⟩ := bind_eq_ok.1 hdb
    cases hw
    cases hdb
    exact ⟨hl.registrations rfl, ht.challenges rfl⟩
  | isRevoked | dueChainRegistrations =>
    cases hw
    exact ⟨hl, ht⟩
  | _ =>
    obtain ⟨x, _, hw⟩ := bind_eq_ok.1 hw
    cases hw
    exact ⟨hl, ht⟩

theorem answer (h : Sound w) (env : Env) (call : Call) (q : Query) :
    Sound (w.answer lib env call q).2 := by
  cases q with
  | op o =>
    obtain ⟨hw, _⟩ | ⟨a, w', ha, hw, _⟩ := env.link.deliver_cases w RepositoryError.other
      (w.perform lib call o)
    · exact (congrArg Sound hw).mpr h
    · exact (congrArg Sound hw).mpr (h.perform ha)
  | issueLeaf providerID publicKey now =>
    dsimp only [World.answer]
    split
    · split
      · exact ⟨h.linked, h.tallied.mark call (by rintro id ⟨⟩)⟩
      · exact h
    · exact h
  | _ => exact h

theorem step {s : State} (h : Sound s.world) (service : Service) (e : Event) :
    Sound (step lib service s e).world := by
  cases e with
  | proceed i env => exact Workers.proceed_world h fun call q _ => h.answer env call q
  | revoke providerID =>
    have hrevoke : Yields (s.world.db.revokeProvider providerID)
        fun db => Sound { s.world with db } := fun db hdb =>
      ⟨h.linked.setStatus hdb, h.tallied.challenges (Database.setStatus_challenges hdb)⟩
    exact hrevoke.commit h
  | _ => exact ⟨h.linked, h.tallied⟩

end Sound

/-- What the rows say, and what a further `CompleteJoin` can do. -/
structure SingleUse (lib : Library) (db : Database) : Prop where
  once : ∀ row ∈ db.completions.rows, ∀ row' ∈ db.completions.rows,
    row.challengeID = row'.challengeID → row.requestID = row'.requestID
  identity : ∀ row ∈ db.completions.rows, ∃ ch provider,
    db.challenges.lookup row.challengeID = some ch ∧
      db.providers.lookup row.providerID = some provider ∧
      row.providerID = providerIDOf lib ch.challenge.publicKey ∧
      row.providerID = providerIDOf lib provider.publicKey
  repeated : ∀ completion row, db.completions.lookup completion.requestID = some row →
    row.challengeID = completion.challenge.challengeID →
      row.requestHash = completion.requestHash → ∃ status,
        db.completeJoin completion = .ok (⟨row.providerID, row.registeredAt, status⟩, db, false)
  consumes : ∀ completion completed db', db.completeJoin completion = .ok (completed, db', true) →
    Consumes db completion completed db'
  answered : ∀ completion completed db', db.completeJoin completion = .ok (completed, db', false) →
    db' = db
  refused : ∀ completion ch, db.challenges.lookup completion.challenge.challengeID = some ch →
    ch.consumedAt.isSome ∨ ch.challenge.expiresAt ≤ completion.registeredAt →
      (db.completeJoin completion).isOk → Recorded db completion
  registration : ∀ provider ∈ db.providers.rows, ∃! registration,
    registration ∈ db.registrations.rows ∧ registration.providerID = provider.providerID

theorem Linked.singleUse (h : Linked db) (hc : Consistent lib db) : SingleUse lib db := by
  constructor
  · intro row hrow row' hrow' heq
    rw [hc.once _ row _ row' (Table.mem_rows.1 hrow) (Table.mem_rows.1 hrow') heq]
  · intro row hrow
    obtain ⟨ch, hch, _, hid⟩ := hc.completed _ row (Table.mem_rows.1 hrow)
    have hprovider := h.provider row hrow
    unfold Database.status at hprovider
    rw [Option.isSome_map] at hprovider
    obtain ⟨provider, hprovider⟩ := Option.isSome_iff_exists.1 hprovider
    exact ⟨ch, provider, hch, hprovider, hid, hc.identity _ provider hprovider⟩
  · intro completion row hrow hchallenge hhash
    obtain ⟨status, hstatus⟩ := Option.isSome_iff_exists.1
      (h.provider row (Table.lookup_eq_some.1 hrow).1)
    have hexisting : db.existing completion.requestID = some (row, status) := by
      unfold Database.existing
      rw [hrow]
      change (do let status ← db.status row.providerID; some (row, status)) = _
      rw [hstatus]
      rfl
    refine ⟨status, ?_⟩
    unfold Database.completeJoin
    rw [hexisting]
    exact ensure_bind ⟨hchallenge, hhash⟩
  · exact fun completion completed db' => Consumes.of_completeJoin
  · intro completion completed db' hok
    obtain ⟨_, heq, _⟩ | ⟨htrue, _⟩ := completeJoin_cases hok
    · exact heq
    · cases htrue
  · intro completion ch hch hused hok
    obtain ⟨⟨completed, db', consumed⟩, hok⟩ := isOk_iff.1 hok
    obtain ⟨_, _, hrecorded, _⟩ | ⟨rfl, _⟩ := completeJoin_cases hok
    · exact hrecorded
    · obtain ⟨row, hrow, hunused, hlive, _⟩ := (Consumes.of_completeJoin hok).challenge
      cases hch.symm.trans hrow
      obtain hconsumed | hexpired := hused
      · rw [hunused] at hconsumed
        cases hconsumed
      · exact absurd hlive (Nat.not_lt.2 hexpired)
  · intro provider hprovider
    have hstatus : (db.status provider.providerID).isSome := by
      unfold Database.status
      rw [Table.mem_rows.1 hprovider]
      rfl
    obtain ⟨registration, hregistration⟩ := Option.isSome_iff_exists.1 (h.registration _ hstatus)
    refine ⟨registration, Table.lookup_eq_some.1 hregistration, ?_⟩
    rintro other ⟨hother, hkey⟩
    have hother := Table.mem_rows.1 hother
    rw [hkey, hregistration] at hother
    exact (Option.some.inj hother).symm

/-- Every run of the join service uses a challenge once. -/
theorem challenge_consumed_once (lib : Library) (service : Service) (events : List Event) :
    Throughout (step lib service)
      (fun s => SingleUse lib s.world.db ∧ ∀ id, s.world.consumptions id ≤ 1 ∧
        (s.world.consumptions id = 1 ↔ s.world.db.consumed id)) State.init events := by
  have hinit : Orderly lib (fun _ => True) State.init ∧ Sound State.init.world :=
    ⟨.init lib _, ⟨List.forall_mem_nil _, nofun⟩, fun _ => rfl⟩
  refine ((Along.true State.init events).throughout
    (I := fun s => Orderly lib (fun _ => True) s ∧ Sound s.world) hinit ?_).mono ?_
  · rintro s e ⟨horderly, hsound⟩ _
    exact ⟨horderly.step e trivial fun _ _ _ _ _ _ _ _ _ => trivial, hsound.step service e⟩
  · rintro s ⟨horderly, hsound⟩
    refine ⟨hsound.linked.singleUse horderly.consistent, fun id => ?_⟩
    rw [hsound.tallied id]
    exact ⟨Bool.toNat_le _, Bool.toNat_eq_one⟩

end OpenInfra.Join
