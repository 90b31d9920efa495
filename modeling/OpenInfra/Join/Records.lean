import OpenInfra.Join.Conduct

namespace OpenInfra.Join
open Frame
open ControlPlane (Uuid Time)

/-- Providers have the id of their key, challenges one completion. -/
structure Consistent (lib : Library) (db : Database) : Prop where
  identity : ∀ p row, db.providers.lookup p = some row → p = providerIDOf lib row.publicKey
  completed : ∀ id row, db.completions.lookup id = some row →
    ∃ ch, db.challenges.lookup row.challengeID = some ch ∧ ch.consumedAt.isSome ∧
      row.providerID = providerIDOf lib ch.challenge.publicKey
  once : ∀ id row id' row', db.completions.lookup id = some row →
    db.completions.lookup id' = some row' → row.challengeID = row'.challengeID → row = row'

/-- Rows are added and challenges consumed; nothing is undone. -/
structure Grows (db db' : Database) : Prop where
  challenge : ∀ id row, db.challenges.lookup id = some row →
    ∃ row', db'.challenges.lookup id = some row' ∧ row'.challenge = row.challenge ∧
      (row.consumedAt.isSome → row'.consumedAt.isSome)
  completion : ∀ id row, db.completions.lookup id = some row → db'.completions.lookup id = some row

namespace Grows

theorem refl (db : Database) : Grows db db := ⟨fun _ row h => ⟨row, h, rfl, id⟩, fun _ _ h => h⟩

theorem of_eq (hchallenges : db'.challenges = db.challenges)
    (hcompletions : db'.completions = db.completions) : Grows db db' :=
  ⟨fun _ row h => ⟨row, hchallenges ▸ h, rfl, id⟩, fun _ _ h => hcompletions ▸ h⟩

end Grows

namespace Consistent
variable {lib : Library} {db db' : Database}

theorem empty (lib : Library) : Consistent lib .empty := ⟨nofun, nofun, nofun⟩

theorem of_grows (h : Consistent lib db) (hgrows : Grows db db')
    (hcompletions : db'.completions = db.completions)
    (hidentity : ∀ p row, db'.providers.lookup p = some row → p = providerIDOf lib row.publicKey) :
    Consistent lib db' := by
  refine ⟨hidentity, ?_, ?_⟩
  · intro id row hrow
    rw [hcompletions] at hrow
    obtain ⟨ch, hch, hconsumed, hid⟩ := h.completed id row hrow
    obtain ⟨ch', hch', heq, hconsumed'⟩ := hgrows.challenge _ ch hch
    exact ⟨ch', hch', hconsumed' hconsumed, heq ▸ hid⟩
  · rw [hcompletions]
    exact h.once

end Consistent

structure Advances (lib : Library) (db db' : Database) : Prop where
  grows : Grows db db'
  consistent : Consistent lib db → Consistent lib db'

namespace Advances
variable {lib : Library} {db db' : Database}

theorem refl (lib : Library) (db : Database) : Advances lib db db := ⟨.refl db, id⟩

theorem insertChallenge (h : db.insertChallenge candidate = .ok (b, db')) :
    Advances lib db db' ∧ db'.providers = db.providers := by
  unfold Database.insertChallenge at h
  split at h
  · cases h
    exact ⟨refl lib db, rfl⟩
  · obtain ⟨_, hnone, h⟩ := bind_eq_ok.1 h
    cases h
    rw [ensure_eq_ok, Option.isNone_iff_eq_none] at hnone
    have hgrows : Grows db
        { db with challenges := db.challenges.put ⟨candidate, none⟩ } := by
      refine ⟨?_, fun _ _ h => h⟩
      intro id row hrow
      have hne : id ≠ candidate.challengeID := by
        rintro rfl
        rw [hnone] at hrow
        cases hrow
      refine ⟨row, ?_, rfl, fun h => h⟩
      rw [Table.lookup_put]
      exact (if_neg hne).trans hrow
    exact ⟨⟨hgrows, fun hc => hc.of_grows hgrows rfl hc.identity⟩, rfl⟩

theorem setStatus (h : db.setStatus providerID status = .ok db') : Advances lib db db' := by
  obtain ⟨row, hrow, h⟩ := bind_eq_ok.1 h
  cases h
  refine ⟨.of_eq rfl rfl, fun hc => hc.of_grows (.of_eq rfl rfl) rfl ?_⟩
  intro p row' hrow'
  rw [Table.lookup_put] at hrow'
  split at hrow'
  · cases hrow'
    rename_i hp
    rw [hp, show row.providerID = providerID from Table.key_of_lookup (okOr_eq_ok.1 hrow)]
    exact hc.identity _ row (okOr_eq_ok.1 hrow)
  · exact hc.identity p row' hrow'

theorem of_registrations (h : db' = { db with registrations := registrations }) :
    Advances lib db db' := by
  cases h
  exact ⟨.of_eq rfl rfl, fun hc => hc.of_grows (.of_eq rfl rfl) rfl hc.identity⟩

theorem trans (h : Advances lib db db') (h' : Advances lib db' db'') : Advances lib db db'' := by
  refine ⟨⟨?_, fun id row hrow => h'.grows.completion id row (h.grows.completion id row hrow)⟩,
    fun hc => h'.consistent (h.consistent hc)⟩
  intro id row hrow
  obtain ⟨row', hrow', heq, hconsumed⟩ := h.grows.challenge id row hrow
  obtain ⟨row'', hrow'', heq', hconsumed'⟩ := h'.grows.challenge id row' hrow'
  exact ⟨row'', hrow'', heq'.trans heq, hconsumed' ∘ hconsumed⟩

end Advances

def Recorded (db : Database) (completion : Completion) : Prop :=
  ∃ row, db.completions.lookup completion.requestID = some row ∧
    row.challengeID = completion.challenge.challengeID ∧ row.requestHash = completion.requestHash

theorem Recorded.mono (h : Recorded db completion) (hgrows : Grows db db') :
    Recorded db' completion := by
  obtain ⟨row, hrow, h⟩ := h
  exact ⟨row, hgrows.completion _ row hrow, h⟩

def Stored (db : Database) (challenge : Challenge) : Prop :=
  ∃ row, db.challenges.lookup challenge.challengeID = some row ∧ row.challenge = challenge

theorem Stored.mono (h : Stored db challenge) (hgrows : Grows db db') : Stored db' challenge := by
  obtain ⟨row, hrow, rfl⟩ := h
  obtain ⟨row', hrow', heq, _⟩ := hgrows.challenge _ row hrow
  exact ⟨row', hrow', heq⟩

variable {db db' : Database}

theorem completeJoin_cases
    (h : db.completeJoin completion = .ok (completed, db', consumed)) :
    (consumed = false ∧ db' = db ∧ Recorded db completion ∧ ∃ row,
      db.completions.lookup completion.requestID = some row ∧
      row.challengeID = completion.challenge.challengeID ∧ completed.providerID = row.providerID ∧
      db.status row.providerID = some completed.status) ∨
    (consumed = true ∧ ∃ row, db.challenges.lookup completion.challenge.challengeID = some row ∧
      row.consumedAt = none ∧ row.challenge.publicKey = completion.challenge.publicKey ∧
      db.completions.lookup completion.requestID = none ∧
      db' = db.recordCompletion completion row ∧ completed.providerID = completion.providerID ∧
      completed.status = completion.status) := by
  unfold Database.completeJoin at h
  split at h
  · rename_i row status hexisting
    obtain ⟨_, hsame, h⟩ := bind_eq_ok.1 h
    cases h
    rw [ensure_eq_ok] at hsame
    unfold Database.existing at hexisting
    obtain ⟨row', hrow, hexisting⟩ := Option.bind_eq_some_iff.1 hexisting
    obtain ⟨status', hstatus, hexisting⟩ := Option.bind_eq_some_iff.1 hexisting
    cases hexisting
    exact .inl ⟨rfl, rfl, ⟨row, hrow, hsame⟩, row, hrow, hsame.1, rfl, hstatus⟩
  · obtain ⟨row, hopen, h⟩ := bind_eq_ok.1 h
    obtain ⟨_, hnone, h⟩ := bind_eq_ok.1 h
    cases h
    simp only [Database.openChallenge, bind_eq_ok, okOr_eq_ok, ensure_eq_ok, Except.ok.injEq]
      at hopen
    obtain ⟨_, hrow, _, hunused, _, _, _, ⟨_, hkey⟩, rfl⟩ := hopen
    rw [ensure_eq_ok, Option.isNone_iff_eq_none] at hnone
    exact .inr ⟨rfl, _, hrow, Option.isNone_iff_eq_none.1 hunused, hkey, hnone, rfl, rfl, rfl⟩

section
variable {lib : Library} {db : Database} {completion : Completion} {row : ChallengeRow}

theorem recorded_recordCompletion (db : Database) (completion : Completion) (row : ChallengeRow) :
    Recorded (db.recordCompletion completion row) completion :=
  ⟨⟨completion.requestID, completion.challenge.challengeID, completion.requestHash,
    completion.providerID, completion.registeredAt⟩,
    (Table.lookup_put ..).trans (if_pos rfl), rfl, rfl⟩

theorem grows_recordCompletion
    (hrow : db.challenges.lookup completion.challenge.challengeID = some row)
    (hnone : db.completions.lookup completion.requestID = none) :
    Grows db (db.recordCompletion completion row) := by
  have hkey : row.challenge.challengeID = completion.challenge.challengeID := by
    have hkey := Table.key_of_lookup hrow
    exact hkey
  constructor
  · intro id row' hrow'
    dsimp only [Database.recordCompletion]
    rw [Table.lookup_put]
    split
    · rename_i hid
      rw [hid, hkey] at hrow'
      cases hrow.symm.trans hrow'
      exact ⟨_, rfl, rfl, fun _ => rfl⟩
    · exact ⟨row', hrow', rfl, fun h => h⟩
  · intro id row' hrow'
    have hne : id ≠ completion.requestID := by
      rintro rfl
      rw [hnone] at hrow'
      cases hrow'
    exact (Table.lookup_put ..).trans ((if_neg hne).trans hrow')

theorem joined_providerID (db : Database) (completion : Completion) (publicKey : Bytes) :
    (db.joined completion publicKey).providerID = completion.providerID := by
  unfold Database.joined
  split
  · rename_i provider hprovider
    have hkey := Table.key_of_lookup hprovider
    exact hkey
  · rfl

theorem consistent_recordCompletion (hc : Consistent lib db)
    (hrow : db.challenges.lookup completion.challenge.challengeID = some row)
    (hunused : row.consumedAt = none) (hnone : db.completions.lookup completion.requestID = none)
    (hid : completion.providerID = providerIDOf lib row.challenge.publicKey) :
    Consistent lib (db.recordCompletion completion row) := by
  have hgrows := grows_recordCompletion hrow hnone
  have hunseen (id : Uuid) (old : CompletionRow) (hold : db.completions.lookup id = some old) :
      old.challengeID ≠ completion.challenge.challengeID := by
    intro heq
    obtain ⟨ch, hch, hconsumed, _⟩ := hc.completed id old hold
    rw [heq, hrow] at hch
    cases hch
    rw [hunused] at hconsumed
    cases hconsumed
  have hlookup (id : Uuid) (new : CompletionRow)
      (hnew : (db.recordCompletion completion row).completions.lookup id = some new) :
      db.completions.lookup id = some new ∨
        new.challengeID = completion.challenge.challengeID ∧
          new.providerID = completion.providerID ∧ id = completion.requestID := by
    dsimp only [Database.recordCompletion] at hnew
    rw [Table.lookup_put] at hnew
    split at hnew
    · cases hnew
      exact .inr ⟨rfl, rfl, ‹_›⟩
    · exact .inl hnew
  refine ⟨?_, ?_, ?_⟩
  · intro p provider hprovider
    dsimp only [Database.recordCompletion] at hprovider
    rw [Table.lookup_put, joined_providerID] at hprovider
    split at hprovider
    · rename_i hp
      cases hprovider
      unfold Database.joined
      split
      · rename_i provider hprovider
        rw [hp]
        exact hc.identity _ provider hprovider
      · rw [hp]
        exact hid
    · exact hc.identity p provider hprovider
  · intro id new hnew
    obtain hold | ⟨hchallenge, hprovider, _⟩ := hlookup id new hnew
    · obtain ⟨ch, hch, hconsumed, hid⟩ := hc.completed id new hold
      obtain ⟨ch', hch', heq, hconsumed'⟩ := hgrows.challenge _ ch hch
      exact ⟨ch', hch', hconsumed' hconsumed, heq ▸ hid⟩
    · refine ⟨{ row with consumedAt := some completion.registeredAt }, ?_, rfl,
        hprovider.trans hid⟩
      have hkey := Table.key_of_lookup hrow
      dsimp only [Database.recordCompletion]
      rw [hchallenge, Table.lookup_put]
      exact if_pos hkey.symm
  · intro id new id' new' hnew hnew' heq
    obtain hold | ⟨hchallenge, _, rfl⟩ := hlookup id new hnew
    · obtain hold' | ⟨hchallenge', _⟩ := hlookup id' new' hnew'
      · exact hc.once id new id' new' hold hold' heq
      · exact absurd (heq.trans hchallenge') (hunseen id new hold)
    · obtain hold' | ⟨_, _, rfl⟩ := hlookup id' new' hnew'
      · exact absurd (heq.symm.trans hchallenge) (hunseen id' new' hold')
      · exact Option.some.inj (hnew.symm.trans hnew')

theorem recordCompletion_status (h : db.status p = some status) :
    (db.recordCompletion completion row).status p = some status := by
  unfold Database.status at h ⊢
  obtain ⟨provider, hprovider, rfl⟩ := Option.map_eq_some_iff.1 h
  dsimp only [Database.recordCompletion]
  rw [Table.lookup_put]
  unfold Database.joined
  cases hjoined : db.providers.lookup completion.providerID with
  | none =>
    dsimp only
    split
    · rename_i hp
      rw [hp, hjoined] at hprovider
      cases hprovider
    · rw [hprovider]
      rfl
  | some joined =>
    dsimp only
    split
    · rename_i hp
      rw [hp, show joined.providerID = _ from Table.key_of_lookup hjoined, hjoined] at hprovider
      cases hprovider
      rfl
    · rw [hprovider]
      rfl

end

theorem Advances.activateProvider
    (h : db.activateProvider providerID = .ok (completed, db')) :
    Advances lib db db' ∧ completed.providerID = providerID := by
  obtain ⟨db₁, hdb₁, h⟩ := bind_eq_ok.1 h
  obtain ⟨row, hrow, h⟩ := bind_eq_ok.1 h
  cases h
  constructor
  · refine (Advances.setStatus hdb₁).trans ?_
    unfold Database.finalizeRegistration
    split
    · exact .of_registrations rfl
    · exact .refl lib db₁
  · rw [okOr_eq_ok] at hrow
    unfold Database.firstCompletion at hrow
    split at hrow
    · cases hrow
    · rename_i first rest hfilter
      cases hrow
      have hall : ∀ x ∈ first :: rest, x.providerID = providerID := by
        intro x hx
        rw [← hfilter] at hx
        exact of_decide_eq_true (List.mem_filter.1 hx).2
      obtain ⟨hfirst, hrest⟩ := List.forall_mem_cons.1 hall
      refine List.foldlRecOn (motive := fun row => row.providerID = providerID) rest
        Database.earliest hfirst ?_
      intro a ha b hb
      unfold Database.earliest
      split
      · exact hrest b hb
      · exact ha

structure Holds (lib : Library) (db : Database) (c : Knowledge) : Prop where
  challenges : ∀ ch ∈ c.challenges, Stored db ch
  completed : ∀ completion, c.completed = some completion →
    Recorded db completion ∧ Stored db completion.challenge
  identities : ∀ x ∈ c.identities, x.1 = providerIDOf lib x.2

namespace Holds
variable {lib : Library} {db db' : Database} {c c' : Knowledge}

theorem none (lib : Library) (db : Database) : Holds lib db .none := ⟨nofun, nofun, nofun⟩

theorem mono (h : Holds lib db c) (hgrows : Grows db db') : Holds lib db' c := by
  refine ⟨fun ch hch => (h.challenges ch hch).mono hgrows, ?_, h.identities⟩
  intro completion hcompleted
  obtain ⟨hrecorded, hstored⟩ := h.completed completion hcompleted
  exact ⟨hrecorded.mono hgrows, hstored.mono hgrows⟩

theorem of_eq (h : Holds lib db c) (hchallenges : c'.challenges = c.challenges)
    (hcompleted : c'.completed = c.completed) (hidentities : c'.identities = c.identities) :
    Holds lib db c' :=
  ⟨hchallenges ▸ h.challenges, hcompleted ▸ h.completed, hidentities ▸ h.identities⟩

end Holds

section
variable {lib : Library} {w w' : World} {c : Knowledge}

theorem completeJoin_spec (hc : Consistent lib w.db) (hk : Holds lib w.db c)
    (ha : Allowed lib call c (.op (.completeJoin completion)))
    (h : w.db.completeJoin completion = .ok (completed, db', consumed)) :
    Advances lib w.db db' ∧ completed.providerID = completion.providerID ∧
      Recorded db' completion := by
  obtain ⟨hknown, hid, _⟩ := ha
  obtain ⟨ch, hch, heq⟩ := hk.challenges _ hknown
  obtain ⟨rfl, rfl, hrecorded, row, hrow, hchallenge, hprovider, _⟩ |
    ⟨rfl, row, hrow, hunused, hkey, hnone, rfl, hprovider, _⟩ := completeJoin_cases h
  · refine ⟨.refl lib _, ?_, hrecorded⟩
    obtain ⟨ch', hch', _, hid'⟩ := hc.completed _ row hrow
    rw [hchallenge, hch] at hch'
    cases hch'
    rw [hprovider, hid', heq, hid]
  · have hgrows := grows_recordCompletion hrow hnone
    exact ⟨⟨hgrows, fun hc => consistent_recordCompletion hc hrow hunused hnone (hkey ▸ hid)⟩,
      hprovider, recorded_recordCompletion w.db completion row⟩

theorem perform_spec (hc : Consistent lib w.db) (hk : Holds lib w.db c)
    (ha : Allowed lib call c (.op o)) (h : w.perform lib call o = .ok (a, w')) :
    Advances lib w.db w'.db ∧ Expected lib (.op o) (.ok a) ∧
      Holds lib w'.db (c.learn (.op o) (.ok a)) := by
  cases o with
  | insertChallenge candidate =>
    obtain ⟨⟨b, db'⟩, hdb, h⟩ := bind_eq_ok.1 h
    cases h
    have hadvances : Advances lib w.db db' := (Advances.insertChallenge hdb).1
    exact ⟨hadvances, trivial, (hk.mono hadvances.grows).of_eq rfl rfl rfl⟩
  | challengeByBeginRequestID requestID =>
    obtain ⟨challenge, _, h⟩ := bind_eq_ok.1 h
    cases h
    exact ⟨.refl lib w.db, trivial, hk.of_eq rfl rfl rfl⟩
  | getChallenge challengeID =>
    obtain ⟨challenge, hchallenge, h⟩ := bind_eq_ok.1 h
    cases h
    obtain ⟨row, hrow, hchallenge⟩ := bind_eq_ok.1 hchallenge
    cases hchallenge
    rw [okOr_eq_ok] at hrow
    have hkey := Table.key_of_lookup hrow
    refine ⟨.refl lib w.db, hkey, ?_, hk.completed, hk.identities⟩
    intro ch hch
    obtain rfl | hch := List.mem_cons.1 hch
    · exact ⟨row, hkey.symm ▸ hrow, rfl⟩
    · exact hk.challenges ch hch
  | completeJoin completion =>
    obtain ⟨⟨completed, db', consumed⟩, hdb, h⟩ := bind_eq_ok.1 h
    obtain ⟨hadvances, hprovider, hrecorded⟩ := completeJoin_spec hc hk ha hdb
    have hw' : w'.db = db' ∧ a = completed := by
      cases consumed <;> cases h <;> exact ⟨rfl, rfl⟩
    obtain ⟨rfl, rfl⟩ := hw'
    refine ⟨hadvances, hprovider, (hk.mono hadvances.grows).challenges, ?_, hk.identities⟩
    intro completion' hcompleted
    cases hcompleted
    exact ⟨hrecorded, (hk.challenges _ ha.1).mono hadvances.grows⟩
  | activateProvider providerID =>
    obtain ⟨⟨completed, db'⟩, hdb, h⟩ := bind_eq_ok.1 h
    cases h
    obtain ⟨hadvances, hprovider⟩ : Advances lib w.db db' ∧ _ := Advances.activateProvider hdb
    exact ⟨hadvances, hprovider, (hk.mono hadvances.grows).of_eq rfl rfl rfl⟩
  | providerIdentity providerID =>
    obtain ⟨identity, hidentity, h⟩ := bind_eq_ok.1 h
    cases h
    obtain ⟨row, hrow, hidentity⟩ := bind_eq_ok.1 hidentity
    cases hidentity
    refine ⟨.refl lib w.db, trivial, hk.challenges, hk.completed, ?_⟩
    intro x hx
    obtain rfl | hx := List.mem_cons.1 hx
    · exact hc.identity _ row (okOr_eq_ok.1 hrow)
    · exact hk.identities x hx
  | isRevoked providerID =>
    cases h
    exact ⟨.refl lib w.db, trivial, hk.of_eq rfl rfl rfl⟩
  | acceptRenewal providerID nonce =>
    obtain ⟨cache, _, h⟩ := bind_eq_ok.1 h
    cases h
    exact ⟨.refl lib w.db, trivial, hk.of_eq rfl rfl rfl⟩
  | acceptHeartbeat providerID requestID sequence payloadHash payload ttl =>
    obtain ⟨cache, _, h⟩ := bind_eq_ok.1 h
    cases h
    exact ⟨.refl lib w.db, trivial, hk.of_eq rfl rfl rfl⟩
  | reconcileWorkloadStatus providerID statuses =>
    cases h
    exact ⟨.refl lib w.db, trivial, hk.of_eq rfl rfl rfl⟩
  | dueChainRegistrations limit =>
    cases h
    refine ⟨.refl lib w.db, ?_, hk.of_eq rfl rfl rfl⟩
    intro x hx
    obtain ⟨row, _, hx⟩ := List.mem_filterMap.1 (List.mem_of_mem_take hx)
    obtain ⟨provider, hprovider, rfl⟩ := Option.map_eq_some_iff.1 hx
    exact hc.identity _ provider hprovider
  | recordChainRegistrationFailure providerID nextAttemptAt terminal =>
    obtain ⟨db', hdb, h⟩ := bind_eq_ok.1 h
    cases h
    obtain ⟨row, _, hdb⟩ := bind_eq_ok.1 hdb
    cases hdb
    exact ⟨.of_registrations rfl, trivial, Holds.mono (hk.of_eq rfl rfl rfl) (.of_eq rfl rfl)⟩

theorem Holds.learn_error (hk : Holds lib w.db c) (o : Op) (e : RepositoryError) :
    Holds lib w.db (c.learn (.op o) (.error e)) := by
  cases o <;> exact hk.of_eq rfl rfl rfl

theorem answer_spec (env : Env) (hc : Consistent lib w.db) (hk : Holds lib w.db c)
    (ha : Allowed lib call c q) :
    Advances lib w.db (w.answer lib env call q).2.db ∧ Expected lib q (w.answer lib env call q).1 ∧
      Holds lib (w.answer lib env call q).2.db (c.learn q (w.answer lib env call q).1) := by
  cases q with
  | now => exact ⟨.refl lib w.db, trivial, hk.of_eq rfl rfl rfl⟩
  | random => exact ⟨.refl lib w.db, trivial, hk.of_eq rfl rfl rfl⟩
  | ensureActive publicKey =>
    refine ⟨.refl lib w.db, trivial, ?_⟩
    change Holds lib w.db (c.learn (.ensureActive publicKey) env.chain)
    cases env.chain with
    | error e => exact hk.of_eq rfl rfl rfl
    | ok u => exact hk.of_eq rfl rfl rfl
  | issueLeaf providerID publicKey now =>
    dsimp only [World.answer]
    split
    · split
      · exact ⟨.refl lib w.db, trivial, hk.of_eq rfl rfl rfl⟩
      · exact ⟨.refl lib w.db, trivial, hk.of_eq rfl rfl rfl⟩
    · exact ⟨.refl lib w.db, trivial, hk.of_eq rfl rfl rfl⟩
  | op o =>
    dsimp only [World.answer]
    obtain ⟨hsame, hfailed⟩ | ⟨a, w', hperform, hw', hreply⟩ :=
      env.link.deliver_cases w .other (w.perform lib call o)
    · rw [hsame]
      cases hr : (env.link.deliver w .other (w.perform lib call o)).1 with
      | ok a => exact absurd hr (hfailed a)
      | error e => exact ⟨.refl lib w.db, by cases o <;> trivial, hk.learn_error o e⟩
    · obtain ⟨hadvances, hexpected, hholds⟩ := perform_spec hc hk ha hperform
      rw [hw']
      cases hr : (env.link.deliver w .other (w.perform lib call o)).1 with
      | ok b =>
        cases hreply b hr
        exact ⟨hadvances, hexpected, hholds⟩
      | error e =>
        exact ⟨hadvances, by cases o <;> trivial, (hk.mono hadvances.grows).learn_error o e⟩

end

inductive Causes (db : Database) : Query → Mark → Prop
  | consumed (h : Recorded db completion) :
    Causes db (.op (.completeJoin completion)) (.consumed completion.challenge.challengeID)
  | issued {publicKey : Bytes} :
    Causes db (.issueLeaf providerID publicKey now) (.issued providerID publicKey)
  | accepted : Causes db
      (.op (.acceptHeartbeat providerID requestID n payloadHash payload ttl))
      (.accepted providerID)
  | reconciled : Causes db (.op (.reconcileWorkloadStatus providerID statuses))
      (.reconciled providerID)

def Logs (call : Call) (q : Query) (w w' : World) : Prop :=
  w'.calls = w.calls ∧
    (w'.log = w.log ∨ ∃ m, Causes w'.db q m ∧ w'.log = w.log ++ [(call, m)])

theorem Logs.refl (call : Call) (q : Query) (w : World) : Logs call q w w := ⟨rfl, .inl rfl⟩

theorem perform_logs (h : w.perform lib call o = .ok (a, w')) : Logs call (.op o) w w' := by
  cases o with
  | completeJoin completion =>
    obtain ⟨⟨completed, db', consumed⟩, hdb, h⟩ := bind_eq_ok.1 h
    obtain ⟨rfl, _⟩ | ⟨rfl, row, _, _, _, _, rfl, _⟩ := completeJoin_cases hdb
    · cases h
      exact ⟨rfl, .inl rfl⟩
    · cases h
      exact ⟨rfl, .inr ⟨_, .consumed (recorded_recordCompletion ..), rfl⟩⟩
  | acceptHeartbeat providerID requestID sequence payloadHash payload ttl =>
    obtain ⟨cache, _, h⟩ := bind_eq_ok.1 h
    cases h
    exact ⟨rfl, .inr ⟨_, .accepted, rfl⟩⟩
  | reconcileWorkloadStatus providerID statuses =>
    cases h
    exact ⟨rfl, .inr ⟨_, .reconciled, rfl⟩⟩
  | isRevoked providerID =>
    cases h
    exact ⟨rfl, .inl rfl⟩
  | dueChainRegistrations limit =>
    cases h
    exact ⟨rfl, .inl rfl⟩
  | _ =>
    obtain ⟨x, _, h⟩ := bind_eq_ok.1 h
    cases h
    exact ⟨rfl, .inl rfl⟩

theorem answer_logs (lib : Library) (w : World) (env : Env) (call : Call) (q : Query) :
    Logs call q w (w.answer lib env call q).2 := by
  cases q with
  | issueLeaf providerID publicKey now =>
    dsimp only [World.answer]
    split
    · split
      · exact ⟨rfl, .inr ⟨_, .issued, rfl⟩⟩
      · exact .refl ..
    · exact .refl ..
  | op o =>
    dsimp only [World.answer]
    obtain ⟨hsame, _⟩ | ⟨a, w', hperform, hw', _⟩ :=
      env.link.deliver_cases w .other (w.perform lib call o)
    · rw [hsame]
      exact .refl ..
    · rw [hw']
      exact perform_logs hperform
  | _ => exact .refl ..

@[reducible] def rules (lib : Library) (Extra : Knowledge → Prop) :
    Rules World Call Query Reply (Except Status Response) where
  protocol := conduct lib
  known w _ c := Holds lib w.db c ∧ Extra c
  ends _ _ _ := True

theorem obeys_handle (call : Call) (h : Extra .none) :
    (rules lib Extra).Obeys w call (handle lib service call) :=
  ⟨.none, ⟨.none lib w.db, h⟩, Keeps.handle call⟩

structure Orderly (lib : Library) (Extra : Knowledge → Prop) (s : State) : Prop where
  consistent : Consistent lib s.world.db
  obey : s.Obey (rules lib Extra)

namespace Orderly
variable {lib : Library} {service : Service} {Extra : Knowledge → Prop} {s : State}

theorem init (lib : Library) (Extra : Knowledge → Prop) : Orderly lib Extra State.init :=
  ⟨.empty lib, fun _ ht => absurd ht List.not_mem_nil⟩

section
variable (h : Orderly lib Extra s)
include h

theorem allowed (hr : s.request i = some (call, q)) :
    ∃ c, Holds lib s.world.db c ∧ Extra c ∧ Allowed lib call c q := by
  obtain ⟨c, hk, ha⟩ := h.obey.allows hr
  exact ⟨c, hk.1, hk.2, ha⟩

theorem proceed (i : Nat) (env : Env)
    (hlearn : ∀ call q c, s.request i = some (call, q) → Extra c → Allowed lib call c q →
      Extra (c.learn q (s.world.answer lib env call q).1)) :
    Orderly lib Extra (s.proceed (World.answer lib env) i) := by
  constructor
  · refine Workers.proceed_world (P := fun w : World => Consistent lib w.db) h.consistent ?_
    intro call q hr
    obtain ⟨c, hholds, _, ha⟩ := h.allowed hr
    exact (answer_spec env h.consistent hholds ha).1.consistent h.consistent
  · refine h.obey.proceed ?_ ?_
    · intro call q c hr hk ha
      obtain ⟨_, hexpected, hholds⟩ := answer_spec env h.consistent hk.1 ha
      exact ⟨hexpected, hholds, hlearn call q c hr hk.2 ha⟩
    · intro call q hr t _ c' hk'
      obtain ⟨c, hholds, _, ha⟩ := h.allowed hr
      exact ⟨hk'.1.mono (answer_spec env h.consistent hholds ha).1.grows, hk'.2⟩

theorem world (hw : Advances lib s.world.db w.db) : Orderly lib Extra { s with world := w } :=
  ⟨hw.consistent h.consistent, h.obey.world fun _ _ h => ⟨h.1.mono hw.grows, h.2⟩⟩

theorem step (e : Event) (hnone : Extra .none)
    (hlearn : ∀ i env, e = .proceed i env → ∀ call q c, s.request i = some (call, q) → Extra c →
      Allowed lib call c q → Extra (c.learn q (s.world.answer lib env call q).1)) :
    Orderly lib Extra (step lib service s e) := by
  cases e with
  | tick elapsed => exact h.world (.refl lib _)
  | begin call =>
    have hw := h.world (w := { s.world with calls := s.world.calls ++ [call] }) (.refl lib _)
    exact ⟨hw.consistent, hw.obey.start (obeys_handle call hnone)⟩
  | proceed i env => exact h.proceed i env (hlearn i env rfl)
  | cancel i => exact ⟨h.consistent, h.obey.cancel i⟩
  | revoke providerID =>
    refine h.world ?_
    have hrevoke : Yields (s.world.db.revokeProvider providerID)
        fun db => Advances lib s.world.db db := fun db hdb => .setStatus hdb
    exact hrevoke.commit (.refl lib _)
  | sweep => exact h.world (.refl lib _)

end

end Orderly

end OpenInfra.Join
