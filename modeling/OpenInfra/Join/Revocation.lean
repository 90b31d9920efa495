import OpenInfra.Join.Records

namespace OpenInfra.Join
open Frame List
open ControlPlane (Uuid Time)

def Mark.serves (p : String) : Mark → Bool
  | .issued providerID _ => providerID = p
  | .accepted providerID => providerID = p
  | _ => false

def World.services (w : World) (p : String) : List (Call × Mark) :=
  w.log.filter fun x => x.2.serves p

structure Barred (p : String) (served : List (Call × Mark)) (s : State) : Prop where
  status : s.world.db.status p = some .revoked
  unlisted : ∀ row ∈ s.world.db.listActive, row.providerID ≠ p
  services : s.world.services p = served

def Query.confirms (lib : Library) (p : String) (env : Env) : Query → Bool
  | .ensureActive publicKey => providerIDOf lib publicKey = p && env.chain.isOk
  | _ => false

def Unconfirmed (lib : Library) (p : String) (s : State) : Event → Prop
  | .proceed i env => ((s.request i).any fun x => x.2.confirms lib p env) = false
  | _ => True

instance (lib : Library) (p : String) (s : State) : (e : Event) → Decidable (Unconfirmed lib p s e)
  | .proceed .. => inferInstanceAs (Decidable (_ = false))
  | .tick _ | .begin _ | .cancel _ | .revoke _ | .sweep => inferInstanceAs (Decidable True)

/-- What a call knows when it has not seen `p` active. -/
structure Unaware (lib : Library) (p : String) (c : Knowledge) : Prop where
  active : p ∉ c.active
  confirmed : ∀ key ∈ c.confirmed, providerIDOf lib key ≠ p

theorem Unaware.none (lib : Library) (p : String) : Unaware lib p .none := ⟨nofun, nofun⟩

theorem Unaware.of_eq (h : Unaware lib p c) (hactive : c'.active = c.active)
    (hconfirmed : c'.confirmed = c.confirmed) : Unaware lib p c' :=
  ⟨hactive ▸ h.active, hconfirmed ▸ h.confirmed⟩

theorem World.services_mark (w : World) (call : Call) (hm : m.serves p = false) :
    (w.mark call m).services p = w.services p := by
  unfold World.services World.mark
  rw [filter_append, filter_singleton, hm]
  exact append_nil _

variable {db db' : Database}

theorem setStatus_status (h : db.setStatus q status = .ok db') (hne : q ≠ p) :
    db'.status p = db.status p := by
  obtain ⟨row, hrow, h⟩ := bind_eq_ok.1 h
  cases h
  have hkey := Table.key_of_lookup (okOr_eq_ok.1 hrow)
  unfold Database.status
  dsimp only
  rw [Table.lookup_put, if_neg]
  rintro rfl
  exact hne hkey.symm

theorem activateProvider_status
    (h : db.activateProvider q = .ok (completed, db')) (hne : q ≠ p) :
    db'.status p = db.status p := by
  obtain ⟨db₁, hdb₁, h⟩ := bind_eq_ok.1 h
  obtain ⟨row, _, h⟩ := bind_eq_ok.1 h
  cases h
  rw [← setStatus_status hdb₁ hne]
  unfold Database.finalizeRegistration
  split
  · rfl
  · rfl

structure Withheld (lib : Library) (p : String) (w w' : World) (c : Knowledge) : Prop where
  unaware : Unaware lib p c
  status : w'.db.status p = some .revoked
  services : w'.services p = w.services p

section
variable {lib : Library} {w w' : World} {c : Knowledge}

theorem perform_withheld (hu : Unaware lib p c) (hs : w.db.status p = some .revoked)
    (ha : Allowed lib call c (.op o)) (h : w.perform lib call o = .ok (a, w')) :
    Withheld lib p w w' (c.learn (.op o) (.ok a)) := by
  cases o with
  | insertChallenge candidate =>
    obtain ⟨⟨b, db'⟩, hdb, h⟩ := bind_eq_ok.1 h
    cases h
    have hproviders : Advances lib w.db db' ∧ _ := Advances.insertChallenge hdb
    refine ⟨hu.of_eq rfl rfl, ?_, rfl⟩
    unfold Database.status
    rw [hproviders.2]
    exact hs
  | challengeByBeginRequestID requestID =>
    obtain ⟨challenge, _, h⟩ := bind_eq_ok.1 h
    cases h
    exact ⟨hu.of_eq rfl rfl, hs, rfl⟩
  | getChallenge challengeID =>
    obtain ⟨challenge, _, h⟩ := bind_eq_ok.1 h
    cases h
    exact ⟨hu.of_eq rfl rfl, hs, rfl⟩
  | completeJoin completion =>
    obtain ⟨⟨completed, db', consumed⟩, hdb, h⟩ := bind_eq_ok.1 h
    obtain ⟨rfl, rfl, _, row, _, _, hprovider, hstatus⟩ |
      ⟨rfl, row, _, _, _, _, rfl, _, hstatus⟩ := completeJoin_cases hdb
    · cases h
      refine ⟨⟨?_, hu.confirmed⟩, hs, rfl⟩
      dsimp only [Knowledge.learn]
      split
      · rename_i hactive
        rintro hp
        obtain rfl | hp := mem_cons.1 hp
        · rw [hprovider, hstatus, hactive] at hs
          cases hs
        · exact hu.active hp
      · exact hu.active
    · cases h
      refine ⟨⟨?_, hu.confirmed⟩, recordCompletion_status hs, World.services_mark _ call rfl⟩
      dsimp only [Knowledge.learn]
      rw [hstatus, ha.2.2.1, if_neg (by decide)]
      exact hu.active
  | activateProvider q =>
    obtain ⟨⟨completed, db'⟩, hdb, h⟩ := bind_eq_ok.1 h
    cases h
    obtain ⟨key, hkey, rfl⟩ := ha
    have hne := hu.confirmed key hkey
    refine ⟨⟨?_, hu.confirmed⟩, (activateProvider_status hdb hne).trans hs, rfl⟩
    exact not_mem_cons_of_ne_of_not_mem hne.symm hu.active
  | providerIdentity q =>
    obtain ⟨identity, hidentity, h⟩ := bind_eq_ok.1 h
    cases h
    obtain ⟨row, hrow, hidentity⟩ := bind_eq_ok.1 hidentity
    cases hidentity
    refine ⟨⟨?_, hu.confirmed⟩, hs, rfl⟩
    dsimp only [Knowledge.learn]
    split
    · rename_i hactive
      refine not_mem_cons_of_ne_of_not_mem ?_ hu.active
      rintro rfl
      rw [Database.status, okOr_eq_ok.1 hrow, Option.map_some, hactive] at hs
      cases hs
    · exact hu.active
  | isRevoked q =>
    cases h
    exact ⟨hu.of_eq rfl rfl, hs, rfl⟩
  | acceptRenewal q nonce =>
    obtain ⟨cache, _, h⟩ := bind_eq_ok.1 h
    cases h
    exact ⟨hu.of_eq rfl rfl, hs, rfl⟩
  | acceptHeartbeat q requestID sequence payloadHash payload ttl =>
    obtain ⟨cache, _, h⟩ := bind_eq_ok.1 h
    cases h
    have hne : q ≠ p := fun h => hu.active (h ▸ ha.1)
    exact ⟨hu.of_eq rfl rfl, hs, World.services_mark _ call (decide_eq_false hne)⟩
  | reconcileWorkloadStatus q statuses =>
    cases h
    exact ⟨hu.of_eq rfl rfl, hs, World.services_mark w call rfl⟩
  | dueChainRegistrations limit =>
    cases h
    exact ⟨hu.of_eq rfl rfl, hs, rfl⟩
  | recordChainRegistrationFailure q nextAttemptAt terminal =>
    obtain ⟨db', hdb, h⟩ := bind_eq_ok.1 h
    cases h
    obtain ⟨row, _, hdb⟩ := bind_eq_ok.1 hdb
    cases hdb
    exact ⟨hu.of_eq rfl rfl, hs, rfl⟩

theorem Unaware.learn_error (hu : Unaware lib p c) (o : Op) (e : RepositoryError) :
    Unaware lib p (c.learn (.op o) (.error e)) := by
  cases o <;> exact hu.of_eq rfl rfl

theorem answer_withheld (env : Env) (hu : Unaware lib p c)
    (hs : w.db.status p = some .revoked) (ha : Allowed lib call c q)
    (hchain : q.confirms lib p env = false) :
    Withheld lib p w (w.answer lib env call q).2 (c.learn q (w.answer lib env call q).1) := by
  cases q with
  | now => exact ⟨hu.of_eq rfl rfl, hs, rfl⟩
  | random => exact ⟨hu.of_eq rfl rfl, hs, rfl⟩
  | ensureActive publicKey =>
    refine ⟨?_, hs, rfl⟩
    change Unaware lib p (c.learn (.ensureActive publicKey) env.chain)
    cases hreply : env.chain with
    | error e => exact hu.of_eq rfl rfl
    | ok u =>
      refine ⟨hu.active, ?_⟩
      intro key hkey hp
      obtain rfl | hkey := mem_cons.1 hkey
      · rw [Query.confirms, decide_eq_true hp, hreply] at hchain
        cases hchain
      · exact hu.confirmed key hkey hp
  | issueLeaf providerID publicKey now =>
    have hne : providerID ≠ p := fun h => hu.active (h ▸ ha.1)
    dsimp only [World.answer]
    split
    · split
      · exact ⟨hu.of_eq rfl rfl, hs, World.services_mark w call (decide_eq_false hne)⟩
      · exact ⟨hu.of_eq rfl rfl, hs, rfl⟩
    · exact ⟨hu.of_eq rfl rfl, hs, rfl⟩
  | op o =>
    dsimp only [World.answer]
    obtain ⟨hsame, hfailed⟩ | ⟨a, w', hperform, hw', hreply⟩ :=
      env.link.deliver_cases w .other (w.perform lib call o)
    · rw [hsame]
      cases hr : (env.link.deliver w .other (w.perform lib call o)).1 with
      | ok a => exact absurd hr (hfailed a)
      | error e => exact ⟨hu.learn_error o e, hs, rfl⟩
    · obtain ⟨hunaware, hstatus, hservices⟩ := perform_withheld hu hs ha hperform
      rw [hw']
      cases hr : (env.link.deliver w .other (w.perform lib call o)).1 with
      | ok b =>
        cases hreply b hr
        exact ⟨hunaware, hstatus, hservices⟩
      | error e => exact ⟨hu.learn_error o e, hstatus, hservices⟩

end

/-- No call can serve the provider, which is revoked. -/
structure Cut (lib : Library) (p : String) (served : List (Call × Mark)) (s : State) : Prop where
  orderly : Orderly lib (Unaware lib p) s
  status : s.world.db.status p = some .revoked
  services : s.world.services p = served

section
variable {lib : Library} {service : Service} {s : State}

theorem Cut.barred (h : Cut lib p served s) : Barred p served s := by
  refine ⟨h.status, ?_, h.services⟩
  rintro row hrow rfl
  obtain ⟨hrow, hactive⟩ := mem_filter.1 hrow
  have hstatus := h.status
  rw [Database.status, Table.mem_rows.1 hrow, Option.map_some, of_decide_eq_true hactive] at hstatus
  cases hstatus

theorem setStatus_self (h : db.setStatus p status = .ok db') : db'.status p = some status := by
  obtain ⟨row, hrow, h⟩ := bind_eq_ok.1 h
  cases h
  have hkey := Table.key_of_lookup (okOr_eq_ok.1 hrow)
  unfold Database.status
  dsimp only
  rw [Table.lookup_put, if_pos hkey.symm]
  rfl

theorem revokeProvider_status (db : Database) (q : String) (h : db.status p = some .revoked) :
    (commit db (db.revokeProvider q)).status p = some .revoked := by
  have hrevoke : Yields (db.revokeProvider q) fun db => db.status p = some .revoked := by
    intro db' hdb'
    by_cases hq : q = p
    · subst hq
      exact setStatus_self hdb'
    · exact (setStatus_status hdb' hq).trans h
  exact hrevoke.commit h

theorem revokeProvider_self (h : (db.status p).isSome) :
    (commit db (db.revokeProvider p)).status p = some .revoked := by
  obtain ⟨status, hstatus⟩ := Option.isSome_iff_exists.1 h
  obtain ⟨row, hrow, _⟩ := Option.map_eq_some_iff.1 hstatus
  have hok : db.revokeProvider p =
      .ok { db with providers := db.providers.put { row with status := .revoked } } := by
    unfold Database.revokeProvider Database.setStatus
    rw [hrow]
    rfl
  rw [hok]
  exact setStatus_self hok

theorem Cut.step (h : Cut lib p served s) (hchain : Unconfirmed lib p s e) :
    Cut lib p served (step lib service s e) := by
  have hreply (i : Nat) (env : Env) (he : e = .proceed i env) (call : Call) (q : Query)
      (c : Knowledge) (hr : s.request i = some (call, q)) (hu : Unaware lib p c)
      (ha : Allowed lib call c q) :
      Withheld lib p s.world (s.world.answer lib env call q).2
        (c.learn q (s.world.answer lib env call q).1) := by
    rw [he, Unconfirmed, hr] at hchain
    exact answer_withheld env hu h.status ha hchain
  have horderly : Orderly lib (Unaware lib p) (Join.step lib service s e) := by
    refine h.orderly.step e (.none lib p) ?_
    intro i env he call q c hr hu ha
    exact (hreply i env he call q c hr hu ha).unaware
  suffices hw : (Join.step lib service s e).world.db.status p = some .revoked ∧
      (Join.step lib service s e).world.services p = served from ⟨horderly, hw.1, hw.2⟩
  cases e with
  | tick elapsed => exact ⟨h.status, h.services⟩
  | begin call => exact ⟨h.status, h.services⟩
  | proceed i env =>
    refine Workers.proceed_world
      (P := fun w : World => w.db.status p = some .revoked ∧ w.services p = served)
      ⟨h.status, h.services⟩ ?_
    intro call q hr
    obtain ⟨c, _, hu, ha⟩ := h.orderly.allowed hr
    have hw := hreply i env rfl call q c hr hu ha
    exact ⟨hw.status, hw.services.trans h.services⟩
  | cancel i => exact ⟨h.status, h.services⟩
  | revoke q => exact ⟨revokeProvider_status _ q h.status, h.services⟩
  | sweep => exact ⟨h.status, h.services⟩

theorem cut_revoke (h : Orderly lib Extra s) (hp : (s.world.db.status p).isSome)
    (hidle : ∀ t ∈ s.tasks, t.2.finished = true ∨ t.2 = handle lib service t.1) :
    Cut lib p (s.world.services p) (step lib service s (.revoke p)) := by
  refine ⟨⟨?_, ?_⟩, revokeProvider_self hp, rfl⟩
  · have hrevoke : Yields (s.world.db.revokeProvider p) fun db => Consistent lib db :=
      fun db hdb => (Advances.setStatus hdb).consistent h.consistent
    exact hrevoke.commit h.consistent
  · rintro ⟨call, rest⟩ ht
    obtain hfinished | hbegun := hidle _ ht
    · cases rest with
      | ret a => exact ⟨.none, ⟨.none lib _, .none lib p⟩, trivial⟩
      | call q k => cases hfinished
    · change rest = handle lib service call at hbegun
      rw [hbegun]
      exact obeys_handle call (.none lib p)

end

/-- A revoked provider stays out as long as the chain does not confirm it. -/
theorem revoked_for_good (lib : Library) (service : Service) (p : String)
    (events events' : List Event)
    (hp : ((run (step lib service) State.init events).world.db.status p).isSome)
    (hidle : ∀ t ∈ (run (step lib service) State.init events).tasks,
      t.2.finished = true ∨ t.2 = handle lib service t.1)
    (h : Along (step lib service) (Unconfirmed lib p)
      (step lib service (run (step lib service) State.init events) (.revoke p)) events') :
    Throughout (step lib service)
      (Barred p ((run (step lib service) State.init events).world.services p))
      (step lib service (run (step lib service) State.init events) (.revoke p)) events' := by
  have horderly : Orderly lib (fun _ => True) (run (step lib service) State.init events) := by
    refine run_invariant (.init lib _) ?_ events
    intro s e hs
    exact hs.step e trivial fun _ _ _ _ _ _ _ _ _ => trivial
  have hcut := cut_revoke horderly hp hidle
  exact (h.throughout hcut fun _ _ hs he => hs.step he).mono fun _ hs => hs.barred

def sampleLibrary : Library where
  sha256 := id
  verify key message signature := signature = key ++ message.drop joinDomain.length
  parseUUID s := some (Fin.ofNat _ s.utf8ByteSize)
  parseURL _ := none
  marshalCapability _ := some []
  marshalPayload payload :=
    some (bigEndian 8 payload.sequence ++ bigEndian 19 (payload.observedAt.getD 0))
  tonumber := id

def sampleService : Service where
  registrar := true
  ca := true
  revocation := true
  renewalNonces := true
  heartbeats := true
  workloadReconciler := true
  batchSize := 20
  maxAttempts := 10
  baseBackoff := seconds 5
  maxBackoff := seconds 600

def sampleKey : Bytes := replicate 32 1

def sampleNonce : Bytes := replicate 32 2

def sampleID : String := providerIDOf sampleLibrary sampleKey

def sampleCapability : ResourceCapability := ⟨.finite 4, .finite 4, 8192, 8192, 100, 100⟩

def bootstrapPeer : Option Peer := some ⟨"agent", "1", false⟩

def sampleBegin : Call := .beginJoin bootstrapPeer ⟨"r", sampleKey, "1", "0.1.0", ""⟩

def sampleComplete (tlsPublicKey : Bytes) : Call :=
  .completeJoin bootstrapPeer
    ⟨"rr", "ccccccc", sampleKey ++ sampleNonce, some sampleCapability, tlsPublicKey⟩

def upEnv : Env := ⟨.up, some (7, sampleNonce), some "2", .ok ()⟩

def offChain : Env := { upEnv with chain := .error .other }

def serve (call : Call) (i n : Nat) (env : Env) : List Event :=
  .begin call :: replicate n (.proceed i env)

def sampleJoin : List Event :=
  serve sampleBegin 0 3 upEnv ++ serve (sampleComplete (replicate 32 3)) 1 6 upEnv

theorem revoked_for_good_off_chain :
    let s := run (step sampleLibrary sampleService) State.init sampleJoin
    Throughout (step sampleLibrary sampleService) (Barred sampleID (s.world.services sampleID))
      (step sampleLibrary sampleService s (.revoke sampleID))
      (serve (sampleComplete (replicate 32 3)) 2 4 offChain ++
        serve .reconcileOnce 3 2 upEnv) := by
  refine revoked_for_good sampleLibrary sampleService sampleID sampleJoin _ (by decide +kernel) ?_
    (by decide +kernel)
  have hfinished : ((run (step sampleLibrary sampleService) State.init sampleJoin).tasks.all
      fun t => t.2.finished) = true := by decide +kernel
  exact fun t ht => .inl (all_eq_true.1 hfinished t ht)

theorem revoked_provider_returns :
    let later (events events' : List Event) := run (step sampleLibrary sampleService)
      (step sampleLibrary sampleService (run (step sampleLibrary sampleService) State.init events)
        (.revoke sampleID)) events'
    let joining := serve sampleBegin 0 3 upEnv ++
      serve (sampleComplete (replicate 32 3)) 1 4 offChain
    (later sampleJoin []).world.db.status sampleID = some .revoked ∧
      (later joining []).world.db.status sampleID = some .revoked ∧
      (let s := later sampleJoin (serve (sampleComplete (replicate 32 3)) 2 6 upEnv)
      s.world.db.status sampleID = some .active ∧ (s.world.services sampleID).length = 2) ∧
      (later joining (serve .reconcileOnce 2 3 upEnv)).world.db.status sampleID =
        some .active := by
  decide +kernel

end OpenInfra.Join
