import OpenInfra.Join.Revocation

namespace OpenInfra.Join
open Frame List
open ControlPlane (Uuid Time)

/-- The heartbeats an Agent has signed, in order; nobody else can sign one. -/
structure Agent (lib : Library) (p : String) where
  produced : HeartbeatSigningPayload → Prop
  ordered : ∀ b b' t t', produced b → produced b' → b.sequence ≤ b'.sequence →
    b.observedAt = some t → b'.observedAt = some t' → t ≤ t'
  genuine : ∀ b bytes key signature, lib.marshalPayload b = some bytes → b.providerId = p →
    providerIDOf lib key = p → lib.verify key (heartbeatDomain ++ bytes) signature = true →
    produced b
  distinct : ∀ b b' bytes bytes', produced b → produced b' → lib.marshalPayload b = some bytes →
    lib.marshalPayload b' = some bytes' → lib.sha256 bytes = lib.sha256 bytes' → b = b'

def World.payloads (w : World) (m : Mark) : List HeartbeatSigningPayload :=
  w.log.filterMap fun x => if x.2 = m then x.1.payload else none

def Precedes (b b' : HeartbeatSigningPayload) : Prop := b.sequence < b'.sequence ∨ b = b'

/-- Heartbeats are accepted and reconciled in order. -/
def InOrder (p : String) (s : State) : Prop :=
  (s.world.payloads (.accepted p)).Pairwise Precedes ∧
    (s.world.payloads (.reconciled p)).Pairwise Precedes

def Query.accepts (p : String) : Query → Bool
  | .op (.acceptHeartbeat providerID ..) => providerID = p
  | _ => false

def Query.reconciles (p : String) : Query → Bool
  | .op (.reconcileWorkloadStatus providerID _) => providerID = p
  | _ => false

def World.forgotten (w : World) (p : String) : Bool :=
  (w.cache.heartbeats p).any fun beat => beat.expiresAt ≤ w.clock

/-- Not from the future, nor older than a forgotten last one allows. -/
def World.prompt (w : World) (p : String) (call : Call) : Bool :=
  (call.payload.bind (·.observedAt)).all fun t =>
    t ≤ w.clock && (!w.forgotten p || w.clock < t + defaultHeartbeatTTL)

def State.reconciling (p : String) (s : State) : Bool :=
  s.tasks.any fun t => t.2.next.any (·.reconciles p)

def Timely (p : String) (s : State) : Event → Prop
  | .proceed i _ =>
    ((s.request i).all fun x =>
      !x.2.accepts p || s.world.prompt p x.1 && !State.reconciling p s) = true
  | _ => True

instance (p : String) (s : State) : (e : Event) → Decidable (Timely p s e)
  | .proceed .. => inferInstanceAs (Decidable (_ = true))
  | .tick _ | .begin _ | .cancel _ | .revoke _ | .sweep => inferInstanceAs (Decidable True)

theorem Precedes.trans (h : Precedes b b') (h' : Precedes b' b'') : Precedes b b'' := by
  obtain h | rfl := h
  · obtain h' | rfl := h'
    · exact .inl (h.trans h')
    · exact .inl h
  · exact h'

theorem World.payloads_mark (w : World) (call : Call) (m m' : Mark) :
    (w.mark call m').payloads m =
      w.payloads m ++ if m' = m then call.payload.toList else [] := by
  unfold World.payloads World.mark
  rw [filterMap_append]
  congr 1
  split
  · cases hpayload : call.payload with
    | none => simp only [filterMap_cons, filterMap_nil, *, if_true]; rfl
    | some b => simp only [filterMap_cons, filterMap_nil, *, if_true]; rfl
  · simp only [filterMap_cons, filterMap_nil, *, if_false]

structure Latest (lib : Library) (agent : Agent lib p) (w : World) (beat : Heartbeat)
    (b : HeartbeatSigningPayload) : Prop where
  produced : agent.produced b
  hash : ∃ bytes, lib.marshalPayload b = some bytes ∧ beat.payloadHash = lib.sha256 bytes
  sequence : beat.sequence = b.sequence
  observed : ∃ t, b.observedAt = some t ∧ t + defaultHeartbeatTTL ≤ beat.expiresAt
  accepted : ∀ b' ∈ w.payloads (.accepted p), Precedes b' b
  reconciled : ∀ b' ∈ w.payloads (.reconciled p), Precedes b' b

section
variable {lib : Library} {agent : Agent lib p} {w : World}

theorem precedes_of_accept (hmono : Monotone lib.tonumber) (hlatest : Latest lib agent w beat b₀)
    (hbeat : w.cache.heartbeats p = some beat) (hb : agent.produced b)
    (hbytes : lib.marshalPayload b = some bytes) (ht : b.observedAt = some t)
    (hprompt : w.forgotten p = true → w.clock < t + defaultHeartbeatTTL)
    (h : w.cache.acceptHeartbeat lib p b.requestId b.sequence (lib.sha256 bytes) bytes ttl w.clock =
      .ok cache) : Precedes b₀ b := by
  unfold Cache.acceptHeartbeat Cache.current at h
  rw [hbeat] at h
  by_cases halive : w.clock < beat.expiresAt
  · rw [Option.filter_some, if_pos (decide_eq_true halive)] at h
    dsimp only at h
    split at h
    · obtain ⟨_, hsame, _⟩ := bind_eq_ok.1 h
      rw [ensure_eq_ok] at hsame
      obtain ⟨bytes₀, hbytes₀, hhash₀⟩ := hlatest.hash
      exact .inr (agent.distinct b₀ b _ _ hlatest.produced hb hbytes₀ hbytes
        (hhash₀.symm.trans hsame))
    · obtain ⟨_, hnew, _⟩ := bind_eq_ok.1 h
      rw [ensure_eq_ok, hlatest.sequence] at hnew
      exact .inl (not_le.1 fun hle => hnew (hmono hle))
  · have hforgotten : w.forgotten p = true := by
      unfold World.forgotten
      rw [hbeat]
      exact decide_eq_true (not_lt.1 halive)
    have hyoung := hprompt hforgotten
    obtain ⟨t₀, ht₀, hexpires⟩ := hlatest.observed
    refine .inl (not_le.1 fun hle => ?_)
    have hordered := agent.ordered b b₀ t t₀ hb hlatest.produced hle ht ht₀
    have hold : t + defaultHeartbeatTTL ≤ w.clock :=
      (Nat.add_le_add_right hordered _).trans (hexpires.trans (not_lt.1 halive))
    exact absurd hyoung (not_lt.2 hold)

theorem accept_heartbeats {b : HeartbeatSigningPayload}
    (hlatest : ∀ beat, w.cache.heartbeats p = some beat →
      beat.requestID = b.requestId → beat.payloadHash = lib.sha256 bytes →
      beat.sequence = b.sequence)
    (h : w.cache.acceptHeartbeat lib p b.requestId b.sequence (lib.sha256 bytes) bytes ttl w.clock =
      .ok cache) : ∃ beat, cache.heartbeats p = some beat ∧ beat.sequence = b.sequence ∧
        beat.payloadHash = lib.sha256 bytes ∧ beat.expiresAt = w.clock + ttl := by
  have hset (beat : Heartbeat) : (w.cache.setHeartbeat p beat).heartbeats p = some beat :=
    Function.update_self ..
  unfold Cache.acceptHeartbeat Cache.current at h
  split at h
  · rename_i beat hbeat
    obtain ⟨hbeat, _⟩ := Option.filter_eq_some_iff.1 hbeat
    split at h
    · obtain ⟨_, hsame, h⟩ := bind_eq_ok.1 h
      cases h
      rw [ensure_eq_ok] at hsame
      exact ⟨_, hset _, hlatest beat hbeat ‹_› hsame, hsame, rfl⟩
    · obtain ⟨_, _, h⟩ := bind_eq_ok.1 h
      cases h
      exact ⟨_, hset _, rfl, rfl, rfl⟩
  · cases h
    exact ⟨_, hset _, rfl, rfl, rfl⟩

theorem acceptHeartbeat_other
    (h : w.cache.acceptHeartbeat lib q requestID n payloadHash payload ttl w.clock =
      .ok cache) (hne : q ≠ p) : cache.heartbeats p = w.cache.heartbeats p := by
  have hset (beat : Heartbeat) :
      (w.cache.setHeartbeat q beat).heartbeats p = w.cache.heartbeats p :=
    Function.update_of_ne hne.symm ..
  unfold Cache.acceptHeartbeat at h
  split at h
  · split at h
    · obtain ⟨_, _, h⟩ := bind_eq_ok.1 h
      cases h
      exact hset _
    · obtain ⟨_, _, h⟩ := bind_eq_ok.1 h
      cases h
      exact hset _
  · cases h
    exact hset _

end

/-- Payloads are accepted, and reconciled, in the agent's order. -/
structure Ranked (lib : Library) (agent : Agent lib p) (w : World) : Prop where
  accepted : (w.payloads (.accepted p)).Pairwise Precedes
  reconciled : (w.payloads (.reconciled p)).Pairwise Precedes
  first : w.cache.heartbeats p = none →
    w.payloads (.accepted p) = [] ∧ w.payloads (.reconciled p) = []
  latest : ∀ beat, w.cache.heartbeats p = some beat →
    ∃ b, (w.payloads (.accepted p)).getLast? = some b ∧ Latest lib agent w beat b

namespace Ranked
variable {lib : Library} {agent : Agent lib p} {w w' : World}

theorem init (lib : Library) (agent : Agent lib p) : Ranked lib agent .init :=
  ⟨.nil, .nil, fun _ => ⟨rfl, rfl⟩, nofun⟩

theorem of_eq (h : Ranked lib agent w) (hlog : ∀ m, m = .accepted p ∨ m = .reconciled p →
      w'.payloads m = w.payloads m)
    (hcache : w'.cache.heartbeats p = w.cache.heartbeats p) : Ranked lib agent w' := by
  have haccepted := hlog _ (.inl rfl)
  have hreconciled := hlog _ (.inr rfl)
  refine ⟨haccepted ▸ h.accepted, hreconciled ▸ h.reconciled, ?_, ?_⟩
  · intro hnone
    rw [haccepted, hreconciled]
    exact h.first (hcache ▸ hnone)
  · intro beat hbeat
    obtain ⟨b, hb, hlatest⟩ := h.latest beat (hcache ▸ hbeat)
    exact ⟨b, haccepted ▸ hb, hlatest.produced, hlatest.hash, hlatest.sequence, hlatest.observed,
      haccepted ▸ hlatest.accepted, hreconciled ▸ hlatest.reconciled⟩

section
variable {b : HeartbeatSigningPayload}

theorem precedes_last (h : Ranked lib agent w) (hmono : Monotone lib.tonumber)
    (hb : agent.produced b) (hbytes : lib.marshalPayload b = some bytes)
    (ht : b.observedAt = some t)
    (hprompt : w.forgotten p = true → w.clock < t + defaultHeartbeatTTL)
    (haccept : w.cache.acceptHeartbeat lib p b.requestId b.sequence (lib.sha256 bytes) bytes ttl
      w.clock = .ok cache) :
    (∀ b' ∈ w.payloads (.accepted p), Precedes b' b) ∧
      ∀ b' ∈ w.payloads (.reconciled p), Precedes b' b := by
  cases hbeat : w.cache.heartbeats p with
  | none =>
    obtain ⟨haccepted, hreconciled⟩ := h.first hbeat
    rw [haccepted, hreconciled]
    exact ⟨forall_mem_nil _, forall_mem_nil _⟩
  | some beat =>
    obtain ⟨b₀, _, hlatest⟩ := h.latest beat hbeat
    have hlast := precedes_of_accept hmono hlatest hbeat hb hbytes ht hprompt haccept
    exact ⟨fun b' hb' => (hlatest.accepted b' hb').trans hlast,
      fun b' hb' => (hlatest.reconciled b' hb').trans hlast⟩

theorem accept (h : Ranked lib agent w) (hmono : Monotone lib.tonumber) (hb : agent.produced b)
    (hcall : call.payload = some b) (hbytes : lib.marshalPayload b = some bytes)
    (ht : b.observedAt = some t) (hpast : t ≤ w.clock)
    (hprompt : w.forgotten p = true → w.clock < t + defaultHeartbeatTTL)
    (haccept : w.cache.acceptHeartbeat lib p b.requestId b.sequence (lib.sha256 bytes) bytes
      defaultHeartbeatTTL w.clock = .ok cache) :
    Ranked lib agent ({ w with cache }.mark call (.accepted p)) ∧
      ({ w with cache }.mark call (.accepted p)).payloads (.accepted p) =
        w.payloads (.accepted p) ++ [b] := by
  obtain ⟨haccepted, hreconciled⟩ := h.precedes_last hmono hb hbytes ht hprompt haccept
  have hpayloads : ({ w with cache }.mark call (.accepted p)).payloads (.accepted p) =
      w.payloads (.accepted p) ++ [b] := by
    rw [World.payloads_mark, if_pos rfl, hcall]
    rfl
  have hother : ({ w with cache }.mark call (.accepted p)).payloads (.reconciled p) =
      w.payloads (.reconciled p) := by
    rw [World.payloads_mark, if_neg nofun]
    exact append_nil _
  obtain ⟨beat, hbeat, hsequence, hhash, hexpires⟩ := by
    refine accept_heartbeats ?_ haccept
    intro beat hbeat _ hhash
    obtain ⟨b₀, _, hlatest⟩ := h.latest beat hbeat
    obtain ⟨bytes₀, hbytes₀, hhash₀⟩ := hlatest.hash
    rw [hlatest.sequence, agent.distinct b₀ b _ _ hlatest.produced hb hbytes₀ hbytes
      (hhash₀.symm.trans hhash)]
  refine ⟨⟨?_, ?_, ?_, ?_⟩, hpayloads⟩
  · rw [hpayloads, pairwise_append]
    refine ⟨h.accepted, pairwise_singleton _ _, ?_⟩
    intro b' hb' b'' hb''
    cases mem_singleton.1 hb''
    exact haccepted b' hb'
  · rw [hother]
    exact h.reconciled
  · intro hnone
    cases hbeat.symm.trans hnone
  · intro beat' hbeat'
    cases hbeat.symm.trans hbeat'
    refine ⟨b, ?_, hb, ⟨bytes, hbytes, hhash⟩, hsequence, ⟨t, ht, ?_⟩, ?_, ?_⟩
    · rw [hpayloads, getLast?_concat]
    · rw [hexpires]
      exact Nat.add_le_add_right hpast _
    · rw [hpayloads]
      intro b' hb'
      obtain hb' | hb' := mem_append.1 hb'
      · exact haccepted b' hb'
      · exact .inr (mem_singleton.1 hb')
    · rw [hother]
      exact hreconciled

theorem reconcile (h : Ranked lib agent w) (hcall : call.payload = some b)
    (hlast : (w.payloads (.accepted p)).getLast? = some b) :
    Ranked lib agent (w.mark call (.reconciled p)) := by
  have hpayloads : (w.mark call (.reconciled p)).payloads (.reconciled p) =
      w.payloads (.reconciled p) ++ [b] := by
    rw [World.payloads_mark, if_pos rfl, hcall]
    rfl
  have hother : (w.mark call (.reconciled p)).payloads (.accepted p) =
      w.payloads (.accepted p) := by
    rw [World.payloads_mark, if_neg nofun]
    exact append_nil _
  obtain ⟨beat, hbeat⟩ : ∃ beat, w.cache.heartbeats p = some beat := by
    cases hbeat : w.cache.heartbeats p with
    | none =>
      rw [(h.first hbeat).1] at hlast
      cases hlast
    | some beat => exact ⟨beat, rfl⟩
  obtain ⟨b₀, hb₀, hlatest⟩ := h.latest beat hbeat
  cases hlast.symm.trans hb₀
  refine ⟨hother ▸ h.accepted, ?_, ?_, ?_⟩
  · rw [hpayloads, pairwise_append]
    refine ⟨h.reconciled, pairwise_singleton _ _, ?_⟩
    intro b' hb' b'' hb''
    cases mem_singleton.1 hb''
    exact hlatest.reconciled b' hb'
  · intro hnone
    cases hbeat.symm.trans hnone
  · intro beat' hbeat'
    cases hbeat.symm.trans hbeat'
    refine ⟨b, hother ▸ hlast, hlatest.produced, hlatest.hash, hlatest.sequence, hlatest.observed,
      hother ▸ hlatest.accepted, ?_⟩
    rw [hpayloads]
    intro b' hb'
    obtain hb' | hb' := mem_append.1 hb'
    · exact hlatest.reconciled b' hb'
    · exact .inr (mem_singleton.1 hb')

end

theorem inOrder (h : Ranked lib agent s.world) : InOrder p s := ⟨h.accepted, h.reconciled⟩

end Ranked

section
variable {lib : Library} {agent : Agent lib p} {w w' : World} {c : Knowledge}

theorem Ranked.mark_other (h : Ranked lib agent w)
    (hcache : w'.cache.heartbeats p = w.cache.heartbeats p) (hlog : w'.log = w.log)
    (haccepted : m ≠ .accepted p) (hreconciled : m ≠ .reconciled p) :
    Ranked lib agent (w'.mark call m) := by
  refine h.of_eq ?_ hcache
  have hpayloads (m' : Mark) : w'.payloads m' = w.payloads m' := by
    unfold World.payloads
    rw [hlog]
  rintro m' (rfl | rfl)
  · rw [World.payloads_mark, if_neg haccepted, append_nil, hpayloads]
  · rw [World.payloads_mark, if_neg hreconciled, append_nil, hpayloads]

structure Tracks (lib : Library) (agent : Agent lib p) (call : Call) (q : Query) (accepted : Bool)
    (w w' : World) : Prop where
  ranked : Ranked lib agent w'
  other : q.accepts p = false → w'.payloads (.accepted p) = w.payloads (.accepted p)
  last : q.accepts p = true → accepted = true →
    (w'.payloads (.accepted p)).getLast? = call.payload

theorem Tracks.same (h : Ranked lib agent w) (hq : q.accepts p = true → accepted = false)
    (hlog : w'.log = w.log) (hcache : w'.cache.heartbeats p = w.cache.heartbeats p) :
    Tracks lib agent call q accepted w w' := by
  have hpayloads (m : Mark) : w'.payloads m = w.payloads m := by
    unfold World.payloads
    rw [hlog]
  refine ⟨h.of_eq (fun m _ => hpayloads m) hcache, fun _ => hpayloads _, ?_⟩
  intro haccepts haccepted
  cases (hq haccepts).symm.trans haccepted

theorem Tracks.mark_other (h : Ranked lib agent w) (hq : q.accepts p = false)
    (hcache : w'.cache.heartbeats p = w.cache.heartbeats p) (hlog : w'.log = w.log)
    (haccepted : m ≠ .accepted p) (hreconciled : m ≠ .reconciled p) :
    Tracks lib agent call q accepted w (w'.mark call m) := by
  refine ⟨h.mark_other hcache hlog haccepted hreconciled, ?_, ?_⟩
  · intro _
    rw [World.payloads_mark, if_neg haccepted, append_nil]
    unfold World.payloads
    rw [hlog]
  · intro haccepts
    cases hq.symm.trans haccepts

theorem tracks_acceptHeartbeat (hmono : Monotone lib.tonumber) (h : Ranked lib agent w)
    (hholds : Holds lib w.db c)
    (ha : Allowed lib call c (.op (.acceptHeartbeat q requestID n payloadHash bytes ttl)))
    (hprompt : q = p → w.prompt p call = true)
    (hcache : w.cache.acceptHeartbeat lib q requestID n payloadHash bytes ttl w.clock = .ok cache) :
    Tracks lib agent call (.op (.acceptHeartbeat q requestID n payloadHash bytes ttl)) accepted w
      ({ w with cache }.mark call (.accepted q)) := by
  obtain ⟨_, b, key, hsigns, hidentity, hprovider, rfl, rfl, rfl, rfl⟩ := ha
  by_cases hq : q = p
  · subst hq
    obtain ⟨signature, hsigned⟩ := hsigns.signed
    obtain ⟨t, ht⟩ := Option.isSome_iff_exists.1 hsigns.observed
    have hb := agent.genuine b bytes key signature hsigns.marshal hprovider.symm
      (hholds.identities _ hidentity).symm hsigned
    have hprompt := hprompt rfl
    rw [World.prompt, hsigns.carries, Option.bind_some, ht, Option.all_some, Bool.and_eq_true,
      decide_eq_true_eq, Bool.or_eq_true, decide_eq_true_eq] at hprompt
    obtain ⟨hpast, hyoung⟩ := hprompt
    have hyoung (hforgotten : w.forgotten q = true) : w.clock < t + defaultHeartbeatTTL := by
      rw [hforgotten] at hyoung
      exact hyoung.resolve_left nofun
    obtain ⟨hranked, hpayloads⟩ :=
      h.accept hmono hb hsigns.carries hsigns.marshal ht hpast hyoung hcache
    refine ⟨hranked, ?_, ?_⟩
    · intro hother
      exact absurd rfl (of_decide_eq_false hother)
    · intro _ _
      rw [hpayloads, getLast?_concat, hsigns.carries]
  · refine .mark_other h (decide_eq_false hq) (acceptHeartbeat_other hcache hq) rfl ?_ nofun
    intro heq
    cases heq
    exact hq rfl

theorem tracks_reconcile (h : Ranked lib agent w)
    (ha : Allowed lib call c (.op (.reconcileWorkloadStatus q statuses)))
    (hlast : q = p → (w.payloads (.accepted p)).getLast? = call.payload) :
    Tracks lib agent call (.op (.reconcileWorkloadStatus q statuses)) accepted w
      (w.mark call (.reconciled q)) := by
  obtain ⟨_, b, hcall, _⟩ := ha
  by_cases hq : q = p
  · subst hq
    refine ⟨h.reconcile hcall ((hlast rfl).trans hcall), ?_, nofun⟩
    intro _
    rw [World.payloads_mark, if_neg nofun, append_nil]
  · refine .mark_other h rfl rfl rfl nofun ?_
    intro heq
    cases heq
    exact hq rfl

theorem perform_tracks (hmono : Monotone lib.tonumber) (h : Ranked lib agent w)
    (hholds : Holds lib w.db c) (ha : Allowed lib call c (.op o))
    (hprompt : Query.accepts p (.op o) = true → w.prompt p call = true)
    (hlast : Query.reconciles p (.op o) = true →
      (w.payloads (.accepted p)).getLast? = call.payload)
    (hperform : w.perform lib call o = .ok (a, w')) :
    Tracks lib agent call (.op o) accepted w w' := by
  cases o with
  | acceptHeartbeat q requestID n payloadHash bytes ttl =>
    obtain ⟨cache, hcache, hperform⟩ := bind_eq_ok.1 hperform
    cases hperform
    exact tracks_acceptHeartbeat hmono h hholds ha (fun hq => hprompt (decide_eq_true hq)) hcache
  | reconcileWorkloadStatus q statuses =>
    cases hperform
    exact tracks_reconcile h ha fun hq => hlast (decide_eq_true hq)
  | completeJoin completion =>
    obtain ⟨⟨completed, db', consumed⟩, _, hperform⟩ := bind_eq_ok.1 hperform
    cases consumed with
    | false =>
      cases hperform
      exact .same h nofun rfl rfl
    | true =>
      cases hperform
      exact .mark_other h rfl rfl rfl nofun nofun
  | acceptRenewal q nonce =>
    obtain ⟨cache, hcache, hperform⟩ := bind_eq_ok.1 hperform
    cases hperform
    obtain ⟨_, _, hcache⟩ := bind_eq_ok.1 hcache
    cases hcache
    exact .same h nofun rfl rfl
  | isRevoked q =>
    cases hperform
    exact .same h nofun rfl rfl
  | dueChainRegistrations limit =>
    cases hperform
    exact .same h nofun rfl rfl
  | _ =>
    obtain ⟨x, _, hperform⟩ := bind_eq_ok.1 hperform
    cases hperform
    exact .same h nofun rfl rfl

theorem learn_error_accepted (c : Knowledge) (o : Op) (e : RepositoryError) :
    (c.learn (.op o) (.error e)).accepted = false := by
  cases o <;> rfl

theorem answer_tracks (env : Env) (hmono : Monotone lib.tonumber) (h : Ranked lib agent w)
    (hholds : Holds lib w.db c) (ha : Allowed lib call c q)
    (hprompt : q.accepts p = true → w.prompt p call = true)
    (hlast : q.reconciles p = true → (w.payloads (.accepted p)).getLast? = call.payload) :
    Tracks lib agent call q (c.learn q (w.answer lib env call q).1).accepted w
      (w.answer lib env call q).2 := by
  cases q with
  | now => exact .same h nofun rfl rfl
  | random => exact .same h nofun rfl rfl
  | ensureActive publicKey => exact .same h nofun rfl rfl
  | issueLeaf providerID publicKey now =>
    dsimp only [World.answer]
    split
    · split
      · exact .mark_other h rfl rfl rfl nofun nofun
      · exact .same h nofun rfl rfl
    · exact .same h nofun rfl rfl
  | op o =>
    dsimp only [World.answer]
    obtain ⟨hsame, hfailed⟩ | ⟨a, w', hperform, hw', _⟩ :=
      env.link.deliver_cases w .other (w.perform lib call o)
    · rw [hsame]
      refine .same h (fun _ => ?_) rfl rfl
      cases hr : (env.link.deliver w .other (w.perform lib call o)).1 with
      | ok a => exact absurd hr (hfailed a)
      | error e => exact learn_error_accepted c o e
    · rw [hw']
      exact perform_tracks hmono h hholds ha hprompt hlast hperform

end

section
variable {lib : Library} {service : Service} {agent : Agent lib p} {s : State} {c : Knowledge}
  {call : Call}

theorem accepted_of_reconciling (h : Keeps lib call c handler)
    (hnext : handler.next.any (·.reconciles p) = true) :
    c.accepted = true ∧ ∃ b, call.payload = some b ∧ p = b.providerId := by
  cases handler with
  | ret a => cases hnext
  | call q k =>
    obtain ⟨ha, _⟩ := h
    cases q with
    | op o =>
      cases o with
      | reconcileWorkloadStatus q statuses =>
        cases of_decide_eq_true hnext
        exact ha
      | _ => cases hnext
    | _ => cases hnext

theorem accepts_of_learn (ha : Allowed lib call c q) (hcall : call.payload = some b)
    (hp : p = b.providerId) (haccepted : (c.learn q r).accepted = true) : q.accepts p = true := by
  cases q with
  | op o =>
    cases o with
    | acceptHeartbeat q requestID n payloadHash bytes ttl =>
      obtain ⟨_, b', _, hsigns, _, hq, _⟩ := ha
      cases hcall.symm.trans hsigns.carries
      exact decide_eq_true (hq.trans hp.symm)
    | _ => cases r <;> cases haccepted
  | ensureActive publicKey => cases r <;> cases haccepted
  | _ => cases haccepted

structure Paced (lib : Library) (agent : Agent lib p) (s : State) : Prop where
  orderly : Orderly lib (fun _ => True) s
  ranked : Ranked lib agent s.world
  pending : ∀ t ∈ s.tasks, t.2.next.any (·.reconciles p) = true →
    (s.world.payloads (.accepted p)).getLast? = t.1.payload

theorem paced_proceed (hmono : Monotone lib.tonumber) (h : Paced lib agent s) (i : Nat) (env : Env)
    (htimely : Timely p s (.proceed i env)) :
    Paced lib agent (s.proceed (World.answer lib env) i) := by
  have horderly := h.orderly.proceed i env fun _ _ _ _ _ _ => trivial
  cases hr : s.request i with
  | none =>
    rw [Workers.proceed_none hr]
    exact h
  | some x =>
    obtain ⟨call, q⟩ := x
    obtain ⟨k, hk⟩ := Workers.request_eq_some.1 hr
    have htask := mem_of_getElem? hk
    obtain ⟨c, ⟨hholds, _⟩, hkeeps⟩ := h.orderly.obey _ htask
    rw [Timely, hr, Option.all_some, Bool.or_eq_true, Bool.and_eq_true] at htimely
    have htimely (haccepts : q.accepts p = true) :
        s.world.prompt p call = true ∧ State.reconciling p s = false := by
      rw [haccepts] at htimely
      obtain ⟨hprompt, hidle⟩ := htimely.resolve_left nofun
      exact ⟨hprompt, (Bool.not_eq_true' _).mp hidle⟩
    have htracks := answer_tracks env hmono h.ranked hholds hkeeps.1
      (fun haccepts => (htimely haccepts).1) (fun hreconciles => h.pending _ htask hreconciles)
    have hexpected := (answer_spec env h.orderly.consistent hholds hkeeps.1).2.1
    rw [Workers.proceed_call hk] at horderly ⊢
    refine ⟨horderly, htracks.ranked, ?_⟩
    intro t ht hnext
    obtain ht | rfl := mem_or_eq_of_mem_set ht
    · cases haccepts : q.accepts p with
      | false =>
        rw [htracks.other haccepts]
        exact h.pending t ht hnext
      | true => exact absurd hnext (any_eq_false.1 (htimely haccepts).2 t ht)
    · obtain ⟨haccepted, b, hcall, hp⟩ := accepted_of_reconciling (hkeeps.2 _ hexpected) hnext
      exact htracks.last (accepts_of_learn hkeeps.1 hcall hp haccepted) haccepted

theorem Paced.step (hmono : Monotone lib.tonumber) (h : Paced lib agent s)
    (htimely : Timely p s e) : Paced lib agent (step lib service s e) := by
  have horderly : Orderly lib (fun _ => True) (Join.step lib service s e) :=
    h.orderly.step e trivial fun _ _ _ _ _ _ _ _ _ => trivial
  cases e with
  | tick elapsed => exact ⟨horderly, h.ranked.of_eq (fun _ _ => rfl) rfl, h.pending⟩
  | begin call =>
    refine ⟨horderly, h.ranked.of_eq (fun _ _ => rfl) rfl, ?_⟩
    intro t ht hnext
    obtain ht | ht := mem_append.1 ht
    · exact h.pending t ht hnext
    · cases mem_singleton.1 ht
      have hkeeps : Keeps lib call .none (handle lib service call) := .handle call
      cases (accepted_of_reconciling hkeeps hnext).1
  | proceed i env => exact paced_proceed hmono h i env htimely
  | cancel i =>
    exact ⟨horderly, h.ranked, fun t ht => h.pending t (mem_of_mem_eraseIdx ht)⟩
  | revoke providerID => exact ⟨horderly, h.ranked.of_eq (fun _ _ => rfl) rfl, h.pending⟩
  | sweep => exact ⟨horderly, h.ranked.of_eq (fun _ _ => rfl) rfl, h.pending⟩

end

/-- No replay while heartbeats are prompt and reconciled in turn. -/
theorem heartbeats_in_order (lib : Library) (service : Service) (p : String) (agent : Agent lib p)
    (hmono : Monotone lib.tonumber) (events : List Event)
    (h : Along (step lib service) (Timely p) State.init events) :
    Throughout (step lib service) (InOrder p) State.init events := by
  have hinit : Paced lib agent State.init :=
    ⟨.init lib _, .init lib agent, fun _ ht => absurd ht not_mem_nil⟩
  exact (h.throughout hinit fun _ _ hs he => hs.step hmono he).mono fun _ hs => hs.ranked.inOrder

def sampleBeat (n : Nat) (observedAt : Time) : HeartbeatSigningPayload where
  requestId := .ofList (replicate n 'h')
  providerId := sampleID
  sequence := n
  observedAt := some observedAt
  capabilities := some sampleCapability
  workloadBandwidth := []
  workloadStatus := [some ⟨"w", .running, "c"⟩]
  unknown := []

def sampleBeats : List HeartbeatSigningPayload :=
  [sampleBeat 1 0, sampleBeat 2 (seconds 15), sampleBeat 3 (seconds 90)]

def beatLibrary : Library :=
  { sampleLibrary with
    marshalPayload := fun b =>
      if b ∈ sampleBeats then some (replicate 27 (UInt8.ofNat b.sequence)) else none }

theorem beatLibrary_marshal (h : beatLibrary.marshalPayload b = some bytes) :
    b ∈ sampleBeats ∧ bytes = replicate 27 (UInt8.ofNat b.sequence) := by
  dsimp only [beatLibrary] at h
  split at h
  · cases h
    exact ⟨‹_›, rfl⟩
  · cases h

theorem sampleBeats_ordered : ∀ b ∈ sampleBeats, ∀ b' ∈ sampleBeats,
    b.sequence ≤ b'.sequence → b.observedAt.getD 0 ≤ b'.observedAt.getD 0 := by
  decide

theorem sampleBeats_distinct : ∀ b ∈ sampleBeats, ∀ b' ∈ sampleBeats,
    replicate 27 (UInt8.ofNat b.sequence) = replicate 27 (UInt8.ofNat b'.sequence) →
      b = b' := by
  decide +kernel

def sampleAgent : Agent beatLibrary sampleID where
  produced b := b ∈ sampleBeats
  ordered b b' t t' hb hb' hle ht ht' := by
    have hordered := sampleBeats_ordered b hb b' hb' hle
    rw [ht, ht'] at hordered
    exact hordered
  genuine _ _ _ _ hbytes _ _ _ := (beatLibrary_marshal hbytes).1
  distinct b b' bytes bytes' hb hb' hbytes hbytes' hhash := by
    obtain ⟨_, rfl⟩ := beatLibrary_marshal hbytes
    obtain ⟨_, rfl⟩ := beatLibrary_marshal hbytes'
    exact sampleBeats_distinct b hb b' hb' hhash

def sampleReport (n : Nat) (observedAt : Time) : Call :=
  .reportHeartbeat (some ⟨sampleID, "2", true⟩)
    ⟨some (sampleBeat n observedAt),
      sampleKey ++ (heartbeatDomain ++ replicate 27 (UInt8.ofNat n)).drop joinDomain.length⟩

theorem heartbeats_in_order_after_silence :
    Throughout (step beatLibrary sampleService) (InOrder sampleID) State.init
      (sampleJoin ++ serve (sampleReport 1 0) 2 6 upEnv ++ [.tick (seconds 15)] ++
        serve (sampleReport 2 (seconds 15)) 3 6 upEnv ++
        serve (sampleReport 2 (seconds 15)) 4 6 upEnv ++ [.tick (seconds 75)] ++
        serve (sampleReport 3 (seconds 90)) 5 6 upEnv) :=
  heartbeats_in_order beatLibrary sampleService sampleID sampleAgent monotone_id _
    (by decide +kernel)

theorem late_heartbeat_replayed :
    let s := run (step beatLibrary sampleService) State.init
      (sampleJoin ++ [.tick (seconds 15)] ++ serve (sampleReport 2 (seconds 15)) 2 6 upEnv ++
        [.tick (seconds 45)] ++ serve (sampleReport 1 0) 3 6 upEnv)
    (s.world.payloads (.accepted sampleID)).map (·.sequence) = [2, 1] ∧
      (s.world.payloads (.reconciled sampleID)).map (·.sequence) = [2, 1] := by
  decide +kernel

end OpenInfra.Join
