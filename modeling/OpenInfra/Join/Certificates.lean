import OpenInfra.Join.Revocation

namespace OpenInfra.Join
open Frame List
open ControlPlane (Uuid Time)

def Call.agrees (lib : Library) (request : CompleteJoinRequest) : Call → Bool
  | .completeJoin _ request' =>
    (requestKey lib request).isNone || requestKey lib request ≠ requestKey lib request' ||
      request.tlsPublicKey = request'.tlsPublicKey
  | _ => true

def Repeated (lib : Library) (s : State) : Event → Prop
  | .begin (.completeJoin _ request) =>
    (s.world.calls.all fun call => call.agrees lib request) = true
  | _ => True

instance (lib : Library) (s : State) : (e : Event) → Decidable (Repeated lib s e)
  | .begin (.completeJoin ..) => inferInstanceAs (Decidable (_ = true))
  | .begin (.beginJoin ..) | .begin (.renewCertificate ..) | .begin (.reportHeartbeat ..)
  | .begin .reconcileOnce | .proceed .. | .tick _ | .cancel _ | .revoke _ | .sweep =>
    inferInstanceAs (Decidable True)

/-- Certificates are for the key that consumed the challenge. -/
structure Certified (lib : Library) (s : State) : Prop where
  same : ∀ peer request providerID key peer' request' providerID' key',
    (.completeJoin peer request, .issued providerID key) ∈ s.world.log →
    (.completeJoin peer' request', .issued providerID' key') ∈ s.world.log →
    lib.parseUUID request.challengeId = lib.parseUUID request'.challengeId → key = key'
  presented : ∀ peer request providerID key,
    (.completeJoin peer request, .issued providerID key) ∈ s.world.log →
    ∃ challenge, lib.parseUUID request.challengeId = some challenge.challengeID ∧
      Stored s.world.db challenge ∧
      lib.verify challenge.publicKey (joinDomain ++ challenge.nonce)
        request.challengeSignature = true ∧
      ∀ peer' request',
        (.completeJoin peer' request', .consumed challenge.challengeID) ∈ s.world.log →
        request'.tlsPublicKey = key

structure Traced (lib : Library) (w : World) (call : Call) (completion : Completion) : Prop where
  arrived : call ∈ w.calls
  presents : ∃ peer request, call = .completeJoin peer request ∧ Presents lib request completion
  recorded : Recorded w.db completion
  stored : Stored w.db completion.challenge

theorem Traced.mono (h : Traced lib w call completion) (hgrows : Grows w.db w'.db)
    (hcalls : w.calls ⊆ w'.calls) : Traced lib w' call completion :=
  ⟨hcalls h.arrived, h.presents, h.recorded.mono hgrows, h.stored.mono hgrows⟩

theorem Traced.requestKey_eq (hc : Consistent lib w.db)
    (h : Traced lib w (.completeJoin peer request) completion)
    (h' : Traced lib w (.completeJoin peer' request') completion')
    (heq : completion.challenge.challengeID = completion'.challenge.challengeID) :
    (requestKey lib request).isSome ∧ requestKey lib request = requestKey lib request' := by
  obtain ⟨_, _, hcall, hpresents⟩ := h.presents
  obtain ⟨_, _, hcall', hpresents'⟩ := h'.presents
  cases hcall
  cases hcall'
  obtain ⟨row, hrow, hchallenge, hhash⟩ := h.recorded
  obtain ⟨row', hrow', hchallenge', hhash'⟩ := h'.recorded
  have hsame := hc.once _ row _ row' hrow hrow' (hchallenge.trans (heq.trans hchallenge'.symm))
  have hid : completion.requestID = completion'.requestID := by
    rw [← Table.key_of_lookup hrow, ← Table.key_of_lookup hrow', hsame]
  rw [hpresents.key, hpresents'.key, hid, ← hhash, ← hhash', hsame]
  exact ⟨rfl, rfl⟩

def Explained (lib : Library) (w : World) (x : Call × Mark) : Prop :=
  match x.2 with
  | .issued _ key => ∀ peer request, x.1 = .completeJoin peer request →
    key = request.tlsPublicKey ∧ ∃ completion, Traced lib w x.1 completion
  | .consumed challengeID =>
    ∃ completion, Traced lib w x.1 completion ∧ completion.challenge.challengeID = challengeID
  | _ => True

theorem Explained.mono (h : Explained lib w x) (hgrows : Grows w.db w'.db)
    (hcalls : w.calls ⊆ w'.calls) : Explained lib w' x := by
  obtain ⟨call, m⟩ := x
  cases m with
  | issued providerID key =>
    intro peer request hcall
    obtain ⟨hkey, completion, htraced⟩ := h peer request hcall
    exact ⟨hkey, completion, htraced.mono hgrows hcalls⟩
  | consumed challengeID =>
    obtain ⟨completion, htraced, hid⟩ := h
    exact ⟨completion, htraced.mono hgrows hcalls, hid⟩
  | accepted providerID => trivial
  | reconciled providerID => trivial

theorem explained_answer {w w' : World} (hcall : call ∈ w.calls) (hholds : Holds lib w.db c)
    (ha : Allowed lib call c q) (hgrows : Grows w.db w'.db) (hcalls : w'.calls = w.calls)
    (hm : Causes w'.db q m) : Explained lib w' (call, m) := by
  have hcall : call ∈ w'.calls := hcalls ▸ hcall
  cases hm with
  | consumed hrecorded =>
    obtain ⟨hknown, _, _, hpresents⟩ := ha
    exact ⟨_, ⟨hcall, hpresents, hrecorded, (hholds.challenges _ hknown).mono hgrows⟩, rfl⟩
  | issued =>
    rintro peer request hrequest
    obtain ⟨hkey, completion, hcompleted, hpresents⟩ := ha.2 peer request hrequest
    obtain ⟨hrecorded, hstored⟩ := hholds.completed completion hcompleted
    exact ⟨hkey, completion, hcall, ⟨peer, request, hrequest, hpresents⟩, hrecorded.mono hgrows,
      hstored.mono hgrows⟩
  | accepted => trivial
  | reconciled => trivial

def Agreeing (lib : Library) (calls : List Call) : Prop :=
  ∀ peer request peer' request', .completeJoin peer request ∈ calls →
    .completeJoin peer' request' ∈ calls → (requestKey lib request).isSome →
    requestKey lib request = requestKey lib request' →
    request.tlsPublicKey = request'.tlsPublicKey

theorem agrees_iff : Call.agrees lib request (.completeJoin peer request') = true ↔
    ((requestKey lib request).isSome → requestKey lib request = requestKey lib request' →
      request.tlsPublicKey = request'.tlsPublicKey) := by
  unfold Call.agrees
  cases requestKey lib request with
  | none => exact ⟨nofun, fun _ => rfl⟩
  | some key =>
    simp only [Option.isNone_some, Bool.false_or, Bool.or_eq_true, decide_eq_true_eq,
      Option.isSome_some, true_imp_iff]
    exact (imp_iff_not_or (a := some key = requestKey lib request')).symm

theorem agreeing_begin {s : State} (h : Agreeing lib s.world.calls)
    (hrepeated : Repeated lib s (.begin call)) : Agreeing lib (s.world.calls ++ [call]) := by
  have hnew (peer : Option Peer) (request : CompleteJoinRequest)
      (hcall : call = .completeJoin peer request) (peer' : Option Peer)
      (request' : CompleteJoinRequest) (hold : .completeJoin peer' request' ∈ s.world.calls) :
      (requestKey lib request).isSome → requestKey lib request = requestKey lib request' →
        request.tlsPublicKey = request'.tlsPublicKey := by
    cases hcall
    exact agrees_iff.1 (all_eq_true.1 hrepeated _ hold)
  intro peer request peer' request' hcall hcall' hsome heq
  obtain hcall | hcall := mem_append.1 hcall
  · obtain hcall' | hcall' := mem_append.1 hcall'
    · exact h peer request peer' request' hcall hcall' hsome heq
    · have hcall' := (mem_singleton.1 hcall').symm
      exact (hnew peer' request' hcall' peer request hcall (heq ▸ hsome) heq.symm).symm
  · have hcall := (mem_singleton.1 hcall).symm
    obtain hcall' | hcall' := mem_append.1 hcall'
    · exact hnew peer request hcall peer' request' hcall' hsome heq
    · cases hcall.symm.trans (mem_singleton.1 hcall').symm
      rfl

structure Accounted (lib : Library) (s : State) : Prop where
  orderly : Orderly lib (fun _ => True) s
  arrived : ∀ t ∈ s.tasks, t.1 ∈ s.world.calls
  log : ∀ x ∈ s.world.log, Explained lib s.world x
  agreeing : Agreeing lib s.world.calls

theorem accounted_init (lib : Library) : Accounted lib State.init :=
  ⟨.init lib _, fun _ ht => absurd ht not_mem_nil, fun _ hx => absurd hx not_mem_nil,
    fun _ _ _ _ h => absurd h not_mem_nil⟩

theorem Accounted.step {s : State} (h : Accounted lib s) (hrepeated : Repeated lib s e) :
    Accounted lib (step lib service s e) := by
  have horderly : Orderly lib (fun _ => True) (Join.step lib service s e) :=
    h.orderly.step e trivial fun _ _ _ _ _ _ _ _ _ => trivial
  cases e with
  | tick elapsed =>
    exact ⟨horderly, h.arrived, fun x hx => (h.log x hx).mono (.refl _) (List.Subset.refl _),
      h.agreeing⟩
  | begin call =>
    have hcalls : s.world.calls ⊆ s.world.calls ++ [call] := subset_append_left _ _
    refine ⟨horderly, ?_, fun x hx => (h.log x hx).mono (.refl _) hcalls,
      agreeing_begin h.agreeing hrepeated⟩
    intro t ht
    obtain ht | ht := mem_append.1 ht
    · exact hcalls (h.arrived t ht)
    · cases mem_singleton.1 ht
      exact mem_append.2 (.inr mem_cons_self)
  | proceed i env =>
    have hworld : (∀ x ∈ (s.proceed (World.answer lib env) i).world.log,
        Explained lib (s.proceed (World.answer lib env) i).world x) ∧
        (s.proceed (World.answer lib env) i).world.calls = s.world.calls := by
      refine Workers.proceed_world (P := fun w : World =>
        (∀ x ∈ w.log, Explained lib w x) ∧ w.calls = s.world.calls) ⟨h.log, rfl⟩ ?_
      intro call q hr
      obtain ⟨c, hholds, _, ha⟩ := h.orderly.allowed hr
      obtain ⟨k, hk⟩ := Workers.request_eq_some.1 hr
      have hcall := h.arrived _ (mem_of_getElem? hk)
      have hgrows := (answer_spec env h.orderly.consistent hholds ha).1.grows
      obtain ⟨hcalls, hlog⟩ := answer_logs lib s.world env call q
      refine ⟨?_, hcalls⟩
      have hold (x : Call × Mark) (hx : x ∈ s.world.log) :
          Explained lib (s.world.answer lib env call q).2 x :=
        (h.log x hx).mono hgrows fun _ hcall => hcalls.symm ▸ hcall
      obtain hlog | ⟨m, hm, hlog⟩ := hlog
      · rw [hlog]
        exact hold
      · rw [hlog]
        intro x hx
        obtain hx | hx := mem_append.1 hx
        · exact hold x hx
        · cases mem_singleton.1 hx
          exact explained_answer hcall hholds ha hgrows hcalls hm
    refine ⟨horderly, ?_, hworld.1, ?_⟩
    · intro t ht
      obtain ⟨t', ht', heq⟩ := Workers.key_of_proceed ht
      exact hworld.2 ▸ heq ▸ h.arrived t' ht'
    · exact hworld.2 ▸ h.agreeing
  | cancel i =>
    exact ⟨horderly, fun t ht => h.arrived t (mem_of_mem_eraseIdx ht), h.log, h.agreeing⟩
  | revoke providerID =>
    refine ⟨horderly, h.arrived, fun x hx => (h.log x hx).mono ?_ (List.Subset.refl _), h.agreeing⟩
    have hrevoke : Yields (s.world.db.revokeProvider providerID) fun db => Grows s.world.db db :=
      fun _ hdb => (Advances.setStatus hdb : Advances lib _ _).grows
    exact hrevoke.commit (.refl _)
  | sweep =>
    exact ⟨horderly, h.arrived, fun x hx => (h.log x hx).mono (.refl _) (List.Subset.refl _),
      h.agreeing⟩

theorem Accounted.certified {s : State} (h : Accounted lib s) : Certified lib s := by
  have hc := h.orderly.consistent
  have hissued (peer : Option Peer) (request : CompleteJoinRequest) (providerID : String)
      (key : Bytes)
      (hx : (.completeJoin peer request, .issued providerID key) ∈ s.world.log) :
      key = request.tlsPublicKey ∧ ∃ completion,
        Traced lib s.world (.completeJoin peer request) completion ∧
          Presents lib request completion := by
    obtain ⟨hkey, completion, htraced⟩ := h.log _ hx peer request rfl
    obtain ⟨_, _, hcall, hpresents⟩ := htraced.presents
    cases hcall
    exact ⟨hkey, completion, htraced, hpresents⟩
  constructor
  · intro peer request providerID key peer' request' providerID' key' hx hx' hid
    obtain ⟨rfl, completion, htraced, hpresents⟩ := hissued peer request providerID key hx
    obtain ⟨rfl, completion', htraced', hpresents'⟩ := hissued peer' request' providerID' key' hx'
    rw [hpresents.challenge, hpresents'.challenge] at hid
    obtain ⟨hsome, heq⟩ := htraced.requestKey_eq hc htraced' (Option.some.inj hid)
    exact h.agreeing peer request peer' request' htraced.arrived htraced'.arrived hsome heq
  · intro peer request providerID key hx
    obtain ⟨rfl, completion, htraced, hpresents⟩ := hissued peer request providerID key hx
    refine ⟨completion.challenge, hpresents.challenge, htraced.stored, hpresents.signed, ?_⟩
    intro peer' request' hx'
    obtain ⟨completion', htraced', hid⟩ := h.log _ hx'
    obtain ⟨hsome, heq⟩ := htraced'.requestKey_eq hc htraced hid
    exact h.agreeing peer' request' peer request htraced'.arrived htraced.arrived hsome heq

/-- One key per challenge, if no request is repeated with another. -/
theorem one_key_per_challenge (lib : Library) (service : Service) (events : List Event)
    (h : Along (step lib service) (Repeated lib) State.init events) :
    Throughout (step lib service) (Certified lib) State.init events :=
  (h.throughout (accounted_init lib) fun _ _ hs he => hs.step he).mono fun _ hs => hs.certified

theorem one_key_per_challenge_retry :
    Throughout (step sampleLibrary sampleService) (Certified sampleLibrary) State.init
      (sampleJoin ++ serve (sampleComplete (replicate 32 3)) 2 4 upEnv) :=
  one_key_per_challenge sampleLibrary sampleService _ (by decide +kernel)

theorem substituted_key_certified :
    ((run (step sampleLibrary sampleService) State.init
      (sampleJoin ++ serve (sampleComplete (replicate 32 4)) 2 4 upEnv)).world.log.filter
        fun x => x.2.serves sampleID) =
      [(sampleComplete (replicate 32 3), .issued sampleID (replicate 32 3)),
        (sampleComplete (replicate 32 4), .issued sampleID (replicate 32 4))] := by
  decide +kernel

end OpenInfra.Join
