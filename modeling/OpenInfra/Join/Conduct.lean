import OpenInfra.Join.Machine

namespace OpenInfra.Join
open Frame List
open ControlPlane (Uuid Time)

/-- What the replies so far have told a handler. -/
structure Knowledge where
  challenges : List Challenge
  completed : Option Completion
  confirmed : List Bytes
  identities : List (String × Bytes)
  active : List String
  accepted : Bool

def Knowledge.none : Knowledge := ⟨[], .none, [], [], [], false⟩

section
variable (lib : Library)

def requestKey (request : CompleteJoinRequest) : Option (Uuid × Bytes) := do
  let requestID ← lib.parseUUID request.requestId
  let declared ← request.capabilities
  let capabilities ← lib.marshalCapability declared
  some (requestID, completeRequestHash lib request capabilities)

structure Presents (request : CompleteJoinRequest) (completion : Completion) : Prop where
  key : requestKey lib request = some (completion.requestID, completion.requestHash)
  challenge : lib.parseUUID request.challengeId = some completion.challenge.challengeID
  signed : lib.verify completion.challenge.publicKey (joinDomain ++ completion.challenge.nonce)
    request.challengeSignature = true

def Call.payload : Call → Option HeartbeatSigningPayload
  | .reportHeartbeat _ request => request.payload
  | _ => none

structure Signs (call : Call) (payload : HeartbeatSigningPayload) (bytes key : Bytes) : Prop where
  carries : call.payload = some payload
  observed : payload.observedAt.isSome
  marshal : lib.marshalPayload payload = some bytes
  signed : ∃ signature, lib.verify key (heartbeatDomain ++ bytes) signature = true

/-- What a handler may ask that knows `c`. -/
def Allowed (call : Call) (c : Knowledge) : Query → Prop
  | .op (.completeJoin completion) =>
    completion.challenge ∈ c.challenges ∧
      completion.providerID = providerIDOf lib completion.challenge.publicKey ∧
      completion.status = .pending ∧
      ∃ peer request, call = .completeJoin peer request ∧ Presents lib request completion
  | .op (.activateProvider providerID) => ∃ key ∈ c.confirmed, providerIDOf lib key = providerID
  | .issueLeaf providerID publicKey _ =>
    providerID ∈ c.active ∧ ∀ peer request, call = .completeJoin peer request →
      publicKey = request.tlsPublicKey ∧
        ∃ completion, c.completed = some completion ∧ Presents lib request completion
  | .op (.acceptHeartbeat providerID requestID sequence payloadHash bytes ttl) =>
    providerID ∈ c.active ∧ ∃ payload key, Signs lib call payload bytes key ∧
      (providerID, key) ∈ c.identities ∧ providerID = payload.providerId ∧
      requestID = payload.requestId ∧ sequence = payload.sequence ∧
      payloadHash = lib.sha256 bytes ∧ ttl = defaultHeartbeatTTL
  | .op (.reconcileWorkloadStatus providerID _) =>
    c.accepted = true ∧ ∃ payload, call.payload = some payload ∧ providerID = payload.providerId
  | _ => True

def Expected : (q : Query) → Reply q → Prop
  | .op (.getChallenge challengeID), .ok challenge => challenge.challengeID = challengeID
  | .op (.completeJoin completion), .ok completed => completed.providerID = completion.providerID
  | .op (.activateProvider providerID), .ok completed => completed.providerID = providerID
  | .op (.dueChainRegistrations _), .ok due =>
    ∀ x ∈ due, x.providerID = providerIDOf lib x.publicKey
  | _, _ => True

end

def Knowledge.learn (c : Knowledge) : (q : Query) → Reply q → Knowledge
  | .op (.getChallenge _), .ok challenge =>
    { c with challenges := challenge :: c.challenges, accepted := false }
  | .op (.completeJoin completion), .ok completed =>
    { c with
      completed := some completion
      active := if completed.status = .active then completed.providerID :: c.active else c.active
      accepted := false }
  | .op (.activateProvider providerID), .ok _ =>
    { c with active := providerID :: c.active, accepted := false }
  | .op (.providerIdentity providerID), .ok identity =>
    { c with
      identities := (providerID, identity.publicKey) :: c.identities
      active := if identity.status = .active then providerID :: c.active else c.active
      accepted := false }
  | .ensureActive publicKey, .ok () =>
    { c with confirmed := publicKey :: c.confirmed, accepted := false }
  | .op (.acceptHeartbeat ..), .ok () => { c with accepted := true }
  | _, _ => { c with accepted := false }

@[reducible] def conduct (lib : Library) (call : Call) : Protocol Query Reply where
  State := Knowledge
  allows := Allowed lib call
  expects := Expected lib
  next := Knowledge.learn

abbrev Keeps (lib : Library) (call : Call) (c : Knowledge) (handler : Handler) : Prop :=
  handler.Follows (conduct lib call) (fun _ _ => True) c

namespace Keeps
variable {lib : Library} {service : Service} {call : Call} {c : Knowledge}

theorem pure (r : Except Status Response) : Keeps lib call c (Pure.pure r) := trivial

theorem fail (code : Code) (message : String) : Keeps lib call c (fail code message) := trivial

theorem ask {q : Query} {k : Reply q → Handler} (h : Allowed lib call c q)
    (hk : ∀ r, Expected lib q r → Keeps lib call (c.learn q r) (k r)) :
    Keeps lib call c (Program.ask q >>= k) := ⟨h, hk⟩

theorem check {x : Except String α} {code : Code} {k : α → Handler}
    (hk : ∀ a, x = .ok a → Keeps lib call c (k a)) : Keeps lib call c (check x code k) := by
  cases x with
  | error message => exact .fail code message
  | ok a => exact hk a rfl

theorem attempt {o : Op} {e : RepositoryError → Status} {k : o.Result → Handler}
    (h : Allowed lib call c (.op o))
    (hk : ∀ a, Expected lib (.op o) (.ok a) → Keeps lib call (c.learn (.op o) (.ok a)) (k a)) :
    Keeps lib call c (attempt o e k) := by
  refine .ask h ?_
  intro r hr
  cases r with
  | error x => exact .pure _
  | ok a => exact hk a hr

theorem beginJoin (request : BeginJoinRequest) : Keeps lib call c (beginJoin lib request) := by
  refine .check fun requestID _ => .ask trivial ?_
  intro r _
  rcases r with _ | ⟨challengeID, nonce⟩
  · exact .fail _ _
  refine .ask trivial fun now _ => .attempt trivial fun inserted _ => ?_
  split
  · exact .pure _
  refine .attempt trivial fun stored _ => ?_
  split
  · exact .pure _
  · exact .pure _

theorem enroll (request : CompleteJoinRequest) (hcall : call = .completeJoin peer request)
    {completed : Completed} (hactive : completed.providerID ∈ c.active)
    (hcompleted : c.completed = some completion) (hpresents : Presents lib request completion)
    (now : Time) : Keeps lib call c (enroll service request completed now) := by
  unfold Join.enroll
  split
  · split
    · refine .ask ⟨hactive, ?_⟩ ?_
      · intro peer' request' hcall'
        cases hcall.symm.trans hcall'
        exact ⟨rfl, completion, hcompleted, hpresents⟩
      · intro r _
        cases r with
        | none => exact .fail _ _
        | some leaf => exact .pure _
    · exact .fail _ _
  · exact .pure _

theorem register {publicKey : Bytes} {completed : Completed} {k : Completed → Handler}
    (hactive : completed.status = .active → completed.providerID ∈ c.active)
    (hid : completed.providerID = providerIDOf lib publicKey)
    (hk : ∀ c' completed', completed'.providerID ∈ c'.active → c'.completed = c.completed →
      Keeps lib call c' (k completed')) :
    Keeps lib call c (register service publicKey completed k) := by
  unfold Join.register
  split
  · exact hk c completed (hactive ‹_›) rfl
  split
  · refine .ask trivial ?_
    intro r _
    cases r with
    | error e => exact .fail _ _
    | ok u =>
      refine .attempt ⟨publicKey, mem_cons_self, hid.symm⟩ ?_
      intro completed' hcompleted'
      refine hk _ completed' ?_ rfl
      exact mem_cons.2 (.inl hcompleted')
  · exact .fail _ _

theorem completeJoin (request : CompleteJoinRequest) (hcall : call = .completeJoin peer request) :
    Keeps lib call c (completeJoin lib service request) := by
  refine .check ?_
  rintro ⟨requestID, challengeID, declared⟩ hvalid
  simp only [validateCompleteJoin, bind_eq_ok, okOr_eq_ok, Except.ok.injEq, Prod.mk.injEq] at hvalid
  obtain ⟨requestID, hrequest, _, hchallenge, _, _, _, hdeclared, _, _, _, _, rfl, rfl, rfl⟩ :=
    hvalid
  refine .attempt trivial ?_
  intro challenge hid
  split
  · rename_i hsigned
    refine .check ?_
    intro capabilities hmarshal
    rw [okOr_eq_ok] at hmarshal
    refine .ask trivial fun now _ => ?_
    have hpresents : Presents lib request
        { requestID, requestHash := completeRequestHash lib request capabilities, challenge
          providerID := providerIDOf lib challenge.publicKey, registeredAt := now
          status := .pending } := by
      refine ⟨?_, hchallenge.trans (congrArg some hid.symm), hsigned⟩
      unfold requestKey
      rw [hrequest, hdeclared, Option.bind_eq_bind, Option.bind_some, Option.bind_eq_bind,
        Option.bind_some, hmarshal]
      rfl
    refine .attempt ⟨mem_cons_self, rfl, rfl, peer, request, hcall, hpresents⟩ ?_
    intro completed hcompleted
    refine .register ?_ hcompleted ?_
    · intro hactive
      dsimp only [Knowledge.learn]
      rw [if_pos hactive]
      exact mem_cons_self
    · intro c' completed' hactive hc'
      exact .enroll request hcall hactive hc' hpresents now
  · exact .fail _ _

theorem renewCertificate (request : RenewCertificateRequest)
    (hcall : ∀ peer request, call ≠ .completeJoin peer request) :
    Keeps lib call c (renewCertificate lib service peer request) := by
  unfold Join.renewCertificate
  split
  · exact .fail _ _
  split
  · exact .fail _ _
  refine .check fun timestamp _ => .check fun _ _ => .attempt trivial fun identity _ => ?_
  split
  · rename_i hactive
    refine .ask trivial fun now _ => ?_
    split
    · exact .fail _ _
    split
    · refine .attempt trivial fun _ _ => .ask ⟨?_, ?_⟩ ?_
      · dsimp only [Knowledge.learn]
        rw [if_pos hactive]
        exact mem_cons_self
      · intro peer' request' h
        exact absurd h (hcall peer' request')
      · intro r _
        cases r with
        | none => exact .fail _ _
        | some leaf => exact .pure _
    · exact .fail _ _
  · exact .fail _ _

theorem validateHeartbeat_payload {request : ReportHeartbeatRequest}
    (h : validateHeartbeat lib request now = .ok payload) :
    request.payload = some payload ∧ payload.observedAt.isSome := by
  unfold validateHeartbeat at h
  obtain ⟨payload', hpayload, h⟩ := bind_eq_ok.1 h
  rw [okOr_eq_ok.1 hpayload]
  simp only [bind_eq_ok, okOr_eq_ok, Except.ok.injEq] at h
  obtain ⟨_, _, _, _, _, _, _, _, _, _, _, _, t, ht, _, _, _, _, _, _, _, _, _, _, _, _, rfl⟩ := h
  exact ⟨rfl, Option.isSome_iff_exists.2 ⟨t, ht⟩⟩

theorem reportHeartbeat (request : ReportHeartbeatRequest)
    (hcall : call = .reportHeartbeat peer request) :
    Keeps lib call c (reportHeartbeat lib service request) := by
  unfold Join.reportHeartbeat
  split
  · exact .fail _ _
  refine .ask trivial fun now _ => .check fun payload hvalid => ?_
  obtain ⟨hpayload, hobserved⟩ := validateHeartbeat_payload hvalid
  have hpayload : call.payload = some payload := by
    rw [hcall]
    exact hpayload
  refine .attempt trivial fun identity _ => .check fun bytes hbytes => ?_
  split
  · exact .fail _ _
  rename_i hactive
  split
  · rename_i hsigned
    refine .attempt ⟨?_, payload, identity.publicKey,
      ⟨hpayload, hobserved, okOr_eq_ok.1 hbytes, request.signature, hsigned⟩, mem_cons_self,
      rfl, rfl, rfl, rfl, rfl⟩ ?_
    · dsimp only [Knowledge.learn]
      rw [if_pos (not_not.1 hactive)]
      exact mem_cons_self
    · intro _ _
      unfold Join.reconcileWorkloadStatus
      split
      · exact .ask trivial fun _ _ => .pure _
      · exact .ask ⟨rfl, payload, hpayload, rfl⟩ fun _ _ => .ask trivial fun _ _ => .pure _
  · exact .fail _ _

theorem failRegistration
    (hk : ∀ c, Keeps lib call c k) :
    Keeps lib call c (failRegistration service registration banned terminal k) :=
  .ask trivial fun _ _ => .ask trivial fun _ _ => hk _

theorem reconcileAll
    (hdue : ∀ x ∈ due, x.providerID = providerIDOf lib x.publicKey) :
    Keeps lib call c (reconcileAll service due) := by
  induction due generalizing c with
  | nil => exact .pure _
  | cons registration rest ih =>
    have hrest (c : Knowledge) : Keeps lib call c (Join.reconcileAll service rest) :=
      ih fun x hx => hdue x (mem_cons_of_mem registration hx)
    unfold Join.reconcileAll reconcileOne
    split
    · exact hrest c
    split
    · exact .failRegistration hrest
    · refine .ask trivial ?_
      intro r _
      cases r with
      | error e => exact .failRegistration hrest
      | ok u =>
        have hid := hdue registration mem_cons_self
        exact .ask ⟨registration.publicKey, mem_cons_self, hid.symm⟩ fun _ _ => hrest _

theorem guarded
    (h : ∀ c, Keeps lib call c handler) :
    Keeps lib call c (guarded service bootstrap peer handler) := by
  unfold Join.guarded
  split
  · cases peer with
    | none => exact .fail _ _
    | some peer =>
      unfold intercept
      dsimp only
      split
      · split
        · exact h c
        · exact .fail _ _
      split
      · refine .attempt trivial fun revoked _ => ?_
        split
        · exact .fail _ _
        · exact h _
      · exact h c
  · exact h c

theorem handle (call : Call) : Keeps lib call c (handle lib service call) := by
  cases call with
  | beginJoin peer request => exact .guarded fun _ => .beginJoin request
  | completeJoin peer request => exact .guarded fun _ => .completeJoin request rfl
  | renewCertificate peer request => exact .guarded fun _ => .renewCertificate request nofun
  | reportHeartbeat peer request => exact .guarded fun _ => .reportHeartbeat request rfl
  | reconcileOnce => exact .attempt trivial fun due hdue => .reconcileAll hdue

end Keeps

end OpenInfra.Join
