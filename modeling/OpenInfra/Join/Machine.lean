import OpenInfra.Frame.Workers
import OpenInfra.Join.Service

namespace OpenInfra.Join
open Frame
open ControlPlane (Uuid Time)

inductive Mark where
  | consumed (challengeID : Uuid)
  | issued (providerID : String) (publicKey : Bytes)
  | accepted (providerID : String)
  | reconciled (providerID : String)
  deriving DecidableEq

/-- The two stores and the clock, with what the calls have done. -/
structure World where
  clock : Time
  db : Database
  cache : Cache
  log : List (Call × Mark)
  calls : List Call

structure Env where
  link : Link
  random : Option (Uuid × Bytes)
  serial : Option String
  chain : Except ChainError Unit

namespace World

def init : World := ⟨0, .empty, .empty, [], []⟩

def mark (w : World) (call : Call) (m : Mark) : World := { w with log := w.log ++ [(call, m)] }

section
variable (lib : Library)

def perform (w : World) (call : Call) : (o : Op) → Except RepositoryError (o.Result × World)
  | .insertChallenge candidate => do
    let x ← w.db.insertChallenge candidate
    .ok (x.1, { w with db := x.2 })
  | .challengeByBeginRequestID requestID => do
    let challenge ← w.db.challengeByBeginRequestID requestID
    .ok (challenge, w)
  | .getChallenge challengeID => do
    let challenge ← w.db.getChallenge challengeID
    .ok (challenge, w)
  | .completeJoin completion => do
    let x ← w.db.completeJoin completion
    let w' := { w with db := x.2.1 }
    .ok (x.1, if x.2.2 then w'.mark call (.consumed completion.challenge.challengeID) else w')
  | .activateProvider providerID => do
    let x ← w.db.activateProvider providerID
    .ok (x.1, { w with db := x.2 })
  | .providerIdentity providerID => do
    let identity ← w.db.providerIdentity providerID
    .ok (identity, w)
  | .isRevoked providerID => .ok (w.cache.revoked.contains providerID, w)
  | .acceptRenewal providerID nonce => do
    let cache ← w.cache.acceptRenewal lib providerID nonce
    .ok ((), { w with cache })
  | .acceptHeartbeat providerID requestID sequence payloadHash payload ttl => do
    let cache ← w.cache.acceptHeartbeat lib providerID requestID sequence payloadHash payload ttl
      w.clock
    .ok ((), { w with cache }.mark call (.accepted providerID))
  | .reconcileWorkloadStatus providerID _ => .ok ((), w.mark call (.reconciled providerID))
  | .dueChainRegistrations limit => .ok (w.db.dueChainRegistrations limit w.clock, w)
  | .recordChainRegistrationFailure providerID nextAttemptAt terminal => do
    let db ← w.db.recordChainRegistrationFailure providerID nextAttemptAt terminal
    .ok ((), { w with db })

def answer (env : Env) : Answers World Call Query Reply
  | w, _, .now => (w.clock, w)
  | w, _, .random => (env.random, w)
  | w, _, .ensureActive _ => (env.chain, w)
  | w, call, .issueLeaf providerID publicKey now =>
    match env.serial with
    | some serial =>
      if publicKey.length = publicKeySize ∧ providerID ≠ "" then
        (some ⟨providerID, publicKey, serial, now + seconds 86400⟩,
          w.mark call (.issued providerID publicKey))
      else (none, w)
    | none => (none, w)
  | w, call, .op o => env.link.deliver w .other (w.perform lib call o)

end

end World

abbrev State := Workers World Call Query Reply (Except Status Response)

inductive Event where
  | tick (elapsed : Nat)
  | begin (call : Call)
  | proceed (task : Nat) (env : Env)
  | cancel (task : Nat)
  | revoke (providerID : String)
  | sweep

def State.init : State := ⟨.init, []⟩

def step (lib : Library) (service : Service) (s : State) : Event → State
  | .tick elapsed => { s with world := { s.world with clock := s.world.clock + elapsed } }
  | .begin call =>
    Workers.start { s with world := { s.world with calls := s.world.calls ++ [call] } } call
      (handle lib service call)
  | .proceed i env => s.proceed (World.answer lib env) i
  | .cancel i => s.cancel i
  | .revoke providerID =>
    { s with
      world := { s.world with db := commit s.world.db (s.world.db.revokeProvider providerID) } }
  | .sweep =>
    { s with
      world := { s.world with cache := s.world.cache.sweep s.world.db.listRevokedProviderIDs } }

end OpenInfra.Join
