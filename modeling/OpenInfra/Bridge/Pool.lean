import OpenInfra.Bridge.Registrar

namespace OpenInfra.Bridge
open Frame
open ControlPlane (FinalizedLease)

def Extrinsic.priority (x : Extrinsic) : Nat := x.tip + 1

/-- The extrinsics of the bridge account, and what was acknowledged. -/
structure World where
  pool : List Extrinsic
  included : List Extrinsic
  bestNonce : Nat
  finalizedNonce : Nat
  acknowledged : List Extrinsic
  done : List (EvidenceKey × Bytes)
  deriving DecidableEq

structure Env where
  link : Link
  expectedHash : Bool
  version : Except Failure RuntimeVersion
  genesis : Except Failure Unit
  lease : Except Failure (Option FinalizedLease)
  provider : Except Failure (Option Nat)
  challenge : ChallengeResult

namespace World

def init (nonce : Nat) : World := ⟨[], [], nonce, nonce, [], []⟩

def pending (w : World) (nonce : Nat) : Option Extrinsic := w.pool.find? (·.nonce = nonce)

def drop (w : World) (nonce : Nat) : List Extrinsic := w.pool.filter (·.nonce ≠ nonce)

/-- Refused if its nonce is used up, or pending with no less priority. -/
def submit (w : World) (x : Extrinsic) : Except RpcError (Unit × World) :=
  if x.nonce < w.bestNonce then .error .other
  else
    match w.pending x.nonce with
    | none => .ok ((), { w with pool := w.drop x.nonce ++ [x] })
    | some old =>
      if old.priority < x.priority then .ok ((), { w with pool := w.drop x.nonce ++ [x] })
      else .error .priorityTooLow

def includeNext (w : World) : World :=
  match w.pending w.bestNonce with
  | none => w
  | some x =>
    { w with pool := w.drop w.bestNonce, included := w.included ++ [x]
             bestNonce := w.bestNonce + 1 }

def finalize (w : World) (nonce : Nat) : World :=
  if w.finalizedNonce ≤ nonce ∧ nonce ≤ w.bestNonce then { w with finalizedNonce := nonce } else w

def acknowledge (x : Extrinsic) (expectedHash : Bool) :
    Except RpcError Unit × World → Except RpcError Bool × World
  | (.error e, w) => (.error e, w)
  | (.ok (), w) =>
    if expectedHash then (.ok true, { w with acknowledged := w.acknowledged ++ [x] })
    else (.ok false, w)

def answer (env : Env) : Answers World Unit Query Reply
  | w, _, .runtimeVersion => (env.version, w)
  | w, _, .genesisHash => (env.genesis, w)
  | w, _, .finalizedLease _ => (env.lease, w)
  | w, _, .finalizedProvider _ => (env.provider, w)
  | w, _, .finalizedAccountNonce => env.link.deliver w (.rpc .other) (.ok (w.finalizedNonce, w))
  | w, _, .submitExtrinsic x =>
    acknowledge x env.expectedHash (env.link.deliver w .other (w.submit x))
  | w, _, .wait => ((), w)
  | w, _, .challenge _ => (env.challenge, w)
  | w, _, .markDone key call => ((), { w with done := w.done ++ [(key, call)] })

end World

abbrev State := Workers World Unit Query Reply (Except Failure Unit)

inductive Event where
  | call (c : Call)
  | proceed (env : Env)
  | cancel
  | includeNext
  | finalize (nonce : Nat)

def handler (account : Account) : Call → Handler
  | .submitDirect call => submitDirect call done
  | .submitSudo call => submitSudo call
  | .ensureActive provider polls => ensureActive provider polls
  | .ensureLeaseActive leaseID provider resourceHash duration polls =>
    ensureLeaseActive account leaseID provider resourceHash duration polls
  | .ensureLeaseCompleted leaseID polls => ensureLeaseCompleted account leaseID polls
  | .challengeAndSubmit key => challengeAndSubmit key

namespace State

def init (nonce : Nat) : State := ⟨.init nonce, []⟩

def unlocked (s : State) : Bool := s.tasks.all fun t => t.2.finished

end State

def step (account : Account) (s : State) : Event → State
  | .call c => if s.unlocked then ⟨s.world, [((), handler account c)]⟩ else s
  | .proceed env => s.proceed (World.answer env) 0
  | .cancel => s.cancel 0
  | .includeNext => { s with world := s.world.includeNext }
  | .finalize nonce => { s with world := s.world.finalize nonce }

end OpenInfra.Bridge
