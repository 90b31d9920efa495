import OpenInfra.ControlPlane.Registrar
import OpenInfra.Frame.Run
import OpenInfra.Frame.Workers

namespace OpenInfra.Bridge
open Frame
open ControlPlane (FinalizedLease stateIndex leaseMessage checkDuration validateLease
  needsActivation needsCompletion)
open OpenInfraLease (LeaseState)

abbrev Account := BitVec 256

def Account.bytes (account : Account) : Bytes := bigEndian 32 (BitVec.toNat account)

/-- A signed call, with the tip that decides on its priority. -/
structure Extrinsic where
  nonce : Nat
  tip : Nat
  call : Bytes
  deriving DecidableEq

structure RuntimeVersion where
  specVersion : Nat
  transactionVersion : Nat

inductive RpcError where
  | priorityTooLow
  | other
  deriving DecidableEq

inductive Failure where
  | rpc (e : RpcError)
  | message (text : String)
  | contextDone
  deriving DecidableEq

def supportedSpecVersion : Nat := 4

def supportedTransactionVersion : Nat := 2

def maxTipBumpAttempts : Nat := 3

def maxTip : Nat := 100

def statusRegistered : Nat := 0

def statusVerified : Nat := 1

def statusActive : Nat := 2

abbrev EvidenceKey := NetworkValidator.RoundKey Account

def dimensionByte : NetworkValidator.ScoreDimension → UInt8
  | .compute => 0
  | .storage => 1
  | .network => 2
  | .availability => 3
  | .reliability => 4

inductive ChallengeResult where
  | backingOff
  | failed
  | unscored
  | scored (scoreBps sampleCount : Nat) (payloadHash : Account)

inductive Query where
  | runtimeVersion
  | genesisHash
  | finalizedLease (leaseID : LeaseId)
  | finalizedProvider (provider : Account)
  | finalizedAccountNonce
  | submitExtrinsic (x : Extrinsic)
  | wait
  | challenge (key : EvidenceKey)
  | markDone (key : EvidenceKey) (call : Bytes)
  deriving DecidableEq

@[reducible] def Reply : Query → Type
  | .runtimeVersion => Except Failure RuntimeVersion
  | .genesisHash => Except Failure Unit
  | .finalizedLease _ => Except Failure (Option FinalizedLease)
  | .finalizedProvider _ => Except Failure (Option Nat)
  | .finalizedAccountNonce => Except Failure Nat
  | .submitExtrinsic _ => Except RpcError Bool
  | .wait => Unit
  | .challenge _ => ChallengeResult
  | .markDone .. => Unit

abbrev Handler := Program Query Reply (Except Failure Unit)

def fail (text : String) : Handler := pure (.error (.message text))

def orFail (x : Except Failure α) (k : α → Handler) : Handler :=
  match x with
  | .error e => pure (.error e)
  | .ok a => k a

def nextTip (tip : Nat) : Nat :=
  if tip = 0 then 1 else if maxTip / 2 < tip then maxTip else tip * 2

def submitAttempts (call : Bytes) (nonce : Nat) : Nat → Nat → Handler → Handler
  | remaining, tip, k => do
    match ← Program.ask (Query.submitExtrinsic ⟨nonce, tip, call⟩) with
    | .ok expectedHash =>
      if expectedHash then k else fail "Substrate returned an unexpected extrinsic hash"
    | .error e =>
      if e ≠ .priorityTooLow then pure (.error (.rpc e))
      else
        match remaining with
        | 0 => pure (.error (.rpc e))
        | remaining + 1 => submitAttempts call nonce remaining (nextTip tip) k

def submitSigned (call : Bytes) (nonce : Nat) (k : Handler) : Handler :=
  submitAttempts call nonce maxTipBumpAttempts 0 k

def submitSteps (k : Handler) : List Bytes → Nat → Handler
  | [], _ => k
  | call :: calls, nonce => submitSigned call nonce (submitSteps k calls (nonce + 1))

def checkVersion (k : Handler) : Handler := do
  let reply ← Program.ask Query.runtimeVersion
  orFail reply fun version =>
    if version.specVersion ≠ supportedSpecVersion ∨
        version.transactionVersion ≠ supportedTransactionVersion then
      fail ("unsupported runtime version spec=" ++ toString version.specVersion ++
        " transaction=" ++ toString version.transactionVersion)
    else k

def withGenesis (k : Handler) : Handler := do
  let reply ← Program.ask Query.genesisHash
  orFail reply fun () => k

def withNonce (k : Nat → Handler) : Handler := do
  let reply ← Program.ask Query.finalizedAccountNonce
  orFail reply k

def withLease (leaseID : LeaseId) (k : Option FinalizedLease → Handler) : Handler := do
  let reply ← Program.ask (Query.finalizedLease leaseID)
  orFail reply k

def withProvider (provider : Account) (k : Option Nat → Handler) : Handler := do
  let reply ← Program.ask (Query.finalizedProvider provider)
  orFail reply k

def done : Handler := pure (.ok ())

def sudoWrapped (call : Bytes) : Bytes := [2, 0] ++ call

def submitDirect (call : Bytes) (k : Handler) : Handler :=
  checkVersion (withGenesis (withNonce fun nonce => submitSigned call nonce k))

def submitSudo (call : Bytes) : Handler :=
  checkVersion (withGenesis (withNonce fun nonce => submitSigned (sudoWrapped call) nonce done))

def statusCall (provider : Account) (status : Nat) : Bytes :=
  [10, 1] ++ provider.bytes ++ [.ofNat status]

def registerForCall (provider : Account) : Bytes := [10, 2] ++ provider.bytes ++ provider.bytes

def createLeaseCall (leaseID : LeaseId) (provider resourceHash : Account) (duration : Nat) :
    Bytes :=
  [12, 0] ++ littleEndian 8 leaseID ++ provider.bytes ++ resourceHash.bytes ++
    littleEndian 4 duration

def updateLeaseStateCall (leaseID : LeaseId) (state : LeaseState) : Bytes :=
  [12, 1] ++ littleEndian 8 leaseID ++ [.ofNat (stateIndex state)]

def waitForFinalizedStatus (provider : Account) (expected : Nat) (k : Handler) : Nat → Handler
  | 0 => pure (.error .contextDone)
  | polls + 1 =>
    withProvider provider fun status =>
      if status = some expected then k
      else do
        let _ ← Program.ask Query.wait
        waitForFinalizedStatus provider expected k polls

def activationSteps (provider : Account) (status : Option Nat) : List Bytes :=
  match status with
  | none =>
    [registerForCall provider, statusCall provider statusVerified, statusCall provider statusActive]
  | some status =>
    if status = statusRegistered then
      [statusCall provider statusVerified, statusCall provider statusActive]
    else if status = statusVerified then [statusCall provider statusActive]
    else []

def ensureActive (provider : Account) (polls : Nat) : Handler :=
  checkVersion (withGenesis (withProvider provider fun status =>
    if status = some statusActive then done
    else
      let steps := activationSteps provider status
      if steps = [] then
        fail ("provider has unsupported on-chain status " ++ toString (status.getD 0))
      else
        withNonce fun nonce =>
          submitSteps
            (waitForFinalizedStatus provider statusActive (withProvider provider fun _ => done)
              polls)
            (steps.map sudoWrapped) nonce))

section
variable (account : Account)

def waitForLeaseActive (leaseID : LeaseId) (provider resourceHash : Account) (duration : Nat) :
    Nat → Handler
  | 0 => pure (.error .contextDone)
  | polls + 1 =>
    withLease leaseID fun found =>
      let again : Handler := do
        let _ ← Program.ask Query.wait
        waitForLeaseActive leaseID provider resourceHash duration polls
      match found with
      | none => again
      | some lease =>
        orFail (validateLease .message account leaseID lease provider resourceHash duration)
          fun _ => if lease.state = .active then done else again

def ensureLeaseActive (leaseID : LeaseId) (provider resourceHash : Account) (duration : Nat)
    (polls : Nat) : Handler :=
  orFail (checkDuration .message duration) fun _ =>
    let activate (steps : List Bytes) : Handler :=
      withNonce fun nonce =>
        submitSteps (waitForLeaseActive account leaseID provider resourceHash duration polls)
          (steps ++ [sudoWrapped (updateLeaseStateCall leaseID .active)]) nonce
    checkVersion (withGenesis (withLease leaseID fun found =>
      match found with
      | none => activate [createLeaseCall leaseID provider resourceHash duration]
      | some lease =>
        orFail (needsActivation .message account leaseID lease provider resourceHash duration)
          fun pending => if pending then activate [] else done))

def sameLeaseIdentity (actual expected : FinalizedLease) : Prop :=
  actual.provider = expected.provider ∧ actual.consumer = expected.consumer ∧
    actual.resourceHash = expected.resourceHash ∧ actual.start = expected.start ∧
    actual.endBlock = expected.endBlock

instance (actual expected : FinalizedLease) : Decidable (sameLeaseIdentity actual expected) :=
  inferInstanceAs (Decidable (_ ∧ _ ∧ _ ∧ _ ∧ _))

def waitForLeaseCompleted (leaseID : LeaseId) (expected : FinalizedLease) : Nat → Handler
  | 0 => pure (.error .contextDone)
  | polls + 1 =>
    withLease leaseID fun found =>
      match found with
      | none => fail (leaseMessage leaseID " disappeared from finalized storage")
      | some lease =>
        if ¬ sameLeaseIdentity lease expected then
          fail (leaseMessage leaseID " finalized data changed while completing")
        else if lease.state = .completed then done
        else if lease.state ≠ .active then
          fail (leaseMessage leaseID (" reached unexpected state " ++
            toString (stateIndex lease.state) ++ " while completing"))
        else do
          let _ ← Program.ask Query.wait
          waitForLeaseCompleted leaseID expected polls

def ensureLeaseCompleted (leaseID : LeaseId) (polls : Nat) : Handler :=
  checkVersion (withLease leaseID fun found =>
    orFail (needsCompletion .message account leaseID found) fun x =>
      if x.2 then
        withGenesis (withNonce fun nonce =>
          submitSigned (sudoWrapped (updateLeaseStateCall leaseID .completed)) nonce
            (waitForLeaseCompleted leaseID x.1 polls))
      else done)

end

def encodeSubmitEvidenceCall (key : EvidenceKey) (scoreBps sampleCount : Nat)
    (payloadHash : Account) : Bytes :=
  [16, 5] ++ key.provider.bytes ++ littleEndian 8 key.round ++ [dimensionByte key.dimension] ++
    littleEndian 2 scoreBps ++ littleEndian 4 sampleCount ++ payloadHash.bytes

def challengeAndSubmit (key : EvidenceKey) : Handler := do
  match ← Program.ask (Query.challenge key) with
  | .scored scoreBps sampleCount payloadHash =>
    let call := encodeSubmitEvidenceCall key scoreBps sampleCount payloadHash
    submitDirect call do
      let _ ← Program.ask (Query.markDone key call)
      done
  | _ => done

inductive Call where
  | submitDirect (call : Bytes)
  | submitSudo (call : Bytes)
  | ensureActive (provider : Account) (polls : Nat)
  | ensureLeaseActive (leaseID : LeaseId) (provider resourceHash : Account) (duration polls : Nat)
  | ensureLeaseCompleted (leaseID : LeaseId) (polls : Nat)
  | challengeAndSubmit (key : EvidenceKey)

end OpenInfra.Bridge
