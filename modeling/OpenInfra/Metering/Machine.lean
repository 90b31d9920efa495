import OpenInfra.Frame.Run
import OpenInfra.Frame.Workers
import OpenInfra.Metering.Service

namespace OpenInfra.Metering
open Frame
open ControlPlane (Uuid Time)

structure Ticket where
  id : Nat
  providerID : String
  response : Option GetUsageSummaryResponse

/-- The database, and the decisions in the order of their commits. -/
structure World where
  store : Transactions Tables CursorKey Write
  rejections : List Rejection
  arrivals : List (String × Option GetUsageSummaryResponse)
  history : List Entry

structure Env where
  link : Link
  now : Time
  uuid : Uuid
  publicKey : Except LookupError Bytes
  workload : Except LookupError WorkloadRef

namespace World

def init : World := ⟨⟨.empty, fun _ => none, []⟩, [], [], []⟩

def visible (w : World) (tx : Nat) : Tables := w.store.visible schema tx

def insert (w : World) (tx : Nat) (row : Write) : Except Failure (Unit × World) :=
  if (w.visible tx).taken row ∨ ¬ row.check then .error .database
  else .ok ((), { w with store := w.store.draft tx row })

def setCursor (w : World) (tx : Nat) (key : CursorKey) (n : Nat) : World :=
  { w with store := (w.store.lock tx key).draft tx (.cursor key n) }

def perform (w : World) (tx : Nat) : (st : Statement) → Except Failure (st.Reply × World)
  | .beginTx => .ok ((), w)
  | .insertCursor key =>
    if (w.visible tx).cursors key = none then .ok ((), w.setCursor tx key 0) else .ok ((), w)
  | .lockCursor key =>
    match (w.visible tx).cursors key with
    | none => .error .database
    | some lastSequence => .ok (lastSequence, { w with store := w.store.lock tx key })
  | .findEvidence key n => .ok ((w.visible tx).findEvidence key n, w)
  | .findInvoiceLine evidenceID =>
    match (w.visible tx).findInvoiceLine evidenceID with
    | none => .error .database
    | some found => .ok (found, w)
  | .updateCursor key n =>
    if (w.visible tx).cursors key = none then .ok ((), w) else .ok ((), w.setCursor tx key n)
  | .insertEvidence row => w.insert tx (.evidence row)
  | .insertInvoiceLine line => w.insert tx (.invoiceLine line)
  | .commit key request result =>
    .ok ((), { w with store := w.store.commit schema tx
                      history := w.history ++ [⟨tx, key, request, result⟩] })
  | .rollback => .ok ((), { w with store := w.store.release tx })
  | .recordRejection rejection => .ok ((), { w with rejections := w.rejections ++ [rejection] })

def waits (w : World) (tx : Nat) : Statement → Bool
  | .insertCursor key => w.store.committed.cursors key = none ∧ w.store.busy tx key
  | .lockCursor key => w.store.busy tx key
  | .updateCursor key _ => w.store.busy tx key
  | .insertEvidence row =>
    w.store.drafts.any fun d => d.1 ≠ tx ∧ d.2.clashes (.evidence row)
  | .insertInvoiceLine line =>
    w.store.drafts.any fun d => d.1 ≠ tx ∧ d.2.clashes (.invoiceLine line)
  | _ => false

def answer (env : Env) : Answers World Ticket Query Reply
  | w, _, .now => (env.now, w)
  | w, _, .newUUID => (env.uuid, w)
  | w, _, .providerPublicKey _ => (env.publicKey, w)
  | w, _, .workload _ => (env.workload, w)
  | w, ticket, .statement st => env.link.deliver w .database (w.perform ticket.id st)

end World

abbrev State := Workers World Ticket Query Reply (Except Failure Result)

inductive Event where
  | recordUsage (providerID : String) (response : Option GetUsageSummaryResponse)
  | proceed (task : Nat) (env : Env)
  | crash (task : Nat)

namespace State

def init : State := ⟨.init, []⟩

def waits (s : State) (i : Nat) : Bool :=
  match s.request i with
  | some (ticket, .statement st) => s.world.waits ticket.id st
  | _ => false

def abandon (s : State) (i : Nat) : State :=
  match s.tasks[i]? with
  | none => s
  | some (ticket, _) =>
    Workers.cancel { s with world := { s.world with store := s.world.store.release ticket.id } } i

end State

def step (lib : Library) (s : State) : Event → State
  | .recordUsage providerID response =>
    Workers.start
      { s with world := { s.world with arrivals := s.world.arrivals ++ [(providerID, response)] } }
      ⟨s.world.arrivals.length, providerID, response⟩ (recordUsage lib providerID response)
  | .proceed i env => if s.waits i then s else s.proceed (World.answer env) i
  | .crash i => s.abandon i

end OpenInfra.Metering
