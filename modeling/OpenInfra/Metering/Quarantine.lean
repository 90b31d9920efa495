import OpenInfra.Metering.Books
import OpenInfra.Metering.Machine

namespace OpenInfra.Metering
open Frame List
open ControlPlane (Uuid Time)

def storable (text : String) : Bool := text.toList.all fun c => c.toNat ≠ 0

structure Site where
  now : Time
  uuid : Nat → Uuid
  publicKey : String → Option Bytes
  workload : Uuid → Option WorkloadRef

/-- The database while it serves one submission, with the rejections on record. -/
structure Register where
  tables : Tables
  draft : Tables
  rejections : List Rejection
  issued : Nat

namespace Register

def insert (s : Register) (row : Write) : Except Failure Unit × Register :=
  match s.draft.insert row with
  | .error e => (.error e, s)
  | .ok t => (.ok (), { s with draft := t })

def recordable (lib : Library) (rejection : Rejection) : Bool :=
  storable rejection.providerID ∧
    rejection.workloadID.all fun text => (lib.parseUUID text).isSome

def perform (lib : Library) (s : Register) : (st : Statement) → Except Failure st.Reply × Register
  | .beginTx => (.ok (), { s with draft := s.tables })
  | .insertCursor key => (.ok (), { s with draft := s.draft.ensureCursor key })
  | .lockCursor key => (okOr (s.draft.cursors key) .database, s)
  | .findEvidence key n => (.ok (s.draft.findEvidence key n), s)
  | .findInvoiceLine evidenceID => (okOr (s.draft.findInvoiceLine evidenceID) .database, s)
  | .updateCursor key n => (.ok (), { s with draft := s.draft.apply (.cursor key n) })
  | .insertEvidence row => s.insert (.evidence row)
  | .insertInvoiceLine line => s.insert (.invoiceLine line)
  | .commit .. => (.ok (), { s with tables := s.draft })
  | .rollback => (.ok (), { s with draft := s.tables })
  | .recordRejection rejection =>
    if recordable lib rejection then
      (.ok (), { s with rejections := s.rejections ++ [rejection] })
    else (.error .database, s)

def findWorkload (lib : Library) (site : Site) (text : String) : Except LookupError WorkloadRef :=
  match lib.parseUUID text with
  | none => .error .failed
  | some workloadID => okOr (site.workload workloadID) .notFound

def findKey (site : Site) (providerID : String) : Except LookupError Bytes :=
  if storable providerID then okOr (site.publicKey providerID) .notFound else .error .failed

def answer (lib : Library) (site : Site) : (q : Query) → Register → Reply q × Register
  | .now, s => (site.now, s)
  | .newUUID, s => (site.uuid s.issued, { s with issued := s.issued + 1 })
  | .providerPublicKey providerID, s => (findKey site providerID, s)
  | .workload text, s => (findWorkload lib site text, s)
  | .statement st, s => s.perform lib st

def serve (lib : Library) (site : Site) (s : Register) (x : Handler) :
    Except Failure Result × Register :=
  x.exec (answer lib site) s

/-- Accepted, now or before, or on record as rejected. -/
def Recorded (s : Register) (providerID : String) (x : Except Failure Result × Register) : Prop :=
  (∃ result, x.1 = .ok result ∧ (result.outcome = .accepted ∨ result.outcome = .duplicate)) ∨
    ∃ rejection, rejection.providerID = providerID ∧
      x.2.rejections = s.rejections ++ [rejection]

end Register

/-- It passes every check before `AcceptEvidence`. -/
structure Presentable (lib : Library) (site : Site) (providerID : String)
    (summary : MeteringSummary) (signature : Bytes) (workload : WorkloadRef) (leaseID : Int)
    (charge : Charge) : Prop where
  bounds : validateBounds summary = .ok ()
  version : knownSchemaVersions.contains summary.meteringSchemaVersion
  clock : ¬ (1000 * unix summary.periodEnd < (site.now : Int) - maxMeteringClockSkew ∨
    (site.now : Int) + maxMeteringClockSkew < 1000 * unix summary.periodEnd)
  signed : ∃ publicKey, site.publicKey providerID = some publicKey ∧
    verifySignature lib publicKey summary signature
  known : ∃ workloadID, lib.parseUUID summary.workloadId = some workloadID ∧
    site.workload workloadID = some workload
  own : workload.providerID = providerID
  leased : lib.parseInt summary.leaseId = some leaseID
  lease : 0 ≤ leaseID ∧ leaseID = workload.leaseID
  priced : computeCharge ⟨1, 1, 1, 1, 1⟩ summary.cpuCoreSeconds summary.ramMbSeconds
    summary.storageGbSeconds summary.networkEgressMb summary.networkIngressMb = .ok charge

def InRange (summary : MeteringSummary) (charge : Charge) : Prop :=
  ∀ value ∈ [summary.sequence, summary.cpuCoreSeconds, summary.ramMbSeconds,
    summary.storageGbSeconds, summary.networkEgressMb, summary.networkIngressMb,
    summary.gpuSeconds, charge.cpuAmount, charge.ramAmount, charge.storageAmount,
    charge.networkAmount, charge.totalAmount], value ≤ maxInt64

def Writable (lib : Library) (site : Site) (providerID : String) (summary : MeteringSummary)
    (signature : Bytes) : Prop :=
  (lib.parseUUID summary.workloadId).isSome ∧ ∀ workload leaseID charge,
    Presentable lib site providerID summary signature workload leaseID charge →
      InRange summary charge

def Register.Unused (site : Site) (s : Register) : Prop :=
  (∀ row ∈ s.tables.evidence, row.evidenceID ≠ site.uuid s.issued) ∧
    ∀ line ∈ s.tables.invoiceLines, line.evidenceID ≠ site.uuid s.issued ∧
      line.invoiceLineID ≠ site.uuid (s.issued + 1)

namespace Register
variable {lib : Library} {site : Site} {s s' : Register} {providerID : String}

/-- The transaction `tx` of the service's machine finds what the register holds. -/
structure Shows (s : Register) (w : World) (tx : Nat) : Prop where
  tables : s.tables = w.store.committed
  draft : s.draft = w.visible tx
  rejections : s.rejections = w.rejections

/-- A failed statement changes nothing. -/
def Agrees (s : Register) (tx : Nat) :
    Except Failure (α × World) → Except Failure α × Register → Prop
  | .error e, x => x = (.error e, s)
  | .ok (a, w), x => x.1 = .ok a ∧ x.2.Shows w tx

def Ready (lib : Library) (s : Register) : Statement → Prop
  | .beginTx => s.draft = s.tables
  | .updateCursor key _ => s.draft.cursors key ≠ none
  | .recordRejection rejection => recordable lib rejection
  | _ => True

theorem Shows.draft_row (h : s.Shows w tx) (row : Write) :
    Shows { s with draft := (w.visible tx).apply row }
      { w with store := w.store.draft tx row } tx :=
  ⟨h.tables, (Transactions.visible_draft (D := schema)).symm, h.rejections⟩

theorem insert_agrees (h : s.Shows w tx) (row : Write) :
    s.Agrees tx (w.insert tx row) (s.insert row) := by
  unfold World.insert insert Tables.insert
  rw [h.draft]
  split
  · rfl
  · exact ⟨rfl, h.draft_row row⟩

theorem setCursor_shows (h : s.Shows w tx) (key : CursorKey) (n : Nat) :
    Shows { s with draft := (w.visible tx).apply (.cursor key n) } (w.setCursor tx key n) tx :=
  have hlock : s.Shows { w with store := w.store.lock tx key } tx :=
    ⟨h.tables, h.draft, h.rejections⟩
  hlock.draft_row _

/-- A statement has the answer and the effect that it has in the machine. -/
theorem perform_agrees (h : s.Shows w tx) (hst : s.Ready lib st) :
    s.Agrees tx (w.perform tx st) (s.perform lib st) := by
  have hdraft := h.draft
  cases st with
  | beginTx => exact ⟨rfl, h.tables, hst.symm.trans hdraft, h.rejections⟩
  | insertCursor key =>
    dsimp only [perform, World.perform, Tables.ensureCursor]
    rw [hdraft]
    split
    · exact ⟨rfl, setCursor_shows h key 0⟩
    · exact ⟨rfl, h.tables, rfl, h.rejections⟩
  | lockCursor key =>
    dsimp only [perform, World.perform]
    rw [hdraft]
    cases (w.visible tx).cursors key with
    | none => rfl
    | some n => exact ⟨rfl, h.tables, hdraft, h.rejections⟩
  | findEvidence key n => exact ⟨hdraft ▸ rfl, h⟩
  | findInvoiceLine evidenceID =>
    dsimp only [perform, World.perform]
    rw [hdraft]
    cases (w.visible tx).findInvoiceLine evidenceID with
    | none => rfl
    | some line => exact ⟨rfl, h⟩
  | updateCursor key n =>
    dsimp only [perform, World.perform]
    rw [if_neg (hdraft ▸ hst), hdraft]
    exact ⟨rfl, setCursor_shows h key n⟩
  | insertEvidence row => exact insert_agrees h _
  | insertInvoiceLine line => exact insert_agrees h _
  | commit key request result =>
    have hdone : (w.store.commit schema tx).visible schema tx = w.visible tx :=
      Transactions.visible_release (T := { w.store with committed := w.visible tx })
    exact ⟨rfl, hdraft, hdraft.trans hdone.symm, h.rejections⟩
  | rollback =>
    exact ⟨rfl, h.tables, h.tables.trans Transactions.visible_release.symm, h.rejections⟩
  | recordRejection rejection =>
    have hrecordable : recordable lib rejection := hst
    dsimp only [perform]
    rw [if_pos hrecordable, h.rejections]
    exact ⟨rfl, h.tables, hdraft, rfl⟩

theorem serve_bind (x : Handler) (f : Except Failure Result → Handler) :
    s.serve lib site (x >>= f) =
      (s.serve lib site x).2.serve lib site (f (s.serve lib site x).1) := Program.exec_bind _ x f s

theorem serve_ask (q : Query) (f : Reply q → Handler) :
    s.serve lib site (Program.ask q >>= f) =
      (answer lib site q s).2.serve lib site (f (answer lib site q s).1) := rfl

theorem serve_attempt
    (h : s.perform lib st = (.ok a, s')) :
    s.serve lib site (attempt st k) = s'.serve lib site (k a) := by
  rw [attempt, serve_ask]
  dsimp only [answer]
  rw [h]

theorem not_recorded (e : Failure) : ¬ Recorded s providerID (.error e, s) := by
  rintro (⟨_, h, _⟩ | ⟨r, _, h⟩)
  · cases h
  · have := congrArg length h
    rw [length_append] at this
    cases Nat.left_eq_add.1 this

theorem recorded_record (rejection : Rejection) (hprovider : rejection.providerID = providerID)
    (outcome : Outcome) :
    Recorded s providerID (s.serve lib site (do
      match ← Program.ask (Query.statement (.recordRejection rejection)) with
      | .error e => pure (.error e)
      | .ok () => pure (.ok { outcome }))) ↔ recordable lib rejection := by
  rw [serve_ask]
  dsimp only [answer, perform]
  split
  · exact iff_of_true (.inr ⟨rejection, hprovider, rfl⟩) ‹_›
  · exact iff_of_false (not_recorded _) ‹_›

theorem recorded_reject (summary : Option MeteringSummary) (sequence : UInt64) (outcome : Outcome)
    (detail : String) :
    Recorded s providerID
        (s.serve lib site (reject lib providerID summary sequence outcome detail)) ↔
      storable providerID ∧ ∀ x ∈ summary, (lib.parseUUID x.workloadId).isSome := by
  cases summary with
  | none =>
    refine (recorded_record _ rfl outcome).trans (decide_eq_true_iff.trans ?_)
    exact and_congr_right fun _ => iff_of_true rfl fun _ h => nomatch h
  | some summary =>
    refine (recorded_record _ rfl outcome).trans (decide_eq_true_iff.trans ?_)
    exact and_congr_right fun _ => ⟨fun h _ hx => Option.some.inj hx ▸ h, fun h => h _ rfl⟩

section
variable {es : List Entry} {t : Tables} {request : AcceptRequest} {key : CursorKey}

theorem cursor_ensureCursor (t : Tables) (key : CursorKey) :
    (t.ensureCursor key).cursors key = some ((t.cursors key).getD 0) := by
  unfold Tables.ensureCursor
  split
  · next hnone =>
    rw [hnone]
    exact Function.update_self ..
  · next hsome =>
    obtain ⟨n, hn⟩ := Option.ne_none_iff_exists'.1 hsome
    rw [hn]
    rfl

theorem line_of_evidence (h : Books es t)
    (hfind : t.findEvidence key n = some (evidenceID, existing)) :
    ∃ line, t.findInvoiceLine evidenceID = some line := by
  obtain ⟨row, hrow, heq⟩ := Option.map_eq_some_iff.1 hfind
  have hmem := mem_of_find?_eq_some hrow
  rw [h.evidence] at hmem
  obtain ⟨e, he, rfl⟩ := mem_map.1 hmem
  obtain ⟨he, ha⟩ := mem_filter.1 he
  cases heq
  exact ⟨_, h.findInvoiceLine he ha⟩

theorem not_taken_evidence (h : Books es t)
    (hfresh : (t.cursors key).getD 0 < request.sequence.toNat)
    (hunused : ∀ row ∈ t.evidence, row.evidenceID ≠ evidenceID) :
    ¬ t.taken (.evidence (request.evidenceRow key evidenceID)) := by
  rintro ⟨w, hw, hclash⟩
  obtain hw | hw := mem_append.1 hw
  · obtain ⟨row, hrow, rfl⟩ := mem_map.1 hw
    obtain hid | ⟨hkey, hsequence⟩ := hclash
    · exact hunused row hrow hid
    · rw [h.evidence] at hrow
      obtain ⟨e, he, rfl⟩ := mem_map.1 hrow
      obtain ⟨he, ha⟩ := mem_filter.1 he
      have hkey : e.key = key := hkey
      have hsequence : e.request.sequence.toNat = request.sequence.toNat := hsequence
      have hle := h.le_cursor he ha
      rw [hkey, hsequence] at hle
      omega
  · obtain ⟨line, _, rfl⟩ := mem_map.1 hw
    exact hclash

theorem not_taken_invoiceLine (hunused : ∀ line ∈ t.invoiceLines,
      line.evidenceID ≠ evidenceID ∧ line.invoiceLineID ≠ invoiceLineID) :
    ¬ t.taken (.invoiceLine (request.invoiceLine key evidenceID invoiceLineID)) := by
  rintro ⟨w, hw, hclash⟩
  obtain hw | hw := mem_append.1 hw
  · obtain ⟨row, _, rfl⟩ := mem_map.1 hw
    exact hclash
  · obtain ⟨line, hline, rfl⟩ := mem_map.1 hw
    obtain hid | ⟨_, horiginal⟩ := hclash
    · exact (hunused line hline).2 hid
    · exact (hunused line hline).1 (of_decide_eq_true horiginal).1.symm

theorem serve_classify (hbooks : Books es t) (hdraft : s.draft = t.ensureCursor key)
    (k : Result → Handler) (hk : ∀ result, ∃ s', s.serve lib site (k result) = (.ok result, s') ∧
      s'.rejections = s.rejections) :
    ∃ result s', s.serve lib site (classifyStaleSequence key request k) = (.ok result, s') ∧
      s'.rejections = s.rejections := by
  have hfound : s.draft.findEvidence key request.sequence.toNat =
      t.findEvidence key request.sequence.toNat := by
    rw [hdraft, Tables.findEvidence, Tables.ensureCursor_evidence]
    rfl
  unfold classifyStaleSequence
  rw [serve_attempt (a := s.draft.findEvidence key request.sequence.toNat) rfl, hfound]
  cases hfind : t.findEvidence key request.sequence.toNat with
  | none => exact ⟨_, hk _⟩
  | some found =>
    obtain ⟨existingID, existingHash⟩ := found
    dsimp only
    split
    · exact ⟨_, hk _⟩
    · obtain ⟨line, hline⟩ := line_of_evidence hbooks hfind
      have hperform : s.perform lib (.findInvoiceLine existingID) = (.ok line, s) := by
        have hsame : s.draft.findInvoiceLine existingID = some line := by
          rw [hdraft, Tables.findInvoiceLine, Tables.ensureCursor_invoiceLines]
          exact hline
        change (okOr (s.draft.findInvoiceLine existingID) _, s) = _
        rw [hsame]
        rfl
      rw [serve_attempt hperform]
      exact ⟨_, hk _⟩

theorem serve_insertAccepted (hbooks : Books es s.tables) (hunused : s.Unused site)
    (hdraft : s.draft = s.tables.ensureCursor key)
    (hfresh : (s.tables.cursors key).getD 0 < request.sequence.toNat)
    (hcheck : ∀ evidenceID, (Write.evidence (request.evidenceRow key evidenceID)).check)
    (hprice : 0 < request.priceVersion.toNat) :
    ∃ result s', s.serve lib site (insertAccepted key request) = (.ok result, s') ∧
      s'.rejections = s.rejections := by
  let t := s.draft.apply (.cursor key request.sequence.toNat)
  let row := request.evidenceRow key (site.uuid s.issued)
  let line := request.invoiceLine key (site.uuid s.issued) (site.uuid (s.issued + 1))
  have htaken {w : Write} (hw : ¬ s.tables.taken w)
      (hcursor : ∀ n, ¬ (Write.cursor key n).clashes w) : ¬ t.taken w := by
    rw [Tables.taken_apply, hdraft, Tables.ensureCursor_taken]
    exact fun h => h.elim hw (hcursor _)
  have hevidence : t.insert (.evidence row) = .ok (t.apply (.evidence row)) :=
    Tables.insert_eq_ok.2 ⟨htaken (not_taken_evidence hbooks hfresh hunused.1) fun _ => id,
      hcheck _, rfl⟩
  have hline : (t.apply (.evidence row)).insert (.invoiceLine line) =
      .ok ((t.apply (.evidence row)).apply (.invoiceLine line)) := by
    refine Tables.insert_eq_ok.2 ⟨?_, ?_, rfl⟩
    · rw [Tables.taken_apply]
      exact fun h => h.elim (htaken (not_taken_invoiceLine hunused.2) fun _ => id) id
    · have hlease := (of_decide_eq_true (hcheck (site.uuid s.issued))).1
      exact decide_eq_true ⟨hlease, hprice⟩
  let s₁ : Register := ⟨s.tables, t, s.rejections, s.issued + 1⟩
  have hfirst : s₁.perform lib (.insertEvidence row) =
      (.ok (), { s₁ with draft := t.apply (.evidence row) }) := by
    change insert s₁ _ = _
    rw [insert, hevidence]
  let s₂ : Register := ⟨s.tables, t.apply (.evidence row), s.rejections, s.issued + 1 + 1⟩
  have hsecond : s₂.perform lib (.insertInvoiceLine line) =
      (.ok (), { s₂ with draft := (t.apply (.evidence row)).apply (.invoiceLine line) }) := by
    change insert s₂ _ = _
    rw [insert, hline]
  refine ⟨Tables.acceptedResult request (site.uuid s.issued) (site.uuid (s.issued + 1)),
    ⟨(t.apply (.evidence row)).apply (.invoiceLine line),
      (t.apply (.evidence row)).apply (.invoiceLine line), s.rejections, s.issued + 1 + 1⟩, ?_, rfl⟩
  calc s.serve lib site (insertAccepted key request)
    _ = s₁.serve lib site (attempt (.insertEvidence row) _) :=
      (serve_attempt rfl).trans (serve_ask _ _)
    _ = s₂.serve lib site (attempt (.insertInvoiceLine line) _) :=
      (serve_attempt hfirst).trans (serve_ask _ _)
    _ = _ := (serve_attempt hsecond).trans (serve_attempt rfl)

theorem serve_accept (hbooks : Books es s.tables) (hunused : s.Unused site)
    (hrange : checkBigintRange request = .ok ())
    (hworkload : lib.parseUUID request.workloadID = some workloadID) (hcheck : ∀ evidenceID,
      (Write.evidence (request.evidenceRow ⟨request.providerID, workloadID⟩ evidenceID)).check)
    (hprice : 0 < request.priceVersion.toNat) :
    ∃ result s', s.serve lib site (acceptEvidence lib request) = (.ok result, s') ∧
      s'.rejections = s.rejections := by
  let key : CursorKey := ⟨request.providerID, workloadID⟩
  let s₁ : Register := { s with draft := s.tables.ensureCursor key }
  have hlock : s₁.perform lib (.lockCursor key) = (.ok ((s.tables.cursors key).getD 0), s₁) := by
    change (okOr ((s.tables.ensureCursor key).cursors key) _, s₁) = _
    rw [cursor_ensureCursor]
    rfl
  unfold acceptEvidence
  rw [hrange]
  dsimp only
  rw [serve_ask]
  dsimp only [answer, perform]
  rw [hworkload]
  dsimp only
  have hinsert : perform lib { s with draft := s.tables } (.insertCursor key) = (.ok (), s₁) := rfl
  rw [serve_attempt hinsert, serve_attempt hlock]
  split
  · exact serve_classify hbooks rfl _ fun result =>
      ⟨{ s₁ with tables := s₁.draft }, serve_attempt rfl, rfl⟩
  · exact serve_insertAccepted hbooks hunused rfl (Nat.lt_of_not_le ‹_›) hcheck hprice

end

end Register

theorem unix_eq (seconds : UInt64) : unix seconds =
    if 2 * seconds.toNat < 2 ^ 64 then (seconds.toNat : Int) else seconds.toNat - (2 ^ 64 : Nat) :=
  BitVec.toInt_eq_toNat_cond seconds.toBitVec

theorem unix_le_unix (hbounds : validateBounds summary = .ok ())
    (hclock : ¬ 1000 * unix summary.periodEnd < (now : Nat) - maxMeteringClockSkew) :
    unix summary.periodStart ≤ unix summary.periodEnd := by
  obtain ⟨_, _, h⟩ := bind_eq_ok.1 hbounds
  obtain ⟨_, _, h⟩ := bind_eq_ok.1 h
  obtain ⟨_, _, h⟩ := bind_eq_ok.1 h
  obtain ⟨_, horder, h⟩ := bind_eq_ok.1 h
  have horder := UInt64.le_iff_toNat_le.1 (ensure_eq_ok.1 horder)
  have hlength := UInt64.le_iff_toNat_le.1 (ensure_eq_ok.1 h)
  rw [UInt64.toNat_sub_of_le _ _ (ensure_eq_ok.1 (by assumption))] at hlength
  have hstart := UInt64.toNat_lt summary.periodStart
  have hend := UInt64.toNat_lt summary.periodEnd
  change summary.periodEnd.toNat - summary.periodStart.toNat ≤ 3600 at hlength
  unfold maxMeteringClockSkew at hclock
  rw [unix_eq] at hclock ⊢
  rw [unix_eq]
  split_ifs at hclock ⊢ <;> omega

theorem checkBigintRange_iff (lib : Library) (providerID : String) (summary : MeteringSummary)
    (signature : Bytes) (workload : WorkloadRef) (leaseID : Int) (charge : Charge) :
    checkBigintRange (acceptRequest lib providerID summary signature workload leaseID charge) =
      .ok () ↔ InRange summary charge := forM_eq_ok.trans (forall₂_congr fun _ _ => ensure_eq_ok)

namespace Presentable
variable {lib : Library} {site : Site} {s : Register} {providerID : String}
  {summary : MeteringSummary} {signature : Bytes} {workload : WorkloadRef} {leaseID : Int}
  {charge : Charge}

theorem recorded_iff (h : Presentable lib site providerID summary signature workload leaseID charge)
    (hbooks : Books es s.tables) (hunused : s.Unused site) (hprovider : storable providerID) :
    s.Recorded providerID (s.serve lib site (do
      match ← acceptEvidence lib
          (acceptRequest lib providerID summary signature workload leaseID charge) with
      | .error e => pure (.error e)
      | .ok result => quarantine lib providerID summary result)) ↔ InRange summary charge := by
  let request := acceptRequest lib providerID summary signature workload leaseID charge
  obtain ⟨workloadID, hworkload, _⟩ := h.known
  rw [← checkBigintRange_iff lib providerID summary signature workload leaseID charge,
    Register.serve_bind]
  cases hrange : checkBigintRange request with
  | error e =>
    have hserve : s.serve lib site (acceptEvidence lib request) = (.error e, s) := by
      unfold acceptEvidence
      rw [hrange]
      rfl
    rw [hserve]
    exact iff_of_false (Register.not_recorded e) nofun
  | ok u =>
    refine iff_of_true ?_ rfl
    have hcheck (evidenceID : Uuid) :
        (Write.evidence (request.evidenceRow ⟨request.providerID, workloadID⟩ evidenceID)).check :=
      decide_eq_true ⟨h.lease.1, Nat.pos_of_ne_zero fun hzero =>
        sequence_ne_zero h.bounds (UInt64.toNat_inj.1 hzero),
        unix_le_unix h.bounds (not_or.1 h.clock).1⟩
    obtain ⟨result, s', hserve, hkept⟩ :=
      Register.serve_accept hbooks hunused hrange hworkload hcheck
        (show 0 < currentPriceVersion.toNat by decide)
    rw [hserve]
    dsimp only
    unfold quarantine
    split
    · let rejection : Rejection :=
        { providerID, workloadID := summary.workloadId, sequence := summary.sequence
          reason := result.outcome.string, detail := "sequence=" ++ toString summary.sequence
          evidenceHash := evidenceHash lib (signedBytes summary) }
      have hrecordable : Register.recordable lib rejection :=
        decide_eq_true ⟨hprovider, (congrArg Option.isSome hworkload :)⟩
      refine .inr ⟨rejection, rfl, ?_⟩
      rw [Register.serve_ask]
      dsimp only [Register.answer, Register.perform]
      rw [if_pos hrecordable]
      exact congrArg (· ++ _) hkept
    · rename_i hdecided
      rw [not_and_or, not_not, not_not] at hdecided
      exact .inl ⟨result, rfl, hdecided⟩

end Presentable

section
variable {lib : Library} {site : Site} {s : Register} {es : List Entry} {providerID : String}
  {summary : MeteringSummary} {signature : Bytes}

theorem recorded_refuse (outcome : Outcome) (detail : String) (hno : ∀ workload leaseID charge,
      ¬ Presentable lib site providerID summary signature workload leaseID charge) :
    s.Recorded providerID (s.serve lib site
        (reject lib providerID (some summary) summary.sequence outcome detail)) ↔
      storable providerID ∧ Writable lib site providerID summary signature := by
  refine (Register.recorded_reject _ _ _ _).trans (and_congr_right fun _ => ?_)
  exact ⟨fun h => ⟨h summary rfl, fun _ _ _ hp => (hno _ _ _ hp).elim⟩,
    fun h _ hx => Option.some.inj hx ▸ h.1⟩

theorem recorded_priced (hbooks : Books es s.tables) (hunused : s.Unused site)
    (hprovider : storable providerID)
    (hpresentable : ∀ charge, computeCharge ⟨1, 1, 1, 1, 1⟩ summary.cpuCoreSeconds
        summary.ramMbSeconds summary.storageGbSeconds summary.networkEgressMb
        summary.networkIngressMb = .ok charge →
      Presentable lib site providerID summary signature workload leaseID charge)
    (hparse : (lib.parseUUID summary.workloadId).isSome) :
    s.Recorded providerID (s.serve lib site
        (priceAndAccept lib providerID summary signature workload leaseID)) ↔
      storable providerID ∧ Writable lib site providerID summary signature := by
  unfold priceAndAccept
  rw [show lookupPriceSchedule currentPriceVersion = some ⟨1, 1, 1, 1, 1⟩ from rfl]
  dsimp only
  cases hcharge : computeCharge ⟨1, 1, 1, 1, 1⟩ summary.cpuCoreSeconds summary.ramMbSeconds
      summary.storageGbSeconds summary.networkEgressMb summary.networkIngressMb with
  | error detail => exact recorded_refuse _ _ fun _ _ _ h => nomatch hcharge.symm.trans h.priced
  | ok charge =>
    have h := hpresentable charge hcharge
    refine (h.recorded_iff hbooks hunused hprovider).trans ⟨fun hrange => ?_, fun h' => ?_⟩
    · refine ⟨hprovider, hparse, fun _ _ _ h' => ?_⟩
      cases hcharge.symm.trans h'.priced
      exact hrange
    · exact h'.2.2 _ _ _ h

theorem recorded_summary (hbooks : Books es s.tables) (hunused : s.Unused site) :
    s.Recorded providerID (s.serve lib site (recordSummary lib providerID summary signature)) ↔
      storable providerID ∧ Writable lib site providerID summary signature := by
  have hlost (hno : ¬ (storable providerID ∧ (lib.parseUUID summary.workloadId).isSome)) :
      s.Recorded providerID (.error .database, s) ↔
        storable providerID ∧ Writable lib site providerID summary signature :=
    iff_of_false (Register.not_recorded _) fun h => hno ⟨h.1, h.2.1⟩
  unfold recordSummary
  dsimp only
  cases hbounds : validateBounds summary with
  | error detail => exact recorded_refuse _ _ fun _ _ _ h => nomatch hbounds.symm.trans h.bounds
  | ok u =>
    dsimp only
    split
    · exact recorded_refuse _ _ fun _ _ _ h => absurd h.version ‹_›
    · rename_i hversion
      rw [Register.serve_ask]
      change s.Recorded providerID (s.serve lib site (ite _ _ _)) ↔ _
      split
      · exact recorded_refuse _ _ fun _ _ _ h => h.clock ‹_›
      · rename_i hclock
        rw [Register.serve_ask]
        dsimp only [Register.answer, Register.findKey]
        by_cases hprovider : storable providerID
        · rw [if_pos hprovider]
          cases hkey : site.publicKey providerID with
          | none =>
            refine recorded_refuse _ _ fun _ _ _ h => ?_
            obtain ⟨k, hk, _⟩ := h.signed
            cases hkey.symm.trans hk
          | some publicKey =>
            dsimp only [okOr]
            split
            · refine recorded_refuse _ _ fun _ _ _ h => ?_
              obtain ⟨k, hk, hverify⟩ := h.signed
              cases hkey.symm.trans hk
              exact absurd hverify ‹_›
            · rename_i hverify
              rw [Register.serve_ask]
              dsimp only [Register.answer]
              obtain hparse | ⟨workloadID, hparse⟩ :=
                Option.eq_none_or_eq_some (lib.parseUUID summary.workloadId)
              · have hlookup : Register.findWorkload lib site summary.workloadId =
                    .error .failed := by
                  rw [Register.findWorkload, hparse]
                rw [hlookup]
                refine hlost fun h => ?_
                rw [hparse] at h
                cases h.2
              have hlookup : Register.findWorkload lib site summary.workloadId =
                  okOr (site.workload workloadID) .notFound := by
                rw [Register.findWorkload, hparse]
              rw [hlookup]
              cases hfind : site.workload workloadID with
              | none =>
                refine recorded_refuse _ _ fun _ _ _ h => ?_
                obtain ⟨_, hid, hw⟩ := h.known
                cases hparse.symm.trans hid
                cases hfind.symm.trans hw
              | some workload =>
                dsimp only [okOr]
                have hsame {w : WorkloadRef} {l : Int} {c : Charge}
                    (h : Presentable lib site providerID summary signature w l c) :
                    w = workload := by
                  obtain ⟨_, hid, hw⟩ := h.known
                  cases hparse.symm.trans hid
                  exact Option.some.inj (hw.symm.trans hfind)
                split
                · exact recorded_refuse _ _ fun _ _ _ h => absurd (hsame h ▸ h.own) ‹_›
                · rename_i hown
                  cases hlease : lib.parseInt summary.leaseId with
                  | none =>
                    exact recorded_refuse _ _ fun _ _ _ h => nomatch hlease.symm.trans h.leased
                  | some leaseID =>
                    dsimp only
                    split
                    · rename_i hmismatch
                      refine recorded_refuse _ _ fun _ _ _ h => ?_
                      cases hlease.symm.trans h.leased
                      cases hsame h
                      exact hmismatch.elim (not_lt.2 h.lease.1) (· h.lease.2)
                    · rename_i hmatch
                      rw [not_or, not_lt, not_not] at hmatch
                      exact recorded_priced hbooks hunused hprovider (fun charge hcharge =>
                        ⟨hbounds, not_not.1 hversion, hclock, ⟨publicKey, hkey, not_not.1 hverify⟩,
                          ⟨workloadID, hparse, hfind⟩, not_not.1 hown, hlease, hmatch, hcharge⟩)
                        (hparse ▸ rfl)
        · rw [if_neg hprovider]
          exact hlost fun h => hprovider h.1

end

/-- None disappears unless it cannot be written down or does not fit its columns. -/
theorem submission_recorded_iff (lib : Library) (site : Site) (s : Register)
    (hserial : Serial es s.tables) (hunused : s.Unused site) (providerID : String)
    (response : Option GetUsageSummaryResponse) :
    s.Recorded providerID (s.serve lib site (recordUsage lib providerID response)) ↔
      storable providerID ∧ ∀ r ∈ response, ∀ summary ∈ r.summary,
        Writable lib site providerID summary r.signature := by
  rcases response with _ | ⟨_ | summary, signature⟩
  · refine (Register.recorded_reject none 0 .boundsViolation "missing summary").trans ?_
    exact and_congr_right fun _ => ⟨fun _ _ h => (nomatch h), fun _ _ h => (nomatch h)⟩
  · refine (Register.recorded_reject none 0 .boundsViolation "missing summary").trans ?_
    refine and_congr_right fun _ => ⟨fun _ r hr x hx => ?_, fun _ _ h => nomatch h⟩
    cases hr
    cases hx
  · refine (recorded_summary hserial.books hunused).trans (and_congr_right fun _ => ?_)
    constructor
    · intro h r hr x hx
      cases hr
      cases hx
      exact h
    · exact fun h => h _ rfl summary rfl

def sampleSite : Site where
  now := 100000
  uuid n := Fin.ofNat _ n
  publicKey _ := some (replicate 32 0)
  workload _ := some ⟨"provider-a", 5, none⟩

def firstAccepted : Except Failure (Result × Tables) :=
  Tables.empty.acceptEvidence ⟨"provider-a", 7⟩ (acceptRequest sampleLibrary "provider-a"
    (sampleSummary 1 0 60) (replicate 64 0) ⟨"provider-a", 5, none⟩ 5 ⟨10, 20, 30, 0, 60⟩) 0 1

theorem second_summary_recorded : ∃ result t, firstAccepted = .ok (result, t) ∧
    let s : Register := ⟨t, t, [], 2⟩
    s.Recorded "provider-a" (s.serve sampleLibrary sampleSite (recordUsage sampleLibrary
      "provider-a" (some ⟨some (sampleSummary 2 60 100), replicate 64 0⟩))) := by
  have hrows : firstAccepted.toOption.map (fun x => (x.2.evidence.map (·.evidenceID),
      x.2.invoiceLines.map fun line => (line.evidenceID, line.invoiceLineID))) =
      some ([0], [(0, 1)]) := by decide +kernel
  obtain ⟨⟨result, t⟩, ht⟩ := isOk_iff.1 (show firstAccepted.isOk by decide +kernel)
  rw [ht] at hrows
  obtain ⟨hevidence, hlines⟩ := Prod.mk.inj (Option.some.inj hrows)
  refine ⟨result, t, ht, (submission_recorded_iff sampleLibrary sampleSite ⟨t, t, [], 2⟩
    (.snoc (e := ⟨0, _, _, result⟩) .nil ht) ⟨fun row hrow => ?_, fun line hline => ?_⟩ _ _).2
    ⟨by decide +kernel, ?_⟩⟩
  · have hid : row.evidenceID = 0 := mem_singleton.1 (hevidence ▸ mem_map_of_mem hrow)
    rw [hid]
    exact (by decide +kernel : (0 : Uuid) ≠ sampleSite.uuid 2)
  · obtain ⟨hid, hline⟩ := Prod.mk.inj (mem_singleton.1 (hlines ▸ mem_map_of_mem hline))
    rw [hid, hline]
    exact (by decide +kernel : (0 : Uuid) ≠ sampleSite.uuid 2 ∧ 1 ≠ sampleSite.uuid 3)
  · intro r hr summary hsummary
    obtain rfl := Option.some.inj hr
    obtain rfl := Option.some.inj hsummary
    refine ⟨by decide +kernel, fun workload leaseID charge h => ?_⟩
    have hcharge : computeCharge ⟨1, 1, 1, 1, 1⟩ 10 20 30 0 0 = .ok ⟨10, 20, 30, 0, 60⟩ := by
      decide +kernel
    have hpriced := h.priced
    dsimp only [sampleSummary] at hpriced
    rw [hcharge] at hpriced
    obtain rfl := Except.ok.inj hpriced
    simp [InRange, sampleSummary, maxInt64]

theorem malformed_workload_lost :
    let s : Register := ⟨.empty, .empty, [], 0⟩
    let response : GetUsageSummaryResponse :=
      ⟨some { sampleSummary 1 0 60 with workloadId := "workload" }, replicate 64 0⟩
    let x := s.serve sampleLibrary sampleSite
      (recordUsage sampleLibrary "provider-a" (some response))
    x.1 = .error .database ∧ x.2.rejections = [] ∧ ¬ s.Recorded "provider-a" x := by
  intro s response x
  have herror : x.1 = .error .database := by decide +kernel
  have hlength : x.2.rejections.length = 0 := by decide +kernel
  have hnone := length_eq_zero_iff.1 hlength
  refine ⟨herror, hnone, ?_⟩
  rintro (⟨_, hok, _⟩ | ⟨_, _, hrow⟩)
  · cases herror.symm.trans hok
  · cases hnone.symm.trans hrow

end OpenInfra.Metering
