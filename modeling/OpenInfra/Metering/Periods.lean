import OpenInfra.Metering.Linear

namespace OpenInfra.Metering
open Frame List
open ControlPlane (Uuid Time)

namespace Tables

/-- Periods of a pair follow each other and share no second. -/
def Ordered (t : Tables) : Prop :=
  ∀ r ∈ t.evidence, ∀ r' ∈ t.evidence, r.key = r'.key → r.sequence < r'.sequence →
    r.periodEnd ≤ r'.periodStart ∧
      Disjoint (Set.Ico r.periodStart r.periodEnd) (Set.Ico r'.periodStart r'.periodEnd)

/-- A new sequence starts no earlier than the last period ends. -/
def Continued (t : Tables) (key : CursorKey) (request : AcceptRequest) : Prop :=
  (t.cursors key).getD 0 < request.sequence.toNat →
    ∀ row ∈ t.evidence, row.at key ((t.cursors key).getD 0) → row.periodEnd ≤ request.periodStart

end Tables

def Continues (s : State) : Event → Prop
  | .proceed i env =>
    match s.request i, env.link with
    | some (_, .statement (.commit ..)), .down => True
    | some (_, .statement (.commit key request _)), _ =>
      s.world.store.committed.Continued key request
    | _, _ => True
  | _ => True

section
variable {es : List Entry} {t t' : Tables}

theorem Books.mem_evidence (h : Books es t) (hr : r ∈ t.evidence) :
    ∃ e ∈ es, e.accepted ∧ e.evidenceRow = r := by
  rw [h.evidence] at hr
  obtain ⟨e, he, rfl⟩ := mem_map.1 hr
  exact ⟨e, (mem_filter.1 he).1, (mem_filter.1 he).2, rfl⟩

theorem Books.sequence_le (h : Books es t) (hr : r ∈ t.evidence) :
    r.sequence ≤ (t.cursors r.key).getD 0 := by
  obtain ⟨e, he, ha, rfl⟩ := h.mem_evidence hr
  exact h.le_cursor he ha

theorem Books.last_row (h : Books es t) (hr : r ∈ t.evidence) :
    ∃ last ∈ t.evidence, last.key = r.key ∧ last.sequence = (t.cursors r.key).getD 0 := by
  obtain ⟨e, he, ha, rfl⟩ := h.mem_evidence hr
  have hmem := Books.mem_acceptedSequences he ha
  have hmax := maximum_mem (foldr_max_of_ne_nil (ne_nil_of_mem hmem)).symm
  obtain ⟨e', he', hsequence⟩ := mem_map.1 hmax
  obtain ⟨he', ha'⟩ := mem_filter.1 he'
  obtain ⟨ha', hkey⟩ := of_decide_eq_true ha'
  refine ⟨e'.evidenceRow, ?_, hkey, hsequence.trans (h.cursor e.key).symm⟩
  rw [h.evidence]
  exact mem_map_of_mem (mem_filter.2 ⟨he', ha'⟩)

theorem Serial.checked (h : Serial es t) (hr : r ∈ t.evidence) : r.periodStart ≤ r.periodEnd := by
  induction h with
  | nil => cases hr
  | snoc _ haccept ih =>
    obtain ⟨_, _, rfl⟩ | ⟨_, _, _, hcheck, _, rfl⟩ := Tables.acceptEvidence_cases haccept
    · rw [Tables.ensureCursor_evidence] at hr
      exact ih hr
    · obtain hr | hr := mem_append.1 hr
      · exact ih hr
      · cases mem_singleton.1 hr
        exact (of_decide_eq_true hcheck).2.2

theorem disjoint_of_le {a b c d : Int} (h : b ≤ c) : Disjoint (Set.Ico a b) (Set.Ico c d) :=
  Set.Ico_disjoint_Ico.2 ((min_le_left b d).trans (h.trans (le_max_right a c)))

theorem Serial.ordered_iff (h : Serial es t) (ho : t.Ordered)
    (haccept : t.acceptEvidence key request evidenceID invoiceLineID = .ok (result, t')) :
    t'.Ordered ↔ t.Continued key request := by
  obtain ⟨hstale, _, rfl⟩ | ⟨hfresh, _, _, _, _, rfl⟩ := Tables.acceptEvidence_cases haccept
  · unfold Tables.Ordered
    rw [Tables.ensureCursor_evidence]
    exact ⟨fun _ hlt => absurd hlt (Nat.not_lt.2 hstale), fun _ => ho⟩
  · have hnew := mem_append_right t.evidence
      (mem_singleton_self (request.evidenceRow key evidenceID))
    constructor
    · intro ho' _ row hrow hat
      obtain ⟨hkey, hsequence⟩ := of_decide_eq_true hat
      exact (ho' row (mem_append_left _ hrow) _ hnew hkey (hsequence ▸ hfresh)).1
    · intro hcontinued r hr r' hr' hkey hlt
      obtain hr | hr := mem_append.1 hr <;> obtain hr' | hr' := mem_append.1 hr'
      · exact ho r hr r' hr' hkey hlt
      · cases mem_singleton.1 hr'
        have hlast : r.periodEnd ≤ request.periodStart := by
          obtain ⟨last, hlast, hlastKey, hlastSequence⟩ := h.books.last_row hr
          have hend := hcontinued hfresh last hlast
            (decide_eq_true ⟨hlastKey.trans hkey, hlastSequence.trans (by rw [hkey]; rfl)⟩)
          obtain heq | hbefore := (h.books.sequence_le hr).eq_or_lt
          · refine hcontinued hfresh r hr (decide_eq_true ⟨hkey, ?_⟩)
            rw [heq, hkey]
            rfl
          · have hstart := (ho r hr last hlast hlastKey.symm (hlastSequence ▸ hbefore)).1
            exact hstart.trans ((h.checked hlast).trans hend)
        exact ⟨hlast, disjoint_of_le hlast⟩
      · cases mem_singleton.1 hr
        have hle := h.books.sequence_le hr'
        rw [← hkey] at hle
        exact absurd (hfresh.trans hlt) (Nat.not_lt.2 hle)
      · cases mem_singleton.1 hr
        cases mem_singleton.1 hr'
        exact absurd hlt (lt_irrefl _)

end

theorem perform_committed {st : Statement} {a : st.Reply} {w w' : World}
    (h : w.perform tx st = .ok (a, w'))
    (hst : ∀ key request result, st ≠ .commit key request result) :
    w'.store.committed = w.store.committed := by
  have hinsert {row} (h : w.insert tx row = .ok ((), w')) :
      w'.store.committed = w.store.committed := by
    unfold World.insert at h
    split at h <;> cases h
    rfl
  cases st with
  | commit key request result => exact absurd rfl (hst key request result)
  | insertEvidence row => exact hinsert h
  | insertInvoiceLine line => exact hinsert h
  | insertCursor key =>
    dsimp only [World.perform] at h
    split at h <;> cases h <;> rfl
  | updateCursor key n =>
    dsimp only [World.perform] at h
    split at h <;> cases h <;> rfl
  | lockCursor key =>
    dsimp only [World.perform] at h
    split at h <;> cases h
    rfl
  | findInvoiceLine evidenceID =>
    dsimp only [World.perform] at h
    split at h <;> cases h
    rfl
  | _ =>
    cases h
    rfl

theorem answer_committed {env : Env} {w : World}
    (hq : ∀ key request result, q ≠ .statement (.commit key request result)) :
    (World.answer env w ticket q).2.store.committed = w.store.committed := by
  cases q with
  | statement st =>
    dsimp only [World.answer]
    obtain ⟨hsame, _⟩ | ⟨a, w', hperform, hw', _⟩ :=
      env.link.deliver_cases w .database (w.perform ticket.id st)
    · rw [hsame]
    · rw [hw']
      exact perform_committed hperform fun key request result hst =>
        hq key request result (congrArg _ hst)
  | _ => rfl

namespace Regular
variable {lib : Library} {s : State}

theorem ordered_step (h : Regular lib s) (ho : s.world.store.committed.Ordered) (e : Event) :
    (Metering.step lib s e).world.store.committed.Ordered ↔ Continues s e := by
  cases e with
  | recordUsage providerID response => exact iff_of_true ho trivial
  | crash i =>
    refine iff_of_true ?_ trivial
    dsimp only [Metering.step, State.abandon]
    split <;> exact ho
  | proceed i env =>
    dsimp only [Metering.step, Continues]
    cases hr : s.request i with
    | none =>
      rw [Workers.proceed_none hr, ite_self]
      exact iff_of_true ho trivial
    | some x =>
      obtain ⟨ticket, q⟩ := x
      obtain ⟨k, hk⟩ := Workers.request_eq_some.1 hr
      by_cases hq : ∃ key request result, q = .statement (.commit key request result)
      · obtain ⟨key, request, result, rfl⟩ := hq
        have hwaits : s.waits i = false := by
          unfold State.waits
          rw [hr]
          rfl
        obtain ⟨phase, hknown, hallowed⟩ := h.obey.allows hr
        obtain ⟨_, _, _, haccept⟩ := hallowed.1.acceptEvidence h.consistent hknown
        rw [hwaits, Workers.proceed_call hk]
        cases hlink : env.link with
        | down =>
          refine iff_of_true ?_ trivial
          dsimp only [World.answer]
          rw [hlink]
          exact ho
        | up =>
          refine Iff.trans ?_ (h.consistent.serial.ordered_iff ho haccept)
          dsimp only [World.answer]
          rw [hlink]
          exact Iff.rfl
        | lost =>
          refine Iff.trans ?_ (h.consistent.serial.ordered_iff ho haccept)
          dsimp only [World.answer]
          rw [hlink]
          exact Iff.rfl
      · have hq' : ∀ key request result, q ≠ .statement (.commit key request result) :=
          fun key request result heq => hq ⟨key, request, result, heq⟩
        refine iff_of_true ?_ ?_
        · split
          · exact ho
          · rw [Workers.proceed_call hk, answer_committed hq']
            exact ho
        · split
          · trivial
          · next heq _ => cases heq; exact absurd rfl (hq' _ _ _)
          · trivial

theorem ordered_run (h : Regular lib s) (ho : s.world.store.committed.Ordered)
    (events : List Event) :
    Throughout (Metering.step lib) (fun s => s.world.store.committed.Ordered) s events ↔
      Along (Metering.step lib) Continues s events := by
  induction events generalizing s with
  | nil => exact iff_of_true ho trivial
  | cons e events ih =>
    constructor
    · rintro ⟨_, hlater⟩
      exact ⟨(h.ordered_step ho e).1 hlater.head, (ih (h.step e) hlater.head).1 hlater⟩
    · rintro ⟨hcontinues, hlater⟩
      have ho' := (h.ordered_step ho e).2 hcontinues
      exact ⟨ho, (ih (h.step e) ho').2 hlater⟩

end Regular

/-- No second is billed twice exactly if periods continue. -/
theorem periods_billed_once (lib : Library) (events : List Event) :
    Throughout (step lib) (fun s => s.world.store.committed.Ordered) State.init events ↔
      Along (step lib) Continues State.init events := by
  have hempty : State.init.world.store.committed.Ordered := fun _ hr => absurd hr not_mem_nil
  exact (Regular.init lib).ordered_run hempty events

def overlappingCalls : List Event :=
  sampleCall (sampleSummary 1 0 60) :: serve 0 60000 (range 12) ++
    sampleCall (sampleSummary 2 30 90) :: serve 1 90000 (range' 20 12)

theorem overlapping_periods_invoiced :
    let t := (run (step sampleLibrary) State.init overlappingCalls).world.store.committed
    t.evidence.map (fun row => (row.sequence, row.periodStart, row.periodEnd)) =
        [(1, 0, 60), (2, 30, 90)] ∧
      t.invoiceLines.map (fun line => (line.evidenceID, line.totalAmount)) =
        t.evidence.map (fun row => (row.evidenceID, 60)) := by
  decide +kernel

end OpenInfra.Metering
