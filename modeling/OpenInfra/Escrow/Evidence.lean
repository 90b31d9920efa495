import OpenInfra.Escrow.Record
import OpenInfra.Escrow.Roles

namespace OpenInfra.Escrow
open Frame List

variable {A Ledger : Type} [LinearOrder A] {E : Env A Ledger}
  {s t : Chain E} {e e' : EscrowRecord A} {l : LeaseId} {evidence : MeteringSummary}
  {out : List MeteringSummary}

def Deed.evidence? : Deed → Option MeteringSummary
  | .stream evidence => some evidence
  | .complete evidence => some evidence
  | _ => none

def accepted (l : LeaseId) (s : Chain E) (a : Action A) : List MeteringSummary :=
  (deeds l s a).filterMap Deed.evidence?

def MeteringSummary.periodLength (evidence : MeteringSummary) : Nat :=
  evidence.periodEnd - evidence.periodStart

def MeteringSummary.period (evidence : MeteringSummary) : Finset Nat :=
  Finset.Ico evidence.periodStart evidence.periodEnd

def MeteringSummary.Before (x y : MeteringSummary) : Prop :=
  x.sequence < y.sequence ∧ x.periodEnd ≤ y.periodStart ∧ Disjoint x.period y.period

theorem MeteringSummary.period_disjoint {x y : MeteringSummary} (h : x.periodEnd ≤ y.periodStart) :
    Disjoint x.period y.period := by
  apply Finset.disjoint_left.2
  intro n hx hy
  have hn := (Finset.mem_Ico.1 hx).2
  have hn' := (Finset.mem_Ico.1 hy).1
  omega

/-- The evidence used so far lies before the cursors of the escrow. -/
structure EscrowRecord.Past (e : EscrowRecord A) (out : List MeteringSummary) : Prop where
  before : ∀ x ∈ out, x.sequence ≤ e.lastEvidenceSequence ∧ x.periodEnd ≤ e.lastPeriodEnd
  total : (out.map MeteringSummary.periodLength).sum ≤ e.lastPeriodEnd

theorem EscrowRecord.Past.congr (h : e.Past out)
    (hs : e'.lastEvidenceSequence = e.lastEvidenceSequence)
    (hp : e'.lastPeriodEnd = e.lastPeriodEnd) : e'.Past out := by
  constructor
  · rw [hs, hp]
    exact h.before
  · rw [hp]
    exact h.total

theorem EscrowRecord.Past.advance (h : e.Past out) (hv : Verified s e evidence)
    (hs : e'.lastEvidenceSequence = evidence.sequence)
    (hp : e'.lastPeriodEnd = evidence.periodEnd) : e'.Past (out ++ [evidence]) := by
  have hlater := hv.later
  have hordered := hv.ordered
  constructor
  · intro x hx
    obtain hx | hx := mem_append.1 hx
    · obtain ⟨hseq, hend⟩ := h.before x hx
      have hfresh := hv.fresh
      omega
    · obtain rfl := mem_singleton.1 hx
      exact ⟨hs.ge, hp.ge⟩
  · have htotal := h.total
    rw [map_append, sum_append, map_singleton, sum_singleton, hp,
      MeteringSummary.periodLength]
    omega

/-- What has been billed is in order and behind its cursor. -/
structure BilledOnce (l : LeaseId) (s : Chain E) (out : List MeteringSummary) : Prop where
  unfunded : s.escrow.escrows.lookup l = none → out = []
  cursor : ∀ e ∈ s.escrow.escrows.lookup l, e.Past out
  ordered : out.Pairwise MeteringSummary.Before
  short : ∀ x ∈ out, x.periodStart ≤ x.periodEnd ∧
    x.periodLength ≤ E.config.escrowMaxMeteringPeriod

theorem BilledOnce.put (h : BilledOnce l s out) (ht : t.escrow.escrows.lookup l = some e)
    (hpast : e.Past out) : BilledOnce l t out := by
  refine ⟨?_, ?_, h.ordered, h.short⟩
  · intro hnone
    cases hnone.symm.trans ht
  · intro r hr
    cases ht.symm.trans hr
    exact hpast

theorem BilledOnce.bill (h : BilledOnce l s out) (hs : s.escrow.escrows.lookup l = some e)
    (hv : Verified s e evidence) (ht : t.escrow.escrows.lookup l = some e')
    (hseq : e'.lastEvidenceSequence = evidence.sequence)
    (hend : e'.lastPeriodEnd = evidence.periodEnd) : BilledOnce l t (out ++ [evidence]) := by
  have hpast := h.cursor e hs
  constructor
  · intro hnone
    cases hnone.symm.trans ht
  · intro r hr
    cases ht.symm.trans hr
    exact hpast.advance hv hseq hend
  · apply pairwise_append.2 ⟨h.ordered, pairwise_singleton _ _, ?_⟩
    intro x hx y hy
    obtain rfl := mem_singleton.1 hy
    obtain ⟨hxs, hxe⟩ := hpast.before x hx
    have hstart := hxe.trans hv.later
    exact ⟨hxs.trans_lt hv.fresh, hstart, MeteringSummary.period_disjoint hstart⟩
  · intro x hx
    obtain hx | hx := mem_append.1 hx
    · exact h.short x hx
    · obtain rfl := mem_singleton.1 hx
      exact ⟨hv.ordered, hv.short⟩

@[simp] theorem afterStream_sequence (e : EscrowRecord A) (now charge : Nat) :
    (e.afterStream now evidence charge).lastEvidenceSequence = evidence.sequence := by
  unfold EscrowRecord.afterStream streamed
  dsimp only
  split
  · rfl
  · split <;> rfl

@[simp] theorem afterStream_periodEnd (e : EscrowRecord A) (now charge : Nat) :
    (e.afterStream now evidence charge).lastPeriodEnd = evidence.periodEnd := by
  unfold EscrowRecord.afterStream streamed
  dsimp only
  split
  · rfl
  · split <;> rfl

theorem BilledOnce.step {ds : List Deed} (h : BilledOnce l s out) (hr : RecordStep l s t ds) :
    BilledOnce l t (out ++ ds.filterMap Deed.evidence?) := by
  cases hr with
  | same ht =>
    rw [filterMap_nil, append_nil]
    refine ⟨?_, ?_, h.ordered, h.short⟩
    · rw [ht]
      exact h.unfunded
    · rw [ht]
      exact h.cursor
  | fund e hs hfresh ht =>
    obtain rfl := h.unfunded hs
    apply h.put ht
    exact ⟨nofun, Nat.zero_le _⟩
  | stream evidence e charge hs _ hv ht =>
    exact h.bill hs hv ht (afterStream_sequence ..) (afterStream_periodEnd ..)
  | complete evidence e charge hs _ hv ht => exact h.bill hs hv ht rfl rfl
  | refund e hs _ _ ht =>
    rw [filterMap_cons_none rfl, filterMap_nil, append_nil]
    exact h.put ht ((h.cursor e hs).congr rfl rfl)
  | dispute e hs _ ht =>
    rw [filterMap_cons_none rfl, filterMap_nil, append_nil]
    exact h.put ht ((h.cursor e hs).congr rfl rfl)
  | resolve _ e r hs _ _ ht =>
    rw [filterMap_cons_none rfl, filterMap_nil, append_nil]
    exact h.put ht ((h.cursor e hs).congr rfl rfl)

theorem BilledOnce.genesis (E : Env A Ledger) (L : Ledger) (l : LeaseId) :
    BilledOnce l (genesis E L) [] := by
  refine ⟨fun _ => rfl, ?_, .nil, nofun⟩
  intro e he
  cases he

/-- Accepted only for a funded escrow, under its provider's key. -/
def AcceptsSigned (l : LeaseId) (s : Chain E) (a : Action A) : Prop :=
  ∀ x ∈ accepted l s a, ∃ e ∈ s.escrow.escrows.lookup l, e.state = .funded ∧
    ∃ key ∈ publicKey s e.provider,
      E.host.ed25519Verify x.signature (meteringSigningPayload x) key = true

theorem acceptsSigned (l : LeaseId) (s : Chain E) (a : Action A) : AcceptsSigned l s a := by
  intro x hx
  unfold accepted at hx
  have hr := recordStep l s a
  generalize deeds l s a = ds at hr hx
  cases hr with
  | stream evidence e _ hs hfunded hv | complete evidence e _ hs hfunded hv =>
    obtain rfl := mem_singleton.1 hx
    exact ⟨e, hs, hfunded, hv.signed⟩
  | _ => cases hx

def LeftFunded (l : LeaseId) (s : Chain E) : Prop :=
  ∃ e ∈ s.escrow.escrows.lookup l, e.state ≠ .funded

theorem LeftFunded.accepted (h : LeftFunded l s) (a : Action A) : accepted l s a = [] := by
  obtain ⟨e, he, hstate⟩ := h
  apply eq_nil_iff_forall_not_mem.2
  intro x hx
  obtain ⟨r, hr, hfunded, _⟩ := acceptsSigned l s a x hx
  cases he.symm.trans hr
  exact hstate hfunded

theorem LeftFunded.step {ds : List Deed} (h : LeftFunded l s) (hr : RecordStep l s t ds) :
    LeftFunded l t := by
  obtain ⟨e, he, hstate⟩ := h
  cases hr with
  | same ht => exact ⟨e, ht.trans he, hstate⟩
  | fund r hs => cases he.symm.trans hs
  | stream _ r _ hs hfunded | complete _ r _ hs hfunded | refund r hs hfunded =>
    cases he.symm.trans hs
    exact absurd hfunded hstate
  | dispute r hs _ ht => exact ⟨_, ht, nofun⟩
  | resolve _ r res hs _ hfinal ht =>
    refine ⟨_, ht, ?_⟩
    rcases hfinal with hfinal | hfinal
    · exact fun hf => by cases hfinal.symm.trans hf
    · exact fun hf => by cases hfinal.symm.trans hf

theorem LeftFunded.outputs (h : LeftFunded l s) (acts : List (Action A)) :
    outputs OpenInfra.step (Escrow.accepted l) s acts = [] := by
  induction acts generalizing s with
  | nil => rfl
  | cons a acts ih =>
    rw [Frame.outputs, h.accepted a, ih (h.step (recordStep l s a)), append_nil]

/-- Billed at most once, in order and without overlap. -/
theorem evidence_billed_once (L : Ledger) (acts : List (Action A)) (l : LeaseId) :
    let s := run step (genesis E L) acts
    let billed := outputs step (accepted l) (genesis E L) acts
    billed.Pairwise MeteringSummary.Before ∧
    (∀ x ∈ billed, x.periodStart ≤ x.periodEnd ∧
      x.periodLength ≤ E.config.escrowMaxMeteringPeriod) ∧
    (s.escrow.escrows.lookup l = none → billed = []) ∧
    (∀ e ∈ s.escrow.escrows.lookup l,
      (billed.map MeteringSummary.periodLength).sum ≤ e.lastPeriodEnd) ∧
    Along step (AcceptsSigned l) (genesis E L) acts ∧
    (∀ e ∈ s.escrow.escrows.lookup l, e.state ≠ .funded →
      ∀ acts', outputs step (accepted l) s acts' = []) := by
  intro s billed
  have h : BilledOnce l s billed := (Throughout.true (genesis E L) acts).outputs_invariant
    (.genesis E L l) fun s a out hs _ _ => hs.step (recordStep l s a)
  refine ⟨h.ordered, h.short, h.unfunded, fun e he => (h.cursor e he).total, ?_, ?_⟩
  · exact (Throughout.true (genesis E L) acts).along (I := fun _ => True) trivial
      (fun _ _ _ _ _ => trivial) fun s a _ _ => acceptsSigned l s a
  · intro e he hstate acts'
    exact LeftFunded.outputs ⟨e, he, hstate⟩ acts'

def hourly (sequence start : Nat) : MeteringSummary :=
  ⟨0, sequence, start, start + 3600, 10, 0, 0, 0, 0, 0, 1, List.Vector.replicate 64 0⟩

def streamedRun : List (Action Nat) :=
  marketRun ++ openLease 0 ++
    [.call .root (.setTreasuryAccount 8), .call (.signed 5) (.streamSettle 0 (hourly 1 0)),
      .call (.signed 6) (.streamSettle 0 (hourly 2 3600)),
      .call (.signed 5) (.streamSettle 0 (hourly 1 0)),
      .call (.signed 5) (.completeAndPayout 0 (hourly 3 7200))]

theorem evidence_billed_once_streamed :
    let s := run step devGenesis streamedRun
    let billed := outputs step (accepted 0) devGenesis streamedRun
    billed.map MeteringSummary.sequence = [1, 2, 3] ∧ billed.Pairwise MeteringSummary.Before ∧
    (∀ e ∈ s.escrow.escrows.lookup 0,
      (billed.map MeteringSummary.periodLength).sum ≤ e.lastPeriodEnd) ∧
    ∀ acts', outputs step (accepted 0) s acts' = [] := by
  intro s billed
  obtain ⟨hordered, _, _, htotal, _, hafter⟩ :=
    evidence_billed_once (E := Env.runtime Host.constant) _ streamedRun 0
  have hstate : ∃ e ∈ s.escrow.escrows.lookup 0, e.state ≠ .funded := by decide +kernel
  obtain ⟨e, he, hne⟩ := hstate
  exact ⟨by decide +kernel, hordered, htotal, hafter e he hne⟩

end OpenInfra.Escrow
