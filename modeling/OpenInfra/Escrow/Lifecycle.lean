import OpenInfra.Escrow.Evidence

namespace OpenInfra.Escrow
open Frame List

variable {A Ledger : Type} [LinearOrder A] {E : Env A Ledger}
  {s t : Chain E} {e e' : EscrowRecord A} {l : LeaseId} {x : A}

/-- What was done to an escrow and the state this left it in. -/
abbrev Entry := Deed × EscrowState

def stateOf (s : Chain E) (l : LeaseId) : Option EscrowState :=
  (s.escrow.escrows.lookup l).map (·.state)

def entered (l : LeaseId) (s : Chain E) (a : Action A) : List Entry :=
  (deeds l s a).filterMap fun d => (stateOf (step s a) l).map (d, ·)

def Opening (path : List Entry) : Prop :=
  ∃ evidences : List MeteringSummary,
    path = (.fund, .funded) :: evidences.map fun evidence => (.stream evidence, .funded)

inductive Settles : Entry → Prop where
  | complete (evidence : MeteringSummary) : Settles (.complete evidence, .completed)
  | exhaust (evidence : MeteringSummary) : Settles (.stream evidence, .completed)
  | degrade (evidence : MeteringSummary) : Settles (.stream evidence, .degraded)
  | refund : Settles (.refund, .refunded)

structure EscrowRecord.Stage (e : EscrowRecord A) (state : EscrowState)
    (settled disputed : Bool) : Prop where
  state : e.state = state
  settled : e.settledAt.isSome = settled
  disputed : e.disputedOnce = disputed

inductive LifeCycle (e : EscrowRecord A) : List Entry → Prop where
  | funded {path : List Entry} (ho : Opening path) (he : e.Stage .funded false false) :
      LifeCycle e path
  | settled {path : List Entry} {d : Entry} (ho : Opening path) (hd : Settles d)
      (he : e.Stage d.2 true false) : LifeCycle e (path ++ [d])
  | disputed {path : List Entry} (ho : Opening path) (he : e.Stage .disputed false true) :
      LifeCycle e (path ++ [(.dispute, .disputed)])
  | reopened {path : List Entry} {d : Entry} (ho : Opening path) (hd : Settles d)
      (he : e.Stage .disputed true true) : LifeCycle e (path ++ [d, (.dispute, .disputed)])
  | resolved {path : List Entry} {outcome : DisputeOutcome} {final : EscrowState}
      (ho : Opening path) (hf : final = .completed ∨ final = .refunded)
      (he : e.Stage final true true) :
      LifeCycle e (path ++ [(.dispute, .disputed), (.resolve outcome, final)])
  | reresolved {path : List Entry} {d : Entry} {outcome : DisputeOutcome} {final : EscrowState}
      (ho : Opening path) (hd : Settles d) (hf : final = .completed ∨ final = .refunded)
      (he : e.Stage final true true) :
      LifeCycle e (path ++ [d, (.dispute, .disputed), (.resolve outcome, final)])

theorem Settles.state (h : Settles d) : d.2 = .completed ∨ d.2 = .refunded ∨ d.2 = .degraded := by
  cases h with
  | complete => exact .inl rfl
  | exhaust => exact .inl rfl
  | degrade => exact .inr (.inr rfl)
  | refund => exact .inr (.inl rfl)

variable {path : List Entry} {ds : List Deed} {blocks : List Nat}

theorem LifeCycle.of_funded (h : LifeCycle e path) (hs : e.state = .funded) :
    Opening path ∧ e.Stage .funded false false := by
  cases h with
  | funded ho he => exact ⟨ho, he⟩
  | settled ho hd he =>
    obtain hd | hd | hd := hd.state <;> cases hs.symm.trans (he.state.trans hd)
  | disputed ho he | reopened ho _ he => cases hs.symm.trans he.state
  | resolved ho hf he | reresolved ho _ hf he =>
    obtain rfl | rfl := hf <;> cases hs.symm.trans he.state

theorem Opening.stream (h : Opening path) (evidence : MeteringSummary) :
    Opening (path ++ [(.stream evidence, .funded)]) := by
  obtain ⟨evidences, rfl⟩ := h
  exact ⟨evidences ++ [evidence], by rw [map_append, cons_append]; rfl⟩

section
variable (evidence : MeteringSummary) (now charge : Nat)

theorem afterStream_stage (h : e.Stage .funded false false) :
    (e.afterStream now evidence charge).Stage .funded false false ∨
      (e.afterStream now evidence charge).Stage .completed true false ∨
      (e.afterStream now evidence charge).Stage .degraded true false := by
  unfold EscrowRecord.afterStream streamed
  dsimp only
  split
  · exact .inr (.inr ⟨rfl, rfl, h.disputed⟩)
  · split
    · exact .inr (.inl ⟨rfl, rfl, h.disputed⟩)
    · exact .inl ⟨h.state, h.settled, h.disputed⟩

end

theorem LifeCycle.of_undisputed (h : LifeCycle e path)
    (hs : e.state ≠ .funded) (hd : e.disputedOnce = false) :
    ∃ path' d, path = path' ++ [d] ∧ Opening path' ∧ Settles d ∧ e.Stage d.2 true false := by
  cases h with
  | funded _ he => exact absurd he.state hs
  | settled ho hd he => exact ⟨_, _, rfl, ho, hd, he⟩
  | disputed _ he | reopened _ _ he | resolved _ _ he | reresolved _ _ _ he =>
    cases hd.symm.trans he.disputed

theorem LifeCycle.dispute (h : LifeCycle e path) (hd : e.Disputable) :
    LifeCycle { e with state := .disputed, disputedOnce := true }
      (path ++ [(.dispute, .disputed)]) := by
  by_cases hs : e.state = .funded
  · obtain ⟨ho, he⟩ := h.of_funded hs
    exact .disputed ho ⟨rfl, he.settled, rfl⟩
  · obtain ⟨path', d, rfl, ho, hd, he⟩ := h.of_undisputed hs (hd.resolve_left hs).2
    rw [append_assoc]
    exact .reopened ho hd ⟨rfl, he.settled, rfl⟩

theorem LifeCycle.resolve (h : LifeCycle e path) (hs : e.state = .disputed)
    (outcome : DisputeOutcome) (now : Nat)
    (hf : r.finalState = .completed ∨ r.finalState = .refunded) :
    LifeCycle (e.afterResolution now r) (path ++ [(.resolve outcome, r.finalState)]) := by
  cases h with
  | funded _ he => cases hs.symm.trans he.state
  | settled _ hd he =>
    obtain hd | hd | hd := hd.state <;> cases hs.symm.trans (he.state.trans hd)
  | disputed ho he =>
    rw [append_assoc]
    exact .resolved ho hf ⟨rfl, rfl, he.disputed⟩
  | reopened ho hd he =>
    rw [append_assoc]
    exact .reresolved ho hd hf ⟨rfl, rfl, he.disputed⟩
  | resolved _ hf' he | reresolved _ _ hf' he =>
    obtain rfl | rfl := hf' <;> cases hs.symm.trans he.state

structure Lived (l : LeaseId) (s : Chain E) (path : List Entry) : Prop where
  unfunded : s.escrow.escrows.lookup l = none → path = []
  life : ∀ e ∈ s.escrow.escrows.lookup l, LifeCycle e path

theorem Lived.put (ht : t.escrow.escrows.lookup l = some e)
    (hl : LifeCycle e (path ++ [(d, e.state)])) :
    Lived l t (path ++ [d].filterMap fun d => (stateOf t l).map (d, ·)) := by
  have hst : stateOf t l = some e.state := by rw [stateOf, ht, Option.map_some]
  rw [hst]
  constructor
  · intro hnone
    cases hnone.symm.trans ht
  · intro r hr
    cases ht.symm.trans hr
    exact hl

theorem Lived.step (h : Lived l s path) (hr : RecordStep l s t ds) :
    Lived l t (path ++ ds.filterMap fun d => (stateOf t l).map (d, ·)) := by
  cases hr with
  | same ht =>
    rw [filterMap_nil, append_nil]
    exact ⟨by rw [ht]; exact h.unfunded, by rw [ht]; exact h.life⟩
  | fund e hs hfresh ht =>
    obtain rfl := h.unfunded hs
    apply Lived.put ht
    rw [hfresh.state]
    exact .funded ⟨[], rfl⟩ ⟨hfresh.state, by rw [hfresh.settledAt]; rfl, hfresh.disputedOnce⟩
  | stream evidence e charge hs hfunded _ ht =>
    obtain ⟨ho, he⟩ := (h.life e hs).of_funded hfunded
    apply Lived.put ht
    obtain hst | hst | hst := afterStream_stage evidence s.blockNumber charge he
    · rw [hst.state]
      exact .funded (ho.stream evidence) hst
    · rw [hst.state]
      exact .settled ho (.exhaust evidence) hst
    · rw [hst.state]
      exact .settled ho (.degrade evidence) hst
  | complete evidence e charge hs hfunded _ ht =>
    obtain ⟨ho, he⟩ := (h.life e hs).of_funded hfunded
    apply Lived.put ht
    exact .settled ho (.complete evidence) ⟨rfl, rfl, he.disputed⟩
  | refund e hs hfunded _ ht =>
    obtain ⟨ho, he⟩ := (h.life e hs).of_funded hfunded
    apply Lived.put ht
    exact .settled ho .refund ⟨rfl, rfl, he.disputed⟩
  | dispute e hs hd ht =>
    apply Lived.put ht
    exact (h.life e hs).dispute hd
  | resolve outcome e r hs hdisputed hf ht =>
    apply Lived.put ht
    exact (h.life e hs).resolve hdisputed outcome s.blockNumber hf

def Deed.isResolve : Deed → Bool
  | .resolve _ => true
  | _ => false

def disputes (path : List Entry) : Nat := path.countP fun d => d.2 = .disputed

def resolutions (path : List Entry) : Nat := path.countP fun d => d.1.isResolve

theorem Opening.counts (h : Opening path) : disputes path = 0 ∧ resolutions path = 0 := by
  obtain ⟨evidences, rfl⟩ := h
  constructor
  all_goals
    apply countP_eq_zero.2
    intro d hd
    obtain rfl | hd := mem_cons.1 hd
    · exact nofun
    · obtain ⟨evidence, _, rfl⟩ := mem_map.1 hd
      exact nofun

theorem Opening.counts_append {path tail : List Entry} (h : Opening path)
    (hd : disputes tail ≤ 1) (hr : resolutions tail ≤ 1) :
    disputes (path ++ tail) ≤ 1 ∧ resolutions (path ++ tail) ≤ 1 := by
  obtain ⟨hd', hr'⟩ := h.counts
  unfold disputes resolutions at *
  rw [countP_append, countP_append, hd', hr', Nat.zero_add, Nat.zero_add]
  exact ⟨hd, hr⟩

theorem LifeCycle.counts (h : LifeCycle e path) : disputes path ≤ 1 ∧ resolutions path ≤ 1 := by
  cases h with
  | funded ho =>
    obtain ⟨hd, hr⟩ := ho.counts
    rw [hd, hr]
    exact ⟨Nat.zero_le _, Nat.zero_le _⟩
  | settled ho hd =>
    apply ho.counts_append <;> cases hd <;> exact Nat.zero_le _
  | disputed ho => exact ho.counts_append le_rfl (Nat.zero_le _)
  | reopened ho hd =>
    apply ho.counts_append <;> cases hd <;> first | exact le_rfl | exact Nat.zero_le _
  | resolved ho hf =>
    obtain rfl | rfl := hf <;> exact ho.counts_append le_rfl le_rfl
  | reresolved ho hd hf =>
    apply ho.counts_append <;> cases hd <;> obtain rfl | rfl := hf <;> exact le_rfl

def Deed.isActivity : Deed → Bool
  | .fund => true
  | .stream _ => true
  | _ => false

def activity (l : LeaseId) (s : Chain E) (a : Action A) : List Nat :=
  ((deeds l s a).filter Deed.isActivity).map fun _ => s.blockNumber

structure Anchored (l : LeaseId) (s : Chain E) (blocks : List Nat) : Prop where
  now : s.blockNumber ≤ maxValue 32
  past : ∀ b ∈ blocks, b ≤ s.blockNumber
  anchor : ∀ e ∈ s.escrow.escrows.lookup l, ∀ b ∈ blocks, b ≤ e.livenessAnchor

theorem afterStream_livenessAnchor (e : EscrowRecord A) (now : Nat)
    (evidence : MeteringSummary) (charge : Nat) :
    (e.afterStream now evidence charge).livenessAnchor = now := by
  unfold EscrowRecord.afterStream streamed EscrowRecord.livenessAnchor
  dsimp only
  split
  · rfl
  · split <;> rfl

theorem Anchored.keep (h : Anchored l s blocks)
    (hb : s.blockNumber ≤ t.blockNumber ∧ t.blockNumber ≤ maxValue 32)
    (hs : s.escrow.escrows.lookup l = some e) (ht : t.escrow.escrows.lookup l = some e')
    (he : e'.livenessAnchor = e.livenessAnchor) : Anchored l t blocks := by
  refine ⟨hb.2, fun b hm => (h.past b hm).trans hb.1, ?_⟩
  intro r hr
  cases ht.symm.trans hr
  rw [he]
  exact h.anchor e hs

theorem Anchored.act (h : Anchored l s blocks)
    (hb : s.blockNumber ≤ t.blockNumber ∧ t.blockNumber ≤ maxValue 32)
    (ht : t.escrow.escrows.lookup l = some e) (he : e.livenessAnchor = s.blockNumber) :
    Anchored l t (blocks ++ [s.blockNumber]) := by
  have hpast (b : Nat) (hm : b ∈ blocks ++ [s.blockNumber]) : b ≤ s.blockNumber := by
    obtain hm | hm := mem_append.1 hm
    · exact h.past b hm
    · exact (mem_singleton.1 hm).le
  refine ⟨hb.2, fun b hm => (hpast b hm).trans hb.1, ?_⟩
  intro r hr
  cases ht.symm.trans hr
  rw [he]
  exact hpast

theorem Anchored.step (h : Anchored l s blocks)
    (hb : s.blockNumber ≤ t.blockNumber ∧ t.blockNumber ≤ maxValue 32) (hr : RecordStep l s t ds) :
    Anchored l t (blocks ++ (ds.filter Deed.isActivity).map fun _ => s.blockNumber) := by
  cases hr with
  | same ht =>
    rw [filter_nil, map_nil, append_nil]
    refine ⟨hb.2, fun b hm => (h.past b hm).trans hb.1, ?_⟩
    rw [ht]
    exact h.anchor
  | fund e _ hfresh ht =>
    apply h.act hb ht
    rw [EscrowRecord.livenessAnchor, hfresh.streamedAt, hfresh.fundedAt, Option.getD_none]
  | stream evidence e charge _ _ _ ht => exact h.act hb ht (afterStream_livenessAnchor ..)
  | complete _ e _ hs _ _ ht | refund e hs _ _ ht | dispute e hs _ ht | resolve _ e _ hs _ _ ht =>
    change Anchored l t (blocks ++ [])
    rw [append_nil]
    exact h.keep hb hs ht rfl

theorem Anchored.refund (h : Anchored l s blocks) (a : Action A)
    (ha : .refund ∈ deeds l s a) : ∀ b ∈ blocks,
      b + E.config.escrowRefundWindow ≤ s.blockNumber ∨ s.blockNumber = maxValue 32 := by
  intro b hm
  have hr := recordStep l s a
  generalize deeds l s a = ds at hr ha
  cases hr with
  | refund e hs _ hwindow _ =>
    have hb := h.anchor e hs b hm
    have hnow := h.now
    unfold saturatingAdd at hwindow
    omega
  | _ => simp only [not_mem_nil, mem_singleton, reduceCtorEq] at ha

structure Frozen (s : Chain E) (a : Action A) (t : Chain E) : Prop where
  escrows : t.escrow.escrows = s.escrow.escrows
  counters : t.escrow.payerOpenEscrowCount = s.escrow.payerOpenEscrowCount
  ledger : .escrow ∈ a.writes → t.ledger = s.ledger

theorem paused_dispatch (hp : s.escrow.escrowPaused) (o : Origin A) (c : Call A) :
    Yields (dispatch s o c) (Frozen s (.call o c)) := by
  have habsurd {u : Unit} {err : DispatchError} {P : Prop}
      (h : ensure (¬ s.escrow.escrowPaused) err = .ok u) : P :=
    absurd hp (ensure_eq_ok.1 h)
  by_cases hw : Pallet.escrow ∈ c.writes
  · cases c with
    | fundEscrow | completeAndPayout | refundEscrow | disputeEscrow | resolveEscrowDispute |
      streamSettle => exact .bind fun _ _ => .bind fun _ h => habsurd h
    | setPaused => exact .bind fun _ _ => .ok ⟨rfl, rfl, fun _ => rfl⟩
    | setFeeBasisPoints => exact .bind fun _ _ => .bind fun _ _ => .ok ⟨rfl, rfl, fun _ => rfl⟩
    | setTreasuryAccount => exact .bind fun _ _ => .ok ⟨rfl, rfl, fun _ => rfl⟩
    | _ => simp [Call.writes] at hw
  · intro t ht
    have he : t.escrow = s.escrow := (dispatch_writes c t ht).same _ hw
    exact ⟨by rw [he], by rw [he], fun ha => absurd ha hw⟩

theorem paused_step (hp : s.escrow.escrowPaused) (a : Action A) :
    Frozen s a (step s a) := by
  cases a with
  | blocks count => exact ⟨rfl, rfl, fun _ => rfl⟩
  | call o c => exact (paused_dispatch hp o c).commit ⟨rfl, rfl, fun _ => rfl⟩

theorem paused_reserved (hC : E.currency.Lawful) (h : Orderly s x) (hx : IsOpenPayer s x)
    (hp : s.escrow.escrowPaused) (a : Action A) : (step s a).reserved x = s.reserved x := by
  have hstep := holding_step hC h.sound a x
  apply hstep.reserved_of_drafts h.exclusive h.counted hx.openCaps_ne_zero
  change openCaps (step s a) x = openCaps s x
  rw [openCaps, (paused_step hp a).escrows, openCaps]

theorem record_of_no_deed (h : deeds l s a = []) :
    (step s a).escrow.escrows.lookup l = s.escrow.escrows.lookup l := by
  have hr := recordStep l s a
  rw [h] at hr
  cases hr with
  | same ht => exact ht

/-- The life cycle, the earliest refund and what a pause freezes. -/
theorem escrow_life_cycle (hC : E.currency.Lawful) (L : Ledger) (acts : List (Action A))
    (l : LeaseId) :
    let s := run step (genesis E L) acts
    let path := outputs step (entered l) (genesis E L) acts
    ((s.escrow.escrows.lookup l = none → path = []) ∧
      (∀ e ∈ s.escrow.escrows.lookup l, LifeCycle e path) ∧
      disputes path ≤ 1 ∧ resolutions path ≤ 1 ∧
      ∀ a, deeds l s a = [] →
        (step s a).escrow.escrows.lookup l = s.escrow.escrows.lookup l) ∧
    (∀ a, .refund ∈ deeds l s a → ∀ b ∈ outputs step (activity l) (genesis E L) acts,
      b + E.config.escrowRefundWindow ≤ s.blockNumber ∨ s.blockNumber = maxValue 32) ∧
    (s.escrow.escrowPaused → ∀ a, Frozen s a (step s a) ∧
      ∀ x, IsOpenPayer s x → Throughout step (EscrowsCountable · x) (genesis E L) acts →
        (step s a).reserved x = s.reserved x) := by
  intro s path
  have hrun : Throughout step (fun _ => True) (genesis E L) acts := .true _ acts
  have hbegin : Lived l (genesis E L) [] := ⟨fun _ => rfl, fun e he => by cases he⟩
  have hlived : Lived l s path :=
    hrun.outputs_invariant hbegin fun s a out hs _ _ => hs.step (recordStep l s a)
  have hidle : Anchored l (genesis E L) [] := ⟨Nat.zero_le _, nofun, fun _ _ => nofun⟩
  have hanchored : Anchored l s (outputs step (activity l) (genesis E L) acts) :=
    hrun.outputs_invariant hidle fun s a out hs _ _ =>
      hs.step (step_blockNumber hs.now a) (recordStep l s a)
  have hcounts : disputes path ≤ 1 ∧ resolutions path ≤ 1 := by
    cases he : s.escrow.escrows.lookup l with
    | none =>
      rw [hlived.unfunded he]
      exact ⟨Nat.zero_le _, Nat.zero_le _⟩
    | some e => exact (hlived.life e he).counts
  refine ⟨⟨hlived.unfunded, hlived.life, hcounts.1, hcounts.2, fun a => record_of_no_deed⟩,
    fun a => hanchored.refund a, ?_⟩
  intro hp a
  refine ⟨paused_step hp a, ?_⟩
  intro x hx hcount
  exact paused_reserved hC (orderly_of_countable hC hcount) hx hp a

def resolvedRun : List (Action Nat) :=
  streamedRun ++ [.call (.signed 1) (.disputeEscrow 0 (List.Vector.replicate 32 0)),
    .call .root (.resolveEscrowDispute 0 .refundPayer)]

theorem escrow_life_cycle_resolved :
    let s := run step devGenesis resolvedRun
    let path := outputs step (entered 0) devGenesis resolvedRun
    path.map Prod.snd = [.funded, .funded, .funded, .completed, .disputed, .refunded] ∧
    (∀ e ∈ s.escrow.escrows.lookup 0, LifeCycle e path) ∧
    disputes path ≤ 1 ∧ resolutions path ≤ 1 := by
  intro s path
  obtain ⟨⟨_, hlife, hd, hr, _⟩, _⟩ :=
    escrow_life_cycle (E := Env.runtime Host.constant) Balances.currency_lawful _ resolvedRun 0
  exact ⟨by decide +kernel, hlife, hd, hr⟩

def lateRun : List (Action Nat) :=
  marketRun ++ [.call (.signed 1) (.createLease 0 9 (List.Vector.replicate 32 0) 10),
    .blocks (2 ^ 32), .call (.signed 1) (.fundEscrow 0 9 100 ⟨1, 1, 1, 1⟩ 1)]

theorem late_refund_without_window :
    let s := run step devGenesis lateRun
    (dispatch s (.signed 1) (.refundEscrow 0)).isOk ∧
      (s.escrow.escrows.lookup 0).map (·.fundedAt) = some s.blockNumber ∧
      0 < Config.runtime.escrowRefundWindow := by
  decide +kernel

end OpenInfra.Escrow
