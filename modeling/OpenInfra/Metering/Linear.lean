import OpenInfra.Metering.Isolation

namespace OpenInfra.Metering
open Frame List Function
open ControlPlane (Uuid Time)

/-- The committed tables come from the decisions in the order of their commits. -/
structure Consistent (lib : Library) (w : World) : Prop where
  sound : w.store.Sound schema
  checked : ∀ d ∈ w.store.drafts, d.2.check
  drafting : ∀ d ∈ w.store.drafts, d.1 < w.arrivals.length
  serial : Serial w.history w.store.committed
  submitted : ∀ e ∈ w.history, ∃ arrival, w.arrivals[e.tx]? = some arrival ∧
    Submits lib arrival e.key e.request
  once : (w.history.map Entry.tx).Nodup

namespace Consistent
variable {lib : Library} {w : World} {tx : Nat}

theorem init (lib : Library) : Consistent lib .init :=
  ⟨⟨forall_mem_nil _, forall_mem_nil _, .nil⟩, forall_mem_nil _,
    forall_mem_nil _, .nil, forall_mem_nil _, .nil⟩

section
variable (h : Consistent lib w)
include h

theorem lock (hbusy : ¬ w.store.busy tx key) :
    Consistent lib { w with store := w.store.lock tx key } :=
  ⟨h.sound.lock hbusy, h.checked, h.drafting, h.serial, h.submitted, h.once⟩

theorem draft (htx : tx < w.arrivals.length)
    (hlock : w.store.locks row.key = some tx) (hfresh : ¬ (w.visible tx).taken row)
    (hothers : ¬ w.store.contested schema tx row) (hcheck : row.check) :
    Consistent lib { w with store := w.store.draft tx row } := by
  refine ⟨h.sound.draft hlock hfresh hothers, ?_, ?_, h.serial, h.submitted, h.once⟩
  · intro d hd
    obtain hd | hd := mem_append.1 hd
    · exact h.checked d hd
    · cases mem_singleton.1 hd
      exact hcheck
  · intro d hd
    obtain hd | hd := mem_append.1 hd
    · exact h.drafting d hd
    · cases mem_singleton.1 hd
      exact htx

theorem setCursor (htx : tx < w.arrivals.length)
    (hbusy : ¬ w.store.busy tx key) : Consistent lib (w.setCursor tx key n) := by
  refine (h.lock hbusy).draft htx (update_self ..) Tables.not_taken_cursor ?_ rfl
  rintro ⟨⟨_, v⟩, _, _, hclash⟩
  cases v <;> exact hclash

theorem release (tx : Nat) : Consistent lib { w with store := w.store.release tx } :=
  ⟨h.sound.release tx, fun d hd => h.checked d (mem_filter.1 hd).1,
    fun d hd => h.drafting d (mem_filter.1 hd).1, h.serial, h.submitted, h.once⟩

theorem commit (hundecided : Undecided w tx)
    (harrival : w.arrivals[tx]? = some arrival) (hsubmits : Submits lib arrival key request)
    (haccept : w.store.committed.acceptEvidence key request evidenceID invoiceLineID =
      .ok (result, w.visible tx)) :
    Consistent lib { w with
      store := w.store.commit schema tx
      history := w.history ++ [⟨tx, key, request, result⟩] } := by
  refine ⟨h.sound.commit tx, fun d hd => h.checked d (mem_filter.1 hd).1,
    fun d hd => h.drafting d (mem_filter.1 hd).1, .snoc h.serial haccept, ?_, ?_⟩
  · intro e he
    obtain he | he := mem_append.1 he
    · exact h.submitted e he
    · cases mem_singleton.1 he
      exact ⟨arrival, harrival, hsubmits⟩
  · rw [map_append]
    refine nodup_append.2 ⟨h.once, nodup_singleton _, ?_⟩
    intro a ha b hb
    obtain ⟨e, he, rfl⟩ := mem_map.1 ha
    cases mem_singleton.1 hb
    exact hundecided e he

end

end Consistent

namespace Holding
variable {w : World} {writes : List Write}

section
variable (h : Holding w tx key last writes)
include h

theorem visible :
    w.visible tx = writes.foldl Tables.apply (w.store.committed.ensureCursor key) := by
  obtain ⟨base, hrooted, hown⟩ := h.own
  unfold World.visible Transactions.visible
  rw [hown, foldl_append, ← hrooted.foldl]

theorem cursor : (w.store.committed.ensureCursor key).cursors key = some last := by
  obtain ⟨_, hrooted, _⟩ := h.own
  exact hrooted.cursor

theorem getD_cursor : ((w.store.committed.ensureCursor key).cursors key).getD 0 = last := by
  rw [h.cursor]
  rfl

theorem mem_drafts (hv : v ∈ writes) : (tx, v) ∈ w.store.drafts := by
  obtain ⟨base, _, hown⟩ := h.own
  apply Transactions.mem_own.1
  rw [hown]
  exact mem_append_right _ hv

theorem draft (row : Write) :
    Holding { w with store := w.store.draft tx row } tx key last (writes ++ [row]) := by
  obtain ⟨base, hrooted, hown⟩ := h.own
  refine ⟨h.undecided, h.lock, base, hrooted, ?_⟩
  rw [Transactions.own_draft_self, hown, append_assoc]

end

theorem setCursor (h : Holding w tx key last []) (n : Nat) :
    Holding (w.setCursor tx key n) tx key last [.cursor key n] := by
  have hlock : Holding { w with store := w.store.lock tx key } tx key last [] :=
    ⟨h.undecided, update_self .., h.own⟩
  exact hlock.draft _

end Holding

theorem Tables.findEvidence_ensureCursor (t : Tables) (key : CursorKey) :
    (t.ensureCursor key).findEvidence = t.findEvidence := by
  funext key' n
  unfold findEvidence
  rw [ensureCursor_evidence]

theorem Tables.findInvoiceLine_ensureCursor (t : Tables) (key : CursorKey) :
    (t.ensureCursor key).findInvoiceLine = t.findInvoiceLine := by
  funext evidenceID
  unfold findInvoiceLine
  rw [ensureCursor_invoiceLines]

theorem Holding.stale (h : Holding w tx key last []) (hstale : request.sequence.toNat ≤ last)
    (hclassify : w.store.committed.classifyStaleSequence key request = .ok result) :
    w.store.committed.acceptEvidence key request 0 0 = .ok (result, w.visible tx) := by
  unfold Tables.acceptEvidence
  dsimp only
  rw [h.getD_cursor, if_pos hstale, Tables.classifyStaleSequence_ensureCursor, hclassify, h.visible]
  rfl

theorem Decides.acceptEvidence (hw : Consistent lib w) (hk : Known w tx phase)
    (h : Decides phase key request result) :
    ∃ evidenceID invoiceLineID, Undecided w tx ∧
      w.store.committed.acceptEvidence key request evidenceID invoiceLineID =
        .ok (result, w.visible tx) := by
  cases h with
  | outOfOrder hstale =>
    refine ⟨0, 0, hk.1.undecided, hk.1.stale hstale ?_⟩
    unfold Tables.classifyStaleSequence
    rw [hk.2]
  | conflicting hstale hhash =>
    refine ⟨0, 0, hk.1.undecided, hk.1.stale hstale ?_⟩
    unfold Tables.classifyStaleSequence
    rw [hk.2]
    exact if_pos hhash
  | duplicate hstale hhash =>
    refine ⟨0, 0, hk.1.undecided, hk.1.stale hstale ?_⟩
    unfold Tables.classifyStaleSequence
    rw [hk.2.1]
    refine (if_neg (not_not.2 hhash)).trans ?_
    rw [hk.2.2]
    rfl
  | @accepted last _ _ evidenceID invoiceLineID hfresh =>
    have hadmitted {v} (hv : (tx, v) ∈ w.store.drafts) :
        ¬ w.store.committed.taken v ∧ v.check :=
      ⟨hw.sound.fresh _ hv, hw.checked _ hv⟩
    have hrow := hadmitted (hk.mem_drafts (mem_cons_of_mem _ mem_cons_self))
    have hline := hadmitted
      (hk.mem_drafts (mem_cons_of_mem _ (mem_cons_of_mem _ mem_cons_self)))
    refine ⟨evidenceID, invoiceLineID, hk.undecided, ?_⟩
    unfold Tables.acceptEvidence
    dsimp only
    rw [hk.getD_cursor, if_neg (Nat.not_le.2 hfresh)]
    refine bind_eq_ok.2 ⟨_, Tables.insert_eq_ok.2 ⟨?_, hrow.2, rfl⟩, ?_⟩
    · rw [Tables.taken_apply, Tables.ensureCursor_taken]
      exact not_or.2 ⟨hrow.1, id⟩
    refine bind_eq_ok.2 ⟨_, Tables.insert_eq_ok.2 ⟨?_, hline.2, rfl⟩, ?_⟩
    · rw [Tables.taken_apply, Tables.taken_apply, Tables.ensureCursor_taken]
      exact not_or.2 ⟨not_or.2 ⟨hline.1, id⟩, id⟩
    rw [hk.visible]
    rfl

structure Orderly (lib : Library) (tx : Nat) (w w' : World) : Prop where
  consistent : Consistent lib w'
  apart : Apart tx w w'
  arrivals : w'.arrivals = w.arrivals

theorem Orderly.refl (hw : Consistent lib w) (tx : Nat) : Orderly lib tx w w :=
  ⟨hw, .of_store (.refl schema tx _) rfl, rfl⟩

theorem Orderly.setCursor (hw : Consistent lib w) (htx : tx < w.arrivals.length)
    (hbusy : ¬ w.store.busy tx key) : Orderly lib tx w (w.setCursor tx key n) := by
  have hlock := Transactions.Aside.lock (D := schema) hbusy
  have hdraft := Transactions.Aside.draft schema tx (w.store.lock tx key) (.cursor key n)
  refine ⟨hw.setCursor htx hbusy, .of_store ⟨?_, ?_, [], rfl, forall_mem_nil _⟩ rfl, rfl⟩
  · intro m hm
    exact (hdraft.own m hm).trans (hlock.own m hm)
  · intro m key' hm hkey
    exact hdraft.locks m key' hm (hlock.locks m key' hm hkey)

section
variable {w w' : World} {tx : Nat} (hw : Consistent lib w) (htx : tx < w.arrivals.length)
include hw htx

theorem insert_spec (h : w.insert tx row = .ok (a, w')) (hh : Holding w tx row.key last writes)
    (hothers : ¬ w.store.drafts.any fun d => d.1 ≠ tx ∧ d.2.clashes row) :
    Orderly lib tx w w' ∧ Holding w' tx row.key last (writes ++ [row]) := by
  unfold World.insert at h
  split at h
  · cases h
  · next hadmitted =>
    cases h
    obtain ⟨hfresh, hcheck⟩ := not_or.1 hadmitted
    have hcontested : ¬ w.store.contested schema tx row := by
      rintro ⟨d, hd, hne, hclash⟩
      exact hothers (any_eq_true.2 ⟨d, hd, decide_eq_true ⟨hne, hclash⟩⟩)
    exact ⟨⟨hw.draft htx hh.lock hfresh hcontested (not_not.1 hcheck),
      .of_store (.draft schema tx _ row) rfl, rfl⟩, hh.draft row⟩

theorem insertCursor_spec (hk : Known w tx .outside) (hwaits : ¬ w.waits tx (.insertCursor key))
    (h : w.perform tx (.insertCursor key) = .ok (a, w')) :
    Orderly lib tx w w' ∧ Known w' tx (.entered key) := by
  have hvisible : w.visible tx = w.store.committed := by
    unfold World.visible Transactions.visible
    rw [hk.2]
    rfl
  dsimp only [World.perform] at h
  rw [hvisible] at h
  split at h
  · next hnone =>
    cases h
    have hbusy : ¬ w.store.busy tx key := fun hb => hwaits (decide_eq_true ⟨hnone, hb⟩)
    refine ⟨.setCursor hw htx hbusy, hk.1, .inr ⟨hk.1, update_self .., _, .made hnone, ?_⟩⟩
    refine Transactions.own_draft_self.trans ?_
    exact congrArg (· ++ _) hk.2
  · next hsome =>
    cases h
    exact ⟨.refl hw tx, hk.1, .inl ⟨Option.isSome_iff_ne_none.2 hsome, hk.2⟩⟩

omit htx in
theorem lockCursor_spec (hk : Known w tx (.entered key)) (hwaits : ¬ w.waits tx (.lockCursor key))
    (h : w.perform tx (.lockCursor key) = .ok (last, w')) :
    Orderly lib tx w w' ∧ Known w' tx (.locked key last) := by
  obtain ⟨last', base, hrooted, hown⟩ : ∃ last' base, Rooted w.store.committed key last' base ∧
      w.store.own tx = base ++ [] := by
    obtain ⟨hsome, hown⟩ | hh := hk.2
    · obtain ⟨last', hlast⟩ := Option.isSome_iff_exists.1 hsome
      exact ⟨last', [], .found hlast, hown⟩
    · exact ⟨0, hh.own⟩
  have hvisible : (w.visible tx).cursors key = some last' := by
    unfold World.visible Transactions.visible
    rw [hown, append_nil, hrooted.foldl]
    exact hrooted.cursor
  dsimp only [World.perform] at h
  rw [hvisible] at h
  cases h
  exact ⟨⟨hw.lock hwaits, .of_store (.lock hwaits) rfl, rfl⟩, hk.1, update_self .., base,
    hrooted, hown⟩

theorem updateCursor_spec (hk : Known w tx (.locked key last))
    (hwaits : ¬ w.waits tx (.updateCursor key n))
    (h : w.perform tx (.updateCursor key n) = .ok (a, w')) :
    Orderly lib tx w w' ∧ Known w' tx (.drafted key last [.cursor key n]) := by
  have hvisible : (w.visible tx).cursors key = some last := by
    rw [Holding.visible hk]
    exact Holding.cursor hk
  dsimp only [World.perform] at h
  rw [hvisible, if_neg nofun] at h
  cases h
  exact ⟨.setCursor hw htx hwaits, Holding.setCursor hk n⟩

end

theorem perform_spec {st : Statement} {a : st.Reply} (hw : Consistent lib w)
    (harrival : w.arrivals[ticket.id]? = some (ticket.providerID, ticket.response))
    (hk : Known w ticket.id phase) (ha : Allowed lib ticket phase (.statement st))
    (hwaits : ¬ w.waits ticket.id st) (h : w.perform ticket.id st = .ok (a, w')) :
    Orderly lib ticket.id w w' ∧ Known w' ticket.id (phase.after st a) := by
  have htx := (List.getElem?_eq_some_iff.1 harrival).1
  cases st with
  | beginTx =>
    cases h
    exact ⟨.refl hw _, hk⟩
  | insertCursor key =>
    cases ha
    exact insertCursor_spec hw htx hk hwaits h
  | lockCursor key =>
    cases ha
    exact lockCursor_spec hw hk hwaits h
  | findEvidence key n =>
    obtain ⟨last, rfl⟩ := ha
    cases h
    refine ⟨.refl hw _, hk, ?_⟩
    rw [Holding.visible hk]
    exact (congrFun₂ (Tables.findEvidence_ensureCursor ..) key n).symm
  | findInvoiceLine evidenceID =>
    obtain ⟨key, last, n, existingHash, rfl⟩ := ha
    dsimp only [World.perform] at h
    split at h
    · cases h
    · next found hfound =>
      cases h
      rw [hk.1.visible] at hfound
      exact ⟨.refl hw _, hk.1, hk.2,
        (congrFun (Tables.findInvoiceLine_ensureCursor ..) evidenceID).symm.trans hfound⟩
  | updateCursor key n =>
    obtain ⟨last, rfl⟩ := ha
    exact updateCursor_spec hw htx hk hwaits h
  | insertEvidence row =>
    obtain ⟨last, writes, rfl⟩ := ha
    exact insert_spec hw htx h hk hwaits
  | insertInvoiceLine line =>
    obtain ⟨last, writes, rfl⟩ := ha
    exact insert_spec hw htx h hk hwaits
  | commit key request result =>
    cases h
    obtain ⟨evidenceID, invoiceLineID, hundecided, haccept⟩ := ha.1.acceptEvidence hw hk
    refine ⟨⟨hw.commit hundecided harrival ha.2 haccept, ⟨.commit hw.sound, ?_, ?_⟩, rfl⟩,
      mem_append_right _ (mem_singleton_self _)⟩
    · exact prefix_append ..
    · intro e he
      refine (mem_append.1 he).imp_right fun he => ?_
      cases mem_singleton.1 he
      rfl
  | rollback =>
    cases h
    exact ⟨⟨hw.release _, .of_store (.release schema _ _) rfl, rfl⟩, trivial⟩
  | recordRejection rejection =>
    cases h
    exact ⟨⟨⟨hw.sound, hw.checked, hw.drafting, hw.serial, hw.submitted, hw.once⟩,
      .of_store (.refl schema _ _) rfl, rfl⟩, hk.congr rfl rfl⟩

theorem Known.failed {st : Statement} (hk : Known w tx phase)
    (h : w' = w ∨ ∃ a : st.Reply, w.perform tx st = .ok (a, w')) :
    Known w' tx (phase.failed st) := by
  cases st with
  | beginTx =>
    obtain rfl | ⟨_, h⟩ := h
    · exact hk
    · cases h
      exact hk
  | recordRejection rejection =>
    obtain rfl | ⟨_, h⟩ := h
    · exact hk
    · cases h
      exact hk.congr rfl rfl
  | _ => trivial

theorem answer_spec (env : Env) (hw : Consistent lib w)
    (harrival : w.arrivals[ticket.id]? = some (ticket.providerID, ticket.response))
    (hk : Known w ticket.id phase) (ha : Allowed lib ticket phase q)
    (hwaits : ∀ st, q = .statement st → ¬ w.waits ticket.id st) :
    Orderly lib ticket.id w (World.answer env w ticket q).2 ∧
      Known (World.answer env w ticket q).2 ticket.id
        (phase.next q (World.answer env w ticket q).1) := by
  cases q with
  | statement st =>
    dsimp only [World.answer]
    obtain ⟨hsame, herror⟩ | ⟨a, w', hperform, hw', hok⟩ :=
      env.link.deliver_cases w .database (w.perform ticket.id st)
    · rw [hsame]
      cases hr : (env.link.deliver w .database (w.perform ticket.id st)).1 with
      | error e => exact ⟨.refl hw _, hk.failed (.inl rfl)⟩
      | ok a => exact absurd hr (herror a)
    · rw [hw']
      obtain ⟨horderly, hknown⟩ := perform_spec hw harrival hk ha (hwaits st rfl) hperform
      refine ⟨horderly, ?_⟩
      cases hr : (env.link.deliver w .database (w.perform ticket.id st)).1 with
      | error e => exact hk.failed (.inr ⟨a, hperform⟩)
      | ok b =>
        cases hok b hr
        exact hknown
  | now => exact ⟨.refl hw _, hk⟩
  | newUUID => exact ⟨.refl hw _, hk⟩
  | providerPublicKey providerID => exact ⟨.refl hw _, hk⟩
  | workload workloadID => exact ⟨.refl hw _, hk⟩

@[reducible] def rules (lib : Library) :
    Rules World Ticket Query Reply (Except Failure Result) where
  protocol := conduct lib
  known w ticket phase := Known w ticket.id phase
  ends _ := Ends

structure Regular (lib : Library) (s : State) : Prop where
  consistent : Consistent lib s.world
  arrived : ∀ ticket ∈ s.keys,
    s.world.arrivals[ticket.id]? = some (ticket.providerID, ticket.response)
  distinct : (s.keys.map Ticket.id).Nodup
  obey : s.Obey (rules lib)

namespace Regular
variable {lib : Library} {s : State}

theorem init (lib : Library) : Regular lib State.init :=
  ⟨.init lib, forall_mem_nil _, .nil, fun _ ht => absurd ht not_mem_nil⟩

section
variable (h : Regular lib s)
include h

theorem answer (env : Env) (hwaits : ¬ s.waits i)
    (hr : s.request i = some (ticket, q)) (hk : Known s.world ticket.id phase)
    (ha : Allowed lib ticket phase q) :
    Orderly lib ticket.id s.world (World.answer env s.world ticket q).2 ∧
      Known (World.answer env s.world ticket q).2 ticket.id
        (phase.next q (World.answer env s.world ticket q).1) := by
  obtain ⟨k, hi⟩ := Workers.request_eq_some.1 hr
  have hticket : ticket ∈ s.keys := mem_map.2 ⟨_, mem_of_getElem? hi, rfl⟩
  refine answer_spec env h.consistent (h.arrived ticket hticket) hk ha ?_
  rintro st rfl hst
  unfold State.waits at hwaits
  rw [hr] at hwaits
  exact hwaits hst

theorem orderly (env : Env) (hwaits : ¬ s.waits i) (hr : s.request i = some (ticket, q)) :
    Orderly lib ticket.id s.world (World.answer env s.world ticket q).2 := by
  obtain ⟨phase, hk, ha⟩ := h.obey.allows hr
  exact (h.answer env hwaits hr hk ha).1

theorem proceed (env : Env) (hwaits : ¬ s.waits i) :
    Regular lib (s.proceed (World.answer env) i) := by
  refine ⟨?_, ?_, ?_, ?_⟩
  · exact Workers.proceed_world (P := Consistent lib) h.consistent
      fun ticket q hr => (h.orderly env hwaits hr).consistent
  · rw [Workers.keys_proceed]
    refine Workers.proceed_world (P := fun w : World => ∀ ticket ∈ s.keys,
      w.arrivals[ticket.id]? = some (ticket.providerID, ticket.response)) h.arrived ?_
    intro ticket q hr
    rw [(h.orderly env hwaits hr).arrivals]
    exact h.arrived
  · rw [Workers.keys_proceed]
    exact h.distinct
  · refine h.obey.proceed ?_ ?_
    · intro ticket q phase hr hk ha
      exact ⟨trivial, (h.answer env hwaits hr hk ha).2⟩
    · intro ticket q hr t ht phase hk
      obtain ⟨k, hi⟩ := Workers.request_eq_some.1 hr
      exact (h.orderly env hwaits hr).apart.known (Workers.key_ne_of_nodup h.distinct hi ht) hk

theorem recordUsage (providerID : String) (response : Option GetUsageSummaryResponse) :
    Regular lib (step lib s (.recordUsage providerID response)) := by
  have hfresh : ∀ ticket ∈ s.keys, ticket.id < s.world.arrivals.length :=
    fun ticket ht => (List.getElem?_eq_some_iff.1 (h.arrived ticket ht)).1
  have hkeys : (step lib s (.recordUsage providerID response)).keys =
      s.keys ++ [⟨s.world.arrivals.length, providerID, response⟩] := map_append
  have hold {n} (hn : n < s.world.arrivals.length) :
      (s.world.arrivals ++ [(providerID, response)])[n]? = s.world.arrivals[n]? :=
    getElem?_append_left hn
  refine ⟨⟨h.consistent.sound, h.consistent.checked, ?_, h.consistent.serial, ?_,
    h.consistent.once⟩, ?_, ?_, ?_⟩
  · intro d hd
    refine (h.consistent.drafting d hd).trans_le ?_
    exact (length_append ..).symm ▸ Nat.le_add_right ..
  · intro e he
    obtain ⟨arrival, harrival, hsubmits⟩ := h.consistent.submitted e he
    exact ⟨arrival, (hold (List.getElem?_eq_some_iff.1 harrival).1).trans harrival, hsubmits⟩
  · intro ticket ht
    rw [hkeys] at ht
    obtain ht | ht := mem_append.1 ht
    · exact (hold (hfresh ticket ht)).trans (h.arrived ticket ht)
    · cases mem_singleton.1 ht
      exact getElem?_concat_length ..
  · rw [hkeys, map_append]
    refine nodup_append.2 ⟨h.distinct, nodup_singleton _, ?_⟩
    intro n hn m hm
    obtain ⟨ticket, ht, rfl⟩ := mem_map.1 hn
    cases mem_singleton.1 hm
    exact (hfresh ticket ht).ne
  · refine Workers.Obey.start (h.obey.world fun _ _ hk => hk.congr rfl rfl) ?_
    refine ⟨.outside, ⟨?_, ?_⟩, Keeps.recordUsage _⟩
    · intro e he heq
      obtain ⟨arrival, harrival, _⟩ := h.consistent.submitted e he
      exact (List.getElem?_eq_some_iff.1 harrival).1.ne heq
    · rw [eq_nil_iff_forall_not_mem]
      intro v hv
      exact (h.consistent.drafting _ (Transactions.mem_own.1 hv)).ne rfl

theorem abandon (i : Nat) : Regular lib (s.abandon i) := by
  unfold State.abandon
  split
  · exact h
  · next ticket p hi =>
    have hkeys : (Workers.keys (Workers.cancel { s with world := { s.world with
        store := s.world.store.release ticket.id } } i)).Sublist s.keys :=
      (eraseIdx_sublist ..).map _
    refine ⟨h.consistent.release _, ?_, ?_, ?_⟩
    · exact fun ticket ht => h.arrived ticket (hkeys.subset ht)
    · exact h.distinct.sublist (hkeys.map _)
    · intro t ht
      obtain ⟨phase, hk, hp⟩ := h.obey t (mem_of_mem_eraseIdx ht)
      have hapart : Apart ticket.id s.world
          { s.world with store := s.world.store.release ticket.id } :=
        .of_store (.release schema _ _) rfl
      exact ⟨phase, hapart.known (Workers.key_ne_of_nodup h.distinct hi ht) hk, hp⟩

theorem step (e : Event) : Regular lib (step lib s e) := by
  cases e with
  | recordUsage providerID response => exact h.recordUsage providerID response
  | proceed i env =>
    dsimp only [Metering.step]
    split
    · exact h
    · next hwaits => exact h.proceed env hwaits
  | crash i => exact h.abandon i

theorem run (events : List Event) : Regular lib (run (Metering.step lib) s events) :=
  run_invariant h (fun _ e hs => hs.step e) events

theorem history_step (e : Event) : s.world.history <+: (Metering.step lib s e).world.history := by
  cases e with
  | recordUsage providerID response => exact prefix_rfl
  | proceed i env =>
    dsimp only [Metering.step]
    split
    · exact prefix_rfl
    · next hwaits =>
      exact Workers.proceed_world (P := fun w : World => s.world.history <+: w.history)
        prefix_rfl fun ticket q hr => (h.orderly env hwaits hr).apart.kept
  | crash i =>
    dsimp only [Metering.step, State.abandon]
    split <;> exact prefix_rfl

theorem history_run (events : List Event) :
    s.world.history <+: (Frame.run (Metering.step lib) s events).world.history := by
  induction events generalizing s with
  | nil => exact prefix_rfl
  | cons e events ih => exact (h.history_step e).trans (ih (h.step e))

end

end Regular

/-- A sequential order that accounts for the database and the results. -/
structure Explains (lib : Library) (s : State) (order : List Entry) : Prop where
  serial : Serial order s.world.store.committed
  unchanged : Serial (order.filter Entry.accepted) s.world.store.committed
  books : Books order s.world.store.committed
  calls : ∀ e ∈ order, ∃ arrival, s.world.arrivals[e.tx]? = some arrival ∧
    Submits lib arrival e.key e.request
  once : (order.map Entry.tx).Nodup
  returned : ∀ ticket result, (ticket, .ret (.ok result)) ∈ s.tasks → result.outcome.decided →
    ∃ e ∈ order, e.tx = ticket.id ∧ e.result = result

theorem Regular.explains (h : Regular lib s) : Explains lib s s.world.history := by
  refine ⟨h.consistent.serial, h.consistent.serial.accepted ?_, h.consistent.serial.books,
    h.consistent.submitted, h.consistent.once, ?_⟩
  · intro e he
    obtain ⟨_, _, hsubmits⟩ := h.consistent.submitted e he
    exact hsubmits.pos
  · intro ticket result ht hdecided
    obtain ⟨phase, hk, hends⟩ := h.obey _ ht
    obtain ⟨key, request, rfl⟩ := hends hdecided
    exact ⟨_, hk, rfl, rfl⟩

/-- A sequential order explains all results, and only grows. -/
theorem usage_linearizable (lib : Library) (events later : List Event) :
    ∃ order order', order <+: order' ∧
      Explains lib (run (step lib) State.init events) order ∧
      Explains lib (run (step lib) State.init (events ++ later)) order' := by
  have hregular := (Regular.init lib).run events
  refine ⟨_, _, hregular.history_run later, hregular.explains, ?_⟩
  rw [run_append]
  exact (hregular.run later).explains

def sampleCall (summary : MeteringSummary) : Event :=
  .recordUsage "provider" (some ⟨some summary, replicate 64 0⟩)

def sampleEnv (now : Time) (uuid : Nat) : Env :=
  ⟨.up, now, Fin.ofNat _ uuid, .ok (replicate 32 0), .ok ⟨"provider", 5, none⟩⟩

def serve (task : Nat) (now : Time) (uuids : List Nat) : List Event :=
  uuids.map fun uuid => .proceed task (sampleEnv now uuid)

theorem late_retry_refused :
    (run (step sampleLibrary) State.init
      (sampleCall (sampleSummary 1 0 100) :: serve 0 100000 (range 12) ++
        sampleCall (sampleSummary 1 0 100) :: serve 1 700000 (range 2))).tasks.map
      (fun t => (t.1.response, t.2.result)) =
      [(some ⟨some (sampleSummary 1 0 100), replicate 64 0⟩,
        some (.ok ⟨.accepted, some 7, some 9, 60⟩)),
      (some ⟨some (sampleSummary 1 0 100), replicate 64 0⟩,
        some (.ok { outcome := .clockSkew }))] := by
  decide +kernel

end OpenInfra.Metering
