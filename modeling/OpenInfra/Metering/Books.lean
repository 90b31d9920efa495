import OpenInfra.Metering.Ledger

namespace OpenInfra.Metering
open Frame Function List
open ControlPlane (Uuid Time)

namespace Tables
variable {t t' : Tables} {request : AcceptRequest} {result : Result}

@[simp] theorem ensureCursor_evidence (t : Tables) (key : CursorKey) :
    (t.ensureCursor key).evidence = t.evidence := by
  unfold ensureCursor
  split <;> rfl

@[simp] theorem ensureCursor_invoiceLines (t : Tables) (key : CursorKey) :
    (t.ensureCursor key).invoiceLines = t.invoiceLines := by
  unfold ensureCursor
  split <;> rfl

theorem ensureCursor_getD (t : Tables) (key key' : CursorKey) :
    ((t.ensureCursor key).cursors key').getD 0 = (t.cursors key').getD 0 := by
  unfold ensureCursor
  split
  · next hnone =>
    by_cases hkey : key' = key
    · subst hkey
      have hself : (t.apply (.cursor key' 0)).cursors key' = some 0 := update_self ..
      rw [hnone, hself]
      rfl
    · exact congrArg (Option.getD · 0) (update_of_ne hkey ..)
  · rfl

theorem ensureCursor_of_pos (h : 0 < (t.cursors key).getD 0) : t.ensureCursor key = t := by
  unfold ensureCursor
  split
  · next hnone =>
    rw [hnone] at h
    cases h
  · rfl

theorem ensureCursor_taken : (t.ensureCursor key).taken w ↔ t.taken w := by
  unfold taken rows
  rw [ensureCursor_evidence, ensureCursor_invoiceLines]

theorem classifyStaleSequence_ensureCursor (t : Tables) (key : CursorKey)
    (request : AcceptRequest) :
    (t.ensureCursor key).classifyStaleSequence key request =
      t.classifyStaleSequence key request := by
  simp only [classifyStaleSequence, findEvidence, findInvoiceLine, ensureCursor_evidence,
    ensureCursor_invoiceLines]

theorem insert_eq_ok : t.insert w = .ok t' ↔ ¬ t.taken w ∧ w.check ∧ t' = t.apply w := by
  unfold insert
  split
  · next h => exact ⟨nofun, fun ⟨htaken, hcheck, _⟩ => (h.elim htaken fun h => h hcheck).elim⟩
  · next h =>
    obtain ⟨htaken, hcheck⟩ := not_or.1 h
    rw [Except.ok.injEq]
    exact ⟨fun heq => ⟨htaken, not_not.1 hcheck, heq.symm⟩, fun h => h.2.2.symm⟩

theorem acceptEvidence_cases
    (h : t.acceptEvidence key request evidenceID invoiceLineID = .ok (result, t')) :
    (request.sequence.toNat ≤ (t.cursors key).getD 0 ∧
      t.classifyStaleSequence key request = .ok result ∧ t' = t.ensureCursor key) ∨
    ((t.cursors key).getD 0 < request.sequence.toNat ∧
      ¬ t.taken (.evidence (request.evidenceRow key evidenceID)) ∧
      ¬ t.taken (.invoiceLine (request.invoiceLine key evidenceID invoiceLineID)) ∧
      (Write.evidence (request.evidenceRow key evidenceID)).check ∧
      result = acceptedResult request evidenceID invoiceLineID ∧
      t' = ⟨update t.cursors key request.sequence.toNat,
        t.evidence ++ [request.evidenceRow key evidenceID],
        t.invoiceLines ++ [request.invoiceLine key evidenceID invoiceLineID]⟩) := by
  unfold acceptEvidence at h
  dsimp only at h
  rw [ensureCursor_getD, classifyStaleSequence_ensureCursor] at h
  split at h
  · next hstale =>
    obtain ⟨result', hclassify, h⟩ := bind_eq_ok.1 h
    cases h
    exact .inl ⟨hstale, hclassify, rfl⟩
  · next hfresh =>
    obtain ⟨t₁, hevidence, h⟩ := bind_eq_ok.1 h
    obtain ⟨t₂, hline, h⟩ := bind_eq_ok.1 h
    cases h
    obtain ⟨hrow, hcheck, rfl⟩ := insert_eq_ok.1 hevidence
    obtain ⟨hother, _, rfl⟩ := insert_eq_ok.1 hline
    rw [taken_apply, not_or, ensureCursor_taken] at hrow
    rw [taken_apply, taken_apply, not_or, not_or, ensureCursor_taken] at hother
    refine .inr ⟨Nat.not_le.1 hfresh, hrow.1, hother.1.1, hcheck, rfl, ?_⟩
    have hcursors : update (t.ensureCursor key).cursors key
        (some request.sequence.toNat) = update t.cursors key request.sequence.toNat := by
      unfold ensureCursor
      split
      · exact update_idem ..
      · rfl
    simp only [apply, ensureCursor_evidence, ensureCursor_invoiceLines, hcursors]

theorem not_accepted_of_classify (h : t.classifyStaleSequence key request = .ok result) :
    result.outcome ≠ .accepted := by
  unfold classifyStaleSequence at h
  split at h
  · cases h
    exact nofun
  · split at h
    · cases h
      exact nofun
    · obtain ⟨_, _, h⟩ := bind_eq_ok.1 h
      cases h
      exact nofun

end Tables

theorem filter_append_other {l : List α} {p : α → Bool} (h : l.filter p = [a]) (hb : ¬ p b) :
    (l ++ [b]).filter p = [a] := by
  rw [filter_append, h, filter_singleton, Bool.eq_false_of_not_eq_true hb]
  rfl

theorem filter_append_only {l : List α} {p : α → Bool} (h : ∀ a ∈ l, ¬ p a) (hb : p b) :
    (l ++ [b]).filter p = [b] := by
  rw [filter_append, filter_eq_nil_iff.2 h, filter_singleton, hb]
  rfl

/-- What the tables hold after the submissions. -/
structure Books (es : List Entry) (t : Tables) : Prop where
  evidence : t.evidence = (es.filter Entry.accepted).map Entry.evidenceRow
  invoiceLines : t.invoiceLines = (es.filter Entry.accepted).map Entry.invoiceLine
  cursor : ∀ key, (t.cursors key).getD 0 = (acceptedSequences es key).foldr max 0
  increasing : ∀ key, (acceptedSequences es key).Pairwise (· < ·)
  single : ∀ e ∈ es, e.accepted →
    t.evidence.filter (·.at e.key e.request.sequence.toNat) = [e.evidenceRow] ∧
    t.invoiceLines.filter (·.original e.evidenceRow.evidenceID) = [e.invoiceLine]
  results : ∀ e ∈ es, e.accepted → ∃ evidenceID invoiceLineID,
    e.result = Tables.acceptedResult e.request evidenceID invoiceLineID
  repeats : es.Pairwise fun e e' => e.accepted → e'.key = e.key →
    e'.request.sequence = e.request.sequence → e'.result = e.repeated e'.request

namespace Books
variable {es : List Entry} {t : Tables} {e : Entry}

theorem empty : Books [] .empty :=
  ⟨rfl, rfl, fun _ => rfl, fun _ => .nil, forall_mem_nil _, forall_mem_nil _, .nil⟩

theorem acceptedSequences_other (h : ¬ (e.accepted ∧ e.key = key)) :
    acceptedSequences (es ++ [e]) key = acceptedSequences es key := by
  unfold acceptedSequences
  rw [filter_append, filter_singleton, decide_eq_false h, cond_false, append_nil]

theorem acceptedSequences_self (h : e.accepted) :
    acceptedSequences (es ++ [e]) e.key =
      acceptedSequences es e.key ++ [e.request.sequence.toNat] := by
  unfold acceptedSequences
  rw [filter_append, filter_singleton, decide_eq_true ⟨h, rfl⟩, cond_true,
    map_append]
  rfl

theorem mem_acceptedSequences (he : e ∈ es) (h : e.accepted) :
    e.request.sequence.toNat ∈ acceptedSequences es e.key :=
  mem_map_of_mem (mem_filter.2 ⟨he, decide_eq_true ⟨h, rfl⟩⟩)

theorem le_largest {l : List Nat} (h : n ∈ l) : n ≤ l.foldr max 0 := le_max_of_le h le_rfl

theorem largest_concat {l : List Nat} (h : l.foldr max 0 < n) : (l ++ [n]).foldr max 0 = n := by
  apply le_antisymm
  · apply max_le_of_forall_le
    intro m hm
    obtain hm | hm := mem_append.1 hm
    · exact (le_largest hm).trans h.le
    · exact (mem_singleton.1 hm).le
  · exact le_largest (mem_append_right _ (mem_singleton_self n))

section
variable (h : Books es t)
include h

theorem findEvidence (he : e ∈ es) (ha : e.accepted) :
    t.findEvidence e.key e.request.sequence.toNat =
      some (e.evidenceRow.evidenceID, e.request.evidenceHash) := by
  unfold Tables.findEvidence
  rw [← head?_filter, (h.single e he ha).1]
  rfl

theorem findInvoiceLine (he : e ∈ es) (ha : e.accepted) :
    t.findInvoiceLine e.evidenceRow.evidenceID =
      some (e.invoiceLine.invoiceLineID, e.request.charge.totalAmount.toNat) := by
  unfold Tables.findInvoiceLine
  rw [← head?_filter, (h.single e he ha).2]
  rfl

theorem le_cursor (he : e ∈ es) (ha : e.accepted) :
    e.request.sequence.toNat ≤ (t.cursors e.key).getD 0 := by
  rw [h.cursor]
  exact le_largest (mem_acceptedSequences he ha)

theorem classify (he : e ∈ es) (ha : e.accepted) (hsequence : request.sequence = e.request.sequence)
    (hclassify : t.classifyStaleSequence e.key request = .ok result) :
    result = e.repeated request := by
  obtain ⟨evidenceID, invoiceLineID, hresult⟩ := h.results e he ha
  unfold Tables.classifyStaleSequence at hclassify
  rw [hsequence, h.findEvidence he ha] at hclassify
  dsimp only at hclassify
  unfold Entry.repeated
  split at hclassify
  · next hhash =>
    cases hclassify
    rw [if_neg (Ne.symm hhash), Entry.evidenceRow, hresult]
    rfl
  · next hhash =>
    rw [h.findInvoiceLine he ha] at hclassify
    cases hclassify
    rw [if_pos (not_not.1 hhash).symm, Entry.evidenceRow, Entry.invoiceLine, hresult]
    simp only [AcceptRequest.evidenceRow, AcceptRequest.invoiceLine, Tables.acceptedResult,
      Option.getD_some, UInt64.ofNat_toNat]

theorem stale
    (hclassify : t.classifyStaleSequence e.key e.request = .ok e.result) :
    Books (es ++ [e]) (t.ensureCursor e.key) := by
  have hnot : ¬ e.accepted :=
    fun ha => Tables.not_accepted_of_classify hclassify (of_decide_eq_true ha)
  have hfilter : (es ++ [e]).filter Entry.accepted = es.filter Entry.accepted := by
    rw [filter_append, filter_singleton, Bool.eq_false_of_not_eq_true hnot, cond_false,
      append_nil]
  have hsequences (key : CursorKey) : acceptedSequences (es ++ [e]) key =
      acceptedSequences es key := acceptedSequences_other fun ha => hnot ha.1
  have hmem {e'} (he' : e' ∈ es ++ [e]) (ha : e'.accepted) : e' ∈ es := by
    obtain he' | he' := mem_append.1 he'
    · exact he'
    · cases mem_singleton.1 he'
      exact absurd ha hnot
  refine ⟨?_, ?_, ?_, ?_, ?_, ?_, ?_⟩
  · rw [Tables.ensureCursor_evidence, hfilter]
    exact h.evidence
  · rw [Tables.ensureCursor_invoiceLines, hfilter]
    exact h.invoiceLines
  · intro key
    rw [Tables.ensureCursor_getD, hsequences]
    exact h.cursor key
  · intro key
    rw [hsequences]
    exact h.increasing key
  · intro e' he' ha
    rw [Tables.ensureCursor_evidence, Tables.ensureCursor_invoiceLines]
    exact h.single e' (hmem he' ha) ha
  · intro e' he' ha
    exact h.results e' (hmem he' ha) ha
  · refine pairwise_append.2 ⟨h.repeats, pairwise_singleton .., ?_⟩
    intro e₁ he₁ e₂ he₂ ha hkey hsequence
    cases mem_singleton.1 he₂
    rw [hkey] at hclassify
    exact h.classify he₁ ha hsequence hclassify

theorem fresh (hfresh : (t.cursors e.key).getD 0 < e.request.sequence.toNat)
    (hevidence : ¬ t.taken (.evidence (e.request.evidenceRow e.key evidenceID)))
    (hline : ¬ t.taken (.invoiceLine (e.request.invoiceLine e.key evidenceID invoiceLineID)))
    (hresult : e.result = Tables.acceptedResult e.request evidenceID invoiceLineID) :
    Books (es ++ [e]) ⟨update t.cursors e.key e.request.sequence.toNat,
      t.evidence ++ [e.request.evidenceRow e.key evidenceID],
      t.invoiceLines ++ [e.request.invoiceLine e.key evidenceID invoiceLineID]⟩ := by
  have ha : e.accepted := by
    unfold Entry.accepted
    rw [hresult]
    rfl
  have hrow : e.evidenceRow = e.request.evidenceRow e.key evidenceID := by
    unfold Entry.evidenceRow
    rw [hresult]
    rfl
  have hinvoice : e.invoiceLine = e.request.invoiceLine e.key evidenceID invoiceLineID := by
    unfold Entry.invoiceLine
    rw [hresult]
    rfl
  rw [← hrow] at hevidence ⊢
  rw [← hinvoice] at hline ⊢
  have hfilter : (es ++ [e]).filter Entry.accepted = es.filter Entry.accepted ++ [e] := by
    rw [filter_append, filter_singleton, ha, cond_true]
  have hrows : ∀ row ∈ t.evidence, ¬ (Write.evidence row).clashes (.evidence e.evidenceRow) :=
    fun row hr hc => hevidence ⟨_, mem_append_left _ (mem_map_of_mem hr), hc⟩
  have hlines : ∀ line ∈ t.invoiceLines,
      ¬ (Write.invoiceLine line).clashes (.invoiceLine e.invoiceLine) :=
    fun line hl hc => hline ⟨_, mem_append_right _ (mem_map_of_mem hl), hc⟩
  refine ⟨?_, ?_, ?_, ?_, ?_, ?_, ?_⟩
  · dsimp only
    rw [hfilter, map_append, ← h.evidence]
    rfl
  · dsimp only
    rw [hfilter, map_append, ← h.invoiceLines]
    rfl
  · intro key
    dsimp only
    by_cases hkey : key = e.key
    · subst hkey
      rw [update_self, acceptedSequences_self ha, largest_concat]
      · rfl
      · rw [← h.cursor]
        exact hfresh
    · rw [update_of_ne hkey, acceptedSequences_other fun h => hkey h.2.symm]
      exact h.cursor key
  · intro key
    by_cases hkey : key = e.key
    · subst hkey
      rw [acceptedSequences_self ha]
      refine pairwise_append.2 ⟨h.increasing _, pairwise_singleton .., ?_⟩
      intro n hn m hm
      cases mem_singleton.1 hm
      rw [h.cursor] at hfresh
      exact (le_largest hn).trans_lt hfresh
    · rw [acceptedSequences_other fun h => hkey h.2.symm]
      exact h.increasing key
  · intro e' he' ha'
    obtain he' | he' := mem_append.1 he'
    · obtain ⟨hrow', hline'⟩ := h.single e' he' ha'
      have hmemRow : e'.evidenceRow ∈ t.evidence :=
        (mem_filter.1 (hrow' ▸ mem_singleton_self _)).1
      have hmemLine : e'.invoiceLine ∈ t.invoiceLines :=
        (mem_filter.1 (hline' ▸ mem_singleton_self _)).1
      constructor
      · refine filter_append_other hrow' ?_
        intro hat
        obtain ⟨hkey, hsequence⟩ := of_decide_eq_true hat
        exact hrows _ hmemRow (.inr ⟨hkey.symm, hsequence.symm⟩)
      · refine filter_append_other hline' ?_
        intro horiginal
        exact hlines _ hmemLine (.inr ⟨rfl, horiginal⟩)
    · cases mem_singleton.1 he'
      constructor
      · refine filter_append_only ?_ (decide_eq_true ⟨rfl, rfl⟩)
        intro row hr hat
        exact hrows row hr (.inr (of_decide_eq_true hat))
      · refine filter_append_only ?_ (decide_eq_true ⟨rfl, rfl⟩)
        intro line hl horiginal
        obtain ⟨hid, hnone⟩ := of_decide_eq_true horiginal
        exact hlines line hl (.inr ⟨hnone, decide_eq_true ⟨hid.symm, rfl⟩⟩)
  · intro e' he' ha'
    obtain he' | he' := mem_append.1 he'
    · exact h.results e' he' ha'
    · cases mem_singleton.1 he'
      exact ⟨evidenceID, invoiceLineID, hresult⟩
  · refine pairwise_append.2 ⟨h.repeats, pairwise_singleton .., ?_⟩
    intro e₁ he₁ e₂ he₂ ha₁ hkey hsequence
    cases mem_singleton.1 he₂
    have hle := h.le_cursor he₁ ha₁
    rw [← hkey, ← hsequence] at hle
    exact absurd hfresh (Nat.not_lt.2 hle)

end

end Books

namespace Serial
variable {es : List Entry} {t : Tables}

theorem books (h : Serial es t) : Books es t := by
  induction h with
  | nil => exact .empty
  | snoc _ haccept ih =>
    obtain ⟨_, hclassify, rfl⟩ | ⟨hfresh, hevidence, hline, _, hresult, rfl⟩ :=
      Tables.acceptEvidence_cases haccept
    · exact ih.stale hclassify
    · exact ih.fresh hfresh hevidence hline hresult

theorem accepted (h : Serial es t) (hpos : ∀ e ∈ es, 0 < e.request.sequence.toNat) :
    Serial (es.filter Entry.accepted) t := by
  induction h with
  | nil => exact .nil
  | @snoc es t evidenceID invoiceLineID t' e _ haccept ih =>
    have ht := ih fun e he => hpos e (mem_append_left _ he)
    rw [filter_append, filter_singleton]
    obtain ⟨hstale, hclassify, rfl⟩ | ⟨_, _, _, _, hresult, _⟩ :=
      Tables.acceptEvidence_cases haccept
    · have hnot : e.accepted = false :=
        decide_eq_false (Tables.not_accepted_of_classify hclassify)
      have hpos' := hpos e (mem_append_right _ (mem_singleton_self e))
      rw [hnot, Tables.ensureCursor_of_pos (hpos'.trans_le hstale), cond_false, append_nil]
      exact ht
    · have ha : e.accepted = true := decide_eq_true (congrArg Result.outcome hresult)
      rw [ha, cond_true]
      exact .snoc ht haccept

end Serial

end OpenInfra.Metering
