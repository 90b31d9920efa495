import OpenInfra.Metering.Books
import OpenInfra.Metering.Conduct

namespace OpenInfra.Metering
open Frame Function List
open ControlPlane (Uuid Time)

namespace Tables
variable {t : Tables} {ws : List Write}

theorem cursors_apply_of_ne (h : w.key ≠ key) : (t.apply w).cursors key = t.cursors key := by
  cases w with
  | cursor key' n => exact update_of_ne h.symm ..
  | evidence row => rfl
  | invoiceLine line => rfl

theorem cursors_apply_isSome (h : (t.cursors key).isSome) : ((t.apply w).cursors key).isSome := by
  cases w with
  | cursor key' n =>
    by_cases hkey : key = key'
    · subst hkey
      have hself : (t.apply (.cursor key n)).cursors key = some n := update_self ..
      rw [hself]
      rfl
    · rw [cursors_apply_of_ne (Ne.symm hkey)]
      exact h
  | evidence row => exact h
  | invoiceLine line => exact h

theorem findEvidence_apply_of_ne (h : w.key ≠ key) :
    (t.apply w).findEvidence key n = t.findEvidence key n := by
  cases w with
  | cursor key' n => rfl
  | evidence row =>
    have hat : row.at key n = false := decide_eq_false fun hat => h hat.1
    unfold findEvidence apply
    rw [List.find?_append, List.find?_singleton, hat]
    exact congrArg _ (Option.or_none ..)
  | invoiceLine line => rfl

theorem findInvoiceLine_apply (h : t.findInvoiceLine evidenceID = some line) :
    (t.apply w).findInvoiceLine evidenceID = some line := by
  cases w with
  | cursor key n => exact h
  | evidence row => exact h
  | invoiceLine line' =>
    obtain ⟨found, hfound, rfl⟩ := Option.map_eq_some_iff.1 h
    unfold findInvoiceLine apply
    rw [List.find?_append, hfound]
    rfl

theorem foldl_of_ne (h : ∀ w ∈ ws, w.key ≠ key) :
    (ws.foldl apply t).cursors key = t.cursors key ∧
      ∀ n, (ws.foldl apply t).findEvidence key n = t.findEvidence key n := by
  induction ws generalizing t with
  | nil => exact ⟨rfl, fun _ => rfl⟩
  | cons w ws ih =>
    obtain ⟨hw, hws⟩ := forall_mem_cons.1 h
    obtain ⟨hcursor, hevidence⟩ := ih (t := t.apply w) hws
    exact ⟨hcursor.trans (cursors_apply_of_ne hw),
      fun n => (hevidence n).trans (findEvidence_apply_of_ne hw)⟩

theorem foldl_kept (t : Tables) (ws : List Write) :
    (∀ key, (t.cursors key).isSome → ((ws.foldl apply t).cursors key).isSome) ∧
      ∀ evidenceID line, t.findInvoiceLine evidenceID = some line →
        (ws.foldl apply t).findInvoiceLine evidenceID = some line := by
  induction ws generalizing t with
  | nil => exact ⟨fun _ h => h, fun _ _ h => h⟩
  | cons w ws ih =>
    obtain ⟨hcursor, hline⟩ := ih (t.apply w)
    exact ⟨fun key h => hcursor key (cursors_apply_isSome h),
      fun evidenceID line h => hline evidenceID line (findInvoiceLine_apply h)⟩

theorem not_taken_cursor : ¬ t.taken (.cursor key n) := by
  rintro ⟨w, _, hclash⟩
  cases w <;> exact hclash

end Tables

inductive Rooted (t : Tables) (key : CursorKey) : Nat → List Write → Prop
  | found : t.cursors key = some last → Rooted t key last []
  | made : t.cursors key = none → Rooted t key 0 [.cursor key 0]

namespace Rooted
variable {t t' : Tables}

theorem foldl (h : Rooted t key last base) : base.foldl Tables.apply t = t.ensureCursor key := by
  unfold Tables.ensureCursor
  cases h with
  | found hsome => rw [if_neg (hsome ▸ nofun)]; rfl
  | made hnone => rw [if_pos hnone]; rfl

theorem cursor (h : Rooted t key last base) : (t.ensureCursor key).cursors key = some last := by
  unfold Tables.ensureCursor
  cases h with
  | found hsome => rw [if_neg (hsome ▸ nofun)]; exact hsome
  | made hnone => rw [if_pos hnone]; exact update_self ..

theorem congr (h : Rooted t key last base) (ht : t'.cursors key = t.cursors key) :
    Rooted t' key last base := by
  cases h with
  | found hsome => exact .found (ht.trans hsome)
  | made hnone => exact .made (ht.trans hnone)

end Rooted

def Undecided (w : World) (tx : Nat) : Prop := ∀ e ∈ w.history, e.tx ≠ tx

structure Holding (w : World) (tx : Nat) (key : CursorKey) (last : Nat) (writes : List Write) :
    Prop where
  undecided : Undecided w tx
  lock : w.store.locks key = some tx
  own : ∃ base, Rooted w.store.committed key last base ∧ w.store.own tx = base ++ writes

def Known (w : World) (tx : Nat) : Phase → Prop
  | .outside => Undecided w tx ∧ w.store.own tx = []
  | .entered key => Undecided w tx ∧
    ((w.store.committed.cursors key).isSome ∧ w.store.own tx = [] ∨ Holding w tx key 0 [])
  | .locked key last => Holding w tx key last []
  | .looked key last n existing =>
    Holding w tx key last [] ∧ w.store.committed.findEvidence key n = existing
  | .billed key last n existing line =>
    Holding w tx key last [] ∧ w.store.committed.findEvidence key n = some existing ∧
      w.store.committed.findInvoiceLine existing.1 = some line
  | .drafted key last writes => Holding w tx key last writes
  | .broken => True
  | .closed => True
  | .done key request result => ⟨tx, key, request, result⟩ ∈ w.history

structure Apart (tx : Nat) (w w' : World) : Prop where
  store : w.store.Aside schema tx w'.store
  kept : w.history <+: w'.history
  added : ∀ e ∈ w'.history, e ∈ w.history ∨ e.tx = tx

namespace Apart
variable {w w' : World}

theorem of_store (h : w.store.Aside schema tx w'.store) (hhistory : w'.history = w.history) :
    Apart tx w w' := ⟨h, hhistory ▸ prefix_rfl, fun _ he => .inl (hhistory ▸ he)⟩

section
variable (h : Apart tx w w')
include h

theorem undecided (hm : m ≠ tx) (hu : Undecided w m) : Undecided w' m := by
  intro e he
  obtain he | he := h.added e he
  · exact hu e he
  · exact he ▸ hm.symm

theorem locked (hm : m ≠ tx) (hlock : w.store.locks key = some m) :
    w'.store.committed.cursors key = w.store.committed.cursors key ∧
      ∀ n, w'.store.committed.findEvidence key n = w.store.committed.findEvidence key n := by
  obtain ⟨ws, hcommitted, hws⟩ := h.store.committed
  rw [hcommitted]
  apply Tables.foldl_of_ne
  rintro v hv rfl
  have htx := (hws v hv).symm.trans hlock
  exact hm (Option.some.inj htx).symm

theorem holding (hm : m ≠ tx) (hh : Holding w m key last writes) :
    Holding w' m key last writes := by
  obtain ⟨base, hrooted, hown⟩ := hh.own
  exact ⟨h.undecided hm hh.undecided, h.store.locks m key hm hh.lock, base,
    hrooted.congr (h.locked hm hh.lock).1, (h.store.own m hm).trans hown⟩

theorem findInvoiceLine
    (hline : w.store.committed.findInvoiceLine evidenceID = some line) :
    w'.store.committed.findInvoiceLine evidenceID = some line := by
  obtain ⟨ws, hcommitted, _⟩ := h.store.committed
  rw [hcommitted]
  exact (Tables.foldl_kept _ ws).2 _ _ hline

theorem known (hm : m ≠ tx) (hk : Known w m phase) : Known w' m phase := by
  cases phase with
  | outside => exact ⟨h.undecided hm hk.1, (h.store.own m hm).trans hk.2⟩
  | entered key =>
    refine ⟨h.undecided hm hk.1, hk.2.imp ?_ (h.holding hm)⟩
    rintro ⟨hsome, hown⟩
    obtain ⟨ws, hcommitted, _⟩ := h.store.committed
    rw [hcommitted]
    exact ⟨(Tables.foldl_kept _ ws).1 key hsome, (h.store.own m hm).trans hown⟩
  | locked key last => exact h.holding hm hk
  | looked key last n existing =>
    exact ⟨h.holding hm hk.1, ((h.locked hm hk.1.lock).2 n).trans hk.2⟩
  | billed key last n existing line =>
    exact ⟨h.holding hm hk.1, ((h.locked hm hk.1.lock).2 n).trans hk.2.1,
      h.findInvoiceLine hk.2.2⟩
  | drafted key last writes => exact h.holding hm hk
  | broken => trivial
  | closed => trivial
  | done key request result => exact h.kept.subset hk

end

end Apart

theorem Known.congr {w w' : World} (h : Known w tx phase) (hstore : w'.store = w.store)
    (hhistory : w'.history = w.history) : Known w' tx phase := by
  have hapart : Apart (tx + 1) w w' := .of_store (hstore ▸ .refl schema _ _) hhistory
  exact hapart.known (Nat.succ_ne_self tx).symm h

end OpenInfra.Metering
