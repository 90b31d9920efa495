import Mathlib.Tactic

namespace Frame
open List Function

/-- A committed state, the locks on its keys, and open writes. -/
structure Transactions (S K W : Type) where
  committed : S
  locks : K → Option Nat
  drafts : List (Nat × W)

structure Schema (S K W : Type) where
  apply : S → W → S
  key : W → K
  taken : S → W → Prop
  clashes : W → W → Prop
  clashes_comm : clashes w w' → clashes w' w
  taken_apply : taken (apply s w) w' ↔ taken s w' ∨ clashes w w'

section
variable {S K W : Type}

theorem Schema.taken_foldl (D : Schema S K W) {ws : List W} :
    D.taken (ws.foldl D.apply s) w ↔ D.taken s w ∨ ∃ w' ∈ ws, D.clashes w' w := by
  induction ws generalizing s with
  | nil => simp only [foldl_nil, not_mem_nil, false_and, exists_false, or_false]
  | cons w' ws ih => simp only [foldl_cons, ih, D.taken_apply, exists_mem_cons_iff,
      or_assoc]

namespace Transactions

def own (T : Transactions S K W) (tx : Nat) : List W := (T.drafts.filter (·.1 = tx)).map (·.2)

def visible (D : Schema S K W) (T : Transactions S K W) (tx : Nat) : S :=
  (T.own tx).foldl D.apply T.committed

def busy (T : Transactions S K W) (tx : Nat) (key : K) : Bool := (T.locks key).any (· != tx)

def contested (D : Schema S K W) (T : Transactions S K W) (tx : Nat) (w : W) : Prop :=
  ∃ d ∈ T.drafts, d.1 ≠ tx ∧ D.clashes d.2 w

def lock [DecidableEq K] (T : Transactions S K W) (tx : Nat) (key : K) : Transactions S K W :=
  { T with locks := Function.update T.locks key (some tx) }

def draft (T : Transactions S K W) (tx : Nat) (w : W) : Transactions S K W :=
  { T with drafts := T.drafts ++ [(tx, w)] }

def release (T : Transactions S K W) (tx : Nat) : Transactions S K W :=
  { T with
    locks := fun key => if T.locks key = some tx then none else T.locks key
    drafts := T.drafts.filter (·.1 ≠ tx) }

def commit (D : Schema S K W) (T : Transactions S K W) (tx : Nat) : Transactions S K W :=
  { T.release tx with committed := T.visible D tx }

variable {D : Schema S K W} {T T' : Transactions S K W} {tx m : Nat}

theorem mem_own : w ∈ T.own tx ↔ (tx, w) ∈ T.drafts := by
  simp only [own, mem_map, mem_filter, decide_eq_true_eq]
  constructor
  · rintro ⟨⟨_, _⟩, ⟨h, rfl⟩, rfl⟩
    exact h
  · intro h
    exact ⟨_, ⟨h, rfl⟩, rfl⟩

theorem not_busy : ¬ T.busy tx key ↔ T.locks key = none ∨ T.locks key = some tx := by
  unfold busy
  cases T.locks key with
  | none => simp
  | some n => simp

theorem own_draft_self : (T.draft tx w).own tx = T.own tx ++ [w] := by
  simp only [own, draft, filter_append, map_append, filter_singleton,
    decide_true, cond_true, map_cons, map_nil]

theorem own_draft_of_ne (h : m ≠ tx) : (T.draft tx w).own m = T.own m := by
  simp only [own, draft, filter_append, filter_singleton, decide_eq_false h.symm,
    cond_false, append_nil]

theorem own_release_self : (T.release tx).own tx = [] := by
  rw [eq_nil_iff_forall_not_mem]
  intro w hw
  have hmem := mem_filter.1 (mem_own.1 hw)
  exact of_decide_eq_true hmem.2 rfl

theorem visible_draft : (T.draft tx w).visible D tx = D.apply (T.visible D tx) w := by
  rw [visible, own_draft_self, foldl_append]
  rfl

theorem visible_release : (T.release tx).visible D tx = T.committed := by
  rw [visible, own_release_self]
  rfl

theorem own_release_of_ne (h : m ≠ tx) : (T.release tx).own m = T.own m := by
  unfold own release
  rw [filter_filter]
  congr 1
  apply filter_congr
  intro d _
  by_cases hd : d.1 = m
  · simp only [hd, h, ne_eq, not_false_eq_true, decide_true, Bool.and_self]
  · simp only [hd, decide_false, Bool.false_and]

theorem locks_release_of_ne (h : m ≠ tx) (hkey : T.locks key = some m) :
    (T.release tx).locks key = some m := by
  refine (if_neg ?_).trans hkey
  rw [hkey]
  exact fun hm => h (Option.some.inj hm)

structure Sound (D : Schema S K W) (T : Transactions S K W) : Prop where
  locked : ∀ d ∈ T.drafts, T.locks (D.key d.2) = some d.1
  fresh : ∀ d ∈ T.drafts, ¬ D.taken T.committed d.2
  apart : T.drafts.Pairwise fun d d' => ¬ D.clashes d.2 d'.2

namespace Sound

theorem lock [DecidableEq K] (h : Sound D T) (hkey : ¬ T.busy tx key) :
    Sound D (T.lock tx key) := by
  refine ⟨?_, h.fresh, h.apart⟩
  intro d hd
  have hlocked := h.locked d hd
  by_cases hk : D.key d.2 = key
  · rw [hk] at hlocked ⊢
    have hlock : (T.lock tx key).locks key = some tx := update_self ..
    rw [hlock]
    obtain hnone | hsome := not_busy.1 hkey
    · rw [hnone] at hlocked
      cases hlocked
    · rw [hsome] at hlocked
      exact hlocked
  · exact (update_of_ne hk ..).trans hlocked

theorem draft (h : Sound D T) (hlock : T.locks (D.key w) = some tx)
    (hfresh : ¬ D.taken (T.visible D tx) w) (hothers : ¬ T.contested D tx w) :
    Sound D (T.draft tx w) := by
  obtain ⟨hcommitted, hown⟩ := not_or.1 (mt D.taken_foldl.2 hfresh)
  refine ⟨?_, ?_, ?_⟩
  · intro d hd
    obtain hd | hd := mem_append.1 hd
    · exact h.locked d hd
    · cases mem_singleton.1 hd
      exact hlock
  · intro d hd
    obtain hd | hd := mem_append.1 hd
    · exact h.fresh d hd
    · cases mem_singleton.1 hd
      exact hcommitted
  · refine pairwise_append.2 ⟨h.apart, pairwise_singleton .., ?_⟩
    intro d hd d' hd' hclash
    cases mem_singleton.1 hd'
    by_cases htx : d.1 = tx
    · subst htx
      exact hown ⟨d.2, mem_own.2 hd, hclash⟩
    · exact hothers ⟨d, hd, htx, hclash⟩

theorem release (h : Sound D T) (tx : Nat) : Sound D (T.release tx) := by
  refine ⟨?_, fun d hd => h.fresh d (mem_filter.1 hd).1, h.apart.filter _⟩
  intro d hd
  obtain ⟨hd, htx⟩ := mem_filter.1 hd
  exact locks_release_of_ne (of_decide_eq_true htx) (h.locked d hd)

theorem commit (h : Sound D T) (tx : Nat) : Sound D (T.commit D tx) := by
  have hrelease := h.release tx
  refine ⟨hrelease.locked, ?_, hrelease.apart⟩
  intro d hd htaken
  obtain ⟨hd, htx⟩ := mem_filter.1 hd
  obtain htaken | ⟨w, hw, hclash⟩ := D.taken_foldl.1 htaken
  · exact h.fresh d hd htaken
  · have : Std.Symm fun d d' : Nat × W => ¬ D.clashes d.2 d'.2 :=
      ⟨fun _ _ hn hc => hn (D.clashes_comm hc)⟩
    have hne : (tx, w) ≠ d := fun heq => of_decide_eq_true htx (congrArg Prod.fst heq).symm
    exact h.apart.forall (mem_own.1 hw) hd hne hclash

end Sound

/-- A step keeps its hands off the writes and locks of other transactions. -/
structure Aside (D : Schema S K W) (tx : Nat) (T T' : Transactions S K W) : Prop where
  own : ∀ m, m ≠ tx → T'.own m = T.own m
  locks : ∀ m key, m ≠ tx → T.locks key = some m → T'.locks key = some m
  committed : ∃ ws : List W, T'.committed = ws.foldl D.apply T.committed ∧
    ∀ w ∈ ws, T.locks (D.key w) = some tx

namespace Aside

theorem refl (D : Schema S K W) (tx : Nat) (T : Transactions S K W) : Aside D tx T T :=
  ⟨fun _ _ => rfl, fun _ _ _ h => h, [], rfl, forall_mem_nil _⟩

theorem lock [DecidableEq K] (hkey : ¬ T.busy tx key) : Aside D tx T (T.lock tx key) := by
  refine ⟨fun _ _ => rfl, ?_, [], rfl, forall_mem_nil _⟩
  intro m key' hm hlock
  by_cases hk : key' = key
  · subst hk
    obtain hnone | hsome := not_busy.1 hkey
    · rw [hnone] at hlock
      cases hlock
    · rw [hsome] at hlock
      exact absurd (Option.some.inj hlock).symm hm
  · exact (update_of_ne hk ..).trans hlock

theorem draft (D : Schema S K W) (tx : Nat) (T : Transactions S K W) (w : W) :
    Aside D tx T (T.draft tx w) :=
  ⟨fun _ hm => own_draft_of_ne hm, fun _ _ _ h => h, [], rfl, forall_mem_nil _⟩

theorem release (D : Schema S K W) (tx : Nat) (T : Transactions S K W) :
    Aside D tx T (T.release tx) :=
  ⟨fun _ hm => own_release_of_ne hm, fun _ _ hm h => locks_release_of_ne hm h, [], rfl,
    forall_mem_nil _⟩

theorem commit (h : Sound D T) : Aside D tx T (T.commit D tx) :=
  ⟨fun _ hm => own_release_of_ne hm, fun _ _ hm hk => locks_release_of_ne hm hk, T.own tx, rfl,
    fun _ hw => h.locked _ (mem_own.1 hw)⟩

end Aside

end Transactions

end

end Frame
