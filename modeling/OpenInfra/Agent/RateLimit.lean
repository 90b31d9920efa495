import OpenInfra.Frame.Run

namespace OpenInfra.Agent.BandwidthRateLimiter
open Frame Function List

def bandwidthRateLimitWindow : Nat := 60 * 1000000000

def bandwidthRateLimitMaxCalls : Nat := 10

/-- The calls counted and the start of the window, for each key. -/
abbrev Windows := BitVec 256 → Option (Nat × Nat)

def new : Windows := fun _ => none

structure Call where
  key : BitVec 256
  now : Nat

abbrev Stale (windows : Windows) (c : Call) : Prop :=
  bandwidthRateLimitWindow ≤ c.now - ((windows c.key).getD (0, c.now)).2

def entry (windows : Windows) (c : Call) : Nat × Nat :=
  if Stale windows c then (0, c.now) else (windows c.key).getD (0, c.now)

def allow (windows : Windows) (c : Call) : Bool × Windows :=
  if bandwidthRateLimitMaxCalls ≤ (entry windows c).1 then
    (false, Function.update windows c.key (some (entry windows c)))
  else (true, Function.update windows c.key (some ((entry windows c).1 + 1, (entry windows c).2)))

def step (windows : Windows) (c : Call) : Windows := (allow windows c).2

def answers : Windows → List Call → List (Call × Bool) :=
  outputs step fun windows c => [(c, (allow windows c).1)]

def Resets (windows : Windows) (c : Call) : Prop := windows c.key = none ∨ Stale windows c

def granted (key : BitVec 256) (answers : List (Call × Bool)) : Nat :=
  answers.countP fun x => x.1.key = key ∧ x.2

theorem step_of_ne (h : c.key ≠ key) : step windows c key = windows key := by
  unfold step allow
  split <;> exact update_of_ne h.symm ..

theorem allow_false (h : (allow windows c).1 = false) : (allow windows c).2 = windows := by
  unfold allow at h ⊢
  split at h
  · rename_i hfull
    rw [if_pos hfull]
    unfold entry at hfull ⊢
    split at hfull
    · cases hfull
    · rw [if_neg ‹_›]
      rcases hentry : windows c.key with _ | e
      · rw [hentry] at hfull
        cases hfull
      · exact (congrArg _ hentry.symm).trans (update_eq_self ..)
  · cases h

theorem allow_true (h : (allow windows c).1 = true) : ∃ n start,
    step windows c c.key = some (n + 1, start) ∧ n < bandwidthRateLimitMaxCalls ∧
      (n = 0 ∧ start = c.now ∧ Resets windows c ∨ windows c.key = some (n, start)) := by
  unfold step allow at *
  split at h
  · cases h
  · rename_i hroom
    rw [if_neg hroom]
    refine ⟨_, _, update_self .., not_le.1 hroom, ?_⟩
    unfold entry
    split
    · exact .inl ⟨rfl, rfl, .inr ‹_›⟩
    · cases hentry : windows c.key with
      | none => exact .inl ⟨rfl, rfl, .inl hentry⟩
      | some e => exact .inr rfl

theorem answers_filter (h : windows key = windows' key) (calls : List Call) :
    (answers windows calls).filter (·.1.key = key) =
      answers windows' (calls.filter (·.key = key)) := by
  induction calls generalizing windows windows' with
  | nil => rfl
  | cons c calls ih =>
    change filter _ (_ :: answers (step windows c) calls) = _
    rw [filter_cons, filter_cons]
    by_cases hc : c.key = key
    · subst hc
      have hentry : entry windows c = entry windows' c := by
        unfold entry Stale
        rw [h]
      have hallow : (allow windows c).1 = (allow windows' c).1 ∧
          step windows c c.key = step windows' c c.key := by
        unfold step allow
        rw [hentry]
        split <;> simp only [update_self, and_self]
      rw [if_pos (decide_eq_true rfl), if_pos (decide_eq_true rfl), ih hallow.2, hallow.1]
      rfl
    · rw [if_neg (mt of_decide_eq_true hc), if_neg (mt of_decide_eq_true hc)]
      exact ih ((step_of_ne hc).trans h)

theorem granted_cons_le (credit : Option (Nat × Nat) → Nat)
    (hpays : c.key = key → (allow windows c).1 = true →
      credit (step windows c key) + 1 ≤ credit (windows key))
    (hrest : granted key (answers (step windows c) calls) ≤ credit (step windows c key)) :
    granted key (answers windows (c :: calls)) ≤ credit (windows key) := by
  refine (countP_cons ..).trans_le ?_
  split
  · rename_i h
    obtain ⟨hc, hallow⟩ := of_decide_eq_true h
    exact (Nat.add_le_add_right hrest 1).trans (hpays hc hallow)
  · rename_i h
    have hsame : step windows c key = windows key := by
      by_cases hc : c.key = key
      · have hallow : (allow windows c).1 = false :=
          Bool.eq_false_iff.2 fun ht => h (decide_eq_true ⟨hc, ht⟩)
        exact congrFun (allow_false hallow) key
      · exact step_of_ne hc
    rwa [hsame] at hrest

def used (entry : Option (Nat × Nat)) : Nat := (entry.map Prod.fst).getD 0

theorem granted_between
    (h : Along step (fun windows c => c.key = key → ¬ Resets windows c) windows calls) :
    granted key (answers windows calls) ≤ bandwidthRateLimitMaxCalls - used (windows key) := by
  induction calls generalizing windows with
  | nil => exact Nat.zero_le _
  | cons c calls ih =>
    refine granted_cons_le (bandwidthRateLimitMaxCalls - used ·) ?_ (ih h.2)
    rintro rfl hallow
    obtain ⟨n, start, hstep, hn, ⟨_, _, hreset⟩ | hentry⟩ := allow_true hallow
    · exact absurd hreset (h.1 rfl)
    · rw [hstep, hentry]
      change _ - (n + 1) + 1 ≤ _ - n
      omega

/-- What an interval leaves: a window that began in it is the last. -/
def credit (start : Nat) (entry : Option (Nat × Nat)) : Nat :=
  bandwidthRateLimitMaxCalls - used entry +
    if entry.any (start ≤ ·.2) then 0 else bandwidthRateLimitMaxCalls

theorem granted_within
    (h : ∀ c ∈ calls, start ≤ c.now ∧ c.now < start + bandwidthRateLimitWindow) :
    granted key (answers windows calls) ≤ credit start (windows key) := by
  induction calls generalizing windows with
  | nil => exact Nat.zero_le _
  | cons c calls ih =>
    obtain ⟨⟨hstart, hstop⟩, hrest⟩ := forall_mem_cons.1 h
    refine granted_cons_le (credit start) ?_ (ih hrest)
    rintro rfl hallow
    obtain ⟨n, first, hstep, hn, ⟨rfl, rfl, hreset⟩ | hentry⟩ := allow_true hallow
    · have hearlier : ¬ (windows c.key).any (start ≤ ·.2) := by
        rcases hentry : windows c.key with _ | e
        · nofun
        · rw [Resets, Stale, hentry] at hreset
          have hstale : bandwidthRateLimitWindow ≤ c.now - e.2 := hreset.resolve_left nofun
          have hpos : 0 < bandwidthRateLimitWindow := by decide
          rw [Option.any_some, decide_eq_true_eq]
          omega
      rw [hstep, credit, credit, if_neg hearlier, Option.any_some, if_pos (decide_eq_true hstart)]
      exact Nat.le_add_left _ _
    · rw [hstep, hentry]
      change _ - (n + 1) + _ + 1 ≤ _ - n + _
      simp only [Option.any_some]
      omega

/-- The budget of a key in any interval, whatever other keys call. -/
theorem bandwidth_budget (calls : List Call) (key : BitVec 256) :
    (∀ start before inside, before ++ inside <+: calls →
      (∀ c ∈ inside, start ≤ c.now ∧ c.now < start + bandwidthRateLimitWindow) →
        granted key (answers (run step new before) inside) ≤ 2 * bandwidthRateLimitMaxCalls) ∧
    (∀ before c rest, before ++ c :: rest <+: calls →
      Along step (fun windows c => c.key = key → ¬ Resets windows c)
        (run step new (before ++ [c])) rest →
      granted key (answers (run step new before) (c :: rest)) ≤ bandwidthRateLimitMaxCalls) ∧
    (∀ windows c, (allow windows c).1 = false → (allow windows c).2 = windows) ∧
    (answers new calls).filter (·.1.key = key) = answers new (calls.filter (·.key = key)) := by
  refine ⟨?_, ?_, fun _ _ => allow_false, answers_filter rfl calls⟩
  · intro start before inside _ h
    refine (granted_within h).trans ?_
    unfold credit
    split <;> omega
  · intro before c rest _ h
    rw [run_append] at h
    have hrest : granted key (answers (step (run step new before) c) rest) ≤ _ :=
      granted_between h
    refine (countP_cons ..).trans_le ?_
    split
    · rename_i hgranted
      obtain ⟨rfl, hallow⟩ := of_decide_eq_true hgranted
      obtain ⟨n, start, hstep, hn, _⟩ := allow_true hallow
      dsimp only at hrest
      rw [hstep] at hrest
      refine (Nat.add_le_add_right hrest 1).trans ?_
      change _ - (n + 1) + 1 ≤ _
      omega
    · exact hrest.trans (Nat.sub_le _ _)

end OpenInfra.Agent.BandwidthRateLimiter
