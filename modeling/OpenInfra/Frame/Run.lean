import Mathlib.Tactic

namespace Frame

section
variable {S A : Type} (step : S → A → S)

def run (s : S) (acts : List A) : S := acts.foldl step s

@[simp] theorem run_nil (s : S) : run step s [] = s := rfl

@[simp] theorem run_cons (s : S) (a : A) (acts : List A) :
    run step s (a :: acts) = run step (step s a) acts := rfl

theorem run_append (s : S) (acts acts' : List A) :
    run step s (acts ++ acts') = run step (run step s acts) acts' := List.foldl_append

/-- Every state a run visits, its first and its last included, satisfies `P`. -/
def Throughout (P : S → Prop) : S → List A → Prop
  | s, [] => P s
  | s, a :: acts => P s ∧ Throughout P (step s a) acts

def Along (Q : S → A → Prop) : S → List A → Prop
  | _, [] => True
  | s, a :: acts => Q s a ∧ Along Q (step s a) acts

instance Throughout.decidable (P : S → Prop) [DecidablePred P] :
    ∀ s acts, Decidable (Throughout step P s acts)
  | s, [] => inferInstanceAs (Decidable (P s))
  | s, a :: acts =>
    have := Throughout.decidable P (step s a) acts
    inferInstanceAs (Decidable (P s ∧ Throughout step P (step s a) acts))

instance Along.decidable (Q : S → A → Prop) [∀ s a, Decidable (Q s a)] :
    ∀ s acts, Decidable (Along step Q s acts)
  | _, [] => inferInstanceAs (Decidable True)
  | s, a :: acts =>
    have := Along.decidable Q (step s a) acts
    inferInstanceAs (Decidable (Q s a ∧ Along step Q (step s a) acts))

def outputs (out : S → A → List B) : S → List A → List B
  | _, [] => []
  | s, a :: acts => out s a ++ outputs out (step s a) acts

variable {step}

variable {P P' I : S → Prop} {Q Q' : S → A → Prop}

theorem Throughout.head (h : Throughout step P s acts) : P s := by
  cases acts with
  | nil => exact h
  | cons a acts => exact h.1

theorem Throughout.last (h : Throughout step P s acts) : P (run step s acts) := by
  induction acts generalizing s with
  | nil => exact h
  | cons a acts ih => exact ih h.2

theorem Along.congr (h : ∀ s a, Q s a ↔ Q' s a) (s : S) (acts : List A) :
    Along step Q s acts ↔ Along step Q' s acts := by
  induction acts generalizing s with
  | nil => exact Iff.rfl
  | cons a acts ih => exact and_congr (h s a) (ih (step s a))

theorem Along.append :
    Along step Q s (acts ++ acts') ↔
      Along step Q s acts ∧ Along step Q (run step s acts) acts' := by
  induction acts generalizing s with
  | nil => exact (iff_of_eq (true_and _)).symm
  | cons a acts ih => exact (and_congr_right' ih).trans and_assoc.symm

theorem Throughout.append (h : Throughout step P s (acts ++ acts')) :
    Throughout step P s acts ∧ Throughout step P (run step s acts) acts' := by
  induction acts generalizing s with
  | nil => exact ⟨h.head, h⟩
  | cons a acts ih => exact ⟨⟨h.1, (ih h.2).1⟩, (ih h.2).2⟩

theorem Throughout.and (h : Throughout step P s acts)
    (h' : Throughout step P' s acts) : Throughout step (fun s => P s ∧ P' s) s acts := by
  induction acts generalizing s with
  | nil => exact ⟨h, h'⟩
  | cons a acts ih => exact ⟨⟨h.1, h'.1⟩, ih h.2 h'.2⟩

theorem Along.invariant_throughout
    (h : Along step Q s acts) (hP : Throughout step P s acts) (hs : I s)
    (hstep : ∀ s a, I s → Q s a → P s → P (step s a) → I (step s a)) : I (run step s acts) := by
  induction acts generalizing s with
  | nil => exact hs
  | cons a acts ih => exact ih h.2 hP.2 (hstep s a hs h.1 hP.1 hP.2.head)

theorem Along.true (s : S) (acts : List A) : Along step (fun _ _ => True) s acts := by
  induction acts generalizing s with
  | nil => trivial
  | cons a acts ih => exact ⟨trivial, ih (step s a)⟩

theorem Throughout.true (s : S) (acts : List A) : Throughout step (fun _ => True) s acts := by
  induction acts generalizing s with
  | nil => trivial
  | cons a acts ih => exact ⟨trivial, ih (step s a)⟩

theorem Along.invariant (h : Along step Q s acts) (hs : I s)
    (hstep : ∀ s a, I s → Q s a → I (step s a)) : I (run step s acts) :=
  h.invariant_throughout (.true s acts) hs fun s a hI hQ _ _ => hstep s a hI hQ

theorem Along.throughout (h : Along step Q s acts) (hs : I s)
    (hstep : ∀ s a, I s → Q s a → I (step s a)) : Throughout step I s acts := by
  induction acts generalizing s with
  | nil => exact hs
  | cons a acts ih => exact ⟨hs, ih h.2 (hstep s a hs h.1)⟩

theorem Throughout.mono (h : Throughout step P s acts) (hP : ∀ s, P s → P' s) :
    Throughout step P' s acts := by
  induction acts generalizing s with
  | nil => exact hP s h
  | cons a acts ih => exact ⟨hP s h.1, ih h.2⟩

theorem Along.and (h : Along step Q s acts) (h' : Along step Q' s acts) :
    Along step (fun s a => Q s a ∧ Q' s a) s acts := by
  induction acts generalizing s with
  | nil => trivial
  | cons a acts ih => exact ⟨⟨h.1, h'.1⟩, ih h.2 h'.2⟩

theorem Along.along (h : Along step Q s acts) (hs : I s)
    (hstep : ∀ s a, I s → Q s a → I (step s a)) (hQ : ∀ s a, I s → Q s a → Q' s a) :
    Along step Q' s acts := by
  induction acts generalizing s with
  | nil => trivial
  | cons a acts ih => exact ⟨hQ s a hs h.1, ih h.2 (hstep s a hs h.1)⟩

theorem Throughout.invariant (h : Throughout step P s acts) (hs : I s)
    (hstep : ∀ s a, I s → P s → P (step s a) → I (step s a)) : I (run step s acts) :=
  (Along.true s acts).invariant_throughout h hs fun s a hI _ hP hP' => hstep s a hI hP hP'

theorem Throughout.throughout (h : Throughout step P s acts) (hs : I s)
    (hstep : ∀ s a, I s → P s → P (step s a) → I (step s a)) : Throughout step I s acts := by
  induction acts generalizing s with
  | nil => exact hs
  | cons a acts ih => exact ⟨hs, ih h.2 (hstep s a hs h.1 h.2.head)⟩

theorem Throughout.along (h : Throughout step P s acts)
    (hs : I s) (hstep : ∀ s a, I s → P s → P (step s a) → I (step s a))
    (hQ : ∀ s a, I s → P s → Q s a) : Along step Q s acts := by
  induction acts generalizing s with
  | nil => trivial
  | cons a acts ih => exact ⟨hQ s a hs h.1, ih h.2 (hstep s a hs h.1 h.2.head)⟩

theorem Throughout.outputs_invariant {I : S → List B → Prop}
    (h : Throughout step P s acts) (hs : I s [])
    (hstep : ∀ s a bs, I s bs → P s → P (step s a) → I (step s a) (bs ++ out s a)) :
    I (run step s acts) (outputs step out s acts) := by
  suffices hgen : ∀ bs, I s bs → I (run step s acts) (bs ++ outputs step out s acts) from
    hgen [] hs
  clear hs
  induction acts generalizing s with
  | nil =>
    intro bs hs
    rwa [outputs, List.append_nil]
  | cons a acts ih =>
    intro bs hs
    rw [outputs, ← List.append_assoc]
    exact ih h.2 _ (hstep s a bs hs h.1 h.2.head)

theorem run_invariant (hs : I s) (hstep : ∀ s a, I s → I (step s a))
    (acts : List A) : I (run step s acts) :=
  (Along.true s acts).invariant hs fun s a hI _ => hstep s a hI

end

end Frame
