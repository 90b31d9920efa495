import Mathlib.Data.List.Basic

namespace Frame

structure Entry (V : Type) where
  value : V
  previous : V
  inForce : Bool
  retractable : Bool

namespace Journal
variable {V : Type}

def current (base : V) (es : List (Entry V)) : V :=
  ((es.find? (·.inForce)).map (·.value)).getD base

def Remembers (base : V) : List (Entry V) → Prop
  | [] => True
  | e :: es => (e.retractable → e.inForce ∧ e.previous = current base es) ∧ Remembers base es

def Idle (es : List (Entry V)) : Prop := ∀ e ∈ es, e.inForce = false

/-- Retract the entry in force, or restore one that nothing overrides. -/
inductive Step : V × List (Entry V) → V × List (Entry V) → Prop where
  | rest (x : V × List (Entry V)) : Step x x
  | publish (v c : V) (es : List (Entry V)) : Step (c, es) (v, ⟨v, c, true, true⟩ :: es)
  | retract (c : V) {later earlier : List (Entry V)} (e : Entry V) (hidle : Idle later)
      (he : e.retractable) :
      Step (c, later ++ e :: earlier)
        (e.previous, later ++ { e with inForce := false, retractable := false } :: earlier)
  | restore (c : V) {later earlier : List (Entry V)} (e : Entry V) (hidle : Idle later)
      (he : e.retractable = false) :
      Step (c, later ++ e :: earlier) (e.value, later ++ { e with inForce := true } :: earlier)

variable {base : V} {es later earlier : List (Entry V)} {e e' : Entry V}

theorem current_append (h : Idle later) : current base (later ++ es) = current base es := by
  have hnone : later.find? (·.inForce) = none := by
    rw [List.find?_eq_none]
    intro e he hf
    cases (h e he).symm.trans hf
  rw [current, List.find?_append, hnone, Option.none_or, current]

theorem current_cons_inForce (h : e.inForce) : current base (e :: es) = e.value := by
  rw [current, List.find?_cons_of_pos h]
  rfl

theorem current_cons_idle (h : e.inForce = false) : current base (e :: es) = current base es := by
  have hidle : Idle [e] := fun _ he => List.mem_singleton.1 he ▸ h
  exact current_append hidle

theorem Remembers.of_append (h : Remembers base (later ++ es)) : Remembers base es := by
  induction later with
  | nil => exact h
  | cons e later ih => exact ih h.2

theorem Remembers.replace (h : Remembers base (later ++ e :: earlier)) (hidle : Idle later)
    (he : e'.retractable = false) : Remembers base (later ++ e' :: earlier) := by
  induction later with
  | nil => exact ⟨fun hr => absurd (he.symm.trans hr) Bool.false_ne_true, h.2⟩
  | cons x later ih =>
    refine ⟨fun hr => ?_, ih h.2 fun y hy => hidle y (.tail _ hy)⟩
    cases (hidle x (.head _)).symm.trans (h.1 hr).1

/-- The value is what its journal says. -/
def Faithful (base : V) (x : V × List (Entry V)) : Prop :=
  x.1 = current base x.2 ∧ Remembers base x.2

theorem Step.faithful (hs : Step x y) (h : Faithful base x) : Faithful base y := by
  obtain ⟨hc, hr⟩ := h
  cases hs with
  | rest => exact ⟨hc, hr⟩
  | publish v c es => exact ⟨rfl, fun _ => ⟨rfl, hc⟩, hr⟩
  | retract c e hidle he =>
    refine ⟨?_, hr.replace hidle rfl⟩
    dsimp only
    rw [current_append hidle, current_cons_idle rfl, (hr.of_append.1 he).2]
  | restore c e hidle he =>
    refine ⟨?_, hr.replace hidle he⟩
    dsimp only
    rw [current_append hidle, current_cons_inForce rfl]

end Journal

end Frame
