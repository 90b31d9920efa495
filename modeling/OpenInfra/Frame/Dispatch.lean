import OpenInfra.Frame.Arithmetic

namespace Frame

def ensure (p : Prop) [Decidable p] (e : ε) : Except ε Unit :=
  if p then .ok () else .error e

def okOr (x : Option α) (e : ε) : Except ε α :=
  match x with
  | some a => .ok a
  | none => .error e

def commit (s : σ) (r : Except ε σ) : σ :=
  match r with
  | .ok s' => s'
  | .error _ => s

@[simp] theorem commit_ok (s s' : σ) : commit s (.ok s' : Except ε σ) = s' := rfl

@[simp] theorem commit_error (s : σ) (e : ε) : commit s (.error e) = s := rfl

variable {x : Except ε α} {f : α → Except ε β} {p : Prop} {e e' : ε} {y : Except ε β}

theorem bind_eq_ok : x >>= f = .ok b ↔ ∃ a, x = .ok a ∧ f a = .ok b := by
  cases x with
  | error e => simp only [reduceCtorEq, false_and, exists_false, iff_false]; exact nofun
  | ok a => simp only [Except.ok.injEq, exists_eq_left']; rfl

theorem bind_eq_map {f : β → γ}
    (h : ∀ a, x = .ok a → g a = (g' a).map f) : x >>= g = (x >>= g').map f := by
  cases x with
  | error e => rfl
  | ok a => exact h a rfl

@[simp] theorem ensure_eq_ok [Decidable p] : ensure p e = .ok u ↔ p := by
  unfold ensure
  split <;> simp only [*, reduceCtorEq]

@[simp] theorem okOr_eq_ok {x : Option α} : okOr x e = .ok a ↔ x = some a := by
  cases x <;> simp only [okOr, reduceCtorEq, Except.ok.injEq, Option.some.injEq]

theorem ensure_eq_error [Decidable p] : ensure p e = .error e' ↔ ¬ p ∧ e = e' := by
  unfold ensure
  split <;> simp only [*, reduceCtorEq, not_true, not_false_eq_true, false_and, true_and,
    Except.error.injEq]

theorem okOr_eq_error {x : Option α} : okOr x e = .error e' ↔ x = none ∧ e = e' := by
  cases x <;> simp only [okOr, reduceCtorEq, Except.error.injEq, false_and, true_and]

def failure : Except ε α → Option ε
  | .ok _ => none
  | .error e => some e

theorem failure_eq_some : failure x = some e ↔ x = .error e := by
  cases x <;> simp only [failure, reduceCtorEq, Option.some.injEq, Except.error.injEq]

theorem bind_ne_error (hx : x ≠ .error e)
    (hf : ∀ a, x = .ok a → f a ≠ .error e) : x >>= f ≠ .error e := by
  cases x with
  | error e' => exact fun h => hx (congrArg _ (Except.error.inj h))
  | ok a => exact hf a rfl

theorem bind_eq_error_iff (hf : ∀ a, f a ≠ .error e) : x >>= f = .error e ↔ x = .error e := by
  cases x with
  | error e' => exact ⟨fun h => congrArg _ (Except.error.inj h), fun h => congrArg _
      (Except.error.inj h)⟩
  | ok a => exact ⟨fun h => absurd h (hf a), nofun⟩

theorem bind_of_ok (hx : x = .ok a) : x >>= f = f a := by
  rw [hx]
  rfl

theorem ensure_bind [Decidable p] {f : Unit → Except ε β} (h : p) :
    ensure p e >>= f = f () := bind_of_ok (ensure_eq_ok.2 h)

theorem okOr_bind {x : Option α} (h : x = some a) :
    okOr x e >>= f = f a := bind_of_ok (okOr_eq_ok.2 h)

theorem okOr_none_bind {x : Option α} (h : x = none) : okOr x e >>= f = .error e := by
  rw [h]
  rfl

theorem ensure_ne_error [Decidable p] (h : e ≠ e') :
    ensure p e ≠ .error e' := fun hp => h (ensure_eq_error.1 hp).2

theorem okOr_ne_error {x : Option α} (h : e ≠ e') : okOr x e ≠ .error e' :=
  fun hx => h (okOr_eq_error.1 hx).2

theorem isOk_iff : x.isOk ↔ ∃ a, x = .ok a := by
  cases x with
  | error e => exact ⟨nofun, nofun⟩
  | ok a => exact ⟨fun _ => ⟨a, rfl⟩, fun _ => rfl⟩

def Yields (x : Except ε α) (P : α → Prop) : Prop := ∀ a, x = .ok a → P a

namespace Yields
variable {x : Except ε α} {f : α → Except ε β} {P : β → Prop}

theorem ok (h : P b) : Yields (.ok b : Except ε β) P := by
  intro a ha
  cases ha
  exact h

theorem error (e : ε) : Yields (.error e : Except ε β) P := nofun

theorem bind (h : ∀ a, x = .ok a → Yields (f a) P) : Yields (x >>= f) P := by
  intro b hb
  obtain ⟨a, ha, hf⟩ := bind_eq_ok.1 hb
  exact h a ha b hf

theorem of_isOk (h : y.isOk → Yields y P) : Yields y P := fun b hb => h (isOk_iff.2 ⟨b, hb⟩) b hb

theorem commit (h : Yields y P) (hs : P b) : P (commit b y) := by
  cases y with
  | error e => exact hs
  | ok b' => exact h b' rfl

end Yields

def FailsWith (x : Except ε α) (e : ε) : Prop := ∀ e', x = .error e' → e' = e

namespace FailsWith
variable {x : Except ε α} {f : α → Except ε β} {e : ε}

theorem ok (a : α) : FailsWith (.ok a : Except ε α) e := nofun

theorem error : FailsWith (.error e : Except ε α) e := by
  intro e' h
  cases h
  rfl

theorem okOr : FailsWith (okOr o e) e := fun _ h => (okOr_eq_error.1 h).2.symm

theorem bind (hx : FailsWith x e) (hf : ∀ a, FailsWith (f a) e) : FailsWith (x >>= f) e := by
  intro e' h
  cases x with
  | error e'' => exact hx e' (congrArg _ (Except.error.inj h))
  | ok a => exact hf a e' h

theorem eq_error_iff (h : FailsWith x e) : x = .error e ↔ ¬ ∃ a, x = .ok a := by
  cases x with
  | error e' =>
    cases h e' rfl
    exact ⟨fun _ => nofun, fun _ => rfl⟩
  | ok a => exact ⟨nofun, fun hnone => absurd ⟨a, rfl⟩ hnone⟩

theorem ne_error (h : FailsWith x e) (hne : e' ≠ e) : x ≠ .error e' := fun he => hne (h e' he)

end FailsWith

theorem forM_eq_ok {f : α → Except ε Unit} {as : List α} {u : Unit} :
    as.forM f = .ok u ↔ ∀ a ∈ as, f a = .ok () := by
  induction as with
  | nil => exact ⟨fun _ => nofun, fun _ => rfl⟩
  | cons a as ih =>
    simp only [List.forM, bind_eq_ok, ih, List.mem_cons, forall_eq_or_imp]
    exact ⟨fun ⟨_, ha, has⟩ => ⟨ha, has⟩, fun ⟨ha, has⟩ => ⟨(), ha, has⟩⟩

end Frame
