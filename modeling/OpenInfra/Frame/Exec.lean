import OpenInfra.Frame.Dispatch

namespace Frame

def Exec (S E A : Type) : Type := S → Except E A × S

namespace Exec
variable {S E A B : Type}

instance : Monad (Exec S E) where
  pure a := fun s => (.ok a, s)
  bind m f := fun s =>
    match m s with
    | (.ok a, t) => f a t
    | (.error e, t) => (.error e, t)

def fail (e : E) : Exec S E A := fun s => (.error e, s)

def get : Exec S E S := fun s => (.ok s, s)

def modify (f : S → S) : Exec S E Unit := fun s => (.ok (), f s)

def lift (x : Except E A) : Exec S E A := fun s => (x, s)

def attempt (m : Exec S E A) : Exec S E (Except E A) := fun s => (.ok (m s).1, (m s).2)

def Meets (P : S → Prop) (m : Exec S E A) (Q : Except E A → S → Prop) : Prop :=
  ∀ s, P s → Q (m s).1 (m s).2

def Then (R : A → S → Prop) (Q : E → S → Prop) : Except E A → S → Prop
  | .ok a, s => R a s
  | .error e, s => Q e s

theorem Then.mono {R R' : A → S → Prop} {Q Q' : E → S → Prop} (hR : ∀ a s, R a s → R' a s)
    (hQ : ∀ e s, Q e s → Q' e s) (r : Except E A) (s : S) (h : Then R Q r s) : Then R' Q' r s := by
  cases r with
  | ok a => exact hR a s h
  | error e => exact hQ e s h

theorem Then.exists_ok {R : A → S → Prop} {r : Except E A × S}
    (h : Then R (fun _ _ => False) r.1 r.2) : ∃ a t, r = (.ok a, t) ∧ R a t := by
  obtain ⟨e | a, t⟩ := r
  · exact h.elim
  · exact ⟨a, t, rfl, h⟩

namespace Meets
variable {P : S → Prop} {m : Exec S E A} {f : A → Exec S E B} {Q : Except E B → S → Prop}

theorem pure (h : ∀ s, P s → Q (.ok b) s) : Meets P (Pure.pure b) Q := h

theorem fail (h : ∀ s, P s → Q (.error e) s) : Meets P (Exec.fail e) Q := h

theorem get {Q : Except E S → S → Prop} (h : ∀ s, P s → Q (.ok s) s) : Meets P Exec.get Q := h

theorem modify {g : S → S} {Q : Except E Unit → S → Prop} (h : ∀ s, P s → Q (.ok ()) (g s)) :
    Meets P (Exec.modify g) Q := h

theorem attempt {Q : Except E (Except E A) → S → Prop}
    (h : Meets P m fun r s => Q (.ok r) s) : Meets P (Exec.attempt m) Q := h

theorem bind (R : A → S → Prop) (hm : Meets P m (Then R fun e s => Q (.error e) s))
    (hf : ∀ a, Meets (R a) (f a) Q) : Meets P (m >>= f) Q := by
  intro s hs
  have h := hm s hs
  change Q (match m s with
    | (.ok a, t) => f a t
    | (.error e, t) => (.error e, t)).1 (match m s with
    | (.ok a, t) => f a t
    | (.error e, t) => (.error e, t)).2
  split
  · rename_i a t heq
    rw [heq] at h
    exact hf a t h
  · rename_i e t heq
    rw [heq] at h
    exact h

theorem mono {P' : S → Prop} {Q' : Except E A → S → Prop} {Q : Except E A → S → Prop}
    (h : Meets P m Q) (hP : ∀ s, P' s → P s) (hQ : ∀ r s, Q r s → Q' r s) : Meets P' m Q' :=
  fun s hs => hQ _ _ (h s (hP s hs))

/-- What cannot fail meets any condition on its failures. -/
theorem infallible {R : A → S → Prop} {Q : E → S → Prop}
    (h : Meets P m (Then R fun _ _ => False)) : Meets P m (Then R Q) :=
  h.mono (fun _ => id) (Then.mono (fun _ _ => id) fun _ _ => False.elim)

theorem assume {p : Prop} {Q : Except E A → S → Prop} (h : p → Meets P m Q) :
    Meets (fun s => p ∧ P s) m Q := fun s hs => h hs.1 s hs.2

variable {I : S → Prop} {g : B → Exec S E PUnit} {bs : List B}

theorem keep_bind (hm : Meets I m fun _ => I) (hI : ∀ e s, I s → Q (.error e) s)
    (hf : ∀ a, Meets I (f a) Q) : Meets I (m >>= f) Q := by
  refine bind (fun _ => I) (hm.mono (fun _ => id) ?_) hf
  rintro (e | a) s hs
  · exact hI e s hs
  · exact hs

theorem keep (hm : Meets I m fun _ => I) (hf : ∀ a, Meets I (f a) fun _ => I) :
    Meets I (m >>= f) fun _ => I := hm.keep_bind (fun _ _ => id) hf

theorem lift_bind (herr : ∀ e, x = .error e → ∀ s, P s → Q (.error e) s)
    (hf : ∀ a, x = .ok a → Meets P (f a) Q) : Meets P (Exec.lift x >>= f) Q := by
  cases x with
  | ok a => exact hf a rfl
  | error e => exact herr e rfl

theorem get_bind {f : S → Exec S E B} (h : ∀ s, P s → Meets (· = s) (f s) Q) :
    Meets P (Exec.get >>= f) Q := fun s hs => h s hs s rfl

theorem read_bind {f : S → Exec S E B} (h : ∀ s, P s → Meets P (f s) Q) :
    Meets P (Exec.get >>= f) Q := fun s hs => h s hs s hs

theorem forM_mem
    (h : ∀ b ∈ bs, Meets I (g b) fun _ => I) : Meets I (bs.forM g) fun _ => I := by
  induction bs with
  | nil => exact fun s hs => hs
  | cons b bs ih =>
    exact (h b List.mem_cons_self).keep fun _ => ih fun b hb => h b (List.mem_cons_of_mem _ hb)

theorem forM
    (h : ∀ b, Meets I (g b) fun _ => I) (bs : List B) : Meets I (bs.forM g) fun _ => I :=
  forM_mem fun b _ => h b

theorem forM_rounds {I : List B → S → Prop} (h : ∀ done b, done ++ [b] <+: bs →
      Meets (I done) (g b) (Then (fun _ => I (done ++ [b])) F)) :
    Meets (I []) (bs.forM g) (Then (fun _ => I bs) F) := by
  suffices hrest : ∀ rest done, done ++ rest = bs →
      Meets (I done) (rest.forM g) (Then (fun _ => I bs) F) from hrest bs [] rfl
  intro rest
  induction rest with
  | nil =>
    intro done hdone
    rw [← hdone, List.append_nil]
    exact fun s hs => hs
  | cons b rest ih =>
    intro done hdone
    have hdone' : done ++ [b] ++ rest = bs := by rw [List.append_assoc]; exact hdone
    exact (h done b ⟨rest, hdone'⟩).bind (fun _ => I (done ++ [b])) fun _ => ih _ hdone'

theorem foldlM_mem {g : A → B → Exec S E A}
    (h : ∀ a, ∀ b ∈ bs, Meets I (g a b) fun _ => I) (a : A) :
    Meets I (bs.foldlM g a) fun _ => I := by
  induction bs generalizing a with
  | nil => exact fun s hs => hs
  | cons b bs ih =>
    exact (h a b List.mem_cons_self).keep (ih fun a b hb => h a b (List.mem_cons_of_mem _ hb))

theorem foldlM {g : A → B → Exec S E A}
    (h : ∀ a b, Meets I (g a b) fun _ => I) (bs : List B) (a : A) :
    Meets I (bs.foldlM g a) fun _ => I := foldlM_mem (fun a b _ => h a b) a

end Meets

theorem bind_of_ok {m : Exec S E A} {f : A → Exec S E B} (h : m s = (.ok a, t)) :
    (m >>= f) s = f a t := by
  change (match m s with
    | (.ok a, t) => f a t
    | (.error e, t) => (.error e, t)) = _
  rw [h]

theorem bind_of_error {m : Exec S E A} {f : A → Exec S E B} (h : m s = (.error e, t)) :
    (m >>= f) s = (.error e, t) := by
  change (match m s with
    | (.ok a, t) => f a t
    | (.error e, t) => (.error e, t)) = _
  rw [h]

theorem get_bind (f : S → Exec S E A) (s : S) : (get >>= f) s = f s s := rfl

theorem forM_eq_foldlM (f : B → Exec S E PUnit) (bs : List B) :
    bs.forM f = bs.foldlM (fun _ b => f b) ⟨⟩ := by
  induction bs with
  | nil => rfl
  | cons b bs ih => exact congrArg (f b >>= ·) (funext fun _ => ih)

theorem bind_eq_ok {m : Exec S E A} {f : A → Exec S E B} :
    (m >>= f) s = (.ok b, t) ↔ ∃ a u, m s = (.ok a, u) ∧ f a u = (.ok b, t) := by
  change (match m s with
    | (.ok a, t) => f a t
    | (.error e, t) => (.error e, t)) = _ ↔ _
  split
  · rename_i a u heq
    rw [heq]
    constructor
    · intro h
      exact ⟨a, u, rfl, h⟩
    · rintro ⟨a', u', h, hf⟩
      cases h
      exact hf
  · rename_i e u heq
    rw [heq]
    constructor
    · intro h
      cases h
    · rintro ⟨a, u', h, _⟩
      cases h

end Exec

end Frame
