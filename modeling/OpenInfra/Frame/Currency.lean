import OpenInfra.Frame.Storage

namespace Frame
open Function List

/-- One untagged reserve for each account; what could not be moved is returned. -/
structure ReservableCurrency (A Ledger : Type) where
  reservedBalance : Ledger → A → Nat
  reserve : Ledger → A → Nat → Option Ledger
  unreserve : Ledger → A → Nat → Ledger × Nat
  repatriateReserved : Ledger → A → A → Nat → Option (Ledger × Nat)
  slashReserved : Ledger → A → Nat → Ledger × Nat

namespace ReservableCurrency
variable {A Ledger : Type} [DecidableEq A]

/-- `L'` is `L` with `v` taken from the reserve of `a`, as far as it reaches. -/
def Taken (C : ReservableCurrency A Ledger) (L L' : Ledger) (a : A) (v : Nat) :
    Prop :=
  C.reservedBalance L' = Function.update (C.reservedBalance L) a (C.reservedBalance L a - v)

/-- `reserve` is all or nothing; the others report what they miss. -/
structure Lawful (C : ReservableCurrency A Ledger) : Prop where
  reserve_spec : ∀ {L L' a v}, C.reserve L a v = some L' →
    C.reservedBalance L a + v ≤ maxValue 64 ∧
      C.reservedBalance L' = Function.update (C.reservedBalance L) a (C.reservedBalance L a + v)
  unreserve_spec : ∀ L a v, C.Taken L (C.unreserve L a v).1 a v ∧
    (C.unreserve L a v).2 = v - C.reservedBalance L a
  repatriate_spec : ∀ {L a b v r}, C.repatriateReserved L a b v = some r →
    C.Taken L r.1 a v ∧ r.2 = v - C.reservedBalance L a
  slash_spec : ∀ L a v, C.Taken L (C.slashReserved L a v).1 a v ∧
    (C.slashReserved L a v).2 = v - C.reservedBalance L a

structure Credits (C : ReservableCurrency A Ledger) (free : Ledger → A → Nat) :
    Prop where
  unreserve : ∀ L a v, free (C.unreserve L a v).1 =
    Function.update (free L) a (free L a + (v - (C.unreserve L a v).2))
  repatriate : ∀ {L a b v r}, C.repatriateReserved L a b v = some r →
    free r.1 = Function.update (free L) b (free L b + (v - r.2))

/-- `C'` does what `C` does wherever the reserve covers what is asked for. -/
structure AgreesCovered (C C' : ReservableCurrency A Ledger) : Prop where
  reservedBalance : C'.reservedBalance = C.reservedBalance
  unreserve : ∀ {L a v}, v ≤ C.reservedBalance L a → C'.unreserve L a v = C.unreserve L a v
  repatriate : ∀ {L a b v}, v ≤ C.reservedBalance L a →
    C'.repatriateReserved L a b v = C.repatriateReserved L a b v

inductive Movement (A : Type) where
  | reserved (who : A) (amount : Nat)
  | unreserved (who : A) (amount : Nat)
  | repatriated (source target : A) (amount : Nat)
  | slashed (who : A) (amount : Nat)
  deriving DecidableEq

def Movement.out : Movement A → Nat
  | .reserved _ _ => 0
  | .unreserved _ v => v
  | .repatriated _ _ v => v
  | .slashed _ v => v

def Movement.DrawsOn (a : A) : Movement A → Prop
  | .reserved _ _ => False
  | .unreserved who _ => who = a
  | .repatriated source _ _ => source = a
  | .slashed who _ => who = a

def released (ms : List (Movement A)) : Nat := (ms.map Movement.out).sum

/-- `L'` comes from `L` by operations that moved `ms`. -/
inductive Trace (C : ReservableCurrency A Ledger) :
    Ledger → List (Movement A) → Ledger → Prop where
  | nil (L : Ledger) : Trace C L [] L
  | reserve (h : C.reserve L a v = some L') (ht : Trace C L' ms L'') :
      Trace C L (.reserved a v :: ms) L''
  | unreserve (ht : Trace C (C.unreserve L a v).1 ms L') :
      Trace C L (.unreserved a (v - (C.unreserve L a v).2) :: ms) L'
  | repatriate (h : C.repatriateReserved L a b v = some r) (ht : Trace C r.1 ms L') :
      Trace C L (.repatriated a b (v - r.2) :: ms) L'
  | slash (ht : Trace C (C.slashReserved L a v).1 ms L') :
      Trace C L (.slashed a (v - (C.slashReserved L a v).2) :: ms) L'

variable {C : ReservableCurrency A Ledger}

theorem Trace.append (h : Trace C L ms L')
    (h' : Trace C L' ms' L'') : Trace C L (ms ++ ms') L'' := by
  induction h with
  | nil => exact h'
  | reserve hr _ ih => exact .reserve hr (ih h')
  | unreserve _ ih => exact .unreserve (ih h')
  | repatriate hr _ ih => exact .repatriate hr (ih h')
  | slash _ ih => exact .slash (ih h')

@[simp] theorem released_nil : released ([] : List (Movement A)) = 0 := rfl

@[simp] theorem released_cons (m : Movement A) (ms : List (Movement A)) :
    released (m :: ms) = m.out + released ms := sum_cons

@[simp] theorem released_append (ms ms' : List (Movement A)) :
    released (ms ++ ms') = released ms + released ms' := by
  rw [released, map_append, sum_append, released, released]

theorem released_reverse (ms : List (Movement A)) : released ms.reverse = released ms := by
  rw [released, map_reverse, sum_reverse, released]

theorem Taken.release (h : C.Taken L L' a v) (hn : n ≤ C.reservedBalance L' a) :
    v - (v - C.reservedBalance L a) + n ≤ C.reservedBalance L a ∧
      update (C.reservedBalance L') a (C.reservedBalance L' a - n) =
        update (C.reservedBalance L) a
          (C.reservedBalance L a - (v - (v - C.reservedBalance L a) + n)) := by
  rw [h, update_self] at hn ⊢
  refine ⟨by omega, ?_⟩
  rw [update_idem]
  congr 1
  omega

theorem Trace.release (hC : C.Lawful) (h : Trace C L ms L') (hm : ∀ m ∈ ms, m.DrawsOn a) :
    released ms ≤ C.reservedBalance L a ∧ C.reservedBalance L' =
      update (C.reservedBalance L) a (C.reservedBalance L a - released ms) := by
  induction h with
  | nil L => exact ⟨Nat.zero_le _, (update_eq_self a _).symm⟩
  | reserve => exact (hm _ (.head _)).elim
  | @unreserve L x v ms L' _ ih =>
    obtain rfl : x = a := hm _ (.head _)
    obtain ⟨hle, he⟩ := ih fun m hmem => hm m (.tail _ hmem)
    obtain ⟨ht, hr⟩ := hC.unreserve_spec L x v
    rw [released_cons, Movement.out, hr, he]
    exact ht.release hle
  | @repatriate L x b v r ms L' hx _ ih =>
    obtain rfl : x = a := hm _ (.head _)
    obtain ⟨hle, he⟩ := ih fun m hmem => hm m (.tail _ hmem)
    obtain ⟨ht, hr⟩ := hC.repatriate_spec hx
    rw [released_cons, Movement.out, hr, he]
    exact ht.release hle
  | @slash L x v ms L' _ ih =>
    obtain rfl : x = a := hm _ (.head _)
    obtain ⟨hle, he⟩ := ih fun m hmem => hm m (.tail _ hmem)
    obtain ⟨ht, hr⟩ := hC.slash_spec L x v
    rw [released_cons, Movement.out, hr, he]
    exact ht.release hle

def recording (C : ReservableCurrency A Ledger) :
    ReservableCurrency A (Ledger × List (Movement A)) where
  reservedBalance L := C.reservedBalance L.1
  reserve L a v := (C.reserve L.1 a v).map fun L' => (L', .reserved a v :: L.2)
  unreserve L a v :=
    let r := C.unreserve L.1 a v
    ((r.1, .unreserved a (v - r.2) :: L.2), r.2)
  repatriateReserved L a b v :=
    (C.repatriateReserved L.1 a b v).map fun r => ((r.1, .repatriated a b (v - r.2) :: L.2), r.2)
  slashReserved L a v :=
    let r := C.slashReserved L.1 a v
    ((r.1, .slashed a (v - r.2) :: L.2), r.2)

theorem Trace.recorded (h : Trace C.recording L ms L') : L'.2 = ms.reverse ++ L.2 := by
  induction h with
  | nil => rfl
  | reserve hr _ ih =>
    obtain ⟨M, _, rfl⟩ := Option.map_eq_some_iff.1 hr
    rw [ih, reverse_cons, append_assoc]
    rfl
  | unreserve _ ih =>
    rw [ih, reverse_cons, append_assoc]
    rfl
  | repatriate hr _ ih =>
    obtain ⟨M, _, rfl⟩ := Option.map_eq_some_iff.1 hr
    rw [ih, reverse_cons, append_assoc]
    rfl
  | slash _ ih =>
    rw [ih, reverse_cons, append_assoc]
    rfl

theorem Lawful.recording (h : C.Lawful) :
    C.recording.Lawful where
  reserve_spec := by
    intro L L' a v hr
    obtain ⟨M, hM, rfl⟩ := Option.map_eq_some_iff.1 hr
    exact h.reserve_spec hM
  unreserve_spec L a v := h.unreserve_spec L.1 a v
  repatriate_spec := by
    intro L a b v r hr
    obtain ⟨M, hM, rfl⟩ := Option.map_eq_some_iff.1 hr
    exact h.repatriate_spec hM
  slash_spec L a v := h.slash_spec L.1 a v

end ReservableCurrency

structure Balances (A : Type) where
  free : A → Nat
  reserved : A → Nat

namespace Balances
variable {A : Type} [DecidableEq A]

def reserve (L : Balances A) (a : A) (v : Nat) : Option (Balances A) :=
  if v ≤ L.free a ∧ L.reserved a + v ≤ maxValue 64 then
    some ⟨Function.update L.free a (L.free a - v), Function.update L.reserved a (L.reserved a + v)⟩
  else none

def unreserve (L : Balances A) (a : A) (v : Nat) : Balances A × Nat :=
  (⟨Function.update L.free a (L.free a + min v (L.reserved a)),
    Function.update L.reserved a (L.reserved a - v)⟩, v - L.reserved a)

def repatriateReserved (L : Balances A) (a b : A) (v : Nat) :
    Option (Balances A × Nat) :=
  if v = 0 then some (L, 0)
  else if a ≠ b ∧ L.free b = 0 ∧ L.reserved b = 0 then none
  else some (⟨Function.update L.free b (L.free b + min v (L.reserved a)),
    Function.update L.reserved a (L.reserved a - v)⟩, v - L.reserved a)

def slashReserved (L : Balances A) (a : A) (v : Nat) : Balances A × Nat :=
  (⟨L.free, Function.update L.reserved a (L.reserved a - v)⟩, v - L.reserved a)

def currency : ReservableCurrency A (Balances A) where
  reservedBalance := Balances.reserved
  reserve := reserve
  unreserve := unreserve
  repatriateReserved := repatriateReserved
  slashReserved := slashReserved

theorem currency_lawful :
    (currency : ReservableCurrency A (Balances A)).Lawful where
  reserve_spec := by
    intro L L' a v h
    obtain ⟨⟨_, hv⟩, he⟩ := Option.ite_none_right_eq_some.1 h
    cases he
    exact ⟨hv, rfl⟩
  unreserve_spec _ _ _ := ⟨rfl, rfl⟩
  repatriate_spec := by
    intro L a b v r h
    change repatriateReserved L a b v = some r at h
    unfold repatriateReserved at h
    split at h
    · cases h
      subst v
      exact ⟨(update_eq_self a _).symm, (Nat.zero_sub _).symm⟩
    · obtain ⟨_, he⟩ := Option.ite_none_left_eq_some.1 h
      cases he
      exact ⟨rfl, rfl⟩
  slash_spec _ _ _ := ⟨rfl, rfl⟩

theorem currency_credits :
    (currency : ReservableCurrency A (Balances A)).Credits Balances.free where
  unreserve L a v := by
    have hmoved : min v (L.reserved a) = v - (v - L.reserved a) := by omega
    exact congrArg (fun w => update L.free a (L.free a + w)) hmoved
  repatriate := by
    intro L a b v r h
    change repatriateReserved L a b v = some r at h
    unfold repatriateReserved at h
    split at h
    · cases h
      subst v
      exact (update_eq_self b _).symm
    · obtain ⟨_, he⟩ := Option.ite_none_left_eq_some.1 h
      cases he
      have hmoved : min v (L.reserved a) = v - (v - L.reserved a) := by omega
      exact congrArg (fun w => update L.free b (L.free b + w)) hmoved

end Balances

end Frame
