import Mathlib.Tactic

namespace Frame

inductive Program (Request : Type) (Reply : Request → Type) (A : Type) where
  | ret (a : A)
  | call (q : Request) (k : Reply q → Program Request Reply A)

namespace Program
variable {Request : Type} {Reply : Request → Type} {A B : Type}

def bind (p : Program Request Reply A) (f : A → Program Request Reply B) :
    Program Request Reply B :=
  match p with
  | .ret a => f a
  | .call q k => .call q fun r => (k r).bind f

instance : Monad (Program Request Reply) where
  pure := .ret
  bind := bind

def ask (q : Request) : Program Request Reply (Reply q) := .call q .ret

def next : Program Request Reply A → Option Request
  | .ret _ => none
  | .call q _ => some q

def result : Program Request Reply A → Option A
  | .ret a => some a
  | .call .. => none

theorem eq_ret_of_result {p : Program Request Reply A} {a : A} (h : p.result = some a) :
    p = .ret a := by
  cases p with
  | ret b => exact congrArg ret (Option.some.inj h)
  | call q k => cases h

def finished : Program Request Reply A → Bool
  | .ret _ => true
  | .call .. => false

def exec (answer : (q : Request) → S → Reply q × S) : Program Request Reply A → S → A × S
  | .ret a, s => (a, s)
  | .call q k, s => exec answer (k (answer q s).1) (answer q s).2

theorem exec_ask (answer : (q : Request) → S → Reply q × S) (q : Request) (s : S) :
    exec answer (ask q) s = answer q s := rfl

theorem exec_bind (answer : (q : Request) → S → Reply q × S) (p : Program Request Reply A)
    (f : A → Program Request Reply B) (s : S) :
    exec answer (p >>= f) s = exec answer (f (exec answer p s).1) (exec answer p s).2 := by
  induction p generalizing s with
  | ret a => rfl
  | call q k ih => exact ih (answer q s).1 (answer q s).2

end Program

/-- What a program may ask after what it has been told. -/
structure Protocol (Request : Type) (Reply : Request → Type) where
  State : Type
  allows : State → Request → Prop
  expects : (q : Request) → Reply q → Prop
  next : State → (q : Request) → Reply q → State

namespace Program
variable {Request : Type} {Reply : Request → Type} {A B : Type} {P : Protocol Request Reply}
  {c : P.State}

/-- Every path of a program asks only what is allowed and ends as `Q` says. -/
def Follows (P : Protocol Request Reply) (Q : P.State → A → Prop) :
    P.State → Program Request Reply A → Prop
  | c, .ret a => Q c a
  | c, .call q k => P.allows c q ∧ ∀ r, P.expects q r → Follows P Q (P.next c q r) (k r)

namespace Follows

variable {Q : P.State → A → Prop} {p : Program Request Reply A}

theorem ret (h : Q c a) : Follows P Q c (.ret a) := h

theorem ask {Q : P.State → Reply q → Prop} (h : P.allows c q)
    (hr : ∀ r, P.expects q r → Q (P.next c q r) r) : Follows P Q c (Program.ask q) := ⟨h, hr⟩

theorem mono {Q Q' : P.State → A → Prop} (h : Follows P Q c p)
    (hQ : ∀ c a, Q c a → Q' c a) : Follows P Q' c p := by
  induction p generalizing c with
  | ret a => exact hQ c a h
  | call q k ih => exact ⟨h.1, fun r hr => ih r (h.2 r hr)⟩

theorem reply
    (h : Follows P Q c (.call q k)) (hr : P.expects q r) : Follows P Q (P.next c q r) (k r) :=
  h.2 r hr

theorem bind {Q : P.State → B → Prop} (hp : Follows P R c p)
    (hf : ∀ c a, R c a → Follows P Q c (f a)) : Follows P Q c (p >>= f) := by
  induction p generalizing c with
  | ret a => exact hf c a hp
  | call q k ih => exact ⟨hp.1, fun r hr => ih r (hp.2 r hr)⟩

end Follows

end Program

end Frame
