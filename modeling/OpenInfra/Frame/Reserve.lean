import Mathlib.Algebra.BigOperators.Group.Finset.Basic
import Mathlib.Algebra.Order.BigOperators.Group.Multiset
import OpenInfra.Frame.Arithmetic

namespace Frame
open Function

/-- One untagged reserve that backs counted drafts and deposits of several kinds. -/
structure ReserveAccount (ι : Type) where
  reserved : Nat
  drafts : Multiset Nat
  counter : Nat
  deposit : ι → Option Nat

namespace ReserveAccount
variable {ι : Type} [Fintype ι] [DecidableEq ι]

def deposited (d : ι → Option Nat) : Nat := ∑ i, (d i).getD 0

def Solvent (h : ReserveAccount ι) : Prop := h.reserved = h.drafts.sum + deposited h.deposit

def Exclusive (h : ReserveAccount ι) : Prop :=
  ∀ i, (h.deposit i).isSome → h.drafts = 0 ∧ ∀ j, (h.deposit j).isSome → j = i

instance (h : ReserveAccount ι) : Decidable h.Exclusive :=
  inferInstanceAs (Decidable (∀ i, (h.deposit i).isSome →
    h.drafts = 0 ∧ ∀ j, (h.deposit j).isSome → j = i))

def Counted (h : ReserveAccount ι) : Prop := h.counter = h.drafts.card

inductive Slash : ReserveAccount ι → ReserveAccount ι → Prop where
  | mk {h : ReserveAccount ι} (i : ι) (d v : Nat) (hi : h.deposit i = some d) :
      Slash h { h with
        reserved := h.reserved - v
        deposit := Function.update h.deposit i (some (d - min v h.reserved)) }

/-- Whoever opens a draft checks the deposits; whoever makes a deposit trusts the counter. -/
inductive Step : ReserveAccount ι → ReserveAccount ι → Prop where
  | fund {h : ReserveAccount ι} (v : Nat) (hd : ∀ i, h.deposit i = none) :
      Step h { h with
        reserved := h.reserved + v
        drafts := v ::ₘ h.drafts
        counter := saturatingAdd 32 h.counter 1 }
  | draw {h : ReserveAccount ι} (c v : Nat) (rest : Multiset Nat) (hc : h.drafts = c ::ₘ rest)
      (hv : v ≤ c) :
      Step h { h with reserved := h.reserved - v, drafts := (c - v) ::ₘ rest }
  | close {h : ReserveAccount ι} (c : Nat) (rest : Multiset Nat) (hc : h.drafts = c ::ₘ rest) :
      Step h { h with reserved := h.reserved - c, drafts := rest, counter := h.counter - 1 }
  | lock {h : ReserveAccount ι} (i : ι) (v : Nat) (hc : h.counter = 0)
      (hd : ∀ j, h.deposit j = none) :
      Step h { h with
        reserved := h.reserved + v
        deposit := Function.update h.deposit i (some v) }
  | topUp {h : ReserveAccount ι} (i : ι) (d v : Nat) (hi : h.deposit i = some d)
      (hv : h.reserved + v ≤ maxValue 64) :
      Step h { h with
        reserved := h.reserved + v
        deposit := Function.update h.deposit i (some (saturatingAdd 64 d v)) }
  | withdraw {h : ReserveAccount ι} (i : ι) (d : Nat) (hi : h.deposit i = some d) :
      Step h { h with
        reserved := h.reserved - d
        deposit := Function.update h.deposit i none }
  | slashes {h h' : ReserveAccount ι} (hs : Relation.ReflTransGen Slash h h') : Step h h'

variable {h h' : ReserveAccount ι}

theorem deposited_update (d : ι → Option Nat) (i : ι) (x : Option Nat) :
    deposited (update d i x) + (d i).getD 0 = deposited d + x.getD 0 := by
  have hx : (fun j => (update d i x j).getD 0) =
      update (fun j => (d j).getD 0) i (x.getD 0) := by
    funext j
    by_cases hj : j = i
    · subst hj
      rw [update_self, update_self]
    · rw [update_of_ne hj, update_of_ne hj]
  have hd := Finset.sum_update_of_mem (Finset.mem_univ i) (fun j => (d j).getD 0) (x.getD 0)
  have hs := Finset.sum_eq_sum_sdiff_singleton_add (Finset.mem_univ i) fun j => (d j).getD 0
  rw [deposited, hx, hd, deposited]
  omega

theorem deposited_of_none {d : ι → Option Nat} (hd : ∀ i, d i = none) : deposited d = 0 :=
  Finset.sum_eq_zero fun i _ => by rw [hd i]; rfl

theorem Exclusive.owed (he : h.Exclusive) (hi : h.deposit i = some d) :
    h.drafts.sum + deposited h.deposit = d := by
  obtain ⟨h0, hj⟩ := he i (by rw [hi]; rfl)
  have hd : deposited h.deposit = (h.deposit i).getD 0 := by
    refine Finset.sum_eq_single i (fun j _ hne => ?_) fun hn => absurd (Finset.mem_univ i) hn
    cases hdj : h.deposit j with
    | none => rfl
    | some v => exact absurd (hj j (by rw [hdj]; rfl)) hne
  rw [h0, hd, hi, Multiset.sum_zero, Nat.zero_add, Option.getD_some]

theorem Exclusive.update_some (he : h.Exclusive) (hi : (h.deposit i).isSome) (v n : Nat) :
    Exclusive { h with reserved := n, deposit := update h.deposit i (some v) } := by
  have hsome (j : ι) (hj : (update h.deposit i (some v) j).isSome) :
      (h.deposit j).isSome := by
    by_cases hji : j = i
    · rw [hji]
      exact hi
    · rwa [update_of_ne hji] at hj
  intro j hj
  obtain ⟨h0, hk⟩ := he j (hsome j hj)
  exact ⟨h0, fun k hk' => hk k (hsome k hk')⟩

theorem Slash.exclusive (hs : Slash h h') (he : h.Exclusive) : h'.Exclusive := by
  cases hs with
  | mk i d v hi => exact he.update_some (by rw [hi]; rfl) _ _

theorem Slash.solvent (hs : Slash h h') (he : h.Exclusive) (hsol : h.Solvent) : h'.Solvent := by
  cases hs with
  | mk i d v hi =>
    have hu := deposited_update h.deposit i (some (d - min v h.reserved))
    have ho := he.owed hi
    rw [hi, Option.getD_some, Option.getD_some] at hu
    unfold Solvent at hsol ⊢
    dsimp only
    omega

theorem Slash.drafts_counter (hs : Slash h h') : h'.drafts = h.drafts ∧ h'.counter = h.counter := by
  cases hs with
  | mk => exact ⟨rfl, rfl⟩

theorem Step.solvent (hs : Step h h') (he : h.Exclusive) (hsol : h.Solvent) : h'.Solvent := by
  cases hs with
  | fund v hd =>
    unfold Solvent at hsol ⊢
    dsimp only
    rw [Multiset.sum_cons]
    omega
  | draw c v rest hc hv =>
    unfold Solvent at hsol ⊢
    rw [hc, Multiset.sum_cons] at hsol
    dsimp only
    rw [Multiset.sum_cons]
    omega
  | close c rest hc =>
    unfold Solvent at hsol ⊢
    rw [hc, Multiset.sum_cons] at hsol
    dsimp only
    omega
  | lock i v hc hd =>
    have hu := deposited_update h.deposit i (some v)
    rw [hd i, Option.getD_none, Option.getD_some] at hu
    unfold Solvent at hsol ⊢
    dsimp only
    omega
  | topUp i d v hi hv =>
    have hu := deposited_update h.deposit i (some (saturatingAdd 64 d v))
    have ho := he.owed hi
    unfold Solvent at hsol ⊢
    rw [saturatingAdd_of_le (by omega)] at hu ⊢
    rw [hi, Option.getD_some, Option.getD_some] at hu
    dsimp only
    omega
  | withdraw i d hi =>
    have hu := deposited_update h.deposit i none
    rw [hi, Option.getD_some, Option.getD_none] at hu
    unfold Solvent at hsol ⊢
    dsimp only
    omega
  | slashes hs =>
    have hboth : h'.Exclusive ∧ h'.Solvent := by
      induction hs with
      | refl => exact ⟨he, hsol⟩
      | tail _ hs ih => exact ⟨hs.exclusive ih.1, hs.solvent ih.1 ih.2⟩
    exact hboth.2

theorem Step.exclusive (hs : Step h h') (he : h.Exclusive) (hc : h.Counted)
    (hb : h'.drafts.card ≤ maxValue 32) : h'.Exclusive ∧ h'.Counted := by
  unfold Counted at hc ⊢
  cases hs with
  | fund v hd =>
    refine ⟨fun i hi => ?_, ?_⟩
    · rw [hd i] at hi
      cases hi
    · rw [Multiset.card_cons] at hb ⊢
      rw [saturatingAdd_of_le (by omega), hc]
  | draw c v rest hd hv =>
    refine ⟨fun i hi => ?_, ?_⟩
    · exact absurd (he i hi).1 (by rw [hd]; exact Multiset.cons_ne_zero)
    · rw [hc, hd, Multiset.card_cons, Multiset.card_cons]
  | close c rest hd =>
    refine ⟨fun i hi => ?_, ?_⟩
    · exact absurd (he i hi).1 (by rw [hd]; exact Multiset.cons_ne_zero)
    · dsimp only
      rw [hc, hd, Multiset.card_cons, Nat.add_sub_cancel]
  | lock i v h0 hd =>
    have hz : h.drafts = 0 := Multiset.card_eq_zero.1 (hc.symm.trans h0)
    have hi (j : ι) (hj : (update h.deposit i (some v) j).isSome) : j = i := by
      by_contra hne
      rw [update_of_ne hne, hd j] at hj
      cases hj
    exact ⟨fun j hj => ⟨hz, fun k hk => (hi k hk).trans (hi j hj).symm⟩, hc⟩
  | topUp i d v hi hv => exact ⟨he.update_some (by rw [hi]; rfl) _ _, hc⟩
  | withdraw i d hi =>
    have hsome (j : ι) (hj : (update h.deposit i none j).isSome) :
        (h.deposit j).isSome := by
      by_cases hji : j = i
      · rw [hji, update_self] at hj
        cases hj
      · rwa [update_of_ne hji] at hj
    refine ⟨fun j hj => ?_, hc⟩
    obtain ⟨h0, hk⟩ := he j (hsome j hj)
    exact ⟨h0, fun k hk' => hk k (hsome k hk')⟩
  | slashes hs =>
    clear hb
    induction hs with
    | refl => exact ⟨he, hc⟩
    | tail _ hs ih =>
      obtain ⟨hd, hcnt⟩ := hs.drafts_counter
      exact ⟨hs.exclusive ih.1, by rw [hd, hcnt]; exact ih.2⟩

theorem Step.reserved_of_drafts (hs : Step h h') (he : h.Exclusive) (hc : h.Counted)
    (hne : h.drafts ≠ 0) (hd : h'.drafts = h.drafts) : h'.reserved = h.reserved := by
  have hnone {i : ι} {d : Nat} (hi : h.deposit i = some d) : False :=
    hne (he i (by rw [hi]; rfl)).1
  cases hs with
  | fund v _ =>
    have hcard := congrArg Multiset.card hd
    rw [Multiset.card_cons] at hcard
    omega
  | draw c v rest hc' hv =>
    have hsum := congrArg Multiset.sum hd
    rw [hc', Multiset.sum_cons, Multiset.sum_cons] at hsum
    dsimp only
    omega
  | close c rest hc' =>
    have hcard : rest.card = h.drafts.card := congrArg Multiset.card hd
    rw [hc', Multiset.card_cons] at hcard
    omega
  | lock i v h0 _ => exact absurd (Multiset.card_eq_zero.1 (hc.symm.trans h0)) hne
  | topUp i d v hi _ => exact (hnone hi).elim
  | withdraw i d hi => exact (hnone hi).elim
  | slashes hs =>
    obtain rfl | ⟨c, hslash, _⟩ := hs.cases_head
    · rfl
    · cases hslash with
      | mk i d v hi => exact (hnone hi).elim

end ReserveAccount

end Frame
