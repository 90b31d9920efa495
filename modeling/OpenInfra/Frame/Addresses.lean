import OpenInfra.Frame.Bytes

namespace Frame

section
variable {α : Type} [DecidableEq α] {c : α} {a b : List α}

def splitOnce (c : α) : List α → Option (List α × List α)
  | [] => none
  | x :: xs => if x = c then some ([], xs) else (splitOnce c xs).map fun p => (x :: p.1, p.2)

theorem splitOnce_append (h : c ∉ a) : splitOnce c (a ++ c :: b) = some (a, b) := by
  induction a with
  | nil => exact if_pos rfl
  | cons x a ih =>
    obtain ⟨hx, ha⟩ := List.ne_and_not_mem_of_not_mem_cons h
    rw [List.cons_append, splitOnce, if_neg (Ne.symm hx), ih ha]
    rfl

theorem splitOnce_eq_some {l : List α} (h : splitOnce c l = some (a, b)) :
    l = a ++ c :: b ∧ c ∉ a := by
  induction l generalizing a with
  | nil => cases h
  | cons x l ih =>
    rw [splitOnce] at h
    split at h
    · rename_i hx
      cases h
      exact ⟨hx ▸ rfl, List.not_mem_nil⟩
    · rename_i hx
      obtain ⟨⟨a', b'⟩, hsplit, heq⟩ := Option.map_eq_some_iff.1 h
      cases heq
      obtain ⟨hl, ha⟩ := ih hsplit
      refine ⟨congrArg (x :: ·) hl, ?_⟩
      rw [List.mem_cons]
      rintro (hc | hc)
      · exact hx hc.symm
      · exact ha hc

theorem separated_inj (ha : c ∉ a) (ha' : c ∉ a') (h : a ++ c :: b = a' ++ c :: b') :
    a = a' ∧ b = b' := by
  have hsplit := splitOnce_append (b := b) ha
  rw [h, splitOnce_append ha'] at hsplit
  cases hsplit
  exact ⟨rfl, rfl⟩

end

def decimal (digits : List Char) : Option Nat :=
  if digits ≠ [] ∧ digits.all Char.isDigit then some (Nat.ofDigitChars 10 digits 0) else none

theorem not_mem_toString {n : Nat} {c : Char} (h : c.isDigit = false) :
    c ∉ (toString n).toList := by
  intro hc
  rw [isDigit_toString hc] at h
  cases h

theorem decimal_toString (n : Nat) : decimal (toString n).toList = some n := by
  have hne : (toString n).toList ≠ [] := by
    rw [Nat.toString_eq_repr, Nat.toList_repr]
    exact Nat.toDigits_ne_nil
  unfold decimal
  rw [if_pos ⟨hne, List.all_eq_true.2 fun c hc => isDigit_toString hc⟩, Nat.toString_eq_repr,
    Nat.toList_repr, Nat.ofDigitChars_ten_toDigits]

theorem isDigit_of_decimal (h : decimal digits = some n) (hc : c ∈ digits) : c.isDigit := by
  unfold decimal at h
  split at h
  · rename_i hdigits
    exact List.all_eq_true.1 hdigits.2 c hc
  · cases h

def octet (digits : List Char) : Option Nat :=
  (decimal digits).filter fun n => n < 256 ∧ (toString n).toList = digits

theorem octet_toString {n : Nat} (h : n < 256) : octet (toString n).toList = some n := by
  unfold octet
  rw [decimal_toString, Option.filter_some, if_pos (decide_eq_true ⟨h, rfl⟩)]

theorem octet_eq_some (h : octet digits = some n) : n < 256 ∧ ∀ c ∈ digits, c.isDigit := by
  obtain ⟨hdecimal, hn⟩ := Option.filter_eq_some_iff.1 h
  exact ⟨(of_decide_eq_true hn).1, fun c => isDigit_of_decimal hdecimal⟩

def parseIpv4 (text : List Char) : Option Nat := do
  let (a, text) ← splitOnce '.' text
  let (b, text) ← splitOnce '.' text
  let (c, d) ← splitOnce '.' text
  let a ← octet a
  let b ← octet b
  let c ← octet c
  let d ← octet d
  some (((a * 256 + b) * 256 + c) * 256 + d)

theorem parseIpv4_dotted {a b c d : Nat} (ha : a < 256) (hb : b < 256) (hc : c < 256)
    (hd : d < 256) :
    parseIpv4 ((toString a).toList ++ '.' :: ((toString b).toList ++ '.' ::
      ((toString c).toList ++ '.' :: (toString d).toList))) =
      some (((a * 256 + b) * 256 + c) * 256 + d) := by
  have hdot (n : Nat) : '.' ∉ (toString n).toList := not_mem_toString rfl
  unfold parseIpv4
  simp only [splitOnce_append (hdot _), octet_toString ha, octet_toString hb, octet_toString hc,
    octet_toString hd, Option.bind_eq_bind, Option.bind_some]

theorem parseIpv4_eq_some (h : parseIpv4 text = some ip) :
    ip < 2 ^ 32 ∧ ∀ x ∈ text, x.isDigit ∨ x = '.' := by
  unfold parseIpv4 at h
  simp only [Option.bind_eq_bind, Option.bind_eq_some_iff, Option.some.injEq] at h
  obtain ⟨⟨ta, t₁⟩, h₁, ⟨tb, t₂⟩, h₂, ⟨tc, td⟩, h₃, a, ha, b, hb, c, hc, d, hd, rfl⟩ := h
  obtain ⟨rfl, _⟩ := splitOnce_eq_some h₁
  obtain ⟨rfl, _⟩ := splitOnce_eq_some h₂
  obtain ⟨rfl, _⟩ := splitOnce_eq_some h₃
  obtain ⟨ha, hta⟩ := octet_eq_some ha
  obtain ⟨hb, htb⟩ := octet_eq_some hb
  obtain ⟨hc, htc⟩ := octet_eq_some hc
  obtain ⟨hd, htd⟩ := octet_eq_some hd
  refine ⟨by omega, ?_⟩
  intro x hx
  simp only [List.mem_append, List.mem_cons] at hx
  obtain hx | hx | hx | hx | hx | hx | hx := hx
  · exact .inl (hta x hx)
  · exact .inr hx
  · exact .inl (htb x hx)
  · exact .inr hx
  · exact .inl (htc x hx)
  · exact .inr hx
  · exact .inl (htd x hx)

end Frame
