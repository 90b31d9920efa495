import Mathlib.Tactic

namespace Frame
open List

abbrev Bytes := List UInt8

def maxInt64 : UInt64 := 9223372036854775807

def utf8 (s : String) : Bytes := s.toUTF8.data.toList

def isHexDigit (c : Char) : Bool := c.isDigit || ('a' ≤ c && c ≤ 'f') || ('A' ≤ c && c ≤ 'F')

def isWhitespace (c : Char) : Bool :=
  let n := c.toNat
  (9 ≤ n && n ≤ 13) || (0x2000 ≤ n && n ≤ 0x200A) ||
    n ∈ [0x20, 0x85, 0xA0, 0x1680, 0x2028, 0x2029, 0x202F, 0x205F, 0x3000]

/-- Go's `strings.TrimSpace`. -/
def trimSpace (text : String) : String :=
  .ofList ((text.toList.dropWhile isWhitespace).reverse.dropWhile isWhitespace).reverse

def hexEncode (b : List UInt8) : String :=
  .ofList (b.flatMap fun x => [Nat.digitChar (x.toNat / 16), Nat.digitChar (x.toNat % 16)])

def bigEndian (width n : Nat) : List UInt8 :=
  (List.range width).map fun i => UInt8.ofNat (n / 256 ^ (width - 1 - i) % 256)

def fromBigEndian (bytes : List UInt8) : Nat := bytes.foldl (fun n b => n * 256 + b.toNat) 0

def littleEndian (width n : Nat) : List UInt8 := (bigEndian width n).reverse

theorem utf8_injective : Function.Injective utf8 := by
  intro s t h
  exact String.toByteArray_inj.1 (ByteArray.ext (Array.toList_inj.1 h))

@[simp] theorem bigEndian_length (width n : Nat) : (bigEndian width n).length = width := by
  rw [bigEndian, length_map, length_range]

theorem bigEndian_succ (width n : Nat) :
    bigEndian (width + 1) n = UInt8.ofNat (n / 256 ^ width % 256) :: bigEndian width n := by
  unfold bigEndian
  rw [range_succ_eq_map, map_cons, map_map]
  congr 1
  apply map_congr_left
  intro i _
  simp only [Function.comp_apply, Nat.add_sub_cancel, Nat.succ_eq_add_one]
  rw [Nat.sub_right_comm, Nat.sub_sub]

theorem foldl_bigEndian (acc width n : Nat) :
    (bigEndian width n).foldl (fun n b => n * 256 + b.toNat) acc =
      acc * 256 ^ width + n % 256 ^ width := by
  induction width generalizing acc with
  | zero => simp only [bigEndian, range_zero, map_nil, foldl_nil, pow_zero,
      Nat.mul_one, Nat.mod_one, Nat.add_zero]
  | succ width ih =>
    rw [bigEndian_succ, foldl_cons, ih, UInt8.toNat_ofNat', Nat.mod_mod, Nat.mod_pow_succ,
      pow_succ]
    ring

theorem fromBigEndian_bigEndian (width n : Nat) :
    fromBigEndian (bigEndian width n) = n % 256 ^ width := by
  rw [fromBigEndian, foldl_bigEndian, Nat.zero_mul, Nat.zero_add]

variable {n m width : Nat} {s t : List UInt8}

private theorem byte_eq_iff :
    UInt8.ofNat (n % 256) = UInt8.ofNat (m % 256) ↔ n % 256 = m % 256 := by
  rw [← UInt8.toNat_inj, UInt8.toNat_ofNat', UInt8.toNat_ofNat', Nat.mod_mod, Nat.mod_mod]

theorem bigEndian_eq_iff :
    bigEndian width n = bigEndian width m ↔ n % 256 ^ width = m % 256 ^ width := by
  induction width with
  | zero => simp only [bigEndian, range_zero, map_nil, pow_zero, Nat.mod_one]
  | succ width ih =>
    rw [bigEndian_succ, bigEndian_succ, cons_eq_cons, byte_eq_iff, ih, Nat.mod_pow_succ,
      Nat.mod_pow_succ]
    have hpos : 0 < 256 ^ width := Nat.pow_pos (by decide)
    constructor
    · rintro ⟨hhigh, hlow⟩
      rw [hhigh, hlow]
    · intro h
      have hlow := congrArg (· % 256 ^ width) h
      simp only [Nat.add_mul_mod_self_left, Nat.mod_mod] at hlow
      rw [hlow, Nat.add_left_cancel_iff] at h
      exact ⟨Nat.eq_of_mul_eq_mul_left hpos h, hlow⟩

theorem bigEndian_inj (hn : n < 256 ^ width) (hm : m < 256 ^ width)
    (h : bigEndian width n = bigEndian width m) : n = m := by
  rw [bigEndian_eq_iff, Nat.mod_eq_of_lt hn, Nat.mod_eq_of_lt hm] at h
  exact h

theorem bigEndian_append_inj (hn : n < 256 ^ width)
    (hm : m < 256 ^ width) (h : bigEndian width n ++ s = bigEndian width m ++ t) :
    n = m ∧ s = t := by
  obtain ⟨hnumber, hrest⟩ := append_inj h (by rw [bigEndian_length, bigEndian_length])
  exact ⟨bigEndian_inj hn hm hnumber, hrest⟩

theorem uint32_append_inj {a b : UInt32} {s t : List UInt8}
    (h : bigEndian 4 a.toNat ++ s = bigEndian 4 b.toNat ++ t) : a = b ∧ s = t :=
  (bigEndian_append_inj a.toNat_lt b.toNat_lt h).imp_left UInt32.toNat_inj.1

theorem uint32_inj {a b : UInt32} (h : bigEndian 4 a.toNat = bigEndian 4 b.toNat) : a = b :=
  UInt32.toNat_inj.1 (bigEndian_inj a.toNat_lt b.toNat_lt h)

theorem uint64_append_inj {a b : UInt64} {s t : List UInt8}
    (h : bigEndian 8 a.toNat ++ s = bigEndian 8 b.toNat ++ t) : a = b ∧ s = t :=
  (bigEndian_append_inj a.toNat_lt b.toNat_lt h).imp_left UInt64.toNat_inj.1

theorem uint64_inj {a b : UInt64} (h : bigEndian 8 a.toNat = bigEndian 8 b.toNat) : a = b :=
  UInt64.toNat_inj.1 (bigEndian_inj a.toNat_lt b.toNat_lt h)

theorem counted_append_inj {a b s t : List UInt8} (ha : a.length < 256 ^ width)
    (hb : b.length < 256 ^ width)
    (h : bigEndian width a.length ++ (a ++ s) = bigEndian width b.length ++ (b ++ t)) :
    a = b ∧ s = t := by
  obtain ⟨hlength, hrest⟩ := bigEndian_append_inj ha hb h
  exact append_inj hrest hlength

section
variable {n n' : Nat} {s t : List Char}

theorem toString_inj (h : (toString n).toList = (toString n').toList) : n = n' := by
  rw [Nat.toString_eq_repr, Nat.toString_eq_repr, Nat.toList_repr, Nat.toList_repr] at h
  rw [← Nat.ofDigitChars_ten_toDigits (n := n), h, Nat.ofDigitChars_ten_toDigits]

theorem isDigit_toString (h : c ∈ (toString n).toList) : c.isDigit := by
  rw [Nat.toString_eq_repr, Nat.toList_repr] at h
  exact Nat.isDigit_of_mem_toDigits (by decide) (by decide) h

theorem digits_append_inj (hc : ¬ c.isDigit)
    (h : (toString n).toList ++ c :: s = (toString n').toList ++ c :: t) : n = n' ∧ s = t := by
  have htake (k : Nat) (r : List Char) :
      ((toString k).toList ++ c :: r).takeWhile Char.isDigit = (toString k).toList := by
    rw [takeWhile_append_of_pos fun x => isDigit_toString, takeWhile_cons_of_neg hc,
      append_nil]
  have hstring := congrArg (takeWhile Char.isDigit) h
  rw [htake, htake] at hstring
  refine ⟨toString_inj hstring, ?_⟩
  rw [hstring] at h
  exact tail_eq_of_cons_eq (append_cancel_left h)

end

end Frame
