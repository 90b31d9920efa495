import OpenInfra.Frame.Arithmetic

namespace Frame
open List

theorem fromLeBytes_cons (b : UInt8) (bs : List UInt8) :
    fromLeBytes (b :: bs) = b.toNat + 256 * fromLeBytes bs := rfl

theorem fromLeBytes_lt (bs : List UInt8) : fromLeBytes bs < 256 ^ bs.length := by
  induction bs with
  | nil => exact Nat.one_pos
  | cons b bs ih =>
    have hb := b.toNat_lt
    rw [fromLeBytes_cons, length_cons, Nat.pow_succ]
    omega

@[simp] theorem length_toLeBytes (n v : Nat) : (toLeBytes n v).length = n := by
  rw [toLeBytes, length_map, length_range]

theorem toLeBytes_succ (n v : Nat) : toLeBytes (n + 1) v = .ofNat v :: toLeBytes n (v / 256) := by
  unfold toLeBytes
  rw [range_succ_eq_map, map_cons, map_map, Nat.pow_zero, Nat.div_one]
  congr 1
  apply map_congr_left
  intro i _
  rw [Function.comp_apply, Nat.pow_succ', Nat.div_div_eq_div_mul]

theorem fromLeBytes_toLeBytes (n v : Nat) : fromLeBytes (toLeBytes n v) = v % 256 ^ n := by
  induction n generalizing v with
  | zero => exact (Nat.mod_one v).symm
  | succ n ih =>
    rw [toLeBytes_succ, fromLeBytes_cons, ih, UInt8.toNat_ofNat',
      show 256 ^ (n + 1) = 256 * 256 ^ n from Nat.pow_succ', Nat.mod_mul]

theorem take_toLeBytes (h : m ≤ n) (v : Nat) : (toLeBytes n v).take m = toLeBytes m v := by
  unfold toLeBytes
  rw [← map_take, take_range, Nat.min_eq_left h]

def chunks (width : Nat) : Nat → List α → List (List α)
  | 0, _ => []
  | n + 1, as => as.take width :: chunks width n (as.drop width)

@[simp] theorem length_chunks (width n : Nat) (as : List α) : (chunks width n as).length = n := by
  induction n generalizing as with
  | zero => rfl
  | succ n ih => rw [chunks, length_cons, ih]

theorem length_of_mem_chunks {as c : List α} (h : as.length = width * n)
    (hc : c ∈ chunks width n as) : c.length = width := by
  induction n generalizing as with
  | zero => cases hc
  | succ n ih =>
    rw [Nat.mul_succ] at h
    rcases mem_cons.1 hc with rfl | hc
    · rw [length_take]
      omega
    · exact ih (by rw [length_drop]; omega) hc

theorem flatten_chunks {as : List α} (h : as.length = width * n) :
    (chunks width n as).flatten = as := by
  induction n generalizing as with
  | zero => exact (length_eq_zero_iff.1 h).symm
  | succ n ih =>
    rw [chunks, flatten_cons, ih (by rw [length_drop, h, Nat.mul_succ]; omega),
      take_append_drop]

theorem chunks_flatMap (f : β → List α) (hf : ∀ b, (f b).length = width) (bs : List β) :
    chunks width bs.length (bs.flatMap f) = bs.map f := by
  induction bs with
  | nil => rfl
  | cons b bs ih =>
    rw [length_cons, chunks, flatMap_cons, take_left' (hf b),
      drop_left' (hf b), ih, map_cons]

theorem length_flatMap_const (f : β → List α) (hf : ∀ b, (f b).length = width) (bs : List β) :
    (bs.flatMap f).length = width * bs.length := by
  induction bs with
  | nil => rfl
  | cons b bs ih =>
    rw [flatMap_cons, length_append, hf, ih, length_cons, Nat.mul_succ,
      Nat.add_comm]

end Frame
