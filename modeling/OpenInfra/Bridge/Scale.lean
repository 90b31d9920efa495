import OpenInfra.Bridge.Committee

namespace OpenInfra.Bridge.Scale
open Frame List

inductive Failure where
  | error (text : String)
  | panic
  deriving DecidableEq

def Failure.wrap (context : String) : Failure → Failure
  | .error text => .error (context ++ text)
  | .panic => .panic

/-- The loop that drops high zero bytes but keeps four bytes. -/
def trimLength (bytes : List UInt8) : Nat → Nat
  | 0 => 0
  | length + 1 =>
    if 4 < length + 1 ∧ bytes.getD length 0 = 0 then trimLength bytes length else length + 1

def compactUint (value : UInt64) : List UInt8 :=
  if value < (1 : UInt64) <<< 6 then [(value <<< 2).toUInt8]
  else if value < (1 : UInt64) <<< 14 then
    let encoded := (value <<< 2).toUInt16 ||| 1
    [encoded.toUInt8, (encoded >>> 8).toUInt8]
  else if value < (1 : UInt64) <<< 30 then
    let encoded := (value <<< 2).toUInt32 ||| 2
    [encoded.toUInt8, (encoded >>> 8).toUInt8, (encoded >>> 16).toUInt8, (encoded >>> 24).toUInt8]
  else
    let bytes := littleEndian 8 value.toNat
    let length := trimLength bytes 8
    (UInt8.ofNat ((length - 4) <<< 2) ||| 3) :: bytes.take length

def decodeCompactUint (data : List UInt8) : Except Failure (UInt64 × Nat) :=
  match data with
  | [] => .error (.error "compact integer: empty input")
  | first :: rest =>
    if first &&& 0b11 = 0 then .ok ((first >>> 2).toUInt64, 1)
    else if first &&& 0b11 = 1 then
      match rest with
      | second :: _ => .ok ((first.toUInt16 ||| second.toUInt16 <<< 8).toUInt64 >>> 2, 2)
      | _ => .error (.error "compact integer: truncated two-byte mode")
    else if first &&& 0b11 = 2 then
      match rest with
      | second :: third :: fourth :: _ =>
        let value := first.toUInt32 ||| second.toUInt32 <<< 8 ||| third.toUInt32 <<< 16 |||
          fourth.toUInt32 <<< 24
        .ok (value.toUInt64 >>> 2, 4)
      | _ => .error (.error "compact integer: truncated four-byte mode")
    else
      let length := (first >>> 2).toNat + 4
      if rest.length < length then .error (.error "compact integer: truncated big-integer mode")
      else .ok (uint64 (rest.take length), 1 + length)

def copy32 (bytes : List UInt8) : PublicKey := List.Vector.ofFn fun i => bytes.getD i 0

/-- Only a capacity of `2 ^ 64` bytes or more makes `make` panic. -/
def decodeAccountIdVec (data : List UInt8) : Except Failure (List PublicKey) := do
  let (count, offset) ← decodeCompactUint data
  let remaining := data.length - offset
  ensure (remaining = (count * 32).toNat)
    (.error "account id vector length does not match its prefix")
  ensure (32 * count.toNat < 2 ^ 64) .panic
  .ok ((chunks 32 count.toNat (data.drop offset)).map copy32)

structure Submission where
  validator : PublicKey
  scoreBps : UInt16
  sampleCount : UInt32
  payloadHash : PublicKey

def submissionEncodedLength : Nat := 70

def networkValidatorMaxSubmissionsPerRound : UInt64 := 32

def decodeElement (element : List UInt8) : Submission where
  validator := copy32 (element.take 32)
  scoreBps := .ofNat (fromLeBytes ((element.drop 32).take 2))
  sampleCount := .ofNat (fromLeBytes ((element.drop 34).take 4))
  payloadHash := copy32 ((element.drop 38).take 32)

def decodeSubmissions (data : List UInt8) : Except Failure (List Submission) := do
  let (count, prefixLength) ← (decodeCompactUint data).mapError (·.wrap "evidence vec length: ")
  ensure (count ≤ networkValidatorMaxSubmissionsPerRound)
    (.error "evidence vec claims more submissions than the runtime bound allows")
  let body := data.drop prefixLength
  ensure (body.length = count.toNat * submissionEncodedLength)
    (.error "evidence vec has an unexpected encoded length")
  .ok ((chunks submissionEncodedLength count.toNat body).map decodeElement)

inductive ValidatorLifecycleStatus where
  | active
  | suspended
  | exiting
  deriving DecidableEq

structure ValidatorRecord where
  status : ValidatorLifecycleStatus
  availableAt : UInt32
  stake : UInt64
  registeredAt : UInt32
  deriving DecidableEq

def decodeStatus (data : List UInt8) :
    Except Failure (ValidatorLifecycleStatus × UInt32 × Nat) :=
  match data with
  | [] => .error (.error "validator record is empty")
  | tag :: rest =>
    if tag = 0 then .ok (.active, 0, 1)
    else if tag = 1 then .ok (.suspended, 0, 1)
    else if tag = 2 then
      if rest.length < 4 then
        .error (.error "validator record truncated in Exiting.available_at")
      else .ok (.exiting, .ofNat (fromLeBytes (rest.take 4)), 5)
    else .error (.error "validator record has an unknown status variant")

def decodeValidatorRecord (data : List UInt8) : Except Failure ValidatorRecord := do
  let (status, availableAt, offset) ← decodeStatus data
  ensure (data.length = offset + 8 + 4)
    (.error "validator record has an unexpected encoded length")
  .ok {
    status
    availableAt
    stake := .ofNat (fromLeBytes ((data.drop offset).take 8))
    registeredAt := .ofNat (fromLeBytes ((data.drop (offset + 8)).take 4)) }

def compactWidth (first : UInt8) : Nat :=
  match first.toNat % 4 with
  | 0 => 1
  | 1 => 2
  | 2 => 4
  | _ => 1 + (first.toNat / 4 + 4)

/-- The compact integer at the start of `data`, and its width. -/
def denoted (data : List UInt8) : Option (Nat × Nat) :=
  match data with
  | [] => none
  | first :: rest =>
    let width := compactWidth first
    if data.length < width then none
    else if first.toNat % 4 < 3 then some (fromLeBytes (data.take width) / 4, width)
    else some (fromLeBytes (rest.take (width - 1)), width)

theorem denoted_cons (first : UInt8) (rest : List UInt8) : denoted (first :: rest) =
    if (first :: rest).length < compactWidth first then none
    else if first.toNat % 4 < 3 then
      some (fromLeBytes ((first :: rest).take (compactWidth first)) / 4, compactWidth first)
    else some (fromLeBytes (rest.take (compactWidth first - 1)), compactWidth first) := rfl

theorem toNat_ofNat (h : n < 2 ^ 64) : (UInt64.ofNat n).toNat = n := UInt64.toNat_ofNat_of_lt' h

theorem or_shiftLeft (h : x < 2 ^ i) (y : Nat) : x ||| y <<< i = x + 2 ^ i * y := by
  rw [Nat.or_comm, ← Nat.shiftLeft_add_eq_or_of_lt h, Nat.shiftLeft_eq, Nat.mul_comm, Nat.add_comm]

theorem low_bits (b : UInt8) : (b &&& 0b11).toNat = b.toNat % 4 := by
  rw [UInt8.toNat_and]
  exact Nat.and_two_pow_sub_one_eq_mod b.toNat 2

theorem mode_eq_iff {b m : UInt8} : b &&& 0b11 = m ↔ b.toNat % 4 = m.toNat := by
  rw [← UInt8.toNat_inj, low_bits]

theorem two_bytes (a b : UInt8) : (a.toUInt16 ||| b.toUInt16 <<< 8).toNat = fromLeBytes [a, b] := by
  have ha := a.toNat_lt
  have hb := b.toNat_lt
  have hshift : (b.toUInt16 <<< 8).toNat = b.toNat <<< 8 := by
    rw [UInt16.toNat_shiftLeft, UInt8.toNat_toUInt16]
    exact Nat.mod_eq_of_lt (by rw [Nat.shiftLeft_eq]; change b.toNat * 2 ^ 8 < _; omega)
  rw [UInt16.toNat_or, hshift, UInt8.toNat_toUInt16, or_shiftLeft ha]
  rfl

theorem shifted_byte (b : UInt8) (i : UInt32) (hi : i.toNat ≤ 24) :
    (b.toUInt32 <<< i).toNat = b.toNat <<< i.toNat := by
  have hb := b.toNat_lt
  have hpow : 2 ^ i.toNat ≤ 2 ^ 24 := Nat.pow_le_pow_right (by decide) hi
  rw [UInt32.toNat_shiftLeft, UInt8.toNat_toUInt32, Nat.mod_eq_of_lt (by omega : i.toNat < 32)]
  apply Nat.mod_eq_of_lt
  rw [Nat.shiftLeft_eq]
  calc b.toNat * 2 ^ i.toNat ≤ 255 * 2 ^ 24 := Nat.mul_le_mul (by omega) hpow
    _ < 2 ^ 32 := by decide

theorem four_bytes (a b c d : UInt8) :
    (a.toUInt32 ||| b.toUInt32 <<< 8 ||| c.toUInt32 <<< 16 ||| d.toUInt32 <<< 24).toNat =
      fromLeBytes [a, b, c, d] := by
  have ha := a.toNat_lt
  have hb := b.toNat_lt
  have hc := c.toNat_lt
  have hd := d.toNat_lt
  rw [UInt32.toNat_or, UInt32.toNat_or, UInt32.toNat_or, shifted_byte b 8 (by decide),
    shifted_byte c 16 (by decide), shifted_byte d 24 (by decide), UInt8.toNat_toUInt32]
  change ((a.toNat ||| b.toNat <<< 8) ||| c.toNat <<< 16) ||| d.toNat <<< 24 = _
  rw [or_shiftLeft ha, or_shiftLeft (by omega : a.toNat + 2 ^ 8 * b.toNat < 2 ^ 16),
    or_shiftLeft (by omega : a.toNat + 2 ^ 8 * b.toNat + 2 ^ 16 * c.toNat < 2 ^ 24)]
  simp only [fromLeBytes_cons, show fromLeBytes [] = 0 from rfl]
  omega

theorem shiftRight_two (v : UInt64) (n : Nat) (hv : v.toNat = n) : v >>> 2 = .ofNat (n / 4) := by
  have hlt := v.toNat_lt
  apply UInt64.toNat_inj.1
  rw [UInt64.toNat_shiftRight, hv, UInt64.toNat_ofNat_of_lt' (by change _ < 2 ^ 64; omega)]
  exact Nat.shiftRight_eq_div_pow n 2

theorem byte_shiftRight_two (b : UInt8) : (b >>> 2).toNat = b.toNat / 4 := by
  rw [UInt8.toNat_shiftRight]
  exact Nat.shiftRight_eq_div_pow b.toNat 2

theorem mode_cases (b : UInt8) :
    b.toNat % 4 = 0 ∨ b.toNat % 4 = 1 ∨ b.toNat % 4 = 2 ∨ b.toNat % 4 = 3 := by omega

theorem decodeCompactUint_spec (data : List UInt8) :
    (∃ n k, denoted data = some (n, k) ∧ k ≤ data.length ∧
      decodeCompactUint data = .ok (.ofNat n, k)) ∨
    denoted data = none ∧ ∃ text, decodeCompactUint data = .error (.error text) := by
  cases data with
  | nil => exact .inr ⟨rfl, _, rfl⟩
  | cons first rest =>
    unfold denoted compactWidth decodeCompactUint
    simp only [mode_eq_iff, UInt8.reduceToNat]
    rcases mode_cases first with hm | hm | hm | hm <;> simp only [hm]
    · refine .inl ⟨first.toNat / 4, 1, ?_, by simp, ?_⟩
      · simp [fromLeBytes]
      · rw [if_pos trivial, ← byte_shiftRight_two, ← UInt8.toNat_toUInt64, UInt64.ofNat_toNat]
    · match rest with
      | [] => exact .inr ⟨rfl, _, rfl⟩
      | second :: rest =>
        refine .inl ⟨fromLeBytes [first, second] / 4, 2, by simp, by simp, ?_⟩
        exact congrArg (fun v => Except.ok (v, 2))
          (shiftRight_two _ _ ((UInt16.toNat_toUInt64 _).trans (two_bytes first second)))
    · match rest with
      | [] | [_] | [_, _] => exact .inr ⟨rfl, _, rfl⟩
      | second :: third :: fourth :: rest =>
        refine .inl ⟨fromLeBytes [first, second, third, fourth] / 4, 4, by simp, by simp, ?_⟩
        exact congrArg (fun v => Except.ok (v, 4))
          (shiftRight_two _ _ ((UInt32.toNat_toUInt64 _).trans (four_bytes ..)))
    · rw [byte_shiftRight_two]
      by_cases hlen : rest.length < first.toNat / 4 + 4
      · refine .inr ⟨?_, _, if_pos hlen⟩
        rw [if_pos (by rw [length_cons]; omega)]
      · refine .inl ⟨fromLeBytes (rest.take (first.toNat / 4 + 4)), 1 + (first.toNat / 4 + 4), ?_⟩
        refine ⟨?_, ?_, ?_⟩
        · rw [if_neg (by rw [length_cons]; omega), Nat.add_sub_cancel_left]
          rfl
        · rw [length_cons]
          omega
        · refine (if_neg hlen).trans ?_
          congr 2
          exact UInt64.toNat_inj.1 ((uint64_toNat _).trans (UInt64.toNat_ofNat' ..).symm)

theorem decodeCompactUint_of_denoted (h : denoted data = some (n, k)) :
    decodeCompactUint data = .ok (.ofNat n, k) := by
  obtain ⟨n', k', hd, -, hok⟩ | ⟨hnone, -⟩ := decodeCompactUint_spec data
  · cases h.symm.trans hd
    exact hok
  · cases h.symm.trans hnone

theorem take_lt (bytes : List UInt8) (w : Nat) : fromLeBytes (bytes.take w) < 256 ^ w :=
  (fromLeBytes_lt _).trans_le (Nat.pow_le_pow_right (by decide) (length_take_le ..))

theorem denoted_bound (h : denoted data = some (n, k)) :
    k = 1 ∧ n < 2 ^ 6 ∨ k = 2 ∧ n < 2 ^ 14 ∨ k = 4 ∧ n < 2 ^ 30 ∨
      ∃ l, 4 ≤ l ∧ k = 1 + l ∧ n < 256 ^ l := by
  cases data with
  | nil => cases h
  | cons first rest =>
    unfold denoted compactWidth at h
    rcases mode_cases first with hm | hm | hm | hm <;> simp only [hm] at h <;>
      obtain ⟨-, h⟩ := Option.ite_none_left_eq_some.1 h
    · cases h
      have := take_lt (first :: rest) 1
      exact .inl ⟨rfl, by omega⟩
    · cases h
      have := take_lt (first :: rest) 2
      exact .inr (.inl ⟨rfl, by omega⟩)
    · cases h
      have := take_lt (first :: rest) 4
      exact .inr (.inr (.inl ⟨rfl, by omega⟩))
    · cases h
      refine .inr (.inr (.inr ⟨first.toNat / 4 + 4, Nat.le_add_left 4 _, rfl, ?_⟩))
      rw [Nat.add_sub_cancel_left]
      exact take_lt rest _

theorem trimLength_spec (h : n < 256 ^ m) (hm : 4 ≤ m) (hm' : m ≤ 8) :
    ∃ l, trimLength (toLeBytes 8 n) m = l ∧ 4 ≤ l ∧ l ≤ 8 ∧ n < 256 ^ l ∧
      (4 < l → 256 ^ (l - 1) ≤ n) := by
  induction m with
  | zero => cases hm
  | succ m ih =>
    have hbyte : (toLeBytes 8 n).getD m 0 = UInt8.ofNat (n / 256 ^ m) := by
      unfold toLeBytes
      rw [getD_eq_getElem?_getD, getElem?_map, getElem?_range (by omega)]
      rfl
    have hdiv : n / 256 ^ m < 256 := Nat.div_lt_of_lt_mul (by rwa [← Nat.pow_succ])
    have hzero : UInt8.ofNat (n / 256 ^ m) = 0 ↔ n < 256 ^ m := by
      rw [← UInt8.toNat_inj, UInt8.toNat_ofNat_of_lt' hdiv]
      exact Nat.div_eq_zero_iff_lt (Nat.pow_pos (by decide))
    unfold trimLength
    simp only [hbyte, hzero]
    by_cases hc : 4 < m + 1 ∧ n < 256 ^ m
    · rw [if_pos hc]
      exact ih hc.2 (by omega) (by omega)
    · rw [if_neg hc]
      exact ⟨m + 1, rfl, hm, hm', h, fun h4 => Nat.le_of_not_lt fun hlt => hc ⟨h4, hlt⟩⟩

theorem shiftLeft_two {v : UInt64} (h : v.toNat < 2 ^ 62) : (v <<< 2).toNat = v.toNat <<< 2 := by
  rw [UInt64.toNat_shiftLeft]
  apply Nat.mod_eq_of_lt
  change v.toNat <<< 2 < 2 ^ 64
  rw [Nat.shiftLeft_eq]
  omega

theorem shiftLeft_or (n : Nat) (h : m < 4) : n <<< 2 ||| m = 4 * n + m := by
  rw [Nat.or_comm, or_shiftLeft (i := 2) h, Nat.add_comm, show 2 ^ 2 = 4 from rfl]

theorem two_byte_form {v : UInt64} (h : v.toNat < 2 ^ 14) :
    ((v <<< 2).toUInt16 ||| 1).toNat = 4 * v.toNat + 1 := by
  have hshift := Nat.shiftLeft_eq v.toNat 2
  rw [UInt16.toNat_or, UInt64.toNat_toUInt16, shiftLeft_two (by omega),
    Nat.mod_eq_of_lt (by omega)]
  exact shiftLeft_or v.toNat (by decide)

theorem four_byte_form {v : UInt64} (h : v.toNat < 2 ^ 30) :
    ((v <<< 2).toUInt32 ||| 2).toNat = 4 * v.toNat + 2 := by
  have hshift := Nat.shiftLeft_eq v.toNat 2
  rw [UInt32.toNat_or, UInt64.toNat_toUInt32, shiftLeft_two (by omega),
    Nat.mod_eq_of_lt (by omega)]
  exact shiftLeft_or v.toNat (by decide)

theorem eq_ofNat {b : UInt8} (h : b.toNat = n % 256) : b = .ofNat n :=
  UInt8.toNat_inj.1 (h.trans UInt8.toNat_ofNat'.symm)

theorem two_bytes_eq (x : UInt16) : [x.toUInt8, (x >>> 8).toUInt8] = toLeBytes 2 x.toNat := by
  simp only [toLeBytes_succ]
  congr 2
  apply eq_ofNat
  rw [UInt16.toNat_toUInt8, UInt16.toNat_shiftRight]
  exact congrArg (· % 256) (Nat.shiftRight_eq_div_pow x.toNat 8)

theorem four_bytes_eq (x : UInt32) :
    [x.toUInt8, (x >>> 8).toUInt8, (x >>> 16).toUInt8, (x >>> 24).toUInt8] =
      toLeBytes 4 x.toNat := by
  simp only [toLeBytes_succ, Nat.div_div_eq_div_mul]
  have hbyte (i : UInt32) (hi : i.toNat < 32) :
      (x >>> i).toUInt8 = .ofNat (x.toNat / 2 ^ i.toNat) := by
    apply eq_ofNat
    rw [UInt32.toNat_toUInt8, UInt32.toNat_shiftRight, Nat.mod_eq_of_lt hi,
      Nat.shiftRight_eq_div_pow]
  congr 4
  · exact hbyte 8 (by decide)
  · exact hbyte 16 (by decide)
  · exact hbyte 24 (by decide)

theorem compactUint_cases (v : UInt64) :
    v.toNat < 2 ^ 6 ∧ compactUint v = toLeBytes 1 (4 * v.toNat) ∨
    2 ^ 6 ≤ v.toNat ∧ v.toNat < 2 ^ 14 ∧ compactUint v = toLeBytes 2 (4 * v.toNat + 1) ∨
    2 ^ 14 ≤ v.toNat ∧ v.toNat < 2 ^ 30 ∧ compactUint v = toLeBytes 4 (4 * v.toNat + 2) ∨
    2 ^ 30 ≤ v.toNat ∧ ∃ l, 4 ≤ l ∧ l ≤ 8 ∧ v.toNat < 256 ^ l ∧
      (4 < l → 256 ^ (l - 1) ≤ v.toNat) ∧
      compactUint v = .ofNat (4 * (l - 4) + 3) :: toLeBytes l v.toNat := by
  have h6 : v < (1 : UInt64) <<< 6 ↔ v.toNat < 2 ^ 6 := UInt64.lt_iff_toNat_lt
  have h14 : v < (1 : UInt64) <<< 14 ↔ v.toNat < 2 ^ 14 := UInt64.lt_iff_toNat_lt
  have h30 : v < (1 : UInt64) <<< 30 ↔ v.toNat < 2 ^ 30 := UInt64.lt_iff_toNat_lt
  unfold compactUint
  simp only [h6, h14, h30]
  split
  · rename_i h
    refine .inl ⟨h, ?_⟩
    rw [toLeBytes_succ]
    congr 1
    apply eq_ofNat
    rw [UInt64.toNat_toUInt8, shiftLeft_two (by omega), Nat.shiftLeft_eq, Nat.mul_comm]
  · split
    · rename_i hge h
      refine .inr (.inl ⟨not_lt.1 hge, h, ?_⟩)
      rw [two_bytes_eq, two_byte_form h]
    · split
      · rename_i _ hge h
        refine .inr (.inr (.inl ⟨not_lt.1 hge, h, ?_⟩))
        rw [four_bytes_eq, four_byte_form h]
      · rename_i _ _ hge
        obtain ⟨l, hl, hl4, hl8, hlt, hge'⟩ :=
          trimLength_spec (m := 8) v.toNat_lt (by decide) le_rfl
        refine .inr (.inr (.inr ⟨not_lt.1 hge, l, hl4, hl8, hlt, hge', ?_⟩))
        rw [littleEndian_eq, hl, take_toLeBytes hl8]
        congr 1
        apply eq_ofNat
        have hshift := Nat.shiftLeft_eq (l - 4) 2
        rw [UInt8.toNat_or, UInt8.toNat_ofNat_of_lt' (by change _ < 256; omega)]
        change (l - 4) <<< 2 ||| 3 = _
        rw [shiftLeft_or _ (by decide)]
        omega

theorem denoted_fixed (hm : m < 3) (hw : ∀ first : UInt8, first.toNat % 4 = m →
    compactWidth first = w + 1) (hn : 4 * n + m < 256 ^ (w + 1)) (s : List UInt8) :
    denoted (toLeBytes (w + 1) (4 * n + m) ++ s) = some (n, w + 1) := by
  have hmod : (UInt8.ofNat (4 * n + m)).toNat % 4 = m := by
    rw [UInt8.toNat_ofNat']
    omega
  have hvalue : fromLeBytes ((toLeBytes (w + 1) (4 * n + m) ++ s).take (w + 1)) / 4 = n := by
    rw [take_left' (length_toLeBytes ..), fromLeBytes_toLeBytes, Nat.mod_eq_of_lt hn]
    omega
  have hlen : ¬ (toLeBytes (w + 1) (4 * n + m) ++ s).length < w + 1 := by
    rw [length_append, length_toLeBytes]
    omega
  rw [toLeBytes_succ, cons_append] at hvalue hlen ⊢
  rw [denoted_cons, hw _ hmod, hmod, if_neg hlen, if_pos hm, hvalue]

theorem denoted_big (hl : 4 ≤ l) (hl' : l ≤ 8) (hn : n < 256 ^ l) (s : List UInt8) :
    denoted (.ofNat (4 * (l - 4) + 3) :: (toLeBytes l n ++ s)) = some (n, l + 1) := by
  have hfirst : (UInt8.ofNat (4 * (l - 4) + 3)).toNat = 4 * (l - 4) + 3 :=
    UInt8.toNat_ofNat_of_lt' (by change _ < 256; omega)
  have hwidth : compactWidth (.ofNat (4 * (l - 4) + 3)) = l + 1 := by
    unfold compactWidth
    rw [hfirst, show (4 * (l - 4) + 3) % 4 = 3 by omega]
    change 1 + ((4 * (l - 4) + 3) / 4 + 4) = _
    omega
  have hlen : ¬ (UInt8.ofNat (4 * (l - 4) + 3) :: (toLeBytes l n ++ s)).length < l + 1 := by
    rw [length_cons, length_append, length_toLeBytes]
    omega
  rw [denoted_cons, hwidth, hfirst, if_neg hlen, if_neg (by omega), Nat.add_sub_cancel,
    take_left' (length_toLeBytes ..), fromLeBytes_toLeBytes, Nat.mod_eq_of_lt hn]

theorem denoted_compactUint (v : UInt64) (s : List UInt8) :
    denoted (compactUint v ++ s) = some (v.toNat, (compactUint v).length) := by
  have hwidth {first : UInt8} {m w : Nat} (h : first.toNat % 4 = m)
      (hw : ∀ k, (match m with | 0 => 1 | 1 => 2 | 2 => 4 | _ => k) = w) :
      compactWidth first = w := by
    unfold compactWidth
    rw [h]
    exact hw _
  obtain ⟨h, he⟩ | ⟨-, h, he⟩ | ⟨-, h, he⟩ | ⟨-, l, h4, h8, h, -, he⟩ := compactUint_cases v
  · rw [he, length_toLeBytes]
    refine denoted_fixed (m := 0) (w := 0) (by decide) (fun _ h => ?_) (by omega) s
    exact hwidth h fun _ => rfl
  · rw [he, length_toLeBytes]
    refine denoted_fixed (m := 1) (w := 1) (by decide) (fun _ h => ?_) (by omega) s
    exact hwidth h fun _ => rfl
  · rw [he, length_toLeBytes]
    refine denoted_fixed (m := 2) (w := 3) (by decide) (fun _ h => ?_) (by omega) s
    exact hwidth h fun _ => rfl
  · rw [he, length_cons, length_toLeBytes]
    exact denoted_big h4 h8 h s

theorem compactUint_shortest (h : denoted s = some (v.toNat, k)) : (compactUint v).length ≤ k := by
  have hk := denoted_bound h
  obtain ⟨-, he⟩ | ⟨hge, -, he⟩ | ⟨hge, -, he⟩ | ⟨hge, l, h4, -, -, hl, he⟩ := compactUint_cases v
  all_goals
    rw [he]
    simp only [length_cons, length_toLeBytes]
  · omega
  · omega
  · omega
  · obtain ⟨-, hlt⟩ | ⟨-, hlt⟩ | ⟨-, hlt⟩ | ⟨l', h4', rfl, hlt⟩ := hk
    · omega
    · omega
    · omega
    · by_cases hl4 : 4 < l
      · have := (Nat.pow_lt_pow_iff_right (by decide)).1 ((hl hl4).trans_lt hlt)
        omega
      · omega

def encodeVec (encode : α → List UInt8) (items : List α) : List UInt8 :=
  compactUint (.ofNat items.length) ++ items.flatMap encode

def Submission.encode (s : Submission) : List UInt8 :=
  s.validator.toList ++ (toLeBytes 2 s.scoreBps.toNat ++
    (toLeBytes 4 s.sampleCount.toNat ++ s.payloadHash.toList))

inductive ValidatorStatus where
  | active
  | suspended
  | exiting (availableAt : UInt32)

def ValidatorStatus.encode : ValidatorStatus → List UInt8
  | .active => [0]
  | .suspended => [1]
  | .exiting availableAt => 2 :: toLeBytes 4 availableAt.toNat

def ValidatorStatus.record (stake : UInt64) (registeredAt : UInt32) :
    ValidatorStatus → ValidatorRecord
  | .active => ⟨.active, 0, stake, registeredAt⟩
  | .suspended => ⟨.suspended, 0, stake, registeredAt⟩
  | .exiting availableAt => ⟨.exiting, availableAt, stake, registeredAt⟩

def encodeRecord (status : ValidatorStatus) (stake : UInt64) (registeredAt : UInt32) :
    List UInt8 :=
  status.encode ++ (toLeBytes 8 stake.toNat ++ toLeBytes 4 registeredAt.toNat)

theorem copy32_toList (h : bytes.length = 32) : (copy32 bytes).toList = bytes := by
  unfold copy32
  rw [List.Vector.toList_ofFn]
  apply ext_getElem (by rw [length_ofFn, h])
  intro i _ hi
  rw [List.getElem_ofFn, getD_eq_getElem?_getD, getElem?_eq_getElem hi,
    Option.getD_some]

theorem toList_copy32 (key : PublicKey) : copy32 key.toList = key :=
  List.Vector.toList_injective (copy32_toList key.toList_length)

theorem Submission.length_encode (s : Submission) : s.encode.length = submissionEncodedLength := by
  simp only [Submission.encode, length_append, List.Vector.toList_length, length_toLeBytes]
  rfl

theorem decodeElement_encode (s : Submission) : decodeElement s.encode = s := by
  have hscore : s.encode.drop 32 = toLeBytes 2 s.scoreBps.toNat ++
      (toLeBytes 4 s.sampleCount.toNat ++ s.payloadHash.toList) :=
    drop_left' s.validator.toList_length
  have hcount : s.encode.drop 34 = toLeBytes 4 s.sampleCount.toNat ++ s.payloadHash.toList := by
    rw [show 34 = 32 + 2 from rfl, ← drop_drop, hscore, drop_left' (length_toLeBytes ..)]
  have hhash : s.encode.drop 38 = s.payloadHash.toList := by
    rw [show 38 = 34 + 4 from rfl, ← drop_drop, hcount, drop_left' (length_toLeBytes ..)]
  have hscoreLt : s.scoreBps.toNat < 256 ^ 2 := s.scoreBps.toNat_lt
  have hcountLt : s.sampleCount.toNat < 256 ^ 4 := s.sampleCount.toNat_lt
  unfold decodeElement
  rw [hscore, hcount, hhash, take_left' (length_toLeBytes ..),
    take_left' (length_toLeBytes ..), take_of_length_le s.payloadHash.toList_length.le,
    toList_copy32, fromLeBytes_toLeBytes, fromLeBytes_toLeBytes,
    Nat.mod_eq_of_lt hscoreLt, Nat.mod_eq_of_lt hcountLt, UInt16.ofNat_toNat, UInt32.ofNat_toNat,
    Submission.encode, take_left' s.validator.toList_length, toList_copy32]

section
variable {encode : α → List UInt8} {items : List α}

theorem decode_encodeVec :
    decodeCompactUint (encodeVec encode items) =
      .ok (.ofNat items.length, (compactUint (.ofNat items.length)).length) := by
  have hd := denoted_compactUint (.ofNat items.length) (items.flatMap encode)
  rw [encodeVec, decodeCompactUint_of_denoted hd, UInt64.ofNat_toNat]

theorem drop_encodeVec :
    (encodeVec encode items).drop (compactUint (.ofNat items.length)).length =
      items.flatMap encode := drop_left

end

theorem decodeAccountIdVec_encode (h : (encodeVec List.Vector.toList accounts).length < 2 ^ 63) :
    decodeAccountIdVec (encodeVec List.Vector.toList accounts) = .ok accounts := by
  have hwidth (key : PublicKey) : key.toList.length = 32 := key.toList_length
  have hbody := length_flatMap_const List.Vector.toList hwidth accounts
  have hlength : (encodeVec List.Vector.toList accounts).length =
      (compactUint (.ofNat accounts.length)).length + 32 * accounts.length := by
    rw [encodeVec, length_append, hbody]
  have hcount : (UInt64.ofNat accounts.length).toNat = accounts.length := toNat_ofNat (by omega)
  unfold decodeAccountIdVec
  rw [decode_encodeVec]
  change (do ensure _ _; ensure _ _; Except.ok _) = _
  rw [ensure_bind, ensure_bind, drop_encodeVec, hcount, chunks_flatMap _ hwidth, map_map]
  · congr 1
    exact map_id'' toList_copy32 accounts
  · rw [hcount]
    omega
  · rw [hlength, Nat.add_sub_cancel_left, UInt64.toNat_mul, hcount, Nat.mul_comm]
    exact (Nat.mod_eq_of_lt (by omega)).symm

theorem decodeSubmissions_encode (h : submissions.length ≤ 32) :
    decodeSubmissions (encodeVec Submission.encode submissions) = .ok submissions := by
  have hcount := toNat_ofNat (n := submissions.length) (by omega)
  unfold decodeSubmissions
  rw [decode_encodeVec]
  change (do ensure _ _; ensure _ _; Except.ok _) = _
  rw [ensure_bind, ensure_bind, drop_encodeVec, hcount, chunks_flatMap _ Submission.length_encode,
    map_map]
  · congr 1
    exact map_id'' decodeElement_encode submissions
  · rw [drop_encodeVec, hcount, length_flatMap_const _ Submission.length_encode, Nat.mul_comm]
  · rw [UInt64.le_iff_toNat_le, hcount]
    exact h

theorem decodeValidatorRecord_of_status
    (h : decodeStatus (front ++ (toLeBytes 8 stake.toNat ++ toLeBytes 4 registeredAt.toNat)) =
      .ok (status, availableAt, front.length)) :
    decodeValidatorRecord (front ++ (toLeBytes 8 stake.toNat ++ toLeBytes 4 registeredAt.toNat)) =
      .ok ⟨status, availableAt, stake, registeredAt⟩ := by
  have hstake : stake.toNat < 256 ^ 8 := stake.toNat_lt
  have hregistered : registeredAt.toNat < 256 ^ 4 := registeredAt.toNat_lt
  unfold decodeValidatorRecord
  rw [h]
  change (do ensure _ _; Except.ok _) = _
  rw [ensure_bind (by simp only [length_append, length_toLeBytes]), ← drop_drop,
    drop_left, take_left' (length_toLeBytes ..), drop_left' (length_toLeBytes ..),
    take_of_length_le (length_toLeBytes ..).le, fromLeBytes_toLeBytes, fromLeBytes_toLeBytes,
    Nat.mod_eq_of_lt hstake, Nat.mod_eq_of_lt hregistered, UInt64.ofNat_toNat, UInt32.ofNat_toNat]

theorem decodeValidatorRecord_encode (status : ValidatorStatus) (stake : UInt64)
    (registeredAt : UInt32) :
    decodeValidatorRecord (encodeRecord status stake registeredAt) =
      .ok (status.record stake registeredAt) := by
  cases status with
  | active => exact decodeValidatorRecord_of_status rfl
  | suspended => exact decodeValidatorRecord_of_status rfl
  | exiting availableAt =>
    have hlt : availableAt.toNat < 256 ^ 4 := availableAt.toNat_lt
    have hexiting (rest : List UInt8) : decodeStatus (2 :: rest) = if rest.length < 4 then
        .error (.error "validator record truncated in Exiting.available_at")
        else .ok (.exiting, .ofNat (fromLeBytes (rest.take 4)), 5) := rfl
    refine decodeValidatorRecord_of_status
      ((hexiting (toLeBytes 4 availableAt.toNat ++ _)).trans ?_)
    rw [if_neg (by simp only [length_append, length_toLeBytes]; omega),
      take_left' (length_toLeBytes ..), fromLeBytes_toLeBytes, Nat.mod_eq_of_lt hlt,
      UInt32.ofNat_toNat]
    rfl

def Rejects (x : Except Failure α) : Prop := ∃ text, x = .error (.error text)

theorem Rejects.of_not_ok {x : Except Failure α} (hok : ∀ a, x ≠ .ok a)
    (hpanic : x ≠ .error .panic) : Rejects x := by
  cases x with
  | ok a => exact absurd rfl (hok a)
  | error e =>
    cases e with
    | error text => exact ⟨text, rfl⟩
    | panic => exact absurd rfl hpanic

theorem decodeCompactUint_ne_panic (data : List UInt8) :
    decodeCompactUint data ≠ .error .panic := by
  obtain ⟨_, _, -, -, h⟩ | ⟨-, _, h⟩ := decodeCompactUint_spec data <;> rw [h] <;> simp

theorem decodeSubmissions_ne_panic (data : List UInt8) :
    decodeSubmissions data ≠ .error .panic := by
  refine bind_ne_error ?_ fun _ _ => ?_
  · obtain ⟨_, _, -, -, h⟩ | ⟨-, _, h⟩ := decodeCompactUint_spec data <;> rw [h] <;> nofun
  · exact bind_ne_error (ensure_ne_error nofun) fun _ _ =>
      bind_ne_error (ensure_ne_error nofun) fun _ _ => nofun

theorem decodeValidatorRecord_ne_panic (data : List UInt8) :
    decodeValidatorRecord data ≠ .error .panic := by
  refine bind_ne_error ?_ fun _ _ => bind_ne_error (ensure_ne_error nofun) fun _ _ => nofun
  unfold decodeStatus
  split
  · nofun
  · split_ifs <;> nofun

theorem decodeSubmissions_length
    (h : decodeSubmissions (compactUint (.ofNat n) ++ rest) = .ok submissions) (hn : n ≤ 32) :
    rest.length = n * submissionEncodedLength := by
  have hcount : (UInt64.ofNat n).toNat = n := toNat_ofNat (by omega)
  unfold decodeSubmissions at h
  rw [decodeCompactUint_of_denoted (denoted_compactUint _ rest)] at h
  change (do ensure _ _; ensure _ _; Except.ok _) = _ at h
  obtain ⟨_, -, h⟩ := bind_eq_ok.1 h
  obtain ⟨_, hlength, -⟩ := bind_eq_ok.1 h
  have hlength := ensure_eq_ok.1 hlength
  rw [drop_left, UInt64.ofNat_toNat, hcount] at hlength
  exact hlength

theorem decodeValidatorRecord_length (h : decodeValidatorRecord (tag :: rest) = .ok record) :
    rest.length = if tag = 2 then 16 else 12 := by
  obtain ⟨⟨status, availableAt, offset⟩, hstatus, h⟩ := bind_eq_ok.1 h
  obtain ⟨_, hlength, -⟩ := bind_eq_ok.1 h
  have hlength := ensure_eq_ok.1 hlength
  rw [length_cons] at hlength
  unfold decodeStatus at hstatus
  dsimp only at hstatus
  split_ifs at hstatus with h0 h1 h2 <;> cases hstatus
  · rw [if_neg (by rw [h0]; decide)]
    omega
  · rw [if_neg (by rw [h1]; decide)]
    omega
  · rw [if_pos h2]
    omega

def Cut (s t : List UInt8) : Prop := (s <+: t ∨ t <+: s) ∧ s ≠ t

theorem Cut.cons (h : Cut s (b :: t)) : s = [] ∨ ∃ t', s = b :: t' ∧ t'.length ≠ t.length := by
  cases s with
  | nil => exact .inl rfl
  | cons c t' =>
    obtain ⟨hpre, hne⟩ := h
    right
    obtain ⟨hcb, hrest⟩ : c = b ∧ (t' <+: t ∨ t <+: t') := by
      obtain h | h := hpre
      · obtain ⟨hcb, h⟩ := cons_prefix_cons.1 h
        exact ⟨hcb, .inl h⟩
      · obtain ⟨hcb, h⟩ := cons_prefix_cons.1 h
        exact ⟨hcb.symm, .inr h⟩
    subst hcb
    refine ⟨t', rfl, fun hlen => hne ?_⟩
    obtain h | h := hrest
    · rw [h.eq_of_length hlen]
    · rw [h.eq_of_length hlen.symm]

theorem decodeSubmissions_cut (hn : submissions.length ≤ 32)
    (h : Cut s (encodeVec Submission.encode submissions)) : Rejects (decodeSubmissions s) := by
  refine .of_not_ok (fun a hok => ?_) (decodeSubmissions_ne_panic s)
  have hcount := toNat_ofNat (n := submissions.length) (by omega)
  obtain ⟨b, hb⟩ : ∃ b, compactUint (.ofNat submissions.length) = [b] := by
    obtain ⟨-, he⟩ | ⟨hge, -⟩ | ⟨hge, -⟩ | ⟨hge, -⟩ := compactUint_cases (.ofNat submissions.length)
    · exact ⟨_, he⟩
    all_goals omega
  have hbody := length_flatMap_const _ Submission.length_encode submissions
  rw [encodeVec, hb] at h
  obtain rfl | ⟨t, rfl, hne⟩ := h.cons
  · cases hok
  · rw [← singleton_append, ← hb] at hok
    exact hne ((decodeSubmissions_length hok hn).trans (Nat.mul_comm .. ▸ hbody.symm))

theorem decodeValidatorRecord_cut (h : Cut s (encodeRecord status stake registeredAt)) :
    Rejects (decodeValidatorRecord s) := by
  refine .of_not_ok (fun a hok => ?_) (decodeValidatorRecord_ne_panic s)
  have hwhole := decodeValidatorRecord_encode status stake registeredAt
  obtain ⟨tag, rest, hcons⟩ : ∃ tag rest, encodeRecord status stake registeredAt = tag :: rest := by
    cases status <;> exact ⟨_, _, rfl⟩
  rw [hcons] at h hwhole
  obtain rfl | ⟨t, rfl, hne⟩ := h.cons
  · cases hok
  · exact hne ((decodeValidatorRecord_length hok).trans (decodeValidatorRecord_length hwhole).symm)

/-- Decoders read back what is encoded, and refuse what is cut. -/
theorem scale_round_trips :
    (∀ (v : UInt64) (s : List UInt8),
      decodeCompactUint (compactUint v ++ s) = .ok (v, (compactUint v).length)) ∧
    (∀ v, denoted (compactUint v) = some (v.toNat, (compactUint v).length) ∧
      ∀ s, denoted s = some (v.toNat, s.length) → (compactUint v).length ≤ s.length) ∧
    (∀ submissions, submissions.length ≤ networkValidatorMaxSubmissionsPerRound.toNat →
      decodeSubmissions (encodeVec Submission.encode submissions) = .ok submissions ∧
      ∀ s, Cut s (encodeVec Submission.encode submissions) → Rejects (decodeSubmissions s)) ∧
    (∀ accounts : List PublicKey, (encodeVec List.Vector.toList accounts).length < 2 ^ 63 →
      decodeAccountIdVec (encodeVec List.Vector.toList accounts) = .ok accounts) ∧
    ∀ status stake registeredAt,
      decodeValidatorRecord (encodeRecord status stake registeredAt) =
        .ok (status.record stake registeredAt) ∧
      ∀ s, Cut s (encodeRecord status stake registeredAt) →
        Rejects (decodeValidatorRecord s) := by
  refine ⟨fun v s => ?_, fun v => ⟨?_, fun s h => compactUint_shortest h⟩, fun l hl => ?_,
    fun _ => decodeAccountIdVec_encode, fun _ _ _ => ?_⟩
  · rw [decodeCompactUint_of_denoted (denoted_compactUint v s), UInt64.ofNat_toNat]
  · simpa using denoted_compactUint v []
  · exact ⟨decodeSubmissions_encode hl, fun s => decodeSubmissions_cut hl⟩
  · exact ⟨decodeValidatorRecord_encode .., fun s => decodeValidatorRecord_cut⟩

/-- `decodeCompactUint` fails or returns the integer that is denoted. -/
def Exact (data : List UInt8) : Prop :=
  decodeCompactUint data ≠ .error .panic ∧ ∀ value width,
    decodeCompactUint data = .ok (value, width) → denoted data = some (value.toNat, width)

/-- It fails, or returns the announced accounts from the bytes that follow. -/
def Framed (data : List UInt8) : Prop :=
  decodeAccountIdVec data ≠ .error .panic ∧ ∀ accounts, decodeAccountIdVec data = .ok accounts →
    ∃ n k, denoted data = some (n, k) ∧ accounts.length = n ∧
      accounts.flatMap List.Vector.toList = data.drop k

theorem decodeAccountIdVec_of_denoted (h : denoted data = some (n, k)) (hn : n < 2 ^ 64) :
    decodeAccountIdVec data = (do
      ensure (data.length - k = n * 32 % 2 ^ 64)
        (.error "account id vector length does not match its prefix")
      ensure (32 * n < 2 ^ 64) .panic
      .ok ((chunks 32 n (data.drop k)).map copy32)) := by
  have hcount := toNat_ofNat hn
  have hmul : (UInt64.ofNat n * 32).toNat = n * 32 % 2 ^ 64 := by
    rw [UInt64.toNat_mul, hcount]
    rfl
  unfold decodeAccountIdVec
  rw [decodeCompactUint_of_denoted h]
  change (do
    ensure (data.length - k = (UInt64.ofNat n * 32).toNat) _
    ensure (32 * (UInt64.ofNat n).toNat < 2 ^ 64) _
    Except.ok ((chunks 32 (UInt64.ofNat n).toNat (data.drop k)).map copy32)) = _
  simp only [hmul, hcount]

theorem flatMap_copy32 {pieces : List (List UInt8)} (h : ∀ c ∈ pieces, c.length = 32) :
    (pieces.map copy32).flatMap List.Vector.toList = pieces.flatten := by
  rw [flatMap_map, flatMap_def]
  congr 1
  exact (map_congr_left fun c hc => copy32_toList (h c hc)).trans (map_id' _)

theorem framed_iff (h : denoted data = some (n, k)) (hn : n < 2 ^ 64) :
    Framed data ↔ ¬ (2 ^ 59 ≤ n ∧ data.length - k = n * 32 % 2 ^ 64) := by
  unfold Framed
  rw [decodeAccountIdVec_of_denoted h hn, h]
  constructor
  · rintro ⟨hpanic, -⟩ ⟨hbig, hlength⟩
    apply hpanic
    rw [ensure_bind hlength, ensure, if_neg (by omega)]
    rfl
  · intro hsmall
    constructor
    · intro hpanic
      by_cases hlength : data.length - k = n * 32 % 2 ^ 64
      · rw [ensure_bind hlength] at hpanic
        by_cases hfits : 32 * n < 2 ^ 64
        · rw [ensure_bind hfits] at hpanic
          cases hpanic
        · exact hsmall ⟨by omega, hlength⟩
      · rw [ensure, if_neg hlength] at hpanic
        cases hpanic
    · intro accounts hok
      obtain ⟨_, hlength, hok⟩ := bind_eq_ok.1 hok
      obtain ⟨_, hfits, hok⟩ := bind_eq_ok.1 hok
      have hfits := ensure_eq_ok.1 hfits
      have hlength := ensure_eq_ok.1 hlength
      rw [Nat.mod_eq_of_lt (by omega), ← length_drop, Nat.mul_comm] at hlength
      cases hok
      refine ⟨n, k, rfl, by rw [length_map, length_chunks], ?_⟩
      rw [flatMap_copy32 fun c => length_of_mem_chunks hlength, flatten_chunks hlength]

theorem malformed_rejected_iff (data : List UInt8) :
    Exact data ∧ Framed data ↔ ∀ n k, denoted data = some (n, k) →
      n < 2 ^ 64 ∧ ¬ (2 ^ 59 ≤ n ∧ data.length - k = n * 32 % 2 ^ 64) := by
  obtain ⟨n, k, hd, -, hok⟩ | ⟨hnone, text, herr⟩ := decodeCompactUint_spec data
  · constructor
    · rintro ⟨⟨-, hexact⟩, hframed⟩ n' k' hd'
      cases hd.symm.trans hd'
      have hvalue := hexact _ _ hok
      rw [hd, UInt64.toNat_ofNat'] at hvalue
      have hn : n < 2 ^ 64 := by
        simp only [Option.some.injEq, Prod.mk.injEq] at hvalue
        omega
      exact ⟨hn, (framed_iff hd hn).1 hframed⟩
    · intro h
      obtain ⟨hn, hsmall⟩ := h n k hd
      refine ⟨⟨decodeCompactUint_ne_panic data, ?_⟩, (framed_iff hd hn).2 hsmall⟩
      intro value width hok'
      cases hok.symm.trans hok'
      rw [hd, UInt64.toNat_ofNat_of_lt' hn]
  · have hvec : decodeAccountIdVec data = .error (.error text) := by
      unfold decodeAccountIdVec
      rw [herr]
      rfl
    simp only [Exact, Framed, herr, hvec, hnone]
    simp

theorem wide_count_wrong :
    decodeCompactUint [0x17, 0, 0, 0, 0, 0, 0, 0, 0, 1] = .ok (0, 10) ∧
    denoted [0x17, 0, 0, 0, 0, 0, 0, 0, 0, 1] = some (2 ^ 64, 10) ∧
    decodeAccountIdVec [0x17, 0, 0, 0, 0, 0, 0, 0, 0, 1] = .ok [] ∧
    decodeAccountIdVec [0x13, 0, 0, 0, 0, 0, 0, 0, 8] = .error .panic := by
  decide +kernel

end OpenInfra.Bridge.Scale
