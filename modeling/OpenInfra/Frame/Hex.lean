import Mathlib.Data.List.SplitLengths
import OpenInfra.Frame.Bytes

namespace Frame
open List

def hexDigit (c : Char) : Option Nat :=
  if c.isDigit then some (c.toNat - '0'.toNat)
  else if 'a' ≤ c ∧ c ≤ 'f' then some (c.toNat - 'a'.toNat + 10)
  else if 'A' ≤ c ∧ c ≤ 'F' then some (c.toNat - 'A'.toNat + 10)
  else none

def hexDecode : List Char → Option (List UInt8)
  | [] => some []
  | high :: low :: rest => do
    some (UInt8.ofNat (16 * (← hexDigit high) + (← hexDigit low)) :: (← hexDecode rest))
  | [_] => none

theorem hexDigit_digitChar : ∀ n < 16, hexDigit (Nat.digitChar n) = some n := by decide

theorem hexDecode_hexEncode (bytes : List UInt8) :
    hexDecode (hexEncode bytes).toList = some bytes := by
  rw [hexEncode, String.toList_ofList]
  induction bytes with
  | nil => rfl
  | cons b bytes ih =>
    have hb := b.toNat_lt
    rw [flatMap_cons, cons_append, cons_append, nil_append, hexDecode,
      hexDigit_digitChar _ (by omega), hexDigit_digitChar _ (Nat.mod_lt _ (by decide)), ih]
    change some (UInt8.ofNat (16 * (b.toNat / 16) + b.toNat % 16) :: bytes) = _
    rw [Nat.div_add_mod, UInt8.ofNat_toNat]

theorem hexEncode_injective : Function.Injective hexEncode := by
  intro a b h
  rw [← Option.some_inj, ← hexDecode_hexEncode, h, hexDecode_hexEncode]

theorem length_hexEncode (bytes : List UInt8) : (hexEncode bytes).length = 2 * bytes.length := by
  rw [hexEncode, String.length_ofList, length_flatMap]
  simp [Nat.mul_comm]

instance uuidCount : NeZero (2 ^ 128) := ⟨by decide⟩

def uuidGroups : List Nat := [8, 4, 4, 4, 12]

def uuidText (u : Fin (2 ^ 128)) : String :=
  .ofList (['-'].intercalate (uuidGroups.splitLengths (hexEncode (bigEndian 16 u)).toList))

def parseUuid (text : String) : Option (Fin (2 ^ 128)) :=
  let groups := text.toList.splitOn '-'
  if groups.map length = uuidGroups then
    (hexDecode groups.flatten).map fun bytes => Fin.ofNat _ (fromBigEndian bytes)
  else none

theorem forall_hexEncode {P : Char → Prop} (h : ∀ n < 16, P (Nat.digitChar n))
    (bytes : List UInt8) : ∀ c ∈ (hexEncode bytes).toList, P c := by
  rw [hexEncode, String.toList_ofList]
  intro c hc
  obtain ⟨x, -, hc⟩ := mem_flatMap.1 hc
  have hx := x.toNat_lt
  obtain rfl | hc := mem_cons.1 hc
  · exact h _ (by omega)
  · rw [mem_singleton.1 hc]
    exact h _ (Nat.mod_lt _ (by decide))

theorem forall_uuidText {P : Char → Prop} (h : ∀ n < 16, P (Nat.digitChar n)) (hyphen : P '-')
    (u : Fin (2 ^ 128)) : ∀ c ∈ (uuidText u).toList, P c := by
  have hslice (m n : Nat) : ∀ c ∈ ((hexEncode (bigEndian 16 u)).toList.drop m).take n, P c :=
    fun c hc => forall_hexEncode h _ c (mem_of_mem_drop (mem_of_mem_take hc))
  unfold uuidText
  rw [String.toList_ofList]
  simp only [uuidGroups, splitLengths, splitAt_eq, drop_drop, intercalate, intersperse,
    flatten_cons, forall_mem_append, forall_mem_singleton, hyphen, true_and]
  exact ⟨hslice 0 8, hslice 8 4, hslice 12 4, hslice 16 4, hslice 20 12, nofun⟩

theorem parseUuid_uuidText (u : Fin (2 ^ 128)) : parseUuid (uuidText u) = some u := by
  have hlength : (hexEncode (bigEndian 16 u)).toList.length = uuidGroups.sum := by
    rw [String.length_toList, length_hexEncode, bigEndian_length]
    rfl
  have hflatten := flatten_splitLengths _ _ hlength.le
  unfold parseUuid uuidText
  rw [String.toList_ofList, splitOn_intercalate '-' ?_ (by simp [uuidGroups])]
  · dsimp only
    rw [if_pos (map_splitLengths_length _ _ hlength.ge), hflatten, hexDecode_hexEncode,
      Option.map_some, fromBigEndian_bigEndian]
    exact congrArg some (Fin.ext (by simp))
  · intro group hgroup hmem
    exact forall_hexEncode (P := (· ≠ '-')) (by decide) _ _
      (hflatten ▸ mem_flatten_of_mem hgroup hmem) rfl

theorem utf8_append (s t : String) : utf8 (s ++ t) = utf8 s ++ utf8 t := by
  unfold utf8
  rw [String.toUTF8, String.toByteArray_append, ByteArray.data_append, Array.toList_append]
  rfl

end Frame
