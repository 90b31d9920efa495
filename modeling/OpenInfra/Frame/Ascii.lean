import Mathlib.Tactic

namespace Frame

def Ascii (t : ByteArray) : Prop := ∀ b ∈ t.data.toList, 0 < b.toNat ∧ b.toNat < 128

namespace Ascii

theorem of_string (s : String) (h : s.toList.all fun c => 0 < c.toNat ∧ c.toNat < 128) :
    Ascii s.toUTF8 := by
  intro b hb
  have hdata : s.toUTF8.data.toList = s.toList.flatMap String.utf8EncodeChar := by
    rw [String.toUTF8, ← String.utf8Encode_toList, List.utf8Encode, List.toList_data_toByteArray]
  rw [hdata] at hb
  obtain ⟨c, hc, hb⟩ := List.mem_flatMap.1 hb
  obtain ⟨hpos, hlt⟩ := of_decide_eq_true (List.all_eq_true.1 h c hc)
  unfold String.utf8EncodeChar at hb
  dsimp only at hb
  rw [if_pos (show c.val.toNat ≤ 127 by exact Nat.le_of_lt_succ hlt), List.mem_singleton] at hb
  have hbyte : b.toNat = c.toNat := by
    rw [hb]
    exact Nat.mod_eq_of_lt (hlt.trans (by decide))
  rw [hbyte]
  exact ⟨hpos, hlt⟩

end Ascii

end Frame
