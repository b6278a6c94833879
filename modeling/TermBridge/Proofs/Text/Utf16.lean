import TermBridge.Text.Utf16

namespace TermBridge

namespace Utf16

theorem isHigh_iff (u : UInt16) : isHigh u = true ↔ 0xD800 ≤ u.toNat ∧ u.toNat ≤ 0xDBFF := by
  simp [isHigh, UInt16.le_iff_toNat_le]

theorem isLow_iff (u : UInt16) : isLow u = true ↔ 0xDC00 ≤ u.toNat ∧ u.toNat ≤ 0xDFFF := by
  simp [isLow, UInt16.le_iff_toNat_le]

theorem length_encodeChar (c : Char) : (encodeChar c).length = if c.toNat ≤ 0xFFFF then 1 else 2 := by
  by_cases hc : c.toNat < 0x10000
  · have hle : c.toNat ≤ 0xFFFF := by omega
    simp [encodeChar, hc, hle]
  · have hle : ¬c.toNat ≤ 0xFFFF := by omega
    simp [encodeChar, hc, hle]

theorem decodeLossy_unit {u : UInt16} (hu : isHigh u = false) (rest : List UInt16) :
    decodeLossy (u :: rest) = ofUnit u :: decodeLossy rest := by
  cases rest with
  | nil => rfl
  | cons v rest => simp [decodeLossy, hu]

theorem decodeLossy_pair {u v : UInt16} (hu : isHigh u = true) (hv : isLow v = true)
    (rest : List UInt16) : decodeLossy (u :: v :: rest) = ofPair u v :: decodeLossy rest := by
  simp [decodeLossy, hu, hv]

-- A character is no surrogate, so up to U+FFFF its one unit is neither half of a pair.
theorem decodeLossy_encodeChar_of_lt {c : Char} (hc : c.toNat < 0x10000) (rest : List UInt16) :
    decodeLossy (encodeChar c ++ rest) = c :: decodeLossy rest := by
  have hn : (UInt16.ofNat c.toNat).toNat = c.toNat := UInt16.toNat_ofNat_of_lt' hc
  have hv : c.toNat < 0xD800 ∨ 0xDFFF < c.toNat ∧ c.toNat < 0x110000 := c.valid
  have hhigh : isHigh (UInt16.ofNat c.toNat) = false := by
    rw [← Bool.not_eq_true, isHigh_iff, hn]
    omega
  have hlow : isLow (UInt16.ofNat c.toNat) = false := by
    rw [← Bool.not_eq_true, isLow_iff, hn]
    omega
  have hu : ofUnit (UInt16.ofNat c.toNat) = c := by
    simp only [ofUnit, hhigh, hlow, Bool.or_self, Bool.false_eq_true, if_false, hn, Char.ofNat_toNat]
  simp only [encodeChar, hc, if_true, List.singleton_append]
  rw [decodeLossy_unit hhigh, hu]

theorem decodeLossy_encodeChar_of_le {c : Char} (hc : 0x10000 ≤ c.toNat) (rest : List UInt16) :
    decodeLossy (encodeChar c ++ rest) = c :: decodeLossy rest := by
  have hv : c.toNat < 0xD800 ∨ 0xDFFF < c.toNat ∧ c.toNat < 0x110000 := c.valid
  have hn : ¬c.toNat < 0x10000 := by omega
  have hh : (UInt16.ofNat (0xD800 + (c.toNat - 0x10000) / 0x400)).toNat =
      0xD800 + (c.toNat - 0x10000) / 0x400 :=
    UInt16.toNat_ofNat_of_lt' (show _ < 0x10000 by omega)
  have hl : (UInt16.ofNat (0xDC00 + (c.toNat - 0x10000) % 0x400)).toNat =
      0xDC00 + (c.toNat - 0x10000) % 0x400 :=
    UInt16.toNat_ofNat_of_lt' (show _ < 0x10000 by omega)
  simp only [encodeChar, hn, if_false, List.cons_append, List.nil_append]
  rw [decodeLossy_pair]
  · have hp : 0x10000 + (0xD800 + (c.toNat - 0x10000) / 0x400 - 0xD800) * 0x400 +
        (0xDC00 + (c.toNat - 0x10000) % 0x400 - 0xDC00) = c.toNat := by omega
    rw [ofPair, hh, hl, hp, Char.ofNat_toNat]
  · rw [isHigh_iff, hh]
    omega
  · rw [isLow_iff, hl]
    omega

theorem decodeLossy_encode (text : List Char) : decodeLossy (encode text) = text := by
  induction text with
  | nil => rfl
  | cons c rest ih =>
    simp only [encode, List.flatMap_cons] at ih ⊢
    by_cases hc : c.toNat < 0x10000
    · rw [decodeLossy_encodeChar_of_lt hc, ih]
    · rw [decodeLossy_encodeChar_of_le (Nat.le_of_not_lt hc), ih]

end Utf16

namespace WideString

theorem units_ofString (text : String) : (ofString text).units = Utf16.encode text.toList := by
  simp [ofString, units]

-- A zero unit of the text itself stays.
theorem memory_ofString (text : String) : (ofString text).memory = (ofString text).units ++ [0] := by
  rw [units_ofString, ofString]

theorem toStringLossy_ofString (text : String) : (ofString text).toStringLossy = text := by
  rw [toStringLossy, units_ofString, Utf16.decodeLossy_encode, String.ofList_toList]

theorem units_ofString_inj {text other : String} :
    (ofString text).units = (ofString other).units ↔ text = other := by
  constructor
  · intro h
    have hread : (ofString text).toStringLossy = (ofString other).toStringLossy := by
      rw [toStringLossy, h, toStringLossy]
    rwa [toStringLossy_ofString, toStringLossy_ofString] at hread
  · rintro rfl
    rfl

end WideString

end TermBridge
