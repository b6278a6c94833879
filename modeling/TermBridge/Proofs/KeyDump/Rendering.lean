import Mathlib.Data.List.Forall2
import TermBridge.KeyDump.Table
import TermBridge.Proofs.Text.Numeral

namespace TermBridge

namespace Octets

theorem ofBytes_toBytes {text : List Char} (h : ∀ c ∈ text, c.toNat < 256) :
    (ofBytes (toBytes (String.ofList text))).toList = text := by
  have hchar : ∀ c ∈ text, Char.ofNat (UInt8.ofNat c.toNat).toNat = c := by
    intro c hc
    rw [UInt8.toNat_ofNat_of_lt' (h c hc), Char.ofNat_toNat]
  simp only [ofBytes, toBytes, String.toList_ofList, List.map_map]
  exact (List.map_congr_left hchar).trans (List.map_id text)

end Octets

namespace KeyDump

-- In front of the table.

theorem printable_of_mem_shown {b x : UInt8} (h : x ∈ shown b) : 32 ≤ x ∧ x ≠ 127 := by
  by_cases hlow : b < 32
  · have hx : x = 94 ∨ x = b + 64 := by simpa [shown, caretLetter?, hlow] using h
    rcases hx with rfl | rfl
    · decide
    · have hlt : b.toNat < 32 := UInt8.lt_iff_toNat_lt.mp hlow
      have hsum : (b + 64).toNat = b.toNat + 64 := by
        rw [UInt8.toNat_add]
        exact Nat.mod_eq_of_lt (show b.toNat + 64 < 256 by omega)
      constructor
      · rw [UInt8.le_iff_toNat_le, hsum]
        exact show 32 ≤ b.toNat + 64 by omega
      · intro hdelete
        have hcode : b.toNat + 64 = 127 := hsum.symm.trans (congrArg UInt8.toNat hdelete)
        omega
  · by_cases hdelete : b = 127
    · have hx : x = 94 ∨ x = 63 := by simpa [shown, caretLetter?, hdelete] using h
      rcases hx with rfl | rfl <;> decide
    · have hx : x = b := by simpa [shown, caretLetter?, hlow, hdelete] using h
      rw [hx]
      exact ⟨UInt8.not_lt.mp hlow, hdelete⟩

namespace Line

variable {l : Line} {b : UInt8}

theorem length_text (l : Line) : l.text.length = 14 := by
  simp [text, l.length_decimal, l.length_octal, l.length_hexadecimal]

theorem length_bytes (l : Line) : l.bytes.length = size := by
  simp [bytes, length_text, size]

theorem ofBytes?_bytes (l : Line) : ofBytes? l.bytes = some l := by
  have hdecimal : (l.bytes.drop 1).take 3 = l.decimal := by
    simp [bytes, text, l.length_decimal]
  have hoctal : (l.bytes.drop 5).take 4 = l.octal := by
    simp [bytes, text, List.take_append, List.drop_append, l.length_decimal, l.length_octal]
  have hhexadecimal : (l.bytes.drop 12).take 2 = l.hexadecimal := by
    have hbefore : l.decimal.drop 11 = [] := List.drop_eq_nil_of_le (by rw [l.length_decimal]; decide)
    have hbefore' : l.octal.drop 7 = [] := List.drop_eq_nil_of_le (by rw [l.length_octal]; decide)
    simp [bytes, text, List.drop_append, l.length_decimal, l.length_octal, l.length_hexadecimal, hbefore,
      hbefore']
  simp only [ofBytes?, length_bytes, dite_true, hdecimal, hoctal, hhexadecimal]
  rfl

theorem byte?_of_denotes (h : l.Denotes b) : l.byte? = some b := by
  obtain ⟨hdecimal, hoctal, hhexadecimal⟩ := h
  simp [byte?, hdecimal, hoctal, hhexadecimal, b.toNat_lt]

-- Behind its blanks a column has digits only, so it does not end the line.
theorem newline_not_mem_of_column? {base n : Nat} {column : Bytes} (h : column? base column = some n) :
    newline ∉ column := by
  intro hmem
  have hchar : '\n' ∈ (Octets.ofBytes column).toList := by
    simpa [Octets.ofBytes] using ⟨newline, hmem, rfl⟩
  rw [← List.takeWhile_append_dropWhile (p := (· = ' ')) (l := (Octets.ofBytes column).toList)] at hchar
  rcases List.mem_append.mp hchar with hblank | hdigit
  · exact absurd (List.mem_takeWhile_imp hblank) (by decide)
  · have hprintable := (Numeral.toNat_of_isDigit (Numeral.isDigit_of_value? h _ hdigit)).1
    exact absurd hprintable (by decide)

theorem newline_not_mem_text (h : l.Denotes b) : newline ∉ l.text := by
  obtain ⟨hdecimal, hoctal, hhexadecimal⟩ := h
  have hd := newline_not_mem_of_column? hdecimal
  have ho := newline_not_mem_of_column? hoctal
  have hh := newline_not_mem_of_column? hhexadecimal
  have hrest : newline ≠ tab ∧ newline ≠ 32 ∧ newline ≠ 48 ∧ newline ≠ 120 := by decide
  simp [text, hd, ho, hh, hrest]

theorem idxOf_newline (h : l.Denotes b) : l.bytes.idxOf newline = 14 := by
  rw [bytes, List.idxOf_append, if_neg (newline_not_mem_text h), length_text, List.idxOf_cons_self]

def ofByte (b : UInt8) : Line where
  decimal := Octets.toBytes (String.ofList (Numeral.padLeft 3 ' ' (Numeral.decimal b.toNat)))
  octal := Octets.toBytes (String.ofList (Numeral.padLeft 4 '0' (Numeral.octal b.toNat)))
  hexadecimal := Octets.toBytes (String.ofList (Numeral.padLeft 2 '0' (Numeral.hex b.toNat)))
  length_decimal := by
    have hlt : b.toNat < 10 ^ 3 := lt_trans b.toNat_lt (by decide)
    have hlength := Numeral.length_padLeft_toDigits (by decide) (by decide) hlt ' '
    simpa [Octets.toBytes, Numeral.decimal] using hlength
  length_octal := by
    have hlt : b.toNat < 8 ^ 4 := lt_trans b.toNat_lt (by decide)
    have hlength := Numeral.length_padLeft_toDigits (by decide) (by decide) hlt '0'
    simpa [Octets.toBytes, Numeral.octal] using hlength
  length_hexadecimal := by
    have hlt : b.toNat < 16 ^ 2 := b.toNat_lt
    have hlength := Numeral.length_padLeft_toDigits (by decide) (by decide) hlt '0'
    simpa [Octets.toBytes, Numeral.hex] using hlength

theorem row_eq_bytes (b : UInt8) : row b = (ofByte b).bytes := by
  simp [row, rowText, ofByte, bytes, text, Octets.toBytes, tab, newline]

theorem column?_blanks {base n : Nat} {text : List Char} (h : Numeral.value? base text = some n)
    (blanks : Nat) :
    column? base (Octets.toBytes (String.ofList (List.replicate blanks ' ' ++ text))) = some n := by
  have hascii : ∀ c ∈ List.replicate blanks ' ' ++ text, c.toNat < 256 := by
    intro c hc
    rcases List.mem_append.mp hc with hblank | hdigit
    · rw [List.eq_of_mem_replicate hblank]
      decide
    · exact lt_trans (Numeral.toNat_of_isDigit (Numeral.isDigit_of_value? h c hdigit)).2 (by decide)
  rw [column?, Octets.ofBytes_toBytes hascii, Numeral.dropWhile_blank h, h]

theorem column?_digits {base n : Nat} {text : List Char} (h : Numeral.value? base text = some n) :
    column? base (Octets.toBytes (String.ofList text)) = some n := by
  simpa using column?_blanks h 0

theorem denotes_ofByte (b : UInt8) : (ofByte b).Denotes b := by
  have hdecimal : Numeral.value? 10 (Numeral.decimal b.toNat) = some b.toNat :=
    Numeral.value?_toDigits (by decide) (by decide) b.toNat
  have hoctal : Numeral.value? 8 (Numeral.octal b.toNat) = some b.toNat :=
    Numeral.value?_toDigits (by decide) (by decide) b.toNat
  have hhexadecimal : Numeral.value? 16 (Numeral.hex b.toNat) = some b.toNat :=
    Numeral.value?_toDigits (by decide) (by decide) b.toNat
  simp only [Denotes, ofByte]
  refine ⟨?_, ?_, ?_⟩
  · exact column?_blanks hdecimal (3 - (Numeral.decimal b.toNat).length)
  · exact column?_digits (Numeral.value?_padLeft_zero (by decide) (by decide) hoctal)
  · exact column?_digits (Numeral.value?_padLeft_zero (by decide) (by decide) hhexadecimal)

end Line

-- The output as a whole.

variable (chunk : Bytes)

theorem render_eq : render chunk = chunk.flatMap shown ++ (chunk.map Line.ofByte).flatMap Line.bytes := by
  have hrow : row = fun b => (Line.ofByte b).bytes := funext Line.row_eq_bytes
  rw [render, hrow, List.flatMap_map]

theorem ne_tab_of_mem_shown : ∀ x ∈ chunk.flatMap shown, decide (x ≠ tab) = true := by
  intro x hx
  obtain ⟨b, -, hx⟩ := List.mem_flatMap.mp hx
  have hprintable : 32 ≤ x := (printable_of_mem_shown hx).1
  have hne : x ≠ tab := by
    rintro rfl
    exact absurd hprintable (by decide)
  simpa using hne

-- The table begins at the first tab because it is empty or begins with one.
theorem takeWhile_render : (render chunk).takeWhile (· ≠ tab) = chunk.flatMap shown := by
  rw [render_eq, List.takeWhile_append_of_pos (ne_tab_of_mem_shown chunk)]
  cases chunk with
  | nil => rfl
  | cons b rest => simp [Line.bytes, Line.text]

theorem table_render : table (render chunk) = (chunk.map Line.ofByte).flatMap Line.bytes := by
  rw [table, render_eq, List.dropWhile_append_of_pos (ne_tab_of_mem_shown chunk)]
  cases chunk with
  | nil => rfl
  | cons b rest => simp [Line.bytes, Line.text]

theorem cut_lines (lines : List Line) : cut (lines.flatMap Line.bytes) = lines.map Line.bytes := by
  induction lines with
  | nil => simp [cut]
  | cons l rest ih =>
    have hne : l.bytes ++ rest.flatMap Line.bytes ≠ [] := by
      simp [Line.bytes]
    rw [List.flatMap_cons, cut, dif_neg hne, List.take_left' l.length_bytes,
      List.drop_left' l.length_bytes, ih, List.map_cons]

theorem read?_render : read? (render chunk) = some chunk := by
  have hline : ∀ b, (Line.ofBytes? (Line.ofByte b).bytes).bind Line.byte? = some b := by
    intro b
    rw [Line.ofBytes?_bytes, Option.bind_some, Line.byte?_of_denotes (Line.denotes_ofByte b)]
  rw [read?, table_render, cut_lines]
  induction chunk with
  | nil => rfl
  | cons b rest ih =>
    rw [List.map_cons, List.map_cons, List.mapM_cons, ih, hline]
    rfl

theorem render_readable (chunk : Bytes) :
    (∀ b ∈ (render chunk).takeWhile (· ≠ tab), 32 ≤ b ∧ b ≠ 127) ∧
    (∃ lines : List Line, (render chunk).dropWhile (· ≠ tab) = lines.flatMap Line.bytes ∧
      List.Forall₂ (fun l b => l.Denotes b ∧ l.bytes.length = 15 ∧ l.bytes.idxOf newline = 14) lines chunk) ∧
    read? (render chunk) = some chunk ∧ ∀ other, render other = render chunk → other = chunk := by
  refine ⟨?_, ⟨chunk.map Line.ofByte, table_render chunk, ?_⟩, read?_render chunk, ?_⟩
  · intro x hx
    rw [takeWhile_render] at hx
    obtain ⟨b, -, hx⟩ := List.mem_flatMap.mp hx
    exact printable_of_mem_shown hx
  · rw [List.forall₂_map_left_iff, List.forall₂_same]
    intro b _
    have hdenotes := Line.denotes_ofByte b
    exact ⟨hdenotes, Line.length_bytes _, Line.idxOf_newline hdenotes⟩
  · intro other hother
    have hread : some other = some chunk := by
      rw [← read?_render other, ← read?_render chunk, hother]
    exact Option.some.inj hread

end KeyDump

end TermBridge
