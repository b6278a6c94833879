import TermBridge.KeyDump
import TermBridge.Text.Octets

namespace TermBridge.KeyDump

def tab : UInt8 := 9

def newline : UInt8 := 10

-- A line of the table by its columns, each of its own width.
structure Line where
  decimal : Bytes
  octal : Bytes
  hexadecimal : Bytes
  length_decimal : decimal.length = 3
  length_octal : octal.length = 4
  length_hexadecimal : hexadecimal.length = 2

namespace Line

def text (l : Line) : Bytes :=
  tab :: (l.decimal ++ 32 :: (l.octal ++ 32 :: 48 :: 120 :: l.hexadecimal))

def bytes (l : Line) : Bytes :=
  l.text ++ [newline]

def size : Nat := 15

-- The number that a column writes, which blanks may precede.
def column? (base : Nat) (column : Bytes) : Option Nat :=
  Numeral.value? base ((Octets.ofBytes column).toList.dropWhile (· = ' '))

def Denotes (l : Line) (b : UInt8) : Prop :=
  column? 10 l.decimal = some b.toNat ∧ column? 8 l.octal = some b.toNat ∧
    column? 16 l.hexadecimal = some b.toNat

def ofBytes? (bytes : Bytes) : Option Line :=
  if h : bytes.length = size then
    let l : Line := {
      decimal := (bytes.drop 1).take 3
      octal := (bytes.drop 5).take 4
      hexadecimal := (bytes.drop 12).take 2
      length_decimal := by simp [h, size]
      length_octal := by simp [h, size]
      length_hexadecimal := by simp [h, size] }
    if l.bytes = bytes then some l else none
  else none

-- The byte whose line it is. The columns have to agree.
def byte? (l : Line) : Option UInt8 :=
  match column? 10 l.decimal, column? 8 l.octal, column? 16 l.hexadecimal with
  | some n, some n', some n'' => if n < 256 ∧ n' = n ∧ n'' = n then some (UInt8.ofNat n) else none
  | _, _, _ => none

end Line

def cut (table : Bytes) : List Bytes :=
  if _h : table = [] then [] else table.take Line.size :: cut (table.drop Line.size)
termination_by table.length
decreasing_by
  have hpos : 0 < table.length := List.length_pos_iff.mpr _h
  simp only [List.length_drop, Line.size]
  omega

def table (output : Bytes) : Bytes :=
  output.dropWhile (· ≠ tab)

-- The bytes of which the output is the dump.
def read? (output : Bytes) : Option Bytes :=
  (cut (table output)).mapM fun bytes => (Line.ofBytes? bytes).bind Line.byte?

end TermBridge.KeyDump
