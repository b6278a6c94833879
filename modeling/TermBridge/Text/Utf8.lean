namespace TermBridge

abbrev Bytes := List UInt8

namespace Utf8

inductive Piece where
  | char (c : Char)
  | illFormed
  deriving DecidableEq, Repr

-- The bytes that may follow a lead byte: the range of the second one, and how many come after it.
structure Tail where
  low : UInt8
  high : UInt8
  more : Nat

def tail? (lead : UInt8) : Option Tail :=
  if lead < 0xC2 then none
  else if lead < 0xE0 then some ⟨0x80, 0xBF, 0⟩
  else if lead = 0xE0 then some ⟨0xA0, 0xBF, 1⟩
  else if lead = 0xED then some ⟨0x80, 0x9F, 1⟩
  else if lead < 0xF0 then some ⟨0x80, 0xBF, 1⟩
  else if lead = 0xF0 then some ⟨0x90, 0xBF, 2⟩
  else if lead < 0xF4 then some ⟨0x80, 0xBF, 2⟩
  else if lead = 0xF4 then some ⟨0x80, 0x8F, 2⟩
  else none

-- The bits of a lead byte that belong to the character.
def leadBits (lead : UInt8) : Nat :=
  if lead < 0xE0 then lead.toNat % 32
  else if lead < 0xF0 then lead.toNat % 16
  else lead.toNat % 8

-- Reads `more` continuation bytes onto the bits in `acc`.
def continuation (acc : Nat) : Nat → Bytes → Piece × Bytes
  | 0, rest => (.char (Char.ofNat acc), rest)
  | _ + 1, [] => (.illFormed, [])
  | more + 1, b :: rest =>
    if 0x80 ≤ b ∧ b ≤ 0xBF then continuation (acc * 64 + b.toNat % 64) more rest
    else (.illFormed, b :: rest)

theorem continuation_length_le (acc more : Nat) (bytes : Bytes) :
    (continuation acc more bytes).2.length ≤ bytes.length := by
  induction more generalizing acc bytes with
  | zero => simp [continuation]
  | succ more ih =>
    cases bytes with
    | nil => simp [continuation]
    | cons b rest =>
      simp only [continuation]
      split
      · exact Nat.le_succ_of_le (ih _ rest)
      · simp

-- The first piece of a byte string that begins with `lead`, and the bytes after it.
def next (lead : UInt8) (rest : Bytes) : Piece × Bytes :=
  if lead < 0x80 then (.char (Char.ofNat lead.toNat), rest)
  else
    match tail? lead, rest with
    | none, _ => (.illFormed, rest)
    | some _, [] => (.illFormed, [])
    | some t, b :: rest =>
      if t.low ≤ b ∧ b ≤ t.high then
        continuation (leadBits lead * 64 + b.toNat % 64) t.more rest
      else (.illFormed, b :: rest)

theorem next_length_le (lead : UInt8) (rest : Bytes) :
    (next lead rest).2.length ≤ rest.length := by
  unfold next
  split
  · simp
  · split
    · simp
    · simp
    · split
      · exact Nat.le_succ_of_le (continuation_length_le _ _ _)
      · simp

def pieces : Bytes → List Piece
  | [] => []
  | lead :: rest =>
    let step := next lead rest
    step.1 :: pieces step.2
termination_by bytes => bytes.length
decreasing_by exact Nat.lt_succ_of_le (next_length_le lead rest)

def Piece.char? : Piece → Option Char
  | .char c => some c
  | .illFormed => none

def Piece.lossy : Piece → Char
  | .char c => c
  | .illFormed => '\uFFFD'

def decode? (bytes : Bytes) : Option String :=
  ((pieces bytes).mapM Piece.char?).map String.ofList

def decodeLossy (bytes : Bytes) : String :=
  String.ofList ((pieces bytes).map Piece.lossy)

def encode (text : String) : Bytes :=
  text.toUTF8.toList

end Utf8

end TermBridge
