namespace TermBridge

namespace Utf16

def encodeChar (c : Char) : List UInt16 :=
  let n := c.toNat
  if n < 0x10000 then [UInt16.ofNat n]
  else
    [UInt16.ofNat (0xD800 + (n - 0x10000) / 0x400), UInt16.ofNat (0xDC00 + (n - 0x10000) % 0x400)]

def encode (text : List Char) : List UInt16 :=
  text.flatMap encodeChar

def isHigh (u : UInt16) : Bool :=
  0xD800 ≤ u && u ≤ 0xDBFF

def isLow (u : UInt16) : Bool :=
  0xDC00 ≤ u && u ≤ 0xDFFF

def ofPair (high low : UInt16) : Char :=
  Char.ofNat (0x10000 + (high.toNat - 0xD800) * 0x400 + (low.toNat - 0xDC00))

def ofUnit (u : UInt16) : Char :=
  if isHigh u || isLow u then '\uFFFD' else Char.ofNat u.toNat

def decodeLossy : List UInt16 → List Char
  | [] => []
  | [u] => [ofUnit u]
  | u :: v :: rest =>
    if isHigh u && isLow v then ofPair u v :: decodeLossy rest
    else ofUnit u :: decodeLossy (v :: rest)

end Utf16

-- A wide string as it lies in memory: its units and the zero unit that ends it.
structure WideString where
  memory : List UInt16
  deriving DecidableEq

namespace WideString

def ofString (text : String) : WideString :=
  ⟨Utf16.encode text.toList ++ [0]⟩

-- The units without the terminating zero.
def units (w : WideString) : List UInt16 :=
  w.memory.dropLast

def toStringLossy (w : WideString) : String :=
  String.ofList (Utf16.decodeLossy w.units)

end WideString

end TermBridge
