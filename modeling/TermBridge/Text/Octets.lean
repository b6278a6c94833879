import TermBridge.Text.Utf8

namespace TermBridge.Octets

-- Programs that treat their arguments as bytes are described on text in which each byte is the character of
-- the same number.
def ofBytes (bytes : Bytes) : String :=
  String.ofList (bytes.map fun b => Char.ofNat b.toNat)

def toBytes (text : String) : Bytes :=
  text.toList.map fun c => UInt8.ofNat c.toNat

-- Ordinary text as it is stored.
def ofText (text : String) : String :=
  ofBytes (Utf8.encode text)

end TermBridge.Octets
