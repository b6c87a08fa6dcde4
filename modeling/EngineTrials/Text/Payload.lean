import EngineTrials.Text.Utf8

/-!
# Payloads

What an engine reads on its standard input: ISO-8859-1 (one byte a character) when every character
of the text has a code point below 256, UTF-8 otherwise. In the other direction `Latin1.decode`
gives every byte string a text, one character a byte.
-/
namespace EngineTrials.Text

namespace Latin1

/-- A character that fits in one byte. -/
def fits (c : Char) : Bool :=
  decide (c.toNat ≤ 0xFF)

def encode (cs : List Char) : Bytes :=
  cs.map fun c => UInt8.ofNat c.toNat

def decodeByte (b : UInt8) : Char :=
  Char.ofNat b.toNat

def decode (b : Bytes) : String :=
  String.ofList (b.map decodeByte)

end Latin1

/-- The bytes handed to an engine for an input text. -/
def payload (s : String) : Bytes :=
  if s.toList.all Latin1.fits then Latin1.encode s.toList else Utf8.encode s.toList

end EngineTrials.Text
