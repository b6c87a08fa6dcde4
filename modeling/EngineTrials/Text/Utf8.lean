/-!
# UTF-8

`Utf8.encode` writes a text as bytes and `Utf8.decode?` reads bytes back, refusing every sequence
that is not the shortest form of a Unicode scalar value. Bytes are a list, so that both directions
are plain recursions on the data.
-/
namespace EngineTrials.Text

/-- A byte string, such as a captured output stream. -/
abbrev Bytes := List UInt8

namespace Utf8

/-- The byte `0x80 + n % 64` that continues a sequence. -/
def continuation (n : Nat) : UInt8 :=
  UInt8.ofNat (0x80 + n % 64)

/-- The shortest byte sequence of one character. -/
def encodeChar (c : Char) : Bytes :=
  let n := c.toNat
  if n < 0x80 then [UInt8.ofNat n]
  else if n < 0x800 then [UInt8.ofNat (0xC0 + n / 64), continuation n]
  else if n < 0x10000 then
    [UInt8.ofNat (0xE0 + n / 4096), continuation (n / 64), continuation n]
  else
    [UInt8.ofNat (0xF0 + n / 262144), continuation (n / 4096), continuation (n / 64),
      continuation n]

def encode (cs : List Char) : Bytes :=
  cs.flatMap encodeChar

/-- The six payload bits of a continuation byte. -/
def tailBits? (b : UInt8) : Option Nat :=
  if 0x80 ≤ b.toNat ∧ b.toNat < 0xC0 then some (b.toNat - 0x80) else none

/-- The character `n` stands for, provided that `n` needs the sequence it came in. -/
def scalar? (least n : Nat) : Option Char :=
  if h : least ≤ n ∧ n.isValidChar then some (Char.ofNatAux n h.2) else none

/-- Reads a whole byte string, or nothing if any part of it is not UTF-8. -/
def decode? : Bytes → Option (List Char)
  | [] => some []
  | a :: rest =>
    if a.toNat < 0x80 then do
      let c ← scalar? 0 a.toNat
      let cs ← decode? rest
      return c :: cs
    else if a.toNat < 0xC0 then none
    else if a.toNat < 0xE0 then
      match rest with
      | b :: rest => do
        let x ← tailBits? b
        let c ← scalar? 0x80 ((a.toNat - 0xC0) * 64 + x)
        let cs ← decode? rest
        return c :: cs
      | _ => none
    else if a.toNat < 0xF0 then
      match rest with
      | b :: c :: rest => do
        let x ← tailBits? b
        let y ← tailBits? c
        let c ← scalar? 0x800 ((a.toNat - 0xE0) * 4096 + x * 64 + y)
        let cs ← decode? rest
        return c :: cs
      | _ => none
    else
      match rest with
      | b :: c :: d :: rest => do
        let x ← tailBits? b
        let y ← tailBits? c
        let z ← tailBits? d
        let c ← scalar? 0x10000 ((a.toNat - 0xF0) * 262144 + x * 4096 + y * 64 + z)
        let cs ← decode? rest
        return c :: cs
      | _ => none

/-- The text whose bytes these are. -/
def text? (b : Bytes) : Option String :=
  (decode? b).map String.ofList

@[simp] theorem encode_nil : encode [] = [] := rfl

@[simp] theorem encode_cons (c : Char) (cs : List Char) :
    encode (c :: cs) = encodeChar c ++ encode cs := by
  simp [encode]

end Utf8

end EngineTrials.Text
