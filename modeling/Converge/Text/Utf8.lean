/-!
# Text from bytes

Bytes that came from outside need not be text.  `Utf8.lossy` reads them all the same: each piece
that is no character is shown by the replacement character.
-/

namespace Converge.Utf8

/-- What the first byte of a character says. -/
structure Lead where
  /-- How many bytes follow. -/
  more : Nat
  /-- The bits of the character that the byte holds. -/
  bits : Nat
  /-- The least and the greatest second byte. -/
  low : Nat
  high : Nat

/-- Reads the first byte of a character. -/
def lead? (b : Nat) : Option Lead :=
  if b < 0x80 then some ⟨0, b, 0, 0⟩
  else if 0xC2 ≤ b && b ≤ 0xDF then some ⟨1, b - 0xC0, 0x80, 0xBF⟩
  else if b = 0xE0 then some ⟨2, 0, 0xA0, 0xBF⟩
  else if b = 0xED then some ⟨2, 0xD, 0x80, 0x9F⟩
  else if 0xE1 ≤ b && b ≤ 0xEF then some ⟨2, b - 0xE0, 0x80, 0xBF⟩
  else if b = 0xF0 then some ⟨3, 0, 0x90, 0xBF⟩
  else if b = 0xF4 then some ⟨3, 4, 0x80, 0x8F⟩
  else if 0xF1 ≤ b && b ≤ 0xF3 then some ⟨3, b - 0xF0, 0x80, 0xBF⟩
  else none

/-- The character that stands for what is no character. -/
def replacement : Char := '\uFFFD'

/-- Reads bytes one after the other.  In the middle of a character `open?` says how many bytes it
still needs, the bits so far and the range of the next byte. -/
def read (open? : Option Lead) : List UInt8 → List Char
  | [] => if open?.isSome then [replacement] else []
  | b :: rest =>
    let fresh := fun (before : List Char) =>
      match lead? b.toNat with
      | none => before ++ replacement :: read none rest
      | some ⟨0, bits, _, _⟩ => before ++ Char.ofNat bits :: read none rest
      | some lead => before ++ read (some lead) rest
    match open? with
    | none => fresh []
    | some lead =>
      if lead.low ≤ b.toNat && b.toNat ≤ lead.high then
        let bits := lead.bits * 64 + (b.toNat - 0x80)
        if lead.more ≤ 1 then Char.ofNat bits :: read none rest
        else read (some ⟨lead.more - 1, bits, 0x80, 0xBF⟩) rest
      else fresh [replacement]

/-- The text of bytes, with the replacement character for what is no character. -/
def lossy (bytes : List UInt8) : String := String.ofList (read none bytes)

end Converge.Utf8
