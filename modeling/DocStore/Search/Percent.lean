import DocStore.Text.Hex
import DocStore.Text.Utf8

/-!
# Percent escapes

A percent sign with two hexadecimal digits stands for the byte of that number. A
percent sign without them stands for itself. What the bytes of a term spell is
read as UTF-8, with a replacement character where they spell nothing.
-/

namespace DocStore.Search

/-- The value of a byte that is the code of a hexadecimal digit. -/
def hexByte? (b : UInt8) : Option Nat :=
  Text.hexValue? (Char.ofNat b.toNat)

/-- The byte of two hexadecimal digits. -/
def escapedByte? (high low : UInt8) : Option UInt8 :=
  match hexByte? high, hexByte? low with
  | some h, some l => some (UInt8.ofNat (h * 16 + l))
  | _, _ => none

/-- The bytes that a text of bytes with percent escapes stands for. -/
def decodeBytes : List UInt8 → List UInt8
  | [] => []
  | b :: high :: low :: rest =>
      if b = 37 then
        match escapedByte? high low with
        | some byte => byte :: decodeBytes rest
        | none => b :: decodeBytes (high :: low :: rest)
      else b :: decodeBytes (high :: low :: rest)
  | b :: rest => b :: decodeBytes rest

/-- The text that a term with percent escapes stands for. -/
def decodeTerm (term : List Char) : List Char :=
  Text.decodeLossy (decodeBytes (Text.encodeUtf8 term))

end DocStore.Search
