/-!
# UTF-8

Texts as bytes and back. Reading is lossy where the bytes are no text: every
longest start of a character that cannot be completed, and every byte that can
start none, becomes one replacement character.
-/

namespace DocStore.Text

/-- The bytes of a character. -/
def encodeChar (c : Char) : List UInt8 :=
  let code := c.toNat
  if code < 0x80 then [UInt8.ofNat code]
  else if code < 0x800 then
    [UInt8.ofNat (0xC0 + code / 0x40), UInt8.ofNat (0x80 + code % 0x40)]
  else if code < 0x10000 then
    [UInt8.ofNat (0xE0 + code / 0x1000), UInt8.ofNat (0x80 + code / 0x40 % 0x40),
      UInt8.ofNat (0x80 + code % 0x40)]
  else
    [UInt8.ofNat (0xF0 + code / 0x40000), UInt8.ofNat (0x80 + code / 0x1000 % 0x40),
      UInt8.ofNat (0x80 + code / 0x40 % 0x40), UInt8.ofNat (0x80 + code % 0x40)]

/-- The bytes of a text. -/
def encodeUtf8 (text : List Char) : List UInt8 :=
  text.flatMap encodeChar

/-- The number of bytes of a character. -/
def byteLength (c : Char) : Nat :=
  (encodeChar c).length

/-- What stands for bytes that are no text. -/
def replacement : Char := Char.ofNat 0xFFFD

/-- Does a byte lie in a closed range? -/
def inByteRange (low high : Nat) (b : UInt8) : Bool :=
  low ≤ b.toNat && b.toNat ≤ high

/-- The payload of a byte that continues a character. -/
def continuation (b : UInt8) : Nat :=
  b.toNat % 0x40

/-- The range of the second byte after a first byte that starts a character of
three or four bytes: no longer form than needed, no surrogate, nothing beyond the
last code point. -/
def secondRange (first : UInt8) : Nat × Nat :=
  if first = 0xE0 then (0xA0, 0xBF)
  else if first = 0xED then (0x80, 0x9F)
  else if first = 0xF0 then (0x90, 0xBF)
  else if first = 0xF4 then (0x80, 0x8F)
  else (0x80, 0xBF)

/-- The first character of a nonempty text of bytes, or `none` where the bytes
are no text, with the number of bytes it takes. -/
def decodeFirst (first : UInt8) (rest : List UInt8) : Option Char × Nat :=
  if first.toNat < 0x80 then (some (Char.ofNat first.toNat), 1)
  else if inByteRange 0xC2 0xDF first then
    match rest with
    | b :: _ =>
        if inByteRange 0x80 0xBF b then
          (some (Char.ofNat ((first.toNat - 0xC0) * 0x40 + continuation b)), 2)
        else (none, 1)
    | [] => (none, 1)
  else if inByteRange 0xE0 0xEF first then
    match rest with
    | b :: more =>
        if inByteRange (secondRange first).1 (secondRange first).2 b then
          match more with
          | c :: _ =>
              if inByteRange 0x80 0xBF c then
                (some (Char.ofNat ((first.toNat - 0xE0) * 0x1000 + continuation b * 0x40 +
                  continuation c)), 3)
              else (none, 2)
          | [] => (none, 2)
        else (none, 1)
    | [] => (none, 1)
  else if inByteRange 0xF0 0xF4 first then
    match rest with
    | b :: more =>
        if inByteRange (secondRange first).1 (secondRange first).2 b then
          match more with
          | c :: last =>
              if inByteRange 0x80 0xBF c then
                match last with
                | d :: _ =>
                    if inByteRange 0x80 0xBF d then
                      (some (Char.ofNat ((first.toNat - 0xF0) * 0x40000 +
                        continuation b * 0x1000 + continuation c * 0x40 + continuation d)), 4)
                    else (none, 3)
                | [] => (none, 3)
              else (none, 2)
          | [] => (none, 2)
        else (none, 1)
    | [] => (none, 1)
  else (none, 1)

/-- The characters of a text of bytes; a replacement character stands for what is
no text. The first argument counts the bytes still taken by the character
before. -/
def decodeFrom : Nat → List UInt8 → List (Option Char)
  | _, [] => []
  | taken + 1, _ :: rest => decodeFrom taken rest
  | 0, first :: rest =>
      let (c, size) := decodeFirst first rest
      c :: decodeFrom (size - 1) rest

/-- The text of bytes, with replacement characters for what is no text. -/
def decodeLossy (bytes : List UInt8) : List Char :=
  (decodeFrom 0 bytes).map fun c => c.getD replacement

/-- The text of bytes, if they are one. -/
def decodeUtf8? (bytes : List UInt8) : Option (List Char) :=
  (decodeFrom 0 bytes).mapM id

end DocStore.Text
