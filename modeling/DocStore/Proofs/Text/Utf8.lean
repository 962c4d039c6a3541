import DocStore.Text.Utf8
import Mathlib.Tactic.SplitIfs

/-!
# Texts as bytes and back

The bytes of a character are those of its standard encoding. Reading the bytes of a text
gives back the text: the first byte of a character tells how many bytes it takes, the
second one lies in the range that the first one leaves, and no other byte of it starts a
character.
-/

namespace DocStore.Text

variable {code n low high : Nat} {rest : List UInt8}

theorem toNat_ofNat_of_lt (h : n < 0x100) : (UInt8.ofNat n).toNat = n := by
  rw [UInt8.toNat_ofNat']
  omega

/-- The code point of a character is no surrogate and not beyond the last one. -/
theorem toNat_bounds (c : Char) : c.toNat < 0xD800 ∨ 0xDFFF < c.toNat ∧ c.toNat < 0x110000 :=
  c.valid

theorem inByteRange_ofNat (hn : n < 0x100) :
    inByteRange low high (UInt8.ofNat n) = true ↔ low ≤ n ∧ n ≤ high := by
  simp [inByteRange, toNat_ofNat_of_lt hn]

/-- The bytes of a character are those that the standard library gives it. -/
theorem encodeChar_eq (c : Char) : encodeChar c = String.utf8EncodeChar c := by
  have hbounds := toNat_bounds c
  unfold encodeChar String.utf8EncodeChar
  simp only [Char.toNat_val]
  split_ifs
  any_goals omega
  · rfl
  · rw [Nat.mod_eq_of_lt (show c.toNat / 64 < 32 by omega), Nat.add_comm, Nat.add_comm 0x80]
  · rw [Nat.mod_eq_of_lt (show c.toNat / 4096 < 16 by omega)]
    simp only [Nat.add_comm]
  · rw [Nat.mod_eq_of_lt (show c.toNat / 262144 < 8 by omega)]
    simp only [Nat.add_comm]

/-- Every byte below the range of longer forms is the code of its character. -/
theorem toNat_of_mem_encodeChar {b : UInt8} {c : Char} (hmem : b ∈ encodeChar c)
    (hlt : b.toNat < 0x80) : b.toNat = c.toNat := by
  have hbounds := toNat_bounds c
  unfold encodeChar at hmem
  simp only at hmem
  split_ifs at hmem
  all_goals
    simp only [List.mem_cons, List.not_mem_nil, or_false, ← UInt8.toNat_inj] at hmem
    repeat rw [toNat_ofNat_of_lt (by omega)] at hmem
    omega

theorem encodeChar_ne_nil (c : Char) : encodeChar c ≠ [] := by
  unfold encodeChar
  simp only
  split_ifs <;> simp

theorem encodeUtf8_cons (c : Char) (text : List Char) :
    encodeUtf8 (c :: text) = encodeChar c ++ encodeUtf8 text :=
  List.flatMap_cons

theorem encodeUtf8_append (text rest : List Char) :
    encodeUtf8 (text ++ rest) = encodeUtf8 text ++ encodeUtf8 rest :=
  List.flatMap_append

/-! ## Reading a character -/

theorem inByteRange_continuation :
    inByteRange 0x80 0xBF (UInt8.ofNat (0x80 + n % 0x40)) = true := by
  rw [inByteRange_ofNat (by omega)]
  omega

theorem continuation_ofNat : continuation (UInt8.ofNat (0x80 + n % 0x40)) = n % 0x40 := by
  rw [continuation, toNat_ofNat_of_lt (by omega)]
  omega

theorem inByteRange_second_three (hcode : 0x800 ≤ code) (hlast : code < 0x10000)
    (hvalid : code < 0xD800 ∨ 0xDFFF < code) :
    let range := secondRange (UInt8.ofNat (0xE0 + code / 0x1000))
    inByteRange range.1 range.2 (UInt8.ofNat (0x80 + code / 0x40 % 0x40)) = true := by
  simp only
  rw [inByteRange_ofNat (by omega)]
  unfold secondRange
  simp only [← UInt8.toNat_inj, UInt8.reduceToNat,
    toNat_ofNat_of_lt (show 0xE0 + code / 0x1000 < 0x100 by omega)]
  split_ifs <;> simp only <;> omega

theorem inByteRange_second_four (hcode : 0x10000 ≤ code) (hlast : code < 0x110000) :
    let range := secondRange (UInt8.ofNat (0xF0 + code / 0x40000))
    inByteRange range.1 range.2 (UInt8.ofNat (0x80 + code / 0x1000 % 0x40)) = true := by
  simp only
  rw [inByteRange_ofNat (by omega)]
  unfold secondRange
  simp only [← UInt8.toNat_inj, UInt8.reduceToNat,
    toNat_ofNat_of_lt (show 0xF0 + code / 0x40000 < 0x100 by omega)]
  split_ifs <;> simp only <;> omega

theorem decodeFirst_one (hlast : code < 0x80) :
    decodeFirst (UInt8.ofNat code) rest = (some (Char.ofNat code), 1) := by
  unfold decodeFirst
  rw [toNat_ofNat_of_lt (by omega), if_pos hlast]

theorem decodeFirst_two (hcode : 0x80 ≤ code) (hlast : code < 0x800) :
    decodeFirst (UInt8.ofNat (0xC0 + code / 0x40)) (UInt8.ofNat (0x80 + code % 0x40) :: rest) =
      (some (Char.ofNat code), 2) := by
  have hlead : 0xC0 + code / 0x40 < 0x100 := by omega
  have hvalue : (0xC0 + code / 0x40 - 0xC0) * 0x40 + code % 0x40 = code := by omega
  unfold decodeFirst
  rw [if_neg (by rw [toNat_ofNat_of_lt hlead]; omega),
    if_pos ((inByteRange_ofNat hlead).mpr (by omega))]
  simp only [inByteRange_continuation, if_true, continuation_ofNat, toNat_ofNat_of_lt hlead, hvalue]

theorem decodeFirst_three (hcode : 0x800 ≤ code) (hlast : code < 0x10000)
    (hvalid : code < 0xD800 ∨ 0xDFFF < code) :
    decodeFirst (UInt8.ofNat (0xE0 + code / 0x1000))
        (UInt8.ofNat (0x80 + code / 0x40 % 0x40) :: UInt8.ofNat (0x80 + code % 0x40) :: rest) =
      (some (Char.ofNat code), 3) := by
  have hlead : 0xE0 + code / 0x1000 < 0x100 := by omega
  have hvalue : (0xE0 + code / 0x1000 - 0xE0) * 0x1000 + code / 0x40 % 0x40 * 0x40 +
      code % 0x40 = code := by omega
  have hsecond := inByteRange_second_three hcode hlast hvalid
  unfold decodeFirst
  rw [if_neg (by rw [toNat_ofNat_of_lt hlead]; omega),
    if_neg (by rw [inByteRange_ofNat hlead]; omega),
    if_pos ((inByteRange_ofNat hlead).mpr (by omega))]
  simp only [hsecond, inByteRange_continuation, if_true, continuation_ofNat,
    toNat_ofNat_of_lt hlead, hvalue]

theorem decodeFirst_four (hcode : 0x10000 ≤ code) (hlast : code < 0x110000) :
    decodeFirst (UInt8.ofNat (0xF0 + code / 0x40000))
        (UInt8.ofNat (0x80 + code / 0x1000 % 0x40) :: UInt8.ofNat (0x80 + code / 0x40 % 0x40) ::
          UInt8.ofNat (0x80 + code % 0x40) :: rest) =
      (some (Char.ofNat code), 4) := by
  have hlead : 0xF0 + code / 0x40000 < 0x100 := by omega
  have hvalue : (0xF0 + code / 0x40000 - 0xF0) * 0x40000 + code / 0x1000 % 0x40 * 0x1000 +
      code / 0x40 % 0x40 * 0x40 + code % 0x40 = code := by omega
  have hsecond := inByteRange_second_four hcode hlast
  unfold decodeFirst
  rw [if_neg (by rw [toNat_ofNat_of_lt hlead]; omega),
    if_neg (by rw [inByteRange_ofNat hlead]; omega),
    if_neg (by rw [inByteRange_ofNat hlead]; omega),
    if_pos ((inByteRange_ofNat hlead).mpr (by omega))]
  simp only [hsecond, inByteRange_continuation, if_true, continuation_ofNat,
    toNat_ofNat_of_lt hlead, hvalue]

/-- The first character of a text is read from its own bytes, whatever follows them. -/
theorem decodeFirst_encodeChar (c : Char) :
    ∃ first tail, encodeChar c = first :: tail ∧
      ∀ rest, decodeFirst first (tail ++ rest) = (some c, tail.length + 1) := by
  have hbounds := toNat_bounds c
  unfold encodeChar
  simp only
  split_ifs with hone htwo hthree
  · refine ⟨_, _, rfl, fun rest => (decodeFirst_one hone).trans ?_⟩
    rw [Char.ofNat_toNat, List.length_nil]
  · refine ⟨_, _, rfl, fun rest => (decodeFirst_two (by omega) htwo).trans ?_⟩
    rw [Char.ofNat_toNat, List.length_singleton]
  · refine ⟨_, _, rfl, fun rest => (decodeFirst_three (by omega) hthree (by omega)).trans ?_⟩
    rw [Char.ofNat_toNat]
    rfl
  · refine ⟨_, _, rfl, fun rest => (decodeFirst_four (by omega) (by omega)).trans ?_⟩
    rw [Char.ofNat_toNat]
    rfl

/-! ## Reading a text -/

theorem decodeFrom_taken (tail rest : List UInt8) :
    decodeFrom tail.length (tail ++ rest) = decodeFrom 0 rest := by
  induction tail with
  | nil => rfl
  | cons b tail ih => exact ih

theorem decodeFrom_encodeChar (c : Char) (rest : List UInt8) :
    decodeFrom 0 (encodeChar c ++ rest) = some c :: decodeFrom 0 rest := by
  obtain ⟨first, tail, hbytes, hfirst⟩ := decodeFirst_encodeChar c
  rw [hbytes, List.cons_append, decodeFrom, hfirst]
  exact congrArg _ (decodeFrom_taken tail rest)

theorem decodeFrom_encodeUtf8 (text : List Char) :
    decodeFrom 0 (encodeUtf8 text) = text.map some := by
  induction text with
  | nil => rfl
  | cons c text ih =>
      rw [encodeUtf8_cons, decodeFrom_encodeChar, ih, List.map_cons]

/-- Reading gives back what was written. -/
theorem decodeLossy_encodeUtf8 (text : List Char) : decodeLossy (encodeUtf8 text) = text := by
  rw [decodeLossy, decodeFrom_encodeUtf8, List.map_map]
  exact List.map_id text

/-! ## Reading what is no text -/

theorem decodeLossy_encodeChar (c : Char) (rest : List UInt8) :
    decodeLossy (encodeChar c ++ rest) = c :: decodeLossy rest := by
  rw [decodeLossy, decodeFrom_encodeChar]
  rfl

/-- The first byte of a character takes along only bytes that continue one. -/
theorem inByteRange_of_mem_taken (first : UInt8) (rest : List UInt8) :
    ∀ b ∈ rest.take ((decodeFirst first rest).2 - 1), inByteRange 0x80 0xBF b = true := by
  have hsecond (b : UInt8)
      (hb : inByteRange (secondRange first).1 (secondRange first).2 b = true) :
      inByteRange 0x80 0xBF b = true := by
    revert hb
    unfold secondRange
    split_ifs <;> simp [inByteRange] <;> omega
  fun_cases decodeFirst first rest <;> simp_all

/-- A byte that continues a character is none by itself. -/
theorem decodeFrom_of_continues {b : UInt8} (hb : inByteRange 0x80 0xBF b = true)
    (rest : List UInt8) : decodeFrom 0 (b :: rest) = none :: decodeFrom 0 rest := by
  have hfirst : decodeFirst b rest = (none, 1) := by
    simp only [inByteRange, Bool.and_eq_true, decide_eq_true_eq] at hb
    unfold decodeFirst
    simp only [inByteRange, Bool.and_eq_true, decide_eq_true_eq]
    rw [if_neg (by omega), if_neg (by omega), if_neg (by omega), if_neg (by omega)]
  rw [decodeFrom, hfirst]

theorem length_decodeFrom_le {taken : Nat} {bytes : List UInt8}
    (htaken : ∀ b ∈ bytes.take taken, inByteRange 0x80 0xBF b = true) :
    (decodeFrom taken bytes).length ≤ (decodeFrom 0 bytes).length := by
  induction taken generalizing bytes with
  | zero => exact Nat.le_refl _
  | succ taken ih =>
      cases bytes with
      | nil => exact Nat.le_refl _
      | cons b rest =>
          obtain ⟨hb, hrest⟩ := List.forall_mem_cons.mp htaken
          rw [decodeFrom_of_continues hb, List.length_cons]
          exact Nat.le_trans (ih hrest) (Nat.le_succ _)

/-- One more byte makes at most one more character. -/
theorem length_decodeLossy_cons_le (b : UInt8) (bytes : List UInt8) :
    (decodeLossy (b :: bytes)).length ≤ (decodeLossy bytes).length + 1 := by
  simp only [decodeLossy, List.length_map, decodeFrom, List.length_cons]
  exact Nat.succ_le_succ (length_decodeFrom_le (inByteRange_of_mem_taken b bytes))

end DocStore.Text
