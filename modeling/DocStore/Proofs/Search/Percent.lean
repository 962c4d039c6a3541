import DocStore.Proofs.Search.Escapes
import Mathlib.Data.List.Infix

/-!
# Texts with percent escapes

An escape is a percent sign before two hexadecimal digits. Whatever its byte becomes, a term with
an escape is read as a shorter one, and a term without any is read as it is.
-/

namespace DocStore.Search

variable {text rest : List Char} {c high low : Char} {h l : Nat}

/-! ## Where escapes are -/

/-- Is there an escape at the beginning of a text? -/
def beginsEscape : List Char → Bool
  | '%' :: high :: low :: _ => (Text.hexValue? high).isSome && (Text.hexValue? low).isSome
  | _ => false

/-- There is an escape somewhere in a text. -/
def HoldsEscape (text : List Char) : Prop :=
  ∃ part ∈ text.tails, beginsEscape part = true

instance : DecidablePred HoldsEscape := fun text =>
  inferInstanceAs (Decidable (∃ part ∈ text.tails, beginsEscape part = true))

theorem beginsEscape_iff : beginsEscape text = true ↔
    ∃ high low h l rest, text = '%' :: high :: low :: rest ∧ Text.hexValue? high = some h ∧
      Text.hexValue? low = some l := by
  constructor
  · intro hbegins
    fun_cases beginsEscape text with
    | case1 high low rest =>
        obtain ⟨hhigh, hlow⟩ := Bool.and_eq_true_iff.mp hbegins
        obtain ⟨h, hhigh⟩ := Option.isSome_iff_exists.mp hhigh
        obtain ⟨l, hlow⟩ := Option.isSome_iff_exists.mp hlow
        exact ⟨high, low, h, l, rest, rfl, hhigh, hlow⟩
    | case2 => simp [beginsEscape] at hbegins
  · intro ⟨high, low, h, l, rest, htext, hhigh, hlow⟩
    rw [htext, beginsEscape, hhigh, hlow]
    rfl

theorem holdsEscape_of_beginsEscape (hbegins : beginsEscape text = true) : HoldsEscape text :=
  ⟨text, (List.mem_tails _ _).mpr List.suffix_rfl, hbegins⟩

theorem not_holdsEscape_nil : ¬ HoldsEscape [] := by
  decide

theorem holdsEscape_cons_iff (hplain : beginsEscape (c :: rest) = false) :
    HoldsEscape (c :: rest) ↔ HoldsEscape rest := by
  simp [HoldsEscape, hplain]

/-- Induction along the escapes of a text and the characters between them. -/
@[elab_as_elim]
theorem induction_escapes {motive : List Char → Prop} (nil : motive [])
    (escape : ∀ high low h l rest, Text.hexValue? high = some h → Text.hexValue? low = some l →
      motive rest → motive ('%' :: high :: low :: rest))
    (char : ∀ c rest, beginsEscape (c :: rest) = false → motive rest → motive (c :: rest))
    (text : List Char) : motive text := by
  induction hlength : text.length using Nat.strong_induction_on generalizing text with
  | _ length ih =>
      cases text with
      | nil => exact nil
      | cons c rest =>
          cases hbegins : beginsEscape (c :: rest) with
          | false => exact char c rest hbegins (ih rest.length (by simp [← hlength]) rest rfl)
          | true =>
              obtain ⟨high, low, h, l, more, htext, hhigh, hlow⟩ := beginsEscape_iff.mp hbegins
              rw [htext] at hlength ⊢
              exact escape high low h l more hhigh hlow
                (ih more.length (by simp [← hlength]; omega) more rfl)

/-! ## What escapes become -/

theorem toNat_of_hexByte? {b : UInt8} (hvalue : hexByte? b = some h) : b.toNat < 0x80 := by
  have hlt : b.toNat < 256 := b.toNat_lt
  have hcode : (Char.ofNat b.toNat).toNat = b.toNat := by
    rw [Char.ofNat, dif_pos (.inl (by omega))]
    rfl
  rw [← hcode]
  exact toNat_lt_of_hexValue? hvalue

/-- A byte that is the code of a digit is all there is of its character. -/
theorem hexValue?_of_encodeUtf8 {b : UInt8} {bytes : List UInt8}
    (hbytes : Text.encodeUtf8 text = b :: bytes) (hvalue : hexByte? b = some h) :
    ∃ digit others, text = digit :: others ∧ Text.hexValue? digit = some h ∧
      Text.encodeUtf8 others = bytes := by
  cases text with
  | nil => simp [Text.encodeUtf8] at hbytes
  | cons c rest =>
      have hlt := toNat_of_hexByte? hvalue
      obtain ⟨first, tail, hchar⟩ := List.exists_cons_of_ne_nil (Text.encodeChar_ne_nil c)
      rw [Text.encodeUtf8_cons, hchar, List.cons_append] at hbytes
      obtain ⟨rfl, htail⟩ := List.cons.inj hbytes
      have hcode : first.toNat = c.toNat :=
        Text.toNat_of_mem_encodeChar (hchar ▸ List.mem_cons_self) hlt
      have hdigit : Text.hexValue? c = some h := by
        rwa [hexByte?, hcode, Char.ofNat_toNat] at hvalue
      have hsingle := (hexByte?_of_hexValue? hdigit).1
      rw [hchar] at hsingle
      refine ⟨c, rest, rfl, hdigit, ?_⟩
      rw [← htail, (List.cons.inj hsingle).2, List.nil_append]

theorem decodeBytes_percent {bytes : List UInt8}
    (hbytes : ∀ high low more, bytes = high :: low :: more → escapedByte? high low = none) :
    decodeBytes (37 :: bytes) = 37 :: decodeBytes bytes := by
  match bytes with
  | [] => rfl
  | [_] => rfl
  | high :: low :: more => rw [decodeBytes, if_pos rfl, hbytes high low more rfl]

/-- A character that begins no escape is read as it is. -/
theorem decodeBytes_char (hplain : beginsEscape (c :: rest) = false) :
    decodeBytes (Text.encodeUtf8 (c :: rest)) =
      Text.encodeChar c ++ decodeBytes (Text.encodeUtf8 rest) := by
  rw [Text.encodeUtf8_cons]
  by_cases hc : c = '%'
  · subst hc
    apply decodeBytes_percent
    intro high low more hbytes
    unfold escapedByte?
    split
    next h l hhigh hlow =>
      -- The two bytes would be those of two digits, which make an escape of the percent sign.
      obtain ⟨first, others, rfl, hfirst, hothers⟩ := hexValue?_of_encodeUtf8 hbytes hhigh
      obtain ⟨second, last, rfl, hsecond, -⟩ := hexValue?_of_encodeUtf8 hothers hlow
      have hbegins := beginsEscape_iff.mpr ⟨first, second, h, l, last, rfl, hfirst, hsecond⟩
      rw [hplain] at hbegins
      cases hbegins
    next => rfl
  · exact decodeBytes_append_of_notMem (notMem_encodeChar hc) _

theorem decodeTerm_char (hplain : beginsEscape (c :: rest) = false) :
    decodeTerm (c :: rest) = c :: decodeTerm rest := by
  rw [decodeTerm, decodeBytes_char hplain, Text.decodeLossy_encodeChar]
  rfl

theorem length_decodeTerm_escape_le (hhigh : Text.hexValue? high = some h)
    (hlow : Text.hexValue? low = some l) (rest : List Char) :
    (decodeTerm ('%' :: high :: low :: rest)).length ≤ (decodeTerm rest).length + 1 := by
  have hbytes := decodeBytes_escape hhigh hlow rest []
  rw [List.append_nil, List.append_nil] at hbytes
  rw [decodeTerm, hbytes]
  exact Text.length_decodeLossy_cons_le _ _

theorem length_decodeTerm_le (text : List Char) : (decodeTerm text).length ≤ text.length := by
  induction text using induction_escapes with
  | nil => exact Nat.le_refl _
  | escape high low h l rest hhigh hlow ih =>
      have hescape := length_decodeTerm_escape_le hhigh hlow rest
      simp only [List.length_cons]
      omega
  | char c rest hplain ih =>
      rw [decodeTerm_char hplain]
      exact Nat.succ_le_succ ih

/-- Three characters of an escape become at most one. -/
theorem length_decodeTerm_lt (hholds : HoldsEscape text) :
    (decodeTerm text).length < text.length := by
  induction text using induction_escapes with
  | nil => exact absurd hholds not_holdsEscape_nil
  | escape high low h l rest hhigh hlow _ =>
      have hescape := length_decodeTerm_escape_le hhigh hlow rest
      have hrest := length_decodeTerm_le rest
      simp only [List.length_cons]
      omega
  | char c rest hplain ih =>
      rw [decodeTerm_char hplain]
      exact Nat.succ_lt_succ (ih ((holdsEscape_cons_iff hplain).mp hholds))

/-- A term is read as it is written exactly if it holds no escape. -/
theorem decodeTerm_eq_self_iff (text : List Char) :
    decodeTerm text = text ↔ ¬ HoldsEscape text := by
  constructor
  · intro hself hholds
    have hlt := length_decodeTerm_lt hholds
    rw [hself] at hlt
    exact Nat.lt_irrefl _ hlt
  · intro hfree
    induction text using induction_escapes with
    | nil => rfl
    | escape high low h l rest hhigh hlow _ =>
        have hbegins := beginsEscape_iff.mpr ⟨high, low, h, l, rest, rfl, hhigh, hlow⟩
        exact absurd (holdsEscape_of_beginsEscape hbegins) hfree
    | char c rest hplain ih =>
        rw [decodeTerm_char hplain, ih (mt (holdsEscape_cons_iff hplain).mpr hfree)]

end DocStore.Search
