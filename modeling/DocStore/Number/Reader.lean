import DocStore.Number.Double
import DocStore.Text.Parts

/-!
# Doubles as texts

Reading a double from a text of its own: digits with an optional sign, point and
power of ten, or the name of an infinity or of what is not a number.
-/

namespace DocStore.Double

/-- The double that a text without a sign names. -/
def ofUnsignedText? (text : List Char) : Option Double :=
  let name := String.ofList (text.map Char.toLower)
  if name = "inf" ∨ name = "infinity" then some (infinity false)
  else if name = "nan" then some nan
  else (Text.readDecimal? text).map fun (coefficient, exponent) =>
    ofDecimal false coefficient exponent

/-- The double that a text names. -/
def ofText? (text : String) : Option Double :=
  let (negative, unsigned) := Text.takeSign text.toList
  (ofUnsignedText? unsigned).map fun d => if negative then d.neg else d

end DocStore.Double
