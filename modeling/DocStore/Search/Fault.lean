/-!
# Faults of search strings

The four ways in which a search string can be malformed. Each fault names the
place of its cause, counted in bytes.
-/

namespace DocStore

/-- What is wrong with a search string, and where. -/
inductive SearchFault where
  /-- A quote was opened and never closed. -/
  | unterminatedQuote (position : Nat)
  /-- A bracket was opened and never closed. -/
  | unclosedBracket (position : Nat)
  /-- A bracket was closed that had not been opened. -/
  | unexpectedClosingBracket (position : Nat)
  /-- A bracket was opened inside another one. -/
  | nestedBracket (position : Nat)
deriving DecidableEq, Repr

namespace SearchFault

/-- The text of a fault. -/
def message : SearchFault → String
  | unterminatedQuote position =>
      "unterminated quote starting at byte " ++ toString position
  | unclosedBracket position =>
      "unclosed bracket starting at byte " ++ toString position
  | unexpectedClosingBracket position =>
      "unexpected closing bracket at byte " ++ toString position
  | nestedBracket position => "nested bracket at byte " ++ toString position

end SearchFault

end DocStore
