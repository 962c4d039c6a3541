import DocStore.Proofs.Search.Grammar

/-!
# Search strings with a comma between them

Two search strings with a comma between them have the groups of both. A comma outside quotes and
brackets leaves nothing of what the scanner has kept but the number of bytes, and this number only
shifts the places of faults.
-/

namespace DocStore

namespace SearchFault

/-- The same fault, so many bytes later. -/
def later (bytes : Nat) : SearchFault → SearchFault
  | unterminatedQuote position => .unterminatedQuote (position + bytes)
  | unclosedBracket position => .unclosedBracket (position + bytes)
  | unexpectedClosingBracket position => .unexpectedClosingBracket (position + bytes)
  | nestedBracket position => .nestedBracket (position + bytes)

end SearchFault

namespace Search

variable {a b : Position} {text part rest : List Char} {done alternatives : List (List Segment)}
  {outcome : Except SearchFault (List (List Segment))} {bytes : Nat}

/-! ## Positions behind other text -/

namespace Position

/-- The same position, so many bytes later. -/
def later (bytes : Nat) (position : Position) : Position :=
  { position with
    offset := position.offset + bytes
    bracket := position.bracket.map fun opened => (opened.1 + bytes, opened.2)
    quote := position.quote.map (· + bytes) }

@[simp] theorem quote_later (bytes : Nat) (position : Position) :
    (position.later bytes).quote = position.quote.map (· + bytes) :=
  rfl

@[simp] theorem bracket_later (bytes : Nat) (position : Position) :
    (position.later bytes).bracket =
      position.bracket.map fun opened => (opened.1 + bytes, opened.2) :=
  rfl

theorem later_start (bytes : Nat) (offset : Nat) :
    (start offset).later bytes = start (offset + bytes) :=
  rfl

theorem later_advance (bytes more : Nat) (position : Position) :
    (position.advance more).later bytes = (position.later bytes).advance more := by
  simp [later, advance, Nat.add_right_comm]

theorem later_toggleQuote (bytes : Nat) (position : Position) :
    position.toggleQuote.later bytes = (position.later bytes).toggleQuote := by
  cases hquote : position.quote <;> simp [later, toggleQuote, hquote]

end Position

theorem Step.later (hstep : Step a part done b) (bytes : Nat) :
    Step (a.later bytes) part done (b.later bytes) := by
  cases hstep with
  | quote =>
      rw [Position.later_advance, Position.later_toggleQuote]
      exact .quote
  | quoted hquote hc =>
      rw [Position.later_advance]
      exact .quoted (by simpa using hquote) hc
  | plain hquote hc =>
      rw [Position.later_advance]
      exact .plain (by simp [hquote]) hc
  | star hquote =>
      rw [Position.later_advance]
      exact .star (by simp [hquote])
  | comma hquote hbracket =>
      rw [Position.later_start, Nat.add_right_comm]
      exact .comma (by simp [hquote]) (by simp [hbracket])
  | openBracket hquote hbracket =>
      rw [Position.later_advance]
      exact .openBracket (by simp [hquote]) (by simp [hbracket])
  | @nextOption place options hquote hbracket =>
      have hbracket' : (a.later bytes).bracket = some (place + bytes, options) := by
        simp [hbracket]
      rw [Position.later_advance]
      exact .nextOption (by simp [hquote]) hbracket'
  | @closeBracket place options hquote hbracket optional =>
      have hbracket' : (a.later bytes).bracket = some (place + bytes, options) := by
        simp [hbracket]
      rw [Position.later_advance]
      exact .closeBracket (by simp [hquote]) hbracket' optional

theorem Steps.later (hsteps : Steps a text done b) (bytes : Nat) :
    Steps (a.later bytes) text done (b.later bytes) := by
  induction hsteps with
  | refl => exact .refl
  | step hstep hapart hsteps ih =>
      refine .step (hstep.later bytes) ?_ ih
      intro hquote
      apply hapart
      simpa using hquote

theorem Position.Stops.later (hstops : a.Stops rest outcome) (bytes : Nat) :
    (a.later bytes).Stops rest (outcome.mapError (SearchFault.later bytes)) := by
  cases hstops with
  | finished hquote hbracket => exact .finished (by simp [hquote]) (by simp [hbracket])
  | unterminatedQuote hquote => exact .unterminatedQuote (by simp [hquote])
  | @unclosedBracket place options hquote hbracket =>
      have hbracket' : (a.later bytes).bracket = some (place + bytes, options) := by
        simp [hbracket]
      exact .unclosedBracket (by simp [hquote]) hbracket'
  | @nestedBracket rest opened hquote hbracket =>
      have hbracket' : (a.later bytes).bracket = some (opened.1 + bytes, opened.2) := by
        simp [hbracket]
      exact .nestedBracket (by simp [hquote]) hbracket'
  | unexpectedClosingBracket hquote hbracket =>
      exact .unexpectedClosingBracket (by simp [hquote]) (by simp [hbracket])

/-- A scan that starts later comes to the same, with its fault as much later. -/
theorem scanFrom_later (bytes : Nat) (a : Position) (text : List Char) :
    scanFrom (a.later bytes) text = (scanFrom a text).mapError (SearchFault.later bytes) := by
  obtain ⟨part, rest, done, b, stopped, rfl, hsteps, hstops, houtcome⟩ := scans_scanFrom a text
  rw [houtcome, (hsteps.later bytes).scanFrom_eq hstops.head_ne,
    (hstops.later bytes).scanFrom_eq]
  cases stopped <;> rfl

/-! ## Behind a comma -/

theorem scan_append_comma {before : List Char} (after : List Char)
    (hbefore : scan before = .ok alternatives) :
    scan (before ++ ',' :: after) =
      ((scan after).mapError (SearchFault.later (byteSize before + 1))).map
        (alternatives ++ ·) := by
  obtain ⟨done, b, hsteps, hquote, hbracket, rfl⟩ := scanFrom_eq_ok_iff.mp hbefore
  have hoffset : b.offset = byteSize before := (hsteps.knows knows_start).offset
  have hstart : Position.start (b.offset + Text.byteLength ',') =
      (Position.start 0).later (byteSize before + 1) := by
    rw [Position.later_start, hoffset, Nat.zero_add]
    rfl
  -- The run over the first string ends outside quotes and brackets, where a comma starts afresh.
  have hcomma : scanFrom b ([','] ++ after) = _ :=
    (Step.comma hquote hbracket).scanFrom_eq (.of_ne (by decide))
  rw [scan, hsteps.scanFrom_eq (by simp), ← List.singleton_append, hcomma, hstart,
    scanFrom_later, ← scan]
  cases scan after <;> simp [Except.mapError, Except.map]

/-- A search string behind another one and a comma: its groups come after those of the other one,
and its fault is the fault of both together, at the place where it is then. -/
theorem comma_concatenates (before after : String) (groups : List (List String))
    (hbefore : words before = .ok groups) :
    (∀ more, words after = .ok more →
      words (before ++ "," ++ after) = .ok (shown (counted groups ++ counted more))) ∧
    ∀ fault, words after = .error fault →
      words (before ++ "," ++ after) = .error (fault.later (before.utf8ByteSize + 1)) := by
  obtain ⟨alternatives, hscan, hcounted⟩ := exists_scan_of_words hbefore
  have hchars : (before ++ "," ++ after).toList = before.toList ++ ',' :: after.toList := by
    simp
  constructor
  · intro more hafter
    obtain ⟨others, hscan', hcounted'⟩ := exists_scan_of_words hafter
    have hboth : scan (before ++ "," ++ after).toList = .ok (alternatives ++ others) := by
      rw [hchars, scan_append_comma after.toList hscan, hscan']
      rfl
    obtain ⟨found, hwords, hfound⟩ := words_of_scan hboth
    rw [List.flatMap_append, groupsIn_append, ← hcounted, ← hcounted'] at hfound
    rw [hwords, ← hfound, shown_counted hwords]
  · intro fault hafter
    rw [words_eq_error_iff, hchars, scan_append_comma after.toList hscan,
      words_eq_error_iff.mp hafter, byteSize, String.ofList_toList]
    rfl

/-- Behind a string with a bracket and a character of two bytes: a string with quotes and without a
last group, one without any group, and one with a bracket that is never closed. -/
theorem comma_concatenates_lists :
    words ("é (a,b)*" ++ "," ++ "\"c d\",") =
        .ok [["é", "a"], ["é", "b"], ["é"], ["c d"]] ∧
      words (" " ++ "," ++ "") = .ok [[]] ∧
      words ("é (a,b)*" ++ "," ++ "x (y") = .error (.unclosedBracket 12) := by
  have hlist : words "é (a,b)*" = .ok [["é", "a"], ["é", "b"], ["é"]] := by decide +kernel
  have hblank : words " " = .ok [[]] := by decide +kernel
  have hquoted : words "\"c d\"," = .ok [["c d"]] := by decide +kernel
  have hempty : words "" = .ok [[]] := by decide +kernel
  have hopen : words "x (y" = .error (.unclosedBracket 2) := by decide +kernel
  refine ⟨?_, ?_, ?_⟩
  · exact (comma_concatenates _ _ _ hlist).1 _ hquoted
  · exact (comma_concatenates _ _ _ hblank).1 _ hempty
  · exact (comma_concatenates _ _ _ hlist).2 _ hopen

end Search

end DocStore
