import DocStore.Proofs.Search.Groups
import DocStore.Proofs.Search.Steps
import DocStore.Proofs.Text.Utf8
import Mathlib.Algebra.Ring.Parity

/-!
# The grammar of search strings

A search string is accepted exactly when its quotes come in pairs and its brackets outside quotes
read as `()` over and over. Any other string has one fault. A bracket out of turn comes first,
then an open quote, then an open bracket, and the fault names the byte at which it begins. The
scanner knows at every position what the text before it says about quotes and brackets, so that
it stops where this grammar puts the blame.
-/

namespace DocStore.Search

/-! ## Quotes and brackets -/

/-- The characters outside quotes, of a text that begins inside of them or not. -/
def outside (quoted : Bool) : List Char → List Char
  | [] => []
  | c :: rest =>
      if c = '"' then outside (!quoted) rest
      else if quoted then outside true rest
      else c :: outside false rest

/-- The brackets outside quotes. -/
def brackets (text : List Char) : List Char :=
  (outside false text).filter fun c => c = '(' ∨ c = ')'

/-- So many pairs of brackets in a row. -/
def pairs (n : Nat) : List Char :=
  (List.replicate n ['(', ')']).flatten

/-- Brackets open and close in turn, with or without the last one closed. -/
def Alternating (found : List Char) : Prop :=
  ∃ n, found <+: pairs n

/-- The number of bytes of a text. -/
def byteSize (text : List Char) : Nat :=
  (String.ofList text).utf8ByteSize

/-- The quotes come in pairs, and the brackets outside of them read as `()` repeated. -/
structure WellFormed (raw : List Char) : Prop where
  quotes : Even (raw.count '"')
  brackets : ∃ n, brackets raw = pairs n

/-- A bracket outside quotes is the first one out of turn, after so many bytes. -/
def BreaksAt (raw : List Char) (c : Char) (place : Nat) : Prop :=
  ∃ before after, raw = before ++ c :: after ∧ place = byteSize before ∧
    Even (before.count '"') ∧ Alternating (brackets before) ∧ ¬ Alternating (brackets before ++ [c])

/-- The last quote comes after so many bytes. -/
def LastQuoteAt (raw : List Char) (place : Nat) : Prop :=
  ∃ before after, raw = before ++ '"' :: after ∧ place = byteSize before ∧ '"' ∉ after

/-- The last opening bracket outside quotes comes after so many bytes. -/
def LastOpeningAt (raw : List Char) (place : Nat) : Prop :=
  ∃ before after, raw = before ++ '(' :: after ∧ place = byteSize before ∧
    Even (before.count '"') ∧ '(' ∉ outside false after

/-- The fault of a search string that is not well formed. -/
inductive Blamed (raw : List Char) : SearchFault → Prop
  | nestedBracket {place} (hbreaks : BreaksAt raw '(' place) : Blamed raw (.nestedBracket place)
  | unexpectedClosingBracket {place} (hbreaks : BreaksAt raw ')' place) :
      Blamed raw (.unexpectedClosingBracket place)
  | unterminatedQuote {place} (hturn : Alternating (brackets raw))
      (hquotes : ¬ Even (raw.count '"')) (hlast : LastQuoteAt raw place) :
      Blamed raw (.unterminatedQuote place)
  | unclosedBracket {place} (hturn : Alternating (brackets raw)) (hquotes : Even (raw.count '"'))
      (hopen : ¬ ∃ n, brackets raw = pairs n) (hlast : LastOpeningAt raw place) :
      Blamed raw (.unclosedBracket place)

variable {text part before after found : List Char} {quoted : Bool} {c ch : Char}
  {place place' n : Nat}

theorem byteSize_append (text part : List Char) :
    byteSize (text ++ part) = byteSize text + byteSize part := by
  simp [byteSize]

theorem byteSize_singleton (c : Char) : byteSize [c] = Text.byteLength c := by
  simp [byteSize, Text.byteLength, Text.encodeChar_eq]

/-- The characters of a text outside quotes are those of its beginning, and those of the rest,
which begins inside quotes after an odd number of them. -/
theorem outside_append (quoted : Bool) (text part : List Char) :
    outside quoted (text ++ part) =
      outside quoted text ++ outside (quoted ^^ decide (¬ Even (text.count '"'))) part := by
  induction text generalizing quoted with
  | nil => simp [outside]
  | cons c text ih =>
      rw [List.cons_append, outside, outside]
      by_cases hc : c = '"'
      · have hparity : (!quoted ^^ decide (¬ Even (text.count '"'))) =
            (quoted ^^ decide (¬ Even ((c :: text).count '"'))) := by
          rw [hc, List.count_cons_self]
          by_cases heven : Even (text.count '"') <;> simp [Nat.even_add_one, heven]
        rw [if_pos hc, if_pos hc, ih, hparity]
      · rw [if_neg hc, if_neg hc, List.count_cons_of_ne hc]
        cases quoted with
        | true => exact ih true
        | false => exact congrArg (c :: ·) (ih false)

theorem outside_append_of_even (heven : Even (text.count '"')) (part : List Char) :
    outside false (text ++ part) = outside false text ++ outside false part := by
  simpa [heven] using outside_append false text part

theorem brackets_append_of_even (heven : Even (text.count '"')) (part : List Char) :
    brackets (text ++ part) = brackets text ++ brackets part := by
  rw [brackets, outside_append_of_even heven, List.filter_append]
  rfl

theorem brackets_append_of_forall
    (hpart : ∀ c ∈ outside (decide (¬ Even (text.count '"'))) part, c ≠ '(' ∧ c ≠ ')') :
    brackets (text ++ part) = brackets text := by
  rw [brackets, outside_append, List.filter_append, Bool.false_xor]
  refine (congrArg _ (List.filter_eq_nil_iff.mpr ?_)).trans (List.append_nil _)
  intro c hc
  simpa using hpart c hc

theorem brackets_initial (text part : List Char) : brackets text <+: brackets (text ++ part) := by
  rw [brackets, brackets, outside_append, List.filter_append]
  exact List.prefix_append _ _

/-! ## Brackets in turn -/

theorem pairs_succ (n : Nat) : pairs (n + 1) = pairs n ++ ['('] ++ [')'] := by
  simp [pairs, List.replicate_succ']

theorem length_pairs (n : Nat) : (pairs n).length = 2 * n := by
  simp [pairs, Nat.mul_comm]

theorem alternating_iff :
    Alternating found ↔ ∃ n, found = pairs n ∨ found = pairs n ++ ['('] := by
  constructor
  · rintro ⟨n, hinitial⟩
    induction n with
    | zero => exact ⟨0, .inl (List.prefix_nil.mp hinitial)⟩
    | succ n ih =>
        rw [pairs_succ, List.prefix_concat_iff, List.prefix_concat_iff, ← pairs_succ] at hinitial
        rcases hinitial with hclosed | hopen | hinitial
        · exact ⟨n + 1, .inl hclosed⟩
        · exact ⟨n, .inr hopen⟩
        · exact ih hinitial
  · rintro ⟨n, rfl | rfl⟩
    · exact ⟨n, List.prefix_rfl⟩
    · exact ⟨n + 1, pairs_succ n ▸ List.prefix_append _ _⟩

theorem alternating_pairs (n : Nat) : Alternating (pairs n) :=
  ⟨n, List.prefix_rfl⟩

theorem Alternating.initial (hturn : Alternating found) (hinitial : part <+: found) :
    Alternating part := by
  obtain ⟨n, hfound⟩ := hturn
  exact ⟨n, hinitial.trans hfound⟩

theorem not_alternating_close (n : Nat) : ¬ Alternating (pairs n ++ [')']) := by
  rw [alternating_iff]
  rintro ⟨m, heq | heq⟩
  · have hlength := congrArg List.length heq
    simp only [List.length_append, length_pairs, List.length_singleton] at hlength
    omega
  · simpa using (List.append_inj' heq rfl).2

theorem not_alternating_open (n : Nat) : ¬ Alternating (pairs n ++ ['('] ++ ['(']) := by
  rw [alternating_iff]
  rintro ⟨m, heq | heq⟩
  · cases m with
    | zero => simp [pairs] at heq
    | succ m =>
        rw [pairs_succ] at heq
        simpa using (List.append_inj' heq rfl).2
  · have hlength := congrArg List.length heq
    simp only [List.length_append, length_pairs, List.length_singleton] at hlength
    omega

/-! ## One fault -/

/-- Two places in a text are the same, or one of them is in what follows the other. -/
theorem split_cases {before' after' : List Char}
    (heq : before ++ c :: after = before' ++ ch :: after') :
    (before = before' ∧ c = ch) ∨
      (∃ middle, before' = before ++ c :: middle ∧ after = middle ++ ch :: after') ∨
      ∃ middle, before = before' ++ ch :: middle ∧ after' = middle ++ c :: after := by
  rcases List.append_eq_append_iff.mp heq with ⟨middle, hbefore, hafter⟩ | ⟨middle, hbefore, hafter⟩
  · cases middle with
    | nil => exact .inl ⟨by simpa using hbefore.symm, (List.cons.inj hafter).1⟩
    | cons first middle =>
        obtain ⟨rfl, hlater⟩ := List.cons.inj hafter
        exact .inr (.inl ⟨middle, hbefore, hlater⟩)
  · cases middle with
    | nil => exact .inl ⟨by simpa using hbefore, (List.cons.inj hafter).1.symm⟩
    | cons first middle =>
        obtain ⟨rfl, hlater⟩ := List.cons.inj hafter
        exact .inr (.inr ⟨middle, hbefore, hlater⟩)

theorem LastQuoteAt.unique (hlast : LastQuoteAt text place) (hlast' : LastQuoteAt text place') :
    place = place' := by
  obtain ⟨before, after, rfl, rfl, hafter⟩ := hlast
  obtain ⟨before', after', heq, rfl, hafter'⟩ := hlast'
  rcases split_cases heq with ⟨rfl, _⟩ | ⟨middle, _, hlater⟩ | ⟨middle, _, hlater⟩
  · rfl
  · exact absurd (by simp [hlater]) hafter
  · exact absurd (by simp [hlater]) hafter'

/-- A later bracket outside quotes is outside quotes in what follows an earlier one. -/
theorem mem_outside_of_even {middle : List Char} (hc : c ≠ '"') (hch : ch ≠ '"')
    (heven : Even (before.count '"')) (hlater : Even ((before ++ c :: middle).count '"')) :
    ch ∈ outside false (middle ++ ch :: after) := by
  rw [List.count_append, List.count_cons_of_ne hc, Nat.even_add] at hlater
  rw [outside_append_of_even (hlater.mp heven), outside, if_neg hch]
  simp

theorem LastOpeningAt.unique (hlast : LastOpeningAt text place)
    (hlast' : LastOpeningAt text place') : place = place' := by
  obtain ⟨before, after, rfl, rfl, heven, hafter⟩ := hlast
  obtain ⟨before', after', heq, rfl, heven', hafter'⟩ := hlast'
  rcases split_cases heq with ⟨rfl, _⟩ | ⟨middle, rfl, hlater⟩ | ⟨middle, rfl, hlater⟩
  · rfl
  · rw [hlater] at hafter
    exact absurd (mem_outside_of_even (by decide) (by decide) heven heven') hafter
  · rw [hlater] at hafter'
    exact absurd (mem_outside_of_even (by decide) (by decide) heven' heven) hafter'

/-- With a bracket out of turn, no longer text has its brackets in turn. -/
theorem not_alternating_of_breaks (heven : Even (before.count '"')) (hc : brackets [c] = [c])
    (hbreaks : ¬ Alternating (brackets before ++ [c])) (after : List Char) :
    ¬ Alternating (brackets (before ++ c :: after)) := by
  intro hturn
  have hinitial := brackets_initial (before ++ [c]) after
  rw [brackets_append_of_even heven, hc, List.append_assoc, List.singleton_append] at hinitial
  exact hbreaks (hturn.initial hinitial)

theorem BreaksAt.not_alternating (hbreaks : BreaksAt text c place) (hc : brackets [c] = [c]) :
    ¬ Alternating (brackets text) := by
  obtain ⟨before, after, rfl, _, heven, _, hnot⟩ := hbreaks
  exact not_alternating_of_breaks heven hc hnot after

theorem BreaksAt.unique (hbreaks : BreaksAt text c place) (hc : brackets [c] = [c])
    (hbreaks' : BreaksAt text ch place') (hch : brackets [ch] = [ch]) :
    c = ch ∧ place = place' := by
  obtain ⟨before, after, rfl, rfl, heven, hturn, hnot⟩ := hbreaks
  obtain ⟨before', after', heq, rfl, heven', hturn', hnot'⟩ := hbreaks'
  rcases split_cases heq with ⟨rfl, hsame⟩ | ⟨middle, rfl, _⟩ | ⟨middle, rfl, _⟩
  · exact ⟨hsame, rfl⟩
  · exact absurd hturn' (not_alternating_of_breaks heven hc hnot middle)
  · exact absurd hturn (not_alternating_of_breaks heven' hch hnot' middle)

variable {raw : List Char} {fault fault' : SearchFault}

theorem Blamed.not_wellFormed (hblamed : Blamed raw fault) : ¬ WellFormed raw := by
  rintro ⟨hquotes, n, hpairs⟩
  have hturn : Alternating (brackets raw) := hpairs ▸ alternating_pairs n
  cases hblamed with
  | nestedBracket hbreaks => exact hbreaks.not_alternating (by decide) hturn
  | unexpectedClosingBracket hbreaks => exact hbreaks.not_alternating (by decide) hturn
  | unterminatedQuote _ hodd _ => exact hodd hquotes
  | unclosedBracket _ _ hopen _ => exact hopen ⟨n, hpairs⟩

/-- A bracket out of turn is to blame before anything else. -/
theorem Blamed.eq_of_breaksAt (hblamed : Blamed raw fault) (hbreaks : BreaksAt raw c place)
    (hc : brackets [c] = [c]) :
    (c = '(' → fault = .nestedBracket place) ∧
      (c = ')' → fault = .unexpectedClosingBracket place) := by
  cases hblamed with
  | nestedBracket hbreaks' =>
      obtain ⟨rfl, rfl⟩ := hbreaks'.unique (by decide) hbreaks hc
      exact ⟨fun _ => rfl, fun h => absurd h (by decide)⟩
  | unexpectedClosingBracket hbreaks' =>
      obtain ⟨rfl, rfl⟩ := hbreaks'.unique (by decide) hbreaks hc
      exact ⟨fun h => absurd h (by decide), fun _ => rfl⟩
  | unterminatedQuote hturn => exact absurd hturn (hbreaks.not_alternating hc)
  | unclosedBracket hturn => exact absurd hturn (hbreaks.not_alternating hc)

theorem Blamed.unique (hblamed : Blamed raw fault) (hblamed' : Blamed raw fault') :
    fault = fault' := by
  cases hblamed' with
  | nestedBracket hbreaks => exact (hblamed.eq_of_breaksAt hbreaks (by decide)).1 rfl
  | unexpectedClosingBracket hbreaks => exact (hblamed.eq_of_breaksAt hbreaks (by decide)).2 rfl
  | unterminatedQuote hturn hodd hlast =>
      cases hblamed with
      | nestedBracket hbreaks => exact absurd hturn (hbreaks.not_alternating (by decide))
      | unexpectedClosingBracket hbreaks =>
          exact absurd hturn (hbreaks.not_alternating (by decide))
      | unterminatedQuote _ _ hlast' => rw [hlast'.unique hlast]
      | unclosedBracket _ heven => exact absurd heven hodd
  | unclosedBracket hturn heven _ hlast =>
      cases hblamed with
      | nestedBracket hbreaks => exact absurd hturn (hbreaks.not_alternating (by decide))
      | unexpectedClosingBracket hbreaks =>
          exact absurd hturn (hbreaks.not_alternating (by decide))
      | unterminatedQuote _ hodd => exact absurd heven hodd
      | unclosedBracket _ _ _ hlast' => rw [hlast'.unique hlast]

/-! ## What the scanner knows -/

/-- The quote that is open after a text: none, or its last one. -/
def QuoteAfter (text : List Char) : Option Nat → Prop
  | none => Even (text.count '"')
  | some place => ¬ Even (text.count '"') ∧ LastQuoteAt text place

/-- The bracket that is open after a text: none, or the last one that opens. -/
def BracketAfter (text : List Char) : Option Nat → Prop
  | none => ∃ n, brackets text = pairs n
  | some place => (∃ n, brackets text = pairs n ++ ['(']) ∧ LastOpeningAt text place

/-- A position knows how many bytes are before it, and which quote and bracket are open. -/
structure Position.Knows (a : Position) (text : List Char) : Prop where
  offset : a.offset = byteSize text
  quote : QuoteAfter text a.quote
  bracket : BracketAfter text (a.bracket.map Prod.fst)

theorem QuoteAfter.append {quote : Option Nat} (hquote : QuoteAfter text quote)
    (hpart : '"' ∉ part) : QuoteAfter (text ++ part) quote := by
  have hcount : (text ++ part).count '"' = text.count '"' := by
    rw [List.count_append, List.count_eq_zero.mpr hpart, Nat.add_zero]
  cases quote with
  | none =>
      change Even _
      rw [hcount]
      exact hquote
  | some place =>
      obtain ⟨hodd, before, after, rfl, rfl, hafter⟩ := hquote
      refine ⟨hcount ▸ hodd, before, after ++ part, by simp, rfl, ?_⟩
      simp [hafter, hpart]

theorem BracketAfter.append {bracket : Option Nat} (hbracket : BracketAfter text bracket)
    (hpart : ∀ c ∈ outside (decide (¬ Even (text.count '"'))) part, c ≠ '(' ∧ c ≠ ')') :
    BracketAfter (text ++ part) bracket := by
  have hsame := brackets_append_of_forall hpart
  cases bracket with
  | none =>
      change ∃ n, _ = pairs n
      rw [hsame]
      exact hbracket
  | some place =>
      obtain ⟨hopen, before, after, rfl, rfl, heven, hafter⟩ := hbracket
      refine ⟨hsame ▸ hopen, before, after ++ part, by simp, rfl, heven, ?_⟩
      -- The text before what follows the bracket has an even number of quotes.
      have hparity : Even ((before ++ '(' :: after).count '"') ↔ Even (after.count '"') := by
        rw [List.count_append, List.count_cons_of_ne (by decide), Nat.even_add]
        exact ⟨fun h => h.mp heven, fun h => iff_of_true heven h⟩
      simp only [hparity] at hpart
      rw [outside_append, Bool.false_xor, List.mem_append, not_or]
      exact ⟨hafter, fun hmem => (hpart '(' hmem).1 rfl⟩

theorem BracketAfter.alternating {bracket : Option Nat} (hbracket : BracketAfter text bracket) :
    Alternating (brackets text) := by
  cases bracket with
  | none =>
      obtain ⟨n, hpairs⟩ := hbracket
      exact alternating_iff.mpr ⟨n, .inl hpairs⟩
  | some place =>
      obtain ⟨⟨n, hopen⟩, _⟩ := hbracket
      exact alternating_iff.mpr ⟨n, .inr hopen⟩

variable {a b : Position} {done : List (List Segment)}

theorem Position.Knows.even_of_eq_none (hknows : a.Knows text) (hnone : a.quote = none) :
    Even (text.count '"') := by
  have hquote := hknows.quote
  rw [hnone] at hquote
  exact hquote

theorem Position.Knows.odd_of_isSome (hknows : a.Knows text) (hsome : a.quote.isSome = true) :
    ¬ Even (text.count '"') := by
  obtain ⟨place, ha⟩ := Option.isSome_iff_exists.mp hsome
  have hquote := hknows.quote
  rw [ha] at hquote
  exact hquote.1

theorem Step.offset_eq (hstep : Step a part done b) : b.offset = a.offset + byteSize part := by
  have hstar : byteSize ['*'] = 1 := by decide
  cases hstep with
  | closeBracket hquote hbracket optional =>
      rw [closing, ← List.singleton_append, byteSize_append, byteSize_singleton]
      cases optional with
      | true => exact congrArg (fun bytes => a.offset + (_ + bytes)) hstar.symm
      | false => rfl
  | _ =>
      rw [byteSize_singleton]
      rfl

theorem Step.quoteAfter (hstep : Step a part done b) (hknows : a.Knows text) :
    QuoteAfter (text ++ part) b.quote := by
  have hquote := hknows.quote
  cases hstep with
  | quote =>
      have hcount : (text ++ ['"']).count '"' = text.count '"' + 1 := by simp
      cases ha : a.quote with
      | none =>
          simp only [Position.toggleQuote, Position.advance, ha]
          refine ⟨?_, text, [], rfl, hknows.offset, by simp⟩
          rw [hcount, Nat.even_add_one, not_not]
          exact hknows.even_of_eq_none ha
      | some place =>
          simp only [Position.toggleQuote, Position.advance, ha]
          change Even _
          rw [hcount, Nat.even_add_one]
          exact hknows.odd_of_isSome (ha ▸ rfl)
  | quoted _ hc => exact hquote.append (by simpa using Ne.symm hc)
  | plain _ hc => exact hquote.append (by simpa using Ne.symm (notMem_marks.mp hc).1)
  | comma hnone =>
      rw [hnone] at hquote
      exact hquote.append (by decide)
  | closeBracket _ _ optional => exact hquote.append (by cases optional <;> decide)
  | _ => exact hquote.append (by decide)

theorem Step.bracketAfter (hstep : Step a part done b) (hknows : a.Knows text) :
    BracketAfter (text ++ part) (b.bracket.map Prod.fst) := by
  have hbracket := hknows.bracket
  cases hstep with
  | quote => exact hbracket.append (by simp [outside])
  | quoted hsome hc => exact hbracket.append (by simp [outside, hc, hknows.odd_of_isSome hsome])
  | plain hnone hc =>
      obtain ⟨hquotation, hopen, hclose, _⟩ := notMem_marks.mp hc
      have heven := hknows.even_of_eq_none hnone
      exact hbracket.append (by simp [outside, heven, hquotation, hopen, hclose])
  | star hnone => exact hbracket.append (by simp [outside, hknows.even_of_eq_none hnone])
  | comma hnone ha =>
      rw [ha] at hbracket
      have houter : BracketAfter text none := hbracket
      exact houter.append (by simp [outside, hknows.even_of_eq_none hnone])
  | nextOption hnone ha =>
      rw [ha] at hbracket
      exact BracketAfter.append hbracket (by simp [outside, hknows.even_of_eq_none hnone])
  | openBracket hnone ha =>
      rw [ha] at hbracket
      obtain ⟨n, hpairs⟩ := hbracket
      have heven := hknows.even_of_eq_none hnone
      refine ⟨⟨n, ?_⟩, text, [], rfl, hknows.offset, heven, by simp [outside]⟩
      rw [brackets_append_of_even heven, hpairs]
      rfl
  | closeBracket hnone ha optional =>
      rw [ha] at hbracket
      obtain ⟨⟨n, hpairs⟩, _⟩ := hbracket
      have hclosing : brackets (closing optional) = [')'] := by cases optional <;> decide
      refine ⟨n + 1, ?_⟩
      rw [brackets_append_of_even (hknows.even_of_eq_none hnone), hpairs, hclosing, pairs_succ]

theorem Step.knows (hstep : Step a part done b) (hknows : a.Knows text) :
    b.Knows (text ++ part) where
  offset := by rw [hstep.offset_eq, hknows.offset, byteSize_append]
  quote := hstep.quoteAfter hknows
  bracket := hstep.bracketAfter hknows

theorem Steps.knows (hsteps : Steps a part done b) (hknows : a.Knows text) :
    b.Knows (text ++ part) := by
  induction hsteps generalizing text with
  | refl => rwa [List.append_nil]
  | step hstep _ _ ih =>
      rw [← List.append_assoc]
      exact ih (hstep.knows hknows)

theorem knows_start : (Position.start 0).Knows [] :=
  ⟨rfl, Even.zero, 0, rfl⟩

/-! ## Verdicts -/

/-- Where a run from the start of a search string stops, it is well formed or to blame. -/
theorem Position.Stops.verdict {rest : List Char}
    {outcome : Except SearchFault (List (List Segment))} (hstops : a.Stops rest outcome)
    (hknows : a.Knows text) :
    (∃ alternatives, outcome = .ok alternatives ∧ WellFormed (text ++ rest)) ∨
      ∃ fault, outcome = .error fault ∧ Blamed (text ++ rest) fault := by
  have hbracket := hknows.bracket
  cases hstops with
  | finished hquote hnone =>
      rw [hnone] at hbracket
      rw [List.append_nil]
      exact .inl ⟨_, rfl, hknows.even_of_eq_none hquote, hbracket⟩
  | unterminatedQuote hsome =>
      have hquote := hknows.quote
      rw [hsome] at hquote
      rw [List.append_nil]
      refine .inr ⟨_, rfl, .unterminatedQuote ?_ hquote.1 hquote.2⟩
      exact hbracket.alternating
  | unclosedBracket hquote hsome =>
      rw [List.append_nil]
      have hturn := hbracket.alternating
      rw [hsome] at hbracket
      obtain ⟨⟨n, hopen⟩, hlast⟩ := hbracket
      refine .inr ⟨_, rfl, .unclosedBracket hturn (hknows.even_of_eq_none hquote) ?_ hlast⟩
      rintro ⟨m, hpairs⟩
      have hlength := congrArg List.length (hpairs.symm.trans hopen)
      simp only [List.length_append, length_pairs, List.length_singleton] at hlength
      omega
  | nestedBracket hquote hsome =>
      have hturn := hbracket.alternating
      rw [hsome] at hbracket
      obtain ⟨⟨n, hopen⟩, _⟩ := hbracket
      refine .inr ⟨_, rfl, .nestedBracket ⟨text, _, rfl, hknows.offset,
        hknows.even_of_eq_none hquote, hturn, ?_⟩⟩
      rw [hopen]
      exact not_alternating_open n
  | unexpectedClosingBracket hquote hnone =>
      have hturn := hbracket.alternating
      rw [hnone] at hbracket
      obtain ⟨n, hpairs⟩ := hbracket
      refine .inr ⟨_, rfl, .unexpectedClosingBracket ⟨text, _, rfl, hknows.offset,
        hknows.even_of_eq_none hquote, hturn, ?_⟩⟩
      rw [hpairs]
      exact not_alternating_close n

/-- A search string is scanned and well formed, or refused with the fault that is to blame. -/
theorem scan_verdict (raw : List Char) :
    (∃ alternatives, scan raw = .ok alternatives ∧ WellFormed raw) ∨
      ∃ fault, scan raw = .error fault ∧ Blamed raw fault := by
  obtain ⟨part, rest, done, b, stopped, rfl, hsteps, hstops, houtcome⟩ :=
    scans_scanFrom (.start 0) raw
  rw [scan, houtcome]
  rcases hstops.verdict (hsteps.knows knows_start) with
    ⟨found, rfl, hformed⟩ | ⟨fault, rfl, hblamed⟩
  · exact .inl ⟨_, rfl, hformed⟩
  · exact .inr ⟨fault, rfl, hblamed⟩

theorem scan_eq_error_iff : scan raw = .error fault ↔ Blamed raw fault := by
  rcases scan_verdict raw with ⟨found, hscan, hformed⟩ | ⟨other, hscan, hblamed⟩
  · rw [hscan]
    exact iff_of_false nofun (fun hblamed => hblamed.not_wellFormed hformed)
  · rw [hscan, Except.error.injEq]
    exact ⟨fun h => h ▸ hblamed, fun hblamed' => hblamed.unique hblamed'⟩

theorem exists_scan_eq_ok_iff : (∃ found, scan raw = .ok found) ↔ WellFormed raw := by
  rcases scan_verdict raw with ⟨found, hscan, hformed⟩ | ⟨fault, hscan, hblamed⟩
  · exact iff_of_true ⟨found, hscan⟩ hformed
  · rw [hscan]
    exact iff_of_false nofun hblamed.not_wellFormed

/-- A search string is accepted exactly when it is well formed, refused with exactly the fault
that is to blame, and read as groups that hold terms, none of them empty, if it has any term. -/
theorem words_follow_grammar (raw : String) :
    ((∃ found, words raw = .ok found) ↔ WellFormed raw.toList) ∧
      (∀ fault, words raw = .error fault ↔ Blamed raw.toList fault) ∧
      ∀ found, words raw = .ok found →
        found = [[]] ∨
          found ≠ [] ∧ ∀ group ∈ found, group ≠ [] ∧ ∀ term ∈ group, term ≠ "" := by
  refine ⟨?_, ?_, fun found hwords => shape_of_words hwords⟩
  · rw [← exists_scan_eq_ok_iff]
    constructor
    · rintro ⟨found, hwords⟩
      exact scan_of_words (hwords ▸ rfl)
    · rintro ⟨alternatives, hscan⟩
      obtain ⟨found, hwords, _⟩ := words_of_scan hscan
      exact ⟨found, hwords⟩
  · intro fault
    rw [← scan_eq_error_iff, words_eq_error_iff]

/-- Marks in quotes mean nothing, offsets count the bytes of characters before them, and an open
quote is to blame before an open bracket. -/
theorem words_follow_grammar_mixed :
    words "é(b,\"(\")* c" = .ok [["éb", "c"], ["é(", "c"], ["é", "c"]] ∧
      WellFormed "é(b,\"(\")* c".toList ∧
      (∀ group ∈ [["éb", "c"], ["é(", "c"], ["é", "c"]], group ≠ []) ∧
      Blamed "é(\"(\"(".toList (.nestedBracket 6) ∧
      Blamed "(é\"(".toList (.unterminatedQuote 3) ∧
      Blamed "()é(\")\"".toList (.unclosedBracket 4) := by
  have hwords : words "é(b,\"(\")* c" = .ok [["éb", "c"], ["é(", "c"], ["é", "c"]] := by
    decide +kernel
  refine ⟨hwords, (words_follow_grammar _).1.mp ⟨_, hwords⟩, ?_, ?_, ?_, ?_⟩
  · rcases (words_follow_grammar _).2.2 _ hwords with hempty | ⟨_, hgroups⟩
    · cases hempty
    · exact fun group hmem => (hgroups group hmem).1
  · exact ((words_follow_grammar _).2.1 _).mp (by decide +kernel)
  · exact ((words_follow_grammar _).2.1 _).mp (by decide +kernel)
  · exact ((words_follow_grammar _).2.1 _).mp (by decide +kernel)

end DocStore.Search
