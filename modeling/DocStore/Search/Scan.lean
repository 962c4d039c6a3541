import DocStore.Search.Fault
import DocStore.Text.Utf8

/-!
# Scanning search strings

A search string is cut at its commas into alternatives, and each alternative into
segments: plain text, and bracketed groups of options. A comma inside brackets
separates options, a star after the closing bracket adds the empty option, and
other stars are dropped. Between quotes nothing has a meaning of its own: blanks,
commas and brackets are written as percent escapes there, so that they survive the
steps that follow.
-/

namespace DocStore.Search

/-- A part of an alternative. -/
inductive Segment where
  /-- A text that is always there. -/
  | text (content : List Char)
  /-- Options, of which one is taken. -/
  | options (choices : List (List Char))
deriving DecidableEq, Repr

namespace Segment

/-- What a segment can stand for. -/
def choices : Segment → List (List Char)
  | .text content => [content]
  | .options choices => choices

end Segment

/-- A character between quotes. -/
def quotedChar (c : Char) : List Char :=
  match c with
  | ' ' => ['%', '2', '0']
  | ',' => ['%', '2', 'C']
  | '(' => ['%', '2', '8']
  | ')' => ['%', '2', '9']
  | c => [c]

/-- Where the scanner stands: the segments of the alternative so far, the text since
the last of them, the opening bracket it is inside of with the options so far, and
the opening quote it is inside of. -/
structure Position where
  /-- The number of bytes before the next character. -/
  offset : Nat
  /-- The finished segments of this alternative. -/
  segments : List Segment
  /-- The text that belongs to no segment yet. -/
  pending : List Char
  /-- The place of the open bracket and the options before the pending text. -/
  bracket : Option (Nat × List (List Char))
  /-- The place of the open quote. -/
  quote : Option Nat

namespace Position

/-- The start of a search string, or of what follows so many bytes of one. -/
def start (offset : Nat) : Position :=
  ⟨offset, [], [], none, none⟩

/-- The segments so far, with the pending text. -/
def flushed (position : Position) : List Segment :=
  if position.pending.isEmpty then position.segments
  else position.segments ++ [.text position.pending]

/-- The position after so many more bytes. -/
def advance (position : Position) (bytes : Nat) : Position :=
  { position with offset := position.offset + bytes }

/-- The position with more pending text. -/
def append (position : Position) (text : List Char) : Position :=
  { position with pending := position.pending ++ text }

/-- Enter or leave quotes. -/
def toggleQuote (position : Position) : Position :=
  { position with
    quote := match position.quote with
      | some _ => none
      | none => some position.offset }

/-- Enter brackets. -/
def openBracket (position : Position) : Position :=
  { position with
    segments := position.flushed
    pending := []
    bracket := some (position.offset, []) }

/-- Leave brackets with these options before the pending one. -/
def closeBracket (position : Position) (options : List (List Char)) (optional : Bool) :
    Position :=
  { position with
    segments := position.segments ++
      [.options (options ++ [position.pending] ++ if optional then [[]] else [])]
    pending := []
    bracket := none }

/-- Begin the next option inside the brackets opened at some place. -/
def nextOption (position : Position) (place : Nat) (options : List (List Char)) : Position :=
  { position with
    pending := []
    bracket := some (place, options ++ [position.pending]) }

/-- The last alternative, once nothing is left to scan. -/
def finish (position : Position) : Except SearchFault (List (List Segment)) :=
  match position.quote, position.bracket with
  | some place, _ => .error (.unterminatedQuote place)
  | none, some (place, _) => .error (.unclosedBracket place)
  | none, none => .ok [position.flushed]

end Position

/-- Scan what is left of a search string into alternatives. -/
def scanFrom (position : Position) : List Char → Except SearchFault (List (List Segment))
  | [] => position.finish
  | c :: rest =>
      let next := Text.byteLength c
      if c = '"' then scanFrom (position.toggleQuote.advance next) rest
      else if position.quote.isSome then
        scanFrom ((position.append (quotedChar c)).advance next) rest
      else match position.bracket with
        | none =>
            match c with
            | '(' => scanFrom (position.openBracket.advance next) rest
            | ')' => .error (.unexpectedClosingBracket position.offset)
            | ',' =>
                match scanFrom (.start (position.offset + next)) rest with
                | .ok alternatives => .ok (position.flushed :: alternatives)
                | .error fault => .error fault
            | '*' => scanFrom (position.advance next) rest
            | c => scanFrom ((position.append [c]).advance next) rest
        | some (place, options) =>
            match c with
            | '(' => .error (.nestedBracket position.offset)
            | ')' =>
                match rest with
                | '*' :: rest =>
                    scanFrom ((position.closeBracket options true).advance (next + 1)) rest
                | rest => scanFrom ((position.closeBracket options false).advance next) rest
            | ',' => scanFrom ((position.nextOption place options).advance next) rest
            | '*' => scanFrom (position.advance next) rest
            | c => scanFrom ((position.append [c]).advance next) rest

/-- Scan a search string into alternatives. -/
def scan (raw : List Char) : Except SearchFault (List (List Segment)) :=
  scanFrom (.start 0) raw

end DocStore.Search
