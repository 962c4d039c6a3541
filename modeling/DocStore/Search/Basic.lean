import DocStore.Search.Expansion
import DocStore.Search.Percent
import DocStore.Text.Parts

/-!
# Search strings

A search string is a list of groups of terms: every term of one of the groups is
looked for. A comma separates groups, a blank separates terms, brackets multiply
groups, and quotes keep all of these from meaning anything.
-/

namespace DocStore

namespace Search

/-- The terms of a text: its parts between blanks, percent escapes resolved. -/
def terms (text : List Char) : List (List Char) :=
  ((Text.split ' ' text).filter fun part => !part.isEmpty).map decodeTerm

/-- The groups of terms of scanned alternatives. A group without terms counts for
nothing. -/
def groupsOf (alternatives : List (List Segment)) : List (List (List Char)) :=
  ((alternatives.flatMap expand).map terms).filter fun group => !group.isEmpty

/-- The groups of terms of a search string. A string without any term has a single
empty group. -/
def groups (raw : List Char) : Except SearchFault (List (List (List Char))) :=
  (scan raw).map fun alternatives =>
    match groupsOf alternatives with
    | [] => [[]]
    | found => found

/-- The groups of terms of a search string. -/
def words (raw : String) : Except SearchFault (List (List String)) :=
  (groups raw.toList).map fun found => found.map fun group => group.map String.ofList

end Search

/-- A search string that has been understood. -/
structure SearchQuery where
  /-- The string itself. -/
  raw : String
  /-- Its groups of terms. -/
  words : List (List String)
deriving Repr

namespace SearchQuery

/-- Understand a search string. -/
def parse (raw : String) : Except SearchFault SearchQuery :=
  (Search.words raw).map fun words => ⟨raw, words⟩

end SearchQuery

end DocStore
