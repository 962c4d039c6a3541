import DocStore.Search.Scan

/-!
# Expanding alternatives

An alternative with bracketed groups stands for one text per choice of options.
The texts come with the first group varying fastest.
-/

namespace DocStore.Search

/-- Extend every partial text by every choice of a segment, choice by choice. -/
def extend (partials : List (List Char)) (segment : Segment) : List (List Char) :=
  segment.choices.flatMap fun choice => partials.map fun sofar => sofar ++ choice

/-- Take in a segment. As long as there are no partial texts, its choices are the first
ones. -/
def grow (partials : List (List Char)) (segment : Segment) : List (List Char) :=
  if partials.isEmpty then segment.choices else extend partials segment

/-- The texts that an alternative stands for. One without segments stands for none. -/
def expand (segments : List Segment) : List (List Char) :=
  segments.foldl grow []

end DocStore.Search
