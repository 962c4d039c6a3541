import DocStore.Text.Case
import DocStore.Text.Parts

/-!
# Reserved verbs

A word that starts with a reserved verb introduces a structured clause and is no
text to look for. Verbs are recognised in any case, after an optional mark of
negation.
-/

namespace DocStore.Search

/-- The words that introduce a structured clause. -/
def reservedVerbs : List String :=
  ["FROM:", "SOURCE:", "TO:", "TYPE:", "LANG:", "LINK:"]

/-- The mark of a negated term. -/
def negationMark : Char := '-'

/-- A text without the mark of negation before it, and whether there was one. -/
def stripNegation (word : List Char) : Bool × List Char :=
  match word with
  | [] => (false, [])
  | c :: rest => if c = negationMark then (true, rest) else (false, c :: rest)

/-- Does a word start with a reserved verb? -/
def isReserved (word : String) : Bool :=
  let rest := (stripNegation (Text.upper word.toList)).2
  reservedVerbs.any fun verb => verb.toList.isPrefixOf rest

/-- A word in upper case, without the first occurrence of every reserved verb. The
verbs are taken out one after the other. -/
def cleanReserved (word : String) : String :=
  String.ofList (reservedVerbs.foldl
    (fun cleaned verb => Text.removeFirst verb.toList cleaned) (Text.upper word.toList))

end DocStore.Search
