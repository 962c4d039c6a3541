import DocStore.Filter.Basic
import DocStore.Search.Basic
import DocStore.Search.Reserved

/-!
# Searching documents

What a search string asks of documents. Every group of terms and every searched
field make one conjunction, which starts from conditions given beforehand and
asks the field to contain each term, or not to contain it if the term is negated.
-/

namespace DocStore

/-- A term of a search string. -/
structure SearchTerm where
  /-- The text to look for. -/
  text : String
  /-- Must the text be absent? -/
  negated : Bool
deriving DecidableEq, Repr

namespace SearchTerm

/-- Take the mark of negation off a word. -/
def parse (word : String) : SearchTerm :=
  let (negated, text) := Search.stripNegation word.toList
  ⟨String.ofList text, negated⟩

/-- The condition a term stands for. -/
def condition (term : SearchTerm) : Condition :=
  let plain := Condition.of .contains (.string term.text)
  if term.negated then plain.not else plain

/-- Is there something to look for? -/
def isSought (term : SearchTerm) : Bool :=
  !term.text.isEmpty && !Search.isReserved term.text

/-- The terms of a group that are looked for. -/
def ofGroup (group : List String) : List SearchTerm :=
  (group.map parse).filter isSought

end SearchTerm

namespace SearchQuery

/-- The conjunction that looks for terms in a field. -/
def fieldConjunction (extra : Conjunction) (terms : List SearchTerm) (field : String) :
    Conjunction :=
  Conjunction.pushAll extra (terms.map fun term => (field, term.condition))

/-- The filter that looks for a search string in some fields, on top of other
conditions. -/
def toFilter (query : SearchQuery) (fields : List String) (extra : Conjunction) : Filter :=
  ⟨query.words.flatMap fun group =>
    fields.map (fieldConjunction extra (SearchTerm.ofGroup group))⟩

end SearchQuery

end DocStore
