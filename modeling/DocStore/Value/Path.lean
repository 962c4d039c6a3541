import DocStore.Text.Parts
import DocStore.Value.Basic

/-!
# Dotted paths

A path names a field, a field of the document in that field, and so on, with dots
between the names. A name with a dot in it cannot be reached by a path.
-/

namespace DocStore

/-- The names along a path. -/
def pathSegments (path : String) : List String :=
  (Text.split '.' path.toList).map String.ofList

namespace Value

/-- The value at the end of some names, starting from a value. -/
def follow (value : Value) : List String → Option Value
  | [] => some value
  | name :: rest => do
      let entries ← value.entries?
      let next ← Entries.get? entries name
      next.follow rest

end Value

namespace Document

/-- The value at a path. -/
def lookup? (d : Document) (path : String) : Option Value :=
  (toValue d).follow (pathSegments path)

end Document

end DocStore
