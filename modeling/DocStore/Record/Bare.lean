import DocStore.Record.Basic
import DocStore.Value.Conversion
import DocStore.Value.Json

/-!
# Bare records

JSON values of any form as records. Only those that become documents can be stored.
-/

namespace DocStore.Bare

/-- A point in time in JSON: in words for the years from 1970 to 9999, in milliseconds
for the others. -/
def dateJson (time : Instant) : Json :=
  if 0 ≤ time.toInt ∧ time.toInt < Calendar.stampLimit then
    Value.jsonMarked "$date" (.string (Calendar.stamp time.toInt))
  else (Value.dateTime time).toJson

mutual

/-- A value that was stored, in JSON. Plain bytes have no form that can be read. -/
def ofValue? : Value → Option Json
  | .decimal _ => none
  | .binary subtype bytes =>
      if subtype = 0 then none else some (Value.binary subtype bytes).toJson
  | .dateTime time => some (dateJson time)
  | .array items => (ofItems? items).map .array
  | .document entries => (ofEntries? entries).map .object
  | .codeWithScope source scope =>
      (ofEntries? scope).map fun members =>
        .object [("$code", .string source), ("$scope", .object members)]
  | other => some other.toJson

/-- The items of an array in JSON. -/
def ofItems? : List Value → Option (List Json)
  | [] => some []
  | item :: rest => do
      let first ← ofValue? item
      let others ← ofItems? rest
      some (first :: others)

/-- The entries of a document in JSON. -/
def ofEntries? : List (String × Value) → Option (List (String × Json))
  | [] => some []
  | (name, value) :: rest => do
      let first ← ofValue? value
      let others ← ofEntries? rest
      some ((name, first) :: others)

end

/-- The JSON value of a document. -/
def ofDocument (d : Document) : Outcome Json :=
  match ofEntries? d.entries with
  | some members => .ok (.object members)
  | none => .error (.serialization .unfit)

/-- JSON values as records. -/
def recordType : RecordType Json where
  entity := ⟨"bare", ∅⟩
  toValue := Value.ofJson
  ofDocument := ofDocument
  toJson := id
  ofJson := .ok

end DocStore.Bare
