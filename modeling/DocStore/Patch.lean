import DocStore.Filter.Basic

/-!
# Patches

A patch changes a document: it overwrites fields, takes fields out, and appends
values to arrays, in this order. A patch is written as a document under the names of
the three changes; a document without any such name overwrites fields.
-/

namespace DocStore

/-- Changes to a document. -/
structure Patch where
  /-- Fields that are overwritten. -/
  set : Document
  /-- Fields that are taken out. -/
  unset : List String
  /-- Values that are appended to arrays. -/
  push : Document
deriving Inhabited

namespace Filter

/-- The fields that have to equal a value in every document a filter accepts, as far
as its conditions say so: the plain equalities of a single alternative. -/
def equalities (filter : Filter) : List (String × Value) :=
  match filter.alternatives with
  | [conjunction] =>
      (Conjunction.conditions conjunction).filterMap fun pair =>
        if pair.2.op = .eq ∧ pair.2.negated = false then some (pair.1, pair.2.value) else none
  | _ => []

end Filter

namespace Document

/-- Append a value to the array in a field. A field that holds no array becomes an
array with this value alone. -/
def appendTo (d : Document) (field : String) (value : Value) : Document :=
  match d.get? field with
  | some (.array items) => d.insert field (.array (items ++ [value]))
  | _ => d.insert field (.array [value])

end Document

namespace Patch

/-- The patch that changes nothing. -/
def empty : Patch := ⟨∅, [], ∅⟩

/-- Does the patch change nothing? -/
def isEmpty (patch : Patch) : Bool :=
  patch.set.isEmpty && patch.unset.isEmpty && patch.push.isEmpty

/-- Take fields out of a document. -/
def eraseAll (d : Document) (fields : List String) : Document :=
  fields.foldl OrderedMap.erase d

/-- Append values to the arrays of a document. -/
def appendAll (d : Document) (entries : List (String × Value)) : Document :=
  entries.foldl (fun sofar entry => Document.appendTo sofar entry.1 entry.2) d

/-- The document after the changes. -/
def apply (patch : Patch) (d : Document) : Document :=
  appendAll (eraseAll (d.insertAll patch.set.entries) patch.unset) patch.push.entries

/-- The document that comes into being when nothing meets a filter: what the filter
says about it, with the patch on top. -/
def seed (patch : Patch) (filter : Filter) : Document :=
  patch.apply (OrderedMap.ofList filter.equalities)

/-- Fields taken out, as a document. -/
def unsetDocument (patch : Patch) : Document :=
  OrderedMap.ofList (patch.unset.map fun field => (field, .string ""))

/-- The changes as a document; a kind of change that does not occur is left out. -/
def toDocument (patch : Patch) : Document :=
  OrderedMap.ofList
    ((if patch.set.isEmpty then [] else [("$set", patch.set.toValue)]) ++
      (if patch.unset.isEmpty then [] else [("$unset", patch.unsetDocument.toValue)]) ++
        (if patch.push.isEmpty then [] else [("$push", patch.push.toValue)]))

/-- Is this the name of a change, rather than of a field? -/
def isChangeName (name : String) : Bool :=
  name.toList.head? == some '$'

/-- The name of a field to take out. -/
def fieldName (value : Value) : Outcome String :=
  match value with
  | .string field => .ok field
  | other => .error (.invalidQuery (.notAFieldName other))

/-- Add the changes under one name. -/
def addChange (patch : Patch) (entry : String × Value) : Outcome Patch :=
  match entry.1, entry.2 with
  | "$set", .document entries => .ok { patch with set := OrderedMap.ofList entries }
  | "$push", .document entries => .ok { patch with push := OrderedMap.ofList entries }
  | "$unset", .document entries =>
      .ok { patch with unset := (OrderedMap.ofList entries).names }
  | "$unset", .array items =>
      (items.mapM fieldName).map fun fields => { patch with unset := fields }
  | key, value => .error (.invalidQuery (.unsupportedUpdate key value))

/-- Read a patch. -/
def ofDocument (d : Document) : Outcome Patch :=
  if d.names.any isChangeName then d.entries.foldlM addChange empty
  else .ok { empty with set := d }

/-- What is left to write when the patch itself is applied to a document that comes
into being. -/
def remainder (patch : Patch) (prepared : Document) : Document :=
  prepared.filter fun field _ => !patch.set.contains field && !patch.push.contains field

end Patch

end DocStore
