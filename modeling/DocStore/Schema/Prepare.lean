import DocStore.Error
import DocStore.Patch
import DocStore.Schema.Basic
import DocStore.Text.Case

/-!
# Preparing documents and patches

Before a document is stored, its missing fields get their defaults, its strings the
case they are stored in, and every declared field is checked. A patch is checked in
the same way before it is applied. Field after field is looked at in the order of
the schema, or of the patch, and the first fault counts.
-/

namespace DocStore

namespace FieldRule

/-- A value in the case in which the field stores it. -/
def inCase (spec : FieldRule) (value : Value) : Value :=
  match value with
  | .string text => if spec.lowercase then .string (Text.toLowerCase text) else .string text
  | other => other

/-- A value as the field stores it, if it is of the type of the field. -/
def normalize (spec : FieldRule) (field : String) (value : Value) : Outcome Value :=
  if spec.kind.accepts (spec.inCase value) then .ok (spec.inCase value)
  else .error (.validation (.mistyped field spec.kind (spec.inCase value)))

end FieldRule

namespace Schema

/-- The document with the default of a field, if the field is missing and has one. -/
def withDefault (now : Instant) (d : Document) (field : String) (spec : FieldRule) : Document :=
  match Document.present? d field, spec.default with
  | none, some default => d.insert field (default.resolve now)
  | _, _ => d

/-- Check a field of a document and bring it into its stored form. -/
def settle (d : Document) (field : String) (spec : FieldRule) : Outcome Document :=
  match Document.present? d field with
  | some value => (spec.normalize field value).map (d.insert field)
  | none => if spec.required then .error (.validation (.missing field)) else .ok d

/-- Prepare one field of a document. -/
def prepareField (now : Instant) (d : Document) (entry : String × FieldRule) :
    Outcome Document :=
  settle (withDefault now d entry.1 entry.2) entry.1 entry.2

/-- Prepare a document for the store. -/
def prepare (schema : Schema) (now : Instant) (d : Document) : Outcome Document :=
  schema.entries.foldlM (prepareField now) d

/-- The stored form of a value that overwrites a field. -/
def checkWritten (schema : Schema) (entry : String × Value) : Outcome Value :=
  match schema.get? entry.1 with
  | none => .ok entry.2
  | some spec =>
      if spec.required && entry.2.isNull then .error (.validation (.missing entry.1))
      else spec.normalize entry.1 entry.2

/-- Bring the fields that a patch overwrites into their stored form. -/
def checkSet (schema : Schema) (fields : Document) : Outcome Document :=
  fields.entries.foldlM
    (fun sofar entry => (schema.checkWritten entry).map fun value => sofar.insert entry.1 value)
    fields

/-- A field that is required cannot be taken out. -/
def checkUnset (schema : Schema) (field : String) : Outcome Unit :=
  if schema.requires field then .error (.validation (.requiredUnset field)) else .ok ()

/-- Values are appended to fields that hold arrays. -/
def checkPush (schema : Schema) (field : String) : Outcome Unit :=
  match schema.get? field with
  | none => .ok ()
  | some spec =>
      if spec.kind = .array ∨ spec.kind = .any then .ok ()
      else .error (.validation (.notPushable spec.kind field))

/-- Check a patch and bring it into the form in which it is applied. -/
def checkPatch (schema : Schema) (patch : Patch) : Outcome Patch := do
  let set ← schema.checkSet patch.set
  patch.unset.forM schema.checkUnset
  patch.push.names.forM schema.checkPush
  .ok { patch with set := set }

/-- Prepare the document that comes into being when nothing meets a filter. What the
patch takes out stays out. -/
def prepareSeed (schema : Schema) (now : Instant) (filter : Filter) (patch : Patch) :
    Outcome Document :=
  (schema.prepare now (patch.seed filter)).map fun prepared =>
    Patch.eraseAll prepared patch.unset

end Schema

end DocStore
