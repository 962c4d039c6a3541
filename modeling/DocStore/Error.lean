import DocStore.Filter.Operator
import DocStore.Json.Printer
import DocStore.Schema.Field
import DocStore.Search.Fault
import DocStore.Text.Quoted
import DocStore.Value.Display

/-!
# Errors

Why an operation failed. Each of the eight kinds of error that are reported names its
cause, and `Failure.message?` words it. Every kind whose causes are listed also has a
cause `stated` in words by whoever raises it. A ninth kind is not reported: the operation
panics, and whoever asked for it gets no answer.
-/

namespace DocStore

/-- Why a document or a patch does not fit its schema. -/
inductive Violation where
  /-- A required field is missing or null. -/
  | missing (field : String)
  /-- A value is not of the type of its field. -/
  | mistyped (field : String) (expected : ValueType) (found : Value)
  /-- A required field would be taken out. -/
  | requiredUnset (field : String)
  /-- A value would be appended to a field that holds no array. -/
  | notPushable (kind : ValueType) (field : String)
  | stated (text : String)

/-- Why the store refused an operation. -/
inductive StoreFault where
  /-- Another document holds the value of a unique field. -/
  | duplicateKey (entity field : String) (value : Value)
  | stated (text : String)

/-- Why a value could not be turned into another form. -/
inductive ConversionFault where
  /-- A record is not written as a document. -/
  | notADocument (entity : String) (found : Value)
  /-- A value or a text does not have the form that was asked for. -/
  | unfit
  | stated (text : String)

/-- Why the settings cannot be used. -/
inductive SettingsFault where
  /-- No engine has this name. -/
  | unknownEngine (name : String)
  /-- The file with the settings is not there. -/
  | missingFile (path : String)
  /-- The text of the settings is malformed. -/
  | malformed
  /-- The engine with this name is not part of the build. -/
  | unavailable (engine : String)
  | stated (text : String)

/-- Why a filter, a search string or an update cannot be understood. -/
inductive QueryFault where
  /-- No operator has this name. -/
  | unknownOperator (token : String)
  /-- The search string is malformed. -/
  | search (fault : SearchFault)
  /-- A filter is neither an object nor an array. -/
  | notAFilter (found : Json)
  /-- An alternative of a filter is no object. -/
  | notAConjunction (found : Json)
  /-- The conditions of a field are no pair and no list of pairs. -/
  | malformedConditions (field : String) (found : Json)
  /-- A condition is no pair of an operator and a value. -/
  | malformedCondition (field : String) (found : Json)
  /-- A field to take out is not given by its name. -/
  | notAFieldName (found : Value)
  /-- An update does something that no patch can do. -/
  | unsupportedUpdate (key : String) (value : Value)
  /-- A pattern is not a string. -/
  | patternNotString (op : Operator) (found : Value)
  | stated (text : String)

/-- Why an operation panics. -/
inductive Panic where
  /-- A number does not have sixty-four bits. -/
  | overflow
  /-- Documents are to be sorted by a comparison that is no order on them. -/
  | unordered

/-- Why an operation failed. -/
inductive Failure where
  /-- A document or a patch does not fit its schema. -/
  | validation (violation : Violation)
  /-- Nothing matched where something had to. -/
  | notFound (entity : String)
  /-- A unique field collides with a stored document. -/
  | conflict (entity field : String)
  /-- The store refused. -/
  | store (fault : StoreFault)
  /-- A value could not be converted. -/
  | serialization (fault : ConversionFault)
  /-- A connection or an entity could not be set up. -/
  | initialization (text : String)
  /-- The settings cannot be used. -/
  | configuration (fault : SettingsFault)
  /-- A filter, a search string or an update cannot be understood. -/
  | invalidQuery (fault : QueryFault)
  /-- The operation has stopped without an answer. -/
  | panic (cause : Panic)

/-- The text of a violation. -/
def Violation.message : Violation → String
  | missing field => "field " ++ Text.quoted field ++ " is required"
  | mistyped field expected found =>
      "field " ++ Text.quoted field ++ " expects a value of type " ++ expected.name ++
        ", got " ++ found.display
  | requiredUnset field => "required field " ++ Text.quoted field ++ " cannot be unset"
  | notPushable kind field =>
      "cannot push onto " ++ kind.name ++ " field " ++ Text.quoted field
  | stated text => text

/-- The text of a refusal. -/
def StoreFault.message : StoreFault → String
  | duplicateKey entity field value =>
      "duplicate key error in " ++ entity ++ ": unique field " ++ field ++
        " already holds " ++ value.display
  | stated text => text

/-- The text of a failed conversion, where it has one of its own. -/
def ConversionFault.message? : ConversionFault → Option String
  | notADocument entity found =>
      some ("record of entity " ++ entity ++ " must serialize to a document, got " ++
        found.display)
  | unfit => none
  | stated text => some text

/-- The text of a fault of the settings, where it has one of its own. -/
def SettingsFault.message? : SettingsFault → Option String
  | unknownEngine name => some ("unknown database engine " ++ Text.quoted name)
  | missingFile path =>
      some ("cannot read " ++ path ++ ": No such file or directory (os error 2)")
  | malformed => none
  | unavailable engine =>
      some ("engine " ++ engine ++ " requires the `" ++ engine ++ "` feature")
  | stated text => some text

/-- The text of a fault of a query. -/
def QueryFault.message : QueryFault → String
  | unknownOperator token => "unknown operator " ++ Text.quoted token
  | search fault => fault.message
  | notAFilter found => "filter must be an array or an object, got " ++ found.text
  | notAConjunction found => "filter-object must be a JSON object, got " ++ found.text
  | malformedConditions field found =>
      "invalid conditions for field " ++ Text.quoted field ++ ": " ++ found.text
  | malformedCondition field found =>
      "invalid condition for field " ++ Text.quoted field ++ ": " ++ found.text
  | notAFieldName found => "$unset expects field names, got " ++ found.display
  | unsupportedUpdate key value => "unsupported update entry " ++ key ++ ": " ++ value.display
  | patternNotString op found =>
      op.token ++ " operator requires a string value, got " ++ found.display
  | stated text => text

namespace Failure

/-- The name of the kind of an error. -/
def kind : Failure → String
  | validation _ => "Validation"
  | notFound _ => "NotFound"
  | conflict _ _ => "Conflict"
  | store _ => "Store"
  | serialization _ => "Serialization"
  | initialization _ => "Initialization"
  | configuration _ => "Configuration"
  | invalidQuery _ => "InvalidQuery"
  | panic _ => "Panic"

/-- The text of an error, where its cause has one. -/
def message? : Failure → Option String
  | validation violation => some ("Validation error: " ++ violation.message)
  | notFound entity => some ("Nothing matched in entity " ++ entity)
  | conflict entity field =>
      some ("Value of unique field " ++ field ++ " already exists in entity " ++ entity)
  | store fault => some ("Store error: " ++ fault.message)
  | serialization fault => fault.message?.map ("Serialization error: " ++ ·)
  | initialization text => some ("Initialization error: " ++ text)
  | configuration fault => fault.message?.map ("Configuration error: " ++ ·)
  | invalidQuery fault => some ("Invalid query: " ++ fault.message)
  | panic _ => none

end Failure

/-- A result that may be an error. -/
abbrev Outcome (α : Type) := Except Failure α

end DocStore
