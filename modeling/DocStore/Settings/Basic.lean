import DocStore.Error
import DocStore.Number.Fixed
import DocStore.Toml.Reader

/-!
# Settings

Which store is used and how it is reached. Settings come from defaults, from a TOML
document, and from variables, each taking precedence over those before.
-/

namespace DocStore

/-- The engine of a store. -/
inductive Engine where
  /-- A store that lives in the process. -/
  | memory
  /-- A server. -/
  | server
deriving DecidableEq, Repr, Inhabited

namespace Engine

/-- The name of an engine. -/
def name : Engine → String
  | memory => "memory"
  | server => "mongodb"

/-- All engines. -/
def all : List Engine := [memory, server]

/-- A name as it is compared with those of the engines. -/
def normalize (name : String) : String :=
  Text.toLowerAscii (Text.trim name)

/-- The engine with a name, whatever its case and the blanks around it. -/
def parse (name : String) : Outcome Engine :=
  match all.find? fun engine => engine.name = normalize name with
  | some engine => .ok engine
  | none => .error (.configuration (.unknownEngine (normalize name)))

/-- The engine with a name in a document, where the name of the server has a second
spelling. -/
def ofName? (name : String) : Option Engine :=
  if name = "mongoDB" then some server else all.find? fun engine => engine.name = name

/-- The engine that a document chooses, by its name or by a table in which its name
stands alone with nothing under it. -/
def ofToml? : Toml → Option Engine
  | .string name => ofName? name
  | .table _ [(name, content)] => if content.isEmpty then ofName? name else none
  | _ => none

end Engine

/-- The settings of a store. -/
structure Settings where
  engine : Engine
  /-- Where the store is found. -/
  uri : String
  /-- The name of the database that holds every entity. -/
  database : String
  /-- The name under which the application shows itself to the store. -/
  appName : Option String
  /-- The most seconds that connecting may take. -/
  connectTimeout : Option UInt64
deriving DecidableEq, Repr

namespace Settings

/-- The settings when nothing is said. -/
def default : Settings where
  engine := .memory
  uri := "mongodb://localhost:27017"
  database := "shelf"
  appName := none
  connectTimeout := none

instance : Inhabited Settings := ⟨default⟩

/-- The settings for a server. -/
def server (uri database : String) : Settings :=
  { default with engine := .server, uri := uri, database := database }

/-! ## Variables -/

/-- The variable that tells where the store is found. -/
def uriVariable : String := "MONGODB_URI"

/-- The variable that names the engine. -/
def engineVariable : String := "SHELF_DB_ENGINE"

/-- The variable that names the database. -/
def databaseVariable : String := "SHELF_DB_NAME"

/-- The settings with what variables say in their place. -/
def override (settings : Settings) (named : String → Option String) :
    Outcome Settings := do
  let engine ← match named engineVariable with
    | some name => Engine.parse name
    | none => .ok settings.engine
  .ok { settings with
    engine := engine
    uri := (named uriVariable).getD settings.uri
    database := (named databaseVariable).getD settings.database }

/-! ## Documents -/

/-- A text in a document. -/
def tomlString? : Toml → Option String
  | .string s => some s
  | _ => none

/-- A number of 64 bits in a document. -/
def tomlUInt64? : Toml → Option UInt64
  | .integer n => Fixed.uint64? n
  | _ => none

/-- A setting of a document, or its default. -/
def setting? {α : Type} (members : Toml.Members) (name : String) (default : α)
    (read : Toml → Option α) : Option α :=
  match Entries.get? members name with
  | none => some default
  | some value => read value

/-- The settings of a document. Settings that are not known are of no account. -/
def ofToml? (members : Toml.Members) : Option Settings := do
  let engine ← setting? members "engine" default.engine Engine.ofToml?
  let uri ← setting? members "uri" default.uri tomlString?
  let database ← setting? members "database" default.database tomlString?
  let appName ← setting? members "app_name" default.appName fun value =>
    (tomlString? value).map some
  let connectTimeout ← setting? members "connect_timeout_secs" default.connectTimeout
    fun value => (tomlUInt64? value).map some
  some ⟨engine, uri, database, appName, connectTimeout⟩

/-- Read settings from the text of a document. -/
def ofText (text : String) : Outcome Settings :=
  match (Toml.ofText? text).bind ofToml? with
  | some settings => .ok settings
  | none => .error (.configuration .malformed)

/-- Read settings from a file with some contents, or from one that is not there. -/
def ofFile (path : String) (contents : Option String) : Outcome Settings :=
  match contents with
  | some text => ofText text
  | none => .error (.configuration (.missingFile path))

end Settings

end DocStore
