import DocStore.Json.Record
import DocStore.Settings.Basic

/-!
# Settings in JSON

Engines and settings as JSON; every setting may be left out.
-/

namespace DocStore

namespace Engine

/-- Read the name of an engine. -/
def ofSource? (source : JsonSource) : Option Engine :=
  source.plainChoice?.bind ofName?

/-- An engine in JSON. -/
def toJson (engine : Engine) : Json :=
  .string engine.name

end Engine

namespace Settings

/-- The names under which settings are written. -/
def names : List String :=
  ["engine", "uri", "database", "app_name", "connect_timeout_secs"]

/-- Read settings. -/
def ofSource? (source : JsonSource) : Option Settings := do
  let record ← source.record? names
  let engine ← record.defaulted? "engine" default.engine Engine.ofSource?
  let uri ← record.defaulted? "uri" default.uri JsonSource.string?
  let database ← record.defaulted? "database" default.database JsonSource.string?
  let appName ← record.defaulted? "app_name" default.appName
    (JsonSource.nullable? JsonSource.string?)
  let connectTimeout ← record.defaulted? "connect_timeout_secs" default.connectTimeout
    (JsonSource.nullable? JsonSource.uint64?)
  some ⟨engine, uri, database, appName, connectTimeout⟩

/-- Settings in JSON. -/
def toJson (settings : Settings) : Json :=
  .object
    [("engine", settings.engine.toJson), ("uri", .string settings.uri),
      ("database", .string settings.database),
      ("app_name", .ofOption .string settings.appName),
      ("connect_timeout_secs", .ofOption (fun n => .ofNat n.toNat) settings.connectTimeout)]

end Settings

end DocStore
